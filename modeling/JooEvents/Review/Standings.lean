import JooEvents.Review.Domain
import Mathlib.Algebra.Order.Floor.Ring
import Mathlib.Algebra.Order.Round
import Mathlib.Data.List.ReduceOption
import Mathlib.Data.Rat.Floor
import Mathlib.Tactic.Linarith

/-!
# Standings

The standing of a submission places the average of its reviews among the averages of the other
submissions of its slice. The place is a band : the highest and the lowest one have bands that
do not depend on the percentile, and the tests are made in a fixed order.

Averages and percentiles are exact rationals here. The bands of a slice are in the order of the
averages all the same (`bandOf_mono`), and a standing that is put together from scores between 1
and 5 always passes the schema of standings (`standingSchema_standingFor`).
-/

namespace JooEvents.Review

open Fallible

variable {D : Type}

def rounded (value : ℚ) : ℚ := ⌊value * 10 + 1 / 2⌋ / 10

def OnScale (value : ℚ) : Prop := 1 ≤ value ∧ value ≤ 5

instance : DecidablePred OnScale := fun _ => inferInstanceAs (Decidable (_ ∧ _))

theorem OnScale.rounded {value : ℚ} (h : OnScale value) : OnScale (rounded value) := by
  obtain ⟨hlow, hhigh⟩ := h
  have hfloor : (10 : ℤ) ≤ ⌊value * 10 + 1 / 2⌋ := Int.le_floor.mpr (by push_cast; linarith)
  have hceil : ⌊value * 10 + 1 / 2⌋ < (51 : ℤ) := Int.floor_lt.mpr (by push_cast; linarith)
  have hfloor' : (10 : ℚ) ≤ ⌊value * 10 + 1 / 2⌋ := by exact_mod_cast hfloor
  have hceil' : (⌊value * 10 + 1 / 2⌋ : ℚ) ≤ 50 := by exact_mod_cast Int.lt_add_one_iff.mp hceil
  constructor
  · rw [Review.rounded, le_div_iff₀ (by norm_num)]
    linarith
  · rw [Review.rounded, div_le_iff₀ (by norm_num)]
    linarith

theorem sum_mem_of_onScale :
    ∀ {values : List ℚ}, (∀ value ∈ values, OnScale value) →
      (values.length : ℚ) ≤ values.sum ∧ values.sum ≤ 5 * values.length
  | [], _ => by simp
  | value :: values, h => by
    obtain ⟨hlow, hhigh⟩ := sum_mem_of_onScale fun v hv => h v (List.mem_cons_of_mem _ hv)
    obtain ⟨hlow', hhigh'⟩ := h value List.mem_cons_self
    rw [List.sum_cons, List.length_cons]
    push_cast
    constructor <;> linarith

theorem OnScale.mean {values : List ℚ} (hne : values ≠ [])
    (h : ∀ value ∈ values, OnScale value) : OnScale (values.sum / values.length) := by
  obtain ⟨hlow, hhigh⟩ := sum_mem_of_onScale h
  have hpos : (0 : ℚ) < values.length := by exact_mod_cast List.length_pos_of_ne_nil hne
  constructor
  · rw [le_div_iff₀ hpos]
    linarith
  · rw [div_le_iff₀ hpos]
    linarith

/-- The value in the middle of the sorted values, or the mean of the two in the middle. -/
def middle (values : List ℚ) : ℚ :=
  let sorted := values.insertionSort (· ≤ ·)
  let n := sorted.length
  if n % 2 = 1 then sorted.getD (n / 2) 0
  else (sorted.getD (n / 2 - 1) 0 + sorted.getD (n / 2) 0) / 2

theorem onScale_middle {values : List ℚ} (hne : values ≠ [])
    (h : ∀ value ∈ values, OnScale value) : OnScale (middle values) := by
  have hsorted : ∀ value ∈ values.insertionSort (· ≤ ·), OnScale value :=
    fun value hvalue => h value ((List.mem_insertionSort _).mp hvalue)
  have hpos : 0 < (values.insertionSort (· ≤ ·)).length := by
    rw [List.length_insertionSort]
    exact List.length_pos_of_ne_nil hne
  have hget : ∀ i, i < (values.insertionSort (· ≤ ·)).length →
      OnScale ((values.insertionSort (· ≤ ·)).getD i 0) := by
    intro i hi
    rw [List.getD_eq_getElem?_getD, List.getElem?_eq_getElem hi, Option.getD_some]
    exact hsorted _ (List.getElem_mem hi)
  unfold middle
  dsimp only
  split
  · exact hget _ (by omega)
  · obtain ⟨hlow, hhigh⟩ := hget ((values.insertionSort (· ≤ ·)).length / 2 - 1) (by omega)
    obtain ⟨hlow', hhigh'⟩ := hget ((values.insertionSort (· ≤ ·)).length / 2) (by omega)
    constructor <;> linarith

/-! ## Bands -/

/-- The bands of a standing. -/
inductive Band where
  | few | bottom | lower | mid | upper | top
  deriving DecidableEq

/-- The place of a band : there is no place among few submissions. -/
def Band.place : Band → ℕ
  | .few => 0
  | .bottom => 1
  | .lower => 2
  | .mid => 3
  | .upper => 4
  | .top => 5

/-- The percentile of an average, where the others that tie with it count half. -/
def percentile (values : List ℚ) (average : ℚ) : ℚ :=
  let n := values.length
  let lower := values.countP (· < average)
  let ties := values.countP (· = average)
  if n ≤ 1 then 1 / 2 else (lower + max 0 ((ties : ℚ) - 1) / 2) / ((n : ℚ) - 1)

def strictMaximum (values : List ℚ) (average : ℚ) : Prop :=
  (∀ value ∈ values, value ≤ average) ∧ ∃ value ∈ values, value < average

def strictMinimum (values : List ℚ) (average : ℚ) : Prop :=
  (∀ value ∈ values, average ≤ value) ∧ ∃ value ∈ values, average < value

instance (values : List ℚ) (average : ℚ) : Decidable (strictMaximum values average) :=
  inferInstanceAs (Decidable (_ ∧ _))

instance (values : List ℚ) (average : ℚ) : Decidable (strictMinimum values average) :=
  inferInstanceAs (Decidable (_ ∧ _))

def bandOf (values : List ℚ) (average : ℚ) : Band :=
  if values.length < 8 then .few
  else if strictMaximum values average ∨ 9 / 10 ≤ percentile values average then .top
  else if 3 / 4 ≤ percentile values average then .upper
  else if strictMinimum values average ∨ percentile values average ≤ 1 / 10 then .bottom
  else if percentile values average ≤ 1 / 4 then .lower
  else .mid

theorem countP_lt_add_countP_eq_le {a b : ℚ} (hab : a < b) (values : List ℚ) :
    values.countP (· < a) + values.countP (· = a) ≤ values.countP (· < b) := by
  induction values with
  | nil => simp
  | cons value values ih =>
    simp only [List.countP_cons, decide_eq_true_eq]
    rcases lt_trichotomy value a with h | h | h
    · rw [if_pos h, if_neg h.ne, if_pos (h.trans hab)]
      omega
    · rw [if_neg h.not_lt, if_pos h, if_pos (h ▸ hab)]
      omega
    · rw [if_neg h.not_gt, if_neg h.ne']
      omega

theorem percentile_lt {values : List ℚ} {a b : ℚ} (ha : a ∈ values) (hb : b ∈ values)
    (hab : a < b) : percentile values a < percentile values b := by
  have hcount := countP_lt_add_countP_eq_le hab values
  have hties : 0 < values.countP (· = a) := List.countP_pos_iff.mpr ⟨a, ha, by simp⟩
  have hlength : 1 < values.length := by
    by_contra hle
    obtain ⟨c, hc⟩ := List.length_eq_one_iff.mp
      (Nat.le_antisymm (not_lt.mp hle) (List.length_pos_of_mem ha))
    rw [hc, List.mem_singleton] at ha hb
    exact hab.ne (ha.trans hb.symm)
  have hlength' : (0 : ℚ) < (values.length : ℚ) - 1 := by
    have : (1 : ℚ) < values.length := by exact_mod_cast hlength
    linarith
  have hcount' : (values.countP (· < a) : ℚ) + values.countP (· = a) ≤ values.countP (· < b) := by
    exact_mod_cast hcount
  have hties' : (1 : ℚ) ≤ values.countP (· = a) := by exact_mod_cast hties
  have hmax : max 0 ((values.countP (· = a) : ℚ) - 1) = (values.countP (· = a) : ℚ) - 1 :=
    max_eq_right (by linarith)
  have hnonneg : 0 ≤ max 0 ((values.countP (· = b) : ℚ) - 1) := le_max_left _ _
  simp only [percentile]
  rw [if_neg (by omega), if_neg (by omega), div_lt_div_iff_of_pos_right hlength', hmax]
  linarith

theorem bandOf_eq_few_iff {values : List ℚ} {average : ℚ} :
    bandOf values average = .few ↔ values.length < 8 := by
  unfold bandOf
  split_ifs <;> simp [*]

theorem bandOf_mono {values : List ℚ} (hmany : 8 ≤ values.length) {a b : ℚ} (ha : a ∈ values)
    (hb : b ∈ values) (hab : a ≤ b) : (bandOf values a).place ≤ (bandOf values b).place := by
  rcases hab.eq_or_lt with rfl | hab
  · exact le_rfl
  have hlt := percentile_lt ha hb hab
  -- the greater one is not the lowest, and the lesser one is not the highest
  have hmax : ¬ strictMaximum values a := fun h => (h.1 b hb).not_gt hab
  have hmin : ¬ strictMinimum values b := fun h => (h.1 a ha).not_gt hab
  simp only [bandOf, if_neg (not_lt.mpr hmany), hmax, hmin, false_or]
  split_ifs <;> simp only [Band.place] <;> grind

def binOf (value : ℚ) : ℕ := (max 0 (min 23 ⌊(value - 1) / 4 * 24⌋)).toNat

def histogram (values : List ℚ) : List ℕ :=
  values.foldl (fun bins value => bins.modify (binOf value) (· + 1)) (List.replicate 24 0)

theorem binOf_lt (value : ℚ) : binOf value < 24 := by
  unfold binOf
  omega

theorem sum_modify_succ : ∀ {bins : List ℕ} {i : ℕ}, i < bins.length →
    (bins.modify i (· + 1)).sum = bins.sum + 1
  | [], _, h => absurd h (Nat.not_lt_zero _)
  | bin :: bins, 0, _ => by
    rw [List.modify_zero_cons, List.sum_cons, List.sum_cons]
    omega
  | bin :: bins, i + 1, h => by
    rw [List.modify_succ_cons, List.sum_cons, List.sum_cons,
      sum_modify_succ (Nat.lt_of_succ_lt_succ h), Nat.add_assoc]

theorem foldl_bins (values : List ℚ) : ∀ bins : List ℕ, bins.length = 24 →
    (values.foldl (fun bins value => bins.modify (binOf value) (· + 1)) bins).length = 24 ∧
      (values.foldl (fun bins value => bins.modify (binOf value) (· + 1)) bins).sum =
        bins.sum + values.length := by
  induction values with
  | nil => exact fun bins h => ⟨h, rfl⟩
  | cons value values ih =>
    intro bins h
    have hbin : binOf value < bins.length := h ▸ binOf_lt value
    obtain ⟨hlength, hsum⟩ := ih (bins.modify (binOf value) (· + 1)) (by
      rw [List.length_modify, h])
    refine ⟨hlength, ?_⟩
    rw [List.foldl_cons, hsum, sum_modify_succ hbin, List.length_cons]
    omega

theorem length_histogram (values : List ℚ) : (histogram values).length = 24 :=
  (foldl_bins values _ (List.length_replicate ..)).1

theorem sum_histogram (values : List ℚ) : (histogram values).sum = values.length := by
  rw [histogram, (foldl_bins values _ (List.length_replicate ..)).2]
  simp

/-! ## The standing of a submission -/

/-- A scored submission of a slice. -/
structure Scored where
  submissionId : ApplicationId
  average : ℚ
  reviews : ℕ

/-- The slices that a submission can be placed in. -/
inductive SliceKind where
  | track | all
  deriving DecidableEq

/-- What a standing says of its slice. -/
structure Slice where
  label : Option String
  trackId : Option ApplicationId

/-- A standing. -/
structure Standing where
  submissionId : ApplicationId
  value : ℚ
  scaleMax : ℕ
  reviews : ℕ
  n : ℕ
  median : ℚ
  band : Band
  phrase : String
  slice : Slice
  points : Option (List ℚ)
  bins : Option (List ℕ)

/-- `z.string().trim().min(1).max(160)`. -/
def shortText (text : String) : Bool :=
  decide (1 ≤ textLength (trimText text) ∧ textLength (trimText text) ≤ 160)

/-- `reviewStandingSchema`. -/
def standingSchema (standing : Standing) : Bool :=
  decide (OnScale standing.value) && decide (standing.scaleMax = 5) &&
    decide (0 < standing.reviews) && decide (0 < standing.n) &&
    decide (OnScale standing.median) && shortText standing.phrase &&
    standing.slice.label.all shortText &&
    standing.points.all (fun points => decide (points.length ≤ 119) &&
      points.all (fun point => decide (OnScale point))) &&
    standing.bins.all (fun bins => decide (bins.length = 24)) &&
    decide (standing.points.isNone ≠ standing.bins.isNone) &&
    standing.points.all (fun points => decide (points.length = standing.n - 1)) &&
    standing.bins.all (fun bins => decide (bins.sum = standing.n)) &&
    decide (standing.n < 8 → standing.band = .few)

/-- What `reviewStandingSchema` makes of a standing. -/
def trimmedStanding (standing : Standing) : Standing :=
  { standing with
    phrase := trimText standing.phrase
    slice := { standing.slice with label := standing.slice.label.map trimText } }

def phraseOf (values : List ℚ) (average : ℚ) : String :=
  let n := values.length
  if n < 8 then "Only " ++ toString n ++ " scored so far — too few to rank"
  else if strictMaximum values average then "Highest of " ++ toString n ++ " scored"
  else if strictMinimum values average then "Lowest of " ++ toString n ++ " scored"
  else "Higher than " ++ toString ⌊percentile values average * 100 + 1 / 2⌋.toNat ++ "% of " ++
    toString n ++ " scored"

/-- `standingFor`, before it is parsed. -/
def standingFor (focus : Scored) (population : List Scored) (slice : SliceKind)
    (trackId : Option ApplicationId) : Standing :=
  let values := population.map Scored.average
  let n := values.length
  let others :=
    (population.filter fun entry => entry.submissionId ≠ focus.submissionId).map Scored.average
  { submissionId := focus.submissionId
    value := focus.average
    scaleMax := 5
    reviews := focus.reviews
    n
    median := rounded (middle values)
    band := bandOf values focus.average
    phrase := phraseOf values focus.average
    slice := { label := if slice = .all then some "All scored submissions" else none, trackId }
    points := if n ≤ 120 then some others else none
    bins := if n ≤ 120 then none else some (histogram values) }

/-- The scored submissions of a slice : each of them once, with an average on the scale, and no
more of them than an array of the language can hold. -/
structure IsPopulation (population : List Scored) : Prop where
  nodup : (population.map Scored.submissionId).Nodup
  onScale : ∀ entry ∈ population, OnScale entry.average
  reviewed : ∀ entry ∈ population, 0 < entry.reviews
  bounded : population.length < 2 ^ 32

/-! ## Phrases -/

theorem length_utf16Units (c : Char) :
    1 ≤ (Json.utf16Units c).length ∧ (Json.utf16Units c).length ≤ 2 := by
  unfold Json.utf16Units
  split <;> simp

theorem textLength_mem (s : String) :
    s.toList.length ≤ textLength s ∧ textLength s ≤ 2 * s.toList.length := by
  unfold textLength codeUnits
  induction s.toList with
  | nil => exact ⟨Nat.zero_le _, le_rfl⟩
  | cons c s ih =>
    have hc := length_utf16Units c
    rw [List.flatMap_cons, List.length_append, List.length_cons]
    omega

theorem dropWhile_eq_self {α : Type} {p : α → Bool} {c : α} {s : List α} (hc : p c = false) :
    (c :: s).dropWhile p = c :: s :=
  List.dropWhile_cons_of_neg (by simp [hc])

/-- A text of few characters that begins and ends with one that is not white space. -/
def Framed (text : String) : Prop :=
  ∃ first inner last, text.toList = first :: (inner ++ [last]) ∧ isWhiteSpace first = false ∧
    isWhiteSpace last = false ∧ inner.length ≤ 78

theorem Framed.trim {text : String} (h : Framed text) : trimText text = text := by
  obtain ⟨first, inner, last, htext, hfirst, hlast, -⟩ := h
  have hreverse : (first :: (inner ++ [last])).reverse = last :: (inner.reverse ++ [first]) := by
    simp
  rw [trimText, trimChars, htext, dropWhile_eq_self hfirst, hreverse, dropWhile_eq_self hlast,
    ← hreverse, List.reverse_reverse, ← htext, String.ofList_toList]

theorem Framed.short {text : String} (h : Framed text) : shortText text = true := by
  have htrim := h.trim
  obtain ⟨first, inner, last, htext, -, -, hlength⟩ := h
  have hcount := textLength_mem text
  have htotal : text.toList.length = inner.length + 2 := by
    rw [htext, List.length_cons, List.length_append, List.length_singleton]
  rw [shortText, htrim, decide_eq_true_eq]
  omega

theorem length_toList_toString {n : ℕ} (hn : n < 10 ^ 10) : (toString n).toList.length ≤ 10 := by
  rw [Nat.toString_eq_ofList_toDigits, String.toList_ofList]
  exact (Nat.length_toDigits_le_iff (by decide) (by decide)).mpr hn

theorem percentile_le_one {values : List ℚ} {average : ℚ} (h : average ∈ values) :
    percentile values average ≤ 1 := by
  have hcount : values.countP (· < average) + values.countP (· = average) ≤ values.length := by
    clear h
    induction values with
    | nil => simp
    | cons value values ih =>
      simp only [List.countP_cons, decide_eq_true_eq, List.length_cons]
      split_ifs with hlt heq
      · exact absurd heq hlt.ne
      all_goals omega
  have hties : 0 < values.countP (· = average) := List.countP_pos_iff.mpr ⟨average, h, by simp⟩
  have hties' : (1 : ℚ) ≤ values.countP (· = average) := by exact_mod_cast hties
  have hcount' : (values.countP (· < average) : ℚ) + values.countP (· = average) ≤
      values.length := by exact_mod_cast hcount
  simp only [percentile]
  split_ifs with hn
  · norm_num
  · have hn' : (1 : ℚ) < values.length := by exact_mod_cast not_le.mp hn
    rw [div_le_one (by linarith), max_eq_right (by linarith)]
    linarith

theorem framed_phraseOf {values : List ℚ} {average : ℚ} (h : average ∈ values)
    (hn : values.length < 2 ^ 32) : Framed (phraseOf values average) := by
  have hdigits : (toString values.length).toList.length ≤ 10 := length_toList_toString (by omega)
  have hpercent : (toString ⌊percentile values average * 100 + 1 / 2⌋.toNat).toList.length ≤ 10 := by
    refine length_toList_toString ?_
    have hle := percentile_le_one h
    have hfloor : ⌊percentile values average * 100 + 1 / 2⌋ < 101 :=
      Int.floor_lt.mpr (by push_cast; linarith)
    omega
  unfold phraseOf
  simp only [Nat.toString_eq_repr, String.length_toList] at hdigits hpercent ⊢
  split_ifs
  · refine ⟨'O', "nly ".toList ++ (values.length.repr.toList ++
      " scored so far — too few to ran".toList), 'k', by simp, by decide, by decide, ?_⟩
    simp only [List.length_append, String.length_toList]
    have hparts : "nly ".length = 4 ∧ " scored so far — too few to ran".length = 31 := by decide
    omega
  · refine ⟨'H', "ighest of ".toList ++ (values.length.repr.toList ++ " score".toList), 'd',
      by simp, by decide, by decide, ?_⟩
    simp only [List.length_append, String.length_toList]
    have hparts : "ighest of ".length = 10 ∧ " score".length = 6 := by decide
    omega
  · refine ⟨'L', "owest of ".toList ++ (values.length.repr.toList ++ " score".toList), 'd',
      by simp, by decide, by decide, ?_⟩
    simp only [List.length_append, String.length_toList]
    have hparts : "owest of ".length = 9 ∧ " score".length = 6 := by decide
    omega
  · refine ⟨'H', "igher than ".toList ++
      (⌊percentile values average * 100 + 1 / 2⌋.toNat.repr.toList ++ ("% of ".toList ++
        (values.length.repr.toList ++ " score".toList))), 'd', by simp, by decide, by decide, ?_⟩
    simp only [List.length_append, String.length_toList]
    have hparts : "igher than ".length = 11 ∧ "% of ".length = 5 ∧ " score".length = 6 := by decide
    omega

theorem length_others {population : List Scored} (h : IsPopulation population) {focus : Scored}
    (hfocus : focus ∈ population) :
    (population.filter fun entry => entry.submissionId ≠ focus.submissionId).length =
      population.length - 1 := by
  have hmap : (population.filter fun entry => entry.submissionId ≠ focus.submissionId).map
      Scored.submissionId =
      (population.map Scored.submissionId).erase focus.submissionId := by
    rw [h.nodup.erase_eq_filter, List.filter_map]
    congr 1
    refine List.filter_congr fun entry _ => ?_
    by_cases hid : entry.submissionId = focus.submissionId <;> simp [hid]
  rw [← List.length_map Scored.submissionId, hmap,
    List.length_erase_of_mem (List.mem_map_of_mem hfocus), List.length_map]

theorem framed_label : Framed "All scored submissions" :=
  ⟨'A', "ll scored submission".toList, 's', by decide, by decide, by decide, by decide⟩

section

variable {population : List Scored} {focus : Scored}

theorem framed_phrase (h : IsPopulation population) (hfocus : focus ∈ population) :
    Framed (phraseOf (population.map Scored.average) focus.average) := by
  refine framed_phraseOf (List.mem_map_of_mem hfocus) ?_
  rw [List.length_map]
  exact h.bounded

theorem standingSchema_standingFor (h : IsPopulation population) (hfocus : focus ∈ population)
    (slice : SliceKind) (trackId : Option ApplicationId) :
    standingSchema (standingFor focus population slice trackId) = true := by
  have hvalues : ∀ value ∈ population.map Scored.average, OnScale value := by
    rintro value hmem
    obtain ⟨entry, hentry, rfl⟩ := List.mem_map.mp hmem
    exact h.onScale entry hentry
  have hmedian :=
    (onScale_middle (List.ne_nil_of_mem (List.mem_map_of_mem hfocus)) hvalues).rounded
  have hothers := length_others h hfocus
  have hpos : 0 < population.length := List.length_pos_of_mem hfocus
  have hslice : ((if slice = .all then some "All scored submissions" else none).all
      shortText) = true := by
    split_ifs
    · exact framed_label.short
    · rfl
  have hfew : population.length < 8 →
      bandOf (population.map Scored.average) focus.average = .few := by
    intro hn
    rw [bandOf, List.length_map, if_pos hn]
  unfold standingSchema standingFor
  simp only [Bool.and_eq_true, decide_eq_true_eq, List.length_map, and_assoc]
  refine ⟨h.onScale focus hfocus, trivial, h.reviewed focus hfocus, hpos, hmedian,
    (framed_phrase h hfocus).short, hslice, ?_⟩
  by_cases hn : population.length ≤ 120
  · simp only [if_pos hn, Option.all_some, Option.all_none, Bool.and_eq_true, decide_eq_true_eq,
      List.length_map, hothers, List.all_eq_true]
    refine ⟨⟨by omega, fun point hpoint => ?_⟩, trivial, by simp, trivial, trivial, hfew⟩
    obtain ⟨entry, hentry, rfl⟩ := List.mem_map.mp hpoint
    exact h.onScale entry (List.mem_filter.mp hentry).1
  · simp only [if_neg hn, Option.all_some, Option.all_none, decide_eq_true_eq, length_histogram,
      sum_histogram, List.length_map]
    exact ⟨trivial, trivial, by simp, trivial, trivial, hfew⟩

theorem trimmedStanding_standingFor (h : IsPopulation population) (hfocus : focus ∈ population)
    (slice : SliceKind) (trackId : Option ApplicationId) :
    trimmedStanding (standingFor focus population slice trackId) =
      standingFor focus population slice trackId := by
  have hphrase := (framed_phrase h hfocus).trim
  have hlabel := framed_label.trim
  unfold trimmedStanding standingFor
  dsimp only
  rw [hphrase]
  cases slice
  · rfl
  · simp only [if_true, Option.map_some, hlabel]

end

theorem eraseDups_sublist {α : Type} [BEq α] [LawfulBEq α] :
    ∀ as : List α, as.eraseDups.Sublist as ∧ as.eraseDups.Nodup
  | [] => ⟨List.Sublist.refl _, List.nodup_nil⟩
  | a :: as => by
    have hlength : (as.filter fun b => !b == a).length < (a :: as).length :=
      Nat.lt_succ_of_le (List.length_filter_le _ _)
    obtain ⟨hsublist, hnodup⟩ := eraseDups_sublist (as.filter fun b => !b == a)
    rw [List.eraseDups_cons]
    refine ⟨(hsublist.trans List.filter_sublist).cons_cons a, List.nodup_cons.mpr ⟨?_, hnodup⟩⟩
    intro hmem
    have := (List.mem_filter.mp (hsublist.subset hmem)).2
    simp at this
  termination_by as => as.length
  decreasing_by exact hlength

/-! ## The projection -/

/-- Who reads a projection. -/
inductive Viewer where
  | organizer
  | reviewer (reviewerId : String)

/-- What the projection of standings reads. An array of the language has less than 2 ^ 32
elements. -/
structure StandingEnvironment (D : Type) where
  repository : Repository D
  sources : PlanningSource
  bounded : ∀ scope roundId, (repository.listAssignments scope roundId).length < 2 ^ 32

/-- How the projection of standings fails. -/
inductive StandingError where
  | scope_missing | current_revision_missing | invalid_standing

def peerContentUnlocked (round : Round D) (ownCommitted : Bool) : Bool :=
  decide (round.visibility.peerContentUnlock = .open) || ownCommitted

def mayReadStanding (viewer : Viewer) (round : Round D) (submissionId : String)
    (assignments : List Assignment) (repository : Repository D) (scope : Scope) : Bool :=
  match viewer with
  | .organizer => true
  | .reviewer reviewerId =>
    match assignments.find? fun assignment => assignment.submissionId.val = submissionId ∧
      assignment.reviewerId.val = reviewerId ∧ assignment.state = .assigned with
    | none => false
    | some own => peerContentUnlocked round (repository.readReviewHead scope own.id).isSome

/-- The score of an assignment, where it has been reviewed. -/
def currentScore (scope : Scope) (repository : Repository D) (assignment : Assignment) :
    Except StandingError (Option (ApplicationId × ℚ)) :=
  match repository.readReviewHead scope assignment.id with
  | none => return none
  | some head => do
    let revision ← orRefuse (repository.readRevision scope head.currentRevisionId)
      .current_revision_missing
    require (revision.assignmentId = assignment.id) .current_revision_missing
    return some (assignment.id, revision.weightedScore)

def currentScoresForSubmission (scope : Scope) (round : Round D) (submissionId : ApplicationId)
    (repository : Repository D) (excludingAssignmentId : Option ApplicationId) :
    Except StandingError (List (ApplicationId × ℚ)) := do
  let own := (repository.listAssignments scope round.id).filter fun assignment =>
    assignment.submissionId = submissionId ∧ some assignment.id ≠ excludingAssignmentId
  let scores ← own.mapM (currentScore scope repository)
  return scores.reduceOption.insertionSort fun a b => a.1 ≤ b.1

/-- A submission with the average of its scores, where it has any. -/
def scoredSubmission (scope : Scope) (round : Round D) (repository : Repository D)
    (submissionId : ApplicationId) : Except StandingError (Option Scored) := do
  let scores ← currentScoresForSubmission scope round submissionId repository none
  return if scores = [] then none
    else some { submissionId, average := rounded ((scores.map Prod.snd).sum / scores.length)
                reviews := scores.length }

/-- The order of a population : by the average, then by the identity. -/
def scoredLe (left right : Scored) : Prop :=
  left.average < right.average ∨
    left.average = right.average ∧ left.submissionId ≤ right.submissionId

instance (left right : Scored) : Decidable (scoredLe left right) :=
  inferInstanceAs (Decidable (_ ∨ _))

/-- The scored submissions of assignments that are in a slice. -/
def populationOf (scope : Scope) (round : Round D) (repository : Repository D)
    (assignments : List Assignment) (inSlice : ApplicationId → Bool) :
    Except StandingError (List Scored) := do
  let populationIds := (assignments.map Assignment.submissionId).eraseDups.filter inSlice
  let population ← populationIds.mapM (scoredSubmission scope round repository)
  return population.reduceOption.insertionSort scoredLe

/-- `reviewStandingSchema.parse`. -/
def parseStanding (standing : Standing) : Except StandingError Standing := do
  require (standingSchema standing = true) .invalid_standing
  return trimmedStanding standing

def candidateById (scope : Scope) (sources : PlanningSource) (assignments : List Assignment) :
    KeyedMap fun candidate : Candidate => candidate.submissionId.val :=
  KeyedMap.ofList <| assignments.filterMap fun assignment =>
    sources.readCandidate scope assignment.submissionId

/-- Whether a submission is in the slice of a candidate. -/
def inSlice (candidates : KeyedMap fun candidate : Candidate => candidate.submissionId.val)
    (slice : SliceKind) (focus : Candidate) (candidateId : ApplicationId) : Bool :=
  decide (slice = .all ∨ (candidates.get candidateId.val).bind Candidate.trackId = focus.trackId)

/-- The standing of a submission among the scored submissions of its slice. -/
def standingAmong (submissionId : String) (slice : SliceKind) (focusCandidate : Candidate)
    (population : List Scored) : Except StandingError (Option Standing) :=
  match population.find? fun entry => entry.submissionId.val = submissionId with
  | none => return none
  | some focus => some <$> parseStanding (standingFor focus population slice
      (if slice = .track then focusCandidate.trackId else none))

/-- The standing of a submission, where the viewer may read it and there is one. -/
def standingOf (scope : Scope) (viewer : Viewer) (slice : SliceKind) (round : Round D)
    (assignments : List Assignment) (environment : StandingEnvironment D)
    (submissionId : String) : Except StandingError (Option Standing) :=
  if mayReadStanding viewer round submissionId assignments environment.repository scope then
    let candidates := candidateById scope environment.sources assignments
    match candidates.get submissionId with
    | none => return none
    | some focusCandidate => do
      let population ← populationOf scope round environment.repository assignments
        (inSlice candidates slice focusCandidate)
      standingAmong submissionId slice focusCandidate population
  else return none

/-- `projectReviewStandings`, as the list of the standings of the record. -/
def projectReviewStandings (scope : Scope) (viewer : Viewer) (submissionIds : List String)
    (slice : SliceKind) (environment : StandingEnvironment D) :
    Except StandingError (List Standing) := do
  let catalog ← orRefuse (environment.repository.readCatalog scope) .scope_missing
  match catalog.rounds.reverse.find? fun round => round.state.Standing with
  | none => return []
  | some round =>
    let assignments := environment.repository.listAssignments scope round.id
    let requested := submissionIds.eraseDups.insertionSort fun a b => codeUnits a ≤ codeUnits b
    let standings ← requested.mapM (standingOf scope viewer slice round assignments environment)
    return standings.reduceOption

def ScoresOnScale (repository : Repository D) : Prop :=
  ∀ scope id revision, repository.readRevision scope id = some revision →
    OnScale revision.weightedScore

theorem onScale_of_currentScore {scope : Scope} {repository : Repository D}
    (hscores : ScoresOnScale repository) {assignment : Assignment} {score : ApplicationId × ℚ}
    (h : currentScore scope repository assignment = .ok (some score)) : OnScale score.2 := by
  unfold currentScore at h
  split at h
  · cases h
  · simp only [bind_eq_ok, orRefuse_eq_ok, require_eq_ok, pure_eq_ok, Option.some_inj] at h
    obtain ⟨revision, hrevision, -, -, rfl⟩ := h
    exact hscores _ _ _ hrevision

theorem scored_of_scoredSubmission {scope : Scope} {round : Round D} {repository : Repository D}
    (hscores : ScoresOnScale repository) {submissionId : ApplicationId} {entry : Scored}
    (h : scoredSubmission scope round repository submissionId = .ok (some entry)) :
    entry.submissionId = submissionId ∧ OnScale entry.average ∧ 0 < entry.reviews := by
  simp only [scoredSubmission, currentScoresForSubmission, bind_eq_ok, pure_eq_ok] at h
  obtain ⟨sorted, ⟨scores, hall, rfl⟩, h⟩ := h
  split_ifs at h with hne
  obtain rfl := Option.some.inj h
  have hscore : ∀ score ∈ (scores.reduceOption.insertionSort fun a b => a.1 ≤ b.1).map Prod.snd,
      OnScale score := by
    intro score hscore
    obtain ⟨pair, hpair, rfl⟩ := List.mem_map.mp hscore
    rw [List.mem_insertionSort, List.reduceOption_mem_iff] at hpair
    obtain ⟨assignment, -, hcurrent⟩ :=
      Keyed.exists_left_of_forall₂ (forall₂_of_mapM_eq_ok hall) hpair
    exact onScale_of_currentScore hscores hcurrent
  refine ⟨rfl, OnScale.rounded ?_, List.length_pos_of_ne_nil hne⟩
  rw [← List.length_map Prod.snd]
  exact OnScale.mean (by simpa using hne) hscore

theorem sublist_map_reduceOption {α β : Type} {key : β → α} {as : List α} {found : List (Option β)}
    (h : List.Forall₂ (fun a o => ∀ b, o = some b → key b = a) as found) :
    (found.reduceOption.map key).Sublist as := by
  induction h with
  | nil => exact List.Sublist.refl _
  | @cons a o as found hao _ ih =>
    cases o with
    | none =>
      rw [List.reduceOption_cons_of_none]
      exact ih.cons a
    | some b =>
      rw [List.reduceOption_cons_of_some, List.map_cons, hao b rfl]
      exact ih.cons_cons a

theorem isPopulation_of_populationOf {scope : Scope} {round : Round D}
    {repository : Repository D} (hscores : ScoresOnScale repository)
    {assignments : List Assignment} (hbounded : assignments.length < 2 ^ 32)
    {slice : ApplicationId → Bool} {population : List Scored}
    (h : populationOf scope round repository assignments slice = .ok population) :
    IsPopulation population := by
  simp only [populationOf, bind_eq_ok, pure_eq_ok] at h
  obtain ⟨found, hfound, rfl⟩ := h
  have hall := forall₂_of_mapM_eq_ok hfound
  obtain ⟨hpart, hdistinct⟩ := eraseDups_sublist (assignments.map Assignment.submissionId)
  have hsublist : (found.reduceOption.map Scored.submissionId).Sublist
      ((assignments.map Assignment.submissionId).eraseDups.filter slice) :=
    sublist_map_reduceOption <| hall.imp fun _ _ hone entry hentry =>
      (scored_of_scoredSubmission hscores (hentry ▸ hone)).1
  have hscored : ∀ entry ∈ found.reduceOption.insertionSort scoredLe,
      OnScale entry.average ∧ 0 < entry.reviews := by
    intro entry hentry
    rw [List.mem_insertionSort, List.reduceOption_mem_iff] at hentry
    obtain ⟨_, -, hone⟩ := Keyed.exists_left_of_forall₂ hall hentry
    exact (scored_of_scoredSubmission hscores hone).2
  have hperm := List.perm_insertionSort scoredLe found.reduceOption
  refine ⟨?_, fun entry hentry => (hscored entry hentry).1,
    fun entry hentry => (hscored entry hentry).2, ?_⟩
  · exact (hperm.map _).nodup_iff.mpr (hsublist.nodup (hdistinct.filter _))
  · have hlength := (hsublist.trans (List.filter_sublist.trans hpart)).length_le
    rw [List.length_map, List.length_map] at hlength
    rw [hperm.length_eq]
    omega

/-! ## Standings of a round -/

section

variable {scope : Scope} {viewer : Viewer} {slice : SliceKind} {round : Round D}
  {assignments : List Assignment} {environment : StandingEnvironment D} {submissionId : String}

theorem exists_of_standingOf {standing : Standing}
    (h : standingOf scope viewer slice round assignments environment submissionId =
      .ok (some standing)) :
    ∃ candidate population focus,
      populationOf scope round environment.repository assignments
        (inSlice (candidateById scope environment.sources assignments) slice candidate) =
          .ok population ∧ focus ∈ population ∧
      standing = trimmedStanding (standingFor focus population slice
        (if slice = .track then candidate.trackId else none)) := by
  unfold standingOf at h
  split_ifs at h
  case neg => cases h
  dsimp only at h
  split at h
  · cases h
  · rename_i candidate _
    rw [bind_eq_ok] at h
    obtain ⟨population, hpopulation, h⟩ := h
    unfold standingAmong at h
    split at h
    · cases h
    · rename_i focus hfocus
      simp only [parseStanding, map_eq_ok, bind_eq_ok, require_eq_ok, pure_eq_ok,
        Option.some_inj] at h
      obtain ⟨_, ⟨-, -, rfl⟩, rfl⟩ := h
      exact ⟨candidate, population, focus, hpopulation, List.mem_of_find?_eq_some hfocus, rfl⟩

theorem error_of_currentScore {repository : Repository D} {assignment : Assignment}
    {error : StandingError} (h : currentScore scope repository assignment = .error error) :
    error = .current_revision_missing := by
  unfold currentScore at h
  split at h
  · cases h
  · rcases bind_eq_error.mp h with h | ⟨revision, -, h⟩
    · exact (orRefuse_eq_error.mp h).2.symm
    · rcases bind_eq_error.mp h with h | ⟨_, -, h⟩
      · exact (require_eq_error.mp h).2.symm
      · exact absurd h pure_ne_error

theorem error_of_populationOf {repository : Repository D} {slice : ApplicationId → Bool}
    {error : StandingError}
    (h : populationOf scope round repository assignments slice = .error error) :
    error = .current_revision_missing := by
  rcases bind_eq_error.mp h with h | ⟨_, -, h⟩
  · obtain ⟨id, -, h⟩ := mapM_eq_error h
    rcases bind_eq_error.mp h with h | ⟨_, -, h⟩
    · rcases bind_eq_error.mp h with h | ⟨_, -, h⟩
      · obtain ⟨assignment, -, h⟩ := mapM_eq_error h
        exact error_of_currentScore h
      · exact absurd h pure_ne_error
    · exact absurd h pure_ne_error
  · exact absurd h pure_ne_error

theorem standingAmong_ne_error {population : List Scored} (h : IsPopulation population)
    {candidate : Candidate} {error : StandingError} :
    standingAmong submissionId slice candidate population ≠ .error error := by
  unfold standingAmong
  split
  · exact pure_ne_error
  · rename_i focus hfocus
    have hschema := standingSchema_standingFor h (List.mem_of_find?_eq_some hfocus) slice
      (if slice = .track then candidate.trackId else none)
    rw [parseStanding, require_true hschema]
    nofun

theorem inSlice_congr {candidates : KeyedMap fun candidate : Candidate => candidate.submissionId.val}
    {a b : Candidate} (h : (if slice = .track then a.trackId else none) =
      if slice = .track then b.trackId else none) :
    inSlice candidates slice a = inSlice candidates slice b := by
  funext id
  cases slice
  · simp only [if_true] at h
    simp [inSlice, h]
  · simp [inSlice]

theorem standingOf_ne_invalid (hscores : ScoresOnScale environment.repository)
    (hassignments : assignments.length < 2 ^ 32) :
    standingOf scope viewer slice round assignments environment submissionId ≠
      .error .invalid_standing := by
  intro h
  unfold standingOf at h
  split_ifs at h
  · dsimp only at h
    split at h
    · exact pure_ne_error h
    · rcases bind_eq_error.mp h with h | ⟨population, hpopulation, h⟩
      · cases error_of_populationOf h
      · exact standingAmong_ne_error
          (isPopulation_of_populationOf hscores hassignments hpopulation) h
  · exact pure_ne_error h

end

/-- Standings that are read together pass the schema, and the bands of one slice are in the order
of the values where there are enough of them. -/
structure Consistent (standings : List Standing) : Prop where
  schema : ∀ standing ∈ standings, standingSchema standing = true
  among : ∀ a ∈ standings, ∀ b ∈ standings, a.slice = b.slice → a.n = b.n
  ordered : ∀ a ∈ standings, ∀ b ∈ standings, a.slice = b.slice → 8 ≤ a.n → a.value ≤ b.value →
    a.band.place ≤ b.band.place
  equal : ∀ a ∈ standings, ∀ b ∈ standings, a.slice = b.slice → a.value = b.value →
    a.band = b.band
  few : ∀ standing ∈ standings, standing.band = .few ↔ standing.n < 8

/-- The projection of standings is never refused by their schema, and its standings are
consistent. -/
theorem projectReviewStandings_consistent (environment : StandingEnvironment D)
    (hscores : ScoresOnScale environment.repository) (scope : Scope) (viewer : Viewer)
    (submissionIds : List String) (slice : SliceKind) :
    projectReviewStandings scope viewer submissionIds slice environment ≠
        .error .invalid_standing ∧
      ∀ standings, projectReviewStandings scope viewer submissionIds slice environment =
        .ok standings → Consistent standings := by
  constructor
  · intro h
    rcases bind_eq_error.mp h with h | ⟨catalog, -, h⟩
    · cases (orRefuse_eq_error.mp h).2
    · split at h
      · exact pure_ne_error h
      · rcases bind_eq_error.mp h with h | ⟨_, -, h⟩
        · obtain ⟨submissionId, -, h⟩ := mapM_eq_error h
          exact standingOf_ne_invalid hscores (environment.bounded _ _) h
        · exact pure_ne_error h
  · intro standings h
    obtain ⟨catalog, -, h⟩ := bind_eq_ok.mp h
    split at h
    · obtain rfl := pure_eq_ok.mp h
      exact ⟨by simp, by simp, by simp, by simp, by simp⟩
    rename_i round _
    obtain ⟨found, hfound, h⟩ := bind_eq_ok.mp h
    obtain rfl := pure_eq_ok.mp h
    have hbounded := environment.bounded scope round.id
    have hstanding : ∀ standing ∈ found.reduceOption, ∃ candidate population focus,
        populationOf scope round environment.repository
          (environment.repository.listAssignments scope round.id)
          (inSlice (candidateById scope environment.sources
            (environment.repository.listAssignments scope round.id)) slice candidate) =
            .ok population ∧ focus ∈ population ∧ IsPopulation population ∧
        standing = standingFor focus population slice
          (if slice = .track then candidate.trackId else none) := by
      intro standing hmem
      rw [List.reduceOption_mem_iff] at hmem
      obtain ⟨_, -, hone⟩ := Keyed.exists_left_of_forall₂ (forall₂_of_mapM_eq_ok hfound) hmem
      obtain ⟨candidate, population, focus, hpopulation, hfocus, rfl⟩ :=
        exists_of_standingOf hone
      have hpop := isPopulation_of_populationOf hscores hbounded hpopulation
      exact ⟨candidate, population, focus, hpopulation, hfocus, hpop,
        trimmedStanding_standingFor hpop hfocus _ _⟩
    -- two standings of one slice are among the same submissions
    have htogether : ∀ a ∈ found.reduceOption, ∀ b ∈ found.reduceOption, a.slice = b.slice →
        ∃ values, a.n = values.length ∧ b.n = values.length ∧ a.value ∈ values ∧
          b.value ∈ values ∧ a.band = bandOf values a.value ∧ b.band = bandOf values b.value := by
      intro a ha b hb hslice
      obtain ⟨c, population, focus, hpopulation, hfocus, -, rfl⟩ := hstanding a ha
      obtain ⟨c', population', focus', hpopulation', hfocus', -, rfl⟩ := hstanding b hb
      rw [inSlice_congr (congrArg Slice.trackId hslice), hpopulation'] at hpopulation
      obtain rfl := Except.ok.inj hpopulation
      exact ⟨_, rfl, rfl, List.mem_map_of_mem hfocus, List.mem_map_of_mem hfocus', rfl, rfl⟩
    refine ⟨fun standing hmem => ?_, fun a ha b hb hslice => ?_,
      fun a ha b hb hslice hmany hle => ?_, fun a ha b hb hslice heq => ?_,
      fun standing hmem => ?_⟩
    · obtain ⟨_, _, _, -, hfocus, hpop, rfl⟩ := hstanding standing hmem
      exact standingSchema_standingFor hpop hfocus _ _
    · obtain ⟨_, hna, hnb, -⟩ := htogether a ha b hb hslice
      rw [hna, hnb]
    · obtain ⟨_, hna, -, hva, hvb, hba, hbb⟩ := htogether a ha b hb hslice
      rw [hba, hbb]
      exact bandOf_mono (hna ▸ hmany) hva hvb hle
    · obtain ⟨_, -, -, -, -, hba, hbb⟩ := htogether a ha b hb hslice
      rw [hba, hbb, heq]
    · obtain ⟨_, hn, -, -, -, hband, -⟩ := htogether standing hmem standing hmem rfl
      rw [hband, hn, bandOf_eq_few_iff]

namespace StandingExample

open RoundExample

def assignment (n : ℕ) : Assignment :=
  newAssignment scope (.ofNat n) round.id (.ofNat 7, .ofNat n) (.yearStart 2026)

/-- The score of a submission, by the last digit of its identity. -/
def scoreOf (id : ApplicationId) : Fin 5 := Fin.ofNat 5 ((id.val.toList.getLast?.getD '0').toNat)

def revision (id : ApplicationId) (score : Fin 5) : Revision :=
  { scope, id, assignmentId := id, revisionNumber := Version.one
    scores := ⟨[{ criterionId := .ofNat 3, score := score + 1 }], by revert score; decide⟩
    weightedScore := score + 1, comment := "", committedByReviewerId := .ofNat 7
    committedByUserId := .ofNat 7, committedAt := .yearStart 2026, postUnlock := false
    correctionOfRevisionId := none }

theorem onScale_score : ∀ score : Fin 5, OnScale (score + 1) := by decide +kernel

def environment : StandingEnvironment SymbolicDigest where
  repository :=
    { readCatalog := fun _ => some { scope, version := .one, digestSha256 := .null, rounds := [round] }
      readRound := fun _ _ => some round
      listAssignments := fun _ _ => (List.range 8).map fun i => assignment (20 + i)
      readAssignment := fun _ _ => none
      readVacancyResolution := fun _ _ => none
      readDraft := fun _ _ => none
      readReviewHead := fun _ id => some
        { scope, assignmentId := id, version := .one, currentRevisionId := id
          firstCommittedAt := .yearStart 2026, peerUnlockedAt := .yearStart 2026 }
      readRevision := fun _ id => some (revision id (scoreOf id)) }
  sources :=
    { readCandidates := fun _ => none
      readCandidate := fun _ id => some
        { submissionId := id, version := .one, trackId := none, formatId := none
          targetSessionId := none }
      readReviewerRoster := fun _ => none }
  bounded _ _ := by simp

def standings : Except StandingError (List Standing) :=
  projectReviewStandings scope .organizer
    [(ApplicationId.ofNat 21).val, (ApplicationId.ofNat 23).val, (ApplicationId.ofNat 22).val] .all
    environment

theorem standings_bands : standings.toOption.map (fun found => found.map (·.band)) =
    some [.top, .bottom, .mid] := by decide +kernel

end StandingExample

open StandingExample in
/-- Three of eight reviewed submissions have consistent standings, with their bands. -/
theorem projectReviewStandings_consistent_eight :
    ∃ found, standings = .ok found ∧ found.map (·.band) = [.top, .bottom, .mid] ∧
      Consistent found ∧ ∀ standing ∈ found, 8 ≤ standing.n := by
  have hscores : ScoresOnScale environment.repository := by
    intro scope id found hfound
    obtain rfl := Option.some.inj hfound
    exact onScale_score (scoreOf id)
  have hconsistent := (projectReviewStandings_consistent environment hscores RoundExample.scope
    .organizer [(ApplicationId.ofNat 21).val, (ApplicationId.ofNat 23).val,
      (ApplicationId.ofNat 22).val] .all).2
  obtain ⟨found, hstandings, hbands⟩ := Option.map_eq_some_iff.mp standings_bands
  have hfound := toOption_eq_some.mp hstandings
  have htogether := hconsistent found hfound
  refine ⟨found, hfound, hbands, htogether, fun standing hmem => ?_⟩
  by_contra hfew
  have hband : standing.band ∈ found.map (·.band) := List.mem_map_of_mem hmem
  rw [hbands, (htogether.few standing hmem).mpr (by omega)] at hband
  simp at hband

end JooEvents.Review
