import Mathlib.Data.Finset.Card
import Mathlib.Data.List.Dedup
import Mathlib.Data.List.Induction

/-!
# First elements of their keys

Elements may have a key. `firstsBy key as` keeps the elements without one, and of those with a
key the first. One more element at the end is kept or dropped (`firstsBy_append_singleton`), which
is what a loop over the list does. What is kept has distinct keys (`nodup_firstsBy_keys`) and every
key that is there (`exists_mem_firstsBy`); `length_firstsBy` counts it, and
`nodup_map_firstsBy_iff` says by places of the list when a further field of it is distinct.
-/

variable {α κ β : Type} [DecidableEq κ] {key : α → Option κ}

/-- An element at this place has no key, or is the first with its key. -/
def IsFirstBy (key : α → Option κ) (as : List α) (i : ℕ) (a : α) : Prop :=
  key a = none ∨ ∀ b ∈ as.take i, key b ≠ key a

instance (key : α → Option κ) (as : List α) (i : ℕ) (a : α) : Decidable (IsFirstBy key as i a) :=
  inferInstanceAs (Decidable (_ ∨ _))

/-- The elements without a key, and the first ones of the keys. -/
def firstsBy (key : α → Option κ) (as : List α) : List α :=
  (as.zipIdx.filter fun p => decide (IsFirstBy key as p.2 p.1)).map Prod.fst

theorem firstsBy_sublist (as : List α) : (firstsBy key as).Sublist as := by
  have hsub : (firstsBy key as).Sublist (as.zipIdx.map Prod.fst) := List.filter_sublist.map Prod.fst
  rwa [List.zipIdx_map_fst] at hsub

/-- One more element is kept if it has no key or a new one. -/
theorem firstsBy_append_singleton (as : List α) (a : α) :
    firstsBy key (as ++ [a]) =
      if key a = none ∨ ∀ b ∈ as, key b ≠ key a then firstsBy key as ++ [a]
      else firstsBy key as := by
  have hold : (as.zipIdx.filter fun p => decide (IsFirstBy key (as ++ [a]) p.2 p.1)) =
      as.zipIdx.filter fun p => decide (IsFirstBy key as p.2 p.1) := by
    refine List.filter_congr fun p hp => ?_
    have hlt : p.2 < as.length := by
      obtain ⟨i, hi, rfl⟩ := List.getElem_of_mem hp
      simpa using hi
    exact decide_eq_decide.mpr (by rw [IsFirstBy, IsFirstBy, List.take_append_of_le_length hlt.le])
  have hlast : IsFirstBy key (as ++ [a]) as.length a ↔
      (key a = none ∨ ∀ b ∈ as, key b ≠ key a) := by
    simp only [IsFirstBy, List.take_left]
  have hsplit : firstsBy key (as ++ [a]) = firstsBy key as ++
      ([(a, as.length)].filter fun p =>
        decide (IsFirstBy key (as ++ [a]) p.2 p.1)).map Prod.fst := by
    rw [firstsBy, List.zipIdx_append, List.filter_append, List.map_append, hold, Nat.zero_add,
      List.zipIdx_singleton, firstsBy]
  rw [hsplit]
  by_cases h : key a = none ∨ ∀ b ∈ as, key b ≠ key a
  · simp [h, hlast.mpr h]
  · simp [h, mt hlast.mp h]

omit [DecidableEq κ] in
theorem isNew_or (as : List α) (a : α) :
    (key a = none ∨ ∀ b ∈ as, key b ≠ key a) ∨ ∃ b ∈ as, key b = key a ∧ key a ≠ none := by
  by_cases hold : ∃ b ∈ as, key b = key a
  · obtain ⟨b, hb, hkey⟩ := hold
    by_cases hnone : key a = none
    · exact .inl (.inl hnone)
    · exact .inr ⟨b, hb, hkey, hnone⟩
  · exact .inl (.inr fun b hb hkey => hold ⟨b, hb, hkey⟩)

/-- A search for a key finds the same among the first ones. -/
theorem find?_firstsBy (as : List α) (k : κ) :
    (firstsBy key as).find? (fun a => key a = some k) = as.find? fun a => key a = some k := by
  induction as using List.reverseRecOn with
  | nil => rfl
  | append_singleton as a ih =>
    rw [firstsBy_append_singleton]
    split_ifs with hnew
    · rw [List.find?_append, List.find?_append, ih]
    · rcases isNew_or as a with h | ⟨b, hb, hkey, -⟩
      · exact absurd h hnew
      · rw [List.find?_append, ih]
        by_cases hk : key a = some k
        · have hfound : (as.find? fun a => key a = some k).isSome :=
            List.find?_isSome.mpr ⟨b, hb, decide_eq_true (hkey.trans hk)⟩
          rw [Option.or_of_isSome hfound]
        · rw [List.find?_cons_of_neg (by simpa using hk), List.find?_nil, Option.or_none]

/-- Every key that is there is kept. -/
theorem exists_mem_firstsBy {as : List α} {a : α} {k : κ} (h : a ∈ as) (hk : key a = some k) :
    ∃ b ∈ firstsBy key as, key b = some k := by
  have hfound : ((firstsBy key as).find? fun a => key a = some k).isSome := by
    rw [find?_firstsBy]
    exact List.find?_isSome.mpr ⟨a, h, decide_eq_true hk⟩
  obtain ⟨b, hb, hkey⟩ := List.find?_isSome.mp hfound
  exact ⟨b, hb, of_decide_eq_true hkey⟩

theorem mem_filterMap_firstsBy {as : List α} {k : κ} :
    k ∈ (firstsBy key as).filterMap key ↔ k ∈ as.filterMap key := by
  simp only [List.mem_filterMap]
  constructor
  · rintro ⟨a, ha, hk⟩
    exact ⟨a, (firstsBy_sublist as).subset ha, hk⟩
  · rintro ⟨a, ha, hk⟩
    exact exists_mem_firstsBy ha hk

theorem nodup_firstsBy_keys (as : List α) : ((firstsBy key as).filterMap key).Nodup := by
  induction as using List.reverseRecOn with
  | nil => exact List.nodup_nil
  | append_singleton as a ih =>
    rw [firstsBy_append_singleton]
    split_ifs with hnew
    · rw [List.filterMap_append]
      cases hk : key a with
      | none => simpa [hk] using ih
      | some k =>
        have hfresh : k ∉ as.filterMap key := by
          intro hmem
          obtain ⟨b, hb, hkey⟩ := List.mem_filterMap.mp hmem
          rcases hnew with hnone | hnew
          · rw [hk] at hnone
            cases hnone
          · exact hnew b hb (hkey.trans hk.symm)
        rw [List.filterMap_cons_some hk, List.filterMap_nil]
        refine List.nodup_append'.mpr ⟨ih, List.nodup_singleton k, ?_⟩
        rw [List.disjoint_singleton, mem_filterMap_firstsBy]
        exact hfresh
    · exact ih

theorem countP_firstsBy_none (as : List α) :
    (firstsBy key as).countP (fun a => key a = none) = as.countP fun a => key a = none := by
  induction as using List.reverseRecOn with
  | nil => rfl
  | append_singleton as a ih =>
    rw [firstsBy_append_singleton]
    split_ifs with hnew
    · rw [List.countP_append, List.countP_append, ih]
    · have hsome : key a ≠ none := fun hnone => hnew (.inl hnone)
      rw [List.countP_append, ih, List.countP_singleton, if_neg (by simpa using hsome),
        Nat.add_zero]

/-- What is kept is what has no key, and one element for each key. -/
theorem length_firstsBy (as : List α) :
    (firstsBy key as).length =
      as.countP (fun a => key a = none) + (as.filterMap key).toFinset.card := by
  have hcount : ∀ bs : List α, bs.length =
      bs.countP (fun a => key a = none) + (bs.filterMap key).length := by
    intro bs
    induction bs with
    | nil => rfl
    | cons b bs ih =>
      cases hk : key b with
      | none =>
        simp only [List.length_cons, List.countP_cons, List.filterMap_cons, hk, decide_true,
          if_true]
        omega
      | some k =>
        simp only [List.length_cons, List.countP_cons, List.filterMap_cons, hk, reduceCtorEq,
          decide_false, Bool.false_eq_true, if_false]
        omega
  have hkeys : (as.filterMap key).toFinset = ((firstsBy key as).filterMap key).toFinset := by
    ext k
    rw [List.mem_toFinset, List.mem_toFinset, mem_filterMap_firstsBy]
  rw [hcount (firstsBy key as), countP_firstsBy_none, hkeys,
    List.toFinset_card_of_nodup (nodup_firstsBy_keys as)]

/-- A field is distinct among the first ones if no two places of the list that are kept share
it. -/
theorem nodup_map_firstsBy_iff {f : α → β} {as : List α} :
    ((firstsBy key as).map f).Nodup ↔
      ∀ i j (hi : i < as.length) (hj : j < as.length), i < j → IsFirstBy key as i as[i] →
        IsFirstBy key as j as[j] → f as[i] ≠ f as[j] := by
  rw [firstsBy, List.map_map, List.Nodup, List.pairwise_map, List.pairwise_filter,
    List.pairwise_iff_getElem]
  simp only [decide_eq_true_eq, List.getElem_zipIdx, Nat.zero_add, List.length_zipIdx,
    Function.comp_apply]
