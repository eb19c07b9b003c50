import Mathlib.Data.List.Lex
import Mathlib.Data.String.Basic
import Mathlib.Algebra.GroupWithZero.Nat

/-!
# Identities, instants and versions

The scalar schemas of the kernel as types whose values satisfy them. An
`ApplicationId` is a canonical lowercase UUID of version 4 or 7, an `Instant` a
canonical millisecond UTC instant of the real calendar, a `Version` a positive safe
integer. A value of one of these types stands for a parsed value : the operations
of the domain packages parse their inputs before they read anything else.

Identities and instants are compared as strings, as the code does. They are made of
ASCII characters (`ApplicationId.ascii`, `Instant.ascii`), so the order of code
units and the order of characters agree on them.

`ApplicationId.ofNat` numbers a supply of identities, pairwise distinct
(`ApplicationId.ofNat_injective`).
-/

namespace JooEvents

/-! ## Strings of a fixed shape -/

/-- `chars` has one character for each class, in that class. -/
def matchesShape : List (Char → Bool) → List Char → Bool
  | [], [] => true
  | p :: ps, c :: cs => p c && matchesShape ps cs
  | _, _ => false

def isAsciiChar (c : Char) : Bool := decide (c.val.toNat < 128)

def isAscii (s : String) : Bool := s.toList.all isAsciiChar

/-- The class `[0-9]`. -/
def isDigitChar (c : Char) : Bool := decide (48 ≤ c.val.toNat ∧ c.val.toNat ≤ 57)

/-- The class `[0-9a-f]`. -/
def isHexChar (c : Char) : Bool :=
  isDigitChar c || decide (97 ≤ c.val.toNat ∧ c.val.toNat ≤ 102)

/-- The class of one of the characters of `s`. -/
def isOneOf (s : List Char) (c : Char) : Bool := s.contains c

theorem matchesShape_append :
    ∀ {ps qs : List (Char → Bool)} {cs ds : List Char},
      matchesShape ps cs = true → matchesShape qs ds = true →
        matchesShape (ps ++ qs) (cs ++ ds) = true
  | [], _, [], _, _, h => h
  | p :: ps, qs, c :: cs, ds, h, h' => by
    simp only [matchesShape, Bool.and_eq_true] at h
    simp [matchesShape, h.1, matchesShape_append h.2 h']

theorem matchesShape_replicate {p : Char → Bool} :
    ∀ {n : ℕ} {cs : List Char}, cs.length = n → (∀ c ∈ cs, p c = true) →
      matchesShape (List.replicate n p) cs = true
  | 0, [], _, _ => rfl
  | n + 1, c :: cs, hlen, h => by
    simp [List.replicate_succ, matchesShape, h c (by simp),
      matchesShape_replicate (Nat.succ.inj hlen) fun d hd => h d (by simp [hd])]

theorem of_matchesShape_replicate {p : Char → Bool} :
    ∀ {n : ℕ} {cs : List Char}, matchesShape (List.replicate n p) cs = true →
      cs.length = n ∧ ∀ c ∈ cs, p c = true
  | 0, [], _ => by simp
  | n + 1, c :: cs, h => by
    rw [List.replicate_succ, matchesShape, Bool.and_eq_true] at h
    obtain ⟨hlen, hall⟩ := of_matchesShape_replicate h.2
    exact ⟨by simp [hlen], by simpa using ⟨h.1, hall⟩⟩

theorem length_of_matchesShape :
    ∀ {ps : List (Char → Bool)} {cs : List Char}, matchesShape ps cs = true → cs.length = ps.length
  | [], [], _ => rfl
  | _ :: _, _ :: _, h => by
    rw [matchesShape, Bool.and_eq_true] at h
    rw [List.length_cons, List.length_cons, length_of_matchesShape h.2]

theorem forall_of_matchesShape {q : Char → Prop} :
    ∀ {ps : List (Char → Bool)} {cs : List Char}, matchesShape ps cs = true →
      (∀ p ∈ ps, ∀ c, p c = true → q c) → ∀ c ∈ cs, q c
  | [], [], _, _ => by simp
  | p :: ps, c :: cs, h, hp => by
    rw [matchesShape, Bool.and_eq_true] at h
    rw [List.forall_mem_cons]
    exact ⟨hp p (by simp) c h.1, forall_of_matchesShape h.2 fun r hr => hp r (by simp [hr])⟩

theorem all_ascii_of_matchesShape {ps : List (Char → Bool)} {cs : List Char}
    (h : matchesShape ps cs = true) (hp : ∀ p ∈ ps, ∀ c, p c = true → isAsciiChar c = true) :
    cs.all isAsciiChar = true :=
  List.all_eq_true.mpr (forall_of_matchesShape h hp)

theorem isAsciiChar_of_isDigitChar {c : Char} (h : isDigitChar c = true) :
    isAsciiChar c = true := by
  simp only [isDigitChar, isAsciiChar, decide_eq_true_eq] at h ⊢
  omega

theorem isAsciiChar_of_isHexChar {c : Char} (h : isHexChar c = true) :
    isAsciiChar c = true := by
  simp only [isHexChar, isDigitChar, isAsciiChar, Bool.or_eq_true, decide_eq_true_eq] at h ⊢
  omega

/-- The class `[a-z]`. -/
def isLowerChar (c : Char) : Bool := decide (97 ≤ c.val.toNat ∧ c.val.toNat ≤ 122)

theorem isAsciiChar_of_isLowerChar {c : Char} (h : isLowerChar c = true) :
    isAsciiChar c = true := by
  simp only [isLowerChar, isAsciiChar, decide_eq_true_eq] at h ⊢
  omega

theorem isAsciiChar_of_isOneOf {s : List Char} (hs : s.all isAsciiChar = true) {c : Char}
    (h : isOneOf s c = true) : isAsciiChar c = true :=
  List.all_eq_true.mp hs c (List.contains_iff_mem.mp h)

/-- `[a-z0-9]*(?:[._-][a-z0-9]+)*`, after a character of a word, or else of a separator. -/
def isDottedTail : Bool → List Char → Bool
  | afterWord, [] => afterWord
  | afterWord, c :: cs =>
    if isLowerChar c || isDigitChar c then isDottedTail true cs
    else afterWord && isOneOf ['.', '_', '-'] c && isDottedTail false cs

/-- `^[a-z][a-z0-9]*(?:[._-][a-z0-9]+)*$`. -/
def isDottedIdentifier (s : String) : Bool :=
  match s.toList with
  | [] => false
  | c :: cs => isLowerChar c && isDottedTail true cs

theorem all_ascii_of_isDottedTail :
    ∀ {afterWord : Bool} {cs : List Char}, isDottedTail afterWord cs = true →
      cs.all isAsciiChar = true
  | _, [], _ => rfl
  | afterWord, c :: cs, h => by
    rw [isDottedTail] at h
    split at h
    · rename_i hc
      rw [List.all_cons, all_ascii_of_isDottedTail h, Bool.and_true]
      rcases Bool.or_eq_true_iff.mp hc with hc | hc
      · exact isAsciiChar_of_isLowerChar hc
      · exact isAsciiChar_of_isDigitChar hc
    · simp only [Bool.and_eq_true] at h
      rw [List.all_cons, all_ascii_of_isDottedTail h.2, Bool.and_true]
      exact isAsciiChar_of_isOneOf (by decide) h.1.2

theorem ascii_of_isDottedIdentifier {s : String} (h : isDottedIdentifier s = true) :
    isAscii s = true := by
  unfold isDottedIdentifier at h
  split at h
  · cases h
  · rename_i c cs heq
    rw [Bool.and_eq_true] at h
    rw [isAscii, heq, List.all_cons, isAsciiChar_of_isLowerChar h.1, all_ascii_of_isDottedTail h.2]
    rfl

/-! ## Application identities -/

/-- The shape of a canonical UUID up to its last group. -/
def applicationUuidPrefixShape : List (Char → Bool) :=
  List.replicate 8 isHexChar ++ [isOneOf ['-']] ++ List.replicate 4 isHexChar ++
    [isOneOf ['-']] ++ [isOneOf ['4', '7']] ++ List.replicate 3 isHexChar ++
    [isOneOf ['-']] ++ [isOneOf ['8', '9', 'a', 'b']] ++ List.replicate 3 isHexChar ++
    [isOneOf ['-']]

/-- The shape of `APPLICATION_UUID_CANONICAL`. -/
def applicationUuidShape : List (Char → Bool) :=
  applicationUuidPrefixShape ++ List.replicate 12 isHexChar

/-- Canonical application UUIDs : lowercase, of version 4 or 7. -/
def isApplicationId (s : String) : Bool := matchesShape applicationUuidShape s.toList

abbrev ApplicationId := {s : String // isApplicationId s = true}

instance : LawfulBEq ApplicationId := inferInstance

namespace ApplicationId

theorem forall_char {q : Char → Prop} (id : ApplicationId) (hdash : q '-')
    (hhex : ∀ c, isHexChar c = true → q c) : ∀ c ∈ id.val.toList, q c := by
  have hone : ∀ s : List Char, (s.all fun c => decide (c = '-') || isHexChar c) = true →
      ∀ c, isOneOf s c = true → q c := by
    intro s hs c hc
    have hor := List.all_eq_true.mp hs c (List.contains_iff_mem.mp hc)
    rw [Bool.or_eq_true, decide_eq_true_eq] at hor
    rcases hor with rfl | h
    · exact hdash
    · exact hhex c h
  refine forall_of_matchesShape id.property fun p hp c hc => ?_
  simp only [applicationUuidShape, applicationUuidPrefixShape, List.mem_append, List.mem_replicate,
    List.mem_singleton] at hp
  rcases hp with (((((((((⟨-, rfl⟩ | rfl) | ⟨-, rfl⟩) | rfl) | rfl) | ⟨-, rfl⟩) | rfl) | rfl) |
    ⟨-, rfl⟩) | rfl) | ⟨-, rfl⟩
  all_goals first
    | exact hhex c hc
    | exact hone _ (by decide) c hc

theorem ascii (id : ApplicationId) : isAscii id.val = true := by
  have hchars : ∀ c ∈ id.val.toList, isAsciiChar c = true := by
    refine id.forall_char ?_ fun c hc => isAsciiChar_of_isHexChar hc
    decide
  exact List.all_eq_true.mpr hchars

theorem length (id : ApplicationId) : id.val.toList.length = 36 :=
  length_of_matchesShape id.property

/-- The `k` low decimal digits of `n`, most significant first. -/
def decimalDigits : ℕ → ℕ → List Char
  | 0, _ => []
  | k + 1, n => decimalDigits k (n / 10) ++ [Char.ofNat (48 + n % 10)]

theorem length_decimalDigits : ∀ k n : ℕ, (decimalDigits k n).length = k
  | 0, _ => rfl
  | k + 1, n => by simp [decimalDigits, length_decimalDigits k]

theorem toNat_decimalDigit (n : ℕ) : (Char.ofNat (48 + n % 10)).val.toNat = 48 + n % 10 := by
  have h : (48 + n % 10).isValidChar := Or.inl (by omega)
  rw [Char.ofNat, dif_pos h]
  rfl

theorem isDigitChar_of_mem_decimalDigits :
    ∀ {k n : ℕ} {c : Char}, c ∈ decimalDigits k n → isDigitChar c = true
  | k + 1, n, c, h => by
    rcases List.mem_append.mp h with h | h
    · exact isDigitChar_of_mem_decimalDigits h
    · rw [List.mem_singleton.mp h, isDigitChar, toNat_decimalDigit, decide_eq_true_eq]
      omega

theorem decimalDigits_injective :
    ∀ {k m n : ℕ}, m < 10 ^ k → n < 10 ^ k → decimalDigits k m = decimalDigits k n → m = n
  | 0, m, n, hm, hn, _ => by
    rw [pow_zero] at hm hn
    omega
  | k + 1, m, n, hm, hn, h => by
    obtain ⟨hhigh, hlow⟩ := List.append_inj' h rfl
    have hdiv : m / 10 = n / 10 :=
      decimalDigits_injective (Nat.div_lt_of_lt_mul (by rw [pow_succ] at hm; omega))
        (Nat.div_lt_of_lt_mul (by rw [pow_succ] at hn; omega)) hhigh
    have hmod : 48 + m % 10 = 48 + n % 10 := by
      have := congrArg (fun c : Char => c.val.toNat) (List.head_eq_of_cons_eq hlow)
      simpa only [toNat_decimalDigit] using this
    omega

theorem append_lt_append_of_length_eq {α : Type*} [LinearOrder α] :
    ∀ {a b c d : List α}, a.length = b.length → a < b → a ++ c < b ++ d
  | [], [], _, _, _, h => absurd h (lt_irrefl _)
  | x :: a, y :: b, c, d, hlen, h => by
    rw [List.cons_append, List.cons_append]
    rcases List.cons_lt_cons_iff.mp h with hxy | ⟨rfl, hab⟩
    · exact List.cons_lt_cons_iff.mpr (Or.inl hxy)
    · exact List.cons_lt_cons_iff.mpr
        (Or.inr ⟨rfl, append_lt_append_of_length_eq (Nat.succ.inj hlen) hab⟩)

theorem decimalDigits_lt :
    ∀ {k m n : ℕ}, m < n → n < 10 ^ k → decimalDigits k m < decimalDigits k n
  | 0, m, n, hmn, hn => by
    rw [pow_zero] at hn
    omega
  | k + 1, m, n, hmn, hn => by
    rw [pow_succ] at hn
    rcases Nat.lt_or_ge (m / 10) (n / 10) with hdiv | hdiv
    · refine append_lt_append_of_length_eq ?_ (decimalDigits_lt hdiv (by omega))
      rw [length_decimalDigits, length_decimalDigits]
    · have heq : m / 10 = n / 10 := by omega
      have hlow : Char.ofNat (48 + m % 10) < Char.ofNat (48 + n % 10) := by
        rw [Char.lt_def, UInt32.lt_iff_toNat_lt, toNat_decimalDigit, toNat_decimalDigit]
        omega
      rw [decimalDigits, decimalDigits, heq]
      exact List.append_left_lt (List.cons_lt_cons_iff.mpr (Or.inl hlow))

/-- The characters the supply of identities shares. -/
def supplyPrefix : List Char := "00000000-0000-4000-8000-".toList

theorem matchesShape_supply (n : ℕ) :
    matchesShape applicationUuidShape (supplyPrefix ++ decimalDigits 12 n) = true := by
  have hprefix : matchesShape applicationUuidPrefixShape supplyPrefix = true := by decide
  have hdigits : matchesShape (List.replicate 12 isHexChar) (decimalDigits 12 n) = true :=
    matchesShape_replicate (length_decimalDigits 12 n) fun c hc => by
      rw [isHexChar, isDigitChar_of_mem_decimalDigits hc, Bool.true_or]
  exact matchesShape_append hprefix hdigits

/-- The `n`-th of a supply of application identities. -/
def ofNat (n : ℕ) : ApplicationId :=
  ⟨String.ofList (supplyPrefix ++ decimalDigits 12 n), by
    rw [isApplicationId, String.toList_ofList]
    exact matchesShape_supply n⟩

theorem ofNat_injective {m n : ℕ} (hm : m < 10 ^ 12) (hn : n < 10 ^ 12)
    (h : ofNat m = ofNat n) : m = n := by
  have hchars := congrArg (fun id : ApplicationId => id.val.toList) h
  simp only [ofNat, String.toList_ofList, List.append_cancel_left_eq] at hchars
  exact decimalDigits_injective hm hn hchars

theorem ofNat_lt {m n : ℕ} (hmn : m < n) (hn : n < 10 ^ 12) : ofNat m < ofNat n := by
  change (ofNat m).val.toList < (ofNat n).val.toList
  rw [ofNat, ofNat, String.toList_ofList, String.toList_ofList]
  exact List.append_left_lt (decimalDigits_lt hmn hn)

end ApplicationId

/-- `toLowerCase` on the characters of a UUID. -/
def lowerHexChar (c : Char) : Char :=
  if 65 ≤ c.val.toNat ∧ c.val.toNat ≤ 90 then Char.ofNat (c.val.toNat + 32) else c

/-- An application UUID in any case, in its lowercase form. -/
def parseApplicationId (value : String) : Option ApplicationId :=
  let lowered := String.ofList (value.toList.map lowerHexChar)
  if h : isApplicationId lowered = true then some ⟨lowered, h⟩ else none

abbrev CanonicalSha256 := {s : String // matchesShape (List.replicate 64 isHexChar) s.toList = true}

/-! ## Instants -/

/-- The shape of a canonical instant after its year. -/
def instantTailShape : List (Char → Bool) :=
  [isOneOf ['-']] ++ List.replicate 2 isDigitChar ++ [isOneOf ['-']] ++
    List.replicate 2 isDigitChar ++ [isOneOf ['T']] ++ List.replicate 2 isDigitChar ++
    [isOneOf [':']] ++ List.replicate 2 isDigitChar ++ [isOneOf [':']] ++
    List.replicate 2 isDigitChar ++ [isOneOf ['.']] ++ List.replicate 3 isDigitChar ++
    [isOneOf ['Z']]

/-- The shape of a canonical instant, `dddd-dd-ddTdd:dd:dd.dddZ`. -/
def instantShape : List (Char → Bool) := List.replicate 4 isDigitChar ++ instantTailShape

/-- The number written by the digits of `chars` at positions `[start, start + len)`. -/
def digitsAt (start len : ℕ) (chars : List Char) : ℕ :=
  ((chars.drop start).take len).foldl (fun n c => 10 * n + (c.val.toNat - 48)) 0

/-- The days of a month of the proleptic Gregorian calendar. -/
def daysInMonth (year month : ℕ) : ℕ :=
  if month = 2 then
    if year % 4 = 0 ∧ (year % 100 ≠ 0 ∨ year % 400 = 0) then 29 else 28
  else if month = 4 ∨ month = 6 ∨ month = 9 ∨ month = 11 then 30
  else 31

/-- Canonical UTC instants : of the shape of an instant, naming a real moment. -/
def isInstant (s : String) : Bool :=
  matchesShape instantShape s.toList &&
    decide (1 ≤ digitsAt 5 2 s.toList ∧ digitsAt 5 2 s.toList ≤ 12 ∧
      1 ≤ digitsAt 8 2 s.toList ∧
      digitsAt 8 2 s.toList ≤ daysInMonth (digitsAt 0 4 s.toList) (digitsAt 5 2 s.toList) ∧
      digitsAt 11 2 s.toList ≤ 23 ∧ digitsAt 14 2 s.toList ≤ 59 ∧
      digitsAt 17 2 s.toList ≤ 59)

abbrev Instant := {s : String // isInstant s = true}

theorem Instant.ascii (t : Instant) : isAscii t.val = true := by
  have h : matchesShape instantShape t.val.toList = true := (Bool.and_eq_true_iff.mp t.property).1
  refine all_ascii_of_matchesShape h fun p hp c hc => ?_
  simp only [instantShape, instantTailShape, List.mem_append, List.mem_replicate,
    List.mem_singleton] at hp
  rcases hp with ⟨-, rfl⟩ | ((((((((((((rfl | ⟨-, rfl⟩) | rfl) | ⟨-, rfl⟩) | rfl) |
    ⟨-, rfl⟩) | rfl) | ⟨-, rfl⟩) | rfl) | ⟨-, rfl⟩) | rfl) | ⟨-, rfl⟩) | rfl)
  all_goals first
    | exact isAsciiChar_of_isDigitChar hc
    | exact isAsciiChar_of_isOneOf (by decide) hc

theorem digitsAt_append (s t : List Char) (start len : ℕ) :
    digitsAt (s.length + start) len (s ++ t) = digitsAt start len t := by
  rw [digitsAt, List.drop_append, List.drop_eq_nil_of_le (by omega), List.nil_append,
    Nat.add_sub_cancel_left, digitsAt]

/-- What follows the year in the first instant of a year. -/
def newYear : List Char := "-01-01T00:00:00.000Z".toList

/-- The first instant of the year `n`, for years of four digits. -/
def Instant.yearStart (n : ℕ) : Instant :=
  ⟨String.ofList (ApplicationId.decimalDigits 4 n ++ newYear), by
    have hlen := ApplicationId.length_decimalDigits 4 n
    have hyear : matchesShape (List.replicate 4 isDigitChar) (ApplicationId.decimalDigits 4 n) =
        true :=
      matchesShape_replicate hlen fun c hc => ApplicationId.isDigitChar_of_mem_decimalDigits hc
    have hdigits : ∀ start len, digitsAt (4 + start) len
        (ApplicationId.decimalDigits 4 n ++ newYear) = digitsAt start len newYear :=
      fun start len => by
        have h := digitsAt_append (ApplicationId.decimalDigits 4 n) newYear start len
        rwa [hlen] at h
    rw [isInstant, String.toList_ofList, Bool.and_eq_true, decide_eq_true_eq]
    refine ⟨matchesShape_append hyear (by decide), ?_⟩
    rw [hdigits 1, hdigits 4, hdigits 7, hdigits 10, hdigits 13]
    exact ⟨by decide, by decide, by decide, by
      rw [daysInMonth, if_neg (by decide), if_neg (by decide)]
      decide, by decide, by decide, by decide⟩⟩

theorem Instant.yearStart_lt {m n : ℕ} (hmn : m < n) (hn : n < 10 ^ 4) :
    yearStart m < yearStart n := by
  rw [← Subtype.coe_lt_coe, String.lt_iff_toList_lt, yearStart, yearStart,
    String.toList_ofList, String.toList_ofList]
  refine ApplicationId.append_lt_append_of_length_eq ?_ (ApplicationId.decimalDigits_lt hmn hn)
  rw [ApplicationId.length_decimalDigits, ApplicationId.length_decimalDigits]

/-- The days of the years before `year`. -/
def daysBeforeYear (year : ℕ) : ℕ :=
  365 * year + (year + 3) / 4 - (year + 99) / 100 + (year + 399) / 400

/-- The days of the months of `year` before `month`. -/
def daysBeforeMonth (year month : ℕ) : ℕ :=
  ((List.range (month - 1)).map fun m => daysInMonth year (m + 1)).sum

/-- `Date.parse`, counted from the start of the year 0 : what is used of it are differences. -/
def Instant.millis (t : Instant) : ℕ :=
  let chars := t.val.toList
  let days := daysBeforeYear (digitsAt 0 4 chars) +
    daysBeforeMonth (digitsAt 0 4 chars) (digitsAt 5 2 chars) + (digitsAt 8 2 chars - 1)
  let minutes := 60 * (24 * days + digitsAt 11 2 chars) + digitsAt 14 2 chars
  1000 * (60 * minutes + digitsAt 17 2 chars) + digitsAt 20 3 chars

/-- `Number.MAX_SAFE_INTEGER`. -/
def maxSafeInteger : ℕ := 2 ^ 53 - 1

/-- The schema of versions and counts : positive safe integers. -/
def IsPositiveSafe (n : ℕ) : Prop := 0 < n ∧ n ≤ maxSafeInteger

instance (n : ℕ) : Decidable (IsPositiveSafe n) := inferInstanceAs (Decidable (_ ∧ _))

abbrev PositiveSafe := {n : ℕ // IsPositiveSafe n}

abbrev Version := PositiveSafe

def PositiveSafe.parse (n : ℕ) : Option PositiveSafe :=
  if h : IsPositiveSafe n then some ⟨n, h⟩ else none

@[simp] theorem PositiveSafe.parse_eq_some {n : ℕ} {v : PositiveSafe} :
    PositiveSafe.parse n = some v ↔ v.val = n := by
  unfold PositiveSafe.parse
  split
  · simp only [Option.some.injEq, Subtype.ext_iff, eq_comm]
  · rename_i h
    exact ⟨fun h' => by simp at h', fun h' => absurd (h' ▸ v.property) h⟩

def Version.one : Version := ⟨1, by decide⟩

theorem isPositiveSafe_two : IsPositiveSafe 2 := by decide

theorem isPositiveSafe_maxSafeInteger : IsPositiveSafe maxSafeInteger := by decide

/-- `parseAggregateVersion(version + 1)`. -/
def nextAggregateVersion (v : Version) : Option Version := PositiveSafe.parse (v.val + 1)

theorem val_of_nextAggregateVersion {v w : Version} (h : nextAggregateVersion v = some w) :
    w.val = v.val + 1 :=
  PositiveSafe.parse_eq_some.mp h

end JooEvents
