import Mathlib.Data.Nat.Init
import JooEvents.Lib.Json

/-!
# JSON text

The text that `JSON.stringify` writes for a tree without digests. Texts are quoted, with
the escapes of the language, and numbers are written in decimal : the numbers of the trees
that are written are integers (`Integral`).

The text determines the tree (`stringify_injective`). A value is read off the front of a
text, whatever follows it, as long as no digit follows a number (`stringify_append_inj`).
-/

namespace Json

/-! ## Characters -/

/-- The quotation mark. -/
def quoteMark : Char := Char.ofNat 34

/-- The backslash. -/
def backslash : Char := Char.ofNat 92

/-- The characters with an escape of their own, and its letter. -/
def shortEscapes : List (Char × Char) :=
  [(quoteMark, quoteMark), (backslash, backslash), (Char.ofNat 8, 'b'), (Char.ofNat 9, 't'),
    (Char.ofNat 10, 'n'), (Char.ofNat 12, 'f'), (Char.ofNat 13, 'r')]

/-- How a character is written inside a quoted text. -/
def escapeChar (c : Char) : List Char :=
  match shortEscapes.lookup c with
  | some letter => [backslash, letter]
  | none =>
    if c.val.toNat < 32 then
      [backslash, 'u', '0', '0', Nat.digitChar (c.val.toNat / 16), Nat.digitChar (c.val.toNat % 16)]
    else [c]

/-- The value of a hexadecimal digit. -/
def hexValue (c : Char) : ℕ := if c.val.toNat < 58 then c.val.toNat - 48 else c.val.toNat - 87

/-- Read a character that `escapeChar` wrote. -/
def unescape : List Char → Option (Char × List Char)
  | [] => none
  | c :: s =>
    if c = backslash then
      match s with
      | 'u' :: _ :: _ :: high :: low :: s => some (Char.ofNat (16 * hexValue high + hexValue low), s)
      | letter :: s => (shortEscapes.find? fun e => e.2 = letter).map fun e => (e.1, s)
      | [] => none
    else some (c, s)

theorem hexValue_digitChar : ∀ n < 16, hexValue (Nat.digitChar n) = n := by decide

/-- The three ways of writing a character. -/
theorem escapeChar_cases (c : Char) :
    (∃ letter, (c, letter) ∈ shortEscapes ∧ escapeChar c = [backslash, letter]) ∨
      (c.val.toNat < 32 ∧ escapeChar c = [backslash, 'u', '0', '0',
        Nat.digitChar (c.val.toNat / 16), Nat.digitChar (c.val.toNat % 16)]) ∨
      (c ≠ quoteMark ∧ c ≠ backslash ∧ escapeChar c = [c]) := by
  unfold escapeChar
  cases hlookup : shortEscapes.lookup c with
  | some letter => exact .inl ⟨letter, (lookup_eq_some_iff_mem (by decide)).mp hlookup, rfl⟩
  | none =>
    by_cases hlt : c.val.toNat < 32
    · exact .inr (.inl ⟨hlt, if_pos hlt⟩)
    · refine .inr (.inr ⟨?_, ?_, if_neg hlt⟩) <;>
      · rintro rfl
        revert hlookup
        decide

theorem unescape_escapeChar (c : Char) (s : List Char) :
    unescape (escapeChar c ++ s) = some (c, s) := by
  rcases escapeChar_cases c with ⟨letter, hmem, hc⟩ | ⟨hlt, hc⟩ | ⟨-, hne, hc⟩
  · rw [hc]
    simp only [shortEscapes, List.mem_cons, Prod.mk.injEq, List.not_mem_nil, or_false] at hmem
    rcases hmem with ⟨rfl, rfl⟩ | ⟨rfl, rfl⟩ | ⟨rfl, rfl⟩ | ⟨rfl, rfl⟩ | ⟨rfl, rfl⟩ | ⟨rfl, rfl⟩ |
      ⟨rfl, rfl⟩ <;> rfl
  · rw [hc]
    simp only [List.cons_append, List.nil_append, unescape, if_pos]
    rw [hexValue_digitChar _ (by omega), hexValue_digitChar _ (by omega), Nat.div_add_mod]
    simp
  · rw [hc]
    simp [unescape, hne]

/-- A character is read off the front of a text. -/
theorem escapeChar_append_inj {c d : Char} {s t : List Char}
    (h : escapeChar c ++ s = escapeChar d ++ t) : c = d ∧ s = t := by
  have hread := congrArg unescape h
  rw [unescape_escapeChar, unescape_escapeChar, Option.some.injEq, Prod.mk.injEq] at hread
  exact hread

/-- No escape begins with a quotation mark. -/
theorem escapeChar_append_ne (c : Char) (s t : List Char) :
    escapeChar c ++ s ≠ quoteMark :: t := by
  intro h
  rcases escapeChar_cases c with ⟨letter, -, hc⟩ | ⟨-, hc⟩ | ⟨hne, -, hc⟩
  · rw [hc] at h
    exact absurd (List.cons.inj h).1 (by decide)
  · rw [hc] at h
    exact absurd (List.cons.inj h).1 (by decide)
  · rw [hc] at h
    exact hne (List.cons.inj h).1

/-! ## Texts and numbers -/

/-- A quoted text. -/
def quote (s : String) : List Char :=
  quoteMark :: (s.toList.flatMap escapeChar ++ [quoteMark])

theorem flatMap_escapeChar_inj :
    ∀ {as bs s t : List Char}, as.flatMap escapeChar ++ quoteMark :: s =
      bs.flatMap escapeChar ++ quoteMark :: t → as = bs ∧ s = t
  | [], [], s, t, h => ⟨rfl, (List.cons.inj h).2⟩
  | [], b :: bs, s, t, h => by
    rw [List.flatMap_cons, List.append_assoc] at h
    exact absurd h.symm (escapeChar_append_ne _ _ _)
  | a :: as, [], s, t, h => by
    rw [List.flatMap_cons, List.append_assoc] at h
    exact absurd h (escapeChar_append_ne _ _ _)
  | a :: as, b :: bs, s, t, h => by
    rw [List.flatMap_cons, List.flatMap_cons, List.append_assoc, List.append_assoc] at h
    obtain ⟨hab, h⟩ := escapeChar_append_inj h
    obtain ⟨hrest, hst⟩ := flatMap_escapeChar_inj h
    exact ⟨by rw [hab, hrest], hst⟩

theorem quote_append_inj {a b : String} {s t : List Char} (h : quote a ++ s = quote b ++ t) :
    a = b ∧ s = t := by
  simp only [quote, List.cons_append, List.append_assoc, List.nil_append, List.cons.injEq,
    true_and] at h
  obtain ⟨hab, hst⟩ := flatMap_escapeChar_inj h
  exact ⟨String.toList_inj.mp hab, hst⟩

/-- The characters of a number. -/
def isNumberChar (c : Char) : Bool := c.isDigit || c = '-'

/-- An integer in decimal. -/
def numberText (n : ℤ) : List Char := n.repr.toList

theorem numberText_ofNat (n : ℕ) : numberText (.ofNat n) = Nat.toDigits 10 n := by
  simp [numberText, Int.repr]

theorem numberText_negSucc (n : ℕ) : numberText (.negSucc n) = '-' :: Nat.toDigits 10 (n + 1) := by
  simp [numberText, Int.repr]

theorem isDigit_of_mem_toDigits {n : ℕ} {c : Char} (h : c ∈ Nat.toDigits 10 n) :
    c.isDigit = true :=
  Nat.isDigit_of_mem_toDigits (by decide) (by decide) h

theorem isNumberChar_of_mem {n : ℤ} {c : Char} (h : c ∈ numberText n) : isNumberChar c = true := by
  cases n with
  | ofNat n =>
    rw [numberText_ofNat] at h
    simp [isNumberChar, isDigit_of_mem_toDigits h]
  | negSucc n =>
    rw [numberText_negSucc] at h
    rcases List.mem_cons.mp h with rfl | h
    · rfl
    · simp [isNumberChar, isDigit_of_mem_toDigits h]

theorem toDigits_inj {m n : ℕ} (h : Nat.toDigits 10 m = Nat.toDigits 10 n) : m = n := by
  rw [← @Nat.ofDigitChars_ten_toDigits m, h, Nat.ofDigitChars_ten_toDigits]

/-- No number without a sign is one with a sign. -/
theorem toDigits_ne_sign {m : ℕ} {s : List Char} : Nat.toDigits 10 m ≠ '-' :: s := by
  intro h
  have : '-' ∈ Nat.toDigits 10 m := by simp [h]
  exact absurd (isDigit_of_mem_toDigits this) (by decide)

theorem numberText_injective : Function.Injective numberText := by
  intro m n h
  cases m with
  | ofNat m =>
    cases n with
    | ofNat n =>
      rw [numberText_ofNat, numberText_ofNat] at h
      rw [toDigits_inj h]
    | negSucc n =>
      rw [numberText_ofNat, numberText_negSucc] at h
      exact absurd h toDigits_ne_sign
  | negSucc m =>
    cases n with
    | ofNat n =>
      rw [numberText_ofNat, numberText_negSucc] at h
      exact absurd h.symm toDigits_ne_sign
    | negSucc n =>
      rw [numberText_negSucc, numberText_negSucc] at h
      rw [Nat.succ.inj (toDigits_inj (List.cons.inj h).2)]

/-- No number begins the text. -/
def Stops (s : List Char) : Prop := ∀ c ∈ s.head?, isNumberChar c = false

theorem takeWhile_append_of_stops {as s : List Char} (has : ∀ c ∈ as, isNumberChar c = true)
    (hs : Stops s) : (as ++ s).takeWhile isNumberChar = as := by
  rw [List.takeWhile_append_of_pos has]
  cases s with
  | nil => simp
  | cons c s => simp [hs c rfl]

theorem numberText_append_inj {m n : ℤ} {s t : List Char} (hs : Stops s) (ht : Stops t)
    (h : numberText m ++ s = numberText n ++ t) : m = n ∧ s = t := by
  have htext : numberText m = numberText n := by
    rw [← takeWhile_append_of_stops (fun _ => isNumberChar_of_mem) hs, h,
      takeWhile_append_of_stops (fun _ => isNumberChar_of_mem) ht]
  refine ⟨numberText_injective htext, ?_⟩
  rw [htext] at h
  exact List.append_cancel_left h

mutual

/-- `JSON.stringify`. -/
def stringify : Json Empty → List Char
  | .null => "null".toList
  | .bool true => "true".toList
  | .bool false => "false".toList
  | .num q => numberText q.num
  | .text s => quote s
  | .digest d => nomatch d
  | .arr items => '[' :: stringifyItems true items
  | .obj members => '{' :: stringifyMembers true members

/-- The items of an array, the first of which follows no comma, and the closing bracket. -/
def stringifyItems : Bool → List (Json Empty) → List Char
  | _, [] => [']']
  | first, a :: as => (if first then [] else [',']) ++ (stringify a ++ stringifyItems false as)

/-- The members of an object and the closing bracket. -/
def stringifyMembers : Bool → List (String × Json Empty) → List Char
  | _, [] => ['}']
  | first, (k, a) :: as =>
    (if first then [] else [',']) ++
      (quote k ++ (':' :: (stringify a ++ stringifyMembers false as)))

end

mutual

/-- All numbers of the tree are integers. -/
def Integral : Json Empty → Prop
  | .num q => q.den = 1
  | .arr items => IntegralItems items
  | .obj members => IntegralMembers members
  | _ => True

/-- All numbers of the items are integers. -/
def IntegralItems : List (Json Empty) → Prop
  | [] => True
  | a :: as => Integral a ∧ IntegralItems as

/-- All numbers of the members are integers. -/
def IntegralMembers : List (String × Json Empty) → Prop
  | [] => True
  | (_, a) :: as => Integral a ∧ IntegralMembers as

end

/-! ## The text determines the tree -/

/-- The kinds of values that their first characters tell apart. -/
inductive Kind where
  | null
  | true
  | false
  | num
  | text
  | arr
  | obj
  deriving DecidableEq

/-- The kind of a value. -/
def kind : Json Empty → Kind
  | .null => .null
  | .bool b => if b then .true else .false
  | .num _ => .num
  | .text _ => .text
  | .digest d => nomatch d
  | .arr _ => .arr
  | .obj _ => .obj

/-- The kind of a value that begins with a character, if one does. -/
def leadKind (c : Char) : Option Kind :=
  if isNumberChar c then some .num
  else if c = quoteMark then some .text
  else if c = '[' then some .arr
  else if c = '{' then some .obj
  else if c = 'n' then some .null
  else if c = 't' then some .true
  else if c = 'f' then some .false
  else none

/-- The first character of a value tells its kind. -/
theorem lead_stringify (a : Json Empty) :
    ∃ c s, stringify a = c :: s ∧ leadKind c = some (kind a) := by
  cases a with
  | null => exact ⟨_, _, rfl, by decide⟩
  | bool b => cases b <;> exact ⟨_, _, rfl, by decide⟩
  | num q =>
    have hmem : ∀ c ∈ numberText q.num, isNumberChar c = true := fun _ => isNumberChar_of_mem
    cases htext : numberText q.num with
    | nil =>
      cases hq : q.num with
      | ofNat n =>
        rw [hq, numberText_ofNat] at htext
        exact absurd htext Nat.toDigits_ne_nil
      | negSucc n =>
        rw [hq, numberText_negSucc] at htext
        cases htext
    | cons c s =>
      refine ⟨c, s, by rw [stringify, htext], ?_⟩
      rw [leadKind, if_pos (hmem c (by simp [htext])), kind]
  | text s => exact ⟨_, _, rfl, rfl⟩
  | digest d => exact nomatch d
  | arr items => exact ⟨_, _, by rw [stringify], rfl⟩
  | obj members => exact ⟨_, _, by rw [stringify], rfl⟩

theorem kind_eq_of_append {a b : Json Empty} {s t : List Char}
    (h : stringify a ++ s = stringify b ++ t) : kind a = kind b := by
  obtain ⟨c, s', ha, hc⟩ := lead_stringify a
  obtain ⟨d, t', hb, hd⟩ := lead_stringify b
  rw [ha, hb, List.cons_append, List.cons_append] at h
  rw [(List.cons.inj h).1] at hc
  exact Option.some.inj (hc.symm.trans hd)

/-- No value begins with a character that leads no kind. -/
theorem stringify_append_ne {a : Json Empty} {c : Char} {s t : List Char}
    (hc : leadKind c = none) : stringify a ++ s ≠ c :: t := by
  obtain ⟨d, s', ha, hd⟩ := lead_stringify a
  intro h
  rw [ha, List.cons_append] at h
  rw [(List.cons.inj h).1, hc] at hd
  cases hd

theorem stops_cons {c : Char} {s : List Char} (hc : isNumberChar c = false) : Stops (c :: s) := by
  intro d hd
  obtain rfl := Option.mem_some_iff.mp hd
  exact hc

theorem stops_stringifyItems (as : List (Json Empty)) (s : List Char) :
    Stops (stringifyItems false as ++ s) := by
  cases as with
  | nil => exact stops_cons (by decide)
  | cons a as => exact stops_cons (by decide)

theorem stops_stringifyMembers (as : List (String × Json Empty)) (s : List Char) :
    Stops (stringifyMembers false as ++ s) := by
  cases as with
  | nil => exact stops_cons (by decide)
  | cons a as => exact stops_cons (by decide)

mutual

/-- A value is read off the front of a text. -/
theorem stringify_append_inj : ∀ {a b : Json Empty} {s t : List Char}, Integral a → Integral b →
    Stops s → Stops t → stringify a ++ s = stringify b ++ t → a = b ∧ s = t
  | a, b, s, t, ha, hb, hs, ht, h => by
    have hkind := kind_eq_of_append h
    cases a with
    | null => cases b with
      | null => exact ⟨rfl, List.append_cancel_left h⟩
      | bool b => cases b <;> cases hkind
      | digest d => exact nomatch d
      | _ => cases hkind
    | bool x => cases b with
      | bool y =>
        cases x <;> cases y
        · exact ⟨rfl, List.append_cancel_left h⟩
        · cases hkind
        · cases hkind
        · exact ⟨rfl, List.append_cancel_left h⟩
      | digest d => exact nomatch d
      | _ => cases x <;> cases hkind
    | num p => cases b with
      | num q =>
        rw [stringify, stringify] at h
        rw [Integral] at ha hb
        obtain ⟨hnum, hst⟩ := numberText_append_inj hs ht h
        exact ⟨congrArg num (Rat.ext hnum (ha.trans hb.symm)), hst⟩
      | bool b => cases b <;> cases hkind
      | digest d => exact nomatch d
      | _ => cases hkind
    | text x => cases b with
      | text y =>
        rw [stringify, stringify] at h
        obtain ⟨rfl, hst⟩ := quote_append_inj h
        exact ⟨rfl, hst⟩
      | bool b => cases b <;> cases hkind
      | digest d => exact nomatch d
      | _ => cases hkind
    | digest d => exact nomatch d
    | arr as => cases b with
      | arr bs =>
        rw [stringify, stringify] at h
        rw [Integral] at ha hb
        obtain ⟨rfl, hst⟩ := stringifyItems_append_inj ha hb (List.cons.inj h).2
        exact ⟨rfl, hst⟩
      | bool b => cases b <;> cases hkind
      | digest d => exact nomatch d
      | _ => cases hkind
    | obj as => cases b with
      | obj bs =>
        rw [stringify, stringify] at h
        rw [Integral] at ha hb
        obtain ⟨rfl, hst⟩ := stringifyMembers_append_inj ha hb (List.cons.inj h).2
        exact ⟨rfl, hst⟩
      | bool b => cases b <;> cases hkind
      | digest d => exact nomatch d
      | _ => cases hkind

theorem stringifyItems_append_inj : ∀ {first : Bool} {as bs : List (Json Empty)}
    {s t : List Char}, IntegralItems as → IntegralItems bs →
      stringifyItems first as ++ s = stringifyItems first bs ++ t → as = bs ∧ s = t
  | first, [], [], s, t, _, _, h => ⟨rfl, by simpa [stringifyItems] using h⟩
  | first, [], b :: bs, s, t, _, _, h => by
    cases first
    · exact absurd (List.cons.inj h).1 (by decide)
    · simp only [stringifyItems, if_true, List.nil_append, List.append_assoc] at h
      exact absurd h.symm (stringify_append_ne (by decide))
  | first, a :: as, [], s, t, _, _, h => by
    cases first
    · exact absurd (List.cons.inj h).1 (by decide)
    · simp only [stringifyItems, if_true, List.nil_append, List.append_assoc] at h
      exact absurd h (stringify_append_ne (by decide))
  | first, a :: as, b :: bs, s, t, ha, hb, h => by
    rw [IntegralItems] at ha hb
    simp only [stringifyItems, List.append_assoc, List.append_cancel_left_eq] at h
    obtain ⟨rfl, hrest⟩ := stringify_append_inj ha.1 hb.1 (stops_stringifyItems as s)
      (stops_stringifyItems bs t) h
    obtain ⟨rfl, hst⟩ := stringifyItems_append_inj ha.2 hb.2 hrest
    exact ⟨rfl, hst⟩

theorem stringifyMembers_append_inj : ∀ {first : Bool} {as bs : List (String × Json Empty)}
    {s t : List Char}, IntegralMembers as → IntegralMembers bs →
      stringifyMembers first as ++ s = stringifyMembers first bs ++ t → as = bs ∧ s = t
  | first, [], [], s, t, _, _, h => ⟨rfl, by simpa [stringifyMembers] using h⟩
  | first, [], b :: bs, s, t, _, _, h => by
    cases first <;> exact absurd (List.cons.inj h).1 (by decide)
  | first, a :: as, [], s, t, _, _, h => by
    cases first <;> exact absurd (List.cons.inj h).1 (by decide)
  | first, (k, a) :: as, (l, b) :: bs, s, t, ha, hb, h => by
    rw [IntegralMembers] at ha hb
    simp only [stringifyMembers, List.append_assoc, List.append_cancel_left_eq] at h
    obtain ⟨rfl, hvalue⟩ := quote_append_inj h
    simp only [List.cons_append, List.append_assoc, List.cons.injEq, true_and] at hvalue
    obtain ⟨rfl, hrest⟩ := stringify_append_inj ha.1 hb.1 (stops_stringifyMembers as s)
      (stops_stringifyMembers bs t) hvalue
    obtain ⟨rfl, hst⟩ := stringifyMembers_append_inj ha.2 hb.2 hrest
    exact ⟨rfl, hst⟩

end

/-- Trees with integers are told apart by their texts. -/
theorem stringify_injective {a b : Json Empty} (ha : Integral a) (hb : Integral b)
    (h : stringify a = stringify b) : a = b :=
  (stringify_append_inj (s := []) (t := []) ha hb (by simp [Stops]) (by simp [Stops])
    (by rw [h])).1

theorem integralItems_iff : ∀ {as : List (Json Empty)},
    IntegralItems as ↔ ∀ a ∈ as, Integral a
  | [] => by simp [IntegralItems]
  | a :: as => by simp [IntegralItems, integralItems_iff]

theorem integralMembers_iff : ∀ {as : List (String × Json Empty)},
    IntegralMembers as ↔ ∀ a ∈ as, Integral a.2
  | [] => by simp [IntegralMembers]
  | (k, a) :: as => by simp [IntegralMembers, integralMembers_iff]

mutual

theorem Integral.canonicalize (nfc : String → String) :
    ∀ {a : Json Empty}, Integral a → Integral (canonicalize nfc a)
  | .null, h => by simpa only [canonicalize_null] using h
  | .bool b, h => by simpa only [canonicalize_bool] using h
  | .num q, h => by simpa only [canonicalize_num] using h
  | .text s, _ => by
    rw [canonicalize_text]
    trivial
  | .digest d, _ => nomatch d
  | .arr items, h => by
    rw [Integral] at h
    rw [Json.canonicalize, Integral]
    exact h.canonicalizeItems nfc
  | .obj members, h => by
    rw [Integral] at h
    rw [Json.canonicalize, Integral, integralMembers_iff]
    intro m hm
    exact integralMembers_iff.mp (h.canonicalizeMembers nfc) m
      ((List.perm_insertionSort _ _).mem_iff.mp hm)

theorem IntegralItems.canonicalizeItems (nfc : String → String) :
    ∀ {as : List (Json Empty)}, IntegralItems as → IntegralItems (canonicalizeItems nfc as)
  | [], h => h
  | a :: as, h => by
    rw [IntegralItems] at h
    rw [Json.canonicalizeItems, IntegralItems]
    exact ⟨h.1.canonicalize nfc, h.2.canonicalizeItems nfc⟩

theorem IntegralMembers.canonicalizeMembers (nfc : String → String) :
    ∀ {as : List (String × Json Empty)}, IntegralMembers as →
      IntegralMembers (canonicalizeMembers nfc as)
  | [], h => h
  | (k, a) :: as, h => by
    rw [IntegralMembers] at h
    rw [Json.canonicalizeMembers, IntegralMembers]
    exact ⟨h.1.canonicalize nfc, h.2.canonicalizeMembers nfc⟩

end

/-- The text of the canonical form of a tree. -/
def canonicalText (nfc : String → String) (a : Json Empty) : String :=
  String.ofList (stringify (canonicalize nfc a))

/-- Trees with integers have one canonical text exactly when they have one canonical form. -/
theorem canonicalText_eq_iff {nfc : String → String} {a b : Json Empty} (ha : Integral a)
    (hb : Integral b) :
    canonicalText nfc a = canonicalText nfc b ↔ canonicalize nfc a = canonicalize nfc b := by
  refine ⟨fun h => ?_, fun h => by rw [canonicalText, h, canonicalText]⟩
  have hchars := congrArg String.toList h
  rw [canonicalText, canonicalText, String.toList_ofList, String.toList_ofList] at hchars
  exact stringify_injective (ha.canonicalize nfc) (hb.canonicalize nfc) hchars

end Json
