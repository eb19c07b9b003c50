import JooEvents.Kernel.Canonical
import JooEvents.Lib.JsonText

/-!
# Text

The strings of the language as the domain packages use them : their length and
their order are those of UTF-16 code units, and white space is the class `\s`.
The order is a linear one, since a string is determined by its code units
(`codeUnits_injective`).
-/

namespace JooEvents

def codeUnits (s : String) : List ℕ := s.toList.flatMap Json.utf16Units

/-- `s.length` : the number of code units. -/
def textLength (s : String) : ℕ := (codeUnits s).length

/-- `s < t` : the order of code units. -/
def textLt (s t : String) : Prop := codeUnits s < codeUnits t

instance (s t : String) : Decidable (textLt s t) := inferInstanceAs (Decidable (_ < _))

theorem utf16Units_of_lt {c : Char} (h : c.val.toNat < 0x10000) :
    Json.utf16Units c = [c.val.toNat] := by
  rw [Json.utf16Units, if_pos h]

theorem utf16Units_of_le {c : Char} (h : 0x10000 ≤ c.val.toNat) :
    Json.utf16Units c =
      [0xD800 + (c.val.toNat - 0x10000) / 0x400, 0xDC00 + (c.val.toNat - 0x10000) % 0x400] := by
  rw [Json.utf16Units, if_neg (by omega)]

theorem char_val_toNat_valid (c : Char) :
    c.val.toNat < 0xD800 ∨ 0xDFFF < c.val.toNat ∧ c.val.toNat < 0x110000 :=
  c.valid

theorem char_eq_of_toNat_eq {c d : Char} (h : c.val.toNat = d.val.toNat) : c = d :=
  Char.ext (UInt32.toNat_inj.mp h)

theorem utf16Units_append_inj {c d : Char} {s t : List ℕ}
    (h : Json.utf16Units c ++ s = Json.utf16Units d ++ t) : c = d ∧ s = t := by
  have hc := char_val_toNat_valid c
  have hd := char_val_toNat_valid d
  rcases lt_or_ge c.val.toNat 0x10000 with hc' | hc' <;>
    rcases lt_or_ge d.val.toNat 0x10000 with hd' | hd'
  · rw [utf16Units_of_lt hc', utf16Units_of_lt hd'] at h
    simp only [List.cons_append, List.nil_append, List.cons.injEq] at h
    exact ⟨char_eq_of_toNat_eq h.1, h.2⟩
  · rw [utf16Units_of_lt hc', utf16Units_of_le hd'] at h
    simp only [List.cons_append, List.nil_append, List.cons.injEq] at h
    omega
  · rw [utf16Units_of_le hc', utf16Units_of_lt hd'] at h
    simp only [List.cons_append, List.nil_append, List.cons.injEq] at h
    omega
  · rw [utf16Units_of_le hc', utf16Units_of_le hd'] at h
    simp only [List.cons_append, List.nil_append, List.cons.injEq] at h
    exact ⟨char_eq_of_toNat_eq (by omega), h.2.2⟩

theorem flatMap_utf16Units_inj :
    ∀ {s t : List Char}, s.flatMap Json.utf16Units = t.flatMap Json.utf16Units → s = t
  | [], [], _ => rfl
  | [], d :: t, h => by
    rw [List.flatMap_nil, List.flatMap_cons] at h
    exact absurd (List.append_eq_nil_iff.mp h.symm).1 (by unfold Json.utf16Units; split <;> simp)
  | c :: s, [], h => by
    rw [List.flatMap_nil, List.flatMap_cons] at h
    exact absurd (List.append_eq_nil_iff.mp h).1 (by unfold Json.utf16Units; split <;> simp)
  | c :: s, d :: t, h => by
    rw [List.flatMap_cons, List.flatMap_cons] at h
    obtain ⟨hcd, hst⟩ := utf16Units_append_inj h
    rw [hcd, flatMap_utf16Units_inj hst]

theorem codeUnits_injective : Function.Injective codeUnits :=
  fun _ _ h => String.toList_inj.mp (flatMap_utf16Units_inj h)

theorem nodup_map_of_textLt {α : Type*} {text : α → String} {as : List α}
    (h : as.Pairwise fun a b => textLt (text a) (text b)) : (as.map text).Nodup := by
  refine List.pairwise_map.mpr (h.imp fun {a b} hlt heq => ?_)
  rw [heq] at hlt
  exact lt_irrefl _ hlt

def Host.canonicalJsonText {D : Type} (host : Host D) (value : Json Empty) : String :=
  Json.canonicalText host.nfc value

/-- The class `\s`. -/
def isWhiteSpace (c : Char) : Bool :=
  [0x9, 0xA, 0xB, 0xC, 0xD, 0x20, 0xA0, 0x1680, 0x2028, 0x2029, 0x202F, 0x205F, 0x3000,
    0xFEFF].contains c.val.toNat || decide (0x2000 ≤ c.val.toNat ∧ c.val.toNat ≤ 0x200A)

/-- `s.trim()`, on characters. -/
def trimChars (s : List Char) : List Char :=
  ((s.dropWhile isWhiteSpace).reverse.dropWhile isWhiteSpace).reverse

/-- `s.trim()`. -/
def trimText (s : String) : String := String.ofList (trimChars s.toList)

/-- `s.replace(/\s+/gu, ' ')`, on characters, after a character of white space or not. -/
def collapseChars : Bool → List Char → List Char
  | _, [] => []
  | inRun, c :: s =>
    if isWhiteSpace c then
      if inRun then collapseChars true s else ' ' :: collapseChars true s
    else c :: collapseChars false s

/-- `s.replace(/\s+/gu, ' ')`. -/
def collapseWhiteSpace (s : String) : String := String.ofList (collapseChars false s.toList)

end JooEvents
