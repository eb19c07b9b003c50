import JooEvents.Kernel.Ids
import JooEvents.Lib.Decimal
import Mathlib.Algebra.Order.Ring.Rat
import Mathlib.Data.Nat.Cast.Order.Ring
import Mathlib.Tactic.NormNum

/-!
# Numbers

Where the code tells numbers that it was given from numbers that it takes, they are rational
numbers, or decimals when it also writes them down.
-/

namespace Decimal

/-- The rational number that a decimal stands for. -/
def value (d : Decimal) : ℚ :=
  (if d.negative then -1 else 1) * d.significand * 10 ^ d.exponent

theorem text_injective : Function.Injective text := by
  intro d d' h
  have hends : Ends [] := by simp [Ends]
  have hread := read_text_append d hends
  rw [h, read_text_append d' hends] at hread
  exact (Prod.mk.inj (Option.some.inj hread)).1.symm

/-- Besides digits, numbers are written with four characters. -/
def IsNumberChar (c : Char) : Prop := c.isDigit = true ∨ c ∈ ['-', '.', 'e', '+']

instance (c : Char) : Decidable (IsNumberChar c) := inferInstanceAs (Decidable (_ ∨ _))

theorem isNumberChar_of_mem_toDigits {n : ℕ} {c : Char} (h : c ∈ Nat.toDigits 10 n) :
    IsNumberChar c := .inl (isDigit_of_mem_toDigits c h)

theorem isNumberChar_of_mem_exponentText {m : ℤ} {c : Char} (h : c ∈ exponentText m) :
    IsNumberChar c := by
  rw [exponentText] at h
  rcases List.mem_cons.mp h with rfl | h
  · decide
  rcases List.mem_cons.mp h with rfl | h
  · split <;> decide
  · exact isNumberChar_of_mem_toDigits h

theorem isNumberChar_of_mem_magnitudeText {significand : ℕ} {exponent : ℤ} {c : Char}
    (h : c ∈ magnitudeText significand exponent) : IsNumberChar c := by
  have hzero {n : ℕ} (h : c ∈ List.replicate n '0') : IsNumberChar c := by
    obtain rfl := List.eq_of_mem_replicate h
    decide
  have hpoint (h : c = '.') : IsNumberChar c := h ▸ by decide
  rw [magnitudeText] at h
  split_ifs at h
  · exact (List.mem_append.mp h).elim isNumberChar_of_mem_toDigits hzero
  · rcases List.mem_append.mp h with h | h
    · exact isNumberChar_of_mem_toDigits (List.mem_of_mem_take h)
    · exact (List.mem_cons.mp h).elim hpoint
        fun h => isNumberChar_of_mem_toDigits (List.mem_of_mem_drop h)
  · rcases List.mem_cons.mp h with rfl | h
    · decide
    rcases List.mem_cons.mp h with h | h
    · exact hpoint h
    · exact (List.mem_append.mp h).elim hzero isNumberChar_of_mem_toDigits
  · exact (List.mem_append.mp h).elim isNumberChar_of_mem_toDigits isNumberChar_of_mem_exponentText
  · rcases List.mem_append.mp h with h | h
    · exact isNumberChar_of_mem_toDigits (List.mem_of_mem_take h)
    rcases List.mem_cons.mp h with h | h
    · exact hpoint h
    · exact (List.mem_append.mp h).elim
        (fun h => isNumberChar_of_mem_toDigits (List.mem_of_mem_drop h))
        isNumberChar_of_mem_exponentText

theorem isNumberChar_of_mem_text {d : Decimal} {c : Char} (h : c ∈ d.text) : IsNumberChar c := by
  rw [text] at h
  rcases List.mem_append.mp h with h | h
  · split_ifs at h
    · obtain rfl := List.mem_singleton.mp h
      decide
    · cases h
  · exact isNumberChar_of_mem_magnitudeText h

theorem nul_notMem_text (d : Decimal) : '\x00' ∉ d.text :=
  fun h => absurd (isNumberChar_of_mem_text h) (by decide)

end Decimal

namespace JooEvents

/-- `Number.isSafeInteger`. -/
def isSafeInteger (q : ℚ) : Prop := q.den = 1 ∧ |q| ≤ maxSafeInteger

instance (q : ℚ) : Decidable (isSafeInteger q) := inferInstanceAs (Decidable (_ ∧ _))

theorem isSafeInteger_natCast {n : ℕ} (h : n < 2 ^ 53) : isSafeInteger (n : ℚ) := by
  refine ⟨Rat.den_natCast n, ?_⟩
  rw [abs_of_nonneg (Nat.cast_nonneg n)]
  exact_mod_cast Nat.le_sub_one_of_lt h

end JooEvents
