import Mathlib.Algebra.Order.Floor.Ring
import Mathlib.Data.Int.Log
import Mathlib.Data.Rat.Floor
import Mathlib.Tactic.Linarith

/-!
# Double precision

A number of double precision has 53 bits and an exponent, and arithmetic rounds what it computes
to the nearest such number, and of two to the one whose last bit is even. `nearest` rounds so; it
leaves out the ends of the range, where numbers overflow or lose bits.

What has 53 bits is left alone (`nearest_natCast_mul`), and a number does not fall below a power of
two that it has reached (`two_pow_le_nearest`). Both together say when a result left the integers
that are exact.
-/

namespace Double

/-- The nearest integer, and of two the even one. -/
def roundEven (q : ℚ) : ℤ :=
  if Int.fract q < 1 / 2 then ⌊q⌋
  else if 1 / 2 < Int.fract q then ⌊q⌋ + 1
  else if Even ⌊q⌋ then ⌊q⌋ else ⌊q⌋ + 1

/-- The exponent of the last of the 53 bits of a positive number. -/
def lastPlace (q : ℚ) : ℤ := Int.log 2 q - 52

/-- Rounding of a positive number. -/
def nearestPos (q : ℚ) : ℚ := roundEven (q / 2 ^ lastPlace q) * 2 ^ lastPlace q

/-- The nearest number of double precision. -/
def nearest (q : ℚ) : ℚ :=
  if q = 0 then 0 else if 0 < q then nearestPos q else -nearestPos (-q)

@[simp] theorem roundEven_intCast (n : ℤ) : roundEven n = n := by
  rw [roundEven, Int.fract_intCast, Int.floor_intCast, if_pos (by norm_num)]

theorem floor_le_roundEven (q : ℚ) : ⌊q⌋ ≤ roundEven q := by
  rw [roundEven]
  split_ifs <;> omega

/-- A multiple of the last place is left alone. -/
theorem nearestPos_of_multiple {q : ℚ} {n : ℤ} (h : q = n * 2 ^ lastPlace q) :
    nearestPos q = q := by
  have hplace : (2 : ℚ) ^ lastPlace q ≠ 0 := zpow_ne_zero _ two_ne_zero
  have hquotient : q / 2 ^ lastPlace q = n := by rw [div_eq_iff hplace, ← h]
  rw [nearestPos, hquotient, roundEven_intCast, ← h]

/-- A number of 53 bits is left alone. -/
theorem nearest_natCast_mul {m : ℕ} (hm : m < 2 ^ 53) (k : ℕ) :
    nearest (m * 2 ^ k) = m * 2 ^ k := by
  rcases Nat.eq_zero_or_pos m with rfl | hpos
  · simp [nearest]
  have hq : (0 : ℚ) < m * 2 ^ k := by positivity
  have hlog : Int.log 2 ((m : ℚ) * 2 ^ k) < 53 + k := by
    rw [← Int.lt_zpow_iff_log_lt one_lt_two hq, Nat.cast_ofNat, zpow_add₀ two_ne_zero,
      zpow_natCast]
    have hbits : (m : ℚ) < 2 ^ (53 : ℤ) := by exact_mod_cast hm
    exact mul_lt_mul_of_pos_right hbits (by positivity)
  have hplace : lastPlace (m * 2 ^ k) ≤ k := by
    rw [lastPlace]
    omega
  rw [nearest, if_neg hq.ne', if_pos hq]
  refine @nearestPos_of_multiple _ (m * 2 ^ (k - lastPlace (m * 2 ^ k)).toNat) ?_
  generalize lastPlace ((m : ℚ) * 2 ^ k) = place at hplace ⊢
  obtain ⟨j, hj⟩ := Int.eq_ofNat_of_zero_le (sub_nonneg.mpr hplace)
  have hpow : (2 : ℚ) ^ k = 2 ^ j * 2 ^ place := by
    rw [← zpow_natCast 2 j, ← zpow_add₀ two_ne_zero, ← zpow_natCast 2 k]
    exact congrArg _ (by omega)
  rw [hj, Int.toNat_natCast, hpow]
  push_cast
  rw [mul_assoc]

/-- Integers of 53 bits are exact. -/
theorem nearest_natCast {n : ℕ} (h : n < 2 ^ 53) : nearest n = n := by
  simpa using nearest_natCast_mul h 0

/-- A number that has reached a power of two stays there. -/
theorem two_pow_le_nearest {k : ℕ} {q : ℚ} (h : (2 : ℚ) ^ k ≤ q) : (2 : ℚ) ^ k ≤ nearest q := by
  have hq : 0 < q := lt_of_lt_of_le (show (0 : ℚ) < 2 ^ k by positivity) h
  have hlog : (k : ℤ) ≤ Int.log 2 q := by
    rw [← Int.zpow_le_iff_le_log one_lt_two hq, Nat.cast_ofNat, zpow_natCast]
    exact h
  have hself : (2 : ℚ) ^ Int.log 2 q ≤ q := by
    simpa using Int.zpow_log_le_self one_lt_two hq
  have hplace : (0 : ℚ) < 2 ^ lastPlace q := zpow_pos two_pos _
  have hbits : (2 : ℚ) ^ (52 : ℤ) ≤ roundEven (q / 2 ^ lastPlace q) := by
    have hquotient : (2 : ℚ) ^ (52 : ℤ) ≤ q / 2 ^ lastPlace q := by
      rw [le_div_iff₀ hplace, ← zpow_add₀ two_ne_zero, lastPlace]
      simpa using hself
    have hfloor : (2 ^ 52 : ℤ) ≤ ⌊q / 2 ^ lastPlace q⌋ := by
      rw [Int.le_floor]
      exact_mod_cast hquotient
    exact_mod_cast hfloor.trans (floor_le_roundEven _)
  rw [nearest, if_neg hq.ne', if_pos hq, nearestPos]
  calc (2 : ℚ) ^ k = 2 ^ (k : ℤ) := (zpow_natCast 2 k).symm
    _ ≤ 2 ^ Int.log 2 q := zpow_le_zpow_right₀ one_le_two hlog
    _ = 2 ^ (52 : ℤ) * 2 ^ lastPlace q := by
      rw [← zpow_add₀ two_ne_zero, lastPlace, add_sub_cancel]
    _ ≤ roundEven (q / 2 ^ lastPlace q) * 2 ^ lastPlace q :=
      mul_le_mul_of_nonneg_right hbits hplace.le

end Double
