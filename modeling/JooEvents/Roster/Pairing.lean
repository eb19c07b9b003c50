import JooEvents.Kernel.Number
import JooEvents.Lib.Double
import JooEvents.Lib.Fallible
import Mathlib.Tactic.Ring

/-!
# Pairs of versions

The version of a projection of the roster is made of the version of a record and that of a fact by
Cantor's pairing, in double precision. The product in it leaves the integers that are exact before
it is halved : but a product of two neighbours is even, so that the product of every pair that has
a safe result is exact, and one that is not exact has left the safe integers for good
(`pairSafePositiveIntegers_eq`).
-/

namespace JooEvents

open Fallible

/-- Why versions are not paired. -/
inductive VersionPairingError where
  | invalid
  | overflow

/-- `pairSafePositiveIntegers`, in double precision. -/
def pairSafePositiveIntegers (left right : ℚ) : Except VersionPairingError ℚ := do
  require (isSafeInteger left ∧ 0 < left ∧ isSafeInteger right ∧ 0 < right) .invalid
  let x := Double.nearest (left - 1)
  let y := Double.nearest (right - 1)
  let sum := Double.nearest (x + y)
  let product := Double.nearest (sum * Double.nearest (sum + 1))
  let paired := Double.nearest (Double.nearest (Double.nearest (product / 2) + y) + 1)
  require (isSafeInteger paired ∧ 0 < paired) .overflow
  return paired

def cantorPair (a b : ℕ) : ℕ := (a - 1 + (b - 1)) * (a - 1 + (b - 1) + 1) / 2 + (b - 1) + 1

/-! ## What is computed -/

theorem not_isSafeInteger_of_le {q : ℚ} (h : (2 : ℚ) ^ 53 ≤ q) : ¬ isSafeInteger q := by
  rintro ⟨-, hle⟩
  have hmax : ((maxSafeInteger : ℕ) : ℚ) = 2 ^ 53 - 1 := by norm_num [maxSafeInteger]
  rw [hmax] at hle
  have := (le_abs_self q).trans hle
  linarith

theorem le_nearest_add_nat {q : ℚ} (h : (2 : ℚ) ^ 53 ≤ q) (n : ℕ) :
    (2 : ℚ) ^ 53 ≤ Double.nearest (q + n) :=
  Double.two_pow_le_nearest (h.trans (le_add_of_nonneg_right (Nat.cast_nonneg n)))

theorem nearest_triangle {s t : ℕ} (hst : s * (s + 1) = 2 * t) (ht : t < 2 ^ 53) :
    Double.nearest (Double.nearest (Double.nearest s * Double.nearest (Double.nearest s + 1)) / 2) =
      t := by
  have hs : s + 1 < 2 ^ 53 := by
    by_contra hlarge
    have hle : (2 ^ 53 - 1) * 2 ^ 53 ≤ s * (s + 1) := Nat.mul_le_mul (by omega) (by omega)
    omega
  have hproduct : (s : ℚ) * (s + 1 : ℕ) = t * 2 ^ 1 := by
    rw [pow_one, mul_comm (t : ℚ) 2]
    exact_mod_cast hst
  have hsucc : Double.nearest ((s : ℚ) + 1) = (s + 1 : ℕ) := by
    rw [← Double.nearest_natCast hs]
    push_cast
    rfl
  rw [Double.nearest_natCast (show s < 2 ^ 53 by omega), hsucc, hproduct,
    Double.nearest_natCast_mul ht 1, pow_one, mul_div_cancel_right₀ _ two_ne_zero,
    Double.nearest_natCast ht]

theorem le_nearest_triangle {s t : ℕ} (hst : s * (s + 1) = 2 * t) (ht : 2 ^ 53 ≤ t) :
    (2 : ℚ) ^ 53 ≤ Double.nearest
      (Double.nearest (Double.nearest s * Double.nearest (Double.nearest s + 1)) / 2) := by
  have hproduct : (2 : ℚ) ^ 54 ≤ Double.nearest s * Double.nearest (Double.nearest s + 1) := by
    by_cases hs : s + 1 < 2 ^ 53
    · have hsucc : Double.nearest ((s : ℚ) + 1) = (s + 1 : ℕ) := by
        rw [← Double.nearest_natCast hs]
        push_cast
        rfl
      rw [Double.nearest_natCast (show s < 2 ^ 53 by omega), hsucc]
      have hle : 2 ^ 54 ≤ s * (s + 1) := by omega
      exact_mod_cast hle
    · have hle : 2 ^ 52 ≤ s := by omega
      have hleft : (2 : ℚ) ^ 52 ≤ Double.nearest s :=
        Double.two_pow_le_nearest (by exact_mod_cast hle)
      have hright : (2 : ℚ) ^ 52 ≤ Double.nearest (Double.nearest s + 1) :=
        Double.two_pow_le_nearest (hleft.trans (le_add_of_nonneg_right zero_le_one))
      calc (2 : ℚ) ^ 54 ≤ 2 ^ 52 * 2 ^ 52 := by norm_num
        _ ≤ Double.nearest s * Double.nearest (Double.nearest s + 1) :=
          mul_le_mul hleft hright (by positivity) ((by positivity : (0 : ℚ) ≤ 2 ^ 52).trans hleft)
  refine Double.two_pow_le_nearest ?_
  have hrounded := Double.two_pow_le_nearest hproduct
  rw [le_div_iff₀ two_pos]
  calc (2 : ℚ) ^ 53 * 2 = 2 ^ 54 := by norm_num
    _ ≤ _ := hrounded

theorem two_mul_triangle (s : ℕ) : s * (s + 1) = 2 * (s * (s + 1) / 2) :=
  (Nat.mul_div_cancel' (Nat.even_mul_succ_self s).two_dvd).symm

theorem pairSafePositiveIntegers_eq (a b : PositiveSafe) :
    pairSafePositiveIntegers a.val b.val =
      if cantorPair a.val b.val ≤ maxSafeInteger then .ok (cantorPair a.val b.val : ℚ)
      else .error .overflow := by
  obtain ⟨a, ha, hamax⟩ := a
  obtain ⟨b, hb, hbmax⟩ := b
  obtain ⟨x, rfl⟩ : ∃ x, a = x + 1 := ⟨a - 1, by omega⟩
  obtain ⟨y, rfl⟩ : ∃ y, b = y + 1 := ⟨b - 1, by omega⟩
  rw [maxSafeInteger] at hamax hbmax
  have hvalid : isSafeInteger ((x + 1 : ℕ) : ℚ) ∧ (0 : ℚ) < (x + 1 : ℕ) ∧
      isSafeInteger ((y + 1 : ℕ) : ℚ) ∧ (0 : ℚ) < (y + 1 : ℕ) :=
    ⟨isSafeInteger_natCast (by omega), by positivity, isSafeInteger_natCast (by omega),
      by positivity⟩
  have hx : Double.nearest (((x + 1 : ℕ) : ℚ) - 1) = x := by
    rw [Nat.cast_add, Nat.cast_one, add_sub_cancel_right]
    exact Double.nearest_natCast (by omega)
  have hy : Double.nearest (((y + 1 : ℕ) : ℚ) - 1) = y := by
    rw [Nat.cast_add, Nat.cast_one, add_sub_cancel_right]
    exact Double.nearest_natCast (by omega)
  have hst := two_mul_triangle (x + y)
  set t := (x + y) * (x + y + 1) / 2 with ht
  have hcantor : cantorPair (x + 1) (y + 1) = t + y + 1 := rfl
  simp only [pairSafePositiveIntegers, require_true hvalid, ok_bind, hx, hy, hcantor]
  rw [← Nat.cast_add x y]
  by_cases hsmall : t < 2 ^ 53
  · rw [nearest_triangle hst hsmall, ← Nat.cast_add t y]
    by_cases hsum : t + y + 1 < 2 ^ 53
    · have hlast : Double.nearest (((t + y : ℕ) : ℚ) + 1) = (t + y + 1 : ℕ) := by
        rw [← Double.nearest_natCast hsum]
        push_cast
        rfl
      rw [Double.nearest_natCast (show t + y < 2 ^ 53 by omega), hlast,
        require_true ⟨isSafeInteger_natCast hsum, by positivity⟩, ok_bind,
        if_pos (show t + y + 1 ≤ maxSafeInteger from Nat.le_sub_one_of_lt hsum)]
      rfl
    · have hlarge : (2 : ℚ) ^ 53 ≤ Double.nearest (Double.nearest (t + y : ℕ) + 1) := by
        refine Double.two_pow_le_nearest ?_
        by_cases hexact : t + y < 2 ^ 53
        · rw [Double.nearest_natCast hexact]
          have hle : 2 ^ 53 ≤ t + y + 1 := by omega
          exact_mod_cast hle
        · have hle : (2 : ℚ) ^ 53 ≤ Double.nearest (t + y : ℕ) :=
            Double.two_pow_le_nearest (by exact_mod_cast (by omega : 2 ^ 53 ≤ t + y))
          linarith
      rw [require_false fun h => not_isSafeInteger_of_le hlarge h.1, error_bind,
        if_neg (by rw [maxSafeInteger]; omega)]
  · have hlarge := le_nearest_triangle hst (Nat.le_of_not_lt hsmall)
    have hsum := le_nearest_add_nat hlarge y
    have hlast := le_nearest_add_nat hsum 1
    rw [Nat.cast_one] at hlast
    rw [require_false fun h => not_isSafeInteger_of_le hlast h.1, error_bind,
      if_neg (by rw [maxSafeInteger]; omega)]

/-! ## Cantor's pairing -/

theorem cantorPair_succ (x y : ℕ) :
    cantorPair (x + 1) (y + 1) = (x + y) * (x + y + 1) / 2 + y + 1 := rfl

theorem triangle_succ (s : ℕ) : (s + 1) * (s + 1 + 1) / 2 = s * (s + 1) / 2 + (s + 1) := by
  rw [show (s + 1) * (s + 1 + 1) = s * (s + 1) + (s + 1) * 2 by ring,
    Nat.add_mul_div_right _ _ two_pos]

theorem triangle_mono {s t : ℕ} (h : s ≤ t) : s * (s + 1) / 2 ≤ t * (t + 1) / 2 :=
  Nat.div_le_div_right (Nat.mul_le_mul h (Nat.succ_le_succ h))

theorem cantorPair_lt_of_diagonal {x y x' y' : ℕ} (h : x + y < x' + y') :
    cantorPair (x + 1) (y + 1) < cantorPair (x' + 1) (y' + 1) := by
  have hnext := triangle_mono (Nat.succ_le_of_lt h)
  rw [Nat.succ_eq_add_one, triangle_succ] at hnext
  rw [cantorPair_succ, cantorPair_succ]
  omega

theorem cantorPair_succ_inj {x y x' y' : ℕ}
    (h : cantorPair (x + 1) (y + 1) = cantorPair (x' + 1) (y' + 1)) : x = x' ∧ y = y' := by
  rcases lt_trichotomy (x + y) (x' + y') with hlt | heq | hlt
  · exact absurd h (cantorPair_lt_of_diagonal hlt).ne
  · rw [cantorPair_succ, cantorPair_succ, heq] at h
    omega
  · exact absurd h (cantorPair_lt_of_diagonal hlt).ne'

theorem cantorPair_inj {a b c d : PositiveSafe}
    (h : cantorPair a.val b.val = cantorPair c.val d.val) : (a, b) = (c, d) := by
  have hpred (v : PositiveSafe) : v.val = v.val - 1 + 1 := (Nat.sub_add_cancel v.2.1).symm
  rw [hpred a, hpred b, hpred c, hpred d] at h
  obtain ⟨hleft, hright⟩ := cantorPair_succ_inj h
  have hac : a = c := Subtype.ext (by rw [hpred a, hleft, ← hpred c])
  have hbd : b = d := Subtype.ext (by rw [hpred b, hright, ← hpred d])
  rw [hac, hbd]

theorem cantorPair_lt_left {a c : ℕ} (b : ℕ) (ha : 0 < a) (hb : 0 < b) (h : a < c) :
    cantorPair a b < cantorPair c b := by
  obtain ⟨x, rfl⟩ := Nat.exists_eq_succ_of_ne_zero ha.ne'
  obtain ⟨y, rfl⟩ := Nat.exists_eq_succ_of_ne_zero hb.ne'
  obtain ⟨z, rfl⟩ := Nat.exists_eq_succ_of_ne_zero (ha.trans h).ne'
  exact cantorPair_lt_of_diagonal (by omega)

theorem cantorPair_lt_right {b d : ℕ} (a : ℕ) (ha : 0 < a) (hb : 0 < b) (h : b < d) :
    cantorPair a b < cantorPair a d := by
  obtain ⟨x, rfl⟩ := Nat.exists_eq_succ_of_ne_zero ha.ne'
  obtain ⟨y, rfl⟩ := Nat.exists_eq_succ_of_ne_zero hb.ne'
  obtain ⟨z, rfl⟩ := Nat.exists_eq_succ_of_ne_zero (hb.trans h).ne'
  exact cantorPair_lt_of_diagonal (by omega)

theorem pairSafePositiveIntegers_eq_ok {a b : PositiveSafe} {paired : ℚ}
    (h : pairSafePositiveIntegers a.val b.val = .ok paired) :
    paired = cantorPair a.val b.val ∧ cantorPair a.val b.val ≤ maxSafeInteger := by
  rw [pairSafePositiveIntegers_eq] at h
  split_ifs at h with hle
  exact ⟨(Except.ok.inj h).symm, hle⟩

/-- A version of the projection determines both versions that it is made of, grows with each of
them, and is missing only where the exact pairing is not a safe integer. -/
theorem version_pairing_exact (a b : PositiveSafe) :
    ((∃ error, pairSafePositiveIntegers a.val b.val = .error error) ↔
      maxSafeInteger < cantorPair a.val b.val) ∧
    ∀ paired, pairSafePositiveIntegers a.val b.val = .ok paired →
      (∃ version : PositiveSafe, paired = version.val) ∧
      ∀ (c d : PositiveSafe) (other : ℚ), pairSafePositiveIntegers c.val d.val = .ok other →
        (paired = other → (a, b) = (c, d)) ∧
        (a < c → b = d → paired < other) ∧
        (a = c → b < d → paired < other) := by
  constructor
  · rw [pairSafePositiveIntegers_eq]
    split_ifs with hle
    · exact ⟨fun ⟨_, h⟩ => absurd h (by simp), fun h => absurd hle (Nat.not_le_of_lt h)⟩
    · exact ⟨fun _ => Nat.lt_of_not_le hle, fun _ => ⟨_, rfl⟩⟩
  · intro paired hpaired
    obtain ⟨rfl, hsafe⟩ := pairSafePositiveIntegers_eq_ok hpaired
    refine ⟨⟨⟨cantorPair a.val b.val, Nat.succ_pos _, hsafe⟩, rfl⟩, ?_⟩
    intro c d other hother
    obtain ⟨rfl, -⟩ := pairSafePositiveIntegers_eq_ok hother
    refine ⟨fun h => cantorPair_inj (Nat.cast_injective h), ?_, ?_⟩
    · rintro hac rfl
      exact_mod_cast cantorPair_lt_left b.val a.2.1 b.2.1 hac
    · rintro rfl hbd
      exact_mod_cast cantorPair_lt_right a.val a.2.1 b.2.1 hbd

end JooEvents
