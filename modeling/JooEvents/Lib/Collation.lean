import Mathlib.Data.List.Sort
import Mathlib.Order.Antisymmetrization

/-!
# Lists sorted by a comparison

A comparison may find different values equal, so a list has several sorted arrangements. Two of
them have comparable values place by place (`forall₂_eq_of_perm`) : sorting what was permuted
permutes only values that compare equal (`forall₂_eq_sortByComparison`).
-/

namespace List

variable {α : Type} {cmp : α → α → Ordering} {as bs : List α}

/-- `values.sort(comparison)`. -/
def sortByComparison (cmp : α → α → Ordering) (as : List α) : List α :=
  as.insertionSort fun a b => cmp a b ≠ .gt

theorem perm_sortByComparison (cmp : α → α → Ordering) (as : List α) :
    as.sortByComparison cmp ~ as :=
  perm_insertionSort _ _

theorem ne_gt_iff_isLE (o : Ordering) : o ≠ .gt ↔ o.isLE = true := by
  cases o <;> decide

theorem pairwise_sortByComparison [Std.TransCmp cmp] (as : List α) :
    (as.sortByComparison cmp).Pairwise fun a b => cmp a b ≠ .gt := by
  have total : Std.Total fun a b : α => cmp a b ≠ .gt := ⟨fun a b => by
    have hswap : cmp a b = (cmp b a).swap := Std.OrientedCmp.eq_swap
    rw [hswap]
    cases cmp b a <;> simp⟩
  have trans : IsTrans α fun a b : α => cmp a b ≠ .gt := ⟨fun a b c => by
    simp only [ne_gt_iff_isLE]
    exact Std.TransCmp.isLE_trans⟩
  exact pairwise_insertionSort _ _

/-- Sorted arrangements of the same values compare equal place by place. -/
theorem forall₂_eq_of_perm [Std.TransCmp cmp] (h : as ~ bs)
    (has : as.Pairwise fun a b => cmp a b ≠ .gt) (hbs : bs.Pairwise fun a b => cmp a b ≠ .gt) :
    Forall₂ (fun a b => cmp a b = .eq) as bs := by
  let preorder : Preorder α :=
    { le := fun a b => cmp a b ≠ .gt
      le_refl := fun a => by
        have hself : cmp a a = .eq := Std.ReflCmp.compare_self
        rw [hself]
        decide
      le_trans := fun a b c => by
        simp only [ne_gt_iff_isLE]
        exact Std.TransCmp.isLE_trans }
  -- values that compare equal are one value of the quotient, which has one sorted arrangement
  let classOf : α → Antisymmetrization α (· ≤ ·) := toAntisymmetrization (· ≤ ·)
  have hsorted : ∀ {l : List α}, (l.Pairwise fun a b => cmp a b ≠ .gt) →
      (l.map classOf).Pairwise (· ≤ ·) := fun hl =>
    pairwise_map.mpr (hl.imp fun {a b} hab =>
      toAntisymmetrization_le_toAntisymmetrization_iff.mpr hab)
  have hclasses : as.map classOf = bs.map classOf :=
    (h.map classOf).eq_of_pairwise' (hsorted has) (hsorted hbs)
  have hforall : Forall₂ (fun a b => classOf a = classOf b) as bs := by
    rw [← forall₂_map_left_iff (R := fun c b => c = classOf b), ← forall₂_map_right_iff, hclasses,
      forall₂_same]
    exact fun _ _ => rfl
  refine hforall.imp fun a b hab => ?_
  have hle : ∀ x y : α, classOf x = classOf y → (cmp x y).isLE = true := fun x y hxy =>
    (ne_gt_iff_isLE _).mp (toAntisymmetrization_le_toAntisymmetrization_iff.mp hxy.le)
  have hswap := hle b a hab.symm
  have hflip : cmp b a = (cmp a b).swap := Std.OrientedCmp.eq_swap
  rw [hflip] at hswap
  have hab := hle a b hab
  cases h : cmp a b <;> simp_all

/-- Sorting what was permuted permutes only values that compare equal. -/
theorem forall₂_eq_sortByComparison [Std.TransCmp cmp] (h : as ~ bs) :
    Forall₂ (fun a b => cmp a b = .eq) (as.sortByComparison cmp) (bs.sortByComparison cmp) :=
  forall₂_eq_of_perm
    (((perm_sortByComparison cmp as).trans h).trans (perm_sortByComparison cmp bs).symm)
    (pairwise_sortByComparison as) (pairwise_sortByComparison bs)

end List
