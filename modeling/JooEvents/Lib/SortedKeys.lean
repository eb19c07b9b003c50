import Mathlib.Data.List.Chain
import Mathlib.Data.List.Sort

/-!
# Lists sorted by a key

A list is sorted by a key and then checked for neighbours of one key : it passes exactly when
no two of its elements have one key (`isChain_ne_sortByKey_iff`), and it is then the only list
of these elements in strict order (`sortByKey_eq_of_perm`).
-/

namespace List

variable {α κ : Type} [LinearOrder κ] {key : α → κ} {as bs : List α}

/-- The list in the order of the key. -/
def sortByKey (key : α → κ) (as : List α) : List α :=
  as.insertionSort fun a b => key a ≤ key b

theorem perm_sortByKey (key : α → κ) (as : List α) : as.sortByKey key ~ as :=
  perm_insertionSort _ _

@[simp] theorem mem_sortByKey {a : α} : a ∈ as.sortByKey key ↔ a ∈ as :=
  (perm_sortByKey key as).mem_iff

theorem pairwise_sortByKey (key : α → κ) (as : List α) :
    (as.sortByKey key).Pairwise fun a b => key a ≤ key b := by
  have total : Std.Total fun a b : α => key a ≤ key b := ⟨fun a b => le_total (key a) (key b)⟩
  have trans : IsTrans α fun a b => key a ≤ key b := ⟨fun _ _ _ => le_trans⟩
  exact pairwise_insertionSort _ _

theorem pairwise_lt_of_isChain_ne (h : as.Pairwise fun a b => key a ≤ key b)
    (hne : (as.map key).IsChain (· ≠ ·)) : as.Pairwise fun a b => key a < key b := by
  have hchain : (as.map key).IsChain (· < ·) := by
    rw [isChain_map] at hne ⊢
    rw [isChain_iff_getElem] at hne ⊢
    intro i hi
    exact lt_of_le_of_ne (h.isChain.getElem i hi) (hne i hi)
  exact pairwise_map.mp hchain.pairwise

theorem isChain_ne_of_pairwise_lt (h : as.Pairwise fun a b => key a < key b) :
    (as.map key).IsChain (· ≠ ·) :=
  ((pairwise_map.mpr h).isChain).imp fun _ _ => ne_of_lt

theorem nodup_map_of_pairwise_lt (h : as.Pairwise fun a b => key a < key b) :
    (as.map key).Nodup :=
  (pairwise_map.mpr h).imp ne_of_lt

/-- No neighbours of the sorted list have one key exactly when no two elements do. -/
theorem isChain_ne_sortByKey_iff :
    ((as.sortByKey key).map key).IsChain (· ≠ ·) ↔ (as.map key).Nodup := by
  have hnodup : ((as.sortByKey key).map key).Nodup ↔ (as.map key).Nodup :=
    ((perm_sortByKey key as).map key).nodup_iff
  rw [← hnodup]
  constructor
  · exact fun h => nodup_map_of_pairwise_lt (pairwise_lt_of_isChain_ne (pairwise_sortByKey key as) h)
  · exact fun h => Pairwise.isChain h

theorem pairwise_lt_sortByKey (h : (as.map key).Nodup) :
    (as.sortByKey key).Pairwise fun a b => key a < key b :=
  pairwise_lt_of_isChain_ne (pairwise_sortByKey key as) (isChain_ne_sortByKey_iff.mpr h)

theorem eq_of_perm_of_pairwise_lt (ha : as.Pairwise fun a b => key a < key b)
    (hb : bs.Pairwise fun a b => key a < key b) (h : as ~ bs) : as = bs :=
  Perm.eq_of_pairwise (fun _ _ _ _ hab hba => absurd (hab.trans hba) (lt_irrefl _)) ha hb h

theorem sortByKey_eq_self (h : as.Pairwise fun a b => key a < key b) : as.sortByKey key = as :=
  eq_of_perm_of_pairwise_lt (pairwise_lt_sortByKey (nodup_map_of_pairwise_lt h)) h
    (perm_sortByKey key as)

/-- The sorted list does not depend on the order of a list without two elements of one key. -/
theorem sortByKey_eq_of_perm (hnd : (as.map key).Nodup) (h : as ~ bs) :
    as.sortByKey key = bs.sortByKey key :=
  eq_of_perm_of_pairwise_lt (pairwise_lt_sortByKey hnd)
    (pairwise_lt_sortByKey ((h.map key).nodup_iff.mp hnd))
    ((perm_sortByKey key as).trans (h.trans (perm_sortByKey key bs).symm))

/-- By a key that tells the elements, a list is sorted like another of the same elements. -/
theorem sortByKey_eq_iff_perm (hkey : Function.Injective key) :
    as.sortByKey key = bs.sortByKey key ↔ as ~ bs := by
  constructor
  · intro h
    exact (perm_sortByKey key as).symm.trans (h ▸ perm_sortByKey key bs)
  · intro h
    exact Perm.eq_of_pairwise (fun _ _ _ _ hab hba => hkey (le_antisymm hab hba))
      (pairwise_sortByKey key as) (pairwise_sortByKey key bs)
      ((perm_sortByKey key as).trans (h.trans (perm_sortByKey key bs).symm))

end List
