import Mathlib.Data.List.Forall2
import Mathlib.Data.List.Nodup
import Mathlib.Data.List.Pairwise

/-!
# Lists keyed by a field

A store is a list whose elements have distinct keys. A search by key finds exactly
the element with that key (`find?_key_eq_some_iff`), and two elements with one key
are one element (`eq_of_key_eq`). `replaceFirst` exchanges the first element that
satisfies a test for a list of new ones. Stores that correspond element by element
with their keys kept are alike in every respect that is about keys.
-/

namespace Keyed

variable {α κ : Type*} [DecidableEq κ] {key : α → κ} {as : List α}

omit [DecidableEq κ] in
theorem eq_of_key_eq (hnd : (as.map key).Nodup) {a b : α} (ha : a ∈ as) (hb : b ∈ as)
    (h : key a = key b) : a = b :=
  List.inj_on_of_nodup_map hnd ha hb h

/-- Elements that have a key, each another, are one where their keys are. -/
theorem eq_of_filterMap_eq {α β : Type*} {f : α → Option β} {as : List α}
    (hnd : (as.filterMap f).Nodup) {a a' : α} (ha : a ∈ as) (ha' : a' ∈ as) {b : β}
    (hb : f a = some b) (hb' : f a' = some b) : a = a' := by
  by_contra hne
  have symm : Std.Symm fun a a' : α => ∀ b, f a = some b → ∀ b', f a' = some b' → b ≠ b' :=
    ⟨fun _ _ hxy c hc c' hc' => (hxy c' hc' c hc).symm⟩
  exact (List.pairwise_filterMap.mp hnd).forall ha ha' hne b hb b hb' rfl

/-- A search by key finds an element and its key. -/
theorem mem_of_find?_key {k : κ} {a : α} (h : (as.find? fun x => key x = k) = some a) :
    a ∈ as ∧ key a = k :=
  ⟨List.mem_of_find?_eq_some h, by simpa using List.find?_some h⟩

theorem find?_key_eq_some_iff (hnd : (as.map key).Nodup) {k : κ} {a : α} :
    (as.find? fun x => key x = k) = some a ↔ a ∈ as ∧ key a = k := by
  refine ⟨mem_of_find?_key, ?_⟩
  rintro ⟨ha, rfl⟩
  cases hfind : as.find? fun x => key x = key a with
  | none => exact absurd (List.find?_eq_none.mp hfind a ha) (by simp)
  | some b =>
    obtain ⟨hb, hkey⟩ := mem_of_find?_key hfind
    rw [eq_of_key_eq hnd hb ha hkey]

omit [DecidableEq κ] in
/-- A search with a further test finds what it found before, if that passes the test. -/
theorem find?_and {p q : α → Bool} {a : α} (h : as.find? p = some a) (hq : q a = true) :
    (as.find? fun x => p x && q x) = some a := by
  obtain ⟨hp, before, after, rfl, hbefore⟩ := List.find?_eq_some_iff_append.mp h
  refine List.find?_eq_some_iff_append.mpr
    ⟨by simp [hp, hq], before, after, rfl, fun x hx => ?_⟩
  simp [by simpa using hbefore x hx]

theorem find?_key_eq_none_iff {k : κ} :
    (as.find? fun x => key x = k) = none ↔ ∀ a ∈ as, key a ≠ k := by
  simp [List.find?_eq_none]

/-- Searching what a list was mapped to by key finds what the element with that key was
mapped to. -/
theorem find?_filterMap_key {β : Type*} {key' : β → κ} {g : α → Option β}
    (hg : ∀ a, ∀ b ∈ g a, key' b = key a) :
    ∀ {as : List α}, (as.map key).Nodup → ∀ a ∈ as,
      ((as.filterMap g).find? fun b => key' b = key a) = g a
  | [], _, a, ha => by cases ha
  | c :: as, hnd, a, ha => by
    rw [List.map_cons, List.nodup_cons] at hnd
    rcases List.mem_cons.mp ha with rfl | ha
    · cases hga : g a with
      | some b => rw [List.filterMap_cons_some hga, List.find?_cons_of_pos (by simp [hg a b hga])]
      | none =>
        rw [List.filterMap_cons_none hga, find?_key_eq_none_iff]
        intro b hb hkey
        obtain ⟨a', ha', hgb⟩ := List.mem_filterMap.mp hb
        exact hnd.1 (List.mem_map.mpr ⟨a', ha', (hg a' b hgb).symm.trans hkey⟩)
    · have hne : key c ≠ key a := fun h => hnd.1 (List.mem_map.mpr ⟨a, ha, h.symm⟩)
      cases hgc : g c with
      | some b =>
        rw [List.filterMap_cons_some hgc, List.find?_cons_of_neg (by simp [hg c b hgc, hne]),
          find?_filterMap_key hg hnd.2 a ha]
      | none => rw [List.filterMap_cons_none hgc, find?_filterMap_key hg hnd.2 a ha]

/-- Elements that correspond with their keys kept. -/
theorem map_eq_of_forall₂ {α β κ : Type*} {f : α → κ} {g : β → κ} {R : α → β → Prop}
    (hR : ∀ a b, R a b → g b = f a) {as : List α} {bs : List β} (h : List.Forall₂ R as bs) :
    bs.map g = as.map f := by
  induction h with
  | nil => rfl
  | cons hab _ ih => rw [List.map_cons, List.map_cons, hR _ _ hab, ih]

/-- Distinct keys stay distinct where equal new keys come of equal old ones. -/
theorem nodup_map_of_forall₂ {α β κ κ' : Type*} {R : α → β → Prop} {key : α → κ} {key' : β → κ'}
    (hR : ∀ a a' b b', R a b → R a' b' → key' b = key' b' → key a = key a') :
    ∀ {as : List α} {bs : List β}, List.Forall₂ R as bs → (as.map key).Nodup →
      (bs.map key').Nodup
  | [], [], .nil, _ => List.nodup_nil
  | a :: as, b :: bs, .cons hab h, hnodup => by
    obtain ⟨hnotin, hnodup⟩ := List.nodup_cons.mp hnodup
    refine List.nodup_cons.mpr ⟨fun hmem => hnotin ?_, nodup_map_of_forall₂ hR h hnodup⟩
    obtain ⟨b', hb', heq⟩ := List.mem_map.mp hmem
    obtain ⟨i, hi, rfl⟩ := List.getElem_of_mem hb'
    rw [List.forall₂_iff_get] at h
    have hcorresponds := h.2 i (h.1 ▸ hi) hi
    exact List.mem_map.mpr ⟨_, List.getElem_mem _, (hR _ _ _ _ hab hcorresponds heq.symm).symm⟩

theorem pairwise_of_map_eq {α β κ : Type*} {f : α → κ} {g : β → κ} {S : κ → κ → Prop}
    {as : List α} {bs : List β} (h : bs.map g = as.map f)
    (hp : as.Pairwise fun a b => S (f a) (f b)) : bs.Pairwise fun a b => S (g a) (g b) := by
  rw [← List.pairwise_map] at hp ⊢
  rwa [h]

theorem exists_left_of_forall₂ {α β : Type*} {R : α → β → Prop} {as : List α} {bs : List β}
    (h : List.Forall₂ R as bs) {b : β} (hb : b ∈ bs) : ∃ a ∈ as, R a b := by
  induction h with
  | nil => cases hb
  | cons hab _ ih =>
    rcases List.mem_cons.mp hb with rfl | hb
    · exact ⟨_, by simp, hab⟩
    · obtain ⟨a, ha, hR⟩ := ih hb
      exact ⟨a, by simp [ha], hR⟩

/-- Elements that correspond are elements. -/
theorem forall₂_mem {α β : Type*} {R : α → β → Prop} {as : List α} {bs : List β}
    (h : List.Forall₂ R as bs) : List.Forall₂ (fun a b => a ∈ as ∧ b ∈ bs ∧ R a b) as bs :=
  (List.forall₂_and_left _ _).mpr ⟨fun _ ha => ha,
    ((List.forall₂_and_left _ _).mpr ⟨fun _ hb => hb, h.flip⟩).flip⟩

/-- What corresponding elements have in common, all of the one list have when all of the other
do. -/
theorem forall_mem_iff_of_forall₂ {α β : Type*} {R : α → β → Prop} {p : α → Prop} {q : β → Prop}
    (hR : ∀ a b, R a b → (p a ↔ q b)) {as : List α} {bs : List β} (h : List.Forall₂ R as bs) :
    (∀ a ∈ as, p a) ↔ ∀ b ∈ bs, q b := by
  induction h with
  | nil => simp
  | cons hab _ ih => rw [List.forall_mem_cons, List.forall_mem_cons, hR _ _ hab, ih]

/-- Elements that correspond along two lists. -/
theorem forall₂_comp {α β γ : Type*} {R : α → β → Prop} {S : β → γ → Prop} :
    ∀ {as : List α} {bs : List β} {cs : List γ}, List.Forall₂ R as bs → List.Forall₂ S bs cs →
      List.Forall₂ (fun a c => ∃ b, R a b ∧ S b c) as cs
  | _, _, _, .nil, .nil => .nil
  | _, _, _, .cons hR hRs, .cons hS hSs => .cons ⟨_, hR, hS⟩ (forall₂_comp hRs hSs)

/-- The list with the first element that satisfies `p` replaced by the elements `new`. -/
def replaceFirst (p : α → Bool) (new : List α) : List α → List α
  | [] => []
  | a :: as => if p a then new ++ as else a :: replaceFirst p new as

theorem replaceFirst_congr {p q : α → Bool} {new : List α} :
    ∀ {as : List α}, (∀ a ∈ as, p a = q a) → replaceFirst p new as = replaceFirst q new as
  | [], _ => rfl
  | a :: as, h => by
    rw [replaceFirst, replaceFirst, h a (by simp),
      replaceFirst_congr fun b hb => h b (by simp [hb])]

/-- Replacing the element with a key leaves the elements with other keys and the new
ones. -/
theorem mem_replaceFirst {k : κ} {new : List α} {a : α} :
    ∀ {as : List α}, (as.map key).Nodup → (∃ b ∈ as, key b = k) →
      (a ∈ replaceFirst (fun x => key x = k) new as ↔ a ∈ new ∨ a ∈ as ∧ key a ≠ k)
  | [], _, h => by simp at h
  | b :: as, hnd, h => by
    rw [List.map_cons, List.nodup_cons] at hnd
    by_cases hb : key b = k
    · have hrest : ∀ x ∈ as, key x ≠ k := fun x hx hk =>
        hnd.1 (List.mem_map.mpr ⟨x, hx, hk.trans hb.symm⟩)
      rw [replaceFirst, if_pos (by simp [hb]), List.mem_append, List.mem_cons]
      constructor
      · rintro (ha | ha)
        · exact Or.inl ha
        · exact Or.inr ⟨Or.inr ha, hrest a ha⟩
      · rintro (ha | ⟨rfl | ha, hne⟩)
        · exact Or.inl ha
        · exact absurd hb hne
        · exact Or.inr ha
    · have hex : ∃ c ∈ as, key c = k := by
        obtain ⟨c, hc, hk⟩ := h
        rcases List.mem_cons.mp hc with rfl | hc
        · exact absurd hk hb
        · exact ⟨c, hc, hk⟩
      rw [replaceFirst, if_neg (by simp [hb]), List.mem_cons, List.mem_cons,
        mem_replaceFirst hnd.2 hex]
      constructor
      · rintro (rfl | ha | ⟨ha, hne⟩)
        · exact Or.inr ⟨Or.inl rfl, hb⟩
        · exact Or.inl ha
        · exact Or.inr ⟨Or.inr ha, hne⟩
      · rintro (ha | ⟨rfl | ha, hne⟩)
        · exact Or.inr (Or.inl ha)
        · exact Or.inl rfl
        · exact Or.inr (Or.inr ⟨ha, hne⟩)

/-- Keys stay distinct when the new elements have the key of the one they replace. -/
theorem nodup_replaceFirst {k : κ} {new : List α} (hnew : ∀ a ∈ new, key a = k)
    (hone : (new.map key).Nodup) :
    ∀ {as : List α}, (as.map key).Nodup →
      ((replaceFirst (fun x => key x = k) new as).map key).Nodup
  | [], _ => List.nodup_nil
  | b :: as, hnd => by
    rw [List.map_cons, List.nodup_cons] at hnd
    by_cases hb : key b = k
    · rw [replaceFirst, if_pos (by simp [hb]), List.map_append]
      refine hone.append hnd.2 fun x hx hx' => ?_
      obtain ⟨a, ha, rfl⟩ := List.mem_map.mp hx
      exact hnd.1 (by rwa [hb, ← hnew a ha])
    · rw [replaceFirst, if_neg (by simp [hb]), List.map_cons, List.nodup_cons]
      refine ⟨fun hmem => ?_, nodup_replaceFirst hnew hone hnd.2⟩
      obtain ⟨a, ha, hkey⟩ := List.mem_map.mp hmem
      by_cases hex : ∃ c ∈ as, key c = k
      · rcases (mem_replaceFirst hnd.2 hex).mp ha with ha | ⟨ha, -⟩
        · exact hb (hkey.symm.trans (hnew a ha))
        · exact hnd.1 (List.mem_map.mpr ⟨a, ha, hkey⟩)
      · have hsame : ∀ {l : List α}, (¬ ∃ c ∈ l, key c = k) →
            replaceFirst (fun x => key x = k) new l = l := by
          intro l hl
          induction l with
          | nil => rfl
          | cons c l ih =>
            rw [replaceFirst, if_neg (by simpa using fun hc => hl ⟨c, by simp, hc⟩),
              ih fun ⟨d, hd, hk⟩ => hl ⟨d, by simp [hd], hk⟩]
        rw [hsame hex] at ha
        exact hnd.1 (List.mem_map.mpr ⟨a, ha, hkey⟩)

end Keyed
