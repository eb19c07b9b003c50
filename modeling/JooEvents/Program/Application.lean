import JooEvents.Program.Domain

/-!
# What applying a plan does

An applied plan leaves a vocabulary with the next version. The item the plan changes
is gone, what the plan writes in its place is there, and every other item is as it was
(`applyProgramVocabularyPlan_ok`). The items a plan writes are stored as they stand,
for a plan only parses when their names and accents are in stored form.
-/

namespace JooEvents

open Fallible

variable {D : Type}

theorem ProgramVocabularyState.refs_nodup {host : Host D} (state : ProgramVocabularyState host) :
    ((programVocabularyItems state).map PlannedProgramVocabularyItem.ref).Nodup := by
  have hnd : ((programVocabularyItems state).map PlannedProgramVocabularyItem.id).Nodup :=
    state.nodup
  rw [show PlannedProgramVocabularyItem.id = ProgramItemRef.id ∘ PlannedProgramVocabularyItem.ref
    from rfl, ← List.map_map] at hnd
  exact hnd.of_map

theorem PlannedProgramVocabularyItem.ref_eq_iff {a b : PlannedProgramVocabularyItem} :
    a.ref = b.ref ↔ a.kind = b.kind ∧ a.id = b.id := by
  simp [PlannedProgramVocabularyItem.ref]

variable [DecidableEq D]

omit [DecidableEq D] in
theorem ProgramVocabularyMutationPlan.written_subset_items
    {plan : ProgramVocabularyMutationPlan D} {item : PlannedProgramVocabularyItem}
    (h : item ∈ plan.written) : item ∈ plan.items := by
  cases plan <;> simp_all [written, items]

theorem planParses_iff {host : Host D} {plan : ProgramVocabularyMutationPlan D} :
    planParses host plan = true ↔
      (∀ item ∈ plan.items, item.Stored host) ∧ actionIsCoherent host plan = true := by
  simp only [planParses, mutationPlanIsCoherent, Bool.and_eq_true, List.all_eq_true,
    decide_eq_true_eq, ← and_assoc]
  refine and_congr_left fun _ => ?_
  exact ⟨fun h item hi => ⟨h.1 item hi, h.2 item hi⟩,
    fun h => ⟨fun item hi => (h item hi).name, fun item hi => (h item hi).accent⟩⟩

theorem stored_of_planParses {host : Host D} {plan : ProgramVocabularyMutationPlan D}
    (h : planParses host plan = true) : ∀ item ∈ plan.items, item.Stored host :=
  (planParses_iff.mp h).1

theorem ref_written_of_planParses {host : Host D} {plan : ProgramVocabularyMutationPlan D}
    (h : planParses host plan = true) {before : PlannedProgramVocabularyItem}
    (hb : plan.changed = some before) : ∀ item ∈ plan.written, item.ref = before.ref := by
  have hcoherent := (planParses_iff.mp h).2
  cases plan <;>
    simp_all [actionIsCoherent, ProgramVocabularyMutationPlan.changed,
      ProgramVocabularyMutationPlan.written]

/-- The items after a plan : those it writes, and the old ones it does not change. -/
def IsAfterPlan (plan : ProgramVocabularyMutationPlan D)
    (items after : List PlannedProgramVocabularyItem) : Prop :=
  ∀ item, item ∈ after ↔ item ∈ plan.written ∨
    item ∈ items ∧ ∀ before ∈ plan.changed, item.ref ≠ before.ref

/-- The part of the guards of `applyProgramVocabularyPlan` that is about single items. -/
def FindsItems (host : Host D) (state : ProgramVocabularyState host)
    (plan : ProgramVocabularyMutationPlan D) : Prop :=
  match plan.changed with
  | none => ∀ item ∈ programVocabularyItems state, ∀ after ∈ plan.written, item.id ≠ after.id
  | some before =>
    (∃ found ∈ programVocabularyItems state, found.ref = before.ref ∧
      host.digest found = host.digest before) ∧
    ∀ target ∈ plan.target, itemMatches host
      (resolveProgramVocabularyItem state target.kind target.id) target = true

theorem itemsAfterPlan_ok {host : Host D} {state : ProgramVocabularyState host}
    {plan : ProgramVocabularyMutationPlan D} {next : List PlannedProgramVocabularyItem}
    (h : itemsAfterPlan host state plan = .ok next) :
    FindsItems host state plan ∧ IsAfterPlan plan (programVocabularyItems state) next := by
  unfold FindsItems IsAfterPlan
  unfold itemsAfterPlan at h
  cases hc : plan.changed with
  | none =>
    simp only [hc, bind_eq_ok, require_eq_ok, exists_const, pure_eq_ok, List.all_eq_true,
      decide_eq_true_eq] at h
    obtain ⟨hfresh, rfl⟩ := h
    exact ⟨hfresh, fun item => by simp [or_comm]⟩
  | some before =>
    simp only [hc, bind_eq_ok, require_eq_ok, exists_const, pure_eq_ok, orRefuse_eq_ok,
      Option.all_eq_true] at h
    obtain ⟨found, hfound, hdigest, htarget, rfl⟩ := h
    obtain ⟨hfound, href⟩ := Keyed.mem_of_find?_key hfound
    refine ⟨⟨⟨found, hfound, href, hdigest⟩, htarget⟩, fun item => ?_⟩
    rw [Keyed.mem_replaceFirst state.refs_nodup ⟨found, hfound, href⟩]
    simp

theorem applyProgramVocabularyPlan_ok {host : Host D} {state state' : ProgramVocabularyState host}
    {plan : ProgramVocabularyMutationPlan D}
    (h : applyProgramVocabularyPlan host state plan = .ok state') :
    planParses host plan = true ∧ FindsItems host state plan ∧ state'.scope = state.scope ∧
      state'.setVersion.val = state.setVersion.val + 1 ∧
      IsAfterPlan plan (programVocabularyItems state) (programVocabularyItems state') := by
  simp only [applyProgramVocabularyPlan, bind_eq_ok, require_eq_ok, exists_const,
    orRefuse_eq_ok] at h
  obtain ⟨hparses, -, next, hnext, hcreate⟩ := h
  obtain ⟨hfinds, hafter⟩ := itemsAfterPlan_ok hnext
  have hstored : ∀ item ∈ next, item.Stored host := by
    intro item hi
    rcases (hafter item).mp hi with hi | ⟨hi, -⟩
    · exact stored_of_planParses hparses item (plan.written_subset_items hi)
    · exact state.stored _ item (mem_programVocabularyItems.mp hi)
  obtain ⟨hscope, hversion, hitems⟩ := createProgramVocabularyState_eq_some hstored hcreate
  exact ⟨hparses, hfinds, hscope, hversion, fun item => (hitems item).trans (hafter item)⟩

theorem resolve_written {host : Host D} {state state' : ProgramVocabularyState host}
    {plan : ProgramVocabularyMutationPlan D}
    (h : applyProgramVocabularyPlan host state plan = .ok state')
    {item : PlannedProgramVocabularyItem} (hi : item ∈ plan.written) :
    resolveProgramVocabularyItem state' item.kind item.id = some item :=
  resolve_eq_some_iff.mpr
    ⟨((applyProgramVocabularyPlan_ok h).2.2.2.2 item).mpr (Or.inl hi), rfl, rfl⟩

end JooEvents
