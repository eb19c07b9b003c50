import JooEvents.Program.Repoints

/-!
# Merging items and taking a merge back

A merge selects the current references to its source and leads them to its target. Its
compensation selects the current references to the target, out of those whose keys it
was given, and leads them to the source. Keys survive a merge, so a compensation that
was given the keys of the merge selects the references the merge selected, and leads
them back to the item they named before (`LedBy.back`), while the references that named
the target all along are not among them.
-/

namespace JooEvents

open Fallible

variable {D : Type}

theorem planMerge_eq_ok {host : Host D} {input : MergeInput}
    {state : ProgramVocabularyState host} {registry : ProgramReferenceContributorRegistry}
    {source : ProgramReferenceSnapshotSource D} {plan : ProgramVocabularyMutationPlan D} :
    planMerge host input state registry source = .ok plan ↔
      (state.scope = input.scope ∧ state.setVersion = input.expectedSetVersion) ∧
      input.sourceId ≠ input.targetId ∧ ∃ sourceItem,
      (resolveProgramVocabularyItem state input.kind input.sourceId = some sourceItem ∧
        sourceItem.version = input.expectedSourceVersion) ∧ ∃ targetItem,
      (resolveProgramVocabularyItem state input.kind input.targetId = some targetItem ∧
        targetItem.version = input.expectedTargetVersion) ∧
      targetItem.status = .active ∧ ∃ references,
      captureReferences host state registry source = .ok references ∧ ∃ version,
      nextAggregateVersion sourceItem.version = some version ∧
      .merge (commonPlan host state) sourceItem
        { sourceItem with status := .retired, version } targetItem
        references.registryDigestSha256
        (references.contributors.map fun contributor =>
          contributorPlan contributor sourceItem.ref (some targetItem.ref) none) = plan := by
  simp only [planMerge, bind_eq_ok, require_eq_ok, requireSetGuard_eq_ok, requireItem_eq_ok,
    orRefuse_eq_ok, exists_const, pure_eq_ok]

theorem planCompensations_eq_ok {selected : List SelectedReferences}
    {sourceRef targetRef : ProgramItemRef} :
    ∀ {contributors : List (ProgramReferenceContributorSnapshot D)}
      {contributions : List (ProgramReferenceContributionPlan D)},
      contributors.mapM (planCompensationOf selected sourceRef targetRef) = .ok contributions ↔
        (∀ c ∈ contributors, (compensationPlan c sourceRef targetRef
          (selectedKeysOf selected c.contributor)).liveRepoints.length =
            (selectedKeysOf selected c.contributor).dedup.length) ∧
        (contributors.map fun c => compensationPlan c sourceRef targetRef
          (selectedKeysOf selected c.contributor)) = contributions
  | [], contributions => by simp
  | c :: cs, contributions => by
    simp only [List.mapM_cons, bind_eq_ok, planCompensationOf, require_eq_ok, exists_const,
      pure_eq_ok, List.forall_mem_cons, List.map_cons]
    constructor
    · rintro ⟨_, ⟨hlength, rfl⟩, rest, hrest, rfl⟩
      obtain ⟨hlengths, rfl⟩ := planCompensations_eq_ok.mp hrest
      exact ⟨⟨hlength, hlengths⟩, rfl⟩
    · rintro ⟨⟨hlength, hlengths⟩, rfl⟩
      exact ⟨_, ⟨hlength, rfl⟩, _, planCompensations_eq_ok.mpr ⟨hlengths, rfl⟩, rfl⟩

theorem planMergeCompensation_eq_ok {host : Host D} {input : MergeInput} {restoreSource : Bool}
    {selected : List SelectedReferences} {state : ProgramVocabularyState host}
    {registry : ProgramReferenceContributorRegistry} {source : ProgramReferenceSnapshotSource D}
    {plan : ProgramVocabularyMutationPlan D} :
    planMergeCompensation host input restoreSource selected state registry source = .ok plan ↔
      (state.scope = input.scope ∧ state.setVersion = input.expectedSetVersion) ∧ ∃ sourceItem,
      (resolveProgramVocabularyItem state input.kind input.sourceId = some sourceItem ∧
        sourceItem.version = input.expectedSourceVersion) ∧ ∃ targetItem,
      (resolveProgramVocabularyItem state input.kind input.targetId = some targetItem ∧
        targetItem.version = input.expectedTargetVersion) ∧ ∃ references,
      captureReferences host state registry source = .ok references ∧
      (∀ c ∈ references.contributors, (compensationPlan c sourceItem.ref targetItem.ref
        (selectedKeysOf selected c.contributor)).liveRepoints.length =
          (selectedKeysOf selected c.contributor).dedup.length) ∧ ∃ sourceAfter,
      restoredSource restoreSource sourceItem = some sourceAfter ∧
      .merge_compensation (commonPlan host state) sourceItem sourceAfter targetItem
        restoreSource references.registryDigestSha256
        (references.contributors.map fun contributor =>
          compensationPlan contributor sourceItem.ref targetItem.ref
            (selectedKeysOf selected contributor.contributor)) = plan := by
  simp only [planMergeCompensation, bind_eq_ok, requireSetGuard_eq_ok, requireItem_eq_ok,
    orRefuse_eq_ok, exists_const, pure_eq_ok, planCompensations_eq_ok]
  constructor
  · rintro ⟨hguard, sourceItem, hsource, targetItem, htarget, references, hreferences, _,
      ⟨hlengths, rfl⟩, hafter⟩
    exact ⟨hguard, sourceItem, hsource, targetItem, htarget, references, hreferences, hlengths,
      hafter⟩
  · rintro ⟨hguard, sourceItem, hsource, targetItem, htarget, references, hreferences, hlengths,
      hafter⟩
    exact ⟨hguard, sourceItem, hsource, targetItem, htarget, references, hreferences, _,
      ⟨hlengths, rfl⟩, hafter⟩

/-! ## There and back -/

/-- What a merge leaves of the references to its source and of the others. -/
structure MergedReferences (source : ProgramItemRef)
    (before after : CompleteProgramReferenceSnapshot D) : Prop where
  /-- No current reference names the source. -/
  none_current : ∀ c ∈ after.contributors, ∀ reference ∈ c.references,
    reference.mode = .current → reference.item ≠ source
  /-- Contributors keep their keys, their references of the past, and their references to
  other items. -/
  kept : List.Forall₂ (fun c c' => c'.contributor = c.contributor ∧
    c'.references.map ProgramReferenceRecord.referenceKey =
      c.references.map ProgramReferenceRecord.referenceKey ∧
    List.Forall₂ (fun r r' => r.mode = .historical ∨ r.item ≠ source → r' = r)
      c.references c'.references) before.contributors after.contributors

/-- Every reference names the item it named before. -/
def NamesAsBefore (before after : CompleteProgramReferenceSnapshot D) : Prop :=
  List.Forall₂ (fun c c' => c'.contributor = c.contributor ∧
    List.Forall₂ (fun r r' => r'.referenceKey = r.referenceKey ∧ r'.item = r.item ∧
      r'.mode = r.mode ∧ r'.destination = r.destination) c.references c'.references)
    before.contributors after.contributors

/-- An input selects exactly the keys of the current references to an item. -/
def SelectsReferencesTo (selected : List SelectedReferences) (item : ProgramItemRef)
    (snapshot : CompleteProgramReferenceSnapshot D) : Prop :=
  ∀ c ∈ snapshot.contributors, ∀ key, key ∈ selectedKeysOf selected c.contributor ↔
    ∃ reference ∈ c.references, reference.item = item ∧ reference.mode = .current ∧
      reference.referenceKey.val = key

theorem LedBy.referenceKey_eq {selected : ProgramReferenceRecord → Prop} {toItem : ProgramItemRef}
    {r r' : ProgramReferenceRecord} (h : LedBy selected toItem r r') :
    r'.referenceKey = r.referenceKey := by
  by_cases hs : selected r
  · obtain ⟨version, -, rfl⟩ := h.1 hs
    rfl
  · rw [h.2 hs]

theorem mergedReferences_of_ledBy {source target : ProgramItemRef} (hne : target ≠ source)
    {before after : CompleteProgramReferenceSnapshot D}
    (h : SnapshotLedBy (fun _ => SelectedBy source none) target before after) :
    MergedReferences source before after where
  none_current c' hc' r' hr' hmode := by
    obtain ⟨c, -, -, hrefs⟩ := Keyed.exists_left_of_forall₂ h hc'
    obtain ⟨r, -, hled⟩ := Keyed.exists_left_of_forall₂ hrefs hr'
    by_cases hs : SelectedBy source none r
    · obtain ⟨version, -, rfl⟩ := hled.1 hs
      exact hne
    · obtain rfl := hled.2 hs
      exact fun hitem => hs ⟨hitem, hmode, rfl⟩
  kept := h.imp fun c c' ⟨hcontributor, hrefs⟩ =>
    ⟨hcontributor, Keyed.map_eq_of_forall₂ (fun _ _ hled => hled.referenceKey_eq) hrefs,
      hrefs.imp fun r r' hled hother => hled.2 fun hs => by
        rcases hother with hmode | hitem
        · rw [hs.2.1] at hmode
          cases hmode
        · exact hitem hs.1⟩

theorem LedBy.back {source target : ProgramItemRef} {keys : List String}
    {r r' r'' : ProgramReferenceRecord} (hmerge : LedBy (SelectedBy source none) target r r')
    (hback : LedBy (SelectedBy target (some keys)) source r' r'')
    (hkeys : r.referenceKey.val ∈ keys ↔ SelectedBy source none r) :
    r''.referenceKey = r.referenceKey ∧ r''.item = r.item ∧ r''.mode = r.mode ∧
      r''.destination = r.destination := by
  by_cases hs : SelectedBy source none r
  · obtain ⟨version, -, rfl⟩ := hmerge.1 hs
    have hkey : r.referenceKey.val ∈ keys := hkeys.mpr hs
    obtain ⟨version', -, rfl⟩ := hback.1 ⟨rfl, hs.2.1, by simpa using hkey⟩
    exact ⟨rfl, hs.1.symm, rfl, rfl⟩
  · obtain rfl := hmerge.2 hs
    have hunselected : ¬ SelectedBy target (some keys) r' := fun h =>
      hs (hkeys.mp (by simpa using h.2.2))
    obtain rfl := hback.2 hunselected
    exact ⟨rfl, rfl, rfl, rfl⟩

theorem mem_selectedKeys_iff {selected : List SelectedReferences} {source : ProgramItemRef}
    {snapshot : CompleteProgramReferenceSnapshot D}
    (h : SelectsReferencesTo selected source snapshot)
    {c : ProgramReferenceContributorSnapshot D} (hc : c ∈ snapshot.contributors)
    {r : ProgramReferenceRecord} (hr : r ∈ c.references) :
    r.referenceKey.val ∈ selectedKeysOf selected c.contributor ↔ SelectedBy source none r := by
  rw [h c hc]
  constructor
  · rintro ⟨q, hq, hitem, hmode, hkey⟩
    obtain rfl := Keyed.eq_of_key_eq (snapshot.references_ordered c hc).nodup hq hr
      (Subtype.ext hkey)
    exact ⟨hitem, hmode, rfl⟩
  · rintro ⟨hitem, hmode, -⟩
    exact ⟨r, hr, hitem, hmode, rfl⟩

theorem namesAsBefore_of_ledBy {source target : ProgramItemRef}
    {selected : List SelectedReferences}
    {before between after : CompleteProgramReferenceSnapshot D}
    (hselected : SelectsReferencesTo selected source before)
    (hmerge : SnapshotLedBy (fun _ => SelectedBy source none) target before between)
    (hback : SnapshotLedBy (fun c => SelectedBy target
      (some (selectedKeysOf selected c.contributor))) source between after) :
    NamesAsBefore before after := by
  refine (Keyed.forall₂_comp ((List.forall₂_and_left _ _).mpr ⟨fun c hc => hc, hmerge⟩)
    hback).imp ?_
  rintro c c'' ⟨c', ⟨hc, hcontributor, hrefs⟩, hcontributor', hrefs'⟩
  refine ⟨hcontributor'.trans hcontributor, ?_⟩
  refine (Keyed.forall₂_comp ((List.forall₂_and_left _ _).mpr ⟨fun r hr => hr, hrefs⟩)
    hrefs').imp ?_
  rintro r r'' ⟨r', ⟨hr, hled⟩, hled'⟩
  refine hled.back hled' ?_
  rw [hcontributor]
  exact mem_selectedKeys_iff hselected hc hr

/-! ## Merges and compensations as planned -/

theorem ref_of_resolve {host : Host D} {state : ProgramVocabularyState host}
    {kind : ProgramVocabularyKind} {id : ApplicationId} {item : PlannedProgramVocabularyItem}
    (h : resolveProgramVocabularyItem state kind id = some item) : item.ref = ⟨kind, id⟩ := by
  obtain ⟨-, rfl, rfl⟩ := resolve_eq_some_iff.mp h
  rfl

variable [DecidableEq D]

theorem snapshotLedBy_of_planMerge {host : Host D} {input : MergeInput}
    {state : ProgramVocabularyState host} {registry : ProgramReferenceContributorRegistry}
    {source : ProgramReferenceSnapshotSource D} {plan : ProgramVocabularyMutationPlan D}
    {before after : CompleteProgramReferenceSnapshot D}
    (hplan : planMerge host input state registry source = .ok plan)
    (hbefore : captureReferences host state registry source = .ok before)
    (h : applyProgramReferenceRepoints host before plan = .ok after) :
    SnapshotLedBy (fun _ => SelectedBy ⟨input.kind, input.sourceId⟩ none)
      ⟨input.kind, input.targetId⟩ before after := by
  obtain ⟨-, -, sourceItem, ⟨hsource, -⟩, targetItem, ⟨htarget, -⟩, -, references, hreferences,
    version, -, rfl⟩ := planMerge_eq_ok.mp hplan
  obtain rfl := Except.ok.inj (hbefore.symm.trans hreferences)
  simp only [applyProgramReferenceRepoints, bind_eq_ok, require_eq_ok, exists_const,
    orRefuse_eq_ok, ProgramVocabularyMutationPlan.referencePlan, Option.some.injEq] at h
  obtain ⟨-, _, rfl, -, h⟩ := h
  rw [← ref_of_resolve hsource, ← ref_of_resolve htarget]
  exact snapshotLedBy_of_repointSnapshot (fun _ => rfl) (fun _ => rfl) h

theorem snapshotLedBy_of_planMergeCompensation {host : Host D} {input : MergeInput}
    {restoreSource : Bool} {selected : List SelectedReferences}
    {state : ProgramVocabularyState host} {registry : ProgramReferenceContributorRegistry}
    {source : ProgramReferenceSnapshotSource D} {plan : ProgramVocabularyMutationPlan D}
    {before after : CompleteProgramReferenceSnapshot D}
    (hplan : planMergeCompensation host input restoreSource selected state registry source =
      .ok plan)
    (hbefore : captureReferences host state registry source = .ok before)
    (h : applyProgramReferenceRepoints host before plan = .ok after) :
    SnapshotLedBy (fun c => SelectedBy ⟨input.kind, input.targetId⟩
      (some (selectedKeysOf selected c.contributor))) ⟨input.kind, input.sourceId⟩
      before after := by
  obtain ⟨-, sourceItem, ⟨hsource, -⟩, targetItem, ⟨htarget, -⟩, references, hreferences, -,
    sourceAfter, -, rfl⟩ := planMergeCompensation_eq_ok.mp hplan
  obtain rfl := Except.ok.inj (hbefore.symm.trans hreferences)
  simp only [applyProgramReferenceRepoints, bind_eq_ok, require_eq_ok, exists_const,
    orRefuse_eq_ok, ProgramVocabularyMutationPlan.referencePlan, Option.some.injEq] at h
  obtain ⟨-, _, rfl, -, h⟩ := h
  rw [← ref_of_resolve hsource, ← ref_of_resolve htarget]
  exact snapshotLedBy_of_repointSnapshot (fun _ => rfl) (fun _ => rfl) h

theorem resolve_source_of_planMerge {host : Host D} {input : MergeInput}
    {state state' : ProgramVocabularyState host} {registry : ProgramReferenceContributorRegistry}
    {source : ProgramReferenceSnapshotSource D} {plan : ProgramVocabularyMutationPlan D}
    (hplan : planMerge host input state registry source = .ok plan)
    (h : applyProgramVocabularyPlan host state plan = .ok state') :
    ∃ item version, resolveProgramVocabularyItem state input.kind input.sourceId = some item ∧
      resolveProgramVocabularyItem state' input.kind input.sourceId =
        some { item with status := .retired, version } := by
  obtain ⟨-, -, sourceItem, ⟨hsource, -⟩, targetItem, -, -, references, -, version, -, rfl⟩ :=
    planMerge_eq_ok.mp hplan
  refine ⟨sourceItem, version, hsource, ?_⟩
  obtain ⟨-, hkind, hid⟩ := resolve_eq_some_iff.mp hsource
  rw [← hkind, ← hid]
  exact resolve_written h (List.mem_singleton_self _)

omit [DecidableEq D] in
theorem restoredSource_eq_some {restoreSource : Bool} {item after : PlannedProgramVocabularyItem}
    (h : restoredSource restoreSource item = some after) :
    after.id = item.id ∧ after.name = item.name ∧ after.fields = item.fields ∧
      after.status = if restoreSource then .active else item.status := by
  unfold restoredSource at h
  split at h
  · obtain ⟨version, -, rfl⟩ := Option.map_eq_some_iff.mp h
    exact ⟨rfl, rfl, rfl, (if_pos ‹_›).symm⟩
  · rw [Option.some.inj h]
    exact ⟨rfl, rfl, rfl, (if_neg ‹_›).symm⟩

theorem resolve_source_of_planMergeCompensation {host : Host D} {input : MergeInput}
    {restoreSource : Bool} {selected : List SelectedReferences}
    {state state' : ProgramVocabularyState host} {registry : ProgramReferenceContributorRegistry}
    {source : ProgramReferenceSnapshotSource D} {plan : ProgramVocabularyMutationPlan D}
    (hplan : planMergeCompensation host input restoreSource selected state registry source =
      .ok plan)
    (h : applyProgramVocabularyPlan host state plan = .ok state') :
    ∃ item after, resolveProgramVocabularyItem state input.kind input.sourceId = some item ∧
      restoredSource restoreSource item = some after ∧
      resolveProgramVocabularyItem state' input.kind input.sourceId = some after := by
  obtain ⟨-, sourceItem, ⟨hsource, -⟩, targetItem, -, references, -, -, sourceAfter, hafter,
    rfl⟩ := planMergeCompensation_eq_ok.mp hplan
  refine ⟨sourceItem, sourceAfter, hsource, hafter, ?_⟩
  obtain ⟨-, hkind, hid⟩ := resolve_eq_some_iff.mp hsource
  obtain ⟨hafterId, -, hfields, -⟩ := restoredSource_eq_some hafter
  have hafterKind : sourceAfter.kind = sourceItem.kind := congrArg ProgramItemFields.kind hfields
  rw [← hkind, ← hid, ← hafterKind, ← hafterId]
  exact resolve_written h (List.mem_singleton_self _)

/-- A merge and its compensation are inverse on the references of an event : the merge
leads the current references to its source to the target and touches nothing else, and a
compensation that selects the keys of these references, and makes the source active again
just when it was, leaves every reference with the item it named before and the source with
its name, its fields and its status. -/
theorem merge_compensation_inverse {host : Host D} {input : MergeInput}
    {state state' : ProgramVocabularyState host} {registry : ProgramReferenceContributorRegistry}
    {source : ProgramReferenceSnapshotSource D} {plan : ProgramVocabularyMutationPlan D}
    {snapshot snapshot' : CompleteProgramReferenceSnapshot D}
    (hplan : planProgramVocabularyMutation host (.merge input) state registry source = .ok plan)
    (hsnapshot : captureReferences host state registry source = .ok snapshot)
    (hstate : applyProgramVocabularyPlan host state plan = .ok state')
    (hrepoint : applyProgramReferenceRepoints host snapshot plan = .ok snapshot') :
    MergedReferences ⟨input.kind, input.sourceId⟩ snapshot snapshot' ∧
    ∃ item, resolveProgramVocabularyItem state input.kind input.sourceId = some item ∧
    ∀ (back : MergeInput) (restoreSource : Bool) (selected : List SelectedReferences)
      (source' : ProgramReferenceSnapshotSource D) (plan' : ProgramVocabularyMutationPlan D)
      (state'' : ProgramVocabularyState host) (snapshot'' : CompleteProgramReferenceSnapshot D),
      back.kind = input.kind → back.sourceId = input.sourceId → back.targetId = input.targetId →
      (restoreSource = true ↔ item.status = .active) →
      SelectsReferencesTo selected ⟨input.kind, input.sourceId⟩ snapshot →
      planProgramVocabularyMutation host (.merge_compensation back restoreSource selected) state'
        registry source' = .ok plan' →
      captureReferences host state' registry source' = .ok snapshot' →
      applyProgramVocabularyPlan host state' plan' = .ok state'' →
      applyProgramReferenceRepoints host snapshot' plan' = .ok snapshot'' →
      NamesAsBefore snapshot snapshot'' ∧ ∃ item'',
        resolveProgramVocabularyItem state'' input.kind input.sourceId = some item'' ∧
        item''.name = item.name ∧ item''.fields = item.fields ∧ item''.status = item.status := by
  have hplan : planMerge host input state registry source = .ok plan := hplan
  have hmerge := snapshotLedBy_of_planMerge hplan hsnapshot hrepoint
  have hne : (⟨input.kind, input.targetId⟩ : ProgramItemRef) ≠ ⟨input.kind, input.sourceId⟩ :=
    fun h => (planMerge_eq_ok.mp hplan).2.1 (congrArg ProgramItemRef.id h).symm
  obtain ⟨item, version, hitem, hitem'⟩ := resolve_source_of_planMerge hplan hstate
  refine ⟨mergedReferences_of_ledBy hne hmerge, item, hitem, ?_⟩
  intro back restoreSource selected source' plan' state'' snapshot'' hkind hsourceId htargetId
    hrestore hselected hback hsnapshot' hstate' hrepoint'
  have hback : planMergeCompensation host back restoreSource selected state' registry source' =
    .ok plan' := hback
  have hled := snapshotLedBy_of_planMergeCompensation hback hsnapshot' hrepoint'
  obtain ⟨merged, item'', hmerged, hafter, hitem''⟩ :=
    resolve_source_of_planMergeCompensation hback hstate'
  rw [hkind, hsourceId] at hmerged hitem'' hled
  rw [htargetId] at hled
  obtain rfl := Option.some.inj (hmerged.symm.trans hitem')
  obtain ⟨-, hname, hfields, hstatus⟩ := restoredSource_eq_some hafter
  refine ⟨namesAsBefore_of_ledBy hselected hmerge hled, item'', hitem'', hname, hfields, ?_⟩
  rw [hstatus]
  split
  · exact (hrestore.mp ‹_›).symm
  · -- the merge left its source retired, which it was already
    have hretired : item.status ≠ .active := fun h => ‹¬ _› (hrestore.mpr h)
    cases hs : item.status with
    | active => exact absurd hs hretired
    | retired => rfl

/-! ## An example -/

namespace MergeExample

def annex : PlannedProgramVocabularyItem :=
  { id := .ofNat 3, name := "Annex", status := .active, version := .one, fields := .room none }

def mainHall : PlannedProgramVocabularyItem :=
  { id := .ofNat 4, name := "Main hall", status := .active, version := .one
    fields := .room none }

def vocabulary : ProgramVocabularyState SymbolicDigest.host where
  scope := ⟨.ofNat 1, .ofNat 2⟩
  setVersion := .one
  itemsOfKind
    | .room => [annex, mainHall]
    | _ => []
  kind_eq := by rintro (_ | _ | _) item h <;> simp_all; rcases h with rfl | rfl <;> rfl
  stored := by
    rintro (_ | _ | _) item h <;> simp_all
    rcases h with rfl | rfl <;> exact ⟨by decide, trivial⟩
  sorted := by
    rintro (_ | _ | _)
    · simpa using (by decide : annex.id < mainHall.id)
    all_goals simp
  nodup := by
    have : annex.id ≠ mainHall.id := by decide
    simpa using this

def reference (key : BoundedText) (item : PlannedProgramVocabularyItem)
    (mode : ProgramReferenceMode) : ProgramReferenceRecord :=
  { referenceKey := key, version := .one, item := item.ref, mode
    destination := { kind := ⟨"session", by decide⟩, id := ⟨"s1", by decide⟩ } }

/-- The contributor of the example : a live reference and a pin to one room, and a live
reference to the other. -/
def contributor : ProgramReferenceContributorSnapshot SymbolicDigest where
  contributor := ⟨⟨"schedule", by decide⟩, .one⟩
  scope := vocabulary.scope
  guard :=
    { id := ⟨"program_reference:schedule", "schedule".toList, by decide⟩
      version := .one, digest := .null }
  references := [reference ⟨"a", by decide⟩ annex .current,
    reference ⟨"b", by decide⟩ annex .historical, reference ⟨"c", by decide⟩ mainHall .current]

def registry : ProgramReferenceContributorRegistry := ⟨[contributor.contributor], by simp⟩

/-- A source that answers with the contributors of a list. -/
def sourceOf (contributors : List (ProgramReferenceContributorSnapshot SymbolicDigest)) :
    ProgramReferenceSnapshotSource SymbolicDigest :=
  fun expected _ => .ok (contributors.find? fun c => c.contributor = expected)

/-- The input of the merge; versions are those of the items found. -/
def input (setVersion sourceVersion : Version) : MergeInput :=
  { scope := vocabulary.scope, kind := .room, sourceId := annex.id, targetId := mainHall.id
    expectedSetVersion := setVersion, expectedSourceVersion := sourceVersion
    expectedTargetVersion := .one }

def selected : List SelectedReferences := [⟨contributor.contributor, ["a"]⟩]

/-- The merge and its compensation, each planned and applied. -/
def thereAndBack : Except ProgramVocabularyError
    (CompleteProgramReferenceSnapshot SymbolicDigest ×
      CompleteProgramReferenceSnapshot SymbolicDigest ×
      CompleteProgramReferenceSnapshot SymbolicDigest) := do
  let host := SymbolicDigest.host
  let source := sourceOf [contributor]
  let plan ← planProgramVocabularyMutation host (.merge (input .one .one)) vocabulary registry
    source
  let before ← captureReferences host vocabulary registry source
  let merged ← applyProgramVocabularyPlan host vocabulary plan
  let between ← applyProgramReferenceRepoints host before plan
  let source := sourceOf between.contributors
  let back ← planProgramVocabularyMutation host
    (.merge_compensation (input ⟨2, by decide⟩ ⟨2, by decide⟩) true selected) merged registry source
  let captured ← captureReferences host merged registry source
  require (captured = between) (.planning .stale_reference)
  let _ ← applyProgramVocabularyPlan host merged back
  let after ← applyProgramReferenceRepoints host between back
  return (before, between, after)

theorem selectsReferencesTo_selected {before : CompleteProgramReferenceSnapshot SymbolicDigest}
    (h : captureReferences SymbolicDigest.host vocabulary registry (sourceOf [contributor]) =
      .ok before) : SelectsReferencesTo selected annex.ref before := by
  have hbefore : (captureReferences SymbolicDigest.host vocabulary registry
      (sourceOf [contributor])).map (fun s => s.contributors) = .ok [contributor] := by
    decide +kernel
  rw [h, Except.map, Except.ok.injEq] at hbefore
  intro c hc key
  rw [hbefore, List.mem_singleton] at hc
  subst hc
  have hkeys : selectedKeysOf selected contributor.contributor = ["a"] := by decide
  have hother : mainHall.ref ≠ annex.ref := by decide
  rw [hkeys]
  simp [contributor, reference, hother, eq_comm]

end MergeExample

open MergeExample in
/-- A room with a live reference and a pin is merged into one with a live reference, and
the merge is taken back. -/
theorem merge_compensation_inverse_rooms :
    ∃ before between after, thereAndBack = .ok (before, between, after) ∧
      MergedReferences annex.ref before between ∧ NamesAsBefore before after := by
  obtain ⟨⟨before, between, after⟩, hrun⟩ : ∃ r, thereAndBack = .ok r :=
    exists_of_toBool (by decide +kernel)
  refine ⟨before, between, after, hrun, ?_⟩
  simp only [thereAndBack, bind_eq_ok, require_eq_ok, exists_const, pure_eq_ok] at hrun
  obtain ⟨plan, hplan, before, hbefore, merged, hmerged, between, hbetween, back, hback,
    captured, hcaptured, rfl, state, hstate, after, hafter, heq⟩ := hrun
  cases heq
  obtain ⟨hmerge, item, hitem, hinverse⟩ :=
    merge_compensation_inverse hplan hbefore hmerged hbetween
  obtain rfl : item = annex := Option.some.inj (hitem.symm.trans (by decide +kernel))
  have hrestore : (true = true ↔ annex.status = .active) := by decide
  exact ⟨hmerge, (hinverse (input ⟨2, by decide⟩ ⟨2, by decide⟩) true selected _ _ _ _ rfl rfl rfl
    hrestore (selectsReferencesTo_selected hbefore) hback hcaptured hstate hafter).1⟩

open MergeExample in
example : selectedKeysOf selected contributor.contributor = ["a"] := by decide +kernel

end JooEvents
