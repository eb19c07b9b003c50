import Mathlib.Data.List.Dedup
import JooEvents.Program.Validation

/-!
# Accepted plans are planned

What the validator accepts determines the input it was planned for. With a hash that
tells canonical values apart, the items of an accepted plan are the items of the state,
for their names are in normal form. Only the keys and the destinations of references are
free text of another package : here an accepted plan agrees with the planned one up to
their normalization, which is the agreement `SamePlan` both sides compare by.
-/

namespace JooEvents

open Fallible

variable {D : Type}

theorem eq_of_digest_eq {host : Host D} (hcf : host.CollisionFree)
    {a b : PlannedProgramVocabularyItem} (ha : a.Stored host) (hb : b.Stored host)
    (h : host.digest a = host.digest b) : a = b := by
  obtain ⟨hid, hname, hstatus, hversion, hfields⟩ :=
    PlannedProgramVocabularyItem.same_iff.mp (hcf.digest_eq_iff.mp h)
  exact PlannedProgramVocabularyItem.ext hid (eq_of_same_canonicalName ha.name hb.name hname)
    hstatus hversion hfields

theorem resolve_of_found {host : Host D} (hcf : host.CollisionFree)
    {state : ProgramVocabularyState host} {item : PlannedProgramVocabularyItem}
    (hstored : item.Stored host)
    (h : ∃ found ∈ programVocabularyItems state, found.ref = item.ref ∧
      host.digest found = host.digest item) :
    resolveProgramVocabularyItem state item.kind item.id = some item := by
  obtain ⟨found, hmem, -, hdigest⟩ := h
  obtain rfl := eq_of_digest_eq hcf
    (state.stored _ found (mem_programVocabularyItems.mp hmem)) hstored hdigest
  exact resolve_eq_some_iff.mpr ⟨hmem, rfl, rfl⟩

theorem strippedItem_same {host : Host D} {a b : PlannedProgramVocabularyItem}
    (hkind : a.kind = b.kind)
    (h : (strippedItem a : Json D).canonicalize host.nfc =
      (strippedItem b).canonicalize host.nfc) :
    host.Same a.name b.name ∧ a.fields = b.fields := by
  obtain ⟨ida, namea, statusa, versiona, fieldsa⟩ := a
  obtain ⟨idb, nameb, statusb, versionb, fieldsb⟩ := b
  cases fieldsa <;> cases fieldsb <;> try cases hkind
  all_goals
    have h := Iff.mp Host.canonicalize_record_iff h
    simp only [List.map_cons, List.map_nil, List.cons.injEq, canonicalize_toJson_eq_iff,
      Host.same_iff_eq, and_true, List.cons_append, List.nil_append] at h
  · exact ⟨h.2.2.1, congrArg ProgramItemFields.room h.2.2.2⟩
  · exact ⟨h.2.2.1, congrArg ProgramItemFields.track h.2.2.2⟩
  · exact ⟨h.2.2, rfl⟩

variable [DecidableEq D]

theorem eq_update_of_sameItemExcept {host : Host D} (hcf : host.CollisionFree)
    {before after : PlannedProgramVocabularyItem} (hb : before.Stored host)
    (ha : after.Stored host) (href : before.ref = after.ref)
    (h : sameItemExceptStatusAndVersion host before after = true) :
    after = { before with status := after.status, version := after.version } := by
  obtain ⟨hkind, hid⟩ := PlannedProgramVocabularyItem.ref_eq_iff.mp href
  obtain ⟨hname, hfields⟩ := strippedItem_same hkind (hcf (of_decide_eq_true h))
  exact PlannedProgramVocabularyItem.ext hid.symm
    (eq_of_same_canonicalName hb.name ha.name hname).symm rfl rfl hfields.symm

/-- The fields of a new item that a draft must give. -/
def ProgramItemFields.draft : ProgramItemFields → ProgramItemDraftFields
  | .room capacity => .room (capacity.map Subtype.val)
  | .track _ => .track
  | .format => .format

def ProgramItemFields.capacity : ProgramItemFields → Option ℕ
  | .room capacity => capacity.map Subtype.val
  | _ => none

theorem parseRoomCapacity_val (capacity : Option PositiveSafe) :
    parseRoomCapacity (capacity.map Subtype.val) = some capacity := by
  cases capacity with
  | none => rfl
  | some capacity =>
    rw [Option.map_some, parseRoomCapacity, PositiveSafe.parse_eq_some.mpr rfl]
    rfl

theorem createdFields_draft {item : PlannedProgramVocabularyItem} (h : item.AccentDerived) :
    createdFields item.id item.fields.draft = some item.fields := by
  unfold PlannedProgramVocabularyItem.AccentDerived at h
  cases hf : item.fields with
  | room capacity =>
    rw [ProgramItemFields.draft, createdFields, parseRoomCapacity_val, Option.map_some]
  | track accent =>
    rw [hf] at h
    simp only at h
    rw [h]
    rfl
  | format => rfl

theorem editedFields_capacity {before after : PlannedProgramVocabularyItem}
    (hb : before.AccentDerived) (ha : after.AccentDerived) (href : before.ref = after.ref) :
    editedFields after.fields.capacity before.fields = some after.fields := by
  obtain ⟨hkind, hid⟩ := PlannedProgramVocabularyItem.ref_eq_iff.mp href
  unfold PlannedProgramVocabularyItem.AccentDerived at ha hb
  unfold PlannedProgramVocabularyItem.kind at hkind
  cases hfb : before.fields <;> cases hfa : after.fields <;> rw [hfa, hfb] at hkind <;>
    try cases hkind
  case room.room =>
    rw [editedFields, ProgramItemFields.capacity, parseRoomCapacity_val, Option.map_some]
  case track.track =>
    rw [hfa] at ha
    rw [hfb] at hb
    simp only at ha hb
    rw [ha, hb, hid]
    rfl
  case format.format => rfl

/-- The input that asks for a change of an item as a state has it. -/
def guardedInput {host : Host D} (state : ProgramVocabularyState host)
    (item : PlannedProgramVocabularyItem) : GuardedItemInput :=
  { kind := item.kind, id := item.id, scope := state.scope
    expectedSetVersion := state.setVersion, expectedItemVersion := item.version }

/-- The input that asks for a merge of two items as a state has them. -/
def mergeInputOf {host : Host D} (state : ProgramVocabularyState host)
    (source target : PlannedProgramVocabularyItem) : MergeInput :=
  { scope := state.scope, kind := source.kind, sourceId := source.id, targetId := target.id
    expectedSetVersion := state.setVersion, expectedSourceVersion := source.version
    expectedTargetVersion := target.version }

/-- What a plan selects from the contributors it repoints. -/
def selectedOf (references : List (ProgramReferenceContributionPlan D)) :
    List SelectedReferences :=
  references.map fun contribution =>
    { contributor := contribution.contributor
      referenceKeys := contribution.liveRepoints.map fun repoint => repoint.referenceKey.val }

theorem next_of_isNextVersion {before after : PlannedProgramVocabularyItem}
    (h : isNextVersion before after = true) :
    nextAggregateVersion before.version = some after.version :=
  PositiveSafe.parse_eq_some.mpr (of_decide_eq_true h)

theorem AdmitsPlan.base_eq {host : Host D} {state : ProgramVocabularyState host}
    {plan : ProgramVocabularyMutationPlan D} (h : AdmitsPlan host state plan) :
    commonPlan host state = plan.base := by
  rw [commonPlan, h.scope, h.setVersion, h.setDigest]

/-! ## References by digest -/

omit [DecidableEq D] in
theorem same_contribution_iff {host : Host D} {p q : ProgramReferenceContributionPlan D} :
    host.Same p q ↔ p.contributor = q.contributor ∧ host.Same p.guard q.guard ∧
      host.Same p.liveRepoints q.liveRepoints ∧ host.Same p.historicalPins q.historicalPins := by
  refine Iff.trans Host.canonicalize_record_iff ?_
  simp only [List.map_cons, List.map_nil, List.cons.injEq, canonicalize_toJson_eq_iff,
    Host.same_iff_eq, and_true]

omit [DecidableEq D] in
theorem length_eq_of_same {α : Type} [ToJson D α] {host : Host D} {as bs : List α}
    (h : host.Same as bs) : as.length = bs.length := by
  have hlength := congrArg List.length (Host.same_list_iff.mp h)
  rwa [List.length_map, List.length_map] at hlength

omit [DecidableEq D] in
theorem forall₂_same_iff {α : Type} [ToJson D α] {host : Host D} {as bs : List α} :
    host.Same as bs ↔ List.Forall₂ host.Same as bs := by
  rw [Host.same_list_iff, ← List.forall₂_eq_eq_eq, List.forall₂_map_left_iff,
    List.forall₂_map_right_iff]
  rfl

omit [DecidableEq D] in
theorem referencesAreCanonical_iff {references : List (ProgramReferenceContributionPlan D)}
    {source : ProgramItemRef} {target : Option ProgramItemRef} {direction : ReferenceDirection}
    (h : referencesAreCanonical references source target direction = true) :
    (references.map fun p => p.contributor.identity).Nodup ∧
      ∀ p ∈ references, (p.liveRepoints.map fun r => r.referenceKey.val).Nodup := by
  simp only [referencesAreCanonical, contributionIsCanonical, Bool.and_eq_true,
    areStrictlyOrderedBy_iff, List.all_eq_true] at h
  exact ⟨nodup_map_of_textLt h.1.1, fun p hp => nodup_map_of_textLt (h.2 p hp).1.1.1.1.1⟩

omit [DecidableEq D] in
theorem selectedKeysOf_selectedOf {references : List (ProgramReferenceContributionPlan D)}
    (hnodup : (references.map fun p => p.contributor.identity).Nodup)
    {p : ProgramReferenceContributionPlan D} (hp : p ∈ references) :
    (references.reverse.find? fun q => q.contributor.identity = p.contributor.identity) = some p ∧
      selectedKeysOf (selectedOf references) p.contributor =
        p.liveRepoints.map fun r => r.referenceKey.val := by
  constructor
  · have hreverse : (references.reverse.map fun p => p.contributor.identity).Nodup := by
      rwa [List.map_reverse, List.nodup_reverse]
    exact (Keyed.find?_key_eq_some_iff hreverse).mpr ⟨List.mem_reverse.mpr hp, rfl⟩
  · have hfind : ((selectedOf references).reverse.find? fun entry =>
        entry.contributor.identity = p.contributor.identity) =
          some ⟨p.contributor, p.liveRepoints.map fun r => r.referenceKey.val⟩ := by
      have hreverse : ((selectedOf references).reverse.map fun e => e.contributor.identity).Nodup := by
        rw [List.map_reverse, List.nodup_reverse, selectedOf, List.map_map]
        exact hnodup
      exact (Keyed.find?_key_eq_some_iff hreverse).mpr
        ⟨List.mem_reverse.mpr (List.mem_map.mpr ⟨p, hp, rfl⟩), rfl⟩
    rw [selectedKeysOf, hfind]

omit [DecidableEq D] in
theorem expected_compensation {host : Host D} (hcf : host.CollisionFree)
    {references : List (ProgramReferenceContributionPlan D)}
    {current : CompleteProgramReferenceSnapshot D} {source target : ProgramItemRef}
    (hcanonical : referencesAreCanonical references source (some target) .reverse = true)
    {expected : List (ProgramReferenceContributionPlan D)}
    (hexpected : expected = current.contributors.map fun contributor =>
      match references.reverse.find? fun contribution =>
        contribution.contributor.identity = contributor.contributor.identity with
      | none => contributorPlan contributor target (some source) (some [])
      | some planned => compensationPlan contributor source target
          (planned.liveRepoints.map fun repoint => repoint.referenceKey.val))
    (h : host.digest references = host.digest expected) :
    (∀ c ∈ current.contributors, (compensationPlan c source target
      (selectedKeysOf (selectedOf references) c.contributor)).liveRepoints.length =
        (selectedKeysOf (selectedOf references) c.contributor).dedup.length) ∧
    expected = current.contributors.map fun c => compensationPlan c source target
      (selectedKeysOf (selectedOf references) c.contributor) := by
  obtain ⟨hnodup, hkeys⟩ := referencesAreCanonical_iff hcanonical
  have hsame := forall₂_same_iff.mp (hcf.digest_eq_iff.mp h)
  rw [hexpected, List.forall₂_map_right_iff] at hsame
  -- every contributor has a contribution, which names its keys
  have hplanned : ∀ c ∈ current.contributors, ∃ p ∈ references, p.contributor = c.contributor ∧
      host.Same p.liveRepoints (compensationPlan c source target
        (p.liveRepoints.map fun r => r.referenceKey.val)).liveRepoints := by
    intro c hc
    obtain ⟨p, hp, hpc⟩ := Keyed.exists_left_of_forall₂ hsame hc
    obtain ⟨hcontributor, -, hlive, -⟩ := same_contribution_iff.mp hpc
    have hcontributor : p.contributor = c.contributor := by
      rw [hcontributor]
      split <;> rfl
    rw [← hcontributor, (selectedKeysOf_selectedOf hnodup hp).1] at hlive
    exact ⟨p, hp, hcontributor, hlive⟩
  constructor
  · intro c hc
    obtain ⟨p, hp, hcontributor, hlive⟩ := hplanned c hc
    rw [← hcontributor, (selectedKeysOf_selectedOf hnodup hp).2, List.Nodup.dedup (hkeys p hp),
      List.length_map]
    exact (length_eq_of_same hlive).symm
  · rw [hexpected]
    refine List.map_congr_left fun c hc => ?_
    obtain ⟨p, hp, hcontributor, -⟩ := hplanned c hc
    rw [← hcontributor, (selectedKeysOf_selectedOf hnodup hp).1,
      (selectedKeysOf_selectedOf hnodup hp).2]

/-! ## The planner returns what the validator accepts -/

/-- The compensation of a merge of an item with itself is not offered. -/
def ProgramVocabularyAuthorInput.Distinct : ProgramVocabularyAuthorInput → Prop
  | .merge_compensation input _ _ => input.sourceId ≠ input.targetId
  | _ => True

omit [DecidableEq D] in
theorem same_delete {host : Host D} {base : PlanBase D} {before : PlannedProgramVocabularyItem}
    {digest : D} {references references' : List (ProgramReferenceContributionPlan D)}
    (h : host.Same references references') :
    host.Same (ProgramVocabularyMutationPlan.delete base before digest references)
      (.delete base before digest references') := by
  have h : (toJson references : Json D).canonicalize host.nfc =
    (toJson references').canonicalize host.nfc := h
  change (Json.obj _).canonicalize host.nfc = (Json.obj _).canonicalize host.nfc
  simp only [Json.canonicalize_obj, List.map_append, List.map_cons, h]

omit [DecidableEq D] in
theorem same_merge {host : Host D} {base : PlanBase D}
    {sourceBefore sourceAfter target : PlannedProgramVocabularyItem} {digest : D}
    {references references' : List (ProgramReferenceContributionPlan D)}
    (h : host.Same references references') :
    host.Same (ProgramVocabularyMutationPlan.merge base sourceBefore sourceAfter target digest
      references) (.merge base sourceBefore sourceAfter target digest references') := by
  have h : (toJson references : Json D).canonicalize host.nfc =
    (toJson references').canonicalize host.nfc := h
  change (Json.obj _).canonicalize host.nfc = (Json.obj _).canonicalize host.nfc
  simp only [Json.canonicalize_obj, List.map_append, List.map_cons, h]

omit [DecidableEq D] in
theorem same_merge_compensation {host : Host D} {base : PlanBase D}
    {sourceBefore sourceAfter target : PlannedProgramVocabularyItem} {restoreSource : Bool}
    {digest : D} {references references' : List (ProgramReferenceContributionPlan D)}
    (h : host.Same references references') :
    host.Same (ProgramVocabularyMutationPlan.merge_compensation base sourceBefore sourceAfter
      target restoreSource digest references)
      (.merge_compensation base sourceBefore sourceAfter target restoreSource digest
        references') := by
  have h : (toJson references : Json D).canonicalize host.nfc =
    (toJson references').canonicalize host.nfc := h
  change (Json.obj _).canonicalize host.nfc = (Json.obj _).canonicalize host.nfc
  simp only [Json.canonicalize_obj, List.map_append, List.map_cons, h]

section

variable {host : Host D} {state : ProgramVocabularyState host}
  {registry : ProgramReferenceContributorRegistry} {source : ProgramReferenceSnapshotSource D}
  {base : PlanBase D}

theorem planned_create {after : PlannedProgramVocabularyItem}
    (h : AdmitsPlan host state (.create base after)) :
    planProgramVocabularyMutation host
      (.create state.scope state.setVersion after.id after.name after.fields.draft) state registry
      source = .ok (.create base after) := by
  obtain ⟨hstored, hcoherent⟩ := planParses_iff.mp h.parses
  have hafter := hstored after (by simp [ProgramVocabularyMutationPlan.items])
  have hitems := h.items
  simp only [FindsItems, ProgramVocabularyMutationPlan.changed,
    ProgramVocabularyMutationPlan.written, List.mem_singleton, forall_eq] at hitems
  simp only [actionIsCoherent, decide_eq_true_eq] at hcoherent
  simp only [planProgramVocabularyMutation, planCreate, bind_eq_ok, requireSetGuard_eq_ok,
    require_eq_ok, orRefuse_eq_ok, exists_const, pure_eq_ok, true_and]
  refine ⟨by simpa using hitems, _, normalizeProgramVocabularyName_of_canonical hafter.name, _,
    createdFields_draft hafter.accent, ?_⟩
  rw [h.base_eq]
  congr 1
  exact PlannedProgramVocabularyItem.ext rfl rfl hcoherent.1.symm
    (Subtype.ext hcoherent.2.symm) rfl

theorem planned_edit (hcf : host.CollisionFree) {before after : PlannedProgramVocabularyItem}
    (h : AdmitsPlan host state (.edit base before after)) :
    planProgramVocabularyMutation host
      (.edit (guardedInput state before) after.name after.fields.capacity) state registry
      source = .ok (.edit base before after) := by
  obtain ⟨hstored, hcoherent⟩ := planParses_iff.mp h.parses
  have hbefore := hstored before (by simp [ProgramVocabularyMutationPlan.items])
  have hafter := hstored after (by simp [ProgramVocabularyMutationPlan.items])
  simp only [actionIsCoherent, Bool.and_eq_true, decide_eq_true_eq] at hcoherent
  obtain ⟨⟨href, hstatus⟩, hnext⟩ := hcoherent
  simp only [planProgramVocabularyMutation, planEdit, bind_eq_ok, requireSetGuard_eq_ok,
    requireItem_eq_ok, orRefuse_eq_ok, exists_const, pure_eq_ok, guardedInput, true_and]
  refine ⟨before, ⟨resolve_of_found hcf hbefore h.items.1, rfl⟩, _,
    normalizeProgramVocabularyName_of_canonical hafter.name, _, next_of_isNextVersion hnext, _,
    editedFields_capacity hbefore.accent hafter.accent href, ?_⟩
  rw [h.base_eq]
  congr 1
  exact PlannedProgramVocabularyItem.ext (congrArg ProgramItemRef.id href) rfl hstatus rfl rfl

theorem planned_lifecycle (hcf : host.CollisionFree) {before after : PlannedProgramVocabularyItem}
    {required next : ProgramVocabularyStatus} (hbefore : before.Stored host)
    (hafter : after.Stored host)
    (hfound : ∃ found ∈ programVocabularyItems state, found.ref = before.ref ∧
      host.digest found = host.digest before)
    (href : before.ref = after.ref) (hrequired : before.status = required)
    (hstatus : after.status = next) (hnext : isNextVersion before after = true)
    (hsame : sameItemExceptStatusAndVersion host before after = true) :
    planLifecycle host (guardedInput state before) required next state = .ok (before, after) := by
  refine planLifecycle_eq_ok.mpr ⟨⟨rfl, rfl⟩, ⟨resolve_of_found hcf hbefore hfound, rfl⟩,
    hrequired, after.version, next_of_isNextVersion hnext, ?_⟩
  rw [← hstatus]
  exact eq_update_of_sameItemExcept hcf hbefore hafter href hsame

theorem planned_of_admits (hcf : host.CollisionFree) {plan : ProgramVocabularyMutationPlan D}
    (h : AdmitsPlan host state plan)
    (hreferences : ReferencesAsExpected host state plan registry source) :
    ∃ input : ProgramVocabularyAuthorInput, input.Distinct ∧ ∃ plan',
      planProgramVocabularyMutation host input state registry source = .ok plan' ∧
      host.Same plan plan' := by
  obtain ⟨hstored, hcoherent⟩ := planParses_iff.mp h.parses
  have hbase := h.base_eq
  cases plan with
  | create base after =>
    exact ⟨.create state.scope state.setVersion after.id after.name after.fields.draft, trivial,
      _, planned_create h, .refl _ _⟩
  | edit base before after =>
    exact ⟨.edit (guardedInput state before) after.name after.fields.capacity, trivial, _,
      planned_edit hcf h, .refl _ _⟩
  | retire base before after =>
    simp only [ProgramVocabularyMutationPlan.items, List.forall_mem_cons] at hstored
    simp only [actionIsCoherent, Bool.and_eq_true, decide_eq_true_eq] at hcoherent
    obtain ⟨⟨⟨href, hb, ha⟩, hnext⟩, hsame⟩ := hcoherent
    have hplan := planned_lifecycle hcf hstored.1 hstored.2.1 h.items.1 href hb ha hnext hsame
    refine ⟨.retire (guardedInput state before), trivial, .retire base before after, ?_, .refl _ _⟩
    rw [planProgramVocabularyMutation, hplan, ok_bind, hbase]
    rfl
  | restore base before after =>
    simp only [ProgramVocabularyMutationPlan.items, List.forall_mem_cons] at hstored
    simp only [actionIsCoherent, Bool.and_eq_true, decide_eq_true_eq] at hcoherent
    obtain ⟨⟨⟨href, hb, ha⟩, hnext⟩, hsame⟩ := hcoherent
    have hplan := planned_lifecycle hcf hstored.1 hstored.2.1 h.items.1 href hb ha hnext hsame
    refine ⟨.restore (guardedInput state before), trivial, .restore base before after, ?_,
      .refl _ _⟩
    rw [planProgramVocabularyMutation, hplan, ok_bind, hbase]
    rfl
  | delete base before digest references =>
    simp only [ProgramVocabularyMutationPlan.items, List.forall_mem_cons] at hstored
    obtain ⟨hdigest, current, hcurrent, expected, hexpected, hsame⟩ := hreferences _ rfl
    have husage : programReferenceUsage current before.ref .current = 0 ∧
        programReferenceUsage current before.ref .historical = 0 := by
      by_contra husage
      rw [expectedReferencePlans, if_pos (by omega)] at hexpected
      cases hexpected
    rw [expectedReferencePlans, if_neg (by omega), Option.some.injEq] at hexpected
    refine ⟨.delete (guardedInput state before), trivial, _, planDelete_eq_ok.mpr ⟨⟨rfl, rfl⟩,
      before, ⟨resolve_of_found hcf hstored.1 h.items.1, rfl⟩, current, hcurrent, husage, rfl⟩, ?_⟩
    rw [hbase, captureReferences_digest hcurrent, hdigest, hexpected]
    exact same_delete (hcf.digest_eq_iff.mp hsame)
  | merge base sourceBefore sourceAfter target digest references =>
    simp only [ProgramVocabularyMutationPlan.items, List.forall_mem_cons] at hstored
    simp only [actionIsCoherent, Bool.and_eq_true, decide_eq_true_eq] at hcoherent
    obtain ⟨⟨⟨⟨hkind, hne, href, hretired, hactive⟩, hnext⟩, hafter⟩, -⟩ := hcoherent
    obtain ⟨hdigest, current, hcurrent, expected, hexpected, hsame⟩ := hreferences _ rfl
    have htarget := resolve_of_found hcf hstored.2.2.1
      (itemMatches_resolve_iff.mp (h.items.2 target rfl))
    refine ⟨.merge (mergeInputOf state sourceBefore target), trivial, _,
      planMerge_eq_ok.mpr ⟨⟨rfl, rfl⟩, hne, sourceBefore,
        ⟨resolve_of_found hcf hstored.1 h.items.1, rfl⟩, target, ⟨?_, rfl⟩, hactive, current,
        hcurrent, sourceAfter.version, next_of_isNextVersion hnext, rfl⟩, ?_⟩
    · rwa [mergeInputOf, hkind]
    · have hafter := eq_update_of_sameItemExcept hcf hstored.1 hstored.2.1 href hafter
      rw [hretired] at hafter
      rw [hbase, captureReferences_digest hcurrent, hdigest, ← hafter,
        Option.some.inj hexpected]
      exact same_merge (hcf.digest_eq_iff.mp hsame)
  | merge_compensation base sourceBefore sourceAfter target restoreSource digest references =>
    simp only [ProgramVocabularyMutationPlan.items, List.forall_mem_cons] at hstored
    simp only [actionIsCoherent, Bool.and_eq_true, decide_eq_true_eq] at hcoherent
    obtain ⟨⟨⟨hkind, hne, href⟩, hafter⟩, hcanonical⟩ := hcoherent
    obtain ⟨hdigest, current, hcurrent, expected, hexpected, hsame⟩ := hreferences _ rfl
    have htarget := resolve_of_found hcf hstored.2.2.1
      (itemMatches_resolve_iff.mp (h.items.2 target rfl))
    obtain ⟨hlengths, hplanned⟩ := expected_compensation hcf hcanonical
      (Option.some.inj hexpected).symm hsame
    refine ⟨.merge_compensation (mergeInputOf state sourceBefore target) restoreSource
      (selectedOf references), hne, _, planMergeCompensation_eq_ok.mpr ⟨⟨rfl, rfl⟩,
        sourceBefore, ⟨resolve_of_found hcf hstored.1 h.items.1, rfl⟩, target, ⟨?_, rfl⟩, current,
        hcurrent, hlengths, sourceAfter, ?_, rfl⟩, ?_⟩
    · rwa [mergeInputOf, hkind]
    · cases restoreSource with
      | true =>
        simp only [reduceIte, Bool.and_eq_true, decide_eq_true_eq] at hafter
        have heq := eq_update_of_sameItemExcept hcf hstored.1 hstored.2.1 href hafter.2
        rw [hafter.1.1] at heq
        rw [restoredSource, if_pos rfl, next_of_isNextVersion hafter.1.2, Option.map_some, ← heq]
      | false =>
        simp only [Bool.false_eq_true, reduceIte, decide_eq_true_eq] at hafter
        rw [eq_of_digest_eq hcf hstored.1 hstored.2.1 hafter]
        rfl
    · rw [hbase, captureReferences_digest hcurrent, hdigest, ← hplanned]
      exact same_merge_compensation (hcf.digest_eq_iff.mp hsame)

end

theorem admits_of_planned {host : Host D} {input : ProgramVocabularyAuthorInput}
    {state : ProgramVocabularyState host} {registry : ProgramReferenceContributorRegistry}
    {source : ProgramReferenceSnapshotSource D} {plan : ProgramVocabularyMutationPlan D}
    (hinput : input.Distinct)
    (h : planProgramVocabularyMutation host input state registry source = .ok plan) :
    AdmitsPlan host state plan ∧ ReferencesAsExpected host state plan registry source := by
  cases input with
  | create scope expectedSetVersion id name fields =>
    have hplan : planCreate host scope expectedSetVersion id name fields state = .ok plan := h
    refine ⟨admits_of_planCreate hplan, ?_⟩
    simp only [planCreate, bind_eq_ok, pure_eq_ok] at hplan
    obtain ⟨-, -, -, -, name, -, fields, -, rfl⟩ := hplan
    simp [ReferencesAsExpected, ProgramVocabularyMutationPlan.referencePlan]
  | edit item name capacity =>
    have hplan : planEdit host item name capacity state = .ok plan := h
    refine ⟨admits_of_planEdit hplan, ?_⟩
    simp only [planEdit, bind_eq_ok, pure_eq_ok] at hplan
    obtain ⟨-, -, before, -, name, -, version, -, fields, -, rfl⟩ := hplan
    simp [ReferencesAsExpected, ProgramVocabularyMutationPlan.referencePlan]
  | retire item =>
    simp only [planProgramVocabularyMutation, bind_eq_ok, pure_eq_ok] at h
    obtain ⟨⟨before, after⟩, hplan, rfl⟩ := h
    exact ⟨admits_of_retire hplan, by
      simp [ReferencesAsExpected, ProgramVocabularyMutationPlan.referencePlan]⟩
  | restore item =>
    simp only [planProgramVocabularyMutation, bind_eq_ok, pure_eq_ok] at h
    obtain ⟨⟨before, after⟩, hplan, rfl⟩ := h
    exact ⟨admits_of_restore hplan, by
      simp [ReferencesAsExpected, ProgramVocabularyMutationPlan.referencePlan]⟩
  | delete item => exact admits_of_planDelete h
  | merge input => exact admits_of_planMerge h
  | merge_compensation input restoreSource references =>
    exact admits_of_planMergeCompensation hinput h

/-! ## Accepted runs -/

/-- A plan that is accepted and applied. -/
structure AcceptedStep (host : Host D) (state : ProgramVocabularyState host)
    (plan : ProgramVocabularyMutationPlan D) (registry : ProgramReferenceContributorRegistry)
    (source : ProgramReferenceSnapshotSource D) (state' : ProgramVocabularyState host) : Prop where
  accepted : validateProgramVocabularyPlan host state plan registry source = none
  applied : applyProgramVocabularyPlan host state plan = .ok state'

/-- The states that accepted plans lead to, one after another. -/
inductive AcceptedRun (host : Host D) (start : ProgramVocabularyState host) :
    ℕ → ProgramVocabularyState host → Prop
  | start : AcceptedRun host start 0 start
  | step {n state plan registry source state'} (run : AcceptedRun host start n state)
      (step : AcceptedStep host state plan registry source state') :
      AcceptedRun host start (n + 1) state'

/-- What an accepted plan leaves of the items of a state. -/
structure StepEffect (host : Host D) (state : ProgramVocabularyState host)
    (plan : ProgramVocabularyMutationPlan D) (registry : ProgramReferenceContributorRegistry)
    (source : ProgramReferenceSnapshotSource D) (state' : ProgramVocabularyState host) : Prop where
  setVersion : state'.setVersion.val = state.setVersion.val + 1
  /-- An item that stays is as it was, or it is the changed item in its next version. -/
  versions : ∀ item ∈ programVocabularyItems state, ∀ item' ∈ programVocabularyItems state',
    item'.ref = item.ref → item' = item ∨
      item'.version.val = item.version.val + 1 ∧ plan.changed = some item
  /-- An item that is gone was not referenced. -/
  deleted : ∀ item ∈ programVocabularyItems state,
    (∀ item' ∈ programVocabularyItems state', item'.ref ≠ item.ref) →
      ∃ snapshot, captureReferences host state registry source = .ok snapshot ∧
        ∀ c ∈ snapshot.contributors, ∀ r ∈ c.references, r.item ≠ item.ref

theorem AdmitsPlan.changed_mem {host : Host D} (hcf : host.CollisionFree)
    {state : ProgramVocabularyState host} {plan : ProgramVocabularyMutationPlan D}
    (h : AdmitsPlan host state plan) {before : PlannedProgramVocabularyItem}
    (hb : plan.changed = some before) : before ∈ programVocabularyItems state := by
  have hitems := h.items
  simp only [FindsItems, hb] at hitems
  have hstored : before.Stored host := by
    refine stored_of_planParses h.parses before ?_
    cases plan <;> cases hb <;> simp [ProgramVocabularyMutationPlan.items]
  exact (resolve_eq_some_iff.mp (resolve_of_found hcf hstored hitems.1)).1

theorem written_of_planParses {host : Host D} (hcf : host.CollisionFree)
    {plan : ProgramVocabularyMutationPlan D} (h : planParses host plan = true)
    {before item : PlannedProgramVocabularyItem} (hb : plan.changed = some before)
    (hi : item ∈ plan.written) :
    item = before ∨ item.version.val = before.version.val + 1 := by
  obtain ⟨hstored, hcoherent⟩ := planParses_iff.mp h
  cases plan with
  | create => cases hb
  | delete => cases hi
  | edit | retire | restore | merge =>
    cases hb
    obtain rfl := List.mem_singleton.mp hi
    simp only [actionIsCoherent, isNextVersion, Bool.and_eq_true, decide_eq_true_eq] at hcoherent
    simp [hcoherent]
  | merge_compensation base sourceBefore sourceAfter target restoreSource digest references =>
    cases hb
    obtain rfl := List.mem_singleton.mp hi
    simp only [actionIsCoherent, isNextVersion, Bool.and_eq_true, decide_eq_true_eq] at hcoherent
    cases restoreSource with
    | true =>
      simp only [reduceIte, Bool.and_eq_true, decide_eq_true_eq] at hcoherent
      exact Or.inr hcoherent.1.2.1.2
    | false =>
      simp only [Bool.false_eq_true, reduceIte, decide_eq_true_eq] at hcoherent
      simp only [ProgramVocabularyMutationPlan.items, List.forall_mem_cons] at hstored
      exact Or.inl (eq_of_digest_eq hcf hstored.2.1 hstored.1 hcoherent.1.2.symm)

theorem stepEffect_of_accepted {host : Host D} (hcf : host.CollisionFree)
    {state state' : ProgramVocabularyState host} {plan : ProgramVocabularyMutationPlan D}
    {registry : ProgramReferenceContributorRegistry} {source : ProgramReferenceSnapshotSource D}
    (h : AcceptedStep host state plan registry source state') :
    StepEffect host state plan registry source state' := by
  obtain ⟨hadmits, hreferences⟩ := validateProgramVocabularyPlan_eq_none_iff.mp h.accepted
  obtain ⟨hparses, -, -, hversion, hafter⟩ := applyProgramVocabularyPlan_ok h.applied
  refine ⟨hversion, fun item hi item' hi' href => ?_, fun item hi hgone => ?_⟩
  · rcases (hafter item').mp hi' with hw | ⟨hold, -⟩
    · cases hc : plan.changed with
      | none =>
        -- a created item has a new identity
        have hfresh := hadmits.items
        simp only [FindsItems, hc] at hfresh
        exact absurd (congrArg ProgramItemRef.id href).symm (hfresh item hi item' hw)
      | some before =>
        have hrefs := ref_written_of_planParses hparses hc item' hw
        obtain rfl := Keyed.eq_of_key_eq state.refs_nodup (hadmits.changed_mem hcf hc) hi
          (hrefs.symm.trans href)
        exact (written_of_planParses hcf hparses hc hw).imp_right fun hv => ⟨hv, rfl⟩
    · exact Or.inl (Keyed.eq_of_key_eq state.refs_nodup hold hi href)
  · -- the item is the changed one, and nothing was written in its place
    have hchanged : ∃ before, plan.changed = some before ∧ before.ref = item.ref := by
      by_contra hne
      push Not at hne
      exact hgone item ((hafter item).mpr (Or.inr ⟨hi, fun before hb => (hne before hb).symm⟩)) rfl
    obtain ⟨before, hb, href⟩ := hchanged
    have hwritten : plan.written = [] := by
      refine List.eq_nil_iff_forall_not_mem.mpr fun after ha => ?_
      exact hgone after ((hafter after).mpr (Or.inl ha))
        ((ref_written_of_planParses hparses hb after ha).trans href)
    cases plan with
    | delete base before' digest references =>
      obtain rfl := Option.some.inj hb
      obtain ⟨-, current, hcurrent, expected, hexpected, -⟩ := hreferences _ rfl
      refine ⟨current, hcurrent, fun c hc r hr hitem => ?_⟩
      have husage : programReferenceUsage current before'.ref .current = 0 ∧
          programReferenceUsage current before'.ref .historical = 0 := by
        by_contra husage
        rw [expectedReferencePlans, if_pos (by omega)] at hexpected
        cases hexpected
      rw [href] at husage
      cases hm : r.mode with
      | current => exact programReferenceUsage_eq_zero_iff.mp husage.1 c hc r hr ⟨hitem, hm⟩
      | historical => exact programReferenceUsage_eq_zero_iff.mp husage.2 c hc r hr ⟨hitem, hm⟩
    | create => cases hb
    | edit | retire | restore | merge | merge_compensation => cases hwritten

theorem AcceptedRun.setVersion {host : Host D} {start state : ProgramVocabularyState host} {n : ℕ}
    (h : AcceptedRun host start n state) : state.setVersion.val = start.setVersion.val + n := by
  induction h with
  | start => rfl
  | step run step ih =>
    rw [(applyProgramVocabularyPlan_ok step.applied).2.2.2.1, ih]
    omega

/-- The validator accepts every plan of the planner, which then applies unless the version
of the set is at its bound; it accepts no plan but those the planner returns, up to their
canonical encoding. Along accepted plans identities stay distinct, the set goes one version
on with every plan, an item only with a plan that changes it, and no referenced item is
deleted. -/
theorem validation_matches_planning {host : Host D} (hcf : host.CollisionFree)
    (state : ProgramVocabularyState host) (registry : ProgramReferenceContributorRegistry)
    (source : ProgramReferenceSnapshotSource D) :
    (∀ (input : ProgramVocabularyAuthorInput) (plan : ProgramVocabularyMutationPlan D),
      input.Distinct →
      planProgramVocabularyMutation host input state registry source = .ok plan →
      validateProgramVocabularyPlan host state plan registry source = none ∧
      (state.setVersion.val < maxSafeInteger →
        ∃ state', applyProgramVocabularyPlan host state plan = .ok state')) ∧
    (∀ plan : ProgramVocabularyMutationPlan D,
      validateProgramVocabularyPlan host state plan registry source = none →
      ∃ input : ProgramVocabularyAuthorInput, input.Distinct ∧ ∃ plan',
        planProgramVocabularyMutation host input state registry source = .ok plan' ∧
        host.Same plan plan') ∧
    ∀ (n : ℕ) (state' : ProgramVocabularyState host), AcceptedRun host state n state' →
      ((programVocabularyItems state').map PlannedProgramVocabularyItem.id).Nodup ∧
      state'.setVersion.val = state.setVersion.val + n ∧
      ∀ plan registry' source' state'', AcceptedStep host state' plan registry' source' state'' →
        StepEffect host state' plan registry' source' state'' := by
  refine ⟨fun input plan hinput hplan => ?_, fun plan hplan => ?_, fun n state' hrun =>
    ⟨state'.nodup, hrun.setVersion, fun plan registry' source' state'' hstep =>
      stepEffect_of_accepted hcf hstep⟩⟩
  · have hadmits := admits_of_planned hinput hplan
    exact ⟨validateProgramVocabularyPlan_eq_none_iff.mpr hadmits, hadmits.1.exists_apply⟩
  · obtain ⟨hadmits, hreferences⟩ := validateProgramVocabularyPlan_eq_none_iff.mp hplan
    exact planned_of_admits hcf hadmits hreferences

/-- The merge of the example is accepted and applies. -/
theorem validation_matches_planning_rooms :
    ∃ plan, planProgramVocabularyMutation SymbolicDigest.host (.merge (MergeExample.input .one .one))
        MergeExample.vocabulary MergeExample.registry
        (MergeExample.sourceOf [MergeExample.contributor]) = .ok plan ∧
      validateProgramVocabularyPlan SymbolicDigest.host MergeExample.vocabulary plan
        MergeExample.registry (MergeExample.sourceOf [MergeExample.contributor]) = none ∧
      ∃ state', applyProgramVocabularyPlan SymbolicDigest.host MergeExample.vocabulary plan =
        .ok state' := by
  obtain ⟨plan, hplan⟩ := exists_of_toBool (x := planProgramVocabularyMutation SymbolicDigest.host
    (.merge (MergeExample.input .one .one)) MergeExample.vocabulary MergeExample.registry
    (MergeExample.sourceOf [MergeExample.contributor])) (by decide +kernel)
  obtain ⟨hvalid, happly⟩ := (validation_matches_planning SymbolicDigest.host_collisionFree
    MergeExample.vocabulary MergeExample.registry _).1 (.merge (MergeExample.input .one .one))
    plan trivial hplan
  exact ⟨plan, hplan, hvalid, happly (by decide)⟩

/-! ## Where planner and validator part -/

namespace AcceptanceExample

open MergeExample

/-- The vocabulary of the example with the last version there is. -/
def fullVocabulary : ProgramVocabularyState SymbolicDigest.host :=
  { vocabulary with setVersion := ⟨maxSafeInteger, by decide⟩ }

example : (planProgramVocabularyMutation SymbolicDigest.host
    (.create vocabulary.scope .one (.ofNat 9) "Studio" .format) fullVocabulary registry
    (sourceOf [contributor])).toBool = false := by decide +kernel

def decomposed : BoundedText := ⟨String.ofList [Char.ofNat 0x65, Char.ofNat 0x301], by decide⟩

def composed : BoundedText := ⟨String.ofList [Char.ofNat 0xE9], by decide⟩

def composingHost : Host SymbolicDigest where
  nfc s := if s = decomposed.val then composed.val else s
  nfc_idem s := by
    have hne : composed.val ≠ decomposed.val := by decide
    split <;> simp [*]
  nfc_ascii s hs := by
    refine if_neg fun h => ?_
    rw [h] at hs
    exact absurd hs (by decide)
  sha256 := SymbolicDigest.ofJson

def composedVocabulary : ProgramVocabularyState composingHost where
  scope := vocabulary.scope
  setVersion := vocabulary.setVersion
  itemsOfKind := vocabulary.itemsOfKind
  kind_eq := vocabulary.kind_eq
  stored := by
    rintro (_ | _ | _) item h <;> simp_all [vocabulary]
    rcases h with rfl | rfl <;> exact ⟨by decide, trivial⟩
  sorted := vocabulary.sorted
  nodup := vocabulary.nodup

/-- The contributor of the example with one live reference, to a destination with the
given identity. -/
theorem isBoundedText_a : 1 ≤ textLength "a" ∧ textLength "a" ≤ 300 ∧ trimText "a" = "a" := by decide

theorem isStableKey_session : isStableKey "session" = true := by decide

def contributorTo (destination : BoundedText) : ProgramReferenceContributorSnapshot SymbolicDigest :=
  { contributor with
    references := [{ reference ⟨"a", isBoundedText_a⟩ annex .current with
      destination := { kind := ⟨"session", isStableKey_session⟩, id := destination } }] }

/-- The merge of the rooms, with the destination of its repoint as given. -/
def mergeTo (destination : BoundedText) : ProgramVocabularyMutationPlan SymbolicDigest :=
  .merge (commonPlan composingHost composedVocabulary) annex
    { annex with status := .retired, version := ⟨2, isPositiveSafe_two⟩ } mainHall
    (registry.registryDigestSha256 composingHost)
    [contributorPlan (contributorTo destination) annex.ref (some mainHall.ref) none]

theorem mergeTo_accepted : validateProgramVocabularyPlan composingHost composedVocabulary
    (mergeTo decomposed) registry (sourceOf [contributorTo composed]) = none := by
  decide +kernel

example : decomposed ≠ composed ∧
    composingHost.nfc decomposed.val = composingHost.nfc composed.val := by decide +kernel

theorem exists_input_of_planned_merge {input : ProgramVocabularyAuthorInput}
    {state : ProgramVocabularyState composingHost} {registry : ProgramReferenceContributorRegistry}
    {source : ProgramReferenceSnapshotSource SymbolicDigest} {base : PlanBase SymbolicDigest}
    {before after target : PlannedProgramVocabularyItem} {digest : SymbolicDigest}
    {references : List (ProgramReferenceContributionPlan SymbolicDigest)}
    (h : planProgramVocabularyMutation composingHost input state registry source =
      .ok (.merge base before after target digest references)) :
    ∃ input', input = .merge input' := by
  cases input with
  | merge input => exact ⟨input, rfl⟩
  | create | edit | retire | restore | delete | merge_compensation =>
    simp [planProgramVocabularyMutation, planCreate, planEdit, planDelete,
      planMergeCompensation] at h

theorem mergeTo_not_planned (input : ProgramVocabularyAuthorInput) :
    planProgramVocabularyMutation composingHost input composedVocabulary registry
      (sourceOf [contributorTo composed]) ≠ .ok (mergeTo decomposed) := by
  intro h
  obtain ⟨input, rfl⟩ := exists_input_of_planned_merge h
  obtain ⟨-, -, source, -, target, -, -, references, hreferences, version, -, hplan⟩ :=
    planMerge_eq_ok.mp h
  have hcurrent : (captureReferences composingHost composedVocabulary registry
      (sourceOf [contributorTo composed])).map (fun s => s.contributors) =
        .ok [contributorTo composed] := by
    decide +kernel
  rw [hreferences, Except.map, Except.ok.injEq] at hcurrent
  simp only [mergeTo, ProgramVocabularyMutationPlan.merge.injEq, hcurrent] at hplan
  obtain ⟨-, rfl, -, rfl, -, hreferences⟩ := hplan
  exact absurd hreferences (by decide)

end AcceptanceExample

open MergeExample AcceptanceExample in
/-- A plan for a vocabulary with the last version is accepted and does not apply, and a
plan that spells the destination of a reference in another way is accepted though no input
leads to it. -/
theorem validation_parts_from_planning :
    (∃ input plan, planProgramVocabularyMutation SymbolicDigest.host input fullVocabulary registry
        (sourceOf [contributor]) = .ok plan ∧
      ∀ state', applyProgramVocabularyPlan SymbolicDigest.host fullVocabulary plan ≠
        .ok state') ∧
    ∃ plan, validateProgramVocabularyPlan composingHost composedVocabulary plan registry
        (sourceOf [contributorTo composed]) = none ∧
      ∀ input, planProgramVocabularyMutation composingHost input composedVocabulary registry
        (sourceOf [contributorTo composed]) ≠ .ok plan := by
  refine ⟨?_, _, mergeTo_accepted, mergeTo_not_planned⟩
  obtain ⟨plan, hplan⟩ := exists_of_toBool (x := planProgramVocabularyMutation SymbolicDigest.host
    (.create vocabulary.scope ⟨maxSafeInteger, by decide⟩ (.ofNat 9) "Studio" .format)
    fullVocabulary registry (sourceOf [contributor])) (by decide +kernel)
  refine ⟨_, plan, hplan, fun state' happly => ?_⟩
  have hversion : state'.setVersion.val = maxSafeInteger + 1 :=
    (applyProgramVocabularyPlan_ok happly).2.2.2.1
  have hbound := state'.setVersion.property.2
  omega

end JooEvents
