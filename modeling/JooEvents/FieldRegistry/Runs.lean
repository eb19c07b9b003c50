import JooEvents.FieldRegistry.Effects
import Mathlib.Logic.Relation

/-!
# Runs of a registry

A plan that is accepted puts the field that planning its request again puts
(`planned_of_applied`), so what is known of planned changes holds of every applied plan. A plan
is applied where it was made when there is room (`apply_iff_of_planned`). The other fields are kept
(`OthersKept`), and the registry stays well formed in every run. A field that is removed and
restored, or moved there and back, stands where it stood (`restored_of_removed`, `moved_back`).
-/

namespace JooEvents

open Fallible

variable {D : Type} {host : FieldRegistryHost D}
  {state next final : FieldRegistryState} {references : FieldRegistryFormReferenceResolver}

/-! ## Encodings of plans -/

theorem FieldRegistryFieldDefinition.position_of_same {a b : FieldRegistryFieldDefinition}
    (h : host.toHost.Same a b) : a.id = b.id ∧ a.position = b.position := by
  have h := Iff.mp Host.canonicalize_record_iff h
  simp only [List.map_cons, List.map_nil, List.cons.injEq, canonicalize_toJson_eq_iff,
    Host.same_iff_eq, and_true] at h
  obtain ⟨hid, -, -, -, -, -, -, -, -, -, -, hposition, -⟩ := h
  exact ⟨hid, hposition⟩

theorem exists_mem_renumber {fields : List FieldRegistryFieldDefinition}
    {field : FieldRegistryFieldDefinition} (h : field ∈ fields) :
    ∃ position, { field with position } ∈ renumber fields := by
  obtain ⟨i, hi, rfl⟩ := List.getElem_of_mem h
  exact ⟨i, List.mem_mapIdx.mpr ⟨i, hi, rfl⟩⟩

theorem FieldRegistryFieldDefinition.eq_of_same_placed {a b : FieldRegistryFieldDefinition}
    {position : ℕ} (ha : a.WellFormed host)
    (hb : ({ b with position } : FieldRegistryFieldDefinition).WellFormed host)
    (h : host.toHost.Same a b) : a = b :=
  FieldRegistryFieldDefinition.eq_of_same ha
    (hb.placed ((position_of_same h).2 ▸ ha.position)) h

theorem FieldRegistryMutationPlan.lookup_of_same {a b : FieldRegistryMutationPlan D}
    (h : host.toHost.Same a b) (k : String) :
    (a.members.lookup k).map (Json.canonicalize host.nfc) =
      (b.members.lookup k).map (Json.canonicalize host.nfc) := by
  have hkeys : ∀ plan : FieldRegistryMutationPlan D,
      plainKeys (plan.members.map Prod.fst) = true := fun plan => by
    unfold FieldRegistryMutationPlan.members
    cases plan.body
    all_goals
      simp only [FieldRegistryPlanBody.members, List.cons_append, List.nil_append, List.map_cons,
        List.map_nil]
      decide
  exact Host.lookup_canonicalize h k (hkeys a) (hkeys b)

/-- Plans that do the same to a registry. -/
structure FieldRegistryPlanBody.Alike (state : FieldRegistryState) (a b : FieldRegistryPlanBody) :
    Prop where
  outcome : a.outcome state = b.outcome state
  fields : a.fields state = b.fields state
  identity : a.identity = b.identity

theorem FieldRegistryPlanBody.Alike.restore {a b : FieldRegistryFieldDefinition} (h : a = b)
    {placement placement' : FieldRegistryPlacementSuggestion} :
    Alike state (.restore a placement) (.restore b placement') := by
  subst h
  exact ⟨rfl, rfl, rfl⟩

theorem alike_of_applied {plan replanned : FieldRegistryMutationPlan D}
    (hstate : state.WellFormed host) {change : FieldRegistryChange} {planned : FieldRegistryPlanned}
    (hchange : plan.body.change = some change)
    (hplanned : planFieldRegistryChange host state references change = .ok planned)
    (hreplanned : replanned.body = planned.2) (hsame : host.toHost.Same replanned plan)
    (hfields : plan.body.fields state = .ok (next.fields, next.removed))
    (hnext : next.WellFormed host) : planned.2.Alike state plan.body := by
  obtain ⟨scope, version, resulting, guard, pin, body⟩ := plan
  obtain ⟨scope', version', resulting', guard', pin', body'⟩ := replanned
  subst hreplanned
  cases body with
  | add after placement =>
    cases hchange
    obtain ⟨_, _, _, _, pin, _, fieldKey, _, made, hmade, rfl⟩ := planFieldAdd_eq_ok.mp hplanned
    have hafter : host.toHost.Same made after :=
      Option.some.inj (FieldRegistryMutationPlan.lookup_of_same hsame "after")
    obtain ⟨hschema, -⟩ := fieldFromAuthor_eq_ok.mp hmade
    rw [FieldRegistryPlanBody.fields, pure_eq_ok, Prod.mk.injEq] at hfields
    obtain ⟨position, hmem⟩ := exists_mem_renumber
      ((perm_spliceIn state.fields after.position after).mem_iff.mpr (List.mem_cons_self ..))
    obtain rfl := FieldRegistryFieldDefinition.eq_of_same_placed hschema
      (hnext.fields _ (hfields.1 ▸ hmem)) hafter
    exact ⟨rfl, rfl, rfl⟩
  | edit before after =>
    cases hchange
    obtain ⟨parsed, _, active, hactive, _, options, _, version, _, hschema, pin, _, rfl⟩ :=
      planFieldEdit_eq_ok.mp hplanned
    have hafter := Option.some.inj (FieldRegistryMutationPlan.lookup_of_same hsame "after")
    obtain ⟨-, -, hactive⟩ := activeField_again hactive
    have hid : active.id = after.id := (FieldRegistryFieldDefinition.position_of_same hafter).1
    rw [FieldRegistryPlanBody.fields, pure_eq_ok, Prod.mk.injEq] at hfields
    have hmem : after ∈ next.fields :=
      hfields.1 ▸ List.mem_map.mpr ⟨active, hactive, if_pos hid⟩
    obtain rfl := FieldRegistryFieldDefinition.eq_of_same hschema (hnext.fields _ hmem) hafter
    exact ⟨rfl, rfl, rfl⟩
  | move fieldId fieldVersion beforeIndex afterIndex =>
    cases hchange
    obtain ⟨_, field, hfield, _, pin, _, rfl⟩ := planFieldMove_eq_ok.mp hplanned
    obtain ⟨rfl, -, -⟩ := activeField_again hfield
    exact ⟨rfl, rfl, rfl⟩
  | remove before removedAt removedByUserId =>
    cases hchange
    obtain ⟨active, hactive, _, pin, _, rfl⟩ := planFieldRemove_eq_ok.mp hplanned
    have hbefore : host.toHost.Same active before :=
      Option.some.inj (FieldRegistryMutationPlan.lookup_of_same hsame "before")
    obtain ⟨-, -, hactive⟩ := activeField_again hactive
    rw [FieldRegistryPlanBody.fields, pure_eq_ok, Prod.mk.injEq] at hfields
    have hentry := hnext.removed _ (hfields.2 ▸ List.mem_append_right _ (List.mem_singleton.mpr rfl))
    obtain rfl := FieldRegistryFieldDefinition.eq_of_same (hstate.fields _ hactive)
      (removedFieldSchema_iff.mp hentry).1 hbefore
    exact ⟨rfl, rfl, rfl⟩
  | restore after placement =>
    obtain ⟨version, _, rfl⟩ := Option.map_eq_some_iff.mp hchange
    obtain ⟨_, _, removed, _, _, _, version, _, hschema, pin, _, rfl⟩ :=
      planFieldRestore_eq_ok.mp hplanned
    have hafter := Option.some.inj (FieldRegistryMutationPlan.lookup_of_same hsame "after")
    rw [FieldRegistryPlanBody.fields, pure_eq_ok, Prod.mk.injEq] at hfields
    obtain ⟨position, hmem⟩ := exists_mem_renumber
      ((perm_spliceIn state.fields after.position after).mem_iff.mpr (List.mem_cons_self ..))
    exact .restore (FieldRegistryFieldDefinition.eq_of_same_placed hschema
      (hnext.fields _ (hfields.1 ▸ hmem)) hafter)

theorem derivedKeyFree_of_answered {body : FieldRegistryPlanBody} {change : FieldRegistryChange}
    (h : body.change = some change) : DerivedKeyFree host state change := by
  cases body with
  | restore after placement =>
    obtain ⟨version, -, rfl⟩ := Option.map_eq_some_iff.mp h
    trivial
  | _ =>
    cases h
    simp [DerivedKeyFree]

variable [DecidableEq D]

theorem apply_eq_ok {plan : FieldRegistryMutationPlan D} {result : FieldRegistryChangeResult} :
    applyFieldRegistryMutationPlan host state references plan = .ok (next, result) ↔
      validateFieldRegistryMutationPlan host state references plan = .ok () ∧
        plan.body.fields state = .ok (next.fields, next.removed) ∧
        next.scope = state.scope ∧ next.version.val = plan.resultingRegistryVersion ∧
        next.WellFormed host ∧ changeResult next plan.body = .ok result := by
  simp only [applyFieldRegistryMutationPlan, bind_eq_ok, orRefuse_eq_ok, require_eq_ok, pure_eq_ok,
    exists_const, Prod.mk.injEq, Prod.exists, PositiveSafe.parse_eq_some, registrySchema_iff]
  constructor
  · rintro ⟨⟨⟩, hvalid, fields, removed, hfields, version, hversion, hschema, result', hresult, rfl,
      rfl⟩
    exact ⟨hvalid, hfields, rfl, hversion, hschema, hresult⟩
  · rintro ⟨hvalid, hfields, hscope, hversion, hschema, hresult⟩
    have hnext : next =
        { scope := state.scope, version := next.version, fields := next.fields,
          removed := next.removed } := by rw [← hscope]
    exact ⟨(), hvalid, next.fields, next.removed, hfields, next.version, hversion, hnext ▸ hschema,
      result, hnext ▸ hresult, hnext.symm, rfl⟩

theorem exists_changeResult {body : FieldRegistryPlanBody}
    (h : body.identity ∈ state.allFields.map (·.id)) :
    ∃ result, changeResult state body = .ok result := by
  have hversion : ∃ version, ((state.fields.find? fun field => field.id = body.identity).map
      (·.version)).or ((state.removed.find? fun candidate => candidate.field.id = body.identity).map
        (·.field.version)) = some version := by
    rw [← Option.isSome_iff_exists, Option.isSome_or, Option.isSome_map, Option.isSome_map,
      Bool.or_eq_true, List.find?_isSome, List.find?_isSome]
    obtain ⟨field, hmem, hid⟩ := List.mem_map.mp h
    rcases List.mem_append.mp hmem with hmem | hmem
    · exact .inl ⟨field, hmem, decide_eq_true hid⟩
    · obtain ⟨removed, hremoved, rfl⟩ := List.mem_map.mp hmem
      exact .inr ⟨removed, hremoved, decide_eq_true hid⟩
  obtain ⟨version, hversion⟩ := hversion
  simp only [changeResult, hversion, bind_eq_ok, orRefuse_eq_ok, pure_eq_ok]
  exact ⟨_, version, rfl, rfl⟩

theorem FieldRegistryState.id_mem_put (state : FieldRegistryState) (outcome : FieldRegistryOutcome) :
    outcome.field.id ∈ (state.put outcome).allFields.map (·.id) :=
  (FieldRegistryState.allFields_put_perm FieldRegistryFieldDefinition.id (fun _ _ => rfl) state
    outcome).mem_iff.mpr (List.mem_cons_self ..)

theorem apply_iff_of_planned {author : FieldRegistryAuthorInput} {plan : FieldRegistryMutationPlan D}
    (hfree : DerivedKeyFree host state author.change)
    (h : planFieldRegistryMutation host state references author = .ok plan) :
    (∃ next result, applyFieldRegistryMutationPlan host state references plan =
        .ok (next, result)) ↔
      plan.body.HasRoom host state ∧ state.version.val < maxSafeInteger := by
  have hvalid := validate_of_planned hfree h
  obtain ⟨hstate, -, -, planned, hplanned, rfl⟩ := planFieldRegistryMutation_eq_ok.mp h
  obtain ⟨outcome, hputs⟩ := puts_of_planned hstate hfree hplanned
  constructor
  · rintro ⟨next, result, happly⟩
    obtain ⟨-, hfields, hscope, hversion, hnext, -⟩ := apply_eq_ok.mp happly
    rw [hputs.fields, Except.ok.injEq, Prod.mk.injEq] at hfields
    have hput : (state.put outcome).WellFormed host := by
      refine ⟨hfields.1 ▸ hnext.fieldsMax, hfields.2 ▸ hnext.removedMax, hfields.1 ▸ hnext.fields,
        hfields.2 ▸ hnext.removed, hfields.1 ▸ hnext.positions, ?_, ?_, ?_⟩
      all_goals rw [FieldRegistryState.allFields, hfields.1, hfields.2]
      exacts [hnext.ids, hnext.keys, hnext.mapsTo]
    refine ⟨hputs.room.mp ((hstate.put_iff hputs.fits hputs.apart).mp hput), ?_⟩
    have hsafe := next.version.property.2
    simp only at hversion
    omega
  · rintro ⟨hroom, hversion⟩
    have hput := (hstate.put_iff hputs.fits hputs.apart).mpr (hputs.room.mpr hroom)
    have hsafe : IsPositiveSafe (state.version.val + 1) := ⟨by omega, by omega⟩
    have hmem : planned.2.identity ∈ ({ state.put outcome with
        version := ⟨state.version.val + 1, hsafe⟩ } : FieldRegistryState).allFields.map (·.id) :=
      hputs.identity ▸ state.id_mem_put outcome
    obtain ⟨result, hresult⟩ := exists_changeResult hmem
    refine ⟨{ state.put outcome with version := ⟨state.version.val + 1, hsafe⟩ }, result,
      apply_eq_ok.mpr ⟨hvalid, hputs.fields, ?_, rfl, { hput with }, hresult⟩⟩
    cases outcome <;> rfl

theorem replanned_of_valid (hcf : host.CollisionFree) {plan : FieldRegistryMutationPlan D}
    (h : validateFieldRegistryMutationPlan host state references plan = .ok ()) :
    ∃ author replanned, plan.author = some author ∧
      planFieldRegistryMutation host state references author = .ok replanned ∧
      host.toHost.Same replanned plan := by
  obtain ⟨-, -, -, -, author, hauthor, replanned, hreplanned, hdigest⟩ := validate_eq_ok.mp h
  exact ⟨author, replanned, hauthor, hreplanned, hcf.digest_eq_iff.mp hdigest⟩

/-- A registry in the next version, after an outcome. -/
structure FieldRegistryApplied (host : FieldRegistryHost D) (state : FieldRegistryState)
    (references : FieldRegistryFormReferenceResolver) (body : FieldRegistryPlanBody)
    (outcome : FieldRegistryOutcome) (next : FieldRegistryState) : Prop where
  before : state.WellFormed host
  after : next.WellFormed host
  version : next.version.val = state.version.val + 1
  becomes : body.outcome state = some outcome
  identity : outcome.field.id = body.identity
  put : next = { state.put outcome with version := next.version }
  planned : ∃ change planned, body.change = some change ∧
    planFieldRegistryChange host state references change = .ok planned ∧
    planned.2.Alike state body

theorem applied_of_apply (hcf : host.CollisionFree) {plan : FieldRegistryMutationPlan D}
    {result : FieldRegistryChangeResult}
    (h : applyFieldRegistryMutationPlan host state references plan = .ok (next, result)) :
    ∃ outcome, FieldRegistryApplied host state references plan.body outcome next := by
  obtain ⟨hvalid, hfields, hscope, hversion, hnext, -⟩ := apply_eq_ok.mp h
  obtain ⟨author, replanned, hauthor, hreplanned, hsame⟩ := replanned_of_valid hcf hvalid
  obtain ⟨change, hchange, rfl⟩ := Option.map_eq_some_iff.mp hauthor
  obtain ⟨hstate, -, -, planned, hplanned, hbody⟩ := planFieldRegistryMutation_eq_ok.mp hreplanned
  have hresultingSame : host.toHost.Same replanned.resultingRegistryVersion
      plan.resultingRegistryVersion :=
    Option.some.inj (FieldRegistryMutationPlan.lookup_of_same hsame "resultingRegistryVersion")
  have hresulting := ExactJson.eq_of_same hresultingSame
  have halike := alike_of_applied hstate hchange hplanned (by rw [hbody]) hsame hfields hnext
  obtain ⟨outcome, hputs⟩ := puts_of_planned hstate (derivedKeyFree_of_answered hchange) hplanned
  have hput := hputs.fields
  rw [halike.fields, hfields, Except.ok.injEq, Prod.mk.injEq] at hput
  refine ⟨outcome, hstate, hnext, ?_, halike.outcome ▸ hputs.becomes,
    halike.identity ▸ hputs.identity, ?_, change, planned, hchange, hplanned, halike⟩
  · rw [hversion, ← hresulting, hbody]
  · have hput' : (state.put outcome).scope = state.scope := by cases outcome <;> rfl
    change next = ⟨(state.put outcome).scope, next.version, (state.put outcome).fields,
      (state.put outcome).removed⟩
    rw [← hput.1, ← hput.2, hput', ← hscope]

/-- The fields besides one are kept : the active ones in their order and in all but their
positions, and the removed ones as they are. -/
def OthersKept (state next : FieldRegistryState) (fieldId : ApplicationId) : Prop :=
  (next.others fieldId).map (·.unplaced) = (state.others fieldId).map (·.unplaced) ∧
    next.otherRemoved fieldId = state.otherRemoved fieldId

omit [DecidableEq D] in
theorem FieldRegistryApplied.othersKept {body : FieldRegistryPlanBody}
    {outcome : FieldRegistryOutcome} (h : FieldRegistryApplied host state references body outcome next) :
    OthersKept state next body.identity := by
  rw [h.put, ← h.identity]
  exact ⟨state.others_put outcome, state.otherRemoved_put outcome⟩

def FieldRegistryStep (host : FieldRegistryHost D) (state next : FieldRegistryState) : Prop :=
  ∃ references plan result,
    applyFieldRegistryMutationPlan host state references plan = .ok (next, result)

abbrev FieldRegistryRun (host : FieldRegistryHost D) : FieldRegistryState → FieldRegistryState → Prop :=
  Relation.ReflTransGen (FieldRegistryStep host)

theorem FieldRegistryRun.wellFormed (hstart : state.WellFormed host)
    (hrun : FieldRegistryRun host state final) : final.WellFormed host := by
  induction hrun with
  | refl => exact hstart
  | tail _ hstep _ =>
    obtain ⟨references, plan, result, happly⟩ := hstep
    exact (apply_eq_ok.mp happly).2.2.2.2.1

/-! ## There and back -/

section Back

variable {middle : FieldRegistryState} {references' : FieldRegistryFormReferenceResolver}
  {outcome outcome' : FieldRegistryOutcome}

omit [DecidableEq D]

theorem put_twice {body body' : FieldRegistryPlanBody}
    (h : FieldRegistryApplied host state references body outcome middle)
    (h' : FieldRegistryApplied host middle references' body' outcome' next)
    (hid : outcome.field.id = outcome'.field.id) :
    next = { state.put outcome' with version := next.version } := by
  have hput := h'.put
  rw [h.put] at hput
  have hversion : ({ state.put outcome with version := middle.version } : FieldRegistryState).put
      outcome' = { (state.put outcome).put outcome' with version := middle.version } := by
    cases outcome' <;> rfl
  rw [hversion, state.put_put hid] at hput
  exact hput

theorem restored_of_removed {before after : FieldRegistryFieldDefinition} {removedAt : String}
    {removedByUserId : ApplicationId} {placement : FieldRegistryPlacementSuggestion}
    (h : FieldRegistryApplied host state references (.remove before removedAt removedByUserId)
      outcome middle)
    (h' : FieldRegistryApplied host middle references' (.restore after placement) outcome' next)
    (hid : after.id = before.id) (hposition : after.position = before.position) :
    next.fields = (state.fields.map fun field =>
        if field.id = before.id then { field with version := after.version } else field) ∧
      after.version.val = before.version.val + 1 ∧ next.removed = state.removed := by
  obtain rfl := Option.some.inj h.becomes
  obtain rfl := Option.some.inj h'.becomes
  -- what was removed was active, and what is restored was removed
  have hactive : before ∈ state.fields := by
    obtain ⟨change, planned, hchange, hplanned, halike⟩ := h.planned
    cases hchange
    obtain ⟨active, hactive, -, pin, -, rfl⟩ := planFieldRemove_eq_ok.mp hplanned
    obtain ⟨-, -, hmem⟩ := activeField_again hactive
    obtain ⟨rfl, -⟩ : active = before ∧ active.position = before.position := by
      simpa [FieldRegistryPlanBody.outcome] using halike.outcome
    exact hmem
  have hrestored : ∃ version, version.val = before.version.val + 1 ∧
      after = { before with version, position := after.position } := by
    obtain ⟨change, planned, hchange, hplanned, halike⟩ := h'.planned
    obtain ⟨version, -, rfl⟩ := Option.map_eq_some_iff.mp hchange
    obtain ⟨-, -, removed, hfound, -, -, version, hversion, -, pin, -, rfl⟩ :=
      planFieldRestore_eq_ok.mp hplanned
    have hafter : { removed.field with version, position := after.position } = after := by
      simpa [FieldRegistryPlanBody.outcome] using halike.outcome
    have hmem := List.mem_of_find?_eq_some hfound
    have hfieldId : removed.field.id = after.id := by simpa using List.find?_some hfound
    have hbefore : removed.field = before := by
      rw [h.put] at hmem
      rcases List.mem_append.mp hmem with hmem | hmem
      · have hne := of_decide_eq_true (List.mem_filter.mp hmem).2
        exact absurd (hfieldId.trans hid) hne
      · rw [List.mem_singleton.mp hmem]
    rw [hbefore] at hafter hversion
    exact ⟨version, val_of_nextAggregateVersion hversion, hafter.symm⟩
  obtain ⟨version, hversion, hafter⟩ := hrestored
  have hnext := put_twice h h' hid.symm
  rw [h.before.put_active hactive hid hposition] at hnext
  refine ⟨?_, by rw [hafter]; exact hversion, by rw [hnext]⟩
  rw [hnext]
  refine List.map_congr_left fun field hfield => ?_
  rw [hid]
  split
  · rename_i heq
    have hsame : field = before := List.inj_on_of_nodup_map h.before.active_ids hfield hactive heq
    rw [hafter, hposition, hsame]
  · rfl

theorem unplaced_of_mem_put {field found : FieldRegistryFieldDefinition}
    (hmem : found ∈ (state.put (.active field)).fields) (hid : found.id = field.id) :
    found.unplaced = field.unplaced := by
  obtain ⟨f, hf, position, -, rfl⟩ := mem_renumber hmem
  rcases List.mem_cons.mp ((perm_spliceIn _ _ _).mem_iff.mp hf) with rfl | hf
  · rfl
  · exact absurd hid (of_decide_eq_true (List.mem_filter.mp hf).2)

theorem moved_back {field : FieldRegistryFieldDefinition} {version version' : Version}
    {beforeIndex beforeIndex' toIndex : ℕ} (hfield : field ∈ state.fields)
    (h : FieldRegistryApplied host state references (.move field.id version beforeIndex toIndex)
      outcome middle)
    (h' : FieldRegistryApplied host middle references'
      (.move field.id version' beforeIndex' field.position) outcome' next) :
    next.fields = state.fields ∧ next.removed = state.removed := by
  obtain ⟨moved, hmoved, rfl⟩ := Option.map_eq_some_iff.mp h.becomes
  obtain ⟨found, hfound, rfl⟩ := Option.map_eq_some_iff.mp h'.becomes
  have hmovedId : moved.id = field.id := by simpa using List.find?_some hmoved
  have hfoundId : found.id = field.id := by simpa using List.find?_some hfound
  obtain rfl : moved = field := List.inj_on_of_nodup_map h.before.active_ids
    (List.mem_of_find?_eq_some hmoved) hfield hmovedId
  have hmem := List.mem_of_find?_eq_some hfound
  rw [h.put] at hmem
  have hunplaced : found.unplaced = ({ moved with position := toIndex } :
      FieldRegistryFieldDefinition).unplaced := unplaced_of_mem_put hmem hfoundId
  have hback : { found with position := moved.position } = moved :=
    FieldRegistryFieldDefinition.eq_of_unplaced hunplaced rfl
  have hnext := put_twice h h' hfoundId.symm
  rw [hback, h.before.put_active_self hfield] at hnext
  rw [hnext]
  exact ⟨rfl, rfl⟩

end Back

/-- The plans of a registry agree with its states over whole runs. A plan is accepted where it was
made, unless it makes up a key that is taken, and it is applied there exactly when there is room
and a next version. An accepted plan has the encoding of what planning its request again gives. An
applied plan leaves a well formed registry in the next version, and keeps the other fields. In
every run, positions count up from zero and no identity or key is both active and removed. A field
that is removed and restored at its position, or moved there and back, leaves the fields as they
were, up to the version of the restored field. -/
theorem field_registry_agreement (host : FieldRegistryHost D) (hcf : host.CollisionFree) :
    (∀ state references author plan, DerivedKeyFree host state author.change →
      planFieldRegistryMutation host state references author = .ok plan →
        validateFieldRegistryMutationPlan host state references plan = .ok () ∧
        ((∃ next result, applyFieldRegistryMutationPlan host state references plan =
            .ok (next, result)) ↔
          plan.body.HasRoom host state ∧ state.version.val < maxSafeInteger)) ∧
    (∀ state references plan,
      validateFieldRegistryMutationPlan host state references plan = .ok () →
        ∃ author replanned, plan.author = some author ∧
          planFieldRegistryMutation host state references author = .ok replanned ∧
          host.toHost.Same replanned plan) ∧
    (∀ state references plan next result,
      applyFieldRegistryMutationPlan host state references plan = .ok (next, result) →
        registrySchema host next = true ∧ next.version.val = state.version.val + 1 ∧
        OthersKept state next plan.body.identity) ∧
    (∀ start final, registrySchema host start = true → FieldRegistryRun host start final →
      registrySchema host final = true ∧
      final.fields.map (·.position) = List.range final.fields.length ∧
      ∀ field ∈ final.fields, ∀ removed ∈ final.removed,
        field.id ≠ removed.field.id ∧ field.key ≠ removed.field.key) ∧
    (∀ state references plan middle result references' plan' next result' before removedAt
        removedByUserId after placement,
      applyFieldRegistryMutationPlan host state references plan = .ok (middle, result) →
      applyFieldRegistryMutationPlan host middle references' plan' = .ok (next, result') →
      plan.body = .remove before removedAt removedByUserId → plan'.body = .restore after placement →
      after.id = before.id → after.position = before.position →
        next.fields = (state.fields.map fun field =>
          if field.id = before.id then { field with version := after.version } else field) ∧
        after.version.val = before.version.val + 1 ∧ next.removed = state.removed) ∧
    (∀ state references plan middle result references' plan' next result' version version'
        beforeIndex beforeIndex' toIndex, ∀ field ∈ state.fields,
      applyFieldRegistryMutationPlan host state references plan = .ok (middle, result) →
      applyFieldRegistryMutationPlan host middle references' plan' = .ok (next, result') →
      plan.body = .move field.id version beforeIndex toIndex →
      plan'.body = .move field.id version' beforeIndex' field.position →
        next.fields = state.fields ∧ next.removed = state.removed) := by
  refine ⟨?_, ?_, ?_, ?_, ?_, ?_⟩
  · intro state references author plan hfree h
    exact ⟨validate_of_planned hfree h, apply_iff_of_planned hfree h⟩
  · intro state references plan h
    exact replanned_of_valid hcf h
  · intro state references plan next result h
    obtain ⟨outcome, happlied⟩ := applied_of_apply hcf h
    exact ⟨registrySchema_iff.mpr happlied.after, happlied.version, happlied.othersKept⟩
  · intro start final hstart hrun
    have hfinal := hrun.wellFormed (registrySchema_iff.mp hstart)
    exact ⟨registrySchema_iff.mpr hfinal, hfinal.positions,
      fun field hfield removed hremoved => hfinal.apart hfield hremoved⟩
  · intro state references plan middle result references' plan' next result' before removedAt
      removedByUserId after placement h h' hbody hbody' hid hposition
    obtain ⟨outcome, happlied⟩ := applied_of_apply hcf h
    obtain ⟨outcome', happlied'⟩ := applied_of_apply hcf h'
    rw [hbody] at happlied
    rw [hbody'] at happlied'
    exact restored_of_removed happlied happlied' hid hposition
  · intro state references plan middle result references' plan' next result' version version'
      beforeIndex beforeIndex' toIndex field hfield h h' hbody hbody'
    obtain ⟨outcome, happlied⟩ := applied_of_apply hcf h
    obtain ⟨outcome', happlied'⟩ := applied_of_apply hcf h'
    rw [hbody] at happlied
    rw [hbody'] at happlied'
    exact moved_back hfield happlied happlied'

/-! ## An example -/

namespace FieldRegistryExample

def field (position : ℕ) (key : FieldRegistryStableKey) : FieldRegistryFieldDefinition :=
  { id := .ofNat (10 + position)
    key
    version := .one
    kind := .text
    label := key.val
    help := none
    answerOwner := .talk
    mapsTo := none
    purpose := .ordinary
    scope := .shared
    group := .talk
    position
    contexts := ⟨⟨true, false⟩, ⟨false, false⟩, ⟨false, false⟩⟩
    options := .none
    constraints := { removal := .allowed, applyVisibility := .editable }
    fileUpload := .not_applicable }

theorem isFieldKey_link : isDottedIdentifier "link" = true ∧ textLength "link" ≤ 160 := by decide

def registry (version : Version) : FieldRegistryState :=
  { scope := { workspaceId := .ofNat 1, eventId := .ofNat 2 }
    version
    fields := [field 0 ⟨"title", by decide⟩, field 1 ⟨"link", isFieldKey_link⟩]
    removed := [] }

def request (version : Version) (change : FieldRegistryChange) : FieldRegistryAuthorInput :=
  { scope := { workspaceId := .ofNat 1, eventId := .ofNat 2 }
    expectedRegistryVersion := version
    change }

def lastVersion : Version := ⟨maxSafeInteger, isPositiveSafe_maxSafeInteger⟩

def unapplied (version : Version) (change : FieldRegistryChange) : Bool :=
  match planFieldRegistryMutation plainHost (registry version) (fun _ _ => none)
    (request version change) with
  | .ok plan =>
    !(applyFieldRegistryMutationPlan plainHost (registry version) (fun _ _ => none) plan).toBool
  | .error _ => false

theorem exists_of_unapplied {version : Version} {change : FieldRegistryChange}
    (h : unapplied version change = true) :
    ∃ plan, planFieldRegistryMutation plainHost (registry version) (fun _ _ => none)
        (request version change) = .ok plan ∧
      ∀ next result, applyFieldRegistryMutationPlan plainHost (registry version)
        (fun _ _ => none) plan ≠ .ok (next, result) := by
  unfold unapplied at h
  split at h
  · rename_i plan hplan
    refine ⟨plan, hplan, fun next result happly => ?_⟩
    rw [happly] at h
    cases h
  · cases h

def title : FieldRegistryFieldDefinition := field 0 ⟨"title", by decide⟩

def restoredTitle : FieldRegistryFieldDefinition := { title with version := ⟨2, isPositiveSafe_two⟩ }

def removedAndRestored : Except FieldRegistryPlanningError
    (FieldRegistryMutationPlan SymbolicDigest × FieldRegistryState ×
      FieldRegistryMutationPlan SymbolicDigest × FieldRegistryState) := do
  let removal ← planFieldRegistryMutation plainHost (registry .one) (fun _ _ => none)
    (request .one (.remove title.id .one (Instant.yearStart 2026).val (.ofNat 5)))
  require (removal.body = .remove title (Instant.yearStart 2026).val (.ofNat 5)) .thrown
  let (middle, _) ← applyFieldRegistryMutationPlan plainHost (registry .one) (fun _ _ => none) removal
  let restoration ← planFieldRegistryMutation plainHost middle (fun _ _ => none)
    (request middle.version (.restore title.id .one 0))
  require (restoration.body = .restore restoredTitle
    { index := 0, group := .talk, reasonKey := "field_registry.placement.restore" }) .thrown
  let (next, _) ← applyFieldRegistryMutationPlan plainHost middle (fun _ _ => none) restoration
  return (removal, middle, restoration, next)

theorem removedAndRestored_succeeds : removedAndRestored.toBool = true := by decide +kernel

example : (planFieldRegistryMutation plainHost (registry lastVersion) (fun _ _ => none)
    (request .one (.move (.ofNat 10) .one 1))).toBool = false := by decide +kernel

end FieldRegistryExample

/-- A plan is made and not applied where no version is left, and where the time of a removal is not
a date. -/
theorem planned_not_applied :
    ∃ change change' plan plan',
      planFieldRegistryMutation FieldRegistryExample.plainHost
          (FieldRegistryExample.registry FieldRegistryExample.lastVersion) (fun _ _ => none)
          (FieldRegistryExample.request FieldRegistryExample.lastVersion change) = .ok plan ∧
        (∀ next result, applyFieldRegistryMutationPlan FieldRegistryExample.plainHost
          (FieldRegistryExample.registry FieldRegistryExample.lastVersion) (fun _ _ => none) plan ≠
            .ok (next, result)) ∧
      planFieldRegistryMutation FieldRegistryExample.plainHost (FieldRegistryExample.registry .one)
          (fun _ _ => none) (FieldRegistryExample.request .one change') = .ok plan' ∧
        ∀ next result, applyFieldRegistryMutationPlan FieldRegistryExample.plainHost
          (FieldRegistryExample.registry .one) (fun _ _ => none) plan' ≠ .ok (next, result) := by
  obtain ⟨plan, hplan, happly⟩ := FieldRegistryExample.exists_of_unapplied (by decide +kernel :
    FieldRegistryExample.unapplied FieldRegistryExample.lastVersion
      (.move (.ofNat 10) .one 1) = true)
  obtain ⟨plan', hplan', happly'⟩ := FieldRegistryExample.exists_of_unapplied (by decide +kernel :
    FieldRegistryExample.unapplied .one (.remove (.ofNat 10) .one "yesterday" (.ofNat 5)) = true)
  exact ⟨_, _, plan, plan', hplan, happly, hplan', happly'⟩

/-- The first field of a registry is removed and restored, and the registry is as it was but for
the version of the field. -/
theorem field_registry_agreement_removed_restored :
    ∃ removal middle restoration next,
      FieldRegistryExample.removedAndRestored = .ok (removal, middle, restoration, next) ∧
      (next.fields = (FieldRegistryExample.registry .one).fields.map fun field =>
        if field.id = FieldRegistryExample.title.id then { field with version := ⟨2, by decide⟩ }
        else field) ∧
      next.removed = [] := by
  obtain ⟨⟨removal, middle, restoration, next⟩, h⟩ :=
    exists_of_toBool FieldRegistryExample.removedAndRestored_succeeds
  refine ⟨removal, middle, restoration, next, h, ?_⟩
  simp only [FieldRegistryExample.removedAndRestored, bind_eq_ok, require_eq_ok, pure_eq_ok,
    Prod.exists, Prod.mk.injEq, exists_const] at h
  obtain ⟨_, -, hremoval, _, _, hmiddle, _, -, hrestoration, _, _, hnext, rfl, rfl, rfl, rfl⟩ := h
  obtain ⟨-, -, -, -, hback, -⟩ := field_registry_agreement FieldRegistryExample.plainHost
    SymbolicDigest.host_collisionFree
  obtain ⟨hfields, -, hremoved⟩ :=
    hback _ _ _ _ _ _ _ _ _ _ _ _ _ _ hmiddle hnext hremoval hrestoration rfl rfl
  exact ⟨hfields, hremoved⟩

end JooEvents
