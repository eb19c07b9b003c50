import JooEvents.FieldRegistry.Changes

/-!
# What the actions put

The plans of all actions put what becomes of their field (`puts_of_planned`). It fits in the
registry, apart from the other fields, where there is room for it.
-/

namespace JooEvents

open Fallible

variable {D : Type} {host : FieldRegistryHost D} {state : FieldRegistryState}
  {references : FieldRegistryFormReferenceResolver}

/-! ## What a planned change puts -/

theorem suggestFieldRegistryPlacement_index_le (kind : FieldRegistryKind) (label : String)
    (current : List FieldRegistryFieldDefinition) :
    (suggestFieldRegistryPlacement kind label current).index ≤ current.length := by
  unfold suggestFieldRegistryPlacement
  dsimp only
  split
  · exact Nat.zero_le _
  · split
    · exact Nat.sub_le _ _
    · split
      · rename_i following hfound
        have hsome : (firstOfGroup current following).isSome = true := by
          simpa using List.find?_some hfound
        obtain ⟨i, hi⟩ := Option.isSome_iff_exists.mp hsome
        obtain ⟨hlt, -⟩ := List.findIdx?_eq_some_iff_getElem.mp hi
        simp only [hi, Option.getD_some]
        exact hlt.le
      · exact le_rfl

namespace FieldRegistryState

theorem WellFormed.apart_of_mem (h : state.WellFormed host)
    {field next : FieldRegistryFieldDefinition} (hfield : field ∈ state.allFields)
    (hid : next.id = field.id) (hids : next.applicationIds.Nodup)
    (hown : ∀ id ∈ next.applicationIds, id ∈ registryApplicationIds state →
      id ∈ field.applicationIds) (hkey : next.key = field.key) (hmapsTo : next.mapsTo = field.mapsTo) :
    state.Apart next := by
  have hne : ∀ {other : FieldRegistryFieldDefinition}, other.id ≠ next.id → field ≠ other :=
    fun hother heq => hother (heq ▸ hid.symm)
  refine ⟨hids, fun other hother hdistinct id hmem hmem' => ?_, fun other hother hdistinct heq => ?_,
    fun other hother hdistinct mapsTo hmem hmem' => ?_⟩
  · have hfieldId := hown id hmem (List.mem_flatMap.mpr ⟨other, hother, hmem'⟩)
    have hsymm : Std.Symm (Function.onFun List.Disjoint
        FieldRegistryFieldDefinition.applicationIds) := ⟨fun _ _ hd => List.Disjoint.symm hd⟩
    exact (List.nodup_flatMap.mp h.ids).2.forall hfield hother (hne hdistinct) hfieldId hmem'
  · rw [hkey] at heq
    exact hne hdistinct (List.inj_on_of_nodup_map h.keys hfield hother heq)
  · rw [hmapsTo] at hmem
    have hsymm : Std.Symm fun a b : FieldRegistryFieldDefinition =>
        ∀ m, a.mapsTo = some m → ∀ m', b.mapsTo = some m' → m ≠ m' :=
      ⟨fun _ _ hd m hm m' hm' heq => hd m' hm' m hm heq.symm⟩
    exact (List.pairwise_filterMap.mp h.mapsTo).forall hfield hother (hne hdistinct) mapsTo hmem
      mapsTo hmem' rfl

theorem WellFormed.apart_self (h : state.WellFormed host) {field : FieldRegistryFieldDefinition}
    (hfield : field ∈ state.allFields) (version : Version) (position : ℕ) :
    state.Apart { field with version, position } :=
  h.apart_of_mem hfield rfl ((List.nodup_flatMap.mp h.ids).1 field hfield) (fun _ hid _ => hid) rfl
    rfl

theorem others_of_not_mem {fieldId : ApplicationId} (h : fieldId ∉ state.fields.map (·.id)) :
    state.others fieldId = state.fields :=
  List.filter_eq_self.mpr fun _ hmem => decide_eq_true fun heq =>
    h (heq ▸ List.mem_map_of_mem hmem)

theorem otherRemoved_of_not_mem {fieldId : ApplicationId}
    (h : fieldId ∉ state.removed.map (·.field.id)) : state.otherRemoved fieldId = state.removed :=
  List.filter_eq_self.mpr fun _ hmem => decide_eq_true fun heq =>
    h (heq ▸ List.mem_map_of_mem hmem)

end FieldRegistryState

def FieldRegistryPlanBody.outcome (state : FieldRegistryState) :
    FieldRegistryPlanBody → Option FieldRegistryOutcome
  | .add after _ | .edit _ after | .restore after _ => some (.active after)
  | .move fieldId _ _ afterIndex =>
    (state.fields.find? fun field => field.id = fieldId).map fun field =>
      .active { field with position := afterIndex }
  | .remove before removedAt removedByUserId =>
    some (.removed { field := before, removedAt, removedByUserId, lastPosition := before.position })

/-- A registry has room for one more field when the plan adds or restores one, and for one more
removed field when it removes one, at a time that is a date. -/
def FieldRegistryPlanBody.HasRoom (host : FieldRegistryHost D) (state : FieldRegistryState) :
    FieldRegistryPlanBody → Prop
  | .add _ _ | .restore _ _ => state.fields.length < fieldRegistryMaxFields
  | .edit _ _ | .move _ _ _ _ => True
  | .remove _ removedAt _ =>
    state.removed.length < fieldRegistryMaxFields ∧ host.isDateTime removedAt = true

/-- A plan puts what becomes of its field, which fits where there is room. -/
structure FieldRegistryPlanBody.Puts (host : FieldRegistryHost D) (state : FieldRegistryState)
    (body : FieldRegistryPlanBody) (outcome : FieldRegistryOutcome) : Prop where
  becomes : body.outcome state = some outcome
  identity : outcome.field.id = body.identity
  fields : body.fields state = .ok ((state.put outcome).fields, (state.put outcome).removed)
  fits : FieldRegistryState.Fits host state outcome
  apart : state.Apart outcome.field
  room : FieldRegistryState.Room host state outcome ↔ body.HasRoom host state

namespace FieldRegistryState

theorem WellFormed.length_others (h : state.WellFormed host) {field : FieldRegistryFieldDefinition}
    (hfield : field ∈ state.fields) : (state.others field.id).length + 1 = state.fields.length := by
  obtain ⟨before, after, hsplit, -, hothers⟩ := h.split hfield
  rw [hothers, hsplit, List.length_append, List.length_append, List.length_cons]
  omega

theorem WellFormed.reorder_eq (h : state.WellFormed host) {field : FieldRegistryFieldDefinition}
    (hfield : field ∈ state.fields) {toIndex : ℕ} (hlt : toIndex < state.fields.length) :
    reorder state.fields field.id toIndex =
      .ok (state.put (.active { field with position := toIndex })).fields := by
  obtain ⟨before, after, hsplit, hlength, hothers⟩ := h.split hfield
  have hget := h.getElem?_position hfield
  have hfind : (state.fields.findIdx? fun f => f.id = field.id) = some field.position := by
    obtain ⟨hposition, heq⟩ := List.getElem?_eq_some_iff.mp hget
    refine List.findIdx?_eq_some_iff_getElem.mpr ⟨hposition, by simp [heq], fun j hj => ?_⟩
    have hids := h.active_ids
    rw [List.nodup_iff_injective_get] at hids
    rw [decide_eq_true_eq]
    intro hid
    have := @hids ⟨j, by simpa using hj.trans hposition⟩ ⟨field.position, by simpa using hposition⟩
      (by simpa [heq] using hid)
    simp at this
    omega
  have herase : state.fields.eraseIdx field.position = state.others field.id := by
    rw [hothers, hsplit, ← hlength, List.eraseIdx_append_of_length_le le_rfl, Nat.sub_self,
      List.eraseIdx_cons_zero]
  simp only [reorder, bind_eq_ok, orRefuse_eq_ok, require_eq_ok, pure_eq_ok, exists_const]
  refine ⟨field.position, hfind, hlt, field, hget, ?_⟩
  rw [herase, put, renumber_eq_iff, map_spliceIn, map_spliceIn]
  rfl

end FieldRegistryState

theorem puts_of_planFieldAdd {request : FieldRegistryFieldAuthor}
    {identities : FieldRegistryIdentityAssignment} {planned : FieldRegistryPlanned}
    (hfree : DerivedKeyFree host state (.add request identities))
    (hplanned : planFieldAdd host state references request identities = .ok planned) :
    ∃ outcome, planned.2.Puts host state outcome := by
  obtain ⟨field, hfield, ⟨hid, hkey⟩, ⟨hchoices, -⟩, pin, hpin, fieldKey, hfieldKey, after, hafter,
    rfl⟩ := planFieldAdd_eq_ok.mp hplanned
  have hfresh := derivedKey_not_mem hfree hfield hkey hfieldKey
  obtain ⟨hschema, options, hoptions, rfl⟩ := fieldFromAuthor_eq_ok.mp hafter
  have hgiven := (optionsFromAuthor_again hoptions).2
  have hnew : ∀ other ∈ state.allFields, ∀ id ∈ other.applicationIds, id ≠ identities.fieldId ∧
      ∀ choice ∈ identities.choices, choice.id ≠ id := by
    intro other hother id hmem
    have hreserved : id ∈ registryApplicationIds state := List.mem_flatMap.mpr ⟨other, hother, hmem⟩
    exact ⟨fun heq => hid (heq ▸ hreserved),
      fun choice hchoice heq => (hchoices choice hchoice).1 (heq ▸ hreserved)⟩
  have hfields : identities.fieldId ∉ state.fields.map (·.id) := by
    intro hmem
    obtain ⟨other, hother, heq⟩ := List.mem_map.mp hmem
    exact (hnew other (List.mem_append_left _ hother) other.id (List.mem_cons_self ..)).1 heq
  have hremoved : identities.fieldId ∉ state.removed.map (·.field.id) := by
    intro hmem
    obtain ⟨other, hother, heq⟩ := List.mem_map.mp hmem
    exact (hnew other.field (List.mem_append_right _ (List.mem_map_of_mem hother)) other.field.id
      (List.mem_cons_self ..)).1 heq
  have hothers := FieldRegistryState.others_of_not_mem hfields
  have hotherRemoved := FieldRegistryState.otherRemoved_of_not_mem hremoved
  refine ⟨_, rfl, rfl, ?_, .active hschema ?_, ⟨?_, ?_, ?_, ?_⟩, ?_⟩
  · simp only [FieldRegistryPlanBody.fields, FieldRegistryState.put, hothers, hotherRemoved]
    rfl
  · rw [hothers]
    exact suggestFieldRegistryPlacement_index_le _ _ _
  · refine List.nodup_cons.mpr ⟨fun hmem => ?_, hschema.distinct.ids⟩
    obtain ⟨choice, hchoice, heq⟩ := List.mem_map.mp hmem
    exact (hchoices _ (hgiven _ (List.mem_map_of_mem hchoice))).2 heq
  · intro other hother _ id hmem hmem'
    rcases List.mem_cons.mp hmem with rfl | hmem
    · exact (hnew other hother _ hmem').1 rfl
    · obtain ⟨choice, hchoice, heq⟩ := List.mem_map.mp hmem
      exact (hnew other hother id hmem').2 _ (hgiven _ (List.mem_map_of_mem hchoice)) heq
  · intro other hother _ heq
    exact hfresh (List.mem_map.mpr ⟨other, hother, heq.symm⟩)
  · intro _ _ _ mapsTo hmem
    cases hmem
  · simp only [FieldRegistryState.Room, FieldRegistryPlanBody.HasRoom, hothers]

section Actions

variable (h : state.WellFormed host)

include h

theorem ids_of_editedOptions {before : FieldRegistryFieldDefinition} {labels : Option (List String)}
    {identities : List FieldRegistryChoiceIdentity} {options : FieldRegistryOptionConfiguration}
    (hbefore : before ∈ state.fields)
    (hoptions : editedOptions host state before labels identities = .ok options) :
    ∀ choice ∈ options.choices, choice.id ≠ before.id ∧
      (choice.id ∈ registryApplicationIds state → choice.id ∈ before.applicationIds) := by
  cases labels with
  | none =>
    obtain rfl : before.options = options := by simpa [editedOptions] using hoptions
    have hids : before.applicationIds.Nodup :=
      (List.nodup_flatMap.mp h.ids).1 before (List.mem_append_left _ hbefore)
    have hnot := (List.nodup_cons.mp hids).1
    exact fun choice hchoice => ⟨fun heq => hnot (heq ▸ List.mem_map_of_mem hchoice),
      fun _ => List.mem_cons_of_mem _ (List.mem_map_of_mem hchoice)⟩
  | some labels =>
    obtain ⟨previous, choices, hprevious, -, hfree, rfl⟩ := editedOptions_some_eq_ok.mp hoptions
    refine fun choice hchoice => ⟨(hfree choice hchoice).2, fun hreserved => ?_⟩
    obtain ⟨prior, hprior, heq, -⟩ := (hfree choice hchoice).1 hreserved
    rw [FieldRegistryFieldDefinition.applicationIds, hprevious, ← heq]
    exact List.mem_cons_of_mem _ (List.mem_map_of_mem hprior)

theorem fields_edit {before after : FieldRegistryFieldDefinition} (hmem : before ∈ state.fields)
    (hid : after.id = before.id) (hposition : after.position = before.position) :
    (FieldRegistryPlanBody.edit before after).fields state =
      .ok ((state.put (.active after)).fields, (state.put (.active after)).removed) := by
  rw [h.put_active hmem hid hposition]
  rfl

theorem puts_of_planFieldEdit {fieldId : ApplicationId} {expectedFieldVersion : Version}
    {changes : FieldRegistryFieldChanges} {identities : List FieldRegistryChoiceIdentity}
    {planned : FieldRegistryPlanned}
    (hplanned : planFieldEdit host state references fieldId expectedFieldVersion changes identities =
      .ok planned) : ∃ outcome, planned.2.Puts host state outcome := by
  obtain ⟨parsed, -, before, hbefore, -, options, hoptions, version, -, hschema, pin, -, rfl⟩ :=
    planFieldEdit_eq_ok.mp hplanned
  obtain ⟨rfl, -, hmem⟩ := activeField_again hbefore
  have hchoices := ids_of_editedOptions h hmem hoptions
  have hlength := h.length_others hmem
  have hmax := h.fieldsMax
  have hplace : before.position < state.fields.length :=
    (List.getElem?_eq_some_iff.mp (h.getElem?_position hmem)).1
  refine ⟨_, rfl, rfl, ?_, .active hschema ?_, h.apart_of_mem (List.mem_append_left _ hmem) rfl
    ?_ ?_ rfl rfl, ?_⟩
  · exact fields_edit h hmem rfl rfl
  · change before.position ≤ (state.others before.id).length
    omega
  · refine List.nodup_cons.mpr ⟨fun hid => ?_, hschema.distinct.ids⟩
    obtain ⟨choice, hchoice, heq⟩ := List.mem_map.mp hid
    exact (hchoices choice hchoice).1 heq
  · intro id hid hreserved
    rcases List.mem_cons.mp hid with rfl | hid
    · exact List.mem_cons_self ..
    · obtain ⟨choice, hchoice, rfl⟩ := List.mem_map.mp hid
      exact (hchoices choice hchoice).2 hreserved
  · simp only [FieldRegistryState.Room, FieldRegistryPlanBody.HasRoom, iff_true]
    omega

theorem puts_of_planFieldMove {fieldId : ApplicationId} {expectedFieldVersion : Version}
    {toIndex : ℕ} {planned : FieldRegistryPlanned}
    (hplanned : planFieldMove state references fieldId expectedFieldVersion toIndex = .ok planned) :
    ∃ outcome, planned.2.Puts host state outcome := by
  obtain ⟨hsafe, field, hfield, hlt, pin, -, rfl⟩ := planFieldMove_eq_ok.mp hplanned
  have hfound := (activeField_eq_ok.mp hfield).1
  obtain ⟨rfl, -, hmem⟩ := activeField_again hfield
  have hlength := h.length_others hmem
  have hmax := h.fieldsMax
  refine ⟨.active { field with position := toIndex }, ?_, rfl, ?_,
    .active ((h.fields field hmem).placed hsafe) ?_,
    h.apart_self (List.mem_append_left _ hmem) field.version toIndex, ?_⟩
  · rw [FieldRegistryPlanBody.outcome, hfound, Option.map_some]
  · rw [FieldRegistryPlanBody.fields, h.reorder_eq hmem hlt, FieldRegistryState.put,
      h.otherRemoved_active hmem]
    rfl
  · change toIndex ≤ (state.others field.id).length
    omega
  · simp only [FieldRegistryState.Room, FieldRegistryPlanBody.HasRoom, iff_true]
    omega

theorem puts_of_planFieldRemove {fieldId : ApplicationId} {expectedFieldVersion : Version}
    {removedAt : String} {removedByUserId : ApplicationId} {planned : FieldRegistryPlanned}
    (hplanned : planFieldRemove state references fieldId expectedFieldVersion removedAt
      removedByUserId = .ok planned) : ∃ outcome, planned.2.Puts host state outcome := by
  obtain ⟨before, hbefore, -, pin, -, rfl⟩ := planFieldRemove_eq_ok.mp hplanned
  obtain ⟨rfl, -, hmem⟩ := activeField_again hbefore
  have hremoved := h.otherRemoved_active hmem
  refine ⟨_, rfl, rfl, ?_, .removed (h.fields before hmem) (h.fields before hmem).position,
    h.apart_self (List.mem_append_left _ hmem) before.version before.position, ?_⟩
  · rw [FieldRegistryPlanBody.fields, FieldRegistryState.put, hremoved]
    rfl
  · simp only [FieldRegistryState.Room, FieldRegistryPlanBody.HasRoom, hremoved]

theorem puts_of_planFieldRestore {fieldId : ApplicationId} {expectedFieldVersion : Version}
    {toIndex : ℕ} {planned : FieldRegistryPlanned}
    (hplanned : planFieldRestore host state references fieldId expectedFieldVersion toIndex =
      .ok planned) : ∃ outcome, planned.2.Puts host state outcome := by
  obtain ⟨-, hactive, removed, hfound, -, hle, version, -, hschema, pin, -, rfl⟩ :=
    planFieldRestore_eq_ok.mp hplanned
  obtain rfl : removed.field.id = fieldId := by simpa using List.find?_some hfound
  have hmem : removed.field ∈ state.allFields :=
    List.mem_append_right _ (List.mem_map_of_mem (List.mem_of_find?_eq_some hfound))
  have hothers := FieldRegistryState.others_of_not_mem hactive
  refine ⟨_, rfl, rfl, ?_, .active hschema ?_, h.apart_self hmem version toIndex, ?_⟩
  · simp only [FieldRegistryPlanBody.fields, FieldRegistryState.put, hothers]
    rfl
  · change toIndex ≤ (state.others removed.field.id).length
    rw [hothers]
    exact hle
  · simp only [FieldRegistryState.Room, FieldRegistryPlanBody.HasRoom, hothers]

theorem puts_of_planned {change : FieldRegistryChange} {planned : FieldRegistryPlanned}
    (hfree : DerivedKeyFree host state change)
    (hplanned : planFieldRegistryChange host state references change = .ok planned) :
    ∃ outcome, planned.2.Puts host state outcome := by
  cases change with
  | add field identities => exact puts_of_planFieldAdd hfree hplanned
  | edit fieldId version changes identities => exact puts_of_planFieldEdit h hplanned
  | move fieldId version toIndex => exact puts_of_planFieldMove h hplanned
  | remove fieldId version removedAt removedByUserId => exact puts_of_planFieldRemove h hplanned
  | restore fieldId version toIndex => exact puts_of_planFieldRestore h hplanned

end Actions

end JooEvents
