import JooEvents.FieldRegistry.Runs
import JooEvents.Lib.Lasting

/-!
# Choices across edits

An answer to a field with custom options names a choice by its identity. When the labels of such a
field are edited, a choice whose label is still there up to case keeps its identity and its key,
and no choice takes an identity that stands for something else in the registry
(`FieldRegistryChoicesKept`). What an applied plan brings is either taken over from the registry
or has an identity that was assigned and is new to it (`named_of_planned`), so when no identity is
assigned again that has left the registry, an identity stands for one label in every state of a run
(`FieldRegistryHistory.lasting`).
-/

namespace JooEvents

open Fallible

variable {D : Type} {host : FieldRegistryHost D} {state next : FieldRegistryState}
  {references : FieldRegistryFormReferenceResolver}

/-- The choices of all the fields of a registry, active and removed. -/
def FieldRegistryState.choices (state : FieldRegistryState) : List FieldRegistryChoice :=
  state.allFields.flatMap (·.options.choices)

theorem FieldRegistryState.mem_choices {choice : FieldRegistryChoice} :
    choice ∈ state.choices ↔ ∃ field ∈ state.allFields, choice ∈ field.options.choices :=
  List.mem_flatMap

theorem FieldRegistryState.id_mem_of_mem_choices {choice : FieldRegistryChoice}
    (h : choice ∈ state.choices) : choice.id ∈ registryApplicationIds state := by
  obtain ⟨field, hfield, hchoice⟩ := mem_choices.mp h
  exact List.mem_flatMap.mpr ⟨field, hfield, List.mem_cons_of_mem _ (List.mem_map_of_mem hchoice)⟩

theorem FieldRegistryState.WellFormed.choice_eq (h : state.WellFormed host)
    {a b : FieldRegistryChoice} (ha : a ∈ state.choices) (hb : b ∈ state.choices)
    (hid : a.id = b.id) : a = b := by
  have hsub : (state.choices.map (·.id)).Sublist
      (state.allFields.flatMap (·.applicationIds)) := by
    rw [FieldRegistryState.choices]
    induction state.allFields with
    | nil => exact .slnil
    | cons field fields ih =>
      rw [List.flatMap_cons, List.flatMap_cons, List.map_append]
      exact .append (List.sublist_cons_self ..) ih
  exact List.inj_on_of_nodup_map (hsub.nodup h.ids) ha hb hid

theorem FieldRegistryState.WellFormed.field_eq (h : state.WellFormed host)
    {a b : FieldRegistryFieldDefinition} {id : ApplicationId} (ha : a ∈ state.allFields)
    (hb : b ∈ state.allFields) (hida : id ∈ a.applicationIds) (hidb : id ∈ b.applicationIds) :
    a = b := by
  by_contra hne
  have hsymm : Std.Symm (Function.onFun List.Disjoint
      FieldRegistryFieldDefinition.applicationIds) := ⟨fun _ _ hd => List.Disjoint.symm hd⟩
  exact (List.nodup_flatMap.mp h.ids).2.forall ha hb hne hida hidb

/-! ## Edited options -/

theorem ChoicesDistinct.priorChoice_eq {previous : List FieldRegistryChoice}
    (h : ChoicesDistinct host previous) {prior : FieldRegistryChoice} (hprior : prior ∈ previous)
    {label : String} (hlabel : host.lower prior.label = host.lower label) :
    priorChoice host previous label = some prior := by
  have hfound : (priorChoice host previous label).isSome := by
    rw [priorChoice, List.find?_isSome]
    exact ⟨prior, List.mem_reverse.mpr hprior, decide_eq_true hlabel⟩
  obtain ⟨found, hfound⟩ := Option.isSome_iff_exists.mp hfound
  have hmem := List.mem_reverse.mp (List.mem_of_find?_eq_some hfound)
  have hsame : host.lower found.label = host.lower label := by simpa using List.find?_some hfound
  rw [hfound, List.inj_on_of_nodup_map h.labels hmem hprior (hsame.trans hlabel.symm)]

theorem labels_of_customChoices {labels : List String}
    {identities : List FieldRegistryChoiceIdentity} {choices previous : List FieldRegistryChoice}
    (h : customChoices host labels identities previous = .ok choices) :
    choices.map (·.label) = labels := by
  simp only [customChoices, bind_eq_ok, require_eq_ok, pure_eq_ok, exists_const] at h
  obtain ⟨hlength, -, rfl⟩ := h
  refine List.ext_getElem ?_ fun i _ _ => ?_
  · simp [hlength]
  · simp [choiceOf]

theorem prior_of_editedOptions {before : FieldRegistryFieldDefinition}
    {labels : Option (List String)} {identities : List FieldRegistryChoiceIdentity}
    {options : FieldRegistryOptionConfiguration} (hstate : state.WellFormed host)
    (hbefore : before ∈ state.fields)
    (h : editedOptions host state before labels identities = .ok options) :
    ∀ choice ∈ options.choices, choice.id ≠ before.id ∧
      (choice.id ∈ registryApplicationIds state → ∃ prior ∈ before.options.choices,
        prior.id = choice.id ∧ host.lower prior.label = host.lower choice.label) := by
  have hids := ids_of_editedOptions hstate hbefore h
  cases labels with
  | none =>
    obtain rfl : before.options = options := by simpa [editedOptions] using h
    exact fun choice hchoice => ⟨(hids choice hchoice).1, fun _ => ⟨choice, hchoice, rfl, rfl⟩⟩
  | some labels =>
    obtain ⟨previous, choices, hprevious, -, hfree, rfl⟩ := editedOptions_some_eq_ok.mp h
    rw [hprevious]
    exact fun choice hchoice => ⟨(hids choice hchoice).1, (hfree choice hchoice).1⟩

theorem surviving_of_editedOptions {before : FieldRegistryFieldDefinition}
    {labels : Option (List String)} {identities : List FieldRegistryChoiceIdentity}
    {options : FieldRegistryOptionConfiguration}
    (hdistinct : ChoicesDistinct host before.options.choices)
    (h : editedOptions host state before labels identities = .ok options) :
    ∀ prior ∈ before.options.choices, ∀ choice ∈ options.choices,
      host.lower prior.label = host.lower choice.label →
        choice.id = prior.id ∧ choice.key = prior.key := by
  intro prior hprior choice hchoice hlabel
  cases labels with
  | none =>
    obtain rfl : before.options = options := by simpa [editedOptions] using h
    rw [List.inj_on_of_nodup_map hdistinct.labels hchoice hprior hlabel.symm]
    exact ⟨rfl, rfl⟩
  | some labels =>
    obtain ⟨previous, choices, hprevious, hchoices, -, rfl⟩ := editedOptions_some_eq_ok.mp h
    rw [hprevious] at hprior hdistinct
    obtain ⟨i, hi⟩ := List.getElem?_of_mem hchoice
    obtain ⟨label, identity, -, rfl⟩ := (customChoices_made hchoices).2 i choice hi
    have hfound : priorChoice host previous label = some prior :=
      ChoicesDistinct.priorChoice_eq hdistinct hprior hlabel
    simp only [choiceOf, hfound, Option.map_some, Option.getD_some]
    exact ⟨trivial, trivial⟩

/-- What an edit keeps of the choices of a field. -/
structure FieldRegistryChoicesKept (host : FieldRegistryHost D) (state : FieldRegistryState)
    (before after : FieldRegistryFieldDefinition) : Prop where
  /-- Choices are in order of position, and differ in identity, key and label. -/
  distinct : ChoicesDistinct host after.options.choices
  /-- A choice whose label is there before keeps its identity and its key. -/
  surviving : ∀ prior ∈ before.options.choices, ∀ choice ∈ after.options.choices,
    host.lower prior.label = host.lower choice.label →
      choice.id = prior.id ∧ choice.key = prior.key
  /-- No choice has the identity of a field. -/
  fieldsApart : ∀ choice ∈ after.options.choices, ∀ field ∈ state.allFields,
    field.id ≠ choice.id
  /-- A choice has the identity of no choice but the earlier one of its label. -/
  choicesApart : ∀ choice ∈ after.options.choices, ∀ field ∈ state.allFields,
    ∀ other ∈ field.options.choices, other.id = choice.id →
      field = before ∧ host.lower other.label = host.lower choice.label
  /-- An identity that is gone was of a label that is gone. -/
  dropped : ∀ prior ∈ before.options.choices,
    prior.id ∉ after.options.choices.map (·.id) →
      host.lower prior.label ∉ after.options.choices.map fun choice => host.lower choice.label

theorem choicesKept_of_editedOptions {before after : FieldRegistryFieldDefinition}
    {labels : Option (List String)} {identities : List FieldRegistryChoiceIdentity}
    (hstate : state.WellFormed host) (hbefore : before ∈ state.fields)
    (hafter : ChoicesDistinct host after.options.choices)
    (h : editedOptions host state before labels identities = .ok after.options) :
    FieldRegistryChoicesKept host state before after := by
  have hmem : before ∈ state.allFields := List.mem_append_left _ hbefore
  have hprior := prior_of_editedOptions hstate hbefore h
  have hsurviving := surviving_of_editedOptions (hstate.fields before hbefore).distinct h
  refine ⟨hafter, hsurviving, fun choice hchoice field hfield hid => ?_,
    fun choice hchoice field hfield other hother hid => ?_,
    fun prior hbeforePrior hgone hlabel => ?_⟩
  · have hreserved : choice.id ∈ registryApplicationIds state :=
      List.mem_flatMap.mpr ⟨field, hfield, hid ▸ List.mem_cons_self ..⟩
    obtain ⟨prior, hpriorMem, hpriorId, -⟩ := (hprior choice hchoice).2 hreserved
    obtain rfl := hstate.field_eq hmem hfield
      (List.mem_cons_of_mem _ (List.mem_map_of_mem hpriorMem))
      (hpriorId ▸ hid ▸ List.mem_cons_self ..)
    exact (hprior choice hchoice).1 hid.symm
  · have hchoices : other ∈ state.choices :=
      FieldRegistryState.mem_choices.mpr ⟨field, hfield, hother⟩
    obtain ⟨prior, hpriorMem, hpriorId, hlabel⟩ := (hprior choice hchoice).2
      (hid ▸ FieldRegistryState.id_mem_of_mem_choices hchoices)
    obtain rfl := hstate.choice_eq hchoices
      (FieldRegistryState.mem_choices.mpr ⟨before, hmem, hpriorMem⟩) (hid.trans hpriorId.symm)
    exact ⟨hstate.field_eq hfield hmem (List.mem_cons_of_mem _ (List.mem_map_of_mem hother))
      (List.mem_cons_of_mem _ (List.mem_map_of_mem hpriorMem)), hlabel⟩
  · obtain ⟨choice, hchoice, hsame⟩ := List.mem_map.mp hlabel
    exact hgone (List.mem_map.mpr
      ⟨choice, hchoice, (hsurviving prior hbeforePrior choice hchoice hsame.symm).1⟩)

/-! ## What a change brings -/

/-- The identities that a change is given to assign. -/
def FieldRegistryChange.assignedIds : FieldRegistryChange → List ApplicationId
  | .add _ identities => identities.fieldId :: identities.choices.map (·.id)
  | .edit _ _ _ choiceIdentities => choiceIdentities.map (·.id)
  | .move _ _ _ | .remove _ _ _ _ | .restore _ _ _ => []

def FieldRegistryPlanBody.choices : FieldRegistryPlanBody → List FieldRegistryChoice
  | .add after _ | .edit _ after | .restore after _ => after.options.choices
  | .move _ _ _ _ => []
  | .remove before _ _ => before.options.choices

/-- An identity stands for a label, without regard to case. -/
def FieldRegistryState.Names (host : FieldRegistryHost D) (state : FieldRegistryState)
    (id : ApplicationId) (label : String) : Prop :=
  ∃ choice ∈ state.choices, choice.id = id ∧ host.lower choice.label = label

theorem FieldRegistryState.names_of_mem {field : FieldRegistryFieldDefinition}
    {choice : FieldRegistryChoice} (hfield : field ∈ state.allFields)
    (hchoice : choice ∈ field.options.choices) :
    state.Names host choice.id (host.lower choice.label) :=
  ⟨choice, mem_choices.mpr ⟨field, hfield, hchoice⟩, rfl, rfl⟩

theorem id_of_customChoices_of_prior_none {labels : List String}
    {identities : List FieldRegistryChoiceIdentity} {choices previous : List FieldRegistryChoice}
    (h : customChoices host labels identities previous = .ok choices)
    {choice : FieldRegistryChoice} (hchoice : choice ∈ choices)
    (hnew : choice.id ∉ previous.map (·.id)) : choice.id ∈ identities.map (·.id) := by
  obtain ⟨i, hi⟩ := List.getElem?_of_mem hchoice
  obtain ⟨label, identity, hidentity, rfl⟩ := (customChoices_made h).2 i choice hi
  cases hprior : priorChoice host previous label with
  | none => simpa [choiceOf, hprior] using ⟨identity, hidentity, rfl⟩
  | some prior =>
    refine absurd (List.mem_map.mpr ⟨prior, ?_, ?_⟩) hnew
    · exact List.mem_reverse.mp (List.mem_of_find?_eq_some hprior)
    · simp [choiceOf, hprior]

theorem named_of_planned {change : FieldRegistryChange} {planned : FieldRegistryPlanned}
    (hstate : state.WellFormed host)
    (h : planFieldRegistryChange host state references change = .ok planned) :
    ∀ choice ∈ planned.2.choices, state.Names host choice.id (host.lower choice.label) ∨
      (choice.id ∉ registryApplicationIds state ∧ choice.id ∈ change.assignedIds) := by
  intro choice hchoice
  cases change with
  | add request identities =>
    obtain ⟨_, _, _, ⟨hfree, -⟩, _, _, _, _, after, hafter, rfl⟩ := planFieldAdd_eq_ok.mp h
    obtain ⟨-, options, hoptions, rfl⟩ := fieldFromAuthor_eq_ok.mp hafter
    have hidentity : choice.identity ∈ identities.choices :=
      (optionsFromAuthor_again hoptions).2 _ (List.mem_map_of_mem hchoice)
    exact .inr ⟨(hfree _ hidentity).1, List.mem_cons_of_mem _ (List.mem_map_of_mem hidentity)⟩
  | edit fieldId version changes identities =>
    obtain ⟨parsed, _, before, hbefore, _, options, hoptions, _, _, _, _, _, rfl⟩ :=
      planFieldEdit_eq_ok.mp h
    obtain ⟨-, -, hmem⟩ := activeField_again hbefore
    have hall : before ∈ state.allFields := List.mem_append_left _ hmem
    by_cases hid : choice.id ∈ registryApplicationIds state
    · obtain ⟨prior, hprior, hpriorId, hlabel⟩ :=
        (prior_of_editedOptions hstate hmem hoptions choice hchoice).2 hid
      exact .inl
        ⟨prior, FieldRegistryState.mem_choices.mpr ⟨before, hall, hprior⟩, hpriorId, hlabel⟩
    · refine .inr ⟨hid, ?_⟩
      have hnew : choice.id ∉ before.options.choices.map (·.id) := fun hprior =>
        hid (List.mem_flatMap.mpr ⟨before, hall, List.mem_cons_of_mem _ hprior⟩)
      cases hlabels : parsed.customOptionLabels with
      | none =>
        obtain rfl : before.options = options := by simpa [editedOptions, hlabels] using hoptions
        exact absurd (List.mem_map_of_mem hchoice) hnew
      | some labels =>
        rw [hlabels] at hoptions
        obtain ⟨previous, choices, hprevious, hchoices, -, rfl⟩ :=
          editedOptions_some_eq_ok.mp hoptions
        rw [hprevious] at hnew
        exact id_of_customChoices_of_prior_none hchoices hchoice hnew
  | move fieldId version toIndex =>
    obtain ⟨_, field, _, _, pin, _, rfl⟩ := planFieldMove_eq_ok.mp h
    cases hchoice
  | remove fieldId version removedAt removedByUserId =>
    obtain ⟨before, hbefore, _, pin, _, rfl⟩ := planFieldRemove_eq_ok.mp h
    obtain ⟨-, -, hmem⟩ := activeField_again hbefore
    exact .inl (FieldRegistryState.names_of_mem (List.mem_append_left _ hmem) hchoice)
  | restore fieldId version toIndex =>
    obtain ⟨-, -, removed, hfound, -, -, _, _, _, pin, _, rfl⟩ := planFieldRestore_eq_ok.mp h
    have hmem : removed.field ∈ state.allFields :=
      List.mem_append_right _ (List.mem_map_of_mem (List.mem_of_find?_eq_some hfound))
    exact .inl (FieldRegistryState.names_of_mem hmem hchoice)

theorem choices_of_mem_renumber {fields : List FieldRegistryFieldDefinition}
    {field : FieldRegistryFieldDefinition} (h : field ∈ renumber fields) :
    ∃ f ∈ fields, f.options = field.options := by
  obtain ⟨f, hf, position, -, rfl⟩ := mem_renumber h
  exact ⟨f, hf, rfl⟩

theorem mem_choices_of_fields {body : FieldRegistryPlanBody}
    {fields : List FieldRegistryFieldDefinition} {removed : List FieldRegistryRemovedField}
    (h : body.fields state = .ok (fields, removed)) {field : FieldRegistryFieldDefinition}
    (hfield : field ∈ fields ++ removed.map (·.field)) :
    (∃ f ∈ state.allFields, f.options = field.options) ∨
      field.options.choices = body.choices := by
  have hactive : ∀ f ∈ state.fields, f.options = field.options →
      ∃ f ∈ state.allFields, f.options = field.options :=
    fun f hf hoptions => ⟨f, List.mem_append_left _ hf, hoptions⟩
  have hremoved : ∀ entry ∈ state.removed, entry.field = field →
      ∃ f ∈ state.allFields, f.options = field.options :=
    fun entry hentry heq =>
      ⟨field, List.mem_append_right _ (List.mem_map.mpr ⟨entry, hentry, heq⟩), rfl⟩
  have hspliced : ∀ (index : ℕ) (after : FieldRegistryFieldDefinition),
      field ∈ renumber (spliceIn state.fields index after) →
        (∃ f ∈ state.allFields, f.options = field.options) ∨ after.options = field.options := by
    intro index after hmem
    obtain ⟨f, hf, hoptions⟩ := choices_of_mem_renumber hmem
    rcases List.mem_cons.mp ((perm_spliceIn _ _ _).mem_iff.mp hf) with rfl | hf
    · exact .inr hoptions
    · exact .inl (hactive f hf hoptions)
  cases body with
  | add after placement =>
    obtain ⟨rfl, rfl⟩ := Prod.mk.inj (pure_eq_ok.mp h)
    rcases List.mem_append.mp hfield with hfield | hfield
    · exact (hspliced _ _ hfield).imp_right fun hoptions => by rw [← hoptions]; rfl
    · obtain ⟨entry, hentry, heq⟩ := List.mem_map.mp hfield
      exact .inl (hremoved entry hentry heq)
  | edit before after =>
    obtain ⟨rfl, rfl⟩ := Prod.mk.inj (pure_eq_ok.mp h)
    rcases List.mem_append.mp hfield with hfield | hfield
    · obtain ⟨f, hf, rfl⟩ := List.mem_map.mp hfield
      by_cases hid : f.id = after.id
      · exact .inr (by rw [if_pos hid]; rfl)
      · exact .inl (hactive f hf (by rw [if_neg hid]))
    · obtain ⟨entry, hentry, heq⟩ := List.mem_map.mp hfield
      exact .inl (hremoved entry hentry heq)
  | move fieldId version beforeIndex afterIndex =>
    simp only [FieldRegistryPlanBody.fields, reorder, bind_eq_ok, orRefuse_eq_ok, require_eq_ok,
      pure_eq_ok, exists_const] at h
    obtain ⟨_, ⟨fromIndex, -, -, moved, hmoved, rfl⟩, hpair⟩ := h
    obtain ⟨rfl, rfl⟩ := Prod.mk.inj hpair
    rcases List.mem_append.mp hfield with hfield | hfield
    · obtain ⟨f, hf, hoptions⟩ := choices_of_mem_renumber hfield
      rcases List.mem_cons.mp ((perm_spliceIn _ _ _).mem_iff.mp hf) with rfl | hf
      · exact .inl (hactive _ (List.mem_of_getElem? hmoved) hoptions)
      · exact .inl (hactive f (List.mem_of_mem_eraseIdx hf) hoptions)
    · obtain ⟨entry, hentry, heq⟩ := List.mem_map.mp hfield
      exact .inl (hremoved entry hentry heq)
  | remove before removedAt removedByUserId =>
    obtain ⟨rfl, rfl⟩ := Prod.mk.inj (pure_eq_ok.mp h)
    rcases List.mem_append.mp hfield with hfield | hfield
    · obtain ⟨f, hf, hoptions⟩ := choices_of_mem_renumber hfield
      exact .inl (hactive f (List.mem_of_mem_filter hf) hoptions)
    · obtain ⟨entry, hentry, rfl⟩ := List.mem_map.mp hfield
      rcases List.mem_append.mp hentry with hentry | hentry
      · exact .inl (hremoved entry hentry rfl)
      · rw [List.mem_singleton.mp hentry]
        exact .inr rfl
  | restore after placement =>
    obtain ⟨rfl, rfl⟩ := Prod.mk.inj (pure_eq_ok.mp h)
    rcases List.mem_append.mp hfield with hfield | hfield
    · exact (hspliced _ _ hfield).imp_right fun hoptions => by rw [← hoptions]; rfl
    · obtain ⟨entry, hentry, heq⟩ := List.mem_map.mp hfield
      exact .inl (hremoved entry (List.mem_of_mem_filter hentry) heq)

variable [DecidableEq D]

/-- The states of a registry, the latest first, under requests that are planned and applied. No
request assigns an identity that the registry had and has no more. -/
inductive FieldRegistryHistory (host : FieldRegistryHost D) : List FieldRegistryState → Prop where
  | start {state : FieldRegistryState} (h : registrySchema host state = true) :
    FieldRegistryHistory host [state]
  | change {state next : FieldRegistryState} {past : List FieldRegistryState}
    (history : FieldRegistryHistory host (state :: past))
    (references : FieldRegistryFormReferenceResolver) (author : FieldRegistryAuthorInput)
    (plan : FieldRegistryMutationPlan D) (result : FieldRegistryChangeResult)
    (planned : planFieldRegistryMutation host state references author = .ok plan)
    (applied : applyFieldRegistryMutationPlan host state references plan = .ok (next, result))
    (fresh : ∀ id ∈ author.change.assignedIds, ∀ earlier ∈ past,
      id ∈ registryApplicationIds earlier → id ∈ registryApplicationIds state) :
    FieldRegistryHistory host (next :: state :: past)

omit [DecidableEq D] in
theorem FieldRegistryState.WellFormed.names_functional (h : state.WellFormed host)
    (id : ApplicationId) (a b : String) (ha : state.Names host id a) (hb : state.Names host id b) :
    a = b := by
  obtain ⟨choice, hchoice, hid, rfl⟩ := ha
  obtain ⟨choice', hchoice', hid', rfl⟩ := hb
  rw [h.choice_eq hchoice hchoice' (hid.trans hid'.symm)]

theorem FieldRegistryHistory.lasting {states : List FieldRegistryState}
    (h : FieldRegistryHistory host states) :
    Lasting (FieldRegistryState.Names host) states := by
  induction h with
  | start h => exact .singleton (registrySchema_iff.mp h).names_functional
  | @change state next past history references author plan result planned applied fresh ih =>
    obtain ⟨hstate, -, -, change, hplanned, rfl⟩ := planFieldRegistryMutation_eq_ok.mp planned
    obtain ⟨-, hfields, -, -, hnext, -⟩ := apply_eq_ok.mp applied
    refine ih.cons hnext.names_functional ?_
    rintro _ _ ⟨choice, hchoice, rfl, rfl⟩
    obtain ⟨field, hfield, hmem⟩ := FieldRegistryState.mem_choices.mp hchoice
    rcases mem_choices_of_fields hfields hfield with ⟨f, hf, hoptions⟩ | hwritten
    · exact .inl (FieldRegistryState.names_of_mem hf (hoptions ▸ hmem))
    rcases named_of_planned hstate hplanned choice (hwritten ▸ hmem) with hnames | ⟨hnew, hassigned⟩
    · exact .inl hnames
    · -- an assigned identity that is new to the registry is new to the history
      refine .inr ?_
      rintro t ht _ ⟨other, hother, hid, -⟩
      have hmem := hid ▸ FieldRegistryState.id_mem_of_mem_choices hother
      rcases List.mem_cons.mp ht with rfl | ht
      · exact hnew hmem
      · exact hnew (fresh _ hassigned t ht hmem)

/-! ## Edits and histories -/

/-- A planned edit is of an active field, has the choices in the order of the labels that were asked
for, keeps the identity of every label that is still there, and takes no identity of anything else
in the registry. Applied, it leaves the other fields as they are. So in every history whose assigned
identities are not used again, an identity of a choice stands for one label without regard to
case. -/
theorem choices_of_edits (host : FieldRegistryHost D) :
    (∀ state references author plan fieldId version changes identities,
      author.change = .edit fieldId version changes identities →
      planFieldRegistryMutation host state references author = .ok plan →
        ∃ before after, plan.body = .edit before after ∧ before ∈ state.fields ∧
          before.id = fieldId ∧ after.id = fieldId ∧
          FieldRegistryChoicesKept host state before after ∧
          (∀ requested, changes.customOptionLabels = some requested →
            parseOptionLabels host requested = .ok (after.options.choices.map (·.label))) ∧
          (changes.customOptionLabels = none → after.options = before.options) ∧
          ∀ next result, applyFieldRegistryMutationPlan host state references plan =
              .ok (next, result) →
            next.fields = (state.fields.map fun field =>
              if field.id = fieldId then after else field) ∧ next.removed = state.removed) ∧
    (∀ states, FieldRegistryHistory host states →
      ∀ earlier ∈ states, ∀ later ∈ states,
        ∀ choice ∈ earlier.choices, ∀ choice' ∈ later.choices, choice.id = choice'.id →
          host.lower choice.label = host.lower choice'.label) := by
  refine ⟨?_, fun states history earlier hearlier later hlater choice hchoice choice' hchoice'
    hid => history.lasting earlier hearlier later hlater choice.id _ _
      ⟨choice, hchoice, rfl, rfl⟩ ⟨choice', hchoice', hid.symm, rfl⟩⟩
  intro state references author plan fieldId version changes identities hchange hplan
  obtain ⟨hstate, -, -, planned, hplanned, rfl⟩ := planFieldRegistryMutation_eq_ok.mp hplan
  rw [hchange] at hplanned
  obtain ⟨parsed, hparsed, before, hbefore, -, options, hoptions, version', -, hschema, pin, -,
    rfl⟩ := planFieldEdit_eq_ok.mp hplanned
  obtain ⟨rfl, -, hmem⟩ := activeField_again hbefore
  simp only [parseFieldChanges, bind_eq_ok, require_eq_ok, pure_eq_ok, exists_const] at hparsed
  obtain ⟨label, -, help, -, -, labels, hlabels, -, rfl⟩ := hparsed
  refine ⟨before, _, rfl, hmem, rfl, rfl,
    choicesKept_of_editedOptions hstate hmem hschema.distinct hoptions, ?_, ?_, ?_⟩
  · intro requested hrequested
    rw [hrequested, Option.mapM_some] at hlabels
    obtain ⟨made, hmade, rfl⟩ := map_eq_ok.mp hlabels
    obtain ⟨previous, choices, -, hchoices, -, rfl⟩ := editedOptions_some_eq_ok.mp hoptions
    exact (labels_of_customChoices hchoices).symm ▸ hmade
  · intro hnone
    rw [hnone] at hlabels
    obtain rfl := pure_eq_ok.mp hlabels
    exact (pure_eq_ok.mp hoptions).symm
  · intro next result happly
    obtain ⟨-, hfields, -⟩ := apply_eq_ok.mp happly
    obtain ⟨hfields, hremoved⟩ := Prod.mk.inj (pure_eq_ok.mp hfields)
    exact ⟨hfields.symm, hremoved.symm⟩

namespace FieldRegistryExample

def choice (id position : ℕ) (key : FieldRegistryStableKey) (label : String) :
    FieldRegistryChoice :=
  { id := .ofNat id, key, label, position }

def diet : FieldRegistryFieldDefinition :=
  { field 0 ⟨"diet", by decide⟩ with
    kind := .select
    options := .custom [choice 20 0 ⟨"fish", by decide⟩ "Fish",
      choice 21 1 ⟨"meat", by decide⟩ "Meat", choice 22 2 ⟨"plants", by decide⟩ "Plants"] }

def dietRegistry : FieldRegistryState := { registry .one with fields := [diet] }

/-- The choices are put in another order, one is left out and one is new. -/
def dietEdit : FieldRegistryAuthorInput :=
  request .one (.edit diet.id .one
    { label := none, help := none, contexts := none
      customOptionLabels := some ["PLANTS", "Eggs", "fish"] }
    [⟨.ofNat 30, ⟨"a", by decide⟩⟩, ⟨.ofNat 31, ⟨"b", by decide⟩⟩, ⟨.ofNat 20, ⟨"c", by decide⟩⟩])

/-- The identities of the choices of an edited field. -/
def afterIds : FieldRegistryPlanBody → List ApplicationId
  | .edit _ after => after.options.choices.map (·.id)
  | .add _ _ | .move _ _ _ _ | .remove _ _ _ | .restore _ _ => []

def letterHost : FieldRegistryHost SymbolicDigest :=
  { plainHost with lower := fun text => String.ofList (text.toList.map Char.toLower) }

def dietPlan : Except FieldRegistryPlanningError (FieldRegistryMutationPlan SymbolicDigest) :=
  planFieldRegistryMutation letterHost dietRegistry (fun _ _ => none) dietEdit

theorem dietPlan_ids : dietPlan.map (fun plan => afterIds plan.body) =
    .ok [.ofNat 22, .ofNat 31, .ofNat 20] := by decide +kernel

end FieldRegistryExample

/-- Two choices change places and keep their identities, and a new label gets the assigned one. -/
theorem choices_of_edits_reordered :
    ∃ plan before after,
      FieldRegistryExample.dietPlan = .ok plan ∧ plan.body = .edit before after ∧
        FieldRegistryChoicesKept FieldRegistryExample.letterHost FieldRegistryExample.dietRegistry
          before after ∧
        after.options.choices.map (·.id) = [.ofNat 22, .ofNat 31, .ofNat 20] := by
  obtain ⟨plan, hplan, hids⟩ := map_eq_ok.mp FieldRegistryExample.dietPlan_ids
  obtain ⟨before, after, hbody, -, -, -, hkept, -⟩ :=
    (choices_of_edits FieldRegistryExample.letterHost).1 _ _ _ plan _ _ _ _ rfl hplan
  rw [hbody] at hids
  exact ⟨plan, before, after, hplan, hbody, hkept, hids⟩

end JooEvents
