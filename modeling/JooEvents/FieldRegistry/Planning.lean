import JooEvents.FieldRegistry.Fields

/-!
# Planning a change again

A plan holds the request that it answers in canonical form. What the schemas of requests make of
texts in canonical form are these texts (`parseFieldAuthor_authored`,
`parseFieldChanges_changes`), and choices that were made from labels are made again from their
own (`customChoices_again`). So planning the request of a plan again gives the plan
(`planFieldRegistryChange_again`), and the plan is accepted (`validate_of_planned`).
-/

namespace JooEvents

open Fallible

variable {D : Type} {host : FieldRegistryHost D} {state : FieldRegistryState}
  {references : FieldRegistryFormReferenceResolver}

theorem parseLine_canonical {line : String} (h : isCanonicalText host.toHost 240 line = true) :
    parseLine host line = .ok line := by
  obtain ⟨hpos, hmax, hnormal⟩ := of_decide_eq_true h
  simp only [parseLine, hnormal, bind_eq_ok, require_eq_ok, pure_eq_ok, and_true, exists_const]
  exact ⟨hpos, hmax⟩

theorem parseHelp_canonical {help : Option String}
    (h : help.all (isFieldHelp host.toHost) = true) : help.mapM (parseHelp host) = .ok help := by
  cases help with
  | none => rfl
  | some help =>
    obtain ⟨hpos, hmax, hnormal⟩ := of_decide_eq_true h
    have hhelp : parseHelp host help = .ok help := by
      simp only [parseHelp, hnormal, bind_eq_ok, require_eq_ok, pure_eq_ok, and_true, exists_const]
      exact ⟨hpos, hmax⟩
    rw [Option.mapM_some, hhelp]
    rfl

theorem parseOptionLabels_canonical {choices : List FieldRegistryChoice}
    (hoptions : optionConfigurationSchema host.toHost (.custom choices) = true)
    (hdistinct : ChoicesDistinct host choices) :
    parseOptionLabels host (choices.map (·.label)) = .ok (choices.map (·.label)) := by
  simp only [optionConfigurationSchema, Bool.and_eq_true, decide_eq_true_eq, List.all_eq_true]
    at hoptions
  obtain ⟨hlength, hchoices⟩ := hoptions
  have hlabels : (choices.map (·.label)).mapM (parseLine host) = .ok (choices.map (·.label)) := by
    refine mapM_eq_ok_of_forall₂ (List.forall₂_same.mpr fun label hlabel => ?_)
    obtain ⟨choice, hchoice, rfl⟩ := List.mem_map.mp hlabel
    exact parseLine_canonical (hchoices choice hchoice).1
  simp only [parseOptionLabels, bind_eq_ok, require_eq_ok, pure_eq_ok, List.length_map,
    exists_const]
  refine ⟨hlength, _, hlabels, ?_, rfl⟩
  rw [List.map_map]
  exact hdistinct.labels

namespace FieldRegistryFieldDefinition

variable {field : FieldRegistryFieldDefinition}

theorem WellFormed.parseFieldAuthor_authored (h : field.WellFormed host) :
    parseFieldAuthor host field.authored = .ok field.authored := by
  have hoptions : parseAuthoredOptions host field.options.authored =
      .ok field.options.authored := by
    have hschema := h.options
    have hdistinct := h.distinct
    cases hfield : field.options with
    | none => rfl
    | custom choices =>
      rw [hfield] at hschema hdistinct
      rw [FieldRegistryOptionConfiguration.authored, parseAuthoredOptions,
        parseOptionLabels_canonical hschema hdistinct]
      rfl
    | program_vocabulary source => rfl
  have hchoice : field.kind.isChoice = true ↔ field.options.authored ≠ .none := by
    rw [h.choice]
    cases field.options <;> simp [FieldRegistryOptionConfiguration.authored]
  simp only [parseFieldAuthor, authored, bind_eq_ok, pure_eq_ok]
  exact ⟨_, parseLine_canonical h.label, _, parseHelp_canonical h.help, (),
    require_true h.contexts, _, hoptions, (), require_true hchoice, (), require_true h.collected,
    rfl⟩

theorem WellFormed.parseFieldChanges_changes (h : field.WellFormed host) :
    parseFieldChanges host field.changes = .ok field.changes := by
  have hlabel : (some field.label).mapM (parseLine host) = .ok (some field.label) := by
    rw [Option.mapM_some, parseLine_canonical h.label]
    rfl
  have hhelp : ((some field.help).mapM fun help => help.mapM (parseHelp host)) =
      .ok (some field.help) := by
    rw [Option.mapM_some, parseHelp_canonical h.help]
    rfl
  have hlabels : field.options.customLabels.mapM (parseOptionLabels host) =
      .ok field.options.customLabels := by
    have hschema := h.options
    have hdistinct := h.distinct
    cases hfield : field.options with
    | none => rfl
    | custom choices =>
      rw [hfield] at hschema hdistinct
      rw [FieldRegistryOptionConfiguration.customLabels, Option.mapM_some,
        parseOptionLabels_canonical hschema hdistinct]
      rfl
    | program_vocabulary source => rfl
  simp only [parseFieldChanges, changes, bind_eq_ok, pure_eq_ok]
  exact ⟨_, hlabel, _, hhelp, (), require_true h.contexts, _, hlabels, (),
    require_true (.inl (by simp)), rfl⟩

end FieldRegistryFieldDefinition

/-! ## Choices -/

theorem customChoices_again {choices previous : List FieldRegistryChoice}
    (hids : (choices.map (·.id)).Nodup) (hkeys : (choices.map (·.key)).Nodup)
    (h : ∀ i choice, choices[i]? = some choice →
      choiceOf host previous i choice.label choice.identity = choice) :
    customChoices host (choices.map (·.label)) (choices.map (·.identity)) previous =
      .ok choices := by
  have hmade : ((choices.map (·.label)).zip (choices.map (·.identity))).mapIdx
      (fun position made => choiceOf host previous position made.1 made.2) =
      choices := by
    rw [List.zip_map', List.mapIdx_eq_iff]
    intro i
    rw [List.getElem?_map]
    cases hi : choices[i]? with
    | none => rfl
    | some choice => exact congrArg some (h i choice hi).symm
  simp only [customChoices, bind_eq_ok, require_eq_ok, pure_eq_ok, List.length_map, exists_const]
  erw [hmade]
  exact ⟨trivial, ⟨hids, hkeys⟩, rfl⟩

theorem customChoices_made {labels : List String} {identities : List FieldRegistryChoiceIdentity}
    {choices previous : List FieldRegistryChoice}
    (h : customChoices host labels identities previous = .ok choices) :
    ((choices.map (·.id)).Nodup ∧ (choices.map (·.key)).Nodup) ∧
      ∀ i choice, choices[i]? = some choice → ∃ label, ∃ identity ∈ identities,
        choice = choiceOf host previous i label identity := by
  simp only [customChoices, bind_eq_ok, require_eq_ok, pure_eq_ok, exists_const] at h
  obtain ⟨-, hnodup, rfl⟩ := h
  refine ⟨hnodup, fun i choice hi => ?_⟩
  rw [List.getElem?_mapIdx, Option.map_eq_some_iff] at hi
  obtain ⟨⟨label, identity⟩, hzip, rfl⟩ := hi
  exact ⟨label, identity, (List.of_mem_zip (List.mem_of_getElem? hzip)).2, rfl⟩

theorem choiceOf_again (previous : List FieldRegistryChoice) (i : ℕ) (label : String)
    (identity : FieldRegistryChoiceIdentity) :
    choiceOf host previous i (choiceOf host previous i label identity).label
      (choiceOf host previous i label identity).identity =
        choiceOf host previous i label identity := by
  simp only [choiceOf, FieldRegistryChoice.identity]
  cases priorChoice host previous label <;> rfl

theorem customChoices_again_of_made {labels : List String}
    {identities : List FieldRegistryChoiceIdentity} {choices previous : List FieldRegistryChoice}
    (h : customChoices host labels identities previous = .ok choices) :
    customChoices host (choices.map (·.label)) (choices.map (·.identity)) previous =
      .ok choices := by
  obtain ⟨⟨hids, hkeys⟩, hmade⟩ := customChoices_made h
  refine customChoices_again hids hkeys fun i choice hi => ?_
  obtain ⟨label, identity, -, rfl⟩ := hmade i choice hi
  exact choiceOf_again previous i label identity

theorem identity_of_customChoices {labels : List String}
    {identities : List FieldRegistryChoiceIdentity} {choices : List FieldRegistryChoice}
    (h : customChoices host labels identities [] = .ok choices) {choice : FieldRegistryChoice}
    (hchoice : choice ∈ choices) : choice.identity ∈ identities := by
  obtain ⟨i, hi⟩ := List.getElem?_of_mem hchoice
  obtain ⟨label, identity, hmem, rfl⟩ := (customChoices_made h).2 i choice hi
  exact hmem

theorem ChoicesDistinct.customChoices_self {choices : List FieldRegistryChoice}
    (h : ChoicesDistinct host choices) :
    customChoices host (choices.map (·.label)) (choices.map (·.identity)) choices =
      .ok choices := by
  refine customChoices_again h.ids h.keys fun i choice hi => ?_
  obtain ⟨hlt, -⟩ := List.getElem?_eq_some_iff.mp hi
  have hposition : choice.position = i := by
    have hmap : (choices.map (·.position))[i]? = some choice.position := by
      rw [List.getElem?_map, hi, Option.map_some]
    rw [h.positions, List.getElem?_range hlt, Option.some.injEq] at hmap
    exact hmap.symm
  have hmem : choice ∈ choices := List.mem_of_getElem? hi
  unfold choiceOf
  cases hprior : priorChoice host choices choice.label with
  | none =>
    rw [← hposition]
    rfl
  | some prior =>
    have hfound : prior ∈ choices := List.mem_reverse.mp (List.mem_of_find?_eq_some hprior)
    have hlabel : host.lower prior.label = host.lower choice.label := by
      simpa using List.find?_some hprior
    -- no two choices have one label, so the earlier choice is the choice itself
    rw [List.inj_on_of_nodup_map h.labels hfound hmem hlabel, ← hposition]
    rfl

theorem optionsFromAuthor_again {options : FieldRegistryAuthoredOptions}
    {identities : List FieldRegistryChoiceIdentity} {configuration : FieldRegistryOptionConfiguration}
    (h : optionsFromAuthor host options identities = .ok configuration) :
    optionsFromAuthor host configuration.authored configuration.identities = .ok configuration ∧
      ∀ identity ∈ configuration.identities, identity ∈ identities := by
  cases options with
  | none =>
    obtain rfl := pure_eq_ok.mp h
    exact ⟨rfl, by simp [FieldRegistryOptionConfiguration.identities,
      FieldRegistryOptionConfiguration.choices]⟩
  | custom labels =>
    obtain ⟨choices, hchoices, rfl⟩ := map_eq_ok.mp h
    refine ⟨map_eq_ok.mpr ⟨choices, customChoices_again_of_made hchoices, rfl⟩, fun identity hmem => ?_⟩
    obtain ⟨choice, hchoice, rfl⟩ := List.mem_map.mp hmem
    exact identity_of_customChoices hchoices hchoice
  | program_vocabulary source =>
    obtain rfl := pure_eq_ok.mp h
    exact ⟨rfl, by simp [FieldRegistryOptionConfiguration.identities,
      FieldRegistryOptionConfiguration.choices]⟩

theorem fieldFromAuthor_eq_ok {author : FieldRegistryFieldAuthor} {fieldId : ApplicationId}
    {fieldKey : FieldRegistryStableKey} {choices : List FieldRegistryChoiceIdentity}
    {group : FieldRegistryGroup} {position : ℕ} {field : FieldRegistryFieldDefinition} :
    fieldFromAuthor host author fieldId fieldKey choices group position = .ok field ↔
      field.WellFormed host ∧ ∃ options, optionsFromAuthor host author.options choices = .ok options ∧
        field =
          { id := fieldId
            key := fieldKey
            version := .one
            kind := author.kind
            label := author.label
            help := author.help
            answerOwner := author.answerOwner
            mapsTo := none
            purpose := .ordinary
            scope := author.scope
            group
            position
            contexts := author.contexts
            options
            constraints := { removal := .allowed, applyVisibility := .editable }
            fileUpload := if author.kind = .file then .disabled else .not_applicable } := by
  simp only [fieldFromAuthor, bind_eq_ok, require_eq_ok, pure_eq_ok, exists_const,
    fieldDefinitionSchema_iff]
  constructor
  · rintro ⟨options, hoptions, hschema, rfl⟩
    exact ⟨hschema, options, hoptions, rfl⟩
  · rintro ⟨hschema, options, hoptions, rfl⟩
    exact ⟨options, hoptions, hschema, rfl⟩

theorem fieldFromAuthor_again {author : FieldRegistryFieldAuthor} {fieldId : ApplicationId}
    {fieldKey : FieldRegistryStableKey} {choices : List FieldRegistryChoiceIdentity}
    {group : FieldRegistryGroup} {position : ℕ} {field : FieldRegistryFieldDefinition}
    (h : fieldFromAuthor host author fieldId fieldKey choices group position = .ok field) :
    fieldFromAuthor host field.authored fieldId fieldKey field.options.identities group position =
      .ok field := by
  obtain ⟨hschema, options, hoptions, rfl⟩ := fieldFromAuthor_eq_ok.mp h
  exact fieldFromAuthor_eq_ok.mpr ⟨hschema, options, (optionsFromAuthor_again hoptions).1, rfl⟩

theorem activeField_eq_ok {fieldId : ApplicationId} {version : Version}
    {field : FieldRegistryFieldDefinition} :
    activeField state fieldId version = .ok field ↔
      state.fields.find? (fun candidate => candidate.id = fieldId) = some field ∧
        field.version = version := by
  simp only [activeField, bind_eq_ok, orRefuse_eq_ok, require_eq_ok, pure_eq_ok, exists_const]
  constructor
  · rintro ⟨found, hfound, hversion, rfl⟩
    exact ⟨hfound, hversion⟩
  · rintro ⟨hfound, hversion⟩
    exact ⟨field, hfound, hversion, rfl⟩

theorem activeField_again {fieldId : ApplicationId} {version : Version}
    {field : FieldRegistryFieldDefinition} (h : activeField state fieldId version = .ok field) :
    field.id = fieldId ∧ field.version = version ∧ field ∈ state.fields := by
  obtain ⟨hfound, hversion⟩ := activeField_eq_ok.mp h
  exact ⟨by simpa using List.find?_some hfound, hversion, List.mem_of_find?_eq_some hfound⟩

/-! ## Changes -/

/-- The key that is made from the label of an added field is free. -/
def DerivedKeyFree (host : FieldRegistryHost D) (state : FieldRegistryState) :
    FieldRegistryChange → Prop
  | .add field identities => identities.fieldKey = none →
    ∀ label key, parseLine host field.label = .ok label →
      fieldRegistryStableKeyFor host label identities.fieldId = .ok key →
      key ∉ state.allFields.map (·.key)
  | .edit _ _ _ _ | .move _ _ _ | .remove _ _ _ _ | .restore _ _ _ => True

theorem planFieldAdd_eq_ok {request : FieldRegistryFieldAuthor}
    {identities : FieldRegistryIdentityAssignment} {planned : FieldRegistryPlanned} :
    planFieldAdd host state references request identities = .ok planned ↔
      ∃ field, parseFieldAuthor host request = .ok field ∧
        (identities.fieldId ∉ registryApplicationIds state ∧
          ∀ key ∈ identities.fieldKey, key ∉ state.allFields.map (·.key)) ∧
        ((∀ choice ∈ identities.choices, choice.id ∉ registryApplicationIds state ∧
          choice.id ≠ identities.fieldId) ∧ (identities.choices.map (·.id)).Nodup) ∧
        ∃ pin, formPin state.scope field.scope references = .ok pin ∧
          ∃ fieldKey, addedFieldKey host identities field.label = .ok fieldKey ∧
            ∃ after, fieldFromAuthor host field identities.fieldId fieldKey identities.choices
                (suggestFieldRegistryPlacement field.kind field.label state.fields).group
                (suggestFieldRegistryPlacement field.kind field.label state.fields).index =
                  .ok after ∧
              (pin, FieldRegistryPlanBody.add after
                (suggestFieldRegistryPlacement field.kind field.label state.fields)) = planned := by
  simp only [planFieldAdd, bind_eq_ok, require_eq_ok, pure_eq_ok, exists_const]

theorem label_of_parseFieldAuthor {request field : FieldRegistryFieldAuthor}
    (h : parseFieldAuthor host request = .ok field) :
    parseLine host request.label = .ok field.label := by
  simp only [parseFieldAuthor, bind_eq_ok, pure_eq_ok] at h
  obtain ⟨label, hlabel, -, -, -, -, -, -, -, -, -, -, rfl⟩ := h
  exact hlabel

theorem derivedKey_not_mem {request field : FieldRegistryFieldAuthor}
    {identities : FieldRegistryIdentityAssignment} {fieldKey : FieldRegistryStableKey}
    (hfree : DerivedKeyFree host state (.add request identities))
    (hfield : parseFieldAuthor host request = .ok field)
    (hkey : ∀ key ∈ identities.fieldKey, key ∉ state.allFields.map (·.key))
    (hfieldKey : addedFieldKey host identities field.label = .ok fieldKey) :
    fieldKey ∉ state.allFields.map (·.key) := by
  unfold addedFieldKey at hfieldKey
  cases hgiven : identities.fieldKey with
  | none =>
    rw [hgiven] at hfieldKey
    exact hfree hgiven field.label fieldKey (label_of_parseFieldAuthor hfield) hfieldKey
  | some key =>
    rw [hgiven] at hfieldKey
    obtain rfl := pure_eq_ok.mp hfieldKey
    exact hkey key (by rw [hgiven]; rfl)

theorem planFieldAdd_again {request : FieldRegistryFieldAuthor}
    {identities : FieldRegistryIdentityAssignment} {planned : FieldRegistryPlanned}
    (hfree : DerivedKeyFree host state (.add request identities))
    (h : planFieldAdd host state references request identities = .ok planned) :
    ∃ change, planned.2.change = some change ∧
      planFieldRegistryChange host state references change = .ok planned := by
  obtain ⟨field, hfield, ⟨hid, hkey⟩, ⟨hchoices, -⟩, pin, hpin, fieldKey, hfieldKey, after, hafter,
    rfl⟩ := planFieldAdd_eq_ok.mp h
  have hagain := fieldFromAuthor_again hafter
  have hfresh := derivedKey_not_mem hfree hfield hkey hfieldKey
  obtain ⟨hschema, options, hoptions, rfl⟩ := fieldFromAuthor_eq_ok.mp hafter
  have hgiven := (optionsFromAuthor_again hoptions).2
  refine ⟨_, rfl, planFieldAdd_eq_ok.mpr ⟨_, hschema.parseFieldAuthor_authored,
    ⟨hid, fun key hmem => ?_⟩, ⟨fun choice hmem => hchoices choice (hgiven choice hmem), ?_⟩, pin,
    hpin, fieldKey, rfl, _, hagain, rfl⟩⟩
  · cases hmem
    exact hfresh
  · rw [FieldRegistryOptionConfiguration.identities, List.map_map]
    exact hschema.distinct.ids

theorem editedOptions_some_eq_ok {before : FieldRegistryFieldDefinition} {labels : List String}
    {identities : List FieldRegistryChoiceIdentity} {options : FieldRegistryOptionConfiguration} :
    editedOptions host state before (some labels) identities = .ok options ↔
      ∃ previous choices, before.options = .custom previous ∧
        customChoices host labels identities previous = .ok choices ∧
        (∀ choice ∈ choices, (choice.id ∈ registryApplicationIds state → ∃ prior ∈ previous,
          prior.id = choice.id ∧ host.lower prior.label = host.lower choice.label) ∧
          choice.id ≠ before.id) ∧
        options = .custom choices := by
  unfold editedOptions
  cases before.options with
  | none => simp
  | custom previous =>
    simp only [bind_eq_ok, require_eq_ok, pure_eq_ok, exists_const,
      FieldRegistryOptionConfiguration.custom.injEq]
    constructor
    · rintro ⟨choices, hchoices, hfree, rfl⟩
      exact ⟨previous, choices, rfl, hchoices, hfree, rfl⟩
    · rintro ⟨_, choices, rfl, hchoices, hfree, rfl⟩
      exact ⟨choices, hchoices, hfree, rfl⟩
  | program_vocabulary source => simp

theorem editedOptions_again {before : FieldRegistryFieldDefinition} {labels : Option (List String)}
    {identities : List FieldRegistryChoiceIdentity} {options : FieldRegistryOptionConfiguration}
    (hstate : state.WellFormed host) (hbefore : before ∈ state.fields)
    (h : editedOptions host state before labels identities = .ok options) :
    editedOptions host state before options.customLabels options.identities = .ok options := by
  cases labels with
  | none =>
    obtain rfl : before.options = options := by simpa [editedOptions] using h
    cases hoptions : before.options with
    | none => simp [editedOptions, FieldRegistryOptionConfiguration.customLabels, hoptions]
    | custom previous =>
      have hdistinct := (hstate.fields before hbefore).distinct
      rw [hoptions] at hdistinct
      refine editedOptions_some_eq_ok.mpr ⟨previous, previous, hoptions,
        hdistinct.customChoices_self, fun choice hchoice => ⟨fun _ => ⟨choice, hchoice, rfl, rfl⟩, ?_⟩,
        rfl⟩
      -- the identities of a field and of its choices are distinct in the registry
      have hids : before.applicationIds.Nodup :=
        (List.nodup_flatMap.mp hstate.ids).1 before (List.mem_append_left _ hbefore)
      rw [FieldRegistryFieldDefinition.applicationIds, hoptions, List.nodup_cons] at hids
      exact fun heq => hids.1 (heq ▸ List.mem_map_of_mem hchoice)
    | program_vocabulary source =>
      simp [editedOptions, FieldRegistryOptionConfiguration.customLabels, hoptions]
  | some labels =>
    obtain ⟨previous, choices, hoptions, hchoices, hfree, rfl⟩ := editedOptions_some_eq_ok.mp h
    exact editedOptions_some_eq_ok.mpr ⟨previous, choices, hoptions,
      customChoices_again_of_made hchoices, hfree, rfl⟩

theorem planFieldEdit_eq_ok {fieldId : ApplicationId} {expectedFieldVersion : Version}
    {changes : FieldRegistryFieldChanges} {identities : List FieldRegistryChoiceIdentity}
    {planned : FieldRegistryPlanned} :
    planFieldEdit host state references fieldId expectedFieldVersion changes identities =
        .ok planned ↔
      ∃ parsed, parseFieldChanges host changes = .ok parsed ∧
        ∃ before, activeField state fieldId expectedFieldVersion = .ok before ∧
          (before.constraints.applyVisibility = .required_visible →
            (parsed.contexts.getD before.contexts).apply.visible = true) ∧
          ∃ options, editedOptions host state before parsed.customOptionLabels identities =
              .ok options ∧
            ∃ version, nextAggregateVersion before.version = some version ∧
              FieldRegistryFieldDefinition.WellFormed host
                { before with
                  version
                  label := parsed.label.getD before.label
                  help := parsed.help.getD before.help
                  contexts := parsed.contexts.getD before.contexts
                  options } ∧
              ∃ pin, formPin state.scope before.scope references = .ok pin ∧
                (pin, FieldRegistryPlanBody.edit before
                  { before with
                    version
                    label := parsed.label.getD before.label
                    help := parsed.help.getD before.help
                    contexts := parsed.contexts.getD before.contexts
                    options }) = planned := by
  simp only [planFieldEdit, bind_eq_ok, require_eq_ok, orRefuse_eq_ok, pure_eq_ok, exists_const,
    fieldDefinitionSchema_iff]

theorem planFieldEdit_again {fieldId : ApplicationId} {expectedFieldVersion : Version}
    {changes : FieldRegistryFieldChanges} {identities : List FieldRegistryChoiceIdentity}
    {planned : FieldRegistryPlanned} (hstate : state.WellFormed host)
    (h : planFieldEdit host state references fieldId expectedFieldVersion changes identities =
      .ok planned) :
    ∃ change, planned.2.change = some change ∧
      planFieldRegistryChange host state references change = .ok planned := by
  obtain ⟨parsed, -, before, hbefore, hvisible, options, hoptions, version, hversion, hschema, pin,
    hpin, rfl⟩ := planFieldEdit_eq_ok.mp h
  obtain ⟨rfl, rfl, hmem⟩ := activeField_again hbefore
  exact ⟨_, rfl, planFieldEdit_eq_ok.mpr ⟨_, hschema.parseFieldChanges_changes, before, hbefore,
    hvisible, options, editedOptions_again hstate hmem hoptions, version, hversion, hschema, pin,
    hpin, rfl⟩⟩

theorem planFieldMove_eq_ok {fieldId : ApplicationId} {expectedFieldVersion : Version}
    {toIndex : ℕ} {planned : FieldRegistryPlanned} :
    planFieldMove state references fieldId expectedFieldVersion toIndex = .ok planned ↔
      toIndex ≤ maxSafeInteger ∧
        ∃ field, activeField state fieldId expectedFieldVersion = .ok field ∧
          toIndex < state.fields.length ∧
          ∃ pin, formPin state.scope field.scope references = .ok pin ∧
            (pin, FieldRegistryPlanBody.move field.id field.version field.position toIndex) =
              planned := by
  simp only [planFieldMove, bind_eq_ok, require_eq_ok, pure_eq_ok, exists_const]

theorem planFieldMove_again {fieldId : ApplicationId} {expectedFieldVersion : Version}
    {toIndex : ℕ} {planned : FieldRegistryPlanned}
    (h : planFieldMove state references fieldId expectedFieldVersion toIndex = .ok planned) :
    ∃ change, planned.2.change = some change ∧
      planFieldRegistryChange host state references change = .ok planned := by
  obtain ⟨-, field, hfield, -, pin, -, rfl⟩ := planFieldMove_eq_ok.mp h
  obtain ⟨rfl, rfl, -⟩ := activeField_again hfield
  exact ⟨_, rfl, h⟩

theorem planFieldRemove_eq_ok {fieldId : ApplicationId} {expectedFieldVersion : Version}
    {removedAt : String} {removedByUserId : ApplicationId} {planned : FieldRegistryPlanned} :
    planFieldRemove state references fieldId expectedFieldVersion removedAt removedByUserId =
        .ok planned ↔
      ∃ before, activeField state fieldId expectedFieldVersion = .ok before ∧
        before.constraints.removal = .allowed ∧
        ∃ pin, formPin state.scope before.scope references = .ok pin ∧
          (pin, FieldRegistryPlanBody.remove before removedAt removedByUserId) = planned := by
  simp only [planFieldRemove, bind_eq_ok, require_eq_ok, pure_eq_ok, exists_const]

theorem planFieldRemove_again {fieldId : ApplicationId} {expectedFieldVersion : Version}
    {removedAt : String} {removedByUserId : ApplicationId} {planned : FieldRegistryPlanned}
    (h : planFieldRemove state references fieldId expectedFieldVersion removedAt removedByUserId =
      .ok planned) :
    ∃ change, planned.2.change = some change ∧
      planFieldRegistryChange host state references change = .ok planned := by
  obtain ⟨before, hbefore, -, pin, -, rfl⟩ := planFieldRemove_eq_ok.mp h
  obtain ⟨rfl, rfl, -⟩ := activeField_again hbefore
  exact ⟨_, rfl, h⟩

theorem planFieldRestore_eq_ok {fieldId : ApplicationId} {expectedFieldVersion : Version}
    {toIndex : ℕ} {planned : FieldRegistryPlanned} :
    planFieldRestore host state references fieldId expectedFieldVersion toIndex = .ok planned ↔
      toIndex ≤ maxSafeInteger ∧ fieldId ∉ state.fields.map (·.id) ∧
        ∃ removed, state.removed.find? (fun candidate => candidate.field.id = fieldId) =
            some removed ∧
          removed.field.version = expectedFieldVersion ∧ toIndex ≤ state.fields.length ∧
          ∃ version, nextAggregateVersion removed.field.version = some version ∧
            FieldRegistryFieldDefinition.WellFormed host
              { removed.field with version, position := toIndex } ∧
            ∃ pin, formPin state.scope removed.field.scope references = .ok pin ∧
              (pin, FieldRegistryPlanBody.restore
                { removed.field with version, position := toIndex }
                { index := toIndex
                  group := removed.field.group
                  reasonKey := "field_registry.placement.restore" }) = planned := by
  simp only [planFieldRestore, bind_eq_ok, require_eq_ok, orRefuse_eq_ok, pure_eq_ok, exists_const,
    fieldDefinitionSchema_iff]

theorem planFieldRestore_again {fieldId : ApplicationId} {expectedFieldVersion : Version}
    {toIndex : ℕ} {planned : FieldRegistryPlanned}
    (h : planFieldRestore host state references fieldId expectedFieldVersion toIndex =
      .ok planned) :
    ∃ change, planned.2.change = some change ∧
      planFieldRegistryChange host state references change = .ok planned := by
  obtain ⟨-, -, removed, hfound, rfl, -, version, hversion, -, pin, -, rfl⟩ :=
    planFieldRestore_eq_ok.mp h
  obtain rfl : removed.field.id = fieldId := by simpa using List.find?_some hfound
  -- the version before the restored one is the version of the removed field
  have hearlier : PositiveSafe.parse (version.val - 1) = some removed.field.version := by
    rw [val_of_nextAggregateVersion hversion]
    exact PositiveSafe.parse_eq_some.mpr rfl
  refine ⟨.restore removed.field.id removed.field.version toIndex, ?_, h⟩
  simp only [FieldRegistryPlanBody.change, hearlier, Option.map_some]

theorem planFieldRegistryChange_again {change : FieldRegistryChange} {planned : FieldRegistryPlanned}
    (hstate : state.WellFormed host) (hfree : DerivedKeyFree host state change)
    (h : planFieldRegistryChange host state references change = .ok planned) :
    ∃ answered, planned.2.change = some answered ∧
      planFieldRegistryChange host state references answered = .ok planned := by
  cases change with
  | add field identities => exact planFieldAdd_again hfree h
  | edit fieldId version changes identities => exact planFieldEdit_again hstate h
  | move fieldId version toIndex => exact planFieldMove_again h
  | remove fieldId version removedAt removedByUserId => exact planFieldRemove_again h
  | restore fieldId version toIndex => exact planFieldRestore_again h

/-! ## Validation -/

theorem validateFormPin_of_formPin {scope : FieldRegistryScope} {fieldScope : FieldRegistryFieldScope}
    {pin : Option FieldRegistryFormReference}
    (h : formPin scope fieldScope references = .ok pin) :
    validateFormPin references scope pin = .ok () := by
  cases fieldScope with
  | shared =>
    obtain rfl := pure_eq_ok.mp h
    rfl
  | form formId =>
    simp only [formPin, bind_eq_ok, orRefuse_eq_ok, require_eq_ok, pure_eq_ok, exists_const] at h
    obtain ⟨reference, hreference, rfl, rfl⟩ := h
    simp only [validateFormPin, hreference, bind_eq_ok, orRefuse_eq_ok, require_eq_ok,
      Option.some.injEq]
    exact ⟨reference, rfl, rfl, rfl⟩

theorem formPin_of_planned {change : FieldRegistryChange} {planned : FieldRegistryPlanned}
    (h : planFieldRegistryChange host state references change = .ok planned) :
    ∃ fieldScope, formPin state.scope fieldScope references = .ok planned.1 := by
  cases change with
  | add field identities =>
    obtain ⟨_, _, _, _, pin, hpin, _, _, _, _, rfl⟩ := planFieldAdd_eq_ok.mp h
    exact ⟨_, hpin⟩
  | edit fieldId version changes identities =>
    obtain ⟨_, _, _, _, _, _, _, _, _, _, pin, hpin, rfl⟩ := planFieldEdit_eq_ok.mp h
    exact ⟨_, hpin⟩
  | move fieldId version toIndex =>
    obtain ⟨_, _, _, _, pin, hpin, rfl⟩ := planFieldMove_eq_ok.mp h
    exact ⟨_, hpin⟩
  | remove fieldId version removedAt removedByUserId =>
    obtain ⟨_, _, _, pin, hpin, rfl⟩ := planFieldRemove_eq_ok.mp h
    exact ⟨_, hpin⟩
  | restore fieldId version toIndex =>
    obtain ⟨_, _, _, _, _, _, _, _, _, pin, hpin, rfl⟩ := planFieldRestore_eq_ok.mp h
    exact ⟨_, hpin⟩

theorem planFieldRegistryMutation_eq_ok {author : FieldRegistryAuthorInput}
    {plan : FieldRegistryMutationPlan D} :
    planFieldRegistryMutation host state references author = .ok plan ↔
      state.WellFormed host ∧ state.scope = author.scope ∧
        state.version = author.expectedRegistryVersion ∧
        ∃ planned, planFieldRegistryChange host state references author.change = .ok planned ∧
          plan =
            { scope := state.scope
              expectedRegistryVersion := state.version
              resultingRegistryVersion := state.version.val + 1
              registryGuardDigestSha256 := fieldRegistryStateDigest host state
              formPin := planned.1
              body := planned.2 } := by
  simp only [planFieldRegistryMutation, bind_eq_ok, require_eq_ok, pure_eq_ok, exists_const,
    registrySchema_iff]
  constructor
  · rintro ⟨hstate, hscope, hversion, planned, hplanned, rfl⟩
    exact ⟨hstate, hscope, hversion, planned, hplanned, by rw [hversion]⟩
  · rintro ⟨hstate, hscope, hversion, planned, hplanned, rfl⟩
    exact ⟨hstate, hscope, hversion, planned, hplanned, by rw [hversion]⟩

theorem validate_eq_ok [DecidableEq D] {plan : FieldRegistryMutationPlan D} :
    validateFieldRegistryMutationPlan host state references plan = .ok () ↔
      state.WellFormed host ∧ state.scope = plan.scope ∧
        state.version = plan.expectedRegistryVersion ∧
        validateFormPin references plan.scope plan.formPin = .ok () ∧
        ∃ author, plan.author = some author ∧
          ∃ replanned, planFieldRegistryMutation host state references author = .ok replanned ∧
            host.digest replanned = host.digest plan := by
  simp only [validateFieldRegistryMutationPlan, bind_eq_ok, require_eq_ok, orRefuse_eq_ok,
    mapError_eq_ok, registrySchema_iff]
  constructor
  · rintro ⟨-, hstate, -, hscope, -, hversion, ⟨⟩, hpin, author, hauthor, replanned, hreplanned,
      hdigest⟩
    exact ⟨hstate, hscope, hversion, hpin, author, hauthor, replanned, hreplanned, hdigest⟩
  · rintro ⟨hstate, hscope, hversion, hpin, author, hauthor, replanned, hreplanned, hdigest⟩
    exact ⟨(), hstate, (), hscope, (), hversion, (), hpin, author, hauthor, replanned, hreplanned,
      hdigest⟩

theorem validate_of_planned [DecidableEq D] {author : FieldRegistryAuthorInput}
    {plan : FieldRegistryMutationPlan D} (hfree : DerivedKeyFree host state author.change)
    (h : planFieldRegistryMutation host state references author = .ok plan) :
    validateFieldRegistryMutationPlan host state references plan = .ok () := by
  obtain ⟨hstate, -, -, planned, hplanned, rfl⟩ := planFieldRegistryMutation_eq_ok.mp h
  obtain ⟨fieldScope, hpin⟩ := formPin_of_planned hplanned
  obtain ⟨answered, hanswered, hagain⟩ := planFieldRegistryChange_again hstate hfree hplanned
  refine validate_eq_ok.mpr ⟨hstate, rfl, rfl, validateFormPin_of_formPin hpin,
    { scope := state.scope, expectedRegistryVersion := state.version, change := answered }, ?_, _,
    planFieldRegistryMutation_eq_ok.mpr ⟨hstate, rfl, rfl, planned, hagain, rfl⟩, rfl⟩
  rw [FieldRegistryMutationPlan.author, hanswered, Option.map_some]

end JooEvents
