import JooEvents.Intake.Stale

/-!
# Versions of a form

To publish a form its composition is turned into a version : the fields it offers, copied with
their options, and its rules with pins of the program vocabulary
(`materializeFormVersionDefinition`). The version is then read by its own schema, which asks for
more than the analysis of the composition does.

`materializeFormVersionDefinition_ok_iff` says what more it is, for a composition without issues :
the texts of the registry are written as forms write them, required choices have an option, and a
rule reads a checkbox where it asks whether one is checked and is not about the field it reads.
-/

namespace JooEvents

open Fallible

variable {D : Type}

/-- `FormPlanningErrorCode`, as far as making a version goes. -/
inductive FormPublishError where
  | form_not_publishable | required_choice_has_no_options

/-- `new Map(options.map((option) => [option.id, option]))`. -/
abbrev OptionsById := KeyedMap fun option : FieldRegistryResolvedOption => option.id

def optionPin (source : FieldRegistryOptionSource) (options : List FieldRegistryResolvedOption)
    (id : ApplicationId) : Except FormPublishError FormProgramVocabularyItemPin := do
  let option ← orRefuse ((KeyedMap.ofList options : OptionsById).get id) .form_not_publishable
  return { source, id := option.id, version := option.version, label := option.label }

def vocabularyExposure (composition : FormComposition) (field : FieldRegistryFieldView)
    (source : FieldRegistryOptionSource) : Except FormPublishError FormVocabularyExposure :=
  match field.resolvedOptions, composition.exposure field.id with
  | none, _ => .error .form_not_publishable
  | some _, none => .ok .all_active
  | some options, some selected => .subset <$> selected.mapM (optionPin source options)

/-- The options of a choice, as `materializeField` copies them. -/
def materializeOptions (composition : FormComposition) (field : FieldRegistryFieldView)
    (required : Bool) : Except FormPublishError FormVersionOptions :=
  match field.options with
  | .none => .error .form_not_publishable
  | .custom choices => .ok (.custom choices)
  | .program_vocabulary source => do
    let exposure ← vocabularyExposure composition field source
    let available := (composition.exposure field.id).getD
      ((field.resolvedOptions.getD []).map (·.id))
    require (required = true → available ≠ []) .required_choice_has_no_options
    return .program_vocabulary source exposure

/-- What `materializeField` makes of the kind of a field. -/
def materializeShape (composition : FormComposition) (field : FieldRegistryFieldView)
    (required : Bool) : Except FormPublishError FormFieldShape :=
  match field.kind with
  | .file => .error .form_not_publishable
  | .text => .ok (.line .text)
  | .textarea => .ok (.line .textarea)
  | .email => .ok (.line .email)
  | .url => .ok (.line .url)
  | .phone => .ok (.line .phone)
  | .number => .ok (.number none none false)
  | .date => .ok .date
  | .datetime => .ok .datetime
  | .checkbox => .ok .checkbox
  | .select => .select <$> materializeOptions composition field required
  | .multiselect => .multiselect <$> materializeOptions composition field required

def materializeField (composition : FormComposition) (row : OrganizerFormFieldRow)
    (initiallyVisible : Bool) (position : ℕ) : Except FormPublishError FormFieldDefinition := do
  let shape ← materializeShape composition row.field row.required
  return {
    id := row.field.id
    sourceFieldVersion := row.field.version
    key := row.field.key
    mapsTo := row.field.mapsTo
    purpose := row.field.purpose
    answerOwner := row.field.answerOwner
    group := row.field.group
    constraints := row.field.constraints
    label := row.field.label
    help := row.field.help
    required := row.required
    initiallyVisible
    position
    shape }

def vocabularyRulePins (field : Option FieldRegistryFieldView) (choiceIds : List ApplicationId) :
    Except FormPublishError (List FormProgramVocabularyItemPin) :=
  match field with
  | none => .ok []
  | some field =>
    match field.options, field.resolvedOptions with
    | .program_vocabulary source, some options => choiceIds.mapM (optionPin source options)
    | _, _ => .ok []

/-- The pins of a condition : one on a checkbox has none. -/
def conditionPins (field : Option FieldRegistryFieldView) :
    FormRuleCondition → Except FormPublishError (List FormProgramVocabularyItemPin)
  | .checked_is _ _ => .ok []
  | .selected_any _ choiceIds => vocabularyRulePins field choiceIds

def materializeRule (fieldById : KeyedMap fun field : FormFieldDefinition => field.id)
    (registryById : FieldsById) (rule : FormDefinitionRule) :
    Except FormPublishError FormVersionRule := do
  let source ← orRefuse (fieldById.get rule.condition.sourceFieldId) .form_not_publishable
  let programVocabularyPins ← conditionPins (registryById.get source.id) rule.condition
  return { id := rule.id, key := rule.key, position := rule.position, condition := rule.condition
           programVocabularyPins, effect := rule.effect }

/-- The targets that a rule shows are hidden at first. -/
def showTargets (rules : List FormDefinitionRule) : List ApplicationId :=
  (rules.filter fun rule => rule.effect.kind = .show).flatMap (·.effect.targetFieldIds)

/-- `fields`, the copies of the fields that a form offers. -/
def materializeFields (definition : FormDefinitionContent) (rows : List OrganizerFormFieldRow) :
    Except FormPublishError (List FormFieldDefinition) :=
  rows.zipIdx.mapM fun (row, position) =>
    materializeField definition.composition row
      (decide (row.field.id ∉ showTargets definition.rules)) position

def materializeFormVersionDefinition (host : Host D) (head : FormDefinitionHead)
    (registry : FieldRegistrySnapshot D) :
    Except FormPublishError FormVersionDefinitionContent := do
  let definition := head.definition
  let analyzed := analyzeFormComposition head.id definition registry
  require (analyzed.issues = []) .form_not_publishable
  let fields ← materializeFields definition analyzed.fields
  let rules ← definition.rules.mapM
    (materializeRule (.ofList fields) (.ofList registry.fields))
  let content : FormVersionDefinitionContent :=
    { name := definition.name, target := definition.target
      availability := definition.availability, confirmation := definition.confirmation
      fields, rules }
  require (formVersionDefinitionContentSchema host content = true) .form_not_publishable
  return content

section

variable {host : FieldRegistryHost D} {formId : ApplicationId} {definition : FormDefinitionContent}
  {registry : FieldRegistrySnapshot D}

/-- The facts about fields and rules that the absence of issues establishes. -/
structure CurrentComposition (formId : ApplicationId) (definition : FormDefinitionContent)
    (registry : FieldRegistrySnapshot D) : Prop where
  email : ∃ field ∈ includedFields formId definition.composition registry, lockedEmail field = true
  kind : ∀ field ∈ includedFields formId definition.composition registry, field.kind ≠ .file
  exposure : ∀ field ∈ includedFields formId definition.composition registry,
    ∀ ids ∈ definition.composition.exposure field.id,
      ∃ options ∈ field.resolvedOptions, ∀ id ∈ ids, id ∈ options.map (·.id)
  named : ∀ rule ∈ definition.rules, ∀ fieldId, rule.Names fieldId →
    ∃ field ∈ includedFields formId definition.composition registry, field.id = fieldId
  choice : ∀ rule ∈ definition.rules,
    ∀ field ∈ includedFields formId definition.composition registry, ∀ choiceIds,
      rule.condition = .selected_any field.id choiceIds →
        ∀ id ∈ choiceIds, id ∈ optionIds definition.composition field

theorem CurrentComposition.of_no_issues (hsound : registry.Sound host)
    (h : (analyzeFormComposition formId definition registry).issues = []) :
    CurrentComposition formId definition registry := by
  have hnone : ∀ {issue}, ¬ StaleComposition formId definition registry issue := by
    intro issue hstale
    rw [← mem_analyzedIssues_iff hsound, h] at hstale
    exact absurd hstale List.not_mem_nil
  refine ⟨?_, fun field hfield hkind => hnone (.file_upload_disabled hfield hkind),
    fun field hfield ids hids => ?_, fun rule hrule fieldId hnamed => ?_,
    fun rule hrule field hfield choiceIds hcondition id hid => ?_⟩
  · by_contra hno
    push Not at hno
    exact hnone (.locked_email_missing fun field hfield => Bool.eq_false_iff.mpr (hno field hfield))
  · have heligible := mem_eligibleFields_of_included hfield
    obtain ⟨⟨fieldId, itemIds⟩, hget, rfl⟩ := Option.map_eq_some_iff.mp hids
    obtain ⟨hentry, rfl⟩ := KeyedMap.get_eq_some_iff.mp hget
    cases hoptions : field.resolvedOptions with
    | none => exact absurd (.option_exposure_not_vocabulary hentry heligible hoptions) hnone
    | some options =>
      refine ⟨options, rfl, fun id hid => ?_⟩
      by_contra hmissing
      exact hnone (.option_exposure_item_missing hentry heligible hoptions hid hmissing)
  · by_cases heligible : ∃ field ∈ eligibleFields formId registry, field.id = fieldId
    · obtain ⟨field, hfield, rfl⟩ := heligible
      refine ⟨field, ?_, rfl⟩
      by_contra hexcluded
      exact hnone (.rule_field_excluded hrule hnamed hfield hexcluded)
    · push Not at heligible
      exact absurd (.rule_field_missing hrule hnamed heligible) hnone
  · by_contra hmissing
    exact hnone (.rule_choice_missing hrule hcondition hfield hid hmissing)

end

/-- The label of an option is written as pins write it. -/
def PinStored (host : Host D) (options : List FieldRegistryResolvedOption) (id : ApplicationId) :
    Prop :=
  ∀ option ∈ (KeyedMap.ofList options : OptionsById).get id,
    singleLineStored host 200 option.label = true

theorem optionPin_eq_ok {source : FieldRegistryOptionSource}
    {options : List FieldRegistryResolvedOption} {id : ApplicationId}
    {pin : FormProgramVocabularyItemPin} (h : optionPin source options id = .ok pin) :
    pin.source = source ∧ pin.id = id ∧ ∀ host : Host D,
      (PinStored host options id ↔ singleLineStored host 200 pin.label = true) := by
  simp only [optionPin, bind_eq_ok, orRefuse_eq_ok, pure_eq_ok] at h
  obtain ⟨option, hget, rfl⟩ := h
  have hid : option.id = id := KeyedMap.key_of_get hget
  refine ⟨rfl, hid, fun host => ?_⟩
  simp [PinStored, hget]

theorem exists_optionPin {source : FieldRegistryOptionSource}
    {options : List FieldRegistryResolvedOption} {id : ApplicationId}
    (h : id ∈ options.map (·.id)) : ∃ pin, optionPin source options id = .ok pin := by
  obtain ⟨option, hoption, rfl⟩ := List.mem_map.mp h
  obtain ⟨found, -, -, hget⟩ := KeyedMap.exists_get_foldl_set (m := (.empty : OptionsById))
    ⟨option, hoption, rfl⟩
  refine ⟨_, bind_eq_ok.mpr ⟨found, orRefuse_eq_ok.mpr hget, rfl⟩⟩

theorem forall₂_of_optionPins {source : FieldRegistryOptionSource}
    {options : List FieldRegistryResolvedOption} {ids : List ApplicationId}
    {pins : List FormProgramVocabularyItemPin} (h : ids.mapM (optionPin source options) = .ok pins) :
    pins.map (·.id) = ids ∧ (∀ pin ∈ pins, pin.source = source) ∧ ∀ host : Host D,
      ((∀ id ∈ ids, PinStored host options id) ↔
        ∀ pin ∈ pins, singleLineStored host 200 pin.label = true) := by
  have hpins := forall₂_of_mapM_eq_ok h
  refine ⟨?_, fun pin hpin => ?_, fun host => ?_⟩
  · have hid : ∀ id pin, optionPin source options id = .ok pin → pin.id = id :=
      fun _ _ hpin => (optionPin_eq_ok (D := D) hpin).2.1
    exact (Keyed.map_eq_of_forall₂ hid hpins).trans (List.map_id' _)
  · obtain ⟨id, -, hid⟩ := Keyed.exists_left_of_forall₂ hpins hpin
    exact (optionPin_eq_ok (D := D) hid).1
  · refine Keyed.forall_mem_iff_of_forall₂ ?_ hpins
    exact fun id pin hpin => (optionPin_eq_ok hpin).2.2 host

section

variable {composition : FormComposition} {field : FieldRegistryFieldView} {required : Bool}
  {shape : FormFieldShape}

theorem options_of_materializeShape
    (h : materializeShape composition field required = .ok shape) :
    (field.kind.isChoice = false ∧ shape.options = none) ∨
      field.kind.isChoice = true ∧ ∃ options,
        materializeOptions composition field required = .ok options ∧
          shape.options = some options := by
  unfold materializeShape at h
  cases hkind : field.kind <;> rw [hkind] at h <;>
    simp only [map_eq_ok, Except.ok.injEq, reduceCtorEq] at h
  case select | multiselect =>
    obtain ⟨options, hoptions, rfl⟩ := h
    exact .inr ⟨rfl, options, hoptions, rfl⟩
  all_goals
    subst h
    exact .inl ⟨rfl, rfl⟩

theorem materializeShape_facts (h : materializeShape composition field required = .ok shape) :
    (shape = .checkbox ↔ field.kind = .checkbox) ∧ (shape = .line .email ↔ field.kind = .email) ∧
      (∀ minimum maximum integerOnly, shape ≠ .number (some minimum) (some maximum) integerOnly) := by
  unfold materializeShape at h
  cases hkind : field.kind <;> rw [hkind] at h <;>
    simp only [map_eq_ok, Except.ok.injEq, reduceCtorEq] at h
  case select | multiselect =>
    obtain ⟨options, -, rfl⟩ := h
    simp
  all_goals
    subst h
    simp

theorem exists_materializeShape_iff (hkind : field.kind ≠ .file) :
    (∃ shape, materializeShape composition field required = .ok shape) ↔
      (field.kind.isChoice = true →
        ∃ options, materializeOptions composition field required = .ok options) := by
  unfold materializeShape
  cases h : field.kind <;> simp [FieldRegistryKind.isChoice] at hkind ⊢
  case file => exact absurd h hkind

end

/-! ## Options of a version -/

/-- A required choice of the program vocabulary has something to choose. -/
def ChoosableWhenRequired (composition : FormComposition) (field : FieldRegistryFieldView)
    (required : Bool) : Prop :=
  field.resolvedOptions = some [] → composition.exposure field.id = none → required = false

/-- The labels of the options that are copied are written as versions write them. -/
structure OptionsStored (host : Host D) (composition : FormComposition)
    (field : FieldRegistryFieldView) : Prop where
  choice : ∀ choice ∈ field.options.choices, singleLineStored host 240 choice.label = true
  exposed : ∀ options ∈ field.resolvedOptions, ∀ ids ∈ composition.exposure field.id,
    ∀ id ∈ ids, PinStored host options id

section

variable {host : FieldRegistryHost D} {composition : FormComposition}
  {field : FieldRegistryFieldView} {required : Bool}

theorem options_of_choice (hview : fieldRegistryFieldViewSchema host field = true) :
    (field.kind.isChoice = true ↔ field.options ≠ .none) ∧
      optionConfigurationSchema host.toHost field.options = true ∧
        choicesDistinct host field.options.choices = true := by
  simp only [fieldRegistryFieldViewSchema, fieldDefinitionSchema, Bool.and_eq_true,
    decide_eq_true_eq] at hview
  obtain ⟨⟨hdefinition, -⟩, -⟩ := hview
  exact ⟨hdefinition.1.1.1.1.2, hdefinition.1.1.1.1.1.1.1.2, hdefinition.1.1.1.2⟩

theorem exposure_schema (hcomposition : formCompositionSchema composition = true)
    {fieldId : ApplicationId} {ids : List ApplicationId}
    (h : composition.exposure fieldId = some ids) : canonicalChoiceIdListSchema ids = true := by
  simp only [formCompositionSchema, Bool.and_eq_true, List.all_eq_true] at hcomposition
  obtain ⟨entry, hget, rfl⟩ := Option.map_eq_some_iff.mp h
  exact hcomposition.1.1.2 entry (KeyedMap.get_eq_some_iff.mp hget).1

theorem exists_materializeOptions_iff (hview : fieldRegistryFieldViewSchema host field = true)
    (hcomposition : formCompositionSchema composition = true)
    (hexposure : ∀ ids ∈ composition.exposure field.id,
      ∃ options ∈ field.resolvedOptions, ∀ id ∈ ids, id ∈ options.map (·.id)) :
    (field.kind.isChoice = true →
        ∃ options, materializeOptions composition field required = .ok options) ↔
      ChoosableWhenRequired composition field required := by
  have hresolved := (resolvedOptions_of_view hview).1
  have hchoice := (options_of_choice hview).1
  unfold ChoosableWhenRequired materializeOptions
  cases hoptions : field.options with
  | none =>
    rw [hoptions] at hresolved hchoice
    have hnone : field.resolvedOptions = none := Option.isSome_eq_false_iff.mp hresolved.symm |> Option.isNone_iff_eq_none.mp
    simp [hchoice, hnone]
  | custom choices =>
    rw [hoptions] at hresolved
    have hnone : field.resolvedOptions = none := Option.isSome_eq_false_iff.mp hresolved.symm |> Option.isNone_iff_eq_none.mp
    simp [hnone]
  | program_vocabulary source =>
    rw [hoptions] at hresolved hchoice
    obtain ⟨options, hsome⟩ := Option.isSome_iff_exists.mp hresolved.symm
    have hkind : field.kind.isChoice = true := hchoice.mpr (by simp)
    simp only [hkind, forall_const, bind_eq_ok, require_eq_ok, pure_eq_ok, hsome, vocabularyExposure,
      Option.some.injEq]
    cases hselected : composition.exposure field.id with
    | none =>
      simp only [Option.getD_none, Option.getD_some, Except.ok.injEq, exists_eq_left', forall_const]
      cases required <;> simp
    | some ids =>
      simp only [Option.getD_some, map_eq_ok, reduceCtorEq, false_implies, implies_true, iff_true]
      obtain ⟨options', hoptions', hids⟩ := hexposure ids hselected
      obtain rfl : options = options' := Option.some.inj (hsome.symm.trans hoptions')
      have hpin : ∀ id ∈ ids, ∃ pin, optionPin source options id = .ok pin :=
        fun id hid => exists_optionPin (hids id hid)
      obtain ⟨items, hitems⟩ := (exists_mapM_eq_ok_iff fun _ => Iff.rfl).mpr hpin
      have hne : ids ≠ [] := by
        have hschema := exposure_schema hcomposition hselected
        rw [canonicalChoiceIdListSchema, Bool.and_eq_true, decide_eq_true_eq] at hschema
        exact List.ne_nil_of_length_pos hschema.1.1
      exact ⟨_, _, ⟨items, hitems, rfl⟩, (), fun _ => hne, rfl⟩

theorem formVersionOptionsSchema_iff {options : FormVersionOptions}
    (hview : fieldRegistryFieldViewSchema host field = true)
    (hcomposition : formCompositionSchema composition = true)
    (h : materializeOptions composition field required = .ok options) :
    formVersionOptionsSchema host.toHost options = true ↔
      OptionsStored host.toHost composition field := by
  have hresolved := (resolvedOptions_of_view hview).1
  obtain ⟨-, hschema, hdistinct⟩ := options_of_choice hview
  unfold materializeOptions at h
  cases hoptions : field.options with
  | none =>
    rw [hoptions] at h
    cases h
  | custom choices =>
    rw [hoptions] at h hresolved hschema hdistinct
    obtain rfl := Except.ok.inj h
    have hnone : field.resolvedOptions = none :=
      Option.isSome_eq_false_iff.mp hresolved.symm |> Option.isNone_iff_eq_none.mp
    have hchoices : choicesDistinct host choices = true := hdistinct
    simp only [optionConfigurationSchema, choicesDistinct, Bool.and_eq_true,
      decide_eq_true_eq] at hschema hchoices
    obtain ⟨⟨⟨hpositions, hids⟩, hkeys⟩, -⟩ := hchoices
    simp only [formVersionOptionsSchema, Bool.and_eq_true, decide_eq_true_eq, List.all_eq_true]
    constructor
    · rintro ⟨⟨⟨⟨-, hlabels⟩, -⟩, -⟩, -⟩
      refine ⟨?_, fun options' hoptions' => ?_⟩
      · rw [hoptions]
        exact hlabels
      · rw [hnone] at hoptions'
        cases hoptions'
    · intro hstored
      have hlabels := hstored.choice
      rw [hoptions] at hlabels
      exact ⟨⟨⟨⟨hschema.1, hlabels⟩, hpositions⟩, hids⟩, hkeys⟩
  | program_vocabulary source =>
    rw [hoptions] at h hresolved
    obtain ⟨live, hsome⟩ := Option.isSome_iff_exists.mp hresolved.symm
    have hchoices : ∀ choice ∈ field.options.choices,
        singleLineStored host.toHost 240 choice.label = true := by
      rw [hoptions]
      exact fun choice hchoice => absurd hchoice List.not_mem_nil
    simp only [bind_eq_ok, require_eq_ok, pure_eq_ok, vocabularyExposure, hsome] at h
    obtain ⟨exposure, hexposure, -, -, rfl⟩ := h
    rw [formVersionOptionsSchema]
    cases hselected : composition.exposure field.id with
    | none =>
      rw [hselected] at hexposure
      obtain rfl := Except.ok.inj hexposure
      refine iff_of_true rfl ⟨hchoices, fun options' _ ids hids => ?_⟩
      rw [hselected] at hids
      cases hids
    | some ids =>
      rw [hselected] at hexposure
      simp only [map_eq_ok] at hexposure
      obtain ⟨items, hitems, rfl⟩ := hexposure
      obtain ⟨hids, hsource, hlabels⟩ := forall₂_of_optionPins (D := D) hitems
      have hlist := exposure_schema hcomposition hselected
      simp only [canonicalChoiceIdListSchema, Bool.and_eq_true, decide_eq_true_eq] at hlist
      have hlength : items.length = ids.length := by rw [← hids, List.length_map]
      simp only [vocabularyExposureSchema, hids, Bool.and_eq_true, decide_eq_true_eq,
        List.all_eq_true, hlength]
      constructor
      · rintro ⟨⟨-, hitem⟩, -⟩
        refine ⟨hchoices, fun options' hoptions' ids' hids' => ?_⟩
        obtain rfl := Option.some.inj (hsome.symm.trans hoptions')
        obtain rfl := Option.some.inj (hselected.symm.trans hids')
        exact (hlabels host.toHost).mpr fun pin hpin => (hitem pin hpin).1
      · intro hstored
        refine ⟨⟨hlist.1, fun pin hpin => ⟨?_, hsource pin hpin⟩⟩, hlist.2⟩
        exact (hlabels host.toHost).mp (hstored.exposed live hsome ids hselected) pin hpin

end

/-- A field of a version is copied from a field of the registry. -/
structure Copies (composition : FormComposition) (field : FieldRegistryFieldView)
    (copy : FormFieldDefinition) : Prop where
  id : copy.id = field.id
  key : copy.key = field.key
  mapsTo : copy.mapsTo = field.mapsTo
  purpose : copy.purpose = field.purpose
  constraints : copy.constraints = field.constraints
  label : copy.label = field.label
  help : copy.help = field.help
  shape : materializeShape composition field (organizerFormFieldRow composition field).required =
    .ok copy.shape

theorem copies_of_materializeField {composition : FormComposition} {field : FieldRegistryFieldView}
    {initiallyVisible : Bool} {position : ℕ} {copy : FormFieldDefinition}
    (h : materializeField composition (organizerFormFieldRow composition field) initiallyVisible
      position = .ok copy) : Copies composition field copy ∧ copy.position = position := by
  simp only [materializeField, bind_eq_ok, pure_eq_ok] at h
  obtain ⟨shape, hshape, rfl⟩ := h
  exact ⟨⟨rfl, rfl, rfl, rfl, rfl, rfl, rfl, hshape⟩, rfl⟩

/-- The texts that are copied of a field are written as versions write them. -/
structure TextsStored (host : Host D) (composition : FormComposition)
    (field : FieldRegistryFieldView) : Prop extends OptionsStored host composition field where
  label : singleLineStored host 240 field.label = true
  help : ∀ help ∈ field.help, multilineStored host 2000 help = true

theorem formFieldDefinitionSchema_iff {host : FieldRegistryHost D} {composition : FormComposition}
    {field : FieldRegistryFieldView} {copy : FormFieldDefinition}
    (hview : fieldRegistryFieldViewSchema host field = true)
    (hcomposition : formCompositionSchema composition = true)
    (hcopy : Copies composition field copy) (hposition : copy.position < formFieldsMax) :
    formFieldDefinitionSchema host.toHost copy = true ↔ TextsStored host.toHost composition field := by
  obtain ⟨hcheckbox, -, hnumber⟩ := materializeShape_facts hcopy.shape
  have hpurpose : copy.purpose = .ordinary ∨ copy.shape = .checkbox := by
    have hdefinition := hview
    simp only [fieldRegistryFieldViewSchema, fieldDefinitionSchema, Bool.and_eq_true,
      Bool.or_eq_true, decide_eq_true_eq] at hdefinition
    rw [hcopy.purpose, hcheckbox]
    exact hdefinition.1.1.1.1.1.1.1.2
  have hoptions : copy.shape.options.all (formVersionOptionsSchema host.toHost) = true ↔
      OptionsStored host.toHost composition field := by
    rcases options_of_materializeShape hcopy.shape with ⟨hkind, hnone⟩ | ⟨-, options, hok, hsome⟩
    · have hfield : field.options = .none := by
        by_contra hne
        rw [(options_of_choice hview).1.mpr hne] at hkind
        cases hkind
      have hresolved : field.resolvedOptions = none := by
        have hiff := (resolvedOptions_of_view hview).1
        rw [hfield] at hiff
        exact Option.isNone_iff_eq_none.mp (Option.isSome_eq_false_iff.mp hiff.symm)
      rw [hnone]
      refine iff_of_true rfl ⟨?_, fun options hsome => ?_⟩
      · rw [hfield]
        exact fun choice hchoice => absurd hchoice List.not_mem_nil
      · rw [hresolved] at hsome
        cases hsome
    · rw [hsome, Option.all_some]
      exact formVersionOptionsSchema_iff hview hcomposition hok
  simp only [formFieldDefinitionSchema, Bool.and_eq_true, Bool.or_eq_true, decide_eq_true_eq,
    hoptions, hcopy.label, hcopy.help, Option.all_eq_true]
  constructor
  · rintro ⟨⟨⟨⟨⟨hlabel, hhelp⟩, -⟩, -⟩, -⟩, hstored⟩
    exact ⟨hstored, hlabel, hhelp⟩
  · exact fun h => ⟨⟨⟨⟨⟨h.label, h.help⟩, hposition⟩, hpurpose⟩, trivial⟩, h.toOptionsStored⟩

section

variable {host : FieldRegistryHost D} {formId : ApplicationId} {definition : FormDefinitionContent}
  {registry : FieldRegistrySnapshot D} {copies : List FormFieldDefinition}

theorem copies_of_materializeFields
    (h : materializeFields definition (analyzeFormComposition formId definition registry).fields =
      .ok copies) :
    List.Forall₂ (Copies definition.composition)
        (includedFields formId definition.composition registry) copies ∧
      copies.map (·.position) = List.range copies.length := by
  have hcopies := forall₂_of_mapM_eq_ok h
  rw [analyzeFormComposition, List.zipIdx_map, List.forall₂_map_left_iff] at hcopies
  have hfacts := hcopies.imp fun p copy hcopy => copies_of_materializeField hcopy
  constructor
  · have hfields := hfacts.imp fun p copy hcopy => hcopy.1
    rw [← List.forall₂_map_left_iff (f := Prod.fst), List.zipIdx_map_fst] at hfields
    exact hfields
  · have hlength := hfacts.length_eq
    have hpositions := Keyed.map_eq_of_forall₂ (f := Prod.snd) (g := (·.position))
      (fun p copy hcopy => hcopy.2) hfacts
    rw [hpositions, List.zipIdx_map_snd, ← hlength, List.length_zipIdx, List.range_eq_range']

theorem exists_materializeFields_iff (hsound : registry.Sound host)
    (hcomposition : formCompositionSchema definition.composition = true)
    (hcurrent : CurrentComposition formId definition registry) :
    (∃ copies, materializeFields definition (analyzeFormComposition formId definition registry).fields =
      .ok copies) ↔
      ∀ field ∈ includedFields formId definition.composition registry,
        ChoosableWhenRequired definition.composition field
          (organizerFormFieldRow definition.composition field).required := by
  have hfield : ∀ field ∈ includedFields formId definition.composition registry, ∀ visible position,
      (∃ copy, materializeField definition.composition
          (organizerFormFieldRow definition.composition field) visible position = .ok copy) ↔
        ChoosableWhenRequired definition.composition field
          (organizerFormFieldRow definition.composition field).required := by
    intro field hfield visible position
    have hview := hsound.field field (List.mem_of_mem_filter (mem_eligibleFields_of_included hfield))
    rw [← exists_materializeOptions_iff hview hcomposition (hcurrent.exposure field hfield),
      ← exists_materializeShape_iff (hcurrent.kind field hfield)]
    simp only [materializeField, bind_eq_ok, pure_eq_ok]
    constructor
    · rintro ⟨-, shape, hshape, -⟩
      exact ⟨shape, hshape⟩
    · rintro ⟨shape, hshape⟩
      exact ⟨_, shape, hshape, rfl⟩
  rw [materializeFields, exists_mapM_eq_ok_iff fun _ => Iff.rfl, analyzeFormComposition]
  constructor
  · intro h field hmem
    obtain ⟨i, hi⟩ := List.getElem?_of_mem
      (List.mem_map_of_mem (f := organizerFormFieldRow definition.composition) hmem)
    exact (hfield field hmem _ _).mp (h (_, i) (List.mk_mem_zipIdx_iff_getElem?.mpr hi))
  · rintro h ⟨row, position⟩ hp
    obtain ⟨field, hmem, rfl⟩ := List.mem_map.mp (List.fst_mem_of_mem_zipIdx hp)
    exact (hfield field hmem _ _).mpr (h field hmem)

end

/-! ## Rules of a version -/

/-- The pins of the rules that read a choice are written as versions write them. -/
def ChoicesStored (host : Host D) (rule : FormDefinitionRule) (source : FieldRegistryFieldView) :
    Prop :=
  ∀ sourceFieldId choiceIds, rule.condition = .selected_any sourceFieldId choiceIds →
    ∀ options ∈ source.resolvedOptions, ∀ id ∈ choiceIds, PinStored host options id

/-- A rule that asks whether a field is checked reads a checkbox. -/
def ReadsCheckbox (rule : FormDefinitionRule) (source : FieldRegistryFieldView) : Prop :=
  ∀ sourceFieldId value, rule.condition = .checked_is sourceFieldId value → source.kind = .checkbox

section

variable {host : FieldRegistryHost D} {formId : ApplicationId} {definition : FormDefinitionContent}
  {registry : FieldRegistrySnapshot D} {copies : List FormFieldDefinition}
  {rule : FormDefinitionRule} {source : FieldRegistryFieldView} {copy : FormFieldDefinition}
  {versionRule : FormVersionRule} {content : FormVersionDefinitionContent}

theorem options_ne_none_of_choice (hview : fieldRegistryFieldViewSchema host source = true)
    {choiceIds : List ApplicationId} (hids : canonicalChoiceIdListSchema choiceIds = true)
    (hchoice : ∀ id ∈ choiceIds, id ∈ optionIds definition.composition source) :
    source.options ≠ .none := by
  intro hnone
  have hresolved := (resolvedOptions_of_view hview).1
  rw [hnone] at hresolved
  rw [canonicalChoiceIdListSchema, Bool.and_eq_true, decide_eq_true_eq] at hids
  obtain ⟨id, hid⟩ := List.exists_mem_of_length_pos hids.1.1
  have hoption := hchoice id hid
  rw [optionIds, hnone,
    Option.isNone_iff_eq_none.mp (Option.isSome_eq_false_iff.mp hresolved.symm)] at hoption
  exact absurd hoption List.not_mem_nil

theorem choiceConditionSchema_iff (hview : fieldRegistryFieldViewSchema host source = true)
    {sourceFieldId : ApplicationId} {choiceIds : List ApplicationId}
    {pins : List FormProgramVocabularyItemPin}
    (hcondition : rule.condition = .selected_any sourceFieldId choiceIds)
    (hids : canonicalChoiceIdListSchema choiceIds = true)
    (hchoice : ∀ id ∈ choiceIds, id ∈ optionIds definition.composition source)
    (hcopy : Copies definition.composition source copy)
    (hfield : content.field sourceFieldId = some copy)
    (hpins : vocabularyRulePins (some source) choiceIds = .ok pins)
    (hversion : versionRule.condition = .selected_any sourceFieldId choiceIds ∧
      versionRule.programVocabularyPins = pins) :
    ruleConditionSchema content versionRule = true ∧
      ((∀ pin ∈ pins, singleLineStored host.toHost 200 pin.label = true) ↔
        ChoicesStored host.toHost rule source) := by
  have hoptions := options_ne_none_of_choice hview hids hchoice
  have hresolved := (resolvedOptions_of_view hview).1
  have hstored : ChoicesStored host.toHost rule source ↔
      ∀ options ∈ source.resolvedOptions, ∀ id ∈ choiceIds, PinStored host.toHost options id := by
    rw [ChoicesStored, hcondition]
    exact ⟨fun h => h _ _ rfl, fun h _ _ heq => (FormRuleCondition.selected_any.inj heq).2 ▸ h⟩
  rcases options_of_materializeShape hcopy.shape with ⟨hkind, -⟩ | ⟨-, options, hok, hshape⟩
  · rw [(options_of_choice hview).1.mpr hoptions] at hkind
    cases hkind
  · rw [ruleConditionSchema, hversion.1, hversion.2, hstored]
    rw [canonicalChoiceIdListSchema, Bool.and_eq_true] at hids
    simp only [hfield, Option.bind_some, hshape, hids.1, hids.2, Bool.true_and]
    rw [materializeOptions] at hok
    rw [vocabularyRulePins] at hpins
    cases hsource : source.options with
    | none => exact absurd hsource hoptions
    | custom choices =>
      simp only [hsource] at hok hpins hresolved
      obtain rfl := Except.ok.inj hok
      obtain rfl := Except.ok.inj hpins
      have hnone : source.resolvedOptions = none :=
        Option.isNone_iff_eq_none.mp (Option.isSome_eq_false_iff.mp hresolved.symm)
      rw [optionIds, hsource] at hchoice
      have hmem : ∀ id ∈ choiceIds, id ∈ choices.map (·.id) := hchoice
      refine ⟨?_, by simp [hnone]⟩
      simp only [decide_true, Bool.and_true, List.all_eq_true, decide_eq_true_eq]
      exact hmem
    | program_vocabulary vocabulary =>
      obtain ⟨live, hsome⟩ := Option.isSome_iff_exists.mp (hresolved.symm.trans (by rw [hsource]; rfl))
      simp only [hsource, hsome, bind_eq_ok, require_eq_ok, pure_eq_ok] at hok hpins
      obtain ⟨exposure, -, -, -, rfl⟩ := hok
      obtain ⟨hpinIds, hpinSource, hlabels⟩ := forall₂_of_optionPins (D := D) hpins
      refine ⟨?_, ?_⟩
      · simp only [hpinIds, decide_true, Bool.and_true, List.all_eq_true, decide_eq_true_eq]
        exact hpinSource
      · rw [← hlabels host.toHost, hsome]
        exact ⟨fun h _ heq => Option.some.inj heq ▸ h, fun h => h live rfl⟩

theorem exists_vocabularyRulePins (hview : fieldRegistryFieldViewSchema host source = true)
    {choiceIds : List ApplicationId}
    (hchoice : ∀ id ∈ choiceIds, id ∈ optionIds definition.composition source) :
    ∃ pins, vocabularyRulePins (some source) choiceIds = .ok pins := by
  have hresolved := (resolvedOptions_of_view hview).1
  rw [vocabularyRulePins]
  cases hoptions : source.options with
  | none => exact ⟨[], rfl⟩
  | custom choices => exact ⟨[], rfl⟩
  | program_vocabulary vocabulary =>
    rw [hoptions] at hresolved
    obtain ⟨options, hsome⟩ := Option.isSome_iff_exists.mp hresolved.symm
    rw [hsome]
    refine (exists_mapM_eq_ok_iff fun _ => Iff.rfl).mpr fun id hid => exists_optionPin ?_
    have hoption := hchoice id hid
    rw [optionIds, hoptions, hsome] at hoption
    exact List.mem_of_mem_filter hoption

theorem checkedConditionSchema_iff {sourceFieldId : ApplicationId} {value : Bool}
    (hcondition : rule.condition = .checked_is sourceFieldId value)
    (hcopy : Copies definition.composition source copy)
    (hfield : content.field sourceFieldId = some copy)
    (hversion : versionRule.condition = .checked_is sourceFieldId value ∧
      versionRule.programVocabularyPins = []) :
    ruleConditionSchema content versionRule = true ↔ ReadsCheckbox rule source := by
  rw [ruleConditionSchema, hversion.1, hversion.2, ReadsCheckbox, hcondition]
  simp only [hfield, Option.map_some, Option.some.injEq, (materializeShape_facts hcopy.shape).1,
    decide_true, Bool.and_true, decide_eq_true_eq]
  exact ⟨fun h _ _ _ => h, fun h => h _ _ rfl⟩

theorem formVersionRuleSchema_iff (hview : fieldRegistryFieldViewSchema host source = true)
    (hrule : formDefinitionRuleSchema rule = true)
    (hchoice : ∀ sourceFieldId choiceIds, rule.condition = .selected_any sourceFieldId choiceIds →
      ∀ id ∈ choiceIds, id ∈ optionIds definition.composition source)
    (hcopy : Copies definition.composition source copy)
    (hfield : content.field rule.condition.sourceFieldId = some copy)
    (htargets : ∀ targetId ∈ rule.effect.targetFieldIds, (content.field targetId).isSome = true)
    {fieldById : KeyedMap fun field : FormFieldDefinition => field.id} {registryById : FieldsById}
    (hcopies : fieldById.get rule.condition.sourceFieldId = some copy)
    (hregistry : registryById.get copy.id = some source)
    (hmaterialized : materializeRule fieldById registryById rule = .ok versionRule) :
    formVersionRuleSchema host.toHost content versionRule = true ↔
      ReadsCheckbox rule source ∧ ChoicesStored host.toHost rule source ∧
        rule.condition.sourceFieldId ∉ rule.effect.targetFieldIds := by
  simp only [materializeRule, bind_eq_ok, orRefuse_eq_ok, pure_eq_ok, hcopies, Option.some.injEq,
    exists_eq_left', hregistry] at hmaterialized
  obtain ⟨pins, hpins, hversion⟩ := hmaterialized
  have hsame : versionRule.condition = rule.condition ∧ versionRule.programVocabularyPins = pins ∧
      versionRule.effect = rule.effect := by
    rw [← hversion]
    exact ⟨rfl, rfl, rfl⟩
  simp only [formDefinitionRuleSchema, Bool.and_eq_true, decide_eq_true_eq] at hrule
  obtain ⟨⟨⟨-, hcondition⟩, hlength⟩, hchain⟩ := hrule
  have hcommon : (∀ targetId ∈ rule.effect.targetFieldIds,
      (content.field targetId).isSome = true ∧ targetId ≠ rule.condition.sourceFieldId) ↔
        rule.condition.sourceFieldId ∉ rule.effect.targetFieldIds :=
    ⟨fun h hmem => (h _ hmem).2 rfl, fun h targetId hmem =>
      ⟨htargets targetId hmem, fun heq => h (heq ▸ hmem)⟩⟩
  simp only [formVersionRuleSchema, hsame.1, hsame.2.1, hsame.2.2, Bool.and_eq_true,
    List.all_eq_true, decide_eq_true_eq, hlength, hchain, and_true, hcommon]
  rw [← and_assoc]
  refine and_congr_left fun _ => ?_
  cases hkind : rule.condition with
  | checked_is sourceFieldId value =>
    rw [hkind] at hpins hfield
    obtain rfl := Except.ok.inj hpins
    have hchoices : ChoicesStored host.toHost rule source := by
      intro _ _ heq
      rw [hkind] at heq
      cases heq
    rw [and_iff_left hchoices, ← checkedConditionSchema_iff hkind hcopy hfield
      ⟨hsame.1.trans hkind, hsame.2.1⟩]
    exact and_iff_right fun _ h => absurd h List.not_mem_nil
  | selected_any sourceFieldId choiceIds =>
    rw [hkind] at hpins hcondition hfield
    have hreads : ReadsCheckbox rule source := by
      intro _ _ heq
      rw [hkind] at heq
      cases heq
    obtain ⟨hschema, hlabels⟩ := choiceConditionSchema_iff hview hkind hcondition
      (hchoice _ _ hkind) hcopy hfield hpins ⟨hsame.1.trans hkind, hsame.2.1⟩
    rw [and_iff_right hreads, ← hlabels]
    exact and_iff_left hschema

end

/-! ## The version together -/

/-- What a version asks of a composition that has no issues. -/
structure Publishable (host : Host D) (head : FormDefinitionHead)
    (registry : FieldRegistrySnapshot D) : Prop where
  texts : ∀ field ∈ includedFields head.id head.definition.composition registry,
    TextsStored host head.definition.composition field
  choosable : ∀ field ∈ includedFields head.id head.definition.composition registry,
    ChoosableWhenRequired head.definition.composition field
      ((head.definition.composition.required field.id).getD field.contexts.apply.required)
  source : ∀ rule ∈ head.definition.rules,
    ∀ source ∈ includedFields head.id head.definition.composition registry,
      source.id = rule.condition.sourceFieldId →
        ReadsCheckbox rule source ∧ ChoicesStored host rule source
  targets : ∀ rule ∈ head.definition.rules,
    rule.condition.sourceFieldId ∉ rule.effect.targetFieldIds

section

variable {host : FieldRegistryHost D} {formId : ApplicationId} {definition : FormDefinitionContent}
  {registry : FieldRegistrySnapshot D} {copies : List FormFieldDefinition}

/-- The copies of the fields that a form offers, with what the registry says of them. -/
structure CopiedFields (host : FieldRegistryHost D) (formId : ApplicationId)
    (definition : FormDefinitionContent) (registry : FieldRegistrySnapshot D)
    (copies : List FormFieldDefinition) : Prop where
  sound : registry.Sound host
  current : CurrentComposition formId definition registry
  copied : List.Forall₂ (Copies definition.composition)
    (includedFields formId definition.composition registry) copies
  positions : copies.map (·.position) = List.range copies.length

theorem includedFields_sublist :
    (includedFields formId definition.composition registry).Sublist registry.fields :=
  List.filter_sublist.trans List.filter_sublist

namespace CopiedFields

variable (h : CopiedFields host formId definition registry copies)

include h

theorem map_id :
    copies.map (·.id) = (includedFields formId definition.composition registry).map (·.id) :=
  Keyed.map_eq_of_forall₂ (fun _ _ hcopy => hcopy.id) h.copied

theorem nodup_ids : (copies.map (·.id)).Nodup := by
  rw [h.map_id]
  exact nodup_includedFields h.sound.ids

theorem nodup_keys : (copies.map (·.key)).Nodup := by
  rw [Keyed.map_eq_of_forall₂ (fun _ _ hcopy => hcopy.key) h.copied]
  exact (includedFields_sublist.map _).nodup h.sound.keys

theorem nodup_mappings : (copies.filterMap (·.mapsTo)).Nodup := by
  have hmap : copies.map (·.mapsTo) =
      (includedFields formId definition.composition registry).map (·.mapsTo) :=
    Keyed.map_eq_of_forall₂ (fun _ _ hcopy => hcopy.mapsTo) h.copied
  have hfilter : copies.filterMap (·.mapsTo) =
      (includedFields formId definition.composition registry).filterMap (·.mapsTo) := by
    have hid := congrArg (List.filterMap id) hmap
    rwa [List.filterMap_map, List.filterMap_map, Function.id_comp, Function.id_comp] at hid
  rw [hfilter]
  exact (includedFields_sublist.filterMap _).nodup h.sound.mappings

theorem length_pos_le : 1 ≤ copies.length ∧ copies.length ≤ formFieldsMax := by
  obtain ⟨email, hemail, -⟩ := h.current.email
  rw [← h.copied.length_eq]
  exact ⟨List.length_pos_of_mem hemail, includedFields_sublist.length_le.trans h.sound.length_le⟩

theorem view {field : FieldRegistryFieldView}
    (hfield : field ∈ includedFields formId definition.composition registry) :
    fieldRegistryFieldViewSchema host field = true :=
  h.sound.field field (includedFields_sublist.subset hfield)

theorem exists_copy {field : FieldRegistryFieldView}
    (hfield : field ∈ includedFields formId definition.composition registry) :
    ∃ copy ∈ copies, Copies definition.composition field copy :=
  Keyed.exists_left_of_forall₂ h.copied.flip hfield

theorem email_first :
    (copies.find? fun copy => copy.mapsTo = some .person_email).any (fun email =>
      decide (email.shape = .line .email ∧
        email.constraints.applyVisibility = .required_visible)) = true := by
  obtain ⟨locked, hlocked, hemail⟩ := h.current.email
  simp only [lockedEmail, decide_eq_true_eq] at hemail
  obtain ⟨copy, hcopy, hcopies⟩ := h.exists_copy hlocked
  cases hfind : copies.find? fun copy => copy.mapsTo = some .person_email with
  | none =>
    refine absurd (List.find?_eq_none.mp hfind copy hcopy) (not_not.mpr ?_)
    rw [hcopies.mapsTo, hemail.1]
    rfl
  | some first =>
    have hmapsTo : first.mapsTo = some .person_email := by simpa using List.find?_some hfind
    obtain ⟨field, hfield, hfirst⟩ :=
      Keyed.exists_left_of_forall₂ h.copied (List.mem_of_find?_eq_some hfind)
    have hsame : field = locked := Keyed.eq_of_filterMap_eq h.sound.mappings
      (includedFields_sublist.subset hfield) (includedFields_sublist.subset hlocked)
      (hfirst.mapsTo.symm.trans hmapsTo) hemail.1
    subst hsame
    simp only [Option.any_some, decide_eq_true_eq]
    exact ⟨(materializeShape_facts hfirst.shape).2.1.mpr hemail.2.1,
      (congrArg _ hfirst.constraints).trans hemail.2.2⟩

theorem all_fieldSchema_iff (hcomposition : formCompositionSchema definition.composition = true) :
    copies.all (formFieldDefinitionSchema host.toHost) = true ↔
      ∀ field ∈ includedFields formId definition.composition registry,
        TextsStored host.toHost definition.composition field := by
  have hposition : ∀ copy ∈ copies, copy.position < formFieldsMax := by
    intro copy hcopy
    have hmem : copy.position ∈ List.range copies.length :=
      h.positions ▸ List.mem_map_of_mem hcopy
    exact (List.mem_range.mp hmem).trans_le h.length_pos_le.2
  rw [List.all_eq_true]
  refine (Keyed.forall_mem_iff_of_forall₂ ?_ (Keyed.forall₂_mem h.copied)).symm
  rintro field copy ⟨hfield, hcopy, hcopies⟩
  exact (formFieldDefinitionSchema_iff (h.view hfield) hcomposition hcopies
    (hposition copy hcopy)).symm

end CopiedFields

end

section

variable {host : FieldRegistryHost D} {head : FormDefinitionHead}
  {registry : FieldRegistrySnapshot D} {copies : List FormFieldDefinition}

/-- The content of a version with these fields and rules. -/
def versionContent (definition : FormDefinitionContent) (copies : List FormFieldDefinition)
    (rules : List FormVersionRule) : FormVersionDefinitionContent :=
  { name := definition.name, target := definition.target, availability := definition.availability
    confirmation := definition.confirmation, fields := copies, rules }

/-- A rule of a form with its source, the copy of it, and the rule of the version. -/
structure CopiedRule (head : FormDefinitionHead) (registry : FieldRegistrySnapshot D)
    (copies : List FormFieldDefinition) (rule : FormDefinitionRule)
    (source : FieldRegistryFieldView) (copy : FormFieldDefinition) : Prop where
  offered : source ∈ includedFields head.id head.definition.composition registry
  read : source.id = rule.condition.sourceFieldId
  copied : copy ∈ copies
  copies : Copies head.definition.composition source copy

theorem exists_copiedRule
    (h : CopiedFields host head.id head.definition registry copies) {rule : FormDefinitionRule}
    (hrule : rule ∈ head.definition.rules) :
    ∃ source copy, CopiedRule head registry copies rule source copy := by
  obtain ⟨source, hsource, hid⟩ := h.current.named rule hrule _ (.inl rfl)
  obtain ⟨copy, hcopy, hcopies⟩ := h.exists_copy hsource
  exact ⟨source, copy, hsource, hid, hcopy, hcopies⟩

theorem CopiedRule.get (h : CopiedFields host head.id head.definition registry copies)
    {rule : FormDefinitionRule} {source : FieldRegistryFieldView} {copy : FormFieldDefinition}
    (hcopied : CopiedRule head registry copies rule source copy) :
    (KeyedMap.ofList copies : KeyedMap fun field : FormFieldDefinition => field.id).get
        rule.condition.sourceFieldId = some copy ∧
      (KeyedMap.ofList registry.fields : FieldsById).get copy.id = some source := by
  have hid : copy.id = rule.condition.sourceFieldId := hcopied.copies.id.trans hcopied.read
  exact ⟨(KeyedMap.get_ofList_eq_some_iff h.nodup_ids).mpr ⟨hcopied.copied, hid⟩,
    (KeyedMap.get_ofList_eq_some_iff h.sound.ids).mpr
      ⟨includedFields_sublist.subset hcopied.offered, hcopied.copies.id.symm⟩⟩

theorem CopiedRule.choice (h : CopiedFields host head.id head.definition registry copies)
    {rule : FormDefinitionRule} {source : FieldRegistryFieldView} {copy : FormFieldDefinition}
    (hrule : rule ∈ head.definition.rules)
    (hcopied : CopiedRule head registry copies rule source copy) :
    ∀ sourceFieldId choiceIds, rule.condition = .selected_any sourceFieldId choiceIds →
      ∀ id ∈ choiceIds, id ∈ optionIds head.definition.composition source := by
  intro sourceFieldId choiceIds hcondition
  have hid := hcopied.read
  rw [hcondition, FormRuleCondition.sourceFieldId] at hid
  exact h.current.choice rule hrule source hcopied.offered choiceIds (hid ▸ hcondition)

theorem exists_materializeRule (h : CopiedFields host head.id head.definition registry copies)
    {rule : FormDefinitionRule} (hrule : rule ∈ head.definition.rules) :
    ∃ versionRule, materializeRule (.ofList copies) (.ofList registry.fields) rule =
      .ok versionRule := by
  obtain ⟨source, copy, hcopied⟩ := exists_copiedRule h hrule
  obtain ⟨hget, hregistry⟩ := hcopied.get h
  have hpins : ∃ pins, conditionPins (some source) rule.condition = .ok pins := by
    have hchoice := hcopied.choice h hrule
    cases hcondition : rule.condition with
    | checked_is _ _ => exact ⟨[], rfl⟩
    | selected_any sourceFieldId choiceIds =>
      exact exists_vocabularyRulePins (h.view hcopied.offered) (hchoice _ _ hcondition)
  obtain ⟨pins, hpins⟩ := hpins
  simp only [materializeRule, bind_eq_ok, orRefuse_eq_ok, pure_eq_ok]
  exact ⟨_, copy, hget, pins, hregistry ▸ hpins, rfl⟩

theorem materializeRule_facts {fieldById : KeyedMap fun field : FormFieldDefinition => field.id}
    {registryById : FieldsById} {rule : FormDefinitionRule} {versionRule : FormVersionRule}
    (h : materializeRule fieldById registryById rule = .ok versionRule) :
    versionRule.id = rule.id ∧ versionRule.key = rule.key ∧
      versionRule.position = rule.position := by
  simp only [materializeRule, bind_eq_ok, pure_eq_ok] at h
  obtain ⟨_, -, _, -, rfl⟩ := h
  exact ⟨rfl, rfl, rfl⟩

theorem versionContentSchema_iff
    (h : CopiedFields host head.id head.definition registry copies)
    (hdefinition : formDefinitionContentSchema host.toHost head.definition = true)
    {rules : List FormVersionRule}
    (hrules : head.definition.rules.mapM
      (materializeRule (.ofList copies) (.ofList registry.fields)) = .ok rules) :
    formVersionDefinitionContentSchema host.toHost (versionContent head.definition copies rules) =
        true ↔
      (∀ field ∈ includedFields head.id head.definition.composition registry,
        TextsStored host.toHost head.definition.composition field) ∧
      ∀ rule ∈ rules, formVersionRuleSchema host.toHost
        (versionContent head.definition copies rules) rule = true := by
  have hforall := forall₂_of_mapM_eq_ok hrules
  have hids : rules.map (·.id) = head.definition.rules.map (·.id) := by
    refine Keyed.map_eq_of_forall₂ ?_ hforall
    exact fun _ _ hrule => (materializeRule_facts hrule).1
  have hkeys : rules.map (·.key) = head.definition.rules.map (·.key) := by
    refine Keyed.map_eq_of_forall₂ ?_ hforall
    exact fun _ _ hrule => (materializeRule_facts hrule).2.1
  have hpositions : rules.map (·.position) = head.definition.rules.map (·.position) := by
    refine Keyed.map_eq_of_forall₂ ?_ hforall
    exact fun _ _ hrule => (materializeRule_facts hrule).2.2
  simp only [formDefinitionContentSchema, Bool.and_eq_true, decide_eq_true_eq] at hdefinition
  obtain ⟨⟨⟨⟨⟨⟨⟨⟨hname, htarget⟩, hconfirmation⟩, hcomposition⟩, hlength⟩, -⟩, hranks⟩, hruleIds⟩,
    hruleKeys⟩ := hdefinition
  have hall := h.all_fieldSchema_iff hcomposition
  simp only [formVersionDefinitionContentSchema, versionContent, Bool.and_eq_true,
    decide_eq_true_eq, hall, List.all_eq_true (p := formVersionRuleSchema _ _), hname, htarget,
    hconfirmation, h.length_pos_le, h.positions, h.nodup_ids, h.nodup_keys, h.nodup_mappings,
    h.email_first, hids, hkeys, hpositions, hruleIds, hruleKeys, hranks, hforall.length_eq.symm,
    hlength, true_and, and_true]

end

section

variable {host : FieldRegistryHost D} {head : FormDefinitionHead}
  {registry : FieldRegistrySnapshot D} {copies : List FormFieldDefinition}
  {rules : List FormVersionRule}

theorem field_versionContent (h : CopiedFields host head.id head.definition registry copies)
    {fieldId : ApplicationId} {copy : FormFieldDefinition} (hcopy : copy ∈ copies)
    (hid : copy.id = fieldId) :
    (versionContent head.definition copies rules).field fieldId = some copy :=
  (Keyed.find?_key_eq_some_iff h.nodup_ids).mpr ⟨hcopy, hid⟩

theorem all_ruleSchema_iff (h : CopiedFields host head.id head.definition registry copies)
    (hdefinition : formDefinitionContentSchema host.toHost head.definition = true)
    (hrules : head.definition.rules.mapM
      (materializeRule (.ofList copies) (.ofList registry.fields)) = .ok rules) :
    (∀ rule ∈ rules, formVersionRuleSchema host.toHost
        (versionContent head.definition copies rules) rule = true) ↔
      ∀ rule ∈ head.definition.rules,
        (∀ source ∈ includedFields head.id head.definition.composition registry,
          source.id = rule.condition.sourceFieldId →
            ReadsCheckbox rule source ∧ ChoicesStored host.toHost rule source) ∧
          rule.condition.sourceFieldId ∉ rule.effect.targetFieldIds := by
  have hschema : ∀ rule ∈ head.definition.rules, formDefinitionRuleSchema rule = true := by
    simp only [formDefinitionContentSchema, Bool.and_eq_true, List.all_eq_true] at hdefinition
    exact hdefinition.1.1.1.2
  refine (Keyed.forall_mem_iff_of_forall₂ ?_
    (Keyed.forall₂_mem (forall₂_of_mapM_eq_ok hrules))).symm
  rintro rule versionRule ⟨hrule, -, hmaterialized⟩
  obtain ⟨source, copy, hcopied⟩ := exists_copiedRule h hrule
  obtain ⟨hget, hregistry⟩ := hcopied.get h
  have hfield : (versionContent head.definition copies rules).field rule.condition.sourceFieldId =
      some copy := field_versionContent h hcopied.copied (hcopied.copies.id.trans hcopied.read)
  have htargets : ∀ targetId ∈ rule.effect.targetFieldIds,
      ((versionContent head.definition copies rules).field targetId).isSome = true := by
    intro targetId htarget
    obtain ⟨target, hmem, hid⟩ := h.current.named rule hrule targetId (.inr htarget)
    obtain ⟨targetCopy, htargetCopy, hcopies⟩ := h.exists_copy hmem
    rw [field_versionContent h htargetCopy (hcopies.id.trans hid)]
    rfl
  rw [formVersionRuleSchema_iff (h.view hcopied.offered) (hschema rule hrule)
    (hcopied.choice h hrule) hcopied.copies hfield htargets hget hregistry hmaterialized, ← and_assoc]
  refine and_congr_left fun _ => ⟨fun hsource => hsource source hcopied.offered hcopied.read,
    fun hsource other hother hread => ?_⟩
  have hsame : other = source := Keyed.eq_of_key_eq (nodup_includedFields h.sound.ids) hother
    hcopied.offered (hread.trans hcopied.read.symm)
  exact hsame ▸ hsource

end

/-- A form without issues can be made a version exactly when its texts, its required choices, the
sources of its rules and their targets are as a version asks. -/
theorem materializeFormVersionDefinition_ok_iff {host : FieldRegistryHost D}
    {state : FieldRegistryState} {optionSource : FieldRegistryLiveOptionSource}
    {registry : FieldRegistrySnapshot D} {head : FormDefinitionHead}
    (hregistry : projectFieldRegistrySnapshot host state optionSource = .ok registry)
    (hdefinition : formDefinitionContentSchema host.toHost head.definition = true)
    (hissues : (analyzeFormComposition head.id head.definition registry).issues = []) :
    (∃ content, materializeFormVersionDefinition host.toHost head registry = .ok content) ↔
      Publishable host.toHost head registry := by
  have hsound := FieldRegistrySnapshot.sound (fieldRegistrySnapshotSchema_of_project hregistry)
  have hcurrent := CurrentComposition.of_no_issues hsound hissues
  have hcomposition : formCompositionSchema head.definition.composition = true := by
    simp only [formDefinitionContentSchema, Bool.and_eq_true] at hdefinition
    exact hdefinition.1.1.1.1.1.2
  simp only [materializeFormVersionDefinition, bind_eq_ok, require_eq_ok, pure_eq_ok]
  constructor
  · rintro ⟨_, _, -, copies, hcopies, rules, hrules, _, hschema, -⟩
    obtain ⟨hcopied, hpositions⟩ := copies_of_materializeFields hcopies
    have h : CopiedFields host head.id head.definition registry copies :=
      ⟨hsound, hcurrent, hcopied, hpositions⟩
    obtain ⟨htexts, hall⟩ := (versionContentSchema_iff h hdefinition hrules).mp hschema
    rw [all_ruleSchema_iff h hdefinition hrules] at hall
    exact ⟨htexts, (exists_materializeFields_iff hsound hcomposition hcurrent).mp ⟨copies, hcopies⟩,
      fun rule hrule => (hall rule hrule).1, fun rule hrule => (hall rule hrule).2⟩
  · intro hpublishable
    obtain ⟨copies, hcopies⟩ :=
      (exists_materializeFields_iff hsound hcomposition hcurrent).mpr hpublishable.choosable
    obtain ⟨hcopied, hpositions⟩ := copies_of_materializeFields hcopies
    have h : CopiedFields host head.id head.definition registry copies :=
      ⟨hsound, hcurrent, hcopied, hpositions⟩
    obtain ⟨rules, hrules⟩ := (exists_mapM_eq_ok_iff fun _ => Iff.rfl).mpr
      fun rule hrule => exists_materializeRule h hrule
    have hall := (all_ruleSchema_iff h hdefinition hrules).mpr fun rule hrule =>
      ⟨hpublishable.source rule hrule, hpublishable.targets rule hrule⟩
    exact ⟨_, (), hissues, copies, hcopies, rules, hrules, (),
      (versionContentSchema_iff h hdefinition hrules).mpr ⟨hpublishable.texts, hall⟩, rfl⟩

namespace FormPublishExample

open FieldRegistryExample FormExample

def title : FieldRegistryFieldDefinition :=
  { email with
    id := .ofNat 2
    key := ⟨"talk.title", by decide⟩
    kind := .text
    label := "Title"
    answerOwner := .talk
    mapsTo := some .talk_title
    group := .talk
    position := 2
    constraints := { removal := .allowed, applyVisibility := .editable } }

def travel : FieldRegistryFieldDefinition :=
  { email with
    id := .ofNat 9
    key := ⟨"travel", by decide⟩
    kind := .checkbox
    label := "I travel by train"
    mapsTo := none
    group := .logistics
    position := 3
    contexts := ⟨⟨true, false⟩, ⟨false, false⟩, ⟨false, false⟩⟩
    constraints := { removal := .allowed, applyVisibility := .editable } }

def state : FieldRegistryState :=
  { scope
    version := .one
    fields := [email, track, title, travel]
    removed := [] }

/-- The tracks there are. -/
def tracks : FieldRegistryLiveOptionSource := fun _ _ =>
  [{ id := .ofNat 20, label := "Frontend", version := .one, status := .active },
   { id := .ofNat 21, label := "Backend", version := .one, status := .active }]

/-- A rule that asks whether the title is checked. -/
def checkedTitle : FormDefinitionRule := rule 0 (.checked_is title.id true) .require [email.id]

/-- Rules that ask for the track and whether the box is checked. -/
def rules : List FormDefinitionRule :=
  [rule 0 (.selected_any track.id [.ofNat 20]) .require [title.id, travel.id],
   rule 1 (.checked_is travel.id true) .hide [title.id]]

/-- Whether a form has no issues, and the size of the version it is made, if it is. -/
def published (rules : List FormDefinitionRule) : Except FieldRegistryProjectionError
    (FieldRegistrySnapshot SymbolicDigest × Bool × Option (ℕ × ℕ)) := do
  let registry ← projectFieldRegistrySnapshot plainHost state tracks
  return (registry,
    decide ((analyzeFormComposition (.ofNat 5) (head rules).definition registry).issues = []),
    (materializeFormVersionDefinition plainHost.toHost (head rules) registry).toOption.map
      fun content => (content.fields.length, content.rules.length))

theorem exists_of_published {rules : List FormDefinitionRule} {made : Option (ℕ × ℕ)}
    (h : (published rules).map (fun result => result.2) = .ok (true, made)) :
    ∃ registry, projectFieldRegistrySnapshot plainHost state tracks = .ok registry ∧
      (analyzeFormComposition (.ofNat 5) (head rules).definition registry).issues = [] ∧
      (materializeFormVersionDefinition plainHost.toHost (head rules) registry).toOption.map
        (fun content => (content.fields.length, content.rules.length)) = made := by
  obtain ⟨_, hpublished, hresult⟩ := map_eq_ok.mp h
  simp only [published, bind_eq_ok, pure_eq_ok] at hpublished
  obtain ⟨registry, hregistry, rfl⟩ := hpublished
  obtain ⟨hissues, hmade⟩ := Prod.mk.inj hresult
  exact ⟨registry, hregistry, of_decide_eq_true hissues, hmade⟩

end FormPublishExample

open FieldRegistryExample FormExample FormPublishExample in
/-- A form that asks whether a line of text is checked has no issue and is not made a version. -/
theorem unpublishable_checked_title :
    ∃ registry, projectFieldRegistrySnapshot plainHost state tracks = .ok registry ∧
      formDefinitionContentSchema plainHost.toHost (head [checkedTitle]).definition = true ∧
      (analyzeFormComposition (.ofNat 5) (head [checkedTitle]).definition registry).issues = [] ∧
      ∀ content, materializeFormVersionDefinition plainHost.toHost (head [checkedTitle]) registry ≠
        .ok content := by
  obtain ⟨registry, hregistry, hissues, hmade⟩ := exists_of_published
    (show (published [checkedTitle]).map _ = .ok (true, none) by decide +kernel)
  refine ⟨registry, hregistry, by decide +kernel, hissues, fun content h => ?_⟩
  rw [h] at hmade
  cases hmade

open FieldRegistryExample FormExample FormPublishExample in
/-- A form whose rules ask for a choice and for a checkbox is as a version asks, and is made one. -/
theorem publishable_choice_and_checkbox :
    ∃ registry content, projectFieldRegistrySnapshot plainHost state tracks = .ok registry ∧
      materializeFormVersionDefinition plainHost.toHost (head rules) registry = .ok content ∧
      content.fields.length = 4 ∧ content.rules.length = 2 ∧
      Publishable plainHost.toHost (head rules) registry := by
  obtain ⟨registry, hregistry, hissues, hmade⟩ := exists_of_published
    (show (published rules).map _ = .ok (true, some (4, 2)) by decide +kernel)
  obtain ⟨content, hcontent, hsize⟩ := Option.map_eq_some_iff.mp hmade
  obtain ⟨hfields, hrules⟩ := Prod.mk.inj hsize
  have hmaterialized := toOption_eq_some.mp hcontent
  exact ⟨registry, content, hregistry, hmaterialized, hfields, hrules,
    (materializeFormVersionDefinition_ok_iff hregistry (by decide +kernel) hissues).mp
      ⟨content, hmaterialized⟩⟩

end JooEvents
