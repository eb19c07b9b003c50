import JooEvents.FieldRegistry.Snapshot
import JooEvents.Intake.Definition
import JooEvents.Intake.PublicForm

/-!
# Composition of a form

`analyzeFormComposition` joins what an organizer edited of a form with the registry as it is
now : the fields that the form offers, with their options, and the issues, which are the places
where the composition and the rules are at odds with the registry. Issues are listed once each,
in the order of a text of theirs (`issueIdentity`).
-/

namespace JooEvents

variable {D : Type}

/-- `formConfigurationIssueCodeSchema`. -/
inductive FormConfigurationIssueCode where
  | unknown_excluded_field | scoped_field_excluded | locked_email_excluded | locked_email_missing
  | unknown_required_override | required_override_for_excluded_field
  | unknown_option_exposure_field | option_exposure_not_vocabulary | option_exposure_item_missing
  | rule_field_missing | rule_field_excluded | rule_choice_missing | rule_visibility_conflict
  | target_unavailable | deadline_unavailable | file_upload_disabled
  deriving DecidableEq

instance : AsciiText FormConfigurationIssueCode where
  text
    | .unknown_excluded_field => "unknown_excluded_field"
    | .scoped_field_excluded => "scoped_field_excluded"
    | .locked_email_excluded => "locked_email_excluded"
    | .locked_email_missing => "locked_email_missing"
    | .unknown_required_override => "unknown_required_override"
    | .required_override_for_excluded_field => "required_override_for_excluded_field"
    | .unknown_option_exposure_field => "unknown_option_exposure_field"
    | .option_exposure_not_vocabulary => "option_exposure_not_vocabulary"
    | .option_exposure_item_missing => "option_exposure_item_missing"
    | .rule_field_missing => "rule_field_missing"
    | .rule_field_excluded => "rule_field_excluded"
    | .rule_choice_missing => "rule_choice_missing"
    | .rule_visibility_conflict => "rule_visibility_conflict"
    | .target_unavailable => "target_unavailable"
    | .deadline_unavailable => "deadline_unavailable"
    | .file_upload_disabled => "file_upload_disabled"
  ascii := AsciiText.ascii_of_values [.unknown_excluded_field, .scoped_field_excluded,
    .locked_email_excluded, .locked_email_missing, .unknown_required_override,
    .required_override_for_excluded_field, .unknown_option_exposure_field,
    .option_exposure_not_vocabulary, .option_exposure_item_missing, .rule_field_missing,
    .rule_field_excluded, .rule_choice_missing, .rule_visibility_conflict, .target_unavailable,
    .deadline_unavailable, .file_upload_disabled]
  injective := AsciiText.injective_of_values [.unknown_excluded_field, .scoped_field_excluded,
    .locked_email_excluded, .locked_email_missing, .unknown_required_override,
    .required_override_for_excluded_field, .unknown_option_exposure_field,
    .option_exposure_not_vocabulary, .option_exposure_item_missing, .rule_field_missing,
    .rule_field_excluded, .rule_choice_missing, .rule_visibility_conflict, .target_unavailable,
    .deadline_unavailable, .file_upload_disabled]

/-- `formConfigurationIssueSchema`. -/
structure FormConfigurationIssue where
  code : FormConfigurationIssueCode
  fieldId : Option ApplicationId
  ruleId : Option ApplicationId
  deriving DecidableEq

def issueIdentity (issue : FormConfigurationIssue) : String :=
  AsciiText.text issue.code ++ ":" ++ issue.fieldId.elim "" (·.val) ++ ":" ++
    issue.ruleId.elim "" (·.val)

/-! ## The analysis -/

/-- `organizerFormOptionSchema`. -/
structure OrganizerFormOption where
  id : ApplicationId
  name : String
  version : Version
  exposed : Bool

/-- `organizerFormFieldRowSchema`. -/
structure OrganizerFormFieldRow where
  field : FieldRegistryFieldView
  included : Bool
  required : Bool
  requiredOverridden : Bool
  options : Option (List OrganizerFormOption)
  exposureAll : Bool

/-- What a form has under the identity of a field. -/
def FormComposition.required (composition : FormComposition) (fieldId : ApplicationId) :
    Option Bool :=
  (composition.requiredOverrides.get fieldId).map (·.2)

/-- What a form exposes of the options of a field. -/
def FormComposition.exposure (composition : FormComposition) (fieldId : ApplicationId) :
    Option (List ApplicationId) :=
  (composition.optionExposure.get fieldId).map (·.2)

/-- A form can offer the shared fields that applicants see, and those of its own. -/
def eligibleField (formId : ApplicationId) (field : FieldRegistryFieldView) : Bool :=
  match field.scope with
  | .shared => field.contexts.apply.visible
  | .form fieldFormId => decide (fieldFormId = formId)

/-- A form offers the shared fields that it does not leave out. -/
def includedField (composition : FormComposition) (field : FieldRegistryFieldView) : Bool :=
  decide (field.scope ≠ .shared) || decide (field.id ∉ composition.excludedFieldIds)

/-- `eligible`. -/
def eligibleFields (formId : ApplicationId) (registry : FieldRegistrySnapshot D) :
    List FieldRegistryFieldView :=
  registry.fields.filter (eligibleField formId)

/-- `included`. -/
def includedFields (formId : ApplicationId) (composition : FormComposition)
    (registry : FieldRegistrySnapshot D) : List FieldRegistryFieldView :=
  (eligibleFields formId registry).filter (includedField composition)

/-- `new Map(fields.map((field) => [field.id, field]))`. -/
abbrev FieldsById := KeyedMap fun field : FieldRegistryFieldView => field.id

/-- The issue about a field that is left out, if any. -/
def excludedFieldIssue (byId : FieldsById) (fieldId : ApplicationId) :
    Option FormConfigurationIssue :=
  match byId.get fieldId with
  | none => some ⟨.unknown_excluded_field, some fieldId, none⟩
  | some field =>
    if field.scope ≠ .shared then some ⟨.scoped_field_excluded, some fieldId, none⟩
    else if field.mapsTo = some .person_email ∨
        field.constraints.applyVisibility = .required_visible then
      some ⟨.locked_email_excluded, some fieldId, none⟩
    else none

def lockedEmail (field : FieldRegistryFieldView) : Bool :=
  decide (field.mapsTo = some .person_email ∧ field.kind = .email ∧
    field.constraints.applyVisibility = .required_visible)

/-- The issue about a field that is required or not against the registry, if any. -/
def requiredOverrideIssue (byId includedById : FieldsById) (fieldId : ApplicationId) :
    Option FormConfigurationIssue :=
  if byId.get fieldId = none then some ⟨.unknown_required_override, some fieldId, none⟩
  else if includedById.get fieldId = none then
    some ⟨.required_override_for_excluded_field, some fieldId, none⟩
  else none

/-- The issue about the options that are exposed of a field, if any. -/
def optionExposureIssue (byId : FieldsById) (fieldId : ApplicationId)
    (itemIds : List ApplicationId) : Option FormConfigurationIssue :=
  match byId.get fieldId with
  | none => some ⟨.unknown_option_exposure_field, some fieldId, none⟩
  | some field =>
    match field.options.isVocabulary, field.resolvedOptions with
    | true, some options =>
      if ∃ id ∈ itemIds, id ∉ options.map (·.id) then
        some ⟨.option_exposure_item_missing, some fieldId, none⟩
      else none
    | _, _ => some ⟨.option_exposure_not_vocabulary, some fieldId, none⟩

def organizerFormFieldRow (composition : FormComposition) (field : FieldRegistryFieldView) :
    OrganizerFormFieldRow :=
  let override := composition.required field.id
  let exposure := composition.exposure field.id
  { field
    included := true
    required := override.getD field.contexts.apply.required
    requiredOverridden := override.isSome
    options := field.resolvedOptions.map fun options => options.map fun option =>
      { id := option.id, name := option.label, version := option.version
        exposed := exposure.all fun ids => decide (option.id ∈ ids) }
    exposureAll := !field.options.isVocabulary || exposure.isNone }

/-- The options of a field that rules can ask for : `optionIds`. -/
def optionIds (composition : FormComposition) (field : FieldRegistryFieldView) :
    List ApplicationId :=
  match field.options with
  | .custom choices => choices.map (·.id)
  | .none | .program_vocabulary _ =>
    ((field.resolvedOptions.getD []).map (·.id)).filter fun id =>
      (composition.exposure field.id).all fun ids => decide (id ∈ ids)

def FormDefinitionRule.Names (rule : FormDefinitionRule) (fieldId : ApplicationId) : Prop :=
  fieldId = rule.condition.sourceFieldId ∨ fieldId ∈ rule.effect.targetFieldIds

/-- The issue about a field that a rule names, if any. -/
def ruleFieldIssue (byId includedById : FieldsById) (ruleId fieldId : ApplicationId) :
    Option FormConfigurationIssue :=
  if includedById.get fieldId = none then
    some ⟨if byId.get fieldId = none then .rule_field_missing else .rule_field_excluded,
      some fieldId, some ruleId⟩
  else none

/-- The issue about the choices of a condition, if any. -/
def ruleChoiceIssue (composition : FormComposition) (includedById : FieldsById)
    (rule : FormDefinitionRule) : Option FormConfigurationIssue :=
  match includedById.get rule.condition.sourceFieldId, rule.condition with
  | some source, .selected_any _ choiceIds =>
    if ∃ id ∈ choiceIds, id ∉ optionIds composition source then
      some ⟨.rule_choice_missing, some source.id, some rule.id⟩
    else none
  | _, _ => none

def ruleIssues (composition : FormComposition) (byId includedById : FieldsById)
    (rule : FormDefinitionRule) : List FormConfigurationIssue :=
  (ruleFieldIssue byId includedById rule.id rule.condition.sourceFieldId).toList ++
    (ruleChoiceIssue composition includedById rule).toList ++
      rule.effect.targetFieldIds.filterMap (ruleFieldIssue byId includedById rule.id)

/-- The effects on each target, in order of their first occurrence. -/
abbrev RuleEffects := KeyedMap (Prod.fst : ApplicationId × List FormRuleEffectKind → ApplicationId)

def RuleEffects.kinds (effects : RuleEffects) (targetId : ApplicationId) : List FormRuleEffectKind :=
  (effects.get targetId).elim [] (·.2)

def RuleEffects.add (kind : FormRuleEffectKind) (effects : RuleEffects) (targetId : ApplicationId) :
    RuleEffects :=
  effects.set (targetId, (effects.kinds targetId).insert kind)

/-- `effects`, from those of the rules before. -/
def ruleEffects (effects : RuleEffects) (rules : List FormDefinitionRule) : RuleEffects :=
  rules.foldl (fun effects rule =>
    rule.effect.targetFieldIds.foldl (RuleEffects.add rule.effect.kind) effects) effects

/-- The issue about a target that is shown and hidden, if any. -/
def visibilityConflictIssue (entry : ApplicationId × List FormRuleEffectKind) :
    Option FormConfigurationIssue :=
  if .show ∈ entry.2 ∧ .hide ∈ entry.2 then
    some ⟨.rule_visibility_conflict, some entry.1, none⟩
  else none

structure AnalyzedFormComposition where
  fields : List OrganizerFormFieldRow
  issues : List FormConfigurationIssue

/-- The issues in the order in which they are found. -/
def collectIssues (definition : FormDefinitionContent)
    (eligible included : List FieldRegistryFieldView) : List FormConfigurationIssue :=
  let composition := definition.composition
  let byId : FieldsById := .ofList eligible
  let includedById : FieldsById := .ofList included
  composition.excludedFieldIds.filterMap (excludedFieldIssue byId) ++
    (if included.any lockedEmail then [] else [⟨.locked_email_missing, none, none⟩]) ++
    composition.requiredOverrides.values.filterMap (fun entry =>
      requiredOverrideIssue byId includedById entry.1) ++
    composition.optionExposure.values.filterMap (fun entry =>
      optionExposureIssue byId entry.1 entry.2) ++
    (included.filter fun field => field.kind = .file).map (fun field =>
      ⟨.file_upload_disabled, some field.id, none⟩) ++
    definition.rules.flatMap (ruleIssues composition byId includedById) ++
    (ruleEffects .empty definition.rules).values.filterMap visibilityConflictIssue

/-- `sort` by identity. -/
def sortIssues (issues : List FormConfigurationIssue) : List FormConfigurationIssue :=
  issues.sortByKey fun issue => codeUnits (issueIdentity issue)

def analyzeFormComposition (formId : ApplicationId) (definition : FormDefinitionContent)
    (registry : FieldRegistrySnapshot D) : AnalyzedFormComposition :=
  let eligible := eligibleFields formId registry
  let included := includedFields formId definition.composition registry
  { fields := included.map (organizerFormFieldRow definition.composition)
    issues := sortIssues
      (KeyedMap.ofList (collectIssues definition eligible included) : KeyedMap issueIdentity).values }

def currentReferenceIssues (head : FormDefinitionHead)
    (references : IntakeFormReferenceSource D) : List FormConfigurationIssue :=
  (if head.definition.target ≠ .general_pool ∧
      (resolveCurrentTarget head.scope head.definition.target references).join = none then
    [⟨.target_unavailable, none, none⟩] else []) ++
  (match head.definition.availability with
  | .evergreen => []
  | .deadline deadlineId =>
    if resolveCurrentDeadline head.scope deadlineId references = none then
      [⟨.deadline_unavailable, none, none⟩] else [])

/-- What is listed of a head : the issues of its composition and of its references. -/
def organizerFormIssues (head : FormDefinitionHead) (registry : FieldRegistrySnapshot D)
    (references : IntakeFormReferenceSource D) : List FormConfigurationIssue :=
  sortIssues ((analyzeFormComposition head.id head.definition registry).issues ++
    currentReferenceIssues head references)

/-! ## An example -/

namespace FormExample

def scope : FieldRegistryScope := { workspaceId := .ofNat 3, eventId := .ofNat 4 }

theorem isFieldKey_email :
    isDottedIdentifier "person.email" = true ∧ textLength "person.email" ≤ 160 := by
  decide

def email : FieldRegistryFieldDefinition :=
  { id := .ofNat 1
    key := ⟨"person.email", isFieldKey_email⟩
    version := .one
    kind := .email
    label := "Email"
    help := none
    answerOwner := .person
    mapsTo := some .person_email
    purpose := .ordinary
    scope := .shared
    group := .contact
    position := 0
    contexts := ⟨⟨true, true⟩, ⟨false, false⟩, ⟨false, false⟩⟩
    options := .none
    constraints := { removal := .forbidden, applyVisibility := .required_visible }
    fileUpload := .not_applicable }

theorem isFieldKey_track :
    isDottedIdentifier "talk.track" = true ∧ textLength "talk.track" ≤ 160 := by
  decide

/-- A choice among the tracks of the program. -/
def track : FieldRegistryFieldDefinition :=
  { email with
    id := .ofNat 8
    key := ⟨"talk.track", isFieldKey_track⟩
    kind := .select
    label := "Track"
    answerOwner := .talk
    mapsTo := some .talk_track
    group := .talk
    position := 1
    options := .program_vocabulary .tracks
    constraints := { removal := .allowed, applyVisibility := .editable } }

theorem isFieldKey_rule : isDottedIdentifier "rule" = true ∧ textLength "rule" ≤ 160 := by decide

theorem isFieldKey_other : isDottedIdentifier "other" = true ∧ textLength "other" ≤ 160 := by decide

def rule (position : ℕ) (condition : FormRuleCondition) (kind : FormRuleEffectKind)
    (targetFieldIds : List ApplicationId) : FormDefinitionRule :=
  { id := .ofNat (10 + position)
    key := if position = 0 then ⟨"rule", isFieldKey_rule⟩ else ⟨"other", isFieldKey_other⟩
    position
    condition
    effect := { kind, targetFieldIds } }

/-- A form with the rules `rules`, never published. -/
def head (rules : List FormDefinitionRule) : FormDefinitionHead :=
  { id := .ofNat 5
    scope
    version := .one
    status := .draft
    currentPublishedVersionId := none
    definition :=
      { name := "Call for papers"
        target := .general_pool
        availability := .evergreen
        confirmation := ""
        composition :=
          { excludedFieldIds := [], requiredOverrides := .empty, optionExposure := .empty }
        rules }
    createdByUserId := .ofNat 6
    createdAt := .yearStart 2026
    updatedByUserId := .ofNat 6
    updatedAt := .yearStart 2026 }

end FormExample

end JooEvents
