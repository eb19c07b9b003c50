import JooEvents.FieldRegistry.Model

/-!
# Forms

A published form is a version : the fields it asks for, copied from the registry, and the
rules that show, hide and require fields. The fields and the rules are in order of
position, a rule reads a choice or a checkbox of the form, and its targets are other
fields.

Values of these types are of the shape of their schema. What a schema says of texts and of
several members together is a predicate here (`formFieldDefinitionSchema`,
`formVersionDefinitionContentSchema`, `formVersionSchema`).
-/

namespace JooEvents

open Fallible

variable {D : Type}

/-- `value.replace(/\r\n?/gu, '\n')`, on characters. -/
def unixLines : List Char → List Char
  | '\r' :: '\n' :: s => '\n' :: unixLines s
  | '\r' :: s => '\n' :: unixLines s
  | c :: s => c :: unixLines s
  | [] => []

/-- The class `[ \t]`. -/
def isBlank (c : Char) : Bool := isOneOf [' ', '\t'] c

/-- `value.replace(/[ \t]+/gu, ' ')`, on characters, after a blank or not. -/
def collapseBlanks : Bool → List Char → List Char
  | _, [] => []
  | inRun, c :: s =>
    if isBlank c then
      if inRun then collapseBlanks true s else ' ' :: collapseBlanks true s
    else c :: collapseBlanks false s

def normalizedMultiline (host : Host D) (value : String) : String :=
  trimText (host.nfc (String.ofList (unixLines value.toList)))

def normalizedSingleLine (host : Host D) (value : String) : String :=
  String.ofList (collapseBlanks false (normalizedMultiline host value).toList)

/-- The class `[\u0000-\u001f\u007f]`. -/
def isControlChar (c : Char) : Bool := decide (c.val.toNat < 0x20 ∨ c.val.toNat = 0x7F)

def acceptedSingleLineInput (host : Host D) (maximum : ℕ) (value : String) : Bool :=
  !(normalizedSingleLine host value).toList.any isControlChar &&
    decide (0 < textLength (normalizedSingleLine host value) ∧
      textLength (normalizedSingleLine host value) ≤ maximum)

/-- `acceptedMultilineInput`, which takes empty text. -/
def acceptedMultilineInput (host : Host D) (maximum : ℕ) (value : String) : Bool :=
  !(normalizedMultiline host value).toList.any (fun c => isControlChar c && c != '\n') &&
    decide (textLength (normalizedMultiline host value) ≤ maximum)

/-- `singleLineStored(maximum)`. -/
def singleLineStored (host : Host D) (maximum : ℕ) (value : String) : Bool :=
  acceptedSingleLineInput host maximum value && decide (normalizedSingleLine host value = value)

/-- `multilineStored(maximum)`. -/
def multilineStored (host : Host D) (maximum : ℕ) (value : String) : Bool :=
  acceptedMultilineInput host maximum value && decide (normalizedMultiline host value = value)

/-- The scope of forms : a workspace and an event. -/
abbrev IntakeScope := ProgramVocabularyScope

/-- `FORM_FIELDS_MAX`. -/
def formFieldsMax : ℕ := 500

/-- `FORM_RULES_MAX`. -/
def formRulesMax : ℕ := 128

/-- `FORM_FIELD_OPTIONS_MAX`. -/
def formFieldOptionsMax : ℕ := 200

/-- `FORM_MULTISELECT_MAX_SELECTIONS`. -/
def formMultiselectMaxSelections : ℕ := 20

/-- The kinds of fields that are answered by a line or a page of text. -/
inductive FormTextKind where
  | text | textarea | email | url | phone
  deriving DecidableEq

def FormTextKind.maximumLength : FormTextKind → ℕ
  | .text => 500
  | .textarea => 10000
  | .email => 320
  | .url => 2048
  | .phone => 64

/-- `formFieldTypeSchema`. -/
inductive FormFieldType where
  | line (kind : FormTextKind)
  | number | date | datetime | select | multiselect | checkbox
  deriving DecidableEq

/-- `formTargetSchema` : where submissions go. -/
inductive FormTarget where
  | general_pool
  | category (kind : ProgramVocabularyKind) (id : ApplicationId)
  | session (sessionId : ApplicationId)
  deriving DecidableEq

/-- `formAvailabilitySchema`. -/
inductive FormAvailability where
  | evergreen
  | deadline (deadlineId : ApplicationId)

def FormTarget.isTarget : FormTarget → Bool
  | .category kind _ => decide (kind ≠ .room)
  | .general_pool | .session _ => true

/-- The pin of a category. -/
structure FormCategoryPin where
  categoryKind : ProgramVocabularyKind
  id : ApplicationId
  name : String
  version : Version

/-- The pin of a collecting session. -/
structure FormSessionPin where
  id : ApplicationId
  title : String
  version : Version

/-- `formTargetReferencePinSchema`. -/
inductive FormTargetReferencePin where
  | category (pin : FormCategoryPin)
  | session (pin : FormSessionPin)

/-- `deadlineReferencePinSchema`. The day is a text, and the policy is always the same. -/
structure FormDeadlineReferencePin (D : Type) where
  id : ApplicationId
  version : Version
  digestSha256 : D
  effectiveAt : Instant
  displayDate : String

/-- `formRegistryPinSchema`. -/
structure FormRegistryPin (D : Type) where
  version : Version
  digestSha256 : D

/-- `formProgramVocabularyItemPinSchema`. -/
structure FormProgramVocabularyItemPin where
  source : FieldRegistryOptionSource
  id : ApplicationId
  version : Version
  label : String
  deriving DecidableEq

/-- `formTargetReferencePinSchema`, on texts. -/
def formTargetReferencePinSchema (host : Host D) : FormTargetReferencePin → Bool
  | .category pin => decide (pin.categoryKind ≠ .room) && singleLineStored host 200 pin.name
  | .session pin => singleLineStored host 240 pin.title

/-- The items of the program vocabulary that a field offers. -/
inductive FormVocabularyExposure where
  | all_active
  | subset (items : List FormProgramVocabularyItemPin)
  deriving DecidableEq

/-- The options of a choice of a version. -/
inductive FormVersionOptions where
  | custom (choices : List FieldRegistryChoice)
  | program_vocabulary (source : FieldRegistryOptionSource) (exposure : FormVocabularyExposure)
  deriving DecidableEq

/-- What the kinds of fields have each on their own. -/
inductive FormFieldShape where
  | line (kind : FormTextKind)
  | number (minimum maximum : Option ℚ) (integerOnly : Bool)
  | date
  | datetime
  | select (options : FormVersionOptions)
  | multiselect (options : FormVersionOptions)
  | checkbox
  deriving DecidableEq

def FormFieldShape.kind : FormFieldShape → FormFieldType
  | .line kind => .line kind
  | .number _ _ _ => .number
  | .date => .date
  | .datetime => .datetime
  | .select _ => .select
  | .multiselect _ => .multiselect
  | .checkbox => .checkbox

def FormFieldShape.options : FormFieldShape → Option FormVersionOptions
  | .select options | .multiselect options => some options
  | .line _ | .number _ _ _ | .date | .datetime | .checkbox => none

/-- `formFieldDefinitionSchema`. -/
structure FormFieldDefinition where
  id : ApplicationId
  sourceFieldVersion : Version
  key : FieldRegistryStableKey
  mapsTo : Option FieldRegistryMapsTo
  purpose : FieldRegistryPurpose
  answerOwner : FieldRegistryAnswerOwner
  group : FieldRegistryGroup
  constraints : FieldRegistryConstraints
  label : String
  help : Option String
  required : Bool
  initiallyVisible : Bool
  position : ℕ
  shape : FormFieldShape

/-- The exposure of program vocabulary lists items of the source, in canonical order. -/
def vocabularyExposureSchema (host : Host D) (source : FieldRegistryOptionSource) :
    FormVocabularyExposure → Bool
  | .all_active => true
  | .subset items => decide (1 ≤ items.length ∧ items.length ≤ formFieldOptionsMax) &&
      items.all (fun item => singleLineStored host 200 item.label && decide (item.source = source)) &&
      decide ((items.map (·.id)).IsChain (· < ·))

/-- `formVersionOptionConfigurationSchema`, of a choice. -/
def formVersionOptionsSchema (host : Host D) : FormVersionOptions → Bool
  | .custom choices => decide (1 ≤ choices.length ∧ choices.length ≤ formFieldOptionsMax) &&
      choices.all (fun choice => singleLineStored host 240 choice.label) &&
      decide (choices.map (·.position) = List.range choices.length) &&
      decide (choices.map (·.id)).Nodup && decide (choices.map (·.key)).Nodup
  | .program_vocabulary source exposure => vocabularyExposureSchema host source exposure

/-- `formFieldDefinitionSchema`, on what the type does not say. -/
def formFieldDefinitionSchema (host : Host D) (field : FormFieldDefinition) : Bool :=
  singleLineStored host 240 field.label && field.help.all (multilineStored host 2000) &&
    decide (field.position < formFieldsMax) &&
    (decide (field.purpose = .ordinary) || decide (field.shape = .checkbox)) &&
    (match field.shape with
    | .number (some minimum) (some maximum) _ => decide (minimum ≤ maximum)
    | _ => true) &&
    field.shape.options.all (formVersionOptionsSchema host)

/-! ## Rules of a version -/

/-- What a rule does to its targets. -/
inductive FormRuleEffectKind where
  | «show» | «hide» | require
  deriving DecidableEq

/-- `formRuleEffectSchema`. -/
structure FormRuleEffect where
  kind : FormRuleEffectKind
  targetFieldIds : List ApplicationId

/-- `formRuleConditionSchema`. -/
inductive FormRuleCondition where
  | selected_any (sourceFieldId : ApplicationId) (choiceIds : List ApplicationId)
  | checked_is (sourceFieldId : ApplicationId) (value : Bool)

def FormRuleCondition.sourceFieldId : FormRuleCondition → ApplicationId
  | .selected_any sourceFieldId _ | .checked_is sourceFieldId _ => sourceFieldId

/-- `formVersionRuleSchema`. The pins of a condition on a choice stand beside it. -/
structure FormVersionRule where
  id : ApplicationId
  key : FieldRegistryStableKey
  position : ℕ
  condition : FormRuleCondition
  programVocabularyPins : List FormProgramVocabularyItemPin
  effect : FormRuleEffect

/-- `formVersionDefinitionContentSchema`. -/
structure FormVersionDefinitionContent where
  name : String
  target : FormTarget
  availability : FormAvailability
  confirmation : String
  fields : List FormFieldDefinition
  rules : List FormVersionRule

/-- `byId.get(fieldId)`. -/
def FormVersionDefinitionContent.field (definition : FormVersionDefinitionContent)
    (fieldId : ApplicationId) : Option FormFieldDefinition :=
  definition.fields.find? fun field => field.id = fieldId

/-- A condition reads a choice of its own options, or a checkbox. -/
def ruleConditionSchema (definition : FormVersionDefinitionContent) (rule : FormVersionRule) :
    Bool :=
  match rule.condition with
  | .selected_any sourceFieldId choiceIds =>
    decide (1 ≤ choiceIds.length ∧ choiceIds.length ≤ formFieldOptionsMax) &&
      decide (choiceIds.IsChain (· < ·)) &&
      match (definition.field sourceFieldId).bind (·.shape.options) with
      | none => false
      | some (.custom choices) =>
        choiceIds.all (fun choiceId => decide (choiceId ∈ choices.map (·.id))) &&
          decide (rule.programVocabularyPins = [])
      | some (.program_vocabulary source _) =>
        rule.programVocabularyPins.all (fun pin => decide (pin.source = source)) &&
          decide (rule.programVocabularyPins.map (·.id) = choiceIds)
  | .checked_is sourceFieldId _ =>
    decide (((definition.field sourceFieldId).map (·.shape)) = some .checkbox) &&
      decide (rule.programVocabularyPins = [])

def formVersionRuleSchema (host : Host D) (definition : FormVersionDefinitionContent)
    (rule : FormVersionRule) : Bool :=
  rule.programVocabularyPins.all (fun pin => singleLineStored host 200 pin.label) &&
    ruleConditionSchema definition rule &&
    decide (1 ≤ rule.effect.targetFieldIds.length ∧
      rule.effect.targetFieldIds.length ≤ formFieldsMax) &&
    decide (rule.effect.targetFieldIds.IsChain (· < ·)) &&
    rule.effect.targetFieldIds.all fun targetId =>
      (definition.field targetId).isSome && decide (targetId ≠ rule.condition.sourceFieldId)

/-- `formVersionDefinitionContentSchema`, on what the type does not say. -/
def formVersionDefinitionContentSchema (host : Host D)
    (definition : FormVersionDefinitionContent) : Bool :=
  singleLineStored host 120 definition.name && definition.target.isTarget &&
    multilineStored host 2000 definition.confirmation &&
    decide (1 ≤ definition.fields.length ∧ definition.fields.length ≤ formFieldsMax) &&
    decide (definition.rules.length ≤ formRulesMax) &&
    definition.fields.all (formFieldDefinitionSchema host) &&
    decide (definition.fields.map (·.position) = List.range definition.fields.length) &&
    decide (definition.rules.map (·.position) = List.range definition.rules.length) &&
    decide (definition.fields.map (·.id)).Nodup && decide (definition.fields.map (·.key)).Nodup &&
    decide (definition.rules.map (·.id)).Nodup && decide (definition.rules.map (·.key)).Nodup &&
    decide (definition.fields.filterMap (·.mapsTo)).Nodup &&
    (definition.fields.find? (fun field => field.mapsTo = some .person_email)).any (fun email =>
      decide (email.shape = .line .email ∧ email.constraints.applyVisibility = .required_visible)) &&
    definition.rules.all (formVersionRuleSchema host definition)

/-- `formVersionSchema`. -/
structure FormVersion (D : Type) where
  id : ApplicationId
  formId : ApplicationId
  scope : IntakeScope
  number : Version
  sourceDefinitionVersion : Version
  sourceDefinitionDigestSha256 : D
  registryPin : FormRegistryPin D
  definitionDigestSha256 : D
  definition : FormVersionDefinitionContent
  targetPin : Option FormTargetReferencePin
  deadlinePin : Option (FormDeadlineReferencePin D)
  publishedByUserId : ApplicationId
  publishedAt : Instant

def targetPinMatches (target : FormTarget) (targetPin : Option FormTargetReferencePin) : Bool :=
  match target, targetPin with
  | .general_pool, none => true
  | .category kind id, some (.category pin) => decide (pin.categoryKind = kind ∧ pin.id = id)
  | .session sessionId, some (.session pin) => decide (pin.id = sessionId)
  | _, _ => false

def deadlinePinMatches (availability : FormAvailability)
    (deadlinePin : Option (FormDeadlineReferencePin D)) : Bool :=
  match availability, deadlinePin with
  | .evergreen, none => true
  | .deadline deadlineId, some pin => decide (pin.id = deadlineId)
  | _, _ => false

/-- `formVersionSchema`, on what the type does not say. -/
def formVersionSchema (host : Host D) (version : FormVersion D) : Bool :=
  formVersionDefinitionContentSchema host version.definition &&
    version.targetPin.all (formTargetReferencePinSchema host) &&
    targetPinMatches version.definition.target version.targetPin &&
    deadlinePinMatches version.definition.availability version.deadlinePin

/-- The facts about fields and rules that the schema of a version establishes. -/
structure FormVersionDefinitionContent.Sound (definition : FormVersionDefinitionContent) : Prop where
  ids : (definition.fields.map (·.id)).Nodup
  consent : ∀ field ∈ definition.fields, field.purpose ≠ .ordinary → field.shape = .checkbox
  checked : ∀ rule ∈ definition.rules, ∀ sourceFieldId value,
    rule.condition = .checked_is sourceFieldId value →
      ∃ field ∈ definition.fields, field.id = sourceFieldId ∧ field.shape = .checkbox
  targets : ∀ rule ∈ definition.rules, ∀ targetId ∈ rule.effect.targetFieldIds,
    (∃ field ∈ definition.fields, field.id = targetId) ∧ targetId ≠ rule.condition.sourceFieldId

theorem FormVersionDefinitionContent.mem_of_field {definition : FormVersionDefinitionContent}
    {fieldId : ApplicationId} {field : FormFieldDefinition}
    (h : definition.field fieldId = some field) : field ∈ definition.fields ∧ field.id = fieldId :=
  Keyed.mem_of_find?_key h

theorem formVersionSchema_sound {host : Host D} {version : FormVersion D}
    (h : formVersionSchema host version = true) : version.definition.Sound := by
  simp only [formVersionSchema, formVersionDefinitionContentSchema, Bool.and_eq_true,
    decide_eq_true_eq, List.all_eq_true] at h
  obtain ⟨⟨⟨⟨⟨⟨⟨⟨⟨⟨⟨-, hfields⟩, -⟩, -⟩, hids⟩, -⟩, -⟩, -⟩, -⟩, -⟩, hrules⟩, -⟩ := h.1.1
  refine ⟨hids, fun field hfield hpurpose => ?_, fun rule hrule sourceFieldId value hcondition => ?_,
    fun rule hrule targetId htarget => ?_⟩
  · have hfield := hfields field hfield
    simp only [formFieldDefinitionSchema, Bool.and_eq_true, Bool.or_eq_true,
      decide_eq_true_eq] at hfield
    exact hfield.1.1.2.resolve_left hpurpose
  · have hrule := hrules rule hrule
    simp only [formVersionRuleSchema, Bool.and_eq_true] at hrule
    have hsource := hrule.1.1.1.2
    simp only [ruleConditionSchema, hcondition, Bool.and_eq_true, decide_eq_true_eq,
      Option.map_eq_some_iff] at hsource
    obtain ⟨⟨field, hfield, hshape⟩, -⟩ := hsource
    obtain ⟨hmem, hid⟩ := FormVersionDefinitionContent.mem_of_field hfield
    exact ⟨field, hmem, hid, hshape⟩
  · have hrule := hrules rule hrule
    simp only [formVersionRuleSchema, Bool.and_eq_true, List.all_eq_true, decide_eq_true_eq,
      Option.isSome_iff_exists] at hrule
    obtain ⟨⟨field, hfield⟩, hne⟩ := hrule.2 targetId htarget
    obtain ⟨hmem, hid⟩ := FormVersionDefinitionContent.mem_of_field hfield
    exact ⟨⟨field, hmem, hid⟩, hne⟩

end JooEvents
