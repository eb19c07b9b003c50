import JooEvents.Intake.Answers

/-!
# The public form

What the server serves of a version (`projectServedPublicForm`), and how the browser reads
the served form : it runs the served rules over the answers at hand
(`publicApplicationFieldStates`), and lists the questions that still block a submission
(`publicApplicationSubmitBlockers`).
-/

namespace JooEvents

open Fallible

variable {D : Type}

structure IntakeFormReferenceSource (D : Type) where
  resolveActiveCategory : IntakeScope → ProgramVocabularyKind → ApplicationId → Option FormCategoryPin
  resolveCollectingSession : IntakeScope → ApplicationId → Option FormSessionPin
  resolveCurrentDeadline : IntakeScope → ApplicationId → Option (FormDeadlineReferencePin D)

/-- `resolveCurrentTarget`. The general pool has no pin, and a target that is not current has
no result. -/
def resolveCurrentTarget (scope : IntakeScope) (target : FormTarget)
    (references : IntakeFormReferenceSource D) : Option (Option FormTargetReferencePin) :=
  match target with
  | .general_pool => some none
  | .category kind id =>
    ((references.resolveActiveCategory scope kind id).filter fun pin =>
      pin.categoryKind = kind ∧ pin.id = id).map fun pin => some (.category pin)
  | .session sessionId =>
    ((references.resolveCollectingSession scope sessionId).filter fun pin =>
      pin.id = sessionId).map fun pin => some (.session pin)

def resolveCurrentDeadline (scope : IntakeScope) (deadlineId : ApplicationId)
    (references : IntakeFormReferenceSource D) : Option (FormDeadlineReferencePin D) :=
  (references.resolveCurrentDeadline scope deadlineId).filter fun pin => pin.id = deadlineId

/-! ## The served form -/

/-- `servedOptionSchema`. -/
structure ServedOption where
  id : ApplicationId
  label : String
  position : ℕ
  deriving DecidableEq

/-- What the kinds of served fields have each on their own. -/
inductive ServedFieldShape where
  | line (kind : FormTextKind)
  | number (minimum maximum : Option ℚ) (integerOnly : Bool)
  | date
  | datetime
  | select (options : List ServedOption)
  | multiselect (options : List ServedOption)
  | checkbox
  deriving DecidableEq

/-- `servedPublicFormFieldSchema`. -/
structure ServedPublicFormField where
  id : ApplicationId
  label : String
  help : Option String
  required : Bool
  initiallyVisible : Bool
  position : ℕ
  shape : ServedFieldShape

/-- `servedPublicFormRuleSchema`. -/
structure ServedPublicFormRule where
  id : ApplicationId
  position : ℕ
  condition : FormRuleCondition
  effect : FormRuleEffect

/-- `servedPublicFormTargetSchema`. -/
inductive ServedPublicFormTarget where
  | general_pool
  | category (kind : ProgramVocabularyKind) (id : ApplicationId) (name : String)
  | session (sessionId : ApplicationId) (title : String)

/-- `servedPublicFormAvailabilitySchema`. -/
inductive ServedPublicFormAvailability where
  | evergreen
  | closes (effectiveAt : Instant)

/-- `ServedPublicFormDto`. -/
structure ServedPublicForm where
  formId : ApplicationId
  formVersionId : ApplicationId
  formVersionNumber : Version
  name : String
  confirmation : String
  target : ServedPublicFormTarget
  availability : ServedPublicFormAvailability
  fields : List ServedPublicFormField
  rules : List ServedPublicFormRule

/-- `IntakeValidationErrorCode`, as far as serving a form goes, or the error of a schema. -/
inductive IntakeValidationError where
  | invalid_form_version | target_unavailable | deadline_unavailable | thrown

def servedOptions (scope : IntakeScope) (options : FormVersionOptions)
    (optionSource : ApplicationAnswerOptionSource) : List ServedOption :=
  match options with
  | .custom choices =>
    choices.map fun choice => { id := choice.id, label := choice.label, position := choice.position }
  | .program_vocabulary _ _ =>
    (allowedVocabularyOptions scope options optionSource).mapIdx fun position option =>
      { id := option.id, label := option.label, position }

def FormFieldShape.served (shape : FormFieldShape) (scope : IntakeScope)
    (optionSource : ApplicationAnswerOptionSource) : ServedFieldShape :=
  match shape with
  | .line kind => .line kind
  | .number minimum maximum integerOnly => .number minimum maximum integerOnly
  | .date => .date
  | .datetime => .datetime
  | .select options => .select (servedOptions scope options optionSource)
  | .multiselect options => .multiselect (servedOptions scope options optionSource)
  | .checkbox => .checkbox

def FormFieldDefinition.served (field : FormFieldDefinition) (scope : IntakeScope)
    (optionSource : ApplicationAnswerOptionSource) : ServedPublicFormField :=
  { id := field.id
    label := field.label
    help := field.help
    required := field.required
    initiallyVisible := field.initiallyVisible
    position := field.position
    shape := field.shape.served scope optionSource }

/-- A rule as it is served, without its key and its pins. -/
def FormVersionRule.served (rule : FormVersionRule) : ServedPublicFormRule :=
  { id := rule.id, position := rule.position, condition := rule.condition, effect := rule.effect }

def servedTarget : Option FormTargetReferencePin → ServedPublicFormTarget
  | some (.category pin) => .category pin.categoryKind pin.id pin.name
  | some (.session pin) => .session pin.id pin.title
  | none => .general_pool

/-- `servedPublicFormTargetSchema`, on texts. -/
def servedPublicFormTargetSchema (host : Host D) : ServedPublicFormTarget → Bool
  | .general_pool => true
  | .category kind _ name => decide (kind ≠ .room) && singleLineStored host 200 name
  | .session _ title => singleLineStored host 240 title

def ServedFieldShape.options : ServedFieldShape → List ServedOption
  | .select options | .multiselect options => options
  | .line _ | .number _ _ _ | .date | .datetime | .checkbox => []

/-- `servedPublicFormFieldSchema`, on what the type does not say. -/
def servedPublicFormFieldSchema (host : Host D) (field : ServedPublicFormField) : Bool :=
  singleLineStored host 240 field.label && field.help.all (multilineStored host 2000) &&
    decide (field.position < formFieldsMax) &&
    decide (field.shape.options.length ≤ formFieldOptionsMax) &&
    field.shape.options.all fun option =>
      singleLineStored host 240 option.label && decide (option.position < formFieldOptionsMax)

/-- `servedPublicFormRuleSchema`, on what the type does not say. -/
def servedPublicFormRuleSchema (rule : ServedPublicFormRule) : Bool :=
  (match rule.condition with
  | .selected_any _ choiceIds =>
    decide (1 ≤ choiceIds.length ∧ choiceIds.length ≤ formFieldOptionsMax) &&
      decide (choiceIds.IsChain (· < ·))
  | .checked_is _ _ => true) &&
    decide (1 ≤ rule.effect.targetFieldIds.length ∧
      rule.effect.targetFieldIds.length ≤ formFieldsMax) &&
    decide (rule.effect.targetFieldIds.IsChain (· < ·))

/-- `servedPublicFormSchema`, on what the type does not say. -/
def servedPublicFormSchema (host : Host D) (form : ServedPublicForm) : Bool :=
  singleLineStored host 120 form.name && multilineStored host 2000 form.confirmation &&
    servedPublicFormTargetSchema host form.target &&
    decide (1 ≤ form.fields.length ∧ form.fields.length ≤ formFieldsMax) &&
    decide (form.rules.length ≤ formRulesMax) &&
    form.fields.all (servedPublicFormFieldSchema host) && form.rules.all servedPublicFormRuleSchema &&
    decide (form.fields.map (·.position) = List.range form.fields.length) &&
    decide (form.rules.map (·.position) = List.range form.rules.length) &&
    decide (form.fields.map (·.id)).Nodup && decide (form.rules.map (·.id)).Nodup

/-- The availability that is served, with the time of its deadline. -/
def serveAvailability (version : FormVersion D) (references : IntakeFormReferenceSource D) :
    Except IntakeValidationError ServedPublicFormAvailability :=
  match version.definition.availability with
  | .evergreen => return .evergreen
  | .deadline deadlineId => do
    let pin ← orRefuse (resolveCurrentDeadline version.scope deadlineId references)
      .deadline_unavailable
    return .closes pin.effectiveAt

def projectServedPublicForm (host : Host D) (version : FormVersion D)
    (optionSource : ApplicationAnswerOptionSource) (references : IntakeFormReferenceSource D) :
    Except IntakeValidationError ServedPublicForm := do
  require (formVersionSchema host version = true) .invalid_form_version
  let targetPin ← orRefuse (resolveCurrentTarget version.scope version.definition.target references)
    .target_unavailable
  let availability ← serveAvailability version references
  let form : ServedPublicForm :=
    { formId := version.formId
      formVersionId := version.id
      formVersionNumber := version.number
      name := version.definition.name
      confirmation := version.definition.confirmation
      target := servedTarget targetPin
      availability
      fields := version.definition.fields.map fun field => field.served version.scope optionSource
      rules := version.definition.rules.map (·.served) }
  require (servedPublicFormSchema host form = true) .thrown
  return form

/-- `conditionHolds`. An untouched checkbox reads as unchecked. -/
def conditionHolds (condition : FormRuleCondition)
    (answers : ApplicationId → Option StructuralAnswer) : Bool :=
  match condition with
  | .selected_any sourceFieldId choiceIds => selectedAny choiceIds (answers sourceFieldId)
  | .checked_is sourceFieldId value =>
    match answers sourceFieldId with
    | some (.checkbox checked) => checked == value
    | _ => false == value

/-- What a rule that holds does to one of its targets, in the browser. -/
def EffectiveFormState.browserAffect (kind : FormRuleEffectKind) (state : EffectiveFormState)
    (targetId : ApplicationId) : EffectiveFormState :=
  match kind with
  | .show => { state with visible := addId state.visible targetId }
  | .hide => { state with visible := deleteId state.visible targetId }
  | .require => { state with required := addId state.required targetId }

/-- The sets of visible and of required fields that the browser ends with. -/
def browserFormState (form : ServedPublicForm) (answers : ApplicationId → Option StructuralAnswer) :
    EffectiveFormState :=
  let initial : EffectiveFormState :=
    { visible := (form.fields.filter (·.initiallyVisible)).map (·.id)
      required := (form.fields.filter (·.required)).map (·.id) }
  form.rules.foldl (fun state rule =>
    if conditionHolds rule.condition answers then
      rule.effect.targetFieldIds.foldl (EffectiveFormState.browserAffect rule.effect.kind) state
    else state) initial

structure PublicApplicationFieldState where
  visible : Bool
  required : Bool

/-- `publicApplicationFieldStates`, as the map from fields to their states. -/
def publicApplicationFieldStates (form : ServedPublicForm)
    (answers : List TransientApplicationAnswer) (fieldId : ApplicationId) :
    Option PublicApplicationFieldState :=
  let state := browserFormState form (structuralAnswerTo answers)
  (form.fields.find? fun field => field.id = fieldId).map fun _ =>
    { visible := decide (fieldId ∈ state.visible), required := decide (fieldId ∈ state.required) }

structure PublicApplicationSubmitBlocker where
  fieldId : ApplicationId
  message : String

/-- `PUBLIC_APPLICATION_REQUIRED_MESSAGE`. -/
def publicApplicationRequiredMessage : String := "This question needs an answer."

/-- `PUBLIC_APPLICATION_REQUIRED_CHECKBOX_MESSAGE`. -/
def publicApplicationRequiredCheckboxMessage : String :=
  "This needs to be checked before you submit."

def satisfies (shape : ServedFieldShape) (answer : Option AnswerContent) : Bool :=
  match shape with
  | .checkbox => decide (answer = some (.checkbox true))
  | .multiselect _ =>
    match answer with
    | some (.multiselect choiceIds) => decide (0 < choiceIds.length)
    | _ => false
  | .line _ | .number _ _ _ | .date | .datetime | .select _ => answer.isSome

def publicApplicationSubmitBlockers (form : ServedPublicForm)
    (answers : List TransientApplicationAnswer) : List PublicApplicationSubmitBlocker :=
  form.fields.filterMap fun field =>
    if (publicApplicationFieldStates form answers field.id).all fun state =>
        !state.visible || !state.required then none
    else if satisfies field.shape (answerTo answers field.id) then none
    else some
      { fieldId := field.id
        message := if field.shape = .checkbox then publicApplicationRequiredCheckboxMessage
          else publicApplicationRequiredMessage }

end JooEvents
