import JooEvents.Intake.Answers

/-!
# The governed answer index

A stored application keeps an index of its answers : for a text, a number or a day the
reference of the payload it is kept in, and the choices and checkboxes themselves. The entries
are in the order of their fields and the choices of an entry in their own order
(`applicationAnswerIndexSchema`), and the index is validated as the answers were
(`validateGovernedAnswerIndex`).

What is chosen from the program vocabulary is pinned when an application is submitted or entered
by an organizer (`pinProgramVocabularyAnswers`). A draft is not pinned : that is no `PinMode`.
-/

namespace JooEvents

open Fallible

variable {D : Type}

/-- The kinds of answers that are kept as payloads. -/
inductive GovernedAnswerKind where
  | line (kind : FormTextKind)
  | number | date | datetime
  deriving DecidableEq

def GovernedAnswerKind.fieldType : GovernedAnswerKind → FormFieldType
  | .line kind => .line kind
  | .number => .number
  | .date => .date
  | .datetime => .datetime

/-- What an entry of the index says. -/
inductive AnswerIndexContent where
  | governed (kind : GovernedAnswerKind) (payloadRefId : ApplicationId)
  | select (choiceId : ApplicationId)
  | multiselect (choiceIds : List ApplicationId)
  | checkbox (checked : Bool)

/-- `applicationAnswerIndexEntrySchema` : the entry of a field. -/
structure ApplicationAnswerIndexEntry where
  fieldId : ApplicationId
  content : AnswerIndexContent

def AnswerIndexContent.kind : AnswerIndexContent → FormFieldType
  | .governed kind _ => kind.fieldType
  | .select _ => .select
  | .multiselect _ => .multiselect
  | .checkbox _ => .checkbox

def AnswerIndexContent.structural : AnswerIndexContent → Option StructuralAnswer
  | .governed _ _ => none
  | .select choiceId => some (.select choiceId)
  | .multiselect choiceIds => some (.multiselect choiceIds)
  | .checkbox checked => some (.checkbox checked)

def AnswerIndexContent.checked : AnswerIndexContent → Option Bool
  | .checkbox checked => some checked
  | .governed _ _ | .select _ | .multiselect _ => none

/-- The choices of an entry are in canonical order. -/
def indexChoicesSchema : AnswerIndexContent → Bool
  | .multiselect choiceIds => decide (choiceIds.length ≤ formMultiselectMaxSelections) &&
      decide (choiceIds.IsChain (· < ·))
  | .governed _ _ | .select _ | .checkbox _ => true

def applicationAnswerIndexSchema (answers : List ApplicationAnswerIndexEntry) : Bool :=
  decide (answers.length ≤ formFieldsMax) &&
    decide ((answers.map (·.fieldId)).IsChain (· < ·)) &&
    answers.all fun answer => indexChoicesSchema answer.content

def validateGovernedAnswerShape (scope : IntakeScope) (field : FormFieldDefinition)
    (answer : AnswerIndexContent) (optionSource : ApplicationAnswerOptionSource) :
    Except ApplicationAnswerError Unit := do
  require (field.shape.kind = answer.kind) ⟨.answer_type_mismatch, field.id⟩
  match answer with
  | .select choiceId => choicesAllowed scope field [choiceId] optionSource
  | .multiselect choiceIds => do
    require (choiceIds.length ≤ formMultiselectMaxSelections) ⟨.too_many_choices, field.id⟩
    choicesAllowed scope field choiceIds optionSource
  | .governed _ _ | .checkbox _ => return ()

def structuralEntryOf (answers : List ApplicationAnswerIndexEntry) (fieldId : ApplicationId) :
    Option StructuralAnswer :=
  (answers.find? fun answer => answer.fieldId = fieldId).bind (·.content.structural)

/-- An entry as the effective state is validated on it. -/
def ApplicationAnswerIndexEntry.answered (answer : ApplicationAnswerIndexEntry) : AnsweredField :=
  { fieldId := answer.fieldId, checked := answer.content.checked }

def validateGovernedAnswerIndex (version : FormVersion D)
    (answers : List ApplicationAnswerIndexEntry) (optionSource : ApplicationAnswerOptionSource)
    (mode : ApplicationAnswerValidationMode) : Except ApplicationAnswerError Unit := do
  require (applicationAnswerIndexSchema answers = true) ⟨.invalid_answer_index, none⟩
  checkEach (fun answer => do
    let field ← orRefuse (version.definition.field answer.fieldId) ⟨.unknown_field, answer.fieldId⟩
    validateGovernedAnswerShape version.scope field answer.content optionSource) answers
  validateEffectiveState version.definition (structuralEntryOf answers)
    (answers.map (·.answered)) mode

/-- `submissionProgramVocabularyAnswerPinSchema`. -/
structure SubmissionProgramVocabularyAnswerPin where
  fieldId : ApplicationId
  source : FieldRegistryOptionSource
  itemId : ApplicationId
  itemVersion : Version
  label : String

def SubmissionProgramVocabularyAnswerPin.key (pin : SubmissionProgramVocabularyAnswerPin) :
    ApplicationId × ApplicationId :=
  (pin.fieldId, pin.itemId)

def AnswerIndexContent.choiceIds : AnswerIndexContent → List ApplicationId
  | .select choiceId => [choiceId]
  | .multiselect choiceIds => choiceIds
  | .governed _ _ | .checkbox _ => []

/-- The program vocabulary that a field chooses from. -/
def FormFieldDefinition.vocabulary (field : FormFieldDefinition) :
    Option (FieldRegistryOptionSource × FormVersionOptions) :=
  match field.shape.options with
  | some (.program_vocabulary source exposure) => some (source, .program_vocabulary source exposure)
  | some (.custom _) | none => none

/-- The pin of a choice. Of options with one identity the last one is taken. -/
def pinChoice (scope : IntakeScope) (field : FormFieldDefinition)
    (source : FieldRegistryOptionSource) (options : FormVersionOptions)
    (optionSource : ApplicationAnswerOptionSource) (itemId : ApplicationId) :
    Except ApplicationAnswerError SubmissionProgramVocabularyAnswerPin := do
  let item ← orRefuse ((allowedVocabularyOptions scope options optionSource).reverse.find?
    fun option => option.id = itemId) ⟨.unknown_choice, field.id⟩
  return { fieldId := field.id, source, itemId := item.id, itemVersion := item.version
           label := item.label }

def pinAnswer (version : FormVersion D) (optionSource : ApplicationAnswerOptionSource)
    (answer : ApplicationAnswerIndexEntry) :
    Except ApplicationAnswerError (List SubmissionProgramVocabularyAnswerPin) :=
  match version.definition.field answer.fieldId with
  | none => return []
  | some field =>
    match field.vocabulary with
    | none => return []
    | some (source, options) =>
      answer.content.choiceIds.mapM (pinChoice version.scope field source options optionSource)

/-- `${pin.fieldId}:${pin.itemId}`. -/
def SubmissionProgramVocabularyAnswerPin.identity (pin : SubmissionProgramVocabularyAnswerPin) :
    String :=
  pin.fieldId.val ++ ":" ++ pin.itemId.val

/-- `Extract<ApplicationAnswerValidationMode, 'submit' | 'direct_entry'>`. -/
inductive PinMode where
  | submit | direct_entry

def PinMode.validationMode : PinMode → ApplicationAnswerValidationMode
  | .submit => .submit
  | .direct_entry => .direct_entry

/-- `input.mode ?? 'submit'`, as an index is validated in it. -/
def pinnedIn (mode : Option PinMode) : ApplicationAnswerValidationMode :=
  (mode.getD .submit).validationMode

def pinProgramVocabularyAnswers (version : FormVersion D)
    (answers : List ApplicationAnswerIndexEntry) (optionSource : ApplicationAnswerOptionSource)
    (mode : Option PinMode) :
    Except ApplicationAnswerError (List SubmissionProgramVocabularyAnswerPin) := do
  validateGovernedAnswerIndex version answers optionSource (pinnedIn mode)
  let pins ← answers.mapM (pinAnswer version optionSource)
  return pins.flatten.insertionSort fun left right =>
    codeUnits left.identity ≤ codeUnits right.identity

end JooEvents
