import JooEvents.Intake.Model

/-!
# Answers

The answers of an application are checked in two steps. Each answer must have the kind of
its field and choose among the options there are now (`validateAnswerShape`). Then the rules
of the version are run in order over the answers (`evaluateEffectiveFormState`) : no hidden
field may be answered, and on submission every required one must be
(`validateEffectiveState`).

A rule reads only choices and checkboxes (`StructuralAnswer`).
-/

namespace JooEvents

open Fallible

variable {D : Type}

/-- An item of the program vocabulary as an option. -/
structure IntakeProgramVocabularyOption where
  id : ApplicationId
  label : String
  version : Version
  status : ProgramVocabularyStatus

/-- `readLiveOptions`. -/
abbrev ApplicationAnswerOptionSource :=
  IntakeScope → FieldRegistryOptionSource → List IntakeProgramVocabularyOption

def FormVocabularyExposure.exposes (exposure : FormVocabularyExposure) (id : ApplicationId) : Bool :=
  match exposure with
  | .all_active => true
  | .subset items => decide (id ∈ items.map (·.id))

def allowedVocabularyOptions (scope : IntakeScope) (options : FormVersionOptions)
    (optionSource : ApplicationAnswerOptionSource) : List IntakeProgramVocabularyOption :=
  match options with
  | .custom _ => []
  | .program_vocabulary source exposure =>
    ((optionSource scope source).filter fun option =>
      option.status = .active ∧ exposure.exposes option.id).insertionSort
        fun left right => left.id ≤ right.id

def allowedChoiceIds (scope : IntakeScope) (options : FormVersionOptions)
    (optionSource : ApplicationAnswerOptionSource) : List ApplicationId :=
  match options with
  | .custom choices => choices.map (·.id)
  | .program_vocabulary _ _ => (allowedVocabularyOptions scope options optionSource).map (·.id)

/-- What an answer says. -/
inductive AnswerContent where
  | line (kind : FormTextKind) (value : String)
  | number (value : ℚ)
  | date (value : String)
  | datetime (value : Instant)
  | select (choiceId : ApplicationId)
  | multiselect (choiceIds : List ApplicationId)
  | checkbox (checked : Bool)
  deriving DecidableEq

/-- `TransientApplicationAnswerInput` : the answer to a field. -/
structure TransientApplicationAnswer where
  fieldId : ApplicationId
  content : AnswerContent
  deriving DecidableEq

inductive ApplicationAnswerErrorCode where
  | unknown_field | answer_type_mismatch | answer_too_long | number_out_of_range
  | integer_required | unknown_choice | too_many_choices | hidden_field_answered
  | required_answer_missing | required_consent_not_affirmed | consent_not_enterable
  | invalid_payload_adoption | invalid_answer_index
  deriving DecidableEq

structure ApplicationAnswerError where
  code : ApplicationAnswerErrorCode
  fieldId : Option ApplicationId
  deriving DecidableEq

/-- The choices that an answer makes are among the allowed ones. -/
def choicesAllowed (scope : IntakeScope) (field : FormFieldDefinition) (choiceIds : List ApplicationId)
    (optionSource : ApplicationAnswerOptionSource) : Except ApplicationAnswerError Unit :=
  match field.shape.options with
  | none => .error ⟨.answer_type_mismatch, field.id⟩
  | some options =>
    require (∀ choiceId ∈ choiceIds, choiceId ∈ allowedChoiceIds scope options optionSource)
      ⟨.unknown_choice, field.id⟩

/-- An answer that rules read. -/
inductive StructuralAnswer where
  | select (choiceId : ApplicationId)
  | multiselect (choiceIds : List ApplicationId)
  | checkbox (checked : Bool)
  deriving DecidableEq

def AnswerContent.structural : AnswerContent → Option StructuralAnswer
  | .select choiceId => some (.select choiceId)
  | .multiselect choiceIds => some (.multiselect choiceIds)
  | .checkbox checked => some (.checkbox checked)
  | .line _ _ | .number _ | .date _ | .datetime _ => none

/-- `condition.kind === 'selected_any'`, given the answer to the source of the condition. -/
def selectedAny (choiceIds : List ApplicationId) : Option StructuralAnswer → Bool
  | some (.select choiceId) => decide (choiceId ∈ choiceIds)
  | some (.multiselect chosen) => decide (∃ choiceId ∈ chosen, choiceId ∈ choiceIds)
  | some (.checkbox _) | none => false

/-- Whether the condition of a rule holds on the server. A checkbox that is not answered is
neither checked nor unchecked. -/
def FormRuleCondition.matches (condition : FormRuleCondition)
    (answers : ApplicationId → Option StructuralAnswer) : Bool :=
  match condition with
  | .selected_any sourceFieldId choiceIds => selectedAny choiceIds (answers sourceFieldId)
  | .checked_is sourceFieldId value => decide (answers sourceFieldId = some (.checkbox value))

/-- `set.add(id)`, in the order of insertion. -/
def addId (ids : List ApplicationId) (id : ApplicationId) : List ApplicationId :=
  if id ∈ ids then ids else ids ++ [id]

/-- `set.delete(id)`. -/
def deleteId (ids : List ApplicationId) (id : ApplicationId) : List ApplicationId :=
  ids.filter (· ≠ id)

@[simp] theorem mem_addId {ids : List ApplicationId} {id other : ApplicationId} :
    other ∈ addId ids id ↔ other ∈ ids ∨ other = id := by
  unfold addId
  split
  · next h =>
    refine ⟨Or.inl, fun hor => hor.elim (fun hmem => hmem) ?_⟩
    rintro rfl
    exact h
  · rw [List.mem_append, List.mem_singleton]

@[simp] theorem mem_deleteId {ids : List ApplicationId} {id other : ApplicationId} :
    other ∈ deleteId ids id ↔ other ∈ ids ∧ other ≠ id := by
  rw [deleteId, List.mem_filter, decide_eq_true_eq]

/-- The fields that are shown, and those that must be answered. -/
structure EffectiveFormState where
  visible : List ApplicationId
  required : List ApplicationId

/-- What a rule that holds does to one of its targets, on the server. -/
def EffectiveFormState.affect (kind : FormRuleEffectKind) (state : EffectiveFormState)
    (targetId : ApplicationId) : EffectiveFormState :=
  match kind with
  | .show => { state with visible := addId state.visible targetId }
  | .hide =>
    { visible := deleteId state.visible targetId, required := deleteId state.required targetId }
  | .require =>
    { visible := addId state.visible targetId, required := addId state.required targetId }

def evaluateEffectiveFormState (definition : FormVersionDefinitionContent)
    (answers : ApplicationId → Option StructuralAnswer) : EffectiveFormState :=
  let initial : EffectiveFormState :=
    { visible := (definition.fields.filter (·.initiallyVisible)).map (·.id)
      required := (definition.fields.filter fun field =>
        field.initiallyVisible && field.required).map (·.id) }
  definition.rules.foldl (fun state rule =>
    if rule.condition.matches answers then
      rule.effect.targetFieldIds.foldl (EffectiveFormState.affect rule.effect.kind) state
    else state) initial

inductive ApplicationAnswerValidationMode where
  | draft | submit | direct_entry

/-- That a field was answered, and whether its checkbox is checked. -/
structure AnsweredField where
  fieldId : ApplicationId
  checked : Option Bool

/-- Refuse unless every one of the values passes a check, at the first that does not. -/
def checkEach {α : Type} (check : α → Except ApplicationAnswerError Unit) (values : List α) :
    Except ApplicationAnswerError Unit :=
  forM values check

/-- Whether a field of the version asks for consent. -/
def FormVersionDefinitionContent.isConsent (definition : FormVersionDefinitionContent)
    (fieldId : ApplicationId) : Prop :=
  ∃ field ∈ definition.field fieldId, field.purpose ≠ .ordinary

instance (definition : FormVersionDefinitionContent) (fieldId : ApplicationId) :
    Decidable (definition.isConsent fieldId) :=
  inferInstanceAs (Decidable (∃ field ∈ definition.field fieldId, field.purpose ≠ .ordinary))

/-- A required field is answered, and its consent affirmed. -/
def checkRequired (definition : FormVersionDefinitionContent) (answers : List AnsweredField)
    (fieldId : ApplicationId) : Except ApplicationAnswerError Unit := do
  let answer ← orRefuse (answers.find? fun answer => answer.fieldId = fieldId)
    ⟨.required_answer_missing, fieldId⟩
  require (definition.isConsent fieldId → answer.checked = some true)
    ⟨.required_consent_not_affirmed, fieldId⟩

def validateEffectiveState (definition : FormVersionDefinitionContent)
    (answerByField : ApplicationId → Option StructuralAnswer) (answers : List AnsweredField)
    (mode : ApplicationAnswerValidationMode) : Except ApplicationAnswerError Unit := do
  let effective := evaluateEffectiveFormState definition answerByField
  checkEach (fun answer => require (answer.fieldId ∈ effective.visible)
    ⟨.hidden_field_answered, answer.fieldId⟩) answers
  match mode with
  | .draft => return ()
  | .submit => checkEach (checkRequired definition answers) effective.required
  | .direct_entry =>
    checkEach (fun answer => require (¬ definition.isConsent answer.fieldId)
      ⟨.consent_not_enterable, answer.fieldId⟩) answers

def answerTo (answers : List TransientApplicationAnswer) (fieldId : ApplicationId) :
    Option AnswerContent :=
  (answers.find? fun answer => answer.fieldId = fieldId).map (·.content)

def structuralAnswerTo (answers : List TransientApplicationAnswer) (fieldId : ApplicationId) :
    Option StructuralAnswer :=
  (answerTo answers fieldId).bind AnswerContent.structural

def AnswerContent.checked : AnswerContent → Option Bool
  | .checkbox checked => some checked
  | .line _ _ | .number _ | .date _ | .datetime _ | .select _ | .multiselect _ => none

/-- An answer as the effective state is validated on it. -/
def TransientApplicationAnswer.answered (answer : TransientApplicationAnswer) : AnsweredField :=
  { fieldId := answer.fieldId, checked := answer.content.checked }

theorem checkEach_eq_ok {α : Type} {check : α → Except ApplicationAnswerError Unit} {u : Unit} :
    ∀ {values : List α}, checkEach check values = .ok u ↔ ∀ value ∈ values, check value = .ok ()
  | [] => by simp [checkEach, pure, Except.pure]
  | value :: values => by
    rw [checkEach, List.forM_cons, bind_eq_ok, List.forall_mem_cons, ← checkEach_eq_ok (u := u)]
    exact ⟨fun ⟨_, hvalue, hvalues⟩ => ⟨hvalue, hvalues⟩, fun h => ⟨(), h⟩⟩

theorem checkEach_eq_error {α : Type} {check : α → Except ApplicationAnswerError Unit}
    {e : ApplicationAnswerError} :
    ∀ {values : List α}, checkEach check values = .error e → ∃ value ∈ values, check value = .error e
  | [], h => absurd h pure_ne_error
  | value :: values, h => by
    rw [checkEach, List.forM_cons, bind_eq_error] at h
    rcases h with hvalue | ⟨_, -, hvalues⟩
    · exact ⟨value, List.mem_cons_self, hvalue⟩
    · obtain ⟨other, hother, hcheck⟩ := checkEach_eq_error hvalues
      exact ⟨other, List.mem_cons_of_mem _ hother, hcheck⟩

end JooEvents
