import JooEvents.Intake.AnswerInput
import JooEvents.Intake.Encoding
import JooEvents.Lib.SortedKeys

/-!
# Preparing answers

The answers of a request are parsed, those without a value are left out, and the others are
checked against the version of the form (`prepareApplicationAnswers`). What is kept as a payload
is encoded and bound to the owner of the answers; choices and checkboxes become entries of the
index. When the payloads were adopted by the store, the index is put together
(`finalizeGovernedAnswerIndex`).

`openSynchronousClassifiedPayloadAdoptionReceipt` is a parameter : it opens a receipt for a
payload and yields the reference it was stored under, or fails.
-/

namespace JooEvents

open Fallible

variable {D : Type}

/-- `INTAKE_REQUEST_MAX_CANONICAL_BYTES`. -/
def intakeRequestMaxCanonicalBytes : ℕ := 128 * 1024

def AnswerInputContent.kind {Id : Type} : AnswerInputContent Id → FormFieldType
  | .line kind _ => .line kind
  | .number _ => .number
  | .date _ => .date
  | .datetime _ => .datetime
  | .select _ => .select
  | .multiselect _ => .multiselect
  | .checkbox _ => .checkbox

def scriptString (s : String) : JsValue := .string (codeUnits s)

def scriptObject (properties : List (String × JsValue)) : JsValue :=
  .object true false (properties.map fun property => (codeUnits property.1, some property.2))

def AnswerInputContent.members : AnswerInputContent ApplicationId → List (String × JsValue)
  | .line _ value | .date value | .datetime value => [("value", scriptString value)]
  | .number value => [("value", .number value)]
  | .select choiceId => [("choiceId", scriptString choiceId.val)]
  | .multiselect choiceIds =>
    [("choiceIds", .array (choiceIds.map fun choiceId => some (scriptString choiceId.val)))]
  | .checkbox checked => [("checked", .boolean checked)]

def ApplicationAnswerInput.script (answer : ApplicationAnswerInput ApplicationId) : JsValue :=
  scriptObject (("kind", scriptString answer.content.kind.written) ::
    ("fieldId", scriptString answer.fieldId.val) :: answer.content.members)

def withinRequestLimit (host : Host D) (answers : List (ApplicationAnswerInput ApplicationId)) :
    Bool :=
  match encodeCanonicalJson host.nfc (.array (answers.map fun answer => some answer.script)) with
  | .ok bytes => decide (bytes.size ≤ intakeRequestMaxCanonicalBytes)
  | .error _ => false

def AnswerInputContent.choiceIds : AnswerInputContent ApplicationId → List ApplicationId
  | .select choiceId => [choiceId]
  | .multiselect choiceIds => choiceIds
  | .line _ _ | .number _ | .date _ | .datetime _ | .checkbox _ => []

def transientApplicationAnswersInputSchema (host : AnswerHost D)
    (answers : List (ApplicationAnswerInput String)) :
    Option (List (ApplicationAnswerInput ApplicationId)) := do
  let parsed ← answers.mapM (transientApplicationAnswerInputSchema host)
  if parsed.length ≤ formFieldsMax ∧ (parsed.map (·.fieldId)).Nodup ∧
      (∀ answer ∈ parsed, answer.content.choiceIds.Nodup) ∧
      withinRequestLimit host.toHost parsed = true then
    some parsed
  else none

def AnswerInputContent.hasValue {Id : Type} : AnswerInputContent Id → Bool
  | .line .text value | .line .textarea value => decide (0 < textLength value)
  | .multiselect choiceIds => decide (0 < choiceIds.length)
  | .line .email _ | .line .url _ | .line .phone _ | .number _ | .date _ | .datetime _ | .select _
  | .checkbox _ => true

def decimalValue (d : Decimal) : ℚ :=
  (if d.negative then -1 else 1) * d.significand * (10 : ℚ) ^ d.exponent

def JsNumber.value : JsNumber → Option ℚ
  | .finite d => some (decimalValue d)
  | .negativeZero => some 0
  | .infinity _ | .nan => none

/-- `validateAnswerShape`, of an answer as it was taken. A number that was taken is finite. -/
def validateTakenAnswerShape (scope : IntakeScope) (field : FormFieldDefinition)
    (answer : AnswerInputContent ApplicationId) (optionSource : ApplicationAnswerOptionSource) :
    Except ApplicationAnswerError Unit := do
  require (field.shape.kind = answer.kind) ⟨.answer_type_mismatch, field.id⟩
  match answer, field.shape with
  | .line kind value, _ =>
    require (textLength value ≤ kind.maximumLength) ⟨.answer_too_long, field.id⟩
  | .number value, .number minimum maximum integerOnly => do
    require (∀ q ∈ value.value, (∀ bound ∈ minimum, bound ≤ q) ∧ ∀ bound ∈ maximum, q ≤ bound)
      ⟨.number_out_of_range, field.id⟩
    require (integerOnly = true → ∀ q ∈ value.value, q.isInt = true) ⟨.integer_required, field.id⟩
  | .select choiceId, _ => choicesAllowed scope field [choiceId] optionSource
  | .multiselect choiceIds, _ => do
    require (choiceIds.length ≤ formMultiselectMaxSelections) ⟨.too_many_choices, field.id⟩
    choicesAllowed scope field choiceIds optionSource
  | _, _ => return ()

def AnswerInputContent.structural : AnswerInputContent ApplicationId → Option StructuralAnswer
  | .select choiceId => some (.select choiceId)
  | .multiselect choiceIds => some (.multiselect choiceIds)
  | .checkbox checked => some (.checkbox checked)
  | .line _ _ | .number _ | .date _ | .datetime _ => none

def takenAnswerTo (answers : List (ApplicationAnswerInput ApplicationId))
    (fieldId : ApplicationId) : Option StructuralAnswer :=
  (answers.find? fun answer => answer.fieldId = fieldId).bind (·.content.structural)

def AnswerInputContent.checked {Id : Type} : AnswerInputContent Id → Option Bool
  | .checkbox checked => some checked
  | .line _ _ | .number _ | .date _ | .datetime _ | .select _ | .multiselect _ => none

/-- An answer as the effective state is validated on it. -/
def ApplicationAnswerInput.answered (answer : ApplicationAnswerInput ApplicationId) :
    AnsweredField :=
  { fieldId := answer.fieldId, checked := answer.content.checked }

/-- The part of `prepareApplicationAnswers` that checks the answers. -/
def validateTakenAnswers (version : FormVersion D)
    (answers : List (ApplicationAnswerInput ApplicationId))
    (optionSource : ApplicationAnswerOptionSource) (mode : ApplicationAnswerValidationMode) :
    Except ApplicationAnswerError Unit := do
  checkEach (fun answer => do
    let field ← orRefuse (version.definition.field answer.fieldId) ⟨.unknown_field, answer.fieldId⟩
    validateTakenAnswerShape version.scope field answer.content optionSource) answers
  validateEffectiveState version.definition (takenAnswerTo answers)
    (answers.map (·.answered)) mode

/-! ## Payloads -/

structure ApplicationAnswerOwner (D : Type) where
  draftId : ApplicationId
  revisionId : ApplicationId
  authorityPartitionDigestSha256 : D

/-- The content type of a payload. -/
inductive PayloadContentType where
  | text_plain | application_json

/-- `PreparedApplicationAnswerPayload`. The scope binding is given by its digest. -/
structure PreparedApplicationAnswerPayload (D : Type) where
  fieldId : ApplicationId
  kind : GovernedAnswerKind
  bytes : ByteArray
  scopeBinding : D
  contentType : PayloadContentType

structure PreparedApplicationAnswers (D : Type) where
  owner : ApplicationAnswerOwner D
  formVersionId : ApplicationId
  mode : ApplicationAnswerValidationMode
  requestDigestSha256 : D
  payloads : List (PreparedApplicationAnswerPayload D)
  structuralEntries : List ApplicationAnswerIndexEntry
  answeredFieldIds : List ApplicationId

/-- Why answers are not prepared : a schema refuses them, or a check does. -/
inductive PreparationError where
  | schema
  | answer (error : ApplicationAnswerError)

instance : ToJson D (ApplicationAnswerOwner D) :=
  ⟨fun owner => .obj [("authorityPartitionDigestSha256", .digest owner.authorityPartitionDigestSha256),
    ("draftId", toJson owner.draftId), ("revisionId", toJson owner.revisionId)]⟩

def AnswerInputContent.json : AnswerInputContent ApplicationId → List (String × Json D)
  | .line _ value | .date value | .datetime value => [("value", .text value)]
  | .number value => [("value", numberOrNull value.value)]
  | .select choiceId => [("choiceId", toJson choiceId)]
  | .multiselect choiceIds => [("choiceIds", toJson choiceIds)]
  | .checkbox checked => [("checked", toJson checked)]

instance : ToJson D (ApplicationAnswerInput ApplicationId) :=
  ⟨fun answer => .obj (("fieldId", toJson answer.fieldId) ::
    ("kind", .text answer.content.kind.written) :: answer.content.json)⟩

/-- `sha256` of an object. -/
def Host.objectDigest (host : Host D) (members : List (String × Json D)) : D :=
  host.sha256 ((Json.obj members).canonicalize host.nfc)

/-- `ownerDigestSha256`. -/
def ownerDigest (host : Host D) (version : FormVersion D) (owner : ApplicationAnswerOwner D) : D :=
  host.objectDigest [("formVersionId", toJson version.id), ("owner", toJson owner),
    ("schemaVersion", toJson (1 : ℕ)), ("scope", toJson version.scope)]

def applicationAnswerPayloadScopeBinding (host : Host D) (version : FormVersion D)
    (owner : ApplicationAnswerOwner D) (fieldId : ApplicationId) (kind : GovernedAnswerKind) : D :=
  host.objectDigest [("fieldId", toJson fieldId), ("kind", .text kind.fieldType.written),
    ("ownerDigestSha256", .digest (ownerDigest host version owner))]

/-- `isGovernedTransientAnswer` : the kind of an answer that is kept as a payload. -/
def AnswerInputContent.governedKind {Id : Type} : AnswerInputContent Id → Option GovernedAnswerKind
  | .line kind _ => some (.line kind)
  | .number _ => some .number
  | .date _ => some .date
  | .datetime _ => some .datetime
  | .select _ | .multiselect _ | .checkbox _ => none

def AnswerInputContent.bytes {Id : Type} (nfc : String → String) :
    AnswerInputContent Id → Except PreparationError ByteArray
  | .number value => (encodeCanonicalJson nfc (.number value)).mapError fun _ => .schema
  | .line _ value | .date value | .datetime value => .ok value.toUTF8
  | .select _ | .multiselect _ | .checkbox _ => .ok ByteArray.empty

def preparePayload (host : Host D) (version : FormVersion D) (owner : ApplicationAnswerOwner D)
    (answer : ApplicationAnswerInput ApplicationId) (kind : GovernedAnswerKind) :
    Except PreparationError (PreparedApplicationAnswerPayload D) := do
  let bytes ← answer.content.bytes host.nfc
  return { fieldId := answer.fieldId, kind, bytes
           scopeBinding := applicationAnswerPayloadScopeBinding host version owner answer.fieldId kind
           contentType := if kind = .number then .application_json else .text_plain }

def AnswerInputContent.structuralEntry :
    AnswerInputContent ApplicationId → Option AnswerIndexContent
  | .select choiceId => some (.select choiceId)
  | .multiselect choiceIds => some (.multiselect (choiceIds.sortByKey id))
  | .checkbox checked => some (.checkbox checked)
  | .line _ _ | .number _ | .date _ | .datetime _ => none

/-- The answers that a request gives : parsed, and those with a value. -/
def takenAnswers (host : AnswerHost D) (answers : List (ApplicationAnswerInput String)) :
    Option (List (ApplicationAnswerInput ApplicationId)) :=
  (transientApplicationAnswersInputSchema host answers).map fun parsed =>
    parsed.filter (·.content.hasValue)

def prepareApplicationAnswers (host : AnswerHost D) (answers : List (ApplicationAnswerInput String))
    (version : FormVersion D) (optionSource : ApplicationAnswerOptionSource)
    (mode : ApplicationAnswerValidationMode) (owner : ApplicationAnswerOwner D) :
    Except PreparationError (PreparedApplicationAnswers D) := do
  require (formVersionSchema host.toHost version = true) .schema
  let answers ← orRefuse (takenAnswers host answers) .schema
  (validateTakenAnswers version answers optionSource mode).mapError .answer
  let payloads ← (answers.filterMap fun answer =>
    answer.content.governedKind.map fun kind => (answer, kind)).mapM fun (answer, kind) =>
      preparePayload host.toHost version owner answer kind
  return { owner, formVersionId := version.id, mode
           requestDigestSha256 := host.toHost.digest answers
           payloads := payloads.sortByKey (·.fieldId)
           structuralEntries := (answers.filterMap fun answer =>
             answer.content.structuralEntry.map fun content =>
               { fieldId := answer.fieldId, content }).sortByKey (·.fieldId)
           answeredFieldIds := (answers.map (·.fieldId)).sortByKey id }

def adoptionError (fieldId : Option ApplicationId) : PreparationError :=
  .answer ⟨.invalid_payload_adoption, fieldId⟩

section

variable {Receipt : Type}
  (openReceipt : Receipt → PreparedApplicationAnswerPayload D → Option String)

def adoptPayload (adopted : List (ApplicationId × String))
    (adoption : Receipt × PreparedApplicationAnswerPayload D) :
    Except PreparationError (List (ApplicationId × String)) := do
  let payloadRef ← orRefuse (openReceipt adoption.1 adoption.2) (adoptionError none)
  require (adoption.2.fieldId ∉ adopted.map (·.1)) (adoptionError adoption.2.fieldId)
  return adopted ++ [(adoption.2.fieldId, payloadRef)]

def payloadEntry (adopted : List (ApplicationId × String))
    (payload : PreparedApplicationAnswerPayload D) :
    Except PreparationError ApplicationAnswerIndexEntry := do
  let adoption ← orRefuse ((adopted.find? fun entry => entry.1 = payload.fieldId).map (·.2))
    (adoptionError payload.fieldId)
  require (adoption ≠ "") (adoptionError payload.fieldId)
  if h : isApplicationId adoption = true then
    return { fieldId := payload.fieldId, content := .governed payload.kind ⟨adoption, h⟩ }
  else .error .schema

/-- `finalizeGovernedAnswerIndex`, of prepared answers that were issued or not. -/
def finalizeGovernedAnswerIndex (issued : Bool) (prepared : PreparedApplicationAnswers D)
    (adoptions : List Receipt) : Except PreparationError (List ApplicationAnswerIndexEntry) := do
  require (issued = true ∧ adoptions.length = prepared.payloads.length) (adoptionError none)
  let adopted ← (adoptions.zip prepared.payloads).foldlM (adoptPayload openReceipt) []
  require (adopted.length = prepared.payloads.length) (adoptionError none)
  let governed ← prepared.payloads.mapM (payloadEntry adopted)
  let entries := (prepared.structuralEntries ++ governed).sortByKey (·.fieldId)
  require (applicationAnswerIndexSchema entries = true) (.answer ⟨.invalid_answer_index, none⟩)
  return entries

end

end JooEvents
