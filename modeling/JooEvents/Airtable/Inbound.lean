import JooEvents.Lib.Process
import JooEvents.Airtable.Comparison

/-!
# Inbound edits

An Airtable record that was re-read and compared is settled by
`applyControlledAirtableInbound` : conflicts and protected edits are reported, a destroyed
record goes to review, and the few fields that Airtable may edit are handed to named
operations. What the ports answer, or that they reject, is up to them.

A settled record is final, so what its fields were about has to be `Handled` by then. It
is, unless a field conflicts : then the record is settled at once, before a deletion is
reviewed and before any other field is looked at (`airtable_inbound_handled_iff`).
-/

namespace JooEvents

open Fallible

variable {D : Type}

/-- `AirtableInboundSubject['kind']`. -/
inductive AirtableSubjectKind where
  | task_assignment
  | engagement
  deriving DecidableEq

structure AirtableInboundSubject where
  kind : AirtableSubjectKind
  id : String
  expectedVersion : ℕ

/-- How Airtable says a record changed. -/
inductive AirtableChangeKind where
  | created
  | updated
  | destroyed
  deriving DecidableEq

/-- Who edited the record. -/
structure AirtableProviderActor where
  id : Option String
  email : Option String
  displayName : Option String

structure AirtableShadowSettleClaim where
  settleId : String
  connectionId : String
  mappingRevision : ℕ
  providerTableId : String
  providerRecordId : String
  transactionNumber : ℕ
  settleRevision : Option ℕ
  changeKind : AirtableChangeKind
  providerActor : Option AirtableProviderActor
  observedAtMs : Option ℚ
  workerId : String
  leaseVersion : ℕ

/-- What an observation that an operation carries is of. -/
inductive InboundObservationKind where
  | applied
  | request

/-- An observation in `airtableControlledInboundFeatureContextSchema`. -/
structure InboundFeatureObservation where
  connectionId : String
  recordLinkId : String
  fieldKey : String
  kind : InboundObservationKind
  classification : DataClassification
  before : Json Empty
  after : Json Empty
  providerActorId : Option String
  providerActorEmail : Option String
  providerActorDisplayName : Option String
  observedAtMs : ℚ

structure AirtableControlledInboundFeatureContext where
  observations : List InboundFeatureObservation

/-- `z.string().min(minimum).max(maximum)`. -/
def acceptsText (minimum maximum : ℕ) (value : String) : Bool :=
  decide (minimum ≤ textLength value ∧ textLength value ≤ maximum)

def InboundFeatureObservation.accepted (observation : InboundFeatureObservation) : Bool :=
  acceptsText 1 160 observation.connectionId && acceptsText 1 160 observation.recordLinkId &&
    acceptsText 1 160 observation.fieldKey &&
    decide (observation.classification ≠ .classified) &&
    observation.providerActorId.all (acceptsText 1 160) &&
    observation.providerActorEmail.all (acceptsText 3 320) &&
    observation.providerActorDisplayName.all (acceptsText 1 320) &&
    decide (observation.observedAtMs.isInt = true ∧ 0 ≤ observation.observedAtMs ∧
      observation.observedAtMs ≤ 9007199254740991)

inductive AirtableInboundOperationResult where
  | applied (operationReceiptId : Option String) (boundaryRecorded : Option Bool)
  | already_current (operationReceiptId : Option String)
  | retry (code : String) (retryAfterMs : ℚ)
  | refused (code : String)

/-- The status a task assignment is set to. -/
inductive TaskAssignmentStatus where
  | complete
  | «open»

/-- The methods of `AirtableControlledOperationPort`, with their inputs. -/
inductive AirtableOperationCall where
  | setTaskAssignmentStatus (assignmentId : String) (expectedVersion : ℕ)
      (status : TaskAssignmentStatus) (idempotencyKey : String)
      (featureContext : AirtableControlledInboundFeatureContext)
  | setEngagementCancellationRequest (engagementId : String) (expectedVersion : ℕ)
      (requested : Bool) (note : Option String) (idempotencyKey : String)
      (featureContext : AirtableControlledInboundFeatureContext)
  | requestRecordDeletionReview (subject : AirtableInboundSubject) (idempotencyKey : String)

/-- The kind of a boundary observation. -/
inductive BoundaryObservationKind where
  | applied
  | request
  | refused_restored

/-- Why a record is restored. -/
inductive RestoreReason where
  | protected_edit
  | invalid_value
  | record_deleted

/-- The methods of `AirtableInboundBoundaryPort`, with their inputs. -/
inductive AirtableBoundaryCall where
  | conflict (claim : AirtableShadowSettleClaim) (recordLinkId fieldKey : String)
      (base «local» remote : Json Empty) (classification : DataClassification)
  | observation (claim : AirtableShadowSettleClaim) (recordLinkId fieldKey : String)
      (kind : BoundaryObservationKind) (before after : Json Empty)
      (operationReceiptId : Option String) (classification : DataClassification)
  | restoreCanonical (claim : AirtableShadowSettleClaim) (recordLinkId : String)
      (reason : RestoreReason)

/-- A call to one of the two ports. -/
inductive AirtablePortCall where
  | operation (call : AirtableOperationCall)
  | boundary (call : AirtableBoundaryCall)

def AirtablePortCall.Answer : AirtablePortCall → Type
  | .operation _ => Option AirtableInboundOperationResult
  | .boundary _ => Option Unit

/-- What makes an inbound settle throw. -/
inductive InboundError where
  | port_rejected
  | feature_context_invalid

abbrev Inbound (α : Type) : Type := Process AirtablePortCall AirtablePortCall.Answer InboundError α

abbrev InboundEvent : Type := Process.Event AirtablePortCall AirtablePortCall.Answer

/-- `await input.operations.…`. -/
def operate (call : AirtableOperationCall) : Inbound AirtableInboundOperationResult :=
  .call (.operation call) fun
    | some result => .done result
    | none => .fail .port_rejected

/-- `await input.boundary.…`. -/
def atBoundary (call : AirtableBoundaryCall) : Inbound Unit :=
  .call (.boundary call) fun
    | some result => .done result
    | none => .fail .port_rejected

/-! ## Settling a record -/

/-- Why a record is not settled. -/
inductive InboundFailure where
  | retry (code : String) (retryAfterMs : ℚ)
  | attention (code : String)

inductive ControlledInboundResult where
  | settled (applied requests conflicts : ℕ)
  | unsettled (failure : InboundFailure)

def textValue (host : Host D) : Json Empty → Option String
  | .text s => some (trimText (host.nfc s))
  | _ => none

def operationFailure : AirtableInboundOperationResult → Option InboundFailure
  | .retry code retryAfterMs => some (.retry code retryAfterMs)
  | .refused code => some (.attention code)
  | _ => none

def receiptId : AirtableInboundOperationResult → Option String
  | .applied operationReceiptId _ => operationReceiptId
  | .already_current operationReceiptId => operationReceiptId
  | _ => none

/-- `result.kind === 'applied'`. -/
def AirtableInboundOperationResult.isApplied : AirtableInboundOperationResult → Bool
  | .applied _ _ => true
  | _ => false

/-- `result.kind === 'applied' && result.boundaryRecorded`. -/
def AirtableInboundOperationResult.recorded : AirtableInboundOperationResult → Bool
  | .applied _ boundaryRecorded => boundaryRecorded.getD false
  | _ => false

def presentText (value : Option String) : Option String :=
  value.filter fun s => s != ""

/-- What an inbound settle is given beside its ports. -/
structure AirtableInboundInput where
  claim : AirtableShadowSettleClaim
  recordLinkId : String
  subject : AirtableInboundSubject
  evaluation : AirtableShadowEvaluation

/-- `AIRTABLE_INBOUND_OPERATION_KEYS.taskAssignmentStatus`. -/
def taskAssignmentStatusKey : String := "task.assignment-status@1"

/-- `AIRTABLE_REQUEST_CONTRACT_KEYS.engagementCancellation`. -/
def engagementCancellationKey : String := "engagement.cancellation-request@1"

namespace AirtableInboundInput

variable (input : AirtableInboundInput)

def stableKey : String :=
  String.intercalate ":" [input.claim.connectionId, toString input.claim.mappingRevision,
    input.claim.providerTableId, input.claim.providerRecordId,
    toString input.claim.transactionNumber, toString (input.claim.settleRevision.getD 1)]

/-- The observation of a field in a feature context. -/
def featureObservation (kind : InboundObservationKind) (field : AirtableShadowFieldFinding) :
    InboundFeatureObservation where
  connectionId := input.claim.connectionId
  recordLinkId := input.recordLinkId
  fieldKey := field.fieldKey
  kind := kind
  classification := field.dataClassification
  before := field.«local»
  after := field.remote
  providerActorId := presentText (input.claim.providerActor.bind (·.id))
  providerActorEmail := presentText (input.claim.providerActor.bind (·.email))
  providerActorDisplayName := presentText (input.claim.providerActor.bind (·.displayName))
  observedAtMs := input.claim.observedAtMs.getD 0

def controlledFeatureContext (kind : InboundObservationKind)
    (fields : List AirtableShadowFieldFinding) :
    Except InboundError AirtableControlledInboundFeatureContext := do
  let observations := fields.map (input.featureObservation kind)
  require (1 ≤ observations.length ∧ observations.length ≤ 10 ∧
    observations.all (·.accepted)) InboundError.feature_context_invalid
  return { observations }

def conflict (field : AirtableShadowFieldFinding) : AirtableBoundaryCall :=
  .conflict input.claim input.recordLinkId field.fieldKey field.base field.«local» field.remote
    field.dataClassification

/-- The boundary is told of an edit that was refused. -/
def refused (field : AirtableShadowFieldFinding) : AirtableBoundaryCall :=
  .observation input.claim input.recordLinkId field.fieldKey .refused_restored field.remote
    field.«local» none field.dataClassification

/-- The boundary is told of an edit that was let through. -/
def accepted (kind : BoundaryObservationKind) (operationReceiptId : Option String)
    (field : AirtableShadowFieldFinding) : AirtableBoundaryCall :=
  .observation input.claim input.recordLinkId field.fieldKey kind field.«local» field.remote
    (presentText operationReceiptId) field.dataClassification

def restore (reason : RestoreReason) : AirtableBoundaryCall :=
  .restoreCanonical input.claim input.recordLinkId reason

def reportFinding (field : AirtableShadowFieldFinding) : Inbound Unit :=
  match field.disposition with
  | .conflict => atBoundary (input.conflict field)
  | .restore | .forbidden => do
    atBoundary (input.refused field)
    atBoundary (input.restore .protected_edit)
  | _ => pure ()

def conflicts : ℕ := input.evaluation.fields.countP fun field => field.disposition = .conflict

def reviewDeletion : Inbound ControlledInboundResult := do
  let result ← operate (.requestRecordDeletionReview input.subject (input.stableKey ++ ":deletion"))
  match operationFailure result with
  | some failure => return .unsettled failure
  | none =>
    atBoundary (input.restore .record_deleted)
    return .settled 0 1 input.conflicts

/-- The changed `task.status`. -/
def taskStatus : Option AirtableShadowFieldFinding :=
  input.evaluation.fields.find? fun field => field.fieldKey = "task.status" ∧ field.changed

def namedStatus (host : LocaleHost D) (value : Json Empty) : Option TaskAssignmentStatus :=
  let value := (textValue host.toHost value).map host.toLocaleLowerCase
  if value = some "complete" then some .complete
  else if value = some "open" then some .«open»
  else none

/-- A changed `task.status` is applied : how many operations were. -/
def applyTaskStatus (host : LocaleHost D) (field : AirtableShadowFieldFinding) :
    Inbound (Except InboundFailure ℕ) := do
  if input.subject.kind ≠ .task_assignment then
    return .error (.attention "task_subject_mismatch")
  else match namedStatus host field.remote with
    | none =>
      atBoundary (input.refused field)
      atBoundary (input.restore .invalid_value)
      return .ok 0
    | some status =>
      let featureContext ← .ofExcept (input.controlledFeatureContext .applied [field])
      let result ← operate (.setTaskAssignmentStatus input.subject.id
        input.subject.expectedVersion status
        (String.intercalate ":" [input.stableKey, taskAssignmentStatusKey]) featureContext)
      match operationFailure result with
      | some failure => return .error failure
      | none =>
        if result.recorded then pure ()
        else atBoundary (input.accepted .applied (receiptId result) field)
        return .ok (if result.isApplied then 1 else 0)

def requestFields : List AirtableShadowFieldFinding :=
  input.evaluation.fields.filter fun field =>
    (field.fieldKey = "speaker.requested_status" ∨ field.fieldKey = "speaker.cancellation_note") ∧
      field.changed

/-- The text of a field, if the record has the field. -/
def fieldText (host : Host D) (key : String) : Option String :=
  (input.evaluation.fields.find? fun field => field.fieldKey = key).bind fun field =>
    textValue host field.remote

def requestCancellation (statusText note : Option String) : Inbound (Except InboundFailure ℕ) := do
  let featureContext ← .ofExcept (input.controlledFeatureContext .request input.requestFields)
  let result ← operate (.setEngagementCancellationRequest input.subject.id
    input.subject.expectedVersion (statusText == some "cancelled") (presentText note)
    (String.intercalate ":" [input.stableKey, engagementCancellationKey]) featureContext)
  match operationFailure result with
  | some failure => return .error failure
  | none =>
    if result.recorded then pure ()
    else input.requestFields.forM fun field =>
      atBoundary (input.accepted .request (receiptId result) field)
    return .ok (if result.isApplied then 1 else 0)

/-- Changed fields of a cancellation request are requested : how many requests were made. -/
def applyRequestFields (host : LocaleHost D) : Inbound (Except InboundFailure ℕ) := do
  let statusText := (input.fieldText host.toHost "speaker.requested_status").map
    host.toLocaleLowerCase
  let note := input.fieldText host.toHost "speaker.cancellation_note"
  if input.subject.kind ≠ .engagement then
    return .error (.attention "engagement_subject_mismatch")
  else if statusText.any (· != "cancelled") then
    atBoundary (input.restore .invalid_value)
    return .error (.attention "cancellation_request_value_invalid")
  else if note.any fun s => decide (500 < textLength s) then
    return .error (.attention "cancellation_note_too_long")
  else input.requestCancellation statusText note

def restoreUnrecognized (host : Host D) (field : AirtableShadowFieldFinding) : Inbound Unit :=
  -- fields have distinct keys, so that equal findings are one object
  if field.changed ∧ some field ≠ input.taskStatus ∧ field ∉ input.requestFields then do
    atBoundary (input.restore .protected_edit)
    if syncEqual host field.remote field.«local» then pure ()
    else atBoundary (input.refused field)
  else pure ()

/-- The changed `task.status`, if there is one. -/
def applyTask (host : LocaleHost D) : Inbound (Except InboundFailure ℕ) :=
  match input.taskStatus with
  | some field => input.applyTaskStatus host field
  | none => pure (.ok 0)

/-- The changed fields of a cancellation request, if there are any. -/
def applyRequest (host : LocaleHost D) : Inbound (Except InboundFailure ℕ) :=
  if input.requestFields = [] then pure (.ok 0) else input.applyRequestFields host

/-- What is done about the fields of a record that was not destroyed. -/
def applyFields (host : LocaleHost D) : Inbound ControlledInboundResult := do
  match ← input.applyTask host with
  | .error failure => return .unsettled failure
  | .ok applied =>
    match ← input.applyRequest host with
    | .error failure => return .unsettled failure
    | .ok requests =>
      input.evaluation.fields.forM (input.restoreUnrecognized host.toHost)
      return .settled applied requests input.conflicts

end AirtableInboundInput

def applyControlledAirtableInbound (host : LocaleHost D) (input : AirtableInboundInput) :
    Inbound ControlledInboundResult := do
  input.evaluation.fields.forM input.reportFinding
  if 0 < input.conflicts then return .settled 0 0 input.conflicts
  else if input.claim.changeKind = .destroyed then input.reviewDeletion
  else input.applyFields host

end JooEvents
