import JooEvents.Intake.PublicForm
import JooEvents.Lib.KeyedMap

/-!
# The session of an applicant

An applicant fills in a form in a session of the browser. Edits are recorded at once, and
what goes to the server is done by work that is queued and run one after the other :
`start`, a save (of a flush or of the autosave timer), and a submission, which saves first.

Work stops wherever it waits for the server (`SessionPoint`), and edits and calls are taken
meanwhile. What happens between two such points is one function here : `turn` runs the next
work up to the point where it waits, and `receive` goes on from there with the reply.
-/

namespace JooEvents

inductive PublicApplicationTargetRefusalReason where
  | target_graduated | target_closed | target_missing

inductive StructuredOutcomeClass where
  | conflict | access_denied | stale_revision | idempotency_conflict | quota_exceeded
  | policy_violation | provider_not_ready | provider_failure
  deriving DecidableEq

/-- `StructuredOutcome`, with what is read of its detail. -/
structure StructuredOutcome where
  outcomeClass : StructuredOutcomeClass
  kind : String
  reason : Option PublicApplicationTargetRefusalReason

inductive PublicApplicationRefusalView where
  | not_open
  | session_gone
  | draft_changed
  | request_changed
  | target_no_longer_collecting (reasonCode : Option PublicApplicationTargetRefusalReason)
  | not_accepted

def StructuredOutcome.isChanged (outcome : StructuredOutcome) : Bool :=
  decide (outcome.outcomeClass = .conflict ∧ outcome.kind = "intake.changed")

def publicApplicationRefusalView (outcome : StructuredOutcome)
    (target : Option ServedPublicFormTarget) : PublicApplicationRefusalView :=
  if outcome.isChanged then .draft_changed
  else if outcome.outcomeClass = .idempotency_conflict then .request_changed
  else
    match outcome.outcomeClass, target with
    | .policy_violation, some (.session _ _) => .target_no_longer_collecting outcome.reason
    | .access_denied, _ => .session_gone
    | _, _ => .not_accepted

structure PublicApplicationTransportFailure where
  code : String
  retryable : Bool

/-- `PublicApplicationDraftStatusDto`, as far as the session reads it. -/
structure PublicApplicationDraftStatus where
  draftVersion : Version
  deriving DecidableEq

/-- `PublicApplicationSubmitResultDto`, as far as it is shown. -/
structure PublicApplicationSubmitResult where
  submissionId : ApplicationId
  submittedAt : Instant

/-- `PublicApplicationDraftResumeDto`. -/
structure PublicApplicationDraftResume where
  draft : PublicApplicationDraftStatus
  answers : List TransientApplicationAnswer

inductive PublicApplicationMutationData where
  | begin (draft : PublicApplicationDraftStatus)
  | save (draft : PublicApplicationDraftStatus)
  | submit (submission : PublicApplicationSubmitResult)

inductive PublicApplicationMutateBody where
  | begin (formId : ApplicationId)
  | save (expectedDraftVersion : Version) (answers : List TransientApplicationAnswer)
  | submit (expectedDraftVersion : Version)

/-- The calls of `PublicApplicationClient`. -/
inductive PublicApplicationRequest where
  | mint (formId : ApplicationId) (bootstrap : String)
  | resume (formId : ApplicationId) (continuation : String)
  | mutate (formId : ApplicationId) (continuation idempotencyKey : String)
      (body : PublicApplicationMutateBody)

inductive PublicApplicationMintResult where
  | issued (continuation : String) (expiresAt : Instant)
  | already_issued (expiresAt : Instant)
  | rejected
  | not_available
  | transport_error (error : PublicApplicationTransportFailure)

inductive PublicApplicationMutateResult where
  | success (data : PublicApplicationMutationData)
  | outcome (outcome : StructuredOutcome)
  | stopped
  | transport_error (error : PublicApplicationTransportFailure)

inductive PublicApplicationResumeResult where
  | resume (data : PublicApplicationDraftResume)
  | submitted (submission : PublicApplicationSubmitResult)
  | stopped
  | transport_error (error : PublicApplicationTransportFailure)

/-- What a call of the client results in. -/
inductive PublicApplicationReply where
  | mint (result : PublicApplicationMintResult)
  | resume (result : PublicApplicationResumeResult)
  | mutate (result : PublicApplicationMutateResult)

/-! ## The session -/

inductive PublicApplicationSessionPhase where
  | idle | starting | ready | saving | submitting | submitted | stopped
  deriving DecidableEq

/-- Whether a save is the first part of a submission. -/
inductive SaveCaller where
  | flush | submit
  deriving DecidableEq

/-- What the server's draft is read for. -/
inductive ResumeCaller where
  | start
  | save (caller : SaveCaller)
  | submit
  deriving DecidableEq

/-- Where running work waits : for a reply, or for its turn to go on after its save. -/
inductive SessionPoint where
  | mint (second : Bool)
  | begin
  | save (attempted : ℕ) (caller : SaveCaller)
  | resume (caller : ResumeCaller)
  | press
  | submit

/-- Work that is queued. -/
inductive SessionWork where
  | start | save | submit

/-- The answers of a session, `Map<string, TransientApplicationAnswerInput>`. -/
abbrev AnswerMap := KeyedMap TransientApplicationAnswer.fieldId

/-- `PublicApplicationSessionOptions`. The `n`-th key and the `n`-th bootstrap are what their
sources return when they are called for the `n`-th time. -/
structure PublicApplicationSessionOptions where
  formId : ApplicationId
  target : Option ServedPublicFormTarget
  continuation : Option String
  newIdempotencyKey : ℕ → String
  newBootstrap : ℕ → String

/-- What `createPublicApplicationSession` closes over, the queue and the point where the
running work waits. -/
structure PublicApplicationSession where
  phase : PublicApplicationSessionPhase
  draft : Option PublicApplicationDraftStatus
  answers : AnswerMap
  edits : ℕ
  savedEdits : ℕ
  refusal : Option PublicApplicationRefusalView
  transport : Option PublicApplicationTransportFailure
  submission : Option PublicApplicationSubmitResult
  continuation : Option String
  continuationExpiresAt : Option Instant
  submitKey : Option String
  autosave : Bool
  keys : ℕ
  bootstraps : ℕ
  queue : List SessionWork
  running : Option SessionPoint

def createPublicApplicationSession (options : PublicApplicationSessionOptions) :
    PublicApplicationSession :=
  { phase := .idle
    draft := none
    answers := .empty
    edits := 0
    savedEdits := 0
    refusal := none
    transport := none
    submission := none
    continuation := options.continuation
    continuationExpiresAt := none
    submitKey := none
    autosave := false
    keys := 0
    bootstraps := 0
    queue := []
    running := none }

namespace PublicApplicationSession

/-- `snapshot().dirty`. -/
def dirty (s : PublicApplicationSession) : Bool := s.edits != s.savedEdits

def closed (s : PublicApplicationSession) : Bool :=
  decide (s.phase = .submitted ∨ s.phase = .stopped)

def setAnswer (s : PublicApplicationSession) (answer : TransientApplicationAnswer) :
    PublicApplicationSession :=
  if s.closed then s
  else { s with answers := s.answers.set answer, edits := s.edits + 1, autosave := true }

def clearAnswer (s : PublicApplicationSession) (fieldId : ApplicationId) :
    PublicApplicationSession :=
  if s.closed then s
  else if (s.answers.get fieldId).isNone then s
  else { s with answers := s.answers.delete fieldId, edits := s.edits + 1, autosave := true }

/-- `start()`, as far as the call goes. -/
def callStart (s : PublicApplicationSession) : PublicApplicationSession :=
  { s with queue := s.queue ++ [.start] }

/-- `flush()`, as far as the call goes. -/
def callFlush (s : PublicApplicationSession) : PublicApplicationSession :=
  { s with autosave := false, queue := s.queue ++ [.save] }

/-- `submit()`, as far as the call goes. -/
def callSubmit (s : PublicApplicationSession) : PublicApplicationSession :=
  { s with autosave := false, queue := s.queue ++ [.submit] }

/-- The timer of `scheduleAutosave` runs. -/
def fireAutosave (s : PublicApplicationSession) : PublicApplicationSession :=
  { s with autosave := false, queue := s.queue ++ [.save] }

/-! ## Work -/

/-- A session after some work, and the request that the work waits on. -/
abbrev Worked := PublicApplicationSession × Option PublicApplicationRequest

def stopSession (s : PublicApplicationSession) (view : PublicApplicationRefusalView) :
    PublicApplicationSession :=
  { s with phase := .stopped, refusal := some view, autosave := false }

def adoptResume (s : PublicApplicationSession) (data : PublicApplicationDraftResume) :
    PublicApplicationSession :=
  { s with draft := some data.draft, answers := .ofList data.answers, savedEdits := s.edits }

def workOver (s : PublicApplicationSession) : PublicApplicationSession := { s with running := none }

def failed (s : PublicApplicationSession) (error : PublicApplicationTransportFailure)
    (phase : PublicApplicationSessionPhase) : PublicApplicationSession :=
  { s with transport := some error, phase }

/-- `{ code: 'invalid_contract', retryable: true }`. -/
def invalidContract : PublicApplicationTransportFailure :=
  { code := "invalid_contract", retryable := true }

variable (options : PublicApplicationSessionOptions)

def afterSave (s : PublicApplicationSession) : SaveCaller → PublicApplicationSession
  | .flush => s.workOver
  | .submit => { s with running := some .press }

/-- What `reconcileFromServer` was called for goes on, settled or not. -/
def afterReconcile (s : PublicApplicationSession) (settled : Bool) :
    ResumeCaller → PublicApplicationSession
  | .start => if settled then s.workOver else { s.workOver with phase := .idle }
  | .save caller => s.afterSave caller
  | .submit => s.workOver

/-- `reconcileFromServer`, up to the request. -/
def reconcileFromServer (s : PublicApplicationSession) (caller : ResumeCaller) : Worked :=
  match s.continuation with
  | none => (s.afterReconcile false caller, none)
  | some continuation =>
    ({ s with running := some (.resume caller) }, some (.resume options.formId continuation))

def mutate (s : PublicApplicationSession) (continuation : String) (point : SessionPoint)
    (body : PublicApplicationMutateBody) : Worked :=
  ({ s with running := some point, keys := s.keys + 1 },
    some (.mutate options.formId continuation (options.newIdempotencyKey s.keys) body))

/-- `saveNow`, up to the request. -/
def saveNow (s : PublicApplicationSession) (caller : SaveCaller) : Worked :=
  match s.draft, s.continuation with
  | some draft, some continuation =>
    if s.phase = .ready ∧ s.edits ≠ s.savedEdits then
      mutate options { s with phase := .saving } continuation (.save s.edits caller)
        (.save draft.draftVersion s.answers.values)
    else (s.afterSave caller, none)
  | _, _ => (s.afterSave caller, none)

def mint (s : PublicApplicationSession) (second : Bool) : Worked :=
  ({ s with running := some (.mint second), bootstraps := s.bootstraps + 1 },
    some (.mint options.formId (options.newBootstrap s.bootstraps)))

/-- `start`, up to the first request. -/
def start (s : PublicApplicationSession) : Worked :=
  if s.phase = .idle then
    let s := { s with phase := .starting, transport := none }
    if s.continuation.isSome then reconcileFromServer options s .start else mint options s false
  else (s.workOver, none)

/-- `submit`, from its save to the request. -/
def press (s : PublicApplicationSession) : Worked :=
  match s.draft, s.continuation with
  | some draft, some continuation =>
    if s.phase = .ready then
      let key := s.submitKey.getD (options.newIdempotencyKey s.keys)
      ({ s with
          phase := .submitting
          refusal := none
          submitKey := some key
          keys := if s.submitKey.isSome then s.keys else s.keys + 1
          running := some .submit },
        some (.mutate options.formId continuation key (.submit draft.draftVersion)))
    else (s.workOver, none)
  | _, _ => (s.workOver, none)

/-- Work that waits for nothing but its turn goes on : a submission after its save, or the
next work of the queue. -/
def turn (s : PublicApplicationSession) : Option Worked :=
  match s.running, s.queue with
  | some .press, _ => some (press options s)
  | none, .start :: queue => some (start options { s with queue })
  | none, .save :: queue => some (saveNow options { s with queue } .flush)
  | none, .submit :: queue => some (saveNow options { s with queue } .submit)
  | _, _ => none

/-! ## Replies -/

/-- `reconcileFromServer`, from the reply. -/
def receiveResume (s : PublicApplicationSession) (caller : ResumeCaller) :
    PublicApplicationResumeResult → PublicApplicationSession
  | .resume data =>
    let refusal := if caller = .start then none else
      some (publicApplicationRefusalView
        { outcomeClass := .conflict, kind := "intake.changed", reason := none } options.target)
    { s.adoptResume data with refusal, phase := .ready }.afterReconcile true caller
  | .submitted submission =>
    { s with submission := some submission, phase := .submitted }.afterReconcile true caller
  | .stopped => (s.stopSession .session_gone).afterReconcile true caller
  | .transport_error error => { s with transport := some error }.afterReconcile false caller

/-- `start`, from the reply to its mint. -/
def receiveMint (s : PublicApplicationSession) (second : Bool) :
    PublicApplicationMintResult → Worked
  | .issued continuation expiresAt =>
    mutate options
      { s with continuation := some continuation, continuationExpiresAt := some expiresAt }
      continuation .begin (.begin options.formId)
  | .already_issued _ =>
    -- another mint of the same secret is live : a fresh secret is tried once
    if second then ((s.stopSession .not_open).workOver, none) else mint options s true
  | .rejected | .not_available => ((s.stopSession .not_open).workOver, none)
  | .transport_error error => ((s.failed error .idle).workOver, none)

/-- `start`, from the reply to its begin. -/
def receiveBegin (s : PublicApplicationSession) : PublicApplicationMutateResult → Worked
  | .success (.begin draft) =>
    ({ s with draft := some draft, savedEdits := s.edits, phase := .ready }.workOver, none)
  | .outcome outcome =>
    if outcome.isChanged then reconcileFromServer options s .start
    else ((s.stopSession (publicApplicationRefusalView outcome options.target)).workOver, none)
  | .stopped => ((s.stopSession .session_gone).workOver, none)
  | .transport_error error =>
    ({ s.failed error .idle with continuation := none, continuationExpiresAt := none }.workOver, none)
  | .success _ =>
    ({ s.failed invalidContract .idle with
        continuation := none, continuationExpiresAt := none }.workOver, none)

/-- `saveNow`, from the reply. -/
def receiveSave (s : PublicApplicationSession) (attempted : ℕ) (caller : SaveCaller) :
    PublicApplicationMutateResult → Worked
  | .success (.save draft) =>
    ({ s with draft := some draft, savedEdits := attempted, transport := none,
              phase := .ready }.afterSave caller, none)
  | .outcome outcome =>
    if outcome.isChanged then reconcileFromServer options { s with phase := .ready } (.save caller)
    else
      ({ s with phase := .ready,
                refusal := some (publicApplicationRefusalView outcome options.target) }.afterSave
          caller, none)
  | .stopped => ((s.stopSession .session_gone).afterSave caller, none)
  | .transport_error error => ((s.failed error .ready).afterSave caller, none)
  | .success _ => ((s.failed invalidContract .ready).afterSave caller, none)

/-- `submit`, from the reply. -/
def receiveSubmit (s : PublicApplicationSession) : PublicApplicationMutateResult → Worked
  | .success (.submit submission) =>
    ({ s with submission := some submission, transport := none, phase := .submitted }.workOver, none)
  | .outcome outcome =>
    let s := { s with submitKey := none, phase := .ready }
    if outcome.isChanged then reconcileFromServer options s .submit
    else
      ({ s with refusal := some (publicApplicationRefusalView outcome options.target) }.workOver, none)
  | .stopped => ((s.stopSession .session_gone).workOver, none)
  | .transport_error error => ((s.failed error .ready).workOver, none)
  | .success _ => ((s.failed invalidContract .ready).workOver, none)

/-- The running work goes on with the reply it waits for. -/
def receive (s : PublicApplicationSession) (reply : PublicApplicationReply) : Worked :=
  match s.running, reply with
  | some (.mint second), .mint result => receiveMint options s second result
  | some .begin, .mutate result => receiveBegin options s result
  | some (.save attempted caller), .mutate result => receiveSave options s attempted caller result
  | some (.resume caller), .resume result => (receiveResume options s caller result, none)
  | some .submit, .mutate result => receiveSubmit options s result
  | _, _ => (s, none)

end PublicApplicationSession

inductive PublicApplicationSaveStatusView where
  | quiet | saving | saved | offline

def publicApplicationSaveStatusView (s : PublicApplicationSession) :
    Option PublicApplicationSaveStatusView :=
  if s.closed then none
  else if s.phase = .idle ∨ s.phase = .starting then some .quiet
  else if s.transport.isSome then some .offline
  else if s.phase = .saving ∨ s.dirty = true then some .saving
  else if 0 < s.answers.values.length then some .saved
  else some .quiet

end JooEvents
