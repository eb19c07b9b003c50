import JooEvents.Lib.Interleaving
import JooEvents.Lib.KeyedMap
import JooEvents.Airtable.Comparison

/-!
# Webhook payloads

The payloads of a webhook are listed page by page from a stored cursor, and each page is
committed together with the settle candidates that its changes come down to. The commit
compares what is stored with what the page was listed from, so that workers may race.

`candidatesAfter` keeps the payloads after the last transaction and reduces their changes to
one candidate for each record, and `processAirtableWebhookCursor` commits no candidate of a
page that lacks a transaction.
-/

namespace JooEvents

open Fallible

variable {D : Type}

/-! ## Payloads and candidates -/

/-- `AirtableWebhookRecordChange['kind']`. -/
inductive AirtableRecordChangeKind where
  | created
  | updated
  | destroyed
  deriving DecidableEq

inductive AirtableWebhookSource where
  | client
  | publicApi
  | formSubmission
  | automation
  | system
  | sync
  | unknown
  deriving DecidableEq

structure AirtableWebhookActor where
  id : String
  email : Option String
  displayName : Option String
  deriving DecidableEq

structure AirtableWebhookRecordChange where
  tableId : String
  recordId : String
  changedFieldIds : List String
  kind : AirtableRecordChangeKind
  deriving DecidableEq

structure AirtableWebhookPayload where
  transactionNumber : ℕ
  timestamp : String
  source : AirtableWebhookSource
  actor : Option AirtableWebhookActor
  changes : List AirtableWebhookRecordChange
  deriving DecidableEq

structure AirtableWebhookPayloadPage where
  cursor : String
  mightHaveMore : Bool
  payloads : List AirtableWebhookPayload

structure AirtableSettleCandidate where
  tableId : String
  recordId : String
  transactionNumber : ℕ
  kind : AirtableRecordChangeKind
  changedFieldIds : List String
  source : AirtableWebhookSource
  actor : Option AirtableWebhookActor
  observedAt : String

abbrev AirtableRecordKey : Type := String × String

/-- `candidateKey`, of a change. -/
def AirtableWebhookRecordChange.key (change : AirtableWebhookRecordChange) : AirtableRecordKey :=
  (change.tableId, change.recordId)

/-- `candidateKey`, of a candidate. -/
def AirtableSettleCandidate.key (candidate : AirtableSettleCandidate) : AirtableRecordKey :=
  (candidate.tableId, candidate.recordId)

/-- `[...new Set(values)].sort()`. -/
def sortedSet (values : List String) : List String :=
  values.eraseDups.insertionSort fun s t => Json.utf16Le s t

/-- What the changes of the payloads before come to. -/
abbrev ReducedCandidates : Type := KeyedMap AirtableSettleCandidate.key

def newCandidate (payload : AirtableWebhookPayload) (change : AirtableWebhookRecordChange) :
    AirtableSettleCandidate where
  tableId := change.tableId
  recordId := change.recordId
  transactionNumber := payload.transactionNumber
  kind := change.kind
  changedFieldIds := sortedSet change.changedFieldIds
  source := payload.source
  actor := payload.actor
  observedAt := payload.timestamp

/-- The candidate of a change beside earlier changes in the transaction. -/
def AirtableSettleCandidate.coalesce (current : AirtableSettleCandidate)
    (payload : AirtableWebhookPayload) (change : AirtableWebhookRecordChange) :
    AirtableSettleCandidate :=
  { current with
    kind := change.kind
    changedFieldIds := sortedSet (current.changedFieldIds ++ change.changedFieldIds)
    source := payload.source
    actor := payload.actor.or current.actor
    observedAt := payload.timestamp }

/-- The candidate of a record after a change of it in a payload. -/
def changedCandidate (payload : AirtableWebhookPayload) (change : AirtableWebhookRecordChange) :
    Option AirtableSettleCandidate → AirtableSettleCandidate
  | some current =>
    if current.transactionNumber = payload.transactionNumber then current.coalesce payload change
    else newCandidate payload change
  | none => newCandidate payload change

def reduceChange (payload : AirtableWebhookPayload) (reduced : ReducedCandidates)
    (change : AirtableWebhookRecordChange) : ReducedCandidates :=
  reduced.set (changedCandidate payload change (reduced.get change.key))

/-- A payload is reduced, if it is after the last transaction. -/
def reducePayload (lastTransactionNumber : ℕ) (reduced : ReducedCandidates)
    (payload : AirtableWebhookPayload) : ReducedCandidates :=
  if payload.transactionNumber ≤ lastTransactionNumber then reduced
  else payload.changes.foldl (reduceChange payload) reduced

def payloadLe (host : LocaleHost D) (left right : AirtableWebhookPayload) : Prop :=
  left.transactionNumber < right.transactionNumber ∨
    left.transactionNumber = right.transactionNumber ∧
      host.localeCompare left.timestamp right.timestamp ≠ .gt

instance (host : LocaleHost D) : DecidableRel (payloadLe host) := fun _ _ =>
  inferInstanceAs (Decidable (_ ∨ _ ∧ _))

def candidateLe (host : LocaleHost D) (left right : AirtableSettleCandidate) : Prop :=
  left.transactionNumber < right.transactionNumber ∨
    left.transactionNumber = right.transactionNumber ∧
      ((host.localeCompare left.tableId right.tableId).then
        (host.localeCompare left.recordId right.recordId)) ≠ .gt

instance (host : LocaleHost D) : DecidableRel (candidateLe host) := fun _ _ =>
  inferInstanceAs (Decidable (_ ∨ _ ∧ _))

def candidatesAfter (host : LocaleHost D) (payloads : List AirtableWebhookPayload)
    (lastTransactionNumber : ℕ) : List AirtableSettleCandidate :=
  let reduced := (payloads.insertionSort (payloadLe host)).foldl
    (reducePayload lastTransactionNumber) KeyedMap.empty
  reduced.values.insertionSort (candidateLe host)

def transactionNumbers (payloads : List AirtableWebhookPayload) : List ℕ :=
  (payloads.map (·.transactionNumber)).dedup.insertionSort (· ≤ ·)

structure AirtableInboundCursorState where
  connectionId : String
  mappingRevision : ℕ
  baseId : String
  webhookId : String
  cursor : Option String
  lastTransactionNumber : ℕ

/-- The input of `commitPage`. -/
structure AirtableCursorCommit where
  state : AirtableInboundCursorState
  nextCursor : String
  nextTransactionNumber : ℕ
  candidates : List AirtableSettleCandidate
  settleNotBeforeMs : ℤ
  nowMs : ℤ

/-- A call of the webhook worker. -/
inductive AirtableCursorCall where
  | read (connectionId : String)
  | listWebhookPayloads (baseId webhookId : String) (cursor : Option String)
  | commitPage (input : AirtableCursorCommit)

def AirtableCursorCall.Answer : AirtableCursorCall → Type
  | .read _ => Option AirtableInboundCursorState
  | .listWebhookPayloads _ _ _ => Except AirtableProviderFailure AirtableWebhookPayloadPage
  | .commitPage _ => Bool

/-- What the worker throws. -/
inductive AirtableCursorError where
  | airtable_settle_delay_invalid
  | airtable_cursor_page_bound_invalid

abbrev CursorWorker (α : Type) : Type :=
  Process AirtableCursorCall AirtableCursorCall.Answer AirtableCursorError α

/-- `await input.repository.read(…)`. -/
def readCursor (connectionId : String) : CursorWorker (Option AirtableInboundCursorState) :=
  .call (.read connectionId) .done

/-- `await input.webhooks.listWebhookPayloads(…)`. -/
def listWebhookPayloads (state : AirtableInboundCursorState) :
    CursorWorker (Except AirtableProviderFailure AirtableWebhookPayloadPage) :=
  .call (.listWebhookPayloads state.baseId state.webhookId state.cursor) .done

/-- `await input.repository.commitPage(…)`. -/
def commitPage (input : AirtableCursorCommit) : CursorWorker Bool :=
  .call (.commitPage input) .done

/-! ## The worker -/

inductive AirtableInboundCursorResult where
  | processed (pages candidates : ℕ)
  | retention_recovery_required
  | contended
  | retry (code : String) (retryAfterMs : ℤ)
  | attention (code : String)

/-- `failure`. -/
def AirtableProviderFailure.result (failure : AirtableProviderFailure) :
    AirtableInboundCursorResult :=
  if failure.retryAfterDelay then
    .retry failure.code (max 1000 (min (failure.retryAfterMs.getD 30000) 86400000))
  else .attention failure.code

/-- The numbers come one after the other from `expected` on. -/
def consecutiveFrom : ℕ → List ℕ → Bool
  | _, [] => true
  | expected, number :: numbers =>
    decide (number = expected) && consecutiveFrom (expected + 1) numbers

/-- What the worker is given beside its ports. -/
structure AirtableCursorInput where
  connectionId : String
  nowMs : ℤ
  settleDelayMs : Option ℤ
  maximumPages : Option ℤ

def AirtableCursorInput.delay (input : AirtableCursorInput) : ℤ := input.settleDelayMs.getD 3000

def AirtableInboundCursorState.newNumbers (state : AirtableInboundCursorState)
    (page : AirtableWebhookPayloadPage) : List ℕ :=
  (transactionNumbers page.payloads).filter fun number => state.lastTransactionNumber < number

def AirtableInboundCursorState.nextTransactionNumber (state : AirtableInboundCursorState)
    (page : AirtableWebhookPayloadPage) : ℕ :=
  (transactionNumbers page.payloads).foldl max state.lastTransactionNumber

def AirtableCursorInput.commit (input : AirtableCursorInput) (state : AirtableInboundCursorState)
    (page : AirtableWebhookPayloadPage) (candidates : List AirtableSettleCandidate) :
    AirtableCursorCommit where
  state := state
  nextCursor := page.cursor
  nextTransactionNumber := state.nextTransactionNumber page
  candidates := candidates
  settleNotBeforeMs := input.nowMs + input.delay
  nowMs := input.nowMs

def cursorLoop (host : LocaleHost D) (input : AirtableCursorInput) :
    ℕ → ℕ → ℕ → AirtableInboundCursorState → CursorWorker AirtableInboundCursorResult
  | 0, _, _, _ => return .retry "webhook_pages_remaining" 1000
  | remaining + 1, pages, scheduled, state => do
    match ← listWebhookPayloads state with
    | .error failure => return failure.result
    | .ok page =>
      if ¬ consecutiveFrom (state.lastTransactionNumber + 1) (state.newNumbers page) then
        let recovered ← commitPage (input.commit state page [])
        return if recovered then .retention_recovery_required else .contended
      else
        let pageCandidates := candidatesAfter host page.payloads state.lastTransactionNumber
        if page.mightHaveMore ∧ some page.cursor = state.cursor then
          return .attention "webhook_cursor_stalled"
        else
          let committed ← commitPage (input.commit state page pageCandidates)
          if ¬ committed then return .contended
          else if ¬ page.mightHaveMore then
            return .processed (pages + 1) (scheduled + pageCandidates.length)
          else cursorLoop host input remaining (pages + 1) (scheduled + pageCandidates.length) {
            state with
            cursor := some page.cursor
            lastTransactionNumber := state.nextTransactionNumber page }

def processAirtableWebhookCursor (host : LocaleHost D) (input : AirtableCursorInput) :
    CursorWorker AirtableInboundCursorResult := do
  let maximumPages := input.maximumPages.getD 5
  .ofExcept (require (1000 ≤ input.delay ∧ input.delay ≤ 60000)
    AirtableCursorError.airtable_settle_delay_invalid)
  .ofExcept (require (1 ≤ maximumPages ∧ maximumPages ≤ 20)
    AirtableCursorError.airtable_cursor_page_bound_invalid)
  match ← readCursor input.connectionId with
  | none => return .attention "webhook_registration_missing"
  | some state => cursorLoop host input maximumPages.toNat 0 0 state

end JooEvents
