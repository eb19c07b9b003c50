import JooEvents.Kernel.Ids
import JooEvents.Lib.Fallible
import JooEvents.Lib.KeyedMap

/-!
# Outbound email deliveries

The ledger of outbound email has a head for each delivery and a row for each attempt at it. A
worker claims a delivery for the time of a lease, records that an attempt started, and settles it
with what the provider said, or with the fact that nobody knows. Each method is a transaction : it
changes the ledger, or it throws and changes nothing.

Rows are checked by the tables (`OutboundEmailDeliveryHeadRow.Checks`,
`OutboundEmailDeliveryAttemptRow.Checks`), so a head that is stored satisfies every check. What
other tables hold is up to them : whether a corrected address is there, and whether they take the
facts that a settlement writes (`DeliverySurroundings`).
-/

namespace JooEvents

open Fallible

/-- `providerIdempotencyCapabilitySchema`. -/
inductive ProviderIdempotency where
  | native_key
  | provider_lookup
  | none
  deriving DecidableEq

/-- `providerReconciliationCapabilitySchema`. -/
inductive ProviderReconciliation where
  | lookup
  | callback_only
  | none

/-- `providerCallbackWireCapabilitySchema`. -/
inductive ProviderCallback where
  | delivered
  | delay
  | bounce
  | complaint
  | suppression

/-- `ProviderCapabilities`. Inbound replies are never one. -/
structure ProviderCapabilities where
  idempotency : ProviderIdempotency
  reconciliation : ProviderReconciliation
  callbacks : List ProviderCallback

/-- The value of a `RegisteredSafeEvidenceFact`. -/
inductive SafeEvidenceValue where
  | enum (enumValue : String)
  | integer (integerValue : ℤ)
  | boolean (booleanValue : Bool)
  deriving DecidableEq

structure RegisteredSafeEvidenceFact where
  factKey : String
  factSchemaVersion : ℕ
  value : SafeEvidenceValue
  deriving DecidableEq

structure SafeEvidence where
  registeredCode : String
  correlationId : String
  canonicalDigestSha256 : CanonicalSha256
  registeredFacts : List RegisteredSafeEvidenceFact
  deriving DecidableEq

/-- `synchronousPermanentBounce`. -/
def SafeEvidence.permanentBounce (evidence : SafeEvidence) : Bool :=
  evidence.registeredFacts.any fun fact =>
    fact.factKey = "cloudflare.observation" ∧ fact.value = .enum "accepted_permanent_bounce"

/-- Whether a rejected request may be made again. -/
inductive ProviderRetryClass where
  | safe_retryable
  | terminal

inductive ProviderSubmissionOutcome where
  | accepted (providerMessageId : Option String) (evidence : SafeEvidence)
  | known_rejected (retryClass : ProviderRetryClass) (code : String) (evidence : SafeEvidence)
  | acceptance_unknown (reason : String) (evidence : SafeEvidence)

/-! ## Rows -/

inductive OutboundEmailDeliveryState where
  | pending
  | request_started
  | accepted
  | known_rejected_safe_retryable
  | known_rejected_terminal
  | acceptance_unknown
  deriving DecidableEq

inductive OutboundEmailDeliveryAttemptKind where
  | original
  | marked_resend
  deriving DecidableEq

/-- Why it is not known what became of an attempt. -/
inductive OutboundRecoveryCode where
  | worker_result_lost
  | provider_boundary_failure

/-- The three columns of a lease, which are null together. -/
structure OutboundDeliveryLease where
  claimId : String
  acquiredAtMs : ℤ
  expiresAtMs : ℤ

/-- The immutable columns of a head that are read, or checked. -/
structure OutboundDeliveryReferences where
  dispatchGeneration : ℕ
  reviewedMessageDigestSha256 : CanonicalSha256
  reviewedEnvelopeDigestSha256 : CanonicalSha256
  senderPresentationContractVersion : ℕ
  channelAddressVersion : ℕ
  addressLookupFingerprintVersion : ℕ

/-- A row of `communication_outbound_delivery_heads`. -/
structure OutboundEmailDeliveryHeadRow where
  deliveryId : String
  references : OutboundDeliveryReferences
  state : OutboundEmailDeliveryState
  version : ℕ
  attemptCount : ℕ
  unknownAttemptCount : ℕ
  markedResendExhausted : Bool
  currentAttemptId : Option String
  lease : Option OutboundDeliveryLease
  receiptId : Option String
  createdAtMs : ℤ
  updatedAtMs : ℤ

/-- The checks of `communication_outbound_delivery_heads`. -/
@[mk_iff]
structure OutboundEmailDeliveryHeadRow.Checks (row : OutboundEmailDeliveryHeadRow) : Prop where
  references : 0 < row.references.dispatchGeneration ∧
    0 < row.references.senderPresentationContractVersion ∧
    0 < row.references.channelAddressVersion ∧ 0 < row.references.addressLookupFingerprintVersion
  version : 0 < row.version
  unknownAttempts : row.unknownAttemptCount ≤ row.attemptCount
  attempts : row.state = .pending ∧ row.attemptCount = 0 ∧ row.currentAttemptId = none ∨
    row.state ≠ .pending ∧ 0 < row.attemptCount ∧ row.currentAttemptId ≠ none
  exhausted : row.markedResendExhausted = false ∨ 2 ≤ row.unknownAttemptCount
  lease : ∀ lease ∈ row.lease, 0 ≤ lease.acquiredAtMs ∧ lease.acquiredAtMs < lease.expiresAtMs
  inFlight : row.state ≠ .request_started ∨ row.lease ≠ none
  created : 0 ≤ row.createdAtMs
  updated : row.createdAtMs ≤ row.updatedAtMs

instance (row : OutboundEmailDeliveryHeadRow) : Decidable row.Checks :=
  decidable_of_iff _ (OutboundEmailDeliveryHeadRow.checks_iff row).symm

abbrev OutboundEmailDeliveryHead := {row : OutboundEmailDeliveryHeadRow // row.Checks}

/-- A row of `communication_outbound_delivery_attempts`. -/
structure OutboundEmailDeliveryAttemptRow where
  attemptId : String
  deliveryId : String
  attemptNumber : ℕ
  attemptKind : OutboundEmailDeliveryAttemptKind
  state : OutboundEmailDeliveryState
  adapterKey : String
  adapterVersion : String
  capabilities : ProviderCapabilities
  providerRequestDigestSha256 : CanonicalSha256
  reviewedMessageDigestSha256 : CanonicalSha256
  reviewedEnvelopeDigestSha256 : CanonicalSha256
  providerMessageId : Option String
  providerOutcomeReason : Option String
  safeEvidence : Option SafeEvidence
  recoveryCode : Option OutboundRecoveryCode
  startedAtMs : ℤ
  completedAtMs : Option ℤ

/-- The checks of `communication_outbound_delivery_attempts`. -/
@[mk_iff]
structure OutboundEmailDeliveryAttemptRow.Checks (row : OutboundEmailDeliveryAttemptRow) :
    Prop where
  attemptNumber : 0 < row.attemptNumber
  state : row.state ≠ .pending
  started : 0 ≤ row.startedAtMs
  completed : ∀ completedAtMs ∈ row.completedAtMs, row.startedAtMs ≤ completedAtMs
  resolved : row.state = .request_started ∧ row.completedAtMs = none ∧
      row.providerMessageId = none ∧ row.providerOutcomeReason = none ∧ row.safeEvidence = none ∧
      row.recoveryCode = none ∨
    row.state ≠ .request_started ∧ row.completedAtMs ≠ none
  evidence : ¬ (row.safeEvidence ≠ none ∧ row.recoveryCode ≠ none)
  message : row.state = .accepted ∨ row.providerMessageId = none

instance (row : OutboundEmailDeliveryAttemptRow) : Decidable row.Checks :=
  decidable_of_iff _ (OutboundEmailDeliveryAttemptRow.checks_iff row).symm

abbrev OutboundEmailDeliveryAttempt := {row : OutboundEmailDeliveryAttemptRow // row.Checks}

/-- `SQLiteOutboundEmailDeliveryLedger`. -/
structure OutboundEmailDeliveryLedger where
  heads : KeyedMap fun head : OutboundEmailDeliveryHead => head.val.deliveryId
  attempts : KeyedMap fun attempt : OutboundEmailDeliveryAttempt => attempt.val.attemptId

/-- What the other tables say : whether the test of the query for a corrected address passes, which
is not whether the query finds a row, and whether they take the suppression and the evidence of an
attempt. -/
structure DeliverySurroundings where
  eligible : Bool
  suppresses : Bool
  appends : Bool

/-- What a method of the ledger throws. -/
inductive OutboundDeliveryError where
  | outbound_delivery_lease_duration_invalid
  | outbound_delivery_resend_digest_invalid
  | outbound_delivery_resend_digest_unexpected
  | outbound_delivery_not_registered
  | outbound_delivery_attempt_conflict
  | outbound_delivery_not_dispatchable
  | outbound_delivery_marked_resend_authorization_invalid
  | outbound_delivery_attempt_kind_conflict
  | outbound_delivery_resend_envelope_unmarked
  | outbound_delivery_receipt_conflict
  | constraint_failed

structure ProviderAttemptResolution where
  state : OutboundEmailDeliveryState
  providerMessageId : Option String
  providerOutcomeReason : Option String
  safeEvidence : SafeEvidence

/-- `normalizeProviderSubmissionOutcome`, of an outcome of its schema. -/
def normalizeProviderSubmissionOutcome : ProviderSubmissionOutcome → ProviderAttemptResolution
  | .accepted providerMessageId evidence =>
    { state := .accepted, providerMessageId, providerOutcomeReason := none,
      safeEvidence := evidence }
  | .known_rejected retryClass code evidence =>
    { state := match retryClass with
        | .safe_retryable => .known_rejected_safe_retryable
        | .terminal => .known_rejected_terminal
      providerMessageId := none, providerOutcomeReason := some code, safeEvidence := evidence }
  | .acceptance_unknown reason evidence =>
    { state := .acceptance_unknown, providerMessageId := none,
      providerOutcomeReason := some reason, safeEvidence := evidence }

def requiredOutboundEmailAttemptKind (unknownAttemptCount : ℕ)
    (capabilities : ProviderCapabilities) : OutboundEmailDeliveryAttemptKind :=
  if 0 < unknownAttemptCount ∧ capabilities.idempotency ≠ .native_key then .marked_resend
  else .original

/-! ## Methods -/

inductive OutboundEmailDeliveryClaimOutcome where
  | claimed (claimId : String) (head : OutboundEmailDeliveryHead)
  | not_found
  | lease_held (head : OutboundEmailDeliveryHead)
  | not_claimable (head : OutboundEmailDeliveryHead)

/-- What `recordAttemptStarted` is given. -/
structure AttemptStartInput where
  deliveryId : String
  expectedDeliveryVersion : ℕ
  claimId : String
  leaseMs : ℤ
  attemptId : String
  attemptKind : OutboundEmailDeliveryAttemptKind
  authorizedMarkedResend : Option Bool
  resendEnvelopeDigestSha256 : Option CanonicalSha256
  adapterKey : String
  adapterVersion : String
  capabilities : ProviderCapabilities
  providerRequestDigestSha256 : CanonicalSha256
  startedAtMs : ℤ

/-- What `#complete` is given. -/
structure AttemptCompletionInput where
  deliveryId : String
  attemptId : String
  claimId : String
  state : OutboundEmailDeliveryState
  providerMessageId : Option String
  providerOutcomeReason : Option String
  safeEvidence : Option SafeEvidence
  recoveryCode : Option OutboundRecoveryCode
  completedAtMs : ℤ

structure OutboundEmailAttemptCompletion where
  fenced : Bool
  head : OutboundEmailDeliveryHead

namespace OutboundEmailDeliveryHeadRow

variable (row : OutboundEmailDeliveryHeadRow)

def dispatchable : Bool :=
  row.state = .pending ∨ row.state = .known_rejected_safe_retryable ∨
    row.state = .acceptance_unknown ∧ row.markedResendExhausted = false

def claimable (nowMs : ℤ) : Bool :=
  (∀ lease ∈ row.lease, lease.expiresAtMs ≤ nowMs) ∧
    (row.state = .request_started ∨ row.dispatchable = true)

def heldBy (claimId : String) : Bool := row.lease.map (·.claimId) = some claimId

end OutboundEmailDeliveryHeadRow

namespace OutboundEmailDeliveryLedger

variable (ledger : OutboundEmailDeliveryLedger)

def putHead (row : OutboundEmailDeliveryHeadRow) :
    Except OutboundDeliveryError (OutboundEmailDeliveryLedger × OutboundEmailDeliveryHead) :=
  if h : row.Checks then .ok ({ ledger with heads := ledger.heads.set ⟨row, h⟩ }, ⟨row, h⟩)
  else .error .constraint_failed

/-- An attempt is written, if it passes the checks. -/
def putAttempt (row : OutboundEmailDeliveryAttemptRow) :
    Except OutboundDeliveryError (OutboundEmailDeliveryLedger × OutboundEmailDeliveryAttempt) :=
  if h : row.Checks then
    .ok ({ ledger with attempts := ledger.attempts.set ⟨row, h⟩ }, ⟨row, h⟩)
  else .error .constraint_failed

/-- An attempt is inserted, if its id and its number in the delivery are new. -/
def insertAttempt (row : OutboundEmailDeliveryAttemptRow) :
    Except OutboundDeliveryError (OutboundEmailDeliveryLedger × OutboundEmailDeliveryAttempt) := do
  require (ledger.attempts.get row.attemptId = none ∧
    ∀ attempt ∈ ledger.attempts.values,
      ¬ (attempt.val.deliveryId = row.deliveryId ∧ attempt.val.attemptNumber = row.attemptNumber))
    OutboundDeliveryError.constraint_failed
  ledger.putAttempt row

def insertOutboundEmailDeliveryRegistration (deliveryId : String)
    (references : OutboundDeliveryReferences) (createdAtMs : ℤ) :
    Except OutboundDeliveryError OutboundEmailDeliveryLedger := do
  require (ledger.heads.get deliveryId = none) OutboundDeliveryError.constraint_failed
  let (ledger, _) ← ledger.putHead {
    deliveryId, references
    state := .pending, version := 1, attemptCount := 0, unknownAttemptCount := 0
    markedResendExhausted := false, currentAttemptId := none, lease := none, receiptId := none
    createdAtMs, updatedAtMs := createdAtMs }
  return ledger

def linkOutboundEmailDeliveryReceipt (deliveryId receiptId : String) :
    Except OutboundDeliveryError OutboundEmailDeliveryLedger := do
  let head ← orRefuse (ledger.heads.get deliveryId)
    OutboundDeliveryError.outbound_delivery_receipt_conflict
  require (head.val.receiptId = none) OutboundDeliveryError.outbound_delivery_receipt_conflict
  let (ledger, _) ← ledger.putHead { head.val with receiptId := some receiptId }
  return ledger

def claim (deliveryId claimId : String) (nowMs leaseMs : ℤ) :
    Except OutboundDeliveryError
      (OutboundEmailDeliveryLedger × OutboundEmailDeliveryClaimOutcome) := do
  require (0 < leaseMs) OutboundDeliveryError.outbound_delivery_lease_duration_invalid
  match ledger.heads.get deliveryId with
  | none => return (ledger, .not_found)
  | some head =>
    if head.val.claimable nowMs then do
      let (ledger, claimed) ← ledger.putHead { head.val with
        lease := some { claimId, acquiredAtMs := nowMs, expiresAtMs := nowMs + leaseMs }
        updatedAtMs := max head.val.updatedAtMs nowMs }
      return (ledger, .claimed claimId claimed)
    else if head.val.lease.any fun lease => nowMs < lease.expiresAtMs then
      return (ledger, .lease_held head)
    else return (ledger, .not_claimable head)

def releaseClaim (deliveryId claimId : String) (nowMs : ℤ) :
    Except OutboundDeliveryError OutboundEmailDeliveryLedger :=
  match ledger.heads.get deliveryId with
  | none => .ok ledger
  | some head =>
    if head.val.heldBy claimId ∧ head.val.state ≠ .request_started then do
      let (ledger, _) ← ledger.putHead { head.val with
        lease := none, updatedAtMs := max head.val.updatedAtMs nowMs }
      return ledger
    else .ok ledger

/-- The digest of the envelope that is sent again, which only a marked resend has. -/
def resendDigest (input : AttemptStartInput) :
    Except OutboundDeliveryError (Option CanonicalSha256) :=
  match input.attemptKind, input.resendEnvelopeDigestSha256 with
  | .marked_resend, some digest => .ok (some digest)
  | .marked_resend, none => .error .outbound_delivery_resend_digest_invalid
  | .original, some _ => .error .outbound_delivery_resend_digest_unexpected
  | .original, none => .ok none

/-- The kind of an attempt is the one that is required, or a marked resend is authorised. -/
def authorizeKind (surroundings : DeliverySurroundings) (input : AttemptStartInput)
    (registration : OutboundEmailDeliveryHead) : Except OutboundDeliveryError Unit := do
  require (input.authorizedMarkedResend ≠ some false)
    OutboundDeliveryError.outbound_delivery_marked_resend_authorization_invalid
  if input.authorizedMarkedResend = some true then
    require (input.attemptKind = .marked_resend ∧
      registration.val.state = .known_rejected_safe_retryable ∧ surroundings.eligible = true)
      OutboundDeliveryError.outbound_delivery_marked_resend_authorization_invalid
  else
    require (input.attemptKind =
        requiredOutboundEmailAttemptKind registration.val.unknownAttemptCount input.capabilities)
      OutboundDeliveryError.outbound_delivery_attempt_kind_conflict

def recordAttemptStarted (surroundings : DeliverySurroundings) (input : AttemptStartInput) :
    Except OutboundDeliveryError (OutboundEmailDeliveryLedger × OutboundEmailDeliveryAttempt) := do
  let resendDigest ← resendDigest input
  require (0 < input.leaseMs) OutboundDeliveryError.outbound_delivery_lease_duration_invalid
  let registration ← orRefuse (ledger.heads.get input.deliveryId)
    OutboundDeliveryError.outbound_delivery_not_registered
  require (registration.val.receiptId ≠ none)
    OutboundDeliveryError.outbound_delivery_not_registered
  require (registration.val.heldBy input.claimId = true ∧
    registration.val.version = input.expectedDeliveryVersion)
    OutboundDeliveryError.outbound_delivery_attempt_conflict
  require (registration.val.dispatchable = true)
    OutboundDeliveryError.outbound_delivery_not_dispatchable
  authorizeKind surroundings input registration
  require (resendDigest ≠ some registration.val.references.reviewedEnvelopeDigestSha256)
    OutboundDeliveryError.outbound_delivery_resend_envelope_unmarked
  let (ledger, attempt) ← ledger.insertAttempt {
    attemptId := input.attemptId, deliveryId := input.deliveryId
    attemptNumber := registration.val.attemptCount + 1
    attemptKind := input.attemptKind, state := .request_started
    adapterKey := input.adapterKey, adapterVersion := input.adapterVersion
    capabilities := input.capabilities
    providerRequestDigestSha256 := input.providerRequestDigestSha256
    reviewedMessageDigestSha256 := registration.val.references.reviewedMessageDigestSha256
    reviewedEnvelopeDigestSha256 :=
      resendDigest.getD registration.val.references.reviewedEnvelopeDigestSha256
    providerMessageId := none, providerOutcomeReason := none, safeEvidence := none
    recoveryCode := none, startedAtMs := input.startedAtMs, completedAtMs := none }
  let (ledger, _) ← ledger.putHead { registration.val with
    state := .request_started, currentAttemptId := some input.attemptId
    attemptCount := registration.val.attemptCount + 1
    version := registration.val.version + 1, updatedAtMs := input.startedAtMs
    lease := some {
      claimId := input.claimId, acquiredAtMs := input.startedAtMs
      expiresAtMs := input.startedAtMs + input.leaseMs } }
  return (ledger, attempt)

/-- The head after an attempt of this kind ended in this state. -/
def settledRow (head : OutboundEmailDeliveryHeadRow)
    (attemptKind : OutboundEmailDeliveryAttemptKind) (state : OutboundEmailDeliveryState)
    (completedAtMs : ℤ) : OutboundEmailDeliveryHeadRow :=
  { head with
    state := state, version := head.version + 1, updatedAtMs := completedAtMs
    unknownAttemptCount :=
      head.unknownAttemptCount + if state = .acceptance_unknown then 1 else 0
    -- an unknown acceptance consumes the one marked resend
    markedResendExhausted := head.markedResendExhausted ||
      decide (state = .acceptance_unknown ∧ attemptKind = .marked_resend)
    lease := none }

def settledAttempt (attempt : OutboundEmailDeliveryAttemptRow) (input : AttemptCompletionInput) :
    OutboundEmailDeliveryAttemptRow :=
  { attempt with
    state := input.state, providerMessageId := input.providerMessageId
    providerOutcomeReason := input.providerOutcomeReason, safeEvidence := input.safeEvidence
    recoveryCode := input.recoveryCode, completedAtMs := some input.completedAtMs }

/-- `#complete`. -/
def complete (surroundings : DeliverySurroundings) (input : AttemptCompletionInput) :
    Except OutboundDeliveryError
      (OutboundEmailDeliveryLedger × OutboundEmailAttemptCompletion) := do
  let anchor ← orRefuse (ledger.heads.get input.deliveryId)
    OutboundDeliveryError.outbound_delivery_attempt_conflict
  require (anchor.val.receiptId ≠ none) OutboundDeliveryError.outbound_delivery_attempt_conflict
  let startedAttempt ← orRefuse ((ledger.attempts.get input.attemptId).filter fun attempt =>
    attempt.val.deliveryId = input.deliveryId)
    OutboundDeliveryError.outbound_delivery_attempt_conflict
  if anchor.val.heldBy input.claimId = false then do
    require (surroundings.appends = true) OutboundDeliveryError.constraint_failed
    return (ledger, { fenced := true, head := anchor })
  else do
    require (anchor.val.state = .request_started ∧
      anchor.val.currentAttemptId = some input.attemptId ∧
      startedAttempt.val.state = .request_started)
      OutboundDeliveryError.outbound_delivery_attempt_conflict
    let (ledger, _) ← ledger.putAttempt (settledAttempt startedAttempt.val input)
    let (ledger, head) ← ledger.putHead
      (settledRow anchor.val startedAttempt.val.attemptKind input.state input.completedAtMs)
    require (input.safeEvidence.any (·.permanentBounce) = true → surroundings.suppresses = true)
      OutboundDeliveryError.constraint_failed
    require (surroundings.appends = true) OutboundDeliveryError.constraint_failed
    return (ledger, { fenced := false, head })

end OutboundEmailDeliveryLedger

/-- How an attempt ends : the provider answered, or nobody knows what it did. -/
inductive AttemptSettlement where
  | reported (outcome : ProviderSubmissionOutcome)
  | ambiguous (code : OutboundRecoveryCode)

/-- What `#complete` is given by `recordProviderResolution` and `recordBoundaryAmbiguity`. -/
def AttemptSettlement.completion (deliveryId attemptId claimId : String) (completedAtMs : ℤ) :
    AttemptSettlement → AttemptCompletionInput
  | .reported outcome =>
    let resolution := normalizeProviderSubmissionOutcome outcome
    { deliveryId, attemptId, claimId, completedAtMs
      state := resolution.state, providerMessageId := resolution.providerMessageId
      providerOutcomeReason := resolution.providerOutcomeReason
      safeEvidence := some resolution.safeEvidence, recoveryCode := none }
  | .ambiguous code =>
    { deliveryId, attemptId, claimId, completedAtMs
      state := .acceptance_unknown, providerMessageId := none, providerOutcomeReason := none
      safeEvidence := none, recoveryCode := some code }

/-- A call of a method, with what the other tables say when it is made. -/
inductive OutboundDeliveryCall where
  | register (deliveryId : String) (references : OutboundDeliveryReferences) (createdAtMs : ℤ)
  | link (deliveryId receiptId : String)
  | claim (deliveryId claimId : String) (nowMs leaseMs : ℤ)
  | releaseClaim (deliveryId claimId : String) (nowMs : ℤ)
  | recordAttemptStarted (surroundings : DeliverySurroundings) (input : AttemptStartInput)
  | settle (surroundings : DeliverySurroundings) (settlement : AttemptSettlement)
      (deliveryId attemptId claimId : String) (completedAtMs : ℤ)

namespace OutboundEmailDeliveryLedger

variable (ledger : OutboundEmailDeliveryLedger)

/-- What a call does to the ledger, if it does not throw. -/
def apply : OutboundDeliveryCall → Except OutboundDeliveryError OutboundEmailDeliveryLedger
  | .register deliveryId references createdAtMs =>
    ledger.insertOutboundEmailDeliveryRegistration deliveryId references createdAtMs
  | .link deliveryId receiptId => ledger.linkOutboundEmailDeliveryReceipt deliveryId receiptId
  | .claim deliveryId claimId nowMs leaseMs =>
    Prod.fst <$> ledger.claim deliveryId claimId nowMs leaseMs
  | .releaseClaim deliveryId claimId nowMs => ledger.releaseClaim deliveryId claimId nowMs
  | .recordAttemptStarted surroundings input =>
    Prod.fst <$> ledger.recordAttemptStarted surroundings input
  | .settle surroundings settlement deliveryId attemptId claimId completedAtMs =>
    Prod.fst <$> ledger.complete surroundings
      (settlement.completion deliveryId attemptId claimId completedAtMs)

/-- The ledger after a call : a call that throws is rolled back. -/
def step (call : OutboundDeliveryCall) : OutboundEmailDeliveryLedger :=
  match ledger.apply call with
  | .ok ledger' => ledger'
  | .error _ => ledger

def initial : OutboundEmailDeliveryLedger := ⟨.empty, .empty⟩

end OutboundEmailDeliveryLedger

/-- The ledgers that calls lead to, each of them permitted where it is made. -/
inductive OutboundDeliveryRun
    (Permits : OutboundEmailDeliveryLedger → OutboundDeliveryCall → Prop) :
    OutboundEmailDeliveryLedger → Prop where
  | initial : OutboundDeliveryRun Permits .initial
  | step {ledger : OutboundEmailDeliveryLedger} {call : OutboundDeliveryCall}
      (h : OutboundDeliveryRun Permits ledger) (hcall : Permits ledger call) :
      OutboundDeliveryRun Permits (ledger.step call)

end JooEvents
