import JooEvents.Communications.Settlement
import Mathlib.Logic.Function.Basic

/-!
# Suppressed addresses

A message goes to the address of its delivery, or after a bounce to a corrected one : the worker
picks it. When an attempt is settled with a permanent bounce, the ledger suppresses an address : that
of the delivery, whatever the worker picked. Before it starts a resend to a corrected address it
queries whether that address is eligible, and tests the answer for `undefined`. But a query that
finds no row answers `null`, so no resend is refused (`apply_start`).

So a bounce suppresses the mailbox that bounced as long as the bounces are of attempts that were
addressed as their delivery is, and a mailbox that bounced gets no resend as long as the worker
resolves no suppressed address (`bounces_suppressed`). Otherwise a corrected address that bounces
stays eligible, while the address of the delivery is suppressed again, and a mailbox that is
suppressed is sent to (`corrected_address_bounces_unnoticed`).

The columns of a head that say where its message goes never change : they are a function of the
delivery. `submissions` remembers what each attempt was addressed to, which no table does.
-/

namespace JooEvents

open Fallible

/-- The lookup fingerprint of an address. -/
structure AddressLookup where
  profile : String
  version : ℕ
  keyedValue : String
  deriving DecidableEq

/-- A version of a channel address. -/
structure ChannelAddress where
  channelAddressId : String
  channelAddressVersion : ℕ
  lookup : AddressLookup
  deriving DecidableEq

/-- Where the message of a delivery goes. -/
structure DeliveryAnchor where
  workspaceId : String
  eventId : String
  address : ChannelAddress

/-- A row of `communication_address_suppression_facts`. -/
structure AddressSuppressionFact where
  suppressionFactId : String
  workspaceId : String
  sourceEventId : String
  address : ChannelAddress
  attemptId : String
  occurredAtMs : ℤ
  safeEvidence : SafeEvidence

/-- The address that a fact is about, in its workspace. -/
def AddressSuppressionFact.key (fact : AddressSuppressionFact) : String × AddressLookup :=
  (fact.workspaceId, fact.address.lookup)

/-- The state of an address. -/
inductive AddressSuppressionState where
  | suppressed
  | clear
  deriving DecidableEq

/-- A row of `communication_current_address_suppressions`. -/
structure CurrentAddressSuppression where
  workspaceId : String
  lookup : AddressLookup
  currentFactId : String
  state : AddressSuppressionState
  version : ℕ
  updatedAtMs : ℤ

def CurrentAddressSuppression.key (row : CurrentAddressSuppression) : String × AddressLookup :=
  (row.workspaceId, row.lookup)

/-- The ledger, with the suppressions and the addresses that were submitted to. -/
structure DeliveryTables where
  ledger : OutboundEmailDeliveryLedger
  facts : List AddressSuppressionFact
  current : KeyedMap CurrentAddressSuppression.key
  submissions : String → Option ChannelAddress

/-- `OUTBOUND_EMAIL_DELIVERY_LEASE_MS`. -/
def outboundEmailDeliveryLeaseMs : ℤ := 20000 * 3

/-- What the worker has at hand when it prepares an attempt : the head as it claimed it, and what
`resolveMarkedResendRecipient` says. -/
structure WorkerAttempt where
  head : OutboundEmailDeliveryHead
  claimId : String
  attemptId : String
  resolved : Option ChannelAddress
  adapterKey : String
  adapterVersion : String
  capabilities : ProviderCapabilities
  markedEnvelopeDigestSha256 : CanonicalSha256
  providerRequestDigestSha256 : CanonicalSha256
  startedAtMs : ℤ

namespace WorkerAttempt

variable (attempt : WorkerAttempt)

/-- The kind of attempt before a corrected recipient is looked for. -/
def requiredKind : OutboundEmailDeliveryAttemptKind :=
  requiredOutboundEmailAttemptKind attempt.head.val.unknownAttemptCount attempt.capabilities

/-- A corrected recipient, which is asked for after a rejection. -/
def correctedRecipient : Option ChannelAddress :=
  if attempt.requiredKind = .original ∧ attempt.head.val.state = .known_rejected_safe_retryable then
    attempt.resolved
  else none

def attemptKind : OutboundEmailDeliveryAttemptKind :=
  if attempt.correctedRecipient.isSome then .marked_resend else attempt.requiredKind

/-- What `recordAttemptStarted` is given. -/
def startInput : AttemptStartInput where
  deliveryId := attempt.head.val.deliveryId
  expectedDeliveryVersion := attempt.head.val.version
  claimId := attempt.claimId
  leaseMs := outboundEmailDeliveryLeaseMs
  attemptId := attempt.attemptId
  attemptKind := attempt.attemptKind
  authorizedMarkedResend := if attempt.correctedRecipient.isSome then some true else none
  resendEnvelopeDigestSha256 :=
    if attempt.attemptKind = .marked_resend then some attempt.markedEnvelopeDigestSha256 else none
  adapterKey := attempt.adapterKey
  adapterVersion := attempt.adapterVersion
  capabilities := attempt.capabilities
  providerRequestDigestSha256 := attempt.providerRequestDigestSha256
  startedAtMs := attempt.startedAtMs

/-- The address of `immutableSubmission`. -/
def submissionAddress (anchor : DeliveryAnchor) : ChannelAddress :=
  attempt.correctedRecipient.getD anchor.address

end WorkerAttempt

/-! ## Steps -/

/-- What the tables of addresses and observations say about a delivery : the current address of its
contact, and whether a permanent bounce was observed. -/
structure AddressSurroundings where
  current : Option ChannelAddress
  observed : Bool

/-- What `get` of a query answers. -/
inductive QueryAnswer where
  | row
  | null
  deriving DecidableEq

/-- `answer === undefined`. -/
def QueryAnswer.isUndefined : QueryAnswer → Bool
  | .row | .null => false

/-- An attempt that was settled with a permanent bounce. -/
def OutboundEmailDeliveryAttempt.bounced (attempt : OutboundEmailDeliveryAttempt) : Bool :=
  attempt.val.safeEvidence.any (·.permanentBounce)

/-- A step of the system. `retry` is the operation that corrects the address of a contact and hands
its delivery to the worker again. -/
inductive DeliveryEvent where
  | register (deliveryId : String) (references : OutboundDeliveryReferences) (createdAtMs : ℤ)
  | link (deliveryId receiptId : String)
  | claim (deliveryId claimId : String) (nowMs : ℤ)
  | releaseClaim (deliveryId claimId : String) (nowMs : ℤ)
  | retry (deliveryId : String) (expectedDeliveryVersion : ℕ) (occurredAtMs : ℤ)
  | start (addresses : AddressSurroundings) (attempt : WorkerAttempt)
  | settle (surroundings : DeliverySurroundings) (settlement : AttemptSettlement)
      (deliveryId attemptId claimId : String) (completedAtMs : ℤ) (suppressionFactId : String)

/-- The retry operation, as far as it changes the head. -/
def OutboundEmailDeliveryLedger.retryDelivery (ledger : OutboundEmailDeliveryLedger)
    (deliveryId : String) (expectedDeliveryVersion : ℕ) (occurredAtMs : ℤ) :
    Except OutboundDeliveryError OutboundEmailDeliveryLedger := do
  let head ← orRefuse (ledger.heads.get deliveryId)
    OutboundDeliveryError.outbound_delivery_attempt_conflict
  require (head.val.version = expectedDeliveryVersion ∧ head.val.state ≠ .request_started)
    OutboundDeliveryError.outbound_delivery_attempt_conflict
  let (ledger, _) ← ledger.putHead { head.val with
    state := .known_rejected_safe_retryable, version := head.val.version + 1, lease := none
    updatedAtMs := occurredAtMs }
  return ledger

namespace DeliveryTables

variable (anchors : String → DeliveryAnchor) (tables : DeliveryTables)

def Suppressed (workspaceId : String) (lookup : AddressLookup) : Prop :=
  ∃ row ∈ tables.current.get (workspaceId, lookup), row.state = .suppressed

instance (workspaceId : String) (lookup : AddressLookup) :
    Decidable (tables.Suppressed workspaceId lookup) :=
  inferInstanceAs (Decidable (∃ row ∈ tables.current.get (workspaceId, lookup), _))

/-- Whether the query finds a delivery that may be sent again to the current address of its
contact. -/
def eligible (deliveryId : String) (addresses : AddressSurroundings) : Bool :=
  let anchor := anchors deliveryId
  ∃ address ∈ addresses.current,
    (addresses.observed = true ∨ ∃ attempt ∈ tables.ledger.attempts.values,
      attempt.val.deliveryId = deliveryId ∧ attempt.bounced = true) ∧
    (address.channelAddressId ≠ anchor.address.channelAddressId ∨
      address.channelAddressVersion ≠ anchor.address.channelAddressVersion ∨
      address.lookup.keyedValue ≠ anchor.address.lookup.keyedValue) ∧
    ¬ tables.Suppressed anchor.workspaceId address.lookup

/-- The answer of that query. -/
def eligibleAnswer (deliveryId : String) (addresses : AddressSurroundings) : QueryAnswer :=
  if tables.eligible anchors deliveryId addresses then .row else .null

/-- The rows that `#complete` writes for a permanent bounce. -/
def suppress (anchor : DeliveryAnchor) (suppressionFactId attemptId : String)
    (safeEvidence : SafeEvidence) (completedAtMs : ℤ) : DeliveryTables :=
  { tables with
    facts := tables.facts ++ [{
      suppressionFactId, workspaceId := anchor.workspaceId, sourceEventId := anchor.eventId
      address := anchor.address, attemptId, occurredAtMs := completedAtMs, safeEvidence }]
    current := tables.current.set
      (match tables.current.get (anchor.workspaceId, anchor.address.lookup) with
      | none => {
          workspaceId := anchor.workspaceId, lookup := anchor.address.lookup
          currentFactId := suppressionFactId, state := .suppressed, version := 1
          updatedAtMs := completedAtMs }
      | some row => { row with
          currentFactId := suppressionFactId, state := .suppressed, version := row.version + 1
          updatedAtMs := max row.updatedAtMs completedAtMs }) }

/-- `#complete`, with the suppression. -/
def settle (surroundings : DeliverySurroundings) (settlement : AttemptSettlement)
    (deliveryId attemptId claimId : String) (completedAtMs : ℤ) (suppressionFactId : String) :
    Except OutboundDeliveryError (DeliveryTables × OutboundEmailAttemptCompletion) := do
  let input := settlement.completion deliveryId attemptId claimId completedAtMs
  let (ledger, completion) ← tables.ledger.complete surroundings input
  let settled := { tables with ledger }
  match input.safeEvidence with
  | none => return (settled, completion)
  | some evidence =>
    if completion.fenced = false ∧ evidence.permanentBounce = true then
      return (settled.suppress (anchors deliveryId) suppressionFactId attemptId evidence
        completedAtMs, completion)
    else return (settled, completion)

/-- What a step does to the tables, if it does not throw. -/
def apply : DeliveryEvent → Except OutboundDeliveryError DeliveryTables
  | .register deliveryId references createdAtMs => do
    let ledger ← tables.ledger.insertOutboundEmailDeliveryRegistration deliveryId references
      createdAtMs
    return { tables with ledger }
  | .link deliveryId receiptId => do
    let ledger ← tables.ledger.linkOutboundEmailDeliveryReceipt deliveryId receiptId
    return { tables with ledger }
  | .claim deliveryId claimId nowMs => do
    let (ledger, _) ← tables.ledger.claim deliveryId claimId nowMs outboundEmailDeliveryLeaseMs
    return { tables with ledger }
  | .releaseClaim deliveryId claimId nowMs => do
    let ledger ← tables.ledger.releaseClaim deliveryId claimId nowMs
    return { tables with ledger }
  | .retry deliveryId expectedDeliveryVersion occurredAtMs => do
    let ledger ← tables.ledger.retryDelivery deliveryId expectedDeliveryVersion occurredAtMs
    return { tables with ledger }
  | .start addresses attempt => do
    let deliveryId := attempt.head.val.deliveryId
    let (ledger, _) ← tables.ledger.recordAttemptStarted
      ⟨!(tables.eligibleAnswer anchors deliveryId addresses).isUndefined, true, true⟩
      attempt.startInput
    return { tables with
      ledger
      submissions := Function.update tables.submissions attempt.attemptId
        (some (attempt.submissionAddress (anchors deliveryId))) }
  | .settle surroundings settlement deliveryId attemptId claimId completedAtMs suppressionFactId =>
    Prod.fst <$> tables.settle anchors surroundings settlement deliveryId attemptId claimId
      completedAtMs suppressionFactId

/-- The tables after a step : what throws is rolled back. -/
def step (event : DeliveryEvent) : DeliveryTables :=
  match tables.apply anchors event with
  | .ok tables' => tables'
  | .error _ => tables

def initial : DeliveryTables := ⟨.initial, [], .empty, fun _ => none⟩

end DeliveryTables

/-- The tables that steps lead to, each of them permitted where it is made. -/
inductive DeliveryTablesRun (anchors : String → DeliveryAnchor)
    (Permits : DeliveryTables → DeliveryEvent → Prop) : DeliveryTables → Prop where
  | initial : DeliveryTablesRun anchors Permits .initial
  | step {tables : DeliveryTables} {event : DeliveryEvent}
      (h : DeliveryTablesRun anchors Permits tables) (hevent : Permits tables event) :
      DeliveryTablesRun anchors Permits (tables.step anchors event)

namespace DeliveryTables

variable {anchors : String → DeliveryAnchor} {tables tables' : DeliveryTables}

/-! ## What a step can do -/

/-- An attempt of a delivery is settled by the claim that holds it. -/
structure Settles (tables : DeliveryTables) (settlement : AttemptSettlement)
    (deliveryId attemptId claimId : String) (completedAtMs : ℤ)
    (ledger' : OutboundEmailDeliveryLedger) (attempt attempt' : OutboundEmailDeliveryAttempt) :
    Prop where
  held : ∃ head, tables.ledger.heads.get deliveryId = some head ∧ head.val.heldBy claimId = true
  found : tables.ledger.attempts.get attemptId = some attempt
  delivery : attempt.val.deliveryId = deliveryId
  started : attempt.val.state = .request_started
  ended : attempt'.val = OutboundEmailDeliveryLedger.settledAttempt attempt.val
    (settlement.completion deliveryId attemptId claimId completedAtMs)
  attempts : ledger'.attempts = tables.ledger.attempts.set attempt'

/-- What a step does to the tables. -/
inductive TablesChange (anchors : String → DeliveryAnchor) (tables : DeliveryTables) :
    DeliveryEvent → DeliveryTables → Prop where
  | kept {event : DeliveryEvent} {ledger' : OutboundEmailDeliveryLedger}
      (hattempts : ledger'.attempts = tables.ledger.attempts) :
      TablesChange anchors tables event { tables with ledger := ledger' }
  | started {addresses : AddressSurroundings} {attempt : WorkerAttempt}
      {ledger' : OutboundEmailDeliveryLedger} {row : OutboundEmailDeliveryAttempt}
      (hid : row.val.attemptId = attempt.attemptId)
      (hnew : tables.ledger.attempts.get attempt.attemptId = none)
      (hunsettled : row.bounced = false)
      (hattempts : ledger'.attempts = tables.ledger.attempts.set row) :
      TablesChange anchors tables (.start addresses attempt) { tables with
        ledger := ledger'
        submissions := Function.update tables.submissions attempt.attemptId
          (some (attempt.submissionAddress (anchors attempt.head.val.deliveryId))) }
  | settled {surroundings : DeliverySurroundings} {settlement : AttemptSettlement}
      {deliveryId attemptId claimId suppressionFactId : String} {completedAtMs : ℤ}
      {ledger' : OutboundEmailDeliveryLedger} {attempt attempt' : OutboundEmailDeliveryAttempt}
      (hsettles : Settles tables settlement deliveryId attemptId claimId completedAtMs ledger'
        attempt attempt') (hquiet : attempt'.bounced = false) :
      TablesChange anchors tables (.settle surroundings settlement deliveryId attemptId claimId
        completedAtMs suppressionFactId) { tables with ledger := ledger' }
  | bounced {surroundings : DeliverySurroundings} {settlement : AttemptSettlement}
      {deliveryId attemptId claimId suppressionFactId : String} {completedAtMs : ℤ}
      {ledger' : OutboundEmailDeliveryLedger} {attempt attempt' : OutboundEmailDeliveryAttempt}
      {evidence : SafeEvidence}
      (hsettles : Settles tables settlement deliveryId attemptId claimId completedAtMs ledger'
        attempt attempt')
      (hevidence : (settlement.completion deliveryId attemptId claimId completedAtMs).safeEvidence =
        some evidence) (hbounce : evidence.permanentBounce = true) :
      TablesChange anchors tables (.settle surroundings settlement deliveryId attemptId claimId
        completedAtMs suppressionFactId)
        ({ tables with ledger := ledger' }.suppress (anchors deliveryId) suppressionFactId attemptId
          evidence completedAtMs)

theorem attempts_of_retryDelivery {ledger ledger' : OutboundEmailDeliveryLedger}
    {deliveryId : String} {expectedDeliveryVersion : ℕ} {occurredAtMs : ℤ}
    (h : ledger.retryDelivery deliveryId expectedDeliveryVersion occurredAtMs = .ok ledger') :
    ledger'.attempts = ledger.attempts := by
  simp only [OutboundEmailDeliveryLedger.retryDelivery, bind_eq_ok, orRefuse_eq_ok, require_eq_ok,
    pure_eq_ok, Prod.exists, OutboundEmailDeliveryLedger.putHead_eq_ok] at h
  obtain ⟨head, -, -, -, _, head', ⟨-, rfl⟩, rfl⟩ := h
  rfl

theorem attempts_of_claim {ledger ledger' : OutboundEmailDeliveryLedger}
    {deliveryId claimId : String} {nowMs leaseMs : ℤ} {outcome : OutboundEmailDeliveryClaimOutcome}
    (h : ledger.claim deliveryId claimId nowMs leaseMs = .ok (ledger', outcome)) :
    ledger'.attempts = ledger.attempts := by
  simp only [OutboundEmailDeliveryLedger.claim, bind_eq_ok, require_eq_ok] at h
  obtain ⟨-, -, h⟩ := h
  split at h
  · obtain ⟨rfl, -⟩ := Prod.mk.inj (pure_eq_ok.mp h)
    rfl
  · split_ifs at h
    · simp only [bind_eq_ok, pure_eq_ok, Prod.exists, Prod.mk.injEq,
        OutboundEmailDeliveryLedger.putHead_eq_ok] at h
      obtain ⟨_, head', ⟨-, rfl⟩, rfl, -⟩ := h
      rfl
    · obtain ⟨rfl, -⟩ := Prod.mk.inj (pure_eq_ok.mp h)
      rfl
    · obtain ⟨rfl, -⟩ := Prod.mk.inj (pure_eq_ok.mp h)
      rfl

theorem attempts_of_releaseClaim {ledger ledger' : OutboundEmailDeliveryLedger}
    {deliveryId claimId : String} {nowMs : ℤ}
    (h : ledger.releaseClaim deliveryId claimId nowMs = .ok ledger') :
    ledger'.attempts = ledger.attempts := by
  rw [OutboundEmailDeliveryLedger.releaseClaim] at h
  split at h
  · rw [← Except.ok.inj h]
  · split_ifs at h
    · simp only [bind_eq_ok, pure_eq_ok, Prod.exists,
        OutboundEmailDeliveryLedger.putHead_eq_ok] at h
      obtain ⟨_, head', ⟨-, rfl⟩, rfl⟩ := h
      rfl
    · rw [← Except.ok.inj h]

theorem attempts_of_recordAttemptStarted {ledger ledger' : OutboundEmailDeliveryLedger}
    {surroundings : DeliverySurroundings} {input : AttemptStartInput}
    {row : OutboundEmailDeliveryAttempt}
    (h : ledger.recordAttemptStarted surroundings input = .ok (ledger', row)) :
    row.val.attemptId = input.attemptId ∧ ledger.attempts.get input.attemptId = none ∧
      row.bounced = false ∧ ledger'.attempts = ledger.attempts.set row := by
  simp only [OutboundEmailDeliveryLedger.recordAttemptStarted,
    OutboundEmailDeliveryLedger.insertAttempt, bind_eq_ok, orRefuse_eq_ok, require_eq_ok,
    pure_eq_ok, Prod.exists, OutboundEmailDeliveryLedger.putHead_eq_ok,
    OutboundEmailDeliveryLedger.putAttempt_eq_ok, Prod.mk.injEq] at h
  obtain ⟨digest, -, -, -, head, -, -, -, -, -, -, -, -, -, -, -, _, _,
    ⟨-, ⟨hnew, -⟩, hrow, rfl⟩, _, _, ⟨-, rfl⟩, rfl, rfl⟩ := h
  exact ⟨by rw [hrow], hnew, by rw [OutboundEmailDeliveryAttempt.bounced, hrow]; rfl, rfl⟩

theorem settles_of_complete {surroundings : DeliverySurroundings} {settlement : AttemptSettlement}
    {deliveryId attemptId claimId : String} {completedAtMs : ℤ}
    {ledger' : OutboundEmailDeliveryLedger} {completion : OutboundEmailAttemptCompletion}
    (h : tables.ledger.complete surroundings
      (settlement.completion deliveryId attemptId claimId completedAtMs) =
        .ok (ledger', completion)) :
    completion.fenced = true ∧ ledger' = tables.ledger ∨
      completion.fenced = false ∧ ∃ attempt attempt',
        Settles tables settlement deliveryId attemptId claimId completedAtMs ledger' attempt
          attempt' := by
  have hids : (settlement.completion deliveryId attemptId claimId completedAtMs).deliveryId =
        deliveryId ∧
      (settlement.completion deliveryId attemptId claimId completedAtMs).attemptId = attemptId ∧
      (settlement.completion deliveryId attemptId claimId completedAtMs).claimId = claimId := by
    cases settlement <;> exact ⟨rfl, rfl, rfl⟩
  simp only [OutboundEmailDeliveryLedger.complete, bind_eq_ok, orRefuse_eq_ok, require_eq_ok,
    hids.1, hids.2.1, hids.2.2] at h
  obtain ⟨anchor, hanchor, -, -, attempt, hattempt, h⟩ := h
  rw [Option.filter_eq_some_iff] at hattempt
  split_ifs at h with hheld
  · simp only [bind_eq_ok, require_eq_ok, pure_eq_ok, Prod.mk.injEq] at h
    obtain ⟨-, -, rfl, rfl⟩ := h
    exact .inl ⟨rfl, rfl⟩
  · simp only [bind_eq_ok, require_eq_ok, pure_eq_ok, Prod.exists, Prod.mk.injEq,
      OutboundEmailDeliveryLedger.putHead_eq_ok,
      OutboundEmailDeliveryLedger.putAttempt_eq_ok] at h
    obtain ⟨-, ⟨-, -, hstarted⟩, _, attempt', ⟨hrow', rfl⟩, _, head', ⟨-, rfl⟩, -, -, -, -, rfl,
      rfl⟩ := h
    exact .inr ⟨rfl, attempt, attempt', {
      held := ⟨anchor, hanchor, by simpa using hheld⟩
      found := hattempt.1
      delivery := by simpa using hattempt.2
      started := hstarted
      ended := hrow'
      attempts := rfl }⟩

theorem tablesChange_of_apply {event : DeliveryEvent}
    (h : tables.apply anchors event = .ok tables') : TablesChange anchors tables event tables' := by
  cases event with
  | register deliveryId references createdAtMs =>
    simp only [apply, bind_eq_ok, pure_eq_ok,
      OutboundEmailDeliveryLedger.insertOutboundEmailDeliveryRegistration, require_eq_ok,
      Prod.exists, OutboundEmailDeliveryLedger.putHead_eq_ok] at h
    obtain ⟨_, ⟨-, -, _, _, ⟨-, rfl⟩, rfl⟩, rfl⟩ := h
    exact .kept rfl
  | link deliveryId receiptId =>
    simp only [apply, bind_eq_ok, pure_eq_ok,
      OutboundEmailDeliveryLedger.linkOutboundEmailDeliveryReceipt, orRefuse_eq_ok, require_eq_ok,
      Prod.exists, OutboundEmailDeliveryLedger.putHead_eq_ok] at h
    obtain ⟨_, ⟨_, -, -, -, _, _, ⟨-, rfl⟩, rfl⟩, rfl⟩ := h
    exact .kept rfl
  | claim deliveryId claimId nowMs =>
    simp only [apply, bind_eq_ok, pure_eq_ok, Prod.exists] at h
    obtain ⟨ledger', outcome, hclaim, rfl⟩ := h
    exact .kept (attempts_of_claim hclaim)
  | releaseClaim deliveryId claimId nowMs =>
    simp only [apply, bind_eq_ok, pure_eq_ok] at h
    obtain ⟨ledger', hrelease, rfl⟩ := h
    exact .kept (attempts_of_releaseClaim hrelease)
  | retry deliveryId expectedDeliveryVersion occurredAtMs =>
    simp only [apply, bind_eq_ok, pure_eq_ok] at h
    obtain ⟨ledger', hretry, rfl⟩ := h
    exact .kept (attempts_of_retryDelivery hretry)
  | start addresses attempt =>
    simp only [apply, bind_eq_ok, pure_eq_ok, Prod.exists] at h
    obtain ⟨ledger', row, hstart, rfl⟩ := h
    obtain ⟨hid, hnew, hunsettled, hattempts⟩ := attempts_of_recordAttemptStarted hstart
    exact .started hid hnew hunsettled hattempts
  | settle surroundings settlement deliveryId attemptId claimId completedAtMs suppressionFactId =>
    simp only [apply, settle, map_eq_ok, bind_eq_ok, Prod.exists] at h
    obtain ⟨_, completion, ⟨ledger', completion', hcomplete, h⟩, rfl⟩ := h
    have hcases := settles_of_complete hcomplete
    cases hevidence :
        (settlement.completion deliveryId attemptId claimId completedAtMs).safeEvidence with
    | none =>
      simp only [hevidence, pure_eq_ok, Prod.mk.injEq] at h
      obtain ⟨rfl, -⟩ := h
      rcases hcases with ⟨-, rfl⟩ | ⟨-, attempt, attempt', hsettles⟩
      · exact .kept rfl
      · refine .settled hsettles ?_
        rw [OutboundEmailDeliveryAttempt.bounced, hsettles.ended,
          OutboundEmailDeliveryLedger.settledAttempt, hevidence, Option.any_none]
    | some evidence =>
      simp only [hevidence] at h
      split_ifs at h with hbounce
      · obtain ⟨rfl, -⟩ := Prod.mk.inj (pure_eq_ok.mp h)
        rcases hcases with ⟨hfenced, -⟩ | ⟨-, attempt, attempt', hsettles⟩
        · rw [hfenced] at hbounce
          cases hbounce.1
        · exact .bounced hsettles hevidence hbounce.2
      · obtain ⟨rfl, -⟩ := Prod.mk.inj (pure_eq_ok.mp h)
        rcases hcases with ⟨-, rfl⟩ | ⟨hfenced, attempt, attempt', hsettles⟩
        · exact .kept rfl
        · refine .settled hsettles ?_
          rw [OutboundEmailDeliveryAttempt.bounced, hsettles.ended,
            OutboundEmailDeliveryLedger.settledAttempt, hevidence, Option.any_some]
          exact eq_false_of_ne_true fun h => hbounce ⟨hfenced, h⟩

/-- Whatever the query finds, its answer passes the test. -/
theorem apply_start (addresses addresses' : AddressSurroundings) (attempt : WorkerAttempt) :
    tables.apply anchors (.start addresses attempt) =
      tables.apply anchors (.start addresses' attempt) := by
  have hdefined : ∀ deliveryId addresses,
      (tables.eligibleAnswer anchors deliveryId addresses).isUndefined = false := by
    intro deliveryId addresses
    cases tables.eligibleAnswer anchors deliveryId addresses <;> rfl
  simp only [apply, hdefined]

theorem tablesChange_step {event : DeliveryEvent} :
    TablesChange anchors tables event (tables.step anchors event) := by
  rw [step]
  cases h : tables.apply anchors event with
  | ok tables' => exact tablesChange_of_apply h
  | error e => exact .kept rfl

/-! ## Facts and current suppressions -/

def factsOf (tables : DeliveryTables) (key : String × AddressLookup) :
    List AddressSuppressionFact := tables.facts.filter (·.key = key)

/-- What is current of an address is what its facts say : it is suppressed when there is one, by
the last of them, in a version for each of them. -/
def Refreshed (tables : DeliveryTables) : Prop :=
  ∀ key, match tables.current.get key with
    | none => tables.factsOf key = []
    | some row => row.state = .suppressed ∧ row.version = (tables.factsOf key).length ∧
        (tables.factsOf key).getLast?.map (·.suppressionFactId) = some row.currentFactId

theorem get_suppress {anchor : DeliveryAnchor} {suppressionFactId attemptId : String}
    {evidence : SafeEvidence} {completedAtMs : ℤ} (key : String × AddressLookup) :
    (tables.suppress anchor suppressionFactId attemptId evidence completedAtMs).current.get key =
      if (anchor.workspaceId, anchor.address.lookup) = key then
        some (match tables.current.get (anchor.workspaceId, anchor.address.lookup) with
          | none => {
              workspaceId := anchor.workspaceId, lookup := anchor.address.lookup
              currentFactId := suppressionFactId, state := .suppressed, version := 1
              updatedAtMs := completedAtMs }
          | some row => { row with
              currentFactId := suppressionFactId, state := .suppressed, version := row.version + 1
              updatedAtMs := max row.updatedAtMs completedAtMs })
      else tables.current.get key := by
  have hkey : CurrentAddressSuppression.key
      (match tables.current.get (anchor.workspaceId, anchor.address.lookup) with
        | none => {
            workspaceId := anchor.workspaceId, lookup := anchor.address.lookup
            currentFactId := suppressionFactId, state := .suppressed, version := 1
            updatedAtMs := completedAtMs }
        | some row => { row with
            currentFactId := suppressionFactId, state := .suppressed, version := row.version + 1
            updatedAtMs := max row.updatedAtMs completedAtMs }) =
        (anchor.workspaceId, anchor.address.lookup) := by
    cases hget : tables.current.get (anchor.workspaceId, anchor.address.lookup) with
    | none => rfl
    | some row =>
      have hrow : row.key = (anchor.workspaceId, anchor.address.lookup) := KeyedMap.key_of_get hget
      exact hrow
  rw [suppress, KeyedMap.get_set, hkey]

theorem factsOf_suppress {anchor : DeliveryAnchor} {suppressionFactId attemptId : String}
    {evidence : SafeEvidence} {completedAtMs : ℤ} (key : String × AddressLookup) :
    (tables.suppress anchor suppressionFactId attemptId evidence completedAtMs).factsOf key =
      if (anchor.workspaceId, anchor.address.lookup) = key then
        tables.factsOf key ++ [{
          suppressionFactId, workspaceId := anchor.workspaceId, sourceEventId := anchor.eventId
          address := anchor.address, attemptId, occurredAtMs := completedAtMs
          safeEvidence := evidence }]
      else tables.factsOf key := by
  rw [factsOf, suppress, List.filter_append]
  by_cases hkey : (anchor.workspaceId, anchor.address.lookup) = key
  · rw [if_pos hkey, List.filter_singleton, AddressSuppressionFact.key, decide_eq_true hkey]
    rfl
  · rw [if_neg hkey, List.filter_singleton, AddressSuppressionFact.key, decide_eq_false hkey]
    exact List.append_nil _

theorem Refreshed.suppress (h : tables.Refreshed) (anchor : DeliveryAnchor)
    (suppressionFactId attemptId : String) (evidence : SafeEvidence) (completedAtMs : ℤ) :
    (tables.suppress anchor suppressionFactId attemptId evidence completedAtMs).Refreshed := by
  intro key
  rw [get_suppress, factsOf_suppress]
  by_cases hkey : (anchor.workspaceId, anchor.address.lookup) = key
  · rw [if_pos hkey, if_pos hkey]
    have hbefore := h key
    rw [← hkey] at hbefore ⊢
    cases hget : tables.current.get (anchor.workspaceId, anchor.address.lookup) with
    | none =>
      rw [hget] at hbefore
      simp only at hbefore
      simp [hbefore]
    | some row =>
      rw [hget] at hbefore
      simp [hbefore.2.1]
  · rw [if_neg hkey, if_neg hkey]
    exact h key

theorem suppressed_suppress_self {anchor : DeliveryAnchor} {suppressionFactId attemptId : String}
    {evidence : SafeEvidence} {completedAtMs : ℤ} :
    (tables.suppress anchor suppressionFactId attemptId evidence completedAtMs).Suppressed
      anchor.workspaceId anchor.address.lookup := by
  rw [Suppressed, get_suppress, if_pos rfl]
  cases tables.current.get (anchor.workspaceId, anchor.address.lookup) with
  | none => exact ⟨_, rfl, rfl⟩
  | some row => exact ⟨_, rfl, rfl⟩

theorem Suppressed.suppress {workspaceId : String} {lookup : AddressLookup}
    (h : tables.Suppressed workspaceId lookup) {anchor : DeliveryAnchor}
    {suppressionFactId attemptId : String} {evidence : SafeEvidence} {completedAtMs : ℤ} :
    (tables.suppress anchor suppressionFactId attemptId evidence completedAtMs).Suppressed
      workspaceId lookup := by
  by_cases hkey : (anchor.workspaceId, anchor.address.lookup) = (workspaceId, lookup)
  · obtain ⟨rfl, rfl⟩ := Prod.mk.inj hkey
    exact suppressed_suppress_self
  · rw [Suppressed, get_suppress, if_neg hkey]
    exact h

/-! ## Bounces -/

/-- An attempt that bounced suppressed the address that it was submitted to. -/
def BounceSuppressed (anchors : String → DeliveryAnchor) (tables : DeliveryTables)
    (attempt : OutboundEmailDeliveryAttempt) : Prop :=
  ∃ address, tables.submissions attempt.val.attemptId = some address ∧
    (∃ fact ∈ tables.factsOf ((anchors attempt.val.deliveryId).workspaceId, address.lookup),
      fact.attemptId = attempt.val.attemptId) ∧
    tables.Suppressed (anchors attempt.val.deliveryId).workspaceId address.lookup

/-- Bounces suppress the mailboxes that bounced, and nothing else is suppressed. -/
structure BouncesSuppressed (anchors : String → DeliveryAnchor) (tables : DeliveryTables) :
    Prop where
  bounces : ∀ attemptId attempt, tables.ledger.attempts.get attemptId = some attempt →
    attempt.bounced = true → tables.BounceSuppressed anchors attempt
  facts : ∀ fact ∈ tables.facts, ∃ attempt,
    tables.ledger.attempts.get fact.attemptId = some attempt ∧ attempt.bounced = true ∧
      ∃ address, tables.submissions fact.attemptId = some address ∧
        fact.key = ((anchors attempt.val.deliveryId).workspaceId, address.lookup)
  refreshed : tables.Refreshed

def Submitted (tables : DeliveryTables) : Prop :=
  ∀ attemptId attempt, tables.ledger.attempts.get attemptId = some attempt →
    ∃ address, tables.submissions attemptId = some address

/-- The condition on a step : a permanent bounce is reported by the claim that holds the delivery
only for an attempt that was addressed as the delivery is. -/
def AddressedAsDelivery (anchors : String → DeliveryAnchor) (tables : DeliveryTables) :
    DeliveryEvent → Prop
  | .settle _ settlement deliveryId attemptId claimId completedAtMs _ =>
    (settlement.completion deliveryId attemptId claimId completedAtMs).safeEvidence.any
      (·.permanentBounce) = true →
    (∃ head, tables.ledger.heads.get deliveryId = some head ∧ head.val.heldBy claimId = true) →
    ∀ address ∈ tables.submissions attemptId, address.lookup = (anchors deliveryId).address.lookup
  | _ => True

/-- The condition on a start : the corrected address that the worker resolved is not suppressed. -/
def ResolvesClear (anchors : String → DeliveryAnchor) (tables : DeliveryTables) :
    DeliveryEvent → Prop
  | .start _ attempt => ∀ corrected ∈ attempt.correctedRecipient,
    ¬ tables.Suppressed (anchors attempt.head.val.deliveryId).workspaceId corrected.lookup
  | _ => True

section Settles

variable {settlement : AttemptSettlement} {deliveryId attemptId claimId : String}
  {completedAtMs : ℤ} {ledger' : OutboundEmailDeliveryLedger}
  {attempt attempt' : OutboundEmailDeliveryAttempt}

theorem Settles.attemptId_eq
    (h : Settles tables settlement deliveryId attemptId claimId completedAtMs ledger' attempt
      attempt') : attempt'.val.attemptId = attemptId := by
  have hid := KeyedMap.key_of_get h.found
  rw [h.ended]
  exact hid

theorem Settles.deliveryId_eq
    (h : Settles tables settlement deliveryId attemptId claimId completedAtMs ledger' attempt
      attempt') : attempt'.val.deliveryId = deliveryId := by
  rw [h.ended]
  exact h.delivery

theorem Settles.not_bounced
    (h : Settles tables settlement deliveryId attemptId claimId completedAtMs ledger' attempt
      attempt') : attempt.bounced = false := by
  rcases attempt.property.resolved with ⟨-, -, -, -, hevidence, -⟩ | ⟨hstate, -⟩
  · rw [OutboundEmailDeliveryAttempt.bounced, hevidence, Option.any_none]
  · exact absurd h.started hstate

theorem Settles.get
    (h : Settles tables settlement deliveryId attemptId claimId completedAtMs ledger' attempt
      attempt') (other : String) :
    ledger'.attempts.get other =
      if attemptId = other then some attempt' else tables.ledger.attempts.get other := by
  rw [h.attempts, KeyedMap.get_set, h.attemptId_eq]

theorem Settles.get_of_bounced
    (h : Settles tables settlement deliveryId attemptId claimId completedAtMs ledger' attempt
      attempt') {other : String} {found : OutboundEmailDeliveryAttempt}
    (hget : tables.ledger.attempts.get other = some found) (hbounced : found.bounced = true) :
    ledger'.attempts.get other = some found := by
  rw [h.get, if_neg, hget]
  rintro rfl
  rw [← Option.some.inj (h.found.symm.trans hget), h.not_bounced] at hbounced
  cases hbounced

theorem Settles.submitted
    (h : Settles tables settlement deliveryId attemptId claimId completedAtMs ledger' attempt
      attempt') (hsubmitted : tables.Submitted) {other : String}
    {found : OutboundEmailDeliveryAttempt} (hget : ledger'.attempts.get other = some found) :
    ∃ address, tables.submissions other = some address := by
  rw [h.get] at hget
  split_ifs at hget with hkey
  · rw [← hkey]
    exact hsubmitted _ _ h.found
  · exact hsubmitted _ _ hget

end Settles

theorem Submitted.change {event : DeliveryEvent} (h : tables.Submitted)
    (hchange : TablesChange anchors tables event tables') : tables'.Submitted := by
  intro attemptId attempt hget
  cases hchange with
  | kept hattempts =>
    rw [hattempts] at hget
    exact h attemptId attempt hget
  | @started _ worker _ row hid hnew _ hattempts =>
    by_cases hkey : attemptId = worker.attemptId
    · rw [hkey]
      exact ⟨_, Function.update_self ..⟩
    · rw [hattempts, KeyedMap.get_set, hid, if_neg fun heq => hkey heq.symm] at hget
      obtain ⟨address, haddress⟩ := h attemptId attempt hget
      exact ⟨address, (Function.update_of_ne hkey _ _).trans haddress⟩
  | settled hsettles _ => exact hsettles.submitted h hget
  | bounced hsettles _ _ => exact hsettles.submitted h hget

theorem BounceSuppressed.started {attempt : OutboundEmailDeliveryAttempt}
    (h : tables.BounceSuppressed anchors attempt) {ledger' : OutboundEmailDeliveryLedger}
    {attemptId : String} {address : ChannelAddress} (hne : attempt.val.attemptId ≠ attemptId) :
    BounceSuppressed anchors { tables with
      ledger := ledger'
      submissions := Function.update tables.submissions attemptId (some address) } attempt := by
  obtain ⟨submitted, hsubmitted, hfacts, hsuppressed⟩ := h
  exact ⟨submitted, (Function.update_of_ne hne _ _).trans hsubmitted, hfacts, hsuppressed⟩

theorem BounceSuppressed.suppress {attempt : OutboundEmailDeliveryAttempt}
    (h : tables.BounceSuppressed anchors attempt) (anchor : DeliveryAnchor)
    (suppressionFactId attemptId : String) (evidence : SafeEvidence) (completedAtMs : ℤ) :
    (tables.suppress anchor suppressionFactId attemptId evidence completedAtMs).BounceSuppressed
      anchors attempt := by
  obtain ⟨submitted, hsubmitted, ⟨fact, hfact, hid⟩, hsuppressed⟩ := h
  refine ⟨submitted, hsubmitted, ⟨fact, ?_, hid⟩, hsuppressed.suppress⟩
  rw [factsOf_suppress]
  split_ifs
  · exact List.mem_append_left _ hfact
  · exact hfact

theorem bounceSuppressed_suppress {deliveryId attemptId suppressionFactId : String}
    {evidence : SafeEvidence} {completedAtMs : ℤ} {attempt : OutboundEmailDeliveryAttempt}
    {address : ChannelAddress} (hid : attempt.val.attemptId = attemptId)
    (hdelivery : attempt.val.deliveryId = deliveryId)
    (hsubmitted : tables.submissions attemptId = some address)
    (hlookup : address.lookup = (anchors deliveryId).address.lookup) :
    (tables.suppress (anchors deliveryId) suppressionFactId attemptId evidence
      completedAtMs).BounceSuppressed anchors attempt := by
  refine ⟨address, by rw [hid]; exact hsubmitted, ?_, ?_⟩
  · rw [hid, hdelivery, hlookup, factsOf_suppress, if_pos rfl]
    exact ⟨_, List.mem_append_right _ (List.mem_singleton_self _), rfl⟩
  · rw [hdelivery, hlookup]
    exact suppressed_suppress_self

theorem BouncesSuppressed.change {event : DeliveryEvent} (hsubmitted : tables.Submitted)
    (h : tables.BouncesSuppressed anchors)
    (haddressed : tables.AddressedAsDelivery anchors event)
    (hchange : TablesChange anchors tables event tables') :
    tables'.BouncesSuppressed anchors := by
  cases hchange with
  | kept hattempts =>
    refine ⟨fun attemptId attempt hget hbounced => ?_, fun fact hfact => ?_, h.refreshed⟩
    · rw [hattempts] at hget
      exact h.bounces attemptId attempt hget hbounced
    · rw [hattempts]
      exact h.facts fact hfact
  | @started _ worker _ row hid hnew hunsettled hattempts =>
    refine ⟨fun attemptId attempt hget hbounced => ?_, fun fact hfact => ?_, h.refreshed⟩
    · rw [hattempts, KeyedMap.get_set, hid] at hget
      split_ifs at hget with hkey
      · rw [← Option.some.inj hget, hunsettled] at hbounced
        cases hbounced
      · have hown := KeyedMap.key_of_get hget
        refine (h.bounces attemptId attempt hget hbounced).started ?_
        rw [hown]
        exact fun heq => hkey heq.symm
    · obtain ⟨attempt, hget, hbounced, address, haddress, hkey⟩ := h.facts fact hfact
      have hne : fact.attemptId ≠ worker.attemptId := by
        intro heq
        rw [heq, hnew] at hget
        cases hget
      refine ⟨attempt, ?_, hbounced, address, (Function.update_of_ne hne _ _).trans haddress, hkey⟩
      rw [hattempts, KeyedMap.get_set, hid, if_neg hne.symm]
      exact hget
  | settled hsettles hquiet =>
    refine ⟨fun other found hget hbounced => ?_, fun fact hfact => ?_, h.refreshed⟩
    · rw [hsettles.get] at hget
      split_ifs at hget with hkey
      · rw [← Option.some.inj hget, hquiet] at hbounced
        cases hbounced
      · exact h.bounces other found hget hbounced
    · obtain ⟨found, hget, hbounced, haddress⟩ := h.facts fact hfact
      exact ⟨found, hsettles.get_of_bounced hget hbounced, hbounced, haddress⟩
  | @bounced _ settlement deliveryId attemptId claimId suppressionFactId completedAtMs _ attempt
      attempt' evidence hsettles hevidence hbounce =>
    obtain ⟨address, haddress⟩ := hsubmitted attemptId attempt hsettles.found
    have hlookup : address.lookup = (anchors deliveryId).address.lookup :=
      haddressed (by rw [hevidence]; exact hbounce) hsettles.held address haddress
    have hbounced : attempt'.bounced = true := by
      rw [OutboundEmailDeliveryAttempt.bounced, hsettles.ended,
        OutboundEmailDeliveryLedger.settledAttempt, hevidence]
      exact hbounce
    refine ⟨fun other found hget hfound => ?_, fun fact hfact => ?_, h.refreshed.suppress _ _ _ _ _⟩
    · rw [suppress, hsettles.get] at hget
      split_ifs at hget with hkey
      · obtain rfl := Option.some.inj hget
        exact bounceSuppressed_suppress hsettles.attemptId_eq hsettles.deliveryId_eq haddress
          hlookup
      · exact (h.bounces other found hget hfound).suppress ..
    · rw [suppress] at hfact
      rcases List.mem_append.mp hfact with hfact | hfact
      · obtain ⟨found, hget, hfound, hrest⟩ := h.facts fact hfact
        exact ⟨found, hsettles.get_of_bounced hget hfound, hfound, hrest⟩
      · obtain rfl := List.mem_singleton.mp hfact
        refine ⟨attempt', ?_, hbounced, address, haddress, ?_⟩
        · rw [suppress, hsettles.get, if_pos rfl]
        · rw [hsettles.deliveryId_eq, hlookup]
          rfl

/-! ## Runs -/

theorem submitted_of_run {Permits : DeliveryTables → DeliveryEvent → Prop}
    (h : DeliveryTablesRun anchors Permits tables) : tables.Submitted := by
  induction h with
  | initial => exact fun _ _ hget => nomatch hget
  | step _ _ ih => exact ih.change tablesChange_step

theorem bouncesSuppressed_of_run
    (h : DeliveryTablesRun anchors (AddressedAsDelivery anchors) tables) :
    tables.BouncesSuppressed anchors := by
  induction h with
  | initial => exact ⟨(fun _ _ hget => nomatch hget), (fun _ hfact => nomatch hfact), fun _ => rfl⟩
  | step hrun hevent ih => exact ih.change (submitted_of_run hrun) hevent tablesChange_step

/-- What one transaction writes for a bounce : one fact about an address, and its row. -/
structure WritesSuppression (tables tables' : DeliveryTables) (attemptId : String)
    (key : String × AddressLookup) : Prop where
  fact : ∃ fact, tables'.facts = tables.facts ++ [fact] ∧ fact.attemptId = attemptId ∧
    fact.key = key ∧ ∃ row, tables'.current.get key = some row ∧ row.state = .suppressed ∧
      row.currentFactId = fact.suppressionFactId
  others : ∀ other, other ≠ key → tables'.current.get other = tables.current.get other

theorem writesSuppression_suppress {anchor : DeliveryAnchor}
    {ledger' : OutboundEmailDeliveryLedger} {suppressionFactId attemptId : String}
    {evidence : SafeEvidence} {completedAtMs : ℤ} :
    WritesSuppression tables
      ({ tables with ledger := ledger' }.suppress anchor suppressionFactId attemptId evidence
        completedAtMs) attemptId (anchor.workspaceId, anchor.address.lookup) := by
  refine ⟨⟨_, rfl, rfl, rfl, ?_⟩, fun other hne => ?_⟩
  · rw [get_suppress, if_pos rfl]
    cases tables.current.get (anchor.workspaceId, anchor.address.lookup) with
    | none => exact ⟨_, rfl, rfl, rfl⟩
    | some row => exact ⟨_, rfl, rfl, rfl⟩
  · rw [get_suppress, if_neg hne.symm]

end DeliveryTables

open DeliveryTables

variable {anchors : String → DeliveryAnchor} {tables : DeliveryTables}

/-- As long as the bounces are of attempts that were addressed as their delivery is, every bounce
suppresses the mailbox that bounced, nothing else is suppressed, the transaction that settles a
bounce writes one fact and the row of that mailbox, the query for a resend finds no row for a
mailbox that bounced, and none is sent to it as long as the worker resolves no suppressed address.
The ledger itself refuses no resend for the answer of the query. -/
theorem bounces_suppressed
    (hrun : DeliveryTablesRun anchors (AddressedAsDelivery anchors) tables) :
    tables.BouncesSuppressed anchors ∧
    (∀ surroundings settlement deliveryId attemptId claimId completedAtMs suppressionFactId,
      tables.AddressedAsDelivery anchors (.settle surroundings settlement deliveryId attemptId
        claimId completedAtMs suppressionFactId) →
      (settlement.completion deliveryId attemptId claimId completedAtMs).safeEvidence.any
        (·.permanentBounce) = true →
      ∀ tables' completion, tables.settle anchors surroundings settlement deliveryId attemptId
          claimId completedAtMs suppressionFactId = .ok (tables', completion) →
        completion.fenced = false →
        ∃ address, tables.submissions attemptId = some address ∧
          WritesSuppression tables tables' attemptId
            ((anchors deliveryId).workspaceId, address.lookup)) ∧
    (∀ attemptId attempt, tables.ledger.attempts.get attemptId = some attempt →
      attempt.bounced = true → ∃ address, tables.submissions attemptId = some address ∧
        ∀ deliveryId addresses,
          (anchors deliveryId).workspaceId = (anchors attempt.val.deliveryId).workspaceId →
          (∀ current ∈ addresses.current, current.lookup = address.lookup) →
          tables.eligible anchors deliveryId addresses = false) ∧
    (∀ attemptId attempt, tables.ledger.attempts.get attemptId = some attempt →
      attempt.bounced = true → ∃ address, tables.submissions attemptId = some address ∧
        ∀ addresses resend, tables.ResolvesClear anchors (.start addresses resend) →
          (anchors resend.head.val.deliveryId).workspaceId =
            (anchors attempt.val.deliveryId).workspaceId →
          ∀ corrected ∈ resend.correctedRecipient, corrected.lookup ≠ address.lookup) ∧
    ∀ addresses addresses' resend, tables.apply anchors (.start addresses resend) =
      tables.apply anchors (.start addresses' resend) := by
  have hbounces := bouncesSuppressed_of_run hrun
  refine ⟨hbounces, ?_, ?_, ?_, apply_start⟩
  · intro surroundings settlement deliveryId attemptId claimId completedAtMs suppressionFactId
      haddressed hbounce tables' completion hsettle hfenced
    simp only [settle, bind_eq_ok, Prod.exists] at hsettle
    obtain ⟨ledger', completion', hcomplete, hsettle⟩ := hsettle
    cases hevidence :
        (settlement.completion deliveryId attemptId claimId completedAtMs).safeEvidence with
    | none =>
      rw [hevidence] at hbounce
      cases hbounce
    | some evidence =>
      rw [hevidence, Option.any_some] at hbounce
      simp only [hevidence] at hsettle
      split_ifs at hsettle with hwrites
      · obtain ⟨rfl, rfl⟩ := Prod.mk.inj (pure_eq_ok.mp hsettle)
        rcases settles_of_complete hcomplete with ⟨htrue, -⟩ | ⟨-, attempt, attempt', hsettles⟩
        · rw [htrue] at hfenced
          cases hfenced
        · obtain ⟨address, haddress⟩ := submitted_of_run hrun attemptId attempt hsettles.found
          have hlookup : address.lookup = (anchors deliveryId).address.lookup :=
            haddressed (by rw [hevidence]; exact hbounce) hsettles.held address haddress
          refine ⟨address, haddress, ?_⟩
          rw [hlookup]
          exact writesSuppression_suppress
      · obtain ⟨-, rfl⟩ := Prod.mk.inj (pure_eq_ok.mp hsettle)
        exact absurd ⟨hfenced, hbounce⟩ hwrites
  · intro attemptId attempt hget hbounced
    obtain ⟨address, haddress, -, hsuppressed⟩ := hbounces.bounces attemptId attempt hget hbounced
    have hid := KeyedMap.key_of_get hget
    refine ⟨address, by rw [← hid]; exact haddress, ?_⟩
    intro deliveryId addresses hworkspace hlookup
    rw [eligible, decide_eq_false_iff_not]
    rintro ⟨current, hcurrent, -, -, hclear⟩
    rw [hlookup current hcurrent, hworkspace] at hclear
    exact hclear hsuppressed
  · intro attemptId attempt hget hbounced
    obtain ⟨address, haddress, -, hsuppressed⟩ := hbounces.bounces attemptId attempt hget hbounced
    have hid := KeyedMap.key_of_get hget
    refine ⟨address, by rw [← hid]; exact haddress, ?_⟩
    intro addresses resend hclear hworkspace corrected hcorrected hlookup
    refine hclear corrected hcorrected ?_
    rw [hlookup, hworkspace]
    exact hsuppressed

/-! ## A corrected address that bounces -/

namespace SuppressionExample

open OutboundDeliveryExample

def profile : String := "communication.address-lookup"

def first : ChannelAddress := ⟨"address-1", 1, profile, 1, reviewedDigest.val⟩

/-- The address that an organizer typed in after the bounce. -/
def second : ChannelAddress := ⟨"address-1", 2, profile, 1, resentDigest.val⟩

/-- The first address, typed in again. -/
def retyped : ChannelAddress := ⟨"address-1", 2, profile, 1, reviewedDigest.val⟩

def anchor : DeliveryAnchor := ⟨"workspace-1", "event-1", first⟩

/-- The provider took the message and said that the mailbox bounces. -/
def bounced : AttemptSettlement :=
  .reported (.accepted (some "message-1") ⟨"submission.accepted", "corr1_00000000", reviewedDigest,
    [⟨"cloudflare.observation", 1, .enum "accepted_permanent_bounce"⟩]⟩)

def settle (attemptId claimId : String) (completedAtMs : ℤ) : DeliveryEvent :=
  .settle correctedSurroundings bounced "delivery-1" attemptId claimId completedAtMs attemptId

def start (tables : DeliveryTables) (claimId attemptId : String) (resolved : Option ChannelAddress)
    (startedAtMs : ℤ) : DeliveryTables :=
  match tables.ledger.heads.get "delivery-1" with
  | none => tables
  | some head => tables.step (fun _ => anchor) (.start ⟨resolved, true⟩ {
      head, claimId, attemptId, resolved
      adapterKey := "cloudflare.email", adapterVersion := "1"
      capabilities := ⟨.none, .none, []⟩
      markedEnvelopeDigestSha256 := resentDigest, providerRequestDigestSha256 := reviewedDigest
      startedAtMs })

/-- A first attempt, at the address of the delivery. -/
def firstStarted : DeliveryTables :=
  start (((DeliveryTables.initial.step (fun _ => anchor)
    (.register "delivery-1" ⟨1, reviewedDigest, reviewedDigest, 1, 1, 1⟩ 1000)).step
    (fun _ => anchor) (.link "delivery-1" "receipt-1")).step
    (fun _ => anchor) (.claim "delivery-1" "claim-1" 2000)) "claim-1" "attempt-1" none 2001

def firstBounced : DeliveryTables :=
  firstStarted.step (fun _ => anchor) (settle "attempt-1" "claim-1" 3000)

/-- The address is corrected, and the message is sent to the one that the worker resolves. -/
def correctedStarted (resolved : ChannelAddress) : DeliveryTables :=
  start ((firstBounced.step (fun _ => anchor) (.retry "delivery-1" 3 4000)).step (fun _ => anchor)
    (.claim "delivery-1" "claim-2" 5000)) "claim-2" "attempt-2" (some resolved) 5001

def correctedBounced (resolved : ChannelAddress) : DeliveryTables :=
  (correctedStarted resolved).step (fun _ => anchor) (settle "attempt-2" "claim-2" 6000)

/-- The same address is resolved once more, and the message is sent to it again. -/
def resent (resolved : ChannelAddress) : DeliveryTables :=
  start (((correctedBounced resolved).step (fun _ => anchor) (.retry "delivery-1" 6 7000)).step
    (fun _ => anchor) (.claim "delivery-1" "claim-3" 8000)) "claim-3" "attempt-3" (some resolved)
    8001

def isSettle : DeliveryEvent → Bool
  | .settle .. => true
  | .register .. | .link .. | .claim .. | .releaseClaim .. | .retry .. | .start .. => false

section

variable {Permits : DeliveryTables → DeliveryEvent → Prop}
  (hother : ∀ tables event, isSettle event = false → Permits tables event)

include hother

theorem run_start {tables : DeliveryTables}
    (h : DeliveryTablesRun (fun _ => anchor) Permits tables) {claimId attemptId : String}
    {resolved : Option ChannelAddress} {startedAtMs : ℤ} :
    DeliveryTablesRun (fun _ => anchor) Permits
      (start tables claimId attemptId resolved startedAtMs) := by
  rw [start]
  split
  · exact h
  · exact h.step (hother _ _ rfl)

theorem run_firstStarted : DeliveryTablesRun (fun _ => anchor) Permits firstStarted :=
  run_start hother (((DeliveryTablesRun.initial.step (hother _ _ rfl)).step
    (hother _ _ rfl)).step (hother _ _ rfl))

variable (hfirst : Permits firstStarted (settle "attempt-1" "claim-1" 3000))

include hfirst

theorem run_correctedStarted (resolved : ChannelAddress) :
    DeliveryTablesRun (fun _ => anchor) Permits (correctedStarted resolved) :=
  run_start hother ((((run_firstStarted hother).step hfirst).step (hother _ _ rfl)).step
    (hother _ _ rfl))

theorem run_resent {resolved : ChannelAddress}
    (hsecond : Permits (correctedStarted resolved) (settle "attempt-2" "claim-2" 6000)) :
    DeliveryTablesRun (fun _ => anchor) Permits (resent resolved) :=
  run_start hother ((((run_correctedStarted hother hfirst resolved).step hsecond).step
    (hother _ _ rfl)).step (hother _ _ rfl))

end

theorem addressed_of_submitted {tables : DeliveryTables} {attemptId claimId : String}
    {completedAtMs : ℤ} (address : ChannelAddress)
    (hsubmitted : tables.submissions attemptId = some address)
    (hlookup : address.lookup = first.lookup) :
    tables.AddressedAsDelivery (fun _ => anchor) (settle attemptId claimId completedAtMs) := by
  rintro - - submitted hmem
  obtain rfl := Option.some.inj (hsubmitted.symm.trans hmem)
  exact hlookup

theorem addressed_of_other (tables : DeliveryTables) (event : DeliveryEvent)
    (h : isSettle event = false) : tables.AddressedAsDelivery (fun _ => anchor) event := by
  cases event with
  | settle => cases h
  | register | link | claim | releaseClaim | retry | start => exact trivial

theorem addressed_first :
    firstStarted.AddressedAsDelivery (fun _ => anchor) (settle "attempt-1" "claim-1" 3000) :=
  addressed_of_submitted first (by decide +kernel) rfl

end SuppressionExample

open SuppressionExample

/-- The first address bounced and is suppressed, and the worker sends to another one. -/
theorem bounces_suppressed_first :
    firstBounced.BouncesSuppressed (fun _ => anchor) ∧
      (firstBounced.facts.map fun fact => (fact.attemptId, fact.address)) = [("attempt-1", first)] ∧
      firstBounced.eligible (fun _ => anchor) "delivery-1" ⟨some retyped, true⟩ = false ∧
      firstBounced.eligible (fun _ => anchor) "delivery-1" ⟨some second, true⟩ = true ∧
      (correctedStarted second).BouncesSuppressed (fun _ => anchor) ∧
      (correctedStarted second).submissions "attempt-2" = some second := by
  have hrun : DeliveryTablesRun (fun _ => anchor) (AddressedAsDelivery fun _ => anchor)
      firstBounced :=
    (run_firstStarted addressed_of_other).step addressed_first
  exact ⟨(bounces_suppressed hrun).1, by decide +kernel, by decide +kernel, by decide +kernel,
    (bounces_suppressed (run_correctedStarted addressed_of_other addressed_first second)).1,
    by decide +kernel⟩

/-- A corrected address bounces, but the address of the delivery is suppressed again, and the
message may be sent to the corrected one once more. And where a resend bounces from a mailbox that
is suppressed for it, another one is sent there all the same. -/
theorem corrected_address_bounces_unnoticed :
    (DeliveryTablesRun (fun _ => anchor) (fun _ _ => True) (correctedBounced second) ∧
      ((correctedBounced second).ledger.attempts.get "attempt-2").map (·.bounced) = some true ∧
      (correctedBounced second).submissions "attempt-2" = some second ∧
      ((correctedBounced second).facts.map fun fact => (fact.attemptId, fact.address)) =
        [("attempt-1", first), ("attempt-2", first)] ∧
      ¬ (correctedBounced second).Suppressed "workspace-1" second.lookup ∧
      (correctedBounced second).eligible (fun _ => anchor) "delivery-1" ⟨some second, true⟩ = true ∧
      ¬ (correctedBounced second).BouncesSuppressed (fun _ => anchor)) ∧
    DeliveryTablesRun (fun _ => anchor) (AddressedAsDelivery fun _ => anchor) (resent retyped) ∧
      (resent retyped).BouncesSuppressed (fun _ => anchor) ∧
      ((resent retyped).ledger.attempts.get "attempt-2").map (·.bounced) = some true ∧
      (correctedBounced retyped).Suppressed "workspace-1" retyped.lookup ∧
      (correctedBounced retyped).eligible (fun _ => anchor) "delivery-1" ⟨some retyped, true⟩ =
        false ∧
      ((resent retyped).ledger.attempts.get "attempt-3").map (·.val.attemptKind) =
        some .marked_resend ∧
      (resent retyped).submissions "attempt-3" = some retyped := by
  constructor
  · have hbounced : ((correctedBounced second).ledger.attempts.get "attempt-2").map (·.bounced) =
        some true := by decide +kernel
    have hsubmitted : (correctedBounced second).submissions "attempt-2" = some second := by
      decide +kernel
    have hclear : ¬ (correctedBounced second).Suppressed "workspace-1" second.lookup := by
      decide +kernel
    refine ⟨(run_correctedStarted (fun _ _ _ => trivial) trivial second).step trivial, hbounced,
      hsubmitted, by decide +kernel, hclear, by decide +kernel, fun h => ?_⟩
    obtain ⟨attempt, hget, hattempt⟩ := Option.map_eq_some_iff.mp hbounced
    obtain ⟨address, haddress, -, hsuppressed⟩ := h.bounces "attempt-2" attempt hget hattempt
    have hid := KeyedMap.key_of_get hget
    rw [hid, hsubmitted] at haddress
    obtain rfl := Option.some.inj haddress
    exact hclear hsuppressed
  · have hrun : DeliveryTablesRun (fun _ => anchor) (AddressedAsDelivery fun _ => anchor)
        (resent retyped) :=
      run_resent addressed_of_other addressed_first
        (addressed_of_submitted retyped (by decide +kernel) rfl)
    exact ⟨hrun, bouncesSuppressed_of_run hrun, by decide +kernel, by decide +kernel,
      by decide +kernel, by decide +kernel, by decide +kernel⟩

end JooEvents
