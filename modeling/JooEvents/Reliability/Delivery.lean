import JooEvents.Lib.Thread
import JooEvents.Reliability.WorkState

/-!
# Consumer deliveries

A pointer to a source is delivered to every consumer that accepts the source. A delivery is
work that is claimed under a lease, also after the lease of another worker has expired, and
completed under its fence. An attempt whose lease was taken over is recorded as having lost
its fence, and does not count against the attempts a delivery may take.
-/

namespace JooEvents

open Fallible

/-- A pointer to the source of deliveries. -/
structure OutboxPointerRef where
  key : OutboxPointerKey
  source : ConsumerSourceRef
  sourceIdentity : OpaqueSourceIdentity
  sourceVersion : Version
  availableAt : Instant
  deriving DecidableEq

abbrev ConsumerAttemptId := ApplicationId

abbrev ConsumerDeliveryId := ApplicationId

/-- `ConsumerDeliverySemanticKey` : what a delivery is the only one of. -/
abbrev ConsumerDeliverySemanticKey := String

/-- A delivery to be created. -/
structure ConsumerDeliveryDraft where
  semanticKey : ConsumerDeliverySemanticKey
  pointer : OutboxPointerRef
  consumer : DefinitionRef
  definitionDigestSha256 : CanonicalSha256
  targetOperation : DefinitionRef
  inputProjection : DefinitionRef
  capabilityRevisionId : ApplicationId
  authorityCitation : DefinitionRef
  maximumAttempts : ℕ
  leaseDurationMs : ℕ
  deriving DecidableEq

/-- A delivery. Its attempts have no results. -/
structure ConsumerDelivery extends ConsumerDeliveryDraft, WorkState ConsumerAttemptId Unit where
  id : ConsumerDeliveryId
  deriving DecidableEq

abbrev ClaimConsumerDeliveryInput := ClaimInput ConsumerAttemptId

/-- How a worker completes a delivery. -/
inductive ConsumerDeliveryCompletion where
  | succeeded
  | retry (retryAt : Instant) (failure : SafeFailure)
  | dead_lettered (failure : SafeFailure)
  | cancelled (reasonCode : String)

def materializeConsumerDelivery (draft : ConsumerDeliveryDraft) (id : ConsumerDeliveryId) :
    ConsumerDelivery :=
  { draft, WorkState.pending draft.pointer.availableAt with id }

/-- `countConsumerPolicyAttempts` : the attempts that have not lost their fence. -/
def countConsumerPolicyAttempts (attempts : List (WorkAttempt ConsumerAttemptId Unit)) : ℕ :=
  attempts.countP fun attempt => attempt.finish.map (·.state) ≠ some .lost_fence

def claimConsumerDelivery (delivery : ConsumerDelivery) (input : ClaimConsumerDeliveryInput) :
    Except ReliabilityError ConsumerDelivery := do
  assertAfter input.leaseExpiresAt input.now "consumer delivery lease expiry"
  assertWithinDuration input.leaseExpiresAt input.now delivery.leaseDurationMs
    "consumer delivery lease expiry"
  assertWorkerKey input.ownerKey
  require (isTerminal delivery.state = false)
    (.transition .terminal "terminal consumer delivery cannot be claimed")
  require (¬ (delivery.state = .leased ∧ ∃ lease ∈ delivery.lease, input.now < lease.expiresAt))
    (.transition .lease_busy "consumer delivery lease has not expired")
  require (¬ (delivery.state ≠ .leased ∧ ∃ due ∈ delivery.nextActionAt, input.now < due))
    (.transition .not_ready "consumer delivery is not due")
  -- the attempt of an expired lease is about to lose its fence
  let expiredAttempt := if delivery.state = .leased then
      delivery.lease.bind fun lease => findRunning delivery.attempts lease.attemptId
    else none
  let policyAttemptsBeforeClaim := countConsumerPolicyAttempts delivery.attempts -
    (if expiredAttempt.isNone then 0 else 1)
  require (policyAttemptsBeforeClaim < delivery.maximumAttempts)
    (.transition .attempt_limit "consumer delivery attempt limit reached")
  require (∀ attempt ∈ delivery.attempts, attempt.id ≠ input.attemptId)
    (.transition .duplicate_identity "consumer attempt ID was already used")
  let work ← delivery.claim input
  return { delivery with toWorkState := work }

def consumerDeliveryOutcome (delivery : ConsumerDelivery) (completedAt : Instant) :
    ConsumerDeliveryCompletion → Except ReliabilityError (Outcome Unit)
  | .succeeded =>
    return { state := .succeeded, attemptState := .succeeded, nextActionAt := none, result := ()
             failure := none }
  | .cancelled reasonCode => do
    assertSafeCode reasonCode "consumer cancellation reason"
    return { state := .cancelled, attemptState := .cancelled, nextActionAt := none, result := ()
             failure := none }
  | .retry retryAt failure => do
    assertSafeCode failure.code "consumer failure code"
    if countConsumerPolicyAttempts delivery.attempts < delivery.maximumAttempts then do
      assertAfter retryAt completedAt "consumer retry time"
      return { state := .retry_wait, attemptState := .retry_scheduled, nextActionAt := some retryAt
               result := (), failure := some failure }
    else
      return { state := .dead_lettered, attemptState := .dead_lettered, nextActionAt := none
               result := (), failure := some failure }
  | .dead_lettered failure => do
    assertSafeCode failure.code "consumer failure code"
    return { state := .dead_lettered, attemptState := .dead_lettered, nextActionAt := none
             result := (), failure := some failure }

def completeConsumerDelivery (delivery : ConsumerDelivery) (fence : LeaseFence)
    (completedAt : Instant) (completion : ConsumerDeliveryCompletion) :
    Except ReliabilityError ConsumerDelivery := do
  let (attemptIndex, running) ←
    delivery.leasedAttempt "consumer delivery" "consumer" fence completedAt
  let outcome ← consumerDeliveryOutcome delivery completedAt completion
  let work ← delivery.finish attemptIndex running completedAt outcome
  return { delivery with toWorkState := work }

def recordConsumerAttemptLostFence (delivery : ConsumerDelivery) (attemptId : ConsumerAttemptId)
    (observedAt : Instant) : Except ReliabilityError ConsumerDelivery := do
  let work ← delivery.recordLostFence "consumer" () attemptId observedAt
  return { delivery with toWorkState := work }

end JooEvents
