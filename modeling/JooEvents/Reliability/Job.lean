import JooEvents.Lib.Thread
import JooEvents.Reliability.WorkState

/-!
# Jobs

A job runs a registered definition once for a source. It is claimed and completed as a
delivery is, but a job whose lease has expired is not claimed again : its work may have
reached the outside, so it has to be reconciled.
-/

namespace JooEvents

open Fallible

abbrev PayloadRef := ApplicationId

abbrev InvocationId := ApplicationId

abbrev JobId := ApplicationId

/-- What a job was requested by. -/
structure JobSource where
  definition : JobSourceRef
  identity : OpaqueSourceIdentity
  version : Version

/-- What a job is created from. -/
structure CreateJobInput where
  id : JobId
  definition : JobDefinition
  registeredIdempotencyIdentity : String
  source : JobSource
  inputRef : PayloadRef
  availableAt : Instant

/-- A job. Its attempts may have results. -/
structure JobRecord extends WorkState InvocationId (Option PayloadRef) where
  id : JobId
  definition : DefinitionRef
  definitionDigestSha256 : CanonicalSha256
  registeredIdempotencyIdentity : String
  source : JobSource
  inputRef : PayloadRef
  inputProjection : DefinitionRef
  targetOperation : DefinitionRef
  capabilityRevisionId : ApplicationId
  authorityCitation : DefinitionRef
  externalRetryPolicy : ExternalRetryPolicy
  maximumAttempts : ℕ
  leaseDurationMs : ℕ
  timeoutMs : ℕ

abbrev ClaimJobInput := ClaimInput InvocationId

/-- How a worker completes a job. -/
inductive JobCompletion where
  | succeeded (resultRef : Option PayloadRef)
  | retry (retryAt : Instant) (failure : SafeFailure)
  | dead_lettered (failure : SafeFailure)
  | cancelled (reasonCode : String)

/-! ## Transitions -/

def createJob (input : CreateJobInput) : Except ReliabilityError JobRecord := do
  require (textLength input.registeredIdempotencyIdentity ≠ 0 ∧
      textLength input.registeredIdempotencyIdentity ≤ 240 ∧
      trimText input.registeredIdempotencyIdentity = input.registeredIdempotencyIdentity)
    (.type "registered job idempotency identity must be bounded and non-empty")
  return {
    WorkState.pending input.availableAt with
    id := input.id
    definition := { key := input.definition.key, version := input.definition.version }
    definitionDigestSha256 := input.definition.canonicalDigestSha256
    registeredIdempotencyIdentity := input.registeredIdempotencyIdentity
    source := input.source
    inputRef := input.inputRef
    inputProjection := input.definition.inputProjection
    targetOperation := input.definition.targetOperation
    capabilityRevisionId := input.definition.capabilityRevisionId
    authorityCitation := input.definition.authorityCitation
    externalRetryPolicy := input.definition.externalRetryPolicy
    maximumAttempts := input.definition.maximumAttempts
    leaseDurationMs := input.definition.leaseDurationMs
    timeoutMs := input.definition.timeoutMs }

def claimJob (job : JobRecord) (input : ClaimJobInput) : Except ReliabilityError JobRecord := do
  assertAfter input.leaseExpiresAt input.now "job lease expiry"
  assertWithinDuration input.leaseExpiresAt input.now job.leaseDurationMs "job lease expiry"
  assertWorkerKey input.ownerKey
  require (isTerminal job.state = false) (.transition .terminal "terminal job cannot be claimed")
  require (¬ (job.state = .leased ∧ ∃ lease ∈ job.lease, input.now < lease.expiresAt))
    (.transition .lease_busy "job lease has not expired")
  require (¬ (job.state = .leased ∧ job.lease.isSome))
    (match job.externalRetryPolicy with
      | .anchor_inspection_only => .transition .reconciliation_required
          "expired job work requires registered anchor inspection before another attempt"
      | .forbidden => .transition .external_retry_forbidden
          "expired job work cannot be retried under its registered external retry policy")
  require (¬ (job.state ≠ .leased ∧ ∃ due ∈ job.nextActionAt, input.now < due))
    (.transition .not_ready "job is not due")
  require (job.attempts.length < job.maximumAttempts)
    (.transition .attempt_limit "job attempt limit reached")
  require (∀ attempt ∈ job.attempts, attempt.id ≠ input.attemptId)
    (.transition .duplicate_identity "job invocation ID was already used")
  let work ← job.claim input
  return { job with toWorkState := work }

def jobOutcome (job : JobRecord) (completedAt : Instant) :
    JobCompletion → Except ReliabilityError (Outcome (Option PayloadRef))
  | .succeeded resultRef =>
    return { state := .succeeded, attemptState := .succeeded, nextActionAt := none
             result := resultRef, failure := none }
  | .cancelled reasonCode => do
    assertSafeCode reasonCode "job cancellation reason"
    return { state := .cancelled, attemptState := .cancelled, nextActionAt := none, result := none
             failure := none }
  | .retry retryAt failure => do
    assertSafeCode failure.code "job failure code"
    require (failure.classification ≠ .ambiguous) (.transition .reconciliation_required
      "ambiguous job work requires registered reconciliation before retry")
    if job.attempts.length < job.maximumAttempts then do
      assertAfter retryAt completedAt "job retry time"
      return { state := .retry_wait, attemptState := .retry_scheduled, nextActionAt := some retryAt
               result := none, failure := some failure }
    else
      return { state := .dead_lettered, attemptState := .dead_lettered, nextActionAt := none
               result := none, failure := some failure }
  | .dead_lettered failure => do
    assertSafeCode failure.code "job failure code"
    return { state := .dead_lettered, attemptState := .dead_lettered, nextActionAt := none
             result := none, failure := some failure }

def completeJob (job : JobRecord) (fence : LeaseFence) (completedAt : Instant)
    (completion : JobCompletion) : Except ReliabilityError JobRecord := do
  let (attemptIndex, running) ← job.leasedAttempt "job" "job" fence completedAt
  let outcome ← jobOutcome job completedAt completion
  let work ← job.finish attemptIndex running completedAt outcome
  return { job with toWorkState := work }

def recordJobAttemptLostFence (job : JobRecord) (invocationId : InvocationId)
    (observedAt : Instant) : Except ReliabilityError JobRecord := do
  let work ← job.recordLostFence "job" none invocationId observedAt
  return { job with toWorkState := work }

end JooEvents
