import JooEvents.Engagement.Model

/-!
# Responses, seeds and reversals

Four kinds of plan change the engagements of a store. A response advances one head and
keeps what seeded it. A seed adds an invited head for every person that has none on the
session, an invitation one that no decision seeded. A reversal removes the rows that its
decision seeded, unless one of them has advanced.
-/

namespace JooEvents

open Fallible

variable {D : Type}

/-! ## Responses -/

/-- What a response does. -/
inductive EngagementResponseAction where
  | record_confirmation (actorUserId : Option ApplicationId)
      (attribution : EngagementConfirmationAttribution) (confirmingPersonId : Option ApplicationId)
  | decline (actorUserId : Option ApplicationId)
  | request_cancellation (actorUserId : ApplicationId) (requestedBy : CancellationRequester)
      (note : Option String)
  | accept_cancellation (actorUserId : ApplicationId)
  | withdraw_cancellation (actorUserId : ApplicationId)

/-- The input of a response. -/
structure EngagementMutationPlanningInput where
  action : EngagementResponseAction
  scope : EngagementScope
  occurredAt : Instant
  engagementId : ApplicationId
  expectedEngagementVersion : Version

def engagementMutationPlanningInputSchema (host : Host D)
    (input : EngagementMutationPlanningInput) : Bool :=
  match input.action with
  | .record_confirmation actorUserId attribution confirmingPersonId =>
    decide (attribution = .co_speaker ↔ confirmingPersonId.isSome) &&
      decide (attribution = .organizer_recorded ↔ actorUserId.isSome)
  | .request_cancellation _ _ note => note.all (isCanonicalText host 500)
  | .decline _ | .accept_cancellation _ | .withdraw_cancellation _ => true

/-- `{ ...before, version: before.version + 1 }`, parsed. -/
def advanceHead (host : Host D) (before : EngagementHead host) (after : EngagementHeadDto D) :
    Except EngagementError (EngagementHead host) := do
  let version ← orRefuse (nextAggregateVersion before.val.version) .thrown
  parseEngagementHead host { after with version }

def respond {host : Host D} (before : EngagementHead host)
    (input : EngagementMutationPlanningInput) : Except EngagementError (EngagementHead host) :=
  let refuse := EngagementError.planning
  match input.action with
  | .record_confirmation actorUserId attribution confirmingPersonId => do
    require (before.val.state = .invited) (refuse .invalid_transition input.engagementId)
    require (¬ (attribution = .co_speaker ∧ confirmingPersonId = some before.val.personId))
      (refuse .invalid_plan input.engagementId)
    let personId ← if attribution = .co_speaker then orRefuse confirmingPersonId .thrown
      else pure before.val.personId
    advanceHead host before
      { before.val with
        state := .confirmed
        confirmation := some
          { attribution, personId
            recordedByUserId := if attribution = .organizer_recorded then actorUserId else none
            confirmedAt := input.occurredAt } }
  | .decline _ => do
    require (before.val.state = .invited) (refuse .invalid_transition input.engagementId)
    advanceHead host before { before.val with state := .declined, cancellationRequest := none }
  | .request_cancellation _ requestedBy note => do
    require (before.val.state = .invited ∨ before.val.state = .confirmed)
      (refuse .invalid_transition input.engagementId)
    require (before.val.cancellationRequest = none)
      (refuse .cancellation_already_requested input.engagementId)
    advanceHead host before
      { before.val with
        cancellationRequest := some { requestedBy, requestedAt := input.occurredAt, note } }
  | .withdraw_cancellation _ => do
    require (before.val.state = .invited ∨ before.val.state = .confirmed)
      (refuse .invalid_transition input.engagementId)
    require (before.val.cancellationRequest ≠ none)
      (refuse .cancellation_not_requested input.engagementId)
    advanceHead host before { before.val with cancellationRequest := none }
  | .accept_cancellation _ => do
    require (before.val.state = .invited ∨ before.val.state = .confirmed)
      (refuse .invalid_transition input.engagementId)
    require (before.val.cancellationRequest ≠ none)
      (refuse .cancellation_not_requested input.engagementId)
    advanceHead host before
      { before.val with state := .cancelled, cancelledAt := some input.occurredAt }

/-- The plan of a response. -/
structure EngagementMutationPlan (host : Host D) where
  input : EngagementMutationPlanningInput
  before : EngagementHead host
  after : EngagementHead host

variable [DecidableEq D]

def engagementMutationPlanSchema {host : Host D} (plan : EngagementMutationPlan host) : Bool :=
  engagementMutationPlanningInputSchema host plan.input &&
    decide (plan.before.val.id = plan.input.engagementId ∧
      plan.after.val.id = plan.input.engagementId) &&
    decide (plan.before.val.version = plan.input.expectedEngagementVersion ∧
      plan.after.val.version.val = plan.before.val.version.val + 1) &&
    decide (plan.before.val.sessionId = plan.after.val.sessionId ∧
      plan.before.val.personId = plan.after.val.personId) &&
    decide (plan.before.val.submissionId = plan.after.val.submissionId ∧
      plan.before.val.seededByDecision = plan.after.val.seededByDecision)

def planEngagementMutation {host : Host D} (store : EngagementStore host)
    (input : EngagementMutationPlanningInput) :
    Except EngagementError (EngagementMutationPlan host) := do
  require (engagementMutationPlanningInputSchema host input = true) .thrown
  let before ← orRefuse (store.readEngagementHead input.scope input.engagementId)
    (.planning .engagement_missing input.engagementId)
  require (before.val.scope = input.scope) (.planning .wrong_scope input.engagementId)
  require (before.val.version = input.expectedEngagementVersion)
    (.planning .stale_engagement input.engagementId)
  let after ← respond before input
  let plan : EngagementMutationPlan host := { input, before, after }
  require (engagementMutationPlanSchema plan = true) .thrown
  return plan

def applyEngagementPlan {host : Host D} (store : EngagementStore host)
    (plan : EngagementMutationPlan host) : Except EngagementError (EngagementStore host) := do
  require (engagementMutationPlanSchema plan = true) .thrown
  store.updateHead plan.before plan.after

/-! ## Seeds -/

/-- The input of a seed : the persons on the roster that an acceptance writes. -/
structure EngagementSeedInput (D : Type) where
  scope : EngagementScope
  sessionId : ApplicationId
  submissionId : ApplicationId
  seededByDecision : EngagementSeedProvenance D
  source : SessionRosterSourceRef
  personIds : List ApplicationId
  invitedAt : Instant
  respondBy : Option Instant

/-- `ENGAGEMENT_SEED_PERSONS_MAX`. -/
def engagementSeedPersonsMax : ℕ := 500

def engagementSeedInputSchema (host : Host D) (input : EngagementSeedInput D) : Bool :=
  sourceSchema host input.source &&
    decide (1 ≤ input.personIds.length ∧ input.personIds.length ≤ engagementSeedPersonsMax) &&
    decide (input.personIds.IsChain (· < ·)) &&
    decide (input.source.kind = "submission" → input.source.id = input.submissionId.val)

/-- A row that a seed adds. -/
structure EngagementSeedRow (host : Host D) where
  personId : ApplicationId
  head : EngagementHead host

/-- The plan of a seed : the rows it adds, and the persons it passes over. -/
structure EngagementSeedPlan (host : Host D) where
  input : EngagementSeedInput D
  rows : List (EngagementSeedRow host)
  skippedPersonIds : List ApplicationId

def EngagementSeedPlan.heads {host : Host D} (plan : EngagementSeedPlan host) :
    List (EngagementHead host) :=
  plan.rows.map (·.head)

def engagementSeedPlanSchema {host : Host D} (plan : EngagementSeedPlan host) : Bool :=
  engagementSeedInputSchema host plan.input &&
    decide (plan.rows.length ≤ engagementSeedPersonsMax) &&
    decide (plan.skippedPersonIds.length ≤ engagementSeedPersonsMax) &&
    decide ((plan.rows.map (·.personId) ++ plan.skippedPersonIds).insertionSort (· ≤ ·) =
      plan.input.personIds) &&
    plan.rows.all fun row => decide (row.head.val.personId = row.personId ∧
      row.head.val.state = .invited ∧ row.head.val.version = .one ∧
      row.head.val.confirmation = none ∧ row.head.val.cancellationRequest = none ∧
      row.head.val.cancelledAt = none ∧ row.head.val.sessionId = plan.input.sessionId ∧
      row.head.val.submissionId = some plan.input.submissionId ∧
      row.head.val.seededByDecision = some plan.input.seededByDecision ∧
      row.head.val.invitedAt = plan.input.invitedAt ∧ row.head.val.respondBy = plan.input.respondBy ∧
      row.head.val.scope = plan.input.scope)

/-- `[...new Set(personIds)].sort()`. -/
def canonicalPersonIds (personIds : List ApplicationId) : List ApplicationId :=
  personIds.dedup.insertionSort (· ≤ ·)

def seededHead (host : Host D) (hex : D → CanonicalSha256) (input : EngagementSeedInput D)
    (personId : ApplicationId) : EngagementHeadDto D :=
  { id := deterministicEngagementId host hex input.scope input.sessionId personId
    scope := input.scope
    sessionId := input.sessionId
    personId
    submissionId := some input.submissionId
    seededByDecision := some input.seededByDecision
    state := .invited
    invitedAt := input.invitedAt
    respondBy := input.respondBy
    confirmation := none
    cancellationRequest := none
    cancelledAt := none
    source := input.source
    version := .one }

/-- The rows and the passed-over persons, for the persons of a seed. -/
def seedRows {host : Host D} (hex : D → CanonicalSha256) (store : EngagementStore host)
    (input : EngagementSeedInput D) :
    List ApplicationId →
      Except EngagementError (List (EngagementSeedRow host) × List ApplicationId)
  | [] => return ([], [])
  | personId :: personIds =>
    match store.readSessionPersonEngagement input.scope input.sessionId personId with
    | some _ => do
      let (rows, skippedPersonIds) ← seedRows hex store input personIds
      return (rows, personId :: skippedPersonIds)
    | none => do
      let head ← parseEngagementHead host (seededHead host hex input personId)
      let (rows, skippedPersonIds) ← seedRows hex store input personIds
      return ({ personId, head } :: rows, skippedPersonIds)

def planEngagementSeedFrom {host : Host D} (hex : D → CanonicalSha256)
    (store : EngagementStore host) (change : EngagementSeedInput D) :
    Except EngagementError (EngagementSeedPlan host) := do
  let input := { change with personIds := canonicalPersonIds change.personIds }
  require (engagementSeedInputSchema host input = true) .thrown
  let (rows, skippedPersonIds) ← seedRows hex store input input.personIds
  let plan : EngagementSeedPlan host := { input, rows, skippedPersonIds }
  require (engagementSeedPlanSchema plan = true) .thrown
  return plan

def applyEngagementSeed {host : Host D} (store : EngagementStore host)
    (plan : EngagementSeedPlan host) : Except EngagementError (EngagementStore host) := do
  require (engagementSeedPlanSchema plan = true) .thrown
  plan.heads.foldlM EngagementStore.insertHead store

/-- The input of an invitation of one person. -/
structure EngagementRosterInviteInput where
  scope : EngagementScope
  sessionId : ApplicationId
  personId : ApplicationId
  source : SessionRosterSourceRef
  invitedAt : Instant
  respondBy : Option Instant

/-- The plan of an invitation : the head there is, or the one to create. -/
structure EngagementRosterInvitePlan (host : Host D) where
  input : EngagementRosterInviteInput
  existing : Option (EngagementHead host)
  create : Option (EngagementHead host)

def engagementRosterInvitePlanSchema {host : Host D} (plan : EngagementRosterInvitePlan host) :
    Bool :=
  sourceSchema host plan.input.source &&
    decide (plan.existing.isSome ↔ plan.create = none) &&
    (plan.existing.or plan.create).all (fun head => decide (head.val.scope = plan.input.scope ∧
      head.val.sessionId = plan.input.sessionId ∧ head.val.personId = plan.input.personId ∧
      head.val.source = plan.input.source)) &&
    plan.create.all fun head => decide (head.val.submissionId = none ∧
      head.val.seededByDecision = none ∧ head.val.state = .invited ∧
      head.val.invitedAt = plan.input.invitedAt ∧ head.val.respondBy = plan.input.respondBy ∧
      head.val.confirmation = none ∧ head.val.cancellationRequest = none ∧
      head.val.cancelledAt = none ∧ head.val.version = .one)

def planEngagementRosterInviteFrom {host : Host D} (hex : D → CanonicalSha256)
    (store : EngagementStore host) (input : EngagementRosterInviteInput) :
    Except EngagementError (EngagementRosterInvitePlan host) := do
  require (sourceSchema host input.source = true) .thrown
  let plan ← match store.readSessionPersonEngagement input.scope input.sessionId input.personId with
    | some existing => pure { input, existing := some existing, create := none }
    | none => do
      let create ← parseEngagementHead host
        { id := deterministicEngagementId host hex input.scope input.sessionId input.personId
          scope := input.scope
          sessionId := input.sessionId
          personId := input.personId
          submissionId := none
          seededByDecision := none
          state := .invited
          invitedAt := input.invitedAt
          respondBy := input.respondBy
          confirmation := none
          cancellationRequest := none
          cancelledAt := none
          source := input.source
          version := .one }
      pure { input, existing := none, create := some create }
  require (engagementRosterInvitePlanSchema plan = true) .thrown
  return plan

def applyEngagementRosterInvite {host : Host D} (store : EngagementStore host)
    (plan : EngagementRosterInvitePlan host) : Except EngagementError (EngagementStore host) := do
  require (engagementRosterInvitePlanSchema plan = true) .thrown
  let current := store.readSessionPersonEngagement plan.input.scope plan.input.sessionId
    plan.input.personId
  match plan.existing with
  | some existing =>
    require (current = some existing) .seed_conflict
    return store
  | none =>
    require (current = none) .seed_conflict
    let create ← orRefuse plan.create .seed_conflict
    store.insertHead create

/-- The input of a reversal : the decision whose rows are to be removed. -/
structure EngagementSeedReversalInput (D : Type) where
  scope : EngagementScope
  sessionId : ApplicationId
  submissionId : ApplicationId
  seededByDecision : EngagementSeedProvenance D
  deriving DecidableEq

/-- A row that a reversal removes. -/
structure EngagementSeedReversalRow (host : Host D) where
  personId : ApplicationId
  expectedCurrent : EngagementHead host

/-- The plan of a reversal. -/
structure EngagementSeedReversalPlan (host : Host D) where
  input : EngagementSeedReversalInput D
  rows : List (EngagementSeedReversalRow host)

def EngagementSeedReversalPlan.heads {host : Host D} (plan : EngagementSeedReversalPlan host) :
    List (EngagementHead host) :=
  plan.rows.map (·.expectedCurrent)

def engagementSeedReversalPlanSchema {host : Host D} (plan : EngagementSeedReversalPlan host) :
    Bool :=
  decide (plan.rows.length ≤ engagementSeedPersonsMax) &&
    plan.rows.all (fun row => decide (row.expectedCurrent.val.personId = row.personId ∧
      row.expectedCurrent.val.sessionId = plan.input.sessionId ∧
      row.expectedCurrent.val.submissionId = some plan.input.submissionId ∧
      row.expectedCurrent.val.seededByDecision = some plan.input.seededByDecision ∧
      row.expectedCurrent.val.state = .invited ∧ row.expectedCurrent.val.version = .one)) &&
    decide ((plan.rows.map (·.personId)).IsChain (· < ·))

/-- The row of a reversal, where the head has not advanced past its seed. -/
def reversalRow {host : Host D} (head : EngagementHead host) :
    Except EngagementError (EngagementSeedReversalRow host) := do
  require (head.val.state = .invited ∧ head.val.version = .one ∧ head.val.confirmation = none ∧
    head.val.cancellationRequest = none) (.seed .engagement_advanced head.val.personId)
  return { personId := head.val.personId, expectedCurrent := head }

def planEngagementSeedReversalFrom {host : Host D} (store : EngagementStore host)
    (input : EngagementSeedReversalInput D) :
    Except EngagementError (EngagementSeedReversalPlan host) := do
  let seeded := store.listSeededEngagements input.scope input.sessionId input.submissionId
  let rows ← (seeded.filter fun head =>
    head.val.seededByDecision = some input.seededByDecision).mapM reversalRow
  let plan : EngagementSeedReversalPlan host := { input, rows }
  require (engagementSeedReversalPlanSchema plan = true) .thrown
  return plan

def applyEngagementSeedReversal {host : Host D} (store : EngagementStore host)
    (plan : EngagementSeedReversalPlan host) : Except EngagementError (EngagementStore host) := do
  require (engagementSeedReversalPlanSchema plan = true) .thrown
  plan.heads.foldlM EngagementStore.deleteSeededHead store

end JooEvents
