import JooEvents.Lib.Thread
import JooEvents.Session.Graduation

/-!
# Decisions

A decision accepts, waitlists or declines a submission. Its head records the last
answer, and an accepted submission has an origin, the session it went to. The answer to
many submissions is one plan, with a row for each of them.

A planning input (`DecisionMutationPlanningInput`) carries what its schema says : one to
a hundred rows for distinct submissions, which pin a head by version and digest
together, and name a session exactly where they accept. The versions of heads are
checked when a plan is parsed.
-/

namespace JooEvents

open Fallible

variable {D : Type}

/-- The answers a submission can have. -/
inductive DecisionState where
  | accepted | waitlisted | declined | withdrawn
  deriving DecidableEq

/-- The answers an organizer gives. -/
inductive DecisionOrganizerState where
  | accepted | waitlisted | declined

def DecisionOrganizerState.state : DecisionOrganizerState → DecisionState
  | .accepted => .accepted
  | .waitlisted => .waitlisted
  | .declined => .declined

/-- The answer to a submission, without its digest. -/
structure UnsignedDecisionHead where
  scope : SessionScope
  submissionId : ApplicationId
  state : DecisionState
  version : ℕ
  decidedByUserId : ApplicationId
  decidedAt : Instant

/-- The answer to a submission. -/
structure DecisionHead (D : Type) extends UnsignedDecisionHead where
  digestSha256 : D

/-- How a submission came to its session. -/
inductive SubmissionSessionOriginKind where
  | spawned | attached

/-- The session of an accepted submission. -/
structure SubmissionSessionOrigin where
  scope : SessionScope
  submissionId : ApplicationId
  sessionId : ApplicationId
  kind : SubmissionSessionOriginKind
  linkedByUserId : ApplicationId
  linkedAt : Instant

/-- What was decided about. -/
structure DecisionSubmissionPin where
  submissionId : ApplicationId
  formVersionId : ApplicationId
  candidateVersion : Version

/-- The bands of standings. -/
inductive DecisionStandingBand where
  | top | upper | mid | lower | bottom | few

/-- The standing of a submission in a round : an average of scores from 1 to 5. -/
structure DecisionStanding where
  value : {q : ℚ // 1 ≤ q ∧ q ≤ 5}
  n : PositiveSafe
  band : DecisionStandingBand

/-- The reviews a decision was made on. -/
structure DecisionReviewPin where
  roundId : ApplicationId
  roundVersion : Version
  standing : Option DecisionStanding

/-- The collecting session a submission was attached to. -/
structure DecisionTargetPin where
  id : ApplicationId
  title : String
  version : Version

/-- What a decision was made on. -/
structure DecisionEvidence where
  submission : DecisionSubmissionPin
  review : Option DecisionReviewPin
  target : Option DecisionTargetPin

/-- The session a submission is to go to. -/
inductive DecisionPlanningGraduation where
  | spawn (sessionId : ApplicationId) (trackId : Option ApplicationId)
  | attach (sessionId : ApplicationId) (graduateTo : Bool)

/-- The answer to one submission. -/
structure DecisionPlanningRow (D : Type) where
  submissionId : ApplicationId
  state : DecisionOrganizerState
  expectedDecisionVersion : Option Version
  expectedDecisionDigestSha256 : Option D
  graduation : Option DecisionPlanningGraduation
  pins_together : expectedDecisionVersion = none ↔ expectedDecisionDigestSha256 = none
  graduates : graduation ≠ none ↔ state = .accepted

/-- `DECISION_DECIDE_ROWS_MAX`. -/
def decisionDecideRowsMax : ℕ := 100

/-- An input of the planner. -/
structure DecisionMutationPlanningInput (D : Type) where
  scope : SessionScope
  actorUserId : ApplicationId
  occurredAt : Instant
  decisions : List (DecisionPlanningRow D)
  ne_nil : decisions ≠ []
  length_le : decisions.length ≤ decisionDecideRowsMax
  nodup : (decisions.map DecisionPlanningRow.submissionId).Nodup

def DecisionMutationPlanningInput.only (input : DecisionMutationPlanningInput D)
    (row : DecisionPlanningRow D) : DecisionMutationPlanningInput D :=
  { input with
    decisions := [row]
    ne_nil := by simp
    length_le := by simp [decisionDecideRowsMax]
    nodup := by simp }

/-- The plan for one submission. -/
structure DecisionRowPlan (D : Type) where
  submissionId : ApplicationId
  before : Option (DecisionHead D)
  after : DecisionHead D
  evidence : DecisionEvidence
  graduation : Option (SessionMutationPlan D)
  origin : Option SubmissionSessionOrigin

/-- A plan for the submissions of an input. -/
structure DecisionMutationPlan (D : Type) where
  input : DecisionMutationPlanningInput D
  rows : List (DecisionRowPlan D)

def contributionsOf (rows : List (DecisionRowPlan D)) : List (SessionMutationPlan D) :=
  rows.filterMap DecisionRowPlan.graduation

/-- What deciding reads of a submission. -/
structure DecisionCandidate where
  submissionId : ApplicationId
  formVersionId : ApplicationId
  candidateVersion : Version
  title : Option String
  formatId : Option ApplicationId
  participantPersonIds : List ApplicationId

/-- What deciding reads of submissions, reviews and decisions. -/
structure DecisionOperationReadPort (D : Type) where
  readDecisionCandidate : SessionScope → ApplicationId → Option DecisionCandidate
  readDecisionReviewBasis : SessionScope → ApplicationId → Option DecisionReviewPin
  readDecisionHead : SessionScope → ApplicationId → Option (DecisionHead D)
  readSubmissionSessionOrigin : SessionScope → ApplicationId → Option SubmissionSessionOrigin

/-- What deciding reads. -/
structure DecisionEnvironment (host : Host D) where
  decisions : DecisionOperationReadPort D
  sessions : SessionGraduationReadPort host

/-- The refusals of the planner that name a submission. -/
inductive DecisionPlanningErrorCode where
  | wrong_scope | submission_missing | decision_exists | decision_missing | stale_decision
  | origin_exists | origin_changed | session_placed | title_missing | title_unrepresentable
  | format_missing | invalid_plan

/-- Why a session cannot take a submission. -/
inductive DecisionTargetUnavailableReason where
  | target_graduated | target_closed | target_missing

/-- How planning a decision fails : with a planning error, for a target that is not
available, with an error of the planner of sessions, or by throwing from a parser. -/
inductive DecisionError where
  | planning (code : DecisionPlanningErrorCode) (submissionId : Option ApplicationId)
  | target_unavailable (reason : DecisionTargetUnavailableReason)
      (submissionId sessionId : ApplicationId)
  | session (code : SessionPlanningErrorCode)
  | thrown

/-- An error of the planner of sessions, passed on. -/
def DecisionError.ofSession : SessionError → DecisionError
  | .planning code => .session code
  | .thrown => .thrown

instance : AsciiText DecisionState where
  text
    | .accepted => "accepted"
    | .waitlisted => "waitlisted"
    | .declined => "declined"
    | .withdrawn => "withdrawn"
  ascii := AsciiText.ascii_of_values [.accepted, .waitlisted, .declined, .withdrawn]
  injective := AsciiText.injective_of_values [.accepted, .waitlisted, .declined, .withdrawn]

def decisionHeadDigest (host : Host D) (head : UnsignedDecisionHead) : D :=
  host.sha256 <| Json.canonicalize host.nfc <| .obj
    [("schemaVersion", toJson (1 : ℕ)), ("scope", toJson head.scope),
      ("submissionId", toJson head.submissionId), ("state", toJson head.state),
      ("version", toJson head.version), ("decidedByUserId", toJson head.decidedByUserId),
      ("decidedAt", toJson head.decidedAt)]

def decisionHeadSchema (head : DecisionHead D) : Bool := decide (IsPositiveSafe head.version)

/-- `decisionRowPlanSchema`. -/
def parseDecisionRowPlan (host : Host D) (row : DecisionRowPlan D) :
    Except DecisionError (DecisionRowPlan D) := do
  let graduation ← (row.graduation.mapM (parseSessionMutationPlan host)).mapError .ofSession
  require (row.before.all decisionHeadSchema = true ∧ decisionHeadSchema row.after = true) .thrown
  require (row.evidence.target.all (fun target => isCanonicalText host 300 target.title) = true)
    .thrown
  require (row.after.submissionId = row.submissionId ∧
    row.before.all (fun before => before.submissionId = row.submissionId) = true) .thrown
  require ((row.after.state = .accepted ↔ graduation ≠ none) ∧
    (row.after.state = .accepted ↔ row.origin ≠ none)) .thrown
  return { row with graduation }

/-- `decisionMutationPlanSchema`. -/
def parseDecisionMutationPlan (host : Host D) (plan : DecisionMutationPlan D) :
    Except DecisionError (DecisionMutationPlan D) := do
  let rows ← plan.rows.mapM (parseDecisionRowPlan host)
  require (rows ≠ [] ∧ rows.length ≤ decisionDecideRowsMax) .thrown
  require (rows.map (fun row => (row.submissionId, row.after.state)) =
    plan.input.decisions.map fun row => (row.submissionId, row.state.state)) .thrown
  return { plan with rows }

end JooEvents
