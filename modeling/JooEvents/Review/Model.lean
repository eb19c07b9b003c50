import JooEvents.Lib.Fallible
import JooEvents.Lib.KeyedMap
import JooEvents.Program.Model

/-!
# Rounds of review

Submissions are reviewed in rounds. A round pins the deadline by which reviews are due, the
criteria they score and what its participants see of each other; the rounds of an event are kept
in its catalog, which carries the digest of its contents. An assignment asks one reviewer for
one review in one round. A reviewer who steps back leaves a vacancy, and a vacancy has at most
one resolution : a replacement, or the coverage that is left is accepted. What a reviewer writes
is a draft until it is committed; the head of a review then points at its current revision.

Values of these types are parsed values. What a schema says of several fields together is a
field of the type.

The functions fail with a code of the planner, or by throwing from a parser (`ReviewError`).
-/

namespace JooEvents

open Fallible

variable {D : Type}

namespace Review

/-- The scope of reviews : a workspace and an event. -/
abbrev Scope := ProgramVocabularyScope

/-- What a review is scored on, from 1 to 5. -/
structure Criterion where
  id : ApplicationId
  key : String
  label : String
  description : Option String
  position : ℕ
  weightBps : ℕ

/-- `compareCriterion(previous, criterion) < 0`. -/
def criterionBefore (previous criterion : Criterion) : Prop :=
  previous.position < criterion.position ∨
    previous.position = criterion.position ∧ previous.id < criterion.id

instance (previous criterion : Criterion) : Decidable (criterionBefore previous criterion) :=
  inferInstanceAs (Decidable (_ ∨ _))

/-- `reviewCriteriaSchema`. -/
def criteriaSchema (criteria : List Criterion) : Bool :=
  decide (1 ≤ criteria.length ∧ criteria.length ≤ 20) &&
    decide (criteria.map Criterion.id).Nodup &&
    decide (criteria.map Criterion.key).Nodup &&
    decide (criteria.map Criterion.position).Nodup &&
    decide (criteria.IsChain criterionBefore) &&
    decide ((criteria.map Criterion.weightBps).sum = 10000)

/-- The criteria of a round. -/
structure Criteria where
  values : List Criterion
  wellFormed : criteriaSchema values = true

/-- The score of a criterion. -/
structure CriterionScore where
  criterionId : ApplicationId
  score : ℕ

/-- `reviewCriterionScoresSchema`. -/
def scoresSchema (scores : List CriterionScore) : Bool :=
  decide (1 ≤ scores.length ∧ scores.length ≤ 20) &&
    scores.all (fun score => decide (1 ≤ score.score ∧ score.score ≤ 5)) &&
    decide (scores.IsChain fun previous score => previous.criterionId < score.criterionId)

/-- Scores in the order of their criteria. -/
structure Scores where
  values : List CriterionScore
  wellFormed : scoresSchema values = true

/-- The deadline of a round, as it was when the round was opened. -/
structure DeadlinePin (D : Type) where
  deadlineId : ApplicationId
  version : Version
  digestSha256 : D
  effectiveAt : Instant

/-- Whether an identity is shown. -/
inductive IdentityVisibility where
  | hidden | shown

/-- When a reviewer may read what the others wrote. -/
inductive PeerContentUnlock where
  | after_own_commit | open
  deriving DecidableEq

/-- What the participants of a round see of each other. -/
structure VisibilityPolicy where
  participantIdentity : IdentityVisibility
  peerReviewerIdentity : IdentityVisibility
  peerContentUnlock : PeerContentUnlock

/-- The states of a round, with who left the round in it and when. -/
inductive RoundState where
  | open
  | closed (closedByUserId : ApplicationId) (closedAt : Instant)
  | discarded (discardedByUserId : ApplicationId) (discardedAt : Instant)
  deriving DecidableEq

def RoundState.Standing : RoundState → Prop
  | .discarded .. => False
  | _ => True

instance : DecidablePred RoundState.Standing := fun state => by
  cases state <;> unfold RoundState.Standing <;> infer_instance

/-- A round of review. -/
structure Round (D : Type) where
  scope : Scope
  id : ApplicationId
  ordinal : PositiveSafe
  name : String
  version : Version
  deadline : DeadlinePin D
  criteria : Criteria
  visibility : VisibilityPolicy
  openedByUserId : ApplicationId
  openedAt : Instant
  state : RoundState

/-- The rounds of an event. -/
structure Catalog (D : Type) where
  scope : Scope
  version : Version
  digestSha256 : D
  rounds : List (Round D)

/-- A submission, and what the scopes of reviewers are matched against. -/
structure Candidate where
  submissionId : ApplicationId
  version : Version
  trackId : Option ApplicationId
  formatId : Option ApplicationId
  targetSessionId : Option ApplicationId

/-- The kinds of what a reviewer's scope names. -/
inductive ScopeKind where
  | track | format | session

/-- A part of a reviewer's scope. -/
structure ScopeRef where
  kind : ScopeKind
  id : ApplicationId

/-- The states of a reviewer on the roster. -/
inductive RosterStatus where
  | invited | active
  deriving DecidableEq

/-- A reviewer on the roster. A reviewer without a scope reviews everything. -/
structure RosterMember where
  reviewerId : ApplicationId
  version : Version
  status : RosterStatus
  displayName : Option String
  scope : List ScopeRef

/-- The candidates of an event, at a version. -/
structure CandidateSet where
  version : Version
  candidates : List Candidate

/-- The reviewers of an event, at a version. -/
structure RosterSet where
  version : Version
  reviewers : List RosterMember

/-- The states of an assignment, with who stepped back and when. -/
inductive AssignmentState where
  | assigned
  | stepped_back (steppedBackAt : Instant) (steppedBackByUserId : ApplicationId)
  deriving DecidableEq

/-- A review asked of a reviewer in a round. -/
structure Assignment where
  scope : Scope
  id : ApplicationId
  roundId : ApplicationId
  submissionId : ApplicationId
  reviewerId : ApplicationId
  version : Version
  assignedAt : Instant
  state : AssignmentState

/-- The reviewer and the submission of an assignment. -/
def Assignment.pair (assignment : Assignment) : ApplicationId × ApplicationId :=
  (assignment.reviewerId, assignment.submissionId)

/-- How a vacancy was resolved. -/
inductive ResolutionKind where
  | replacement (replacementAssignmentId replacementReviewerId : ApplicationId)
  | coverage_accepted

/-- One immutable answer to one stepped-back review slot. -/
structure VacancyResolution where
  scope : Scope
  vacatedAssignmentId : ApplicationId
  resolvedByUserId : ApplicationId
  resolvedAt : Instant
  kind : ResolutionKind

/-- A review before it is committed. -/
structure Draft where
  scope : Scope
  assignmentId : ApplicationId
  version : Version
  scores : Scores
  comment : String
  updatedByReviewerId : ApplicationId
  updatedByUserId : ApplicationId
  updatedAt : Instant

/-- A committed review, as first committed or as corrected. -/
structure Revision where
  scope : Scope
  id : ApplicationId
  assignmentId : ApplicationId
  revisionNumber : PositiveSafe
  scores : Scores
  weightedScore : ℚ
  comment : String
  committedByReviewerId : ApplicationId
  committedByUserId : ApplicationId
  committedAt : Instant
  postUnlock : Bool
  correctionOfRevisionId : Option ApplicationId

/-- What is current of a committed review. -/
structure Head where
  scope : Scope
  assignmentId : ApplicationId
  version : Version
  currentRevisionId : ApplicationId
  firstCommittedAt : Instant
  peerUnlockedAt : Instant

/-- The refusals of the planner of reviews. -/
inductive PlanningErrorCode where
  | wrong_scope | stale_catalog | open_round_exists | no_assignments | assignment_seed_mismatch
  | deadline_missing | round_missing | stale_round | round_not_open | round_has_work
  | assignment_missing | stale_assignment | assignment_not_active | not_assigned_reviewer
  | vacancy_resolved | replacement_reviewer_missing | replacement_reviewer_not_active
  | replacement_reviewer_out_of_scope | replacement_reviewer_already_assigned
  | draft_missing | stale_draft | review_exists | review_missing | stale_review
  | revision_missing | invalid_scores | candidate_query_changed | reviewer_query_changed
  | deadline_changed | invalid_plan

/-- How a function of reviews fails. -/
inductive ReviewError where
  | planning (code : PlanningErrorCode)
  | thrown

/-- `compareCandidates`. -/
def sortCandidates (candidates : List Candidate) : List Candidate :=
  candidates.insertionSort fun a b => a.submissionId ≤ b.submissionId

/-- `compareReviewers`. -/
def sortReviewers (reviewers : List RosterMember) : List RosterMember :=
  reviewers.insertionSort fun a b => a.reviewerId ≤ b.reviewerId

/-- `compareAssignments(left, right) <= 0`. -/
def assignmentLe (left right : Assignment) : Prop :=
  if left.reviewerId ≠ right.reviewerId then left.reviewerId ≤ right.reviewerId
  else if left.submissionId ≠ right.submissionId then left.submissionId ≤ right.submissionId
  else left.id ≤ right.id

instance (left right : Assignment) : Decidable (assignmentLe left right) := by
  unfold assignmentLe
  infer_instance

/-- `compareAssignments`. -/
def sortAssignments (assignments : List Assignment) : List Assignment :=
  assignments.insertionSort assignmentLe

theorem perm_sortCandidates (candidates : List Candidate) :
    (sortCandidates candidates).Perm candidates :=
  List.perm_insertionSort _ _

theorem perm_sortReviewers (reviewers : List RosterMember) :
    (sortReviewers reviewers).Perm reviewers :=
  List.perm_insertionSort _ _

theorem perm_sortAssignments (assignments : List Assignment) :
    (sortAssignments assignments).Perm assignments :=
  List.perm_insertionSort _ _

end Review

end JooEvents
