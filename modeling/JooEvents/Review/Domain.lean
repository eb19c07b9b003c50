import JooEvents.Lib.SortedKeys
import JooEvents.Review.Model

/-!
# Handing out reviews

What a round, its assignments and its reviewers are is read from a `Repository` and a
`PlanningSource`. When a round is opened, the reviewers are paired with the submissions that their
scopes cover (`expectedReviewAssignmentPairs`), and a submission that arrives while it is open is
handed out to the reviewers that cover it (`ensureArrivalAssignments`).
-/

namespace JooEvents.Review

open Fallible

variable {D : Type}

/-- `ReviewRepository`. -/
structure Repository (D : Type) where
  readCatalog : Scope → Option (Catalog D)
  readRound : Scope → ApplicationId → Option (Round D)
  listAssignments : Scope → ApplicationId → List Assignment
  readAssignment : Scope → ApplicationId → Option Assignment
  readVacancyResolution : Scope → ApplicationId → Option VacancyResolution
  readDraft : Scope → ApplicationId → Option Draft
  readReviewHead : Scope → ApplicationId → Option Head
  readRevision : Scope → ApplicationId → Option Revision

/-- `ReviewPlanningSource`. -/
structure PlanningSource where
  readCandidates : Scope → Option CandidateSet
  readCandidate : Scope → ApplicationId → Option Candidate
  readReviewerRoster : Scope → Option RosterSet

def requiredRound (scope : Scope) (roundId : ApplicationId) (repository : Repository D) :
    Except ReviewError (Round D) := do
  let round ← orRefuse (repository.readRound scope roundId) (.planning .round_missing)
  require (round.scope = scope) (.planning .round_missing)
  return round

def requiredOpenRound (scope : Scope) (roundId : ApplicationId)
    (repository : Repository D) : Except ReviewError (Round D) := do
  let round ← requiredRound scope roundId repository
  require (round.state = .open) (.planning .round_not_open)
  return round

/-- A part of a scope names what a candidate is in. -/
def ScopeRef.covers (reference : ScopeRef) (candidate : Candidate) : Bool :=
  match reference.kind with
  | .track => candidate.trackId = some reference.id
  | .format => candidate.formatId = some reference.id
  | .session => candidate.targetSessionId = some reference.id

def reviewerCoversCandidate (reviewer : RosterMember) (candidate : Candidate) : Bool :=
  if reviewer.status ≠ .active then false
  else if reviewer.scope = [] then true
  else reviewer.scope.any fun reference => reference.covers candidate

/-- `expectedReviewAssignmentPairs` : reviewers with the submissions they are asked to review. -/
def expectedReviewAssignmentPairs (candidates : List Candidate) (reviewers : List RosterMember) :
    List (ApplicationId × ApplicationId) :=
  (sortReviewers reviewers).flatMap fun reviewer =>
    ((sortCandidates candidates).filter (reviewerCoversCandidate reviewer)).map fun candidate =>
      (reviewer.reviewerId, candidate.submissionId)

def newAssignment (scope : Scope) (id roundId : ApplicationId)
    (pair : ApplicationId × ApplicationId) (assignedAt : Instant) : Assignment :=
  { scope, id, roundId, submissionId := pair.2, reviewerId := pair.1, version := .one, assignedAt
    state := .assigned }

/-- `reviewIdSchema`. -/
def parseReviewId (value : String) : Option ApplicationId :=
  if h : isApplicationId value = true then some ⟨value, h⟩ else none

/-- The identity of an assignment for a reviewer, as it is handed in. -/
structure ArrivalSeed where
  reviewerId : String
  assignmentId : String

/-- The reviewers that a candidate is handed out to, in canonical order. -/
def arrivalReviewers (candidate : Candidate) (reviewers : List RosterMember)
    (existing : List Assignment) : List RosterMember :=
  sortReviewers <| reviewers.filter fun reviewer =>
    reviewerCoversCandidate reviewer candidate &&
      decide (∀ assignment ∈ existing, assignment.submissionId = candidate.submissionId →
        assignment.reviewerId ≠ reviewer.reviewerId)

/-- `new Map(assignmentIds).get` : the last identity given for a reviewer. -/
def arrivalSeedFor (seeds : List ArrivalSeed) (reviewerId : String) : Option String :=
  (seeds.reverse.find? fun seed => seed.reviewerId = reviewerId).map ArrivalSeed.assignmentId

def ensureArrivalAssignments (scope : Scope) (roundId : ApplicationId)
    (candidate : Candidate) (assignmentIds : List ArrivalSeed) (assignedAt : Instant)
    (repository : Repository D) (sources : PlanningSource) :
    Except ReviewError (List Assignment) := do
  let _ ← requiredOpenRound scope roundId repository
  let roster ← orRefuse (sources.readReviewerRoster scope) (.planning .wrong_scope)
  let expected := arrivalReviewers candidate roster.reviewers
    (repository.listAssignments scope roundId)
  -- the size of the map is the number of the distinct reviewers it was made from
  let size := (assignmentIds.map ArrivalSeed.reviewerId).dedup.length
  require (size = assignmentIds.length ∧ size = expected.length ∧
    ∀ reviewer ∈ expected, (arrivalSeedFor assignmentIds reviewer.reviewerId.val).isSome = true)
    (.planning .assignment_seed_mismatch)
  let assignments ← expected.mapM fun reviewer => do
    let text ← orRefuse (arrivalSeedFor assignmentIds reviewer.reviewerId.val) .thrown
    let id ← orRefuse (parseReviewId text) .thrown
    return newAssignment scope id roundId (reviewer.reviewerId, candidate.submissionId) assignedAt
  return sortAssignments assignments

/-! ## An example -/

namespace RoundExample

def scope : Scope := { workspaceId := .ofNat 1, eventId := .ofNat 2 }

theorem criteriaSchema_overall :
    criteriaSchema [{ id := .ofNat 3, key := "overall", label := "Overall", description := none
                      position := 0, weightBps := 10000 }] = true := by
  decide

/-- The criteria a round is opened with by default. -/
def criteria : Criteria where
  values := [{ id := .ofNat 3, key := "overall", label := "Overall", description := none
               position := 0, weightBps := 10000 }]
  wellFormed := criteriaSchema_overall

def round : Round SymbolicDigest :=
  { scope, id := .ofNat 4, ordinal := Version.one, name := "Round 1", version := .one
    deadline :=
      { deadlineId := .ofNat 5, version := .one, digestSha256 := .null
        effectiveAt := .yearStart 2027 }
    criteria
    visibility :=
      { participantIdentity := .hidden, peerReviewerIdentity := .hidden
        peerContentUnlock := .after_own_commit }
    openedByUserId := .ofNat 6, openedAt := .yearStart 2026, state := .open }

end RoundExample

end JooEvents.Review
