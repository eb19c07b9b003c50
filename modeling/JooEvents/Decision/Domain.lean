import JooEvents.Decision.Model

/-!
# Planning decisions

`planDecisionMutation` plans the answers to the submissions of an input, row by row. The
rows see the decisions of the environment as they are, but the sessions through a view
(`SessionView`) that every planned session change advances, so that a later row finds
what an earlier one did.
-/

namespace JooEvents

open Fallible

variable {D : Type}

/-- `DECISION_SPAWN_PLANNED_DURATION_MINUTES`. -/
def decisionSpawnPlannedDurationMinutes : PlannedDurationMinutes := ⟨30, by decide⟩

/-- The sessions as the rows planned so far leave them. -/
structure SessionView (host : Host D) where
  catalog : SessionCatalog D
  vocabulary : ProgramVocabularyState host

def openSessionView {host : Host D} (scope : SessionScope)
    (sessions : SessionGraduationReadPort host) : Except DecisionError (SessionView host) := do
  let catalog ← orRefuse (sessions.readSessionCatalog scope) (.planning .wrong_scope none)
  let vocabulary ← orRefuse (sessions.readSessionVocabulary scope) (.planning .wrong_scope none)
  return { catalog, vocabulary }

/-- The port that planning a graduation in a view reads. -/
def SessionView.overlay {host : Host D} (view : SessionView host) :
    SessionGraduationReadPort host :=
  { readSessionCatalog := fun _ => some view.catalog
    readSessionVocabulary := fun _ => some view.vocabulary }

variable [DecidableEq D]

/-- Plan a graduation in a view, and advance the view by it. -/
def SessionView.plan {host : Host D} (view : SessionView host) (scope : SessionScope)
    (attribution : SessionAttribution) (participants : List SessionRosterParticipantInput)
    (change : SessionGraduationChange) :
    Except DecisionError (SessionMutationPlan D × SessionView host) := do
  let contribution ← (planSessionGraduationFrom view.overlay scope attribution participants
    change).mapError .ofSession
  let (catalog, _) ← (applySessionMutationPlan host contribution view.catalog
    view.vocabulary).mapError .ofSession
  return (contribution, { view with catalog })

/-! ## The parts of a row -/

omit [DecidableEq D] in
def candidateParticipants (candidate : DecisionCandidate) (submissionId : ApplicationId) :
    List SessionRosterParticipantInput :=
  candidate.participantPersonIds.map fun personId =>
    { personId, role := .speaker, publiclyVisible := true
      source := { kind := "submission", id := submissionId.val
                  version := candidate.candidateVersion } }

/-- The head of a submission before a row, as the row expects to find it. -/
def requireExpectedHead (row : DecisionPlanningRow D) (before : Option (DecisionHead D)) :
    Except DecisionError Unit :=
  match row.expectedDecisionVersion with
  | none => require (before = none) (.planning .decision_exists row.submissionId)
  | some expectedVersion => do
    let before ← orRefuse before (.planning .decision_missing row.submissionId)
    require (before.version = expectedVersion.val ∧
      some before.digestSha256 = row.expectedDecisionDigestSha256)
      (.planning .stale_decision row.submissionId)

omit [DecidableEq D] in
def attachTarget {host : Host D} (view : SessionView host) (submissionId sessionId : ApplicationId) :
    Except DecisionError DecisionTargetPin := do
  let resolved ← orRefuse (findSession view.catalog sessionId)
    (.target_unavailable .target_missing submissionId sessionId)
  require (resolved.lifecycle ≠ .draft)
    (.target_unavailable .target_closed submissionId sessionId)
  require (resolved.lifecycle ≠ .programmed)
    (.target_unavailable .target_graduated submissionId sessionId)
  return { id := resolved.id, title := resolved.title, version := resolved.version }

omit [DecidableEq D] in
def spawnChange (host : Host D) (candidate : DecisionCandidate)
    (submissionId sessionId : ApplicationId) (trackId : Option ApplicationId) :
    Except DecisionError SessionGraduationChange := do
  let title ← orRefuse candidate.title (.planning .title_missing submissionId)
  let formatId ← orRefuse candidate.formatId (.planning .format_missing submissionId)
  let spawnTitle := normalizedProgramVocabularyName host title
  require (0 < textLength spawnTitle ∧ textLength spawnTitle ≤ 300)
    (.planning .title_unrepresentable submissionId)
  return .spawn sessionId spawnTitle decisionSpawnPlannedDurationMinutes .programmed formatId
    trackId

/-- What accepting a submission adds to its row. -/
structure Acceptance (D : Type) where
  target : Option DecisionTargetPin
  graduation : SessionMutationPlan D
  origin : SubmissionSessionOrigin

def planAcceptance {host : Host D} (scope : SessionScope) (attribution : SessionAttribution)
    (decisions : DecisionOperationReadPort D) (candidate : DecisionCandidate)
    (submissionId : ApplicationId) (graduation : Option DecisionPlanningGraduation)
    (view : SessionView host) : Except DecisionError (Acceptance D × SessionView host) := do
  let routing ← orRefuse graduation (.planning .invalid_plan submissionId)
  require (decisions.readSubmissionSessionOrigin scope submissionId = none)
    (.planning .origin_exists submissionId)
  let participants := candidateParticipants candidate submissionId
  let origin (kind : SubmissionSessionOriginKind) (graduation : SessionMutationPlan D) :
      SubmissionSessionOrigin :=
    { scope, submissionId, sessionId := graduation.after.id, kind
      linkedByUserId := attribution.userId, linkedAt := attribution.occurredAt }
  match routing with
  | .attach sessionId graduateTo => do
    let target ← attachTarget view submissionId sessionId
    let (graduation, view) ← view.plan scope attribution participants
      (.attach sessionId graduateTo)
    return ({ target := some target, graduation, origin := origin .attached graduation }, view)
  | .spawn sessionId trackId => do
    let change ← spawnChange host candidate submissionId sessionId trackId
    let (graduation, view) ← view.plan scope attribution participants change
    return ({ target := none, graduation, origin := origin .spawned graduation }, view)

omit [DecidableEq D] in
def headAfter (host : Host D) (scope : SessionScope) (attribution : SessionAttribution)
    (row : DecisionPlanningRow D) (before : Option (DecisionHead D)) : DecisionHead D :=
  let unsigned : UnsignedDecisionHead :=
    { scope, submissionId := row.submissionId, state := row.state.state
      version := (before.map (·.version)).getD 0 + 1
      decidedByUserId := attribution.userId, decidedAt := attribution.occurredAt }
  { unsigned with digestSha256 := decisionHeadDigest host unsigned }

def planDecisionRow {host : Host D} (scope : SessionScope) (attribution : SessionAttribution)
    (decisions : DecisionOperationReadPort D) (view : SessionView host)
    (row : DecisionPlanningRow D) :
    Except DecisionError (DecisionRowPlan D × SessionView host) := do
  let candidate ← orRefuse (decisions.readDecisionCandidate scope row.submissionId)
    (.planning .submission_missing row.submissionId)
  require (candidate.submissionId = row.submissionId)
    (.planning .submission_missing row.submissionId)
  let before := decisions.readDecisionHead scope row.submissionId
  requireExpectedHead row before
  let review := decisions.readDecisionReviewBasis scope row.submissionId
  let plan (target : Option DecisionTargetPin) (graduation : Option (SessionMutationPlan D))
      (origin : Option SubmissionSessionOrigin) : DecisionRowPlan D :=
    { submissionId := row.submissionId, before
      after := headAfter host scope attribution row before
      evidence :=
        { submission :=
            { submissionId := candidate.submissionId, formVersionId := candidate.formVersionId
              candidateVersion := candidate.candidateVersion }
          review, target }
      graduation, origin }
  match row.state with
  | .accepted => do
    let (acceptance, view) ← planAcceptance scope attribution decisions candidate
      row.submissionId row.graduation view
    return (plan acceptance.target (some acceptance.graduation) (some acceptance.origin), view)
  | _ => return (plan none none none, view)

omit [DecidableEq D] in
/-- Who makes the decisions of an input, and when. -/
def DecisionMutationPlanningInput.attribution (input : DecisionMutationPlanningInput D) :
    SessionAttribution :=
  { userId := input.actorUserId, occurredAt := input.occurredAt }

def planDecisionMutation {host : Host D} (input : DecisionMutationPlanningInput D)
    (environment : DecisionEnvironment host) : Except DecisionError (DecisionMutationPlan D) := do
  let view ← openSessionView input.scope environment.sessions
  let (rows, _) ← thread (planDecisionRow input.scope input.attribution environment.decisions)
    view input.decisions
  parseDecisionMutationPlan host { input, rows }

end JooEvents
