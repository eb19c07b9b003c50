import JooEvents.Session.Plans

/-!
# Graduations

A graduation is a session change that another operation makes along with its own : it
spawns a session or attaches participants to one. `planSessionGraduationFrom` plans it
against the catalog and vocabulary a port reads.
-/

namespace JooEvents

open Fallible

variable {D : Type}

/-- What planning a graduation reads. -/
structure SessionGraduationReadPort (host : Host D) where
  readSessionCatalog : SessionScope → Option (SessionCatalog D)
  readSessionVocabulary : SessionScope → Option (ProgramVocabularyState host)

/-- A graduation to plan. -/
inductive SessionGraduationChange where
  | spawn (sessionId : ApplicationId) (title : String)
      (plannedDurationMinutes : PlannedDurationMinutes) (lifecycle : PlaceableSessionLifecycle)
      (formatId : ApplicationId) (trackId : Option ApplicationId)
  | attach (sessionId : ApplicationId) (graduateTo : Bool)

/-- Who makes a change, and when. -/
structure SessionAttribution where
  userId : ApplicationId
  occurredAt : Instant

variable [DecidableEq D]

def graduationBase (scope : SessionScope) (catalog : SessionCatalog D)
    (attribution : SessionAttribution) (sessionId : ApplicationId) : SessionInputBase D :=
  { scope, actorUserId := attribution.userId, occurredAt := attribution.occurredAt
    expectedCatalogVersion := catalog.version, expectedCatalogDigestSha256 := catalog.digestSha256
    sessionId }

/-- The input of a graduation, against the catalog it is planned for. -/
def graduationInput (scope : SessionScope) (catalog : SessionCatalog D)
    (attribution : SessionAttribution) (participants : List SessionRosterParticipantInput) :
    SessionGraduationChange → Except SessionError (SessionPlanningInput D)
  | .spawn sessionId title plannedDurationMinutes lifecycle formatId trackId =>
    return .create (graduationBase scope catalog attribution sessionId) title
      plannedDurationMinutes lifecycle.lifecycle formatId trackId (some participants)
  | .attach sessionId graduateTo => do
    let current ← orRefuse (findSession catalog sessionId) (.planning .session_missing)
    return .roster_append (graduationBase scope catalog attribution sessionId)
      { expectedSessionVersion := current.version
        expectedSessionDigestSha256 := current.digestSha256 } participants graduateTo

def planSessionGraduationFrom {host : Host D} (port : SessionGraduationReadPort host)
    (scope : SessionScope) (attribution : SessionAttribution)
    (participants : List SessionRosterParticipantInput) (change : SessionGraduationChange) :
    Except SessionError (SessionMutationPlan D) := do
  let catalog ← orRefuse (port.readSessionCatalog scope) .thrown
  let vocabulary ← orRefuse (port.readSessionVocabulary scope) .thrown
  let planningInput ← graduationInput scope catalog attribution participants change
  let plan ← planSessionMutation host planningInput catalog vocabulary
  parseSessionMutationPlan host plan

theorem planSessionGraduationFrom_ok {host : Host D} {port : SessionGraduationReadPort host}
    {scope : SessionScope} {attribution : SessionAttribution}
    {participants : List SessionRosterParticipantInput} {change : SessionGraduationChange}
    {plan : SessionMutationPlan D} {catalog : SessionCatalog D}
    (hcatalog : port.readSessionCatalog scope = some catalog)
    (h : planSessionGraduationFrom port scope attribution participants change = .ok plan) :
    ∃ vocabulary input, planSessionMutation host input catalog vocabulary = .ok plan := by
  simp only [planSessionGraduationFrom, hcatalog, bind_eq_ok, orRefuse_eq_ok,
    Option.some.injEq] at h
  obtain ⟨_, rfl, vocabulary, -, input, -, planned, hplanned, hparsed⟩ := h
  rw [parse_of_planSessionMutation hplanned, Except.ok.injEq] at hparsed
  exact ⟨vocabulary, input, hparsed ▸ hplanned⟩

end JooEvents
