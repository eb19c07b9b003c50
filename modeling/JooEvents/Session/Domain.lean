import JooEvents.Session.Model

/-!
# Planning and applying session changes

`planSessionMutation` plans one of nine changes of one session : it is created, takes its
next place in its lifecycle, is classified anew, or its roster changes. A plan holds the
head before and after the change, and the versions and digests of the catalog before and
after it. `validateSessionMutationPlan` plans the change again and compares the plans,
`applySessionMutationPlan` writes a plan it accepts.
-/

namespace JooEvents

open Fallible

variable {D : Type}

/-! ## Inputs and plans -/

/-- What every input of the planner says. -/
structure SessionInputBase (D : Type) where
  scope : SessionScope
  actorUserId : ApplicationId
  occurredAt : Instant
  expectedCatalogVersion : Version
  expectedCatalogDigestSha256 : D
  sessionId : ApplicationId

/-- The head that an input expects to find. -/
structure SessionExpectation (D : Type) where
  expectedSessionVersion : Version
  expectedSessionDigestSha256 : D

/-- An input of the planner. -/
inductive SessionPlanningInput (D : Type) where
  | create (base : SessionInputBase D) (title : String)
      (plannedDurationMinutes : PlannedDurationMinutes) (lifecycle : SessionLifecycle)
      (formatId : ApplicationId) (trackId : Option ApplicationId)
      (participants : Option (List SessionRosterParticipantInput))
  | transition (base : SessionInputBase D) (expected : SessionExpectation D)
      (toLifecycle : PlaceableSessionLifecycle)
  | retarget (base : SessionInputBase D) (expected : SessionExpectation D)
      (formatId : ApplicationId) (trackId : Option ApplicationId)
  /-- With `graduateTo`, the session becomes programmed. -/
  | roster_append (base : SessionInputBase D) (expected : SessionExpectation D)
      (participants : List SessionRosterParticipantInput) (graduateTo : Bool)
  | roster_visibility (base : SessionInputBase D) (expected : SessionExpectation D)
      (personId : ApplicationId) (publiclyVisible : Bool)
  | roster_remove (base : SessionInputBase D) (expected : SessionExpectation D)
      (expectedRosterVersion : Version) (expectedParticipant : SessionParticipantRef)
  | roster_restore (base : SessionInputBase D) (expected : SessionExpectation D)
      (expectedRosterVersion : Version) (participant : SessionParticipantRef)
  | roster_role (base : SessionInputBase D) (expected : SessionExpectation D)
      (expectedRosterVersion : Version) (expectedParticipant : SessionParticipantRef)
      (role : SessionParticipantRole)
  | roster_reorder (base : SessionInputBase D) (expected : SessionExpectation D)
      (expectedRosterVersion : Version) (personIds : List ApplicationId)

/-- The actions on sessions. -/
inductive SessionAction where
  | create | transition | retarget | roster_append | roster_visibility | roster_remove
  | roster_restore | roster_role | roster_reorder
  deriving DecidableEq

namespace SessionPlanningInput

def base : SessionPlanningInput D → SessionInputBase D
  | create base .. => base
  | transition base .. => base
  | retarget base .. => base
  | roster_append base .. => base
  | roster_visibility base .. => base
  | roster_remove base .. => base
  | roster_restore base .. => base
  | roster_role base .. => base
  | roster_reorder base .. => base

def action : SessionPlanningInput D → SessionAction
  | create .. => .create
  | transition .. => .transition
  | retarget .. => .retarget
  | roster_append .. => .roster_append
  | roster_visibility .. => .roster_visibility
  | roster_remove .. => .roster_remove
  | roster_restore .. => .roster_restore
  | roster_role .. => .roster_role
  | roster_reorder .. => .roster_reorder

end SessionPlanningInput

/-- The version and digest of a catalog. -/
@[ext] structure SessionCatalogGuard (D : Type) where
  version : Version
  digestSha256 : D

def SessionCatalog.guard (catalog : SessionCatalog D) : SessionCatalogGuard D :=
  { version := catalog.version, digestSha256 := catalog.digestSha256 }

/-- A plan for one session. `catalogBefore` and `catalogAfter` are `catalogVersion` and
`catalogDigestSha256`. -/
structure SessionMutationPlan (D : Type) where
  input : SessionPlanningInput D
  before : Option (SessionHead D)
  after : SessionHead D
  catalogBefore : SessionCatalogGuard D
  catalogAfter : SessionCatalogGuard D

/-- What was done, as a result reports it. -/
inductive SessionResultAction where
  | mutation (action : SessionAction)
  | restore
  | remove_new_session

/-- What an applied plan reports. -/
structure SessionMutationResult (D : Type) where
  action : SessionResultAction
  catalogVersion : Version
  session : Option (SessionHead D)

instance : AsciiText SessionAction where
  text
    | .create => "create"
    | .transition => "transition"
    | .retarget => "retarget"
    | .roster_append => "roster_append"
    | .roster_visibility => "roster_visibility"
    | .roster_remove => "roster_remove"
    | .roster_restore => "roster_restore"
    | .roster_role => "roster_role"
    | .roster_reorder => "roster_reorder"
  ascii := AsciiText.ascii_of_values [.create, .transition, .retarget, .roster_append,
    .roster_visibility, .roster_remove, .roster_restore, .roster_role, .roster_reorder]
  injective := AsciiText.injective_of_values [.create, .transition, .retarget, .roster_append,
    .roster_visibility, .roster_remove, .roster_restore, .roster_role, .roster_reorder]

def SessionExpectation.members (expected : SessionExpectation D) : List (String × Json D) :=
  [("expectedSessionDigestSha256", .digest expected.expectedSessionDigestSha256),
    ("expectedSessionVersion", toJson expected.expectedSessionVersion)]

/-- The members of an input besides those of every input. -/
def SessionPlanningInput.ownMembers : SessionPlanningInput D → List (String × Json D)
  | create _ title plannedDurationMinutes lifecycle formatId trackId participants =>
    [("formatId", toJson formatId), ("lifecycle", toJson lifecycle)] ++
      (participants.map fun participants => ("participants", toJson participants)).toList ++
      [("plannedDurationMinutes", toJson plannedDurationMinutes.val), ("title", toJson title),
        ("trackId", toJson trackId)]
  | transition _ expected toLifecycle => expected.members ++ [("to", toJson toLifecycle)]
  | retarget _ expected formatId trackId =>
    expected.members ++ [("formatId", toJson formatId), ("trackId", toJson trackId)]
  | roster_append _ expected participants graduateTo =>
    expected.members ++ (if graduateTo then [("graduateTo", .text "programmed")] else []) ++
      [("participants", toJson participants)]
  | roster_visibility _ expected personId publiclyVisible =>
    expected.members ++
      [("personId", toJson personId), ("publiclyVisible", toJson publiclyVisible)]
  | roster_remove _ expected expectedRosterVersion expectedParticipant =>
    ("expectedParticipant", toJson expectedParticipant) ::
      ("expectedRosterVersion", toJson expectedRosterVersion) :: expected.members
  | roster_restore _ expected expectedRosterVersion participant =>
    ("expectedRosterVersion", toJson expectedRosterVersion) ::
      (expected.members ++ [("participant", toJson participant)])
  | roster_role _ expected expectedRosterVersion expectedParticipant role =>
    ("expectedParticipant", toJson expectedParticipant) ::
      ("expectedRosterVersion", toJson expectedRosterVersion) ::
        (expected.members ++ [("role", toJson role)])
  | roster_reorder _ expected expectedRosterVersion personIds =>
    ("expectedRosterVersion", toJson expectedRosterVersion) ::
      (expected.members ++ [("personIds", toJson personIds)])

instance : ToJson D (SessionPlanningInput D) :=
  ⟨fun input => .obj ([("action", toJson input.action),
      ("actorUserId", toJson input.base.actorUserId),
      ("expectedCatalogDigestSha256", .digest input.base.expectedCatalogDigestSha256),
      ("expectedCatalogVersion", toJson input.base.expectedCatalogVersion)] ++
    input.ownMembers ++
      [("occurredAt", toJson input.base.occurredAt), ("scope", toJson input.base.scope),
        ("sessionId", toJson input.base.sessionId)])⟩

instance : ToJson D (SessionMutationPlan D) :=
  ⟨fun plan => .obj [("after", toJson plan.after), ("before", toJson plan.before),
    ("catalogDigestSha256", .obj [("after", .digest plan.catalogAfter.digestSha256),
      ("before", .digest plan.catalogBefore.digestSha256)]),
    ("catalogVersion", .obj [("after", toJson plan.catalogAfter.version),
      ("before", toJson plan.catalogBefore.version)]),
    ("input", toJson plan.input)]⟩

/-- An authored list of participants : at most 500, with well-formed sources. -/
def participantInputsSchema (host : Host D) (participants : List SessionRosterParticipantInput) :
    Bool :=
  decide (participants.length ≤ 500) &&
    participants.all fun participant => sourceSchema host participant.source

/-- `sessionPlanningInputSchema`, which brings the title of a new session to its canonical
form. -/
def parseSessionPlanningInput (host : Host D) :
    SessionPlanningInput D → Except SessionError (SessionPlanningInput D)
  | .create base title plannedDurationMinutes lifecycle formatId trackId participants => do
    let title ← orRefuse (parseSessionTitleInput host title) .thrown
    require (participants.all (participantInputsSchema host) = true) .thrown
    return .create base title plannedDurationMinutes lifecycle formatId trackId participants
  | .roster_append base expected participants graduateTo => do
    require (participants ≠ [] ∧ participantInputsSchema host participants = true) .thrown
    return .roster_append base expected participants graduateTo
  | .roster_remove base expected expectedRosterVersion expectedParticipant => do
    require (participantSchema host expectedParticipant = true) .thrown
    return .roster_remove base expected expectedRosterVersion expectedParticipant
  | .roster_restore base expected expectedRosterVersion participant => do
    require (participantSchema host participant = true) .thrown
    return .roster_restore base expected expectedRosterVersion participant
  | .roster_role base expected expectedRosterVersion expectedParticipant role => do
    require (participantSchema host expectedParticipant = true) .thrown
    return .roster_role base expected expectedRosterVersion expectedParticipant role
  | .roster_reorder base expected expectedRosterVersion personIds => do
    require (personIds.length ≤ 500) .thrown
    return .roster_reorder base expected expectedRosterVersion personIds
  | input => return input

/-- `sessionMutationPlanSchema`. -/
def parseSessionMutationPlan (host : Host D) (plan : SessionMutationPlan D) :
    Except SessionError (SessionMutationPlan D) := do
  let input ← parseSessionPlanningInput host plan.input
  require (plan.before.all (headSchema host) = true ∧ headSchema host plan.after = true) .thrown
  require (input.action = .create ↔ plan.before = none) .thrown
  require (plan.after.id = input.base.sessionId ∧
    plan.before.all (fun before => before.id = input.base.sessionId) = true) .thrown
  return { plan with input }

/-- The participants of persons not in `seen`, one for each person, seated from
`position` on. -/
def seatNewParticipants : List ApplicationId → ℕ → List SessionRosterParticipantInput →
    List SessionParticipantRef
  | _, _, [] => []
  | seen, position, participant :: participants =>
    if participant.personId ∈ seen then seatNewParticipants seen position participants
    else participant.seat position ::
      seatNewParticipants (participant.personId :: seen) (position + 1) participants

def seededRosterParticipants (participants : Option (List SessionRosterParticipantInput)) :
    List SessionParticipantRef :=
  seatNewParticipants [] 0 (participants.getD [])

/-- `appendedRosterParticipants` : nothing where nobody is new. -/
def appendedRosterParticipants (current : List SessionParticipantRef)
    (incoming : List SessionRosterParticipantInput) : Option (List SessionParticipantRef) :=
  let nextPosition := current.foldl (fun maximum participant => max maximum (participant.position + 1)) 0
  let appended := seatNewParticipants (current.map (·.personId)) nextPosition incoming
  if appended = [] then none else some (current ++ appended)

/-- `visibilitySwitchedRosterParticipants` : nothing where the flag is as requested. -/
def visibilitySwitchedRosterParticipants (current : List SessionParticipantRef)
    (personId : ApplicationId) (publiclyVisible : Bool) :
    Except SessionError (Option (List SessionParticipantRef)) := do
  let participant ← orRefuse (current.find? fun candidate => candidate.personId = personId)
    (.planning .participant_missing)
  if participant.publiclyVisible = publiclyVisible then return none
  else return some (current.map fun candidate =>
    if candidate.personId = personId then { candidate with publiclyVisible } else candidate)

/-- Participants seated in the order they are listed in. -/
def reseat (participants : List SessionParticipantRef) : List SessionParticipantRef :=
  participants.mapIdx fun position participant => { participant with position }

variable [DecidableEq D]

def requireParticipant (host : Host D) (current : List SessionParticipantRef)
    (expected : SessionParticipantRef) : Except SessionError Unit := do
  let participant ← orRefuse (current.find? fun candidate => candidate.personId = expected.personId)
    (.planning .participant_missing)
  require (host.Same participant expected) (.planning .participant_changed)

def removedRosterParticipant (host : Host D) (current : List SessionParticipantRef)
    (expected : SessionParticipantRef) : Except SessionError (List SessionParticipantRef) := do
  requireParticipant host current expected
  return reseat (current.filter fun candidate => candidate.personId ≠ expected.personId)

omit [DecidableEq D] in
def restoredRosterParticipant (current : List SessionParticipantRef)
    (participant : SessionParticipantRef) : Except SessionError (List SessionParticipantRef) := do
  require (∀ candidate ∈ current, candidate.personId ≠ participant.personId)
    (.planning .participant_changed)
  require (participant.position ≤ current.length) (.planning .invalid_plan)
  return reseat (current.insertIdx participant.position participant)

def changedRosterParticipantRole (host : Host D) (current : List SessionParticipantRef)
    (expected : SessionParticipantRef) (role : SessionParticipantRole) :
    Except SessionError (List SessionParticipantRef) := do
  requireParticipant host current expected
  return current.map fun candidate =>
    if candidate.personId = expected.personId then { candidate with role } else candidate

/-- `reorderedRosterParticipants`. Of several entries of a person the last one counts, as in
a `Map`. -/
def reorderedRosterParticipants (current : List SessionParticipantRef)
    (personIds : List ApplicationId) : Except SessionError (List SessionParticipantRef) := do
  require (personIds.length = current.length ∧ personIds.Nodup) (.planning .invalid_plan)
  let participants ← personIds.mapM fun personId =>
    orRefuse (current.reverse.find? fun participant => participant.personId = personId)
      (.planning .participant_changed)
  return reseat participants

def requireEnvironment {host : Host D} (scope : SessionScope) (catalog : SessionCatalog D)
    (vocabulary : ProgramVocabularyState host) : Except SessionError Unit :=
  require (scope = catalog.scope ∧ scope = vocabulary.scope) (.planning .wrong_scope)

def requireCatalogGuard (catalog : SessionCatalog D) (version : Version) (digest : D) :
    Except SessionError Unit :=
  require (catalog.version = version ∧ catalog.digestSha256 = digest) (.planning .stale_catalog)

/-- The session an input is about, as it expects to find it. -/
def requireSession (existing : Option (SessionHead D)) (expected : SessionExpectation D) :
    Except SessionError (SessionHead D) := do
  let existing ← orRefuse existing (.planning .session_missing)
  require (existing.version = expected.expectedSessionVersion ∧
    existing.digestSha256 = expected.expectedSessionDigestSha256) (.planning .stale_session)
  return existing

/-- The session an input is about, as it expects to find it and its roster. -/
def requireExactSessionAndRoster (existing : Option (SessionHead D))
    (expected : SessionExpectation D) (expectedRosterVersion : Version) :
    Except SessionError (SessionHead D) := do
  let existing ← requireSession existing expected
  require (existing.roster.version = expectedRosterVersion) (.planning .participant_changed)
  return existing

/-- The places in the lifecycle that follow each other. -/
def transitionIsValid : SessionLifecycle → PlaceableSessionLifecycle → Bool
  | .draft, _ => true
  | .collecting, .programmed => true
  | _, _ => false

/-- `requireTransition`. -/
def requireSessionTransition (fromLifecycle : SessionLifecycle)
    (toLifecycle : PlaceableSessionLifecycle) : Except SessionError Unit :=
  require (transitionIsValid fromLifecycle toLifecycle = true) (.planning .invalid_transition)

section

variable {host : Host D}

def resolvedTrackId (vocabulary : ProgramVocabularyState host) (lifecycle : SessionLifecycle)
    (trackId : Option ApplicationId) : Except SessionError (Option ApplicationId) :=
  if trackId ≠ none ∨ lifecycle = .draft then return trackId
  else match (vocabulary.itemsOfKind .track).filter fun track => track.status = .active with
    | [] => return none
    | [track] => return some track.id
    | _ => .error (.planning .track_required)

def trackEvidence (track : PlannedProgramVocabularyItem) : SessionTrackEvidence :=
  { id := track.id, name := track.name, version := track.version
    accent := match track.fields with
      | .track accent => accent
      -- an item of the family of tracks has an accent
      | _ => deriveProgramTrackAccent track.id }

def currentTargetEvidence (vocabulary : ProgramVocabularyState host) (formatId : ApplicationId)
    (trackId : Option ApplicationId) : Except SessionError (SessionProgramTargetEvidence D) := do
  let format ← orRefuse (resolveProgramVocabularyItem vocabulary .format formatId)
    (.planning .format_missing)
  require (format.status = .active) (.planning .format_retired)
  let track ← trackId.mapM fun trackId =>
    orRefuse (resolveProgramVocabularyItem vocabulary .track trackId) (.planning .track_missing)
  require (track.all (fun track => track.status = .active) = true) (.planning .track_retired)
  return { setVersion := vocabulary.setVersion
           setDigestSha256 := programVocabularySetDigest host vocabulary
           format := { id := format.id, name := format.name, version := format.version }
           track := track.map trackEvidence }

def resolvedTargetEvidence (vocabulary : ProgramVocabularyState host)
    (lifecycle : SessionLifecycle) (formatId : ApplicationId) (trackId : Option ApplicationId) :
    Except SessionError (SessionProgramTargetEvidence D) := do
  let trackId ← resolvedTrackId vocabulary lifecycle trackId
  currentTargetEvidence vocabulary formatId trackId

/-- The evidence for an existing session in its next place of the lifecycle. -/
def refreshedTargetEvidence (vocabulary : ProgramVocabularyState host)
    (lifecycle : SessionLifecycle) (target : SessionProgramTargetEvidence D) :
    Except SessionError (SessionProgramTargetEvidence D) :=
  resolvedTargetEvidence vocabulary lifecycle target.format.id (target.track.map (·.id))

end

/-! ## The planner -/

/-- The next version of a version, where the source parses `version + 1`. -/
def nextVersion (version : Version) : Except SessionError Version :=
  orRefuse (nextAggregateVersion version) .thrown

/-- An existing head with its next version, as changed by the author of an input. -/
def nextHead (host : Host D) (base : SessionInputBase D) (existing : SessionHead D)
    (lifecycle : SessionLifecycle) (programTarget : SessionProgramTargetEvidence D)
    (roster : SessionRosterEvidence D) : Except SessionError (SessionHead D) := do
  let version ← nextVersion existing.version
  parseSessionHead host <| signHead host
    { existing with
      lifecycle, programTarget, roster, version
      updatedByUserId := base.actorUserId, updatedAt := base.occurredAt }

def changedRosterHead (host : Host D) (base : SessionInputBase D) (existing : SessionHead D)
    (participants : List SessionParticipantRef) : Except SessionError (SessionHead D) := do
  let version ← nextVersion existing.roster.version
  nextHead host base existing existing.lifecycle existing.programTarget
    (signRoster host version participants)

/-- The roster of a head with new participants, or signed again where there are none. -/
def nextRoster (host : Host D) (existing : SessionHead D)
    (participants : Option (List SessionParticipantRef)) :
    Except SessionError (SessionRosterEvidence D) :=
  match participants with
  | none => return signRoster host existing.roster.version existing.roster.participants
  | some participants => do
    let version ← nextVersion existing.roster.version
    return signRoster host version participants

/-- The head after a change, for the head before it. -/
def plannedHead (host : Host D) (vocabulary : ProgramVocabularyState host)
    (existing : Option (SessionHead D)) :
    SessionPlanningInput D → Except SessionError (Option (SessionHead D) × SessionHead D)
  | .create base title plannedDurationMinutes lifecycle formatId trackId participants => do
    require (existing = none) (.planning .session_exists)
    let programTarget ← resolvedTargetEvidence vocabulary lifecycle formatId trackId
    let after ← parseSessionHead host <| signHead host
      { scope := base.scope, id := base.sessionId, title, plannedDurationMinutes, lifecycle
        programTarget, roster := signRoster host .one (seededRosterParticipants participants)
        version := .one, createdByUserId := base.actorUserId, createdAt := base.occurredAt
        updatedByUserId := base.actorUserId, updatedAt := base.occurredAt }
    return (none, after)
  | .roster_append base expected participants graduateTo => do
    let existing ← requireSession existing expected
    if graduateTo then requireSessionTransition existing.lifecycle .programmed
    let appended := appendedRosterParticipants existing.roster.participants participants
    let programTarget ← (if graduateTo
      then refreshedTargetEvidence vocabulary .programmed existing.programTarget
      else pure existing.programTarget)
    let roster ← nextRoster host existing appended
    let after ← nextHead host base existing
      (if graduateTo then .programmed else existing.lifecycle) programTarget roster
    return (some existing, after)
  | .roster_visibility base expected personId publiclyVisible => do
    let existing ← requireSession existing expected
    let switched ← visibilitySwitchedRosterParticipants existing.roster.participants personId
      publiclyVisible
    let roster ← nextRoster host existing switched
    let after ← nextHead host base existing existing.lifecycle existing.programTarget roster
    return (some existing, after)
  | .roster_remove base expected expectedRosterVersion expectedParticipant => do
    let existing ← requireExactSessionAndRoster existing expected expectedRosterVersion
    let participants ← removedRosterParticipant host existing.roster.participants
      expectedParticipant
    let after ← changedRosterHead host base existing participants
    return (some existing, after)
  | .roster_restore base expected expectedRosterVersion participant => do
    let existing ← requireExactSessionAndRoster existing expected expectedRosterVersion
    let participants ← restoredRosterParticipant existing.roster.participants participant
    let after ← changedRosterHead host base existing participants
    return (some existing, after)
  | .roster_role base expected expectedRosterVersion expectedParticipant role => do
    let existing ← requireExactSessionAndRoster existing expected expectedRosterVersion
    let participants ← changedRosterParticipantRole host existing.roster.participants
      expectedParticipant role
    let after ← changedRosterHead host base existing participants
    return (some existing, after)
  | .roster_reorder base expected expectedRosterVersion personIds => do
    let existing ← requireExactSessionAndRoster existing expected expectedRosterVersion
    let participants ← reorderedRosterParticipants existing.roster.participants personIds
    let after ← changedRosterHead host base existing participants
    return (some existing, after)
  | .retarget base expected formatId trackId => do
    let existing ← requireSession existing expected
    let programTarget ← resolvedTargetEvidence vocabulary existing.lifecycle formatId trackId
    let after ← nextHead host base existing existing.lifecycle programTarget existing.roster
    return (some existing, after)
  | .transition base expected toLifecycle => do
    let existing ← requireSession existing expected
    requireSessionTransition existing.lifecycle toLifecycle
    let programTarget ← refreshedTargetEvidence vocabulary toLifecycle.lifecycle
      existing.programTarget
    let after ← nextHead host base existing toLifecycle.lifecycle programTarget existing.roster
    return (some existing, after)

def catalogWith (host : Host D) (scope : SessionScope) (version : ℕ)
    (sessions : List (SessionHead D)) : Except SessionError (SessionCatalog D) := do
  let version ← orRefuse (PositiveSafe.parse version) .thrown
  parseSessionCatalog host
    { scope, version, sessions, digestSha256 := sessionCatalogDigest host scope version sessions }

omit [DecidableEq D] in
/-- The sessions of a catalog with a head in the place of the one of its identity. -/
def sessionsWith (catalog : SessionCatalog D) (after : SessionHead D) : List (SessionHead D) :=
  ((catalog.sessions.filter fun session => session.id ≠ after.id) ++ [after]).insertionSort
    fun left right => left.id ≤ right.id

def buildMutationPlan (host : Host D) (input : SessionPlanningInput D) (catalog : SessionCatalog D)
    (before : Option (SessionHead D)) (after : SessionHead D) :
    Except SessionError (SessionMutationPlan D) := do
  let nextCatalog ← catalogWith host catalog.scope (catalog.version.val + 1)
    (sessionsWith catalog after)
  parseSessionMutationPlan host
    { input, before, after, catalogBefore := catalog.guard, catalogAfter := nextCatalog.guard }

def planSessionMutation (host : Host D) (planningInput : SessionPlanningInput D)
    (catalog : SessionCatalog D) (vocabulary : ProgramVocabularyState host) :
    Except SessionError (SessionMutationPlan D) := do
  let planningInput ← parseSessionPlanningInput host planningInput
  requireEnvironment planningInput.base.scope catalog vocabulary
  requireCatalogGuard catalog planningInput.base.expectedCatalogVersion
    planningInput.base.expectedCatalogDigestSha256
  let (before, after) ← plannedHead host vocabulary
    (findSession catalog planningInput.base.sessionId) planningInput
  buildMutationPlan host planningInput catalog before after

/-- `validateSessionMutationPlan` : the code of a refusal, or `none`. -/
def validateSessionMutationPlan (host : Host D) (plan : SessionMutationPlan D)
    (catalog : SessionCatalog D) (vocabulary : ProgramVocabularyState host) :
    Option SessionPlanningErrorCode :=
  match planSessionMutation host plan.input catalog vocabulary with
  | .error (.planning code) => some code
  | .error .thrown => some .invalid_plan
  | .ok rebuilt => if host.Same rebuilt plan then none else some .invalid_plan

/-- Applies `applySessionMutationPlan`. -/
def applySessionMutationPlan (host : Host D) (plan : SessionMutationPlan D)
    (catalog : SessionCatalog D) (vocabulary : ProgramVocabularyState host) :
    Except SessionError (SessionCatalog D × SessionMutationResult D) := do
  if let some refusal := validateSessionMutationPlan host plan catalog vocabulary then
    throw (.planning refusal)
  let next ← catalogWith host catalog.scope plan.catalogAfter.version.val
    (sessionsWith catalog plan.after)
  require (next.digestSha256 = plan.catalogAfter.digestSha256) (.planning .invalid_plan)
  require (headSchema host plan.after = true) .thrown
  return (next, { action := .mutation plan.input.action, catalogVersion := next.version
                  session := some plan.after })

end JooEvents
