import JooEvents.Program.Domain

/-!
# Session heads and catalogs

A session has a title, a duration, a place in its lifecycle, the format and track it
was classified by, and a roster of participants. The sessions of an event are heads in
its catalog, in the order of their identities.

Rosters, heads and catalogs carry the digest of their contents. Values of these types
are of the shape of their schema, scalars included. What a schema says of texts and of
several fields together is a predicate here (`rosterSchema`, `headSchema`,
`catalogSchema`), and the parsers (`parseSessionHead`, `parseSessionCatalog`) check it
along with the digests.
-/

namespace JooEvents

open Fallible

variable {D : Type}

/-- The scope of sessions : a workspace and an event. -/
abbrev SessionScope := ProgramVocabularyScope

/-- Where a session is in its life. -/
inductive SessionLifecycle where
  | draft | collecting | programmed
  deriving DecidableEq

/-- The lifecycles in which a session can be placed. -/
inductive PlaceableSessionLifecycle where
  | collecting | programmed

def PlaceableSessionLifecycle.lifecycle : PlaceableSessionLifecycle → SessionLifecycle
  | .collecting => .collecting
  | .programmed => .programmed

/-- `canonicalText(maximum)`. -/
def isCanonicalText (host : Host D) (maximum : ℕ) (value : String) : Bool :=
  decide (1 ≤ textLength value ∧ textLength value ≤ maximum ∧
    normalizedProgramVocabularyName host value = value)

/-- `sessionTitleInputSchema` : the title in its canonical form. -/
def parseSessionTitleInput (host : Host D) (value : String) : Option String :=
  let normalized := normalizedProgramVocabularyName host value
  if 0 < textLength normalized ∧ textLength normalized ≤ 300 then some normalized else none

theorem parseSessionTitleInput_of_canonical {host : Host D} {title : String}
    (h : isCanonicalText host 300 title = true) : parseSessionTitleInput host title = some title := by
  obtain ⟨hpos, hlen, hnorm⟩ := of_decide_eq_true h
  rw [parseSessionTitleInput, hnorm, if_pos ⟨hpos, hlen⟩]

/-- A planned duration : 5 to 1440 minutes in steps of five. -/
abbrev PlannedDurationMinutes := {n : ℕ // 5 ≤ n ∧ n ≤ 1440 ∧ n % 5 = 0}

/-- The active format a session is classified by. -/
structure SessionFormatEvidence where
  id : ApplicationId
  name : String
  version : Version

/-- The active track a session is classified by. -/
structure SessionTrackEvidence where
  id : ApplicationId
  name : String
  accent : ProgramTrackAccent
  version : Version

/-- What a session is classified by, and the vocabulary it was read from. -/
structure SessionProgramTargetEvidence (D : Type) where
  setVersion : Version
  setDigestSha256 : D
  format : SessionFormatEvidence
  track : Option SessionTrackEvidence

/-- What put a participant on a roster. -/
structure SessionRosterSourceRef where
  kind : String
  id : String
  version : Version
  deriving DecidableEq

/-- What a participant does in a session. -/
inductive SessionParticipantRole where
  | speaker | moderator | host | panelist
  deriving DecidableEq

/-- A participant of a session. -/
structure SessionParticipantRef where
  personId : ApplicationId
  role : SessionParticipantRole
  position : ℕ
  publiclyVisible : Bool
  source : SessionRosterSourceRef
  deriving DecidableEq

/-- A participant as authored, without a position. -/
structure SessionRosterParticipantInput where
  personId : ApplicationId
  role : SessionParticipantRole
  publiclyVisible : Bool
  source : SessionRosterSourceRef

def SessionRosterParticipantInput.seat (participant : SessionRosterParticipantInput)
    (position : ℕ) : SessionParticipantRef :=
  { personId := participant.personId, role := participant.role, position
    publiclyVisible := participant.publiclyVisible, source := participant.source }

/-- The participants of a session. -/
structure SessionRosterEvidence (D : Type) where
  version : Version
  digestSha256 : D
  participants : List SessionParticipantRef

/-- A session, without its digest. -/
structure UnsignedSessionHead (D : Type) where
  scope : SessionScope
  id : ApplicationId
  title : String
  plannedDurationMinutes : PlannedDurationMinutes
  lifecycle : SessionLifecycle
  programTarget : SessionProgramTargetEvidence D
  roster : SessionRosterEvidence D
  version : Version
  createdByUserId : ApplicationId
  createdAt : Instant
  updatedByUserId : ApplicationId
  updatedAt : Instant

/-- A session. -/
structure SessionHead (D : Type) extends UnsignedSessionHead D where
  digestSha256 : D

/-- The sessions of an event. -/
structure SessionCatalog (D : Type) where
  scope : SessionScope
  version : Version
  digestSha256 : D
  sessions : List (SessionHead D)

def findSession (catalog : SessionCatalog D) (sessionId : ApplicationId) : Option (SessionHead D) :=
  catalog.sessions.find? fun session => session.id = sessionId

/-! ## Encodings -/

instance : AsciiText SessionLifecycle where
  text
    | .draft => "draft"
    | .collecting => "collecting"
    | .programmed => "programmed"
  ascii := AsciiText.ascii_of_values [.draft, .collecting, .programmed]
  injective := AsciiText.injective_of_values [.draft, .collecting, .programmed]

instance : ToJson D PlaceableSessionLifecycle := ⟨fun lifecycle => toJson lifecycle.lifecycle⟩

instance : AsciiText SessionParticipantRole where
  text
    | .speaker => "speaker"
    | .moderator => "moderator"
    | .host => "host"
    | .panelist => "panelist"
  ascii := AsciiText.ascii_of_values [.speaker, .moderator, .host, .panelist]
  injective := AsciiText.injective_of_values [.speaker, .moderator, .host, .panelist]

instance : ToJson D SessionFormatEvidence :=
  ⟨fun format => .obj [("id", toJson format.id), ("kind", .text "format"),
    ("name", toJson format.name), ("status", .text "active"), ("version", toJson format.version)]⟩

instance : ToJson D SessionTrackEvidence :=
  ⟨fun track => .obj [("accent", toJson track.accent), ("id", toJson track.id),
    ("kind", .text "track"), ("name", toJson track.name), ("status", .text "active"),
    ("version", toJson track.version)]⟩

instance : ToJson D (SessionProgramTargetEvidence D) :=
  ⟨fun target => .obj [("format", toJson target.format),
    ("setDigestSha256", .digest target.setDigestSha256), ("setVersion", toJson target.setVersion),
    ("track", toJson target.track)]⟩

instance : ToJson D SessionRosterSourceRef :=
  ⟨fun source => .obj [("id", toJson source.id), ("kind", toJson source.kind),
    ("version", toJson source.version)]⟩

instance : ToJson D SessionParticipantRef :=
  ⟨fun participant => .obj [("personId", toJson participant.personId),
    ("position", toJson participant.position),
    ("publiclyVisible", toJson participant.publiclyVisible), ("role", toJson participant.role),
    ("source", toJson participant.source)]⟩

instance : ToJson D SessionRosterParticipantInput :=
  ⟨fun participant => .obj [("personId", toJson participant.personId),
    ("publiclyVisible", toJson participant.publiclyVisible), ("role", toJson participant.role),
    ("source", toJson participant.source)]⟩

instance : ToJson D (SessionRosterEvidence D) :=
  ⟨fun roster => .obj [("digestSha256", .digest roster.digestSha256),
    ("participants", toJson roster.participants), ("version", toJson roster.version)]⟩

/-- The members of a head besides `id` and what follows it in the order of keys. -/
def UnsignedSessionHead.earlyMembers (head : UnsignedSessionHead D) : List (String × Json D) :=
  [("createdAt", toJson head.createdAt), ("createdByUserId", toJson head.createdByUserId)]

/-- The members of a head from `id` on in the order of keys. -/
def UnsignedSessionHead.lateMembers (head : UnsignedSessionHead D) : List (String × Json D) :=
  [("id", toJson head.id), ("lifecycle", toJson head.lifecycle),
    ("plannedDurationMinutes", toJson head.plannedDurationMinutes.val),
    ("programTarget", toJson head.programTarget), ("roster", toJson head.roster),
    ("schemaVersion", toJson (1 : ℕ)), ("scope", toJson head.scope), ("title", toJson head.title),
    ("updatedAt", toJson head.updatedAt), ("updatedByUserId", toJson head.updatedByUserId),
    ("version", toJson head.version)]

instance : ToJson D (SessionHead D) :=
  ⟨fun head => .obj (head.earlyMembers ++ [("digestSha256", .digest head.digestSha256)] ++
    head.lateMembers)⟩

def sessionRosterDigest (host : Host D) (version : Version)
    (participants : List SessionParticipantRef) : D :=
  host.sha256 <| Json.canonicalize host.nfc <| .obj
    [("participants", toJson participants), ("version", toJson version)]

def sessionHeadDigest (host : Host D) (head : UnsignedSessionHead D) : D :=
  host.sha256 (Json.canonicalize host.nfc (.obj (head.earlyMembers ++ head.lateMembers)))

def sessionCatalogDigest (host : Host D) (scope : SessionScope) (version : Version)
    (sessions : List (SessionHead D)) : D :=
  host.sha256 <| Json.canonicalize host.nfc <| .obj
    [("schemaVersion", toJson (1 : ℕ)), ("scope", toJson scope), ("sessions", toJson sessions),
      ("version", toJson version)]

def signRoster (host : Host D) (version : Version) (participants : List SessionParticipantRef) :
    SessionRosterEvidence D :=
  { version, participants, digestSha256 := sessionRosterDigest host version participants }

def signHead (host : Host D) (head : UnsignedSessionHead D) : SessionHead D :=
  { head with digestSha256 := sessionHeadDigest host head }

/-- `^[a-z][a-z0-9]*(?:[._-][a-z0-9]+)*$`. -/
def isSourceKind (kind : String) : Bool := isDottedIdentifier kind

/-- `sessionRosterSourceRefSchema`. -/
def sourceSchema (host : Host D) (source : SessionRosterSourceRef) : Bool :=
  isSourceKind source.kind && isCanonicalText host 300 source.id

/-- `sessionParticipantRefSchema`. -/
def participantSchema (host : Host D) (participant : SessionParticipantRef) : Bool :=
  decide (participant.position ≤ maxSafeInteger) && sourceSchema host participant.source

/-- `${personId}:${role}`. -/
def SessionParticipantRef.key (participant : SessionParticipantRef) : String :=
  participant.personId.val ++ ":" ++ AsciiText.text participant.role

def participantBefore (previous participant : SessionParticipantRef) : Prop :=
  previous.position < participant.position ∨
    previous.position = participant.position ∧ textLt previous.key participant.key

instance (previous participant : SessionParticipantRef) :
    Decidable (participantBefore previous participant) := inferInstanceAs (Decidable (_ ∨ _))

/-- `sessionRosterEvidenceSchema`. -/
def rosterSchema (host : Host D) (roster : SessionRosterEvidence D) : Bool :=
  roster.participants.all (participantSchema host) &&
    decide (roster.participants.length ≤ 500) &&
    decide (roster.participants.map SessionParticipantRef.key).Nodup &&
    decide (roster.participants.IsChain participantBefore)

/-- `sessionProgramTargetEvidenceSchema`. -/
def targetSchema (host : Host D) (target : SessionProgramTargetEvidence D) : Bool :=
  isCanonicalProgramVocabularyName host target.format.name &&
    target.track.all fun track => isCanonicalProgramVocabularyName host track.name

/-- `sessionHeadSchema`. -/
def headSchema (host : Host D) (head : SessionHead D) : Bool :=
  isCanonicalText host 300 head.title && targetSchema host head.programTarget &&
    rosterSchema host head.roster

/-- `sessionCatalogSchema`. -/
def catalogSchema (host : Host D) (catalog : SessionCatalog D) : Bool :=
  catalog.sessions.all (headSchema host) &&
    decide (catalog.sessions.length ≤ 5000) &&
    catalog.sessions.all (fun session => session.scope = catalog.scope) &&
    decide (catalog.sessions.IsChain fun previous session => previous.id < session.id)

/-- The refusals of the planner of sessions. -/
inductive SessionPlanningErrorCode where
  | wrong_scope | stale_catalog | session_exists | session_missing | stale_session
  | session_placed | format_missing | format_retired | track_missing | track_retired
  | track_required | participant_missing | participant_changed | invalid_transition
  | invalid_plan

/-- How a function of sessions fails : with a planning error, or by throwing from a parser
or a digest check. -/
inductive SessionError where
  | planning (code : SessionPlanningErrorCode)
  | thrown

variable [DecidableEq D]

/-- The checks of `parseSessionHead`. -/
def headChecks (host : Host D) (head : SessionHead D) : Bool :=
  headSchema host head &&
    decide (sessionRosterDigest host head.roster.version head.roster.participants =
      head.roster.digestSha256) &&
    decide (sessionHeadDigest host head.toUnsignedSessionHead = head.digestSha256)

/-- The checks of `parseSessionCatalog`. -/
def catalogChecks (host : Host D) (catalog : SessionCatalog D) : Bool :=
  catalogSchema host catalog && catalog.sessions.all (headChecks host) &&
    decide (sessionCatalogDigest host catalog.scope catalog.version catalog.sessions =
      catalog.digestSha256)

def parseSessionHead (host : Host D) (head : SessionHead D) :
    Except SessionError (SessionHead D) := do
  require (headChecks host head = true) .thrown
  return head

def parseSessionCatalog (host : Host D) (catalog : SessionCatalog D) :
    Except SessionError (SessionCatalog D) := do
  require (catalogChecks host catalog = true) .thrown
  return catalog

theorem parseSessionHead_eq_ok {host : Host D} {head parsed : SessionHead D} :
    parseSessionHead host head = .ok parsed ↔ headChecks host head = true ∧ head = parsed := by
  simp [parseSessionHead]

theorem parseSessionCatalog_eq_ok {host : Host D} {catalog parsed : SessionCatalog D} :
    parseSessionCatalog host catalog = .ok parsed ↔
      catalogChecks host catalog = true ∧ catalog = parsed := by
  simp [parseSessionCatalog]

theorem headSchema_of_headChecks {host : Host D} {head : SessionHead D}
    (h : headChecks host head = true) : headSchema host head = true := by
  simp only [headChecks, Bool.and_eq_true] at h
  exact h.1.1

def createEmptySessionCatalog (host : Host D) (scope : SessionScope) :
    Except SessionError (SessionCatalog D) :=
  parseSessionCatalog host
    { scope, version := .one, sessions := []
      digestSha256 := sessionCatalogDigest host scope .one [] }

end JooEvents
