import JooEvents.Access.Identity
import JooEvents.Lib.Fallible

/-!
# Participant access

The sign-in of participants by the proof of a mailbox : the links that are sent and
claimed, the directory of the people a lane knows, the pairs that intake has attributed to
the contacts of submissions, and the sessions. A table is the list of its rows with its
constraints, so that a write is refused unless they hold of what it leaves
(`writeRows`); a ceremony runs in a transaction, and one that fails changes nothing
(`ParticipantWorld.step`).
-/

namespace JooEvents

open Fallible

/-- A workspace and an event. -/
structure ParticipantLane where
  workspaceId : ApplicationId
  eventId : ApplicationId
  deriving DecidableEq

/-- What participant access takes from the language. -/
structure ParticipantHost extends AccessHost where
  /-- The digest of `hashParticipantToken`. -/
  sha256 : String → CanonicalSha256

/-- The errors of the ceremonies, by the place that throws them. -/
inductive ParticipantAccessError where
  | emailInvalid
  | policyInvalid
  | instantInvalid
  | attributionCorrupt
  | contactUnreadable
  | challengeConstraint
  | identityConstraint
  | mintMissing
  | revokeConflict
  | sessionConstraint
  | sessionIdentityMissing
  | evidenceConstraint
  deriving DecidableEq

/-- `0000-01-01T00:00:00.000Z` in milliseconds. -/
def minInstantMs : ℤ := -62167219200000

/-- `9999-12-31T23:59:59.999Z` in milliseconds. -/
def maxInstantMs : ℤ := 253402300799999

/-- The instants that have a canonical text, in milliseconds. -/
abbrev InstantMs := {ms : ℤ // minInstantMs ≤ ms ∧ ms ≤ maxInstantMs}

/-- `toInstant`, as the store reads it again. -/
def toInstant (ms : ℤ) : Except ParticipantAccessError InstantMs :=
  if h : minInstantMs ≤ ms ∧ ms ≤ maxInstantMs then .ok ⟨ms, h⟩ else .error .instantInvalid

/-- The last millisecond a column of milliseconds takes. -/
def maxColumnMs : ℤ := 8640000000000000

/-- How long links and sessions last. -/
structure ParticipantAccessPolicy where
  linkTtlMs : ℤ
  sessionSlidingWindowMs : ℤ
  sessionAbsoluteCapMs : ℤ
  linkTtl_pos : 0 < linkTtlMs
  sliding_pos : 0 < sessionSlidingWindowMs
  sliding_le_cap : sessionSlidingWindowMs ≤ sessionAbsoluteCapMs

/-- `/[\s,;<>"\\\u0000-\u001f\u007f]/`. -/
def isRefusedEmailChar (c : Char) : Bool :=
  isWhiteSpace c || [',', ';', '<', '>', '"', '\\'].contains c ||
    decide (c.val.toNat ≤ 0x1F ∨ c.val.toNat = 0x7F)

/-- The characters before the last `@`. -/
def beforeLastAt (s : List Char) : List Char :=
  ((s.reverse.dropWhile fun c => c ≠ '@').drop 1).reverse

/-- The characters after the last `@`. -/
def afterLastAt (s : List Char) : List Char :=
  (s.reverse.takeWhile fun c => c ≠ '@').reverse

/-- What `parseParticipantEmail` asks of a trimmed address. -/
def isParticipantEmail (trimmed : String) : Bool :=
  decide (3 ≤ textLength trimmed ∧ textLength trimmed ≤ 320) &&
    !trimmed.toList.any isRefusedEmailChar && !(beforeLastAt trimmed.toList).isEmpty &&
    !(afterLastAt trimmed.toList).isEmpty && (afterLastAt trimmed.toList).contains '.'

/-- An address as it was given and as it is compared. -/
structure ParticipantEmail (host : AccessHost) where
  displayEmail : String
  normalizedEmail : String
  accepted : isParticipantEmail displayEmail = true
  normalized : normalizedEmail = host.normalizeEmail displayEmail

def parseParticipantEmail (host : AccessHost) (candidate : String) :
    Except ParticipantAccessError (ParticipantEmail host) :=
  if h : isParticipantEmail (trimText candidate) = true then
    .ok ⟨trimText candidate, host.normalizeEmail (trimText candidate), h, rfl⟩
  else .error .emailInvalid

/-- `displayNameFromEmail`. An accepted address has an `@`. -/
def displayNameFromEmail {host : AccessHost} (email : ParticipantEmail host) : String :=
  let localPart := beforeLastAt email.displayEmail.toList
  if localPart.isEmpty then email.displayEmail else String.ofList localPart

/-- `length` of the database : the characters before the first that is zero. -/
def sqlLength (s : String) : ℕ := (s.toList.takeWhile fun c => c.val.toNat ≠ 0).length

/-- `length(s) BETWEEN low AND high`. -/
def lengthBetween (low high : ℕ) (s : String) : Prop := low ≤ sqlLength s ∧ sqlLength s ≤ high

instance (low high : ℕ) (s : String) : Decidable (lengthBetween low high s) :=
  inferInstanceAs (Decidable (_ ∧ _))

/-- `/^[A-Za-z0-9_-]{43}$/`. -/
def isTokenBody (s : List Char) : Bool :=
  s.length == 43 && s.all fun c =>
    isDigitChar c || isLowerChar c || decide (65 ≤ c.val.toNat ∧ c.val.toNat ≤ 90) ||
      c == '_' || c == '-'

/-- `LINK_TOKEN_PREFIX`. -/
def linkTokenStart : String := "plt1_"

def isWellFormedParticipantLinkToken (candidate : String) : Bool :=
  linkTokenStart.toList.isPrefixOf candidate.toList &&
    isTokenBody (candidate.toList.drop linkTokenStart.length)

/-! ## Tables -/

/-- Write the rows that a statement leaves, or refuse when a constraint does not hold of
them. -/
def writeRows {Row : Type} (Constraints : List Row → Prop) [DecidablePred Constraints]
    (error : ParticipantAccessError) (rows : List Row) :
    Except ParticipantAccessError {rows : List Row // Constraints rows} :=
  if h : Constraints rows then .ok ⟨rows, h⟩ else .error error

inductive ChallengeState where
  | issued
  | used
  | superseded
  | expired
  deriving DecidableEq

/-- A row of `participant_sign_in_challenges`. -/
structure ChallengeRow (host : AccessHost) where
  challengeId : ApplicationId
  lane : ParticipantLane
  email : ParticipantEmail host
  tokenHashSha256 : CanonicalSha256
  state : ChallengeState
  requestedAtMs : ℤ
  expiresAtMs : ℤ
  closedAtMs : Option ℤ
  supersededByChallengeId : Option ApplicationId

def ChallengeRow.Checked {host : AccessHost} (row : ChallengeRow host) : Prop :=
  lengthBetween 3 320 row.email.normalizedEmail ∧ lengthBetween 3 320 row.email.displayEmail ∧
    (0 ≤ row.requestedAtMs ∧ row.requestedAtMs ≤ maxColumnMs) ∧
    row.requestedAtMs < row.expiresAtMs ∧
    (∀ closedAtMs ∈ row.closedAtMs, row.requestedAtMs ≤ closedAtMs) ∧
    row.supersededByChallengeId ≠ some row.challengeId ∧
    (row.state = .issued ↔ row.closedAtMs = none) ∧
    (row.state = .superseded ↔ row.supersededByChallengeId ≠ none)

instance {host : AccessHost} (row : ChallengeRow host) : Decidable row.Checked :=
  inferInstanceAs (Decidable (_ ∧ _ ∧ _ ∧ _ ∧ _ ∧ _ ∧ _ ∧ _))

def ChallengeConstraints {host : AccessHost} (rows : List (ChallengeRow host)) : Prop :=
  (∀ row ∈ rows, row.Checked) ∧ (rows.map fun row => row.challengeId).Nodup ∧
    (rows.map fun row => row.tokenHashSha256).Nodup

instance {host : AccessHost} : DecidablePred (@ChallengeConstraints host) :=
  fun _ => inferInstanceAs (Decidable (_ ∧ _ ∧ _))

abbrev ChallengeTable (host : AccessHost) : Type :=
  {rows : List (ChallengeRow host) // ChallengeConstraints rows}

inductive ParticipantIdentityStanding where
  | active
  | revoked
  deriving DecidableEq

inductive ParticipantIdentityOrigin where
  | portalCeremony
  | adoptedAttribution
  deriving DecidableEq

/-- A row of `participant_identity_family`. -/
structure ParticipantIdentityRecord where
  participantIdentityId : ApplicationId
  personId : ApplicationId
  lane : ParticipantLane
  normalizedEmail : String
  displayEmail : String
  displayName : String
  standing : ParticipantIdentityStanding
  origin : ParticipantIdentityOrigin
  mintedAtMs : ℤ
  revokedAtMs : Option ℤ
  deriving DecidableEq

def ParticipantIdentityRecord.Checked (row : ParticipantIdentityRecord) : Prop :=
  lengthBetween 3 320 row.normalizedEmail ∧ lengthBetween 3 320 row.displayEmail ∧
    lengthBetween 1 200 row.displayName ∧ (0 ≤ row.mintedAtMs ∧ row.mintedAtMs ≤ maxColumnMs) ∧
    (∀ revokedAtMs ∈ row.revokedAtMs, row.mintedAtMs ≤ revokedAtMs) ∧
    (row.standing = .revoked ↔ row.revokedAtMs ≠ none)

instance (row : ParticipantIdentityRecord) : Decidable row.Checked :=
  inferInstanceAs (Decidable (_ ∧ _ ∧ _ ∧ _ ∧ _ ∧ _))

/-- The constraints of the directory : the primary key, the two unique keys, and the trigger
that keeps persons and identities apart. -/
def DirectoryConstraints (rows : List ParticipantIdentityRecord) : Prop :=
  (∀ row ∈ rows, row.Checked) ∧ (rows.map fun row => row.participantIdentityId).Nodup ∧
    (rows.map fun row => row.personId).Nodup ∧
    (rows.map fun row => (row.lane, row.normalizedEmail)).Nodup ∧
    ∀ row ∈ rows, ∀ other ∈ rows, row.personId ≠ other.participantIdentityId

instance : DecidablePred DirectoryConstraints :=
  fun _ => inferInstanceAs (Decidable (_ ∧ _ ∧ _ ∧ _ ∧ _))

abbrev ParticipantDirectory : Type :=
  {rows : List ParticipantIdentityRecord // DirectoryConstraints rows}

/-- A row of `participant_sessions`. -/
structure ParticipantSessionRow where
  sessionId : ApplicationId
  lane : ParticipantLane
  participantIdentityId : ApplicationId
  personId : ApplicationId
  tokenHashSha256 : CanonicalSha256
  createdAtMs : ℤ
  lastSeenAtMs : ℤ
  slidingExpiresAtMs : ℤ
  absoluteExpiresAtMs : ℤ
  deriving DecidableEq

def ParticipantSessionRow.Checked (row : ParticipantSessionRow) : Prop :=
  (0 ≤ row.createdAtMs ∧ row.createdAtMs ≤ maxColumnMs) ∧ row.createdAtMs ≤ row.lastSeenAtMs ∧
    row.createdAtMs < row.slidingExpiresAtMs ∧ row.slidingExpiresAtMs ≤ row.absoluteExpiresAtMs

instance (row : ParticipantSessionRow) : Decidable row.Checked :=
  inferInstanceAs (Decidable (_ ∧ _ ∧ _ ∧ _))

def SessionConstraints (rows : List ParticipantSessionRow) : Prop :=
  (∀ row ∈ rows, row.Checked) ∧ (rows.map fun row => row.sessionId).Nodup ∧
    (rows.map fun row => row.tokenHashSha256).Nodup

instance : DecidablePred SessionConstraints :=
  fun _ => inferInstanceAs (Decidable (_ ∧ _ ∧ _))

abbrev ParticipantSessionTable : Type :=
  {rows : List ParticipantSessionRow // SessionConstraints rows}

/-! ## Intake attribution -/

/-- A person and the identity they act under. -/
structure AttributedPair where
  personId : ApplicationId
  participantIdentityId : ApplicationId

/-- The contact of a submission. -/
structure SubmissionContact where
  submissionId : ApplicationId
  personId : ApplicationId
  participantIdentityId : ApplicationId
  email : String

/-- What `readSubmissionContact` comes to for a submission. -/
inductive ContactRead where
  | missing
  /-- An error whose message starts with `intake_contact`. -/
  | unresolvable
  | failed
  | found (contact : SubmissionContact)

/-- A row of `intake_submission_participant_evidence` with the head of its submission, and
the contact as it reads now. -/
structure ParticipantEvidenceRow where
  lane : ParticipantLane
  submissionId : ApplicationId
  submittedAtMs : ℤ
  pair : AttributedPair
  contact : ContactRead

def EvidenceConstraints (rows : List ParticipantEvidenceRow) : Prop :=
  (rows.map fun row => (row.lane, row.submissionId)).Nodup

instance : DecidablePred EvidenceConstraints := fun _ => inferInstanceAs (Decidable (List.Nodup _))

abbrev ParticipantEvidence : Type :=
  {rows : List ParticipantEvidenceRow // EvidenceConstraints rows}

/-- `ORDER BY submitted_at_ms, submission_id`. -/
def ParticipantEvidenceRow.NotAfter (row other : ParticipantEvidenceRow) : Prop :=
  row.submittedAtMs < other.submittedAtMs ∨
    row.submittedAtMs = other.submittedAtMs ∧ row.submissionId.val ≤ other.submissionId.val

instance : DecidableRel ParticipantEvidenceRow.NotAfter :=
  fun _ _ => inferInstanceAs (Decidable (_ ∨ _))

/-- The evidence of a lane in the order of submission. -/
def ParticipantEvidence.ofLane (evidence : ParticipantEvidence) (lane : ParticipantLane) :
    List ParticipantEvidenceRow :=
  (evidence.val.filter fun row => row.lane = lane).insertionSort ParticipantEvidenceRow.NotAfter

/-- The contact that a row has in hand is its own. -/
def ParticipantEvidenceRow.Agrees (row : ParticipantEvidenceRow) (contact : SubmissionContact) :
    Prop :=
  contact.submissionId = row.submissionId ∧ contact.personId = row.pair.personId ∧
    contact.participantIdentityId = row.pair.participantIdentityId

instance (row : ParticipantEvidenceRow) (contact : SubmissionContact) :
    Decidable (row.Agrees contact) :=
  inferInstanceAs (Decidable (_ ∧ _ ∧ _))

def firstAttributed (host : AccessHost) (normalizedEmail : String) :
    List ParticipantEvidenceRow → Except ParticipantAccessError (Option AttributedPair)
  | [] => .ok none
  | row :: rows =>
    match row.contact with
    | .missing => firstAttributed host normalizedEmail rows
    | .unresolvable => firstAttributed host normalizedEmail rows
    | .failed => .error .contactUnreadable
    | .found contact =>
      if ¬ row.Agrees contact then .error .attributionCorrupt
      else if host.normalizeEmail contact.email ≠ normalizedEmail then
        firstAttributed host normalizedEmail rows
      else .ok (some row.pair)

/-- `resolveByEmail` of `createSQLiteIntakeAttributedParticipantSource`. -/
def ParticipantEvidence.resolveByEmail (host : AccessHost) (evidence : ParticipantEvidence)
    (lane : ParticipantLane) (normalizedEmail : String) :
    Except ParticipantAccessError (Option AttributedPair) :=
  firstAttributed host normalizedEmail (evidence.ofLane lane)

/-! ## The store -/

/-- The tables. -/
structure ParticipantWorld (host : AccessHost) where
  challenges : ChallengeTable host
  directory : ParticipantDirectory
  sessions : ParticipantSessionTable
  evidence : ParticipantEvidence

def ParticipantWorld.empty (host : AccessHost) : ParticipantWorld host where
  challenges := ⟨[], by simp [ChallengeConstraints]⟩
  directory := ⟨[], by simp [DirectoryConstraints]⟩
  sessions := ⟨[], by simp [SessionConstraints]⟩
  evidence := ⟨[], List.nodup_nil⟩

section Store

variable {host : AccessHost}

/-- A challenge after a new one for the same address and lane. -/
def ChallengeRow.supersededBy (row : ChallengeRow host) (challengeId : ApplicationId)
    (closedAt : InstantMs) : ChallengeRow host :=
  { row with
    state := .superseded, closedAtMs := some closedAt.val
    supersededByChallengeId := some challengeId }

def ChallengeTable.issue (challenges : ChallengeTable host) (challengeId : ApplicationId)
    (lane : ParticipantLane) (email : ParticipantEmail host) (tokenHashSha256 : CanonicalSha256)
    (requestedAt expiresAt : InstantMs) : Except ParticipantAccessError (ChallengeTable host) := do
  let superseded ← writeRows ChallengeConstraints .challengeConstraint <|
    challenges.val.map fun row =>
      if row.lane = lane ∧ row.email.normalizedEmail = email.normalizedEmail ∧
          row.state = .issued then
        row.supersededBy challengeId requestedAt
      else row
  writeRows ChallengeConstraints .challengeConstraint <| superseded.val ++
    [{ challengeId, lane, email, tokenHashSha256, state := .issued,
       requestedAtMs := requestedAt.val, expiresAtMs := expiresAt.val,
       closedAtMs := none, supersededByChallengeId := none }]

inductive ParticipantChallengeClaim (host : AccessHost) where
  | claimed (email : ParticipantEmail host)
  | expired
  | used
  | superseded
  | unknown

/-- Close the challenge with a token, in the given state. -/
def closeChallenge (tokenHashSha256 : CanonicalSha256) (state : ChallengeState)
    (closedAt : InstantMs) (rows : List (ChallengeRow host)) : List (ChallengeRow host) :=
  rows.map fun row =>
    if row.tokenHashSha256 = tokenHashSha256 then
      { row with state, closedAtMs := some closedAt.val }
    else row

/-- `claim`. A token is of one challenge. -/
def ChallengeTable.claim (challenges : ChallengeTable host) (lane : ParticipantLane)
    (tokenHashSha256 : CanonicalSha256) (now : InstantMs) :
    Except ParticipantAccessError (ChallengeTable host × ParticipantChallengeClaim host) :=
  match challenges.val.find? fun row =>
    decide (row.tokenHashSha256 = tokenHashSha256 ∧ row.lane = lane) with
  | none => .ok (challenges, .unknown)
  | some row =>
    match row.state with
    | .issued => do
      let live := decide (now.val < row.expiresAtMs)
      let challenges ← writeRows ChallengeConstraints .challengeConstraint <|
        closeChallenge tokenHashSha256 (if live then .used else .expired) now challenges.val
      return (challenges, if live then .claimed row.email else .expired)
    | .used => .ok (challenges, .used)
    | .superseded => .ok (challenges, .superseded)
    | .expired => .ok (challenges, .expired)

/-- `resolveByEmail` of the directory. -/
def ParticipantDirectory.resolveByEmail (directory : ParticipantDirectory)
    (lane : ParticipantLane) (normalizedEmail : String) : Option ParticipantIdentityRecord :=
  directory.val.find? fun row => decide (row.lane = lane ∧ row.normalizedEmail = normalizedEmail)

def ParticipantDirectory.get (directory : ParticipantDirectory) (lane : ParticipantLane)
    (participantIdentityId : ApplicationId) : Option ParticipantIdentityRecord :=
  directory.val.find? fun row =>
    decide (row.participantIdentityId = participantIdentityId ∧ row.lane = lane)

def ParticipantDirectory.mint (directory : ParticipantDirectory) (pair : AttributedPair)
    (lane : ParticipantLane) (email : ParticipantEmail host) (displayName : String)
    (origin : ParticipantIdentityOrigin) (mintedAt : InstantMs) :
    Except ParticipantAccessError (ParticipantDirectory × ParticipantIdentityRecord) := do
  let directory ← writeRows DirectoryConstraints .identityConstraint <| directory.val ++
    [{ participantIdentityId := pair.participantIdentityId, personId := pair.personId, lane,
       normalizedEmail := email.normalizedEmail, displayEmail := email.displayEmail, displayName,
       standing := .active, origin, mintedAtMs := mintedAt.val, revokedAtMs := none }]
  let record ← orRefuse (ParticipantDirectory.get directory lane pair.participantIdentityId)
    .mintMissing
  return (directory, record)

def ParticipantDirectory.adoptIntakeAttributedParticipant (directory : ParticipantDirectory)
    (attribution : AttributedPair) (lane : ParticipantLane) (email : ParticipantEmail host)
    (displayName : String) (now : InstantMs) :
    Except ParticipantAccessError (ParticipantDirectory × ParticipantIdentityRecord) :=
  directory.mint attribution lane email displayName .adoptedAttribution now

def ParticipantDirectory.revokeIdentity (directory : ParticipantDirectory)
    (lane : ParticipantLane) (participantIdentityId : ApplicationId) (now : InstantMs) :
    Except ParticipantAccessError ParticipantDirectory := do
  let isTarget : ParticipantIdentityRecord → Prop := fun row =>
    row.participantIdentityId = participantIdentityId ∧ row.lane = lane ∧ row.standing = .active
  require (∃ row ∈ directory.val, isTarget row) .revokeConflict
  writeRows DirectoryConstraints .identityConstraint <| directory.val.map fun row =>
    if isTarget row then { row with standing := .revoked, revokedAtMs := some now.val } else row

structure ParticipantSessionWindow where
  slidingExpiresAt : InstantMs
  absoluteExpiresAt : InstantMs

def initialParticipantSessionWindow (policy : ParticipantAccessPolicy) (createdAt : InstantMs) :
    Except ParticipantAccessError ParticipantSessionWindow := do
  let absolute := createdAt.val + policy.sessionAbsoluteCapMs
  let slidingExpiresAt ←
    toInstant (min (createdAt.val + policy.sessionSlidingWindowMs) absolute)
  let absoluteExpiresAt ← toInstant absolute
  return { slidingExpiresAt, absoluteExpiresAt }

/-- `create`, with the reference of a session to its identity. -/
def ParticipantSessionTable.create (sessions : ParticipantSessionTable)
    (directory : ParticipantDirectory) (sessionId : ApplicationId) (lane : ParticipantLane)
    (identity : ParticipantIdentityRecord) (tokenHashSha256 : CanonicalSha256)
    (createdAt : InstantMs) (window : ParticipantSessionWindow) :
    Except ParticipantAccessError ParticipantSessionTable := do
  require (∃ row ∈ directory.val, row.participantIdentityId = identity.participantIdentityId)
    .sessionIdentityMissing
  writeRows SessionConstraints .sessionConstraint <| sessions.val ++
    [{ sessionId, lane, participantIdentityId := identity.participantIdentityId,
       personId := identity.personId, tokenHashSha256, createdAtMs := createdAt.val,
       lastSeenAtMs := createdAt.val, slidingExpiresAtMs := window.slidingExpiresAt.val,
       absoluteExpiresAtMs := window.absoluteExpiresAt.val }]

end Store

/-! ## Ceremonies -/

section Ceremonies

variable (host : ParticipantHost) (policy : ParticipantAccessPolicy)

/-- A request for a link, with what its ports give. -/
structure RequestSignInLink where
  lane : ParticipantLane
  email : String
  now : InstantMs
  challengeId : ApplicationId
  linkToken : String

/-- `requestParticipantSignInLink`, up to the delivery of the link. -/
def requestParticipantSignInLink (input : RequestSignInLink)
    (world : ParticipantWorld host.toAccessHost) :
    Except ParticipantAccessError (ParticipantWorld host.toAccessHost) := do
  let email ← parseParticipantEmail host.toAccessHost input.email
  let expiresAt ← toInstant (input.now.val + policy.linkTtlMs)
  let challenges ← world.challenges.issue input.challengeId input.lane email
    (host.sha256 input.linkToken) input.now expiresAt
  return { world with challenges }

/-- The completion of a link, with what its ports give. -/
structure CompleteSignInLink where
  lane : ParticipantLane
  token : String
  now : InstantMs
  newPersonId : ApplicationId
  newParticipantIdentityId : ApplicationId
  newSessionId : ApplicationId
  newSessionToken : String

structure IssuedParticipantSession where
  sessionId : ApplicationId
  sessionToken : String
  window : ParticipantSessionWindow

inductive LinkInvalidReason where
  | malformedToken
  | unknownToken
  | superseded
  | identityRevoked

inductive ParticipantLinkCompletion where
  | signedIn (identity : ParticipantIdentityRecord) (session : IssuedParticipantSession)
      (resumed : Bool)
  | linkExpired
  | linkUsed
  | linkInvalid (reason : LinkInvalidReason)

variable {host}

/-- The identity for an address that the directory does not know. -/
def admitParticipant (input : CompleteSignInLink) (email : ParticipantEmail host.toAccessHost)
    (world : ParticipantWorld host.toAccessHost) :
    Except ParticipantAccessError (ParticipantDirectory × ParticipantIdentityRecord) := do
  let attributed ← world.evidence.resolveByEmail host.toAccessHost input.lane email.normalizedEmail
  match attributed with
  | some attributed =>
    world.directory.adoptIntakeAttributedParticipant attributed input.lane email
      (displayNameFromEmail email) input.now
  | none =>
    world.directory.mint ⟨input.newPersonId, input.newParticipantIdentityId⟩ input.lane email
      (displayNameFromEmail email) .portalCeremony input.now

def openParticipantSession (input : CompleteSignInLink) (identity : ParticipantIdentityRecord)
    (resumed : Bool) (world : ParticipantWorld host.toAccessHost) :
    Except ParticipantAccessError
      (ParticipantWorld host.toAccessHost × ParticipantLinkCompletion) := do
  let window ← initialParticipantSessionWindow policy input.now
  let sessions ← world.sessions.create world.directory input.newSessionId input.lane identity
    (host.sha256 input.newSessionToken) input.now window
  return ({ world with sessions },
    .signedIn identity ⟨input.newSessionId, input.newSessionToken, window⟩ resumed)

/-- `completeParticipantSignInLink` for a claimed address. -/
def signInClaimed (input : CompleteSignInLink) (email : ParticipantEmail host.toAccessHost)
    (world : ParticipantWorld host.toAccessHost) :
    Except ParticipantAccessError
      (ParticipantWorld host.toAccessHost × ParticipantLinkCompletion) :=
  match world.directory.resolveByEmail input.lane email.normalizedEmail with
  | some existing =>
    if existing.standing ≠ .active then .ok (world, .linkInvalid .identityRevoked)
    else openParticipantSession policy input existing true world
  | none => do
    let (directory, identity) ← admitParticipant input email world
    openParticipantSession policy input identity false { world with directory }

def completeParticipantSignInLink (input : CompleteSignInLink)
    (world : ParticipantWorld host.toAccessHost) :
    Except ParticipantAccessError
      (ParticipantWorld host.toAccessHost × ParticipantLinkCompletion) := do
  if isWellFormedParticipantLinkToken input.token = false then
    return (world, .linkInvalid .malformedToken)
  let (challenges, claim) ← world.challenges.claim input.lane (host.sha256 input.token) input.now
  let world := { world with challenges }
  match claim with
  | .expired => return (world, .linkExpired)
  | .used => return (world, .linkUsed)
  | .superseded => return (world, .linkInvalid .superseded)
  | .unknown => return (world, .linkInvalid .unknownToken)
  | .claimed email => signInClaimed policy input email world

variable (host)

/-- What happens to the tables. -/
inductive ParticipantStep where
  | request (input : RequestSignInLink)
  | complete (input : CompleteSignInLink)
  | adopt (attribution : AttributedPair) (lane : ParticipantLane)
      (email : ParticipantEmail host.toAccessHost) (displayName : String) (now : InstantMs)
  | revoke (lane : ParticipantLane) (participantIdentityId : ApplicationId) (now : InstantMs)
  /-- Intake attributes a pair to a submission. -/
  | attribute (row : ParticipantEvidenceRow)
  /-- The contact of a submission reads otherwise. -/
  | contact (lane : ParticipantLane) (submissionId : ApplicationId) (contact : ContactRead)

variable {host}

def ParticipantWorld.tryStep (world : ParticipantWorld host.toAccessHost) :
    ParticipantStep host → Except ParticipantAccessError (ParticipantWorld host.toAccessHost)
  | .request input => requestParticipantSignInLink host policy input world
  | .complete input => Prod.fst <$> completeParticipantSignInLink policy input world
  | .adopt attribution lane email displayName now =>
    (fun done => { world with directory := done.1 }) <$>
      world.directory.adoptIntakeAttributedParticipant attribution lane email displayName now
  | .revoke lane participantIdentityId now =>
    (fun directory => { world with directory }) <$>
      world.directory.revokeIdentity lane participantIdentityId now
  | .attribute row =>
    (fun evidence => { world with evidence }) <$>
      writeRows EvidenceConstraints .evidenceConstraint (world.evidence.val ++ [row])
  | .contact lane submissionId contact =>
    (fun evidence => { world with evidence }) <$>
      writeRows EvidenceConstraints .evidenceConstraint (world.evidence.val.map fun row =>
        if row.lane = lane ∧ row.submissionId = submissionId then { row with contact } else row)

/-- A step is a transaction : one that fails leaves the tables as they were. -/
def ParticipantWorld.step (world : ParticipantWorld host.toAccessHost)
    (step : ParticipantStep host) : ParticipantWorld host.toAccessHost :=
  (world.tryStep policy step).toOption.getD world

def participantRun (steps : List (ParticipantStep host)) : ParticipantWorld host.toAccessHost :=
  steps.foldl (fun world step => world.step policy step) (.empty host.toAccessHost)

end Ceremonies

end JooEvents
