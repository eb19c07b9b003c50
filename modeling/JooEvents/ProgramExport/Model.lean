import JooEvents.Lib.KeyedMap
import JooEvents.ProgramExport.LocalTime
import JooEvents.Session.Model

/-!
# The export of a program to Accelevents

An export is prepared from a released program, the approved profiles of its speakers and a saved
configuration. The configuration says what the release does not : the remote format of each
format, the type of the sessions, first and last names, the remote location of each room and who
is a primary speaker.

`projectAcceleventsExportView` collects what a release needs into the rows of a view, and reports
what is missing as blockers. The report is ready where there is no blocker.
-/

namespace JooEvents.ProgramExport

open Fallible

/-- What the library of the language knows of locales and time zones. -/
structure Intl where
  /-- `s.toLocaleLowerCase('en-US')`. -/
  toLocaleLowerCase : String → String
  /-- `s.localeCompare(t, 'en')`. -/
  localeCompare : String → String → Ordering
  /-- The time zone of a name. -/
  timeZone : String → TimeZone

/-! ## The source of an export -/

/-- How a session is held. -/
inductive AcceleventsSessionType where
  | inPerson | virtual | hybrid

def AcceleventsSessionType.text : AcceleventsSessionType → String
  | inPerson => "IN_PERSON"
  | virtual => "VIRTUAL"
  | hybrid => "HYBRID"

/-- The formats that Accelevents knows. -/
inductive AcceleventsRemoteFormat where
  | regularSession | mainStageSession | workshop | meetUp | break | other | expo

def AcceleventsRemoteFormat.text : AcceleventsRemoteFormat → String
  | regularSession => "REGULAR_SESSION"
  | mainStageSession => "MAIN_STAGE_SESSION"
  | workshop => "WORKSHOP"
  | meetUp => "MEET_UP"
  | .break => "BREAK"
  | other => "OTHER"
  | expo => "EXPO"

structure AcceleventsFormatMapping where
  formatId : String
  remoteFormat : AcceleventsRemoteFormat

structure AcceleventsSpeakerName where
  personId : String
  firstName : String
  lastName : String

/-- What a room is bound to. -/
inductive RoomBinding where
  | remote (locationId : PositiveSafe)
  | noLocation
  deriving DecidableEq

structure AcceleventsRoomBinding where
  roomId : String
  binding : RoomBinding

structure AcceleventsPrimarySpeaker where
  occurrenceId : String
  personId : String

structure AcceleventsExportConfiguration where
  eventId : String
  version : ℕ
  selectedReleaseId : Option String
  sessionType : Option AcceleventsSessionType
  formatMappings : List AcceleventsFormatMapping
  speakerNames : List AcceleventsSpeakerName
  roomBindings : List AcceleventsRoomBinding
  primarySpeakers : List AcceleventsPrimarySpeaker

structure ReleasedParticipant where
  personId : String
  role : SessionParticipantRole
  displayName : String

structure ReleasedOccurrence where
  occurrenceId : String
  roomId : String
  startAt : Instant
  endAt : Instant

structure ReleasedRoom where
  id : String
  name : String

/-- A format or a track, as released. -/
structure ReleasedVocabulary where
  id : String
  name : String

structure ReleasedSession where
  sessionId : String
  title : String
  format : ReleasedVocabulary
  track : Option ReleasedVocabulary
  occurrences : List ReleasedOccurrence
  participants : List ReleasedParticipant

structure ProgramRelease where
  id : String
  number : ℕ
  releasedAt : Instant
  rooms : List ReleasedRoom
  sessions : List ReleasedSession

structure AcceleventsApprovedSpeakerProfile where
  personId : String
  email : Option String
  pronouns : Option String
  headline : Option String
  linkedInUrl : Option String
  instagramHandle : Option String
  twitterHandle : Option String

structure AcceleventsEventSource where
  id : String
  name : String
  timezone : String
  startDate : String
  endDate : String

/-- When a package was last generated, and from which release. -/
structure LastGenerated where
  generatedAt : Instant
  releaseNumber : ℕ

structure AcceleventsExportSource where
  event : AcceleventsEventSource
  releases : List ProgramRelease
  profiles : List AcceleventsApprovedSpeakerProfile
  configuration : AcceleventsExportConfiguration
  lastGenerated : Option LastGenerated

/-- Why there is no view, or no package. -/
inductive ExportRefusal where
  | configuration
  | scopeMismatch
  | releaseRoomMissing
  | view
  | blocked

/-- `Boolean(text)`, for a text that may be missing. -/
def isPresent (text : Option String) : Bool := text.getD "" ≠ ""

/-- `acceleventsSpeakerNameSchema.parse`. -/
def AcceleventsSpeakerName.parse (name : AcceleventsSpeakerName) :
    Except ExportRefusal AcceleventsSpeakerName := do
  require (textLength (trimText name.firstName) ≤ 160 ∧ textLength (trimText name.lastName) ≤ 160)
    .configuration
  return { name with firstName := trimText name.firstName, lastName := trimText name.lastName }

/-- `acceleventsExportConfigurationSchema.parse`. -/
def AcceleventsExportConfiguration.parse (value : AcceleventsExportConfiguration) :
    Except ExportRefusal AcceleventsExportConfiguration := do
  require (value.version ≤ maxSafeInteger) .configuration
  require (value.formatMappings.length ≤ 1000 ∧ value.speakerNames.length ≤ 10000 ∧
    value.roomBindings.length ≤ 1000 ∧ value.primarySpeakers.length ≤ 10000) .configuration
  let speakerNames ← value.speakerNames.mapM AcceleventsSpeakerName.parse
  require ((value.formatMappings.map (·.formatId)).Nodup ∧ (speakerNames.map (·.personId)).Nodup ∧
    (value.roomBindings.map (·.roomId)).Nodup ∧
    (value.primarySpeakers.map (·.occurrenceId)).Nodup) .configuration
  return { value with speakerNames }

/-! ## Rows -/

/-- A value that a look-up in the table of exact names gives : the table is an object, and has
what every object has. -/
inductive ExactFormat where
  | format (format : AcceleventsRemoteFormat)
  | inherited

/-- A format of the release. What stands for the remote one depends on whether the row was
checked. -/
structure AcceleventsFormatRow (V : Type) where
  formatId : String
  name : String
  sessionCount : ℕ
  remoteFormat : Option V

structure AcceleventsSpeakerRow where
  personId : String
  displayName : String
  sessionCount : ℕ
  firstName : String
  lastName : String
  prefilled : Bool
  hasApprovedEmail : Bool

structure AcceleventsRoomRow where
  roomId : String
  name : String
  occurrenceCount : ℕ
  binding : Option RoomBinding

structure AcceleventsPrimaryCandidate where
  personId : String
  displayName : String
  roleLabel : String

structure AcceleventsPrimaryRow where
  occurrenceId : String
  sessionId : String
  sessionTitle : String
  candidates : List AcceleventsPrimaryCandidate
  primaryPersonId : Option String

structure UnplacedSession where
  sessionId : String
  title : String

structure ViewRows (V : Type) where
  formats : List (AcceleventsFormatRow V)
  speakers : List AcceleventsSpeakerRow
  rooms : List AcceleventsRoomRow
  primaries : List AcceleventsPrimaryRow
  unplacedSessions : List UnplacedSession

def Intl.sorted {α : Type} (intl : Intl) (values : List α) (key : α → String) : List α :=
  values.mergeSort fun left right => intl.localeCompare (key left) (key right) != .gt

def exactFormatPrefill (intl : Intl) (name : String) : Option ExactFormat :=
  match intl.toLocaleLowerCase (trimText name) with
  | "workshop" => some (.format .workshop)
  | "main stage session" => some (.format .mainStageSession)
  | "regular session" => some (.format .regularSession)
  | "meet-up" => some (.format .meetUp)
  | "break" => some (.format .break)
  | "expo" => some (.format .expo)
  | "other" => some (.format .other)
  | "constructor" => some .inherited
  | "__proto__" => some .inherited
  | _ => none

/-- What `prefillName` returns. -/
structure PrefilledName where
  firstName : String
  lastName : String
  prefilled : Bool

def prefillName (displayName : String) : PrefilledName :=
  match (displayName.toList.splitOnP isWhiteSpace).filter (· ≠ []) with
  | [firstName, lastName] => ⟨String.ofList firstName, String.ofList lastName, true⟩
  | _ => ⟨"", "", false⟩

def participantRoleLabel (participant : ReleasedParticipant) : String :=
  match participant.role with
  | .speaker => "Speaker in JooEvents"
  | .moderator => "Moderator in JooEvents"
  | .host => "Host in JooEvents"
  | .panelist => "Panelist in JooEvents"

def selectedRelease (source : AcceleventsExportSource) : Option ProgramRelease :=
  match source.configuration.selectedReleaseId with
  | none => (source.releases.mergeSort fun left right => right.number ≤ left.number).head?
  | some configured => source.releases.find? fun release => release.id = configured

def AcceleventsExportSource.profilesById (source : AcceleventsExportSource) :
    KeyedMap AcceleventsApprovedSpeakerProfile.personId :=
  .ofList source.profiles

def AcceleventsExportSource.email (source : AcceleventsExportSource) (personId : String) :
    Option String :=
  (source.profilesById.get personId).bind (·.email)

/-- The primary speaker that is chosen for an occurrence. -/
def AcceleventsExportSource.primarySpeaker (source : AcceleventsExportSource)
    (occurrenceId : String) : Option String :=
  ((KeyedMap.ofList source.configuration.primarySpeakers :
    KeyedMap AcceleventsPrimarySpeaker.occurrenceId).get occurrenceId).map (·.personId)

/-- `formatsById`, from the sessions one after the other. -/
def formatsById (intl : Intl) (source : AcceleventsExportSource) (release : ProgramRelease) :
    KeyedMap fun row : AcceleventsFormatRow ExactFormat => row.formatId :=
  let formatMappings : KeyedMap AcceleventsFormatMapping.formatId :=
    .ofList source.configuration.formatMappings
  release.sessions.foldl (fun formats session =>
    formats.set {
      formatId := session.format.id
      name := session.format.name
      sessionCount := ((formats.get session.format.id).map (·.sessionCount)).getD 0 + 1
      remoteFormat := ((formatMappings.get session.format.id).map (.format ·.remoteFormat)).or
        (exactFormatPrefill intl session.format.name) }) .empty

/-- `speakersById`, from the participants one after the other. -/
def speakersById (source : AcceleventsExportSource) (release : ProgramRelease) :
    KeyedMap AcceleventsSpeakerRow.personId :=
  let speakerNames : KeyedMap AcceleventsSpeakerName.personId :=
    .ofList source.configuration.speakerNames
  (release.sessions.flatMap (·.participants)).foldl (fun speakers participant =>
    let configuredName := speakerNames.get participant.personId
    let prefilled := prefillName participant.displayName
    speakers.set {
      personId := participant.personId
      displayName := participant.displayName
      sessionCount := ((speakers.get participant.personId).map (·.sessionCount)).getD 0 + 1
      firstName := (configuredName.map (·.firstName)).getD prefilled.firstName
      lastName := (configuredName.map (·.lastName)).getD prefilled.lastName
      prefilled := configuredName.isNone && prefilled.prefilled
      hasApprovedEmail := isPresent (source.email participant.personId) }) .empty

/-- `roomCounts`, from the occurrences one after the other. -/
def roomCounts (release : ProgramRelease) : KeyedMap (Prod.fst : String × ℕ → String) :=
  ((release.sessions.flatMap (·.occurrences)).map (·.roomId)).foldl (fun counts roomId =>
    counts.set (roomId, ((counts.get roomId).map (·.2)).getD 0 + 1)) .empty

def roomRow (source : AcceleventsExportSource) (release : ProgramRelease) (count : String × ℕ) :
    Except ExportRefusal AcceleventsRoomRow := do
  let room ← orRefuse ((KeyedMap.ofList release.rooms : KeyedMap ReleasedRoom.id).get count.1)
    .releaseRoomMissing
  let binding := (KeyedMap.ofList source.configuration.roomBindings :
    KeyedMap AcceleventsRoomBinding.roomId).get count.1
  return {
    roomId := count.1
    name := room.name
    occurrenceCount := count.2
    binding := binding.map (·.binding) }

/-- The people of a session who can be its primary speaker. -/
def primaryCandidates (session : ReleasedSession) : List AcceleventsPrimaryCandidate :=
  (session.participants.filter fun participant =>
    participant.role = .moderator ∨ participant.role = .host).map fun participant =>
      { personId := participant.personId
        displayName := participant.displayName
        roleLabel := participantRoleLabel participant }

/-- The rows of the occurrences that have a choice of primary speaker. -/
def primaryRows (source : AcceleventsExportSource) (release : ProgramRelease) :
    List AcceleventsPrimaryRow :=
  release.sessions.flatMap fun session =>
    if primaryCandidates session = [] then []
    else session.occurrences.map fun occurrence =>
      { occurrenceId := occurrence.occurrenceId
        sessionId := session.sessionId
        sessionTitle := session.title
        candidates := primaryCandidates session
        primaryPersonId := source.primarySpeaker occurrence.occurrenceId }

/-- `viewRows`, of a release. -/
def releaseRows (intl : Intl) (source : AcceleventsExportSource) (release : ProgramRelease) :
    Except ExportRefusal (ViewRows ExactFormat) := do
  let rooms ← (roomCounts release).values.mapM (roomRow source release)
  return {
    formats := intl.sorted (formatsById intl source release).values
      fun item => item.name ++ "\x00" ++ item.formatId
    speakers := intl.sorted (speakersById source release).values
      fun item => item.displayName ++ "\x00" ++ item.personId
    rooms := intl.sorted rooms fun item => item.name ++ "\x00" ++ item.roomId
    primaries := intl.sorted (primaryRows source release)
      fun item => item.sessionTitle ++ "\x00" ++ item.occurrenceId
    unplacedSessions := intl.sorted
      ((release.sessions.filter fun session => session.occurrences.isEmpty).map
        fun session => ⟨session.sessionId, session.title⟩)
      fun item => item.title ++ "\x00" ++ item.sessionId }

def viewRows (intl : Intl) (source : AcceleventsExportSource) :
    Option ProgramRelease → Except ExportRefusal (ViewRows ExactFormat)
  | none => .ok ⟨[], [], [], [], []⟩
  | some release => releaseRows intl source release

end JooEvents.ProgramExport
