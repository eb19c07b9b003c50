import JooEvents.ProgramExport.Model

/-!
# The preflight report and the view

`preflight` reports what keeps a release from being exported, what is left out of the export and
what importing it does. The view is the rows with this report, checked against the schema of the
operation that reads it (`ViewRows.parse`, `parseView`).
-/

namespace JooEvents.ProgramExport

open Fallible

/-! ## The report -/

structure AcceleventsPreflightItem where
  id : String
  summary : String
  anchor : Option String

/-- What a package of the release contains. -/
structure PreflightContents where
  locations : ℕ
  speakers : ℕ
  sessionRows : ℕ
  personalFields : List String

structure AcceleventsPreflight where
  blockers : List AcceleventsPreflightItem
  leftOut : List AcceleventsPreflightItem
  contains : Option PreflightContents
  consequences : List AcceleventsPreflightItem
  ready : Bool

def itemIf (c : Bool) (id summary : String) (anchor : Option String) :
    List AcceleventsPreflightItem :=
  if c then [⟨id, summary, anchor⟩] else []

def oneOrMany (n : ℕ) (one many : String) : String :=
  if n = 1 then one else numberText n ++ " " ++ many

def listNames (names : List String) : String := ", ".intercalate names

/-- `text.trim()` is empty. -/
def isBlank (text : String) : Bool := trimText text = ""

def rowBlockers (source : AcceleventsExportSource) (rows : ViewRows ExactFormat) :
    List AcceleventsPreflightItem :=
  let unmapped := rows.formats.filter fun format => format.remoteFormat.isNone
  let unnamed := rows.speakers.filter fun speaker =>
    isBlank speaker.firstName || isBlank speaker.lastName
  let unmailed := rows.speakers.filter fun speaker => !speaker.hasApprovedEmail
  let unbound := rows.rooms.filter fun room => room.binding.isNone
  itemIf source.configuration.sessionType.isNone "session-type"
      ("Every session row needs a session type — in person, virtual, or hybrid — and none is " ++
        "chosen yet.") (some "#mapping") ++
    itemIf (!unmapped.isEmpty) "formats"
      (oneOrMany unmapped.length "One format has" "formats have" ++
        " no Accelevents format yet: " ++ listNames (unmapped.map (·.name)) ++ ".")
      (some "#mapping") ++
    itemIf (!unnamed.isEmpty) "names"
      (oneOrMany unnamed.length "One speaker is" "speakers are" ++
        " missing a first or last name: " ++ listNames (unnamed.map (·.displayName)) ++ ".")
      (some "#speakers") ++
    itemIf (!unmailed.isEmpty) "emails"
      (oneOrMany unmailed.length "One speaker has" "speakers have" ++
        " no email on file: " ++ listNames (unmailed.map (·.displayName)) ++
        ". Accelevents matches speakers by email.") (some "/app/speakers") ++
    itemIf (!unbound.isEmpty) "locations"
      (oneOrMany unbound.length "One room has" "rooms have" ++
        " no Accelevents location ID yet: " ++ listNames (unbound.map (·.name)) ++ ".")
      (some "#locations")

def occurrenceBlockers (intl : Intl) (source : AcceleventsExportSource) (session : ReleasedSession)
    (occurrence : ReleasedOccurrence) : List AcceleventsPreflightItem :=
  let zone := intl.timeZone source.event.timezone
  let start := (localDateTime occurrence.startAt zone).isoDate
  let finish := (localDateTime occurrence.endAt zone).isoDate
  itemIf (¬ textLt occurrence.startAt.val occurrence.endAt.val) ("time-" ++ occurrence.occurrenceId)
      ("“" ++ session.title ++ "” has an end time that does not follow its start time.")
      (some "/app/schedule") ++
    itemIf (textLt start source.event.startDate ∨ textLt source.event.endDate finish)
      ("date-" ++ occurrence.occurrenceId)
      ("“" ++ session.title ++ "” falls outside the event's date range in " ++
        source.event.timezone ++ ".") (some "/app/schedule")

def sessionBlockers (intl : Intl) (source : AcceleventsExportSource) (session : ReleasedSession) :
    List AcceleventsPreflightItem :=
  itemIf (255 < textLength session.title) ("title-" ++ session.sessionId)
      ("“" ++ session.title ++ "” is longer than Accelevents' 255-character session-title limit.")
      (some "/app/schedule") ++
    (session.track.toList.flatMap fun track =>
      itemIf (50 < textLength track.name) ("track-" ++ track.id)
        ("The track “" ++ track.name ++
          "” is longer than Accelevents' 50-character track-name limit.")
        (some "/app/settings/program")) ++
    session.occurrences.flatMap (occurrenceBlockers intl source session)

/-- What the configuration names outside the release. -/
def staleConfiguration (source : AcceleventsExportSource) (release : ProgramRelease)
    (rows : ViewRows ExactFormat) : List String :=
  let configuration := source.configuration
  let formatIds := rows.formats.map (·.formatId)
  let roomIds := rows.rooms.map (·.roomId)
  let personIds := rows.speakers.map (·.personId)
  let occurrenceIds := release.sessions.flatMap fun session =>
    session.occurrences.map (·.occurrenceId)
  let validPrimaryChoices := rows.primaries.flatMap fun row =>
    row.candidates.map fun candidate => row.occurrenceId ++ ":" ++ candidate.personId
  (configuration.formatMappings.filter (·.formatId ∉ formatIds)).map ("format " ++ ·.formatId) ++
    (configuration.roomBindings.filter (·.roomId ∉ roomIds)).map ("room " ++ ·.roomId) ++
    (configuration.speakerNames.filter (·.personId ∉ personIds)).map ("speaker " ++ ·.personId) ++
    (configuration.primarySpeakers.filter (·.occurrenceId ∉ occurrenceIds)).map
      ("occurrence " ++ ·.occurrenceId) ++
    (configuration.primarySpeakers.filter fun item => item.occurrenceId ∈ occurrenceIds ∧
      item.occurrenceId ++ ":" ++ item.personId ∉ validPrimaryChoices).map
        ("primary choice for occurrence " ++ ·.occurrenceId)

def preflightBlockers (intl : Intl) (source : AcceleventsExportSource) (release : ProgramRelease)
    (rows : ViewRows ExactFormat) : List AcceleventsPreflightItem :=
  let stale := staleConfiguration source release rows
  rowBlockers source rows ++
    release.sessions.flatMap (sessionBlockers intl source) ++
    itemIf (!stale.isEmpty) "stale-configuration"
      ("The saved preparation refers to " ++ oneOrMany stale.length "an item" "items" ++
        " outside this release. Choose the release again to review its mappings.")
      (some "#release")

def preflightLeftOut (rows : ViewRows ExactFormat) : List AcceleventsPreflightItem :=
  (rows.unplacedSessions.map fun session =>
    { id := "unplaced-" ++ session.sessionId
      summary := "“" ++ session.title ++
        "” is released but not scheduled, so it has no time to import."
      anchor := none }) ++
    [⟨"headshots", "Headshots — the Accelevents CSV import cannot carry images.", none⟩,
      ⟨"editorial", "Bios, company names, and session descriptions — no approved copy exists " ++
        "for them, so those columns stay blank.", none⟩]

def preflightContains (source : AcceleventsExportSource) (release : ProgramRelease)
    (rows : ViewRows ExactFormat) : PreflightContents where
  locations := (rows.rooms.filter fun room => room.binding ≠ some .noLocation).length
  speakers := rows.speakers.length
  sessionRows := (release.sessions.map fun session => session.occurrences.length).sum
  personalFields := ["name", "email address"] ++
    (if source.profiles.any fun profile => isPresent profile.pronouns then ["pronouns"] else []) ++
    (if source.profiles.any fun profile => isPresent profile.headline then ["headline"] else []) ++
    (if source.profiles.any fun profile => isPresent profile.linkedInUrl ||
        isPresent profile.instagramHandle || isPresent profile.twitterHandle
      then ["profile links"] else [])

def preflightConsequences (source : AcceleventsExportSource) (release : ProgramRelease)
    (rows : ViewRows ExactFormat) : List AcceleventsPreflightItem :=
  itemIf (release.sessions.any fun session => session.track.isSome) "tracks"
      "Create the listed tracks in Accelevents before importing sessions." none ++
    [⟨"notifications", "Accelevents may email each imported speaker if its own notifications " ++
      "are turned on.", none⟩] ++
    ((rows.primaries.filter fun item => isPresent item.primaryPersonId).map fun item =>
      let primary := item.candidates.find? fun candidate =>
        some candidate.personId = item.primaryPersonId
      { id := "primary-" ++ item.occurrenceId
        summary := (primary.map (·.displayName)).getD "The chosen speaker" ++
          " becomes a primary speaker in Accelevents and can edit and moderate “" ++
          item.sessionTitle ++ "” there."
        anchor := none }) ++
    itemIf source.lastGenerated.isSome "repeat"
      ("A package for this event was already generated. Importing both creates duplicate " ++
        "speakers and sessions in Accelevents.") none

def preflight (intl : Intl) (source : AcceleventsExportSource) (rows : ViewRows ExactFormat) :
    Option ProgramRelease → AcceleventsPreflight
  | none => ⟨[], [], none, [], false⟩
  | some release =>
    let blockers := preflightBlockers intl source release rows
    { blockers
      leftOut := preflightLeftOut rows
      contains := some (preflightContains source release rows)
      consequences := preflightConsequences source release rows
      ready := blockers.isEmpty }

/-! ## The view -/

/-- A text of the view : its length is that of its schema. -/
def checkLength (text : String) (min max : ℕ) : Except ExportRefusal Unit :=
  require (min ≤ textLength text ∧ textLength text ≤ max) .view

/-- `nameSchema.parse`. -/
def parseName (name : String) : Except ExportRefusal String := do
  checkLength (trimText name) 1 300
  return trimText name

/-- `acceleventsFormatRowSchema.parse`. -/
def AcceleventsFormatRow.parse (row : AcceleventsFormatRow ExactFormat) :
    Except ExportRefusal (AcceleventsFormatRow AcceleventsRemoteFormat) := do
  let name ← parseName row.name
  require (IsPositiveSafe row.sessionCount) .view
  let remoteFormat ← row.remoteFormat.mapM fun
    | .format format => .ok format
    | .inherited => .error .view
  return { formatId := row.formatId, name, sessionCount := row.sessionCount, remoteFormat }

/-- `acceleventsSpeakerRowSchema.parse`. -/
def AcceleventsSpeakerRow.parse (row : AcceleventsSpeakerRow) :
    Except ExportRefusal AcceleventsSpeakerRow := do
  let displayName ← parseName row.displayName
  require (IsPositiveSafe row.sessionCount) .view
  checkLength row.firstName 0 160
  checkLength row.lastName 0 160
  return { row with displayName }

/-- `acceleventsRoomRowSchema.parse`. -/
def AcceleventsRoomRow.parse (row : AcceleventsRoomRow) :
    Except ExportRefusal AcceleventsRoomRow := do
  let name ← parseName row.name
  require (IsPositiveSafe row.occurrenceCount) .view
  return { row with name }

/-- `acceleventsPrimaryCandidateSchema.parse`. -/
def AcceleventsPrimaryCandidate.parse (candidate : AcceleventsPrimaryCandidate) :
    Except ExportRefusal AcceleventsPrimaryCandidate := do
  let displayName ← parseName candidate.displayName
  checkLength candidate.roleLabel 1 200
  return { candidate with displayName }

/-- `acceleventsPrimaryRowSchema.parse`. -/
def AcceleventsPrimaryRow.parse (row : AcceleventsPrimaryRow) :
    Except ExportRefusal AcceleventsPrimaryRow := do
  let sessionTitle ← parseName row.sessionTitle
  require (1 ≤ row.candidates.length ∧ row.candidates.length ≤ 500) .view
  let candidates ← row.candidates.mapM AcceleventsPrimaryCandidate.parse
  return { row with sessionTitle, candidates }

def UnplacedSession.parse (session : UnplacedSession) : Except ExportRefusal UnplacedSession := do
  let title ← parseName session.title
  return { session with title }

/-- A list of the view with at most `max` elements. -/
def parseArray {α β : Type} (max : ℕ) (parse : α → Except ExportRefusal β) (values : List α) :
    Except ExportRefusal (List β) := do
  require (values.length ≤ max) .view
  values.mapM parse

def ViewRows.parse (rows : ViewRows ExactFormat) :
    Except ExportRefusal (ViewRows AcceleventsRemoteFormat) := do
  let formats ← parseArray 1000 AcceleventsFormatRow.parse rows.formats
  let speakers ← parseArray 10000 AcceleventsSpeakerRow.parse rows.speakers
  let rooms ← parseArray 1000 AcceleventsRoomRow.parse rows.rooms
  let primaries ← parseArray 10000 AcceleventsPrimaryRow.parse rows.primaries
  let unplacedSessions ← parseArray 10000 UnplacedSession.parse rows.unplacedSessions
  return { formats, speakers, rooms, primaries, unplacedSessions }

/-- `acceleventsPreflightItemSchema.parse`. -/
def AcceleventsPreflightItem.check (item : AcceleventsPreflightItem) :
    Except ExportRefusal Unit := do
  checkLength item.id 1 500
  checkLength item.summary 1 2000
  item.anchor.forM fun anchor => checkLength anchor 1 2048

/-- `acceleventsPreflightSchema.parse`. -/
def AcceleventsPreflight.check (report : AcceleventsPreflight) : Except ExportRefusal Unit := do
  require (report.blockers.length ≤ 20000 ∧ report.leftOut.length ≤ 20000 ∧
    report.consequences.length ≤ 20000) .view
  (report.blockers ++ report.leftOut ++ report.consequences).forM AcceleventsPreflightItem.check
  report.contains.forM fun contents => do
    require (contents.locations ≤ maxSafeInteger ∧ contents.speakers ≤ maxSafeInteger ∧
      contents.sessionRows ≤ maxSafeInteger ∧ contents.personalFields.length ≤ 20) .view

/-- What `releaseOption` returns. -/
structure AcceleventsReleaseOption where
  id : String
  number : ℕ
  releasedAt : Instant
  sessionCount : ℕ
  occurrenceCount : ℕ
  roomCount : ℕ
  speakerCount : ℕ

def releaseOption (release : ProgramRelease) : AcceleventsReleaseOption where
  id := release.id
  number := release.number
  releasedAt := release.releasedAt
  sessionCount := release.sessions.length
  occurrenceCount := (release.sessions.map fun session => session.occurrences.length).sum
  roomCount := release.rooms.length
  speakerCount := ((release.sessions.flatMap (·.participants)).map (·.personId)).dedup.length

/-- `acceleventsReleaseOptionSchema.parse`. -/
def AcceleventsReleaseOption.check (option : AcceleventsReleaseOption) :
    Except ExportRefusal Unit :=
  require (IsPositiveSafe option.number ∧ option.sessionCount ≤ maxSafeInteger ∧
    option.occurrenceCount ≤ maxSafeInteger ∧ option.roomCount ≤ maxSafeInteger ∧
    option.speakerCount ≤ maxSafeInteger) .view

structure AcceleventsExportView extends ViewRows AcceleventsRemoteFormat where
  eventId : String
  configurationVersion : ℕ
  timezone : String
  releases : List AcceleventsReleaseOption
  selectedReleaseId : Option String
  sessionType : Option AcceleventsSessionType
  preflight : AcceleventsPreflight
  lastGenerated : Option LastGenerated
  locationsCsvPath : Option String
  packagePath : Option String

/-- `acceleventsExportViewSchema.parse`, of a view whose rows are checked already. -/
def AcceleventsExportView.check (view : AcceleventsExportView) : Except ExportRefusal Unit := do
  require (view.configurationVersion ≤ maxSafeInteger) .view
  checkLength view.timezone 1 100
  require (view.releases.length ≤ 10000) .view
  view.releases.forM AcceleventsReleaseOption.check
  view.preflight.check
  view.lastGenerated.forM fun last => require (IsPositiveSafe last.releaseNumber) .view
  view.locationsCsvPath.forM fun path => checkLength path 0 2048
  view.packagePath.forM fun path => checkLength path 0 2048

/-- The configuration with the release that is exported where none is chosen. -/
def AcceleventsExportConfiguration.select (configuration : AcceleventsExportConfiguration) :
    Option ProgramRelease → AcceleventsExportConfiguration
  | none => configuration
  | some release =>
    { configuration with
      selectedReleaseId := some (configuration.selectedReleaseId.getD release.id) }

def projectAcceleventsExportView (intl : Intl) (sourceInput : AcceleventsExportSource) :
    Except ExportRefusal AcceleventsExportView := do
  let configuration ← sourceInput.configuration.parse
  require (configuration.eventId = sourceInput.event.id) .scopeMismatch
  let releases := sourceInput.releases.mergeSort fun left right => right.number ≤ left.number
  let release := selectedRelease { sourceInput with releases, configuration }
  let source := { sourceInput with
    releases, configuration := configuration.select release }
  let rows ← viewRows intl source release
  let report := preflight intl source rows release
  let parsed ← rows.parse
  let view : AcceleventsExportView :=
    { parsed with
      eventId := source.event.id
      configurationVersion := configuration.version
      timezone := source.event.timezone
      releases := releases.map releaseOption
      selectedReleaseId := release.map (·.id)
      sessionType := configuration.sessionType
      preflight := report
      lastGenerated := source.lastGenerated
      locationsCsvPath := release.map fun release =>
        "/api/events/current/integrations/accelevents/locations.csv?releaseId=" ++ release.id
      packagePath := if report.ready && source.lastGenerated.isSome then
        release.map fun release =>
          "/api/events/current/integrations/accelevents/package.zip?releaseId=" ++ release.id
        else none }
  view.check
  return view

end JooEvents.ProgramExport
