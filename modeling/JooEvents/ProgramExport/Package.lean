import JooEvents.Lib.Csv
import JooEvents.ProgramExport.Preflight

/-!
# The files of a package

A package holds three tables as comma-separated values : the locations, the speakers and the
sessions, a session once for each of its occurrences. Each table is a header and rows of fields
(`csvFile`), and reading it gives the columns and the fields back, whatever they contain
(`readCsv_csvFile`).
-/

namespace JooEvents.ProgramExport

open Fallible

def csvField (value : String) : String := String.ofList (Csv.writeField value.toList)

def csvLine (values : List String) : String := ",".intercalate (values.map csvField)

/-- A header and lines, joined by line breaks and ended by one. -/
def csvFile (header : String) (lines : List String) : String :=
  "\r\n".intercalate (header :: lines) ++ "\r\n"

def readCsv (text : String) : Option (List (List String)) :=
  (Csv.read .start [] [] text.toList).map fun records =>
    records.map fun fields => fields.map String.ofList

theorem toList_csvLine (values : List String) :
    (csvLine values).toList = Csv.writeRecord (values.map String.toList) := by
  rw [csvLine, String.toList_intercalate, Csv.writeRecord, List.map_map, List.map_map]
  have hfields : String.toList ∘ csvField = Csv.writeField ∘ String.toList := by
    funext value
    simp [csvField]
  rw [hfields]
  rfl

theorem toList_csvFile (columns : List String) (rows : List (List String)) :
    (csvFile (csvLine columns) (rows.map csvLine)).toList =
      Csv.writeFile ((columns :: rows).map fun fields => fields.map String.toList) := by
  have hbreak : "\r\n".toList = ['\r', '\n'] := rfl
  rw [csvFile, String.toList_append, String.toList_intercalate, hbreak]
  induction rows generalizing columns with
  | nil => simp [Csv.writeFile, toList_csvLine]
  | cons row rows ih =>
    rw [List.map_cons, List.map_cons, List.map_cons, List.intercalate_cons_cons, List.append_assoc,
      List.append_assoc, ← List.map_cons, ih, toList_csvLine]
    simp only [List.map_cons, Csv.writeFile_cons, List.cons_append, List.nil_append]

theorem readCsv_csvFile {header : String} {columns : List String}
    (hheader : header = csvLine columns) (hcolumns : columns ≠ []) {rows : List (List String)} (hrows : ∀ row ∈ rows, row ≠ []) :
    readCsv (csvFile header (rows.map csvLine)) = some (columns :: rows) := by
  have hfields : ∀ fields ∈ (columns :: rows).map fun fields => fields.map String.toList,
      fields ≠ [] := by
    intro fields hmem
    obtain ⟨row, hrow, rfl⟩ := List.mem_map.mp hmem
    rw [Ne, List.map_eq_nil_iff]
    rcases List.mem_cons.mp hrow with rfl | hrow
    · exact hcolumns
    · exact hrows row hrow
  rw [hheader, readCsv, toList_csvFile, Csv.read_writeFile hfields, Option.map_some, List.map_map]
  congr 1
  conv_rhs => rw [← List.map_id (columns :: rows)]
  refine List.map_congr_left fun row _ => ?_
  rw [Function.comp_apply, List.map_map, id_eq]
  conv_rhs => rw [← List.map_id row]
  exact List.map_congr_left fun value _ => String.ofList_toList

def acceleventsLocationsHeader : String := "Location,Source URL,Attendee Meetings"

def locationsColumns : List String := ["Location", "Source URL", "Attendee Meetings"]

def locationsRows (view : AcceleventsExportView) : List (List String) :=
  (view.rooms.filter fun room => room.binding ≠ some .noLocation).map fun room =>
    [room.name, "", "N"]

def renderAcceleventsLocationsCsv (intl : Intl) (source : AcceleventsExportSource) :
    Except ExportRefusal String := do
  let view ← projectAcceleventsExportView intl source
  return csvFile acceleventsLocationsHeader ((locationsRows view).map csvLine)

def requireReady (intl : Intl) (source : AcceleventsExportSource) :
    Except ExportRefusal (AcceleventsExportView × ProgramRelease) := do
  let view ← projectAcceleventsExportView intl source
  let release ← orRefuse
    (source.releases.find? fun candidate => some candidate.id = view.selectedReleaseId) .blocked
  require (view.preflight.ready = true) .blocked
  return (view, release)

def acceleventsSpeakersHeader : String :=
  "Speaker Id,First Name,Last Name,Email,Pronouns,Title,Company,Bio,LinkedIn URL," ++
    "Instagram Handle,Twitter Handle,Override Profile Details,Allow to Edit Sessions," ++
    "Primary Sessions,Secondary Sessions"

def speakersColumns : List String :=
  ["Speaker Id", "First Name", "Last Name", "Email", "Pronouns", "Title", "Company", "Bio",
    "LinkedIn URL", "Instagram Handle", "Twitter Handle", "Override Profile Details",
    "Allow to Edit Sessions", "Primary Sessions", "Secondary Sessions"]

def speakersRows (source : AcceleventsExportSource) (view : AcceleventsExportView) :
    List (List String) :=
  view.speakers.map fun speaker =>
    let profile := source.profilesById.get speaker.personId
    let field (value : AcceleventsApprovedSpeakerProfile → Option String) : String :=
      (profile.bind value).getD ""
    ["", speaker.firstName, speaker.lastName, field (·.email), field (·.pronouns),
      field (·.headline), "", "", field (·.linkedInUrl), field (·.instagramHandle),
      field (·.twitterHandle), "N", "N", "", ""]

def renderSpeakersCsv (source : AcceleventsExportSource) (view : AcceleventsExportView) : String :=
  csvFile acceleventsSpeakersHeader ((speakersRows source view).map csvLine)

/-! ## Sessions -/

/-- The emails of the speakers of an occurrence. -/
structure SpeakerEmails where
  occurrenceId : String
  primary : List String
  secondary : List String

/-- The emails of those participants of a session who are, or are not, its primary speaker. -/
def participantEmails (source : AcceleventsExportSource) (session : ReleasedSession)
    (select : String → Bool) : List String :=
  (session.participants.filter fun participant => select participant.personId).map
    fun participant => (source.email participant.personId).getD ""

/-- The emails of the speakers of an occurrence of a session. -/
def speakerEmails (source : AcceleventsExportSource) (session : ReleasedSession)
    (occurrence : ReleasedOccurrence) : SpeakerEmails where
  occurrenceId := occurrence.occurrenceId
  primary := participantEmails source session fun personId =>
    some personId = source.primarySpeaker occurrence.occurrenceId
  secondary := participantEmails source session fun personId =>
    some personId ≠ source.primarySpeaker occurrence.occurrenceId

def speakerEmailsByOccurrence (source : AcceleventsExportSource) (release : ProgramRelease) :
    KeyedMap SpeakerEmails.occurrenceId :=
  .ofList (release.sessions.flatMap fun session =>
    session.occurrences.map (speakerEmails source session))

def acceleventsSessionsHeader : String :=
  "ID,Title,Format,Session Type,Start Date,Start Time,End Time,Full Detail,Capacity," ++
    "Short Description,Tags,Tracks,Location Id,Primary speaker,Secondary speaker"

def sessionsColumns : List String :=
  ["ID", "Title", "Format", "Session Type", "Start Date", "Start Time", "End Time", "Full Detail",
    "Capacity", "Short Description", "Tags", "Tracks", "Location Id", "Primary speaker",
    "Secondary speaker"]

/-- The location of a binding that may be missing. -/
def locationText : Option RoomBinding → String
  | some (.remote locationId) => numberText locationId.val
  | _ => "0"

/-- The fields of a row of sessions that are not always empty. -/
structure SessionFields where
  title : String
  format : String
  sessionType : String
  startDate : String
  startTime : String
  endTime : String
  tracks : String
  locationId : String
  primarySpeaker : String
  secondarySpeaker : String

/-- The fields of a row, in the order of the columns. -/
def SessionFields.toList (row : SessionFields) : List String :=
  ["", row.title, row.format, row.sessionType, row.startDate, row.startTime, row.endTime,
    "", "", "", "", row.tracks, row.locationId, row.primarySpeaker, row.secondarySpeaker]

def sessionRow (intl : Intl) (source : AcceleventsExportSource) (release : ProgramRelease)
    (view : AcceleventsExportView) (session : ReleasedSession) (occurrence : ReleasedOccurrence) :
    SessionFields :=
  let formats : KeyedMap fun row : AcceleventsFormatRow AcceleventsRemoteFormat => row.formatId :=
    .ofList view.formats
  let roomBindings : KeyedMap AcceleventsRoomRow.roomId := .ofList view.rooms
  let emails := (speakerEmailsByOccurrence source release).get occurrence.occurrenceId
  let zone := intl.timeZone source.event.timezone
  let start := localDateTime occurrence.startAt zone
  { title := session.title
    format := (((formats.get session.format.id).bind (·.remoteFormat)).map (·.text)).getD ""
    sessionType := (source.configuration.sessionType.map (·.text)).getD ""
    startDate := start.date
    startTime := start.time
    endTime := (localDateTime occurrence.endAt zone).time
    tracks := (session.track.map (·.name)).getD ""
    locationId := locationText ((roomBindings.get occurrence.roomId).bind (·.binding))
    primarySpeaker := (emails.map fun emails => ",".intercalate emails.primary).getD ""
    secondarySpeaker := (emails.map fun emails => ",".intercalate emails.secondary).getD "" }

/-- The occurrences of a release, each with its session, in order. -/
def ProgramRelease.occurrences (release : ProgramRelease) :
    List (ReleasedSession × ReleasedOccurrence) :=
  release.sessions.flatMap fun session => session.occurrences.map (session, ·)

def sessionsRows (intl : Intl) (source : AcceleventsExportSource) (release : ProgramRelease)
    (view : AcceleventsExportView) : List SessionFields :=
  release.occurrences.map fun row => sessionRow intl source release view row.1 row.2

def renderSessionsCsv (intl : Intl) (source : AcceleventsExportSource) (release : ProgramRelease)
    (view : AcceleventsExportView) : String :=
  csvFile acceleventsSessionsHeader
    (((sessionsRows intl source release view).map SessionFields.toList).map csvLine)

theorem readCsv_locations (view : AcceleventsExportView) :
    readCsv (csvFile acceleventsLocationsHeader ((locationsRows view).map csvLine)) =
      some (locationsColumns :: locationsRows view) := by
  refine readCsv_csvFile (by decide +kernel) (by decide) fun row hrow => ?_
  obtain ⟨room, -, rfl⟩ := List.mem_map.mp hrow
  exact List.cons_ne_nil _ _

theorem readCsv_renderSpeakersCsv (source : AcceleventsExportSource)
    (view : AcceleventsExportView) :
    readCsv (renderSpeakersCsv source view) =
      some (speakersColumns :: speakersRows source view) := by
  refine readCsv_csvFile (by decide +kernel) (by decide) fun row hrow => ?_
  obtain ⟨speaker, -, rfl⟩ := List.mem_map.mp hrow
  exact List.cons_ne_nil _ _

theorem readCsv_renderSessionsCsv (intl : Intl) (source : AcceleventsExportSource)
    (release : ProgramRelease) (view : AcceleventsExportView) :
    readCsv (renderSessionsCsv intl source release view) =
      some (sessionsColumns ::
        (sessionsRows intl source release view).map SessionFields.toList) := by
  refine readCsv_csvFile (by decide +kernel) (by decide) fun row hrow => ?_
  obtain ⟨fields, -, rfl⟩ := List.mem_map.mp hrow
  exact List.cons_ne_nil _ _

end JooEvents.ProgramExport
