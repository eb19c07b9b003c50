import JooEvents.ProgramExport.Package

/-!
# Ready packages

A report is ready where no blocker is in it. Then the release is one of the source, each of its
sessions has a remote format, each of its speakers an email and each room of an occurrence a
binding (`Ready`), so that no field of the sessions is missing (`Ready.encodesOccurrence`).

A row of the sessions has one date and two times. They say the start and the end of the occurrence
exactly where these are on one local day, apart from local times that come twice or lie before the
year 1 (`reads_iff`).
-/

namespace JooEvents.ProgramExport

open Fallible

variable {intl : Intl} {source : AcceleventsExportSource} {view : AcceleventsExportView}
  {rows : ViewRows ExactFormat} {release : ProgramRelease}

theorem itemIf_eq_nil {c : Bool} {id summary : String} {anchor : Option String} :
    itemIf c id summary anchor = [] ↔ c = false := by
  cases c <;> simp [itemIf]

/-- Rows that lack nothing. -/
structure Complete (source : AcceleventsExportSource) (rows : ViewRows ExactFormat) : Prop where
  sessionType : ∃ sessionType, source.configuration.sessionType = some sessionType
  formats : ∀ row ∈ rows.formats, ∃ format, row.remoteFormat = some format
  emails : ∀ row ∈ rows.speakers, row.hasApprovedEmail = true
  rooms : ∀ row ∈ rows.rooms, ∃ binding, row.binding = some binding

theorem isEmpty_filter {α : Type} {p : α → Bool} {as : List α}
    (h : (!(as.filter p).isEmpty) = false) : ∀ a ∈ as, p a = false := by
  intro a ha
  rw [Bool.not_eq_false', List.isEmpty_iff, List.filter_eq_nil_iff] at h
  exact Bool.not_eq_true _ ▸ h a ha

theorem complete_of_rowBlockers (h : rowBlockers source rows = []) : Complete source rows := by
  simp only [rowBlockers, List.append_eq_nil_iff, itemIf_eq_nil] at h
  obtain ⟨⟨⟨⟨htype, hformats⟩, -⟩, hemails⟩, hrooms⟩ := h
  refine ⟨?_, fun row hrow => ?_, fun row hrow => ?_, fun row hrow => ?_⟩
  · exact Option.isSome_iff_exists.mp (by simpa using htype)
  · exact Option.isSome_iff_exists.mp (by simpa using isEmpty_filter hformats row hrow)
  · simpa using isEmpty_filter hemails row hrow
  · exact Option.isSome_iff_exists.mp (by simpa using isEmpty_filter hrooms row hrow)

theorem of_preflight_ready {selected : Option ProgramRelease}
    (h : (preflight intl source rows selected).ready = true) :
    ∃ release, selected = some release ∧ Complete source rows := by
  cases selected with
  | none => cases h
  | some release =>
    simp only [preflight, preflightBlockers, List.isEmpty_iff, List.append_eq_nil_iff] at h
    exact ⟨release, rfl, complete_of_rowBlockers h.1.1⟩

theorem mem_sorted {α : Type} {values : List α} {key : α → String} {a : α} :
    a ∈ intl.sorted values key ↔ a ∈ values :=
  List.mem_mergeSort

theorem exists_format_row {session : ReleasedSession} (h : session ∈ release.sessions) :
    ∃ row ∈ (formatsById intl source release).values, row.formatId = session.format.id := by
  have hget : ∃ row, (formatsById intl source release).get session.format.id = some row := by
    refine KeyedMap.exists_get_foldl (k := fun session => session.format.id) ?_
      (.inr ⟨session, h, rfl⟩)
    exact fun _ _ => rfl
  obtain ⟨row, hrow⟩ := hget
  exact ⟨row, KeyedMap.get_eq_some_iff.mp hrow⟩

theorem remoteFormat_of_mem {row : AcceleventsFormatRow ExactFormat}
    (h : row ∈ (formatsById intl source release).values) {mapping : AcceleventsFormatMapping}
    (hmapping : (KeyedMap.ofList source.configuration.formatMappings :
      KeyedMap AcceleventsFormatMapping.formatId).get row.formatId = some mapping) :
    row.remoteFormat = some (.format mapping.remoteFormat) := by
  rcases KeyedMap.mem_values_foldl h with h | ⟨session, -, m, rfl⟩
  · cases h
  · simp only at hmapping
    simp [hmapping]

theorem exists_speaker_row {session : ReleasedSession} {participant : ReleasedParticipant}
    (h : session ∈ release.sessions) (hp : participant ∈ session.participants) :
    ∃ row ∈ (speakersById source release).values, row.personId = participant.personId ∧
      row.hasApprovedEmail = isPresent (source.email participant.personId) := by
  have hget : ∃ row, (speakersById source release).get participant.personId = some row := by
    refine KeyedMap.exists_get_foldl (k := fun participant => participant.personId) ?_
      (.inr ⟨participant, List.mem_flatMap.mpr ⟨session, h, hp⟩, rfl⟩)
    exact fun _ _ => rfl
  obtain ⟨row, hrow⟩ := hget
  obtain ⟨hmem, hkey⟩ := KeyedMap.get_eq_some_iff.mp hrow
  refine ⟨row, hmem, hkey, ?_⟩
  rcases KeyedMap.mem_values_foldl hmem with h | ⟨participant', -, m, rfl⟩
  · cases h
  · rw [← hkey]

theorem exists_roomCount {session : ReleasedSession} {occurrence : ReleasedOccurrence}
    (h : session ∈ release.sessions) (ho : occurrence ∈ session.occurrences) :
    ∃ count ∈ (roomCounts release).values, count.1 = occurrence.roomId := by
  have hget : ∃ count, (roomCounts release).get occurrence.roomId = some count := by
    refine KeyedMap.exists_get_foldl (k := id) ?_
      (.inr ⟨_, List.mem_map_of_mem (List.mem_flatMap.mpr ⟨session, h, ho⟩), rfl⟩)
    exact fun _ _ => rfl
  obtain ⟨count, hcount⟩ := hget
  exact ⟨count, KeyedMap.get_eq_some_iff.mp hcount⟩

theorem roomRow_ok {count : String × ℕ} {row : AcceleventsRoomRow}
    (h : roomRow source release count = .ok row) :
    row.roomId = count.1 ∧ row.binding = ((KeyedMap.ofList source.configuration.roomBindings :
      KeyedMap AcceleventsRoomBinding.roomId).get count.1).map (·.binding) := by
  simp only [roomRow, bind_eq_ok, orRefuse_eq_ok, pure_eq_ok] at h
  obtain ⟨room, -, rfl⟩ := h
  exact ⟨rfl, rfl⟩

/-- What the rows of a release say of its sessions. -/
structure RowsOf (intl : Intl) (source : AcceleventsExportSource) (release : ProgramRelease)
    (rows : ViewRows ExactFormat) : Prop where
  formats : ∀ row, row ∈ rows.formats ↔ row ∈ (formatsById intl source release).values
  speakers : ∀ row, row ∈ rows.speakers ↔ row ∈ (speakersById source release).values
  rooms : ∀ count ∈ (roomCounts release).values,
    ∃ row ∈ rows.rooms, roomRow source release count = .ok row
  room_bindings : ∀ row ∈ rows.rooms,
    row.binding = ((KeyedMap.ofList source.configuration.roomBindings :
      KeyedMap AcceleventsRoomBinding.roomId).get row.roomId).map (·.binding)

theorem rowsOf_of_releaseRows (h : releaseRows intl source release = .ok rows) :
    RowsOf intl source release rows := by
  simp only [releaseRows, bind_eq_ok, pure_eq_ok] at h
  obtain ⟨rooms, hrooms, rfl⟩ := h
  have hforall := forall₂_of_mapM_eq_ok hrooms
  refine ⟨fun row => mem_sorted, fun row => mem_sorted, fun count hcount => ?_, fun row hrow => ?_⟩
  · obtain ⟨row, hrow, hok⟩ := Keyed.exists_left_of_forall₂ hforall.flip hcount
    exact ⟨row, mem_sorted.mpr hrow, hok⟩
  · obtain ⟨count, -, hok⟩ := Keyed.exists_left_of_forall₂ hforall (mem_sorted.mp hrow)
    obtain ⟨hid, hbinding⟩ := roomRow_ok hok
    rw [hbinding, hid]

theorem AcceleventsFormatRow.parse_ok {row : AcceleventsFormatRow ExactFormat}
    {row' : AcceleventsFormatRow AcceleventsRemoteFormat} (h : row.parse = .ok row') :
    row'.formatId = row.formatId ∧
      row.remoteFormat = row'.remoteFormat.map ExactFormat.format := by
  simp only [AcceleventsFormatRow.parse, bind_eq_ok, require_eq_ok, pure_eq_ok] at h
  obtain ⟨name, -, -, -, format, hformat, rfl⟩ := h
  refine ⟨rfl, ?_⟩
  cases hrow : row.remoteFormat with
  | none =>
    rw [hrow] at hformat
    cases hformat
    rfl
  | some exact' =>
    rw [hrow] at hformat
    cases exact' with
    | format f =>
      cases hformat
      rfl
    | inherited => cases hformat

theorem AcceleventsRoomRow.parse_ok {row row' : AcceleventsRoomRow} (h : row.parse = .ok row') :
    row'.roomId = row.roomId ∧ row'.binding = row.binding := by
  simp only [AcceleventsRoomRow.parse, bind_eq_ok, require_eq_ok, pure_eq_ok] at h
  obtain ⟨name, -, -, -, rfl⟩ := h
  exact ⟨rfl, rfl⟩

theorem parseArray_ok {α β : Type} {max : ℕ} {parse : α → Except ExportRefusal β}
    {values : List α} {values' : List β} (h : parseArray max parse values = .ok values') :
    List.Forall₂ (fun a b => parse a = .ok b) values values' := by
  simp only [parseArray, bind_eq_ok, require_eq_ok] at h
  obtain ⟨-, -, h⟩ := h
  exact forall₂_of_mapM_eq_ok h

theorem ViewRows.parse_ok {rows' : ViewRows AcceleventsRemoteFormat} (h : rows.parse = .ok rows') :
    List.Forall₂ (fun row row' => AcceleventsFormatRow.parse row = .ok row')
        rows.formats rows'.formats ∧
      List.Forall₂ (fun row row' => AcceleventsRoomRow.parse row = .ok row')
        rows.rooms rows'.rooms := by
  simp only [ViewRows.parse, bind_eq_ok, pure_eq_ok] at h
  obtain ⟨formats, hformats, -, -, rooms, hrooms, -, -, -, -, rfl⟩ := h
  exact ⟨parseArray_ok hformats, parseArray_ok hrooms⟩

/-- The source that the rows are projected from : the releases are in order, and the configuration
is checked and has a release. -/
def projectedSource (source : AcceleventsExportSource)
    (configuration : AcceleventsExportConfiguration) (release : Option ProgramRelease) :
    AcceleventsExportSource :=
  { source with
    releases := source.releases.mergeSort fun left right => right.number ≤ left.number
    configuration := configuration.select release }

/-- How a view comes about. -/
structure Projected (intl : Intl) (source : AcceleventsExportSource) (view : AcceleventsExportView)
    (configuration : AcceleventsExportConfiguration) (release : Option ProgramRelease)
    (rows : ViewRows ExactFormat) : Prop where
  configuration_ok : source.configuration.parse = .ok configuration
  release_eq : release = selectedRelease { source with
    releases := source.releases.mergeSort fun left right => right.number ≤ left.number
    configuration }
  rows_ok : viewRows intl (projectedSource source configuration release) release = .ok rows
  parsed : rows.parse = .ok view.toViewRows
  report : view.preflight =
    preflight intl (projectedSource source configuration release) rows release
  selected : view.selectedReleaseId = release.map (·.id)

theorem exists_projected (h : projectAcceleventsExportView intl source = .ok view) :
    ∃ configuration release rows, Projected intl source view configuration release rows := by
  simp only [projectAcceleventsExportView, bind_eq_ok, require_eq_ok, pure_eq_ok] at h
  obtain ⟨configuration, hconfiguration, -, -, rows, hrows, parsed, hparsed, -, -, rfl⟩ := h
  exact ⟨configuration, _, rows, hconfiguration, rfl, hrows, hparsed, rfl, rfl⟩

theorem AcceleventsExportConfiguration.parse_ok
    {value configuration : AcceleventsExportConfiguration} (h : value.parse = .ok configuration) :
    configuration.sessionType = value.sessionType ∧
      configuration.formatMappings = value.formatMappings ∧
      configuration.roomBindings = value.roomBindings ∧
      (value.formatMappings.map (·.formatId)).Nodup := by
  simp only [AcceleventsExportConfiguration.parse, bind_eq_ok, require_eq_ok, pure_eq_ok] at h
  obtain ⟨-, -, -, -, speakerNames, -, -, hunique, rfl⟩ := h
  exact ⟨rfl, rfl, rfl, hunique.1⟩

theorem mem_of_selectedRelease (h : selectedRelease source = some release) :
    release ∈ source.releases := by
  unfold selectedRelease at h
  split at h
  · exact List.mem_mergeSort.mp (List.mem_of_mem_head? h)
  · exact List.mem_of_find?_eq_some h

/-- What a ready view says of a release. -/
structure Ready (source : AcceleventsExportSource) (view : AcceleventsExportView)
    (release : ProgramRelease) : Prop where
  mem : release ∈ source.releases
  selected : view.selectedReleaseId = some release.id
  sessionType : ∃ sessionType, source.configuration.sessionType = some sessionType
  /-- Every session has a row with a remote format. -/
  has_format : ∀ session ∈ release.sessions, ∃ row ∈ view.formats, row.formatId = session.format.id
  formats : ∀ row ∈ view.formats, ∃ format, row.remoteFormat = some format ∧
    ∀ mapping ∈ source.configuration.formatMappings, mapping.formatId = row.formatId →
      mapping.remoteFormat = format
  emails : ∀ session ∈ release.sessions, ∀ participant ∈ session.participants,
    ∃ email, source.email participant.personId = some email ∧ email ≠ ""
  /-- Every occurrence has a row of its room. -/
  has_room : ∀ session ∈ release.sessions, ∀ occurrence ∈ session.occurrences,
    ∃ row ∈ view.rooms, row.roomId = occurrence.roomId
  /-- Every room is bound. -/
  rooms : ∀ row ∈ view.rooms, ∃ binding, row.binding = some binding ∧
    ⟨row.roomId, binding⟩ ∈ source.configuration.roomBindings

theorem exists_of_isPresent {text : Option String} (h : isPresent text = true) :
    ∃ value, text = some value ∧ value ≠ "" := by
  cases text with
  | none => cases h
  | some value => exact ⟨value, rfl, by simpa [isPresent] using h⟩

theorem exists_ready (h : projectAcceleventsExportView intl source = .ok view)
    (hready : view.preflight.ready = true) : ∃ release, Ready source view release := by
  obtain ⟨configuration, selected, rows, hview⟩ := exists_projected h
  rw [hview.report] at hready
  obtain ⟨release, rfl, hcomplete⟩ := of_preflight_ready hready
  obtain ⟨htype, hmappings, hbindings, hunique⟩ :=
    AcceleventsExportConfiguration.parse_ok hview.configuration_ok
  have hrows := rowsOf_of_releaseRows hview.rows_ok
  obtain ⟨hformats, hrooms⟩ := ViewRows.parse_ok hview.parsed
  refine ⟨release, List.mem_mergeSort.mp (mem_of_selectedRelease hview.release_eq.symm),
    hview.selected, htype ▸ hcomplete.sessionType, ?_, ?_, ?_, ?_, ?_⟩
  · intro session hsession
    obtain ⟨row, hrow, hid⟩ : ∃ row ∈ (formatsById intl _ release).values,
      row.formatId = session.format.id := exists_format_row hsession
    obtain ⟨row', hrow', hparse⟩ :=
      Keyed.exists_left_of_forall₂ hformats.flip ((hrows.formats row).mpr hrow)
    exact ⟨row', hrow', (AcceleventsFormatRow.parse_ok hparse).1.trans hid⟩
  · intro row' hrow'
    obtain ⟨row, hrow, hparse⟩ := Keyed.exists_left_of_forall₂ hformats hrow'
    obtain ⟨hid, hformat⟩ := AcceleventsFormatRow.parse_ok hparse
    obtain ⟨exact', hexact⟩ := hcomplete.formats row hrow
    rw [hexact] at hformat
    obtain ⟨format, hsome, -⟩ := Option.map_eq_some_iff.mp hformat.symm
    refine ⟨format, hsome, fun mapping hmapping hkey => ?_⟩
    have hget : (KeyedMap.ofList (configuration.select (some release)).formatMappings :
        KeyedMap AcceleventsFormatMapping.formatId).get row.formatId = some mapping :=
      (KeyedMap.get_ofList_eq_some_iff (hmappings ▸ hunique)).mpr
        ⟨hmappings ▸ hmapping, hkey.trans hid⟩
    have hmapped := remoteFormat_of_mem ((hrows.formats row).mp hrow) hget
    rw [hexact, hformat, hsome] at hmapped
    exact (ExactFormat.format.inj (Option.some.inj hmapped)).symm
  · intro session hsession participant hparticipant
    obtain ⟨row, hrow, -, hemail⟩ := exists_speaker_row hsession hparticipant
    have happroved := hcomplete.emails row ((hrows.speakers row).mpr hrow)
    rw [hemail] at happroved
    exact exists_of_isPresent happroved
  · intro session hsession occurrence hoccurrence
    obtain ⟨count, hcount, hroom⟩ := exists_roomCount hsession hoccurrence
    obtain ⟨row, hrow, hok⟩ := hrows.rooms count hcount
    obtain ⟨row', hrow', hparse⟩ := Keyed.exists_left_of_forall₂ hrooms.flip hrow
    have hid := (AcceleventsRoomRow.parse_ok hparse).1.trans (roomRow_ok hok).1
    exact ⟨row', hrow', hid.trans hroom⟩
  · intro row' hrow'
    obtain ⟨row, hrow, hparse⟩ := Keyed.exists_left_of_forall₂ hrooms hrow'
    obtain ⟨hid, hbinding⟩ := AcceleventsRoomRow.parse_ok hparse
    obtain ⟨binding, hsome⟩ := hcomplete.rooms row hrow
    refine ⟨binding, hbinding.trans hsome, ?_⟩
    have hbound := (hrows.room_bindings row hrow).symm.trans hsome
    obtain ⟨bound, hget, rfl⟩ := Option.map_eq_some_iff.mp hbound
    obtain ⟨hmem, hroom⟩ := KeyedMap.mem_of_get_ofList hget
    rw [hid, ← hroom, ← hbindings]
    exact hmem

/-! ## Rows of occurrences -/

theorem AcceleventsSessionType.text_ne_empty (sessionType : AcceleventsSessionType) :
    sessionType.text ≠ "" := by
  cases sessionType <;> decide

theorem AcceleventsRemoteFormat.text_ne_empty (format : AcceleventsRemoteFormat) :
    format.text ≠ "" := by
  cases format <;> decide

/-- The times of a row say the start and the end of an occurrence to the minute, and the end is
later on the date of the row. -/
def Reads (zone : TimeZone) (row : SessionFields) (occurrence : ReleasedOccurrence) : Prop :=
  Recovers zone row.startDate row.startTime occurrence.startAt.millis ∧
    Recovers zone row.startDate row.endTime occurrence.endAt.millis ∧
    ∃ start finish, readLocal row.startDate row.startTime = some start ∧
      readLocal row.startDate row.endTime = some finish ∧ start < finish

/-- The occurrences whose times a row can say : the start is in the year 1 or later, the end in a
later minute of the same local day, and neither minute comes twice. -/
structure WithinLocalDay (zone : TimeZone) (occurrence : ReleasedOccurrence) : Prop where
  year : 1 ≤ zone.localYear occurrence.startAt.millis
  day : zone.localDay occurrence.startAt.millis = zone.localDay occurrence.endAt.millis
  minute : zone.localMinute occurrence.startAt.millis < zone.localMinute occurrence.endAt.millis
  start_once : ShownOnce zone occurrence.startAt.millis
  end_once : ShownOnce zone occurrence.endAt.millis

theorem reads_iff {zone : TimeZone} {row : SessionFields} {occurrence : ReleasedOccurrence}
    (hdate : row.startDate = (localDateTime occurrence.startAt zone).date)
    (hstart : row.startTime = (localDateTime occurrence.startAt zone).time)
    (hend : row.endTime = (localDateTime occurrence.endAt zone).time) :
    Reads zone row occurrence ↔ WithinLocalDay zone occurrence := by
  unfold Reads
  rw [hdate, hstart, hend, recovers_start_iff]
  constructor
  · rintro ⟨⟨hyear, hstart_once⟩, hfinish, start, finish, hstart_read, hfinish_read, hlt⟩
    obtain ⟨hday, hend_once⟩ := (recovers_end_iff hyear).mp hfinish
    rw [readLocal_of_localYear _ hyear] at hstart_read hfinish_read
    have hs := zone.localMinute_eq occurrence.startAt.millis
    have he := zone.localMinute_eq occurrence.endAt.millis
    have := Option.some.inj hstart_read
    have := Option.some.inj hfinish_read
    exact ⟨hyear, hday, by omega, hstart_once, hend_once⟩
  · intro h
    refine ⟨⟨h.year, h.start_once⟩, (recovers_end_iff h.year).mpr ⟨h.day, h.end_once⟩, _, _,
      readLocal_of_localYear _ h.year, readLocal_of_localYear _ h.year, ?_⟩
    have hs := zone.localMinute_eq occurrence.startAt.millis
    have he := zone.localMinute_eq occurrence.endAt.millis
    have := h.minute
    have := h.day
    omega

/-- What the row of an occurrence of a session says. -/
structure EncodesOccurrence (intl : Intl) (source : AcceleventsExportSource)
    (session : ReleasedSession) (occurrence : ReleasedOccurrence) (row : SessionFields) :
    Prop where
  title : row.title = session.title
  format : row.format ≠ "" ∧ ∃ format : AcceleventsRemoteFormat, row.format = format.text ∧
    ∀ mapping ∈ source.configuration.formatMappings, mapping.formatId = session.format.id →
      mapping.remoteFormat = format
  sessionType : row.sessionType ≠ "" ∧ ∃ sessionType,
    source.configuration.sessionType = some sessionType ∧ row.sessionType = sessionType.text
  startDate : row.startDate =
    (localDateTime occurrence.startAt (intl.timeZone source.event.timezone)).date
  startTime : row.startTime =
    (localDateTime occurrence.startAt (intl.timeZone source.event.timezone)).time
  endTime : row.endTime =
    (localDateTime occurrence.endAt (intl.timeZone source.event.timezone)).time
  times : Reads (intl.timeZone source.event.timezone) row occurrence ↔
    WithinLocalDay (intl.timeZone source.event.timezone) occurrence
  tracks : row.tracks = (session.track.map (·.name)).getD ""
  /-- The remote location of the room, or 0 where the room is bound to none. -/
  location :
    (∃ locationId, ⟨occurrence.roomId, .remote locationId⟩ ∈ source.configuration.roomBindings ∧
        row.locationId = numberText locationId.val) ∨
      ⟨occurrence.roomId, .noLocation⟩ ∈ source.configuration.roomBindings ∧ row.locationId = "0"
  /-- Every participant has an email. -/
  emails : ∀ participant ∈ session.participants,
    ∃ email, source.email participant.personId = some email ∧ email ≠ ""
  /-- The participants are the primary speaker, if one is chosen, and the others. -/
  speakers : ∃ primary secondary : List ReleasedParticipant,
    (primary ++ secondary).Perm session.participants ∧
      (∀ participant ∈ primary,
        some participant.personId = source.primarySpeaker occurrence.occurrenceId) ∧
      (∀ participant ∈ secondary,
        some participant.personId ≠ source.primarySpeaker occurrence.occurrenceId) ∧
      row.primarySpeaker = ",".intercalate
        (primary.map fun participant => (source.email participant.personId).getD "") ∧
      row.secondarySpeaker = ",".intercalate
        (secondary.map fun participant => (source.email participant.personId).getD "")

theorem get_speakerEmailsByOccurrence {session : ReleasedSession} {occurrence : ReleasedOccurrence}
    (hunique : ((release.sessions.flatMap (·.occurrences)).map (·.occurrenceId)).Nodup)
    (h : session ∈ release.sessions) (ho : occurrence ∈ session.occurrences) :
    (speakerEmailsByOccurrence source release).get occurrence.occurrenceId =
      some (speakerEmails source session occurrence) := by
  have hkeys : ((release.sessions.flatMap fun session =>
      session.occurrences.map (speakerEmails source session)).map (·.occurrenceId)).Nodup := by
    rw [List.map_flatMap]
    rw [List.map_flatMap] at hunique
    simp only [List.map_map]
    exact hunique
  exact (KeyedMap.get_ofList_eq_some_iff hkeys).mpr
    ⟨List.mem_flatMap.mpr ⟨session, h, List.mem_map_of_mem ho⟩, rfl⟩

theorem Ready.encodesOccurrence (hready : Ready source view release)
    (hunique : ((release.sessions.flatMap (·.occurrences)).map (·.occurrenceId)).Nodup)
    {session : ReleasedSession} {occurrence : ReleasedOccurrence}
    (h : session ∈ release.sessions) (ho : occurrence ∈ session.occurrences) :
    EncodesOccurrence intl source session occurrence
      (sessionRow intl source release view session occurrence) := by
  obtain ⟨formatRow, hformatRow, hformatId, hformat⟩ :=
    KeyedMap.exists_get_foldl_set (m := KeyedMap.empty) (hready.has_format session h)
  obtain ⟨format, hsome, hmapping⟩ := hready.formats formatRow hformatRow
  obtain ⟨roomRow, hroomRow, hroomId, hroom⟩ :=
    KeyedMap.exists_get_foldl_set (m := KeyedMap.empty) (hready.has_room session h occurrence ho)
  obtain ⟨binding, hbinding, hbound⟩ := hready.rooms roomRow hroomRow
  obtain ⟨sessionType, htype⟩ := hready.sessionType
  have hemails : (speakerEmailsByOccurrence source release).get occurrence.occurrenceId =
    some (speakerEmails source session occurrence) := get_speakerEmailsByOccurrence hunique h ho
  have hformatText : (sessionRow intl source release view session occurrence).format =
      format.text := by
    simp only [sessionRow, KeyedMap.ofList, hformat, Option.bind_some, hsome, Option.map_some,
      Option.getD_some]
  have htypeText : (sessionRow intl source release view session occurrence).sessionType =
      sessionType.text := by
    simp only [sessionRow, htype, Option.map_some, Option.getD_some]
  have hlocation : (sessionRow intl source release view session occurrence).locationId =
      locationText (some binding) := by
    simp only [sessionRow, KeyedMap.ofList, hroom, Option.bind_some, hbinding]
  refine
    { title := rfl
      format := ⟨hformatText ▸ format.text_ne_empty, format, hformatText,
        fun mapping hmem hkey => hmapping mapping hmem (hkey.trans hformatId.symm)⟩
      sessionType := ⟨htypeText ▸ sessionType.text_ne_empty, sessionType, htype, htypeText⟩
      startDate := rfl
      startTime := rfl
      endTime := rfl
      times := reads_iff rfl rfl rfl
      tracks := rfl
      location := ?_
      emails := hready.emails session h
      speakers := ?_ }
  · rw [hroomId] at hbound
    cases binding with
    | remote locationId => exact .inl ⟨locationId, hbound, hlocation⟩
    | noLocation => exact .inr ⟨hbound, hlocation⟩
  · refine ⟨session.participants.filter fun participant =>
        some participant.personId = source.primarySpeaker occurrence.occurrenceId,
      session.participants.filter fun participant =>
        some participant.personId ≠ source.primarySpeaker occurrence.occurrenceId,
      ?_, fun participant hp => ?_, fun participant hp => ?_, ?_, ?_⟩
    · simpa using List.filter_append_perm (fun participant : ReleasedParticipant =>
        some participant.personId = source.primarySpeaker occurrence.occurrenceId)
          session.participants
    · exact of_decide_eq_true (List.mem_filter.mp hp).2
    · exact of_decide_eq_true (List.mem_filter.mp hp).2
    · simp only [sessionRow, hemails, Option.map_some, Option.getD_some]
      rfl
    · simp only [sessionRow, hemails, Option.map_some, Option.getD_some]
      rfl

/-- A source as the repository reads it : releases are stored under their ids, and a release has
its occurrences from a schedule, where no id comes twice. -/
structure RepositorySource extends AcceleventsExportSource where
  release_ids : (releases.map (·.id)).Nodup
  occurrence_ids : ∀ release ∈ releases,
    ((release.sessions.flatMap (·.occurrences)).map (·.occurrenceId)).Nodup

theorem Ready.requireReady (hready : Ready source view release)
    (hview : projectAcceleventsExportView intl source = .ok view)
    (hreport : view.preflight.ready = true) (hunique : (source.releases.map (·.id)).Nodup) :
    requireReady intl source = .ok (view, release) := by
  have hfind : source.releases.find? (fun candidate => some candidate.id = view.selectedReleaseId) =
      some release := by
    simpa only [hready.selected, Option.some.injEq] using
      (Keyed.find?_key_eq_some_iff hunique).mpr ⟨hready.mem, rfl⟩
  rw [ProgramExport.requireReady, hview, ok_bind, hfind]
  simp only [orRefuse_some, ok_bind, require_true hreport]
  rfl

/-- A ready package has a row for each occurrence of the release, in order, and what the row says
of it is right. Its times are within the minute exactly where the occurrence is within a local day.
All that is written is read back. -/
theorem acceleventsPackage_encodes (intl : Intl) (source : RepositorySource)
    {view : AcceleventsExportView}
    (hview : projectAcceleventsExportView intl source.toAcceleventsExportSource = .ok view)
    (hready : view.preflight.ready = true) :
    ∃ release ∈ source.releases,
      view.selectedReleaseId = some release.id ∧
      requireReady intl source.toAcceleventsExportSource = .ok (view, release) ∧
      (∃ rows : List SessionFields,
        readCsv (renderSessionsCsv intl source.toAcceleventsExportSource release view) =
            some (sessionsColumns :: rows.map SessionFields.toList) ∧
          List.Forall₂ (fun occurrence row =>
              EncodesOccurrence intl source.toAcceleventsExportSource occurrence.1 occurrence.2 row)
            release.occurrences rows) ∧
      readCsv (renderSpeakersCsv source.toAcceleventsExportSource view) =
        some (speakersColumns :: speakersRows source.toAcceleventsExportSource view) ∧
      ∃ text, renderAcceleventsLocationsCsv intl source.toAcceleventsExportSource = .ok text ∧
        readCsv text = some (locationsColumns :: locationsRows view) := by
  obtain ⟨release, hrelease⟩ := exists_ready hview hready
  refine ⟨release, hrelease.mem, hrelease.selected,
    hrelease.requireReady hview hready source.release_ids,
    ⟨_, readCsv_renderSessionsCsv intl _ release view, ?_⟩, readCsv_renderSpeakersCsv _ view,
    _, ?_, readCsv_locations view⟩
  · rw [sessionsRows, List.forall₂_map_right_iff, List.forall₂_same]
    intro ⟨session, occurrence⟩ hmem
    obtain ⟨session', hsession, hrow⟩ := List.mem_flatMap.mp hmem
    obtain ⟨occurrence', hoccurrence, heq⟩ := List.mem_map.mp hrow
    obtain ⟨rfl, rfl⟩ := Prod.mk.inj heq
    exact hrelease.encodesOccurrence (source.occurrence_ids release hrelease.mem) hsession
      hoccurrence
  · rw [renderAcceleventsLocationsCsv, hview, ok_bind]
    rfl

/-! ## A session across midnight -/

namespace MidnightExample

/-- Texts in the order of their characters, without capital letters, and one time zone. -/
def lateIntl : Intl where
  toLocaleLowerCase := String.toLower
  localeCompare := compare
  timeZone _ _ := 0

def eventId : String := (ApplicationId.ofNat 1).val

def roomId : String := (ApplicationId.ofNat 2).val

def occurrenceId : String := (ApplicationId.ofNat 3).val

def personId : String := (ApplicationId.ofNat 4).val

def lateOccurrence : ReleasedOccurrence where
  occurrenceId
  roomId
  startAt := ⟨"2026-03-08T23:30:00.000Z", by decide +kernel⟩
  endAt := ⟨"2026-03-09T00:30:00.000Z", by decide +kernel⟩

def lateSession : ReleasedSession where
  sessionId := (ApplicationId.ofNat 5).val
  title := "Closing, late"
  format := ⟨(ApplicationId.ofNat 6).val, "Workshop"⟩
  track := none
  occurrences := [lateOccurrence]
  participants := [{ personId, role := .moderator, displayName := "Maya Chen" }]

def lateRelease : ProgramRelease where
  id := (ApplicationId.ofNat 7).val
  number := 1
  releasedAt := .yearStart 2026
  rooms := [⟨roomId, "Main, Hall"⟩]
  sessions := [lateSession]

def lateSource : RepositorySource where
  event := ⟨eventId, "River", "UTC", "2026-03-08", "2026-03-09"⟩
  releases := [lateRelease]
  profiles := [⟨personId, some "maya@example.test", some "she", none, none, none, none⟩]
  configuration := {
    eventId
    version := 1
    selectedReleaseId := none
    sessionType := some .inPerson
    formatMappings := []
    speakerNames := []
    roomBindings := [⟨roomId, .noLocation⟩]
    primarySpeakers := [⟨occurrenceId, personId⟩] }
  lastGenerated := none
  release_ids := by decide
  occurrence_ids := by decide

/-- The row of the speaker. -/
def speaker : List String :=
  ["", "Maya", "Chen", "maya@example.test", "she", "", "", "", "", "", "", "N", "N", "", ""]

def outcome : Except ExportRefusal Unit := do
  let (view, _) ← requireReady lateIntl lateSource.toAcceleventsExportSource
  require (speakersRows lateSource.toAcceleventsExportSource view = [speaker] ∧
    locationsRows view = []) .blocked

theorem outcome_succeeds : outcome.toBool = true := by decide +kernel

end MidnightExample

theorem requireReady_ok (h : requireReady intl source = .ok (view, release)) :
    projectAcceleventsExportView intl source = .ok view ∧ view.preflight.ready = true ∧
      release ∈ source.releases := by
  simp only [requireReady, bind_eq_ok, orRefuse_eq_ok, require_eq_ok, pure_eq_ok] at h
  obtain ⟨view', hview, release', hfind, -, hready, heq⟩ := h
  obtain ⟨rfl, rfl⟩ := Prod.mk.inj heq
  exact ⟨hview, hready, List.mem_of_find?_eq_some hfind⟩

open MidnightExample in
/-- A package is ready although a session ends on the day after it starts. The row of the session
and that of its speaker are read back, and the room needs no location. -/
theorem acceleventsPackage_encodes_late :
    ∃ view row text,
      requireReady lateIntl lateSource.toAcceleventsExportSource = .ok (view, lateRelease) ∧
      readCsv (renderSessionsCsv lateIntl lateSource.toAcceleventsExportSource lateRelease view) =
        some [sessionsColumns, SessionFields.toList row] ∧
      EncodesOccurrence lateIntl lateSource.toAcceleventsExportSource lateSession lateOccurrence
        row ∧
      readCsv (renderSpeakersCsv lateSource.toAcceleventsExportSource view) =
        some [speakersColumns, speaker] ∧
      renderAcceleventsLocationsCsv lateIntl lateSource.toAcceleventsExportSource = .ok text ∧
      readCsv text = some [locationsColumns] := by
  obtain ⟨_, h⟩ := exists_of_toBool outcome_succeeds
  simp only [outcome, bind_eq_ok, require_eq_ok] at h
  obtain ⟨⟨view, release⟩, hready, hspeakersRows, hlocationsRows⟩ := h
  obtain ⟨hview, hreport, -⟩ := requireReady_ok hready
  obtain ⟨release', hrelease, -, hready', ⟨rows, hrows, hencodes⟩, hspeakers, text, htext,
    hlocations⟩ := acceleventsPackage_encodes lateIntl lateSource hview hreport
  obtain rfl := List.mem_singleton.mp hrelease
  obtain ⟨row, rest, hrow, hrest, rfl⟩ := List.forall₂_cons_left_iff.mp hencodes
  obtain rfl := List.forall₂_nil_left_iff.mp hrest
  rw [hspeakersRows] at hspeakers
  rw [hlocationsRows] at hlocations
  exact ⟨view, row, text, hready', hrows, hrow, hspeakers, htext, hlocations⟩

open MidnightExample in
/-- The end that the row of a session across midnight says is not its end. -/
theorem acceleventsPackage_late_misread :
    ∃ view row,
      projectAcceleventsExportView lateIntl lateSource.toAcceleventsExportSource = .ok view ∧
        view.preflight.ready = true ∧
        readCsv (renderSessionsCsv lateIntl lateSource.toAcceleventsExportSource lateRelease view) =
          some [sessionsColumns, SessionFields.toList row] ∧
        ∀ occurrence ∈ lateSession.occurrences,
          ¬ Recovers (lateIntl.timeZone "UTC") row.startDate row.endTime
            occurrence.endAt.millis := by
  obtain ⟨_, h⟩ := exists_of_toBool outcome_succeeds
  simp only [outcome, bind_eq_ok] at h
  obtain ⟨⟨view, release⟩, hready, -⟩ := h
  obtain ⟨hview, hreport, -⟩ := requireReady_ok hready
  refine ⟨view, _, hview, hreport, readCsv_renderSessionsCsv _ _ lateRelease view,
    fun occurrence hmem hrecovers => ?_⟩
  obtain rfl := List.mem_singleton.mp hmem
  exact absurd ((recovers_end_iff (by decide +kernel)).mp hrecovers).1 (by decide +kernel)

end JooEvents.ProgramExport
