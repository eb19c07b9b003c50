import Mathlib.Data.List.Sort
import Mathlib.Data.Rat.Floor
import Mathlib.Data.List.Lex

/-!
# Openings

Where a session can be placed in a column of the board, a room on a day. `columnSegments`
sweeps over what is in the column and cuts the free time at the times the speakers are on
stage elsewhere; `preflight` checks one start against everything. Minutes are counted from
the start of the day, and may lie before it or after its end.
-/

namespace JooEvents

structure SessionSpeaker where
  name : String
  email : String

structure SessionItem where
  id : String
  title : String
  speakers : List SessionSpeaker
  durationMin : ℤ
  durationMin_pos : 0 < durationMin

structure BoardPlacement where
  sessionId : String
  dayKey : String
  roomId : String
  startMin : ℤ

structure BreakBlock where
  label : String
  dayKey : String
  roomId : String
  startMin : ℤ
  durationMin : ℤ
  durationMin_pos : 0 < durationMin

inductive VocabStatus where
  | active
  | retired
  deriving DecidableEq

structure BoardRoom where
  id : String
  name : String
  status : Option VocabStatus

structure ScheduleState where
  /-- The keys of the days. -/
  days : List String
  rooms : List BoardRoom
  slotMinutes : ℤ
  slotMinutes_pos : 0 < slotMinutes
  slotsPerDay : ℤ
  sessions : List SessionItem
  placements : List BoardPlacement
  breaks : List BreakBlock

def dayLengthMin (schedule : ScheduleState) : ℤ := schedule.slotsPerDay * schedule.slotMinutes

def overlaps (aStart aEnd bStart bEnd : ℤ) : Prop := aStart < bEnd ∧ bStart < aEnd

instance (aStart aEnd bStart bEnd : ℤ) : Decidable (overlaps aStart aEnd bStart bEnd) :=
  inferInstanceAs (Decidable (_ ∧ _))

def roomName (schedule : ScheduleState) (roomId : String) : String :=
  ((schedule.rooms.find? fun room => decide (room.id = roomId)).map (·.name)).getD "another room"

def ScheduleState.session? (schedule : ScheduleState) (id : String) : Option SessionItem :=
  schedule.sessions.find? fun session => decide (session.id = id)

/-- The first speaker of a session who also speaks in another. -/
def sharedSpeaker (session other : SessionItem) : Option SessionSpeaker :=
  session.speakers.find? fun speaker =>
    other.speakers.any fun entry => decide (entry.email = speaker.email)

/-- What is in a column from one minute to another. -/
structure Occupant where
  startMin : ℤ
  endMin : ℤ
  label : String

/-- The other sessions that are placed on a day, each with its placement. -/
def placedOthers (schedule : ScheduleState) (session : SessionItem) (dayKey : String) :
    List (BoardPlacement × SessionItem) :=
  schedule.placements.filterMap fun placement =>
    if placement.sessionId = session.id ∨ placement.dayKey ≠ dayKey then none
    else (schedule.session? placement.sessionId).map fun other => (placement, other)

def columnBreaks (schedule : ScheduleState) (dayKey roomId : String) : List BreakBlock :=
  schedule.breaks.filter fun brk => decide (brk.dayKey = dayKey ∧ brk.roomId = roomId)

def placedOccupant (placed : BoardPlacement × SessionItem) : Occupant where
  startMin := placed.1.startMin
  endMin := placed.1.startMin + placed.2.durationMin
  label := placed.2.title

def BreakBlock.occupant (brk : BreakBlock) : Occupant where
  startMin := brk.startMin
  endMin := brk.startMin + brk.durationMin
  label := brk.label

def occupantsOf (schedule : ScheduleState) (session : SessionItem) (dayKey roomId : String) :
    List Occupant :=
  ((((placedOthers schedule session dayKey).filter fun placed =>
      decide (placed.1.roomId = roomId)).map placedOccupant) ++
    (columnBreaks schedule dayKey roomId).map BreakBlock.occupant).insertionSort
      fun a b => a.startMin ≤ b.startMin

/-- A time at which a speaker of the session is on stage. -/
structure BusyTime where
  startMin : ℤ
  endMin : ℤ
  reason : String

/-- The time that a placed session keeps a speaker of this one. -/
def busyTime (schedule : ScheduleState) (session : SessionItem)
    (placed : BoardPlacement × SessionItem) : Option BusyTime :=
  (sharedSpeaker session placed.2).map fun shared =>
    { startMin := placed.1.startMin
      endMin := placed.1.startMin + placed.2.durationMin
      reason := shared.name ++ " is speaking in " ++ roomName schedule placed.1.roomId ++ " then" }

def speakerBusy (schedule : ScheduleState) (session : SessionItem) (dayKey : String) :
    List BusyTime :=
  ((placedOthers schedule session dayKey).filterMap (busyTime schedule session)).insertionSort
    fun a b => a.startMin ≤ b.startMin

inductive SegmentKind where
  | open (prevLabel nextLabel : Option String)
  | blocked (reason : String)
  deriving DecidableEq

structure ColumnSegment where
  kind : SegmentKind
  startMin : ℤ
  endMin : ℤ
  deriving DecidableEq

/-- A free interval between occupants, with the labels of its neighbours. -/
structure FreeGap where
  startMin : ℤ
  endMin : ℤ
  prevLabel : Option String
  nextLabel : Option String

/-- The sweep over the occupants, from a cursor on. -/
def freeGaps (length : ℤ) : ℤ → Option String → List Occupant → List FreeGap
  | cursor, prevLabel, [] => if cursor < length then [⟨cursor, length, prevLabel, none⟩] else []
  | cursor, prevLabel, occupant :: occupants =>
    (if cursor < occupant.startMin then
      [⟨cursor, occupant.startMin, prevLabel, some occupant.label⟩] else []) ++
    freeGaps length (max cursor occupant.endMin) (some occupant.label) occupants

/-- `pushFit` : what is pushed. -/
def fitSegment (session : SessionItem) (startMin endMin : ℤ)
    (prevLabel nextLabel : Option String) : ColumnSegment :=
  if session.durationMin ≤ endMin - startMin then ⟨.open prevLabel nextLabel, startMin, endMin⟩
  else
    ⟨.blocked ("Only " ++ toString (endMin - startMin) ++ " min free here — this session needs " ++
      toString session.durationMin), startMin, endMin⟩

/-- The label before a part of a gap, which only the first part has. -/
def FreeGap.labelAt (gap : FreeGap) (position : ℤ) : Option String :=
  if position = gap.startMin then gap.prevLabel else none

/-- The loop over the cuts of a gap, from a position on. -/
def splitGap (session : SessionItem) (gap : FreeGap) : ℤ → List BusyTime → List ColumnSegment
  | position, [] =>
    if position < gap.endMin then
      [fitSegment session position gap.endMin (gap.labelAt position) gap.nextLabel] else []
  | position, cut :: cuts =>
    (if position < cut.startMin then
      [fitSegment session position cut.startMin (gap.labelAt position) none] else []) ++
    ⟨.blocked cut.reason, max position cut.startMin, min gap.endMin cut.endMin⟩ ::
      splitGap session gap (max position (min gap.endMin cut.endMin)) cuts

def FreeGap.cuts (gap : FreeGap) (busy : List BusyTime) : List BusyTime :=
  busy.filter fun b => decide (overlaps gap.startMin gap.endMin b.startMin b.endMin)

def columnSegments (schedule : ScheduleState) (session : SessionItem) (dayKey roomId : String) :
    List ColumnSegment :=
  let busy := speakerBusy schedule session dayKey
  (freeGaps (dayLengthMin schedule) 0 none (occupantsOf schedule session dayKey roomId)).flatMap
    fun gap => splitGap session gap gap.startMin (gap.cuts busy)

/-- `AIM_STEP_MIN`. -/
def aimStepMin : ℤ := 15

/-- `ANCHOR_CAPTURE_MIN`. -/
def anchorCaptureMin : ℚ := 5

inductive Flush where
  | start
  | end
  | both

structure SnapResult where
  startMin : ℤ
  note : Option String
  flush : Option Flush

def ColumnSegment.prevLabel (segment : ColumnSegment) : Option String :=
  match segment.kind with
  | .open prevLabel _ => prevLabel
  | .blocked _ => none

def ColumnSegment.nextLabel (segment : ColumnSegment) : Option String :=
  match segment.kind with
  | .open _ nextLabel => nextLabel
  | .blocked _ => none

def ColumnSegment.isOpen (segment : ColumnSegment) : Bool :=
  match segment.kind with
  | .open _ _ => true
  | .blocked _ => false

/-- A note about a neighbour, unless its label is empty. -/
def neighbourNote (phrase : String) (label : Option String) : Option String :=
  (label.filter fun label => decide (label ≠ "")).map fun label => phrase ++ " “" ++ label ++ "”"

/-- The slot lines from `Math.ceil(low / slotMinutes) * slotMinutes` up to `high`. -/
def slotLines (slotMinutes low high : ℤ) : List ℤ :=
  let first := -(-low / slotMinutes) * slotMinutes
  (List.range ((high - first) / slotMinutes + 1).toNat).map fun i : ℕ => first + i * slotMinutes

/-- One anchor more : the nearest one that captures is kept, the earlier of two. -/
def nearerAnchor (clamped : ℚ) (best : Option SnapResult) (anchor : SnapResult) :
    Option SnapResult :=
  let distance := |(anchor.startMin : ℚ) - clamped|
  if anchorCaptureMin < distance then best
  else
    match best with
    | none => some anchor
    | some kept => if distance < |(kept.startMin : ℚ) - clamped| then some anchor else some kept

/-- `Math.round`. -/
def roundHalfUp (q : ℚ) : ℤ := ⌊q + 1 / 2⌋

def snapStart (segment : ColumnSegment) (session : SessionItem) (slotMinutes : ℤ) (rawMin : ℚ) :
    SnapResult :=
  let low := segment.startMin
  let high := segment.endMin - session.durationMin
  let clamped := min (high : ℚ) (max (low : ℚ) rawMin)
  let anchors : List SnapResult :=
    [⟨low, neighbourNote "Right after" segment.prevLabel,
        some (if low = high then .both else .start)⟩,
      ⟨high, neighbourNote "Right before" segment.nextLabel,
        some (if low = high then .both else .end)⟩] ++
      (slotLines slotMinutes low high).map fun slot => ⟨slot, none, none⟩
  match anchors.foldl (nearerAnchor clamped) none with
  | some best => best
  | none => ⟨min high (max low (roundHalfUp (clamped / aimStepMin) * aimStepMin)), none, none⟩

def defaultStart (segment : ColumnSegment) (durationMin : Option ℤ) : SnapResult where
  startMin := segment.startMin
  note := neighbourNote "Right after" segment.prevLabel
  flush := some (if durationMin = some (segment.endMin - segment.startMin) then .both else .start)

inductive ConflictSeverity where
  | block
  | warn

/-- `PlacementConflict` of the board. -/
structure PreflightConflict where
  severity : ConflictSeverity
  reason : String

/-- What `preflight` finds about a session that is placed. -/
def placementConflict (schedule : ScheduleState) (session : SessionItem) (roomId : String)
    (startMin : ℤ) (placed : BoardPlacement × SessionItem) : Option PreflightConflict :=
  let (placement, other) := placed
  if ¬ overlaps startMin (startMin + session.durationMin) placement.startMin
      (placement.startMin + other.durationMin) then none
  else if placement.roomId = roomId then
    some ⟨.block, "Overlaps “" ++ other.title ++ "” in " ++ roomName schedule roomId⟩
  else
    (sharedSpeaker session other).map fun shared =>
      ⟨.block, shared.name ++ " is scheduled in another room at the same time"⟩

/-- What `preflight` finds about a break of the column. -/
def breakConflict (schedule : ScheduleState) (session : SessionItem) (roomId : String)
    (startMin : ℤ) (brk : BreakBlock) : Option PreflightConflict :=
  if overlaps startMin (startMin + session.durationMin) brk.startMin
      (brk.startMin + brk.durationMin) then
    some ⟨.warn, "Runs into “" ++ brk.label ++ "” in " ++ roomName schedule roomId⟩
  else none

def preflight (schedule : ScheduleState) (session : SessionItem) (dayKey roomId : String)
    (startMin : ℤ) : List PreflightConflict :=
  (placedOthers schedule session dayKey).filterMap
      (placementConflict schedule session roomId startMin) ++
    (columnBreaks schedule dayKey roomId).filterMap
      (breakConflict schedule session roomId startMin) ++
    if startMin < 0 ∨ dayLengthMin schedule < startMin + session.durationMin then
      [⟨.block, "Falls outside the day"⟩] else []

structure QuickPick where
  dayKey : String
  roomId : String
  startMin : ℤ
  note : String

def ColumnSegment.quickPick (segment : ColumnSegment) (dayKey roomId : String) : QuickPick where
  dayKey := dayKey
  roomId := roomId
  startMin := segment.startMin
  note := (neighbourNote "Right after" segment.prevLabel).getD
    (if segment.startMin = 0 then "Opens the day" else "Free from here")

/-- A pick with what it is ranked by. -/
structure PickCandidate where
  pick : QuickPick
  packed : Bool
  dayIndex : ℕ
  roomIndex : ℕ

def columnCandidates (schedule : ScheduleState) (session : SessionItem)
    (day : String × ℕ) (room : BoardRoom × ℕ) : List PickCandidate :=
  if (room.1.status.getD .active) ≠ .active then []
  else
    ((columnSegments schedule session day.1 room.1.id).filter fun segment => segment.isOpen).map
      fun segment =>
        ⟨segment.quickPick day.1 room.1.id, segment.prevLabel.isSome, day.2, room.2⟩

def PickCandidate.rank (candidate : PickCandidate) : List ℤ :=
  [if candidate.packed then 0 else 1, (candidate.dayIndex : ℤ), candidate.pick.startMin,
    (candidate.roomIndex : ℤ)]

def quickPicks (schedule : ScheduleState) (session : SessionItem) (limit : ℕ) : List QuickPick :=
  (((schedule.days.zipIdx.flatMap fun day => schedule.rooms.zipIdx.flatMap fun room =>
      columnCandidates schedule session day room).insertionSort
        fun a b => a.rank ≤ b.rank).take limit).map fun candidate => candidate.pick

end JooEvents
