import Mathlib.Data.Prod.Lex
import JooEvents.Lib.Fallible
import JooEvents.Program.Model

/-!
# Schedule placements

Occurrences of sessions in the rooms of an event, and the schedule that holds them.
Identities and instants are canonical strings; that an occurrence ends after it
starts is checked by its schema, `parseSchedulePlacementOccurrence`.

The schedule keeps its occurrences ordered by `compareScheduleOccurrences` : by
start, then by end, then by identity.
-/

namespace JooEvents

variable {D : Type}

open Fallible

abbrev SchedulePlacementScope := ProgramVocabularyScope

/-- A session placed in a room for a time. -/
@[ext] structure SchedulePlacementOccurrence where
  id : ApplicationId
  sessionId : ApplicationId
  roomId : ApplicationId
  startAt : Instant
  endAt : Instant
  version : Version

/-- A break is current while it is active. -/
inductive ScheduleBreakStatus where
  | active | removed
  deriving DecidableEq

/-- A break of a schedule. The placement planner carries breaks along. -/
@[ext] structure ScheduleBreakHead where
  id : ApplicationId
  label : String
  dayKey : String
  roomId : ApplicationId
  startMin : ℕ
  endMin : ℕ
  status : ScheduleBreakStatus
  version : Version

/-- The schedule of an event. -/
@[ext] structure SchedulePlacementState where
  scope : SchedulePlacementScope
  scheduleVersion : Version
  occurrences : List SchedulePlacementOccurrence
  breaks : List ScheduleBreakHead

/-- The lifecycles a session port answers with; the planner places a session that is
collecting or programmed. -/
inductive PlaceableLifecycle where
  | collecting | programmed | other
  deriving DecidableEq

/-- What the schedule knows of a session. -/
structure PlaceableSessionIdentity where
  scope : SchedulePlacementScope
  id : ApplicationId
  lifecycle : PlaceableLifecycle
  trackId : Option ApplicationId

/-- The reading side of the session package, with its older method as a fallback. -/
structure PlaceableSessionIdentityPort where
  readPlaceableSession :
    Option (SchedulePlacementScope → ApplicationId → Option PlaceableSessionIdentity)
  readProgrammedSession :
    Option (SchedulePlacementScope → ApplicationId → Option PlaceableSessionIdentity)

/-- The session a port resolves, if its lifecycle admits a placement. -/
def resolvePlaceableSession (port : PlaceableSessionIdentityPort)
    (scope : SchedulePlacementScope) (sessionId : ApplicationId) :
    Option PlaceableSessionIdentity :=
  let resolved := (port.readPlaceableSession.bind fun read => read scope sessionId).orElse
    fun _ => port.readProgrammedSession.bind fun read => read scope sessionId
  resolved.filter fun session =>
    session.lifecycle = .collecting ∨ session.lifecycle = .programmed

instance : ToJson D SchedulePlacementOccurrence :=
  ⟨fun occurrence => .obj
    [("id", toJson occurrence.id), ("sessionId", toJson occurrence.sessionId),
      ("roomId", toJson occurrence.roomId), ("startAt", toJson occurrence.startAt),
      ("endAt", toJson occurrence.endAt), ("version", toJson occurrence.version)]⟩

instance : NonNullJson D SchedulePlacementOccurrence :=
  ⟨fun host _ => canonicalize_obj_ne_null host.nfc _⟩

instance : ExactJson D SchedulePlacementOccurrence :=
  ⟨fun {host a b} h => by
    have h := Iff.mp Host.canonicalize_record_iff h
    simp only [List.map_cons, List.map_nil, List.cons.injEq, canonicalize_toJson_eq_iff,
      Host.same_iff_eq, and_true] at h
    obtain ⟨hid, hsession, hroom, hstart, hend, hversion⟩ := h
    exact SchedulePlacementOccurrence.ext hid hsession hroom hstart hend hversion⟩

def compareScheduleOccurrences (left right : SchedulePlacementOccurrence) : Ordering :=
  if left.startAt ≠ right.startAt then
    if left.startAt < right.startAt then .lt else .gt
  else if left.endAt ≠ right.endAt then
    if left.endAt < right.endAt then .lt else .gt
  else if left.id < right.id then .lt
  else if right.id < left.id then .gt
  else .eq

/-- `left` may stand before `right`. -/
def occurrenceLe (left right : SchedulePlacementOccurrence) : Prop :=
  compareScheduleOccurrences left right ≠ .gt

instance (left right : SchedulePlacementOccurrence) : Decidable (occurrenceLe left right) :=
  inferInstanceAs (Decidable (_ ≠ _))

/-- `occurrences.sort(compareScheduleOccurrences)`. -/
def sortOccurrences (occurrences : List SchedulePlacementOccurrence) :
    List SchedulePlacementOccurrence :=
  occurrences.insertionSort occurrenceLe

/-- The position of an occurrence in the canonical order. -/
def occurrenceKey (occurrence : SchedulePlacementOccurrence) :
    Instant ×ₗ Instant ×ₗ ApplicationId :=
  toLex (occurrence.startAt, toLex (occurrence.endAt, occurrence.id))

theorem occurrenceLe_iff_key_le {left right : SchedulePlacementOccurrence} :
    occurrenceLe left right ↔ occurrenceKey left ≤ occurrenceKey right := by
  simp only [occurrenceLe, compareScheduleOccurrences, occurrenceKey, Prod.Lex.toLex_le_toLex]
  rcases lt_trichotomy left.startAt right.startAt with hs | hs | hs
  · simp [hs, hs.ne]
  · rcases lt_trichotomy left.endAt right.endAt with he | he | he
    · simp [hs, he, he.ne]
    · rcases lt_trichotomy left.id right.id with hi | hi | hi
      · simp [hs, he, hi, le_of_lt hi]
      · simp [hs, he, hi]
      · simp [hs, he, hi, hi.not_gt]
    · simp [hs, he.ne', he.not_gt]
  · simp [hs.ne', hs.not_gt]

instance : Std.Total occurrenceLe :=
  ⟨fun a b => by simpa only [occurrenceLe_iff_key_le] using le_total _ _⟩

instance : IsTrans SchedulePlacementOccurrence occurrenceLe :=
  ⟨fun a b c => by simpa only [occurrenceLe_iff_key_le] using le_trans⟩

theorem pairwise_sortOccurrences (occurrences : List SchedulePlacementOccurrence) :
    (sortOccurrences occurrences).Pairwise occurrenceLe :=
  List.pairwise_insertionSort _ _

theorem perm_sortOccurrences (occurrences : List SchedulePlacementOccurrence) :
    (sortOccurrences occurrences).Perm occurrences :=
  List.perm_insertionSort _ _

@[simp] theorem mem_sortOccurrences {occurrences : List SchedulePlacementOccurrence}
    {o : SchedulePlacementOccurrence} : o ∈ sortOccurrences occurrences ↔ o ∈ occurrences :=
  List.mem_insertionSort _

theorem compare_eq_lt_of_le_of_ne {left right : SchedulePlacementOccurrence}
    (h : occurrenceLe left right) (hne : left.id ≠ right.id) :
    compareScheduleOccurrences left right = .lt := by
  unfold occurrenceLe at h
  unfold compareScheduleOccurrences at h ⊢
  rcases lt_trichotomy left.id right.id with hi | hi | hi
  · split_ifs at h ⊢ <;> simp_all
  · exact absurd hi hne
  · split_ifs at h ⊢ <;> simp_all

end JooEvents
