import JooEvents.Schedule.Exclusivity

/-!
# Reading a schedule back

`projectSchedulePlacementState` hands a schedule out through the schema of its
snapshot, `parseSchedulePlacementState` reads a snapshot back, and the detail of a
`room_overlap` refusal goes out through a schema of its own. The schemas bound what
they let through : 2000 occurrences in a snapshot, 100 conflicts in a refusal. The
planner bounds neither.

A schedule that a run from an empty one reaches satisfies everything else the
schemas ask (`snapshotAccepted_of_exclusive`), so it can be read back exactly while
it has at most 2000 occurrences, and a refusal can be reported exactly while the
request collides with at most 100 (`reachable_schedule_readable_iff`). Both bounds
are reached and passed by runs of placements (`overfull_schedule_not_readable`).

`planned_placement_applies` is the agreement of planner and validator : what the one
returns, the other lets through.
-/

namespace JooEvents

open Fallible

variable {D : Type}

/-- A real calendar day, `yyyy-mm-dd`. -/
def isIsoDate (s : String) : Bool :=
  matchesShape (List.replicate 4 isDigitChar ++ [isOneOf ['-']] ++ List.replicate 2 isDigitChar ++
    [isOneOf ['-']] ++ List.replicate 2 isDigitChar) s.toList &&
    decide (1 ≤ digitsAt 5 2 s.toList ∧ digitsAt 5 2 s.toList ≤ 12 ∧
      1 ≤ digitsAt 8 2 s.toList ∧
      digitsAt 8 2 s.toList ≤ daysInMonth (digitsAt 0 4 s.toList) (digitsAt 5 2 s.toList))

/-- `scheduleBreakActiveHeadSchema`. -/
def scheduleBreakActiveHeadAccepted (head : ScheduleBreakHead) : Bool :=
  decide (1 ≤ textLength head.label ∧ textLength head.label ≤ 80 ∧
    head.label = trimText head.label ∧ head.startMin ≤ 1440 ∧ head.endMin ≤ 1440 ∧
    head.startMin < head.endMin ∧ head.status = .active) && isIsoDate head.dayKey

/-- The snapshot of a schedule. Its `schemaVersion` is always 1. -/
@[ext] structure SchedulePlacementSnapshot where
  scope : SchedulePlacementScope
  scheduleVersion : Version
  occurrences : List SchedulePlacementOccurrence
  breaks : List ScheduleBreakHead

/-- Neighbours of a list stand in strict canonical order. -/
def canonicalOrder : List SchedulePlacementOccurrence → Bool
  | previous :: occurrence :: rest =>
    decide (compareScheduleOccurrences previous occurrence = .lt) &&
      canonicalOrder (occurrence :: rest)
  | _ => true

/-- `schedulePlacementSnapshotSchema`. -/
def schedulePlacementSnapshotAccepted (snapshot : SchedulePlacementSnapshot) : Bool :=
  decide (snapshot.occurrences.length ≤ 2000) && decide (snapshot.breaks.length ≤ 2000) &&
    snapshot.occurrences.all (fun o => o.startAt < o.endAt) &&
    snapshot.breaks.all scheduleBreakActiveHeadAccepted &&
    decide (snapshot.occurrences.map SchedulePlacementOccurrence.id).Nodup &&
    canonicalOrder snapshot.occurrences

/-- `schedulePlacementConflictDetailSchema`. -/
def schedulePlacementConflictDetailAccepted (detail : SchedulePlacementConflictDetail) : Bool :=
  decide (1 ≤ detail.conflicts.length ∧ detail.conflicts.length ≤ 100)

def projectSchedulePlacementState (state : SchedulePlacementState) :
    Except SchedulePlacementError SchedulePlacementSnapshot := do
  let occurrences ← state.occurrences.mapM projectSchedulePlacementOccurrence
  let snapshot : SchedulePlacementSnapshot :=
    { scope := state.scope, scheduleVersion := state.scheduleVersion, occurrences
      breaks := state.breaks }
  require (schedulePlacementSnapshotAccepted snapshot = true) .thrown
  return snapshot

def parseSchedulePlacementState (snapshot : SchedulePlacementSnapshot) :
    Except SchedulePlacementError SchedulePlacementState := do
  require (schedulePlacementSnapshotAccepted snapshot = true) .thrown
  let occurrences ← snapshot.occurrences.mapM parseSchedulePlacementOccurrence
  return {
    scope := snapshot.scope
    scheduleVersion := snapshot.scheduleVersion
    occurrences
    breaks := snapshot.breaks }

/-- The schedule goes out and comes back as it was. -/
def Readable (state : SchedulePlacementState) : Prop :=
  ∃ snapshot, projectSchedulePlacementState state = .ok snapshot ∧
    parseSchedulePlacementState snapshot = .ok state

theorem mapM_parseOccurrences_ok {os : List SchedulePlacementOccurrence}
    (h : ∀ o ∈ os, o.startAt < o.endAt) :
    os.mapM parseSchedulePlacementOccurrence = .ok os := by
  induction os with
  | nil => rfl
  | cons o os ih =>
    have ho : parseSchedulePlacementOccurrence o = .ok o :=
      parseSchedulePlacementOccurrence_ok.mpr ⟨h o (by simp), rfl⟩
    rw [List.mapM_cons, ho, ok_bind, ih fun o' ho' => h o' (by simp [ho'])]
    rfl

theorem canonicalOrder_of_pairwise :
    ∀ {os : List SchedulePlacementOccurrence},
      os.Pairwise (fun a b => compareScheduleOccurrences a b = .lt) → canonicalOrder os = true
  | [], _ => rfl
  | [_], _ => rfl
  | a :: b :: os, h => by
    rw [canonicalOrder, Bool.and_eq_true, decide_eq_true_eq]
    exact ⟨List.rel_of_pairwise_cons h (by simp), canonicalOrder_of_pairwise h.of_cons⟩

theorem snapshotAccepted_of_exclusive {state : SchedulePlacementState} (hs : Exclusive state)
    (hbreaks : state.breaks = []) :
    schedulePlacementSnapshotAccepted
      { scope := state.scope, scheduleVersion := state.scheduleVersion
        occurrences := state.occurrences, breaks := state.breaks } =
      decide (state.occurrences.length ≤ 2000) := by
  have horder : canonicalOrder state.occurrences = true :=
    canonicalOrder_of_pairwise <| (hs.sorted.and (List.pairwise_map.mp hs.ids_distinct)).imp
      fun h => compare_eq_lt_of_le_of_ne h.1 h.2
  have htimes : state.occurrences.all (fun o => o.startAt < o.endAt) = true :=
    List.all_eq_true.mpr fun o ho => decide_eq_true (hs.start_lt_end o ho)
  simp [schedulePlacementSnapshotAccepted, hbreaks, horder, htimes, hs.ids_distinct]

theorem readable_iff_of_exclusive {state : SchedulePlacementState} (hs : Exclusive state)
    (hbreaks : state.breaks = []) : Readable state ↔ state.occurrences.length ≤ 2000 := by
  have haccepted := snapshotAccepted_of_exclusive hs hbreaks
  have hproject : state.occurrences.mapM projectSchedulePlacementOccurrence =
      .ok state.occurrences := mapM_parseOccurrences_ok hs.start_lt_end
  constructor
  · rintro ⟨snapshot, hsnapshot, -⟩
    simp only [projectSchedulePlacementState, hproject, ok_bind, bind_eq_ok, require_eq_ok,
      exists_const, haccepted, decide_eq_true_eq] at hsnapshot
    exact hsnapshot.1
  · intro hlength
    rw [decide_eq_true hlength] at haccepted
    refine ⟨{ scope := state.scope, scheduleVersion := state.scheduleVersion
              occurrences := state.occurrences, breaks := state.breaks }, ?_, ?_⟩
    · rw [projectSchedulePlacementState, hproject, ok_bind]
      exact bind_eq_ok.mpr ⟨(), require_true haccepted, rfl⟩
    · rw [parseSchedulePlacementState, require_true haccepted, ok_bind,
        mapM_parseOccurrences_ok hs.start_lt_end]
      rfl

/-! ## Refusals for an overlap -/

/-- The occurrences that stand in the way of an input : those of the room it asks for,
other than the one it is about, that meet the time it asks for. -/
def blockingOccurrences (state : SchedulePlacementState) :
    SchedulePlacementPlanningInput → List SchedulePlacementOccurrence
  | .place _ _ roomId startAt endAt occurrenceId _ => state.occurrences.filter fun o =>
    o.roomId = roomId ∧ o.id ≠ occurrenceId ∧ startAt < o.endAt ∧ o.startAt < endAt
  | .move _ _ roomId startAt endAt occurrenceId _ => state.occurrences.filter fun o =>
    o.roomId = roomId ∧ o.id ≠ occurrenceId ∧ startAt < o.endAt ∧ o.startAt < endAt
  | .unplace .. => []

theorem parseOccurrence_error {o : SchedulePlacementOccurrence} {e : SchedulePlacementError}
    (h : parseSchedulePlacementOccurrence o = .error e) : e = .thrown := by
  rcases bind_eq_error.mp h with h | ⟨_, -, h⟩
  · exact (require_eq_error.mp h).2.symm
  · exact absurd h pure_ne_error

theorem schedulePlacementPlan_error {host : Host D} {state : SchedulePlacementState}
    {input : SchedulePlacementPlanningInput} {before after : Option SchedulePlacementOccurrence}
    {roomId : ApplicationId} {e : SchedulePlacementError}
    (h : schedulePlacementPlan host state input before after roomId = .error e) :
    e = .thrown := by
  rcases bind_eq_error.mp h with h | ⟨version, -, h⟩
  · exact (orRefuse_eq_error.mp h).2.symm
  · rcases bind_eq_error.mp h with h | ⟨guard, -, h⟩
    · rcases bind_eq_error.mp h with h | ⟨occurrences, -, h⟩
      · obtain ⟨o, -, ho⟩ := mapM_eq_error h
        exact parseOccurrence_error ho
      · exact absurd h pure_ne_error
    · exact absurd h pure_ne_error

theorem planRoomPlacement_overlap {host : Host D} {state : SchedulePlacementState}
    {sessions : PlaceableSessionIdentityPort} {vocabulary : ProgramVocabularyState host}
    {input : SchedulePlacementPlanningInput} {existing : Option SchedulePlacementOccurrence}
    {sessionId roomId : ApplicationId} {startAt endAt : Instant}
    {detail : SchedulePlacementConflictDetail}
    (h : planRoomPlacement host state sessions vocabulary input existing sessionId roomId
      startAt endAt = .error (.planning .room_overlap (some detail))) :
    overlappingRoomOccurrences state roomId startAt endAt
        (existing.map SchedulePlacementOccurrence.id) ≠ [] ∧
      detail.conflicts.length = (overlappingRoomOccurrences state roomId startAt endAt
        (existing.map SchedulePlacementOccurrence.id)).length := by
  simp only [planRoomPlacement, bind_eq_error, orRefuse_eq_error, orRefuse_eq_ok,
    require_eq_error, require_eq_ok, SchedulePlacementError.planning.injEq, reduceCtorEq,
    and_false, false_or, exists_const, Option.some.injEq, true_and] at h
  obtain ⟨session, -, -, -, room, -, -, h⟩ := h
  rcases h with ⟨hne, rfl⟩ | ⟨-, version, -, h⟩
  · exact ⟨hne, by simp⟩
  · rcases h with h | ⟨after, -, h⟩
    · exact absurd (parseOccurrence_error h) (by simp)
    · rcases h with h | ⟨before, -, h⟩
      · obtain ⟨o, -, ho⟩ := optionMapM_eq_error h
        exact absurd (parseOccurrence_error ho) (by simp)
      · exact absurd (schedulePlacementPlan_error h) (by simp)

theorem length_overlapping {state : SchedulePlacementState} {roomId id : ApplicationId}
    {startAt endAt : Instant} {existing : Option SchedulePlacementOccurrence}
    (h : ∀ o ∈ state.occurrences, some o.id ≠ existing.map SchedulePlacementOccurrence.id ↔
      o.id ≠ id) :
    (overlappingRoomOccurrences state roomId startAt endAt
        (existing.map SchedulePlacementOccurrence.id)).length =
      (state.occurrences.filter fun o =>
        o.roomId = roomId ∧ o.id ≠ id ∧ startAt < o.endAt ∧ o.startAt < endAt).length := by
  rw [overlappingRoomOccurrences, (perm_sortOccurrences _).length_eq]
  congr 1
  refine List.filter_congr fun o ho => ?_
  rw [decide_eq_decide, h o ho]

theorem planSchedulePlacement_overlap {host : Host D} {input : SchedulePlacementPlanningInput}
    {state : SchedulePlacementState} {sessions : PlaceableSessionIdentityPort}
    {vocabulary : ProgramVocabularyState host} {detail : SchedulePlacementConflictDetail}
    (h : planSchedulePlacementMutation host input state sessions vocabulary =
      .error (.planning .room_overlap (some detail))) :
    1 ≤ detail.conflicts.length ∧
      detail.conflicts.length = (blockingOccurrences state input).length := by
  have hpos : ∀ {l : List SchedulePlacementOccurrence} {n : ℕ}, l ≠ [] → n = l.length → 1 ≤ n :=
    fun hne hn => hn ▸ List.length_pos_of_ne_nil hne
  cases input with
  | place scope expected roomId startAt endAt occurrenceId sessionId =>
    simp only [planSchedulePlacementMutation, bind_eq_error, require_eq_error, require_eq_ok,
      SchedulePlacementError.planning.injEq, reduceCtorEq, and_false, false_or,
      exists_const] at h
    obtain ⟨-, -, -, -, hnone, h⟩ := h
    obtain ⟨hne, hlength⟩ := planRoomPlacement_overlap h
    refine ⟨hpos hne hlength, hlength.trans (length_overlapping fun o ho => ?_)⟩
    have hid : o.id ≠ occurrenceId := fun h =>
      List.find?_eq_none.mp hnone o ho (decide_eq_true h)
    simp [hid]
  | move scope expected roomId startAt endAt occurrenceId expectedVersion =>
    simp only [planSchedulePlacementMutation, bind_eq_error, require_eq_error, require_eq_ok,
      orRefuse_eq_error, orRefuse_eq_ok, SchedulePlacementError.planning.injEq, reduceCtorEq,
      and_false, false_or, exists_const] at h
    obtain ⟨-, -, -, -, occurrence, hfind, -, h⟩ := h
    obtain ⟨hne, hlength⟩ := planRoomPlacement_overlap h
    refine ⟨hpos hne hlength, hlength.trans (length_overlapping fun o ho => ?_)⟩
    have hid : occurrence.id = occurrenceId := of_decide_eq_true (List.find?_some hfind :)
    simp [hid]
  | unplace scope expected occurrenceId expectedVersion =>
    simp only [planSchedulePlacementMutation, bind_eq_error, require_eq_error, require_eq_ok,
      orRefuse_eq_error, orRefuse_eq_ok, SchedulePlacementError.planning.injEq, reduceCtorEq,
      and_false, false_or, exists_const] at h
    obtain ⟨-, -, -, occurrence, -, -, h⟩ := h
    rcases h with h | ⟨before, -, h⟩
    · exact absurd (parseOccurrence_error h) (by simp)
    · exact absurd (schedulePlacementPlan_error h) (by simp)

theorem ScheduleStep.breaks [DecidableEq D] {host : Host D}
    {state state' : SchedulePlacementState} (h : ScheduleStep host state state') :
    state'.breaks = state.breaks := by
  obtain ⟨sessions, vocabulary, plan, result, happly⟩ := h
  obtain ⟨-, rfl⟩ := applySchedulePlacement_ok happly
  rfl

theorem ScheduleRun.breaks [DecidableEq D] {host : Host D}
    {state state' : SchedulePlacementState} (h : ScheduleRun host state state') :
    state'.breaks = state.breaks := by
  induction h with
  | refl => rfl
  | tail _ hstep ih => exact hstep.breaks.trans ih

/-- A schedule reached from an empty one can be read back exactly while it has at most
2000 occurrences, and a refusal for an overlap in it can be reported exactly while at
most 100 occurrences block the input. -/
theorem reachable_schedule_readable_iff [DecidableEq D] {host : Host D}
    {start state : SchedulePlacementState} (hempty : start.occurrences = [])
    (hbreaks : start.breaks = []) (hrun : ScheduleRun host start state) :
    (Readable state ↔ state.occurrences.length ≤ 2000) ∧
      ∀ (input : SchedulePlacementPlanningInput) (sessions : PlaceableSessionIdentityPort)
        (vocabulary : ProgramVocabularyState host) (detail : SchedulePlacementConflictDetail),
        planSchedulePlacementMutation host input state sessions vocabulary =
            .error (.planning .room_overlap (some detail)) →
          (schedulePlacementConflictDetailAccepted detail = true ↔
            (blockingOccurrences state input).length ≤ 100) := by
  refine ⟨readable_iff_of_exclusive (hrun.exclusive (exclusive_of_nil hempty))
    (hrun.breaks.trans hbreaks), fun input sessions vocabulary detail h => ?_⟩
  obtain ⟨hpos, hlength⟩ := planSchedulePlacement_overlap h
  rw [schedulePlacementConflictDetailAccepted, decide_eq_true_eq, ← hlength]
  exact ⟨fun h => h.2, fun h => ⟨hpos, h⟩⟩

theorem schedulePlacementPlan_guard {host : Host D} {state : SchedulePlacementState}
    {input : SchedulePlacementPlanningInput} {before after : Option SchedulePlacementOccurrence}
    {roomId : ApplicationId} {plan : SchedulePlacementPlan D}
    (h : schedulePlacementPlan host state input before after roomId = .ok plan) :
    schedulePlacementRoomQueryGuard host state roomId.val
      (plan.before.map SchedulePlacementOccurrence.id) = .ok plan.roomQueryGuard := by
  simp only [schedulePlacementPlan, bind_eq_ok, orRefuse_eq_ok, pure_eq_ok] at h
  obtain ⟨versionAfter, -, guard, hguard, rfl⟩ := h
  exact hguard

theorem planSchedulePlacement_guard {host : Host D} {input : SchedulePlacementPlanningInput}
    {state : SchedulePlacementState} {sessions : PlaceableSessionIdentityPort}
    {vocabulary : ProgramVocabularyState host} {plan : SchedulePlacementPlan D}
    (h : planSchedulePlacementMutation host input state sessions vocabulary = .ok plan) :
    schedulePlacementRoomQueryGuard host state (roomFor plan)
      (plan.before.map SchedulePlacementOccurrence.id) = .ok plan.roomQueryGuard := by
  have hroom : ∀ {existing sessionId roomId startAt endAt},
      planRoomPlacement host state sessions vocabulary input existing sessionId roomId startAt
        endAt = .ok plan →
      schedulePlacementRoomQueryGuard host state (roomFor plan)
        (plan.before.map SchedulePlacementOccurrence.id) = .ok plan.roomQueryGuard := by
    intro existing sessionId roomId startAt endAt h
    simp only [planRoomPlacement, bind_eq_ok, orRefuse_eq_ok, require_eq_ok, exists_const] at h
    obtain ⟨session, -, -, -, room, -, -, -, version, -, after, hafter, before, -, hplan⟩ := h
    obtain ⟨-, rfl⟩ := parseSchedulePlacementOccurrence_ok.mp hafter
    have hguard := schedulePlacementPlan_guard hplan
    rwa [roomFor, (schedulePlacementPlan_ok hplan).2.2.1]
  cases input with
  | place =>
    simp only [planSchedulePlacementMutation, bind_eq_ok, require_eq_ok, exists_const] at h
    exact hroom h.2.2.2.2.2
  | move =>
    simp only [planSchedulePlacementMutation, bind_eq_ok, require_eq_ok, orRefuse_eq_ok,
      exists_const] at h
    obtain ⟨-, -, -, -, occurrence, -, -, hplan⟩ := h
    exact hroom hplan
  | unplace =>
    simp only [planSchedulePlacementMutation, bind_eq_ok, require_eq_ok, orRefuse_eq_ok,
      exists_const] at h
    obtain ⟨-, -, -, occurrence, -, -, before, hbefore, hplan⟩ := h
    obtain ⟨-, rfl⟩ := parseSchedulePlacementOccurrence_ok.mp hbefore
    have hguard := schedulePlacementPlan_guard hplan
    obtain ⟨-, hb, ha, -⟩ := schedulePlacementPlan_ok hplan
    rw [hb] at hguard
    rw [roomFor, ha, hb]
    exact hguard

theorem planned_placement_applies [DecidableEq D] {host : Host D}
    {input : SchedulePlacementPlanningInput} {state : SchedulePlacementState}
    {sessions : PlaceableSessionIdentityPort} {vocabulary : ProgramVocabularyState host}
    {plan : SchedulePlacementPlan D}
    (h : planSchedulePlacementMutation host input state sessions vocabulary = .ok plan) :
    ∃ state' result, applySchedulePlacementPlan host state sessions vocabulary plan =
      .ok (state', result) := by
  have hplanned := planSchedulePlacement_ok h
  have hvalidate : validateSchedulePlacementPlan host state sessions vocabulary plan =
      .ok none := by
    rw [validateSchedulePlacementPlan, hplanned.input_eq, h]
    refine bind_eq_ok.mpr ⟨_, planSchedulePlacement_guard h, ?_⟩
    simp [Host.Same.refl]
  have hafter : plan.after.mapM parseSchedulePlacementOccurrence = .ok plan.after :=
    mapM_parseOccurrence_ok.mpr ⟨hplanned.after_start_lt_end, rfl⟩
  exact ⟨_, _, bind_eq_ok.mpr ⟨none, hvalidate, bind_eq_ok.mpr ⟨plan.after, hafter, rfl⟩⟩⟩

/-! ## Runs past the bounds -/

theorem planPlace_of_resolved {host : Host D} {state : SchedulePlacementState}
    {sessions : PlaceableSessionIdentityPort} {vocabulary : ProgramVocabularyState host}
    {roomId occurrenceId sessionId : ApplicationId} {startAt endAt : Instant}
    {session : PlaceableSessionIdentity} {room : PlannedProgramVocabularyItem} {version : Version}
    (hs : Exclusive state) (hlt : startAt < endAt) (hvocabulary : vocabulary.scope = state.scope)
    (hnew : ∀ o ∈ state.occurrences, o.id ≠ occurrenceId)
    (hsession : resolvePlaceableSession sessions state.scope sessionId = some session)
    (hscope : session.scope = state.scope ∧ session.id = sessionId)
    (htracks : vocabulary.itemsOfKind .track = [])
    (hroom : resolveProgramVocabularyItem vocabulary .room roomId = some room)
    (hactive : room.status = .active)
    (hversion : nextAggregateVersion state.scheduleVersion = some version) :
    (overlappingRoomOccurrences state roomId startAt endAt none = [] →
      ∃ plan, planSchedulePlacementMutation host (.place state.scope state.scheduleVersion roomId
          startAt endAt occurrenceId sessionId) state sessions vocabulary = .ok plan ∧
        plan.after = some ⟨occurrenceId, sessionId, roomId, startAt, endAt, .one⟩ ∧
        plan.scheduleVersion.after = version) ∧
    (overlappingRoomOccurrences state roomId startAt endAt none ≠ [] →
      ∃ detail, planSchedulePlacementMutation host (.place state.scope state.scheduleVersion
          roomId startAt endAt occurrenceId sessionId) state sessions vocabulary =
        .error (.planning .room_overlap (some detail))) := by
  have hfind : (state.occurrences.find? fun o => o.id = SchedulePlacementPlanningInput.occurrenceId
      (.place state.scope state.scheduleVersion roomId startAt endAt occurrenceId sessionId)) =
        none :=
    List.find?_eq_none.mpr fun o ho h => hnew o ho (of_decide_eq_true h)
  obtain ⟨guard, hguard⟩ : ∃ guard, schedulePlacementRoomQueryGuard host state roomId.val none =
      .ok guard := by
    have hproject : ∀ l : List SchedulePlacementOccurrence, (∀ o ∈ l, o ∈ state.occurrences) →
        l.mapM projectSchedulePlacementOccurrence = .ok l :=
      fun l hl => mapM_parseOccurrences_ok fun o ho => hs.start_lt_end o (hl o ho)
    exact ⟨_, bind_eq_ok.mpr ⟨_, hproject _ fun o ho => List.mem_of_mem_filter ho, rfl⟩⟩
  constructor
  · intro hfree
    refine ⟨{ input := .place state.scope state.scheduleVersion roomId startAt endAt
                occurrenceId sessionId
              before := none
              after := some ⟨occurrenceId, sessionId, roomId, startAt, endAt, .one⟩
              scheduleVersion := { before := state.scheduleVersion, after := version }
              roomQueryGuard := guard }, ?_, rfl, rfl⟩
    simp [planSchedulePlacementMutation, planRoomPlacement, schedulePlacementPlan,
      SchedulePlacementPlanningInput.scope, hfind,
      SchedulePlacementPlanningInput.expectedScheduleVersion, require_true, hlt, hvocabulary,
      hsession, hscope, htracks, hroom, hactive, hfree, hversion, hguard, orRefuse,
      parseSchedulePlacementOccurrence, Option.mapM_none, pure, Except.pure, bind, Except.bind,
      -List.find?_eq_none]
    rfl
  · intro hblocked
    refine ⟨{ roomId, requestedStartAt := startAt, requestedEndAt := endAt
              conflicts := (overlappingRoomOccurrences state roomId startAt endAt none).map
                fun o => ⟨o.id, o.startAt, o.endAt⟩ }, ?_⟩
    simp [planSchedulePlacementMutation, planRoomPlacement,
      SchedulePlacementPlanningInput.scope, hfind,
      SchedulePlacementPlanningInput.expectedScheduleVersion, require_true, hlt, hvocabulary,
      hsession, hscope, htracks, hroom, hactive, require_false hblocked, orRefuse,
      bind, Except.bind, -List.find?_eq_none]

theorem resolve_exampleSessions (scope : SchedulePlacementScope) (id : ApplicationId) :
    resolvePlaceableSession exampleSessions scope id =
      some { scope, id, lifecycle := .programmed, trackId := none } :=
  rfl

theorem resolve_exampleRoom :
    resolveProgramVocabularyItem exampleVocabulary .room exampleRoom.id = some exampleRoom := by
  simp [resolveProgramVocabularyItem, exampleVocabulary]

/-- The `n`-th of a row of occurrences, each a year long, in one room. -/
def yearOccurrence (n : ℕ) : SchedulePlacementOccurrence :=
  { id := .ofNat n, sessionId := .ofNat 5, roomId := exampleRoom.id
    startAt := .yearStart n, endAt := .yearStart (n + 1), version := .one }

/-- The schedule that holds the first `n` of them. -/
def crowdedSchedule (n : ℕ) : SchedulePlacementState :=
  { scope := exampleScope
    scheduleVersion := ⟨min (n + 1) maxSafeInteger, by
      refine ⟨?_, min_le_right _ _⟩
      rw [maxSafeInteger]
      omega⟩
    occurrences := (List.range n).map yearOccurrence
    breaks := [] }

theorem mem_crowdedSchedule {n : ℕ} {o : SchedulePlacementOccurrence} :
    o ∈ (crowdedSchedule n).occurrences ↔ ∃ k < n, yearOccurrence k = o := by
  simp [crowdedSchedule]

theorem nextVersion_crowdedSchedule {n : ℕ} (hn : n < 9999) :
    nextAggregateVersion (crowdedSchedule n).scheduleVersion =
      some (crowdedSchedule (n + 1)).scheduleVersion := by
  refine PositiveSafe.parse_eq_some.mpr ?_
  simp only [crowdedSchedule, maxSafeInteger]
  omega

theorem pairwise_crowdedSchedule {n : ℕ} (hn : n ≤ 9999) :
    (crowdedSchedule n).occurrences.Pairwise occurrenceLe := by
  refine List.pairwise_map.mpr (List.pairwise_lt_range.imp_of_mem fun {a b} _ hb hab => ?_)
  have hlt : (yearOccurrence a).startAt < (yearOccurrence b).startAt :=
    Instant.yearStart_lt hab (by have := List.mem_range.mp hb; omega)
  simp [occurrenceLe, compareScheduleOccurrences, hlt, hlt.ne]

theorem crowdedSchedule_step {n : ℕ} (hn : n < 9999) (hs : Exclusive (crowdedSchedule n)) :
    ScheduleStep SymbolicDigest.host (crowdedSchedule n) (crowdedSchedule (n + 1)) := by
  have hnew : ∀ o ∈ (crowdedSchedule n).occurrences, o.id ≠ (yearOccurrence n).id := by
    intro o ho
    obtain ⟨k, hk, rfl⟩ := mem_crowdedSchedule.mp ho
    exact fun h => hk.ne (ApplicationId.ofNat_injective (by omega) (by omega) h)
  have hfree : overlappingRoomOccurrences (crowdedSchedule n) exampleRoom.id
      (yearOccurrence n).startAt (yearOccurrence n).endAt none = [] := by
    refine List.eq_nil_iff_forall_not_mem.mpr fun o ho => ?_
    obtain ⟨hmem, hover⟩ := List.mem_filter.mp (mem_sortOccurrences.mp ho)
    obtain ⟨-, -, hstart, -⟩ := of_decide_eq_true hover
    obtain ⟨k, hk, rfl⟩ := mem_crowdedSchedule.mp hmem
    rcases Nat.lt_or_ge (k + 1) n with hlt | hge
    · exact absurd hstart (Instant.yearStart_lt hlt (by omega)).not_gt
    · obtain rfl : n = k + 1 := by omega
      exact absurd hstart (lt_irrefl _)
  obtain ⟨plan, hplan, hafter, hversion⟩ := (planPlace_of_resolved hs
    (Instant.yearStart_lt (Nat.lt_succ_self n) (by omega)) rfl hnew
    (resolve_exampleSessions exampleScope (.ofNat 5)) ⟨rfl, rfl⟩ rfl resolve_exampleRoom rfl
    (nextVersion_crowdedSchedule hn)).1 hfree
  obtain ⟨state', result, happly⟩ := planned_placement_applies hplan
  have hstate := (applySchedulePlacement_ok happly).2
  have hkept : (crowdedSchedule n).occurrences.filter
      (fun o => o.id ≠ plan.input.occurrenceId) = (crowdedSchedule n).occurrences := by
    rw [(planSchedulePlacement_ok hplan).input_eq]
    exact List.filter_eq_self.mpr fun o ho => decide_eq_true (hnew o ho)
  have hpushed : (crowdedSchedule n).occurrences ++ [yearOccurrence n] =
      (crowdedSchedule (n + 1)).occurrences := by
    simp [crowdedSchedule, List.range_succ]
  have hsorted : sortOccurrences (crowdedSchedule (n + 1)).occurrences =
      (crowdedSchedule (n + 1)).occurrences :=
    (pairwise_crowdedSchedule hn).insertionSort_eq
  have hnext : state' = crowdedSchedule (n + 1) := by
    rw [hstate, hkept, hafter, Option.toList_some]
    change SchedulePlacementState.mk _ _
      (sortOccurrences ((crowdedSchedule n).occurrences ++ [yearOccurrence n])) _ = _
    rw [hpushed, hsorted, hversion]
    rfl
  exact ⟨exampleSessions, exampleVocabulary, plan, result, hnext ▸ happly⟩

theorem crowdedSchedule_run {n : ℕ} (hn : n ≤ 9999) :
    ScheduleRun SymbolicDigest.host (crowdedSchedule 0) (crowdedSchedule n) := by
  induction n with
  | zero => exact .refl
  | succ n ih =>
    have hrun := ih (by omega)
    exact hrun.tail (crowdedSchedule_step hn (hrun.exclusive (exclusive_of_nil rfl)))

/-- A run of 2001 placements leads to a schedule that cannot be read back, and after
101 placements a request for the whole time is refused with a detail that cannot be
reported. -/
theorem overfull_schedule_not_readable :
    (ScheduleRun SymbolicDigest.host (crowdedSchedule 0) (crowdedSchedule 2001) ∧
      ¬ Readable (crowdedSchedule 2001)) ∧
    ScheduleRun SymbolicDigest.host (crowdedSchedule 0) (crowdedSchedule 101) ∧
      ∃ detail, planSchedulePlacementMutation SymbolicDigest.host
          (.place exampleScope (crowdedSchedule 101).scheduleVersion exampleRoom.id
            (.yearStart 0) (.yearStart 101) (.ofNat 101) (.ofNat 5))
          (crowdedSchedule 101) exampleSessions exampleVocabulary =
            .error (.planning .room_overlap (some detail)) ∧
        schedulePlacementConflictDetailAccepted detail = false := by
  refine ⟨⟨crowdedSchedule_run (by omega), fun h => ?_⟩, crowdedSchedule_run (by omega), ?_⟩
  · have hexclusive := (crowdedSchedule_run (show 2001 ≤ 9999 by omega)).exclusive
      (exclusive_of_nil rfl)
    have hlength := (readable_iff_of_exclusive hexclusive rfl).mp h
    simp [crowdedSchedule] at hlength
  · have hexclusive := (crowdedSchedule_run (show 101 ≤ 9999 by omega)).exclusive
      (exclusive_of_nil rfl)
    have hnew : ∀ o ∈ (crowdedSchedule 101).occurrences, o.id ≠ .ofNat 101 := by
      intro o ho
      obtain ⟨k, hk, rfl⟩ := mem_crowdedSchedule.mp ho
      exact fun h => hk.ne (ApplicationId.ofNat_injective (by omega) (by omega) h)
    have hmeets : ∀ k < 101, Instant.yearStart 0 < (yearOccurrence k).endAt ∧
        (yearOccurrence k).startAt < .yearStart 101 := fun k hk =>
      ⟨Instant.yearStart_lt (by omega) (by omega), Instant.yearStart_lt hk (by omega)⟩
    have hblocked : overlappingRoomOccurrences (crowdedSchedule 101) exampleRoom.id
        (.yearStart 0) (.yearStart 101) none ≠ [] := by
      refine List.ne_nil_of_mem (mem_sortOccurrences.mpr (List.mem_filter.mpr
        ⟨mem_crowdedSchedule.mpr ⟨0, by omega, rfl⟩, decide_eq_true ⟨rfl, by simp, ?_⟩⟩))
      exact hmeets 0 (by omega)
    have hblocking : (blockingOccurrences (crowdedSchedule 101)
        (.place exampleScope (crowdedSchedule 101).scheduleVersion exampleRoom.id
          (.yearStart 0) (.yearStart 101) (.ofNat 101) (.ofNat 5))).length = 101 := by
      rw [blockingOccurrences, List.filter_eq_self.mpr, crowdedSchedule, List.length_map,
        List.length_range]
      intro o ho
      obtain ⟨k, hk, rfl⟩ := mem_crowdedSchedule.mp ho
      exact decide_eq_true ⟨rfl, hnew _ ho, hmeets k hk⟩
    obtain ⟨detail, hdetail⟩ := (planPlace_of_resolved hexclusive
      (Instant.yearStart_lt (by omega) (by omega)) rfl hnew
      (resolve_exampleSessions exampleScope (.ofNat 5)) ⟨rfl, rfl⟩ rfl resolve_exampleRoom rfl
      (nextVersion_crowdedSchedule (by omega))).2 hblocked
    refine ⟨detail, hdetail, ?_⟩
    have hlength := (planSchedulePlacement_overlap hdetail).2.trans hblocking
    rw [schedulePlacementConflictDetailAccepted, hlength]
    decide

/-- The first placements of the run are readable. -/
theorem reachable_schedule_readable_first_placements : Readable (crowdedSchedule 3) :=
  (reachable_schedule_readable_iff rfl rfl (crowdedSchedule_run (by omega))).1.mpr
    (by simp [crowdedSchedule])

end JooEvents
