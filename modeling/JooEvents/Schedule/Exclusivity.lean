import Mathlib.Logic.Relation
import JooEvents.Schedule.Domain

/-!
# Room exclusivity over whole runs

A schedule is `Exclusive` when its occurrences have distinct identities, end after
they start, stand in canonical order, and no two of them share a room at the same
time. `applySchedulePlacement_ok` describes the state a plan leads to, and
`Exclusive.apply` shows that it is exclusive again : a placement was checked
against every occurrence but the one it replaces.

`ScheduleRun` is a run of applications, each with plans, sessions and a vocabulary
of its own. The version of the schedule grows with every step, so a plan that was
made for a version the run has left behind is refused (`apply_refuses_of_lt`).
-/

namespace JooEvents

open Fallible

variable {D : Type}

/-! ## What a successful planning run says -/

theorem parseSchedulePlacementOccurrence_ok {o o' : SchedulePlacementOccurrence} :
    parseSchedulePlacementOccurrence o = .ok o' ↔ o.startAt < o.endAt ∧ o = o' := by
  simp [parseSchedulePlacementOccurrence]

theorem mapM_parseOccurrence_ok {o o' : Option SchedulePlacementOccurrence} :
    o.mapM parseSchedulePlacementOccurrence = .ok o' ↔
      (∀ x ∈ o, x.startAt < x.endAt) ∧ o = o' := by
  cases o with
  | none => simp [Option.mapM_none, pure, Except.pure]
  | some x =>
    simp only [Option.mapM_some, map_eq_ok, parseSchedulePlacementOccurrence_ok, Option.mem_def,
      Option.some.injEq, forall_eq']
    constructor
    · rintro ⟨a, ⟨h, rfl⟩, rfl⟩
      exact ⟨h, rfl⟩
    · rintro ⟨h, rfl⟩
      exact ⟨x, ⟨h, rfl⟩, rfl⟩

theorem schedulePlacementPlan_ok {host : Host D} {state : SchedulePlacementState}
    {input : SchedulePlacementPlanningInput} {before after : Option SchedulePlacementOccurrence}
    {roomId : ApplicationId} {plan : SchedulePlacementPlan D}
    (h : schedulePlacementPlan host state input before after roomId = .ok plan) :
    plan.input = input ∧ plan.before = before ∧ plan.after = after ∧
      plan.scheduleVersion.before = state.scheduleVersion ∧
      plan.scheduleVersion.after.val = state.scheduleVersion.val + 1 := by
  simp only [schedulePlacementPlan, bind_eq_ok, orRefuse_eq_ok, pure_eq_ok] at h
  obtain ⟨versionAfter, hversion, guard, -, rfl⟩ := h
  exact ⟨rfl, rfl, rfl, rfl, val_of_nextAggregateVersion hversion⟩

/-- `a` and `b` overlap as half-open intervals. -/
def Overlapping (a b : SchedulePlacementOccurrence) : Prop :=
  a.startAt < b.endAt ∧ b.startAt < a.endAt

/-- What a plan of `input` has checked in `state`. -/
structure PlacementPlanned (state : SchedulePlacementState)
    (input : SchedulePlacementPlanningInput) (plan : SchedulePlacementPlan D) : Prop where
  input_eq : plan.input = input
  scope_eq : state.scope = input.scope
  expected_eq : state.scheduleVersion = input.expectedScheduleVersion
  version_before : plan.scheduleVersion.before = state.scheduleVersion
  version_after : plan.scheduleVersion.after.val = state.scheduleVersion.val + 1
  after_id : ∀ after ∈ plan.after, after.id = input.occurrenceId
  after_start_lt_end : ∀ after ∈ plan.after, after.startAt < after.endAt
  after_free : ∀ after ∈ plan.after, ∀ o ∈ state.occurrences, o.id ≠ input.occurrenceId →
    o.roomId = after.roomId → ¬ Overlapping after o

theorem planRoomPlacement_ok {host : Host D} {state : SchedulePlacementState}
    {sessions : PlaceableSessionIdentityPort} {vocabulary : ProgramVocabularyState host}
    {input : SchedulePlacementPlanningInput} {existing : Option SchedulePlacementOccurrence}
    {sessionId roomId : ApplicationId} {startAt endAt : Instant} {plan : SchedulePlacementPlan D}
    (hexisting : ∀ o ∈ existing, o.id = input.occurrenceId)
    (hscope : state.scope = input.scope)
    (hexpected : state.scheduleVersion = input.expectedScheduleVersion)
    (h : planRoomPlacement host state sessions vocabulary input existing sessionId roomId
      startAt endAt = .ok plan) :
    PlacementPlanned state input plan := by
  simp only [planRoomPlacement, bind_eq_ok, orRefuse_eq_ok, require_eq_ok, exists_const] at h
  obtain ⟨session, -, -, -, room, -, -, hfree, version, -, after, hafter, before, -, hplan⟩ := h
  obtain ⟨hlt, rfl⟩ := parseSchedulePlacementOccurrence_ok.mp hafter
  obtain ⟨hinput, -, hafter, hbefore, hversion⟩ := schedulePlacementPlan_ok hplan
  refine ⟨hinput, hscope, hexpected, hbefore, hversion, ?_, ?_, ?_⟩
  · simp [hafter]
  · simpa [hafter] using hlt
  · simp only [hafter, Option.mem_def, Option.some.injEq, forall_eq']
    intro o ho hid hroom hover
    have hkept : some o.id ≠ existing.map SchedulePlacementOccurrence.id := by
      cases existing with
      | none => simp
      | some e => simpa [hexisting e rfl] using hid
    have hmem : o ∈ overlappingRoomOccurrences state roomId startAt endAt
        (existing.map SchedulePlacementOccurrence.id) := by
      simp only [overlappingRoomOccurrences, mem_sortOccurrences, List.mem_filter,
        decide_eq_true_eq]
      exact ⟨ho, hroom, hkept, hover.1, hover.2⟩
    rw [hfree] at hmem
    cases hmem

theorem planSchedulePlacement_ok {host : Host D} {input : SchedulePlacementPlanningInput}
    {state : SchedulePlacementState} {sessions : PlaceableSessionIdentityPort}
    {vocabulary : ProgramVocabularyState host} {plan : SchedulePlacementPlan D}
    (h : planSchedulePlacementMutation host input state sessions vocabulary = .ok plan) :
    PlacementPlanned state input plan := by
  cases input with
  | place scope expected roomId startAt endAt occurrenceId sessionId =>
    simp only [planSchedulePlacementMutation, bind_eq_ok, require_eq_ok, exists_const] at h
    obtain ⟨-, hscope, -, hexpected, -, hplan⟩ := h
    exact planRoomPlacement_ok (by simp) hscope hexpected hplan
  | move scope expected roomId startAt endAt occurrenceId expectedVersion =>
    simp only [planSchedulePlacementMutation, bind_eq_ok, require_eq_ok, orRefuse_eq_ok,
      exists_const] at h
    obtain ⟨-, hscope, -, hexpected, occurrence, hfind, -, hplan⟩ := h
    refine planRoomPlacement_ok ?_ hscope hexpected hplan
    rintro o ho
    obtain rfl : occurrence = o := by simpa using ho
    simpa using List.find?_some hfind
  | unplace scope expected occurrenceId expectedVersion =>
    simp only [planSchedulePlacementMutation, bind_eq_ok, require_eq_ok, orRefuse_eq_ok,
      exists_const] at h
    obtain ⟨hscope, -, hexpected, occurrence, -, -, before, -, hplan⟩ := h
    obtain ⟨hinput, -, hafter, hbefore, hversion⟩ := schedulePlacementPlan_ok hplan
    exact ⟨hinput, hscope, hexpected, hbefore, hversion, by simp [hafter], by simp [hafter],
      by simp [hafter]⟩

theorem validateSchedulePlacementPlan_ok [DecidableEq D] {host : Host D}
    {state : SchedulePlacementState} {sessions : PlaceableSessionIdentityPort}
    {vocabulary : ProgramVocabularyState host} {plan : SchedulePlacementPlan D}
    (h : validateSchedulePlacementPlan host state sessions vocabulary plan = .ok none) :
    ∃ rebuilt, planSchedulePlacementMutation host plan.input state sessions vocabulary =
      .ok rebuilt ∧ host.Same rebuilt plan := by
  unfold validateSchedulePlacementPlan at h
  split at h
  · simp at h
  · simp at h
  · rename_i rebuilt hrebuilt
    obtain ⟨guard, -, h⟩ := bind_eq_ok.mp h
    by_cases hguard : host.Same guard plan.roomQueryGuard
    · by_cases hsame : host.Same rebuilt plan
      · exact ⟨rebuilt, hrebuilt, hsame⟩
      · simp [hguard, hsame] at h
    · simp [hguard] at h

theorem applySchedulePlacement_ok [DecidableEq D] {host : Host D}
    {state state' : SchedulePlacementState} {sessions : PlaceableSessionIdentityPort}
    {vocabulary : ProgramVocabularyState host} {plan : SchedulePlacementPlan D}
    {result : ScheduleOccurrencePlacementResult}
    (h : applySchedulePlacementPlan host state sessions vocabulary plan = .ok (state', result)) :
    PlacementPlanned state plan.input plan ∧
      state' =
        { scope := state.scope
          scheduleVersion := plan.scheduleVersion.after
          occurrences := sortOccurrences
            ((state.occurrences.filter fun o => o.id ≠ plan.input.occurrenceId) ++
              plan.after.toList)
          breaks := state.breaks } := by
  obtain ⟨refusal, hvalidate, h⟩ := bind_eq_ok.mp h
  cases refusal with
  | some code => cases h
  | none =>
    obtain ⟨rebuilt, hrebuilt, hsame⟩ := validateSchedulePlacementPlan_ok hvalidate
    obtain ⟨-, hafter, hversion⟩ := SchedulePlacementPlan.eq_of_same hsame
    have hplanned := planSchedulePlacement_ok hrebuilt
    obtain ⟨after, hparsed, h⟩ := bind_eq_ok.mp h
    obtain ⟨-, rfl⟩ := mapM_parseOccurrence_ok.mp hparsed
    refine ⟨⟨rfl, hplanned.scope_eq, hplanned.expected_eq, ?_, ?_, ?_, ?_, ?_⟩, ?_⟩
    · rw [← hversion, hplanned.version_before]
    · rw [← hversion, hplanned.version_after]
    · rw [← hafter]
      exact hplanned.after_id
    · rw [← hafter]
      exact hplanned.after_start_lt_end
    · rw [← hafter]
      exact hplanned.after_free
    · exact (Prod.ext_iff.mp (Except.ok.inj h)).1.symm

/-- A well-kept schedule : distinct identities, occurrences that end after they start,
in canonical order, and no two in one room at one time. -/
structure Exclusive (state : SchedulePlacementState) : Prop where
  ids_distinct : (state.occurrences.map SchedulePlacementOccurrence.id).Nodup
  start_lt_end : ∀ o ∈ state.occurrences, o.startAt < o.endAt
  sorted : state.occurrences.Pairwise occurrenceLe
  disjoint : ∀ a ∈ state.occurrences, ∀ b ∈ state.occurrences, a ≠ b → a.roomId = b.roomId →
    ¬ Overlapping a b

theorem exclusive_of_nil {state : SchedulePlacementState} (h : state.occurrences = []) :
    Exclusive state := by
  constructor <;> simp [h]

theorem Overlapping.symm {a b : SchedulePlacementOccurrence} (h : Overlapping a b) :
    Overlapping b a :=
  ⟨h.2, h.1⟩

theorem mem_applied_occurrences {state : SchedulePlacementState} {id : ApplicationId}
    {after : Option SchedulePlacementOccurrence} {o : SchedulePlacementOccurrence} :
    o ∈ sortOccurrences ((state.occurrences.filter fun o => o.id ≠ id) ++ after.toList) ↔
      (o ∈ state.occurrences ∧ o.id ≠ id) ∨ after = some o := by
  simp [Option.mem_toList]

theorem Exclusive.apply {state : SchedulePlacementState} {plan : SchedulePlacementPlan D}
    (hs : Exclusive state) (hplan : PlacementPlanned state plan.input plan) :
    Exclusive
      { scope := state.scope
        scheduleVersion := plan.scheduleVersion.after
        occurrences := sortOccurrences
          ((state.occurrences.filter fun o => o.id ≠ plan.input.occurrenceId) ++
            plan.after.toList)
        breaks := state.breaks } where
  ids_distinct := by
    rw [((perm_sortOccurrences _).map _).nodup_iff, List.map_append]
    refine List.Nodup.append (hs.ids_distinct.sublist (List.filter_sublist.map _)) ?_ ?_
    · cases plan.after <;> simp
    · intro id hkept hafter
      obtain ⟨o, ho, rfl⟩ := List.mem_map.mp hkept
      obtain ⟨after, hmem, hid⟩ := List.mem_map.mp hafter
      have hne : o.id ≠ plan.input.occurrenceId := by simpa using (List.mem_filter.mp ho).2
      exact hne (hid.symm.trans (hplan.after_id after (Option.mem_toList.mp hmem)))
  start_lt_end o ho := by
    rcases mem_applied_occurrences.mp ho with ⟨ho, -⟩ | ho
    · exact hs.start_lt_end o ho
    · exact hplan.after_start_lt_end o ho
  sorted := pairwise_sortOccurrences _
  disjoint a ha b hb hne hroom := by
    rcases mem_applied_occurrences.mp ha with ⟨ha, hida⟩ | ha <;>
      rcases mem_applied_occurrences.mp hb with ⟨hb, hidb⟩ | hb
    · exact hs.disjoint a ha b hb hne hroom
    · exact fun hover => hplan.after_free b hb a ha hida hroom hover.symm
    · exact hplan.after_free a ha b hb hidb hroom.symm
    · exact absurd (Option.some.inj (ha.symm.trans hb)) hne

/-! ## Runs -/

/-- One successful application, with any plan, sessions and vocabulary. -/
def ScheduleStep [DecidableEq D] (host : Host D) (state state' : SchedulePlacementState) : Prop :=
  ∃ (sessions : PlaceableSessionIdentityPort) (vocabulary : ProgramVocabularyState host)
    (plan : SchedulePlacementPlan D) (result : ScheduleOccurrencePlacementResult),
    applySchedulePlacementPlan host state sessions vocabulary plan = .ok (state', result)

/-- A finite sequence of successful applications; refused plans change nothing. -/
def ScheduleRun [DecidableEq D] (host : Host D) :
    SchedulePlacementState → SchedulePlacementState → Prop :=
  Relation.ReflTransGen (ScheduleStep host)

theorem ScheduleStep.exclusive [DecidableEq D] {host : Host D}
    {state state' : SchedulePlacementState} (h : ScheduleStep host state state')
    (hs : Exclusive state) : Exclusive state' := by
  obtain ⟨sessions, vocabulary, plan, result, happly⟩ := h
  obtain ⟨hplan, rfl⟩ := applySchedulePlacement_ok happly
  exact hs.apply hplan

theorem ScheduleStep.version [DecidableEq D] {host : Host D}
    {state state' : SchedulePlacementState} (h : ScheduleStep host state state') :
    state'.scheduleVersion.val = state.scheduleVersion.val + 1 := by
  obtain ⟨sessions, vocabulary, plan, result, happly⟩ := h
  obtain ⟨hplan, rfl⟩ := applySchedulePlacement_ok happly
  exact hplan.version_after

theorem ScheduleRun.exclusive [DecidableEq D] {host : Host D}
    {state state' : SchedulePlacementState} (h : ScheduleRun host state state')
    (hs : Exclusive state) : Exclusive state' := by
  induction h with
  | refl => exact hs
  | tail _ hstep ih => exact hstep.exclusive ih

theorem ScheduleRun.version_le [DecidableEq D] {host : Host D}
    {state state' : SchedulePlacementState} (h : ScheduleRun host state state') :
    state.scheduleVersion.val ≤ state'.scheduleVersion.val := by
  induction h with
  | refl => exact le_rfl
  | tail _ hstep ih =>
    have := hstep.version
    omega

theorem apply_refuses_of_version_ne [DecidableEq D] {host : Host D}
    {state state' : SchedulePlacementState} {sessions : PlaceableSessionIdentityPort}
    {vocabulary : ProgramVocabularyState host} {plan : SchedulePlacementPlan D}
    {result : ScheduleOccurrencePlacementResult}
    (hne : plan.scheduleVersion.before ≠ state.scheduleVersion) :
    applySchedulePlacementPlan host state sessions vocabulary plan ≠ .ok (state', result) :=
  fun h => hne (applySchedulePlacement_ok h).1.version_before

/-- **Room exclusivity.** In every run from an exclusive schedule, whatever the plans,
sessions and vocabularies, an application that succeeds leads to an exclusive schedule,
raises the version by one, keeps the breaks, leaves every other occurrence as it was,
and shuts out every further plan made for the same version. -/
theorem schedule_room_exclusivity [DecidableEq D] {host : Host D}
    {start state state' : SchedulePlacementState} {sessions : PlaceableSessionIdentityPort}
    {vocabulary : ProgramVocabularyState host} {plan : SchedulePlacementPlan D}
    {result : ScheduleOccurrencePlacementResult} (hstart : Exclusive start)
    (hrun : ScheduleRun host start state)
    (happly : applySchedulePlacementPlan host state sessions vocabulary plan =
      .ok (state', result)) :
    Exclusive state' ∧
      state'.scheduleVersion.val = state.scheduleVersion.val + 1 ∧
      state'.breaks = state.breaks ∧
      (∀ o, o.id ≠ plan.input.occurrenceId →
        (o ∈ state'.occurrences ↔ o ∈ state.occurrences)) ∧
      ∀ (later later' : SchedulePlacementState) (sessions' : PlaceableSessionIdentityPort)
        (vocabulary' : ProgramVocabularyState host) (plan' : SchedulePlacementPlan D)
        (result' : ScheduleOccurrencePlacementResult),
        ScheduleRun host state' later →
        plan'.scheduleVersion.before = plan.scheduleVersion.before →
        applySchedulePlacementPlan host later sessions' vocabulary' plan' ≠
          .ok (later', result') := by
  have hstep : ScheduleStep host state state' := ⟨sessions, vocabulary, plan, result, happly⟩
  have hexclusive := hstep.exclusive (hrun.exclusive hstart)
  have hversion := hstep.version
  obtain ⟨hplan, rfl⟩ := applySchedulePlacement_ok happly
  refine ⟨hexclusive, hversion, rfl, fun o hid => ?_, ?_⟩
  · refine mem_applied_occurrences.trans ⟨?_, fun ho => Or.inl ⟨ho, hid⟩⟩
    rintro (⟨ho, -⟩ | ho)
    · exact ho
    · exact absurd (hplan.after_id o ho) hid
  · intro later later' sessions' vocabulary' plan' result' hlater hbefore
    refine apply_refuses_of_version_ne fun hsame => ?_
    have hle := hlater.version_le
    rw [← hsame, hbefore, hplan.version_before, hversion] at hle
    omega

def exampleScope : ProgramVocabularyScope := ⟨.ofNat 1, .ofNat 2⟩

def exampleRoom : PlannedProgramVocabularyItem :=
  { id := .ofNat 3, name := "Main hall", status := .active, version := .one
    fields := .room none }

def exampleVocabulary : ProgramVocabularyState SymbolicDigest.host where
  scope := exampleScope
  setVersion := .one
  itemsOfKind
    | .room => [exampleRoom]
    | _ => []
  kind_eq := by rintro (_ | _ | _) item h <;> simp_all; rfl
  stored := by
    rintro (_ | _ | _) item h <;> simp_all
    exact ⟨by decide, trivial⟩
  sorted := by rintro (_ | _ | _) <;> simp
  nodup := by simp

/-- A port that knows every session as programmed. -/
def exampleSessions : PlaceableSessionIdentityPort where
  readPlaceableSession := some fun scope id =>
    some { scope, id, lifecycle := .programmed, trackId := none }
  readProgrammedSession := none

def emptySchedule : SchedulePlacementState :=
  { scope := exampleScope, scheduleVersion := .one, occurrences := [], breaks := [] }

namespace ExclusivityExample

def nine : Instant := ⟨"2026-05-01T09:00:00.000Z", by decide⟩

def halfPastNine : Instant := ⟨"2026-05-01T09:30:00.000Z", by decide⟩

def ten : Instant := ⟨"2026-05-01T10:00:00.000Z", by decide⟩

def eleven : Instant := ⟨"2026-05-01T11:00:00.000Z", by decide⟩

def planFor (state : SchedulePlacementState) (startAt endAt : Instant) (id : ApplicationId) :
    Except SchedulePlacementError (SchedulePlacementPlan SymbolicDigest) :=
  planSchedulePlacementMutation SymbolicDigest.host
    (.place exampleScope state.scheduleVersion exampleRoom.id startAt endAt id (.ofNat 5)) state
    exampleSessions exampleVocabulary

def apply (state : SchedulePlacementState) (plan : SchedulePlacementPlan SymbolicDigest) :
    Except SchedulePlacementError
      (SchedulePlacementState × ScheduleOccurrencePlacementResult) :=
  applySchedulePlacementPlan SymbolicDigest.host state exampleSessions exampleVocabulary plan

/-- The occurrences that a refused placement collides with. -/
def collisions (planned : Except SchedulePlacementError (SchedulePlacementPlan SymbolicDigest)) :
    List ApplicationId :=
  match planned with
  | .error (.planning .room_overlap (some detail)) => detail.conflicts.map (·.occurrenceId)
  | _ => []

/-- Two sessions one after the other in a room, and a third one that overlaps them. -/
def outcome : Except SchedulePlacementError Unit := do
  let plan ← planFor emptySchedule nine ten (.ofNat 4)
  let (first, _) ← apply emptySchedule plan
  let plan' ← planFor first ten eleven (.ofNat 6)
  let (second, _) ← apply first plan'
  require (collisions (planFor second halfPastNine eleven (.ofNat 7)) = [.ofNat 4, .ofNat 6]) .thrown

theorem outcome_succeeds : outcome.toBool = true := by decide +kernel

end ExclusivityExample

open ExclusivityExample in
/-- After two placements in a room the schedule is exclusive and has the first one as it was. Neither
plan applies again, and an interval that is taken is refused with the placements that take it. -/
theorem schedule_room_exclusivity_occupied :
    ∃ first second plan plan' result result', planFor emptySchedule nine ten (.ofNat 4) = .ok plan ∧
      apply emptySchedule plan = .ok (first, result) ∧
      planFor first ten eleven (.ofNat 6) = .ok plan' ∧
      apply first plan' = .ok (second, result') ∧
      Exclusive second ∧ second.scheduleVersion.val = 3 ∧
      (∀ o, o.id ≠ .ofNat 6 → (o ∈ second.occurrences ↔ o ∈ first.occurrences)) ∧
      (∀ later result, apply second plan ≠ .ok (later, result) ∧
        apply second plan' ≠ .ok (later, result)) ∧
      collisions (planFor second halfPastNine eleven (.ofNat 7)) = [.ofNat 4, .ofNat 6] := by
  obtain ⟨_, h⟩ := exists_of_toBool outcome_succeeds
  simp only [outcome, bind_eq_ok, require_eq_ok] at h
  obtain ⟨plan, hplan, ⟨first, result⟩, hfirst, plan', hplan', ⟨second, result'⟩, hsecond, htaken⟩ := h
  have hstep : ScheduleStep SymbolicDigest.host emptySchedule first :=
    ⟨exampleSessions, exampleVocabulary, plan, result, hfirst⟩
  have hinput := (planSchedulePlacement_ok hplan').input_eq
  obtain ⟨hexclusive, hversion, -, hkept, hagain⟩ :=
    schedule_room_exclusivity (exclusive_of_nil rfl) (.single hstep) hsecond
  refine ⟨first, second, plan, plan', result, result', hplan, hfirst, hplan', hsecond, hexclusive,
    ?_, ?_, fun later result => ⟨?_, hagain _ later _ _ _ result .refl rfl⟩, htaken⟩
  · rw [hversion, hstep.version]
    rfl
  · rw [hinput] at hkept
    exact hkept
  · have hstep' : ScheduleStep SymbolicDigest.host first second :=
      ⟨exampleSessions, exampleVocabulary, plan', result', hsecond⟩
    exact (schedule_room_exclusivity (exclusive_of_nil rfl) .refl hfirst).2.2.2.2 _ later _ _ _
      result (.single hstep') rfl

end JooEvents
