import JooEvents.Lib.Fallible
import JooEvents.Lib.Lease
import JooEvents.Kernel.Text
import JooEvents.Reliability.Definitions

/-!
# Work states

What consumer deliveries and jobs have in common : the states they go through, leases,
attempts, and the checks that their transitions make. `WorkState` collects the fields both
records have, and `WorkState.record` is the leased record that it stands for.
-/

namespace JooEvents

open Fallible

/-- `ReliabilityTransitionError['code']`. -/
inductive ReliabilityTransitionCode where
  | duplicate_identity
  | not_ready
  | lease_busy
  | attempt_limit
  | reconciliation_required
  | external_retry_forbidden
  | terminal
  | lost_fence
  | unknown_attempt
  | binding_collision
  | invalid_time
  deriving DecidableEq

/-- What is thrown : a `ReliabilityTransitionError`, or a `TypeError`. -/
inductive ReliabilityError where
  | transition (code : ReliabilityTransitionCode) (message : String)
  | type (message : String)
  deriving DecidableEq

/-! ## Records -/

abbrev LeaseFence := PositiveSafe

abbrev AttemptNumber := PositiveSafe

/-- `DELIVERY_AND_JOB_STATES`. -/
inductive DeliveryAndJobState where
  | pending
  | leased
  | retry_wait
  | succeeded
  | dead_lettered
  | cancelled
  deriving DecidableEq

/-- How a failure is classified. -/
inductive FailureClassification where
  | transient
  | permanent
  | ambiguous
  deriving DecidableEq

structure SafeFailure where
  code : String
  classification : FailureClassification
  deriving DecidableEq

structure WorkLease (AttemptId : Type) where
  fence : LeaseFence
  ownerKey : String
  attemptId : AttemptId
  expiresAt : Instant
  deriving DecidableEq

/-- The states of a finished attempt. -/
inductive FinishedState where
  | succeeded
  | retry_scheduled
  | dead_lettered
  | cancelled
  | lost_fence
  deriving DecidableEq

/-- What a finished attempt has more than a running one. The result of an attempt is of
the type `R`. -/
structure AttemptFinish (R : Type) where
  state : FinishedState
  completedAt : Instant
  result : R
  failure : Option SafeFailure
  deriving DecidableEq

/-- An attempt, running until it is finished. -/
structure WorkAttempt (AttemptId R : Type) where
  id : AttemptId
  number : AttemptNumber
  fence : LeaseFence
  startedAt : Instant
  finish : Option (AttemptFinish R)
  deriving DecidableEq

/-- The fields of a delivery and of a job that change. -/
structure WorkState (AttemptId R : Type) where
  state : DeliveryAndJobState
  version : Version
  currentFence : Option LeaseFence
  lease : Option (WorkLease AttemptId)
  nextActionAt : Option Instant
  attempts : List (WorkAttempt AttemptId R)
  deriving DecidableEq

/-- What a worker says when it claims work. -/
structure ClaimInput (AttemptId : Type) where
  attemptId : AttemptId
  ownerKey : String
  now : Instant
  leaseExpiresAt : Instant

def WorkState.pending {AttemptId R : Type} (availableAt : Instant) : WorkState AttemptId R :=
  { state := .pending, version := .one, currentFence := none, lease := none
    nextActionAt := some availableAt, attempts := [] }

def isTerminal (state : DeliveryAndJobState) : Bool :=
  state = .succeeded || state = .dead_lettered || state = .cancelled

def nextFence (current : Option LeaseFence) : Except ReliabilityError LeaseFence :=
  orRefuse (PositiveSafe.parse ((current.map (·.val)).getD 0 + 1))
    (.type "lease fence must be a positive safe integer")

def nextAttemptNumber (currentCount : ℕ) : Except ReliabilityError AttemptNumber :=
  orRefuse (PositiveSafe.parse (currentCount + 1))
    (.type "attempt number must be a positive safe integer")

/-- `nextAggregateVersion`. -/
def nextWorkVersion (current : Version) : Except ReliabilityError Version :=
  orRefuse (nextAggregateVersion current) (.type "AggregateVersion must be a positive safe integer")

def assertAfter (later earlier : Instant) (label : String) : Except ReliabilityError Unit :=
  require (earlier < later) (.transition .invalid_time (label ++ " must be after the current time"))

def assertNotBefore (later earlier : Instant) (label : String) : Except ReliabilityError Unit :=
  require (earlier ≤ later) (.transition .invalid_time (label ++ " cannot be before its start"))

def assertWithinDuration (later earlier : Instant) (maximumDurationMs : ℕ) (label : String) :
    Except ReliabilityError Unit :=
  require ((later.millis : ℤ) - earlier.millis ≤ maximumDurationMs)
    (.transition .invalid_time (label ++ " exceeds its registered duration"))

/-- `/^[a-z][a-z0-9_.-]{0,127}$/`. -/
def isSafeCode (s : String) : Bool :=
  match s.toList with
  | [] => false
  | c :: cs => isLowerChar c && decide (cs.length ≤ 127) &&
      cs.all fun c => isLowerChar c || isDigitChar c || isOneOf ['_', '.', '-'] c

def assertSafeCode (value label : String) : Except ReliabilityError Unit :=
  require (isSafeCode value = true) (.type (label ++ " must be a bounded safe code"))

def assertWorkerKey (value : String) : Except ReliabilityError Unit :=
  require (textLength value ≠ 0 ∧ textLength value ≤ 160 ∧ trimText value = value)
    (.type "worker key must be a bounded non-empty identity")

section

variable {AttemptId R : Type} [DecidableEq AttemptId]

/-- The place of the first running attempt with an identity, and the attempt. -/
def findRunning (attempts : List (WorkAttempt AttemptId R)) (id : AttemptId) :
    Option (ℕ × WorkAttempt AttemptId R) := do
  let i ← attempts.findIdx? fun attempt => attempt.id = id ∧ attempt.finish.isNone
  let attempt ← attempts[i]?
  return (i, attempt)

theorem findRunning_eq_some {attempts : List (WorkAttempt AttemptId R)} {id : AttemptId} {i : ℕ}
    {attempt : WorkAttempt AttemptId R} (h : findRunning attempts id = some (i, attempt)) :
    attempts[i]? = some attempt ∧ attempt.id = id ∧ attempt.finish = none := by
  simp only [findRunning, Option.bind_eq_bind, Option.pure_def, Option.bind_eq_some_iff,
    Option.some.injEq, Prod.mk.injEq] at h
  obtain ⟨j, hj, found, hfound, rfl, rfl⟩ := h
  obtain ⟨hlt, hprop, -⟩ := List.findIdx?_eq_some_iff_getElem.mp hj
  rw [(List.getElem?_eq_some_iff.mp hfound).2, decide_eq_true_eq,
    Option.isNone_iff_eq_none] at hprop
  exact ⟨hfound, hprop.1, hprop.2⟩

end

section

variable {AttemptId R : Type}

/-- The work with a new running attempt under the next fence. -/
def WorkState.claim (w : WorkState AttemptId R) (input : ClaimInput AttemptId) :
    Except ReliabilityError (WorkState AttemptId R) := do
  let fence ← nextFence w.currentFence
  let number ← nextAttemptNumber w.attempts.length
  let version ← nextWorkVersion w.version
  return {
    state := .leased, version, currentFence := some fence
    lease := some { fence, ownerKey := input.ownerKey, attemptId := input.attemptId
                    expiresAt := input.leaseExpiresAt }
    nextActionAt := none
    attempts := w.attempts ++
      [{ id := input.attemptId, number, fence, startedAt := input.now, finish := none }] }

/-- What a completion makes of the work and of its attempt. -/
structure Outcome (R : Type) where
  state : DeliveryAndJobState
  attemptState : FinishedState
  nextActionAt : Option Instant
  result : R
  failure : Option SafeFailure

/-- The work with an attempt finished and the lease given up. -/
def WorkState.finish (w : WorkState AttemptId R) (attemptIndex : ℕ)
    (running : WorkAttempt AttemptId R) (completedAt : Instant) (outcome : Outcome R) :
    Except ReliabilityError (WorkState AttemptId R) := do
  let version ← nextWorkVersion w.version
  return {
    w with
    state := outcome.state, version, lease := none, nextActionAt := outcome.nextActionAt
    attempts := w.attempts.set attemptIndex
      { running with
        finish := some { state := outcome.attemptState, completedAt, result := outcome.result
                         failure := outcome.failure } } }

variable [DecidableEq AttemptId]

/-- The running attempt that the lease of the work is for, if the lease has a fence. The
work is called `name` in refusals, and its attempts `owner` attempts. -/
def WorkState.leasedAttempt (w : WorkState AttemptId R) (name owner : String) (fence : LeaseFence)
    (completedAt : Instant) : Except ReliabilityError (ℕ × WorkAttempt AttemptId R) := do
  require (w.state = .leased ∧ w.currentFence = some fence ∧ w.lease.map (·.fence) = some fence)
    (.transition .lost_fence (name ++ " completion lost its lease fence"))
  let (attemptIndex, running) ← orRefuse
    (w.lease.bind fun lease => findRunning w.attempts lease.attemptId)
    (.transition .unknown_attempt ("active " ++ owner ++ " attempt is not running"))
  assertNotBefore completedAt running.startedAt (name ++ " completion time")
  return (attemptIndex, running)

/-- A running attempt of `owner` is seen to have lost its fence. -/
def WorkState.recordLostFence (w : WorkState AttemptId R) (owner : String) (noResult : R)
    (attemptId : AttemptId) (observedAt : Instant) :
    Except ReliabilityError (WorkState AttemptId R) := do
  let (attemptIndex, attempt) ← orRefuse (findRunning w.attempts attemptId)
    (.transition .unknown_attempt (owner ++ " attempt is not running"))
  let currentFence ← orRefuse w.currentFence
    (.transition .lost_fence (owner ++ " attempt has not lost its fence"))
  require (attempt.fence < currentFence)
    (.transition .lost_fence (owner ++ " attempt has not lost its fence"))
  assertNotBefore observedAt attempt.startedAt "lost-fence observation time"
  let version ← nextWorkVersion w.version
  return {
    w with
    version
    attempts := w.attempts.set attemptIndex
      { attempt with
        finish := some { state := .lost_fence, completedAt := observedAt, result := noResult
                         failure := none } } }

end

/-! ## The leased record -/

section

variable {AttemptId R : Type}

def DeliveryAndJobState.phase : DeliveryAndJobState → Lease.Phase
  | .pending | .retry_wait => .waiting
  | .leased => .held
  | .succeeded | .dead_lettered | .cancelled => .done

def WorkAttempt.attempt (a : WorkAttempt AttemptId R) :
    Lease.Attempt AttemptId (AttemptFinish R) Instant :=
  { id := a.id, number := a.number.val, fence := a.fence.val, start := a.startedAt
    finish := a.finish }

/-- The leased record that a work state stands for. -/
def WorkState.record (w : WorkState AttemptId R) :
    Lease.Record AttemptId (AttemptFinish R) Instant :=
  { phase := w.state.phase, version := w.version.val, fence := w.currentFence.map (·.val)
    lease := w.lease.map fun lease => (lease.fence.val, lease.attemptId)
    due := w.nextActionAt, attempts := w.attempts.map (·.attempt) }

def AttemptFinish.Won (finish : AttemptFinish R) : Prop := finish.state = .succeeded

instance (finish : AttemptFinish R) : Decidable finish.Won := inferInstanceAs (Decidable (_ = _))

def WorkState.Steps (w w' : WorkState AttemptId R) : Prop :=
  Lease.Step AttemptFinish.Won w.record w'.record

theorem isTerminal_iff_phase {state : DeliveryAndJobState} :
    isTerminal state = true ↔ state.phase = .done := by
  cases state <;> simp [isTerminal, DeliveryAndJobState.phase]

theorem phase_eq_held_iff {state : DeliveryAndJobState} : state.phase = .held ↔ state = .leased := by
  cases state <;> simp [DeliveryAndJobState.phase]

variable {w w' : WorkState AttemptId R}

theorem getElem?_record {i : ℕ} {attempt : WorkAttempt AttemptId R}
    (h : w.attempts[i]? = some attempt) : w.record.attempts[i]? = some attempt.attempt := by
  simp [WorkState.record, h]

theorem WorkState.record_claim {input : ClaimInput AttemptId} (h : w.claim input = .ok w') :
    w'.record = w.record.claim input.attemptId input.now := by
  simp only [WorkState.claim, nextFence, nextAttemptNumber, nextWorkVersion, bind_eq_ok,
    orRefuse_eq_ok, PositiveSafe.parse_eq_some, pure_eq_ok] at h
  obtain ⟨fence, hfence, number, hnumber, version, hversion, rfl⟩ := h
  simp [WorkState.record, Lease.Record.claim, DeliveryAndJobState.phase, WorkAttempt.attempt,
    hfence, hnumber, val_of_nextAggregateVersion hversion]

theorem WorkState.record_finish {i : ℕ} {running : WorkAttempt AttemptId R}
    {completedAt : Instant} {outcome : Outcome R}
    (h : w.finish i running completedAt outcome = .ok w') :
    w'.record =
      { w.record.finish i running.attempt
          { state := outcome.attemptState, completedAt, result := outcome.result
            failure := outcome.failure } with
        phase := outcome.state.phase, lease := none, due := outcome.nextActionAt } := by
  simp only [WorkState.finish, nextWorkVersion, bind_eq_ok, orRefuse_eq_ok, pure_eq_ok] at h
  obtain ⟨version, hversion, rfl⟩ := h
  simp [WorkState.record, Lease.Record.finish, WorkAttempt.attempt, List.map_set,
    val_of_nextAggregateVersion hversion]

theorem WorkState.steps_of_claim {input : ClaimInput AttemptId}
    (hstate : isTerminal w.state = false)
    (hfresh : ∀ attempt ∈ w.attempts, attempt.id ≠ input.attemptId)
    (h : w.claim input = .ok w') : w.Steps w' := by
  rw [WorkState.Steps, w.record_claim h]
  refine .claim input.attemptId input.now (fun hdone => ?_) fun a ha => ?_
  · rw [isTerminal_iff_phase.mpr hdone] at hstate
    cases hstate
  · obtain ⟨attempt, hattempt, rfl⟩ := List.mem_map.mp ha
    exact hfresh attempt hattempt

variable [DecidableEq AttemptId]

theorem WorkState.leasedAttempt_ok {name owner : String} {fence : LeaseFence}
    {completedAt : Instant} {i : ℕ} {running : WorkAttempt AttemptId R}
    (h : w.leasedAttempt name owner fence completedAt = .ok (i, running)) :
    w.state = .leased ∧ w.currentFence = some fence ∧ ∃ lease ∈ w.lease, lease.fence = fence ∧
      w.attempts[i]? = some running ∧ running.id = lease.attemptId ∧ running.finish = none := by
  simp only [WorkState.leasedAttempt, bind_eq_ok, require_eq_ok, orRefuse_eq_ok, pure_eq_ok,
    assertNotBefore, exists_const, Prod.exists, Option.bind_eq_some_iff, Option.map_eq_some_iff,
    Prod.mk.injEq] at h
  obtain ⟨⟨hstate, hcurrent, lease, hlease, hfence⟩, _, _, ⟨lease', hlease', hfound⟩, -, rfl, rfl⟩ := h
  obtain rfl := Option.some.inj (hlease.symm.trans hlease')
  exact ⟨hstate, hcurrent, lease, hlease, hfence, findRunning_eq_some hfound⟩

theorem WorkState.steps_of_finish {name owner : String} {fence : LeaseFence}
    {completedAt : Instant} {i : ℕ} {running : WorkAttempt AttemptId R} {outcome : Outcome R}
    (hleased : w.leasedAttempt name owner fence completedAt = .ok (i, running))
    (hreleased : outcome.state ≠ .leased)
    (hsettled : outcome.attemptState = .succeeded → outcome.state = .succeeded)
    (h : w.finish i running completedAt outcome = .ok w') : w.Steps w' := by
  obtain ⟨hstate, -, lease, hlease, -, hmem, hid, hrunning⟩ := w.leasedAttempt_ok hleased
  rw [WorkState.Steps, w.record_finish h]
  refine .complete i running.attempt _ outcome.state.phase outcome.nextActionAt
    (phase_eq_held_iff.mpr hstate) (fun l hl => ?_) ?_ (getElem?_record hmem) hrunning
    (fun hheld => hreleased (phase_eq_held_iff.mp hheld)) fun hwon => ?_
  · simp only [WorkState.record, Option.mem_def.mp hlease, Option.map_some, Option.mem_some_iff] at hl
    rw [← hl]
    exact hid
  · simp [WorkState.record, Option.mem_def.mp hlease]
  · rw [hsettled hwon]
    rfl

theorem WorkState.steps_of_recordLostFence {owner : String} {noResult : R} {attemptId : AttemptId}
    {observedAt : Instant} (h : w.recordLostFence owner noResult attemptId observedAt = .ok w') :
    w.Steps w' := by
  simp only [WorkState.recordLostFence, bind_eq_ok, require_eq_ok, orRefuse_eq_ok, pure_eq_ok,
    assertNotBefore, nextWorkVersion, exists_const, Prod.exists] at h
  obtain ⟨i, attempt, hfound, current, hcurrent, hlost, -, version, hversion, rfl⟩ := h
  obtain ⟨hmem, -, hrunning⟩ := findRunning_eq_some hfound
  have hstep : Lease.Step AttemptFinish.Won w.record (w.record.finish i attempt.attempt
      { state := .lost_fence, completedAt := observedAt, result := noResult, failure := none }) := by
    refine .lose i attempt.attempt _ (getElem?_record hmem) hrunning (fun fence hfence => ?_) ?_
    · simp only [WorkState.record, hcurrent, Option.map_some, Option.mem_some_iff] at hfence
      rw [← hfence]
      exact hlost
    · simp [AttemptFinish.Won]
  rw [WorkState.Steps]
  convert hstep using 1
  simp [WorkState.record, Lease.Record.finish, WorkAttempt.attempt, List.map_set,
    val_of_nextAggregateVersion hversion]

end

end JooEvents
