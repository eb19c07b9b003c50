import JooEvents.Reliability.Delivery
import JooEvents.Reliability.Job

/-!
# Lease fencing

Workers claim and complete work, and record attempts that have lost their fence, in any
order and with any clocks, fences and identities. `LeaseMachine` says that a system of work
moves by the transitions of `WorkState` alone, as consumer deliveries
(`consumerDelivery_machine`) and jobs (`job_machine`) do. Its states then refine leased
records, and `Fencing` is what follows for every state that a run reaches.
-/

namespace JooEvents

open Fallible

/-- What workers may ask of work. -/
inductive WorkCommand (AttemptId Completion : Type) where
  | claim (input : ClaimInput AttemptId)
  | complete (fence : LeaseFence) (completedAt : Instant) (completion : Completion)
  | recordLostFence (attemptId : AttemptId) (observedAt : Instant)

def stepConsumerDelivery (delivery : ConsumerDelivery) :
    WorkCommand ConsumerAttemptId ConsumerDeliveryCompletion →
      Except ReliabilityError ConsumerDelivery
  | .claim input => claimConsumerDelivery delivery input
  | .complete fence completedAt completion =>
    completeConsumerDelivery delivery fence completedAt completion
  | .recordLostFence attemptId observedAt =>
    recordConsumerAttemptLostFence delivery attemptId observedAt

def stepJob (job : JobRecord) :
    WorkCommand InvocationId JobCompletion → Except ReliabilityError JobRecord
  | .claim input => claimJob job input
  | .complete fence completedAt completion => completeJob job fence completedAt completion
  | .recordLostFence invocationId observedAt => recordJobAttemptLostFence job invocationId observedAt

variable {σ AttemptId R Completion : Type}

/-- The attempts, the fence, the state and the lease of work agree. -/
structure WorkState.Fenced (w : WorkState AttemptId R) : Prop where
  numbered : ∀ (i : ℕ) (attempt : WorkAttempt AttemptId R), w.attempts[i]? = some attempt →
    attempt.number.val = i + 1 ∧ attempt.fence.val = i + 1
  currentFence : w.currentFence = w.attempts.getLast?.map (·.fence)
  leased : w.state = .leased ↔ w.lease.isSome
  lease : ∀ lease ∈ w.lease, w.nextActionAt = none ∧ ∃ last ∈ w.attempts.getLast?,
    lease.attemptId = last.id ∧ lease.fence = last.fence ∧ last.finish = none
  succeeded_once : ∀ (i j : ℕ) (a b : WorkAttempt AttemptId R),
    w.attempts[i]? = some a → w.attempts[j]? = some b →
      (∃ finish ∈ a.finish, finish.state = .succeeded) →
        (∃ finish ∈ b.finish, finish.state = .succeeded) → i = j

/-- What holds of a state of work that a run has reached. -/
structure Fencing (work : σ → WorkState AttemptId R)
    (step : σ → WorkCommand AttemptId Completion → Except ReliabilityError σ) (s : σ) : Prop where
  fenced : (work s).Fenced
  /-- An accepted command takes the work one version further. -/
  advances : ∀ command t, step s command = .ok t →
    (work t).version.val = (work s).version.val + 1
  /-- A completion has the current fence, and finishes the last attempt and no other. -/
  completes : ∀ fence completedAt completion t,
    step s (.complete fence completedAt completion) = .ok t →
      (work s).currentFence = some fence ∧ ∃ last finish,
        (work s).attempts.getLast? = some last ∧ last.fence = fence ∧ last.finish = none ∧
          (work t).attempts = (work s).attempts.dropLast ++ [{ last with finish := some finish }]
  /-- Settled work is neither claimed nor completed, whatever comes. -/
  absorbing : isTerminal (work s).state = true → ∀ commands,
    (work (run step s commands)).state = (work s).state ∧
      (∀ input t, step (run step s commands) (.claim input) ≠ .ok t) ∧
      ∀ fence completedAt completion t,
        step (run step s commands) (.complete fence completedAt completion) ≠ .ok t
  /-- Attempts stay where they are, and as they are once they are finished. -/
  keeps : ∀ commands (i : ℕ) (attempt : WorkAttempt AttemptId R),
    (work s).attempts[i]? = some attempt → ∃ later : WorkAttempt AttemptId R,
      (work (run step s commands)).attempts[i]? = some later ∧
        later = { attempt with finish := later.finish } ∧
        (attempt.finish.isSome → later = attempt)

/-! ## Machines of work -/

variable [DecidableEq AttemptId]

/-- A system moves its work by the transitions of `WorkState`. -/
structure LeaseMachine (work : σ → WorkState AttemptId R)
    (step : σ → WorkCommand AttemptId Completion → Except ReliabilityError σ) : Prop where
  claim : ∀ {s input t}, step s (.claim input) = .ok t → isTerminal (work s).state = false ∧
    (∀ attempt ∈ (work s).attempts, attempt.id ≠ input.attemptId) ∧
    (work s).claim input = .ok (work t)
  complete : ∀ {s fence completedAt completion t},
    step s (.complete fence completedAt completion) = .ok t →
      ∃ name owner attemptIndex running outcome,
        (work s).leasedAttempt name owner fence completedAt = .ok (attemptIndex, running) ∧
          outcome.state ≠ .leased ∧
          (outcome.attemptState = .succeeded → outcome.state = .succeeded) ∧
          (work s).finish attemptIndex running completedAt outcome = .ok (work t)
  lostFence : ∀ {s attemptId observedAt t},
    step s (.recordLostFence attemptId observedAt) = .ok t → ∃ owner noResult,
      (work s).recordLostFence owner noResult attemptId observedAt = .ok (work t)

omit [DecidableEq AttemptId] in
theorem WorkAttempt.attempt_injective :
    Function.Injective (WorkAttempt.attempt : WorkAttempt AttemptId R → _) := by
  rintro ⟨id, number, fence, startedAt, finish⟩ ⟨id', number', fence', startedAt', finish'⟩ h
  simp only [WorkAttempt.attempt, Lease.Attempt.mk.injEq, Subtype.val_inj] at h
  obtain ⟨rfl, rfl, rfl, rfl, rfl⟩ := h
  rfl

omit [DecidableEq AttemptId] in
theorem getElem?_of_record {w : WorkState AttemptId R} {i : ℕ}
    {b : Lease.Attempt AttemptId (AttemptFinish R) Instant} (h : w.record.attempts[i]? = some b) :
    ∃ attempt, w.attempts[i]? = some attempt ∧ attempt.attempt = b := by
  simpa [WorkState.record] using h

omit [DecidableEq AttemptId] in
theorem WorkState.fenced_of_sound {w : WorkState AttemptId R}
    (h : Lease.Sound AttemptFinish.Won w.record) : w.Fenced where
  numbered i attempt hattempt := h.numbered i attempt.attempt (getElem?_record hattempt)
  currentFence := by
    have hfence := h.fence
    simp only [WorkState.record, List.getLast?_map, Option.map_map] at hfence
    refine Option.map_injective Subtype.val_injective ?_
    rw [hfence, Option.map_map]
    rfl
  leased := by
    rw [← phase_eq_held_iff]
    simpa [WorkState.record] using h.held
  lease lease hlease := by
    obtain ⟨hdue, last, hlast, hrunning, hl⟩ := h.lease (lease.fence.val, lease.attemptId)
      (by simp [WorkState.record, Option.mem_def.mp hlease])
    simp only [WorkState.record, List.getLast?_map, Option.mem_def, Option.map_eq_some_iff] at hlast
    obtain ⟨attempt, hattempt, rfl⟩ := hlast
    obtain ⟨hfence, hid⟩ := Prod.mk.inj hl
    exact ⟨hdue, attempt, hattempt, hid, Subtype.ext hfence, hrunning⟩
  succeeded_once i j a b ha hb :=
    h.once i j a.attempt b.attempt (getElem?_record ha) (getElem?_record hb)

variable {work : σ → WorkState AttemptId R}
  {step : σ → WorkCommand AttemptId Completion → Except ReliabilityError σ} {s t : σ}

theorem LeaseMachine.steps (h : LeaseMachine work step)
    {command : WorkCommand AttemptId Completion} (hstep : step s command = .ok t) :
    (work s).Steps (work t) := by
  cases command with
  | claim input =>
    obtain ⟨hstate, hfresh, hclaim⟩ := h.claim hstep
    exact WorkState.steps_of_claim hstate hfresh hclaim
  | complete fence completedAt completion =>
    obtain ⟨name, owner, i, running, outcome, hleased, hreleased, hsettled, hfinish⟩ :=
      h.complete hstep
    exact WorkState.steps_of_finish hleased hreleased hsettled hfinish
  | recordLostFence attemptId observedAt =>
    obtain ⟨owner, noResult, hlost⟩ := h.lostFence hstep
    exact WorkState.steps_of_recordLostFence hlost

theorem LeaseMachine.not_claim (h : LeaseMachine work step)
    (hterminal : isTerminal (work s).state = true) {input : ClaimInput AttemptId} :
    step s (.claim input) ≠ .ok t := by
  intro hstep
  rw [(h.claim hstep).1] at hterminal
  cases hterminal

theorem LeaseMachine.not_complete (h : LeaseMachine work step)
    (hterminal : isTerminal (work s).state = true) {fence : LeaseFence} {completedAt : Instant}
    {completion : Completion} : step s (.complete fence completedAt completion) ≠ .ok t := by
  intro hstep
  obtain ⟨name, owner, i, running, outcome, hleased, -⟩ := h.complete hstep
  rw [((work s).leasedAttempt_ok hleased).1] at hterminal
  cases hterminal

theorem LeaseMachine.state_of_terminal (h : LeaseMachine work step)
    (hterminal : isTerminal (work s).state = true)
    {command : WorkCommand AttemptId Completion} (hstep : step s command = .ok t) :
    (work t).state = (work s).state := by
  cases command with
  | claim input => exact absurd hstep (h.not_claim hterminal)
  | complete fence completedAt completion => exact absurd hstep (h.not_complete hterminal)
  | recordLostFence attemptId observedAt =>
    obtain ⟨owner, noResult, hlost⟩ := h.lostFence hstep
    simp only [WorkState.recordLostFence, bind_eq_ok, pure_eq_ok, Prod.exists] at hlost
    obtain ⟨_, _, -, _, -, _, -, _, -, _, -, hwork⟩ := hlost
    rw [← hwork]

theorem LeaseMachine.completes (h : LeaseMachine work step)
    (hsound : Lease.Sound AttemptFinish.Won (work s).record) {fence : LeaseFence}
    {completedAt : Instant} {completion : Completion}
    (hstep : step s (.complete fence completedAt completion) = .ok t) :
    (work s).currentFence = some fence ∧ ∃ last finish,
      (work s).attempts.getLast? = some last ∧ last.fence = fence ∧ last.finish = none ∧
        (work t).attempts = (work s).attempts.dropLast ++ [{ last with finish := some finish }] := by
  obtain ⟨name, owner, i, running, outcome, hleased, -, -, hfinish⟩ := h.complete hstep
  obtain ⟨-, hcurrent, lease, hlease, hfence, hmem, hid, hrunning⟩ :=
    (work s).leasedAttempt_ok hleased
  obtain ⟨-, last, hlast, hlastId, hlastFence, -⟩ := (WorkState.fenced_of_sound hsound).lease lease hlease
  have hlast' : (work s).attempts[(work s).attempts.length - 1]? = some last := by
    rw [← List.getLast?_eq_getElem?]
    exact hlast
  -- identities are distinct, so the leased attempt is the last one
  obtain rfl := hsound.index_eq_of_id_eq (getElem?_record hmem) (getElem?_record hlast')
    (hid.trans hlastId)
  obtain rfl : running = last := Option.some.inj (hmem.symm.trans hlast')
  simp only [WorkState.finish, bind_eq_ok, pure_eq_ok] at hfinish
  obtain ⟨version, -, hwork⟩ := hfinish
  refine ⟨hcurrent, running,
    { state := outcome.attemptState, completedAt, result := outcome.result
      failure := outcome.failure }, hlast, hlastFence.symm.trans hfence, hrunning, ?_⟩
  rw [← hwork]
  exact Lease.set_length_sub_one hlast

theorem LeaseMachine.sound_run (h : LeaseMachine work step)
    (hsound : Lease.Sound AttemptFinish.Won (work s).record)
    (commands : List (WorkCommand AttemptId Completion)) :
    Lease.Sound AttemptFinish.Won (work (run step s commands)).record :=
  run_induction (P := fun s => Lease.Sound AttemptFinish.Won (work s).record)
    (fun _ _ _ hsound hstep => hsound.step (h.steps hstep)) commands s hsound

theorem LeaseMachine.grows_run (h : LeaseMachine work step)
    (commands : List (WorkCommand AttemptId Completion)) :
    Lease.Grows (work s).record (work (run step s commands)).record :=
  run_induction (P := fun t => Lease.Grows (work s).record (work t).record)
    (fun _ _ _ hgrows hstep => hgrows.trans (h.steps hstep).grows) commands s (.refl _)

theorem LeaseMachine.state_run (h : LeaseMachine work step)
    (hterminal : isTerminal (work s).state = true)
    (commands : List (WorkCommand AttemptId Completion)) :
    (work (run step s commands)).state = (work s).state :=
  run_induction (P := fun t => (work t).state = (work s).state)
    (fun _ _ _ hstate hstep =>
      (h.state_of_terminal (hstate ▸ hterminal) hstep).trans hstate) commands s rfl

theorem LeaseMachine.fencing (h : LeaseMachine work step)
    (hsound : Lease.Sound AttemptFinish.Won (work s).record) : Fencing work step s where
  fenced := WorkState.fenced_of_sound hsound
  advances _ _ hstep := (h.steps hstep).version_eq
  completes _ _ _ _ hstep := h.completes hsound hstep
  absorbing hterminal commands := by
    have hstate := h.state_run hterminal commands
    exact ⟨hstate, fun _ _ => h.not_claim (hstate ▸ hterminal),
      fun _ _ _ _ => h.not_complete (hstate ▸ hterminal)⟩
  keeps commands i attempt hattempt := by
    obtain ⟨b, hb, hkept, hended⟩ := h.grows_run commands i attempt.attempt (getElem?_record hattempt)
    obtain ⟨later, hlater, rfl⟩ := getElem?_of_record hb
    exact ⟨later, hlater, WorkAttempt.attempt_injective hkept,
      fun hfinish => WorkAttempt.attempt_injective (hended hfinish)⟩

omit [DecidableEq AttemptId] in
theorem sound_pending (availableAt : Instant) :
    Lease.Sound AttemptFinish.Won (WorkState.pending availableAt : WorkState AttemptId R).record := by
  refine ⟨?_, rfl, ?_, ?_, ?_, ?_, ?_⟩ <;>
    simp [WorkState.pending, WorkState.record, DeliveryAndJobState.phase]

/-! ## Deliveries and jobs -/

theorem consumerDeliveryOutcome_ok {delivery : ConsumerDelivery} {completedAt : Instant}
    {completion : ConsumerDeliveryCompletion} {outcome : Outcome Unit}
    (h : consumerDeliveryOutcome delivery completedAt completion = .ok outcome) :
    outcome.state ≠ .leased ∧
      (outcome.attemptState = .succeeded → outcome.state = .succeeded) := by
  cases completion with
  | succeeded =>
    obtain rfl := pure_eq_ok.mp h
    simp
  | cancelled reasonCode =>
    simp only [consumerDeliveryOutcome, bind_eq_ok, pure_eq_ok] at h
    obtain ⟨_, -, rfl⟩ := h
    simp
  | retry retryAt failure =>
    simp only [consumerDeliveryOutcome, bind_eq_ok] at h
    obtain ⟨_, -, h⟩ := h
    split at h
    · simp only [bind_eq_ok, pure_eq_ok] at h
      obtain ⟨_, -, rfl⟩ := h
      simp
    · obtain rfl := pure_eq_ok.mp h
      simp
  | dead_lettered failure =>
    simp only [consumerDeliveryOutcome, bind_eq_ok, pure_eq_ok] at h
    obtain ⟨_, -, rfl⟩ := h
    simp

theorem jobOutcome_ok {job : JobRecord} {completedAt : Instant} {completion : JobCompletion}
    {outcome : Outcome (Option PayloadRef)} (h : jobOutcome job completedAt completion = .ok outcome) :
    outcome.state ≠ .leased ∧
      (outcome.attemptState = .succeeded → outcome.state = .succeeded) := by
  cases completion with
  | succeeded resultRef =>
    obtain rfl := pure_eq_ok.mp h
    simp
  | cancelled reasonCode =>
    simp only [jobOutcome, bind_eq_ok, pure_eq_ok] at h
    obtain ⟨_, -, rfl⟩ := h
    simp
  | retry retryAt failure =>
    simp only [jobOutcome, bind_eq_ok] at h
    obtain ⟨_, -, _, -, h⟩ := h
    split at h
    · simp only [bind_eq_ok, pure_eq_ok] at h
      obtain ⟨_, -, rfl⟩ := h
      simp
    · obtain rfl := pure_eq_ok.mp h
      simp
  | dead_lettered failure =>
    simp only [jobOutcome, bind_eq_ok, pure_eq_ok] at h
    obtain ⟨_, -, rfl⟩ := h
    simp

theorem consumerDelivery_machine :
    LeaseMachine ConsumerDelivery.toWorkState stepConsumerDelivery where
  claim {s input t} h := by
    simp only [stepConsumerDelivery, claimConsumerDelivery, bind_eq_ok, require_eq_ok, pure_eq_ok,
      exists_const] at h
    obtain ⟨_, -, _, -, _, -, hstate, -, -, -, hfresh, work, hwork, rfl⟩ := h
    exact ⟨hstate, hfresh, hwork⟩
  complete {s fence completedAt completion t} h := by
    simp only [stepConsumerDelivery, completeConsumerDelivery, bind_eq_ok, pure_eq_ok,
      Prod.exists] at h
    obtain ⟨i, running, hleased, outcome, houtcome, work, hwork, rfl⟩ := h
    obtain ⟨hreleased, hsettled⟩ := consumerDeliveryOutcome_ok houtcome
    exact ⟨_, _, i, running, outcome, hleased, hreleased, hsettled, hwork⟩
  lostFence {s attemptId observedAt t} h := by
    simp only [stepConsumerDelivery, recordConsumerAttemptLostFence, bind_eq_ok, pure_eq_ok] at h
    obtain ⟨work, hwork, rfl⟩ := h
    exact ⟨_, _, hwork⟩

theorem job_machine : LeaseMachine JobRecord.toWorkState stepJob where
  claim {s input t} h := by
    simp only [stepJob, claimJob, bind_eq_ok, require_eq_ok, pure_eq_ok, exists_const] at h
    obtain ⟨_, -, _, -, _, -, hstate, -, -, -, -, hfresh, work, hwork, rfl⟩ := h
    exact ⟨hstate, hfresh, hwork⟩
  complete {s fence completedAt completion t} h := by
    simp only [stepJob, completeJob, bind_eq_ok, pure_eq_ok, Prod.exists] at h
    obtain ⟨i, running, hleased, outcome, houtcome, work, hwork, rfl⟩ := h
    obtain ⟨hreleased, hsettled⟩ := jobOutcome_ok houtcome
    exact ⟨_, _, i, running, outcome, hleased, hreleased, hsettled, hwork⟩
  lostFence {s attemptId observedAt t} h := by
    simp only [stepJob, recordJobAttemptLostFence, bind_eq_ok, pure_eq_ok] at h
    obtain ⟨work, hwork, rfl⟩ := h
    exact ⟨_, _, hwork⟩

theorem attempts_stepJob {job next : JobRecord} {command : WorkCommand InvocationId JobCompletion}
    (h : stepJob job command = .ok next) (hlength : job.attempts.length ≤ job.maximumAttempts) :
    next.attempts.length ≤ next.maximumAttempts ∧ next.maximumAttempts = job.maximumAttempts := by
  cases command with
  | claim input =>
    simp only [stepJob, claimJob, WorkState.claim, bind_eq_ok, require_eq_ok, pure_eq_ok,
      exists_const] at h
    obtain ⟨_, -, _, -, _, -, -, -, -, -, hlimit, -, _, ⟨_, -, _, -, _, -, rfl⟩, rfl⟩ := h
    exact ⟨by simpa [Nat.succ_le_iff] using hlimit, rfl⟩
  | complete fence completedAt completion =>
    simp only [stepJob, completeJob, WorkState.finish, bind_eq_ok, pure_eq_ok, Prod.exists] at h
    obtain ⟨_, _, -, _, -, _, ⟨_, -, rfl⟩, rfl⟩ := h
    exact ⟨by simpa using hlength, rfl⟩
  | recordLostFence invocationId observedAt =>
    simp only [stepJob, recordJobAttemptLostFence, WorkState.recordLostFence, bind_eq_ok,
      pure_eq_ok, Prod.exists] at h
    obtain ⟨_, ⟨_, _, -, _, -, _, -, _, -, _, -, rfl⟩, rfl⟩ := h
    exact ⟨by simpa using hlength, rfl⟩

theorem createJob_ok {input : CreateJobInput} {job : JobRecord} (h : createJob input = .ok job) :
    job.toWorkState = .pending input.availableAt ∧
      job.maximumAttempts = input.definition.maximumAttempts := by
  simp only [createJob, bind_eq_ok, pure_eq_ok] at h
  obtain ⟨_, -, rfl⟩ := h
  exact ⟨rfl, rfl⟩

/-- Whatever workers ask of a delivery or of a job, its leases are fenced. A job moreover
never has more attempts than its definition allows. -/
theorem lease_fencing :
    (∀ (draft : ConsumerDeliveryDraft) (id : ConsumerDeliveryId)
        (commands : List (WorkCommand ConsumerAttemptId ConsumerDeliveryCompletion)),
      Fencing ConsumerDelivery.toWorkState stepConsumerDelivery
        (run stepConsumerDelivery (materializeConsumerDelivery draft id) commands)) ∧
    ∀ (input : CreateJobInput) (job : JobRecord)
        (commands : List (WorkCommand InvocationId JobCompletion)), createJob input = .ok job →
      Fencing JobRecord.toWorkState stepJob (run stepJob job commands) ∧
        (run stepJob job commands).attempts.length ≤ input.definition.maximumAttempts := by
  refine ⟨fun draft id commands => ?_, fun input job commands hcreate => ?_⟩
  · exact consumerDelivery_machine.fencing
      (consumerDelivery_machine.sound_run (sound_pending draft.pointer.availableAt) commands)
  · obtain ⟨hpending, hmaximum⟩ := createJob_ok hcreate
    have hsound : Lease.Sound AttemptFinish.Won job.record := by
      rw [hpending]
      exact sound_pending input.availableAt
    refine ⟨job_machine.fencing (job_machine.sound_run hsound commands), ?_⟩
    have hlimit : (run stepJob job commands).attempts.length ≤
        (run stepJob job commands).maximumAttempts ∧
        (run stepJob job commands).maximumAttempts = job.maximumAttempts := by
      refine run_induction (P := fun t => t.attempts.length ≤ t.maximumAttempts ∧
        t.maximumAttempts = job.maximumAttempts) (fun s command t h hstep => ?_) commands job
        ⟨by rw [hpending]; simp [WorkState.pending], rfl⟩
      obtain ⟨hlength, heq⟩ := attempts_stepJob hstep h.1
      exact ⟨hlength, heq.trans h.2⟩
    rw [← hmaximum, ← hlimit.2]
    exact hlimit.1

namespace JobExample

def ref : DefinitionRef := { key := ⟨"message.dispatch", by decide⟩, version := .one }

theorem matchesShape_digest : matchesShape (List.replicate 64 isHexChar)
    (String.ofList (List.replicate 64 'a')).toList = true := by
  decide

theorem isOpaqueKey_source : isOpaqueKey "src1_" 200 "src1_submission" = true := by decide

theorem isOpaqueKey_pointer : isOpaqueKey "ptr1_" 160 "ptr1_submission" = true := by decide

def input : CreateJobInput where
  id := .ofNat 1
  definition :=
    { key := ref.key, version := .one
      canonicalDigestSha256 := ⟨String.ofList (List.replicate 64 'a'), matchesShape_digest⟩
      inputProjection := ref, targetOperation := ref, capabilityRevisionId := .ofNat 2
      authorityCitation := ref, leaseDurationMs := 30000, maximumAttempts := 2, timeoutMs := 60000
      externalRetryPolicy := .anchor_inspection_only }
  registeredIdempotencyIdentity := "job"
  source :=
    { definition := { kind := .domain_fact, key := ref.key, version := .one }
      identity := ⟨"src1_submission", isOpaqueKey_source⟩, version := .one }
  inputRef := .ofNat 3
  availableAt := .yearStart 2026

/-- The instant `s` seconds after the start of 2027. -/
def at2027 (s : Fin 10) : Instant :=
  ⟨String.ofList ("2027-01-01T00:00:0".toList ++ [Char.ofNat (48 + s.val)] ++ ".000Z".toList), by
    revert s; decide⟩

def commands : List (WorkCommand InvocationId JobCompletion) :=
  [.claim { attemptId := .ofNat 4, ownerKey := "a", now := at2027 1, leaseExpiresAt := at2027 9 },
   .complete Version.one (at2027 2) (.retry (at2027 3) { code := "busy", classification := .transient }),
   .claim { attemptId := .ofNat 5, ownerKey := "b", now := at2027 4, leaseExpiresAt := at2027 9 },
   .complete Version.one (at2027 5) (.succeeded none),
   .complete ⟨2, isPositiveSafe_two⟩ (at2027 6) (.succeeded none)]

def outcome : Except ReliabilityError Unit := do
  let job ← createJob input
  let last := run stepJob job commands
  require (last.state = .succeeded ∧ last.version.val = 5) (.type "")

theorem outcome_succeeds : outcome.toBool = true := by decide +kernel

example : ((createJob input).map fun job => (stepJob (run stepJob job (commands.take 3))
      (.complete Version.one (at2027 5) (.succeeded none))).toBool).toOption = some false := by
  decide +kernel

end JobExample

/-- A job that is tried twice. A completion under the fence of the first attempt comes too
late. -/
theorem lease_fencing_two_attempts :
    ∃ job, createJob JobExample.input = .ok job ∧
      (run stepJob job JobExample.commands).state = .succeeded ∧
      (run stepJob job JobExample.commands).attempts.length ≤ 2 ∧
      (run stepJob job JobExample.commands).Fenced := by
  obtain ⟨_, h⟩ := exists_of_toBool JobExample.outcome_succeeds
  simp only [JobExample.outcome, bind_eq_ok, require_eq_ok] at h
  obtain ⟨job, hjob, hstate, -⟩ := h
  obtain ⟨hfencing, hlength⟩ := lease_fencing.2 JobExample.input job JobExample.commands hjob
  exact ⟨job, hjob, hstate, hlength, hfencing.fenced⟩

end JooEvents
