import JooEvents.Lib.Keyed
import JooEvents.Lib.Related
import JooEvents.Reliability.Fencing

/-!
# The retry budget of a delivery

An attempt that lost its lease to another worker does not count against the attempts that a
delivery may take. Whether it counts is read off the attempts, where it is running until somebody
records that it has lost its fence. A claim leaves out the attempt whose lease it takes over, and
an earlier attempt that nobody has recorded counts (`budget_counts_unrecorded`).

A delivery and one with more recordings stay alike (`Alike`) as long as the unrecorded attempts do
not decide a claim or a retry (`BudgetSettled`). Runs that keep to that answer alike with any
recordings and without (`lost_attempts_unbudgeted`).
-/

namespace JooEvents

open Fallible

/-! ## What counts -/

abbrev ConsumerCommand := WorkCommand ConsumerAttemptId ConsumerDeliveryCompletion

abbrev ConsumerAttempt := WorkAttempt ConsumerAttemptId Unit

/-- A command that records an attempt, and does not claim or complete. -/
def WorkCommand.isRecording {AttemptId Completion : Type} : WorkCommand AttemptId Completion → Bool
  | .recordLostFence _ _ => true
  | .claim _ | .complete _ _ _ => false

/-- An attempt that ended, and not by losing its fence. -/
def WorkAttempt.isSpent (attempt : ConsumerAttempt) : Bool :=
  attempt.finish.any fun finish => finish.state ≠ .lost_fence

namespace ConsumerDelivery

def spentAttempts (delivery : ConsumerDelivery) : ℕ :=
  delivery.attempts.countP (·.isSpent)

def isUnrecorded (delivery : ConsumerDelivery) (attempt : ConsumerAttempt) : Bool :=
  attempt.finish.isNone && !(delivery.lease.any fun lease => lease.attemptId = attempt.id)

/-- The attempts that have lost their fence and are not recorded to. -/
def unrecordedAttempts (delivery : ConsumerDelivery) : ℕ :=
  delivery.attempts.countP delivery.isUnrecorded

/-- The unrecorded attempts do not decide a claim or a retry : with them there is an attempt left,
or without them there is none. -/
def BudgetSettled (delivery : ConsumerDelivery) : ConsumerCommand → Prop
  | .claim _ =>
    delivery.spentAttempts + delivery.unrecordedAttempts < delivery.maximumAttempts ∨
      delivery.maximumAttempts ≤ delivery.spentAttempts
  | .complete _ _ (.retry _ _) =>
    delivery.spentAttempts + delivery.unrecordedAttempts + 1 < delivery.maximumAttempts ∨
      delivery.maximumAttempts ≤ delivery.spentAttempts + 1
  | .complete _ _ _ | .recordLostFence _ _ => True

instance (delivery : ConsumerDelivery) (command : ConsumerCommand) :
    Decidable (delivery.BudgetSettled command) :=
  match command with
  | .claim _ => inferInstanceAs (Decidable (_ ∨ _))
  | .complete _ _ (.retry _ _) => inferInstanceAs (Decidable (_ ∨ _))
  | .complete _ _ .succeeded | .complete _ _ (.dead_lettered _) | .complete _ _ (.cancelled _)
  | .recordLostFence _ _ => .isTrue trivial

/-- What a worker sees of a delivery besides the attempts : the state, the fence, the lease and the
next action. -/
def face (delivery : ConsumerDelivery) :
    DeliveryAndJobState × Option LeaseFence × Option (WorkLease ConsumerAttemptId) ×
      Option Instant :=
  (delivery.state, delivery.currentFence, delivery.lease, delivery.nextActionAt)

abbrev IsSound (delivery : ConsumerDelivery) : Prop :=
  Lease.Sound AttemptFinish.Won delivery.record

variable {delivery : ConsumerDelivery}

theorem IsSound.leased (h : delivery.IsSound) {lease : WorkLease ConsumerAttemptId}
    (hlease : delivery.lease = some lease) :
    ∃ before last, delivery.attempts = before ++ [last] ∧ last.id = lease.attemptId ∧
      last.finish = none ∧ delivery.currentFence = some last.fence ∧
      (∀ attempt ∈ before, attempt.id ≠ lease.attemptId) ∧
      findRunning delivery.attempts lease.attemptId = some (before.length, last) := by
  have hfenced := WorkState.fenced_of_sound h
  obtain ⟨-, last, hlast, hid, -, hrunning⟩ := hfenced.lease lease hlease
  obtain ⟨before, hattempts⟩ : ∃ before, delivery.attempts = before ++ [last] :=
    ⟨_, (List.dropLast_append_getLast? last hlast).symm⟩
  have hids : (delivery.attempts.map (·.id)).Nodup := by
    have hids := h.ids
    simpa [WorkState.record, Function.comp_def, WorkAttempt.attempt] using hids
  have hfence := hfenced.currentFence
  rw [hattempts] at hids hfence
  rw [List.map_append, List.nodup_append] at hids
  have hne : ∀ attempt ∈ before, attempt.id ≠ lease.attemptId := fun attempt hattempt =>
    hid ▸ hids.2.2 _ (List.mem_map_of_mem hattempt) _ (List.mem_singleton.mpr rfl)
  refine ⟨before, last, hattempts, hid.symm, hrunning, by simpa using hfence, hne, ?_⟩
  have hindex : (delivery.attempts.findIdx? fun attempt =>
      attempt.id = lease.attemptId ∧ attempt.finish.isNone) = some before.length := by
    rw [hattempts, List.findIdx?_eq_some_iff_getElem]
    refine ⟨by simp, by simp [hid, hrunning], fun j hj => ?_⟩
    have hmem : before[j] ∈ before := List.getElem_mem hj
    rw [List.getElem_append_left hj]
    simp [hne _ hmem]
  rw [findRunning, hindex]
  simp [hattempts]

theorem countP_eq_add {α : Type} {p q r : α → Bool} {l : List α}
    (h : ∀ a ∈ l, p a = (q a || r a) ∧ (q a && r a) = false) :
    l.countP p = l.countP q + l.countP r := by
  induction l with
  | nil => rfl
  | cons a l ih =>
    obtain ⟨hp, hqr⟩ := h a (List.mem_cons_self ..)
    rw [List.countP_cons, List.countP_cons, List.countP_cons,
      ih fun b hb => h b (List.mem_cons_of_mem _ hb), hp]
    cases hq : q a <;> cases hr : r a <;> simp_all <;> omega

theorem counts_iff {attempt : ConsumerAttempt}
    (hlease : (delivery.lease.any fun lease => lease.attemptId = attempt.id) = false) :
    decide (attempt.finish.map (·.state) ≠ some .lost_fence) =
        (attempt.isSpent || delivery.isUnrecorded attempt) ∧
      (attempt.isSpent && delivery.isUnrecorded attempt) = false := by
  rw [WorkAttempt.isSpent, isUnrecorded, hlease]
  cases attempt.finish <;> simp

theorem IsSound.countConsumerPolicyAttempts_eq (h : delivery.IsSound) :
    countConsumerPolicyAttempts delivery.attempts =
      delivery.spentAttempts + delivery.unrecordedAttempts +
        (if delivery.lease.isSome then 1 else 0) := by
  cases hlease : delivery.lease with
  | none =>
    exact countP_eq_add fun attempt _ => counts_iff (by rw [hlease]; rfl)
  | some lease =>
    obtain ⟨before, last, hattempts, hid, hrunning, -, hne, -⟩ := h.leased hlease
    have hbefore : countConsumerPolicyAttempts before =
        before.countP (·.isSpent) + before.countP delivery.isUnrecorded :=
      countP_eq_add fun attempt hattempt => counts_iff (by
        rw [hlease]
        simpa using (hne attempt hattempt).symm)
    have hlast : delivery.isUnrecorded last = false := by simp [isUnrecorded, hlease, hid]
    rw [countConsumerPolicyAttempts] at hbefore
    rw [countConsumerPolicyAttempts, spentAttempts, unrecordedAttempts, hattempts,
      List.countP_append, List.countP_append, List.countP_append, hbefore]
    simp [WorkAttempt.isSpent, hrunning, hlast]

end ConsumerDelivery

/-! ## Deliveries that are alike -/

/-- An attempt that has lost its fence, and is not recorded to. -/
def WorkAttempt.Superseded (attempt : ConsumerAttempt) (current : Option LeaseFence) : Prop :=
  attempt.finish = none ∧ ∃ fence ∈ current, attempt.fence < fence

/-- An attempt as it is, or recorded to have lost its fence. -/
def RecordedAs (current : Option LeaseFence) (attempt recorded : ConsumerAttempt) : Prop :=
  recorded = attempt ∨ (attempt.Superseded current ∧ ∃ observedAt, recorded =
    { attempt with
      finish := some { state := .lost_fence, completedAt := observedAt, result := ()
                       failure := none } })

/-- A delivery, and the delivery with more attempts recorded. -/
structure Alike (delivery recorded : ConsumerDelivery) : Prop where
  draft : recorded.toConsumerDeliveryDraft = delivery.toConsumerDeliveryDraft
  id : recorded.id = delivery.id
  state : recorded.state = delivery.state
  currentFence : recorded.currentFence = delivery.currentFence
  lease : recorded.lease = delivery.lease
  nextActionAt : recorded.nextActionAt = delivery.nextActionAt
  version : delivery.version.val ≤ recorded.version.val
  attempts : List.Forall₂ (RecordedAs delivery.currentFence) delivery.attempts recorded.attempts

theorem Alike.refl (delivery : ConsumerDelivery) : Alike delivery delivery :=
  ⟨rfl, rfl, rfl, rfl, rfl, rfl, Nat.le_refl _, List.forall₂_same.mpr fun _ _ => .inl rfl⟩

theorem Alike.face {delivery recorded : ConsumerDelivery} (h : Alike delivery recorded) :
    delivery.face = recorded.face := by
  rw [ConsumerDelivery.face, ConsumerDelivery.face, h.state, h.currentFence, h.lease,
    h.nextActionAt]

section

variable {current : Option LeaseFence} {as bs : List ConsumerAttempt}

theorem RecordedAs.id_eq {a b : ConsumerAttempt} (h : RecordedAs current a b) : b.id = a.id := by
  obtain rfl | ⟨-, observedAt, rfl⟩ := h <;> rfl

theorem RecordedAs.isSpent_eq {a b : ConsumerAttempt} (h : RecordedAs current a b) :
    b.isSpent = a.isSpent := by
  obtain rfl | ⟨⟨hrunning, -⟩, observedAt, rfl⟩ := h
  · rfl
  · simp [WorkAttempt.isSpent, hrunning]

theorem RecordedAs.eq_of_running {a b : ConsumerAttempt} (h : RecordedAs current a b)
    (hrunning : b.finish = none) : b = a := by
  obtain rfl | ⟨-, observedAt, rfl⟩ := h
  · rfl
  · cases hrunning

theorem RecordedAs.eq_of_current {a b : ConsumerAttempt} (h : RecordedAs current a b)
    (hcurrent : current = some a.fence) : b = a := by
  obtain rfl | ⟨⟨-, fence, hfence, hlt⟩, -⟩ := h
  · rfl
  · rw [hcurrent] at hfence
    obtain rfl := Option.some.inj hfence
    exact absurd hlt (Nat.lt_irrefl _)

theorem RecordedAs.mono {current' : Option LeaseFence} {a b : ConsumerAttempt}
    (h : RecordedAs current a b) (hle : ∀ fence ∈ current, ∃ fence' ∈ current', fence ≤ fence') :
    RecordedAs current' a b := by
  obtain rfl | ⟨⟨hrunning, fence, hfence, hlt⟩, hrecorded⟩ := h
  · exact .inl rfl
  · obtain ⟨fence', hfence', hle⟩ := hle fence hfence
    exact .inr ⟨⟨hrunning, fence', hfence', lt_of_lt_of_le hlt hle⟩, hrecorded⟩

theorem countP_isSpent_of_recordedAs (h : List.Forall₂ (RecordedAs current) as bs) :
    bs.countP (·.isSpent) = as.countP (·.isSpent) := by
  induction h with
  | nil => rfl
  | cons hab _ ih => rw [List.countP_cons, List.countP_cons, hab.isSpent_eq, ih]

theorem countP_isUnrecorded_of_recordedAs {delivery recorded : ConsumerDelivery}
    (hlease : recorded.lease = delivery.lease) (h : List.Forall₂ (RecordedAs current) as bs) :
    bs.countP recorded.isUnrecorded ≤ as.countP delivery.isUnrecorded := by
  induction h with
  | nil => exact Nat.le_refl _
  | @cons a b _ _ hab _ ih =>
    have hle : recorded.isUnrecorded b = true → delivery.isUnrecorded a = true := by
      rw [ConsumerDelivery.isUnrecorded, ConsumerDelivery.isUnrecorded, hlease, Bool.and_eq_true]
      rintro ⟨hrunning, hother⟩
      rw [← hab.eq_of_running (Option.isNone_iff_eq_none.mp hrunning), hrunning, hother]
      rfl
    rw [List.countP_cons, List.countP_cons]
    split <;> split
    · omega
    · rename_i hb ha
      exact absurd (hle hb) ha
    · omega
    · omega

end

/-! ## Steps of deliveries that are alike -/

variable {delivery recorded : ConsumerDelivery}

theorem Alike.maximumAttempts (h : Alike delivery recorded) :
    recorded.maximumAttempts = delivery.maximumAttempts :=
  congrArg ConsumerDeliveryDraft.maximumAttempts h.draft

theorem Alike.spentAttempts (h : Alike delivery recorded) :
    recorded.spentAttempts = delivery.spentAttempts :=
  countP_isSpent_of_recordedAs h.attempts

theorem Alike.unrecordedAttempts (h : Alike delivery recorded) :
    recorded.unrecordedAttempts ≤ delivery.unrecordedAttempts :=
  countP_isUnrecorded_of_recordedAs h.lease h.attempts

theorem Alike.findRunning_eq (h : Alike delivery recorded) (hsound : delivery.IsSound)
    (hsound' : recorded.IsSound) {lease : WorkLease ConsumerAttemptId}
    (hlease : delivery.lease = some lease) :
    findRunning recorded.attempts lease.attemptId =
      findRunning delivery.attempts lease.attemptId := by
  obtain ⟨before, last, hattempts, -, -, hcurrent, -, hfound⟩ := hsound.leased hlease
  obtain ⟨before', last', hattempts', -, hrunning', -, -, hfound'⟩ :=
    hsound'.leased (h.lease.trans hlease)
  have hforall := h.attempts
  rw [hattempts, hattempts'] at hforall
  have hlength : before.length = before'.length := by simpa using hforall.length_eq
  obtain ⟨a, ha, hlast⟩ := exists_getElem?_of_forall₂ hforall (i := before'.length)
    List.getElem?_concat_length
  rw [← hlength, List.getElem?_concat_length] at ha
  obtain rfl := Option.some.inj ha
  rw [hfound, hfound', hlength, hlast.eq_of_current hcurrent]

theorem Alike.record (h : Alike delivery recorded) {attemptId : ConsumerAttemptId}
    {observedAt : Instant} {next : ConsumerDelivery}
    (hstep : recordConsumerAttemptLostFence recorded attemptId observedAt = .ok next) :
    Alike delivery next := by
  simp only [recordConsumerAttemptLostFence, WorkState.recordLostFence, bind_eq_ok, require_eq_ok,
    orRefuse_eq_ok, pure_eq_ok, assertNotBefore, nextWorkVersion, exists_const,
    Prod.exists] at hstep
  obtain ⟨work, ⟨i, attempt, hfound, current, hcurrent, hlost, -, version, hversion, rfl⟩, rfl⟩ :=
    hstep
  obtain ⟨hmem, -, hrunning⟩ := findRunning_eq_some hfound
  refine { h with version := ?_, attempts := ?_ }
  · have hnext := val_of_nextAggregateVersion hversion
    have hle := h.version
    simp only
    omega
  · obtain ⟨a, ha, hrecorded⟩ := exists_getElem?_of_forall₂ h.attempts hmem
    obtain rfl := hrecorded.eq_of_running hrunning
    exact forall₂_set_right h.attempts ha
      (.inr ⟨⟨hrunning, current, h.currentFence ▸ hcurrent, hlost⟩, observedAt, rfl⟩)

theorem related_nextWorkVersion {v w : Version} (hle : v.val ≤ w.val)
    (hroom : w.val < maxSafeInteger) :
    Related (fun a b : Version => a.val ≤ b.val) (nextWorkVersion v) (nextWorkVersion w) := by
  have hsafe : ∀ u : Version, u.val ≤ w.val → ∃ next : Version,
      nextWorkVersion u = .ok next ∧ next.val = u.val + 1 := by
    intro u hu
    have hpositive : IsPositiveSafe (u.val + 1) := ⟨by omega, by omega⟩
    exact ⟨⟨u.val + 1, hpositive⟩, by
      rw [nextWorkVersion, nextAggregateVersion, PositiveSafe.parse, dif_pos hpositive]
      rfl, rfl⟩
  obtain ⟨next, hnext, hval⟩ := hsafe v hle
  obtain ⟨next', hnext', hval'⟩ := hsafe w (Nat.le_refl _)
  rw [hnext, hnext']
  change next.val ≤ next'.val
  omega

theorem ConsumerDelivery.IsSound.attemptsBeforeClaim (h : delivery.IsSound) :
    countConsumerPolicyAttempts delivery.attempts -
      (if (if delivery.state = .leased then
          delivery.lease.bind fun lease => findRunning delivery.attempts lease.attemptId
        else none).isNone then 0 else 1) =
      delivery.spentAttempts + delivery.unrecordedAttempts := by
  have hleased := (WorkState.fenced_of_sound h).leased
  rw [h.countConsumerPolicyAttempts_eq]
  cases hlease : delivery.lease with
  | none =>
    rw [hlease] at hleased
    simp
  | some lease =>
    rw [hlease] at hleased
    obtain ⟨before, last, -, -, -, -, -, hfound⟩ := h.leased hlease
    simp [hleased, hfound]

theorem Alike.claim (h : Alike delivery recorded) (hsound : delivery.IsSound)
    (hsound' : recorded.IsSound) {input : ClaimConsumerDeliveryInput}
    (hsettled : delivery.BudgetSettled (.claim input))
    (hroom : recorded.version.val < maxSafeInteger) :
    Related Alike (claimConsumerDelivery delivery input)
      (claimConsumerDelivery recorded input) := by
  have hbudget : delivery.spentAttempts + delivery.unrecordedAttempts < delivery.maximumAttempts ↔
      delivery.spentAttempts + recorded.unrecordedAttempts < delivery.maximumAttempts := by
    have hle := h.unrecordedAttempts
    rcases hsettled with hlt | hge <;> omega
  have hduplicate : (∀ attempt ∈ delivery.attempts, attempt.id ≠ input.attemptId) ↔
      ∀ attempt ∈ recorded.attempts, attempt.id ≠ input.attemptId :=
    Keyed.forall_mem_iff_of_forall₂ (fun _ _ hab => by rw [hab.id_eq]) h.attempts
  simp only [claimConsumerDelivery, hsound.attemptsBeforeClaim, hsound'.attemptsBeforeClaim,
    h.spentAttempts]
  rw [h.draft, h.state, h.lease, h.nextActionAt]
  refine related_bind_same fun _ _ => related_bind_same fun _ _ => related_bind_same fun _ _ =>
    related_bind_same fun _ _ => related_bind_same fun _ _ => related_bind_same fun _ _ =>
    .bind (fun _ _ _ => .bind (fun _ _ _ => ?_) (related_require hduplicate))
      (related_require hbudget)
  simp only [WorkState.claim, bind_assoc, pure_bind, h.currentFence, ← h.attempts.length_eq]
  refine related_bind_same fun fence hfence => related_bind_same fun number _ =>
    .bind (fun version version' hle => ?_) (related_nextWorkVersion h.version hroom)
  -- the fence of a claim is above the one before it
  have hmono : ∀ old ∈ delivery.currentFence, ∃ new ∈ some fence, old ≤ new := by
    intro old hold
    rw [nextFence, orRefuse_eq_ok, PositiveSafe.parse_eq_some, Option.mem_def.mp hold] at hfence
    refine ⟨fence, rfl, ?_⟩
    change old.val ≤ fence.val
    rw [hfence]
    exact Nat.le_succ _
  exact ⟨rfl, h.id, rfl, rfl, rfl, rfl, hle, List.rel_append
    (h.attempts.imp fun _ _ hab => hab.mono hmono) (.cons (.inl rfl) .nil)⟩

theorem Alike.outcome (h : Alike delivery recorded) (hsound : delivery.IsSound)
    (hsound' : recorded.IsSound) (hleased : delivery.lease.isSome) {fence : LeaseFence}
    {completedAt : Instant} {completion : ConsumerDeliveryCompletion}
    (hsettled : delivery.BudgetSettled (.complete fence completedAt completion)) :
    consumerDeliveryOutcome recorded completedAt completion =
      consumerDeliveryOutcome delivery completedAt completion := by
  cases completion with
  | retry retryAt failure =>
    have hbudget : countConsumerPolicyAttempts recorded.attempts < recorded.maximumAttempts ↔
        countConsumerPolicyAttempts delivery.attempts < delivery.maximumAttempts := by
      have hle := h.unrecordedAttempts
      rw [hsound.countConsumerPolicyAttempts_eq, hsound'.countConsumerPolicyAttempts_eq, h.lease,
        if_pos hleased, h.spentAttempts, h.maximumAttempts]
      rcases hsettled with hlt | hge <;> omega
    simp only [consumerDeliveryOutcome, hbudget]
  | succeeded | dead_lettered _ | cancelled _ => rfl

theorem Alike.complete (h : Alike delivery recorded) (hsound : delivery.IsSound)
    (hsound' : recorded.IsSound) {fence : LeaseFence} {completedAt : Instant}
    {completion : ConsumerDeliveryCompletion}
    (hsettled : delivery.BudgetSettled (.complete fence completedAt completion))
    (hroom : recorded.version.val < maxSafeInteger) :
    Related Alike (completeConsumerDelivery delivery fence completedAt completion)
      (completeConsumerDelivery recorded fence completedAt completion) := by
  have hfound : (recorded.lease.bind fun lease => findRunning recorded.attempts lease.attemptId) =
      delivery.lease.bind fun lease => findRunning delivery.attempts lease.attemptId := by
    rw [h.lease]
    cases hlease : delivery.lease with
    | none => rfl
    | some lease => exact h.findRunning_eq hsound hsound' hlease
  have hattempt : recorded.leasedAttempt "consumer delivery" "consumer" fence completedAt =
      delivery.leasedAttempt "consumer delivery" "consumer" fence completedAt := by
    rw [WorkState.leasedAttempt, hfound, h.state, h.currentFence, h.lease]
    rfl
  rw [completeConsumerDelivery, completeConsumerDelivery, hattempt]
  refine related_bind_same fun leased hleased => ?_
  obtain ⟨attemptIndex, running⟩ := leased
  obtain ⟨-, -, lease, hlease, -⟩ := delivery.leasedAttempt_ok hleased
  simp only
  rw [h.outcome hsound hsound' (Option.isSome_of_mem hlease) hsettled]
  refine related_bind_same fun outcome _ => ?_
  simp only [WorkState.finish, bind_assoc, pure_bind]
  refine .bind (fun version version' hle => ?_) (related_nextWorkVersion h.version hroom)
  exact ⟨h.draft, h.id, rfl, h.currentFence, rfl, rfl, hle,
    forall₂_set h.attempts attemptIndex (.inl rfl)⟩

/-! ## Runs -/

theorem Alike.step (h : Alike delivery recorded) (hsound : delivery.IsSound)
    (hsound' : recorded.IsSound) {command : ConsumerCommand}
    (hcommand : command.isRecording = false) (hsettled : delivery.BudgetSettled command)
    (hroom : recorded.version.val < maxSafeInteger) :
    Related Alike (stepConsumerDelivery delivery command)
      (stepConsumerDelivery recorded command) := by
  cases command with
  | claim input => exact h.claim hsound hsound' hsettled hroom
  | complete fence completedAt completion => exact h.complete hsound hsound' hsettled hroom
  | recordLostFence attemptId observedAt => cases hcommand

abbrev runConsumerDelivery (delivery : ConsumerDelivery) (commands : List ConsumerCommand) :
    ConsumerDelivery :=
  run stepConsumerDelivery delivery commands

def withoutRecordings (commands : List ConsumerCommand) : List ConsumerCommand :=
  commands.filter fun command => !command.isRecording

/-- Every claim and retry finds its budget settled without the recordings, and every command finds
a version left. -/
def SettledRun (delivery : ConsumerDelivery) (commands : List ConsumerCommand) : Prop :=
  ∀ (i : ℕ) (hi : i < commands.length),
    (runConsumerDelivery delivery (withoutRecordings (commands.take i))).BudgetSettled
        (commands.get ⟨i, hi⟩) ∧
      (runConsumerDelivery delivery (commands.take i)).version.val < maxSafeInteger

theorem ConsumerDelivery.IsSound.run (h : delivery.IsSound) (commands : List ConsumerCommand) :
    (runConsumerDelivery delivery commands).IsSound :=
  consumerDelivery_machine.sound_run h commands

theorem alike_take (hsound : delivery.IsSound) {commands : List ConsumerCommand}
    (hsettled : SettledRun delivery commands) :
    ∀ i ≤ commands.length, Alike
      (runConsumerDelivery delivery (withoutRecordings (commands.take i)))
      (runConsumerDelivery delivery (commands.take i))
  | 0, _ => .refl delivery
  | i + 1, hi => by
    have ih := alike_take hsound hsettled i (by omega)
    obtain ⟨hbudget, hroom⟩ := hsettled i hi
    rw [List.get_eq_getElem] at hbudget
    rw [List.take_succ_eq_append_getElem hi, withoutRecordings, List.filter_append]
    rw [runConsumerDelivery, runConsumerDelivery, run_append, run_append, run_singleton]
    cases hcommand : commands[i].isRecording with
    | false =>
      rw [List.filter_cons_of_pos (by simp [hcommand]), List.filter_nil, run_singleton]
      exact Related.getD ih (ih.step (hsound.run _) (hsound.run _) hcommand hbudget hroom)
    | true =>
      rw [List.filter_cons_of_neg (by simp [hcommand]), List.filter_nil]
      -- an accepted recording keeps the deliveries alike, and a refused one changes nothing
      obtain ⟨attemptId, observedAt, heq⟩ : ∃ attemptId observedAt,
          commands[i] = .recordLostFence attemptId observedAt := by
        cases h : commands[i] with
        | recordLostFence attemptId observedAt => exact ⟨_, _, rfl⟩
        | claim input => rw [h] at hcommand; cases hcommand
        | complete fence completedAt completion => rw [h] at hcommand; cases hcommand
      rw [heq]
      cases hstep : stepConsumerDelivery (run stepConsumerDelivery delivery (commands.take i))
          (.recordLostFence attemptId observedAt) with
      | ok next => exact ih.record hstep
      | error e => exact ih

instance (delivery : ConsumerDelivery) (commands : List ConsumerCommand) :
    Decidable (SettledRun delivery commands) :=
  inferInstanceAs (Decidable (∀ (i : ℕ) (_ : i < commands.length), _))

/-- In a run of commands whose steps find the budget settled, claims and completions are answered
alike with the recordings and without, and every state that is reached has the same state, fence,
lease and next action. -/
theorem lost_attempts_unbudgeted (draft : ConsumerDeliveryDraft) (id : ConsumerDeliveryId)
    (history commands : List ConsumerCommand)
    (hsettled : SettledRun (runConsumerDelivery (materializeConsumerDelivery draft id) history)
      commands) :
    let start := runConsumerDelivery (materializeConsumerDelivery draft id) history
    (∀ (i : ℕ) (hi : i < commands.length), (commands.get ⟨i, hi⟩).isRecording = false →
      (stepConsumerDelivery (runConsumerDelivery start (withoutRecordings (commands.take i)))
          (commands.get ⟨i, hi⟩)).map ConsumerDelivery.face =
        (stepConsumerDelivery (runConsumerDelivery start (commands.take i))
          (commands.get ⟨i, hi⟩)).map ConsumerDelivery.face) ∧
    ∀ i ≤ commands.length,
      (runConsumerDelivery start (withoutRecordings (commands.take i))).face =
        (runConsumerDelivery start (commands.take i)).face := by
  intro start
  have hstart : start.IsSound := ConsumerDelivery.IsSound.run (sound_pending _) history
  have halike := alike_take hstart hsettled
  refine ⟨fun i hi hcommand => ?_, fun i hi => (halike i hi).face⟩
  obtain ⟨hbudget, hroom⟩ := hsettled i hi
  exact Related.map_eq (fun _ _ h => h.face)
    ((halike i hi.le).step (hstart.run _) (hstart.run _) hcommand hbudget hroom)

namespace BudgetExample

open JobExample (ref at2027)

/-- A delivery that may take a number of attempts. -/
def attempting (maximumAttempts : ℕ) : ConsumerDelivery :=
  materializeConsumerDelivery
    { semanticKey := "delivery"
      pointer :=
        { key := ⟨"ptr1_submission", JobExample.isOpaqueKey_pointer⟩
          source := { kind := .domain_fact, key := ref.key, version := .one }
          sourceIdentity := ⟨"src1_submission", JobExample.isOpaqueKey_source⟩
          sourceVersion := .one
          availableAt := .yearStart 2026 }
      consumer := ref
      definitionDigestSha256 := ⟨String.ofList (List.replicate 64 'a'), JobExample.matchesShape_digest⟩
      targetOperation := ref
      inputProjection := ref
      capabilityRevisionId := .ofNat 2
      authorityCitation := ref
      maximumAttempts
      leaseDurationMs := 30000 }
    (.ofNat 1)

/-- A claim of a second, when the lease before it has expired. -/
def claim (second : Fin 9) : ConsumerCommand :=
  .claim { attemptId := .ofNat (10 + second.val), ownerKey := "a", now := at2027 second.castSucc
           leaseExpiresAt := at2027 second.succ }

/-- The first attempt is recorded to have lost its fence. -/
def recording : ConsumerCommand := .recordLostFence (.ofNat 11) (at2027 ⟨3, by decide⟩)

def retry : ConsumerCommand :=
  .complete ⟨2, isPositiveSafe_two⟩ (at2027 ⟨3, by decide⟩)
    (.retry (at2027 ⟨4, by decide⟩) { code := "busy", classification := .transient })

end BudgetExample

/-- Two leases of a delivery of one attempt expire, and whether a third worker gets it depends on
whether the first loss was recorded. So does whether the second attempt of a delivery of two is
tried again. -/
theorem budget_counts_unrecorded :
    (stepConsumerDelivery (runConsumerDelivery (BudgetExample.attempting 1)
        [BudgetExample.claim 1, BudgetExample.claim 2]) (BudgetExample.claim 3) =
      .error (.transition .attempt_limit "consumer delivery attempt limit reached")) ∧
    (stepConsumerDelivery (runConsumerDelivery (BudgetExample.attempting 1)
        [BudgetExample.claim 1, BudgetExample.claim 2, BudgetExample.recording])
      (BudgetExample.claim 3)).toBool = true ∧
    (runConsumerDelivery (BudgetExample.attempting 2)
      [BudgetExample.claim 1, BudgetExample.claim 2, BudgetExample.retry]).state = .dead_lettered ∧
    (runConsumerDelivery (BudgetExample.attempting 2) [BudgetExample.claim 1, BudgetExample.claim 2,
      BudgetExample.recording, BudgetExample.retry]).state = .retry_wait := by
  decide +kernel

/-- Three leases of a delivery of two attempts, with the first loss recorded and not. -/
theorem lost_attempts_unbudgeted_three_leases :
    (runConsumerDelivery (BudgetExample.attempting 2)
        [BudgetExample.claim 1, BudgetExample.claim 2, BudgetExample.claim 3]).face =
      (runConsumerDelivery (BudgetExample.attempting 2) [BudgetExample.claim 1,
        BudgetExample.claim 2, BudgetExample.recording, BudgetExample.claim 3]).face :=
  (lost_attempts_unbudgeted _ _ [] [BudgetExample.claim 1, BudgetExample.claim 2,
    BudgetExample.recording, BudgetExample.claim 3] (by decide +kernel)).2 4 (Nat.le_refl 4)

end JooEvents
