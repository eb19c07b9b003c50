import JooEvents.Communications.Delivery

/-!
# Attempts in flight

A delivery whose attempt is in flight leaves that state only by a settlement, and a settlement has
to pass the checks of the head table. One of them says that a resend is exhausted only after two
unknown acceptances. An ordinary resend comes after one, but a resend to a corrected address may
be the first attempt of which nothing is known.

`LedgerChange` is what a call can do. Every run keeps attempts in flight `InFlight`, and
`settles_iff` says when such an attempt can be settled. In runs that authorise a resend only after
an unknown acceptance every attempt can (`outbound_attempts_settle`) ; otherwise one may stay in
flight for ever (`corrected_resend_stuck`).
-/

namespace JooEvents

open Fallible

namespace OutboundEmailDeliveryLedger

variable {ledger ledger' : OutboundEmailDeliveryLedger} {call : OutboundDeliveryCall}
  {head head' : OutboundEmailDeliveryHead} {attempt attempt' : OutboundEmailDeliveryAttempt}

theorem putHead_eq_ok {row : OutboundEmailDeliveryHeadRow} :
    ledger.putHead row = .ok (ledger', head) ↔
      head.val = row ∧ ledger' = { ledger with heads := ledger.heads.set head } := by
  unfold putHead
  split_ifs with h
  · rw [Except.ok.injEq, Prod.mk.injEq]
    constructor
    · rintro ⟨rfl, rfl⟩
      exact ⟨rfl, rfl⟩
    · rintro ⟨rfl, rfl⟩
      exact ⟨rfl, rfl⟩
  · refine iff_of_false nofun ?_
    rintro ⟨rfl, -⟩
    exact h head.property

theorem putAttempt_eq_ok {row : OutboundEmailDeliveryAttemptRow} :
    ledger.putAttempt row = .ok (ledger', attempt) ↔
      attempt.val = row ∧ ledger' = { ledger with attempts := ledger.attempts.set attempt } := by
  unfold putAttempt
  split_ifs with h
  · rw [Except.ok.injEq, Prod.mk.injEq]
    constructor
    · rintro ⟨rfl, rfl⟩
      exact ⟨rfl, rfl⟩
    · rintro ⟨rfl, rfl⟩
      exact ⟨rfl, rfl⟩
  · refine iff_of_false nofun ?_
    rintro ⟨rfl, -⟩
    exact h attempt.property

/-! ## What a call can do -/

/-- A head says the same of its attempts. -/
structure SameAttempts (head head' : OutboundEmailDeliveryHead) : Prop where
  attempts : head'.val.attemptCount = head.val.attemptCount
  current : head'.val.currentAttemptId = head.val.currentAttemptId
  state : head'.val.state = head.val.state
  unknown : head'.val.unknownAttemptCount = head.val.unknownAttemptCount
  exhausted : head'.val.markedResendExhausted = head.val.markedResendExhausted

/-- A head is as it was, but for its lease and its receipt. -/
structure Keeps (head head' : OutboundEmailDeliveryHead) : Prop extends
    SameAttempts head head' where
  receipt : head.val.receiptId ≠ none → head'.val.receiptId ≠ none

/-- A head that no attempt was made for. -/
structure Fresh (head : OutboundEmailDeliveryHead) : Prop where
  attempts : head.val.attemptCount = 0
  current : head.val.currentAttemptId = none
  state : head.val.state = .pending
  unknown : head.val.unknownAttemptCount = 0
  exhausted : head.val.markedResendExhausted = false

/-- A resend to a corrected address is authorised. -/
def Authorises (call : OutboundDeliveryCall) (deliveryId : String) : Prop :=
  ∃ surroundings input, call = .recordAttemptStarted surroundings input ∧
    input.authorizedMarkedResend = some true ∧ input.deliveryId = deliveryId

/-- An attempt starts. -/
structure Starts (ledger : OutboundEmailDeliveryLedger) (call : OutboundDeliveryCall)
    (head head' : OutboundEmailDeliveryHead) (attempt : OutboundEmailDeliveryAttempt) : Prop where
  found : ledger.heads.get head'.val.deliveryId = some head
  new : ledger.attempts.get attempt.val.attemptId = none
  dispatchable : head.val.dispatchable = true
  delivery : attempt.val.deliveryId = head'.val.deliveryId
  started : attempt.val.state = .request_started
  number : attempt.val.attemptNumber = head.val.attemptCount + 1
  kind : attempt.val.attemptKind =
      requiredOutboundEmailAttemptKind head.val.unknownAttemptCount attempt.val.capabilities ∨
    attempt.val.attemptKind = .marked_resend ∧ head.val.state = .known_rejected_safe_retryable ∧
      Authorises call head'.val.deliveryId
  receipt : head'.val.receiptId ≠ none
  attempts : head'.val.attemptCount = head.val.attemptCount + 1
  current : head'.val.currentAttemptId = some attempt.val.attemptId
  state : head'.val.state = .request_started
  unknown : head'.val.unknownAttemptCount = head.val.unknownAttemptCount
  exhausted : head'.val.markedResendExhausted = head.val.markedResendExhausted

/-- A resend whose acceptance is unknown is the last attempt. -/
def exhausts (attempt : OutboundEmailDeliveryAttempt) : Bool :=
  attempt.val.state = .acceptance_unknown ∧ attempt.val.attemptKind = .marked_resend

/-- The current attempt is settled. -/
structure Ends (ledger : OutboundEmailDeliveryLedger) (head head' : OutboundEmailDeliveryHead)
    (attempt attempt' : OutboundEmailDeliveryAttempt) : Prop where
  found : ledger.heads.get head'.val.deliveryId = some head
  stored : ledger.attempts.get attempt'.val.attemptId = some attempt
  started : head.val.state = .request_started ∧ attempt.val.state = .request_started
  delivery : attempt.val.deliveryId = head'.val.deliveryId
  held : head.val.currentAttemptId = some attempt.val.attemptId
  row : ∃ input, attempt'.val = settledAttempt attempt.val input
  attempts : head'.val.attemptCount = head.val.attemptCount
  current : head'.val.currentAttemptId = head.val.currentAttemptId
  state : head'.val.state = attempt'.val.state
  ended : head'.val.state ≠ .request_started
  unknown : head'.val.unknownAttemptCount =
    head.val.unknownAttemptCount + if attempt'.val.state = .acceptance_unknown then 1 else 0
  exhausted : head'.val.markedResendExhausted =
    (head.val.markedResendExhausted || exhausts attempt')

/-- What a call does to the ledger. -/
inductive LedgerChange (ledger : OutboundEmailDeliveryLedger) (call : OutboundDeliveryCall) :
    OutboundEmailDeliveryLedger → Prop where
  | same : LedgerChange ledger call ledger
  | registered {head' : OutboundEmailDeliveryHead}
      (hnew : ledger.heads.get head'.val.deliveryId = none) (hfresh : Fresh head') :
      LedgerChange ledger call { ledger with heads := ledger.heads.set head' }
  | kept {head head' : OutboundEmailDeliveryHead}
      (hhead : ledger.heads.get head'.val.deliveryId = some head) (hkeeps : Keeps head head') :
      LedgerChange ledger call { ledger with heads := ledger.heads.set head' }
  | started {head head' : OutboundEmailDeliveryHead} {attempt : OutboundEmailDeliveryAttempt}
      (hstarts : Starts ledger call head head' attempt) :
      LedgerChange ledger call
        { heads := ledger.heads.set head', attempts := ledger.attempts.set attempt }
  | ended {head head' : OutboundEmailDeliveryHead} {attempt attempt' : OutboundEmailDeliveryAttempt}
      (hends : Ends ledger head head' attempt attempt') :
      LedgerChange ledger call
        { heads := ledger.heads.set head', attempts := ledger.attempts.set attempt' }

theorem LedgerChange.of_register {deliveryId : String} {references : OutboundDeliveryReferences}
    {createdAtMs : ℤ}
    (h : ledger.insertOutboundEmailDeliveryRegistration deliveryId references createdAtMs =
      .ok ledger') : LedgerChange ledger call ledger' := by
  simp only [insertOutboundEmailDeliveryRegistration, bind_eq_ok, require_eq_ok, pure_eq_ok,
    Prod.exists, putHead_eq_ok] at h
  obtain ⟨-, hnew, _, head', ⟨hrow, rfl⟩, rfl⟩ := h
  exact .registered (by rw [hrow]; exact hnew) (by constructor <;> rw [hrow])

theorem LedgerChange.of_link {deliveryId receiptId : String}
    (h : ledger.linkOutboundEmailDeliveryReceipt deliveryId receiptId = .ok ledger') :
    LedgerChange ledger call ledger' := by
  simp only [linkOutboundEmailDeliveryReceipt, bind_eq_ok, orRefuse_eq_ok, require_eq_ok,
    pure_eq_ok, Prod.exists, putHead_eq_ok] at h
  obtain ⟨head, hhead, -, -, _, head', ⟨hrow, rfl⟩, rfl⟩ := h
  have hkeeps : Keeps head head' := {
    state := by rw [hrow]
    current := by rw [hrow]
    attempts := by rw [hrow]
    unknown := by rw [hrow]
    exhausted := by rw [hrow]
    receipt := fun _ => by
      rw [hrow]
      exact Option.some_ne_none _ }
  exact .kept (by rw [hrow, KeyedMap.key_of_get hhead, hhead]) hkeeps

theorem keeps_of_lease {lease : Option OutboundDeliveryLease} {updatedAtMs : ℤ}
    (hrow : head'.val = { head.val with lease, updatedAtMs }) : Keeps head head' where
  state := by rw [hrow]
  current := by rw [hrow]
  attempts := by rw [hrow]
  unknown := by rw [hrow]
  exhausted := by rw [hrow]
  receipt h := by rwa [hrow]

theorem LedgerChange.of_claim {deliveryId claimId : String} {nowMs leaseMs : ℤ}
    {outcome : OutboundEmailDeliveryClaimOutcome}
    (h : ledger.claim deliveryId claimId nowMs leaseMs = .ok (ledger', outcome)) :
    LedgerChange ledger call ledger' := by
  simp only [claim, bind_eq_ok, require_eq_ok] at h
  obtain ⟨-, -, h⟩ := h
  cases hhead : ledger.heads.get deliveryId with
  | none =>
    simp only [hhead, pure_eq_ok, Prod.mk.injEq] at h
    rw [← h.1]
    exact .same
  | some head =>
    simp only [hhead] at h
    split_ifs at h
    · simp only [bind_eq_ok, pure_eq_ok, Prod.exists, putHead_eq_ok, Prod.mk.injEq] at h
      obtain ⟨_, head', ⟨hrow, rfl⟩, rfl, -⟩ := h
      exact .kept (by rw [hrow, KeyedMap.key_of_get hhead, hhead]) (keeps_of_lease hrow)
    · rw [pure_eq_ok, Prod.mk.injEq] at h
      rw [← h.1]
      exact .same
    · rw [pure_eq_ok, Prod.mk.injEq] at h
      rw [← h.1]
      exact .same

theorem LedgerChange.of_releaseClaim {deliveryId claimId : String} {nowMs : ℤ}
    (h : ledger.releaseClaim deliveryId claimId nowMs = .ok ledger') :
    LedgerChange ledger call ledger' := by
  unfold releaseClaim at h
  cases hhead : ledger.heads.get deliveryId with
  | none =>
    simp only [hhead, Except.ok.injEq] at h
    rw [← h]
    exact .same
  | some head =>
    simp only [hhead] at h
    split_ifs at h
    · simp only [bind_eq_ok, pure_eq_ok, Prod.exists, putHead_eq_ok] at h
      obtain ⟨_, head', ⟨hrow, rfl⟩, rfl⟩ := h
      exact .kept (by rw [hrow, KeyedMap.key_of_get hhead, hhead]) (keeps_of_lease hrow)
    · rw [Except.ok.injEq] at h
      rw [← h]
      exact .same

theorem authorizeKind_eq_ok {surroundings : DeliverySurroundings} {input : AttemptStartInput}
    {u : Unit} (h : authorizeKind surroundings input head = .ok u) :
    input.attemptKind =
        requiredOutboundEmailAttemptKind head.val.unknownAttemptCount input.capabilities ∨
      input.attemptKind = .marked_resend ∧ head.val.state = .known_rejected_safe_retryable ∧
        input.authorizedMarkedResend = some true := by
  simp only [authorizeKind, bind_eq_ok, require_eq_ok] at h
  obtain ⟨-, -, h⟩ := h
  split_ifs at h with hauthorized
  · obtain ⟨hmarked, hretryable, -⟩ := require_eq_ok.mp h
    exact .inr ⟨hmarked, hretryable, hauthorized⟩
  · exact .inl (require_eq_ok.mp h)

theorem LedgerChange.of_recordAttemptStarted {surroundings : DeliverySurroundings}
    {input : AttemptStartInput}
    (h : ledger.recordAttemptStarted surroundings input = .ok (ledger', attempt)) :
    LedgerChange ledger (.recordAttemptStarted surroundings input) ledger' := by
  simp only [recordAttemptStarted, insertAttempt, bind_eq_ok, orRefuse_eq_ok, require_eq_ok,
    pure_eq_ok, Prod.exists, putHead_eq_ok, putAttempt_eq_ok, Prod.mk.injEq] at h
  obtain ⟨digest, -, -, -, head, hhead, -, hreceipt, -, -, -, hdispatchable, u, hkind, -, -, _, _,
    ⟨-, ⟨hnew, -⟩, hattempt, rfl⟩, _, head', ⟨hrow, rfl⟩, rfl, rfl⟩ := h
  have hid : head'.val.deliveryId = input.deliveryId := by
    rw [hrow, ← KeyedMap.key_of_get hhead]
  exact .started {
    found := by rw [hid, hhead]
    new := by rw [hattempt]; exact hnew
    dispatchable := hdispatchable
    delivery := by rw [hattempt, hid]
    started := by rw [hattempt]
    number := by rw [hattempt]
    kind := by
      rw [hattempt]
      refine (authorizeKind_eq_ok hkind).imp_right ?_
      rintro ⟨hmarked, hretryable, hauthorized⟩
      exact ⟨hmarked, hretryable, surroundings, input, rfl, hauthorized, hid.symm⟩
    receipt := by rw [hrow]; exact hreceipt
    attempts := by rw [hrow]
    current := by rw [hrow, hattempt]
    state := by rw [hrow]
    unknown := by rw [hrow]
    exhausted := by rw [hrow] }

theorem LedgerChange.of_complete {surroundings : DeliverySurroundings}
    {input : AttemptCompletionInput} {completion : OutboundEmailAttemptCompletion}
    (hstate : input.state ≠ .request_started)
    (h : ledger.complete surroundings input = .ok (ledger', completion)) :
    LedgerChange ledger call ledger' := by
  simp only [complete, bind_eq_ok, orRefuse_eq_ok, require_eq_ok] at h
  obtain ⟨anchor, hanchor, -, -, attempt, hattempt, h⟩ := h
  rw [Option.filter_eq_some_iff] at hattempt
  have hid := KeyedMap.key_of_get hattempt.1
  split_ifs at h
  · simp only [bind_eq_ok, require_eq_ok, pure_eq_ok, Prod.mk.injEq] at h
    obtain ⟨-, -, rfl, -⟩ := h
    exact .same
  · simp only [bind_eq_ok, require_eq_ok, pure_eq_ok, Prod.exists, putHead_eq_ok,
      putAttempt_eq_ok, Prod.mk.injEq] at h
    obtain ⟨-, ⟨hanchored, hcurrent, hstarted⟩, _, attempt', ⟨hrow', rfl⟩, _, head', ⟨hrow, rfl⟩,
      -, -, -, -, rfl, -⟩ := h
    exact .ended {
      found := by rw [hrow, settledRow, KeyedMap.key_of_get hanchor, hanchor]
      stored := by rw [hrow', settledAttempt, hid, hattempt.1]
      started := ⟨hanchored, hstarted⟩
      delivery := by
        rw [hrow, settledRow, KeyedMap.key_of_get hanchor]
        simpa using hattempt.2
      held := by rw [hcurrent, hid]
      row := ⟨input, hrow'⟩
      attempts := by rw [hrow]; rfl
      current := by rw [hrow]; rfl
      state := by rw [hrow, hrow']; rfl
      ended := by rw [hrow]; exact hstate
      unknown := by rw [hrow, hrow']; rfl
      exhausted := by rw [hrow, exhausts, hrow']; rfl }

theorem completion_state_ne (settlement : AttemptSettlement)
    (deliveryId attemptId claimId : String) (completedAtMs : ℤ) :
    (settlement.completion deliveryId attemptId claimId completedAtMs).state ≠ .request_started ∧
      (settlement.completion deliveryId attemptId claimId completedAtMs).state ≠ .pending := by
  cases settlement with
  | ambiguous code => exact ⟨nofun, nofun⟩
  | reported outcome =>
    cases outcome with
    | accepted providerMessageId evidence => exact ⟨nofun, nofun⟩
    | known_rejected retryClass code evidence => cases retryClass <;> exact ⟨nofun, nofun⟩
    | acceptance_unknown reason evidence => exact ⟨nofun, nofun⟩

theorem ledgerChange_of_apply (h : ledger.apply call = .ok ledger') :
    LedgerChange ledger call ledger' := by
  cases call with
  | register deliveryId references createdAtMs => exact .of_register h
  | link deliveryId receiptId => exact .of_link h
  | claim deliveryId claimId nowMs leaseMs =>
    simp only [apply, map_eq_ok, Prod.exists] at h
    obtain ⟨_, outcome, h, rfl⟩ := h
    exact .of_claim h
  | releaseClaim deliveryId claimId nowMs => exact .of_releaseClaim h
  | recordAttemptStarted surroundings input =>
    simp only [apply, map_eq_ok, Prod.exists] at h
    obtain ⟨_, attempt, h, rfl⟩ := h
    exact .of_recordAttemptStarted h
  | settle surroundings settlement deliveryId attemptId claimId completedAtMs =>
    simp only [apply, map_eq_ok, Prod.exists] at h
    obtain ⟨_, completion, h, rfl⟩ := h
    exact .of_complete (completion_state_ne _ _ _ _ _).1 h

theorem ledgerChange_step : LedgerChange ledger call (ledger.step call) := by
  unfold step
  cases h : ledger.apply call with
  | ok ledger' => exact ledgerChange_of_apply h
  | error error => exact .same

/-! ## What is in flight -/

/-- The attempt of a delivery is in flight. -/
structure InFlight (ledger : OutboundEmailDeliveryLedger) (head : OutboundEmailDeliveryHead)
    (attempt : OutboundEmailDeliveryAttempt) : Prop where
  current : head.val.currentAttemptId = some attempt.val.attemptId
  stored : ledger.attempts.get attempt.val.attemptId = some attempt
  delivery : attempt.val.deliveryId = head.val.deliveryId
  started : attempt.val.state = .request_started
  receipt : head.val.receiptId ≠ none
  counted : head.val.unknownAttemptCount < head.val.attemptCount

/-- Every delivery whose request started has an attempt in flight. -/
def Sound (ledger : OutboundEmailDeliveryLedger) : Prop :=
  ∀ deliveryId head, ledger.heads.get deliveryId = some head →
    head.val.state = .request_started → ∃ attempt, InFlight ledger head attempt

/-- A resend that is in flight comes after an unknown acceptance. -/
def ResendsCounted (ledger : OutboundEmailDeliveryLedger) : Prop :=
  ∀ deliveryId head attempt, ledger.heads.get deliveryId = some head →
    head.val.state = .request_started → InFlight ledger head attempt →
    attempt.val.attemptKind = .marked_resend → 0 < head.val.unknownAttemptCount

theorem InFlight.unique (h : InFlight ledger head attempt) (h' : InFlight ledger head attempt') :
    attempt = attempt' := by
  have hid : attempt.val.attemptId = attempt'.val.attemptId :=
    Option.some.inj (h.current.symm.trans h'.current)
  have hstored := h.stored
  rw [hid, h'.stored] at hstored
  exact (Option.some.inj hstored).symm

theorem InFlight.kept (h : InFlight ledger head attempt) (hkeeps : Keeps head head')
    (hid : head'.val.deliveryId = head.val.deliveryId) :
    InFlight { ledger with heads := ledger.heads.set head' } head' attempt where
  current := by rw [hkeeps.current, h.current]
  stored := h.stored
  delivery := by rw [hid, h.delivery]
  started := h.started
  receipt := hkeeps.receipt h.receipt
  counted := by rw [hkeeps.unknown, hkeeps.attempts]; exact h.counted

theorem Starts.inFlight (h : Starts ledger call head head' attempt) :
    InFlight { heads := ledger.heads.set head', attempts := ledger.attempts.set attempt } head'
      attempt where
  current := h.current
  stored := by rw [KeyedMap.get_set, if_pos rfl]
  delivery := h.delivery
  started := h.started
  receipt := h.receipt
  counted := by
    have hle := head.property.unknownAttempts
    rw [h.unknown, h.attempts]
    omega

theorem InFlight.of_set (h : InFlight ledger head attempt) {heads}
    (hother : attempt'.val.attemptId ≠ attempt.val.attemptId) :
    InFlight { heads, attempts := ledger.attempts.set attempt' } head attempt where
  current := h.current
  stored := by rw [KeyedMap.get_set, if_neg hother, h.stored]
  delivery := h.delivery
  started := h.started
  receipt := h.receipt
  counted := h.counted

theorem Sound.change (hsound : Sound ledger) (h : LedgerChange ledger call ledger') :
    Sound ledger' := by
  intro deliveryId head hget hstate
  cases h with
  | same => exact hsound deliveryId head hget hstate
  | @registered head' _ hfresh =>
    rw [KeyedMap.get_set] at hget
    split_ifs at hget with hid
    · rw [← Option.some.inj hget, hfresh.state] at hstate
      cases hstate
    · obtain ⟨attempt, hattempt⟩ := hsound deliveryId head hget hstate
      exact ⟨attempt, { hattempt with }⟩
  | @kept old head' hold hkeeps =>
    rw [KeyedMap.get_set] at hget
    split_ifs at hget with hid
    · obtain rfl := Option.some.inj hget
      rw [hkeeps.state] at hstate
      obtain ⟨attempt, hattempt⟩ := hsound _ old hold hstate
      exact ⟨attempt, hattempt.kept hkeeps (KeyedMap.key_of_get hold).symm⟩
    · obtain ⟨attempt, hattempt⟩ := hsound deliveryId head hget hstate
      exact ⟨attempt, { hattempt with }⟩
  | @started old head' attempt hstarts =>
    rw [KeyedMap.get_set] at hget
    split_ifs at hget with hid
    · obtain rfl := Option.some.inj hget
      exact ⟨attempt, hstarts.inFlight⟩
    · obtain ⟨other, hother⟩ := hsound deliveryId head hget hstate
      refine ⟨other, hother.of_set fun heq => ?_⟩
      have hnew := hstarts.new
      rw [heq, hother.stored] at hnew
      cases hnew
  | @ended _ head' attempt attempt' hends =>
    rw [KeyedMap.get_set] at hget
    split_ifs at hget with hid
    · rw [← Option.some.inj hget] at hstate
      exact absurd hstate hends.ended
    · obtain ⟨other, hother⟩ := hsound deliveryId head hget hstate
      have hkey := KeyedMap.key_of_get hget
      refine ⟨other, hother.of_set fun heq => hid ?_⟩
      -- the attempts of other deliveries are others
      have hfound := hends.stored
      rw [heq, hother.stored] at hfound
      rw [← hends.delivery, ← Option.some.inj hfound, hother.delivery, hkey]

/-- The condition on a call : a resend to a corrected address is authorised only after an unknown
acceptance. -/
def ResendsAfterUnknown (ledger : OutboundEmailDeliveryLedger) : OutboundDeliveryCall → Prop
  | .recordAttemptStarted _ input => input.authorizedMarkedResend = some true →
    ∀ head, ledger.heads.get input.deliveryId = some head → 0 < head.val.unknownAttemptCount
  | _ => True

theorem Starts.counted (h : Starts ledger call head head' attempt)
    (hcall : ResendsAfterUnknown ledger call) (hmarked : attempt.val.attemptKind = .marked_resend) :
    0 < head'.val.unknownAttemptCount := by
  rw [h.unknown]
  rcases h.kind with hrequired | ⟨-, -, surroundings, input, rfl, hauthorized, hid⟩
  · rw [hmarked, requiredOutboundEmailAttemptKind] at hrequired
    split_ifs at hrequired with hpos
    exact hpos.1
  · exact hcall hauthorized head (by rw [hid, h.found])

theorem ResendsCounted.change (hsound : Sound ledger) (hcounted : ResendsCounted ledger)
    (hcall : ResendsAfterUnknown ledger call) (h : LedgerChange ledger call ledger') :
    ResendsCounted ledger' := by
  intro deliveryId head attempt hget hstate hflight hmarked
  -- a head that was there has the attempt that it had
  have hsame : ∀ old, ledger.heads.get old.val.deliveryId = some old →
      old.val.state = .request_started →
      (∀ other, InFlight ledger old other → InFlight ledger' head other) →
      0 < old.val.unknownAttemptCount := by
    intro old hold hstarted hlift
    obtain ⟨other, hother⟩ := hsound _ old hold hstarted
    obtain rfl := (hlift other hother).unique hflight
    exact hcounted _ old other hold hstarted hother hmarked
  cases h with
  | same => exact hcounted deliveryId head attempt hget hstate hflight hmarked
  | @registered head' _ hfresh =>
    rw [KeyedMap.get_set] at hget
    split_ifs at hget with hid
    · rw [← Option.some.inj hget, hfresh.state] at hstate
      cases hstate
    · exact hcounted deliveryId head attempt hget hstate { hflight with } hmarked
  | @kept old head' hold hkeeps =>
    rw [KeyedMap.get_set] at hget
    split_ifs at hget with hid
    · obtain rfl := Option.some.inj hget
      rw [hkeeps.state] at hstate
      have holdId := KeyedMap.key_of_get hold
      rw [hkeeps.unknown]
      refine hsame old (holdId ▸ hold) hstate fun other hother => ?_
      exact hother.kept hkeeps holdId.symm
    · exact hcounted deliveryId head attempt hget hstate { hflight with } hmarked
  | @started old head' started hstarts =>
    rw [KeyedMap.get_set] at hget
    split_ifs at hget with hid
    · obtain rfl := Option.some.inj hget
      obtain rfl := hstarts.inFlight.unique hflight
      exact hstarts.counted hcall hmarked
    · have hkey := KeyedMap.key_of_get hget
      refine hsame head (hkey ▸ hget) hstate fun other hother => hother.of_set fun heq => ?_
      have hnew := hstarts.new
      rw [heq, hother.stored] at hnew
      cases hnew
  | @ended _ head' old ended hends =>
    rw [KeyedMap.get_set] at hget
    split_ifs at hget with hid
    · rw [← Option.some.inj hget] at hstate
      exact absurd hstate hends.ended
    · have hkey := KeyedMap.key_of_get hget
      refine hsame head (hkey ▸ hget) hstate fun other hother => hother.of_set fun heq => hid ?_
      have hfound := hends.stored
      rw [heq, hother.stored] at hfound
      rw [← hends.delivery, ← Option.some.inj hfound, hother.delivery, hkey]

theorem sound_of_run {Permits : OutboundEmailDeliveryLedger → OutboundDeliveryCall → Prop}
    (h : OutboundDeliveryRun Permits ledger) : Sound ledger := by
  induction h with
  | initial => exact fun _ _ hget => nomatch hget
  | step _ _ ih => exact ih.change ledgerChange_step

theorem resendsCounted_of_run (h : OutboundDeliveryRun ResendsAfterUnknown ledger) :
    ResendsCounted ledger := by
  induction h with
  | initial => exact fun _ _ _ hget => nomatch hget
  | step hrun hcall ih => exact ih.change (sound_of_run hrun) hcall ledgerChange_step

/-! ## Settling -/

theorem InFlight.found (hflight : InFlight ledger head attempt) :
    (ledger.attempts.get attempt.val.attemptId).filter (fun attempt =>
      attempt.val.deliveryId = head.val.deliveryId) = some attempt := by
  rw [hflight.stored, Option.filter_some, if_pos]
  simp [hflight.delivery]

theorem checks_of_complete {surroundings : DeliverySurroundings} {input : AttemptCompletionInput}
    (hflight : InFlight ledger head attempt)
    (hget : ledger.heads.get input.deliveryId = some head)
    (hheld : head.val.heldBy input.claimId = true)
    (hattemptId : input.attemptId = attempt.val.attemptId)
    (h : ledger.complete surroundings input = .ok (ledger', { fenced := false, head := head' })) :
    (settledAttempt attempt.val input).Checks ∧
      (settledRow head.val attempt.val.attemptKind input.state input.completedAtMs).Checks := by
  have hdelivery := KeyedMap.key_of_get hget
  unfold complete at h
  rw [hget, orRefuse_some, ok_bind, hattemptId, ← hdelivery, hflight.found, orRefuse_some, ok_bind,
    if_neg (ne_of_eq_of_ne hheld (by decide : true ≠ false))] at h
  simp only [bind_eq_ok, require_eq_ok, Prod.exists, putAttempt_eq_ok, putHead_eq_ok] at h
  obtain ⟨-, -, -, -, _, attempt', ⟨hrow', -⟩, _, head', ⟨hrow, -⟩, -⟩ := h
  exact ⟨hrow' ▸ attempt'.property, hrow ▸ head'.property⟩

theorem complete_iff {surroundings : DeliverySurroundings} (input : AttemptCompletionInput)
    (hflight : InFlight ledger head attempt)
    (hget : ledger.heads.get input.deliveryId = some head)
    (hstarted : head.val.state = .request_started) (hheld : head.val.heldBy input.claimId = true)
    (hattemptId : input.attemptId = attempt.val.attemptId)
    (hsuppresses : surroundings.suppresses = true) (happends : surroundings.appends = true) :
    (∃ ledger' head', ledger.complete surroundings input =
        .ok (ledger', { fenced := false, head := head' }) ∧
        ledger'.heads.get input.deliveryId = some head' ∧ head'.val.state = input.state) ↔
      (settledAttempt attempt.val input).Checks ∧
        (settledRow head.val attempt.val.attemptKind input.state input.completedAtMs).Checks := by
  have hdelivery := KeyedMap.key_of_get hget
  constructor
  · rintro ⟨ledger', head', h, -, -⟩
    exact checks_of_complete hflight hget hheld hattemptId h
  · rintro ⟨hattempt, hhead⟩
    refine ⟨{ heads := ledger.heads.set ⟨_, hhead⟩, attempts := ledger.attempts.set ⟨_, hattempt⟩ },
      ⟨_, hhead⟩, ?_, ?_, rfl⟩
    · unfold complete
      rw [hget, orRefuse_some, ok_bind, require_true hflight.receipt, ok_bind, hattemptId,
        ← hdelivery, hflight.found, orRefuse_some, ok_bind,
        if_neg (ne_of_eq_of_ne hheld (by decide : true ≠ false)),
        require_true ⟨hstarted, hflight.current, hflight.started⟩, ok_bind, putAttempt,
        dif_pos hattempt, ok_bind]
      dsimp only
      rw [putHead, dif_pos hhead, ok_bind]
      dsimp only
      rw [require_true fun _ => hsuppresses, ok_bind, require_true happends, ok_bind]
      rfl
    · rw [KeyedMap.get_set, if_pos]
      exact hdelivery

section

variable {surroundings : DeliverySurroundings} (settlement : AttemptSettlement)
  (deliveryId attemptId claimId : String) (completedAtMs : ℤ)

theorem completion_fields :
    (settlement.completion deliveryId attemptId claimId completedAtMs).deliveryId = deliveryId ∧
      (settlement.completion deliveryId attemptId claimId completedAtMs).attemptId = attemptId ∧
      (settlement.completion deliveryId attemptId claimId completedAtMs).claimId = claimId ∧
      (settlement.completion deliveryId attemptId claimId completedAtMs).completedAtMs =
        completedAtMs := by
  cases settlement <;> exact ⟨rfl, rfl, rfl, rfl⟩

theorem settledAttempt_checks_iff (attempt : OutboundEmailDeliveryAttempt) :
    (settledAttempt attempt.val
      (settlement.completion deliveryId attemptId claimId completedAtMs)).Checks ↔
      attempt.val.startedAtMs ≤ completedAtMs := by
  have hstate := completion_state_ne settlement deliveryId attemptId claimId completedAtMs
  obtain ⟨-, -, -, htime⟩ :=
    completion_fields settlement deliveryId attemptId claimId completedAtMs
  constructor
  · intro hchecks
    exact hchecks.completed completedAtMs (congrArg some htime)
  · intro hle
    exact {
      attemptNumber := attempt.property.attemptNumber
      state := hstate.2
      started := attempt.property.started
      completed := fun t ht => by
        obtain rfl := Option.some.inj ht
        rw [htime]
        exact hle
      resolved := .inr ⟨hstate.1, nofun⟩
      evidence := by
        rintro ⟨hevidence, hrecovery⟩
        cases settlement with
        | ambiguous code => exact hevidence rfl
        | reported outcome => exact hrecovery rfl
      message := by
        cases settlement with
        | ambiguous code => exact .inr rfl
        | reported outcome =>
          cases outcome with
          | accepted providerMessageId evidence => exact .inl rfl
          | known_rejected retryClass code evidence => exact .inr rfl
          | acceptance_unknown reason evidence => exact .inr rfl }

end

theorem settledRow_checks_iff {kind : OutboundEmailDeliveryAttemptKind}
    {state : OutboundEmailDeliveryState} {completedAtMs : ℤ}
    (hstarted : head.val.state = .request_started)
    (hcounted : head.val.unknownAttemptCount < head.val.attemptCount)
    (hstate : state ≠ .request_started ∧ state ≠ .pending) :
    (settledRow head.val kind state completedAtMs).Checks ↔
      head.val.createdAtMs ≤ completedAtMs ∧
        ¬ (state = .acceptance_unknown ∧ kind = .marked_resend ∧
          head.val.unknownAttemptCount = 0) := by
  have hhead := head.property
  have hattempts : 0 < head.val.attemptCount ∧ head.val.currentAttemptId ≠ none := by
    rcases hhead.attempts with ⟨hpending, -⟩ | ⟨-, hpos⟩
    · rw [hstarted] at hpending
      cases hpending
    · exact hpos
  constructor
  · intro hchecks
    refine ⟨hchecks.updated, ?_⟩
    rintro ⟨rfl, rfl, hzero⟩
    have hexhausted := hchecks.exhausted
    simp [settledRow, hzero] at hexhausted
  · rintro ⟨hcreated, hresend⟩
    exact {
      references := hhead.references
      version := Nat.succ_pos _
      unknownAttempts := by
        simp only [settledRow]
        split_ifs <;> omega
      attempts := .inr ⟨hstate.2, hattempts⟩
      exhausted := by
        simp only [settledRow, Bool.or_eq_false_iff, decide_eq_false_iff_not]
        rcases hhead.exhausted with hfalse | htwo
        · by_cases hunknown : state = .acceptance_unknown ∧ kind = .marked_resend
          · have hpos : head.val.unknownAttemptCount ≠ 0 := fun hzero =>
              hresend ⟨hunknown.1, hunknown.2, hzero⟩
            rw [if_pos hunknown.1]
            exact .inr (by omega)
          · exact .inl ⟨hfalse, hunknown⟩
        · exact .inr (by omega)
      lease := nofun
      inFlight := .inl hstate.1
      created := hhead.created
      updated := hcreated }

section

variable {surroundings : DeliverySurroundings} {deliveryId claimId : String} {completedAtMs : ℤ}

theorem settles_iff (hflight : InFlight ledger head attempt)
    (hget : ledger.heads.get deliveryId = some head)
    (hstarted : head.val.state = .request_started) (hheld : head.val.heldBy claimId = true)
    (hsuppresses : surroundings.suppresses = true) (happends : surroundings.appends = true)
    (settlement : AttemptSettlement) :
    let completion :=
      settlement.completion deliveryId attempt.val.attemptId claimId completedAtMs
    (∃ ledger' head', ledger.complete surroundings completion =
        .ok (ledger', { fenced := false, head := head' }) ∧
        ledger'.heads.get deliveryId = some head' ∧ head'.val.state = completion.state) ↔
      attempt.val.startedAtMs ≤ completedAtMs ∧ head.val.createdAtMs ≤ completedAtMs ∧
        ¬ (completion.state = .acceptance_unknown ∧
          attempt.val.attemptKind = .marked_resend ∧ head.val.unknownAttemptCount = 0) := by
  intro completion
  obtain ⟨hdelivery, hattemptId, hclaim, htime⟩ :=
    completion_fields settlement deliveryId attempt.val.attemptId claimId completedAtMs
  have hiff := complete_iff completion hflight (hdelivery.symm ▸ hget) hstarted
    (hclaim.symm ▸ hheld) hattemptId hsuppresses happends
  rw [hdelivery, settledAttempt_checks_iff, htime,
    settledRow_checks_iff hstarted hflight.counted (completion_state_ne _ _ _ _ _)] at hiff
  exact hiff

end

/-! ## Recovering -/

/-- The holder of the lease can settle the attempt in every way, once the tables take what it
writes and the time is not before the start. The head that is committed passes its checks. -/
def Settleable (ledger : OutboundEmailDeliveryLedger) (deliveryId : String)
    (head : OutboundEmailDeliveryHead) (attempt : OutboundEmailDeliveryAttempt) : Prop :=
  ∀ claimId surroundings (settlement : AttemptSettlement) completedAtMs,
    head.val.heldBy claimId = true → surroundings.suppresses = true →
    surroundings.appends = true → attempt.val.startedAtMs ≤ completedAtMs →
    head.val.createdAtMs ≤ completedAtMs →
    ∃ ledger' head', ledger.complete surroundings
        (settlement.completion deliveryId attempt.val.attemptId claimId completedAtMs) =
          .ok (ledger', { fenced := false, head := head' }) ∧
      ledger'.heads.get deliveryId = some head' ∧ head'.val.Checks ∧
      head'.val.state = (settlement.completion deliveryId attempt.val.attemptId claimId
        completedAtMs).state ∧ head'.val.state ≠ .request_started

/-- When the lease has lapsed, whoever claims the delivery can record that the result is lost. -/
def Recoverable (ledger : OutboundEmailDeliveryLedger) (deliveryId : String)
    (head : OutboundEmailDeliveryHead) (attempt : OutboundEmailDeliveryAttempt) : Prop :=
  ∀ claimId nowMs leaseMs surroundings completedAtMs,
    (∀ lease ∈ head.val.lease, lease.expiresAtMs ≤ nowMs) → 0 < leaseMs →
    surroundings.suppresses = true → surroundings.appends = true →
    attempt.val.startedAtMs ≤ completedAtMs → head.val.createdAtMs ≤ completedAtMs →
    ∃ head', ((ledger.step (.claim deliveryId claimId nowMs leaseMs)).step
        (.settle surroundings (.ambiguous .worker_result_lost) deliveryId attempt.val.attemptId
          claimId completedAtMs)).heads.get deliveryId = some head' ∧
      head'.val.state = .acceptance_unknown

section

variable {deliveryId : String}

theorem settleable (hflight : InFlight ledger head attempt)
    (hget : ledger.heads.get deliveryId = some head)
    (hstarted : head.val.state = .request_started)
    (hcounted : attempt.val.attemptKind = .marked_resend → 0 < head.val.unknownAttemptCount) :
    Settleable ledger deliveryId head attempt := by
  intro claimId surroundings settlement completedAtMs hheld hsuppresses happends hstart hcreated
  have hresend : ¬ (attempt.val.attemptKind = .marked_resend ∧
      head.val.unknownAttemptCount = 0) := by
    rintro ⟨hmarked, hzero⟩
    exact absurd (hcounted hmarked) (by omega)
  obtain ⟨ledger', head', hcomplete, hget', hstate⟩ :=
    (settles_iff hflight hget hstarted hheld hsuppresses happends settlement).mpr
      ⟨hstart, hcreated, fun h => hresend h.2⟩
  refine ⟨ledger', head', hcomplete, hget', head'.property, hstate, ?_⟩
  rw [hstate]
  exact (completion_state_ne _ _ _ _ _).1

theorem claim_lapsed (claimId : String) {nowMs leaseMs : ℤ}
    (hget : ledger.heads.get deliveryId = some head)
    (hstarted : head.val.state = .request_started)
    (hlapsed : ∀ lease ∈ head.val.lease, lease.expiresAtMs ≤ nowMs) (hlease : 0 < leaseMs) :
    ∃ claimed : OutboundEmailDeliveryHead, Keeps head claimed ∧
      claimed.val.deliveryId = head.val.deliveryId ∧
      claimed.val.createdAtMs = head.val.createdAtMs ∧ claimed.val.heldBy claimId = true ∧
      ledger.step (.claim deliveryId claimId nowMs leaseMs) =
        { ledger with heads := ledger.heads.set claimed } := by
  have hhead := head.property
  obtain ⟨lease, hsome⟩ := Option.ne_none_iff_exists'.mp (hhead.inFlight.resolve_left
    (not_not.mpr hstarted))
  have hpast := hhead.lease lease hsome
  have hexpired := hlapsed lease hsome
  let row : OutboundEmailDeliveryHeadRow := { head.val with
    lease := some { claimId, acquiredAtMs := nowMs, expiresAtMs := nowMs + leaseMs }
    updatedAtMs := max head.val.updatedAtMs nowMs }
  have hchecks : row.Checks := { hhead with
    lease := fun lease hlease' => by
      obtain rfl := Option.some.inj hlease'
      dsimp only
      omega
    inFlight := .inr nofun
    updated := hhead.updated.trans (le_max_left _ _) }
  refine ⟨⟨row, hchecks⟩, keeps_of_lease rfl, rfl, rfl, by simp [row,
    OutboundEmailDeliveryHeadRow.heldBy], ?_⟩
  have hclaimable : head.val.claimable nowMs = true :=
    decide_eq_true ⟨hlapsed, .inl hstarted⟩
  have happly : ledger.apply (.claim deliveryId claimId nowMs leaseMs) =
      .ok { ledger with heads := ledger.heads.set ⟨row, hchecks⟩ } := by
    rw [apply, claim, require_true hlease, ok_bind, hget]
    dsimp only
    rw [if_pos hclaimable, putHead, dif_pos hchecks, ok_bind]
    rfl
  rw [step, happly]

theorem recoverable (hflight : InFlight ledger head attempt)
    (hget : ledger.heads.get deliveryId = some head)
    (hstarted : head.val.state = .request_started)
    (hcounted : attempt.val.attemptKind = .marked_resend → 0 < head.val.unknownAttemptCount) :
    Recoverable ledger deliveryId head attempt := by
  intro claimId nowMs leaseMs surroundings completedAtMs hlapsed hlease hsuppresses happends hstart
    hcreated
  obtain ⟨claimed, hkeeps, hid, hcreatedAt, hheld, hstep⟩ :=
    claim_lapsed claimId hget hstarted hlapsed hlease
  have hkey := KeyedMap.key_of_get hget
  have hget' : (ledger.heads.set claimed).get deliveryId = some claimed := by
    rw [KeyedMap.get_set, if_pos (hid.trans hkey)]
  have hresend : ¬ (attempt.val.attemptKind = .marked_resend ∧
      claimed.val.unknownAttemptCount = 0) := by
    rintro ⟨hmarked, hzero⟩
    rw [hkeeps.unknown] at hzero
    exact absurd (hcounted hmarked) (by omega)
  obtain ⟨ledger', head', hcomplete, hfound, hstate⟩ :=
    (settles_iff (hflight.kept hkeeps hid) hget' (hkeeps.state.trans hstarted) hheld hsuppresses
      happends (.ambiguous .worker_result_lost)).mpr
      ⟨hstart, hcreatedAt.symm ▸ hcreated, fun h => hresend h.2⟩
  refine ⟨head', ?_, hstate⟩
  rw [hstep, step, apply, hcomplete]
  exact hfound

theorem settleable_iff (hflight : InFlight ledger head attempt)
    (hget : ledger.heads.get deliveryId = some head)
    (hstarted : head.val.state = .request_started) :
    Settleable ledger deliveryId head attempt ↔
      (attempt.val.attemptKind = .marked_resend → 0 < head.val.unknownAttemptCount) := by
  refine ⟨fun hsettles hmarked => ?_, settleable hflight hget hstarted⟩
  obtain ⟨lease, hlease⟩ := Option.ne_none_iff_exists'.mp (head.property.inFlight.resolve_left
    (not_not.mpr hstarted))
  have hheld : head.val.heldBy lease.claimId = true := by
    simp [OutboundEmailDeliveryHeadRow.heldBy, hlease]
  obtain ⟨ledger', head', hcomplete, hget', -, hstate, -⟩ :=
    hsettles lease.claimId ⟨true, true, true⟩ (.ambiguous .worker_result_lost)
      (max attempt.val.startedAtMs head.val.createdAtMs) hheld rfl rfl (le_max_left _ _)
      (le_max_right _ _)
  have hallowed := (settles_iff hflight hget hstarted hheld rfl rfl _).mp
    ⟨ledger', head', hcomplete, hget', hstate⟩
  by_contra hpos
  exact hallowed.2.2 ⟨rfl, hmarked, by omega⟩

/-- In every run that authorises a resend to a corrected address only after an unknown
acceptance, every attempt in flight can be settled by the holder of its lease, and recovered when
the lease has lapsed. -/
theorem outbound_attempts_settle (hrun : OutboundDeliveryRun ResendsAfterUnknown ledger)
    (hget : ledger.heads.get deliveryId = some head)
    (hstarted : head.val.state = .request_started) :
    ∃ attempt, InFlight ledger head attempt ∧ Settleable ledger deliveryId head attempt ∧
      Recoverable ledger deliveryId head attempt := by
  obtain ⟨attempt, hflight⟩ := sound_of_run hrun deliveryId head hget hstarted
  have hcounted := resendsCounted_of_run hrun deliveryId head attempt hget hstarted hflight
  exact ⟨attempt, hflight, settleable hflight hget hstarted hcounted,
    recoverable hflight hget hstarted hcounted⟩

end

end OutboundEmailDeliveryLedger

/-! ## A corrected address -/

namespace OutboundDeliveryExample

/-- A digest of the letter `a`. -/
def reviewedDigest : CanonicalSha256 :=
  ⟨"aaaaaaaaaaaaaaaaaaaaaaaaaaaaaaaaaaaaaaaaaaaaaaaaaaaaaaaaaaaaaaaa", by decide +kernel⟩

/-- A digest of the letter `b`. -/
def resentDigest : CanonicalSha256 :=
  ⟨"bbbbbbbbbbbbbbbbbbbbbbbbbbbbbbbbbbbbbbbbbbbbbbbbbbbbbbbbbbbbbbbb", by decide +kernel⟩

/-- The other tables have a corrected address and take what is written. -/
def correctedSurroundings : DeliverySurroundings := ⟨true, true, true⟩

/-- An attempt at the delivery, with a provider that tells deliveries apart by their keys. -/
def attemptStart (version : ℕ) (claimId attemptId : String) (startedAtMs : ℤ)
    (corrected : Bool) : AttemptStartInput where
  deliveryId := "delivery-1"
  expectedDeliveryVersion := version
  claimId := claimId
  leaseMs := 60000
  attemptId := attemptId
  attemptKind := if corrected then .marked_resend else .original
  authorizedMarkedResend := if corrected then some true else none
  resendEnvelopeDigestSha256 := if corrected then some resentDigest else none
  adapterKey := "adapter"
  adapterVersion := "1"
  capabilities := ⟨.native_key, .none, []⟩
  providerRequestDigestSha256 := reviewedDigest
  startedAtMs := startedAtMs

/-- The provider rejected the request and may be asked again. -/
def rejected : AttemptSettlement :=
  .reported (.known_rejected .safe_retryable "rate_limited" ⟨"rate_limited", "corr1_00000000",
    reviewedDigest, []⟩)

/-- The delivery is registered and claimed, and its first attempt starts. -/
def firstAttempt : OutboundEmailDeliveryLedger :=
  (((OutboundEmailDeliveryLedger.initial.step
    (.register "delivery-1" ⟨1, reviewedDigest, reviewedDigest, 1, 1, 1⟩ 1000)).step
    (.link "delivery-1" "receipt-1")).step
    (.claim "delivery-1" "claim-1" 2000 60000)).step
    (.recordAttemptStarted correctedSurroundings (attemptStart 1 "claim-1" "attempt-1" 2001 false))

/-- Nothing is known of the first attempt, and the second one is rejected. -/
def rejectedAfterUnknown : OutboundEmailDeliveryLedger :=
  (((firstAttempt.step (.settle correctedSurroundings (.ambiguous .provider_boundary_failure)
    "delivery-1" "attempt-1" "claim-1" 3000)).step
    (.claim "delivery-1" "claim-2" 4000 60000)).step
    (.recordAttemptStarted correctedSurroundings
      (attemptStart 3 "claim-2" "attempt-2" 4001 false))).step
    (.settle correctedSurroundings rejected "delivery-1" "attempt-2" "claim-2" 5000)

/-- The address was corrected, and the message is sent again to the new one. -/
def resentAfterUnknown : OutboundEmailDeliveryLedger :=
  (rejectedAfterUnknown.step (.claim "delivery-1" "claim-3" 6000 60000)).step
    (.recordAttemptStarted correctedSurroundings (attemptStart 5 "claim-3" "attempt-3" 6001 true))

/-- The same after a first attempt that was rejected. -/
def resentAfterRejection : OutboundEmailDeliveryLedger :=
  ((firstAttempt.step
    (.settle correctedSurroundings rejected "delivery-1" "attempt-1" "claim-1" 3000)).step
    (.claim "delivery-1" "claim-2" 4000 60000)).step
    (.recordAttemptStarted correctedSurroundings (attemptStart 3 "claim-2" "attempt-2" 4001 true))

end OutboundDeliveryExample

open OutboundDeliveryExample OutboundEmailDeliveryLedger

theorem head_of_map {ledger : OutboundEmailDeliveryLedger}
    {state : OutboundEmailDeliveryState} {unknownAttemptCount : ℕ}
    (h : (ledger.heads.get "delivery-1").map
      (fun head => (head.val.state, head.val.unknownAttemptCount)) =
        some (state, unknownAttemptCount)) :
    ∃ head, ledger.heads.get "delivery-1" = some head ∧ head.val.state = state ∧
      head.val.unknownAttemptCount = unknownAttemptCount := by
  obtain ⟨head, hget, hpair⟩ := Option.map_eq_some_iff.mp h
  exact ⟨head, hget, congrArg Prod.fst hpair, congrArg Prod.snd hpair⟩

/-- After an unknown acceptance, a resend to the corrected address can be settled. -/
theorem outbound_attempts_settle_resent :
    ∃ head, resentAfterUnknown.heads.get "delivery-1" = some head ∧
      head.val.state = .request_started ∧ head.val.unknownAttemptCount = 1 ∧
      ∃ attempt, InFlight resentAfterUnknown head attempt ∧
        Settleable resentAfterUnknown "delivery-1" head attempt ∧
        Recoverable resentAfterUnknown "delivery-1" head attempt := by
  have hrejected : OutboundDeliveryRun ResendsAfterUnknown rejectedAfterUnknown :=
    ((((((((OutboundDeliveryRun.initial.step trivial).step trivial).step trivial).step
      nofun).step trivial).step trivial).step nofun).step trivial)
  have hclaimed : OutboundDeliveryRun ResendsAfterUnknown
      (rejectedAfterUnknown.step (.claim "delivery-1" "claim-3" 6000 60000)) :=
    hrejected.step trivial
  have hcounted : ((rejectedAfterUnknown.step
      (.claim "delivery-1" "claim-3" 6000 60000)).heads.get "delivery-1").all
        (fun head => decide (0 < head.val.unknownAttemptCount)) = true := by decide +kernel
  have hrun : OutboundDeliveryRun ResendsAfterUnknown resentAfterUnknown :=
    hclaimed.step fun _ head hget => by
      simpa using Option.all_eq_true _ _ |>.mp hcounted head hget
  have hmap : (resentAfterUnknown.heads.get "delivery-1").map
      (fun head => (head.val.state, head.val.unknownAttemptCount)) =
        some (.request_started, 1) := by decide +kernel
  obtain ⟨head, hget, hstate, hunknown⟩ := head_of_map hmap
  exact ⟨head, hget, hstate, hunknown, outbound_attempts_settle hrun hget hstate⟩

/-- A resend to the corrected address of which nothing is known stays in flight for ever when it
is the first such attempt. -/
theorem corrected_resend_stuck :
    OutboundDeliveryRun (fun _ _ => True) resentAfterRejection ∧
    ∃ head, resentAfterRejection.heads.get "delivery-1" = some head ∧
      head.val.state = .request_started ∧
      ∃ attempt, InFlight resentAfterRejection head attempt ∧
        ¬ Settleable resentAfterRejection "delivery-1" head attempt ∧
        ∀ surroundings claimId code completedAtMs, head.val.heldBy claimId = true →
          ¬ ∃ ledger' head', resentAfterRejection.complete surroundings
            (AttemptSettlement.completion "delivery-1" attempt.val.attemptId claimId
              completedAtMs (.ambiguous code)) = .ok (ledger', ⟨false, head'⟩) := by
  have hrun : OutboundDeliveryRun (fun _ _ => True) resentAfterRejection :=
    (((((((OutboundDeliveryRun.initial.step trivial).step trivial).step trivial).step
      trivial).step trivial).step trivial).step trivial)
  have hmap : (resentAfterRejection.heads.get "delivery-1").map
      (fun head => (head.val.state, head.val.unknownAttemptCount)) =
        some (.request_started, 0) := by decide +kernel
  obtain ⟨head, hget, hstate, hunknown⟩ := head_of_map hmap
  obtain ⟨attempt, hflight⟩ := sound_of_run hrun _ head hget hstate
  have hkinds : ∀ attempt ∈ resentAfterRejection.attempts.values,
      attempt.val.state = .request_started → attempt.val.attemptKind = .marked_resend := by
    decide +kernel
  have hmarked : attempt.val.attemptKind = .marked_resend :=
    hkinds attempt (List.mem_of_find?_eq_some hflight.stored) hflight.started
  have hstuck : ¬ Settleable resentAfterRejection "delivery-1" head attempt := by
    rw [settleable_iff hflight hget hstate, hunknown]
    exact fun h => absurd (h hmarked) (lt_irrefl 0)
  refine ⟨hrun, head, hget, hstate, attempt, hflight, hstuck, ?_⟩
  rintro surroundings claimId code completedAtMs hheld ⟨ledger', head', h⟩
  have hchecks := (checks_of_complete hflight hget hheld rfl h).2
  have hallowed := (settledRow_checks_iff hstate hflight.counted
    (completion_state_ne _ _ _ _ _)).mp hchecks
  exact hallowed.2 ⟨rfl, hmarked, hunknown⟩

end JooEvents
