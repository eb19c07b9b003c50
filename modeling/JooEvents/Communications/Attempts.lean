import JooEvents.Communications.Settlement

/-!
# The attempts of a delivery

The head of a delivery repeats what its attempts say : how many there are, which of them is the
current one and what became of it, and how many ended without anybody knowing. In every run of the
ledger's methods the two tables agree (`outbound_attempts_accounted`), and each attempt follows
attempts that ended in a way that lets another one start (`Follows`).

So a provider that takes no keys is left with at most two unknown acceptances
(`unknown_acceptances_bounded`), and a delivery that is finished stays as it is, whatever method is
called (`finished_deliveries_last`).

The ledger is not the only one that writes heads. `retry_message_delivery` puts a head whose message
bounced back to `known_rejected_safe_retryable`, also one that is finished, and changes no attempt.
It is no method of the ledger and no step of these runs.
-/

namespace JooEvents

open Fallible

namespace OutboundEmailDeliveryHeadRow

def Finished (row : OutboundEmailDeliveryHeadRow) : Prop :=
  row.state = .accepted ∨ row.state = .known_rejected_terminal ∨
    row.state = .acceptance_unknown ∧ row.markedResendExhausted = true

end OutboundEmailDeliveryHeadRow

namespace OutboundEmailDeliveryLedger

variable {ledger ledger' : OutboundEmailDeliveryLedger} {call : OutboundDeliveryCall}
  {head head' : OutboundEmailDeliveryHead} {attempt attempt' old : OutboundEmailDeliveryAttempt}
  {history earlier : List OutboundEmailDeliveryAttempt} {deliveryId : String}

/-! ## Histories -/

/-- The number of attempts whose acceptance is unknown. -/
def unknownCount (history : List OutboundEmailDeliveryAttempt) : ℕ :=
  history.countP fun attempt => attempt.val.state = .acceptance_unknown

def LetsRetry (attempt : OutboundEmailDeliveryAttempt) : Prop :=
  attempt.val.state = .known_rejected_safe_retryable ∨
    attempt.val.state = .acceptance_unknown ∧ attempt.val.attemptKind = .original

/-- An attempt was started after the earlier ones, of which the latest is the first. -/
structure Follows (attempt : OutboundEmailDeliveryAttempt)
    (earlier : List OutboundEmailDeliveryAttempt) : Prop where
  number : attempt.val.attemptNumber = earlier.length + 1
  retried : ∀ old ∈ earlier, LetsRetry old
  kind : attempt.val.attemptKind =
      requiredOutboundEmailAttemptKind (unknownCount earlier) attempt.val.capabilities ∨
    attempt.val.attemptKind = .marked_resend ∧
      ∃ last ∈ earlier.head?, last.val.state = .known_rejected_safe_retryable

def Chained (history : List OutboundEmailDeliveryAttempt) : Prop :=
  ∀ attempt earlier, attempt :: earlier <:+ history → Follows attempt earlier

/-- A head says what the attempts of its delivery say. -/
structure Summarises (head : OutboundEmailDeliveryHead)
    (history : List OutboundEmailDeliveryAttempt) : Prop where
  attempts : head.val.attemptCount = history.length
  current : head.val.currentAttemptId = history.head?.map (·.val.attemptId)
  state : head.val.state = (history.head?.map (·.val.state)).getD .pending
  unknown : head.val.unknownAttemptCount = unknownCount history
  exhausted : head.val.markedResendExhausted = history.any exhausts

def Holds (ledger : OutboundEmailDeliveryLedger) (deliveryId : String)
    (attempt : OutboundEmailDeliveryAttempt) : Prop :=
  ledger.attempts.get attempt.val.attemptId = some attempt ∧ attempt.val.deliveryId = deliveryId

/-- What is stored of the head of a delivery says what its attempts say. -/
def Agrees (stored : Option OutboundEmailDeliveryHead)
    (history : List OutboundEmailDeliveryAttempt) : Prop :=
  match stored with
  | none => history = []
  | some head => Summarises head history

/-- The two tables agree on a delivery with this history. -/
structure Accounted (ledger : OutboundEmailDeliveryLedger) (deliveryId : String)
    (history : List OutboundEmailDeliveryAttempt) : Prop where
  rows : ∀ attempt, attempt ∈ history ↔ ledger.Holds deliveryId attempt
  chained : Chained history
  agrees : Agrees (ledger.heads.get deliveryId) history

theorem Accounted.summarises (h : Accounted ledger deliveryId history)
    (hget : ledger.heads.get deliveryId = some head) : Summarises head history := by
  have hagrees := h.agrees
  rwa [hget] at hagrees

theorem Chained.nil : Chained [] :=
  fun _ _ h => absurd (List.suffix_nil.mp h) (List.cons_ne_nil _ _)

theorem Chained.cons (hfollows : Follows attempt earlier) (h : Chained earlier) :
    Chained (attempt :: earlier) := by
  intro other older hsuffix
  rcases List.suffix_cons_iff.mp hsuffix with heq | hsuffix
  · obtain ⟨rfl, rfl⟩ := List.cons.inj heq
    exact hfollows
  · exact h other older hsuffix

theorem Chained.follows (h : Chained (attempt :: earlier)) : Follows attempt earlier :=
  h attempt earlier List.suffix_rfl

theorem Chained.tail (h : Chained (attempt :: earlier)) : Chained earlier :=
  fun other older hsuffix => h other older (hsuffix.trans (List.suffix_cons _ _))

theorem Chained.number_le (h : Chained history) :
    ∀ old ∈ history, old.val.attemptNumber ≤ history.length := by
  induction history with
  | nil => exact fun old hold => nomatch hold
  | cons attempt earlier ih =>
    intro old hold
    rw [List.length_cons]
    rcases List.mem_cons.mp hold with rfl | hold
    · exact h.follows.number.le
    · exact (ih h.tail old hold).trans (Nat.le_succ _)

theorem Chained.notMem (h : Chained (attempt :: earlier)) : attempt ∉ earlier := by
  intro hmem
  have hle := h.tail.number_le attempt hmem
  have hnumber := h.follows.number
  omega

theorem Follows.settled (h : Follows attempt earlier)
    (hnumber : attempt'.val.attemptNumber = attempt.val.attemptNumber)
    (hkind : attempt'.val.attemptKind = attempt.val.attemptKind)
    (hcapabilities : attempt'.val.capabilities = attempt.val.capabilities) :
    Follows attempt' earlier where
  number := hnumber.trans h.number
  retried := h.retried
  kind := by
    rw [hkind, hcapabilities]
    exact h.kind

/-! ## What a call does to a delivery -/

theorem Fresh.summarises (h : Fresh head) : Summarises head [] :=
  ⟨h.attempts, h.current, h.state, h.unknown, h.exhausted⟩

/-- What a call does to one delivery. -/
inductive DeliveryChange (ledger ledger' : OutboundEmailDeliveryLedger) (deliveryId : String) :
    Prop where
  | untouched (hget : ledger'.heads.get deliveryId = ledger.heads.get deliveryId)
      (hholds : ∀ attempt, ledger'.Holds deliveryId attempt ↔ ledger.Holds deliveryId attempt)
  | registered {head' : OutboundEmailDeliveryHead} (hnew : ledger.heads.get deliveryId = none)
      (hget' : ledger'.heads.get deliveryId = some head')
      (hholds : ∀ attempt, ledger'.Holds deliveryId attempt ↔ ledger.Holds deliveryId attempt)
      (hfresh : Summarises head' [])
  | kept {head head' : OutboundEmailDeliveryHead} (hget : ledger.heads.get deliveryId = some head)
      (hget' : ledger'.heads.get deliveryId = some head')
      (hholds : ∀ attempt, ledger'.Holds deliveryId attempt ↔ ledger.Holds deliveryId attempt)
      (hsame : SameAttempts head head')
  | started {call : OutboundDeliveryCall} {head head' : OutboundEmailDeliveryHead}
      {attempt : OutboundEmailDeliveryAttempt}
      (hget : ledger.heads.get deliveryId = some head)
      (hget' : ledger'.heads.get deliveryId = some head')
      (hholds : ∀ other, ledger'.Holds deliveryId other ↔
        other = attempt ∨ ledger.Holds deliveryId other)
      (hstarts : Starts ledger call head head' attempt)
  | settled {head head' : OutboundEmailDeliveryHead}
      {attempt attempt' : OutboundEmailDeliveryAttempt}
      (hget : ledger.heads.get deliveryId = some head)
      (hget' : ledger'.heads.get deliveryId = some head')
      (hattempt : ledger.Holds deliveryId attempt)
      (hholds : ∀ other, ledger'.Holds deliveryId other ↔
        other = attempt' ∨ other ≠ attempt ∧ ledger.Holds deliveryId other)
      (hsettles : Ends ledger head head' attempt attempt')

theorem holds_set {heads} :
    Holds { heads, attempts := ledger.attempts.set attempt } deliveryId old ↔
      attempt.val.deliveryId = deliveryId ∧ old = attempt ∨
        old.val.attemptId ≠ attempt.val.attemptId ∧ ledger.Holds deliveryId old := by
  rw [Holds, Holds, KeyedMap.get_set]
  by_cases hid : attempt.val.attemptId = old.val.attemptId
  · rw [if_pos hid, Option.some.injEq]
    constructor
    · rintro ⟨rfl, hmine⟩
      exact .inl ⟨hmine, rfl⟩
    · rintro (⟨hmine, rfl⟩ | ⟨hne, -⟩)
      · exact ⟨rfl, hmine⟩
      · exact absurd hid.symm hne
  · rw [if_neg hid]
    constructor
    · exact fun hholds => .inr ⟨fun h => hid h.symm, hholds⟩
    · rintro (⟨-, rfl⟩ | ⟨-, hholds⟩)
      · exact absurd rfl hid
      · exact hholds

theorem deliveryChange_of_other {head' : OutboundEmailDeliveryHead}
    (hother : head'.val.deliveryId ≠ deliveryId) (hdelivery : attempt.val.deliveryId ≠ deliveryId)
    (hfree : ∀ old, ledger.attempts.get attempt.val.attemptId = some old →
      old.val.deliveryId ≠ deliveryId) :
    DeliveryChange ledger
      { heads := ledger.heads.set head', attempts := ledger.attempts.set attempt } deliveryId := by
  refine .untouched (by rw [KeyedMap.get_set, if_neg hother]) fun old => ?_
  rw [holds_set]
  constructor
  · rintro (⟨hmine, -⟩ | ⟨-, hholds⟩)
    · exact absurd hmine hdelivery
    · exact hholds
  · exact fun hholds => .inr ⟨fun hid => hfree old (hid ▸ hholds.1) hholds.2, hholds⟩

theorem deliveryChange_step (deliveryId : String) :
    DeliveryChange ledger (ledger.step call) deliveryId := by
  have hchange : LedgerChange ledger call (ledger.step call) := ledgerChange_step
  generalize ledger.step call = ledger' at hchange ⊢
  cases hchange with
  | same => exact .untouched rfl fun _ => Iff.rfl
  | @registered head' hnew hfresh =>
    by_cases hid : head'.val.deliveryId = deliveryId
    · exact .registered (hid ▸ hnew) (by rw [KeyedMap.get_set, if_pos hid]) (fun _ => Iff.rfl)
        hfresh.summarises
    · exact .untouched (by rw [KeyedMap.get_set, if_neg hid]) fun _ => Iff.rfl
  | @kept head head' hhead hkeeps =>
    by_cases hid : head'.val.deliveryId = deliveryId
    · exact .kept (hid ▸ hhead) (by rw [KeyedMap.get_set, if_pos hid]) (fun _ => Iff.rfl)
        hkeeps.toSameAttempts
    · exact .untouched (by rw [KeyedMap.get_set, if_neg hid]) fun _ => Iff.rfl
  | @started head head' attempt hstarts =>
    have hhead := hstarts.found
    have hnew := hstarts.new
    by_cases hid : head'.val.deliveryId = deliveryId
    · refine .started (hid ▸ hhead) (by rw [KeyedMap.get_set, if_pos hid]) (fun other => ?_) hstarts
      rw [holds_set, and_iff_right (hstarts.delivery.trans hid), and_iff_right_of_imp]
      rintro ⟨hget, -⟩ hsame
      rw [hsame, hnew] at hget
      cases hget
    · refine deliveryChange_of_other hid (hstarts.delivery ▸ hid) fun old hold => ?_
      rw [hnew] at hold
      cases hold
  | @ended head head' attempt attempt' hsettles =>
    have hhead := hsettles.found
    have hattempt := hsettles.stored
    obtain ⟨input, hrow⟩ := hsettles.row
    have hdelivery : attempt'.val.deliveryId = head'.val.deliveryId := by
      rw [hrow, settledAttempt, hsettles.delivery]
    by_cases hid : head'.val.deliveryId = deliveryId
    · have hkey := KeyedMap.key_of_get hattempt
      refine .settled (hid ▸ hhead) (by rw [KeyedMap.get_set, if_pos hid])
        ⟨hkey ▸ hattempt, hsettles.delivery.trans hid⟩ (fun other => ?_) hsettles
      rw [holds_set, and_iff_right (hdelivery.trans hid)]
      refine or_congr_right (and_congr_left fun hholds => not_congr
        ⟨fun hsame => ?_, fun hsame => ?_⟩)
      · have hget := hholds.1
        rw [hsame, hattempt] at hget
        exact (Option.some.inj hget).symm
      · rw [hsame, hkey]
    · refine deliveryChange_of_other hid (hdelivery ▸ hid) fun old hold => ?_
      rw [hattempt] at hold
      rw [← Option.some.inj hold, hsettles.delivery]
      exact hid

/-! ## Runs -/

theorem Summarises.sameAttempts (h : Summarises head history) (hsame : SameAttempts head head') :
    Summarises head' history where
  attempts := hsame.attempts.trans h.attempts
  current := hsame.current.trans h.current
  state := hsame.state.trans h.state
  unknown := hsame.unknown.trans h.unknown
  exhausted := hsame.exhausted.trans h.exhausted

theorem Summarises.follows (h : Summarises head history) (hchained : Chained history)
    (hstarts : Starts ledger call head head' attempt) : Follows attempt history where
  number := by rw [hstarts.number, h.attempts]
  retried := by
    cases history with
    | nil => exact fun old hold => nomatch hold
    | cons last older =>
      intro old hold
      rcases List.mem_cons.mp hold with rfl | hold
      · have hdispatchable := hstarts.dispatchable
        have hexhausted := h.exhausted
        simp only [OutboundEmailDeliveryHeadRow.dispatchable, h.state, List.head?_cons,
          Option.map_some, Option.getD_some, decide_eq_true_eq] at hdispatchable
        rcases hdispatchable with hpending | hretryable | ⟨hunknown, hopen⟩
        · exact absurd hpending old.property.state
        · exact .inl hretryable
        · refine .inr ⟨hunknown, ?_⟩
          rw [hopen, List.any_cons, eq_comm, Bool.or_eq_false_iff] at hexhausted
          cases hkind : old.val.attemptKind with
          | original => rfl
          | marked_resend => simp [exhausts, hunknown, hkind] at hexhausted
      · exact hchained.follows.retried old hold
  kind := by
    rcases hstarts.kind with hkind | ⟨hmarked, hretryable, -⟩
    · exact .inl (h.unknown ▸ hkind)
    · refine .inr ⟨hmarked, ?_⟩
      rw [h.state] at hretryable
      cases history with
      | nil => cases hretryable
      | cons last older => exact ⟨last, rfl, hretryable⟩

theorem Summarises.start (h : Summarises head history)
    (hstarts : Starts ledger call head head' attempt) : Summarises head' (attempt :: history) where
  attempts := by rw [hstarts.attempts, h.attempts, List.length_cons]
  current := hstarts.current
  state := by rw [hstarts.state, ← hstarts.started]; rfl
  unknown := by
    rw [hstarts.unknown, h.unknown, unknownCount, unknownCount, List.countP_cons_of_neg]
    simp [hstarts.started]
  exhausted := by
    rw [hstarts.exhausted, h.exhausted, List.any_cons]
    simp [exhausts, hstarts.started]

theorem Summarises.settle (h : Summarises head (attempt :: earlier))
    (hsettles : Ends ledger head head' attempt attempt') :
    Summarises head' (attempt' :: earlier) := by
  obtain ⟨input, hrow⟩ := hsettles.row
  have hcurrent := h.current
  have hunknown := h.unknown
  have hexhausted := h.exhausted
  have hid : attempt'.val.attemptId = attempt.val.attemptId := by rw [hrow, settledAttempt]
  have hstarted : decide (attempt.val.state = .acceptance_unknown) = false := by
    simp [hsettles.started.2]
  constructor
  · rw [hsettles.attempts, h.attempts, List.length_cons, List.length_cons]
  · rw [hsettles.current, hcurrent, List.head?_cons, List.head?_cons, Option.map_some,
      Option.map_some, hid]
  · exact hsettles.state
  · rw [hsettles.unknown, hunknown, unknownCount, unknownCount, List.countP_cons, List.countP_cons,
      hstarted]
    simp
  · rw [hsettles.exhausted, hexhausted, List.any_cons, List.any_cons, exhausts]
    simp [hsettles.started.2, Bool.or_comm]

theorem Accounted.change (h : Accounted ledger deliveryId history)
    (hchange : DeliveryChange ledger ledger' deliveryId) :
    ∃ history', Accounted ledger' deliveryId history' := by
  cases hchange with
  | untouched hget hholds =>
    exact ⟨history, fun old => (h.rows old).trans (hholds old).symm, h.chained, hget ▸ h.agrees⟩
  | registered hnew hget' hholds hfresh =>
    have hempty := h.agrees
    rw [hnew] at hempty
    exact ⟨history, fun old => (h.rows old).trans (hholds old).symm, h.chained, by
      rw [hget', show history = [] from hempty]
      exact hfresh⟩
  | kept hget hget' hholds hsame =>
    exact ⟨history, fun old => (h.rows old).trans (hholds old).symm, h.chained, by
      rw [hget']
      exact (h.summarises hget).sameAttempts hsame⟩
  | @started _ head head' attempt hget hget' hholds hstarts =>
    have hsummarises := h.summarises hget
    exact ⟨attempt :: history, fun old => by rw [List.mem_cons, hholds, h.rows],
      .cons (hsummarises.follows h.chained hstarts) h.chained, by
      rw [hget']
      exact hsummarises.start hstarts⟩
  | @settled head head' attempt attempt' hget hget' hattempt hholds hsettles =>
    have hsummarises := h.summarises hget
    obtain ⟨input, hrow⟩ := hsettles.row
    cases history with
    | nil => exact absurd ((h.rows attempt).mpr hattempt) List.not_mem_nil
    | cons last earlier =>
      -- the current attempt is the last one
      have hlast : last = attempt := by
        have hcurrent := hsummarises.current
        rw [hsettles.held, List.head?_cons, Option.map_some, Option.some.injEq] at hcurrent
        have hstored := ((h.rows last).mp List.mem_cons_self).1
        rw [← hcurrent, hattempt.1] at hstored
        exact (Option.some.inj hstored).symm
      subst hlast
      have hsettled : Follows attempt' earlier := h.chained.follows.settled
        (by rw [hrow, settledAttempt]) (by rw [hrow, settledAttempt]) (by rw [hrow, settledAttempt])
      refine ⟨attempt' :: earlier, fun old => ?_, .cons hsettled h.chained.tail, ?_⟩
      · rw [List.mem_cons, hholds, ← h.rows, List.mem_cons]
        refine or_congr_right ⟨fun hold => ⟨?_, .inr hold⟩, fun hold => hold.2.resolve_left hold.1⟩
        rintro rfl
        exact h.chained.notMem hold
      · rw [hget']
        exact hsummarises.settle hsettles

variable {Permits : OutboundEmailDeliveryLedger → OutboundDeliveryCall → Prop}

theorem exists_accounted (h : OutboundDeliveryRun Permits ledger) (deliveryId : String) :
    ∃ history, Accounted ledger deliveryId history := by
  induction h with
  | initial =>
    exact ⟨[], fun attempt => ⟨nofun, nofun⟩, .nil, rfl⟩
  | step _ _ ih =>
    obtain ⟨history, hhistory⟩ := ih
    exact hhistory.change (deliveryChange_step deliveryId)

/-- In every run the head of a delivery says what its attempts say, and each attempt follows
attempts that ended in a way that lets another one start. -/
theorem outbound_attempts_accounted (h : OutboundDeliveryRun Permits ledger)
    (hget : ledger.heads.get deliveryId = some head) :
    ∃ history : List OutboundEmailDeliveryAttempt,
      (∀ attempt, attempt ∈ history ↔ ledger.Holds deliveryId attempt) ∧
        Summarises head history ∧
        ∀ attempt earlier, attempt :: earlier <:+ history → Follows attempt earlier := by
  obtain ⟨history, hhistory⟩ := exists_accounted h deliveryId
  exact ⟨history, hhistory.rows, hhistory.summarises hget, hhistory.chained⟩

theorem Chained.unknownCount_le_one (h : Chained history)
    (hretried : ∀ old ∈ history, LetsRetry old)
    (hkeys : ∀ old ∈ history, old.val.capabilities.idempotency ≠ .native_key) :
    unknownCount history ≤ 1 := by
  induction history with
  | nil => exact Nat.zero_le 1
  | cons attempt earlier ih =>
    have hle := ih h.tail (fun old hold => hretried old (List.mem_cons_of_mem _ hold))
      fun old hold => hkeys old (List.mem_cons_of_mem _ hold)
    rw [unknownCount, List.countP_cons, ← unknownCount]
    by_cases hunknown : attempt.val.state = .acceptance_unknown
    · have horiginal : attempt.val.attemptKind = .original := by
        rcases hretried attempt List.mem_cons_self with hretryable | ⟨-, horiginal⟩
        · rw [hunknown] at hretryable
          cases hretryable
        · exact horiginal
      have hzero : ¬ 0 < unknownCount earlier := by
        intro hpos
        rcases h.follows.kind with hkind | ⟨hmarked, -⟩
        · rw [requiredOutboundEmailAttemptKind,
            if_pos ⟨hpos, hkeys attempt List.mem_cons_self⟩, horiginal] at hkind
          cases hkind
        · rw [horiginal] at hmarked
          cases hmarked
      split_ifs <;> omega
    · rw [if_neg (by simpa using hunknown)]
      exact hle

/-- A delivery by providers that take no keys is left with at most two unknown acceptances, and is
finished with the second one. -/
theorem unknown_acceptances_bounded (h : OutboundDeliveryRun Permits ledger)
    (hget : ledger.heads.get deliveryId = some head)
    (hkeys : ∀ attempt, ledger.Holds deliveryId attempt →
      attempt.val.capabilities.idempotency ≠ .native_key) :
    head.val.unknownAttemptCount ≤ 2 ∧
      (head.val.unknownAttemptCount = 2 → head.val.Finished) := by
  obtain ⟨history, hhistory⟩ := exists_accounted h deliveryId
  have hsummarises := hhistory.summarises hget
  have hkeys' : ∀ old ∈ history, old.val.capabilities.idempotency ≠ .native_key :=
    fun old hold => hkeys old ((hhistory.rows old).mp hold)
  have hchained := hhistory.chained
  rw [hsummarises.unknown]
  cases history with
  | nil => exact ⟨Nat.zero_le 2, nofun⟩
  | cons last earlier =>
    have hle := hchained.tail.unknownCount_le_one hchained.follows.retried
      fun old hold => hkeys' old (List.mem_cons_of_mem _ hold)
    rw [unknownCount, List.countP_cons, ← unknownCount]
    by_cases hunknown : last.val.state = .acceptance_unknown
    · rw [if_pos (by simpa using hunknown)]
      refine ⟨by omega, fun htwo => .inr (.inr ⟨?_, ?_⟩)⟩
      · rw [hsummarises.state]
        exact hunknown
      · have hpos : 0 < unknownCount earlier := by omega
        have hmarked : last.val.attemptKind = .marked_resend := by
          rcases hchained.follows.kind with hkind | ⟨hmarked, -⟩
          · rwa [requiredOutboundEmailAttemptKind,
              if_pos ⟨hpos, hkeys' last List.mem_cons_self⟩] at hkind
          · exact hmarked
        rw [hsummarises.exhausted, List.any_cons]
        simp [exhausts, hunknown, hmarked]
    · rw [if_neg (by simpa using hunknown)]
      exact ⟨by omega, fun htwo => by omega⟩

theorem not_dispatchable_of_finished (h : head.val.Finished) :
    head.val.dispatchable = false ∧ head.val.state ≠ .request_started := by
  rcases h with hstate | hstate | ⟨hstate, hexhausted⟩
  · simp [OutboundEmailDeliveryHeadRow.dispatchable, hstate]
  · simp [OutboundEmailDeliveryHeadRow.dispatchable, hstate]
  · simp [OutboundEmailDeliveryHeadRow.dispatchable, hstate, hexhausted]

theorem SameAttempts.finished (h : SameAttempts head head') (hfinished : head.val.Finished) :
    head'.val.Finished := by
  rw [OutboundEmailDeliveryHeadRow.Finished, h.state, h.exhausted]
  exact hfinished

theorem SameAttempts.refl (head : OutboundEmailDeliveryHead) : SameAttempts head head :=
  ⟨rfl, rfl, rfl, rfl, rfl⟩

theorem SameAttempts.trans {head'' : OutboundEmailDeliveryHead} (h : SameAttempts head head')
    (h' : SameAttempts head' head'') : SameAttempts head head'' :=
  ⟨h'.attempts.trans h.attempts, h'.current.trans h.current, h'.state.trans h.state,
    h'.unknown.trans h.unknown, h'.exhausted.trans h.exhausted⟩

theorem finished_of_change (hget : ledger.heads.get deliveryId = some head)
    (hfinished : head.val.Finished) (hchange : DeliveryChange ledger ledger' deliveryId) :
    ∃ head', ledger'.heads.get deliveryId = some head' ∧ SameAttempts head head' ∧
      ∀ attempt, ledger'.Holds deliveryId attempt ↔ ledger.Holds deliveryId attempt := by
  obtain ⟨hdispatchable, hsettled⟩ := not_dispatchable_of_finished hfinished
  cases hchange with
  | untouched hsame hholds => exact ⟨head, hsame.trans hget, .refl head, hholds⟩
  | registered hnew => cases hget.symm.trans hnew
  | kept hold hget' hholds hsame =>
    obtain rfl := Option.some.inj (hget.symm.trans hold)
    exact ⟨_, hget', hsame, hholds⟩
  | started hold hget' hholds hstarts =>
    obtain rfl := Option.some.inj (hget.symm.trans hold)
    cases hdispatchable.symm.trans hstarts.dispatchable
  | settled hold hget' hattempt hholds hsettles =>
    obtain rfl := Option.some.inj (hget.symm.trans hold)
    exact absurd hsettles.started.1 hsettled

/-- A delivery that is finished stays as it is and is attempted no more, whatever is called. -/
theorem finished_deliveries_last (hget : ledger.heads.get deliveryId = some head)
    (hfinished : head.val.Finished) (calls : List OutboundDeliveryCall) :
    ∃ head', (calls.foldl step ledger).heads.get deliveryId = some head' ∧
      SameAttempts head head' ∧
      ∀ attempt, (calls.foldl step ledger).Holds deliveryId attempt ↔
        ledger.Holds deliveryId attempt := by
  induction calls generalizing ledger head with
  | nil => exact ⟨head, hget, .refl head, fun _ => Iff.rfl⟩
  | cons call calls ih =>
    obtain ⟨next, hnext, hsame, hholds⟩ : ∃ next,
        (ledger.step call).heads.get deliveryId = some next ∧ SameAttempts head next ∧
        ∀ attempt, (ledger.step call).Holds deliveryId attempt ↔ ledger.Holds deliveryId attempt :=
      finished_of_change hget hfinished (deliveryChange_step deliveryId)
    obtain ⟨head', hget', hsame', hholds'⟩ := ih hnext (hsame.finished hfinished)
    exact ⟨head', hget', hsame.trans hsame', fun attempt =>
      (hholds' attempt).trans (hholds attempt)⟩

theorem run_calls : ∀ (calls : List OutboundDeliveryCall) {ledger : OutboundEmailDeliveryLedger},
    OutboundDeliveryRun (fun _ _ => True) ledger →
      OutboundDeliveryRun (fun _ _ => True) (calls.foldl step ledger)
  | [], _, h => h
  | _ :: calls, _, h => run_calls calls (h.step trivial)

end OutboundEmailDeliveryLedger

namespace OutboundDeliveryExample

open OutboundEmailDeliveryLedger

/-- An attempt with a provider that takes no keys. -/
def keylessStart (version : ℕ) (claimId attemptId : String) (startedAtMs : ℤ) (resend : Bool) :
    AttemptStartInput :=
  { attemptStart version claimId attemptId startedAtMs resend with
    authorizedMarkedResend := none, capabilities := ⟨.none, .none, []⟩ }

/-- Nothing is known of the first attempt, nor of the resend. -/
def unknownTwice : OutboundEmailDeliveryLedger :=
  [.register "delivery-1" ⟨1, reviewedDigest, reviewedDigest, 1, 1, 1⟩ 1000,
    .link "delivery-1" "receipt-1",
    .claim "delivery-1" "claim-1" 2000 60000,
    .recordAttemptStarted correctedSurroundings (keylessStart 1 "claim-1" "attempt-1" 2001 false),
    .settle correctedSurroundings (.ambiguous .worker_result_lost) "delivery-1" "attempt-1"
      "claim-1" 3000,
    .claim "delivery-1" "claim-2" 4000 60000,
    .recordAttemptStarted correctedSurroundings (keylessStart 3 "claim-2" "attempt-2" 4001 true),
    .settle correctedSurroundings (.ambiguous .worker_result_lost) "delivery-1" "attempt-2"
      "claim-2" 5000].foldl OutboundEmailDeliveryLedger.step .initial

theorem run_unknownTwice : OutboundDeliveryRun (fun _ _ => True) unknownTwice :=
  run_calls _ .initial

theorem head_unknownTwice : ∃ head, unknownTwice.heads.get "delivery-1" = some head ∧
    head.val.state = .acceptance_unknown ∧ head.val.markedResendExhausted = true ∧
    head.val.unknownAttemptCount = 2 := by
  have hmap : (unknownTwice.heads.get "delivery-1").map (fun head =>
      (head.val.state, head.val.markedResendExhausted, head.val.unknownAttemptCount)) =
        some (.acceptance_unknown, true, 2) := by decide +kernel
  obtain ⟨head, hget, hrow⟩ := Option.map_eq_some_iff.mp hmap
  simp only [Prod.mk.injEq] at hrow
  exact ⟨head, hget, hrow.1, hrow.2.1, hrow.2.2⟩

end OutboundDeliveryExample

open OutboundDeliveryExample OutboundEmailDeliveryLedger

theorem outbound_attempts_accounted_twice :
    ∃ head, unknownTwice.heads.get "delivery-1" = some head ∧
      ∃ history : List OutboundEmailDeliveryAttempt,
        (∀ attempt, attempt ∈ history ↔ unknownTwice.Holds "delivery-1" attempt) ∧
          Summarises head history ∧
          ∀ attempt earlier, attempt :: earlier <:+ history → Follows attempt earlier := by
  obtain ⟨head, hget, -⟩ := head_unknownTwice
  exact ⟨head, hget, outbound_attempts_accounted run_unknownTwice hget⟩

theorem unknown_acceptances_bounded_twice :
    ∃ head, unknownTwice.heads.get "delivery-1" = some head ∧
      head.val.unknownAttemptCount = 2 ∧ head.val.Finished := by
  obtain ⟨head, hget, -, -, htwo⟩ := head_unknownTwice
  have hkeys : ∀ attempt ∈ unknownTwice.attempts.values,
      attempt.val.capabilities.idempotency ≠ .native_key := by decide +kernel
  have hbounded := unknown_acceptances_bounded run_unknownTwice hget fun attempt hholds =>
    hkeys attempt (KeyedMap.get_eq_some_iff.mp hholds.1).1
  exact ⟨head, hget, htwo, hbounded.2 htwo⟩

theorem finished_deliveries_last_twice :
    ∃ head, unknownTwice.heads.get "delivery-1" = some head ∧
      ∃ head', (unknownTwice.step (.claim "delivery-1" "claim-3" 9000 60000)).heads.get
        "delivery-1" = some head' ∧ SameAttempts head head' := by
  obtain ⟨head, hget, hstate, hexhausted, -⟩ := head_unknownTwice
  obtain ⟨head', hget', hsame, -⟩ := finished_deliveries_last hget
    (.inr (.inr ⟨hstate, hexhausted⟩)) [.claim "delivery-1" "claim-3" 9000 60000]
  exact ⟨head, hget, head', hget', hsame⟩

end JooEvents
