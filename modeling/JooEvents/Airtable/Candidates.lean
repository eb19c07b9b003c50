import Mathlib.Data.List.Dedup
import Mathlib.Data.List.Induction
import JooEvents.Airtable.Webhook

/-!
# The candidates of a page

`LatestChange start key payloads last` says that `last` is the transaction of the last change
of a record in the payloads after the transaction `start`, if there is one. The candidates of
a page hold the latest change of every record (`candidatesAfter_latest`), and a page that
lacks no transaction is one whose new numbers are consecutive (`consecutive_newNumbers_iff`).

`LatestChange.extend` is how the latest changes of a page come on top of those before it.
-/

namespace JooEvents

variable {D : Type}

/-! ## The latest change of a record -/

def AirtableWebhookPayload.Touches (payload : AirtableWebhookPayload) (key : AirtableRecordKey) :
    Prop :=
  ∃ change ∈ payload.changes, change.key = key

instance (payload : AirtableWebhookPayload) (key : AirtableRecordKey) :
    Decidable (payload.Touches key) :=
  inferInstanceAs (Decidable (∃ change ∈ payload.changes, _))

/-- The transaction of the last change of a record after `start`. -/
def LatestChange (start : ℕ) (key : AirtableRecordKey) (payloads : List AirtableWebhookPayload) :
    Option ℕ → Prop
  | none => ∀ payload ∈ payloads, start < payload.transactionNumber → ¬ payload.Touches key
  | some number =>
    (∃ payload ∈ payloads, start < payload.transactionNumber ∧ payload.Touches key ∧
      payload.transactionNumber = number) ∧
    ∀ payload ∈ payloads, start < payload.transactionNumber → payload.Touches key →
      payload.transactionNumber ≤ number

variable {start last : ℕ} {key : AirtableRecordKey} {payloads : List AirtableWebhookPayload}

theorem LatestChange.of_mem_iff {payloads' : List AirtableWebhookPayload} {o : Option ℕ}
    (h : LatestChange start key payloads o)
    (hmem : ∀ payload, payload ∈ payloads ↔ payload ∈ payloads') :
    LatestChange start key payloads' o := by
  cases o <;> simpa only [LatestChange, hmem] using h

theorem LatestChange.snoc {payload : AirtableWebhookPayload} {o : Option ℕ}
    (h : LatestChange start key payloads o)
    (hlater : ∀ p ∈ payloads, p.transactionNumber ≤ payload.transactionNumber) :
    LatestChange start key (payloads ++ [payload])
      (if start < payload.transactionNumber ∧ payload.Touches key
        then some payload.transactionNumber else o) := by
  split_ifs with hnew
  · refine ⟨⟨payload, by simp, hnew.1, hnew.2, rfl⟩, fun p hp _ _ => ?_⟩
    rcases List.mem_append.mp hp with hp | hp
    · exact hlater p hp
    · rw [List.mem_singleton.mp hp]
  · cases o with
    | none =>
      intro p hp hstart htouches
      rcases List.mem_append.mp hp with hp | hp
      · exact h p hp hstart htouches
      · rw [List.mem_singleton.mp hp] at hstart htouches
        exact hnew ⟨hstart, htouches⟩
    | some number =>
      obtain ⟨⟨p, hp, hfound⟩, hmax⟩ := h
      refine ⟨⟨p, List.mem_append_left _ hp, hfound⟩, fun q hq hstart htouches => ?_⟩
      rcases List.mem_append.mp hq with hq | hq
      · exact hmax q hq hstart htouches
      · rw [List.mem_singleton.mp hq] at hstart htouches
        exact absurd ⟨hstart, htouches⟩ hnew

theorem LatestChange.extend {page all : List AirtableWebhookPayload} {before after : Option ℕ}
    (hbefore : LatestChange start key payloads before)
    (hafter : LatestChange last key page after) (hstart : start ≤ last)
    (hlast : ∀ p ∈ payloads, p.transactionNumber ≤ last)
    (hold : ∀ p ∈ payloads, p ∈ all) (hpage : ∀ p ∈ page, p ∈ all)
    (hall : ∀ p ∈ all, start < p.transactionNumber →
      p ∈ payloads ∨ p ∈ page ∧ last < p.transactionNumber) :
    LatestChange start key all (after.or before) := by
  cases after with
  | some number =>
    obtain ⟨⟨p, hp, hnew, htouches, rfl⟩, hmax⟩ := hafter
    refine ⟨⟨p, hpage p hp, hstart.trans_lt hnew, htouches, rfl⟩, fun q hq hqstart hqtouches => ?_⟩
    rcases hall q hq hqstart with hq | ⟨hq, hqnew⟩
    · exact (hlast q hq).trans hnew.le
    · exact hmax q hq hqnew hqtouches
  | none =>
    have hnothing : ∀ q ∈ all, start < q.transactionNumber → q.Touches key → q ∈ payloads := by
      intro q hq hqstart hqtouches
      rcases hall q hq hqstart with hq | ⟨hq, hqnew⟩
      · exact hq
      · exact absurd hqtouches (hafter q hq hqnew)
    cases before with
    | none =>
      intro q hq hqstart hqtouches
      exact hbefore q (hnothing q hq hqstart hqtouches) hqstart hqtouches
    | some number =>
      obtain ⟨⟨p, hp, hfound⟩, hmax⟩ := hbefore
      exact ⟨⟨p, hold p hp, hfound⟩, fun q hq hqstart hqtouches =>
        hmax q (hnothing q hq hqstart hqtouches) hqstart hqtouches⟩

/-! ## Reducing a page -/

@[simp] theorem newCandidate_key (payload : AirtableWebhookPayload)
    (change : AirtableWebhookRecordChange) : (newCandidate payload change).key = change.key :=
  rfl

theorem changedCandidate_key {payload : AirtableWebhookPayload}
    {change : AirtableWebhookRecordChange} {current : Option AirtableSettleCandidate}
    (h : ∀ candidate ∈ current, candidate.key = change.key) :
    (changedCandidate payload change current).key = change.key := by
  cases current with
  | none => rfl
  | some candidate =>
    simp only [changedCandidate]
    split_ifs
    · exact h candidate rfl
    · rfl

@[simp] theorem changedCandidate_transactionNumber (payload : AirtableWebhookPayload)
    (change : AirtableWebhookRecordChange) (current : Option AirtableSettleCandidate) :
    (changedCandidate payload change current).transactionNumber = payload.transactionNumber := by
  cases current with
  | none => rfl
  | some candidate =>
    simp only [changedCandidate]
    split_ifs with h
    · exact h
    · rfl

theorem get_reduceChange (payload : AirtableWebhookPayload) (reduced : ReducedCandidates)
    (change : AirtableWebhookRecordChange) :
    ((reduceChange payload reduced change).get key).map (·.transactionNumber) =
      if change.key = key then some payload.transactionNumber
      else (reduced.get key).map (·.transactionNumber) := by
  have hkey : (changedCandidate payload change (reduced.get change.key)).key = change.key :=
    changedCandidate_key fun _ h => KeyedMap.key_of_get h
  rw [reduceChange, KeyedMap.get_set, hkey]
  split_ifs <;> simp

theorem get_reduceChanges (payload : AirtableWebhookPayload) :
    ∀ (changes : List AirtableWebhookRecordChange) (reduced : ReducedCandidates),
      ((changes.foldl (reduceChange payload) reduced).get key).map (·.transactionNumber) =
        if ∃ change ∈ changes, change.key = key then some payload.transactionNumber
        else (reduced.get key).map (·.transactionNumber)
  | [], reduced => by simp
  | change :: changes, reduced => by
    rw [List.foldl_cons, get_reduceChanges payload changes, get_reduceChange]
    by_cases hrest : ∃ c ∈ changes, c.key = key <;> by_cases hkey : change.key = key <;>
      simp [hrest, hkey]

theorem get_reducePayload (payload : AirtableWebhookPayload) (reduced : ReducedCandidates) :
    ((reducePayload last reduced payload).get key).map (·.transactionNumber) =
      if last < payload.transactionNumber ∧ payload.Touches key
        then some payload.transactionNumber
        else (reduced.get key).map (·.transactionNumber) := by
  unfold reducePayload
  by_cases hold : payload.transactionNumber ≤ last
  · rw [if_pos hold, if_neg fun h => absurd h.1 (by omega)]
  · rw [if_neg hold, get_reduceChanges]
    exact if_congr (by simp [AirtableWebhookPayload.Touches, not_le.mp hold]) rfl rfl

theorem reducePayloads_latest :
    ∀ payloads : List AirtableWebhookPayload,
      payloads.Pairwise (fun p q => p.transactionNumber ≤ q.transactionNumber) →
      LatestChange last key payloads
        (((payloads.foldl (reducePayload last) KeyedMap.empty).get key).map
          (·.transactionNumber)) := by
  intro payloads
  induction payloads using List.reverseRecOn with
  | nil => exact fun _ => by simp [LatestChange]
  | append_singleton payloads payload ih =>
    intro hordered
    obtain ⟨hrest, -, hlater⟩ := List.pairwise_append.mp hordered
    rw [List.foldl_append, List.foldl_cons, List.foldl_nil, get_reducePayload]
    exact (ih hrest).snoc fun p hp => hlater p hp payload (List.mem_singleton_self _)

theorem pairwise_insertionSort_of_measure {α : Type} {r : α → α → Prop} [DecidableRel r]
    {measure : α → ℕ} (hle : ∀ a b, r a b → measure a ≤ measure b)
    (hge : ∀ a b, ¬ r a b → measure b ≤ measure a) :
    ∀ as : List α, (as.insertionSort r).Pairwise fun a b => measure a ≤ measure b
  | [] => .nil
  | a :: as => by
    have hinsert : ∀ bs : List α, bs.Pairwise (fun a b => measure a ≤ measure b) →
        (bs.orderedInsert r a).Pairwise fun a b => measure a ≤ measure b := by
      intro bs hbs
      induction bs with
      | nil => exact List.pairwise_singleton _ _
      | cons b bs ih =>
        obtain ⟨hb, hrest⟩ := List.pairwise_cons.mp hbs
        rw [List.orderedInsert]
        split_ifs with hr
        · refine List.pairwise_cons.mpr ⟨fun c hc => ?_, hbs⟩
          rcases List.mem_cons.mp hc with rfl | hc
          · exact hle _ _ hr
          · exact (hle _ _ hr).trans (hb c hc)
        · refine List.pairwise_cons.mpr ⟨fun c hc => ?_, ih hrest⟩
          rcases (List.mem_orderedInsert _).mp hc with rfl | hc
          · exact hge _ _ hr
          · exact hb c hc
    exact hinsert _ (pairwise_insertionSort_of_measure hle hge as)

theorem payloads_sorted (host : LocaleHost D) (payloads : List AirtableWebhookPayload) :
    (payloads.insertionSort (payloadLe host)).Pairwise
      fun p q => p.transactionNumber ≤ q.transactionNumber := by
  refine pairwise_insertionSort_of_measure (fun p q h => ?_) (fun p q h => ?_) payloads
  · rcases h with h | ⟨h, -⟩
    · exact h.le
    · exact h.le
  · unfold payloadLe at h
    omega

theorem candidatesAfter_keys_nodup (host : LocaleHost D) (payloads : List AirtableWebhookPayload)
    (last : ℕ) : ((candidatesAfter host payloads last).map (·.key)).Nodup := by
  have hperm := List.perm_insertionSort (candidateLe host)
    ((payloads.insertionSort (payloadLe host)).foldl (reducePayload last) KeyedMap.empty).values
  exact (hperm.map _).nodup_iff.mpr (KeyedMap.nodup _)

theorem candidatesAfter_latest (host : LocaleHost D) (payloads : List AirtableWebhookPayload)
    (last : ℕ) (key : AirtableRecordKey) :
    LatestChange last key payloads
      (((candidatesAfter host payloads last).find? fun candidate => candidate.key = key).map
        (·.transactionNumber)) := by
  have hsorted : LatestChange last key _ _ :=
    reducePayloads_latest (payloads.insertionSort (payloadLe host)) (payloads_sorted host payloads)
  have hfind : (candidatesAfter host payloads last).find? (fun candidate => candidate.key = key) =
      ((payloads.insertionSort (payloadLe host)).foldl (reducePayload last)
        KeyedMap.empty).get key := by
    refine Option.ext fun candidate => ?_
    rw [Keyed.find?_key_eq_some_iff (candidatesAfter_keys_nodup host payloads last),
      KeyedMap.get, Keyed.find?_key_eq_some_iff (KeyedMap.nodup _)]
    exact and_congr_left' (List.perm_insertionSort _ _).mem_iff
  rw [hfind]
  exact hsorted.of_mem_iff fun payload => (List.perm_insertionSort _ _).mem_iff

theorem lt_of_mem_candidatesAfter {host : LocaleHost D} {candidate : AirtableSettleCandidate}
    (h : candidate ∈ candidatesAfter host payloads last) :
    last < candidate.transactionNumber := by
  have hfind := (Keyed.find?_key_eq_some_iff (candidatesAfter_keys_nodup host payloads last)).mpr
    ⟨h, rfl⟩
  have hlatest := candidatesAfter_latest host payloads last candidate.key
  rw [hfind] at hlatest
  obtain ⟨⟨payload, -, hnew, -, heq⟩, -⟩ := hlatest
  exact lt_of_lt_of_eq hnew heq

/-! ## The numbers of a page -/

theorem mem_transactionNumbers {n : ℕ} :
    n ∈ transactionNumbers payloads ↔ ∃ p ∈ payloads, p.transactionNumber = n := by
  simp [transactionNumbers, (List.perm_insertionSort _ _).mem_iff]

theorem transactionNumbers_strict (payloads : List AirtableWebhookPayload) :
    (transactionNumbers payloads).Pairwise (· < ·) := by
  have hle := List.pairwise_insertionSort (· ≤ ·) (payloads.map (·.transactionNumber)).dedup
  have hne : (transactionNumbers payloads).Nodup :=
    (List.perm_insertionSort _ _).nodup_iff.mpr (List.nodup_dedup _)
  exact hle.imp₂ (fun _ _ h hne => lt_of_le_of_ne h hne) hne

theorem consecutiveFrom_iff :
    ∀ {expected : ℕ} {numbers : List ℕ}, numbers.Pairwise (· < ·) →
      (∀ m ∈ numbers, expected ≤ m) →
      (consecutiveFrom expected numbers = true ↔
        ∀ m ∈ numbers, ∀ n, expected ≤ n → n ≤ m → n ∈ numbers)
  | expected, [], _, _ => by simp [consecutiveFrom]
  | expected, number :: numbers, hstrict, hge => by
    obtain ⟨hfirst, hrest⟩ := List.pairwise_cons.mp hstrict
    have hnumber := hge number List.mem_cons_self
    simp only [consecutiveFrom, Bool.and_eq_true, decide_eq_true_eq]
    constructor
    · rintro ⟨rfl, hconsecutive⟩ m hm n hn hnm
      rcases hn.eq_or_lt with rfl | hn
      · exact List.mem_cons_self
      · rcases List.mem_cons.mp hm with rfl | hm
        · omega
        · exact List.mem_cons_of_mem _
            ((consecutiveFrom_iff hrest fun m hm => hfirst m hm).mp hconsecutive m hm n hn hnm)
    · intro h
      have hexpected : number = expected := by
        rcases List.mem_cons.mp (h number List.mem_cons_self expected le_rfl hnumber) with heq | hmem
        · exact heq.symm
        · exact absurd (hfirst expected hmem) (by omega)
      refine ⟨hexpected, (consecutiveFrom_iff hrest fun m hm => ?_).mpr ?_⟩
      · exact hexpected ▸ hfirst m hm
      · intro m hm n hn hnm
        rcases List.mem_cons.mp (h m (List.mem_cons_of_mem _ hm) n (by omega) hnm) with heq | hmem
        · omega
        · exact hmem

section

variable {state : AirtableInboundCursorState} {page : AirtableWebhookPayloadPage}

theorem mem_newNumbers {n : ℕ} :
    n ∈ state.newNumbers page ↔
      (∃ p ∈ page.payloads, p.transactionNumber = n) ∧ state.lastTransactionNumber < n := by
  simp [AirtableInboundCursorState.newNumbers, mem_transactionNumbers]

theorem consecutive_newNumbers_iff :
    consecutiveFrom (state.lastTransactionNumber + 1) (state.newNumbers page) = true ↔
      ∀ p ∈ page.payloads, ∀ n, state.lastTransactionNumber < n → n ≤ p.transactionNumber →
        ∃ q ∈ page.payloads, q.transactionNumber = n := by
  have hstrict : (state.newNumbers page).Pairwise (· < ·) :=
    (transactionNumbers_strict _).filter _
  rw [consecutiveFrom_iff hstrict fun m hm => (mem_newNumbers.mp hm).2]
  constructor
  · intro h p hp n hn hnp
    exact (mem_newNumbers.mp
      (h _ (mem_newNumbers.mpr ⟨⟨p, hp, rfl⟩, hn.trans_le hnp⟩) n hn hnp)).1
  · intro h m hm n hn hnm
    obtain ⟨⟨p, hp, rfl⟩, -⟩ := mem_newNumbers.mp hm
    exact mem_newNumbers.mpr ⟨h p hp n hn hnm, hn⟩

theorem le_foldl_max (numbers : List ℕ) (last : ℕ) :
    last ≤ numbers.foldl max last ∧ (∀ n ∈ numbers, n ≤ numbers.foldl max last) ∧
      (numbers.foldl max last = last ∨ numbers.foldl max last ∈ numbers) := by
  induction numbers generalizing last with
  | nil => simp
  | cons number numbers ih =>
    obtain ⟨hlast, hmem, hreached⟩ := ih (max last number)
    refine ⟨(le_max_left _ _).trans hlast, ?_, ?_⟩
    · rintro n (_ | ⟨_, hn⟩)
      · exact (le_max_right _ _).trans hlast
      · exact hmem n hn
    · rcases hreached with heq | hin
      · rcases max_choice last number with hmax | hmax
        · exact .inl (by rw [List.foldl_cons, heq, hmax])
        · exact .inr (by rw [List.foldl_cons, heq, hmax]; exact List.mem_cons_self)
      · exact .inr (List.mem_cons_of_mem _ hin)

theorem nextTransactionNumber_spec (state : AirtableInboundCursorState)
    (page : AirtableWebhookPayloadPage) :
    state.lastTransactionNumber ≤ state.nextTransactionNumber page ∧
      (∀ p ∈ page.payloads, p.transactionNumber ≤ state.nextTransactionNumber page) ∧
      (state.nextTransactionNumber page = state.lastTransactionNumber ∨
        ∃ p ∈ page.payloads, p.transactionNumber = state.nextTransactionNumber page) := by
  obtain ⟨hlast, hmem, hreached⟩ :=
    le_foldl_max (transactionNumbers page.payloads) state.lastTransactionNumber
  exact ⟨hlast, fun p hp => hmem _ (mem_transactionNumbers.mpr ⟨p, hp, rfl⟩),
    hreached.imp id mem_transactionNumbers.mp⟩

end

end JooEvents
