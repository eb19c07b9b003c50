import JooEvents.Airtable.Candidates

/-!
# Webhook paging

Workers list the payloads of a webhook in whatever pages the provider makes of them and race
for the commits of a repository that compares and sets. `AirtableCursorStore` is what the
repository holds, and `AirtableWebhookProvider.Exec` how it and the provider answer.

Every commit is of a page that was listed from what is stored (`CursorAsk`). So commits follow
one another without overlap (`CommitsInOrder`), and as long as no page ends inside a
transaction, what is scheduled is the latest change of every record so far
(`ScheduleExact`). A page that does end inside one takes the rest of the transaction for
processed, and its changes are lost.
-/

namespace JooEvents

open Fallible

variable {D ι : Type}

/-- The cursor and the settle heads of a connection, with the commits that led there. -/
structure AirtableCursorStore where
  state : AirtableInboundCursorState
  heads : ReducedCandidates
  commits : List AirtableCursorCommit

def scheduleSettle (heads : ReducedCandidates) (candidate : AirtableSettleCandidate) :
    ReducedCandidates :=
  if (heads.get candidate.key).any fun head =>
      decide (candidate.transactionNumber < head.transactionNumber)
    then heads else heads.set candidate

namespace AirtableCursorStore

variable (store : AirtableCursorStore)

/-- What a commit was made from is what is stored. -/
def Current (input : AirtableCursorCommit) : Prop :=
  input.state.connectionId = store.state.connectionId ∧
    input.state.webhookId = store.state.webhookId ∧
    input.state.cursor = store.state.cursor ∧
    input.state.lastTransactionNumber = store.state.lastTransactionNumber

/-- `commitInboundCursorPage`, of a commit that is current. -/
def commit (input : AirtableCursorCommit) : AirtableCursorStore where
  state := { store.state with
    cursor := some input.nextCursor
    lastTransactionNumber := input.nextTransactionNumber }
  heads := input.candidates.foldl scheduleSettle store.heads
  commits := store.commits ++ [input]

end AirtableCursorStore

/-- The payloads of a webhook, and how many of them a cursor is behind. -/
structure AirtableWebhookProvider where
  stream : List AirtableWebhookPayload
  position : String → ℕ

namespace AirtableWebhookProvider

variable (provider : AirtableWebhookProvider)

/-- How many payloads a cursor is behind, if there is one. -/
def at? (cursor : Option String) : ℕ := cursor.elim 0 provider.position

def upTo (cursor : Option String) : List AirtableWebhookPayload :=
  provider.stream.take (provider.at? cursor)

/-- A page that may be listed from a cursor : it may begin before the cursor. -/
structure Listed (cursor : Option String) (page : AirtableWebhookPayloadPage) : Prop where
  forward : provider.at? cursor ≤ provider.position page.cursor
  payloads : ∃ first ≤ provider.at? cursor,
    page.payloads = (provider.upTo (some page.cursor)).drop first

/-- How the provider and the repository answer a call. A commit may fail in any case. -/
inductive Exec : AirtableCursorStore → (c : AirtableCursorCall) → c.Answer →
    AirtableCursorStore → Prop where
  | read {store : AirtableCursorStore} {connectionId : String} :
      Exec store (.read connectionId) (some store.state) store
  | unregistered {store : AirtableCursorStore} {connectionId : String} :
      Exec store (.read connectionId) none store
  | listed {store : AirtableCursorStore} {baseId webhookId : String} {cursor : Option String}
      {page : AirtableWebhookPayloadPage} (hlisted : provider.Listed cursor page) :
      Exec store (.listWebhookPayloads baseId webhookId cursor) (.ok page) store
  | failed {store : AirtableCursorStore} {baseId webhookId : String} {cursor : Option String}
      {failure : AirtableProviderFailure} :
      Exec store (.listWebhookPayloads baseId webhookId cursor) (.error failure) store
  | committed {store : AirtableCursorStore} {input : AirtableCursorCommit}
      (hcurrent : store.Current input) : Exec store (.commitPage input) true (store.commit input)
  | lost {store : AirtableCursorStore} {input : AirtableCursorCommit} :
      Exec store (.commitPage input) false store

/-- A page that ends there ends inside a transaction after `start`. -/
def Cuts (start position : ℕ) : Prop :=
  ∃ p ∈ provider.stream.take position, ∃ q ∈ provider.stream.drop position,
    p.transactionNumber = q.transactionNumber ∧ start < p.transactionNumber

/-- No transaction after `start` is missing. -/
def Complete (start : ℕ) : Prop :=
  ∀ q ∈ provider.stream, ∀ n, start < n → n ≤ q.transactionNumber →
    ∃ p ∈ provider.stream, p.transactionNumber = n

/-- The payloads come in the order of their transactions. -/
def Ordered : Prop :=
  provider.stream.Pairwise fun p q => p.transactionNumber ≤ q.transactionNumber

/-- Nothing was committed yet, and what is before the cursor is not after `start`. -/
structure Fresh (start : ℕ) (store : AirtableCursorStore) : Prop where
  last : store.state.lastTransactionNumber = start
  heads : store.heads = KeyedMap.empty
  commits : store.commits = []
  before : ∀ p ∈ provider.upTo store.state.cursor, p.transactionNumber ≤ start

end AirtableWebhookProvider

abbrev CursorConfiguration (ι : Type) : Type :=
  Configuration AirtableCursorCall AirtableCursorCall.Answer AirtableCursorError
    AirtableInboundCursorResult AirtableCursorStore ι

/-- The call lists a page, if it does, that ends at such a position. -/
def AirtableWebhookProvider.EndsAt (provider : AirtableWebhookProvider) (ends : ℕ → Prop) :
    (c : AirtableCursorCall) → c.Answer → Prop
  | .listWebhookPayloads _ _ _, .ok page => ends (provider.position page.cursor)
  | _, _ => True

/-! ## What the workers ask -/

section

variable {provider : AirtableWebhookProvider} {host : LocaleHost D} {ends : ℕ → Prop}
  {Inv : AirtableCursorStore → Prop}

/-- The candidates that are committed with a page. -/
def pageCandidates (host : LocaleHost D) (state : AirtableInboundCursorState)
    (page : AirtableWebhookPayloadPage) : List AirtableSettleCandidate :=
  if consecutiveFrom (state.lastTransactionNumber + 1) (state.newNumbers page) then
    candidatesAfter host page.payloads state.lastTransactionNumber
  else []

theorem pageCandidates_congr {state state' : AirtableInboundCursorState}
    (h : state.lastTransactionNumber = state'.lastTransactionNumber)
    (page : AirtableWebhookPayloadPage) :
    pageCandidates host state page = pageCandidates host state' page := by
  cases state
  cases state'
  cases h
  rfl

/-- What a worker may call : a commit is of a page listed from the state it names. -/
def CursorAsk (provider : AirtableWebhookProvider) (host : LocaleHost D) (ends : ℕ → Prop) :
    AirtableCursorCall → Prop
  | .commitPage input => ∃ page, provider.Listed input.state.cursor page ∧
      ends (provider.position page.cursor) ∧ input.nextCursor = page.cursor ∧
      input.nextTransactionNumber = input.state.nextTransactionNumber page ∧
      input.candidates = pageCandidates host input.state page
  | _ => True

/-- What a worker may be answered : a page that may be listed. -/
def CursorReply (provider : AirtableWebhookProvider) (ends : ℕ → Prop) :
    (c : AirtableCursorCall) → c.Answer → Prop
  | .listWebhookPayloads _ _ cursor, .ok page =>
      provider.Listed cursor page ∧ ends (provider.position page.cursor)
  | _, _ => True

/-- What the workers rely on and keep, with an invariant of the store. -/
def cursorContract (provider : AirtableWebhookProvider) (host : LocaleHost D) (ends : ℕ → Prop)
    (Inv : AirtableCursorStore → Prop) :
    Contract AirtableCursorCall AirtableCursorCall.Answer AirtableCursorStore where
  Inv := Inv
  Le _ _ := True
  Ask _ := CursorAsk provider host ends
  Reply _ c answer _ := CursorReply provider ends c answer

theorem cursorReply_of_exec {store store' : AirtableCursorStore} {c : AirtableCursorCall}
    {answer : c.Answer} (h : provider.Exec store c answer store')
    (hends : provider.EndsAt ends c answer) : CursorReply provider ends c answer := by
  cases h with
  | listed hlisted => exact ⟨hlisted, hends⟩
  | _ => trivial

theorem cursorLoop_respects (input : AirtableCursorInput) :
    ∀ (remaining pages scheduled : ℕ) (state : AirtableInboundCursorState)
      (store : AirtableCursorStore),
      (cursorLoop host input remaining pages scheduled state).Respects
        (cursorContract provider host ends Inv) store
  | 0, _, _, _, _ => trivial
  | remaining + 1, pages, scheduled, state, _ => by
    refine fun _ _ _ => ⟨trivial, fun answer _ hreply => ?_⟩
    cases answer with
    | error failure => trivial
    | ok page =>
      obtain ⟨hlisted, hends⟩ : provider.Listed state.cursor page ∧
        ends (provider.position page.cursor) := hreply
      change (ite _ _ _ : CursorWorker _).Respects _ _
      by_cases hmissing : consecutiveFrom (state.lastTransactionNumber + 1)
        (state.newNumbers page) = true
      · rw [if_neg (not_not.mpr hmissing)]
        by_cases hstalled : page.mightHaveMore ∧ some page.cursor = state.cursor
        · rw [if_pos hstalled]
          trivial
        · rw [if_neg hstalled]
          refine fun _ _ _ =>
            ⟨⟨page, hlisted, hends, rfl, rfl, ?_⟩, fun (committed : Bool) _ _ => ?_⟩
          · rw [pageCandidates]
            exact (if_pos hmissing).symm
          · cases committed with
            | false => trivial
            | true =>
              change (ite _ _ _ : CursorWorker _).Respects _ _
              by_cases hmore : page.mightHaveMore = true
              · rw [if_neg (not_not.mpr hmore)]
                exact cursorLoop_respects input remaining _ _ _ _
              · rw [if_pos hmore]
                trivial
      · rw [if_pos hmissing]
        refine fun _ _ _ => ⟨⟨page, hlisted, hends, rfl, rfl, ?_⟩, fun _ _ _ => trivial⟩
        rw [pageCandidates]
        exact (if_neg hmissing).symm

theorem processAirtableWebhookCursor_respects (input : AirtableCursorInput)
    (store : AirtableCursorStore) :
    (processAirtableWebhookCursor host input).Respects
      (cursorContract provider host ends Inv) store := by
  refine (Process.Respects.ofExcept _).bind fun _ _ =>
    (Process.Respects.ofExcept _).bind fun _ _ _ _ _ => ⟨trivial, fun answer _ _ => ?_⟩
  cases answer with
  | none => trivial
  | some state => exact cursorLoop_respects input _ _ _ state _

/-- Each commit begins where or after the one before it ended. -/
structure CommitsInOrder (provider : AirtableWebhookProvider) (store : AirtableCursorStore) :
    Prop where
  forward : ∀ c ∈ store.commits, provider.at? c.state.cursor ≤ provider.position c.nextCursor
  past : ∀ c ∈ store.commits, provider.position c.nextCursor ≤ provider.at? store.state.cursor
  ordered : store.commits.Pairwise fun c c' =>
    provider.position c.nextCursor ≤ provider.at? c'.state.cursor

theorem exec_cases {store store' : AirtableCursorStore} {c : AirtableCursorCall}
    {answer : c.Answer} (h : provider.Exec store c answer store')
    (hask : CursorAsk provider host ends c) :
    store' = store ∨ ∃ input page, store.Current input ∧ store' = store.commit input ∧
      provider.Listed store.state.cursor page ∧ ends (provider.position page.cursor) ∧
      input.nextCursor = page.cursor ∧
      input.nextTransactionNumber = store.state.nextTransactionNumber page ∧
      input.candidates = pageCandidates host store.state page := by
  cases h with
  | @committed input hcurrent =>
    obtain ⟨page, hlisted, hends, hcursor, hnext, hcandidates⟩ := hask
    refine .inr ⟨input, page, hcurrent, rfl, hcurrent.2.2.1 ▸ hlisted, hends, hcursor, ?_, ?_⟩
    · simpa only [AirtableInboundCursorState.nextTransactionNumber, hcurrent.2.2.2] using hnext
    · exact hcandidates.trans (pageCandidates_congr hcurrent.2.2.2 page)
  | _ => exact .inl rfl

theorem CommitsInOrder.exec {store store' : AirtableCursorStore} {c : AirtableCursorCall}
    {answer : c.Answer} (h : CommitsInOrder provider store)
    (hask : CursorAsk provider host ends c) (hexec : provider.Exec store c answer store') :
    CommitsInOrder provider store' := by
  rcases exec_cases hexec hask with rfl | ⟨input, page, hcurrent, rfl, hlisted, -, hcursor, -, -⟩
  · exact h
  · have hforward : provider.at? store.state.cursor ≤ provider.position input.nextCursor :=
      hcursor ▸ hlisted.forward
    refine ⟨fun c hc => ?_, fun c hc => ?_, ?_⟩
    · rcases List.mem_append.mp hc with hc | hc
      · exact h.forward c hc
      · rw [List.mem_singleton.mp hc, hcurrent.2.2.1]
        exact hforward
    · rcases List.mem_append.mp hc with hc | hc
      · exact (h.past c hc).trans hforward
      · rw [List.mem_singleton.mp hc]
        rfl
    · refine List.pairwise_append.mpr ⟨h.ordered, List.pairwise_singleton _ _, fun c hc c' hc' => ?_⟩
      rw [List.mem_singleton.mp hc', hcurrent.2.2.1]
      exact h.past c hc

theorem last_le_of_exec {store store' : AirtableCursorStore} {c : AirtableCursorCall}
    {answer : c.Answer} (hask : CursorAsk provider host ends c)
    (hexec : provider.Exec store c answer store') :
    store.state.lastTransactionNumber ≤ store'.state.lastTransactionNumber := by
  rcases exec_cases hexec hask with rfl | ⟨input, page, -, rfl, -, -, -, hnext, -⟩
  · exact le_rfl
  · change _ ≤ input.nextTransactionNumber
    rw [hnext]
    exact (nextTransactionNumber_spec store.state page).1

/-! ## Schedules -/

/-- What is scheduled is the latest change of every record among the payloads so far. -/
structure ScheduleExact (provider : AirtableWebhookProvider) (start : ℕ)
    (store : AirtableCursorStore) : Prop where
  start_le : start ≤ store.state.lastTransactionNumber
  covered : ∀ p ∈ provider.upTo store.state.cursor,
    p.transactionNumber ≤ store.state.lastTransactionNumber
  reached : store.state.lastTransactionNumber = start ∨
    ∃ p ∈ provider.upTo store.state.cursor,
      p.transactionNumber = store.state.lastTransactionNumber
  whole : ¬ provider.Cuts start (provider.at? store.state.cursor)
  heads : ∀ key, LatestChange start key (provider.upTo store.state.cursor)
    ((store.heads.get key).map (·.transactionNumber))

theorem foldl_scheduleSettle :
    ∀ (candidates : List AirtableSettleCandidate) (heads : ReducedCandidates),
      (candidates.map (·.key)).Nodup →
      (∀ c ∈ candidates, ∀ head ∈ heads.get c.key,
        head.transactionNumber ≤ c.transactionNumber) →
      candidates.foldl scheduleSettle heads = candidates.foldl KeyedMap.set heads
  | [], heads, _, _ => rfl
  | candidate :: candidates, heads, hnodup, hnewer => by
    obtain ⟨hnotin, hnodup⟩ := List.nodup_cons.mp hnodup
    have hset : scheduleSettle heads candidate = heads.set candidate := by
      refine if_neg fun hany => ?_
      obtain ⟨head, hhead, hlt⟩ := (Option.any_eq_true _ _).mp hany
      exact absurd (hnewer candidate List.mem_cons_self head hhead) (by simpa using hlt)
    rw [List.foldl_cons, List.foldl_cons, hset]
    refine foldl_scheduleSettle candidates _ hnodup fun c hc head hhead => ?_
    have hne : candidate.key ≠ c.key := fun heq => hnotin (List.mem_map.mpr ⟨c, hc, heq.symm⟩)
    rw [KeyedMap.get_set, if_neg hne] at hhead
    exact hnewer c (List.mem_cons_of_mem _ hc) head hhead

theorem AirtableWebhookProvider.Ordered.le_of_behind (hordered : provider.Ordered)
    {position : ℕ} {p q : AirtableWebhookPayload} (hp : p ∈ provider.stream.take position)
    (hq : q ∈ provider.stream.drop position) : p.transactionNumber ≤ q.transactionNumber := by
  rw [AirtableWebhookProvider.Ordered, ← List.take_append_drop position provider.stream,
    List.pairwise_append] at hordered
  exact hordered.2.2 p hp q hq

theorem ScheduleExact.mem_page {start : ℕ} {store : AirtableCursorStore}
    {page : AirtableWebhookPayloadPage} (h : ScheduleExact provider start store)
    (hordered : provider.Ordered) (hlisted : provider.Listed store.state.cursor page)
    {p : AirtableWebhookPayload} (hp : p ∈ provider.upTo (some page.cursor))
    (hstart : start < p.transactionNumber) :
    p ∈ provider.upTo store.state.cursor ∨
      p ∈ page.payloads ∧ store.state.lastTransactionNumber < p.transactionNumber := by
  by_cases hbefore : p ∈ provider.upTo store.state.cursor
  · exact .inl hbefore
  · -- the payload is behind the stored cursor, so in the page and in a new transaction
    have hsplit := List.take_append_drop (provider.at? store.state.cursor)
      (provider.upTo (some page.cursor))
    have htake : (provider.upTo (some page.cursor)).take (provider.at? store.state.cursor) =
        provider.upTo store.state.cursor := by
      rw [AirtableWebhookProvider.upTo, List.take_take]
      exact congrArg (fun n => provider.stream.take n) (min_eq_left hlisted.forward)
    rw [← hsplit, htake, List.mem_append] at hp
    have hdrop := hp.resolve_left hbefore
    obtain ⟨first, hfirst, hpayloads⟩ := hlisted.payloads
    refine .inr ⟨?_, ?_⟩
    · rw [hpayloads]
      refine List.mem_of_mem_drop (i := provider.at? store.state.cursor - first) ?_
      rwa [List.drop_drop, Nat.add_sub_cancel' hfirst]
    · have hbehind : p ∈ provider.stream.drop (provider.at? store.state.cursor) := by
        rw [AirtableWebhookProvider.upTo, List.drop_take] at hdrop
        exact List.mem_of_mem_take hdrop
      rcases h.reached with hlast | ⟨q, hq, hlast⟩
      · exact hlast ▸ hstart
      · have hle := hordered.le_of_behind hq hbehind
        refine lt_of_le_of_ne (hlast ▸ hle) fun heq => h.whole ⟨q, hq, p, hbehind, ?_, ?_⟩
        · exact hlast.trans heq
        · exact (hlast.trans heq) ▸ hstart

theorem ScheduleExact.consecutive {start : ℕ} {store : AirtableCursorStore}
    {page : AirtableWebhookPayloadPage} (h : ScheduleExact provider start store)
    (hordered : provider.Ordered) (hcomplete : provider.Complete start)
    (hlisted : provider.Listed store.state.cursor page) :
    consecutiveFrom (store.state.lastTransactionNumber + 1) (store.state.newNumbers page) =
      true := by
  rw [consecutive_newNumbers_iff]
  intro p hp n hn hnp
  have hpage : p ∈ provider.upTo (some page.cursor) := by
    obtain ⟨first, -, hpayloads⟩ := hlisted.payloads
    exact List.mem_of_mem_drop (hpayloads ▸ hp)
  obtain ⟨q, hq, rfl⟩ := hcomplete p (List.mem_of_mem_take hpage) n (h.start_le.trans_lt hn) hnp
  have hstart := h.start_le.trans_lt hn
  rcases List.mem_append.mp ((List.take_append_drop
    (provider.at? (some page.cursor)) provider.stream).symm ▸ hq) with hin | hbehind
  · rcases h.mem_page hordered hlisted hin hstart with hold | ⟨hin, -⟩
    · exact absurd (h.covered q hold) (by omega)
    · exact ⟨q, hin, rfl⟩
  · -- what is behind the page is no earlier than it, so the number is that of the payload
    exact ⟨p, hp, le_antisymm (hordered.le_of_behind hpage hbehind) hnp⟩

theorem ScheduleExact.exec {start : ℕ} {store store' : AirtableCursorStore}
    {c : AirtableCursorCall} {answer : c.Answer} (h : ScheduleExact provider start store)
    (hordered : provider.Ordered) (hcomplete : provider.Complete start)
    (hask : CursorAsk provider host (fun position => ¬ provider.Cuts start position) c)
    (hexec : provider.Exec store c answer store') : ScheduleExact provider start store' := by
  rcases exec_cases hexec hask with
    rfl | ⟨input, page, -, rfl, hlisted, hwhole, hcursor, hnext, hcandidates⟩
  · exact h
  · rw [pageCandidates, if_pos (h.consecutive hordered hcomplete hlisted)] at hcandidates
    obtain ⟨hlast, hpage, hreached⟩ := nextTransactionNumber_spec store.state page
    have hupTo : provider.upTo (store.commit input).state.cursor =
        provider.upTo (some page.cursor) := congrArg (fun s => provider.upTo (some s)) hcursor
    have hnewLast : (store.commit input).state.lastTransactionNumber =
        store.state.nextTransactionNumber page := hnext
    have hold : ∀ p ∈ provider.upTo store.state.cursor, p ∈ provider.upTo (some page.cursor) :=
      fun p hp => List.take_subset_take_left _ hlisted.forward hp
    have hlistedMem : ∀ p ∈ page.payloads, p ∈ provider.upTo (some page.cursor) := by
      obtain ⟨first, -, hpayloads⟩ := hlisted.payloads
      exact fun p hp => List.mem_of_mem_drop (hpayloads ▸ hp)
    refine ⟨?_, ?_, ?_, ?_, fun key => ?_⟩
    · rw [hnewLast]
      exact h.start_le.trans hlast
    · rw [hnewLast, hupTo]
      intro p hp
      by_cases hstart : start < p.transactionNumber
      · rcases h.mem_page hordered hlisted hp hstart with hp | ⟨hp, -⟩
        · exact (h.covered p hp).trans hlast
        · exact hpage p hp
      · have := h.start_le
        omega
    · rw [hnewLast, hupTo]
      rcases hreached with heq | ⟨p, hp, heq⟩
      · rw [heq]
        exact h.reached.imp id fun ⟨p, hp, hlast⟩ => ⟨p, hold p hp, hlast⟩
      · exact .inr ⟨p, hlistedMem p hp, heq⟩
    · change ¬ provider.Cuts start (provider.position input.nextCursor)
      rwa [hcursor]
    · rw [hupTo]
      have hnodup := candidatesAfter_keys_nodup host page.payloads store.state.lastTransactionNumber
      have hlatest := candidatesAfter_latest host page.payloads
        store.state.lastTransactionNumber key
      rw [← hcandidates] at hnodup hlatest
      have hheads : (store.commit input).heads = input.candidates.foldl KeyedMap.set store.heads := by
        refine foldl_scheduleSettle _ _ hnodup fun candidate hcandidate head hhead => ?_
        have hhead' := h.heads candidate.key
        rw [hhead] at hhead'
        obtain ⟨⟨p, hp, -, -, heq⟩, -⟩ := hhead'
        have hnewer := lt_of_mem_candidatesAfter (hcandidates ▸ hcandidate)
        exact heq.symm.le.trans ((h.covered p hp).trans hnewer.le)
      rw [hheads, KeyedMap.get_foldl_set key _ _ hnodup, Option.map_or]
      exact (h.heads key).extend hlatest h.start_le h.covered hold hlistedMem
        fun p hp hstart => h.mem_page hordered hlisted hp hstart

theorem cursorLoop_missing {input : AirtableCursorInput} {remaining pages scheduled n : ℕ}
    {state : AirtableInboundCursorState} {page : AirtableWebhookPayloadPage}
    {p : AirtableWebhookPayload}
    {events : List (Process.Event AirtableCursorCall AirtableCursorCall.Answer)}
    {r : Except AirtableCursorError AirtableInboundCursorResult} (hp : p ∈ page.payloads)
    (hn : state.lastTransactionNumber < n) (hnp : n ≤ p.transactionNumber)
    (hmissing : ∀ q ∈ page.payloads, q.transactionNumber ≠ n)
    (h : (cursorLoop host input (remaining + 1) pages scheduled state).Runs
      (⟨.listWebhookPayloads state.baseId state.webhookId state.cursor, .ok page⟩ :: events) r) :
    ∃ committed : Bool, events = [⟨.commitPage (input.commit state page []), committed⟩] ∧
      r = .ok (if committed then .retention_recovery_required else .contended) := by
  obtain ⟨answer, rest, heq, h⟩ := Process.runs_call_iff.mp h
  cases heq
  change Process.Runs (ite _ _ _ : CursorWorker _) _ _ at h
  rw [if_pos] at h
  · obtain ⟨committed, rest, rfl, hend⟩ := Process.runs_call_iff.mp h
    obtain ⟨rfl, rfl⟩ := Process.runs_done_iff.mp hend
    exact ⟨committed, rfl, rfl⟩
  · intro hconsecutive
    obtain ⟨q, hq, heq⟩ := consecutive_newNumbers_iff.mp hconsecutive p hp n hn hnp
    exact hmissing q hq heq

/-! ## Every interleaving -/

def cursorWorkers (host : LocaleHost D) (inputs : ι → AirtableCursorInput)
    (store : AirtableCursorStore) : CursorConfiguration ι :=
  ⟨store, fun i => processAirtableWebhookCursor host (inputs i)⟩

end

abbrev CursorSteps (ι : Type) : Type :=
  List (CursorConfiguration ι ×
    (ι × Process.Event AirtableCursorCall AirtableCursorCall.Answer) × CursorConfiguration ι)

section

variable {host : LocaleHost D} {provider : AirtableWebhookProvider}
  {inputs : ι → AirtableCursorInput} {store : AirtableCursorStore} {start : ℕ}
  {steps : CursorSteps ι} {final : CursorConfiguration ι}

theorem cursorWorkers_sound {Inv : AirtableCursorStore → Prop} {ends : ℕ → Prop}
    (h : Inv store) :
    (cursorWorkers host inputs store).Sound (cursorContract provider host ends Inv) :=
  ⟨h, fun _ => processAirtableWebhookCursor_respects _ _⟩

theorem cursorContract_kept {Inv : AirtableCursorStore → Prop} {ends : ℕ → Prop}
    (hinv : ∀ {w c answer w'}, Inv w → CursorAsk provider host ends c →
      provider.Exec w c answer w' → Inv w') :
    Configuration.Kept (cursorContract provider host ends Inv) provider.Exec
      fun _ e _ => provider.EndsAt ends e.1 e.2 where
  refl _ := trivial
  trans _ _ := trivial
  reply _ _ hexec hends := cursorReply_of_exec hexec hends
  le _ _ _ _ := trivial
  inv h hask hexec _ := hinv h hask hexec

theorem endsAt_true (c : AirtableCursorCall) (answer : c.Answer) :
    provider.EndsAt (fun _ => True) c answer := by
  unfold AirtableWebhookProvider.EndsAt
  split <;> trivial

variable [DecidableEq ι]

theorem commitsInOrder_of_run (hfresh : provider.Fresh start store)
    (hrun : Trace (Configuration.Step provider.Exec) (cursorWorkers host inputs store) steps
      final) :
    Trace.All (fun s _ t =>
      s.world.state.lastTransactionNumber ≤ t.world.state.lastTransactionNumber) steps ∧
      CommitsInOrder provider final.world := by
  have hstart : (cursorWorkers host inputs store).Sound
      (cursorContract provider host (fun _ => True) (CommitsInOrder provider)) := by
    refine cursorWorkers_sound ⟨?_, ?_, ?_⟩ <;> simp [hfresh.commits]
  have hkept : Configuration.Kept
      (cursorContract provider host (fun _ => True) (CommitsInOrder provider)) provider.Exec
      fun _ e _ => provider.EndsAt (fun _ => True) e.1 e.2 :=
    cursorContract_kept fun h hask hexec => h.exec hask hexec
  exact ⟨hstart.all_of_run hkept
      (fun w _ w' => w.state.lastTransactionNumber ≤ w'.state.lastTransactionNumber)
      (fun _ (hask : CursorAsk provider host (fun _ => True) _) hexec =>
        last_le_of_exec hask hexec) hrun fun _ _ _ _ => endsAt_true _ _,
    (hstart.of_run hkept hrun fun _ _ _ _ => endsAt_true _ _).world⟩

theorem scheduleExact_of_run (hfresh : provider.Fresh start store) (hordered : provider.Ordered)
    (hcomplete : provider.Complete start)
    (hrun : Trace (Configuration.Step provider.Exec) (cursorWorkers host inputs store) steps final)
    (hwhole : Trace.All (fun _ e _ =>
      provider.EndsAt (fun position => ¬ provider.Cuts start position) e.2.1 e.2.2) steps) :
    ScheduleExact provider start final.world := by
  have hstart : (cursorWorkers host inputs store).Sound (cursorContract provider host
      (fun position => ¬ provider.Cuts start position) (ScheduleExact provider start)) := by
    refine cursorWorkers_sound ⟨hfresh.last.ge, ?_, .inl hfresh.last, ?_, fun key => ?_⟩
    · exact fun p hp => hfresh.last ▸ hfresh.before p hp
    · rintro ⟨p, hp, q, -, -, hstart⟩
      exact absurd (hfresh.before p hp) (by omega)
    · rw [hfresh.heads]
      exact fun p hp hstart => absurd (hfresh.before p hp) (by omega)
  exact (hstart.of_run (cursorContract_kept fun h hask hexec =>
    h.exec hordered hcomplete hask hexec) hrun hwhole).world

/-- However the workers race and whatever pages the provider lists : the last transaction never
decreases, commits do not overlap, and a page that lacks a transaction is committed without
candidates and reported for recovery. As long as no page ends inside a transaction, what is
scheduled is the latest change of every record that was changed after the start. -/
theorem webhook_processing (host : LocaleHost D) (provider : AirtableWebhookProvider)
    (inputs : ι → AirtableCursorInput) {store : AirtableCursorStore} {start : ℕ}
    (hfresh : provider.Fresh start store) (hordered : provider.Ordered) {steps : CursorSteps ι}
    {final : CursorConfiguration ι}
    (hrun : Trace (Configuration.Step provider.Exec) (cursorWorkers host inputs store) steps
      final) :
    Trace.All (fun s _ t =>
        s.world.state.lastTransactionNumber ≤ t.world.state.lastTransactionNumber) steps ∧
      CommitsInOrder provider final.world ∧
      (∀ (input : AirtableCursorInput) (remaining pages scheduled n : ℕ)
          (state : AirtableInboundCursorState) (page : AirtableWebhookPayloadPage)
          (events : List (Process.Event AirtableCursorCall AirtableCursorCall.Answer))
          (r : Except AirtableCursorError AirtableInboundCursorResult),
        state.lastTransactionNumber < n → (∃ p ∈ page.payloads, n ≤ p.transactionNumber) →
        (∀ q ∈ page.payloads, q.transactionNumber ≠ n) →
        (cursorLoop host input (remaining + 1) pages scheduled state).Runs
          (⟨.listWebhookPayloads state.baseId state.webhookId state.cursor, .ok page⟩ :: events)
          r →
        ∃ committed : Bool, events = [⟨.commitPage (input.commit state page []), committed⟩] ∧
          r = .ok (if committed then .retention_recovery_required else .contended)) ∧
      (provider.Complete start →
        Trace.All (fun _ e _ =>
          provider.EndsAt (fun position => ¬ provider.Cuts start position) e.2.1 e.2.2) steps →
        ∀ key, LatestChange start key (provider.upTo final.world.state.cursor)
          ((final.world.heads.get key).map (·.transactionNumber))) := by
  obtain ⟨hlast, hcommits⟩ := commitsInOrder_of_run hfresh hrun
  refine ⟨hlast, hcommits, ?_, fun hcomplete hwhole =>
    (scheduleExact_of_run hfresh hordered hcomplete hrun hwhole).heads⟩
  rintro input remaining pages scheduled n state page events r hn ⟨p, hp, hnp⟩ hmissing h
  exact cursorLoop_missing hp hn hnp hmissing h

end

/-! ## A transaction in two payloads -/

/-- Two payloads of one transaction, about two records. -/
def splitProvider : AirtableWebhookProvider where
  stream := ["recA", "recB"].map fun recordId =>
    { transactionNumber := 1, timestamp := "2026-08-17T00:00:01.000Z", source := .client,
      actor := none,
      changes := [{ tableId := "tbl1", recordId := recordId, changedFieldIds := ["fldA"],
                    kind := .updated }] }
  position := fun cursor => if cursor = "1" then 1 else 2

/-- The page of its payloads from `first` up to a cursor. -/
def splitPage (cursor : String) (mightHaveMore : Bool) (first : ℕ) : AirtableWebhookPayloadPage where
  cursor := cursor
  mightHaveMore := mightHaveMore
  payloads := (splitProvider.upTo (some cursor)).drop first

theorem splitPage_listed {start : Option String} {cursor : String} (mightHaveMore : Bool)
    (h : splitProvider.at? start ≤ splitProvider.position cursor) :
    splitProvider.Listed start (splitPage cursor mightHaveMore (splitProvider.at? start)) :=
  ⟨h, _, le_rfl, rfl⟩

def newCursorStore : AirtableCursorStore where
  state := {
    connectionId := "connection-1", mappingRevision := 1, baseId := "app1", webhookId := "ach1",
    cursor := none, lastTransactionNumber := 0 }
  heads := KeyedMap.empty
  commits := []

def defaultCursorInput : AirtableCursorInput where
  connectionId := "connection-1"
  nowMs := 10000
  settleDelayMs := none
  maximumPages := none

theorem newCursorStore_fresh : splitProvider.Fresh 0 newCursorStore :=
  ⟨rfl, rfl, rfl, by decide⟩

theorem splitProvider_ordered : splitProvider.Ordered := by
  unfold AirtableWebhookProvider.Ordered
  decide

theorem splitProvider_complete : splitProvider.Complete 0 := by
  intro q hq n hn hnq
  have hone : ∀ p ∈ splitProvider.stream, p.transactionNumber = 1 := by decide
  have := hone q hq
  exact ⟨q, hq, by omega⟩

/-- Listed in one page, the transaction is scheduled for both records. -/
theorem webhook_processing_whole : ∃ (steps : CursorSteps Unit) (final : CursorConfiguration Unit),
    Trace (Configuration.Step splitProvider.Exec)
      (cursorWorkers plainLocale (fun _ => defaultCursorInput) newCursorStore) steps final ∧
    final.world.state.cursor = some "2" ∧
    ∀ key, LatestChange 0 key splitProvider.stream
      ((final.world.heads.get key).map (·.transactionNumber)) := by
  have hrun : ∃ (steps : CursorSteps Unit) (final : CursorConfiguration Unit),
      Trace (Configuration.Step splitProvider.Exec)
        (cursorWorkers plainLocale (fun _ => defaultCursorInput) newCursorStore) steps final ∧
      final.world.state.cursor = some "2" ∧
      Trace.All (fun _ e _ => splitProvider.EndsAt
        (fun position => ¬ splitProvider.Cuts 0 position) e.2.1 e.2.2) steps := by
    refine ⟨_, _, ((Trace.nil.snoc (.call (i := ()) rfl .read)).snoc
      (.call (i := ()) rfl (.listed (splitPage_listed false (by decide : _ ≤
        splitProvider.position "2"))))).snoc
      (.call (i := ()) rfl (.committed ⟨rfl, rfl, rfl, rfl⟩)), rfl, ?_⟩
    simp only [Trace.all_snoc, Trace.all_nil, true_and]
    refine ⟨⟨trivial, ?_⟩, trivial⟩
    rintro ⟨p, -, q, hq, -⟩
    exact absurd (show q ∈ ([] : List AirtableWebhookPayload) from hq) List.not_mem_nil
  obtain ⟨steps, final, hrun, hcursor, hwhole⟩ := hrun
  have hexact := (webhook_processing plainLocale splitProvider (fun _ => defaultCursorInput)
    newCursorStore_fresh splitProvider_ordered hrun).2.2.2 splitProvider_complete hwhole
  rw [hcursor] at hexact
  exact ⟨steps, final, hrun, hcursor, hexact⟩

/-- Listed in two pages, it is scheduled for the record of the first page alone, and the worker
is done with everything. -/
theorem split_transaction_dropped :
    ∃ (steps : CursorSteps Unit) (final : CursorConfiguration Unit),
      Trace (Configuration.Step splitProvider.Exec)
        (cursorWorkers plainLocale (fun _ => defaultCursorInput) newCursorStore) steps final ∧
      final.workers () = .done (.processed 2 1) ∧ final.world.state.cursor = some "2" ∧
      ¬ ∀ key, LatestChange 0 key splitProvider.stream
        ((final.world.heads.get key).map (·.transactionNumber)) := by
  refine ⟨_, _, ((((Trace.nil.snoc (.call (i := ()) rfl .read)).snoc
    (.call (i := ()) rfl (.listed (splitPage_listed true (by decide : _ ≤
      splitProvider.position "1"))))).snoc
    (.call (i := ()) rfl (.committed ⟨rfl, rfl, rfl, rfl⟩))).snoc
    (.call (i := ()) rfl (.listed (splitPage_listed false (by decide : _ ≤
      splitProvider.position "2"))))).snoc
    (.call (i := ()) rfl (.committed ⟨rfl, rfl, rfl, rfl⟩)), rfl, rfl, fun h => ?_⟩
  have hmissing : LatestChange 0 ("tbl1", "recB") splitProvider.stream none := h ("tbl1", "recB")
  exact hmissing _ (List.mem_cons_of_mem _ List.mem_cons_self) (by decide) (by decide)

end JooEvents
