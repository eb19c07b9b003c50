import JooEvents.Engagement.Seeds

/-!
# Runs of seeds and reversals

The history of a store records its seeds, each with the rows it added and whether it has
been reversed (`EngagementHistory`). A step is a seed by a decision of its own, an
invitation, a response or a reversal. Every step keeps the records exact
(`EngagementHistory.Sound.step`), so in every run a reversal of a recorded seed is refused
or removes its rows (`engagement_seeding_exact`).
-/

namespace JooEvents

open Fallible

variable {D : Type} [DecidableEq D] {host : Host D} {hex : D → CanonicalSha256}

/-- A seed that took place : its input and the rows that it added. -/
structure EngagementSeedRecord (host : Host D) where
  change : EngagementSeedInput D
  rows : List (EngagementHead host)
  reversed : Bool

def EngagementSeedInput.reversal (change : EngagementSeedInput D) : EngagementSeedReversalInput D :=
  { scope := change.scope
    sessionId := change.sessionId
    submissionId := change.submissionId
    seededByDecision := change.seededByDecision }

/-- The rows of a seed that no reversal has removed. -/
def EngagementSeedRecord.standing (record : EngagementSeedRecord host) :
    List (EngagementHead host) :=
  if record.reversed then [] else record.rows

/-- A store and the seeds that led to it. -/
structure EngagementHistory (host : Host D) where
  store : EngagementStore host
  seeds : List (EngagementSeedRecord host)

/-- A decision that no recorded seed and no head is pinned to. -/
def EngagementHistory.Fresh (history : EngagementHistory host)
    (pin : EngagementSeedProvenance D) : Prop :=
  (∀ record ∈ history.seeds, record.change.seededByDecision ≠ pin) ∧
    ∀ head ∈ history.store.heads, head.val.seededByDecision ≠ some pin

def EngagementSeedRecord.afterReversal (input : EngagementSeedReversalInput D)
    (record : EngagementSeedRecord host) : EngagementSeedRecord host :=
  if record.change.reversal = input then { record with reversed := true } else record

/-- One step of a history. A refused plan is no step. -/
inductive EngagementStep (hex : D → CanonicalSha256) :
    EngagementHistory host → EngagementHistory host → Prop where
  | seed {history change plan store} (hfresh : history.Fresh change.seededByDecision)
      (hplan : planEngagementSeedFrom hex history.store change = .ok plan)
      (happly : applyEngagementSeed history.store plan = .ok store) :
      EngagementStep hex history
        { store, seeds := history.seeds ++ [{ change, rows := plan.heads, reversed := false }] }
  | invite {history input plan store}
      (hplan : planEngagementRosterInviteFrom hex history.store input = .ok plan)
      (happly : applyEngagementRosterInvite history.store plan = .ok store) :
      EngagementStep hex history { history with store }
  | respond {history input plan store}
      (hplan : planEngagementMutation history.store input = .ok plan)
      (happly : applyEngagementPlan history.store plan = .ok store) :
      EngagementStep hex history { history with store }
  | reverse {history input plan store}
      (hplan : planEngagementSeedReversalFrom history.store input = .ok plan)
      (happly : applyEngagementSeedReversal history.store plan = .ok store) :
      EngagementStep hex history
        { store, seeds := history.seeds.map (·.afterReversal input) }

/-! ## Exact records -/

/-- The heads pinned to a seed are the rows of it that stand, as they were or advanced. -/
structure EngagementSeedRecord.Sound (store : EngagementStore host)
    (record : EngagementSeedRecord host) : Prop where
  seeded : ∀ row ∈ record.rows, row.AsSeeded ∧ record.change.reversal.Selects row
  sorted : (record.rows.map (·.val.personId)).Pairwise (· < ·)
  few : record.rows.length ≤ engagementSeedPersonsMax
  carried : ∀ head ∈ store.heads,
    head.val.seededByDecision = some record.change.seededByDecision →
      record.change.reversal.Selects head ∧ ∃ row ∈ record.standing, row.pair = head.pair
  stands : ∀ row ∈ record.standing, ∃ head ∈ store.heads, head.pair = row.pair ∧
    head.val.seededByDecision = some record.change.seededByDecision ∧
      (head = row ∨ head.val.version ≠ .one)

omit [DecidableEq D] in
theorem EngagementSeedRecord.standing_sublist (record : EngagementSeedRecord host) :
    record.standing.Sublist record.rows := by
  unfold standing
  split
  · exact List.nil_sublist _
  · exact List.Sublist.refl _

namespace EngagementSeedRecord.Sound

variable {store : EngagementStore host} {record : EngagementSeedRecord host}

omit [DecidableEq D] in
theorem mem_rows (record : EngagementSeedRecord host) {row : EngagementHead host}
    (hrow : row ∈ record.standing) : row ∈ record.rows :=
  record.standing_sublist.subset hrow

theorem personIds_selectedHeads (h : record.Sound store) :
    (selectedHeads store record.change.reversal).map (·.val.personId) =
      record.standing.map (·.val.personId) := by
  refine (sorted_selectedHeads store _).eq_of_mem_iff
    (h.sorted.sublist (record.standing_sublist.map _)) fun personId => ?_
  simp only [List.mem_map, mem_selectedHeads]
  constructor
  · rintro ⟨head, ⟨hmem, hselects⟩, rfl⟩
    obtain ⟨-, row, hrow, hpair⟩ := h.carried head hmem hselects.2.2.2
    exact ⟨row, hrow, (Prod.mk.inj (Prod.mk.inj hpair).2).2⟩
  · rintro ⟨row, hrow, rfl⟩
    obtain ⟨head, hmem, hpair, hpin, -⟩ := h.stands row hrow
    exact ⟨head, ⟨hmem, (h.carried head hmem hpin).1⟩, (Prod.mk.inj (Prod.mk.inj hpair).2).2⟩

theorem length_selectedHeads (h : record.Sound store) :
    (selectedHeads store record.change.reversal).length ≤ engagementSeedPersonsMax := by
  have hlength := congrArg List.length h.personIds_selectedHeads
  rw [List.length_map, List.length_map] at hlength
  rw [hlength]
  exact (record.standing_sublist.length_le).trans h.few

theorem selectedHeads_eq (h : record.Sound store)
    (hstore : ∀ row ∈ record.standing, row ∈ store.heads) :
    selectedHeads store record.change.reversal = record.standing := by
  let before (left right : EngagementHead host) : Prop := left.val.personId < right.val.personId
  have : Std.Irrefl before := ⟨fun head => lt_irrefl head.val.personId⟩
  have : Std.Antisymm before := ⟨fun left right hlt hgt => absurd hgt hlt.asymm⟩
  have hsorted := List.pairwise_map.mp (sorted_selectedHeads store record.change.reversal)
  have hrows := List.pairwise_map.mp (h.sorted.sublist (record.standing_sublist.map _))
  refine List.Pairwise.eq_of_mem_iff (r := before) hsorted hrows fun head => ?_
  rw [mem_selectedHeads]
  constructor
  · rintro ⟨hmem, hselects⟩
    obtain ⟨-, row, hrow, hpair⟩ := h.carried head hmem hselects.2.2.2
    exact store.eq_of_pair_eq (hstore row hrow) hmem hpair ▸ hrow
  · exact fun hrow => ⟨hstore head hrow, (h.seeded head (mem_rows record hrow)).2⟩

theorem reversal (h : record.Sound store) :
    (∃ plan reversed, planEngagementSeedReversalFrom store record.change.reversal = .ok plan ∧
      plan.heads = record.standing ∧ (∀ row ∈ record.standing, row ∈ store.heads) ∧
      applyEngagementSeedReversal store plan = .ok reversed ∧
      reversed.heads = store.heads.filter (· ∉ record.standing)) ∨
    (∃ row ∈ record.standing, row ∉ store.heads ∧
      planEngagementSeedReversalFrom store record.change.reversal =
        .error (.seed .engagement_advanced row.val.personId)) := by
  cases hplan : planEngagementSeedReversalFrom store record.change.reversal with
  | ok plan =>
    left
    obtain ⟨-, hheads, hseeded⟩ := of_planEngagementSeedReversalFrom hplan
    have hstore : ∀ row ∈ record.standing, row ∈ store.heads := by
      intro row hrow
      obtain ⟨head, hmem, -, hpin, hsame⟩ := h.stands row hrow
      have hselects := (h.carried head hmem hpin).1
      have hversion := (hseeded head (mem_selectedHeads.mpr ⟨hmem, hselects⟩)).2.1
      exact hsame.resolve_right (fun hne => hne hversion) ▸ hmem
    obtain ⟨reversed, happly, hreversed⟩ := apply_of_planEngagementSeedReversalFrom hplan
    have hstanding := hheads.trans (h.selectedHeads_eq hstore)
    refine ⟨plan, reversed, rfl, hstanding, hstore, happly, ?_⟩
    rw [hreversed, hstanding]
  | error e =>
    right
    obtain ⟨head, hhead, hadvanced, rfl⟩ :=
      planEngagementSeedReversalFrom_eq_error h.length_selectedHeads hplan
    obtain ⟨hmem, hselects⟩ := mem_selectedHeads.mp hhead
    obtain ⟨-, row, hrow, hpair⟩ := h.carried head hmem hselects.2.2.2
    refine ⟨row, hrow, fun hstore => ?_, ?_⟩
    · rw [← store.eq_of_pair_eq hstore hmem hpair] at hadvanced
      exact hadvanced (h.seeded row (mem_rows record hrow)).1
    · rw [show row.val.personId = head.val.personId from (Prod.mk.inj (Prod.mk.inj hpair).2).2]

/-! ### What a step keeps -/

omit [DecidableEq D] in
theorem of_heads (h : record.Sound store) {store' : EngagementStore host}
    (hheads : ∀ head : EngagementHead host,
      head.val.seededByDecision = some record.change.seededByDecision →
        (head ∈ store'.heads ↔ head ∈ store.heads)) : record.Sound store' where
  seeded := h.seeded
  sorted := h.sorted
  few := h.few
  carried := fun head hmem hpin => h.carried head ((hheads head hpin).mp hmem) hpin
  stands := fun row hrow => by
    obtain ⟨head, hmem, hpair, hpin, hsame⟩ := h.stands row hrow
    exact ⟨head, (hheads head hpin).mpr hmem, hpair, hpin, hsame⟩

theorem of_seed {change : EngagementSeedInput D} {plan : EngagementSeedPlan host}
    {store' : EngagementStore host}
    (hnew : ∀ head ∈ store.heads, head.val.seededByDecision ≠ some change.seededByDecision)
    (hplan : planEngagementSeedFrom hex store change = .ok plan)
    (hheads : store'.heads = store.heads ++ plan.heads) :
    Sound store' { change, rows := plan.heads, reversed := false } where
  seeded := fun row hrow => by
    obtain ⟨personId, -, -, hval⟩ := (mem_heads_of_planEngagementSeedFrom hplan).mp hrow
    simp only [EngagementHead.AsSeeded, EngagementSeedReversalInput.Selects, hval, seededHead,
      EngagementSeedInput.reversal, and_self]
  sorted := sorted_heads_of_planEngagementSeedFrom hplan
  few := by
    simp only [planEngagementSeedFrom, bind_eq_ok, require_eq_ok, pure_eq_ok, Prod.exists] at hplan
    obtain ⟨-, -, rows, skipped, -, -, hschema, rfl⟩ := hplan
    simp only [engagementSeedPlanSchema, Bool.and_eq_true, decide_eq_true_eq] at hschema
    rw [EngagementSeedPlan.heads, List.length_map]
    exact hschema.1.1.1.2
  carried := fun head hmem hpin => by
    rw [hheads, List.mem_append] at hmem
    have hrow := hmem.resolve_left fun hold => hnew head hold hpin
    obtain ⟨personId, -, -, hval⟩ := (mem_heads_of_planEngagementSeedFrom hplan).mp hrow
    refine ⟨?_, head, hrow, rfl⟩
    simp only [EngagementSeedReversalInput.Selects, hval, seededHead,
      EngagementSeedInput.reversal, and_self]
  stands := fun row hrow => by
    obtain ⟨personId, -, -, hval⟩ := (mem_heads_of_planEngagementSeedFrom hplan).mp hrow
    refine ⟨row, ?_, rfl, ?_, Or.inl rfl⟩
    · rw [hheads]
      exact List.mem_append_right _ hrow
    · rw [hval]
      rfl

theorem of_update (h : record.Sound store) {before after : EngagementHead host}
    {store' : EngagementStore host} (hbefore : before ∈ store.heads)
    (hpair : after.pair = before.pair)
    (hheads : store'.heads = store.heads.map fun head => if head = before then after else head)
    (hsubmission : after.val.submissionId = before.val.submissionId)
    (hdecision : after.val.seededByDecision = before.val.seededByDecision)
    (hversion : after.val.version ≠ .one) : record.Sound store' where
  seeded := h.seeded
  sorted := h.sorted
  few := h.few
  carried := fun head hmem hpin => by
    rw [hheads, List.mem_map] at hmem
    obtain ⟨old, hold, rfl⟩ := hmem
    split at hpin
    · next heq =>
      rw [hdecision] at hpin
      obtain ⟨hselects, row, hrow, hrowPair⟩ := h.carried before hbefore hpin
      rw [if_pos heq, hpair]
      refine ⟨?_, row, hrow, hrowPair⟩
      obtain ⟨hscope, hsession⟩ := Prod.mk.inj hpair
      refine ⟨hscope.trans hselects.1, (Prod.mk.inj hsession).1.trans hselects.2.1, ?_, ?_⟩
      · rw [hsubmission, hselects.2.2.1]
      · rw [hdecision, hselects.2.2.2]
    · next hne =>
      rw [if_neg hne]
      exact h.carried old hold hpin
  stands := fun row hrow => by
    obtain ⟨head, hmem, hrowPair, hpin, hsame⟩ := h.stands row hrow
    by_cases heq : head = before
    · refine ⟨after, ?_, ?_, ?_, Or.inr hversion⟩
      · rw [hheads]
        exact List.mem_map.mpr ⟨before, hbefore, if_pos rfl⟩
      · rw [hpair, ← heq, hrowPair]
      · rw [hdecision, ← heq, hpin]
    · refine ⟨head, ?_, hrowPair, hpin, hsame⟩
      rw [hheads]
      exact List.mem_map.mpr ⟨head, hmem, if_neg heq⟩

theorem of_reversal (h : record.Sound store) {input : EngagementSeedReversalInput D}
    {store' : EngagementStore host}
    (hheads : store'.heads = store.heads.filter (· ∉ selectedHeads store input)) :
    (record.afterReversal input).Sound store' := by
  unfold afterReversal
  split
  · next heq =>
    refine ⟨h.seeded, h.sorted, h.few, fun head hmem hpin => ?_, fun row hrow => ?_⟩
    · rw [hheads, List.mem_filter, decide_eq_true_eq] at hmem
      have hselects := (h.carried head hmem.1 hpin).1
      exact absurd (mem_selectedHeads.mpr ⟨hmem.1, heq ▸ hselects⟩) hmem.2
    · exact absurd hrow (List.not_mem_nil)
  · next hne =>
    refine h.of_heads fun head hpin => ?_
    rw [hheads, List.mem_filter, decide_eq_true_eq, and_iff_left_iff_imp]
    intro hmem hselected
    obtain ⟨hscope, hsession, hsubmission, -⟩ := (h.carried head hmem hpin).1
    obtain ⟨hscope', hsession', hsubmission', hpin'⟩ := (mem_selectedHeads.mp hselected).2
    refine hne ?_
    cases input
    simp only [EngagementSeedInput.reversal, EngagementSeedReversalInput.mk.injEq]
    exact ⟨hscope.symm.trans hscope', hsession.symm.trans hsession',
      Option.some.inj (hsubmission.symm.trans hsubmission'),
      Option.some.inj (hpin.symm.trans hpin')⟩

end EngagementSeedRecord.Sound

/-! ## Runs -/

def EngagementHistory.Sound (history : EngagementHistory host) : Prop :=
  ∀ record ∈ history.seeds, record.Sound history.store

theorem heads_of_applyEngagementRosterInvite {store store' : EngagementStore host}
    {plan : EngagementRosterInvitePlan host}
    (h : applyEngagementRosterInvite store plan = .ok store') :
    store'.heads = store.heads ∨ ∃ create : EngagementHead host,
      create.val.seededByDecision = none ∧ store'.heads = store.heads ++ [create] := by
  unfold applyEngagementRosterInvite at h
  simp only [bind_eq_ok, require_eq_ok, exists_const] at h
  obtain ⟨hschema, h⟩ := h
  split at h
  · simp only [bind_eq_ok, require_eq_ok, pure_eq_ok, exists_const] at h
    exact Or.inl (by rw [h.2])
  · simp only [bind_eq_ok, require_eq_ok, orRefuse_eq_ok, exists_const] at h
    obtain ⟨-, create, hcreate, hinsert⟩ := h
    simp only [engagementRosterInvitePlanSchema, hcreate, Bool.and_eq_true, Option.all_some,
      decide_eq_true_eq] at hschema
    exact Or.inr ⟨create, hschema.2.2.1, (EngagementStore.insertHead_eq_ok.mp hinsert).2⟩

theorem EngagementHistory.Sound.step {history history' : EngagementHistory host}
    (h : history.Sound) (hstep : EngagementStep hex history history') : history'.Sound := by
  cases hstep with
  | @seed change plan store hfresh hplan happly =>
    obtain ⟨seeded, happly', hheads⟩ := apply_of_planEngagementSeedFrom hplan
    obtain rfl : seeded = store := Except.ok.inj (happly'.symm.trans happly)
    intro record hrecord
    rcases List.mem_append.mp hrecord with hrecord | hrecord
    · refine (h record hrecord).of_heads fun head hpin => ?_
      rw [hheads, List.mem_append, or_iff_left_iff_imp]
      intro hrow
      obtain ⟨personId, -, -, hval⟩ := (mem_heads_of_planEngagementSeedFrom hplan).mp hrow
      rw [hval] at hpin
      exact absurd (Option.some.inj hpin).symm (hfresh.1 record hrecord)
    · rw [List.mem_singleton.mp hrecord]
      exact .of_seed hfresh.2 hplan hheads
  | @invite input plan store hplan happly =>
    intro record hrecord
    refine (h record hrecord).of_heads fun head hpin => ?_
    rcases heads_of_applyEngagementRosterInvite happly with hheads | ⟨create, hnone, hheads⟩
    · rw [hheads]
    · rw [hheads, List.mem_append, List.mem_singleton, or_iff_left_iff_imp]
      rintro rfl
      rw [hnone] at hpin
      cases hpin
  | @respond input plan store hplan happly =>
    simp only [applyEngagementPlan, bind_eq_ok, require_eq_ok, exists_const] at happly
    obtain ⟨hschema, hupdate⟩ := happly
    simp only [engagementMutationPlanSchema, Bool.and_eq_true, decide_eq_true_eq] at hschema
    obtain ⟨⟨⟨-, -, hnext⟩, -⟩, hsubmission, hdecision⟩ := hschema
    obtain ⟨⟨hbefore, hpair⟩, hheads⟩ := EngagementStore.updateHead_eq_ok.mp hupdate
    refine fun record hrecord => (h record hrecord).of_update hbefore hpair hheads
      hsubmission.symm hdecision.symm fun hone => ?_
    have hpositive := plan.before.val.version.property.1
    rw [hone] at hnext
    exact hpositive.ne' (Nat.succ.inj hnext).symm
  | @reverse input plan store hplan happly =>
    obtain ⟨reversed, happly', hheads⟩ := apply_of_planEngagementSeedReversalFrom hplan
    obtain rfl : reversed = store := Except.ok.inj (happly'.symm.trans happly)
    rw [(of_planEngagementSeedReversalFrom hplan).2.1] at hheads
    intro record hrecord
    obtain ⟨recorded, hrecorded, rfl⟩ := List.mem_map.mp hrecord
    exact (h recorded hrecorded).of_reversal hheads

theorem EngagementHistory.Sound.of_run {start : EngagementStore host}
    {history : EngagementHistory host}
    (hrun : Relation.ReflTransGen (EngagementStep hex) ⟨start, []⟩ history) : history.Sound := by
  induction hrun with
  | refl => exact fun record hrecord => absurd hrecord (List.not_mem_nil)
  | tail _ hstep ih => exact ih.step hstep

theorem reversal_of_seed {store seeded : EngagementStore host} {change : EngagementSeedInput D}
    {plan : EngagementSeedPlan host}
    (hnew : ∀ head ∈ store.heads, head.val.seededByDecision ≠ some change.seededByDecision)
    (hplan : planEngagementSeedFrom hex store change = .ok plan)
    (happly : applyEngagementSeed store plan = .ok seeded) :
    ∃ reversal, planEngagementSeedReversalFrom seeded change.reversal = .ok reversal ∧
      applyEngagementSeedReversal seeded reversal = .ok store := by
  obtain ⟨seeded', happly', hheads⟩ := apply_of_planEngagementSeedFrom hplan
  obtain rfl : seeded' = seeded := Except.ok.inj (happly'.symm.trans happly)
  have hsound := EngagementSeedRecord.Sound.of_seed hnew hplan hheads
  rcases hsound.reversal with ⟨reversal, reversed, hreversal, -, -, hrestore, hreversed⟩ |
    ⟨row, hrow, hmissing, -⟩
  · refine ⟨reversal, hreversal, ?_⟩
    rw [hrestore, Except.ok.injEq, EngagementStore.ext_iff, hreversed, hheads, List.filter_append]
    have hold : store.heads.filter (· ∉ plan.heads) = store.heads :=
      List.filter_eq_self.mpr fun head hhead => decide_eq_true fun hrow => by
        obtain ⟨personId, -, -, hval⟩ := (mem_heads_of_planEngagementSeedFrom hplan).mp hrow
        exact hnew head hhead (by rw [hval]; rfl)
    have hrows : plan.heads.filter (· ∉ plan.heads) = [] :=
      List.filter_eq_nil_iff.mpr fun head hhead => by simpa using hhead
    exact (congrArg₂ (· ++ ·) hold hrows).trans (List.append_nil _)
  · rw [hheads] at hmissing
    exact absurd (List.mem_append_right _ hrow) hmissing

/-- What seeds and reversals do in a history.
The order and the repetitions of the persons do not matter to a seed. A seed keeps the heads
there are and adds one invited head for each person without one. Reversing a fresh seed at once
restores the store. A reversal of a recorded seed removes the rows of it that stand, or is
refused because one of them has advanced. No reversal removes another head. -/
structure EngagementHistory.Exact (hex : D → CanonicalSha256) (history : EngagementHistory host) :
    Prop where
  order : ∀ (change : EngagementSeedInput D) (personIds : List ApplicationId),
    (∀ personId, personId ∈ personIds ↔ personId ∈ change.personIds) →
      planEngagementSeedFrom hex history.store { change with personIds } =
        planEngagementSeedFrom hex history.store change
  seed : ∀ change plan, planEngagementSeedFrom hex history.store change = .ok plan →
    ∃ seeded, applyEngagementSeed history.store plan = .ok seeded ∧
      seeded.heads = history.store.heads ++ plan.heads ∧
      (plan.heads.map (·.val.personId)).Nodup ∧
      ∀ head, head ∈ plan.heads ↔ ∃ personId ∈ change.personIds,
        (∀ other ∈ history.store.heads, other.pair ≠ (change.scope, change.sessionId, personId)) ∧
          head.val = seededHead host hex change personId
  undo : ∀ change plan seeded, history.Fresh change.seededByDecision →
    planEngagementSeedFrom hex history.store change = .ok plan →
      applyEngagementSeed history.store plan = .ok seeded →
        ∃ reversal, planEngagementSeedReversalFrom seeded change.reversal = .ok reversal ∧
          applyEngagementSeedReversal seeded reversal = .ok history.store
  reversal : ∀ record ∈ history.seeds,
    (∃ plan reversed,
      planEngagementSeedReversalFrom history.store record.change.reversal = .ok plan ∧
        plan.heads = record.standing ∧ (∀ row ∈ record.standing, row ∈ history.store.heads) ∧
        applyEngagementSeedReversal history.store plan = .ok reversed ∧
        reversed.heads = history.store.heads.filter (· ∉ record.standing)) ∨
    (∃ row ∈ record.standing, row ∉ history.store.heads ∧
      planEngagementSeedReversalFrom history.store record.change.reversal =
        .error (.seed .engagement_advanced row.val.personId))
  others : ∀ input plan reversed, planEngagementSeedReversalFrom history.store input = .ok plan →
    applyEngagementSeedReversal history.store plan = .ok reversed →
      reversed.heads.Sublist history.store.heads ∧
        ∀ head ∈ history.store.heads, head ∉ reversed.heads →
          input.Selects head ∧ head.AsSeeded

/-- Seeding engagements and reversing it are exact, in every history. -/
theorem engagement_seeding_exact {start : EngagementStore host} {history : EngagementHistory host}
    (hrun : Relation.ReflTransGen (EngagementStep hex) ⟨start, []⟩ history) :
    history.Exact hex where
  order := fun _ _ hsame => planEngagementSeedFrom_congr hsame
  seed := fun change plan hplan => by
    obtain ⟨seeded, happly, hheads⟩ := apply_of_planEngagementSeedFrom hplan
    exact ⟨seeded, happly, hheads, (sorted_heads_of_planEngagementSeedFrom hplan).imp ne_of_lt,
      fun _ => mem_heads_of_planEngagementSeedFrom hplan⟩
  undo := fun _ _ _ hfresh hplan happly => reversal_of_seed hfresh.2 hplan happly
  reversal := fun record hrecord => (EngagementHistory.Sound.of_run hrun record hrecord).reversal
  others := fun input plan reversed hplan happly => by
    obtain ⟨reversed', happly', hheads⟩ := apply_of_planEngagementSeedReversalFrom hplan
    obtain rfl : reversed' = reversed := Except.ok.inj (happly'.symm.trans happly)
    obtain ⟨-, hselected, hseeded⟩ := of_planEngagementSeedReversalFrom hplan
    rw [hheads]
    refine ⟨List.filter_sublist, fun head hmem hremoved => ?_⟩
    rw [List.mem_filter, decide_eq_true_eq, not_and_not_right, hselected] at hremoved
    exact ⟨(mem_selectedHeads.mp (hremoved hmem)).2, hseeded head (hremoved hmem)⟩

namespace SeedExample

def fingerprint : SymbolicDigest → ℕ
  | .null => 1
  | .bool b => if b then 2 else 3
  | .num q => 5 * q.num.natAbs + q.den
  | .text s => (codeUnits s).foldl (fun n unit => 31 * n + unit) 7
  | .digest d => 7 * fingerprint d + 11
  | .nil => 13
  | .item head tail => 17 * fingerprint head + 19 * fingerprint tail + 1
  | .member key head tail =>
    23 * (codeUnits key).foldl (fun n unit => 31 * n + unit) 7 + 29 * fingerprint head +
      37 * fingerprint tail
  | .arr items => 41 * fingerprint items
  | .obj members => 43 * fingerprint members

def hexText (digest : SymbolicDigest) : CanonicalSha256 :=
  ⟨String.ofList (ApplicationId.decimalDigits 64 (fingerprint digest)), by
    rw [String.toList_ofList]
    refine matchesShape_replicate (ApplicationId.length_decimalDigits 64 _) fun c hc => ?_
    rw [isHexChar, ApplicationId.isDigitChar_of_mem_decimalDigits hc, Bool.true_or]⟩

def change (decision : Version) (personIds : List ℕ) : EngagementSeedInput SymbolicDigest :=
  { scope := { workspaceId := .ofNat 1, eventId := .ofNat 2 }
    sessionId := .ofNat 3
    submissionId := .ofNat 4
    seededByDecision := { version := decision, digestSha256 := .null }
    source := { kind := "submission", id := (ApplicationId.ofNat 4).val, version := .one }
    personIds := personIds.map .ofNat
    invitedAt := .yearStart 2026
    respondBy := none }

def empty : EngagementStore SymbolicDigest.host := ⟨[], List.nodup_nil⟩

/-- Two acceptances seed persons, one of them the same, and the first person declines. -/
def outcome : Except EngagementError (EngagementHistory SymbolicDigest.host) := do
  let first ← planEngagementSeedFrom hexText empty (change .one [6, 5, 6])
  let one ← applyEngagementSeed empty first
  let second ← planEngagementSeedFrom hexText one (change ⟨2, isPositiveSafe_two⟩ [7, 6])
  require (∀ head ∈ one.heads, head.val.seededByDecision ≠ some ⟨⟨2, isPositiveSafe_two⟩, .null⟩) .thrown
  let two ← applyEngagementSeed one second
  let head ← orRefuse two.heads.head? .thrown
  let decline ← planEngagementMutation two
    { action := .decline none
      scope := (change .one []).scope
      occurredAt := .yearStart 2027
      engagementId := head.val.id
      expectedEngagementVersion := .one }
  let three ← applyEngagementPlan two decline
  require (first.heads.length = 2 ∧ second.heads.length = 1) .thrown
  return { store := three,
           seeds := [⟨change .one [6, 5, 6], first.heads, false⟩,
             ⟨change ⟨2, isPositiveSafe_two⟩ [7, 6], second.heads, false⟩] }

theorem outcome_succeeds : outcome.toBool = true := by decide +kernel

example : (canonicalPersonIds (change .one [6, 5, 6]).personIds).length = 2 := by decide +kernel

end SeedExample

/-- Two acceptances seed, one person declines, and both seeds can be reversed or refused. -/
theorem engagement_seeding_exact_two_acceptances :
    ∃ history : EngagementHistory SymbolicDigest.host,
      Relation.ReflTransGen (EngagementStep SeedExample.hexText) ⟨SeedExample.empty, []⟩ history ∧
        history.seeds.map (·.rows.length) = [2, 1] ∧ history.Exact SeedExample.hexText := by
  obtain ⟨history, h⟩ := exists_of_toBool SeedExample.outcome_succeeds
  simp only [SeedExample.outcome, bind_eq_ok, require_eq_ok, orRefuse_eq_ok, pure_eq_ok,
    exists_const] at h
  obtain ⟨first, hfirst, one, hone, second, hsecond, hnew, two, htwo, head, -, decline, hdecline,
    three, hthree, hlengths, rfl⟩ := h
  have hrun : Relation.ReflTransGen (EngagementStep SeedExample.hexText) ⟨SeedExample.empty, []⟩ _ :=
    (((Relation.ReflTransGen.single (.seed ⟨by simp, by simp [SeedExample.empty]⟩ hfirst hone)).tail
      (.seed ⟨by simp [SeedExample.change, Version.one], hnew⟩ hsecond htwo)).tail
        (.respond hdecline hthree))
  exact ⟨_, hrun, by simp [hlengths.1, hlengths.2], engagement_seeding_exact hrun⟩

end JooEvents
