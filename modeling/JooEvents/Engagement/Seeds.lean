import Mathlib.Data.List.Dedup
import Mathlib.Logic.Relation
import JooEvents.Engagement.Domain

/-!
# Seeds and their reversals

A seed adds one invited head for each person that has none, whatever the order of the
persons (`planEngagementSeedFrom_congr`, `apply_of_planEngagementSeedFrom`). In a run of
seeds, invitations, responses and reversals the heads that carry the pin of a seed are the
rows it added, as they were or advanced (`EngagementSeedRecord.Sound`). So a reversal that
is not refused removes exactly these rows (`EngagementSeedRecord.Sound.reversal`).
-/

namespace JooEvents

open Fallible

variable {D : Type} [DecidableEq D] {host : Host D} {hex : D → CanonicalSha256}

/-! ## The store -/

namespace EngagementStore

omit [DecidableEq D] in
theorem insertHead_eq_ok {store store' : EngagementStore host} {head : EngagementHead host} :
    store.insertHead head = .ok store' ↔
      head.pair ∉ store.heads.map EngagementHead.pair ∧ store'.heads = store.heads ++ [head] := by
  unfold insertHead
  split
  · next h => simp [h]
  · next h =>
    rw [Except.ok.injEq, EngagementStore.ext_iff]
    exact ⟨fun heq => ⟨h, heq.symm⟩, fun heq => heq.2.symm⟩

omit [DecidableEq D] in
theorem foldlM_insertHead_eq_ok :
    ∀ {heads : List (EngagementHead host)} {store store' : EngagementStore host},
      heads.foldlM insertHead store = .ok store' ↔
        ((store.heads ++ heads).map EngagementHead.pair).Nodup ∧
          store'.heads = store.heads ++ heads
  | [], store, store' => by
    rw [List.foldlM_nil, pure_eq_ok, List.append_nil, EngagementStore.ext_iff]
    exact ⟨fun h => ⟨store.nodup, h.symm⟩, fun h => h.2.symm⟩
  | head :: heads, store, store' => by
    rw [List.foldlM_cons, bind_eq_ok]
    constructor
    · rintro ⟨inserted, hinsert, hrest⟩
      obtain ⟨-, hheads⟩ := insertHead_eq_ok.mp hinsert
      have h := foldlM_insertHead_eq_ok.mp hrest
      rwa [hheads, List.append_assoc, List.singleton_append] at h
    · rintro ⟨hnodup, hheads⟩
      have hnew : head.pair ∉ store.heads.map EngagementHead.pair := by
        rw [List.map_append, List.map_cons, List.nodup_append] at hnodup
        exact fun hmem => hnodup.2.2 _ hmem _ (List.mem_cons_self ..) rfl
      cases hinsert : store.insertHead head with
      | error e =>
        rw [insertHead, dif_neg hnew] at hinsert
        cases hinsert
      | ok inserted =>
        refine ⟨inserted, rfl, foldlM_insertHead_eq_ok.mpr ?_⟩
        rw [(insertHead_eq_ok.mp hinsert).2, List.append_assoc, List.singleton_append]
        exact ⟨hnodup, hheads⟩

theorem deleteSeededHead_eq_ok {store store' : EngagementStore host} {head : EngagementHead host} :
    store.deleteSeededHead head = .ok store' ↔
      (head ∈ store.heads ∧ head.val.version = .one ∧ head.val.state = .invited) ∧
        store'.heads = store.heads.filter (· ≠ head) := by
  unfold deleteSeededHead
  split
  · next h =>
    rw [Except.ok.injEq, EngagementStore.ext_iff]
    exact ⟨fun heq => ⟨h, heq.symm⟩, fun heq => heq.2.symm⟩
  · next h => simp [h]

theorem updateHead_eq_ok {store store' : EngagementStore host}
    {expected next : EngagementHead host} :
    store.updateHead expected next = .ok store' ↔
      (expected ∈ store.heads ∧ next.pair = expected.pair) ∧
        store'.heads = store.heads.map fun head => if head = expected then next else head := by
  unfold updateHead
  split
  · next h =>
    rw [Except.ok.injEq, EngagementStore.ext_iff]
    exact ⟨fun heq => ⟨h, heq.symm⟩, fun heq => heq.2.symm⟩
  · next h => simp [h]

theorem foldlM_deleteSeededHead_eq_ok :
    ∀ {heads : List (EngagementHead host)} {store store' : EngagementStore host}, heads.Nodup →
      (heads.foldlM deleteSeededHead store = .ok store' ↔
        (∀ head ∈ heads, head ∈ store.heads ∧ head.val.version = .one ∧
          head.val.state = .invited) ∧ store'.heads = store.heads.filter (· ∉ heads))
  | [], store, store', _ => by
    rw [List.foldlM_nil, pure_eq_ok, EngagementStore.ext_iff]
    simp [eq_comm]
  | head :: heads, store, store', hnodup => by
    obtain ⟨hhead, hheads⟩ := List.nodup_cons.mp hnodup
    have hfilter : (store.heads.filter (· ≠ head)).filter (· ∉ heads) =
        store.heads.filter (· ∉ head :: heads) := by
      rw [List.filter_filter]
      refine List.filter_congr fun other _ => ?_
      by_cases hother : other = head <;> simp [hother]
    rw [List.foldlM_cons, bind_eq_ok]
    constructor
    · rintro ⟨deleted, hdelete, hrest⟩
      obtain ⟨hmem, hdeleted⟩ := deleteSeededHead_eq_ok.mp hdelete
      obtain ⟨hall, hstore⟩ := (foldlM_deleteSeededHead_eq_ok hheads).mp hrest
      refine ⟨fun other hother => ?_, by rw [hstore, hdeleted, hfilter]⟩
      rcases List.mem_cons.mp hother with rfl | hother
      · exact hmem
      · obtain ⟨hin, hseeded⟩ := hall other hother
        rw [hdeleted] at hin
        exact ⟨List.mem_of_mem_filter hin, hseeded⟩
    · rintro ⟨hall, hstore⟩
      have hmem := hall head (List.mem_cons_self ..)
      refine ⟨⟨store.heads.filter (· ≠ head), store.nodup.sublist (List.filter_sublist.map _)⟩,
        deleteSeededHead_eq_ok.mpr ⟨hmem, rfl⟩, (foldlM_deleteSeededHead_eq_ok hheads).mpr ?_⟩
      refine ⟨fun other hother => ?_, by rw [hstore, hfilter]⟩
      obtain ⟨hin, hseeded⟩ := hall other (List.mem_cons_of_mem _ hother)
      refine ⟨List.mem_filter.mpr ⟨hin, ?_⟩, hseeded⟩
      rw [decide_eq_true_eq]
      rintro rfl
      exact hhead hother

omit [DecidableEq D] in
theorem readSessionPersonEngagement_eq_none {store : EngagementStore host}
    {scope : EngagementScope} {sessionId personId : ApplicationId} :
    store.readSessionPersonEngagement scope sessionId personId = none ↔
      ∀ head ∈ store.heads, head.pair ≠ (scope, sessionId, personId) :=
  Keyed.find?_key_eq_none_iff

end EngagementStore

/-! ## Seeding -/

theorem mem_canonicalPersonIds {personIds : List ApplicationId} {personId : ApplicationId} :
    personId ∈ canonicalPersonIds personIds ↔ personId ∈ personIds := by
  rw [canonicalPersonIds, List.mem_insertionSort, List.mem_dedup]

theorem canonicalPersonIds_congr {personIds personIds' : List ApplicationId}
    (h : ∀ personId, personId ∈ personIds ↔ personId ∈ personIds') :
    canonicalPersonIds personIds = canonicalPersonIds personIds' := by
  have hperm : personIds.dedup.Perm personIds'.dedup :=
    (List.perm_ext_iff_of_nodup (List.nodup_dedup _) (List.nodup_dedup _)).mpr
      fun personId => by rw [List.mem_dedup, List.mem_dedup, h]
  exact List.Perm.eq_of_pairwise (fun _ _ _ _ => le_antisymm)
    (List.pairwise_insertionSort (· ≤ ·) _) (List.pairwise_insertionSort (· ≤ ·) _)
    ((List.perm_insertionSort _ _).trans (hperm.trans (List.perm_insertionSort _ _).symm))

theorem planEngagementSeedFrom_congr {store : EngagementStore host}
    {change : EngagementSeedInput D} {personIds : List ApplicationId}
    (h : ∀ personId, personId ∈ personIds ↔ personId ∈ change.personIds) :
    planEngagementSeedFrom hex store { change with personIds } =
      planEngagementSeedFrom hex store change := by
  simp only [planEngagementSeedFrom, canonicalPersonIds_congr h]

/-- The persons that have no engagement on the session of a seed. -/
def absentPersonIds (store : EngagementStore host) (input : EngagementSeedInput D)
    (personIds : List ApplicationId) : List ApplicationId :=
  personIds.filter fun personId =>
    (store.readSessionPersonEngagement input.scope input.sessionId personId).isNone

omit [DecidableEq D] in
theorem heads_of_seedRows {store : EngagementStore host} {input : EngagementSeedInput D} :
    ∀ {personIds : List ApplicationId} {rows : List (EngagementSeedRow host)}
      {skippedPersonIds : List ApplicationId},
      seedRows hex store input personIds = .ok (rows, skippedPersonIds) →
        rows.map (·.head.val) =
          (absentPersonIds store input personIds).map (seededHead host hex input)
  | [], rows, skippedPersonIds, h => by
    rw [seedRows, pure_eq_ok, Prod.mk.injEq] at h
    rw [← h.1]
    rfl
  | personId :: personIds, rows, skippedPersonIds, h => by
    rw [seedRows] at h
    split at h
    · next existing hread =>
      simp only [bind_eq_ok, pure_eq_ok, Prod.exists, Prod.mk.injEq] at h
      obtain ⟨rows', skipped, hrest, rfl, -⟩ := h
      rw [heads_of_seedRows hrest, absentPersonIds, absentPersonIds,
        List.filter_cons_of_neg (by simp [hread])]
    · next hread =>
      simp only [bind_eq_ok, pure_eq_ok, Prod.exists, Prod.mk.injEq] at h
      obtain ⟨head, hhead, rows', skipped, hrest, rfl, -⟩ := h
      rw [List.map_cons, heads_of_seedRows hrest, parseEngagementHead_eq_ok.mp hhead,
        absentPersonIds, absentPersonIds, List.filter_cons_of_pos (by simp [hread]),
        List.map_cons]

theorem heads_of_planEngagementSeedFrom {store : EngagementStore host}
    {change : EngagementSeedInput D} {plan : EngagementSeedPlan host}
    (h : planEngagementSeedFrom hex store change = .ok plan) :
    plan.heads.map (·.val) =
      (absentPersonIds store change (canonicalPersonIds change.personIds)).map
        (seededHead host hex change) := by
  simp only [planEngagementSeedFrom, bind_eq_ok, require_eq_ok, pure_eq_ok, Prod.exists] at h
  obtain ⟨-, -, rows, skipped, hrows, -, -, rfl⟩ := h
  rw [EngagementSeedPlan.heads, List.map_map]
  have hheads := heads_of_seedRows hrows
  exact hheads

omit [DecidableEq D] in
theorem mem_absentPersonIds {store : EngagementStore host} {input : EngagementSeedInput D}
    {personIds : List ApplicationId} {personId : ApplicationId} :
    personId ∈ absentPersonIds store input personIds ↔ personId ∈ personIds ∧
      ∀ head ∈ store.heads, head.pair ≠ (input.scope, input.sessionId, personId) := by
  rw [absentPersonIds, List.mem_filter, Option.isNone_iff_eq_none,
    EngagementStore.readSessionPersonEngagement_eq_none]

theorem mem_heads_of_planEngagementSeedFrom {store : EngagementStore host}
    {change : EngagementSeedInput D} {plan : EngagementSeedPlan host}
    (h : planEngagementSeedFrom hex store change = .ok plan) {head : EngagementHead host} :
    head ∈ plan.heads ↔ ∃ personId ∈ change.personIds,
      (∀ other ∈ store.heads, other.pair ≠ (change.scope, change.sessionId, personId)) ∧
        head.val = seededHead host hex change personId := by
  have hval : head ∈ plan.heads ↔ head.val ∈ plan.heads.map (·.val) := by
    rw [List.mem_map_of_injective Subtype.val_injective]
  rw [hval, heads_of_planEngagementSeedFrom h, List.mem_map]
  simp only [mem_absentPersonIds, mem_canonicalPersonIds, and_assoc, eq_comm]

omit [DecidableEq D] in
theorem pair_of_seeded {change : EngagementSeedInput D} {personId : ApplicationId}
    {head : EngagementHead host} (h : head.val = seededHead host hex change personId) :
    head.pair = (change.scope, change.sessionId, personId) := by
  rw [EngagementHead.pair, h]
  rfl

theorem sorted_heads_of_planEngagementSeedFrom {store : EngagementStore host}
    {change : EngagementSeedInput D} {plan : EngagementSeedPlan host}
    (h : planEngagementSeedFrom hex store change = .ok plan) :
    (plan.heads.map (·.val.personId)).Pairwise (· < ·) := by
  have hpersons : plan.heads.map (·.val.personId) =
      absentPersonIds store change (canonicalPersonIds change.personIds) := by
    have hmap := congrArg (List.map EngagementHeadDto.personId) (heads_of_planEngagementSeedFrom h)
    rw [List.map_map, List.map_map] at hmap
    exact hmap.trans (List.map_id _)
  have hle := List.pairwise_insertionSort (· ≤ ·) change.personIds.dedup
  have hnodup : (canonicalPersonIds change.personIds).Nodup :=
    (List.perm_insertionSort _ _).nodup_iff.mpr (List.nodup_dedup _)
  rw [hpersons]
  exact (hle.and hnodup).imp (fun hab => lt_of_le_of_ne hab.1 hab.2) |>.sublist List.filter_sublist

theorem apply_of_planEngagementSeedFrom {store : EngagementStore host}
    {change : EngagementSeedInput D} {plan : EngagementSeedPlan host}
    (h : planEngagementSeedFrom hex store change = .ok plan) :
    ∃ seeded, applyEngagementSeed store plan = .ok seeded ∧
      seeded.heads = store.heads ++ plan.heads := by
  have hschema : engagementSeedPlanSchema plan = true := by
    simp only [planEngagementSeedFrom, bind_eq_ok, require_eq_ok, pure_eq_ok, Prod.exists] at h
    obtain ⟨-, -, rows, skipped, -, -, hschema, rfl⟩ := h
    exact hschema
  have hnodup : ((store.heads ++ plan.heads).map EngagementHead.pair).Nodup := by
    rw [List.map_append]
    refine store.nodup.append ?_ fun pair hold hnew => ?_
    · refine List.pairwise_map.mpr ?_
      exact (List.pairwise_map.mp (sorted_heads_of_planEngagementSeedFrom h)).imp
        fun hlt heq => hlt.ne (Prod.mk.inj (Prod.mk.inj heq).2).2
    · obtain ⟨head, hhead, rfl⟩ := List.mem_map.mp hnew
      obtain ⟨other, hother, hpair⟩ := List.mem_map.mp hold
      obtain ⟨personId, -, habsent, hval⟩ := (mem_heads_of_planEngagementSeedFrom h).mp hhead
      exact habsent other hother (hpair.trans (pair_of_seeded hval))
  refine ⟨⟨store.heads ++ plan.heads, hnodup⟩, ?_, rfl⟩
  rw [applyEngagementSeed, require_true hschema, ok_bind]
  exact EngagementStore.foldlM_insertHead_eq_ok.mpr ⟨hnodup, rfl⟩

/-! ## Reversing -/

/-- A head that the decision of a reversal seeded. -/
def EngagementSeedReversalInput.Selects (input : EngagementSeedReversalInput D)
    (head : EngagementHead host) : Prop :=
  head.val.scope = input.scope ∧ head.val.sessionId = input.sessionId ∧
    head.val.submissionId = some input.submissionId ∧
    head.val.seededByDecision = some input.seededByDecision

def EngagementHead.AsSeeded (head : EngagementHead host) : Prop :=
  head.val.state = .invited ∧ head.val.version = .one ∧ head.val.confirmation = none ∧
    head.val.cancellationRequest = none

def selectedHeads (store : EngagementStore host) (input : EngagementSeedReversalInput D) :
    List (EngagementHead host) :=
  (store.listSeededEngagements input.scope input.sessionId input.submissionId).filter fun head =>
    head.val.seededByDecision = some input.seededByDecision

theorem mem_selectedHeads {store : EngagementStore host} {input : EngagementSeedReversalInput D}
    {head : EngagementHead host} :
    head ∈ selectedHeads store input ↔ head ∈ store.heads ∧ input.Selects head := by
  simp only [selectedHeads, EngagementStore.listSeededEngagements, List.mem_filter,
    List.mem_insertionSort, decide_eq_true_eq, EngagementSeedReversalInput.Selects]
  tauto

theorem sorted_selectedHeads (store : EngagementStore host)
    (input : EngagementSeedReversalInput D) :
    ((selectedHeads store input).map (·.val.personId)).Pairwise (· < ·) := by
  have hle : (selectedHeads store input).Pairwise fun left right =>
      left.val.personId ≤ right.val.personId :=
    (List.pairwise_insertionSort _ _).sublist List.filter_sublist
  have hnodup : (selectedHeads store input).Nodup :=
    ((List.perm_insertionSort _ _).nodup_iff.mpr
      (store.nodup.of_map.sublist List.filter_sublist)).sublist List.filter_sublist
  refine List.pairwise_map.mpr ?_
  refine (hle.and hnodup).imp_of_mem fun hleft hright hboth => lt_of_le_of_ne hboth.1 fun heq => ?_
  obtain ⟨hleft, hscope, hsession, -⟩ := mem_selectedHeads.mp hleft
  obtain ⟨hright, hscope', hsession', -⟩ := mem_selectedHeads.mp hright
  refine hboth.2 (store.eq_of_pair_eq hleft hright ?_)
  rw [EngagementHead.pair, EngagementHead.pair, hscope, hscope', hsession, hsession', heq]

omit [DecidableEq D] in
theorem reversalRow_eq_ok {head : EngagementHead host} {row : EngagementSeedReversalRow host} :
    reversalRow head = .ok row ↔ head.AsSeeded ∧ ⟨head.val.personId, head⟩ = row := by
  simp only [reversalRow, bind_eq_ok, require_eq_ok, pure_eq_ok, exists_const,
    EngagementHead.AsSeeded]

omit [DecidableEq D] in
theorem reversalRow_eq_error {head : EngagementHead host} {e : EngagementError} :
    reversalRow head = .error e ↔
      ¬ head.AsSeeded ∧ .seed .engagement_advanced head.val.personId = e := by
  rw [reversalRow, bind_eq_error, require_eq_error, EngagementHead.AsSeeded]
  simp only [pure_ne_error, and_false, exists_false, or_false]

omit [DecidableEq D] in
theorem mapM_reversalRow_eq_ok {heads : List (EngagementHead host)}
    {rows : List (EngagementSeedReversalRow host)} :
    heads.mapM reversalRow = .ok rows ↔ (∀ head ∈ heads, head.AsSeeded) ∧
      rows = heads.map fun head => ⟨head.val.personId, head⟩ := by
  constructor
  · intro h
    have hrows := forall₂_of_mapM_eq_ok h
    clear h
    induction hrows with
    | nil => exact ⟨fun head hhead => absurd hhead (List.not_mem_nil), rfl⟩
    | cons hhead _ ih =>
      obtain ⟨hseeded, rfl⟩ := reversalRow_eq_ok.mp hhead
      exact ⟨List.forall_mem_cons.mpr ⟨hseeded, ih.1⟩, by rw [List.map_cons, ih.2]⟩
  · rintro ⟨hseeded, rfl⟩
    refine mapM_eq_ok_of_forall₂ (List.forall₂_map_right_iff.mpr (List.forall₂_same.mpr ?_))
    exact fun head hhead => reversalRow_eq_ok.mpr ⟨hseeded head hhead, rfl⟩

theorem planEngagementSeedReversalFrom_of_asSeeded {store : EngagementStore host}
    {input : EngagementSeedReversalInput D}
    (hseeded : ∀ head ∈ selectedHeads store input, head.AsSeeded)
    (hfew : (selectedHeads store input).length ≤ engagementSeedPersonsMax) :
    ∃ plan, planEngagementSeedReversalFrom store input = .ok plan := by
  let plan : EngagementSeedReversalPlan host :=
    { input, rows := (selectedHeads store input).map fun head => ⟨head.val.personId, head⟩ }
  have hschema : engagementSeedReversalPlanSchema plan = true := by
    simp only [engagementSeedReversalPlanSchema, Bool.and_eq_true, decide_eq_true_eq, plan,
      List.length_map, List.all_map, List.all_eq_true, Function.comp_apply, List.map_map]
    refine ⟨⟨hfew, fun head hhead => ?_⟩, ?_⟩
    · obtain ⟨-, -, hsession, hsubmission, hpin⟩ := mem_selectedHeads.mp hhead
      obtain ⟨hstate, hversion, -, -⟩ := hseeded head hhead
      exact ⟨trivial, hsession, hsubmission, hpin, hstate, hversion⟩
    · exact List.isChain_iff_pairwise.mpr (sorted_selectedHeads store input)
  refine ⟨plan, ?_⟩
  have hrows := mapM_reversalRow_eq_ok.mpr
    (⟨hseeded, rfl⟩ : (∀ head ∈ selectedHeads store input, head.AsSeeded) ∧ plan.rows = _)
  simp only [planEngagementSeedReversalFrom, bind_eq_ok, require_eq_ok, pure_eq_ok, exists_const]
  exact ⟨plan.rows, hrows, hschema, rfl⟩

theorem of_planEngagementSeedReversalFrom {store : EngagementStore host}
    {input : EngagementSeedReversalInput D} {plan : EngagementSeedReversalPlan host}
    (h : planEngagementSeedReversalFrom store input = .ok plan) :
    engagementSeedReversalPlanSchema plan = true ∧ plan.heads = selectedHeads store input ∧
      ∀ head ∈ selectedHeads store input, head.AsSeeded := by
  simp only [planEngagementSeedReversalFrom, bind_eq_ok, require_eq_ok, pure_eq_ok,
    exists_const] at h
  obtain ⟨rows, hrows, hschema, rfl⟩ := h
  obtain ⟨hseeded, rfl⟩ := mapM_reversalRow_eq_ok.mp hrows
  refine ⟨hschema, ?_, hseeded⟩
  rw [EngagementSeedReversalPlan.heads, List.map_map]
  exact List.map_id _

theorem planEngagementSeedReversalFrom_eq_error {store : EngagementStore host}
    {input : EngagementSeedReversalInput D} {e : EngagementError}
    (hfew : (selectedHeads store input).length ≤ engagementSeedPersonsMax)
    (h : planEngagementSeedReversalFrom store input = .error e) :
    ∃ head ∈ selectedHeads store input,
      ¬ head.AsSeeded ∧ .seed .engagement_advanced head.val.personId = e := by
  have hadvanced : ¬ ∀ head ∈ selectedHeads store input, head.AsSeeded := fun hseeded => by
    obtain ⟨plan, hplan⟩ := planEngagementSeedReversalFrom_of_asSeeded hseeded hfew
    rw [hplan] at h
    cases h
  cases hrows : (selectedHeads store input).mapM reversalRow with
  | ok rows => exact absurd (mapM_reversalRow_eq_ok.mp hrows).1 hadvanced
  | error e' =>
    have he : planEngagementSeedReversalFrom store input = .error e' := by
      unfold planEngagementSeedReversalFrom
      rw [selectedHeads] at hrows
      dsimp only
      rw [hrows, error_bind]
    obtain ⟨head, hhead, hrow⟩ := mapM_eq_error hrows
    rw [Except.error.inj (he.symm.trans h)] at hrow
    exact ⟨head, hhead, reversalRow_eq_error.mp hrow⟩

theorem apply_of_planEngagementSeedReversalFrom {store : EngagementStore host}
    {input : EngagementSeedReversalInput D} {plan : EngagementSeedReversalPlan host}
    (h : planEngagementSeedReversalFrom store input = .ok plan) :
    ∃ reversed, applyEngagementSeedReversal store plan = .ok reversed ∧
      reversed.heads = store.heads.filter (· ∉ plan.heads) := by
  obtain ⟨hschema, hheads, hseeded⟩ := of_planEngagementSeedReversalFrom h
  have hnodup : plan.heads.Nodup := by
    rw [hheads]
    refine List.Nodup.of_map (·.val.personId) ?_
    exact (sorted_selectedHeads store input).imp ne_of_lt
  refine ⟨⟨store.heads.filter (· ∉ plan.heads), store.nodup.sublist (List.filter_sublist.map _)⟩,
    ?_, rfl⟩
  rw [applyEngagementSeedReversal, require_true hschema, ok_bind]
  refine (EngagementStore.foldlM_deleteSeededHead_eq_ok hnodup).mpr ⟨fun head hhead => ?_, rfl⟩
  rw [hheads] at hhead
  obtain ⟨hstate, hversion, -, -⟩ := hseeded head hhead
  exact ⟨(mem_selectedHeads.mp hhead).1, hversion, hstate⟩

end JooEvents
