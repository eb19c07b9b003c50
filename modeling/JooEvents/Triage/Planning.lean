import JooEvents.Triage.Domain

/-!
# Planned transitions

Every snapshot of the package is canonical (`canonical_of_create`), and a canonical one is
parsed as it is (`SubmissionTriageStateSnapshot.Canonical.parse`). On a canonical snapshot a
legal request is planned (`exists_plan`), the plan moves exactly the targets
(`PlannedTransitions`), and it validates on the snapshot it was planned on
(`PlannedTransitions.validate`).
-/

namespace JooEvents

open Fallible Keyed List

variable {D S : Type} [TriageStates S] {host : Host D}

/-- The entries are the scope's, an arrival and a head of one submission each, in strict
order. -/
structure EntriesCanonical (scope : SubmissionTriageScope)
    (entries : List (SubmissionTriageEntry D S)) : Prop where
  scopes : ∀ entry ∈ entries, entry.arrival.scope = scope ∧ entry.head.scope = scope
  ids : ∀ entry ∈ entries, entry.arrival.submissionId = entry.head.submissionId
  sorted : entries.Pairwise fun a b => a.submissionId < b.submissionId

/-- The snapshots that `createSubmissionTriageState` makes. -/
structure SubmissionTriageStateSnapshot.Canonical (host : Host D)
    (state : SubmissionTriageStateSnapshot D S) : Prop where
  entries : EntriesCanonical state.scope state.entries
  guardScope : state.queryGuard.scope = state.scope
  digest : state.queryGuard.digestSha256 = entriesDigest host state.scope state.entries

theorem canonicalEntries_eq_ok {entries parsed : List (SubmissionTriageEntry D S)} :
    canonicalEntries entries = .ok parsed ↔
      (∀ entry ∈ entries, entry.arrival.scope = entry.head.scope ∧
        entry.arrival.submissionId = entry.head.submissionId) ∧
      (entries.map SubmissionTriageEntry.submissionId).Nodup ∧
      entries.sortByKey SubmissionTriageEntry.submissionId = parsed := by
  simp only [canonicalEntries, bind_eq_ok, require_eq_ok, pure_eq_ok, exists_const,
    isChain_ne_sortByKey_iff]

theorem EntriesCanonical.canonicalEntries {scope : SubmissionTriageScope}
    {entries : List (SubmissionTriageEntry D S)} (h : EntriesCanonical scope entries) :
    canonicalEntries entries = .ok entries :=
  canonicalEntries_eq_ok.mpr
    ⟨fun entry hentry => ⟨(h.scopes entry hentry).1.trans (h.scopes entry hentry).2.symm,
      h.ids entry hentry⟩, nodup_map_of_pairwise_lt h.sorted, sortByKey_eq_self h.sorted⟩

theorem EntriesCanonical.queryDigest {scope : SubmissionTriageScope}
    {entries : List (SubmissionTriageEntry D S)} (h : EntriesCanonical scope entries) :
    submissionTriageQueryDigest host scope entries = .ok (entriesDigest host scope entries) := by
  rw [submissionTriageQueryDigest, h.canonicalEntries, ok_bind,
    require_eq_ok (u := ()).mpr fun entry hentry => (h.scopes entry hentry).2]
  rfl

theorem EntriesCanonical.create {scope : SubmissionTriageScope}
    {entries : List (SubmissionTriageEntry D S)} (h : EntriesCanonical scope entries)
    (version : Version) :
    createSubmissionTriageState host scope version entries = .ok
      { scope, queryGuard := { scope, version, digestSha256 := entriesDigest host scope entries },
        entries } := by
  rw [createSubmissionTriageState, h.canonicalEntries, ok_bind,
    require_eq_ok (u := ()).mpr fun entry hentry => (h.scopes entry hentry).2, ok_bind, h.queryDigest]
  rfl

theorem canonical_of_create {scope : SubmissionTriageScope} {version : Version}
    {entries : List (SubmissionTriageEntry D S)} {state : SubmissionTriageStateSnapshot D S}
    (h : createSubmissionTriageState host scope version entries = .ok state) :
    state.Canonical host ∧ state.scope = scope ∧ state.queryGuard.version = version ∧
      state.entries = entries.sortByKey SubmissionTriageEntry.submissionId := by
  simp only [createSubmissionTriageState, bind_eq_ok, require_eq_ok, pure_eq_ok, exists_const] at h
  obtain ⟨parsed, hparsed, hscope, digest, hdigest, rfl⟩ := h
  obtain ⟨hentries, hnodup, rfl⟩ := canonicalEntries_eq_ok.mp hparsed
  have hcanonical : EntriesCanonical scope
      (entries.sortByKey SubmissionTriageEntry.submissionId) := by
    refine ⟨fun entry hentry => ⟨?_, hscope entry hentry⟩, fun entry hentry => ?_,
      pairwise_lt_sortByKey hnodup⟩
    · rw [(hentries entry (mem_sortByKey.mp hentry)).1]
      exact hscope entry hentry
    · exact (hentries entry (mem_sortByKey.mp hentry)).2
  rw [hcanonical.queryDigest] at hdigest
  exact ⟨⟨hcanonical, rfl, (Except.ok.inj hdigest).symm⟩, rfl, rfl, rfl⟩

theorem SubmissionTriageStateSnapshot.Canonical.parse [DecidableEq D]
    {state : SubmissionTriageStateSnapshot D S}
    (h : state.Canonical host) : parseSubmissionTriageState host state = .ok state := by
  obtain ⟨scope, ⟨guardScope, version, digest⟩, entries⟩ := state
  obtain ⟨hentries, hguard, hdigest⟩ := h
  dsimp only at hentries hguard hdigest
  subst hguard hdigest
  rw [parseSubmissionTriageState, hentries.create, ok_bind, require_eq_ok (u := ()).mpr ⟨rfl, rfl⟩]
  rfl

/-- A request for the current guard and the current versions of one or more submissions, in
states that the action is allowed in, at an instant that is not before their heads. No
counter has run out. -/
structure LegalTransition (state : SubmissionTriageStateSnapshot D SubmissionTriageState)
    (request : SubmissionTriageRequest D) : Prop where
  version : state.queryGuard.version = request.expectedVersion
  digest : state.queryGuard.digestSha256 = request.expectedDigestSha256
  ids : request.submissionIds ~ request.expectedHeads.map (·.submissionId)
  nonempty : request.expectedHeads ≠ []
  distinct : (request.expectedHeads.map (·.submissionId)).Nodup
  guardVersion : state.queryGuard.version.val < maxSafeInteger
  heads : ∀ target ∈ request.expectedHeads, ∃ entry ∈ state.entries,
    entry.submissionId = target.submissionId ∧ entry.head.version = target.version ∧
      request.action.allowed entry.head.state = true ∧
      entry.head.version.val < maxSafeInteger ∧ entry.head.updatedAt ≤ request.changedAt

/-- The transition moves the entry by the request. -/
structure MovesEntry (host : Host D) (request : SubmissionTriageRequest D)
    (entry : SubmissionTriageEntry D SubmissionTriageState)
    (transition : SubmissionTriagePlannedTransition D) : Prop where
  submissionId : transition.submissionId = entry.submissionId
  arrival : transition.arrivalDigestSha256 = submissionTriageArrivalDigest host entry.arrival
  before : transition.before = entry.head
  allowed : request.action.allowed entry.head.state = true
  after : ∃ version : Version, version.val = entry.head.version.val + 1 ∧
    transition.after = request.action.head entry.head version request.attribution request.changedAt

/-- The plan is for the state, with a transition for each target in order. -/
structure PlannedTransitions (host : Host D)
    (state : SubmissionTriageStateSnapshot D SubmissionTriageState)
    (request : SubmissionTriageRequest D) (plan : SubmissionTriageTransitionPlan D) : Prop where
  action : plan.action = request.action
  scope : plan.scope = state.scope
  guardBefore : plan.guardBefore = state.queryGuard
  ids : plan.transitions.map (·.submissionId) =
    (request.expectedHeads.sortByKey SubmissionTriageTarget.submissionId).map (·.submissionId)
  distinct : (plan.transitions.map (·.submissionId)).Nodup
  moves : ∀ transition ∈ plan.transitions, ∃ entry ∈ state.entries,
    MovesEntry host request entry transition
  guardScope : plan.guardAfter.scope = state.scope
  guardVersion : plan.guardAfter.version.val = state.queryGuard.version.val + 1
  guardDigest : plan.guardAfter.digestSha256 =
    entriesDigest host state.scope (afterEntries plan.transitions state.entries)

/-! ## Planning -/

theorem entryOf_eq_some {entries : List (SubmissionTriageEntry D S)}
    {scope : SubmissionTriageScope} (h : EntriesCanonical scope entries)
    {submissionId : ApplicationId} {entry : SubmissionTriageEntry D S} :
    entryOf entries submissionId = some entry ↔
      entry ∈ entries ∧ entry.submissionId = submissionId := by
  constructor
  · intro hfind
    exact ⟨List.mem_of_find?_eq_some hfind, by simpa using List.find?_some hfind⟩
  · rintro ⟨hmem, rfl⟩
    exact (find?_key_eq_some_iff (nodup_map_of_pairwise_lt h.sorted)).mpr ⟨hmem, rfl⟩

theorem exists_nextVersion {version : Version} (h : version.val < maxSafeInteger) :
    ∃ next : Version, PositiveSafe.parse (version.val + 1) = some next :=
  ⟨⟨version.val + 1, by omega, h⟩, PositiveSafe.parse_eq_some.mpr rfl⟩

theorem nextHead_eq_ok {action : SubmissionTriageAction}
    {before after : SubmissionTriageHead D SubmissionTriageState}
    {attribution : SubmissionTriageAttribution D} {changedAt : Instant} :
    action.nextHead before attribution changedAt = .ok after ↔
      action.allowed before.state = true ∧ ∃ version : Version,
        version.val = before.version.val + 1 ∧
          action.head before version attribution changedAt = after := by
  simp only [SubmissionTriageAction.nextHead, bind_eq_ok, require_eq_ok, orRefuse_eq_ok, PositiveSafe.parse_eq_some,
    pure_eq_ok, exists_const]

theorem planTarget_eq_ok {entries : List (SubmissionTriageEntry D SubmissionTriageState)}
    {action : SubmissionTriageAction} {attribution : SubmissionTriageAttribution D}
    {changedAt : Instant} {target : SubmissionTriageTarget}
    {transition : SubmissionTriagePlannedTransition D} :
    planTarget host entries action attribution changedAt target = .ok transition ↔
      ∃ entry, entryOf entries target.submissionId = some entry ∧
        entry.head.version = target.version ∧ action.allowed entry.head.state = true ∧
        ∃ version : Version, version.val = entry.head.version.val + 1 ∧
          entry.moveTo host target.submissionId
            (action.head entry.head version attribution changedAt) = transition := by
  simp only [planTarget, bind_eq_ok, require_eq_ok, orRefuse_eq_ok, nextHead_eq_ok, pure_eq_ok,
    exists_const]
  refine exists_congr fun entry => and_congr_right fun _ => and_congr_right fun _ => ?_
  constructor
  · rintro ⟨after, ⟨hallowed, version, hversion, rfl⟩, rfl⟩
    exact ⟨hallowed, version, hversion, rfl⟩
  · rintro ⟨hallowed, version, hversion, rfl⟩
    exact ⟨_, ⟨hallowed, version, hversion, rfl⟩, rfl⟩

/-- The transitions give each submission a head of its own, in the scope. -/
def MovesWithin (scope : SubmissionTriageScope)
    (transitions : List (SubmissionTriagePlannedTransition D)) : Prop :=
  ∀ transition ∈ transitions, transition.after.scope = scope ∧
    transition.after.submissionId = transition.submissionId

section

variable {scope : SubmissionTriageScope}
variable {transitions : List (SubmissionTriagePlannedTransition D)}
variable {entry : SubmissionTriageEntry D SubmissionTriageState}

theorem movedBy_cases (entry : SubmissionTriageEntry D SubmissionTriageState)
    (transitions : List (SubmissionTriagePlannedTransition D)) :
    (∃ transition ∈ transitions, transition.submissionId = entry.submissionId ∧
      entry.movedBy transitions = { entry with head := transition.after }) ∨
    (∀ transition ∈ transitions, transition.submissionId ≠ entry.submissionId) ∧
      entry.movedBy transitions = entry := by
  unfold SubmissionTriageEntry.movedBy
  split
  · rename_i transition hfind
    obtain ⟨hmem, hid⟩ := mem_of_find?_key hfind
    exact .inl ⟨transition, hmem, hid, rfl⟩
  · rename_i hfind
    exact .inr ⟨find?_key_eq_none_iff.mp hfind, rfl⟩

theorem submissionId_movedBy (h : MovesWithin scope transitions) :
    (entry.movedBy transitions).submissionId = entry.submissionId := by
  rcases movedBy_cases entry transitions with ⟨transition, hmem, hid, heq⟩ | ⟨-, heq⟩
  · rw [heq]
    exact (h transition hmem).2.trans hid
  · rw [heq]

theorem movedBy_reverse (h : (transitions.map (·.submissionId)).Nodup) :
    entry.movedBy transitions.reverse = entry.movedBy transitions := by
  have hnd : (transitions.reverse.map (·.submissionId)).Nodup := by
    rw [List.map_reverse]
    exact List.nodup_reverse.mpr h
  have hfind : (transitions.reverse.find? fun transition =>
      transition.submissionId = entry.submissionId) =
      transitions.find? fun transition => transition.submissionId = entry.submissionId := by
    refine Option.ext fun transition => ?_
    rw [find?_key_eq_some_iff hnd, find?_key_eq_some_iff h, List.mem_reverse]
  rw [SubmissionTriageEntry.movedBy, SubmissionTriageEntry.movedBy, hfind]

theorem arrival_movedBy : (entry.movedBy transitions).arrival = entry.arrival := by
  unfold SubmissionTriageEntry.movedBy
  split <;> rfl

end

theorem EntriesCanonical.afterEntries {scope : SubmissionTriageScope}
    {entries : List (SubmissionTriageEntry D SubmissionTriageState)}
    {transitions : List (SubmissionTriagePlannedTransition D)}
    (h : EntriesCanonical scope entries) (hmoves : MovesWithin scope transitions) :
    EntriesCanonical scope (afterEntries transitions entries) := by
  refine ⟨List.forall_mem_map.mpr fun entry hentry => ?_,
    List.forall_mem_map.mpr fun entry hentry => ?_, ?_⟩
  · rw [arrival_movedBy]
    refine ⟨(h.scopes entry hentry).1, ?_⟩
    rcases movedBy_cases entry transitions with ⟨transition, hmem, -, heq⟩ | ⟨-, heq⟩
    · rw [heq]
      exact (hmoves transition hmem).1
    · rw [heq]
      exact (h.scopes entry hentry).2
  · rw [arrival_movedBy, h.ids entry hentry]
    exact (submissionId_movedBy hmoves).symm
  · refine List.pairwise_map.mpr (h.sorted.imp fun {a b} hab => ?_)
    rwa [submissionId_movedBy hmoves, submissionId_movedBy hmoves]

section

variable {state : SubmissionTriageStateSnapshot D SubmissionTriageState}
variable {request : SubmissionTriageRequest D} {plan : SubmissionTriageTransitionPlan D}

theorem PlannedTransitions.movesWithin (hcanonical : state.Canonical host)
    (h : PlannedTransitions host state request plan) :
    MovesWithin state.scope plan.transitions := by
  intro transition hmem
  obtain ⟨entry, hentry, hmoves⟩ := h.moves transition hmem
  obtain ⟨version, -, hafter⟩ := hmoves.after
  rw [hafter, hmoves.submissionId]
  exact ⟨(hcanonical.entries.scopes entry hentry).2, rfl⟩

theorem PlannedTransitions.afterCanonical (hcanonical : state.Canonical host)
    (h : PlannedTransitions host state request plan) :
    EntriesCanonical state.scope (afterEntries plan.transitions state.entries) :=
  hcanonical.entries.afterEntries (h.movesWithin hcanonical)

theorem exists_plan [DecidableEq D] (hcanonical : state.Canonical host)
    (hlegal : LegalTransition state request) :
    ∃ plan, planSubmissionTriageTransition host state request = .ok plan ∧
      PlannedTransitions host state request plan := by
  have hplans : ∀ target ∈ request.expectedHeads.sortByKey SubmissionTriageTarget.submissionId,
      ∃ transition, planTarget host state.entries request.action request.attribution
        request.changedAt target = .ok transition := by
    intro target htarget
    obtain ⟨entry, hentry, hid, hversion, hallowed, hnext, -⟩ :=
      hlegal.heads target (mem_sortByKey.mp htarget)
    obtain ⟨next, hparse⟩ := exists_nextVersion hnext
    exact ⟨_, planTarget_eq_ok.mpr ⟨entry, (entryOf_eq_some hcanonical.entries).mpr ⟨hentry, hid⟩,
      hversion, hallowed, next, PositiveSafe.parse_eq_some.mp hparse, rfl⟩⟩
  obtain ⟨transitions, htransitions⟩ := (exists_mapM_eq_ok_iff fun _ => Iff.rfl).mpr hplans
  have hpairs := forall₂_of_mapM_eq_ok htransitions
  have hids : transitions.map (·.submissionId) =
      (request.expectedHeads.sortByKey SubmissionTriageTarget.submissionId).map
        (·.submissionId) := by
    refine map_eq_of_forall₂ (fun target transition hplanned => ?_) hpairs
    obtain ⟨entry, -, -, -, version, -, rfl⟩ := planTarget_eq_ok.mp hplanned
    rfl
  have hmoves : ∀ transition ∈ transitions, ∃ entry ∈ state.entries,
      MovesEntry host request entry transition := by
    intro transition hmem
    obtain ⟨target, -, hplanned⟩ := exists_left_of_forall₂ hpairs hmem
    obtain ⟨entry, hof, hversion, hallowed, version, hnext, rfl⟩ := planTarget_eq_ok.mp hplanned
    obtain ⟨hentry, hid⟩ := (entryOf_eq_some hcanonical.entries).mp hof
    exact ⟨entry, hentry, hid.symm, rfl, rfl, hallowed, version, hnext, rfl⟩
  obtain ⟨guardVersion, hguard⟩ := exists_nextVersion hlegal.guardVersion
  have hsorted : (transitions.map (·.submissionId)).Pairwise (· < ·) := by
    rw [hids, List.pairwise_map]
    exact pairwise_lt_sortByKey hlegal.distinct
  let plan : SubmissionTriageTransitionPlan D :=
    { action := request.action, scope := state.scope, attribution := request.attribution
      guardBefore := state.queryGuard
      guardAfter :=
        { scope := state.scope, version := guardVersion
          digestSha256 := entriesDigest host state.scope (afterEntries transitions state.entries) }
      transitions }
  have hplanned : PlannedTransitions host state request plan :=
    ⟨rfl, rfl, rfl, hids, hsorted.imp ne_of_lt, hmoves, rfl,
      PositiveSafe.parse_eq_some.mp hguard, rfl⟩
  refine ⟨plan, ?_, hplanned⟩
  have hexpected : request.submissionIds.sortByKey id =
      (request.expectedHeads.sortByKey SubmissionTriageTarget.submissionId).map
        (·.submissionId) := by
    refine eq_of_perm_of_pairwise_lt (pairwise_lt_sortByKey ?_)
      (List.pairwise_map.mpr (pairwise_lt_sortByKey hlegal.distinct))
      ((perm_sortByKey id _).trans (hlegal.ids.trans ((perm_sortByKey _ _).map _).symm))
    rw [List.map_id]
    exact hlegal.ids.nodup_iff.mpr hlegal.distinct
  have hheads : request.expectedHeads.sortByKey SubmissionTriageTarget.submissionId ≠ [] ∧
      ((request.expectedHeads.sortByKey SubmissionTriageTarget.submissionId).map
        (·.submissionId)).IsChain (· ≠ ·) :=
    ⟨fun hnil => hlegal.nonempty (List.perm_nil.mp (hnil ▸ (perm_sortByKey _ _).symm)),
      isChain_ne_of_pairwise_lt (pairwise_lt_sortByKey hlegal.distinct)⟩
  have htargets : planWithTargets host state request.action request.attribution request.changedAt
      (request.expectedHeads.sortByKey SubmissionTriageTarget.submissionId) = .ok plan := by
    rw [planWithTargets, hcanonical.parse, ok_bind]
    dsimp only
    rw [sortByKey_eq_self (pairwise_lt_sortByKey hlegal.distinct),
      require_eq_ok (u := ()).mpr hheads, ok_bind, htransitions, ok_bind,
      (hplanned.afterCanonical hcanonical).queryDigest, ok_bind, hguard]
    rfl
  rw [planSubmissionTriageTransition, hcanonical.parse, ok_bind,
    require_eq_ok (u := ()).mpr ⟨hlegal.version, hlegal.digest⟩, ok_bind]
  dsimp only
  rw [require_eq_ok (u := ()).mpr hexpected, ok_bind, htargets]

theorem PlannedTransitions.validate [DecidableEq D] (hcanonical : state.Canonical host)
    (h : PlannedTransitions host state request plan) :
    validateSubmissionTriagePlan host plan state = .ok none := by
  have herror : plan.transitions.findSome? (transitionError host state.entries) = none := by
    rw [List.findSome?_eq_none_iff]
    intro transition hmem
    obtain ⟨entry, hentry, hmoves⟩ := h.moves transition hmem
    have hof := (entryOf_eq_some hcanonical.entries).mpr ⟨hentry, hmoves.submissionId.symm⟩
    simp [transitionError, hof, hmoves.before, hmoves.arrival]
  have hreverse : afterEntries plan.transitions.reverse state.entries =
      afterEntries plan.transitions state.entries :=
    List.map_congr_left fun entry _ => movedBy_reverse h.distinct
  rw [validateSubmissionTriagePlan, hcanonical.parse]
  simp only [h.scope, h.guardBefore, herror, h.guardVersion, ne_eq, not_true_eq_false, or_self,
    if_false, hreverse, (h.afterCanonical hcanonical).queryDigest, ok_bind, h.guardDigest, if_true]
  rfl

end

end JooEvents
