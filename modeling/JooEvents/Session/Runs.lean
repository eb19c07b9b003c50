import Mathlib.Logic.Relation
import JooEvents.Session.Rosters

/-!
# Catalogs over whole runs

A run of a catalog applies planned changes (`AuthoredStep`), compensations of changes it
has applied (`RestoreStep`), and removals of new sessions (`RemovalStep`). In every run the
sessions stay in strict order of their identities and their rosters stay dense
(`SessionRunInvariant`), and every step takes the catalog and the session it changes one
version further.

The version of a roster moves with its participants only where sessions are changed by
plans (`SessionMoves`). A compensation puts the roster of an earlier head back, with the
version it had.
-/

namespace JooEvents

open Fallible

variable {D : Type} {host : Host D}

/-- What a catalog is after a parser : in strict order, with heads of their schema. -/
structure SoundCatalog (host : Host D) (catalog : SessionCatalog D) : Prop where
  sorted : catalog.sessions.Pairwise fun a b => a.id < b.id
  schema : ∀ session ∈ catalog.sessions, headSchema host session = true

theorem SoundCatalog.nodup {catalog : SessionCatalog D} (h : SoundCatalog host catalog) :
    (catalog.sessions.map (·.id)).Nodup :=
  List.pairwise_map.mpr (h.sorted.imp fun hlt => ne_of_lt hlt)

theorem SoundCatalog.eq_of_id_eq {catalog : SessionCatalog D} (h : SoundCatalog host catalog)
    {a b : SessionHead D} (ha : a ∈ catalog.sessions) (hb : b ∈ catalog.sessions)
    (hid : a.id = b.id) : a = b :=
  Keyed.eq_of_key_eq h.nodup ha hb hid

theorem mem_of_findSession {catalog : SessionCatalog D} {id : ApplicationId}
    {session : SessionHead D} (h : findSession catalog id = some session) :
    session ∈ catalog.sessions ∧ session.id = id :=
  Keyed.mem_of_find?_key h

theorem findSession_eq_none {catalog : SessionCatalog D} {id : ApplicationId} :
    findSession catalog id = none ↔ ∀ session ∈ catalog.sessions, session.id ≠ id :=
  Keyed.find?_key_eq_none_iff

theorem mem_sessionsWithout {catalog : SessionCatalog D} {id : ApplicationId}
    {restore : Option (SessionHead D)} {session : SessionHead D} :
    session ∈ sessionsWithout catalog id restore ↔
      session ∈ catalog.sessions ∧ session.id ≠ id ∨ session ∈ restore := by
  simp only [sessionsWithout, List.mem_insertionSort, List.mem_append, List.mem_filter,
    decide_eq_true_eq, Option.mem_toList, Option.mem_def]

theorem mem_sessionsWith {catalog : SessionCatalog D} {after session : SessionHead D} :
    session ∈ sessionsWith catalog after ↔
      session ∈ catalog.sessions ∧ session.id ≠ after.id ∨ session = after := by
  simp only [sessionsWith, List.mem_insertionSort, List.mem_append, List.mem_filter,
    decide_eq_true_eq, List.mem_singleton]

variable [DecidableEq D]

theorem soundCatalog_of_catalogChecks {catalog : SessionCatalog D}
    (h : catalogChecks host catalog = true) : SoundCatalog host catalog := by
  simp only [catalogChecks, catalogSchema, Bool.and_eq_true, List.all_eq_true,
    decide_eq_true_eq] at h
  obtain ⟨⟨⟨⟨⟨hschema, -⟩, -⟩, hchain⟩, -⟩, -⟩ := h
  exact ⟨hchain.pairwise, hschema⟩

theorem soundCatalog_of_catalogWith {scope : SessionScope} {version : ℕ}
    {sessions : List (SessionHead D)} {catalog : SessionCatalog D}
    (h : catalogWith host scope version sessions = .ok catalog) : SoundCatalog host catalog :=
  soundCatalog_of_catalogChecks (catalogWith_eq_ok.mp h).1

/-- What an applied plan does to the session it is about. -/
inductive PlanEffect (host : Host D) (catalog : SessionCatalog D) (plan : SessionMutationPlan D) :
    Prop where
  | created (fresh : ∀ session ∈ catalog.sessions, session.id ≠ plan.after.id)
      (before : plan.before = none) (version : plan.after.version = .one)
      (dense : DenseRoster plan.after.roster.participants)
  | changed (current : SessionHead D) (mem : current ∈ catalog.sessions)
      (before : host.Same plan.before (some current)) (step : HeadStep host current plan.after)

theorem applySessionMutationPlan_ok {plan : SessionMutationPlan D}
    {catalog next : SessionCatalog D} {vocabulary : ProgramVocabularyState host}
    {result : SessionMutationResult D}
    (h : applySessionMutationPlan host plan catalog vocabulary = .ok (next, result)) :
    SoundCatalog host next ∧ next.version.val = catalog.version.val + 1 ∧
      next.sessions = sessionsWith catalog plan.after ∧ PlanEffect host catalog plan := by
  obtain ⟨hvalid, hnext, -⟩ := applySessionMutationPlan_eq_ok h
  obtain ⟨rebuilt, hrebuilt, hsame⟩ := rebuilt_of_validateSessionMutationPlan hvalid
  obtain ⟨-, -, hversion, hsessions, -⟩ := catalogWith_eq_ok.mp hnext
  obtain ⟨hbefore, hafter, -, hcatalogAfter⟩ := SessionMutationPlan.of_same hsame
  obtain ⟨hguard, hrebuiltVersion⟩ := planSessionMutation_guards hrebuilt
  have hsound := soundCatalog_of_catalogWith hnext
  refine ⟨hsound, ?_, hsessions, ?_⟩
  · rw [hversion, ← hcatalogAfter, hrebuiltVersion, hguard]
    rfl
  have hschema : headSchema host plan.after = true :=
    hsound.schema _ (by rw [hsessions]; exact mem_sessionsWith.mpr (.inr rfl))
  obtain ⟨parsed, hhead⟩ := plannedHead_of_planSessionMutation hrebuilt
  rcases plannedHead_cases hhead with ⟨hnone, hfresh, hone, hdense, hchecks⟩ |
    ⟨current, hsome, hcurrent, hstep⟩
  · have heq := SessionHead.eq_of_same (headSchema_of_headChecks hchecks) hschema hafter
    rw [heq] at hfresh hone hdense
    refine .created (findSession_eq_none.mp hfresh) ?_ hone hdense
    cases hplan : plan.before with
    | none => rfl
    | some head =>
      rw [hnone, hplan] at hbefore
      exact absurd hbefore.symm Host.not_same_some_none
  · have heq := SessionHead.eq_of_same (headSchema_of_headChecks hstep.checks) hschema hafter
    rw [heq] at hstep
    exact .changed current (mem_of_findSession hcurrent).1 (hsome ▸ hbefore.symm) hstep

/-! ## Compensations -/

/-- What an applied plan of a compensation puts back. -/
structure RestoreEffect (host : Host D) (original : SessionMutationPlan D)
    (catalog next : SessionCatalog D) (current : SessionHead D) (restore : Option (SessionHead D)) :
    Prop where
  mem : current ∈ catalog.sessions
  sessions : next.sessions = sessionsWithout catalog current.id restore
  image : ∀ head ∈ restore, ∃ prior ∈ original.before,
    headSchema host prior = true ∧ head.roster = prior.roster ∧
      head.version.val = current.version.val + 1

theorem restorePlanOf_of_planned {original : SessionMutationPlan D} {catalog : SessionCatalog D}
    {actorUserId : ApplicationId} {occurredAt : Instant} {plan : SessionRestorePlan D}
    (h : planSessionCompensation host original catalog actorUserId occurredAt = .ok plan ∨
      planSessionGraduationReversalAgainst host original catalog actorUserId occurredAt = .ok plan) :
    ∃ current, restorePlanOf host original catalog current actorUserId occurredAt = .ok plan := by
  rcases h with h | h
  · simp only [planSessionCompensation, bind_eq_ok] at h
    obtain ⟨current, -, -, -, h⟩ := h
    exact ⟨current, h⟩
  · simp only [planSessionGraduationReversalAgainst, bind_eq_ok] at h
    obtain ⟨current, -, -, -, h⟩ := h
    exact ⟨current, h⟩

theorem restoredImage_ok {original : SessionMutationPlan D} {current : SessionHead D}
    {actorUserId : ApplicationId} {occurredAt : Instant} {restore : Option (SessionHead D)}
    (h : restoredImage host original current actorUserId occurredAt = .ok restore) :
    ∀ head ∈ restore, ∃ prior ∈ original.before, headSchema host prior = true ∧
      head.roster = prior.roster ∧ head.version.val = current.version.val + 1 := by
  intro head hhead
  obtain rfl := Option.mem_def.mp hhead
  cases hbefore : original.before with
  | none => simp [restoredImage, hbefore] at h
  | some prior =>
    simp only [restoredImage, hbefore, Option.mapM_some, map_eq_ok, nextVersion, bind_eq_ok,
      orRefuse_eq_ok, parseSessionHead_eq_ok, Option.some.injEq] at h
    obtain ⟨head, ⟨version, hversion, hchecks, rfl⟩, rfl⟩ := h
    have hschema := headSchema_of_headChecks hchecks
    exact ⟨prior, rfl, hschema, rfl, val_of_nextAggregateVersion hversion⟩

theorem applySessionRestorePlan_ok {original : SessionMutationPlan D}
    {planned catalog next : SessionCatalog D} {plan : SessionRestorePlan D}
    {actorUserId : ApplicationId} {occurredAt : Instant} {result : SessionMutationResult D}
    (hplan : planSessionCompensation host original planned actorUserId occurredAt = .ok plan ∨
      planSessionGraduationReversalAgainst host original planned actorUserId occurredAt = .ok plan)
    (h : applySessionRestorePlan host plan catalog = .ok (next, result)) :
    SoundCatalog host next ∧ next.version.val = catalog.version.val + 1 ∧
      ∃ current, RestoreEffect host original catalog next current plan.restore := by
  obtain ⟨expected, hplanned⟩ := restorePlanOf_of_planned hplan
  simp only [restorePlanOf, parseSessionRestorePlan, bind_eq_ok, require_eq_ok, pure_eq_ok,
    exists_const] at hplanned
  obtain ⟨restore, hrestore, afterCatalog, hafter, -, rfl⟩ := hplanned
  simp only [applySessionRestorePlan, parseSessionRestorePlan, requireCatalogGuard, bind_eq_ok,
    require_eq_ok, orRefuse_eq_ok, pure_eq_ok, Prod.mk.injEq, exists_const] at h
  obtain ⟨_, ⟨-, rfl⟩, ⟨hcatalogVersion, -⟩, -, current, hcurrent, ⟨-, hversion⟩, restore', hrestore',
    _, hnext, -, rfl, -⟩ := h
  obtain ⟨-, -, hnextVersion, hsessions, -⟩ := catalogWith_eq_ok.mp hnext
  have hsame : restore' = restore := by
    cases restore with
    | none => exact (pure_eq_ok.mp hrestore').symm
    | some head =>
      simp only [Option.mapM_some, map_eq_ok, parseSessionHead_eq_ok] at hrestore'
      obtain ⟨_, ⟨-, rfl⟩, rfl⟩ := hrestore'
      rfl
  refine ⟨soundCatalog_of_catalogWith hnext, ?_, current, (mem_of_findSession hcurrent).1, ?_, ?_⟩
  · rw [hnextVersion, hcatalogVersion]
    exact (catalogWith_eq_ok.mp hafter).2.2.1
  · rw [hsessions, hsame]
  · intro head hhead
    obtain ⟨prior, hprior, hschema, hroster, hheadVersion⟩ := restoredImage_ok hrestore head hhead
    exact ⟨prior, hprior, hschema, hroster, by rw [hheadVersion, hversion]⟩

theorem applyNewSessionRemovalPlan_ok {planned catalog next : SessionCatalog D}
    {current : SessionHead D} {plan : SessionRemoveNewPlan D} {actorUserId : ApplicationId}
    {occurredAt : Instant} {result : SessionMutationResult D}
    (hplan : planNewSessionRemoval host current planned actorUserId occurredAt = .ok plan)
    (h : applyNewSessionRemovalPlan host plan catalog = .ok (next, result)) :
    SoundCatalog host next ∧ next.version.val = catalog.version.val + 1 ∧
      ∀ session ∈ next.sessions, session ∈ catalog.sessions := by
  simp only [planNewSessionRemoval, parseSessionRemoveNewPlan, bind_eq_ok, require_eq_ok,
    pure_eq_ok, exists_const] at hplan
  obtain ⟨found, -, -, afterCatalog, hafter, -, rfl⟩ := hplan
  simp only [applyNewSessionRemovalPlan, parseSessionRemoveNewPlan, requireCatalogGuard,
    bind_eq_ok, require_eq_ok, orRefuse_eq_ok, pure_eq_ok, Prod.mk.injEq, exists_const] at h
  obtain ⟨_, ⟨-, rfl⟩, ⟨hcatalogVersion, -⟩, -, current', -, -, _, hnext, -, rfl, -⟩ := h
  obtain ⟨-, -, hnextVersion, hsessions, -⟩ := catalogWith_eq_ok.mp hnext
  refine ⟨soundCatalog_of_catalogWith hnext, ?_, fun session hsession => ?_⟩
  · rw [hnextVersion, hcatalogVersion]
    exact (catalogWith_eq_ok.mp hafter).2.2.1
  · rw [hsessions] at hsession
    exact (List.mem_filter.mp hsession).1

/-- A catalog, and the plans that were applied on the way to it. -/
structure SessionRun (D : Type) where
  catalog : SessionCatalog D
  applied : List (SessionMutationPlan D)

/-- A plan for one of the nine changes is applied. -/
inductive AuthoredStep (host : Host D) : SessionRun D → SessionRun D → Prop where
  | apply {run : SessionRun D} {plan : SessionMutationPlan D}
      {vocabulary : ProgramVocabularyState host} {next : SessionCatalog D}
      {result : SessionMutationResult D}
      (happly : applySessionMutationPlan host plan run.catalog vocabulary = .ok (next, result)) :
      AuthoredStep host run { catalog := next, applied := plan :: run.applied }

/-- A plan that was applied is undone, with a plan made for some catalog. -/
inductive RestoreStep (host : Host D) (original : SessionMutationPlan D) :
    SessionRun D → SessionRun D → Prop where
  | apply {run : SessionRun D} {planned : SessionCatalog D} {actorUserId : ApplicationId}
      {occurredAt : Instant} {plan : SessionRestorePlan D} {next : SessionCatalog D}
      {result : SessionMutationResult D}
      (hplan : planSessionCompensation host original planned actorUserId occurredAt = .ok plan ∨
        planSessionGraduationReversalAgainst host original planned actorUserId occurredAt = .ok plan)
      (happly : applySessionRestorePlan host plan run.catalog = .ok (next, result)) :
      RestoreStep host original run { run with catalog := next }

/-- A session that was just created is removed, with a plan made for some catalog. -/
inductive RemovalStep (host : Host D) : SessionRun D → SessionRun D → Prop where
  | apply {run : SessionRun D} {current : SessionHead D} {planned : SessionCatalog D}
      {actorUserId : ApplicationId} {occurredAt : Instant} {plan : SessionRemoveNewPlan D}
      {next : SessionCatalog D} {result : SessionMutationResult D}
      (hplan : planNewSessionRemoval host current planned actorUserId occurredAt = .ok plan)
      (happly : applyNewSessionRemovalPlan host plan run.catalog = .ok (next, result)) :
      RemovalStep host run { run with catalog := next }

/-- A step of a run. Compensations are of plans that the run has applied. -/
inductive SessionStep (host : Host D) (run next : SessionRun D) : Prop where
  | authored (h : AuthoredStep host run next)
  | restored (original : SessionMutationPlan D) (mem : original ∈ run.applied)
      (h : RestoreStep host original run next)
  | removed (h : RemovalStep host run next)

/-- What holds in every run. -/
structure SessionRunInvariant (host : Host D) (run : SessionRun D) : Prop where
  sound : SoundCatalog host run.catalog
  dense : ∀ session ∈ run.catalog.sessions, DenseRoster session.roster.participants
  /-- The image a plan replaced is a head the run has had. -/
  replaced : ∀ plan ∈ run.applied, ∀ before ∈ plan.before, ∃ head, headSchema host head = true ∧
    DenseRoster head.roster.participants ∧ host.Same before head

/-- What a planned change does to a session that is there before and after it. -/
structure SessionMoves (a b : SessionHead D) : Prop where
  version : b = a ∨ b.version.val = a.version.val + 1
  lifecycle : b.lifecycle = a.lifecycle ∨ LifecycleMoves a.lifecycle b.lifecycle
  roster : b.roster.version = a.roster.version ∧ b.roster.participants = a.roster.participants ∨
    b.roster.version.val = a.roster.version.val + 1

omit [DecidableEq D] in
theorem SessionMoves.refl (a : SessionHead D) : SessionMoves a a :=
  ⟨.inl rfl, .inl rfl, .inl ⟨rfl, rfl⟩⟩

theorem HeadStep.moves {a b : SessionHead D} (h : HeadStep host a b) : SessionMoves a b :=
  ⟨.inr h.version, h.lifecycle, h.roster⟩

/-! ## Steps -/

theorem SessionRunInvariant.authored {run next : SessionRun D}
    (hinv : SessionRunInvariant host run) (h : AuthoredStep host run next) :
    SessionRunInvariant host next := by
  obtain ⟨happly⟩ := h
  obtain ⟨hsound, -, hsessions, heffect⟩ := applySessionMutationPlan_ok happly
  refine ⟨hsound, fun session hsession => ?_, fun plan hplan before hbefore => ?_⟩
  · rw [hsessions, mem_sessionsWith] at hsession
    rcases hsession with ⟨hmem, -⟩ | rfl
    · exact hinv.dense session hmem
    · cases heffect with
      | created _ _ _ hdense => exact hdense
      | changed current hmem _ hstep => exact hstep.dense (hinv.dense current hmem)
  · rcases List.mem_cons.mp hplan with rfl | hplan
    · cases heffect with
      | created _ hnone => rw [hnone] at hbefore; cases hbefore
      | changed current hmem hsame =>
        rw [Option.mem_def.mp hbefore] at hsame
        exact ⟨current, hinv.sound.schema current hmem, hinv.dense current hmem, hsame⟩
    · exact hinv.replaced plan hplan before hbefore

theorem SessionRunInvariant.restored {run next : SessionRun D} {original : SessionMutationPlan D}
    (hinv : SessionRunInvariant host run) (hmem : original ∈ run.applied)
    (h : RestoreStep host original run next) : SessionRunInvariant host next := by
  obtain ⟨hplan, happly⟩ := h
  obtain ⟨hsound, -, current, heffect⟩ := applySessionRestorePlan_ok hplan happly
  refine ⟨hsound, fun session hsession => ?_, hinv.replaced⟩
  rw [heffect.sessions, mem_sessionsWithout] at hsession
  rcases hsession with ⟨hsession, -⟩ | hsession
  · exact hinv.dense session hsession
  · -- the image satisfies the schema, so it is the head the run has had
    obtain ⟨prior, hprior, hschema, hroster, -⟩ := heffect.image session hsession
    obtain ⟨head, hheadSchema, hdense, hsame⟩ := hinv.replaced original hmem prior hprior
    rw [hroster, SessionHead.eq_of_same hschema hheadSchema hsame]
    exact hdense

theorem SessionRunInvariant.removed {run next : SessionRun D}
    (hinv : SessionRunInvariant host run) (h : RemovalStep host run next) :
    SessionRunInvariant host next := by
  obtain ⟨hplan, happly⟩ := h
  obtain ⟨hsound, -, hsessions⟩ := applyNewSessionRemovalPlan_ok hplan happly
  exact ⟨hsound, fun session hsession => hinv.dense session (hsessions session hsession),
    hinv.replaced⟩

theorem SessionRunInvariant.step {run next : SessionRun D}
    (hinv : SessionRunInvariant host run) (h : SessionStep host run next) :
    SessionRunInvariant host next := by
  cases h with
  | authored h => exact hinv.authored h
  | restored original hmem h => exact hinv.restored hmem h
  | removed h => exact hinv.removed h

theorem SessionRunInvariant.of_run {scope : SessionScope} {empty : SessionCatalog D}
    {run : SessionRun D} (hempty : createEmptySessionCatalog host scope = .ok empty)
    (h : Relation.ReflTransGen (SessionStep host) ⟨empty, []⟩ run) :
    SessionRunInvariant host run := by
  induction h with
  | refl =>
    obtain ⟨hchecks, rfl⟩ := parseSessionCatalog_eq_ok.mp hempty
    exact ⟨soundCatalog_of_catalogChecks hchecks, by simp, by simp⟩
  | tail _ hstep ih => exact ih.step hstep

theorem AuthoredStep.moves {run next : SessionRun D} (hsound : SoundCatalog host run.catalog)
    (h : AuthoredStep host run next) {a b : SessionHead D} (ha : a ∈ run.catalog.sessions)
    (hb : b ∈ next.catalog.sessions) (hid : a.id = b.id) : SessionMoves a b := by
  obtain ⟨happly⟩ := h
  obtain ⟨-, -, hsessions, heffect⟩ := applySessionMutationPlan_ok happly
  rw [hsessions, mem_sessionsWith] at hb
  rcases hb with ⟨hb, -⟩ | rfl
  · rw [hsound.eq_of_id_eq ha hb hid]
    exact .refl b
  · cases heffect with
    | created hfresh => exact absurd hid (hfresh a ha)
    | changed current hmem _ hstep =>
      rw [hsound.eq_of_id_eq ha hmem (hid.trans hstep.id)]
      exact hstep.moves

theorem RestoreStep.restores {run next : SessionRun D} {original : SessionMutationPlan D}
    (hsound : SoundCatalog host run.catalog) (h : RestoreStep host original run next)
    {a b : SessionHead D} (ha : a ∈ run.catalog.sessions) (hb : b ∈ next.catalog.sessions)
    (hid : a.id = b.id) :
    b = a ∨ b.version.val = a.version.val + 1 ∧ ∃ prior ∈ original.before, b.roster = prior.roster := by
  obtain ⟨hplan, happly⟩ := h
  obtain ⟨hnext, -, current, heffect⟩ := applySessionRestorePlan_ok hplan happly
  by_cases hcurrent : a.id = current.id
  · obtain rfl := hsound.eq_of_id_eq ha heffect.mem hcurrent
    rw [heffect.sessions, mem_sessionsWithout] at hb
    rcases hb with ⟨-, hne⟩ | hb
    · exact absurd hid.symm hne
    · obtain ⟨prior, hprior, -, hroster, hversion⟩ := heffect.image b hb
      exact .inr ⟨hversion, prior, hprior, hroster⟩
  · -- another session is kept, and no two sessions have one identity
    have hkept : a ∈ _ := heffect.sessions ▸ mem_sessionsWithout.mpr (.inl ⟨ha, hcurrent⟩)
    exact .inl (hnext.eq_of_id_eq hb hkept hid.symm)

theorem SessionStep.advances {run next : SessionRun D} (hsound : SoundCatalog host run.catalog)
    (h : SessionStep host run next) :
    next.catalog.version.val = run.catalog.version.val + 1 ∧
      ∀ a ∈ run.catalog.sessions, ∀ b ∈ next.catalog.sessions, a.id = b.id →
        b = a ∨ b.version.val = a.version.val + 1 := by
  cases h with
  | authored h =>
    refine ⟨?_, fun a ha b hb hid => (h.moves hsound ha hb hid).version⟩
    obtain ⟨happly⟩ := h
    exact (applySessionMutationPlan_ok happly).2.1
  | restored original hmem h =>
    refine ⟨?_, fun a ha b hb hid => (h.restores hsound ha hb hid).imp_right And.left⟩
    obtain ⟨hplan, happly⟩ := h
    exact (applySessionRestorePlan_ok hplan happly).2.1
  | removed h =>
    obtain ⟨hplan, happly⟩ := h
    obtain ⟨-, hversion, hsessions⟩ := applyNewSessionRemovalPlan_ok hplan happly
    exact ⟨hversion, fun a ha b hb hid => .inl (hsound.eq_of_id_eq (hsessions b hb) ha hid.symm)⟩

theorem rosterVersion_of_authored {run later : SessionRun D}
    (hinv : SessionRunInvariant host run)
    (h : Relation.ReflTransGen (AuthoredStep host) run later) :
    SessionRunInvariant host later ∧ ∀ a ∈ run.catalog.sessions,
      ∃ b ∈ later.catalog.sessions, a.id = b.id ∧ a.roster.version.val ≤ b.roster.version.val ∧
        (a.roster.version = b.roster.version →
          a.roster.participants = b.roster.participants) := by
  induction h with
  | refl => exact ⟨hinv, fun a ha => ⟨a, ha, rfl, le_rfl, fun _ => rfl⟩⟩
  | @tail middle later _ hstep ih =>
    refine ⟨ih.1.authored hstep, fun a ha => ?_⟩
    obtain ⟨b, hb, hid, hle, heq⟩ := ih.2 a ha
    have hkept : ∃ c ∈ later.catalog.sessions, b.id = c.id := by
      obtain ⟨happly⟩ := hstep
      rename_i plan _ _ _
      obtain ⟨-, -, hsessions, -⟩ := applySessionMutationPlan_ok happly
      rw [hsessions]
      by_cases hafter : b.id = plan.after.id
      · exact ⟨plan.after, mem_sessionsWith.mpr (.inr rfl), hafter⟩
      · exact ⟨b, mem_sessionsWith.mpr (.inl ⟨hb, hafter⟩), rfl⟩
    obtain ⟨c, hc, hbc⟩ := hkept
    have hmoves := hstep.moves ih.1.sound hb hc hbc
    refine ⟨c, hc, hid.trans hbc, ?_, fun hversion => ?_⟩
    · rcases hmoves.roster with ⟨h, -⟩ | h
      · rwa [h]
      · omega
    · rcases hmoves.roster with ⟨h, hparticipants⟩ | h
      · rw [hparticipants, heq (hversion.trans h)]
      · rw [hversion] at hle
        omega

/-- In every run from an empty catalog, sessions are in strict order of their identities
and rosters are dense. Every step takes the catalog and the session it changes one version
further. Planned changes move the lifecycle forward and the version of a roster with its
participants, and while there are only planned changes one version of a roster has one
list of participants. A compensation puts the roster of the image back that the plan it
undoes replaced. -/
theorem session_catalog_run {scope : SessionScope} {empty : SessionCatalog D} {run : SessionRun D}
    (hempty : createEmptySessionCatalog host scope = .ok empty)
    (hrun : Relation.ReflTransGen (SessionStep host) ⟨empty, []⟩ run) :
    (run.catalog.sessions.Pairwise fun a b => a.id < b.id) ∧
    (∀ session ∈ run.catalog.sessions, DenseRoster session.roster.participants) ∧
    (∀ next, SessionStep host run next →
      next.catalog.version.val = run.catalog.version.val + 1 ∧
        ∀ a ∈ run.catalog.sessions, ∀ b ∈ next.catalog.sessions, a.id = b.id →
          b = a ∨ b.version.val = a.version.val + 1) ∧
    (∀ next, AuthoredStep host run next →
      ∀ a ∈ run.catalog.sessions, ∀ b ∈ next.catalog.sessions, a.id = b.id → SessionMoves a b) ∧
    (∀ original next, RestoreStep host original run next →
      ∀ a ∈ run.catalog.sessions, ∀ b ∈ next.catalog.sessions, a.id = b.id →
        b = a ∨ ∃ prior ∈ original.before, b.roster = prior.roster) ∧
    (∀ next, RemovalStep host run next →
      ∀ a ∈ run.catalog.sessions, ∀ b ∈ next.catalog.sessions, a.id = b.id → b = a) ∧
    ∀ later, Relation.ReflTransGen (AuthoredStep host) run later →
      ∀ a ∈ run.catalog.sessions, ∀ b ∈ later.catalog.sessions, a.id = b.id →
        a.roster.participants ≠ b.roster.participants → a.roster.version.val < b.roster.version.val := by
  have hinv := SessionRunInvariant.of_run hempty hrun
  refine ⟨hinv.sound.sorted, hinv.dense, fun next h => h.advances hinv.sound,
    fun next h a ha b hb hid => h.moves hinv.sound ha hb hid,
    fun original next h a ha b hb hid => (h.restores hinv.sound ha hb hid).imp_right And.right,
    ?_, ?_⟩
  · rintro next ⟨hplan, happly⟩ a ha b hb hid
    obtain ⟨-, -, hsessions⟩ := applyNewSessionRemovalPlan_ok hplan happly
    exact hinv.sound.eq_of_id_eq (hsessions b hb) ha hid.symm
  · intro later hlater a ha b hb hid hne
    obtain ⟨hlaterInv, hkept⟩ := rosterVersion_of_authored hinv hlater
    obtain ⟨c, hc, hac, hle, heq⟩ := hkept a ha
    obtain rfl := hlaterInv.sound.eq_of_id_eq hb hc (hid.symm.trans hac)
    exact lt_of_le_of_ne hle fun h => hne (heq (Subtype.ext h))

/-! ## An example -/

namespace RestoreExample

def scope : SessionScope := ⟨.ofNat 1, .ofNat 2⟩

def talk : PlannedProgramVocabularyItem :=
  { id := .ofNat 3, name := "Talk", status := .active, version := .one, fields := .format }

def vocabulary : ProgramVocabularyState SymbolicDigest.host where
  scope := scope
  setVersion := .one
  itemsOfKind
    | .format => [talk]
    | _ => []
  kind_eq := by rintro (_ | _ | _) item h <;> simp_all; rfl
  stored := by
    rintro (_ | _ | _) item h <;> simp_all
    exact ⟨by decide, trivial⟩
  sorted := by rintro (_ | _ | _) <;> simp
  nodup := by simp

/-- What every input of the example says of a catalog. -/
def base (catalog : SessionCatalog SymbolicDigest) : SessionInputBase SymbolicDigest :=
  { scope, actorUserId := .ofNat 4, occurredAt := .yearStart 2026, sessionId := .ofNat 5
    expectedCatalogVersion := catalog.version
    expectedCatalogDigestSha256 := catalog.digestSha256 }

def change (catalog : SessionCatalog SymbolicDigest) (input : SessionPlanningInput SymbolicDigest) :
    Except SessionError (SessionMutationPlan SymbolicDigest × SessionCatalog SymbolicDigest) := do
  let plan ← planSessionMutation SymbolicDigest.host input catalog vocabulary
  let (next, _) ← applySessionMutationPlan SymbolicDigest.host plan catalog vocabulary
  return (plan, next)

def append (catalog : SessionCatalog SymbolicDigest) (personId : ApplicationId) :
    Except SessionError (SessionMutationPlan SymbolicDigest × SessionCatalog SymbolicDigest) := do
  let current ← orRefuse (findSession catalog (.ofNat 5)) (.planning .session_missing)
  change catalog <| .roster_append (base catalog)
    { expectedSessionVersion := current.version
      expectedSessionDigestSha256 := current.digestSha256 }
    [{ personId, role := .speaker, publiclyVisible := true
       source := { kind := "submission", id := "s", version := .one } }] false

/-- A plan with another image to put back, where nobody has the first seat. -/
def withGap (plan : SessionMutationPlan SymbolicDigest) : SessionMutationPlan SymbolicDigest :=
  { plan with
    before := some <| signHead SymbolicDigest.host
      { plan.after with
        roster := signRoster SymbolicDigest.host .one
          (plan.after.roster.participants.map fun p => { p with position := p.position + 1 }) } }

theorem isDuration_sixty : 5 ≤ 60 ∧ 60 ≤ 1440 ∧ 60 % 5 = 0 := by decide

def created : Except SessionError (SessionCatalog SymbolicDigest ×
    SessionMutationPlan SymbolicDigest × SessionCatalog SymbolicDigest) := do
  let empty ← createEmptySessionCatalog SymbolicDigest.host scope
  let (plan, next) ← change empty
    (.create (base empty) "Panel" ⟨60, isDuration_sixty⟩ .collecting talk.id none none)
  return (empty, plan, next)

/-- A person is added, this is undone, and another person is added. -/
def twoPersons (catalog : SessionCatalog SymbolicDigest) :
    Except SessionError (SessionCatalog SymbolicDigest × SessionCatalog SymbolicDigest) := do
  let (plan, first) ← append catalog (.ofNat 6)
  let undo ← planSessionCompensation SymbolicDigest.host plan first (.ofNat 4) (.yearStart 2027)
  let (undone, _) ← applySessionRestorePlan SymbolicDigest.host undo first
  let (_, second) ← append undone (.ofNat 7)
  return (first, second)

def emptySeat (catalog : SessionCatalog SymbolicDigest) :
    Except SessionError (SessionCatalog SymbolicDigest) := do
  let (plan, first) ← append catalog (.ofNat 6)
  let undo ← planSessionCompensation SymbolicDigest.host (withGap plan) first (.ofNat 4)
    (.yearStart 2027)
  let (undone, _) ← applySessionRestorePlan SymbolicDigest.host undo first
  return undone

/-- A session is removed with a plan that no planner made. -/
def skippedVersion (catalog : SessionCatalog SymbolicDigest) :
    Except SessionError (SessionCatalog SymbolicDigest) := do
  let head ← orRefuse (findSession catalog (.ofNat 5)) (.planning .session_missing)
  let plan ← planNewSessionRemoval SymbolicDigest.host head catalog (.ofNat 4) (.yearStart 2027)
  let later ← catalogWith SymbolicDigest.host scope 9 []
  let (next, _) ← applyNewSessionRemovalPlan SymbolicDigest.host
    { plan with catalogAfter := later.guard } catalog
  return next

def outcomes : Except SessionError Unit := do
  let (_, _, catalog) ← created
  let (first, second) ← twoPersons catalog
  require (∃ a ∈ first.sessions, ∃ b ∈ second.sessions, a.id = b.id ∧
    a.roster.version = b.roster.version ∧ a.roster.participants ≠ b.roster.participants) .thrown
  let undone ← emptySeat catalog
  require (∃ a ∈ undone.sessions, ¬ a.roster.participants.map (·.position) =
    List.range a.roster.participants.length) .thrown
  let next ← skippedVersion catalog
  require (¬ next.version.val = catalog.version.val + 1) .thrown

theorem outcomes_succeed : outcomes.toBool = true := by decide +kernel

example : (created.map fun (_, plan, catalog) =>
      (applySessionMutationPlan SymbolicDigest.host plan catalog vocabulary).toBool).toOption =
    some false := by
  decide +kernel

theorem change_ok {catalog next : SessionCatalog SymbolicDigest}
    {input : SessionPlanningInput SymbolicDigest} {plan : SessionMutationPlan SymbolicDigest}
    {applied : List (SessionMutationPlan SymbolicDigest)}
    (h : change catalog input = .ok (plan, next)) :
    AuthoredStep SymbolicDigest.host ⟨catalog, applied⟩ ⟨next, plan :: applied⟩ := by
  simp only [change, bind_eq_ok, pure_eq_ok, Prod.mk.injEq] at h
  obtain ⟨_, -, ⟨_, _⟩, happly, rfl, rfl⟩ := h
  exact ⟨happly⟩

theorem append_ok {catalog next : SessionCatalog SymbolicDigest} {personId : ApplicationId}
    {plan : SessionMutationPlan SymbolicDigest}
    {applied : List (SessionMutationPlan SymbolicDigest)}
    (h : append catalog personId = .ok (plan, next)) :
    AuthoredStep SymbolicDigest.host ⟨catalog, applied⟩ ⟨next, plan :: applied⟩ := by
  simp only [append, bind_eq_ok] at h
  obtain ⟨_, -, h⟩ := h
  exact change_ok h

end RestoreExample

/-- A compensation puts the version of a roster back with the roster, so that the version
can come to stand for other participants. A plan that was never applied puts a roster back
that is not dense, and a removal that was not planned can skip versions of the catalog. -/
theorem restored_roster_version :
    ∃ empty created, createEmptySessionCatalog SymbolicDigest.host RestoreExample.scope = .ok empty ∧
      AuthoredStep SymbolicDigest.host ⟨empty, []⟩ created ∧
      (∃ first undone second original, AuthoredStep SymbolicDigest.host created first ∧
        original ∈ first.applied ∧ RestoreStep SymbolicDigest.host original first undone ∧
        AuthoredStep SymbolicDigest.host undone second ∧
        ∃ a ∈ first.catalog.sessions, ∃ b ∈ second.catalog.sessions, a.id = b.id ∧
          a.roster.version = b.roster.version ∧ a.roster.participants ≠ b.roster.participants) ∧
      (∃ first undone original, AuthoredStep SymbolicDigest.host created first ∧
        RestoreStep SymbolicDigest.host original first undone ∧
        ∃ session ∈ undone.catalog.sessions, ¬ DenseRoster session.roster.participants) ∧
      ∃ plan next result,
        applyNewSessionRemovalPlan SymbolicDigest.host plan created.catalog = .ok (next, result) ∧
          next.version.val ≠ created.catalog.version.val + 1 := by
  obtain ⟨_, h⟩ := exists_of_toBool RestoreExample.outcomes_succeed
  simp only [RestoreExample.outcomes, bind_eq_ok, require_eq_ok, exists_const] at h
  obtain ⟨⟨empty, plan, catalog⟩, hcreated, ⟨first, second⟩, htwo, hversions, undone, hseat, hgap,
    next, hskipped, hversion⟩ := h
  simp only [RestoreExample.created, bind_eq_ok, pure_eq_ok, Prod.mk.injEq] at hcreated
  obtain ⟨_, hempty, ⟨_, _⟩, hcreate, rfl, rfl, rfl⟩ := hcreated
  refine ⟨_, _, hempty, RestoreExample.change_ok hcreate, ?_, ?_, ?_⟩
  · simp only [RestoreExample.twoPersons, bind_eq_ok, pure_eq_ok, Prod.mk.injEq] at htwo
    obtain ⟨⟨original, _⟩, happend, undo, hundo, ⟨undone', _⟩, happly, ⟨_, _⟩, hagain, rfl, rfl⟩ := htwo
    exact ⟨_, _, _, original, RestoreExample.append_ok happend, by simp, ⟨.inl hundo, happly⟩,
      RestoreExample.append_ok hagain, hversions⟩
  · simp only [RestoreExample.emptySeat, bind_eq_ok, pure_eq_ok] at hseat
    obtain ⟨⟨original, _⟩, happend, undo, hundo, ⟨undone', _⟩, happly, rfl⟩ := hseat
    obtain ⟨session, hsession, hpositions⟩ := hgap
    exact ⟨_, _, _, RestoreExample.append_ok happend, ⟨.inl hundo, happly⟩, session, hsession,
      fun h => hpositions h.positions⟩
  · simp only [RestoreExample.skippedVersion, bind_eq_ok, pure_eq_ok] at hskipped
    obtain ⟨_, -, plan', -, later, -, ⟨next', result⟩, happly, rfl⟩ := hskipped
    exact ⟨_, _, result, happly, hversion⟩

/-- A session is created and a person added, this is undone, and another person is added. -/
theorem session_catalog_run_restored :
    ∃ empty first undone second original,
      createEmptySessionCatalog SymbolicDigest.host RestoreExample.scope = .ok empty ∧
      Relation.ReflTransGen (SessionStep SymbolicDigest.host) ⟨empty, []⟩ first ∧
      original ∈ first.applied ∧ RestoreStep SymbolicDigest.host original first undone ∧
      AuthoredStep SymbolicDigest.host undone second ∧ second.applied.length = 3 ∧
      second.catalog.version.val = first.catalog.version.val + 2 ∧
      ∀ session ∈ second.catalog.sessions, DenseRoster session.roster.participants := by
  obtain ⟨_, h⟩ := exists_of_toBool RestoreExample.outcomes_succeed
  simp only [RestoreExample.outcomes, bind_eq_ok] at h
  obtain ⟨_, hcreated, _, htwo, -⟩ := h
  simp only [RestoreExample.created, bind_eq_ok, pure_eq_ok] at hcreated
  obtain ⟨empty, hempty, ⟨plan, catalog⟩, hcreate, rfl⟩ := hcreated
  simp only [RestoreExample.twoPersons, bind_eq_ok] at htwo
  obtain ⟨⟨original, first⟩, happend, undo, hundo, ⟨undone, _⟩, happly, ⟨_, second⟩, hagain, -⟩ := htwo
  have hrun : Relation.ReflTransGen (SessionStep SymbolicDigest.host) ⟨_, []⟩ ⟨first, [original, plan]⟩ :=
    (Relation.ReflTransGen.single (.authored (RestoreExample.change_ok hcreate))).tail
      (.authored (RestoreExample.append_ok happend))
  have hrestore : RestoreStep SymbolicDigest.host original ⟨first, [original, plan]⟩
      ⟨undone, [original, plan]⟩ := ⟨.inl hundo, happly⟩
  have hrestored := hrun.tail (.restored original (by simp) hrestore)
  have hsecond : AuthoredStep SymbolicDigest.host ⟨undone, [original, plan]⟩ _ :=
    RestoreExample.append_ok hagain
  refine ⟨_, _, _, _, original, hempty, hrun, by simp, hrestore, hsecond, rfl, ?_,
    (session_catalog_run hempty (hrestored.tail (.authored hsecond))).2.1⟩
  have hundone := ((session_catalog_run hempty hrun).2.2.1 _ (.restored original (by simp) hrestore)).1
  have hlast := ((session_catalog_run hempty hrestored).2.2.1 _ (.authored hsecond)).1
  omega

end JooEvents
