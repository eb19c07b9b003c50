import JooEvents.Decision.Domain

/-!
# Deciding in bulk

Deciding many submissions at once is deciding them one after another
(`bulk_decide_eq_rows_in_order`). After a row decided alone its session change is
applied to the catalog, and the next row is decided against the new catalog
(`planRowAlone`).

What a row does to the sessions is said by `RowPlanned` : it advances the view by its
contribution, if it has one, as applying the contribution would, and the contribution
guards the catalog it leaves behind it.
-/

namespace JooEvents

open Fallible

variable {D : Type} [DecidableEq D] {host : Host D}

def applyContributions (host : Host D) (vocabulary : ProgramVocabularyState host) :
    List (SessionMutationPlan D) → SessionCatalog D → Except SessionError (SessionCatalog D)
  | [], catalog => .ok catalog
  | contribution :: contributions, catalog => do
    let (catalog, _) ← applySessionMutationPlan host contribution catalog vocabulary
    applyContributions host vocabulary contributions catalog

omit [DecidableEq D] in
/-- Session changes lead from one catalog to another without a gap, each of them one
version further. -/
def ContributionsChain :
    SessionCatalogGuard D → List (SessionMutationPlan D) → SessionCatalogGuard D → Prop
  | start, [], final => start = final
  | start, contribution :: contributions, final =>
    contribution.catalogBefore = start ∧
      contribution.catalogAfter.version.val = start.version.val + 1 ∧
      ContributionsChain contribution.catalogAfter contributions final

/-! ## One row -/

/-- What a planned row does. -/
structure RowPlanned (view : SessionView host) (row : DecisionPlanningRow D)
    (plan : DecisionRowPlan D) (view' : SessionView host) : Prop where
  submissionId : plan.submissionId = row.submissionId
  state : plan.after.state = row.state.state
  vocabulary : view'.vocabulary = view.vocabulary
  parsed : ∀ contribution ∈ plan.graduation,
    parseSessionMutationPlan host contribution = .ok contribution
  applied : applyContributions host view.vocabulary plan.graduation.toList view.catalog =
    .ok view'.catalog
  chain : ContributionsChain view.catalog.guard plan.graduation.toList view'.catalog.guard

theorem SessionView.plan_ok {view view' : SessionView host} {scope : SessionScope}
    {attribution : SessionAttribution} {participants : List SessionRosterParticipantInput}
    {change : SessionGraduationChange} {contribution : SessionMutationPlan D}
    (h : view.plan scope attribution participants change = .ok (contribution, view')) :
    view'.vocabulary = view.vocabulary ∧
      parseSessionMutationPlan host contribution = .ok contribution ∧
      applyContributions host view.vocabulary [contribution] view.catalog = .ok view'.catalog ∧
      ContributionsChain view.catalog.guard [contribution] view'.catalog.guard := by
  simp only [SessionView.plan, bind_eq_ok, mapError_eq_ok, pure_eq_ok, Prod.exists,
    Prod.mk.injEq] at h
  obtain ⟨_, hplan, catalog, result, happly, rfl, rfl⟩ := h
  obtain ⟨vocabulary, input, hmutation⟩ := planSessionGraduationFrom_ok rfl hplan
  obtain ⟨hbefore, hversion⟩ := planSessionMutation_guards hmutation
  refine ⟨rfl, parse_of_planSessionMutation hmutation, ?_, hbefore, ?_, ?_⟩
  · rw [applyContributions, happly]
    rfl
  · rw [hversion, hbefore]
  · exact (guard_of_applySessionMutationPlan happly).symm

theorem planAcceptance_ok {scope : SessionScope} {attribution : SessionAttribution}
    {decisions : DecisionOperationReadPort D} {candidate : DecisionCandidate}
    {submissionId : ApplicationId} {graduation : Option DecisionPlanningGraduation}
    {view view' : SessionView host} {acceptance : Acceptance D}
    (h : planAcceptance scope attribution decisions candidate submissionId graduation view =
      .ok (acceptance, view')) :
    ∃ participants change, view.plan scope attribution participants change =
      .ok (acceptance.graduation, view') := by
  simp only [planAcceptance, bind_eq_ok, orRefuse_eq_ok, require_eq_ok] at h
  obtain ⟨routing, -, -, -, h⟩ := h
  cases routing with
  | attach sessionId graduateTo =>
    simp only [bind_eq_ok, pure_eq_ok, Prod.exists, Prod.mk.injEq] at h
    obtain ⟨target, -, contribution, next, hplan, rfl, rfl⟩ := h
    exact ⟨_, _, hplan⟩
  | spawn sessionId trackId =>
    simp only [bind_eq_ok, pure_eq_ok, Prod.exists, Prod.mk.injEq] at h
    obtain ⟨change, -, contribution, next, hplan, rfl, rfl⟩ := h
    exact ⟨_, _, hplan⟩

theorem planDecisionRow_ok {scope : SessionScope} {attribution : SessionAttribution}
    {decisions : DecisionOperationReadPort D} {view view' : SessionView host}
    {row : DecisionPlanningRow D} {plan : DecisionRowPlan D}
    (h : planDecisionRow scope attribution decisions view row = .ok (plan, view')) :
    RowPlanned view row plan view' := by
  simp only [planDecisionRow, bind_eq_ok, orRefuse_eq_ok, require_eq_ok] at h
  obtain ⟨candidate, -, -, -, -, -, h⟩ := h
  cases hstate : row.state with
  | accepted =>
    simp only [hstate, bind_eq_ok, pure_eq_ok, Prod.exists, Prod.mk.injEq] at h
    obtain ⟨acceptance, next, haccept, rfl, rfl⟩ := h
    obtain ⟨participants, change, hplan⟩ := planAcceptance_ok haccept
    obtain ⟨hvocabulary, hparsed, happlied, hchain⟩ := SessionView.plan_ok hplan
    exact ⟨rfl, rfl, hvocabulary, by rintro _ ⟨⟩; exact hparsed, happlied, hchain⟩
  | waitlisted | declined =>
    simp only [hstate, pure_eq_ok, Prod.mk.injEq] at h
    obtain ⟨rfl, rfl⟩ := h
    exact ⟨rfl, rfl, rfl, by rintro _ ⟨⟩, rfl, rfl⟩

omit [DecidableEq D] in
theorem eq_of_parseDecisionRowPlan {plan parsed : DecisionRowPlan D}
    (hfixed : ∀ contribution ∈ plan.graduation,
      parseSessionMutationPlan host contribution = .ok contribution)
    (h : parseDecisionRowPlan host plan = .ok parsed) : parsed = plan := by
  simp only [parseDecisionRowPlan, bind_eq_ok, mapError_eq_ok, require_eq_ok, pure_eq_ok] at h
  obtain ⟨graduation, hgraduation, -, -, -, -, -, -, -, -, rfl⟩ := h
  have heq : graduation = plan.graduation := by
    cases hplan : plan.graduation with
    | none =>
      rw [hplan] at hgraduation
      exact (pure_eq_ok.mp hgraduation).symm
    | some contribution =>
      rw [hplan] at hgraduation
      simpa [Option.mapM_none, Option.mapM_some, hfixed contribution hplan, eq_comm] using hgraduation
  rw [heq]

theorem checked_planDecisionRow_ok {scope : SessionScope} {attribution : SessionAttribution}
    {decisions : DecisionOperationReadPort D} {view view' : SessionView host}
    {row : DecisionPlanningRow D} {plan : DecisionRowPlan D}
    (h : checked (planDecisionRow scope attribution decisions) (parseDecisionRowPlan host) view
      row = .ok (plan, view')) : RowPlanned view row plan view' := by
  obtain ⟨planned, hplanned, hparse⟩ := checked_eq_ok.mp h
  have hrow := planDecisionRow_ok hplanned
  rwa [eq_of_parseDecisionRowPlan hrow.parsed hparse]

theorem planDecisionMutation_eq_ok {input : DecisionMutationPlanningInput D}
    {environment : DecisionEnvironment host} {plan : DecisionMutationPlan D} :
    planDecisionMutation input environment = .ok plan ↔
      plan.input = input ∧ ∃ view view',
        openSessionView input.scope environment.sessions = .ok view ∧
        thread (checked (planDecisionRow input.scope input.attribution environment.decisions)
          (parseDecisionRowPlan host)) view input.decisions = .ok (plan.rows, view') := by
  simp only [planDecisionMutation, parseDecisionMutationPlan, bind_eq_ok, require_eq_ok,
    pure_eq_ok, Prod.exists]
  constructor
  · rintro ⟨view, hview, rows, view', hrows, parsed, hparsed, -, -, -, -, rfl⟩
    exact ⟨rfl, view, view', hview, thread_mapM_eq_ok_iff.mp ⟨rows, hrows, hparsed⟩⟩
  · rintro ⟨rfl, view, view', hview, hthread⟩
    obtain ⟨rows, hrows, hparsed⟩ := thread_mapM_eq_ok_iff.mpr hthread
    -- the rows are aligned with those of the input
    have halign : List.Forall₂ (fun (row : DecisionPlanningRow D) (rowPlan : DecisionRowPlan D) =>
        (rowPlan.submissionId, rowPlan.after.state) = (row.submissionId, row.state.state))
        plan.input.decisions plan.rows :=
      forall₂_of_thread (fun h => by
        have hrow := checked_planDecisionRow_ok h
        rw [hrow.submissionId, hrow.state]) hthread
    have hlength := halign.length_eq
    refine ⟨view, hview, rows, view', hrows, plan.rows, hparsed, (), ⟨?_, ?_⟩, (), ?_, rfl⟩
    · exact fun hnil => plan.input.ne_nil (List.length_eq_zero_iff.mp (by rw [hlength, hnil]; rfl))
    · exact hlength ▸ plan.input.length_le
    · exact Keyed.map_eq_of_forall₂ (fun _ _ h => h) halign

theorem applyContributions_of_thread {scope : SessionScope} {attribution : SessionAttribution}
    {decisions : DecisionOperationReadPort D} {rows : List (DecisionPlanningRow D)}
    {view view' : SessionView host} {plans : List (DecisionRowPlan D)}
    (h : thread (checked (planDecisionRow scope attribution decisions)
      (parseDecisionRowPlan host)) view rows = .ok (plans, view')) :
    applyContributions host view.vocabulary (contributionsOf plans) view.catalog =
        .ok view'.catalog ∧
      ContributionsChain view.catalog.guard (contributionsOf plans) view'.catalog.guard := by
  refine thread_induction (P := fun (view : SessionView host) plans (view' : SessionView host) =>
    applyContributions host view.vocabulary (contributionsOf plans) view.catalog =
        .ok view'.catalog ∧
      ContributionsChain view.catalog.guard (contributionsOf plans) view'.catalog.guard)
    (fun _ => ⟨rfl, rfl⟩) ?_ h
  intro view row plan next plans final hrow ih
  have hplanned := checked_planDecisionRow_ok hrow
  obtain ⟨happlied, hchain⟩ := ih
  rw [hplanned.vocabulary] at happlied
  cases hgraduation : plan.graduation with
  | none =>
    have hnext := hplanned.applied
    rw [hgraduation] at hnext
    rw [contributionsOf, List.filterMap_cons_none hgraduation, Except.ok.inj hnext]
    exact ⟨happlied, hchain⟩
  | some contribution =>
    have hone := hplanned.applied
    have hlink := hplanned.chain
    rw [hgraduation] at hone hlink
    simp only [applyContributions, Option.toList_some, bind_eq_ok, Prod.exists,
      Except.ok.injEq] at hone
    obtain ⟨_, result, hone, rfl⟩ := hone
    rw [contributionsOf, List.filterMap_cons_some hgraduation]
    refine ⟨?_, hlink.1, hlink.2.1, ?_⟩
    · rw [applyContributions, hone]
      exact happlied
    · rw [hlink.2.2]
      exact hchain

/-! ## One row after another -/

omit [DecidableEq D] in
/-- The environment with another catalog of sessions. -/
def DecisionEnvironment.withCatalog (environment : DecisionEnvironment host) (scope : SessionScope)
    (catalog : SessionCatalog D) : DecisionEnvironment host :=
  { environment with
    sessions :=
      { environment.sessions with
        readSessionCatalog := fun readScope =>
          if readScope = scope then some catalog
          else environment.sessions.readSessionCatalog readScope } }

/-- Decide one row of an input alone, and apply its contribution to the catalog. -/
def planRowAlone (input : DecisionMutationPlanningInput D) (environment : DecisionEnvironment host)
    (row : DecisionPlanningRow D) :
    Except DecisionError (DecisionMutationPlan D × DecisionEnvironment host) := do
  let plan ← planDecisionMutation (input.only row) environment
  let view ← openSessionView input.scope environment.sessions
  let catalog ← (applyContributions host view.vocabulary (contributionsOf plan.rows)
    view.catalog).mapError .ofSession
  return (plan, environment.withCatalog input.scope catalog)

/-- Decide the rows of an input one after another. -/
def planRowsInOrder (input : DecisionMutationPlanningInput D)
    (environment : DecisionEnvironment host) :
    Except DecisionError (List (DecisionMutationPlan D) × DecisionEnvironment host) :=
  thread (planRowAlone input) environment input.decisions

omit [DecidableEq D] in
theorem openSessionView_withCatalog {environment : DecisionEnvironment host}
    {scope : SessionScope} {view : SessionView host} (catalog : SessionCatalog D)
    (h : openSessionView scope environment.sessions = .ok view) :
    openSessionView scope (environment.withCatalog scope catalog).sessions =
      .ok { view with catalog } := by
  simp only [openSessionView, bind_eq_ok, orRefuse_eq_ok, pure_eq_ok] at h ⊢
  obtain ⟨_, -, vocabulary, hvocabulary, rfl⟩ := h
  exact ⟨catalog, if_pos rfl, vocabulary, hvocabulary, rfl⟩

/-- The environment hands out a view, and knows of the decisions of another. -/
def ReadsView (input : DecisionMutationPlanningInput D) (decisions : DecisionOperationReadPort D)
    (view : SessionView host) (environment : DecisionEnvironment host) : Prop :=
  environment.decisions = decisions ∧ openSessionView input.scope environment.sessions = .ok view

theorem planRowAlone_eq_ok {input : DecisionMutationPlanningInput D}
    {decisions : DecisionOperationReadPort D} {view : SessionView host}
    {environment environment' : DecisionEnvironment host} {row : DecisionPlanningRow D}
    {single : DecisionMutationPlan D} (hview : ReadsView input decisions view environment) :
    planRowAlone input environment row = .ok (single, environment') ↔
      ∃ plan view', checked (planDecisionRow input.scope input.attribution decisions)
          (parseDecisionRowPlan host) view row = .ok (plan, view') ∧
        single = { input := input.only row, rows := [plan] } ∧
        environment' = environment.withCatalog input.scope view'.catalog := by
  obtain ⟨rfl, hopen⟩ := hview
  have happlied : ∀ {plan view'}, checked (planDecisionRow input.scope input.attribution
      environment.decisions) (parseDecisionRowPlan host) view row = .ok (plan, view') →
      applyContributions host view.vocabulary (contributionsOf [plan]) view.catalog =
        .ok view'.catalog := fun h =>
    (applyContributions_of_thread (thread_singleton_eq_ok.mpr ⟨_, h, rfl⟩)).1
  simp only [planRowAlone, planDecisionMutation_eq_ok, bind_eq_ok, mapError_eq_ok, pure_eq_ok,
    Prod.mk.injEq]
  constructor
  · rintro ⟨planned, ⟨hinput, view₁, view', hopen₁, hthread⟩, view₂, hopen₂, catalog, happly, rfl, rfl⟩
    obtain rfl := Except.ok.inj (hopen.symm.trans hopen₁)
    obtain rfl := Except.ok.inj (hopen.symm.trans hopen₂)
    obtain ⟨plan, hrow, hrows⟩ := thread_singleton_eq_ok.mp hthread
    rw [hrows, happlied hrow] at happly
    refine ⟨plan, view', hrow, ?_, by rw [Except.ok.inj happly]⟩
    cases planned
    simp_all
  · rintro ⟨plan, view', hrow, rfl, rfl⟩
    exact ⟨_, ⟨rfl, view, view', hopen, thread_singleton_eq_ok.mpr ⟨plan, hrow, rfl⟩⟩, view, hopen,
      view'.catalog, happlied hrow, rfl, rfl⟩

theorem ReadsView.next {input : DecisionMutationPlanningInput D}
    {decisions : DecisionOperationReadPort D} {view view' : SessionView host}
    {environment : DecisionEnvironment host} {row : DecisionPlanningRow D}
    {plan : DecisionRowPlan D} (h : ReadsView input decisions view environment)
    (hrow : RowPlanned view row plan view') :
    ReadsView input decisions view' (environment.withCatalog input.scope view'.catalog) := by
  refine ⟨h.1, ?_⟩
  rw [openSessionView_withCatalog _ h.2, ← hrow.vocabulary]

theorem planRowsInOrder_of_thread {input : DecisionMutationPlanningInput D}
    {environment : DecisionEnvironment host} {view view' : SessionView host}
    {plans : List (DecisionRowPlan D)}
    (hopen : openSessionView input.scope environment.sessions = .ok view)
    (h : thread (checked (planDecisionRow input.scope input.attribution environment.decisions)
      (parseDecisionRowPlan host)) view input.decisions = .ok (plans, view')) :
    ∃ singles final, planRowsInOrder input environment = .ok (singles, final) ∧
      ReadsView input environment.decisions view' final ∧
      List.Forall₂ (fun plan single => single.rows = [plan]) plans singles := by
  refine thread_simulates (R := ReadsView input environment.decisions) ?_ ⟨rfl, hopen⟩ h
  intro view environment' row plan view' hview hrow
  exact ⟨_, _, (planRowAlone_eq_ok hview).mpr ⟨plan, view', hrow, rfl, rfl⟩,
    hview.next (checked_planDecisionRow_ok hrow), rfl⟩

theorem thread_of_planRowsInOrder {input : DecisionMutationPlanningInput D}
    {environment final : DecisionEnvironment host} {view : SessionView host}
    {singles : List (DecisionMutationPlan D)}
    (hopen : openSessionView input.scope environment.sessions = .ok view)
    (h : planRowsInOrder input environment = .ok (singles, final)) :
    ∃ plans view', thread (checked (planDecisionRow input.scope input.attribution
      environment.decisions) (parseDecisionRowPlan host)) view input.decisions =
        .ok (plans, view') := by
  have hstep : ∀ {environment₁ : DecisionEnvironment host} {view : SessionView host}
      {row single environment₂},
      ReadsView input environment.decisions view environment₁ →
      planRowAlone input environment₁ row = .ok (single, environment₂) →
      ∃ plan view', checked (planDecisionRow input.scope input.attribution environment.decisions)
          (parseDecisionRowPlan host) view row = .ok (plan, view') ∧
        ReadsView input environment.decisions view' environment₂ ∧ single.rows = [plan] := by
    intro environment₁ view row single environment₂ hview hsingle
    obtain ⟨plan, view', hrow, rfl, rfl⟩ := (planRowAlone_eq_ok hview).mp hsingle
    exact ⟨plan, view', hrow, hview.next (checked_planDecisionRow_ok hrow), rfl⟩
  obtain ⟨plans, view', hthread, -, -⟩ := thread_simulates
    (R := fun environment' view => ReadsView input environment.decisions view environment')
    (S := fun single (plan : DecisionRowPlan D) => single.rows = [plan])
    @hstep ⟨rfl, hopen⟩ h
  exact ⟨plans, view', hthread⟩

theorem openSessionView_of_planRowsInOrder {input : DecisionMutationPlanningInput D}
    {environment final : DecisionEnvironment host} {singles : List (DecisionMutationPlan D)}
    (h : planRowsInOrder input environment = .ok (singles, final)) :
    ∃ view, openSessionView input.scope environment.sessions = .ok view := by
  rw [planRowsInOrder] at h
  cases hrows : input.decisions with
  | nil => exact absurd hrows input.ne_nil
  | cons row rows =>
    rw [hrows] at h
    obtain ⟨single, next, -, hfirst, -, -⟩ := thread_cons_eq_ok.mp h
    simp only [planRowAlone, bind_eq_ok] at hfirst
    obtain ⟨-, -, view, hopen, -⟩ := hfirst
    exact ⟨view, hopen⟩

theorem input_of_planRowAlone {input : DecisionMutationPlanningInput D}
    {environment environment' : DecisionEnvironment host} {row : DecisionPlanningRow D}
    {single : DecisionMutationPlan D}
    (h : planRowAlone input environment row = .ok (single, environment')) :
    single.input = input.only row := by
  simp only [planRowAlone, planDecisionMutation_eq_ok, bind_eq_ok, pure_eq_ok,
    Prod.mk.injEq] at h
  obtain ⟨_, ⟨hinput, -⟩, -, -, -, -, rfl, -⟩ := h
  exact hinput

/-- Planning in bulk succeeds just where planning and applying row after row does, with
the same rows. The contributions of the rows form a chain from the first catalog to the
last, and applying them in order leads there. -/
theorem bulk_decide_eq_rows_in_order (input : DecisionMutationPlanningInput D)
    (environment : DecisionEnvironment host) :
    ((∃ plan, planDecisionMutation input environment = .ok plan) ↔
      ∃ singles final, planRowsInOrder input environment = .ok (singles, final)) ∧
    ∀ plan, planDecisionMutation input environment = .ok plan →
      ∃ singles final start finish,
        planRowsInOrder input environment = .ok (singles, final) ∧
        openSessionView input.scope environment.sessions = .ok start ∧
        openSessionView input.scope final.sessions = .ok finish ∧
        singles = List.zipWith (fun row rowPlan => { input := input.only row, rows := [rowPlan] })
          input.decisions plan.rows ∧
        plan.rows.length = input.decisions.length ∧
        ContributionsChain start.catalog.guard (contributionsOf plan.rows) finish.catalog.guard ∧
        applyContributions host start.vocabulary (contributionsOf plan.rows) start.catalog =
          .ok finish.catalog := by
  refine ⟨⟨?_, ?_⟩, ?_⟩
  · rintro ⟨plan, hplan⟩
    obtain ⟨-, view, view', hopen, hthread⟩ := planDecisionMutation_eq_ok.mp hplan
    obtain ⟨singles, final, hsingles, -, -⟩ := planRowsInOrder_of_thread hopen hthread
    exact ⟨singles, final, hsingles⟩
  · rintro ⟨singles, final, hsingles⟩
    obtain ⟨view, hopen⟩ := openSessionView_of_planRowsInOrder hsingles
    obtain ⟨plans, view', hthread⟩ := thread_of_planRowsInOrder hopen hsingles
    exact ⟨{ input, rows := plans },
      planDecisionMutation_eq_ok.mpr ⟨rfl, view, view', hopen, hthread⟩⟩
  · intro plan hplan
    obtain ⟨rfl, view, view', hopen, hthread⟩ := planDecisionMutation_eq_ok.mp hplan
    obtain ⟨singles, final, hsingles, hfinal, hrows⟩ := planRowsInOrder_of_thread hopen hthread
    obtain ⟨happlied, hchain⟩ := applyContributions_of_thread hthread
    have hinputs : List.Forall₂ (fun row (single : DecisionMutationPlan D) =>
        single.input = plan.input.only row) plan.input.decisions singles := by
      refine forall₂_of_thread ?_ hsingles
      intro environment row single environment' h
      exact input_of_planRowAlone h
    refine ⟨singles, final, view, view', hsingles, hopen, hfinal.2, ?_, ?_, hchain, happlied⟩
    · refine eq_zipWith_of_forall₂ (fun {row rowPlan single} hinput hrow => ?_) hinputs hrows
      cases single
      simp_all
    · rw [hinputs.length_eq, hrows.length_eq]

/-! ## An example -/

namespace BulkExample

def scope : SessionScope := ⟨.ofNat 1, .ofNat 2⟩

def talk : PlannedProgramVocabularyItem :=
  { id := .ofNat 3, name := "Talk", status := .active, version := .one, fields := .format }

def vocabulary : ProgramVocabularyState SymbolicDigest.host where
  scope := scope
  setVersion := .one
  itemsOfKind
    | .format => [talk]
    | _ => []
  kind_eq := by rintro (_ | _ | _) item h <;> simp_all; rfl
  stored := by
    rintro (_ | _ | _) item h <;> simp_all
    exact ⟨by decide, trivial⟩
  sorted := by rintro (_ | _ | _) <;> simp
  nodup := by simp

def panel : SessionHead SymbolicDigest :=
  signHead SymbolicDigest.host
    { scope, id := .ofNat 5, title := "Panel", plannedDurationMinutes := ⟨60, by decide⟩
      lifecycle := .collecting
      programTarget :=
        { setVersion := .one, setDigestSha256 := programVocabularySetDigest _ vocabulary
          format := { id := talk.id, name := talk.name, version := talk.version }
          track := none }
      roster := signRoster SymbolicDigest.host .one [], version := .one
      createdByUserId := .ofNat 4, createdAt := .yearStart 2026
      updatedByUserId := .ofNat 4, updatedAt := .yearStart 2026 }

def catalog : SessionCatalog SymbolicDigest :=
  { scope, version := .one, sessions := [panel]
    digestSha256 := sessionCatalogDigest SymbolicDigest.host scope .one [panel] }

def environment : DecisionEnvironment SymbolicDigest.host where
  decisions :=
    { readDecisionCandidate := fun _ submissionId => some
        { submissionId, formVersionId := .ofNat 6, candidateVersion := .one
          title := some "A talk", formatId := some talk.id
          participantPersonIds := [submissionId] }
      readDecisionReviewBasis := fun _ _ => none
      readDecisionHead := fun _ _ => none
      readSubmissionSessionOrigin := fun _ _ => none }
  sessions :=
    { readSessionCatalog := fun _ => some catalog
      readSessionVocabulary := fun _ => some vocabulary }

/-- A submission attached to a session, another one with which the session graduates, and one that
is declined. -/
def input : DecisionMutationPlanningInput SymbolicDigest where
  scope := scope
  actorUserId := .ofNat 4
  occurredAt := .yearStart 2027
  decisions :=
    [{ submissionId := .ofNat 7, state := .accepted, expectedDecisionVersion := none
       expectedDecisionDigestSha256 := none, graduation := some (.attach (.ofNat 5) false)
       pins_together := by simp, graduates := by simp },
     { submissionId := .ofNat 9, state := .accepted, expectedDecisionVersion := none
       expectedDecisionDigestSha256 := none, graduation := some (.attach (.ofNat 5) true)
       pins_together := by simp, graduates := by simp },
     { submissionId := .ofNat 8, state := .declined, expectedDecisionVersion := none
       expectedDecisionDigestSha256 := none, graduation := none
       pins_together := by simp, graduates := by simp }]
  ne_nil := by simp
  length_le := by decide
  nodup := by decide

def outcome : Except DecisionError Unit := do
  let plan ← planDecisionMutation input environment
  require ((contributionsOf plan.rows).map (·.catalogBefore.version.val) = [1, 2] ∧
    (contributionsOf plan.rows).map (·.after.roster.participants.map (·.personId)) =
      [[.ofNat 7], [.ofNat 7, .ofNat 9]]) .thrown

theorem outcome_succeeds : outcome.toBool = true := by decide +kernel

end BulkExample

open BulkExample in
/-- Two submissions are attached to one session and a third one is declined. The second attachment
is planned on the catalog that the first one leaves, in bulk as one after another. -/
theorem bulk_decide_two_attached :
    ∃ plan singles final start finish,
      planDecisionMutation input environment = .ok plan ∧
      planRowsInOrder input environment = .ok (singles, final) ∧
      openSessionView scope environment.sessions = .ok start ∧
      openSessionView scope final.sessions = .ok finish ∧
      (contributionsOf plan.rows).map (·.catalogBefore.version.val) = [1, 2] ∧
      (contributionsOf plan.rows).map (·.after.roster.participants.map (·.personId)) =
        [[.ofNat 7], [.ofNat 7, .ofNat 9]] ∧
      ContributionsChain start.catalog.guard (contributionsOf plan.rows) finish.catalog.guard := by
  obtain ⟨_, h⟩ := exists_of_toBool outcome_succeeds
  simp only [outcome, bind_eq_ok, require_eq_ok] at h
  obtain ⟨plan, hplan, hversions, hpersons⟩ := h
  obtain ⟨singles, final, start, finish, hsingles, hstart, hfinish, -, -, hchain, -⟩ :=
    (bulk_decide_eq_rows_in_order input environment).2 plan hplan
  exact ⟨plan, singles, final, start, finish, hplan, hsingles, hstart, hfinish, hversions, hpersons,
    hchain⟩

end JooEvents
