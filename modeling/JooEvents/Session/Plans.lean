import JooEvents.Session.Domain

/-!
# What planning and applying a session change does

A plan of the planner guards the catalog it was made for and leads to the next version
of it (`planSessionMutation_guards`). It is a parsed plan already : parsing it again
changes nothing (`parse_of_planSessionMutation`), for the title of a new session is the
title of a parsed head. An applied plan leaves the catalog it says it leads to
(`guard_of_applySessionMutationPlan`).
-/

namespace JooEvents

open Fallible

variable {D : Type} {host : Host D}

def SessionPlanningInput.newTitle : SessionPlanningInput D → Option String
  | create _ title .. => some title
  | _ => none

theorem parse_of_parseSessionPlanningInput {input parsed : SessionPlanningInput D}
    (h : parseSessionPlanningInput host input = .ok parsed)
    (htitle : ∀ title ∈ parsed.newTitle, isCanonicalText host 300 title = true) :
    parseSessionPlanningInput host parsed = .ok parsed := by
  cases input with
  | create base title duration lifecycle formatId trackId participants =>
    simp only [parseSessionPlanningInput, bind_eq_ok, require_eq_ok, orRefuse_eq_ok,
      pure_eq_ok] at h
    obtain ⟨canonical, -, -, hparticipants, rfl⟩ := h
    rw [parseSessionPlanningInput,
      parseSessionTitleInput_of_canonical (htitle canonical rfl), require_true hparticipants]
    rfl
  | roster_append | roster_remove | roster_restore | roster_role | roster_reorder =>
    simp only [parseSessionPlanningInput, bind_eq_ok, require_eq_ok, pure_eq_ok] at h
    obtain ⟨-, hchecks, rfl⟩ := h
    rw [parseSessionPlanningInput, require_true hchecks]
    rfl
  | transition | retarget | roster_visibility =>
    obtain rfl := pure_eq_ok.mp h
    rfl

theorem base_of_parseSessionPlanningInput {input parsed : SessionPlanningInput D}
    (h : parseSessionPlanningInput host input = .ok parsed) : parsed.base = input.base := by
  cases input <;>
    simp only [parseSessionPlanningInput, bind_eq_ok, pure_eq_ok] at h <;> grind [
      SessionPlanningInput.base]

theorem parseSessionMutationPlan_eq_ok {plan parsed : SessionMutationPlan D} :
    parseSessionMutationPlan host plan = .ok parsed ↔
      ∃ input, parseSessionPlanningInput host plan.input = .ok input ∧
        (plan.before.all (headSchema host) = true ∧ headSchema host plan.after = true) ∧
        (input.action = .create ↔ plan.before = none) ∧
        (plan.after.id = input.base.sessionId ∧
          plan.before.all (fun before => before.id = input.base.sessionId) = true) ∧
        { plan with input } = parsed := by
  simp [parseSessionMutationPlan]

theorem parse_of_parseSessionMutationPlan {plan parsed : SessionMutationPlan D}
    (h : parseSessionMutationPlan host plan = .ok parsed)
    (htitle : ∀ title ∈ parsed.input.newTitle, isCanonicalText host 300 title = true) :
    parseSessionMutationPlan host parsed = .ok parsed := by
  obtain ⟨input, hinput, hschema, haction, hid, rfl⟩ := parseSessionMutationPlan_eq_ok.mp h
  exact parseSessionMutationPlan_eq_ok.mpr
    ⟨input, parse_of_parseSessionPlanningInput hinput htitle, hschema, haction, hid, rfl⟩

variable [DecidableEq D]

theorem catalogWith_eq_ok {scope : SessionScope} {version : ℕ} {sessions : List (SessionHead D)}
    {catalog : SessionCatalog D} :
    catalogWith host scope version sessions = .ok catalog ↔
      catalogChecks host catalog = true ∧ catalog.scope = scope ∧
        catalog.version.val = version ∧ catalog.sessions = sessions ∧
        catalog.digestSha256 = sessionCatalogDigest host scope catalog.version sessions := by
  simp only [catalogWith, bind_eq_ok, orRefuse_eq_ok, PositiveSafe.parse_eq_some,
    parseSessionCatalog_eq_ok]
  constructor
  · rintro ⟨version, rfl, hchecks, rfl⟩
    exact ⟨hchecks, rfl, rfl, rfl, rfl⟩
  · rintro ⟨hchecks, rfl, hversion, rfl, hdigest⟩
    refine ⟨catalog.version, hversion, ?_⟩
    rw [← hdigest]
    exact ⟨hchecks, rfl⟩

theorem title_of_plannedHead {vocabulary : ProgramVocabularyState host}
    {existing : Option (SessionHead D)} {input : SessionPlanningInput D}
    {before : Option (SessionHead D)} {after : SessionHead D}
    (h : plannedHead host vocabulary existing input = .ok (before, after)) :
    ∀ title ∈ input.newTitle, isCanonicalText host 300 title = true := by
  intro title htitle
  cases input with
  | create base title' duration lifecycle formatId trackId participants =>
    obtain rfl : title' = title := Option.some.inj htitle
    simp only [plannedHead, bind_eq_ok, require_eq_ok, pure_eq_ok, parseSessionHead_eq_ok] at h
    obtain ⟨-, -, target, -, head, ⟨hchecks, -⟩, -⟩ := h
    have hschema := headSchema_of_headChecks hchecks
    simp only [headSchema, Bool.and_eq_true] at hschema
    exact hschema.1.1
  | _ => cases htitle

theorem planSessionMutation_eq_ok {input : SessionPlanningInput D} {catalog : SessionCatalog D}
    {vocabulary : ProgramVocabularyState host} {plan : SessionMutationPlan D} :
    planSessionMutation host input catalog vocabulary = .ok plan ↔
      ∃ parsed, parseSessionPlanningInput host input = .ok parsed ∧
        (parsed.base.scope = catalog.scope ∧ parsed.base.scope = vocabulary.scope) ∧
        (catalog.version = parsed.base.expectedCatalogVersion ∧
          catalog.digestSha256 = parsed.base.expectedCatalogDigestSha256) ∧
        ∃ before after, plannedHead host vocabulary (findSession catalog parsed.base.sessionId)
            parsed = .ok (before, after) ∧
          ∃ next, catalogWith host catalog.scope (catalog.version.val + 1)
              (sessionsWith catalog after) = .ok next ∧
            parseSessionMutationPlan host
              { input := parsed, before, after, catalogBefore := catalog.guard
                catalogAfter := next.guard } = .ok plan := by
  simp only [planSessionMutation, requireEnvironment, requireCatalogGuard, buildMutationPlan,
    bind_eq_ok, require_eq_ok, Prod.exists, exists_const]

theorem parse_of_planSessionMutation {input : SessionPlanningInput D}
    {catalog : SessionCatalog D} {vocabulary : ProgramVocabularyState host}
    {plan : SessionMutationPlan D}
    (h : planSessionMutation host input catalog vocabulary = .ok plan) :
    parseSessionMutationPlan host plan = .ok plan := by
  obtain ⟨parsed, hparsed, -, -, before, after, hhead, next, -, hplan⟩ :=
    planSessionMutation_eq_ok.mp h
  have htitle := title_of_plannedHead hhead
  -- the input of the plan is the input parsed twice, which is the input parsed once
  obtain ⟨input', hinput', -, -, -, heq⟩ := parseSessionMutationPlan_eq_ok.mp hplan
  rw [parse_of_parseSessionPlanningInput hparsed htitle] at hinput'
  obtain rfl := Except.ok.inj hinput'
  exact parse_of_parseSessionMutationPlan hplan (by rw [← heq]; exact htitle)

theorem planSessionMutation_guards {input : SessionPlanningInput D}
    {catalog : SessionCatalog D} {vocabulary : ProgramVocabularyState host}
    {plan : SessionMutationPlan D}
    (h : planSessionMutation host input catalog vocabulary = .ok plan) :
    plan.catalogBefore = catalog.guard ∧
      plan.catalogAfter.version.val = plan.catalogBefore.version.val + 1 := by
  obtain ⟨parsed, -, -, -, before, after, -, next, hnext, hplan⟩ := planSessionMutation_eq_ok.mp h
  obtain ⟨_, -, -, -, -, rfl⟩ := parseSessionMutationPlan_eq_ok.mp hplan
  exact ⟨rfl, (catalogWith_eq_ok.mp hnext).2.2.1⟩

theorem plannedHead_of_planSessionMutation {input : SessionPlanningInput D}
    {catalog : SessionCatalog D} {vocabulary : ProgramVocabularyState host}
    {plan : SessionMutationPlan D}
    (h : planSessionMutation host input catalog vocabulary = .ok plan) :
    ∃ parsed, plannedHead host vocabulary (findSession catalog plan.after.id) parsed =
      .ok (plan.before, plan.after) := by
  obtain ⟨parsed, -, -, -, before, after, hhead, next, -, hplan⟩ := planSessionMutation_eq_ok.mp h
  obtain ⟨input', hinput', -, -, ⟨hid, -⟩, rfl⟩ := parseSessionMutationPlan_eq_ok.mp hplan
  refine ⟨parsed, ?_⟩
  rw [show after.id = parsed.base.sessionId by
    rw [hid, base_of_parseSessionPlanningInput hinput']]
  exact hhead

theorem rebuilt_of_validateSessionMutationPlan {plan : SessionMutationPlan D}
    {catalog : SessionCatalog D} {vocabulary : ProgramVocabularyState host}
    (h : validateSessionMutationPlan host plan catalog vocabulary = none) :
    ∃ rebuilt, planSessionMutation host plan.input catalog vocabulary = .ok rebuilt ∧
      host.Same rebuilt plan := by
  unfold validateSessionMutationPlan at h
  split at h
  · cases h
  · cases h
  · rename_i rebuilt hrebuilt
    split at h
    · exact ⟨rebuilt, hrebuilt, ‹_›⟩
    · cases h

theorem applySessionMutationPlan_eq_ok {plan : SessionMutationPlan D}
    {catalog next : SessionCatalog D} {vocabulary : ProgramVocabularyState host}
    {result : SessionMutationResult D}
    (h : applySessionMutationPlan host plan catalog vocabulary = .ok (next, result)) :
    validateSessionMutationPlan host plan catalog vocabulary = none ∧
      catalogWith host catalog.scope plan.catalogAfter.version.val (sessionsWith catalog plan.after) =
        .ok next ∧
      next.digestSha256 = plan.catalogAfter.digestSha256 := by
  unfold applySessionMutationPlan at h
  split at h
  · cases h
  · rename_i hvalid
    simp only [bind_eq_ok, require_eq_ok, pure_eq_ok, Prod.mk.injEq] at h
    obtain ⟨_, hnext, -, hdigest, -, -, rfl, -⟩ := h
    exact ⟨Option.eq_none_iff_forall_not_mem.mpr fun refusal => hvalid refusal, hnext, hdigest⟩

theorem guard_of_applySessionMutationPlan {plan : SessionMutationPlan D}
    {catalog next : SessionCatalog D} {vocabulary : ProgramVocabularyState host}
    {result : SessionMutationResult D}
    (h : applySessionMutationPlan host plan catalog vocabulary = .ok (next, result)) :
    next.guard = plan.catalogAfter := by
  obtain ⟨-, hnext, hdigest⟩ := applySessionMutationPlan_eq_ok h
  have hversion : next.version = plan.catalogAfter.version :=
    Subtype.ext (catalogWith_eq_ok.mp hnext).2.2.1
  rw [SessionCatalog.guard, hversion, hdigest]

end JooEvents
