import JooEvents.Roster.Domain

/-!
# What an accepted roster plan need not be

The validator accepts every plan of the planner. The other way round it leaves a gap :
it compares the guards of a plan and the digest of the roster after it, but never works
out the record after the change, nor which scope targets it must guard. An accepted plan
is one the planner returns exactly when the plan follows from its input
(`FollowsFromInput`) : the versions step by one, the record after is the record before
changed by the action alone, and every reference of its scope is guarded, found, and
offered or held before.
-/

namespace JooEvents

open Fallible

variable {D : Type} [DecidableEq D]

/-! ## Reading the environment -/

/-- What planner and validator both read, and how they check it. -/
structure RosterReadings (host : Host D) (environment : ReviewerRosterMutationEnvironment D)
    (scope : ReviewScope) (roster : ReviewerRosterState D) (authority : ReviewerAuthoritySet D)
    (targets : ReviewerScopeTargetSet D) : Prop where
  roster_eq : environment.readReviewerRoster scope = some roster
  roster_ok : assertRosterState host roster scope = .ok roster
  authority_eq : environment.readReviewerAuthority scope = some authority
  authority_ok : assertAuthoritySet host authority scope = .ok authority
  targets_eq : environment.readReviewerScopeTargets scope = some targets
  targets_ok : assertTargetSet host targets scope = .ok targets

theorem assertRosterState_ok {host : Host D} {value roster : ReviewerRosterState D}
    {scope : ReviewScope} (h : assertRosterState host value scope = .ok roster) :
    roster = value ∧ (value.reviewers.map ReviewerRosterRecord.reviewerId).Nodup := by
  simp only [assertRosterState, bind_eq_ok, require_eq_ok, exists_const, pure_eq_ok] at h
  obtain ⟨hparses, -, -, rfl⟩ := h
  simp only [rosterParses, Bool.and_eq_true, decide_eq_true_eq] at hparses
  exact ⟨rfl, List.pairwise_map.mpr (hparses.2.imp fun h => ne_of_lt h)⟩

theorem assertAuthoritySet_ok {host : Host D} {value authority : ReviewerAuthoritySet D}
    {scope : ReviewScope} (h : assertAuthoritySet host value scope = .ok authority) :
    authority = value ∧ (value.facts.map fun fact =>
      (fact.rosterSubject.kind, fact.rosterSubject.id)).Nodup := by
  simp only [assertAuthoritySet, bind_eq_ok, require_eq_ok, exists_const, pure_eq_ok] at h
  obtain ⟨hparses, -, -, -, rfl⟩ := h
  simp only [authorityParses, Bool.and_eq_true, decide_eq_true_eq] at hparses
  refine ⟨rfl, List.pairwise_map.mpr (hparses.2.imp fun hlt heq => ?_)⟩
  obtain ⟨hkind, hid⟩ := Prod.mk.inj heq
  rw [authoritySubjectLt, if_neg (not_not.mpr hkind)] at hlt
  exact ne_of_lt hlt hid

theorem assertTargetSet_ok {host : Host D} {value targets : ReviewerScopeTargetSet D}
    {scope : ReviewScope} (h : assertTargetSet host value scope = .ok targets) :
    targets = value ∧ (value.targets.map ReviewerScopeTargetFact.ref).Nodup := by
  simp only [assertTargetSet, bind_eq_ok, require_eq_ok, exists_const, pure_eq_ok] at h
  obtain ⟨hparses, -, -, -, rfl⟩ := h
  simp only [targetsParse, Bool.and_eq_true, decide_eq_true_eq] at hparses
  refine ⟨rfl, List.pairwise_map.mpr (hparses.2.imp fun {a b} hlt heq => ?_)⟩
  rw [heq] at hlt
  exact scopeRefLt_irrefl _ hlt

section

variable {host : Host D} {environment : ReviewerRosterMutationEnvironment D}
  {plan : ReviewerRosterMutationPlan D}

/-- What an accepted plan agrees with. -/
structure AcceptedBy (host : Host D) (plan : ReviewerRosterMutationPlan D)
    (roster : ReviewerRosterState D) (authority : ReviewerAuthoritySet D)
    (targets : ReviewerScopeTargetSet D) : Prop where
  parses : rosterPlanParses plan = true
  beforeVersion : roster.version = plan.roster.beforeVersion
  beforeDigest : roster.digestSha256 = plan.roster.beforeDigestSha256
  before : host.digest (findReviewer roster plan.input.base.reviewerId) = host.digest plan.before
  subject : subjectTaken roster plan.input = false
  authoritySet : guardMatches plan.authoritySetGuard authority.version authority.digestSha256 = true
  eligible : plan.action = .revoke ∨ isEligibleReviewerFact (factFor host authority plan.after) = true
  authorityFact : guardMatches plan.authorityFactGuard (factFor host authority plan.after).version
    (factFor host authority plan.after).digestSha256 = true
  targetSet : guardMatches plan.targetSetGuard targets.version targets.digestSha256 = true
  targets : plan.targetGuards.all (targetGuardMatches targets) = true
  afterDigest : reviewerRosterDigest host plan.input.base.scope plan.roster.afterVersion
    (reviewersWith roster.reviewers plan.after) = plan.roster.afterDigestSha256

theorem validateReviewerRosterMutationPlan_eq_none_iff :
    validateReviewerRosterMutationPlan host plan environment = none ↔
      ∃ roster authority targets,
        RosterReadings host environment plan.input.base.scope roster authority targets ∧
        AcceptedBy host plan roster authority targets := by
  have hnone : validateReviewerRosterMutationPlan host plan environment = none ↔
      ∃ u, checkReviewerRosterMutationPlan host plan environment = .ok u := by
    unfold validateReviewerRosterMutationPlan
    cases checkReviewerRosterMutationPlan host plan environment <;> simp
  rw [hnone]
  simp only [checkReviewerRosterMutationPlan, bind_eq_ok, require_eq_ok, orRefuse_eq_ok,
    mapError_eq_ok, exists_const]
  constructor
  · rintro ⟨hparses, rosterValue, hroster, roster, hrosterOk, ⟨hversion, hdigest⟩, hbefore,
      hsubject, authorityValue, hauthority, authority, hauthorityOk, hset, ⟨heligible, hfact⟩,
      targetValue, htargets, targets, htargetsOk, htargetSet, hguards, hafter⟩
    obtain rfl := (assertRosterState_ok hrosterOk).1
    obtain rfl := (assertAuthoritySet_ok hauthorityOk).1
    obtain rfl := (assertTargetSet_ok htargetsOk).1
    exact ⟨_, _, _, ⟨hroster, hrosterOk, hauthority, hauthorityOk, htargets, htargetsOk⟩,
      ⟨hparses, hversion, hdigest, hbefore, hsubject, hset, heligible, hfact, htargetSet,
        hguards, hafter⟩⟩
  · rintro ⟨roster, authority, targets, hread, h⟩
    exact ⟨h.parses, _, hread.roster_eq, _, hread.roster_ok, ⟨h.beforeVersion, h.beforeDigest⟩,
      h.before, h.subject, _, hread.authority_eq, _, hread.authority_ok, h.authoritySet,
      ⟨h.eligible, h.authorityFact⟩, _, hread.targets_eq, _, hread.targets_ok, h.targetSet,
      h.targets, h.afterDigest⟩

/-- What the planner works out for a request. -/
structure PlannedFrom (host : Host D) (request : ReviewerRosterMutationInput D)
    (attribution : ReviewerRosterAttribution) (roster : ReviewerRosterState D)
    (authority : ReviewerAuthoritySet D) (targets : ReviewerScopeTargetSet D)
    (fact : ReviewerEligibilityFact D) (targetGuards : List (ReviewerRosterGuard D))
    (after : ReviewerRosterRecord) (afterVersion : Version) : Prop where
  expectedVersion : request.base.expectedRosterVersion = roster.version
  expectedDigest : request.base.expectedRosterDigestSha256 = roster.digestSha256
  subject : subjectTaken roster request = false
  fact_ok : resolveMutationAuthorityFact host request
    (findReviewer roster request.base.reviewerId) authority = .ok fact
  guards_ok : validateScopeChange request (findReviewer roster request.base.reviewerId)
    (plannedReviews request (findReviewer roster request.base.reviewerId)) targets =
      .ok targetGuards
  after_ok : createAfterRecord request (findReviewer roster request.base.reviewerId) attribution =
    .ok after
  afterVersion_ok : nextAggregateVersion roster.version = some afterVersion

theorem planReviewerRosterMutation_eq_ok_iff {request : ReviewerRosterMutationInput D}
    {attribution : ReviewerRosterAttribution} :
    planReviewerRosterMutation host request environment attribution = .ok plan ↔
      ∃ roster authority targets,
        RosterReadings host environment request.base.scope roster authority targets ∧
        ∃ fact targetGuards after afterVersion,
          PlannedFrom host request attribution roster authority targets fact targetGuards after
            afterVersion ∧ rosterPlanParses plan = true ∧
          plan = rosterPlanOf host request roster authority fact targets targetGuards after
            afterVersion := by
  simp only [planReviewerRosterMutation, bind_eq_ok, require_eq_ok, orRefuse_eq_ok,
    exists_const, pure_eq_ok]
  constructor
  · rintro ⟨rosterValue, hroster, roster, hrosterOk, ⟨hversion, hdigest⟩, authorityValue,
      hauthority, authority, hauthorityOk, hsubject, fact, hfact, targetValue, htargets, targets,
      htargetsOk, targetGuards, hguards, after, hafter, afterVersion, hafterVersion, hparses, rfl⟩
    obtain rfl := (assertRosterState_ok hrosterOk).1
    obtain rfl := (assertAuthoritySet_ok hauthorityOk).1
    obtain rfl := (assertTargetSet_ok htargetsOk).1
    exact ⟨_, _, _, ⟨hroster, hrosterOk, hauthority, hauthorityOk, htargets, htargetsOk⟩,
      fact, targetGuards, after, afterVersion,
      ⟨hversion, hdigest, hsubject, hfact, hguards, hafter, hafterVersion⟩, hparses, rfl⟩
  · rintro ⟨roster, authority, targets, hread, fact, targetGuards, after, afterVersion, h, hparses,
      rfl⟩
    exact ⟨_, hread.roster_eq, _, hread.roster_ok, ⟨h.expectedVersion, h.expectedDigest⟩, _,
      hread.authority_eq, _, hread.authority_ok, h.subject, _, h.fact_ok, _, hread.targets_eq, _,
      hread.targets_ok, _, h.guards_ok, _, h.after_ok, _, h.afterVersion_ok, hparses, rfl⟩

omit [DecidableEq D] in
theorem sameAuthoritySubject_iff {a b : ReviewerAuthoritySubjectRef} :
    sameAuthoritySubject a b = true ↔ (a.kind, a.id) = (b.kind, b.id) := by
  simp [sameAuthoritySubject]

theorem find?_fact {authority : ReviewerAuthoritySet D} {scope : ReviewScope}
    (hok : assertAuthoritySet host authority scope = .ok authority)
    {fact : ReviewerEligibilityFact D} (hfact : fact ∈ authority.facts)
    {subject : ReviewerAuthoritySubjectRef} (hsame : sameAuthoritySubject fact.rosterSubject subject = true) :
    (authority.facts.find? fun fact => sameAuthoritySubject fact.rosterSubject subject) =
      some fact := by
  have hnodup := (assertAuthoritySet_ok hok).2
  rw [show (fun fact : ReviewerEligibilityFact D => sameAuthoritySubject fact.rosterSubject subject) =
    fun fact => decide ((fact.rosterSubject.kind, fact.rosterSubject.id) =
      (subject.kind, subject.id)) from funext fun fact => by
        rw [Bool.eq_iff_iff, sameAuthoritySubject_iff, decide_eq_true_eq]]
  exact (Keyed.find?_key_eq_some_iff hnodup).mpr ⟨hfact, sameAuthoritySubject_iff.mp hsame⟩

omit [DecidableEq D] in
theorem factFor_congr {authority : ReviewerAuthoritySet D} {a b : ReviewerRosterRecord}
    (hscope : a.scope = b.scope) (hsubject : a.accessSubject = b.accessSubject) :
    factFor host authority a = factFor host authority b := by
  rw [factFor, factFor, unavailableFactFor, unavailableFactFor, hscope, hsubject]

theorem find?_target {targets : ReviewerScopeTargetSet D} {scope : ReviewScope}
    (hok : assertTargetSet host targets scope = .ok targets) {target : ReviewerScopeTargetFact D}
    (ht : target ∈ targets.targets) :
    (targets.targets.find? fun t => t.ref = target.ref) = some target ∧
      (targets.targets.find? fun t => reviewerScopeTargetGuardId t.ref =
        reviewerScopeTargetGuardId target.ref) = some target := by
  have hnodup := (assertTargetSet_ok hok).2
  have hfind := (Keyed.find?_key_eq_some_iff hnodup).mpr ⟨ht, rfl⟩
  refine ⟨hfind, ?_⟩
  simpa only [reviewerScopeTargetGuardId_injective.eq_iff] using hfind

theorem scopeTargetGuard_eq_ok_iff {targets : ReviewerScopeTargetSet D} {scope : ReviewScope}
    (hok : assertTargetSet host targets scope = .ok targets)
    {existing : Option ReviewerRosterRecord} {ref : ReviewScopeRef}
    {guard : ReviewerRosterGuard D} :
    scopeTargetGuard existing targets ref = .ok guard ↔
      ∃ target ∈ targets.targets, target.ref = ref ∧
        guard = ⟨reviewerScopeTargetGuardId ref, target.version, target.digestSha256⟩ ∧
        (target.assignability = .assignable ∨ ∃ record ∈ existing, ref ∈ record.reviews.val) := by
  simp only [scopeTargetGuard, bind_eq_ok, orRefuse_eq_ok, require_eq_ok, exists_const,
    pure_eq_ok, Option.any_eq_true, List.contains_iff_mem]
  constructor
  · rintro ⟨target, hfind, hassignable, rfl⟩
    obtain ⟨ht, href⟩ := Keyed.mem_of_find?_key hfind
    exact ⟨target, ht, href, rfl, hassignable⟩
  · rintro ⟨target, ht, rfl, rfl, hassignable⟩
    exact ⟨target, (find?_target hok ht).1, hassignable, rfl⟩

/-! ## Plans that follow from their input -/

def recordedAttribution (plan : ReviewerRosterMutationPlan D) : ReviewerRosterAttribution :=
  match plan.input.action, plan.after.state with
  | .revoke, .revoked userId occurredAt => ⟨userId, occurredAt⟩
  | _, _ => ⟨plan.after.addedByUserId, plan.after.addedAt⟩

/-- The record after is the record before changed by the action, and by it alone. -/
def FollowsByAction (plan : ReviewerRosterMutationPlan D) : Prop :=
  match plan.input with
  | .register _ accessSubject reviews =>
    plan.before = none ∧ plan.after.version = .one ∧ plan.after.accessSubject = accessSubject ∧
      plan.after.reviews = reviews ∧ plan.after.state = .included
  | .set_scope _ expectedReviewerVersion reviews => ∃ before, plan.before = some before ∧
      before.version = expectedReviewerVersion ∧ before.state = .included ∧
      plan.after.version.val = before.version.val + 1 ∧
      plan.after = { before with version := plan.after.version, reviews }
  | .revoke _ expectedReviewerVersion => ∃ before, plan.before = some before ∧
      before.version = expectedReviewerVersion ∧ before.state = .included ∧
      plan.after.version.val = before.version.val + 1 ∧ plan.after.state ≠ .included ∧
      plan.after = { before with version := plan.after.version, state := plan.after.state }
  | .restore _ expectedReviewerVersion => ∃ before, plan.before = some before ∧
      before.version = expectedReviewerVersion ∧ before.state ≠ .included ∧
      plan.after.version.val = before.version.val + 1 ∧
      plan.after = { before with version := plan.after.version, state := .included }

/-- A registered subject is listed with its version. -/
def SubjectListed (environment : ReviewerRosterMutationEnvironment D)
    (plan : ReviewerRosterMutationPlan D) : Prop :=
  match plan.input with
  | .register base accessSubject _ =>
    ∀ authority ∈ environment.readReviewerAuthority base.scope,
      ∃ fact ∈ authority.facts, fact.rosterSubject = accessSubject
  | _ => True

/-- The guards of a plan are those of the targets of its scope, which are offered or were
held before; a plan that revokes has none. -/
def TargetsGuarded (environment : ReviewerRosterMutationEnvironment D)
    (plan : ReviewerRosterMutationPlan D) : Prop :=
  (plan.input.action = .revoke → plan.targetGuards = []) ∧
  (plan.input.action ≠ .revoke →
    ∀ targets ∈ environment.readReviewerScopeTargets plan.input.base.scope,
      List.Forall₂ (fun ref guard => ∃ target ∈ targets.targets, target.ref = ref ∧
        guard = ⟨reviewerScopeTargetGuardId ref, target.version, target.digestSha256⟩ ∧
        (target.assignability = .assignable ∨ ∃ record ∈ plan.before, ref ∈ record.reviews.val))
        plan.after.reviews.val plan.targetGuards)

/-- What the validator does not check of a plan. -/
structure FollowsFromInput (environment : ReviewerRosterMutationEnvironment D)
    (plan : ReviewerRosterMutationPlan D) : Prop where
  expectedVersion : plan.input.base.expectedRosterVersion = plan.roster.beforeVersion
  expectedDigest : plan.input.base.expectedRosterDigestSha256 = plan.roster.beforeDigestSha256
  afterVersion : plan.roster.afterVersion.val = plan.roster.beforeVersion.val + 1
  authoritySetGuard : plan.authoritySetGuard.id =
    reviewerAuthoritySetGuardId plan.input.base.scope.eventId
  authorityFactGuard : plan.authorityFactGuard.id =
    reviewerAuthorityFactGuardId plan.input.base.reviewerId
  targetSetGuard : plan.targetSetGuard.id =
    reviewerScopeTargetSetGuardId plan.input.base.scope.eventId
  action : FollowsByAction plan
  subject : SubjectListed environment plan
  targets : TargetsGuarded environment plan

omit [DecidableEq D] in
theorem FollowsByAction.exists_before (h : FollowsByAction plan)
    (hne : plan.input.action ≠ .register) :
    ∃ before, plan.before = some before ∧ requireTransition before plan.input = .ok () ∧
      plan.after.scope = before.scope ∧ plan.after.accessSubject = before.accessSubject := by
  unfold FollowsByAction at h
  cases hi : plan.input with
  | register => rw [hi] at hne; exact absurd rfl hne
  | set_scope =>
    rw [hi] at h
    obtain ⟨before, hbefore, hversion, hstate, -, hafter⟩ := h
    rw [hafter]
    exact ⟨before, hbefore, by simp [requireTransition, hversion, hstate], rfl, rfl⟩
  | revoke =>
    rw [hi] at h
    obtain ⟨before, hbefore, hversion, hstate, -, -, hafter⟩ := h
    rw [hafter]
    exact ⟨before, hbefore, by simp [requireTransition, hversion, hstate], rfl, rfl⟩
  | restore =>
    rw [hi] at h
    obtain ⟨before, hbefore, hversion, hstate, -, hafter⟩ := h
    rw [hafter]
    exact ⟨before, hbefore, by simp [requireTransition, hversion, hstate], rfl, rfl⟩

/-! ## Plans of the planner -/

omit [DecidableEq D] in
theorem resolveExisting_eq_ok_iff {request : ReviewerRosterMutationInput D}
    {existing : Option ReviewerRosterRecord} {authority : ReviewerAuthoritySet D}
    {fact : ReviewerEligibilityFact D} (h : request.action ≠ .register) :
    resolveMutationAuthorityFact host request existing authority = .ok fact ↔
      ∃ record, existing = some record ∧ requireTransition record request = .ok () ∧
        (request.action = .revoke ∨
          isEligibleReviewerFact (factFor host authority record) = true) ∧
        factFor host authority record = fact := by
  cases request with
  | register => exact absurd rfl h
  | set_scope | revoke | restore =>
    simp only [resolveMutationAuthorityFact, bind_eq_ok, orRefuse_eq_ok, require_eq_ok,
      exists_const, pure_eq_ok]
    refine exists_congr fun record => and_congr_right fun _ => ⟨?_, fun h => ⟨(), h⟩⟩
    rintro ⟨_, hfact⟩
    exact hfact

omit [DecidableEq D] in
theorem followsByAction_of_planned {request : ReviewerRosterMutationInput D}
    {attribution : ReviewerRosterAttribution} {roster : ReviewerRosterState D}
    {authority : ReviewerAuthoritySet D} {targets : ReviewerScopeTargetSet D}
    {fact : ReviewerEligibilityFact D} {targetGuards : List (ReviewerRosterGuard D)}
    {after : ReviewerRosterRecord} {afterVersion : Version}
    (h : PlannedFrom host request attribution roster authority targets fact targetGuards after
      afterVersion) :
    FollowsByAction (rosterPlanOf host request roster authority fact targets targetGuards after
      afterVersion) ∧ after.reviews.val =
        plannedReviews request (findReviewer roster request.base.reviewerId) := by
  have hfact := h.fact_ok
  have hafter := h.after_ok
  cases request with
  | register base accessSubject reviews =>
    simp only [resolveMutationAuthorityFact, bind_eq_ok, require_eq_ok, exists_const] at hfact
    obtain rfl := pure_eq_ok.mp hafter
    exact ⟨⟨hfact.1, rfl, rfl, rfl, rfl⟩, rfl⟩
  | set_scope base expected reviews =>
    obtain ⟨record, hrecord, htransition, -⟩ := (resolveExisting_eq_ok_iff (by simp
      [ReviewerRosterMutationInput.action])).mp hfact
    simp only [createAfterRecord, hrecord, bind_eq_ok, orRefuse_eq_ok, pure_eq_ok,
      Option.some.injEq, exists_eq_left'] at hafter
    obtain ⟨version, hversion, rfl⟩ := hafter
    simp only [requireTransition, bind_eq_ok, require_eq_ok, exists_const] at htransition
    exact ⟨⟨record, hrecord, htransition.1, htransition.2, val_of_nextAggregateVersion hversion,
      rfl⟩, rfl⟩
  | revoke base expected =>
    obtain ⟨record, hrecord, htransition, -⟩ := (resolveExisting_eq_ok_iff (by simp
      [ReviewerRosterMutationInput.action])).mp hfact
    simp only [createAfterRecord, hrecord, bind_eq_ok, orRefuse_eq_ok, pure_eq_ok,
      Option.some.injEq, exists_eq_left'] at hafter
    obtain ⟨version, hversion, rfl⟩ := hafter
    simp only [requireTransition, bind_eq_ok, require_eq_ok, exists_const] at htransition
    refine ⟨⟨record, hrecord, htransition.1, htransition.2, val_of_nextAggregateVersion hversion,
      by simp [rosterPlanOf], rfl⟩, ?_⟩
    rw [hrecord]
    rfl
  | restore base expected =>
    obtain ⟨record, hrecord, htransition, -⟩ := (resolveExisting_eq_ok_iff (by simp
      [ReviewerRosterMutationInput.action])).mp hfact
    simp only [createAfterRecord, hrecord, bind_eq_ok, orRefuse_eq_ok, pure_eq_ok,
      Option.some.injEq, exists_eq_left'] at hafter
    obtain ⟨version, hversion, rfl⟩ := hafter
    simp only [requireTransition, bind_eq_ok, require_eq_ok, exists_const] at htransition
    refine ⟨⟨record, hrecord, htransition.1, htransition.2, val_of_nextAggregateVersion hversion,
      rfl⟩, ?_⟩
    rw [hrecord]
    rfl

theorem targetsGuarded_of_planned {request : ReviewerRosterMutationInput D}
    {attribution : ReviewerRosterAttribution} {roster : ReviewerRosterState D}
    {authority : ReviewerAuthoritySet D} {targets : ReviewerScopeTargetSet D}
    {fact : ReviewerEligibilityFact D} {targetGuards : List (ReviewerRosterGuard D)}
    {after : ReviewerRosterRecord} {afterVersion : Version}
    (hread : RosterReadings host environment request.base.scope roster authority targets)
    (h : PlannedFrom host request attribution roster authority targets fact targetGuards after
      afterVersion) :
    TargetsGuarded environment (rosterPlanOf host request roster authority fact targets
      targetGuards after afterVersion) := by
  have hreviews := (followsByAction_of_planned h).2
  have hguards := h.guards_ok
  rw [← hreviews] at hguards
  unfold validateScopeChange at hguards
  refine ⟨fun hrevoke => ?_, fun hrevoke targets' htargets' => ?_⟩
  · rw [if_pos (show request.action = .revoke from hrevoke)] at hguards
    exact (pure_eq_ok.mp hguards).symm
  · rw [if_neg (show request.action ≠ .revoke from hrevoke)] at hguards
    obtain rfl := Option.some.inj (hread.targets_eq.symm.trans htargets')
    exact (forall₂_of_mapM_eq_ok hguards).imp fun ref guard hguard =>
      (scopeTargetGuard_eq_ok_iff hread.targets_ok).mp hguard

theorem followsFromInput_of_planned {request : ReviewerRosterMutationInput D}
    {attribution : ReviewerRosterAttribution}
    (h : planReviewerRosterMutation host request environment attribution = .ok plan) :
    FollowsFromInput environment plan := by
  obtain ⟨roster, authority, targets, hread, fact, targetGuards, after, afterVersion, hplan, -,
    rfl⟩ := planReviewerRosterMutation_eq_ok_iff.mp h
  refine ⟨hplan.expectedVersion, hplan.expectedDigest,
    val_of_nextAggregateVersion hplan.afterVersion_ok, rfl, rfl, rfl,
    (followsByAction_of_planned hplan).1, ?_, targetsGuarded_of_planned hread hplan⟩
  cases request with
  | set_scope | revoke | restore => trivial
  | register base accessSubject reviews =>
    intro authority' hauthority'
    obtain rfl := Option.some.inj (hread.authority_eq.symm.trans hauthority')
    have hfact := hplan.fact_ok
    simp only [resolveMutationAuthorityFact, bind_eq_ok, orRefuse_eq_ok, require_eq_ok,
      exists_const, pure_eq_ok] at hfact
    obtain ⟨-, fact, hfind, -⟩ := hfact
    have hsame := List.find?_some hfind
    simp only [Bool.and_eq_true, sameAuthoritySubject_iff, decide_eq_true_eq,
      Prod.mk.injEq] at hsame
    exact ⟨fact, List.mem_of_find?_eq_some hfind,
      ReviewerAuthoritySubjectRef.ext hsame.1.1 hsame.1.2 hsame.2⟩

theorem factFor_after_of_planned {request : ReviewerRosterMutationInput D}
    {attribution : ReviewerRosterAttribution} {roster : ReviewerRosterState D}
    {authority : ReviewerAuthoritySet D} {targets : ReviewerScopeTargetSet D}
    {fact : ReviewerEligibilityFact D} {targetGuards : List (ReviewerRosterGuard D)}
    {after : ReviewerRosterRecord} {afterVersion : Version}
    (hread : RosterReadings host environment request.base.scope roster authority targets)
    (h : PlannedFrom host request attribution roster authority targets fact targetGuards after
      afterVersion) :
    factFor host authority after = fact ∧
      (request.action = .revoke ∨ isEligibleReviewerFact fact = true) := by
  have hfact := h.fact_ok
  have hfollows := (followsByAction_of_planned h).1
  cases request with
  | register base accessSubject reviews =>
    simp only [resolveMutationAuthorityFact, bind_eq_ok, orRefuse_eq_ok, require_eq_ok,
      exists_const, pure_eq_ok] at hfact
    obtain ⟨-, fact, hfind, heligible, rfl⟩ := hfact
    have hsame := List.find?_some hfind
    rw [Bool.and_eq_true] at hsame
    have hsubject : after.accessSubject = accessSubject := hfollows.2.2.1
    rw [factFor, hsubject, find?_fact hread.authority_ok (List.mem_of_find?_eq_some hfind) hsame.1]
    exact ⟨rfl, Or.inr heligible⟩
  | set_scope | revoke | restore =>
    obtain ⟨record, hrecord, -, heligible, rfl⟩ := (resolveExisting_eq_ok_iff (by simp
      [ReviewerRosterMutationInput.action])).mp hfact
    obtain ⟨before, hbefore, -, hscope, hsubject⟩ := hfollows.exists_before (by simp
      [rosterPlanOf, ReviewerRosterMutationInput.action])
    obtain rfl := Option.some.inj (hrecord.symm.trans hbefore)
    exact ⟨factFor_congr hscope hsubject, heligible⟩

theorem acceptedBy_of_planned {request : ReviewerRosterMutationInput D}
    {attribution : ReviewerRosterAttribution}
    (h : planReviewerRosterMutation host request environment attribution = .ok plan) :
    validateReviewerRosterMutationPlan host plan environment = none := by
  obtain ⟨roster, authority, targets, hread, fact, targetGuards, after, afterVersion, hplan,
    hparses, rfl⟩ := planReviewerRosterMutation_eq_ok_iff.mp h
  obtain ⟨hfact, heligible⟩ := factFor_after_of_planned hread hplan
  refine validateReviewerRosterMutationPlan_eq_none_iff.mpr
    ⟨roster, authority, targets, hread, ?_⟩
  exact
    { parses := hparses
      beforeVersion := rfl
      beforeDigest := rfl
      before := rfl
      subject := hplan.subject
      authoritySet := by simp [guardMatches, rosterPlanOf]
      eligible := by
        rw [show (rosterPlanOf host request roster authority fact targets targetGuards after
          afterVersion).after = after from rfl, hfact]
        exact heligible
      authorityFact := by
        rw [show (rosterPlanOf host request roster authority fact targets targetGuards after
          afterVersion).after = after from rfl, hfact]
        simp [guardMatches, rosterPlanOf]
      targetSet := by simp [guardMatches, rosterPlanOf]
      targets := by
        obtain ⟨hrevoke, hguards⟩ := targetsGuarded_of_planned hread hplan
        refine List.all_eq_true.mpr fun guard hguard => ?_
        by_cases hr : request.action = .revoke
        · rw [show targetGuards = [] from hrevoke hr] at hguard
          cases hguard
        · obtain ⟨ref, -, target, ht, rfl, rfl, -⟩ :=
            Keyed.exists_left_of_forall₂ (hguards hr targets hread.targets_eq) hguard
          rw [targetGuardMatches, (find?_target hread.targets_ok ht).2]
          simp [guardMatches]
      afterDigest := rfl }

/-! ## Accepted plans that follow from their input -/

theorem guard_eq_of_matches {guard : ReviewerRosterGuard D} {id : String} {version : Version}
    {digest : D} (hid : guard.id = id) (h : guardMatches guard version digest = true) :
    guard = ⟨id, version, digest⟩ := by
  obtain ⟨hversion, hdigest⟩ := of_decide_eq_true h
  obtain ⟨_, _, _⟩ := guard
  simp_all

theorem resolve_of_follows {roster : ReviewerRosterState D} {authority : ReviewerAuthoritySet D}
    {targets : ReviewerScopeTargetSet D}
    (hread : RosterReadings host environment plan.input.base.scope roster authority targets)
    (hfollows : FollowsFromInput environment plan)
    (haction : plan.action = plan.input.action)
    (heligible : plan.action = .revoke ∨
      isEligibleReviewerFact (factFor host authority plan.after) = true) :
    resolveMutationAuthorityFact host plan.input plan.before authority =
      .ok (factFor host authority plan.after) := by
  rw [haction] at heligible
  cases hi : plan.input with
  | register base accessSubject reviews =>
    have hby := hfollows.action
    have hsubject := hfollows.subject
    rw [FollowsByAction, hi] at hby
    rw [SubjectListed, hi] at hsubject
    rw [hi] at hread heligible
    obtain ⟨hbefore, -, hafter, -, -⟩ := hby
    obtain ⟨fact, hmem, hfact⟩ := hsubject authority hread.authority_eq
    have hsame : sameAuthoritySubject fact.rosterSubject accessSubject = true := by
      rw [hfact]
      exact sameAuthoritySubject_iff.mpr rfl
    have hfind := find?_fact hread.authority_ok hmem hsame
    have hfor : factFor host authority plan.after = fact := by
      rw [factFor, hafter, hfind]
      rfl
    rw [hfor] at heligible ⊢
    simp only [resolveMutationAuthorityFact, bind_eq_ok, orRefuse_eq_ok, require_eq_ok,
      exists_const, pure_eq_ok]
    exact ⟨hbefore, fact, Keyed.find?_and hfind (by simp [hfact]),
      by simpa [ReviewerRosterMutationInput.action] using heligible, rfl⟩
  | set_scope | revoke | restore =>
    obtain ⟨before, hbefore, htransition, hscope, hsubject⟩ := hfollows.action.exists_before
      (by simp [hi, ReviewerRosterMutationInput.action])
    rw [hi] at htransition heligible
    rw [factFor_congr hscope hsubject] at heligible ⊢
    exact (resolveExisting_eq_ok_iff (by simp [ReviewerRosterMutationInput.action])).mpr
      ⟨before, hbefore, htransition, heligible, rfl⟩

theorem validateScopeChange_of_follows {targets : ReviewerScopeTargetSet D} {scope : ReviewScope}
    (htargets : environment.readReviewerScopeTargets plan.input.base.scope = some targets)
    (hok : assertTargetSet host targets scope = .ok targets)
    (hguarded : TargetsGuarded environment plan)
    (hreviews : plan.input.action ≠ .revoke →
      plannedReviews plan.input plan.before = plan.after.reviews.val) :
    validateScopeChange plan.input plan.before (plannedReviews plan.input plan.before) targets =
      .ok plan.targetGuards := by
  unfold validateScopeChange
  by_cases hrevoke : plan.input.action = .revoke
  · rw [if_pos hrevoke, hguarded.1 hrevoke]
    rfl
  · rw [if_neg hrevoke, hreviews hrevoke]
    exact mapM_eq_ok_of_forall₂ ((hguarded.2 hrevoke targets htargets).imp fun ref guard h =>
      (scopeTargetGuard_eq_ok_iff hok).mpr h)

omit [DecidableEq D] in
theorem createAfterRecord_of_follows (h : FollowsByAction plan)
    (hscope : plan.input.base.scope = plan.after.scope)
    (hid : plan.input.base.reviewerId = plan.after.reviewerId) :
    createAfterRecord plan.input plan.before (recordedAttribution plan) = .ok plan.after ∧
      (plan.input.action ≠ .revoke →
        plannedReviews plan.input plan.before = plan.after.reviews.val) := by
  have hnext : ∀ {before : ReviewerRosterRecord},
      plan.after.version.val = before.version.val + 1 →
        nextAggregateVersion before.version = some plan.after.version :=
    fun h => PositiveSafe.parse_eq_some.mpr h
  unfold FollowsByAction at h
  unfold recordedAttribution
  cases hi : plan.input with
  | register base accessSubject reviews =>
    rw [hi] at h hscope hid
    obtain ⟨hbefore, hversion, hsubject, hreviews, hstate⟩ := h
    refine ⟨pure_eq_ok.mpr ?_, fun _ => congrArg Subtype.val hreviews.symm⟩
    exact ReviewerRosterRecord.ext hscope hid hversion.symm hsubject.symm hreviews.symm rfl rfl
      hstate.symm
  | set_scope base expected reviews =>
    rw [hi] at h
    obtain ⟨before, hbefore, -, -, hversion, hafter⟩ := h
    simp only [createAfterRecord, hbefore, bind_eq_ok, orRefuse_eq_ok, pure_eq_ok]
    refine ⟨⟨before, rfl, plan.after.version, hnext hversion, hafter.symm⟩, fun _ => ?_⟩
    rw [hafter]
    rfl
  | revoke base expected =>
    rw [hi] at h
    obtain ⟨before, hbefore, -, -, hversion, hstate, hafter⟩ := h
    simp only [createAfterRecord, hbefore, bind_eq_ok, orRefuse_eq_ok, pure_eq_ok]
    refine ⟨⟨before, rfl, plan.after.version, hnext hversion, ?_⟩,
      fun hne => absurd rfl hne⟩
    cases hs : plan.after.state with
    | included => exact absurd hs hstate
    | revoked userId occurredAt =>
      rw [hs] at hafter
      exact hafter.symm
  | restore base expected =>
    rw [hi] at h
    obtain ⟨before, hbefore, -, -, hversion, hafter⟩ := h
    simp only [createAfterRecord, hbefore, bind_eq_ok, orRefuse_eq_ok, pure_eq_ok]
    refine ⟨⟨before, rfl, plan.after.version, hnext hversion, hafter.symm⟩, fun _ => ?_⟩
    rw [hafter]
    rfl

theorem planned_of_follows (hcf : host.CollisionFree)
    (hvalid : validateReviewerRosterMutationPlan host plan environment = none)
    (hfollows : FollowsFromInput environment plan) :
    planReviewerRosterMutation host plan.input environment (recordedAttribution plan) =
      .ok plan := by
  obtain ⟨roster, authority, targets, hread, h⟩ :=
    validateReviewerRosterMutationPlan_eq_none_iff.mp hvalid
  have hbefore : findReviewer roster plan.input.base.reviewerId = plan.before :=
    ExactJson.eq_of_same (hcf.digest_eq_iff.mp h.before)
  have hparses := h.parses
  simp only [rosterPlanParses, Bool.and_eq_true, decide_eq_true_eq] at hparses
  obtain ⟨⟨⟨⟨⟨-, haction⟩, hscope⟩, -⟩, hid⟩, -⟩ := hparses
  obtain ⟨hafter, hreviews⟩ := createAfterRecord_of_follows hfollows.action hscope hid
  have hafterVersion : nextAggregateVersion roster.version = some plan.roster.afterVersion :=
    PositiveSafe.parse_eq_some.mpr (by rw [hfollows.afterVersion, h.beforeVersion])
  refine planReviewerRosterMutation_eq_ok_iff.mpr ⟨roster, authority, targets, hread,
    factFor host authority plan.after, plan.targetGuards, plan.after, plan.roster.afterVersion,
    ?_, h.parses, ?_⟩
  · exact
      { expectedVersion := hfollows.expectedVersion.trans h.beforeVersion.symm
        expectedDigest := hfollows.expectedDigest.trans h.beforeDigest.symm
        subject := h.subject
        fact_ok := hbefore ▸ resolve_of_follows hread hfollows haction h.eligible
        guards_ok := hbefore ▸ validateScopeChange_of_follows hread.targets_eq hread.targets_ok
          hfollows.targets hreviews
        after_ok := hbefore ▸ hafter
        afterVersion_ok := hafterVersion }
  · have hsetGuard := guard_eq_of_matches hfollows.authoritySetGuard h.authoritySet
    have hfactGuard := guard_eq_of_matches hfollows.authorityFactGuard h.authorityFact
    have htargetGuard := guard_eq_of_matches hfollows.targetSetGuard h.targetSet
    rw [rosterPlanOf, hbefore, h.afterDigest, h.beforeVersion, h.beforeDigest, ← hsetGuard,
      ← hfactGuard, ← htargetGuard, ← haction]

end

/-- The validator accepts every plan of the planner. An accepted plan is what the planner
returns for its input, its environment and the attribution it records exactly when it follows
from its input. -/
theorem roster_validation_iff {host : Host D} (hcf : host.CollisionFree)
    (environment : ReviewerRosterMutationEnvironment D) :
    (∀ (request : ReviewerRosterMutationInput D) (attribution : ReviewerRosterAttribution)
      (plan : ReviewerRosterMutationPlan D),
      planReviewerRosterMutation host request environment attribution = .ok plan →
        validateReviewerRosterMutationPlan host plan environment = none) ∧
    ∀ plan : ReviewerRosterMutationPlan D,
      validateReviewerRosterMutationPlan host plan environment = none →
        (planReviewerRosterMutation host plan.input environment (recordedAttribution plan) =
          .ok plan ↔ FollowsFromInput environment plan) :=
  ⟨fun _ _ _ h => acceptedBy_of_planned h, fun _ hvalid =>
    ⟨followsFromInput_of_planned, planned_of_follows hcf hvalid⟩⟩

/-! ## A scope nobody planned -/

namespace RosterExample

def scope : ReviewScope := ⟨.ofNat 1, .ofNat 2⟩

def subject : ReviewerAuthoritySubjectRef := ⟨.workspace_membership, .ofNat 3, .one⟩

/-- The one reviewer, who is not asked to review anything. -/
def reviewer : ReviewerRosterRecord :=
  { scope, reviewerId := .ofNat 4, version := .one, accessSubject := subject
    reviews := ⟨[], by simp, .nil⟩, addedByUserId := .ofNat 5, addedAt := .yearStart 2026
    state := .included }

def roster : ReviewerRosterState SymbolicDigest :=
  { scope, version := .one, reviewers := [reviewer]
    digestSha256 := reviewerRosterDigest SymbolicDigest.host scope .one [reviewer] }

def fact : ReviewerEligibilityFact SymbolicDigest :=
  let unsigned : ReviewerEligibilityFact SymbolicDigest :=
    { scope, rosterSubject := subject, currentSubject := some subject, state := .active
      version := .one, digestSha256 := .null, displayName := none
      evidence := .ids ⟨[⟨"membership", by decide⟩], by simp, by simp, by simp⟩ }
  { unsigned with digestSha256 := reviewerAuthorityFactDigest SymbolicDigest.host unsigned }

def authority : ReviewerAuthoritySet SymbolicDigest :=
  let unsigned : ReviewerAuthoritySet SymbolicDigest :=
    { scope, version := .one, digestSha256 := .null, facts := [fact] }
  { unsigned with digestSha256 := reviewerAuthoritySetDigest SymbolicDigest.host unsigned }

def track : ReviewScopeRef := ⟨.track, .ofNat 6⟩

def trackFact : ReviewerScopeTargetFact SymbolicDigest :=
  let unsigned : ReviewerScopeTargetFact SymbolicDigest :=
    { scope, ref := track, version := .one, digestSha256 := .null, assignability := .assignable }
  { unsigned with digestSha256 := reviewerScopeTargetFactDigest SymbolicDigest.host unsigned }

def targetSet (targets : List (ReviewerScopeTargetFact SymbolicDigest)) :
    ReviewerScopeTargetSet SymbolicDigest :=
  let unsigned : ReviewerScopeTargetSet SymbolicDigest :=
    { scope, version := .one, digestSha256 := .null, targets }
  { unsigned with digestSha256 := reviewerScopeTargetSetDigest SymbolicDigest.host unsigned }

def environment (targets : List (ReviewerScopeTargetFact SymbolicDigest)) :
    ReviewerRosterMutationEnvironment SymbolicDigest where
  readReviewerRoster _ := some roster
  readReviewerAuthority _ := some authority
  readReviewerScopeTargets _ := some (targetSet targets)

def request : ReviewerRosterMutationInput SymbolicDigest :=
  .set_scope { scope, reviewerId := reviewer.reviewerId, expectedRosterVersion := roster.version
               expectedRosterDigestSha256 := roster.digestSha256 } .one
    ⟨[track], by simp, by simp⟩

/-- The plan that asks the reviewer to review the track, and guards no target. -/
def unguardedPlan : ReviewerRosterMutationPlan SymbolicDigest :=
  rosterPlanOf SymbolicDigest.host request roster authority fact (targetSet []) []
    { reviewer with version := ⟨2, isPositiveSafe_two⟩, reviews := ⟨[track], by simp, by simp⟩ }
    ⟨2, isPositiveSafe_two⟩

end RosterExample

open RosterExample in
/-- A plan that asks for a track the event does not have is accepted, though the planner
refuses its input. -/
theorem unguarded_plan_accepted :
    validateReviewerRosterMutationPlan SymbolicDigest.host unguardedPlan (environment []) = none ∧
    ∀ attribution, planReviewerRosterMutation SymbolicDigest.host unguardedPlan.input
      (environment []) attribution = .error (.planning .scope_target_missing) :=
  ⟨by decide +kernel, fun _ => by rfl⟩

open RosterExample in
/-- With the track at hand the planner plans the request, and the plan is accepted and
follows from it. -/
theorem roster_validation_iff_track :
    ∃ plan, planReviewerRosterMutation SymbolicDigest.host request (environment [trackFact])
        ⟨.ofNat 5, .yearStart 2026⟩ = .ok plan ∧
      validateReviewerRosterMutationPlan SymbolicDigest.host plan (environment [trackFact]) = none ∧
      planReviewerRosterMutation SymbolicDigest.host plan.input (environment [trackFact])
        (recordedAttribution plan) = .ok plan := by
  obtain ⟨plan, hplan⟩ := exists_of_toBool (x := planReviewerRosterMutation SymbolicDigest.host
    request (environment [trackFact]) ⟨.ofNat 5, .yearStart 2026⟩) (by decide +kernel)
  obtain ⟨haccepted, hiff⟩ :=
    roster_validation_iff SymbolicDigest.host_collisionFree (environment [trackFact])
  have hvalid := haccepted _ _ plan hplan
  exact ⟨plan, hplan, hvalid, (hiff plan hvalid).mpr (followsFromInput_of_planned hplan)⟩

end JooEvents
