import JooEvents.Access.Autonomy

/-!
# Renewed approvals

A request for an approval is answerable when an approval made from it lets the work leave the
request behind. It is not where the approval is never asked for, since a failure is decided before
it, nor where it is asked for and the next failure asks again; and it is not where the instant of
the work was not given in its canonical form, since the request repeats it as it was given
(`renewed_approval_answerable_iff`). An approval that lets work proceed agrees with it in every
field, however its scopes, its evidence and its instant were given (`agrees_of_proceeds`).
-/

namespace JooEvents

open Fallible

/-! ## What is read -/

theorem parseInstant_val (t : Instant) : parseInstant t.val = some t := by
  obtain ⟨t', hparse, hval⟩ := Option.map_eq_some_iff.mp (parseInstant_eq_self_iff.mpr t.property)
  rw [hparse, Subtype.ext hval]

theorem normalizedUnique_eq_ok {values result : List String} {label : String} {allowEmpty : Bool} :
    normalizedUnique values label allowEmpty = .ok result ↔
      (allowEmpty = true ∨ values ≠ []) ∧ (∀ value ∈ values, stableKeyPattern value = true) ∧
        values.Nodup ∧ result = values.sortByKey codeUnits := by
  have hlength : (values.dedup.sortByKey codeUnits).length = values.length ↔ values.Nodup := by
    rw [(List.perm_sortByKey codeUnits values.dedup).length_eq]
    constructor
    · intro h
      rw [← (List.dedup_sublist values).eq_of_length h]
      exact List.nodup_dedup values
    · intro h
      rw [h.dedup]
  simp only [normalizedUnique, bind_eq_ok, require_eq_ok, pure_eq_ok, exists_const, hlength,
    and_assoc]
  refine and_congr_right fun _ => and_congr_right fun _ => and_congr_right fun hnodup => ?_
  rw [hnodup.dedup, eq_comm]

theorem normalizedUnique_sort {values result : List String} {label : String} {allowEmpty : Bool}
    (h : normalizedUnique values label allowEmpty = .ok result) (label' : String) :
    normalizedUnique (values.sortByKey codeUnits) label' allowEmpty = .ok result := by
  obtain ⟨hne, hstable, hnodup, rfl⟩ := normalizedUnique_eq_ok.mp h
  have hperm := List.perm_sortByKey codeUnits values
  refine normalizedUnique_eq_ok.mpr ⟨hne.imp_right fun hne hnil => hne ?_,
    fun value hvalue => hstable value (hperm.mem_iff.mp hvalue), hperm.nodup_iff.mpr hnodup,
    (List.sortByKey_eq_iff_perm codeUnits_injective).mpr hperm.symm⟩
  rw [hnil] at hperm
  exact hperm.symm.eq_nil

variable {input : EvaluateAutonomyInput} {reading : AutonomyReading}

/-- What an evaluation has read, and what was checked of it. -/
structure ReadsAutonomy (input : EvaluateAutonomyInput) (reading : AutonomyReading) : Prop where
  policy : validateOperationAutonomyPolicy input.policy = .ok ()
  now : parseInstant input.now = some reading.now
  operation : assertOperation input.invocation.operation "invocation operation" = .ok ()
  sameOperation : input.policy.operation = input.invocation.operation
  digest : isSha256 input.invocation.requestOrPlanDigestSha256 = true
  action : assertVersionedRef input.invocation.proposedAction.toVersionedDefinitionRef
    "proposed action" = .ok ()
  actionDigest : isSha256 input.invocation.proposedAction.digestSha256 = true
  scopes : normalizedUnique input.invocation.scopeKeys "invocation.scopeKeys" false =
    .ok reading.scopes
  evidenceIds : normalizedUnique input.invocation.consequenceEvidenceIds
    "invocation.consequenceEvidenceIds" true = .ok reading.evidenceIds
  spend : isNonnegativeSafeInteger input.invocation.spendMicros = true
  actions : isNonnegativeSafeInteger input.invocation.actionCount = true
  completesBy : parseInstant input.invocation.completesBy = some reading.completesBy
  hardBounds : assertBounds input.invocation.authority.hardBounds "authority hard bounds" =
    .ok reading.hardBounds
  unattendedBounds : readUnattendedBounds input.invocation.unattendedBounds reading.hardBounds =
    .ok reading.unattendedBounds
  profile : input.profile.mapM validateAutonomyPolicyProfile = .ok reading.profile

theorem readAutonomy_eq_ok : readAutonomy input = .ok reading ↔ ReadsAutonomy input reading := by
  constructor
  · intro h
    simp only [readAutonomy, bind_eq_ok, require_eq_ok, pure_eq_ok, assertDigest, assertNonnegative,
      parseUtcInstant, orRefuse_eq_ok, Unique.exists_iff] at h
    obtain ⟨hpolicy, now, hnow, hoperation, hsame, hdigest, haction, hactionDigest, scopes, hscopes,
      evidenceIds, hevidence, hspend, hactions, completesBy, hcompletes, hardBounds, hhard,
      unattendedBounds, hunattended, profile, hprofile, rfl⟩ := h
    exact ⟨hpolicy, hnow, hoperation, hsame, hdigest, haction, hactionDigest, hscopes, hevidence,
      hspend, hactions, hcompletes, hhard, hunattended, hprofile⟩
  · intro h
    simp only [readAutonomy, bind_eq_ok, require_eq_ok, pure_eq_ok, assertDigest, assertNonnegative,
      parseUtcInstant, orRefuse_eq_ok, Unique.exists_iff]
    exact ⟨h.policy, _, h.now, h.operation, h.sameOperation, h.digest, h.action, h.actionDigest, _,
      h.scopes, _, h.evidenceIds, h.spend, h.actions, _, h.completesBy, _, h.hardBounds, _,
      h.unattendedBounds, _, h.profile, rfl⟩

namespace ReadsAutonomy

variable (h : ReadsAutonomy input reading)

include h

theorem at_now {now : String} {t : Instant} (hnow : parseInstant now = some t)
    (approval : Option RenewedApprovalEvidence) (authorized : Bool) :
    ReadsAutonomy
      { input with
        now, renewedApproval := approval, approverCurrentlyAuthorized := authorized }
      { reading with now := t } :=
  ⟨h.policy, hnow, h.operation, h.sameOperation, h.digest, h.action, h.actionDigest, h.scopes,
    h.evidenceIds, h.spend, h.actions, h.completesBy, h.hardBounds, h.unattendedBounds, h.profile⟩

theorem evaluate : evaluateAutonomy input = .ok (decideAutonomy input.policy input.invocation
    reading input.renewedApproval input.approverCurrentlyAuthorized) := by
  rw [evaluateAutonomy, readAutonomy_eq_ok.mpr h, ok_bind]
  rfl

theorem policyRef (label : String) : assertVersionedRef input.policy.definition label = .ok () := by
  have hpolicy := h.policy
  simp only [validateOperationAutonomyPolicy, assertVersionedRef, bind_eq_ok, require_eq_ok,
    Unique.exists_iff] at hpolicy ⊢
  exact hpolicy.1

theorem authorityLost_blocks : input.policy.triggerDispositions .authorityLost = .block := by
  have hpolicy := h.policy
  simp only [validateOperationAutonomyPolicy, bind_eq_ok, require_eq_ok, Unique.exists_iff]
    at hpolicy
  exact hpolicy.2.2.2.2.2.1

theorem profile_definition : reading.profile.map (·.definition) = input.profile.map (·.definition) ∧
    ∀ definition ∈ reading.profile.map (·.definition), ∀ label,
      assertVersionedRef definition label = .ok () := by
  have hprofile := h.profile
  cases hinput : input.profile with
  | none =>
    rw [hinput, Option.mapM_none, pure_eq_ok] at hprofile
    rw [← hprofile]
    exact ⟨rfl, nofun⟩
  | some profile =>
    rw [hinput, Option.mapM_some, map_eq_ok] at hprofile
    obtain ⟨read, hread, hsome⟩ := hprofile
    simp only [validateAutonomyPolicyProfile, bind_eq_ok, pure_eq_ok, Unique.exists_iff] at hread
    obtain ⟨hdefinition, -, -, notAfter, -, rfl⟩ := hread
    rw [← hsome]
    refine ⟨rfl, fun definition hmem label => ?_⟩
    obtain rfl := Option.some.inj hmem
    simpa only [assertVersionedRef, require_eq_ok] using hdefinition

end ReadsAutonomy

/-! ## Approvals made from a request -/

/-- The approval is made from the request field by field, and by another : at an instant not after
this one, to expire after it and no later than what it approves. -/
structure RenewedApprovalEvidence.Answers (approval : RenewedApprovalEvidence)
    (request : InterventionRequest) (now : String) : Prop where
  policy : approval.policy = request.policy
  profile : approval.profile = request.profile
  operation : approval.operation = request.operation
  digest : approval.requestOrPlanDigestSha256 = request.requestOrPlanDigestSha256
  action : approval.proposedAction = request.proposedAction
  scopeKeys : approval.scopeKeys = request.scopeKeys
  spend : approval.maximumSpendMicros = request.requestedSpendMicros
  actions : approval.maximumActions = request.requestedActions
  notAfter : approval.notAfter = request.notAfter
  proposer : approval.proposerPrincipalKey = request.proposerPrincipalKey
  evidenceIds : approval.evidenceIds = request.evidenceIds
  approver : approval.approverPrincipalKey ≠ request.proposerPrincipalKey
  times : ∃ issuedAt t expiresAt notAfter, parseInstant approval.issuedAt = some issuedAt ∧
    parseInstant now = some t ∧ parseInstant approval.expiresAt = some expiresAt ∧
    parseInstant request.notAfter = some notAfter ∧ issuedAt.millis ≤ t.millis ∧
    t.millis < expiresAt.millis ∧ expiresAt.millis ≤ notAfter.millis

variable {approval : RenewedApprovalEvidence} {trigger : AutonomyTrigger} {now : String}

abbrev requestOf (input : EvaluateAutonomyInput) (reading : AutonomyReading)
    (trigger : AutonomyTrigger) : InterventionRequest :=
  interventionRequest input.policy trigger input.invocation reading.profile

theorem readApproval_of_answers (h : ReadsAutonomy input reading)
    (hanswers : approval.Answers (requestOf input reading trigger) now) :
    ∃ issuedAt t expiresAt, parseInstant now = some t ∧
      readApproval approval = .ok (issuedAt, expiresAt, reading.completesBy) ∧
      issuedAt.millis ≤ t.millis ∧ t.millis < expiresAt.millis ∧
      expiresAt.millis ≤ reading.completesBy.millis := by
  obtain ⟨issuedAt, t, expiresAt, notAfter, hissued, hnow, hexpires, hnotAfter, hle, hlt, hlast⟩ :=
    hanswers.times
  obtain rfl : reading.completesBy = notAfter :=
    Option.some.inj (h.completesBy.symm.trans hnotAfter)
  refine ⟨issuedAt, t, expiresAt, hnow, ?_, hle, hlt, hlast⟩
  have hprofile : (approval.profile.forM fun profile =>
      assertVersionedRef profile "renewed approval profile") = .ok () := by
    rw [hanswers.profile]
    change (Option.map _ reading.profile).forM _ = _
    cases hread : reading.profile.map (·.definition) with
    | none => rfl
    | some definition => exact h.profile_definition.2 definition hread _
  have hoperation := h.operation
  have haction := h.action
  simp only [assertOperation, assertVersionedRef, require_eq_ok] at hoperation haction
  simp only [readApproval, bind_eq_ok, require_eq_ok, pure_eq_ok, assertDigest, assertNonnegative,
    parseUtcInstant, orRefuse_eq_ok, Unique.exists_iff, assertOperation]
  rw [hanswers.policy, hanswers.operation, hanswers.digest, hanswers.action, hanswers.scopeKeys,
    hanswers.spend, hanswers.actions, hanswers.notAfter, hanswers.evidenceIds]
  refine ⟨h.policyRef _, hprofile, hoperation, h.digest, ?_, h.actionDigest, _,
    normalizedUnique_sort h.scopes _, _, normalizedUnique_sort h.evidenceIds _, h.spend, h.actions,
    issuedAt, hissued, expiresAt, hexpires, _, h.completesBy, rfl⟩
  exact require_eq_ok.mpr haction

theorem approvalMatches_of_answers (h : ReadsAutonomy input reading)
    (hanswers : approval.Answers (requestOf input reading trigger) now) {t : Instant}
    (hnow : parseInstant now = some t) :
    approvalMatches input.policy input.invocation { reading with now := t } (some approval) true =
      isInstant input.invocation.completesBy := by
  obtain ⟨issuedAt, t', expiresAt, hnow', hread, hle, hlt, hlast⟩ :=
    readApproval_of_answers h hanswers
  obtain rfl := Option.some.inj (hnow'.symm.trans hnow)
  have hcanonical : input.invocation.completesBy = reading.completesBy.val ↔
      isInstant input.invocation.completesBy = true := by
    rw [← parseInstant_eq_self_iff, h.completesBy, Option.map_some, Option.some.injEq, eq_comm]
  have hsort : ∀ {values result : List String} {label : String} {allowEmpty : Bool},
      normalizedUnique values label allowEmpty = .ok result →
        (values.sortByKey codeUnits).sortByKey codeUnits = result.sortByKey codeUnits := by
    intro values result label allowEmpty hvalues
    obtain ⟨-, -, -, rfl⟩ := normalizedUnique_eq_ok.mp hvalues
    rfl
  have happroves : ApprovesInvocation input.policy input.invocation { reading with now := t' }
      approval ↔ isInstant input.invocation.completesBy = true := by
    rw [ApprovesInvocation, hanswers.policy, hanswers.profile, hanswers.operation, hanswers.digest,
      hanswers.action, hanswers.scopeKeys, hanswers.spend, hanswers.actions, hanswers.notAfter,
      hanswers.proposer, hanswers.evidenceIds, ← hcanonical]
    simp only [interventionRequest, hsort h.scopes, hsort h.evidenceIds, true_and, and_true]
    exact and_iff_left hanswers.approver
  rw [approvalMatches, hread, Bool.true_and]
  simp only [happroves, hle, hlt, hlast, and_true, Bool.decide_eq_true]

theorem outside_at {t : Instant} (hnow : reading.now.millis < reading.completesBy.millis)
    (ht : t.millis < reading.completesBy.millis) (invocation : AutonomyInvocation)
    (scopeKeys : List String) (spendMicros actions : ℤ) (notAfter : Instant) :
    Outside invocation { reading with now := t } scopeKeys spendMicros actions notAfter ↔
      Outside invocation reading scopeKeys spendMicros actions notAfter := by
  have hlate : ∀ {now : Instant}, now.millis < reading.completesBy.millis →
      (notAfter.millis < reading.completesBy.millis ∨ notAfter.millis ≤ now.millis ↔
        notAfter.millis < reading.completesBy.millis) := by
    intro now hlt
    omega
  simp only [Outside, hlate hnow, hlate ht]

theorem bounds_at {t : Instant} (hnow : reading.now.millis < reading.completesBy.millis)
    (ht : t.millis < reading.completesBy.millis) (policy : OperationAutonomyPolicy)
    (invocation : AutonomyInvocation) :
    outsideHardAuthority invocation { reading with now := t } =
        outsideHardAuthority invocation reading ∧
      requiresApproval policy invocation { reading with now := t } =
        requiresApproval policy invocation reading ∧
      approvalTrigger invocation { reading with now := t } =
        approvalTrigger invocation reading := by
  have houtside : outsideUnattendedBounds invocation { reading with now := t } =
      outsideUnattendedBounds invocation reading :=
    decide_eq_decide.mpr (outside_at hnow ht _ _ _ _ _)
  refine ⟨decide_eq_decide.mpr (outside_at hnow ht _ _ _ _ _), ?_, ?_⟩
  · simp only [requiresApproval, houtside]
  · simp only [approvalTrigger, houtside]

/-! ## When an approval is asked for -/

/-- Work that authority lets come to the failures and bounds. -/
def Admitted (invocation : AutonomyInvocation) (reading : AutonomyReading) : Prop :=
  ¬ (invocation.surface = .appModel ∧ invocation.effect = .commit) ∧
    authorityKindMatchesSurface invocation = true ∧ invocation.authority.current = true ∧
    invocation.authority.permitted = true ∧ outsideHardAuthority invocation reading = false

/-- The failure of work, or the lack of an approval, that the policy has an approval asked for. -/
def AsksApproval (policy : OperationAutonomyPolicy) (invocation : AutonomyInvocation)
    (reading : AutonomyReading) (approved : Bool) : Prop :=
  match invocation.failure with
  | .acceptanceUnknown _ => policy.triggerDispositions .ambiguousExternalEffect = .renewedApproval
  | .stalePlan => policy.triggerDispositions .stalePlan = .renewedApproval
  | .compensationRequired => policy.triggerDispositions .compensationRequired = .renewedApproval
  | .terminal => policy.triggerDispositions .terminalFailure = .renewedApproval
  | .none => requiresApproval policy invocation reading = true ∧ approved = false ∧
      policy.triggerDispositions (approvalTrigger invocation reading) = .renewedApproval
  | .knownRetryable _ =>
    if requiresApproval policy invocation reading = true ∧ approved = false then
      policy.triggerDispositions (approvalTrigger invocation reading) = .renewedApproval
    else policy.triggerDispositions .knownRetryableFailure = .renewedApproval

theorem triggerDecision_eq_renewed_iff {policy : OperationAutonomyPolicy}
    {invocation : AutonomyInvocation} {profile : Option (AutonomyPolicyProfile Instant)}
    {request : InterventionRequest} :
    triggerDecision policy trigger invocation profile = .renewedApproval request ↔
      policy.triggerDispositions trigger = .renewedApproval ∧
        interventionRequest policy trigger invocation profile = request := by
  cases hdisposition : policy.triggerDispositions trigger with
  | renewedApproval => simp [triggerDecision, hdisposition]
  | safeRetry =>
    simp only [triggerDecision, hdisposition, reduceCtorEq, false_and, iff_false]
    split
    · split_ifs <;> exact nofun
    · exact nofun
  | reconcile =>
    simp only [triggerDecision, hdisposition, reduceCtorEq, false_and, iff_false]
    split <;> exact nofun
  | proceed => simp [triggerDecision, hdisposition]
  | replan => simp [triggerDecision, hdisposition]
  | compensate => simp [triggerDecision, hdisposition]
  | block => simp [triggerDecision, hdisposition]
  | attention => simp [triggerDecision, hdisposition]

theorem exists_triggerDecision_renewed_iff {policy : OperationAutonomyPolicy}
    {invocation : AutonomyInvocation} {profile : Option (AutonomyPolicyProfile Instant)} :
    (∃ request, triggerDecision policy trigger invocation profile = .renewedApproval request) ↔
      policy.triggerDispositions trigger = .renewedApproval := by
  simp [triggerDecision_eq_renewed_iff]

theorem decideAutonomy_renewed_iff {policy : OperationAutonomyPolicy}
    (hlost : policy.triggerDispositions .authorityLost = .block) (invocation : AutonomyInvocation)
    (reading : AutonomyReading) (approval : Option RenewedApprovalEvidence) (authorized : Bool) :
    (∃ request, decideAutonomy policy invocation reading approval authorized =
        .renewedApproval request) ↔
      Admitted invocation reading ∧ AsksApproval policy invocation reading
        (approvalMatches policy invocation reading approval authorized) := by
  rw [decideAutonomy]
  split_ifs with hmodel hkind hcurrent houtside
  · simp [Admitted, hmodel]
  · simp [Admitted, hkind]
  · rw [exists_triggerDecision_renewed_iff, hlost]
    refine iff_of_false nofun fun h => ?_
    rcases hcurrent with hcurrent | hpermitted
    · exact absurd (h.1.2.2.1.symm.trans hcurrent) nofun
    · exact absurd (h.1.2.2.2.1.symm.trans hpermitted) nofun
  · simp [Admitted, houtside]
  · have hadmitted : Admitted invocation reading := by
      simp only [not_or, Bool.not_eq_false] at hcurrent
      exact ⟨hmodel, by simpa using hkind, hcurrent.1, hcurrent.2, by simpa using houtside⟩
    rw [and_iff_right hadmitted, AsksApproval, decideAdmittedWork]
    cases hfailure : invocation.failure with
    | acceptanceUnknown anchor => exact exists_triggerDecision_renewed_iff
    | stalePlan => exact exists_triggerDecision_renewed_iff
    | compensationRequired => exact exists_triggerDecision_renewed_iff
    | terminal => exact exists_triggerDecision_renewed_iff
    | none =>
      dsimp only
      split_ifs with hneeds
      · exact exists_triggerDecision_renewed_iff.trans
          ⟨fun hasks => ⟨hneeds.1, hneeds.2, hasks⟩, fun h => h.2.2⟩
      · exact iff_of_false (fun ⟨_, h⟩ => by cases h) fun h => hneeds ⟨h.1, h.2.1⟩
    | knownRetryable anchor =>
      dsimp only
      split_ifs <;> exact exists_triggerDecision_renewed_iff

theorem exists_requestOf (h : ReadsAutonomy input reading) {request : InterventionRequest}
    (hrequest : evaluateAutonomy input = .ok (.renewedApproval request)) :
    ∃ trigger, requestOf input reading trigger = request := by
  have hdecision := Except.ok.inj (h.evaluate.symm.trans hrequest)
  rw [decideAutonomy, decideAdmittedWork] at hdecision
  have htrigger : ∀ {trigger}, triggerDecision input.policy trigger input.invocation
      reading.profile = .renewedApproval request → ∃ trigger, requestOf input reading trigger =
        request := fun h => ⟨_, (triggerDecision_eq_renewed_iff.mp h).2⟩
  split at hdecision
  · cases hdecision
  split at hdecision
  · cases hdecision
  split at hdecision
  · exact htrigger hdecision
  split at hdecision
  · cases hdecision
  split at hdecision
  · exact htrigger hdecision
  · exact htrigger hdecision
  · exact htrigger hdecision
  · exact htrigger hdecision
  · split at hdecision
    · exact htrigger hdecision
    · cases hdecision
  · split at hdecision
    · exact htrigger hdecision
    · exact htrigger hdecision

theorem answered_renewed_iff (h : ReadsAutonomy input reading)
    (hadmitted : Admitted input.invocation reading)
    (hopen : reading.now.millis < reading.completesBy.millis)
    (hanswers : approval.Answers (requestOf input reading trigger) now) :
    (∃ decision, evaluateAutonomy
        { input with now, renewedApproval := some approval, approverCurrentlyAuthorized := true } =
          .ok decision ∧ ∀ request, decision ≠ .renewedApproval request) ↔
      ¬ AsksApproval input.policy input.invocation reading
        (isInstant input.invocation.completesBy) := by
  obtain ⟨issuedAt, t, expiresAt, hnow, -, -, hlt, hlast⟩ := readApproval_of_answers h hanswers
  have hbounds := bounds_at hopen (hlt.trans_le hlast) input.policy input.invocation
  have hadmitted' : Admitted input.invocation { reading with now := t } :=
    ⟨hadmitted.1, hadmitted.2.1, hadmitted.2.2.1, hadmitted.2.2.2.1,
      hbounds.1.trans hadmitted.2.2.2.2⟩
  have hasks : AsksApproval input.policy input.invocation { reading with now := t }
      (isInstant input.invocation.completesBy) ↔ AsksApproval input.policy input.invocation reading
        (isInstant input.invocation.completesBy) := by
    rw [AsksApproval, AsksApproval, hbounds.2.1, hbounds.2.2]
  have hrenewed := decideAutonomy_renewed_iff h.authorityLost_blocks input.invocation
    { reading with now := t } (some approval) true
  rw [approvalMatches_of_answers h hanswers hnow, and_iff_right hadmitted', hasks] at hrenewed
  rw [(h.at_now hnow (some approval) true).evaluate, ← hrenewed]
  simp

/-- A failure does not come before the approval, and either the instant is canonical and no retry
asks for one besides, or it is not, and what lacks an approval asks for none. -/
def IsAnswerable (input : EvaluateAutonomyInput) : Prop :=
  (input.invocation.failure = .none ∨
    ∃ anchor, input.invocation.failure = .knownRetryable anchor) ∧
  (isInstant input.invocation.completesBy = true →
    (∃ anchor, input.invocation.failure = .knownRetryable anchor) →
      input.policy.triggerDispositions .knownRetryableFailure ≠ .renewedApproval) ∧
  (isInstant input.invocation.completesBy = false → ∀ reading, readAutonomy input = .ok reading →
    requiresApproval input.policy input.invocation reading = true ∧
      input.policy.triggerDispositions (approvalTrigger input.invocation reading) ≠
        .renewedApproval)

theorem isAnswerable_iff (h : ReadsAutonomy input reading) {approved : Bool}
    (hasked : AsksApproval input.policy input.invocation reading approved) :
    IsAnswerable input ↔ ¬ AsksApproval input.policy input.invocation reading
      (isInstant input.invocation.completesBy) := by
  have hread : ∀ {p : AutonomyReading → Prop},
      (∀ reading, readAutonomy input = .ok reading → p reading) ↔ p reading := by
    intro p
    rw [readAutonomy_eq_ok.mpr h]
    exact ⟨fun hall => hall reading rfl, fun hp found hfound => Except.ok.inj hfound ▸ hp⟩
  rw [IsAnswerable, hread]
  cases hfailure : input.invocation.failure with
  | acceptanceUnknown anchor => simp_all [AsksApproval]
  | stalePlan => simp_all [AsksApproval]
  | compensationRequired => simp_all [AsksApproval]
  | terminal => simp_all [AsksApproval]
  | none => simp_all [AsksApproval]
  | knownRetryable anchor =>
    simp only [AsksApproval, hfailure] at hasked ⊢
    cases hcanonical : isInstant input.invocation.completesBy with
    | true => simp
    | false =>
      by_cases hneeds : requiresApproval input.policy input.invocation reading = true
      · simp [hneeds]
      · simp_all

theorem exists_answers (h : ReadsAutonomy input reading)
    (hopen : reading.now.millis < reading.completesBy.millis) (trigger : AutonomyTrigger) :
    ∃ approval : RenewedApprovalEvidence,
      approval.Answers (requestOf input reading trigger) input.now := by
  have hother : input.invocation.authority.principalKey ++ "." ≠
      input.invocation.authority.principalKey := by
    intro heq
    have hlength := congrArg String.length heq
    rw [String.length_append, show ".".length = 1 from rfl] at hlength
    omega
  exact ⟨{
    id := "approval"
    policy := input.policy.definition
    profile := reading.profile.map (·.definition)
    operation := input.invocation.operation
    requestOrPlanDigestSha256 := input.invocation.requestOrPlanDigestSha256
    proposedAction := input.invocation.proposedAction
    scopeKeys := input.invocation.scopeKeys.sortByKey codeUnits
    maximumSpendMicros := input.invocation.spendMicros
    maximumActions := input.invocation.actionCount
    notAfter := input.invocation.completesBy
    proposerPrincipalKey := input.invocation.authority.principalKey
    approverPrincipalKey := input.invocation.authority.principalKey ++ "."
    issuedAt := input.now
    expiresAt := input.invocation.completesBy
    evidenceIds := input.invocation.consequenceEvidenceIds.sortByKey codeUnits },
    rfl, rfl, rfl, rfl, rfl, rfl, rfl, rfl, rfl, rfl, rfl, hother, _, _, _, _, h.now, h.now,
    h.completesBy, h.completesBy, le_rfl, hopen, le_rfl⟩

/-! ## What an approval agrees with -/

/-- The approval agrees with the work in every field : its scopes and evidence in any order, its
instant in any spelling. -/
structure RenewedApprovalEvidence.AgreesWith (approval : RenewedApprovalEvidence)
    (input : EvaluateAutonomyInput) : Prop where
  policy : approval.policy = input.policy.definition
  profile : approval.profile = input.profile.map (·.definition)
  operation : approval.operation = input.invocation.operation
  digest : approval.requestOrPlanDigestSha256 = input.invocation.requestOrPlanDigestSha256
  action : approval.proposedAction = input.invocation.proposedAction
  scopeKeys : approval.scopeKeys.Perm input.invocation.scopeKeys
  spend : approval.maximumSpendMicros = input.invocation.spendMicros
  actions : approval.maximumActions = input.invocation.actionCount
  notAfter : ∃ t, parseInstant approval.notAfter = some t ∧
    parseInstant input.invocation.completesBy = some t
  proposer : approval.proposerPrincipalKey = input.invocation.authority.principalKey
  evidenceIds : approval.evidenceIds.Perm input.invocation.consequenceEvidenceIds

theorem agreesWith_of_approves (h : ReadsAutonomy input reading)
    (happroves : ApprovesInvocation input.policy input.invocation reading approval) :
    approval.AgreesWith input := by
  have hperm : ∀ {values approved result : List String} {label : String} {allowEmpty : Bool},
      normalizedUnique values label allowEmpty = .ok result →
        approved.sortByKey codeUnits = result.sortByKey codeUnits → approved.Perm values := by
    intro values approved result label allowEmpty hvalues hsort
    obtain ⟨-, -, -, rfl⟩ := normalizedUnique_eq_ok.mp hvalues
    exact ((List.sortByKey_eq_iff_perm codeUnits_injective).mp hsort).trans
      (List.perm_sortByKey codeUnits values)
  obtain ⟨hpolicy, hprofile, hoperation, hdigest, haction, hactionDigest, hscopes, hspend, hactions,
    hnotAfter, hproposer, -, hevidence⟩ := happroves
  exact
    { policy := hpolicy
      profile := hprofile.trans h.profile_definition.1
      operation := hoperation
      digest := hdigest
      action := by
        cases haction' : approval.proposedAction
        cases hproposed : input.invocation.proposedAction
        simp_all
      scopeKeys := hperm h.scopes hscopes
      spend := hspend
      actions := hactions
      notAfter := ⟨reading.completesBy, hnotAfter ▸ parseInstant_val _, h.completesBy⟩
      proposer := hproposer
      evidenceIds := hperm h.evidenceIds hevidence }

theorem agreesWith_of_proceeds
    (hwith : evaluateAutonomy { input with renewedApproval := some approval } = .ok .proceed)
    (hwithout : evaluateAutonomy { input with renewedApproval := none } ≠ .ok .proceed) :
    approval.AgreesWith input := by
  rw [evaluateAutonomy, bind_eq_ok] at hwith
  obtain ⟨reading, hread, hproceed⟩ := hwith
  have h : ReadsAutonomy { input with renewedApproval := some approval } reading :=
    readAutonomy_eq_ok.mp hread
  have hreads : ReadsAutonomy { input with renewedApproval := none } reading :=
    h.at_now h.now none input.approverCurrentlyAuthorized
  rw [hreads.evaluate] at hwithout
  by_cases hmatches : approvalMatches input.policy input.invocation reading (some approval)
      input.approverCurrentlyAuthorized = true
  · rw [approvalMatches, Bool.and_eq_true] at hmatches
    have htimes := hmatches.2
    split at htimes
    · cases htimes
    · have happroves := (of_decide_eq_true htimes).1
      exact agreesWith_of_approves
        (h.at_now h.now input.renewedApproval input.approverCurrentlyAuthorized) happroves
  · refine absurd ?_ hwithout
    rw [← hproceed]
    refine congrArg Except.ok ?_
    dsimp only [decideAutonomy]
    rw [Bool.not_eq_true] at hmatches
    rw [hmatches]
    rfl

/-- A request is answered by every approval made from it, and no other work is let through by an
approval, exactly when the request is answerable. -/
theorem renewed_approval_answerable_iff {request : InterventionRequest}
    (h : evaluateAutonomy input = .ok (.renewedApproval request))
    (hopen : ∀ now completesBy, parseInstant input.now = some now →
      parseInstant input.invocation.completesBy = some completesBy →
        now.millis < completesBy.millis) :
    ((∀ (approval : RenewedApprovalEvidence) (now : String), approval.Answers request now →
        ∃ decision, evaluateAutonomy
            { input with
              now, renewedApproval := some approval, approverCurrentlyAuthorized := true } =
          .ok decision ∧ ∀ request', decision ≠ .renewedApproval request') ∧
      ∀ (other : EvaluateAutonomyInput) (approval : RenewedApprovalEvidence),
        evaluateAutonomy { other with renewedApproval := some approval } = .ok .proceed →
        evaluateAutonomy { other with renewedApproval := none } ≠ .ok .proceed →
          approval.AgreesWith other) ↔
      IsAnswerable input := by
  obtain ⟨reading, hread, -⟩ := bind_eq_ok.mp (show readAutonomy input >>= _ = _ from h)
  have hreads := readAutonomy_eq_ok.mp hread
  have hbefore := hopen _ _ hreads.now hreads.completesBy
  obtain ⟨trigger, rfl⟩ := exists_requestOf hreads h
  obtain ⟨hadmitted, hasks⟩ := (decideAutonomy_renewed_iff hreads.authorityLost_blocks _ _ _ _).mp
    ⟨_, Except.ok.inj (hreads.evaluate.symm.trans h)⟩
  rw [isAnswerable_iff hreads hasks, and_iff_left fun _ _ => agreesWith_of_proceeds]
  constructor
  · intro hall
    obtain ⟨approval, hanswers⟩ := exists_answers hreads hbefore trigger
    exact (answered_renewed_iff hreads hadmitted hbefore hanswers).mp (hall approval _ hanswers)
  · intro hnot approval now hanswers
    exact (answered_renewed_iff hreads hadmitted hbefore hanswers).mpr hnot

/-! ## A mail that is to be sent -/

namespace ApprovalExample

def dispositions (stalePlan : AutonomyDisposition) : AutonomyTrigger → AutonomyDisposition
  | .authorityLost => .block
  | .unattendedBoundsExceeded => .renewedApproval
  | .approvalRequired => .renewedApproval
  | .knownRetryableFailure => .safeRetry
  | .ambiguousExternalEffect => .reconcile
  | .stalePlan => stalePlan
  | .compensationRequired => .compensate
  | .terminalFailure => .attention

def policy (stalePlan : AutonomyDisposition) : OperationAutonomyPolicy :=
  { definition := { key := "autonomy.mail", version := 1 }
    operation := { name := "mail.send", version := 1 }
    riskFloor := .low, unattendedRiskCeiling := .low
    supportedDispositions :=
      [.proceed, .safeRetry, .reconcile, .renewedApproval, .replan, .compensate, .block, .attention]
    triggerDispositions := dispositions stalePlan, requiresSeparateApproval := false }

def bounds (maximumSpendMicros : ℤ) : AutonomyBounds String :=
  { scopeKeys := ["workspace.alpha"], maximumSpendMicros, maximumActions := 10
    notAfter := "2026-08-11T14:00:00.000Z" }

def digest : String := "1111111111111111111111111111111111111111111111111111111111111111"

def invocation (completesBy : String) (failure : WorkFailure) : AutonomyInvocation :=
  { operation := { name := "mail.send", version := 1 }, surface := .externalMcp, effect := .commit
    resolvedRisk := .low, requestOrPlanDigestSha256 := digest
    proposedAction := { key := "mail.send", version := 1, digestSha256 := digest }
    scopeKeys := ["workspace.alpha"], spendMicros := 300, actionCount := 1, completesBy
    authority :=
      { current := true, permitted := true, principalKey := "principal.agent"
        kind := .externalMcp, hardBounds := bounds 1000 }
    unattendedBounds := some (bounds 100), failure, consequenceEvidenceIds := ["evidence.intent"] }

def noon : Instant := ⟨"2026-08-11T12:00:00.000Z", by decide +kernel⟩

def expiry : Instant := ⟨"2026-08-11T12:20:00.000Z", by decide +kernel⟩

def halfPast : Instant := ⟨"2026-08-11T12:30:00.000Z", by decide +kernel⟩

def evaluation (stalePlan : AutonomyDisposition) (completesBy : String) (failure : WorkFailure) :
    EvaluateAutonomyInput :=
  { policy := policy stalePlan, invocation := invocation completesBy failure, profile := none
    now := noon.val, renewedApproval := none
    approverCurrentlyAuthorized := false }

/-- A plan that went stale, under a policy that has an approval asked for then. -/
def stale : EvaluateAutonomyInput :=
  evaluation .renewedApproval halfPast.val .stalePlan

/-- Work over its unattended spend, to be complete at an instant without its milliseconds. -/
def spelled : EvaluateAutonomyInput := evaluation .replan "2026-08-11T12:30:00Z" .none

def canonical : EvaluateAutonomyInput := evaluation .replan halfPast.val .none

/-- The approval of a request by the owner, for twenty minutes. -/
def approve (request : InterventionRequest) : RenewedApprovalEvidence :=
  { id := "approval.one", policy := request.policy, profile := request.profile
    operation := request.operation, requestOrPlanDigestSha256 := request.requestOrPlanDigestSha256
    proposedAction := request.proposedAction, scopeKeys := request.scopeKeys
    maximumSpendMicros := request.requestedSpendMicros
    maximumActions := request.requestedActions, notAfter := request.notAfter
    proposerPrincipalKey := request.proposerPrincipalKey
    approverPrincipalKey := "principal.owner", issuedAt := noon.val
    expiresAt := expiry.val, evidenceIds := request.evidenceIds }

def request (trigger : AutonomyTrigger) (input : EvaluateAutonomyInput) : InterventionRequest :=
  interventionRequest input.policy trigger input.invocation none

theorem answers {trigger : AutonomyTrigger} {input : EvaluateAutonomyInput}
    (hproposer : input.invocation.authority.principalKey = "principal.agent")
    (hcompletes : parseInstant input.invocation.completesBy = some halfPast) :
    (approve (request trigger input)).Answers (request trigger input) noon.val := by
  have hother : "principal.owner" ≠ input.invocation.authority.principalKey := by
    rw [hproposer]
    decide
  exact ⟨rfl, rfl, rfl, rfl, rfl, rfl, rfl, rfl, rfl, rfl, rfl, hother, noon, noon, expiry,
    halfPast, parseInstant_val noon, parseInstant_val noon, parseInstant_val expiry, hcompletes, le_rfl,
    by decide +kernel, by decide +kernel⟩

/-- The work with an approval of its request, by one who is authorized. -/
def approved (trigger : AutonomyTrigger) (input : EvaluateAutonomyInput) : EvaluateAutonomyInput :=
  { input with
    renewedApproval := some (approve (request trigger input)), approverCurrentlyAuthorized := true }

/-- What the gate answers to the three works, and to the first two with their approvals. -/
theorem asks :
    (evaluateAutonomy stale = .ok (.renewedApproval (request .stalePlan stale)) ∧
      evaluateAutonomy (approved .stalePlan stale) =
        .ok (.renewedApproval (request .stalePlan stale))) ∧
    (evaluateAutonomy spelled =
        .ok (.renewedApproval (request .unattendedBoundsExceeded spelled)) ∧
      evaluateAutonomy (approved .unattendedBoundsExceeded spelled) =
        .ok (.renewedApproval (request .unattendedBoundsExceeded spelled))) ∧
    evaluateAutonomy canonical =
      .ok (.renewedApproval (request .unattendedBoundsExceeded canonical)) := by
  refine ⟨?_, ?_, ?_⟩ <;> decide +kernel

example : evaluateAutonomy (approved .unattendedBoundsExceeded canonical) = .ok .proceed := by
  decide +kernel

end ApprovalExample

open ApprovalExample in
/-- A stale plan and an instant without its milliseconds : an approval made from the request is
followed by the same request. -/
theorem request_never_answered :
    ((approve (request .stalePlan stale)).Answers (request .stalePlan stale) noon.val ∧
      evaluateAutonomy stale = .ok (.renewedApproval (request .stalePlan stale)) ∧
      evaluateAutonomy (approved .stalePlan stale) =
        .ok (.renewedApproval (request .stalePlan stale))) ∧
    (approve (request .unattendedBoundsExceeded spelled)).Answers
        (request .unattendedBoundsExceeded spelled) noon.val ∧
      evaluateAutonomy spelled =
        .ok (.renewedApproval (request .unattendedBoundsExceeded spelled)) ∧
      evaluateAutonomy (approved .unattendedBoundsExceeded spelled) =
        .ok (.renewedApproval (request .unattendedBoundsExceeded spelled)) :=
  ⟨⟨answers rfl (parseInstant_val halfPast), asks.1⟩, answers rfl (by decide +kernel),
    asks.2.1⟩

open ApprovalExample in
theorem renewed_approval_answerable_of_canonical :
    evaluateAutonomy canonical =
        .ok (.renewedApproval (request .unattendedBoundsExceeded canonical)) ∧
      IsAnswerable canonical ∧
      (∀ (approval : RenewedApprovalEvidence) (now : String),
        approval.Answers (request .unattendedBoundsExceeded canonical) now →
          ∃ decision, evaluateAutonomy
              { canonical with
                now, renewedApproval := some approval, approverCurrentlyAuthorized := true } =
            .ok decision ∧ ∀ request', decision ≠ .renewedApproval request') ∧
      ∀ (other : EvaluateAutonomyInput) (approval : RenewedApprovalEvidence),
        evaluateAutonomy { other with renewedApproval := some approval } = .ok .proceed →
        evaluateAutonomy { other with renewedApproval := none } ≠ .ok .proceed →
          approval.AgreesWith other := by
  have hanswerable : IsAnswerable canonical := by
    have hinstant : isInstant canonical.invocation.completesBy = true := by decide +kernel
    refine ⟨.inl rfl, fun _ ⟨_, hanchor⟩ => ?_, fun hnot => ?_⟩
    · cases hanchor
    · rw [hinstant] at hnot
      cases hnot
  refine ⟨asks.2.2, hanswerable, (renewed_approval_answerable_iff asks.2.2 ?_).mpr hanswerable⟩
  intro now completesBy hnow hcompletes
  obtain rfl := Option.some.inj ((parseInstant_val noon).symm.trans hnow)
  obtain rfl := Option.some.inj ((parseInstant_val halfPast).symm.trans hcompletes)
  decide +kernel

end JooEvents
