import JooEvents.Roster.Model

/-!
# Planning and validating roster changes

A reviewer is registered, asked to review another scope, revoked or restored.
`planReviewerRosterMutation` plans such a change for an attribution,
`validateReviewerRosterMutationPlan` judges a plan against the current roster, the
current authority and the current scope targets. The validator compares the record the
plan was made for, the guards of the plan, and the digest of the roster the plan leads
to; it does not work out the record after the change.

The guards of a plan are checked to be well formed when it is parsed (`planParses`).
-/

namespace JooEvents

open Fallible

variable {D : Type}

/-! ## Inputs and plans -/

/-- What every input of the planner says. -/
structure RosterInputBase (D : Type) where
  scope : ReviewScope
  reviewerId : ApplicationId
  expectedRosterVersion : Version
  expectedRosterDigestSha256 : D

/-- An input of the planner. -/
inductive ReviewerRosterMutationInput (D : Type) where
  | register (base : RosterInputBase D) (accessSubject : ReviewerAuthoritySubjectRef)
      (reviews : ReviewScopeRefs)
  | set_scope (base : RosterInputBase D) (expectedReviewerVersion : Version)
      (reviews : ReviewScopeRefs)
  | revoke (base : RosterInputBase D) (expectedReviewerVersion : Version)
  | restore (base : RosterInputBase D) (expectedReviewerVersion : Version)

/-- The actions of the roster. -/
inductive ReviewerRosterAction where
  | register | set_scope | revoke | restore
  deriving DecidableEq

namespace ReviewerRosterMutationInput

def base : ReviewerRosterMutationInput D → RosterInputBase D
  | register base .. => base
  | set_scope base .. => base
  | revoke base _ => base
  | restore base _ => base

def action : ReviewerRosterMutationInput D → ReviewerRosterAction
  | register .. => .register
  | set_scope .. => .set_scope
  | revoke .. => .revoke
  | restore .. => .restore

/-- The scope an input asks for, if it asks for one. -/
def reviews : ReviewerRosterMutationInput D → Option ReviewScopeRefs
  | register _ _ reviews => some reviews
  | set_scope _ _ reviews => some reviews
  | _ => none

end ReviewerRosterMutationInput

/-- A version and a digest some part of the state had when a plan was made. -/
structure ReviewerRosterGuard (D : Type) where
  id : String
  version : Version
  digestSha256 : D

/-- The roster before and after a plan. -/
structure RosterVersions (D : Type) where
  beforeVersion : Version
  beforeDigestSha256 : D
  afterVersion : Version
  afterDigestSha256 : D

/-- A plan for the roster of an event. -/
structure ReviewerRosterMutationPlan (D : Type) where
  action : ReviewerRosterAction
  input : ReviewerRosterMutationInput D
  roster : RosterVersions D
  authoritySetGuard : ReviewerRosterGuard D
  authorityFactGuard : ReviewerRosterGuard D
  targetSetGuard : ReviewerRosterGuard D
  targetGuards : List (ReviewerRosterGuard D)
  before : Option ReviewerRosterRecord
  after : ReviewerRosterRecord

/-- Who makes a change, and when. -/
structure ReviewerRosterAttribution where
  userId : ApplicationId
  occurredAt : Instant

/-- The refusals of planner and validator. -/
inductive ReviewerRosterPlanningErrorCode where
  | wrong_scope | roster_missing | stale_roster | authority_unavailable | authority_changed
  | reviewer_not_eligible | reviewer_exists | reviewer_missing | stale_reviewer
  | reviewer_revoked | already_revoked | not_revoked | scope_targets_unavailable
  | scope_targets_changed | scope_target_missing | scope_target_retired | invalid_plan

/-- How a function of the roster fails : with a planning error, or by throwing from a parser
or a digest check. -/
inductive ReviewerRosterError where
  | planning (code : ReviewerRosterPlanningErrorCode)
  | thrown

def planningErrorCode (fallback : ReviewerRosterPlanningErrorCode) :
    ReviewerRosterError → ReviewerRosterPlanningErrorCode
  | .planning code => code
  | .thrown => fallback

def reviewerAuthoritySetGuardId (eventId : ApplicationId) : String :=
  "reviewer_authority_set:" ++ eventId.val

def reviewerAuthorityFactGuardId (reviewerId : ApplicationId) : String :=
  "reviewer_authority:" ++ reviewerId.val

def reviewerScopeTargetSetGuardId (eventId : ApplicationId) : String :=
  "reviewer_scope_targets:" ++ eventId.val

def reviewerScopeTargetGuardId (ref : ReviewScopeRef) : String :=
  "reviewer_scope_target:" ++ AsciiText.text ref.kind ++ ":" ++ ref.id.val

theorem scopeKind_text_inj {k k' : ReviewScopeKind} {s t : String}
    (h : AsciiText.text k ++ ":" ++ s = AsciiText.text k' ++ ":" ++ t) : k = k' ∧ s = t := by
  have h := congrArg String.toList h
  cases k <;> cases k'
  case track.track | format.format | session.session =>
    refine ⟨rfl, String.toList_inj.mp ?_⟩
    simpa [AsciiText.text] using h
  all_goals
    have hhead := congrArg List.head? h
    simp [AsciiText.text] at hhead

theorem reviewerScopeTargetGuardId_injective : Function.Injective reviewerScopeTargetGuardId := by
  intro a b h
  unfold reviewerScopeTargetGuardId at h
  rw [String.append_assoc, String.append_assoc, String.append_assoc, String.append_assoc,
    String.append_right_inj, ← String.append_assoc, ← String.append_assoc] at h
  obtain ⟨hkind, hid⟩ := scopeKind_text_inj h
  exact ReviewScopeRef.ext hkind (Subtype.ext hid)

def guardParses (guard : ReviewerRosterGuard D) : Bool :=
  decide (1 ≤ textLength guard.id ∧ textLength guard.id ≤ 512 ∧ trimText guard.id = guard.id)

/-- `reviewerRosterMutationPlanSchema`, over the fields together. -/
def rosterPlanParses (plan : ReviewerRosterMutationPlan D) : Bool :=
  guardParses plan.authoritySetGuard && guardParses plan.authorityFactGuard &&
    guardParses plan.targetSetGuard && plan.targetGuards.all guardParses &&
    decide (plan.targetGuards.length ≤ 200) &&
    decide (plan.action = plan.input.action) &&
    decide (plan.input.base.scope = plan.after.scope) &&
    plan.before.all (fun before => plan.input.base.scope = before.scope) &&
    decide (plan.input.base.reviewerId = plan.after.reviewerId) &&
    plan.before.all (fun before => plan.input.base.reviewerId = before.reviewerId)

def reviewerRosterDigest (host : Host D) (scope : ReviewScope) (version : Version)
    (reviewers : List ReviewerRosterRecord) : D :=
  host.sha256 <| Json.canonicalize host.nfc <| .obj
    [("schemaVersion", toJson (1 : ℕ)), ("scope", toJson scope), ("version", toJson version),
      ("reviewers", toJson reviewers)]

def reviewerAuthorityFactDigest (host : Host D) (fact : ReviewerEligibilityFact D) : D :=
  host.sha256 (fact.unsigned.canonicalize host.nfc)

def reviewerAuthoritySetDigest (host : Host D) (set : ReviewerAuthoritySet D) : D :=
  host.sha256 <| Json.canonicalize host.nfc <| .obj
    [("schemaVersion", toJson (1 : ℕ)), ("scope", toJson set.scope),
      ("version", toJson set.version), ("facts", toJson set.facts)]

def reviewerScopeTargetFactDigest (host : Host D) (target : ReviewerScopeTargetFact D) : D :=
  host.sha256 (Json.canonicalize host.nfc (.obj target.unsignedMembers))

def reviewerScopeTargetSetDigest (host : Host D) (set : ReviewerScopeTargetSet D) : D :=
  host.sha256 <| Json.canonicalize host.nfc <| .obj
    [("schemaVersion", toJson (1 : ℕ)), ("scope", toJson set.scope),
      ("version", toJson set.version), ("targets", toJson set.targets)]

variable [DecidableEq D]

def assertRosterState (host : Host D) (value : ReviewerRosterState D) (scope : ReviewScope) :
    Except ReviewerRosterError (ReviewerRosterState D) := do
  require (rosterParses value = true) .thrown
  require (value.scope = scope) (.planning .wrong_scope)
  require (value.digestSha256 =
    reviewerRosterDigest host value.scope value.version value.reviewers) .thrown
  return value

def assertAuthoritySet (host : Host D) (value : ReviewerAuthoritySet D) (scope : ReviewScope) :
    Except ReviewerRosterError (ReviewerAuthoritySet D) := do
  require (authorityParses value = true) .thrown
  require (value.scope = scope) (.planning .wrong_scope)
  require (∀ fact ∈ value.facts, fact.digestSha256 = reviewerAuthorityFactDigest host fact) .thrown
  require (value.digestSha256 = reviewerAuthoritySetDigest host value) .thrown
  return value

def assertTargetSet (host : Host D) (value : ReviewerScopeTargetSet D) (scope : ReviewScope) :
    Except ReviewerRosterError (ReviewerScopeTargetSet D) := do
  require (targetsParse value = true) .thrown
  require (value.scope = scope) (.planning .wrong_scope)
  require (∀ target ∈ value.targets,
    target.digestSha256 = reviewerScopeTargetFactDigest host target) .thrown
  require (value.digestSha256 = reviewerScopeTargetSetDigest host value) .thrown
  return value

def unavailableFactFor (host : Host D) (record : ReviewerRosterRecord)
    (authority : ReviewerAuthoritySet D) : ReviewerEligibilityFact D :=
  let unsigned : ReviewerEligibilityFact D :=
    { scope := record.scope, rosterSubject := record.accessSubject, currentSubject := none
      state := .unavailable, version := authority.version
      evidence := .authoritySet authority.digestSha256, displayName := none
      -- the digest of a fact does not depend on the one it carries
      digestSha256 := authority.digestSha256 }
  { unsigned with digestSha256 := reviewerAuthorityFactDigest host unsigned }

def isEligibleReviewerFact (fact : ReviewerEligibilityFact D) : Bool :=
  decide (fact.state ≠ .unavailable) && decide (fact.capabilityIds = reviewerCapabilityIds)

/-- The fact of the subject of a record, or that none is available. -/
def factFor (host : Host D) (authority : ReviewerAuthoritySet D) (record : ReviewerRosterRecord) :
    ReviewerEligibilityFact D :=
  (authority.facts.find? fun fact =>
    sameAuthoritySubject fact.rosterSubject record.accessSubject).getD
    (unavailableFactFor host record authority)

def findReviewer (roster : ReviewerRosterState D) (reviewerId : ApplicationId) :
    Option ReviewerRosterRecord :=
  roster.reviewers.find? fun reviewer => reviewer.reviewerId = reviewerId

/-- Another reviewer has the subject that an input registers. -/
def subjectTaken (roster : ReviewerRosterState D) : ReviewerRosterMutationInput D → Bool
  | .register base accessSubject _ => roster.reviewers.any fun candidate =>
      decide (candidate.reviewerId ≠ base.reviewerId) &&
        sameAuthoritySubject candidate.accessSubject accessSubject
  | _ => false

/-! ## The planner -/

/-- The checks of an input about an existing record, by its action. -/
def requireTransition (existing : ReviewerRosterRecord) :
    ReviewerRosterMutationInput D → Except ReviewerRosterError Unit
  | .register .. => .error (.planning .reviewer_exists)
  | .set_scope _ expectedReviewerVersion _ => do
    require (existing.version = expectedReviewerVersion) (.planning .stale_reviewer)
    require (existing.state = .included) (.planning .reviewer_revoked)
  | .revoke _ expectedReviewerVersion => do
    require (existing.version = expectedReviewerVersion) (.planning .stale_reviewer)
    require (existing.state = .included) (.planning .already_revoked)
  | .restore _ expectedReviewerVersion => do
    require (existing.version = expectedReviewerVersion) (.planning .stale_reviewer)
    require (existing.state ≠ .included) (.planning .not_revoked)

def resolveMutationAuthorityFact (host : Host D) (request : ReviewerRosterMutationInput D)
    (existing : Option ReviewerRosterRecord) (authority : ReviewerAuthoritySet D) :
    Except ReviewerRosterError (ReviewerEligibilityFact D) :=
  match request with
  | .register _ accessSubject _ => do
    require (existing = none) (.planning .reviewer_exists)
    let fact ← orRefuse (authority.facts.find? fun fact =>
      sameAuthoritySubject fact.rosterSubject accessSubject &&
        decide (fact.rosterSubject.version = accessSubject.version))
      (.planning .reviewer_not_eligible)
    require (isEligibleReviewerFact fact = true) (.planning .reviewer_not_eligible)
    return fact
  | request => do
    let existing ← orRefuse existing (.planning .reviewer_missing)
    requireTransition existing request
    let fact := factFor host authority existing
    require (request.action = .revoke ∨ isEligibleReviewerFact fact = true)
      (.planning .reviewer_not_eligible)
    return fact

def scopeTargetGuard (existing : Option ReviewerRosterRecord) (targets : ReviewerScopeTargetSet D)
    (ref : ReviewScopeRef) : Except ReviewerRosterError (ReviewerRosterGuard D) := do
  let target ← orRefuse (targets.targets.find? fun target => target.ref = ref)
    (.planning .scope_target_missing)
  require (target.assignability = .assignable ∨
    existing.any (fun record => record.reviews.val.contains ref) = true)
    (.planning .scope_target_retired)
  return { id := reviewerScopeTargetGuardId ref, version := target.version
           digestSha256 := target.digestSha256 }

def validateScopeChange (request : ReviewerRosterMutationInput D)
    (existing : Option ReviewerRosterRecord) (reviews : List ReviewScopeRef)
    (targets : ReviewerScopeTargetSet D) :
    Except ReviewerRosterError (List (ReviewerRosterGuard D)) :=
  if request.action = .revoke then return []
  else reviews.mapM (scopeTargetGuard existing targets)

/-- The scope a plan is about : what the input asks for, or what the record has. -/
def plannedReviews (request : ReviewerRosterMutationInput D)
    (existing : Option ReviewerRosterRecord) : List ReviewScopeRef :=
  match request.reviews, existing with
  | some reviews, _ => reviews.val
  | none, some record => record.reviews.val
  | none, none => []

def createAfterRecord (request : ReviewerRosterMutationInput D)
    (existing : Option ReviewerRosterRecord) (attribution : ReviewerRosterAttribution) :
    Except ReviewerRosterError ReviewerRosterRecord :=
  match request with
  | .register base accessSubject reviews =>
    return { scope := base.scope, reviewerId := base.reviewerId, version := .one, accessSubject
             reviews, addedByUserId := attribution.userId, addedAt := attribution.occurredAt
             state := .included }
  | .set_scope _ _ reviews => do
    let existing ← orRefuse existing (.planning .reviewer_missing)
    let version ← orRefuse (nextAggregateVersion existing.version) .thrown
    return { existing with version, reviews }
  | .revoke _ _ => do
    let existing ← orRefuse existing (.planning .reviewer_missing)
    let version ← orRefuse (nextAggregateVersion existing.version) .thrown
    return { existing with
      version, state := .revoked attribution.userId attribution.occurredAt }
  | .restore _ _ => do
    let existing ← orRefuse existing (.planning .reviewer_missing)
    let version ← orRefuse (nextAggregateVersion existing.version) .thrown
    return { existing with version, state := .included }

/-- The reviewers with one record replaced or added, in the order of their identities. -/
def reviewersWith (reviewers : List ReviewerRosterRecord) (after : ReviewerRosterRecord) :
    List ReviewerRosterRecord :=
  ((reviewers.filter fun reviewer => reviewer.reviewerId ≠ after.reviewerId) ++ [after]).insertionSort
    fun a b => a.reviewerId ≤ b.reviewerId

/-- The plan for a request, made of what the planner has worked out. -/
def rosterPlanOf (host : Host D) (request : ReviewerRosterMutationInput D)
    (current : ReviewerRosterState D) (authority : ReviewerAuthoritySet D)
    (fact : ReviewerEligibilityFact D) (targets : ReviewerScopeTargetSet D)
    (targetGuards : List (ReviewerRosterGuard D)) (after : ReviewerRosterRecord)
    (afterVersion : Version) : ReviewerRosterMutationPlan D where
  action := request.action
  input := request
  roster :=
    { beforeVersion := current.version, beforeDigestSha256 := current.digestSha256
      afterVersion
      afterDigestSha256 := reviewerRosterDigest host request.base.scope afterVersion
        (reviewersWith current.reviewers after) }
  authoritySetGuard :=
    { id := reviewerAuthoritySetGuardId request.base.scope.eventId, version := authority.version
      digestSha256 := authority.digestSha256 }
  authorityFactGuard :=
    { id := reviewerAuthorityFactGuardId request.base.reviewerId, version := fact.version
      digestSha256 := fact.digestSha256 }
  targetSetGuard :=
    { id := reviewerScopeTargetSetGuardId request.base.scope.eventId, version := targets.version
      digestSha256 := targets.digestSha256 }
  targetGuards
  before := findReviewer current request.base.reviewerId
  after

def planReviewerRosterMutation (host : Host D) (request : ReviewerRosterMutationInput D)
    (environment : ReviewerRosterMutationEnvironment D)
    (attribution : ReviewerRosterAttribution) :
    Except ReviewerRosterError (ReviewerRosterMutationPlan D) := do
  let scope := request.base.scope
  let roster ← orRefuse (environment.readReviewerRoster scope) (.planning .roster_missing)
  let current ← assertRosterState host roster scope
  require (request.base.expectedRosterVersion = current.version ∧
    request.base.expectedRosterDigestSha256 = current.digestSha256) (.planning .stale_roster)
  let authorityValue ← orRefuse (environment.readReviewerAuthority scope)
    (.planning .authority_unavailable)
  let authority ← assertAuthoritySet host authorityValue scope
  let existing := findReviewer current request.base.reviewerId
  require (subjectTaken current request = false) (.planning .reviewer_exists)
  let fact ← resolveMutationAuthorityFact host request existing authority
  let targetValue ← orRefuse (environment.readReviewerScopeTargets scope)
    (.planning .scope_targets_unavailable)
  let targets ← assertTargetSet host targetValue scope
  let targetGuards ← validateScopeChange request existing (plannedReviews request existing) targets
  let after ← createAfterRecord request existing attribution
  let afterVersion ← orRefuse (nextAggregateVersion current.version) .thrown
  let plan := rosterPlanOf host request current authority fact targets targetGuards after
    afterVersion
  require (rosterPlanParses plan = true) .thrown
  return plan

def guardMatches (guard : ReviewerRosterGuard D) (version : Version) (digestSha256 : D) : Bool :=
  decide (guard.version = version ∧ guard.digestSha256 = digestSha256)

/-- A guard names a target of the set, which has not changed. -/
def targetGuardMatches (targets : ReviewerScopeTargetSet D) (guard : ReviewerRosterGuard D) :
    Bool :=
  (targets.targets.find? fun target => reviewerScopeTargetGuardId target.ref = guard.id).any
    fun target => guardMatches guard target.version target.digestSha256

/-- The checks of `validateReviewerRosterMutationPlan`, refusing with a code. -/
def checkReviewerRosterMutationPlan (host : Host D) (plan : ReviewerRosterMutationPlan D)
    (environment : ReviewerRosterMutationEnvironment D) :
    Except ReviewerRosterPlanningErrorCode Unit := do
  require (rosterPlanParses plan = true) .invalid_plan
  let scope := plan.input.base.scope
  let rosterValue ← orRefuse (environment.readReviewerRoster scope) .roster_missing
  let roster ← (assertRosterState host rosterValue scope).mapError (planningErrorCode .wrong_scope)
  require (roster.version = plan.roster.beforeVersion ∧
    roster.digestSha256 = plan.roster.beforeDigestSha256) .stale_roster
  require (host.digest (findReviewer roster plan.input.base.reviewerId) =
    host.digest plan.before) .stale_reviewer
  require (subjectTaken roster plan.input = false) .reviewer_exists
  let authorityValue ← orRefuse (environment.readReviewerAuthority scope) .authority_unavailable
  let authority ← (assertAuthoritySet host authorityValue scope).mapError
    (planningErrorCode .authority_changed)
  require (guardMatches plan.authoritySetGuard authority.version authority.digestSha256 = true)
    .authority_changed
  let fact := factFor host authority plan.after
  require ((plan.action = .revoke ∨ isEligibleReviewerFact fact = true) ∧
    guardMatches plan.authorityFactGuard fact.version fact.digestSha256 = true) .authority_changed
  let targetValue ← orRefuse (environment.readReviewerScopeTargets scope)
    .scope_targets_unavailable
  let targets ← (assertTargetSet host targetValue scope).mapError
    (planningErrorCode .scope_targets_changed)
  require (guardMatches plan.targetSetGuard targets.version targets.digestSha256 = true)
    .scope_targets_changed
  require (plan.targetGuards.all (targetGuardMatches targets) = true) .scope_targets_changed
  require (reviewerRosterDigest host scope plan.roster.afterVersion
    (reviewersWith roster.reviewers plan.after) = plan.roster.afterDigestSha256) .invalid_plan

/-- `validateReviewerRosterMutationPlan` : the refusal of a plan, if it is refused. -/
def validateReviewerRosterMutationPlan (host : Host D) (plan : ReviewerRosterMutationPlan D)
    (environment : ReviewerRosterMutationEnvironment D) :
    Option ReviewerRosterPlanningErrorCode :=
  match checkReviewerRosterMutationPlan host plan environment with
  | .ok _ => none
  | .error code => some code

end JooEvents
