import Mathlib.Data.List.Dedup
import JooEvents.Lib.Fallible
import JooEvents.Access.Authorization

/-!
# Current authority

Two resolvers decide, on every invocation, what a caller may do : the operator's from a
current session, the external agent's from an API key, of which each permission counts only
where the owner of the key has it too. Both look up the policy of the lane in one catalog
and ask `evaluateAccess` for each permission that the policy requires in the scope.

A resolver stops with a denial or by an exception. `Denies` is the first alone : what it
takes not to be denied is read off step by step (`denies_bind`).
-/

namespace JooEvents

open Fallible

inductive OperationSurface where
  | operatorHttp
  | participantHttp
  | publicHttp
  | externalMcp
  | appModel
  | applicationJob
  | providerIngress
  deriving DecidableEq

inductive OperationAccessLaneKind where
  | operator
  | participant
  | publicOpen
  | publicCeremony
  | externalMcp
  | appModel
  | registeredJob
  | registeredConsumer
  | registeredScheduler
  | verifiedIntake
  | verifiedInbox
  deriving DecidableEq

def laneSurface : OperationAccessLaneKind → OperationSurface
  | .operator => .operatorHttp
  | .participant => .participantHttp
  | .publicOpen => .publicHttp
  | .publicCeremony => .publicHttp
  | .externalMcp => .externalMcp
  | .appModel => .appModel
  | .registeredJob => .applicationJob
  | .registeredConsumer => .applicationJob
  | .registeredScheduler => .applicationJob
  | .verifiedIntake => .providerIngress
  | .verifiedInbox => .providerIngress

structure VersionedAccessPolicyRef where
  key : String
  version : ℕ
  deriving DecidableEq

structure OperationAccessLane where
  kind : OperationAccessLaneKind
  surface : OperationSurface
  policy : VersionedAccessPolicyRef
  deriving DecidableEq

inductive SubjectRef where
  | workspace (id : ApplicationId)
  | event (id : ApplicationId)
  | workspaceUser (id : ApplicationId)
  | participantPerson (id : ApplicationId)
  | domain (domain entity id : String) (version : Option Version)
  deriving DecidableEq

/-- A scope that the server has resolved. -/
structure ResolvedScope where
  workspaceId : ApplicationId
  eventId : Option ApplicationId
  subjects : List SubjectRef
  resolutionEvidenceIds : List String
  deriving DecidableEq

def ResolvedScope.accessScope (scope : ResolvedScope) (workspaceId : ApplicationId) : AccessScope :=
  match scope.eventId with
  | none => .workspace workspaceId.val
  | some eventId => .event workspaceId.val eventId.val

/-! ## Policies -/

inductive OperatorAuthorityDomainSubjectMapping where
  | permission (id : String) (permissionId : PermissionId)
  | anyOf (id : String) (anyOfPermissionIds : List PermissionId)

def OperatorAuthorityDomainSubjectMapping.id : OperatorAuthorityDomainSubjectMapping → String
  | permission id _ => id
  | anyOf id _ => id

inductive OperatorAuthorityPermissionRule where
  | fixed (permissionId : PermissionId)
  | allOf (permissionIds : List PermissionId)
  | domainSubject (domain entity : String) (mappings : List OperatorAuthorityDomainSubjectMapping)

structure CapturedOperatorAuthorityPolicyRegistration where
  policy : VersionedAccessPolicyRef
  permission : OperatorAuthorityPermissionRule

def stableSubjectKey (key : String) : Bool := isDottedIdentifier key

def IsPermissionChoice (permissionIds : List PermissionId) : Prop :=
  2 ≤ permissionIds.length ∧ permissionIds.length ≤ 32 ∧ permissionIds.Nodup

instance (permissionIds : List PermissionId) : Decidable (IsPermissionChoice permissionIds) :=
  inferInstanceAs (Decidable (_ ∧ _ ∧ _))

def OperatorAuthorityDomainSubjectMapping.isValid : OperatorAuthorityDomainSubjectMapping → Bool
  | permission id _ => stableSubjectKey id
  | anyOf id anyOfPermissionIds =>
    stableSubjectKey id && decide (IsPermissionChoice anyOfPermissionIds)

/-- The rules that `createOperatorAuthorityPolicyCatalog` takes. -/
def OperatorAuthorityPermissionRule.isValid : OperatorAuthorityPermissionRule → Bool
  | fixed _ => true
  | allOf permissionIds => decide (IsPermissionChoice permissionIds)
  | domainSubject domain entity mappings =>
    stableSubjectKey domain && stableSubjectKey entity && mappings ≠ [] &&
      mappings.all OperatorAuthorityDomainSubjectMapping.isValid &&
      decide (mappings.map OperatorAuthorityDomainSubjectMapping.id).Nodup

/-- A catalog of policies with valid rules, each registered once. -/
structure OperatorAuthorityPolicyCatalog where
  policies : List CapturedOperatorAuthorityPolicyRegistration
  unique : (policies.map (·.policy)).Nodup
  valid : ∀ entry ∈ policies, entry.permission.isValid = true

def OperatorAuthorityPolicyCatalog.get (catalog : OperatorAuthorityPolicyCatalog)
    (policy : VersionedAccessPolicyRef) : Option CapturedOperatorAuthorityPolicyRegistration :=
  catalog.policies.find? fun entry => entry.policy = policy

inductive RequirementKind where
  | allOf
  | anyOf

structure ResolvedPermissionRequirement where
  kind : RequirementKind
  permissionIds : List PermissionId

def SubjectRef.isDomain : SubjectRef → Bool
  | domain _ _ _ _ => true
  | _ => false

/-- The subject kinds that a domain-subject rule accepts. -/
def SubjectRef.isScopeOrDomain : SubjectRef → Bool
  | workspace _ => true
  | event _ => true
  | domain _ _ _ _ => true
  | _ => false

/-- The requirement of the mapping that names the subject. -/
def mappedRequirement (mappings : List OperatorAuthorityDomainSubjectMapping) (id : String) :
    Option ResolvedPermissionRequirement :=
  match mappings.find? fun candidate => candidate.id = id with
  | none => none
  | some (.permission _ permissionId) => some { kind := .allOf, permissionIds := [permissionId] }
  | some (.anyOf _ permissionIds) => some { kind := .anyOf, permissionIds }

def permissionsForScope (registration : CapturedOperatorAuthorityPolicyRegistration)
    (scope : ResolvedScope) : Option ResolvedPermissionRequirement :=
  match registration.permission with
  | .fixed permissionId => some { kind := .allOf, permissionIds := [permissionId] }
  | .allOf permissionIds => some { kind := .allOf, permissionIds }
  | .domainSubject domain entity mappings =>
    match scope.subjects.filter SubjectRef.isDomain with
    | [.domain subjectDomain subjectEntity id _] =>
      if scope.subjects.all SubjectRef.isScopeOrDomain = false then none
      else if subjectDomain ≠ domain ∨ subjectEntity ≠ entity then none
      else mappedRequirement mappings id
    | _ => none

def resolveOperatorAuthorityPermissionRequirement (catalog : OperatorAuthorityPolicyCatalog)
    (policy : VersionedAccessPolicyRef) (scope : ResolvedScope) :
    Option ResolvedPermissionRequirement :=
  (catalog.get policy).bind (permissionsForScope · scope)

theorem permissionIds_ne_nil {catalog : OperatorAuthorityPolicyCatalog}
    {policy : VersionedAccessPolicyRef} {scope : ResolvedScope}
    {requirement : ResolvedPermissionRequirement}
    (h : resolveOperatorAuthorityPermissionRequirement catalog policy scope = some requirement) :
    requirement.permissionIds ≠ [] := by
  obtain ⟨registration, hget, hscope⟩ := Option.bind_eq_some_iff.mp h
  have hvalid := catalog.valid registration (List.mem_of_find?_eq_some hget)
  have hchoice : ∀ {ids : List PermissionId}, IsPermissionChoice ids → ids ≠ [] := by
    rintro ids ⟨hlength, -⟩ rfl
    simp at hlength
  unfold permissionsForScope at hscope
  split at hscope
  · cases hscope
    simp
  · rename_i ids hrule
    rw [hrule, OperatorAuthorityPermissionRule.isValid, decide_eq_true_eq] at hvalid
    cases hscope
    exact hchoice hvalid
  · rename_i domain entity mappings hrule
    rw [hrule] at hvalid
    simp only [OperatorAuthorityPermissionRule.isValid, Bool.and_eq_true, List.all_eq_true] at hvalid
    split at hscope
    · split at hscope
      · cases hscope
      split at hscope
      · cases hscope
      unfold mappedRequirement at hscope
      split at hscope
      · cases hscope
      · cases hscope
        simp
      · rename_i mappingId ids hfind
        have hmapping := hvalid.1.2 _ (List.mem_of_find?_eq_some hfind)
        simp only [OperatorAuthorityDomainSubjectMapping.isValid, Bool.and_eq_true,
          decide_eq_true_eq] at hmapping
        cases hscope
        exact hchoice hmapping.2
    · cases hscope

/-- `n` granted of `m` decisions satisfy a requirement. -/
def RequirementKind.satisfied (kind : RequirementKind) (granted decisions : ℕ) : Bool :=
  match kind with
  | .allOf => decide (granted = decisions)
  | .anyOf => decide (0 < granted)

/-! ## What the resolvers read -/

inductive ApiKeyStanding where
  | active
  | revoked
  deriving DecidableEq

structure ApiKeyRecord where
  apiKeyId : ApplicationId
  workspaceId : ApplicationId
  ownerUserId : ApplicationId
  mayRead : Bool
  permissionIds : List PermissionId
  /-- Empty for every event the owner can reach. -/
  eventIds : List ApplicationId
  expiresAt : Option String
  standing : ApiKeyStanding
  version : ℤ
  deriving DecidableEq

/-- The access state of the workspaces, as the repositories answer. -/
structure AccessState where
  findMembership : ApplicationId → ApplicationId → Option WorkspaceMembership
  listRoles : ApplicationId → List Role
  listAssignments : ApplicationId → ApplicationId → List RoleAssignment
  listOverrides : ApplicationId → ApplicationId → List PermissionOverride
  getKey : ApplicationId → Option ApiKeyRecord

inductive CurrentAuthorityDenialReason where
  | missing
  | notAuthorized
  | stale
  | revoked
  | crossScope
  | laneMismatch
  deriving DecidableEq

inductive ScopeDenialReason where
  | missing
  | revoked
  | crossScope

def ScopeDenialReason.toReason : ScopeDenialReason → CurrentAuthorityDenialReason
  | missing => .missing
  | revoked => .revoked
  | crossScope => .crossScope

inductive OperatorScopeRelationshipResolution where
  | valid (evidenceIds : List String)
  | denied (reason : ScopeDenialReason)

structure OperatorSession where
  sessionId : String
  authUserId : String
  userId : ApplicationId
  expiresAt : Instant
  evidenceIds : List String

inductive SessionDenialReason where
  | missing
  | revoked

def SessionDenialReason.toReason : SessionDenialReason → CurrentAuthorityDenialReason
  | missing => .missing
  | revoked => .revoked

inductive CurrentOperatorSessionResolution where
  | current (session : OperatorSession)
  | denied (reason : SessionDenialReason)

/-- What both resolvers are created with. -/
structure AuthorityPorts where
  workspaceId : ApplicationId
  policies : OperatorAuthorityPolicyCatalog
  validateRelationships : ApplicationId → ResolvedScope → Instant → OperatorScopeRelationshipResolution

inductive InvocationEvidence where
  | operator (sessionHandle : String)
  | externalMcp (credentialHandle clientKey : String)
  /-- Evidence of a lane that neither resolver serves. -/
  | other (kind : OperationAccessLaneKind)

inductive OperationEffect where
  | read
  | draft
  | commit
  deriving DecidableEq

structure CurrentAuthorityResolutionInput where
  effect : OperationEffect
  evidence : InvocationEvidence
  lane : OperationAccessLane
  scope : ResolvedScope
  evaluatedAt : Instant

/-! ## Answers -/

inductive ActorRef where
  | workspaceUser (userId : ApplicationId)
  | externalMcpClient (clientKey : String) (authorityPrincipalId : ApplicationId)
  deriving DecidableEq

/-- The workspace user by whose membership an authority holds. -/
structure AuthorityPrincipalRef where
  userId : ApplicationId
  membershipId : ApplicationId
  deriving DecidableEq

inductive AuthorityGrantKind where
  | permission
  | tokenScope
  deriving DecidableEq

def AuthorityGrantKind.text : AuthorityGrantKind → String
  | permission => "permission"
  | tokenScope => "token_scope"

structure CurrentAuthorityGrant where
  kind : AuthorityGrantKind
  key : PermissionId
  deriving DecidableEq

structure CurrentResolvedAuthority where
  actor : ActorRef
  principal : AuthorityPrincipalRef
  lane : OperationAccessLane
  scope : ResolvedScope
  grants : List CurrentAuthorityGrant
  evidenceIds : List String
  authorityCitationIds : List ApplicationId
  evaluatedAt : Instant
  deriving DecidableEq

/-- How a resolver ends without an authority. -/
inductive AuthorityStop where
  | denied (reason : CurrentAuthorityDenialReason)
  | thrown (message : String)
  deriving DecidableEq

def Denies {α : Type} (resolution : Except AuthorityStop α) : Prop :=
  ∃ reason, resolution = .error (.denied reason)

section

variable {α β : Type}

@[simp] theorem not_denies_ok {a : α} : ¬ Denies (.ok a : Except AuthorityStop α) := nofun

@[simp] theorem not_denies_pure {a : α} : ¬ Denies (pure a : Except AuthorityStop α) := nofun

@[simp] theorem denies_denied {reason : CurrentAuthorityDenialReason} :
    Denies (.error (.denied reason) : Except AuthorityStop α) := ⟨reason, rfl⟩

@[simp] theorem not_denies_thrown {message : String} :
    ¬ Denies (.error (.thrown message) : Except AuthorityStop α) := by
  rintro ⟨reason, h⟩
  cases h

@[simp] theorem denies_bind {x : Except AuthorityStop α} {f : α → Except AuthorityStop β} :
    Denies (x >>= f) ↔ Denies x ∨ ∃ a, x = .ok a ∧ Denies (f a) := by
  cases x with
  | ok a => simp
  | error e => simp [Denies, bind, Except.bind]

@[simp] theorem denies_map {x : Except AuthorityStop α} {f : α → β} :
    Denies (f <$> x) ↔ Denies x := by
  cases x <;> simp [Denies, Functor.map, Except.map]

@[simp] theorem denies_require {c : Prop} [Decidable c] {stop : AuthorityStop} :
    Denies (require c stop) ↔ ¬ c ∧ Denies (.error stop : Except AuthorityStop Unit) := by
  simp [Denies, require_eq_error]

@[simp] theorem denies_orRefuse {o : Option α} {stop : AuthorityStop} :
    Denies (orRefuse o stop) ↔ o = none ∧ Denies (.error stop : Except AuthorityStop α) := by
  simp [Denies, orRefuse_eq_error]

theorem not_denies_mapM {f : α → Except AuthorityStop β} (hf : ∀ a, ¬ Denies (f a))
    (as : List α) : ¬ Denies (as.mapM f) := by
  rintro ⟨reason, h⟩
  obtain ⟨a, -, ha⟩ := mapM_eq_error h
  exact hf a ⟨reason, ha⟩

end

def stableKeyPattern (key : String) : Bool := isDottedIdentifier key

def parseOperationAccessLane (lane : OperationAccessLane) :
    Except AuthorityStop OperationAccessLane := do
  require (lane.surface = laneSurface lane.kind)
    (.thrown "operation access lane does not match its surface")
  require (stableKeyPattern lane.policy.key = true ∧ IsPositiveSafe lane.policy.version)
    (.thrown "access policy reference is invalid")
  pure lane

def parseMembershipId (value : String) : Except AuthorityStop ApplicationId :=
  orRefuse (parseApplicationId value)
    (.thrown "membership must be an application UUIDv4 or UUIDv7")

def isPositiveSafeInteger (version : ℤ) : Bool := decide (0 < version ∧ version ≤ maxSafeInteger)

def IsBoundedOpaque (value : String) : Prop := textLength value ≠ 0 ∧ textLength value ≤ 160

instance (value : String) : Decidable (IsBoundedOpaque value) := inferInstanceAs (Decidable (_ ∧ _))

def evidenceText (kind id : String) : String :=
  kind ++ ":" ++ toString (textLength id) ++ ":" ++ id

def canonicalStrings (values : List String) : List String :=
  values.dedup.insertionSort fun s t => ¬ textLt t s

def accessDenialReason (code : AccessDecisionCode) (membershipPresent : Bool) (message : String) :
    AuthorityStop :=
  match code with
  | .membershipInactive => .denied (if membershipPresent then .revoked else .missing)
  | .scopeNotAllowed => .denied .crossScope
  | .deniedDirectly => .denied .notAuthorized
  | .permissionMissing => .denied .notAuthorized
  | .grantedDirectly => .thrown message
  | .grantedByRole => .thrown message

def grantEvidence (decisions : List AccessDecision) : List AccessEvidence :=
  (decisions.flatMap (·.evidence)).filter fun entry => entry.effect = .grant

section

variable (host : AccessHost) (ports : AuthorityPorts) (state : AccessState)

def AccessState.accessInput (workspaceId userId : ApplicationId) (scope : ResolvedScope)
    (evaluatedAt : Instant) (permissionId : PermissionId) : EvaluateAccessInput :=
  { userId := userId.val, permissionId, requestedScope := scope.accessScope workspaceId,
    membership := state.findMembership workspaceId userId, roles := state.listRoles workspaceId,
    assignments := state.listAssignments workspaceId userId,
    overrides := state.listOverrides workspaceId userId, now := evaluatedAt.val }

/-! ## The external agent -/

/-- The credential of external evidence on an external lane. -/
def externalCredential (lane : OperationAccessLane) (evidence : InvocationEvidence) :
    Option (String × String) :=
  match lane.kind, lane.surface, evidence with
  | .externalMcp, .externalMcp, .externalMcp credentialHandle clientKey =>
    some (credentialHandle, clientKey)
  | _, _, _ => none

def AccessState.presentedKey (credentialHandle : String) : Option ApiKeyRecord :=
  (parseApplicationId credentialHandle).bind state.getKey

def externalEvidenceRef (kind id : String) : Except AuthorityStop String := do
  require (IsBoundedOpaque id) (.thrown "external_agent_evidence_id_invalid")
  pure (evidenceText kind id)

structure ExternalDecision where
  permissionId : PermissionId
  keyAllows : Bool
  access : AccessDecision

/-- Both the key and its owner have the permission. -/
def ExternalDecision.granted (decision : ExternalDecision) : Bool :=
  decision.keyAllows && decision.access.allowed

def ApiKeyRecord.decisions (key : ApiKeyRecord) (permissionIds : List PermissionId)
    (scope : ResolvedScope) (evaluatedAt : Instant) : List ExternalDecision :=
  permissionIds.map fun permissionId =>
    { permissionId, keyAllows := decide (permissionId ∈ key.permissionIds),
      access := evaluateAccess host
        (state.accessInput ports.workspaceId key.ownerUserId scope evaluatedAt permissionId) }

/-- The scope is of an event of the key, where the key is bound to events. -/
def ApiKeyRecord.CoversScope (key : ApiKeyRecord) (scope : ResolvedScope) : Prop :=
  key.eventIds = [] ∨ ∃ eventId ∈ scope.eventId, eventId ∈ key.eventIds

instance (key : ApiKeyRecord) (scope : ResolvedScope) : Decidable (key.CoversScope scope) :=
  inferInstanceAs (Decidable (_ ∨ _))

/-- The reason that an unsatisfied requirement is denied for. -/
def externalRefusal (decisions : List ExternalDecision) (membershipPresent : Bool) :
    AuthorityStop :=
  match decisions.find? fun decision => !decision.access.allowed with
  | some decision =>
    accessDenialReason decision.access.code membershipPresent "allowed_access_became_denial"
  | none => .denied .notAuthorized

def OperatorScopeRelationshipResolution.evidence :
    OperatorScopeRelationshipResolution → Except AuthorityStop (List String)
  | valid evidenceIds => .ok evidenceIds
  | denied reason => .error (.denied reason.toReason)

def resolveExternalAgentAuthority (input : CurrentAuthorityResolutionInput) :
    Except AuthorityStop CurrentResolvedAuthority := do
  let lane ← parseOperationAccessLane input.lane
  let (credentialHandle, clientKey) ←
    orRefuse (externalCredential lane input.evidence) (.denied .laneMismatch)
  require (input.scope.workspaceId = ports.workspaceId) (.denied .crossScope)
  let requirement ← orRefuse
    (resolveOperatorAuthorityPermissionRequirement ports.policies lane.policy input.scope)
    (.denied .crossScope)
  let key ← orRefuse (state.presentedKey credentialHandle) (.denied .revoked)
  require (key.workspaceId = ports.workspaceId ∧ key.standing = .active ∧
    isExpired host key.expiresAt input.evaluatedAt.val = false ∧
    clientKey = "api-key:" ++ key.apiKeyId.val) (.denied .revoked)
  require (key.mayRead = true ∧ input.effect = .read) (.denied .notAuthorized)
  require (key.CoversScope input.scope) (.denied .crossScope)
  let relationshipEvidenceIds ←
    (ports.validateRelationships key.ownerUserId input.scope input.evaluatedAt).evidence
  let membership := state.findMembership ports.workspaceId key.ownerUserId
  let decisions := key.decisions host ports state requirement.permissionIds input.scope
    input.evaluatedAt
  let granted := decisions.filter ExternalDecision.granted
  require (requirement.kind.satisfied granted.length decisions.length = true)
    (externalRefusal decisions membership.isSome)
  let membership ← orRefuse membership (.denied .missing)
  let version ← orRefuse (membership.version.filter isPositiveSafeInteger) (.denied .missing)
  let membershipId ← parseMembershipId membership.id
  let permissionEvidence ← (grantEvidence (granted.map (·.access))).mapM fun entry =>
    externalEvidenceRef ("access-" ++ entry.kind.text) entry.id
  let keyEvidence ← externalEvidenceRef "api-key"
    (key.apiKeyId.val ++ "@" ++ toString key.version)
  let membershipEvidence ← externalEvidenceRef "membership"
    (membershipId.val ++ "@" ++ toString version)
  pure
    { actor := .externalMcpClient clientKey key.ownerUserId
      principal := { userId := key.ownerUserId, membershipId }
      lane
      scope := input.scope
      grants := granted.map fun decision => { kind := .tokenScope, key := decision.permissionId }
      evidenceIds := canonicalStrings
        (keyEvidence :: membershipEvidence :: permissionEvidence ++ relationshipEvidenceIds)
      authorityCitationIds := []
      evaluatedAt := input.evaluatedAt }

/-! ## The operator -/

def boundedOpaque (value name : String) : Except AuthorityStop String := do
  require (IsBoundedOpaque value) (.thrown (name ++ " must be a bounded non-empty string"))
  pure value

def operatorEvidenceRef (kind id : String) : Except AuthorityStop String := do
  let bounded ← boundedOpaque id (kind ++ " evidence ID")
  pure (evidenceText kind bounded)

/-- The session handle of operator evidence on an operator lane. -/
def operatorSessionHandle (lane : OperationAccessLane) (evidence : InvocationEvidence) :
    Option String :=
  match lane.kind, lane.surface, evidence with
  | .operator, .operatorHttp, .operator sessionHandle => some sessionHandle
  | _, _, _ => none

def CurrentOperatorSessionResolution.session :
    CurrentOperatorSessionResolution → Except AuthorityStop OperatorSession
  | current session => .ok session
  | denied reason => .error (.denied reason.toReason)

/-- `validateScopeResult`, down to the evidence of a valid result. -/
def validateScopeResult (value : OperatorScopeRelationshipResolution) :
    Except AuthorityStop (List String) := do
  let evidenceIds ← value.evidence
  let bounded ← evidenceIds.mapM fun id => boundedOpaque id "scope relationship evidence ID"
  pure (canonicalStrings bounded)

def grantLe (left right : CurrentAuthorityGrant) : Prop :=
  textLt left.kind.text right.kind.text ∨
    ¬ textLt right.kind.text left.kind.text ∧ ¬ textLt right.key.text left.key.text

instance : DecidableRel grantLe := fun _ _ => inferInstanceAs (Decidable (_ ∨ _))

def canonicalGrants (values : List CurrentAuthorityGrant) : List CurrentAuthorityGrant :=
  values.dedup.insertionSort grantLe

/-- The reason that an unsatisfied requirement is denied for. -/
def operatorRefusal (decisions : List AccessDecision) (membershipPresent : Bool) : AuthorityStop :=
  match decisions.find? fun decision => !decision.allowed with
  | some denial => accessDenialReason denial.code membershipPresent
      "An allowed access decision cannot become a denial."
  | none => .thrown "Unsatisfied permission requirement has no denial."

def resolveOperatorCurrentAuthority
    (resolveSession : String → Instant → CurrentOperatorSessionResolution)
    (input : CurrentAuthorityResolutionInput) : Except AuthorityStop CurrentResolvedAuthority := do
  let lane ← parseOperationAccessLane input.lane
  let sessionHandle ← orRefuse (operatorSessionHandle lane input.evidence) (.denied .laneMismatch)
  require (lane = input.lane) (.denied .laneMismatch)
  let policy ← orRefuse (ports.policies.get lane.policy) (.denied .laneMismatch)
  require (input.scope.workspaceId = ports.workspaceId) (.denied .crossScope)
  let requirement ← orRefuse (permissionsForScope policy input.scope) (.denied .crossScope)
  let session ← (resolveSession sessionHandle input.evaluatedAt).session
  let sessionId ← boundedOpaque session.sessionId "operator session record ID"
  require (sessionId = sessionHandle)
    (.thrown "Operator session repository returned another session.")
  let _ ← boundedOpaque session.authUserId "authentication user ID"
  let sessionEvidenceIds ← session.evidenceIds.mapM fun id =>
    boundedOpaque id "operator session evidence ID"
  require (host.notAfter session.expiresAt.val input.evaluatedAt.val = false) (.denied .revoked)
  let relationshipEvidenceIds ← validateScopeResult
    (ports.validateRelationships session.userId input.scope input.evaluatedAt)
  let membership := state.findMembership ports.workspaceId session.userId
  let decisions := requirement.permissionIds.map fun permissionId => evaluateAccess host
    (state.accessInput ports.workspaceId session.userId input.scope input.evaluatedAt permissionId)
  let granted := decisions.filter (·.allowed)
  require (requirement.kind.satisfied granted.length decisions.length = true)
    (operatorRefusal decisions membership.isSome)
  let membership ← orRefuse membership
    (.thrown "Current operator membership must carry a positive version.")
  let version ← orRefuse membership.version
    (.thrown "Current operator membership must carry a positive version.")
  let membershipId ← parseMembershipId membership.id
  require (isPositiveSafeInteger version = true)
    (.thrown "Current operator membership must carry a positive version.")
  let permissionEvidence ← (grantEvidence granted).mapM fun evidence =>
    operatorEvidenceRef ("access-" ++ evidence.kind.text) evidence.id
  let membershipEvidence ← operatorEvidenceRef "membership"
    (membershipId.val ++ "@" ++ toString version)
  pure
    { actor := .workspaceUser session.userId
      principal := { userId := session.userId, membershipId }
      lane
      scope := input.scope
      grants := canonicalGrants (granted.map fun decision =>
        { kind := .permission, key := decision.permissionId })
      evidenceIds := canonicalStrings
        (sessionEvidenceIds ++ membershipEvidence :: permissionEvidence ++ relationshipEvidenceIds)
      authorityCitationIds := []
      evaluatedAt := input.evaluatedAt }

end

end JooEvents
