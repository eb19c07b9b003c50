import Mathlib.Logic.Relation
import JooEvents.Access.Authority

/-!
# Delegation

An API key acts for its owner and never beyond the owner
(`ExternalAgentAdmits.within`), and less authority never opens a door. For the latter the
access states are ordered by what they allow (`AccessState.Le`) : every reduction of
authority goes down in the order (`AccessReduction.le`), what a resolver checks before it
authorizes is kept going up (`ExternalAgentAdmits.mono`, `OperatorAdmits.mono`), and a
resolver whose checks hold does not deny (`ExternalAgentAdmits.not_denies`,
`OperatorAdmits.not_denies`).
-/

namespace JooEvents

open Fallible

/-- The permissions that a requirement asks for, all or any, have the property. -/
def RequirementKind.Met (kind : RequirementKind) (permissionIds : List PermissionId)
    (p : PermissionId → Prop) : Prop :=
  match kind with
  | .allOf => ∀ permissionId ∈ permissionIds, p permissionId
  | .anyOf => ∃ permissionId ∈ permissionIds, p permissionId

theorem RequirementKind.Met.mono {kind : RequirementKind} {permissionIds : List PermissionId}
    {p q : PermissionId → Prop} (hpq : ∀ permissionId, p permissionId → q permissionId)
    (h : kind.Met permissionIds p) : kind.Met permissionIds q := by
  cases kind with
  | allOf => exact fun permissionId hmem => hpq _ (h permissionId hmem)
  | anyOf =>
    obtain ⟨permissionId, hmem, hp⟩ := h
    exact ⟨permissionId, hmem, hpq _ hp⟩

theorem RequirementKind.satisfied_map_iff {α : Type} {kind : RequirementKind}
    {permissionIds : List PermissionId} {f : PermissionId → α} {granted : α → Bool} :
    kind.satisfied ((permissionIds.map f).filter granted).length (permissionIds.map f).length =
      true ↔ kind.Met permissionIds fun permissionId => granted (f permissionId) = true := by
  cases kind with
  | allOf => simp only [satisfied, Met, decide_eq_true_eq, List.length_filter_eq_length_iff,
      List.forall_mem_map]
  | anyOf => simp [satisfied, Met, List.length_pos_iff_exists_mem]

/-! ## The checks of the external agent -/

section

variable (host : AccessHost) (ports : AuthorityPorts)

/-- The user is allowed the permission in the scope at the instant. -/
def AccessState.Allows (state : AccessState) (workspaceId userId : ApplicationId)
    (scope : ResolvedScope) (evaluatedAt : Instant) (permissionId : PermissionId) : Prop :=
  (evaluateAccess host (state.accessInput workspaceId userId scope evaluatedAt
    permissionId)).allowed = true

/-- The key is one of the workspace, active and not expired. -/
structure ApiKeyRecord.Current (key : ApiKeyRecord) (evaluatedAt : Instant) : Prop where
  workspace : key.workspaceId = ports.workspaceId
  active : key.standing = .active
  unexpired : isExpired host key.expiresAt evaluatedAt.val = false

/-- The checks that a key passes before it acts under a requirement. -/
structure ExternalAgentAdmits (state : AccessState) (input : CurrentAuthorityResolutionInput)
    (requirement : ResolvedPermissionRequirement) (key : ApiKeyRecord) : Prop where
  lane : parseOperationAccessLane input.lane = .ok input.lane
  workspace : input.scope.workspaceId = ports.workspaceId
  required : resolveOperatorAuthorityPermissionRequirement ports.policies input.lane.policy
    input.scope = some requirement
  presented : ∃ handle, externalCredential input.lane input.evidence =
    some (handle, "api-key:" ++ key.apiKeyId.val) ∧ state.presentedKey handle = some key
  current : key.Current host ports input.evaluatedAt
  read : key.mayRead = true ∧ input.effect = .read
  covers : key.CoversScope input.scope
  related : ∃ evidenceIds, ports.validateRelationships key.ownerUserId input.scope
    input.evaluatedAt = .valid evidenceIds
  met : requirement.kind.Met requirement.permissionIds fun permissionId =>
    permissionId ∈ key.permissionIds ∧ state.Allows host ports.workspaceId key.ownerUserId
      input.scope input.evaluatedAt permissionId
  member : ∃ membership version, state.findMembership ports.workspaceId key.ownerUserId =
    some membership ∧ membership.version = some version ∧ isPositiveSafeInteger version = true

end

variable {host : AccessHost} {ports : AuthorityPorts} {state : AccessState}
variable {input : CurrentAuthorityResolutionInput}

theorem parseOperationAccessLane_eq_ok {lane parsed : OperationAccessLane}
    (h : parseOperationAccessLane lane = .ok parsed) : parsed = lane := by
  simp only [parseOperationAccessLane, bind_eq_ok, require_eq_ok, pure_eq_ok] at h
  obtain ⟨-, -, -, -, rfl⟩ := h
  rfl

theorem not_denies_parseMembershipId {value : String} : ¬ Denies (parseMembershipId value) :=
  by simp [parseMembershipId]

theorem not_denies_externalEvidenceRef {kind id : String} :
    ¬ Denies (externalEvidenceRef kind id) := by
  simp [externalEvidenceRef]

theorem evidence_eq_ok {resolution : OperatorScopeRelationshipResolution} {evidenceIds : List String} :
    resolution.evidence = .ok evidenceIds ↔ resolution = .valid evidenceIds := by
  cases resolution <;> simp [OperatorScopeRelationshipResolution.evidence]

theorem granted_decisions {key : ApiKeyRecord} {scope : ResolvedScope} {evaluatedAt : Instant}
    {kind : RequirementKind} {permissionIds : List PermissionId} :
    kind.satisfied
        ((key.decisions host ports state permissionIds scope evaluatedAt).filter
          ExternalDecision.granted).length
        (key.decisions host ports state permissionIds scope evaluatedAt).length = true ↔
      kind.Met permissionIds fun permissionId =>
        permissionId ∈ key.permissionIds ∧
          state.Allows host ports.workspaceId key.ownerUserId scope evaluatedAt permissionId := by
  rw [ApiKeyRecord.decisions, RequirementKind.satisfied_map_iff]
  simp [ExternalDecision.granted, AccessState.Allows]

theorem ExternalAgentAdmits.not_denies {requirement : ResolvedPermissionRequirement}
    {key : ApiKeyRecord} (h : ExternalAgentAdmits host ports state input requirement key) :
    ¬ Denies (resolveExternalAgentAuthority host ports state input) := by
  obtain ⟨handle, hcredential, hkey⟩ := h.presented
  obtain ⟨evidenceIds, hrelated⟩ := h.related
  obtain ⟨membership, version, hmember, hversion, hsafe⟩ := h.member
  have hmet := granted_decisions.mpr h.met
  have hfilter : membership.version.filter isPositiveSafeInteger = some version := by
    simp [hversion, hsafe]
  rw [resolveExternalAgentAuthority, h.lane, ok_bind, hcredential]
  simp only [orRefuse, ok_bind, h.workspace, require, if_pos, h.required, hkey,
    h.current.workspace, h.current.active, h.current.unexpired, h.read, h.covers, and_self,
    hrelated, OperatorScopeRelationshipResolution.evidence, hmet, hmember, hfilter]
  simp only [denies_bind, not_denies_pure, not_denies_externalEvidenceRef,
    not_denies_parseMembershipId, and_false, exists_false, or_false, false_or, not_exists, not_and]
  intro membershipId _
  exact not_denies_mapM (fun _ => not_denies_externalEvidenceRef) _

/-- Every grant that the decisions cite for the permission is of an identity that is not empty
and has at most 160 code units. -/
def CitesBounded (decision : AccessDecision) : Prop :=
  ∀ entry ∈ decision.evidence, entry.effect = .grant → IsBoundedOpaque entry.id

theorem exists_externalEvidenceRef_iff (kind id : String) :
    (∃ ref, externalEvidenceRef kind id = .ok ref) ↔ IsBoundedOpaque id := by
  simp [externalEvidenceRef]

theorem mem_grantEvidence {decisions : List AccessDecision} {entry : AccessEvidence} :
    entry ∈ grantEvidence decisions ↔
      (∃ decision ∈ decisions, entry ∈ decision.evidence) ∧ entry.effect = .grant := by
  simp [grantEvidence]

theorem forall_grantEvidence_iff {decisions : List AccessDecision} :
    (∀ entry ∈ grantEvidence decisions, IsBoundedOpaque entry.id) ↔
      ∀ decision ∈ decisions, CitesBounded decision := by
  simp only [mem_grantEvidence, CitesBounded]
  constructor
  · intro h decision hdecision entry hentry hgrant
    exact h entry ⟨⟨decision, hdecision, hentry⟩, hgrant⟩
  · rintro h entry ⟨⟨decision, hdecision, hentry⟩, hgrant⟩
    exact h decision hdecision entry hentry hgrant

/-- What an authorized external agent holds. -/
structure ExternalAgentHolds (host : AccessHost) (ports : AuthorityPorts) (state : AccessState)
    (input : CurrentAuthorityResolutionInput) (requirement : ResolvedPermissionRequirement)
    (key : ApiKeyRecord) (authority : CurrentResolvedAuthority) : Prop where
  admits : ExternalAgentAdmits host ports state input requirement key
  grants : authority.grants = (requirement.permissionIds.filter fun permissionId =>
      decide (permissionId ∈ key.permissionIds) && (evaluateAccess host (state.accessInput
        ports.workspaceId key.ownerUserId input.scope input.evaluatedAt permissionId)).allowed).map
    fun permissionId => { kind := .tokenScope, key := permissionId }
  cited : ∀ permissionId ∈ requirement.permissionIds, permissionId ∈ key.permissionIds →
    state.Allows host ports.workspaceId key.ownerUserId input.scope input.evaluatedAt
      permissionId →
    CitesBounded (evaluateAccess host (state.accessInput ports.workspaceId key.ownerUserId
      input.scope input.evaluatedAt permissionId))
  member : ∃ membership version membershipId, state.findMembership ports.workspaceId
    key.ownerUserId = some membership ∧ membership.version = some version ∧
      isPositiveSafeInteger version = true ∧ parseMembershipId membership.id = .ok membershipId ∧
      IsBoundedOpaque (membershipId.val ++ "@" ++ toString version)

theorem externalAgentHolds_of_ok {authority : CurrentResolvedAuthority}
    (h : resolveExternalAgentAuthority host ports state input = .ok authority) :
    ∃ requirement key, ExternalAgentHolds host ports state input requirement key authority := by
  simp only [resolveExternalAgentAuthority, bind_eq_ok, orRefuse_eq_ok, require_eq_ok,
    evidence_eq_ok, pure_eq_ok, Prod.exists] at h
  obtain ⟨lane, hlane, handle, clientKey, hcredential, -, hworkspace, requirement, hrequired, key,
    hkey, -, ⟨hkeyWorkspace, hactive, hunexpired, hclient⟩, -, hread, -, hcovers, evidenceIds,
    hrelated, -, hsatisfied, membership, hmember, version, hversion, membershipId, hmembershipId,
    permissionEvidence, hpermissionEvidence, keyEvidence, -, membershipEvidence,
    hmembershipEvidence, rfl⟩ := h
  obtain rfl := parseOperationAccessLane_eq_ok hlane
  obtain ⟨hversion, hsafe⟩ := Option.filter_eq_some_iff.mp hversion
  have hmet := granted_decisions.mp hsatisfied
  refine ⟨requirement, key, ⟨hlane, hworkspace, hrequired, ⟨handle, hclient ▸ hcredential, hkey⟩,
    ⟨hkeyWorkspace, hactive, hunexpired⟩, hread, hcovers, ⟨evidenceIds, hrelated⟩, hmet,
    ⟨membership, version, hmember, hversion, hsafe⟩⟩, ?_, ?_, ?_⟩
  · simp only [ApiKeyRecord.decisions, List.filter_map, List.map_map]
    rfl
  · intro permissionId hmem hallowed hallows
    have hbounded := (exists_mapM_eq_ok_iff fun entry : AccessEvidence =>
      exists_externalEvidenceRef_iff ("access-" ++ entry.kind.text) entry.id).mp
        ⟨permissionEvidence, hpermissionEvidence⟩
    refine forall_grantEvidence_iff.mp hbounded _ (List.mem_map.mpr ⟨_, List.mem_filter.mpr
      ⟨List.mem_map.mpr ⟨permissionId, hmem, rfl⟩, ?_⟩, rfl⟩)
    simpa [ExternalDecision.granted] using ⟨hallowed, hallows⟩
  · exact ⟨membership, version, membershipId, hmember, hversion, hsafe, hmembershipId,
      (exists_externalEvidenceRef_iff _ _).mp ⟨membershipEvidence, hmembershipEvidence⟩⟩

/-! ## The checks of the operator -/

section

variable (host : AccessHost)

/-- The handle resolves to a session of the user that the operator's resolver takes : it is the
session asked for, it is not over, and what it cites is bounded. -/
structure CurrentSession
    (resolveSession : String → Instant → CurrentOperatorSessionResolution) (handle : String)
    (userId : ApplicationId) (evaluatedAt : Instant) (session : OperatorSession) : Prop where
  resolved : resolveSession handle evaluatedAt = .current session
  sessionId : session.sessionId = handle
  handle : IsBoundedOpaque handle
  authUser : IsBoundedOpaque session.authUserId
  evidence : ∀ id ∈ session.evidenceIds, IsBoundedOpaque id
  owner : session.userId = userId
  unexpired : host.notAfter session.expiresAt.val evaluatedAt.val = false

/-- The checks that an operator passes before acting under a requirement. -/
structure OperatorAdmits (ports : AuthorityPorts) (state : AccessState)
    (resolveSession : String → Instant → CurrentOperatorSessionResolution)
    (input : CurrentAuthorityResolutionInput) (requirement : ResolvedPermissionRequirement)
    (handle : String) (session : OperatorSession) : Prop where
  lane : parseOperationAccessLane input.lane = .ok input.lane
  evidence : operatorSessionHandle input.lane input.evidence = some handle
  workspace : input.scope.workspaceId = ports.workspaceId
  required : resolveOperatorAuthorityPermissionRequirement ports.policies input.lane.policy
    input.scope = some requirement
  resolved : resolveSession handle input.evaluatedAt = .current session
  unexpired : host.notAfter session.expiresAt.val input.evaluatedAt.val = false
  related : ∃ evidenceIds, ports.validateRelationships session.userId input.scope
    input.evaluatedAt = .valid evidenceIds
  met : requirement.kind.Met requirement.permissionIds
    (state.Allows host ports.workspaceId session.userId input.scope input.evaluatedAt)

end

variable {resolveSession : String → Instant → CurrentOperatorSessionResolution}

theorem exists_boundedOpaque_iff (value name : String) :
    (∃ bounded, boundedOpaque value name = .ok bounded) ↔ IsBoundedOpaque value := by
  simp [boundedOpaque]

theorem boundedOpaque_eq_ok {value name bounded : String} :
    boundedOpaque value name = .ok bounded ↔ IsBoundedOpaque value ∧ value = bounded := by
  simp [boundedOpaque]

theorem exists_operatorEvidenceRef_iff (kind id : String) :
    (∃ ref, operatorEvidenceRef kind id = .ok ref) ↔ IsBoundedOpaque id := by
  simp [operatorEvidenceRef, boundedOpaque]

theorem not_denies_boundedOpaque {value name : String} : ¬ Denies (boundedOpaque value name) := by
  simp [boundedOpaque]

theorem not_denies_operatorEvidenceRef {kind id : String} :
    ¬ Denies (operatorEvidenceRef kind id) := by
  simp [operatorEvidenceRef, not_denies_boundedOpaque]

theorem session_eq_ok {resolution : CurrentOperatorSessionResolution} {session : OperatorSession} :
    resolution.session = .ok session ↔ resolution = .current session := by
  cases resolution <;> simp [CurrentOperatorSessionResolution.session]

theorem resolveRequirement_eq_some {catalog : OperatorAuthorityPolicyCatalog}
    {policy : VersionedAccessPolicyRef} {scope : ResolvedScope}
    {requirement : ResolvedPermissionRequirement} :
    resolveOperatorAuthorityPermissionRequirement catalog policy scope = some requirement ↔
      ∃ registration, catalog.get policy = some registration ∧
        permissionsForScope registration scope = some requirement := by
  simp [resolveOperatorAuthorityPermissionRequirement, Option.bind_eq_some_iff]

theorem granted_evaluations {userId : ApplicationId} {scope : ResolvedScope}
    {evaluatedAt : Instant} {kind : RequirementKind} {permissionIds : List PermissionId} :
    kind.satisfied
        ((permissionIds.map fun permissionId => evaluateAccess host
          (state.accessInput ports.workspaceId userId scope evaluatedAt permissionId)).filter
          (·.allowed)).length
        (permissionIds.map fun permissionId => evaluateAccess host
          (state.accessInput ports.workspaceId userId scope evaluatedAt permissionId)).length =
        true ↔
      kind.Met permissionIds (state.Allows host ports.workspaceId userId scope evaluatedAt) :=
  RequirementKind.satisfied_map_iff

theorem OperatorAdmits.not_denies {requirement : ResolvedPermissionRequirement} {handle : String}
    {session : OperatorSession}
    (h : OperatorAdmits host ports state resolveSession input requirement handle session) :
    ¬ Denies (resolveOperatorCurrentAuthority host ports state resolveSession input) := by
  obtain ⟨registration, hpolicy, hrequired⟩ := resolveRequirement_eq_some.mp h.required
  obtain ⟨evidenceIds, hrelated⟩ := h.related
  have hmet := granted_evaluations.mpr h.met
  have hsession := session_eq_ok.mpr h.resolved
  have hnever : ∀ (as : List String) (name : String),
      ¬ Denies (as.mapM fun id => boundedOpaque id name) :=
    fun as name => not_denies_mapM (fun _ => not_denies_boundedOpaque) as
  have hrefs : ∀ decisions, ¬ Denies ((grantEvidence decisions).mapM fun evidence =>
      operatorEvidenceRef ("access-" ++ evidence.kind.text) evidence.id) :=
    fun decisions => not_denies_mapM (fun _ => not_denies_operatorEvidenceRef) _
  simp only [resolveOperatorCurrentAuthority, h.lane, ok_bind, h.evidence, orRefuse_some, hpolicy,
    hrequired, hsession]
  simp only [denies_bind, denies_require, denies_orRefuse, not_denies_boundedOpaque, hnever, hrefs,
    not_denies_parseMembershipId, not_denies_operatorEvidenceRef, not_denies_pure,
    validateScopeResult, hrelated, hmet, h.unexpired, h.workspace,
    OperatorScopeRelationshipResolution.evidence, ok_bind, not_denies_thrown, not_true_eq_false,
    and_false, false_and, exists_false, or_false, not_false_eq_true]

theorem mem_canonicalGrants {values : List CurrentAuthorityGrant} {grant : CurrentAuthorityGrant} :
    grant ∈ canonicalGrants values ↔ grant ∈ values := by
  rw [canonicalGrants, List.mem_insertionSort, List.mem_dedup]

theorem exists_validateScopeResult_iff {evidenceIds : List String} :
    (∃ ids, validateScopeResult (.valid evidenceIds) = .ok ids) ↔
      ∀ id ∈ evidenceIds, IsBoundedOpaque id := by
  rw [← exists_mapM_eq_ok_iff fun id => exists_boundedOpaque_iff id
    "scope relationship evidence ID"]
  simp [validateScopeResult, OperatorScopeRelationshipResolution.evidence]

/-- What the operator's resolver would cite beside the session and the membership is bounded. -/
structure CitationsBounded (host : AccessHost) (ports : AuthorityPorts) (state : AccessState)
    (scope : ResolvedScope) (evaluatedAt : Instant) (requirement : ResolvedPermissionRequirement)
    (userId : ApplicationId) : Prop where
  related : ∀ evidenceIds, ports.validateRelationships userId scope evaluatedAt =
    .valid evidenceIds → ∀ id ∈ evidenceIds, IsBoundedOpaque id
  granted : ∀ permissionId ∈ requirement.permissionIds,
    state.Allows host ports.workspaceId userId scope evaluatedAt permissionId →
    CitesBounded (evaluateAccess host
      (state.accessInput ports.workspaceId userId scope evaluatedAt permissionId))

/-- The authority is the user's for the scope and the policy, with each permission that the
requirement asks for and the user is allowed. -/
structure OperatorHolds (host : AccessHost) (ports : AuthorityPorts) (state : AccessState)
    (input : CurrentAuthorityResolutionInput) (requirement : ResolvedPermissionRequirement)
    (userId : ApplicationId) (authority : CurrentResolvedAuthority) : Prop where
  principal : authority.principal.userId = userId
  scope : authority.scope = input.scope
  lane : authority.lane = input.lane
  grants : ∀ permissionId ∈ requirement.permissionIds,
    state.Allows host ports.workspaceId userId input.scope input.evaluatedAt permissionId →
    { kind := .permission, key := permissionId } ∈ authority.grants

theorem OperatorAdmits.holds_of_ok {requirement : ResolvedPermissionRequirement}
    {handle : String} {session : OperatorSession} {authority : CurrentResolvedAuthority}
    (h : OperatorAdmits host ports state resolveSession input requirement handle session)
    (hok : resolveOperatorCurrentAuthority host ports state resolveSession input = .ok authority) :
    OperatorHolds host ports state input requirement session.userId authority ∧
      CitationsBounded host ports state input.scope input.evaluatedAt requirement
        session.userId := by
  obtain ⟨registration, hpolicy, hrequired⟩ := resolveRequirement_eq_some.mp h.required
  simp only [resolveOperatorCurrentAuthority, h.lane, ok_bind, h.evidence, orRefuse_some, hpolicy,
    hrequired, session_eq_ok.mpr h.resolved, bind_eq_ok, pure_eq_ok] at hok
  obtain ⟨-, -, -, -, sessionId, -, -, -, -, -, -, -, -, -, relationshipEvidenceIds, hrelated, -, -,
    membership, -, version, -, membershipId, -, -, -, permissionEvidence, hpermission,
    membershipEvidence, -, rfl⟩ := hok
  refine ⟨⟨rfl, rfl, rfl, fun permissionId hmem hallows => mem_canonicalGrants.mpr ?_⟩,
    fun evidenceIds hvalid => ?_, fun permissionId hmem hallows => ?_⟩
  · refine List.mem_map.mpr ⟨_, List.mem_filter.mpr
      ⟨List.mem_map.mpr ⟨permissionId, hmem, rfl⟩, hallows⟩, ?_⟩
    rw [permissionId_evaluateAccess]
    rfl
  · exact exists_validateScopeResult_iff.mp ⟨_, hvalid ▸ hrelated⟩
  · have hcited := (exists_mapM_eq_ok_iff fun entry : AccessEvidence =>
      exists_operatorEvidenceRef_iff ("access-" ++ entry.kind.text) entry.id).mp
        ⟨permissionEvidence, hpermission⟩
    exact forall_grantEvidence_iff.mp hcited _ (List.mem_filter.mpr
      ⟨List.mem_map.mpr ⟨permissionId, hmem, rfl⟩, hallows⟩)

theorem OperatorAdmits.exists_ok {requirement : ResolvedPermissionRequirement}
    {handle : String} {session : OperatorSession}
    (h : OperatorAdmits host ports state resolveSession input requirement handle session)
    (hsession : CurrentSession host resolveSession handle session.userId input.evaluatedAt session)
    {membership : WorkspaceMembership} {version : ℤ} {membershipId : ApplicationId}
    (hmember : state.findMembership ports.workspaceId session.userId = some membership)
    (hversion : membership.version = some version) (hsafe : isPositiveSafeInteger version = true)
    (hmembershipId : parseMembershipId membership.id = .ok membershipId)
    (hbounded : IsBoundedOpaque (membershipId.val ++ "@" ++ toString version))
    (hcited : CitationsBounded host ports state input.scope input.evaluatedAt requirement
      session.userId) :
    ∃ authority,
      resolveOperatorCurrentAuthority host ports state resolveSession input = .ok authority := by
  obtain ⟨registration, hpolicy, hrequired⟩ := resolveRequirement_eq_some.mp h.required
  have hmet := granted_evaluations.mpr h.met
  obtain ⟨evidenceIds, hrelated⟩ := h.related
  obtain ⟨relationshipEvidenceIds, hvalid⟩ :=
    exists_validateScopeResult_iff.mpr (hcited.related evidenceIds hrelated)
  obtain ⟨sessionEvidenceIds, hsessionEvidence⟩ := (exists_mapM_eq_ok_iff fun id =>
    exists_boundedOpaque_iff id "operator session evidence ID").mpr hsession.evidence
  obtain ⟨permissionEvidence, hpermission⟩ := (exists_mapM_eq_ok_iff fun entry : AccessEvidence =>
    exists_operatorEvidenceRef_iff ("access-" ++ entry.kind.text) entry.id).mpr
      (forall_grantEvidence_iff.mpr fun decision hdecision => by
        obtain ⟨hmap, hallowed⟩ := List.mem_filter.mp hdecision
        obtain ⟨permissionId, hmem, rfl⟩ := List.mem_map.mp hmap
        exact hcited.granted permissionId hmem hallowed)
  obtain ⟨membershipEvidence, hmembershipEvidence⟩ :=
    (exists_operatorEvidenceRef_iff "membership" _).mpr hbounded
  have hopaque {value : String} (name : String) (hvalue : IsBoundedOpaque value) :
      boundedOpaque value name = .ok value := boundedOpaque_eq_ok.mpr ⟨hvalue, rfl⟩
  simp only [resolveOperatorCurrentAuthority, h.lane, ok_bind, h.evidence, orRefuse_some, require,
    if_true, hpolicy, hrequired, session_eq_ok.mpr h.resolved, h.workspace, hsession.sessionId,
    hopaque _ hsession.handle, hopaque _ hsession.authUser, hsessionEvidence, h.unexpired,
    hrelated, hvalid, hmet, hmember, hversion, hmembershipId, hsafe, hpermission,
    hmembershipEvidence]
  exact ⟨_, rfl⟩

theorem operatorAdmits_of_ok {authority : CurrentResolvedAuthority}
    (h : resolveOperatorCurrentAuthority host ports state resolveSession input = .ok authority) :
    ∃ requirement handle session,
      OperatorAdmits host ports state resolveSession input requirement handle session := by
  simp only [resolveOperatorCurrentAuthority, bind_eq_ok, orRefuse_eq_ok, require_eq_ok,
    session_eq_ok] at h
  obtain ⟨lane, hlane, handle, hevidence, -, -, registration, hpolicy, -, hworkspace, requirement,
    hrequired, session, hresolved, sessionId, -, -, -, -, -, -, -, -, hunexpired,
    relationshipEvidenceIds, hrelated, -, hsatisfied, -⟩ := h
  obtain rfl := parseOperationAccessLane_eq_ok hlane
  refine ⟨requirement, handle, session, hlane, hevidence, hworkspace,
    resolveRequirement_eq_some.mpr ⟨registration, hpolicy, hrequired⟩, hresolved, hunexpired, ?_,
    granted_evaluations.mp hsatisfied⟩
  simp only [validateScopeResult, bind_eq_ok, evidence_eq_ok] at hrelated
  obtain ⟨evidenceIds, hvalid, -⟩ := hrelated
  exact ⟨evidenceIds, hvalid⟩

end JooEvents
