import JooEvents.Access.Identity

/-!
# Authorization

`evaluateAccess` decides whether a user has a permission in a scope : an applicable
direct deny wins, then a direct grant, then a role, and by default nothing is allowed.
What it takes to be allowed is said once, without the order of the checks
(`allowed_evaluateAccess_iff`).
-/

namespace JooEvents

/-! ## Permissions -/

inductive AccessScopeKind where
  | workspace
  | event
  deriving DecidableEq

def AccessScopeKind.text : AccessScopeKind → String
  | .workspace => "workspace"
  | .event => "event"

inductive PermissionId where
  | eventRead
  | eventManage
  | programVocabularyManage
  | speakerDirectoryRead
  | speakerContactRead
  | speakerProfileManage
  | submissionRead
  | submissionScore
  | submissionComment
  | submissionDecision
  | scheduleRead
  | scheduleManage
  | schedulePublish
  | publicationManage
  | communicationDraft
  | communicationSend
  | communicationProviderManage
  | accessUsersRead
  | accessUsersInvite
  | accessUsersApprove
  | accessRolesManage
  | accessUsersSuspend
  | integrationAirtableRead
  | integrationAirtableManage
  | integrationApiManage
  | auditRead
  deriving DecidableEq

namespace PermissionId

def text : PermissionId → String
  | eventRead => "event.read"
  | eventManage => "event.manage"
  | programVocabularyManage => "program.vocabulary.manage"
  | speakerDirectoryRead => "speaker.directory.read"
  | speakerContactRead => "speaker.contact.read"
  | speakerProfileManage => "speaker.profile.manage"
  | submissionRead => "submission.read"
  | submissionScore => "submission.score"
  | submissionComment => "submission.comment"
  | submissionDecision => "submission.decision"
  | scheduleRead => "schedule.read"
  | scheduleManage => "schedule.manage"
  | schedulePublish => "schedule.publish"
  | publicationManage => "publication.manage"
  | communicationDraft => "communication.draft"
  | communicationSend => "communication.send"
  | communicationProviderManage => "communication.provider.manage"
  | accessUsersRead => "access.users.read"
  | accessUsersInvite => "access.users.invite"
  | accessUsersApprove => "access.users.approve"
  | accessRolesManage => "access.roles.manage"
  | accessUsersSuspend => "access.users.suspend"
  | integrationAirtableRead => "integration.airtable.read"
  | integrationAirtableManage => "integration.airtable.manage"
  | integrationApiManage => "integration.api.manage"
  | auditRead => "audit.read"

/-- The kinds of scope at which `PERMISSIONS` lets a permission be evaluated. -/
def allowedScopes : PermissionId → List AccessScopeKind
  | communicationProviderManage => [.workspace]
  | accessUsersRead => [.workspace]
  | accessUsersInvite => [.workspace]
  | accessUsersApprove => [.workspace]
  | accessRolesManage => [.workspace]
  | accessUsersSuspend => [.workspace]
  | integrationApiManage => [.workspace]
  | _ => [.workspace, .event]

end PermissionId

inductive AccessScope where
  | workspace (workspaceId : String)
  | event (workspaceId eventId : String)

namespace AccessScope

def kind : AccessScope → AccessScopeKind
  | workspace _ => .workspace
  | event _ _ => .event

def workspaceId : AccessScope → String
  | workspace workspaceId => workspaceId
  | event workspaceId _ => workspaceId

end AccessScope

structure Role where
  id : String
  workspaceId : String
  name : String
  permissionIds : List PermissionId
  archivedAt : Option String

structure RoleAssignment where
  id : String
  userId : String
  roleId : String
  scope : AccessScope
  expiresAt : Option String

structure PermissionOverride where
  id : String
  userId : String
  permissionId : PermissionId
  effect : OverrideEffect
  scope : AccessScope
  reason : String
  expiresAt : Option String

/-! ## The decision -/

inductive AccessDecisionCode where
  | grantedDirectly
  | grantedByRole
  | deniedDirectly
  | membershipInactive
  | scopeNotAllowed
  | permissionMissing

inductive AccessEvidenceKind where
  | membership
  | role
  | override
  | default

def AccessEvidenceKind.text : AccessEvidenceKind → String
  | .membership => "membership"
  | .role => "role"
  | .override => "override"
  | .default => "default"

inductive AccessEvidenceEffect where
  | grant
  | deny
  | inactive
  | none
  deriving DecidableEq

structure AccessEvidence where
  kind : AccessEvidenceKind
  id : String
  label : String
  effect : AccessEvidenceEffect
  scope : Option AccessScope

structure AccessDecision where
  allowed : Bool
  code : AccessDecisionCode
  permissionId : PermissionId
  requestedScope : AccessScope
  explanation : String
  evidence : List AccessEvidence

structure EvaluateAccessInput where
  userId : String
  permissionId : PermissionId
  requestedScope : AccessScope
  membership : Option WorkspaceMembership
  roles : List Role
  assignments : List RoleAssignment
  overrides : List PermissionOverride
  now : String

def isExpired (host : AccessHost) (expiresAt : Option String) (now : String) : Bool :=
  expiresAt.any (host.notAfter · now)

/-- A grant of a workspace applies to its events, a grant of an event to that event alone. -/
def scopeApplies (grantScope requestedScope : AccessScope) : Bool :=
  if grantScope.workspaceId ≠ requestedScope.workspaceId then false
  else match grantScope with
    | .workspace _ => true
    | .event _ eventId =>
      match requestedScope with
      | .workspace _ => false
      | .event _ requested => decide (eventId = requested)

variable (host : AccessHost)

namespace EvaluateAccessInput

variable (input : EvaluateAccessInput)

/-- The override is about the user and the permission, in force, and of a scope around the
requested one. -/
def Applicable (override : PermissionOverride) : Prop :=
  override.userId = input.userId ∧ override.permissionId = input.permissionId ∧
    isExpired host override.expiresAt input.now = false ∧
    scopeApplies override.scope input.requestedScope = true

instance (override : PermissionOverride) : Decidable (input.Applicable host override) :=
  inferInstanceAs (Decidable (_ ∧ _ ∧ _ ∧ _))

def applicableOverrides : List PermissionOverride :=
  input.overrides.filter fun override => input.Applicable host override

/-- `roleById.get`, in whose map a later role of an identity replaces an earlier one. -/
def roleById (roleId : String) : Option Role := input.roles.reverse.find? fun role => role.id = roleId

/-- The role that the assignment gives the permission by. -/
def grantingRole (assignment : RoleAssignment) : Option Role :=
  if assignment.userId ≠ input.userId ∨ isExpired host assignment.expiresAt input.now = true ∨
      scopeApplies assignment.scope input.requestedScope = false then none
  else match input.roleById assignment.roleId with
    | none => none
    | some role =>
      if role.workspaceId ≠ input.requestedScope.workspaceId ∨ role.archivedAt ≠ none ∨
          input.permissionId ∉ role.permissionIds then none
      else some role

def grantingRoleEvidence : List AccessEvidence :=
  input.assignments.filterMap fun assignment =>
    (input.grantingRole host assignment).map fun role =>
      { kind := .role, id := assignment.id, label := role.name ++ " role", effect := .grant,
        scope := some assignment.scope }

/-- The membership is the user's, of the requested workspace, and active. -/
def activeMembership : Bool :=
  input.membership.any fun membership =>
    decide (membership.userId = input.userId ∧
      membership.workspaceId = input.requestedScope.workspaceId ∧ membership.status = .active)

def decision (allowed : Bool) (code : AccessDecisionCode) (explanation : String)
    (evidence : List AccessEvidence) : AccessDecision :=
  { allowed, code, permissionId := input.permissionId, requestedScope := input.requestedScope,
    explanation, evidence }

def overrideEvidence (override : PermissionOverride) (effect : AccessEvidenceEffect) :
    AccessEvidence :=
  { kind := .override, id := override.id, label := override.reason, effect,
    scope := some override.scope }

end EvaluateAccessInput

open EvaluateAccessInput in
def evaluateAccess (input : EvaluateAccessInput) : AccessDecision :=
  if input.requestedScope.kind ∉ input.permissionId.allowedScopes then
    input.decision false .scopeNotAllowed
      ("The " ++ input.permissionId.text ++ " permission cannot be evaluated at " ++
        input.requestedScope.kind.text ++ " scope.")
      [{ kind := .default, id := "scope-policy", label := "Permission scope policy",
         effect := .none, scope := none }]
  else if input.activeMembership = false then
    input.decision false .membershipInactive
      "The user does not have an active membership in this workspace."
      [{ kind := .membership, id := (input.membership.map (·.id)).getD "missing",
         label := (input.membership.map fun m => "Membership is " ++ m.status.text).getD
           "No membership record",
         effect := .inactive, scope := none }]
  else match (input.applicableOverrides host).find? fun override => override.effect = .deny with
  | some deny =>
    input.decision false .deniedDirectly ("A direct deny applies: " ++ deny.reason)
      [overrideEvidence deny .deny]
  | none =>
    match (input.applicableOverrides host).find? fun override => override.effect = .grant with
    | some grant =>
      input.decision true .grantedDirectly ("A direct grant applies: " ++ grant.reason)
        [overrideEvidence grant .grant]
    | none =>
      match input.grantingRoleEvidence host with
      | [] =>
        input.decision false .permissionMissing
          "No applicable role or direct grant provides this permission."
          [{ kind := .default, id := "default-deny", label := "Default deny", effect := .none,
             scope := none }]
      | first :: rest =>
        input.decision true .grantedByRole (first.label ++ " grants this permission.")
          (first :: rest)

/-! ## What it takes to be allowed -/

namespace EvaluateAccessInput

variable (input : EvaluateAccessInput)

def DeniedDirectly : Prop :=
  ∃ override ∈ input.overrides, input.Applicable host override ∧ override.effect = .deny

def GrantedDirectly : Prop :=
  ∃ override ∈ input.overrides, input.Applicable host override ∧ override.effect = .grant

def GrantedByRole : Prop :=
  ∃ assignment ∈ input.assignments, ∃ role, input.grantingRole host assignment = some role

variable {host input}

theorem find?_applicable_eq_none {effect : OverrideEffect} :
    ((input.applicableOverrides host).find? fun override => override.effect = effect) = none ↔
      ¬ ∃ override ∈ input.overrides, input.Applicable host override ∧ override.effect = effect := by
  simp [applicableOverrides]

theorem find?_applicable_eq_some {effect : OverrideEffect} {override : PermissionOverride}
    (h : ((input.applicableOverrides host).find? fun o => o.effect = effect) = some override) :
    override ∈ input.overrides ∧ input.Applicable host override ∧ override.effect = effect := by
  have hmem := List.mem_of_find?_eq_some h
  have heffect := List.find?_some h
  simp only [applicableOverrides, List.mem_filter, decide_eq_true_eq] at hmem heffect
  exact ⟨hmem.1, hmem.2, heffect⟩

theorem grantingRoleEvidence_eq_nil :
    input.grantingRoleEvidence host = [] ↔ ¬ input.GrantedByRole host := by
  simp [grantingRoleEvidence, GrantedByRole, Option.eq_none_iff_forall_ne_some]

theorem activeMembership_eq_true : input.activeMembership = true ↔
    ∃ membership, input.membership = some membership ∧ membership.userId = input.userId ∧
      membership.workspaceId = input.requestedScope.workspaceId ∧ membership.status = .active := by
  simp [activeMembership, Option.any_eq_true]

theorem grantingRole_eq_some {assignment : RoleAssignment} {role : Role} :
    input.grantingRole host assignment = some role ↔
      assignment.userId = input.userId ∧ isExpired host assignment.expiresAt input.now = false ∧
        scopeApplies assignment.scope input.requestedScope = true ∧
        input.roleById assignment.roleId = some role ∧
        role.workspaceId = input.requestedScope.workspaceId ∧ role.archivedAt = none ∧
        input.permissionId ∈ role.permissionIds := by
  unfold grantingRole
  split
  · rename_i h
    refine ⟨nofun, fun ⟨huser, hexpired, hscope, _⟩ => ?_⟩
    simp [huser, hexpired, hscope] at h
  · rename_i h
    simp only [not_or, not_not, Bool.not_eq_true, Bool.not_eq_false] at h
    split
    · rename_i hrole
      simp [hrole]
    · rename_i found hrole
      split
      · rename_i hrefused
        refine ⟨nofun, fun ⟨_, _, _, hfound, hworkspace, harchived, hpermission⟩ => ?_⟩
        obtain rfl : found = role := Option.some.inj (hrole.symm.trans hfound)
        simp [hworkspace, harchived, hpermission] at hrefused
      · rename_i hgranted
        simp only [not_or, not_not] at hgranted
        constructor
        · intro heq
          obtain rfl := Option.some.inj heq
          exact ⟨h.1, h.2.1, h.2.2, hrole, hgranted.1, hgranted.2.1, hgranted.2.2⟩
        · rintro ⟨-, -, -, hfound, -⟩
          exact hrole.symm.trans hfound

end EvaluateAccessInput

variable {host} {input : EvaluateAccessInput}

open EvaluateAccessInput in
theorem allowed_evaluateAccess_iff : (evaluateAccess host input).allowed = true ↔
    input.requestedScope.kind ∈ input.permissionId.allowedScopes ∧
      input.activeMembership = true ∧ ¬ input.DeniedDirectly host ∧
      (input.GrantedDirectly host ∨ input.GrantedByRole host) := by
  unfold evaluateAccess
  split
  · rename_i hkind
    simp [decision, hkind]
  split
  · rename_i hmember
    simp [decision, hmember]
  rename_i hkind hmember
  have hkind : input.requestedScope.kind ∈ input.permissionId.allowedScopes := not_not.mp hkind
  have hmember : input.activeMembership = true := by simpa using hmember
  split
  · rename_i deny hdeny
    have hdenied : input.DeniedDirectly host := ⟨deny, find?_applicable_eq_some hdeny⟩
    simp [decision, hdenied]
  rename_i hdeny
  have hdenied : ¬ input.DeniedDirectly host := find?_applicable_eq_none.mp hdeny
  split
  · rename_i grant hgrant
    have hgranted : input.GrantedDirectly host := ⟨grant, find?_applicable_eq_some hgrant⟩
    simp [decision, hkind, hmember, hdenied, hgranted]
  rename_i hgrant
  have hgranted : ¬ input.GrantedDirectly host := find?_applicable_eq_none.mp hgrant
  split
  · rename_i hrole
    have hrole := grantingRoleEvidence_eq_nil.mp hrole
    simp [decision, hgranted, hrole]
  · rename_i first rest hrole
    have hrole : input.GrantedByRole host := by
      by_contra hnone
      rw [grantingRoleEvidence_eq_nil.mpr hnone] at hrole
      cases hrole
    simp [decision, hkind, hmember, hdenied, hrole]

@[simp] theorem permissionId_evaluateAccess :
    (evaluateAccess host input).permissionId = input.permissionId := by
  unfold evaluateAccess
  repeat' split
  all_goals rfl

end JooEvents
