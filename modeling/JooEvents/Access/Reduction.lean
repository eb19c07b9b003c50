import JooEvents.Access.Delegation

/-!
# Less authority

Access states are ordered by what they allow at an instant (`AccessState.Le`). An
`AccessReduction` takes authority away : it adds a deny, removes or ends a grant, an
assignment, a membership or a key, archives a role or takes permissions from it, or narrows
a key. Each goes down in the order (`AccessReduction.le`), and what the resolvers check is
kept going up (`ExternalAgentAdmits.mono`, `OperatorAdmits.mono`).
-/

namespace JooEvents

open Fallible

/-! ## The order -/

section

variable (host : AccessHost) (now : String)

/-- The grants in force of `lower` are in force in `upper`, and the denies of `upper` in
`lower`. -/
structure OverridesLe (lower upper : List PermissionOverride) : Prop where
  grants : ∀ override ∈ lower, override.effect = .grant →
    isExpired host override.expiresAt now = false → override ∈ upper
  denies : ∀ override ∈ upper, override.effect = .deny →
    isExpired host override.expiresAt now = false → override ∈ lower

def AssignmentsLe (lower upper : List RoleAssignment) : Prop :=
  ∀ assignment ∈ lower, isExpired host assignment.expiresAt now = false → assignment ∈ upper

def roleOf (roles : List Role) (roleId : String) : Option Role :=
  roles.reverse.find? fun role => role.id = roleId

/-- The unarchived roles of `lower` are unarchived in `upper`, with as many permissions. -/
def RolesLe (lower upper : List Role) : Prop :=
  ∀ roleId role, roleOf lower roleId = some role → role.archivedAt = none →
    ∃ upperRole, roleOf upper roleId = some upperRole ∧
      upperRole.workspaceId = role.workspaceId ∧ upperRole.archivedAt = none ∧
      role.permissionIds ⊆ upperRole.permissionIds

/-- Keys of one identity, owner and workspace, of which `upper` is bound no further. -/
structure ApiKeyRecord.Le (lower upper : ApiKeyRecord) : Prop where
  apiKeyId : lower.apiKeyId = upper.apiKeyId
  workspace : lower.workspaceId = upper.workspaceId
  owner : lower.ownerUserId = upper.ownerUserId
  read : lower.mayRead = true → upper.mayRead = true
  active : upper.standing = .active
  unexpired : isExpired host upper.expiresAt now = false
  permissions : lower.permissionIds ⊆ upper.permissionIds
  covers : ∀ scope, lower.CoversScope scope → upper.CoversScope scope

/-- The state `lower` allows no more than `upper` does. -/
structure AccessState.Le (lower upper : AccessState) : Prop where
  memberships : ∀ workspaceId userId membership,
    lower.findMembership workspaceId userId = some membership → membership.status = .active →
    upper.findMembership workspaceId userId = some membership
  roles : ∀ workspaceId, RolesLe (lower.listRoles workspaceId) (upper.listRoles workspaceId)
  assignments : ∀ workspaceId userId, AssignmentsLe host now
    (lower.listAssignments workspaceId userId) (upper.listAssignments workspaceId userId)
  overrides : ∀ workspaceId userId, OverridesLe host now
    (lower.listOverrides workspaceId userId) (upper.listOverrides workspaceId userId)
  keys : ∀ apiKeyId lowerKey, lower.getKey apiKeyId = some lowerKey →
    lowerKey.standing = .active → isExpired host lowerKey.expiresAt now = false →
    ∃ upperKey, upper.getKey apiKeyId = some upperKey ∧ lowerKey.Le host now upperKey

end

variable {host : AccessHost} {now : String}

theorem OverridesLe.refl (overrides : List PermissionOverride) :
    OverridesLe host now overrides overrides :=
  ⟨fun _ h _ _ => h, fun _ h _ _ => h⟩

theorem OverridesLe.trans {lower middle upper : List PermissionOverride}
    (h : OverridesLe host now lower middle) (h' : OverridesLe host now middle upper) :
    OverridesLe host now lower upper :=
  ⟨fun override hmem hgrant hforce =>
      h'.grants override (h.grants override hmem hgrant hforce) hgrant hforce,
    fun override hmem hdeny hforce =>
      h.denies override (h'.denies override hmem hdeny hforce) hdeny hforce⟩

theorem RolesLe.refl (roles : List Role) : RolesLe roles roles :=
  fun _ role hrole harchived => ⟨role, hrole, rfl, harchived, List.Subset.refl _⟩

theorem RolesLe.trans {lower middle upper : List Role} (h : RolesLe lower middle)
    (h' : RolesLe middle upper) : RolesLe lower upper := by
  intro roleId role hrole harchived
  obtain ⟨role', hrole', hworkspace, harchived', hsub⟩ := h roleId role hrole harchived
  obtain ⟨role'', hrole'', hworkspace', harchived'', hsub'⟩ := h' roleId role' hrole' harchived'
  exact ⟨role'', hrole'', hworkspace'.trans hworkspace, harchived'', List.Subset.trans hsub hsub'⟩

theorem ApiKeyRecord.Le.refl {key : ApiKeyRecord} (hactive : key.standing = .active)
    (hunexpired : isExpired host key.expiresAt now = false) : key.Le host now key :=
  ⟨rfl, rfl, rfl, id, hactive, hunexpired, List.Subset.refl _, fun _ => id⟩

theorem ApiKeyRecord.Le.trans {lower middle upper : ApiKeyRecord} (h : lower.Le host now middle)
    (h' : middle.Le host now upper) : lower.Le host now upper :=
  ⟨h.apiKeyId.trans h'.apiKeyId, h.workspace.trans h'.workspace, h.owner.trans h'.owner,
    h'.read ∘ h.read, h'.active, h'.unexpired, List.Subset.trans h.permissions h'.permissions,
    fun scope => h'.covers scope ∘ h.covers scope⟩

theorem AccessState.Le.refl (state : AccessState) : state.Le host now state where
  memberships := fun _ _ _ h _ => h
  roles := fun _ => RolesLe.refl _
  assignments := fun _ _ _ h _ => h
  overrides := fun _ _ => OverridesLe.refl _
  keys := fun _ key hkey hactive hunexpired => ⟨key, hkey, .refl hactive hunexpired⟩

theorem AccessState.Le.trans {lower middle upper : AccessState} (h : lower.Le host now middle)
    (h' : middle.Le host now upper) : lower.Le host now upper where
  memberships := fun workspaceId userId membership hfind hactive =>
    h'.memberships _ _ _ (h.memberships workspaceId userId membership hfind hactive) hactive
  roles := fun workspaceId => (h.roles workspaceId).trans (h'.roles workspaceId)
  assignments := fun workspaceId userId assignment hmem hforce =>
    h'.assignments _ _ _ (h.assignments workspaceId userId assignment hmem hforce) hforce
  overrides := fun workspaceId userId =>
    (h.overrides workspaceId userId).trans (h'.overrides workspaceId userId)
  keys := fun apiKeyId key hkey hactive hunexpired => by
    obtain ⟨middleKey, hmiddle, hle⟩ := h.keys apiKeyId key hkey hactive hunexpired
    obtain ⟨upperKey, hupper, hle'⟩ := h'.keys apiKeyId middleKey hmiddle hle.active hle.unexpired
    exact ⟨upperKey, hupper, hle.trans hle'⟩

/-! ## What is allowed goes up -/

section

variable {lower upper : AccessState} {workspaceId userId : ApplicationId} {scope : ResolvedScope}
variable {evaluatedAt : Instant} {permissionId : PermissionId}

theorem AccessState.Allows.mono (hle : lower.Le host evaluatedAt.val upper)
    (h : lower.Allows host workspaceId userId scope evaluatedAt permissionId) :
    upper.Allows host workspaceId userId scope evaluatedAt permissionId := by
  obtain ⟨hkind, hmember, hdenied, hgranted⟩ := allowed_evaluateAccess_iff.mp h
  refine allowed_evaluateAccess_iff.mpr ⟨hkind, ?_, ?_, ?_⟩
  · obtain ⟨membership, hfind, huser, hworkspace, hactive⟩ :=
      EvaluateAccessInput.activeMembership_eq_true.mp hmember
    exact EvaluateAccessInput.activeMembership_eq_true.mpr
      ⟨membership, hle.memberships _ _ _ hfind hactive, huser, hworkspace, hactive⟩
  · rintro ⟨override, hmem, happlies, hdeny⟩
    exact hdenied ⟨override, (hle.overrides _ _).denies override hmem hdeny happlies.2.2.1,
      happlies, hdeny⟩
  · rcases hgranted with ⟨override, hmem, happlies, hgrant⟩ | ⟨assignment, hmem, role, hrole⟩
    · exact .inl ⟨override, (hle.overrides _ _).grants override hmem hgrant happlies.2.2.1,
        happlies, hgrant⟩
    · obtain ⟨huser, hforce, hscope, hfound, hworkspace, harchived, hpermission⟩ :=
        EvaluateAccessInput.grantingRole_eq_some.mp hrole
      obtain ⟨upperRole, hupper, hworkspace', harchived', hsub⟩ :=
        hle.roles workspaceId assignment.roleId role hfound harchived
      exact .inr ⟨assignment, hle.assignments _ _ assignment hmem hforce, upperRole,
        EvaluateAccessInput.grantingRole_eq_some.mpr ⟨huser, hforce, hscope, hupper,
          hworkspace'.trans hworkspace, harchived', hsub hpermission⟩⟩

theorem RequirementKind.Met.exists {kind : RequirementKind} {permissionIds : List PermissionId}
    {p : PermissionId → Prop} (h : kind.Met permissionIds p) (hne : permissionIds ≠ []) :
    ∃ permissionId ∈ permissionIds, p permissionId := by
  cases kind with
  | allOf =>
    obtain ⟨permissionId, hmem⟩ := List.exists_mem_of_ne_nil _ hne
    exact ⟨permissionId, hmem, h permissionId hmem⟩
  | anyOf => exact h

theorem AccessState.Allows.active
    (h : lower.Allows host workspaceId userId scope evaluatedAt permissionId)
    {membership : WorkspaceMembership}
    (hfind : lower.findMembership workspaceId userId = some membership) :
    membership.status = .active := by
  obtain ⟨-, hmember, -⟩ := allowed_evaluateAccess_iff.mp h
  obtain ⟨found, hfound, -, -, hactive⟩ :=
    EvaluateAccessInput.activeMembership_eq_true.mp hmember
  obtain rfl : membership = found := Option.some.inj (hfind.symm.trans hfound)
  exact hactive

end

section

variable {ports : AuthorityPorts} {lower upper : AccessState}
variable {input : CurrentAuthorityResolutionInput}

theorem ExternalAgentAdmits.mono {requirement : ResolvedPermissionRequirement}
    {key : ApiKeyRecord} (hle : lower.Le host input.evaluatedAt.val upper)
    (h : ExternalAgentAdmits host ports lower input requirement key) :
    ∃ upperKey, ExternalAgentAdmits host ports upper input requirement upperKey := by
  obtain ⟨handle, hcredential, hpresented⟩ := h.presented
  obtain ⟨apiKeyId, hparsed, hkey⟩ := Option.bind_eq_some_iff.mp hpresented
  obtain ⟨upperKey, hupper, hkeyLe⟩ :=
    hle.keys apiKeyId key hkey h.current.active h.current.unexpired
  obtain ⟨permissionId, -, -, hallows⟩ := h.met.exists (permissionIds_ne_nil h.required)
  obtain ⟨membership, version, hmember, hversion⟩ := h.member
  exact ⟨upperKey,
    { lane := h.lane
      workspace := h.workspace
      required := h.required
      presented := ⟨handle, hkeyLe.apiKeyId ▸ hcredential,
        Option.bind_eq_some_iff.mpr ⟨apiKeyId, hparsed, hupper⟩⟩
      current := ⟨hkeyLe.workspace ▸ h.current.workspace, hkeyLe.active, hkeyLe.unexpired⟩
      read := ⟨hkeyLe.read h.read.1, h.read.2⟩
      covers := hkeyLe.covers _ h.covers
      related := hkeyLe.owner ▸ h.related
      met := h.met.mono fun _ hgranted =>
        ⟨hkeyLe.permissions hgranted.1, hkeyLe.owner ▸ hgranted.2.mono hle⟩
      member := ⟨membership, version,
        hkeyLe.owner ▸ hle.memberships _ _ _ hmember (hallows.active hmember), hversion⟩ }⟩

theorem OperatorAdmits.mono
    {resolveSession : String → Instant → CurrentOperatorSessionResolution}
    {requirement : ResolvedPermissionRequirement} {handle : String} {session : OperatorSession}
    (hle : lower.Le host input.evaluatedAt.val upper)
    (h : OperatorAdmits host ports lower resolveSession input requirement handle session) :
    OperatorAdmits host ports upper resolveSession input requirement handle session :=
  { h with met := h.met.mono fun _ hallows => hallows.mono hle }

end

/-! ## Reductions -/

/-- `f` with the value `a` for the user of the workspace. -/
def withEntry {α : Type} (f : ApplicationId → ApplicationId → α)
    (workspaceId userId : ApplicationId) (a : α) : ApplicationId → ApplicationId → α :=
  Function.update f workspaceId (Function.update (f workspaceId) userId a)

/-- Authority taken away in one place. The versions that go up with it are free, and what is
expired has expired by the instant. -/
inductive AccessReduction (host : AccessHost) (now : String) (state : AccessState) :
    AccessState → Prop
  | denyAdded {workspaceId userId : ApplicationId} {front rest : List PermissionOverride}
      (deny : PermissionOverride) (effect : deny.effect = .deny)
      (listed : state.listOverrides workspaceId userId = front ++ rest) :
      AccessReduction host now state { state with
        listOverrides := withEntry state.listOverrides workspaceId userId (front ++ deny :: rest) }
  | grantRemoved {workspaceId userId : ApplicationId} {front rest : List PermissionOverride}
      {grant : PermissionOverride} (effect : grant.effect = .grant)
      (listed : state.listOverrides workspaceId userId = front ++ grant :: rest) :
      AccessReduction host now state { state with
        listOverrides := withEntry state.listOverrides workspaceId userId (front ++ rest) }
  | grantExpired {workspaceId userId : ApplicationId} {front rest : List PermissionOverride}
      {grant : PermissionOverride} (effect : grant.effect = .grant)
      (listed : state.listOverrides workspaceId userId = front ++ grant :: rest)
      (expiresAt : String) (expired : host.notAfter expiresAt now = true) :
      AccessReduction host now state { state with
        listOverrides := withEntry state.listOverrides workspaceId userId
          (front ++ { grant with expiresAt := some expiresAt } :: rest) }
  | assignmentRemoved {workspaceId userId : ApplicationId} {front rest : List RoleAssignment}
      {assignment : RoleAssignment}
      (listed : state.listAssignments workspaceId userId = front ++ assignment :: rest) :
      AccessReduction host now state { state with
        listAssignments := withEntry state.listAssignments workspaceId userId (front ++ rest) }
  | assignmentExpired {workspaceId userId : ApplicationId} {front rest : List RoleAssignment}
      {assignment : RoleAssignment}
      (listed : state.listAssignments workspaceId userId = front ++ assignment :: rest)
      (expiresAt : String) (expired : host.notAfter expiresAt now = true) :
      AccessReduction host now state { state with
        listAssignments := withEntry state.listAssignments workspaceId userId
          (front ++ { assignment with expiresAt := some expiresAt } :: rest) }
  | membershipRemoved (workspaceId userId : ApplicationId) :
      AccessReduction host now state { state with
        findMembership := withEntry state.findMembership workspaceId userId none }
  | membershipEnded {workspaceId userId : ApplicationId} {membership : WorkspaceMembership}
      (found : state.findMembership workspaceId userId = some membership)
      (status : MembershipStatus) (ended : status ≠ .active) (version : Option ℤ) :
      AccessReduction host now state { state with
        findMembership := withEntry state.findMembership workspaceId userId
          (some { membership with status, version }) }
  | roleArchived {workspaceId : ApplicationId} {front rest : List Role} {role : Role}
      (listed : state.listRoles workspaceId = front ++ role :: rest) (archivedAt : String) :
      AccessReduction host now state { state with
        listRoles := Function.update state.listRoles workspaceId
          (front ++ { role with archivedAt := some archivedAt } :: rest) }
  | permissionsRemoved {workspaceId : ApplicationId} {front rest : List Role} {role : Role}
      (listed : state.listRoles workspaceId = front ++ role :: rest)
      (permissionIds : List PermissionId) (kept : permissionIds ⊆ role.permissionIds) :
      AccessReduction host now state { state with
        listRoles := Function.update state.listRoles workspaceId
          (front ++ { role with permissionIds } :: rest) }
  | keyRemoved (apiKeyId : ApplicationId) :
      AccessReduction host now state { state with
        getKey := Function.update state.getKey apiKeyId none }
  | keyRevoked {apiKeyId : ApplicationId} {key : ApiKeyRecord}
      (found : state.getKey apiKeyId = some key) (version : ℤ) :
      AccessReduction host now state { state with
        getKey := Function.update state.getKey apiKeyId
          (some { key with standing := .revoked, version }) }
  | keyExpired {apiKeyId : ApplicationId} {key : ApiKeyRecord}
      (found : state.getKey apiKeyId = some key) (expiresAt : String)
      (expired : host.notAfter expiresAt now = true) (version : ℤ) :
      AccessReduction host now state { state with
        getKey := Function.update state.getKey apiKeyId
          (some { key with expiresAt := some expiresAt, version }) }
  | keyPermissionsRemoved {apiKeyId : ApplicationId} {key : ApiKeyRecord}
      (found : state.getKey apiKeyId = some key) (permissionIds : List PermissionId)
      (kept : permissionIds ⊆ key.permissionIds) (version : ℤ) :
      AccessReduction host now state { state with
        getKey := Function.update state.getKey apiKeyId
          (some { key with permissionIds, version }) }
  | keyEventsNarrowed {apiKeyId : ApplicationId} {key : ApiKeyRecord}
      (found : state.getKey apiKeyId = some key) (eventIds : List ApplicationId)
      (bound : eventIds ≠ []) (kept : key.eventIds = [] ∨ eventIds ⊆ key.eventIds) (version : ℤ) :
      AccessReduction host now state { state with
        getKey := Function.update state.getKey apiKeyId (some { key with eventIds, version }) }

section

variable {state : AccessState}

theorem withEntry_induction {α : Type} {f : ApplicationId → ApplicationId → α}
    {workspaceId userId : ApplicationId} {a : α} {P : ApplicationId → ApplicationId → α → Prop}
    (hf : ∀ workspaceId userId, P workspaceId userId (f workspaceId userId))
    (ha : P workspaceId userId a) (workspaceId' userId' : ApplicationId) :
    P workspaceId' userId' (withEntry f workspaceId userId a workspaceId' userId') := by
  unfold withEntry
  by_cases hworkspace : workspaceId' = workspaceId
  · subst hworkspace
    rw [Function.update_self]
    by_cases huser : userId' = userId
    · subst huser
      rwa [Function.update_self]
    · rw [Function.update_of_ne huser]
      exact hf _ _
  · rw [Function.update_of_ne hworkspace]
    exact hf _ _

theorem AccessState.le_of_overrides {workspaceId userId : ApplicationId}
    {overrides : List PermissionOverride}
    (h : OverridesLe host now overrides (state.listOverrides workspaceId userId)) :
    AccessState.Le host now { state with
      listOverrides := withEntry state.listOverrides workspaceId userId overrides } state :=
  { AccessState.Le.refl state with
    overrides := withEntry_induction
      (P := fun w u entries => OverridesLe host now entries (state.listOverrides w u))
      (fun _ _ => OverridesLe.refl _) h }

theorem AccessState.le_of_assignments {workspaceId userId : ApplicationId}
    {assignments : List RoleAssignment}
    (h : AssignmentsLe host now assignments (state.listAssignments workspaceId userId)) :
    AccessState.Le host now { state with
      listAssignments := withEntry state.listAssignments workspaceId userId assignments } state :=
  { AccessState.Le.refl state with
    assignments := withEntry_induction
      (P := fun w u entries => AssignmentsLe host now entries (state.listAssignments w u))
      (fun _ _ _ hmem _ => hmem) h }

theorem AccessState.le_of_membership {workspaceId userId : ApplicationId}
    {membership : Option WorkspaceMembership} (h : ∀ m ∈ membership, m.status ≠ .active) :
    AccessState.Le host now { state with
      findMembership := withEntry state.findMembership workspaceId userId membership } state :=
  { AccessState.Le.refl state with
    memberships := withEntry_induction
      (P := fun w u entry => ∀ m, entry = some m → m.status = .active →
        state.findMembership w u = some m)
      (fun _ _ _ hfind _ => hfind) fun m hm hactive => absurd hactive (h m hm) }

theorem AccessState.le_of_roles {workspaceId : ApplicationId} {roles : List Role}
    (h : RolesLe roles (state.listRoles workspaceId)) :
    AccessState.Le host now { state with
      listRoles := Function.update state.listRoles workspaceId roles } state :=
  { AccessState.Le.refl state with
    roles := fun workspaceId' => by
      change RolesLe (Function.update state.listRoles workspaceId roles workspaceId') _
      by_cases hworkspace : workspaceId' = workspaceId
      · subst hworkspace
        rwa [Function.update_self]
      · rw [Function.update_of_ne hworkspace]
        exact RolesLe.refl _ }

theorem AccessState.le_of_key {apiKeyId : ApplicationId} {key : Option ApiKeyRecord}
    (h : ∀ lowerKey ∈ key, lowerKey.standing = .active →
      isExpired host lowerKey.expiresAt now = false →
      ∃ upperKey, state.getKey apiKeyId = some upperKey ∧ lowerKey.Le host now upperKey) :
    AccessState.Le host now { state with
      getKey := Function.update state.getKey apiKeyId key } state :=
  { AccessState.Le.refl state with
    keys := fun apiKeyId' lowerKey hkey hactive hunexpired => by
      change Function.update state.getKey apiKeyId key apiKeyId' = some lowerKey at hkey
      by_cases hid : apiKeyId' = apiKeyId
      · subst hid
        rw [Function.update_self] at hkey
        exact h lowerKey hkey hactive hunexpired
      · rw [Function.update_of_ne hid] at hkey
        exact ⟨lowerKey, hkey, .refl hactive hunexpired⟩ }

theorem RolesLe.replace {front rest : List Role} {role lowered : Role}
    (hid : lowered.id = role.id) (hworkspace : lowered.workspaceId = role.workspaceId)
    (harchived : lowered.archivedAt = none → role.archivedAt = none)
    (hsub : lowered.permissionIds ⊆ role.permissionIds) :
    RolesLe (front ++ lowered :: rest) (front ++ role :: rest) := by
  intro roleId found hfound hunarchived
  simp only [roleOf, List.reverse_append, List.reverse_cons, List.append_assoc, List.find?_append,
    List.singleton_append, List.find?_cons, hid] at hfound ⊢
  cases hrest : rest.reverse.find? fun role => decide (role.id = roleId) with
  | some last =>
    rw [hrest] at hfound
    obtain rfl := Option.some.inj hfound
    exact ⟨last, rfl, rfl, hunarchived, List.Subset.refl _⟩
  | none =>
    rw [hrest] at hfound
    simp only [Option.none_or] at hfound ⊢
    split at hfound
    · obtain rfl := Option.some.inj hfound
      exact ⟨role, rfl, hworkspace.symm, harchived hunarchived, hsub⟩
    · exact ⟨found, hfound, rfl, hunarchived, List.Subset.refl _⟩

theorem AccessReduction.le {reduced : AccessState} (h : AccessReduction host now state reduced) :
    reduced.Le host now state := by
  cases h with
  | denyAdded deny effect listed =>
    refine AccessState.le_of_overrides ⟨fun override hmem hgrant _ => ?_, fun override hmem _ _ => ?_⟩
    · rw [listed]
      simp only [List.mem_append, List.mem_cons] at hmem ⊢
      rcases hmem with hmem | rfl | hmem
      · exact .inl hmem
      · rw [effect] at hgrant
        cases hgrant
      · exact .inr hmem
    · rw [listed] at hmem
      simp only [List.mem_append, List.mem_cons] at hmem ⊢
      exact hmem.imp_right .inr
  | grantRemoved effect listed =>
    refine AccessState.le_of_overrides ⟨fun override hmem _ _ => ?_, fun override hmem hdeny _ => ?_⟩
    · rw [listed]
      simp only [List.mem_append, List.mem_cons] at hmem ⊢
      exact hmem.imp_right .inr
    · rw [listed] at hmem
      simp only [List.mem_append, List.mem_cons] at hmem ⊢
      rcases hmem with hmem | rfl | hmem
      · exact .inl hmem
      · rw [effect] at hdeny
        cases hdeny
      · exact .inr hmem
  | grantExpired effect listed expiresAt expired =>
    refine AccessState.le_of_overrides
      ⟨fun override hmem _ hforce => ?_, fun override hmem hdeny _ => ?_⟩
    · rw [listed]
      simp only [List.mem_append, List.mem_cons] at hmem ⊢
      rcases hmem with hmem | rfl | hmem
      · exact .inl hmem
      · rw [isExpired, Option.any_some, expired] at hforce
        cases hforce
      · exact .inr (.inr hmem)
    · rw [listed] at hmem
      simp only [List.mem_append, List.mem_cons] at hmem ⊢
      rcases hmem with hmem | rfl | hmem
      · exact .inl hmem
      · rw [effect] at hdeny
        cases hdeny
      · exact .inr (.inr hmem)
  | assignmentRemoved listed =>
    refine AccessState.le_of_assignments fun assignment hmem _ => ?_
    rw [listed]
    simp only [List.mem_append, List.mem_cons] at hmem ⊢
    exact hmem.imp_right .inr
  | assignmentExpired listed expiresAt expired =>
    refine AccessState.le_of_assignments fun assignment hmem hforce => ?_
    rw [listed]
    simp only [List.mem_append, List.mem_cons] at hmem ⊢
    rcases hmem with hmem | rfl | hmem
    · exact .inl hmem
    · rw [isExpired, Option.any_some, expired] at hforce
      cases hforce
    · exact .inr (.inr hmem)
  | membershipRemoved workspaceId userId =>
    exact AccessState.le_of_membership nofun
  | membershipEnded found status ended version =>
    refine AccessState.le_of_membership fun m hm => ?_
    obtain rfl := Option.some.inj hm
    exact ended
  | roleArchived listed archivedAt =>
    exact AccessState.le_of_roles (listed ▸ RolesLe.replace rfl rfl nofun (List.Subset.refl _))
  | permissionsRemoved listed permissionIds kept =>
    exact AccessState.le_of_roles (listed ▸ RolesLe.replace rfl rfl id kept)
  | keyRemoved apiKeyId =>
    exact AccessState.le_of_key nofun
  | keyRevoked found version =>
    refine AccessState.le_of_key fun lowerKey hkey hactive _ => ?_
    obtain rfl := Option.some.inj hkey
    cases hactive
  | keyExpired found expiresAt expired version =>
    refine AccessState.le_of_key fun lowerKey hkey _ hunexpired => ?_
    obtain rfl := Option.some.inj hkey
    rw [isExpired, Option.any_some, expired] at hunexpired
    cases hunexpired
  | keyPermissionsRemoved found permissionIds kept version =>
    refine AccessState.le_of_key fun lowerKey hkey hactive hunexpired => ?_
    obtain rfl := Option.some.inj hkey
    exact ⟨_, found, rfl, rfl, rfl, id, hactive, hunexpired, kept, fun _ => id⟩
  | keyEventsNarrowed found eventIds bound kept version =>
    refine AccessState.le_of_key fun lowerKey hkey hactive hunexpired => ?_
    obtain rfl := Option.some.inj hkey
    refine ⟨_, found, rfl, rfl, rfl, id, hactive, hunexpired, List.Subset.refl _, ?_⟩
    rintro scope (hnone | ⟨eventId, hscope, hmem⟩)
    · exact absurd hnone bound
    · exact kept.imp id fun hsub => ⟨eventId, hscope, hsub hmem⟩

theorem AccessState.le_of_reductions {reduced : AccessState}
    (h : Relation.ReflTransGen (AccessReduction host now) state reduced) :
    reduced.Le host now state := by
  induction h with
  | refl => exact .refl state
  | tail _ hstep ih => exact hstep.le.trans ih

end

/-! ## Keys and owners -/

/-- The request of an operator's session for the same policy in the same scope. -/
def CurrentAuthorityResolutionInput.asOperator (input : CurrentAuthorityResolutionInput)
    (handle : String) (effect : OperationEffect) : CurrentAuthorityResolutionInput :=
  { input with
    effect, evidence := .operator handle
    lane := { kind := .operator, surface := .operatorHttp, policy := input.lane.policy } }

section

variable {ports : AuthorityPorts} {state : AccessState} {input : CurrentAuthorityResolutionInput}
variable {requirement : ResolvedPermissionRequirement} {key : ApiKeyRecord}
variable {resolveSession : String → Instant → CurrentOperatorSessionResolution}
variable {handle : String} {session : OperatorSession}

theorem ExternalAgentAdmits.asOperator (effect : OperationEffect)
    (h : ExternalAgentAdmits host ports state input requirement key)
    (hsession : CurrentSession host resolveSession handle key.ownerUserId input.evaluatedAt
      session) :
    OperatorAdmits host ports state resolveSession (input.asOperator handle effect) requirement
      handle session where
  lane := by
    have hlane := h.lane
    simp only [parseOperationAccessLane, bind_eq_ok, require_eq_ok, pure_eq_ok] at hlane
    obtain ⟨-, -, -, hpolicy, -⟩ := hlane
    simp only [CurrentAuthorityResolutionInput.asOperator, parseOperationAccessLane, bind_eq_ok,
      pure_eq_ok]
    exact ⟨(), rfl, (), require_eq_ok.mpr hpolicy, trivial⟩
  evidence := rfl
  workspace := h.workspace
  required := h.required
  resolved := hsession.resolved
  unexpired := hsession.unexpired
  related := hsession.owner.symm ▸ h.related
  met := hsession.owner.symm ▸ h.met.mono fun _ hgranted => hgranted.2

theorem ExternalAgentHolds.operator_iff {authority : CurrentResolvedAuthority}
    (effect : OperationEffect)
    (h : ExternalAgentHolds host ports state input requirement key authority)
    (hsession : CurrentSession host resolveSession handle key.ownerUserId input.evaluatedAt
      session) :
    (∃ operator, resolveOperatorCurrentAuthority host ports state resolveSession
        (input.asOperator handle effect) = .ok operator ∧
      OperatorHolds host ports state (input.asOperator handle effect) requirement key.ownerUserId
        operator) ↔
      CitationsBounded host ports state input.scope input.evaluatedAt requirement
        key.ownerUserId := by
  have hadmits := h.admits.asOperator effect hsession
  obtain ⟨membership, version, membershipId, hmember, hversion, hsafe, hmembershipId, hbounded⟩ :=
    h.member
  obtain howner := hsession.owner
  constructor
  · rintro ⟨operator, hok, -⟩
    exact howner ▸ (hadmits.holds_of_ok hok).2
  · intro hcited
    rw [← howner] at hmember hcited
    obtain ⟨operator, hok⟩ := hadmits.exists_ok (howner.symm ▸ hsession) hmember hversion hsafe
      hmembershipId hbounded hcited
    exact ⟨operator, hok, howner ▸ (hadmits.holds_of_ok hok).1⟩

theorem external_agent_antitone {reduced : AccessState} {authority : CurrentResolvedAuthority}
    (hreduced : Relation.ReflTransGen (AccessReduction host input.evaluatedAt.val) state reduced)
    (hok : resolveExternalAgentAuthority host ports reduced input = .ok authority) :
    ¬ Denies (resolveExternalAgentAuthority host ports state input) := by
  obtain ⟨requirement, key, hholds⟩ := externalAgentHolds_of_ok hok
  obtain ⟨upperKey, hadmits⟩ := hholds.admits.mono (AccessState.le_of_reductions hreduced)
  exact hadmits.not_denies

theorem operator_antitone {reduced : AccessState} {authority : CurrentResolvedAuthority}
    (hreduced : Relation.ReflTransGen (AccessReduction host input.evaluatedAt.val) state reduced)
    (hok : resolveOperatorCurrentAuthority host ports reduced resolveSession input =
      .ok authority) :
    ¬ Denies (resolveOperatorCurrentAuthority host ports state resolveSession input) := by
  obtain ⟨requirement, handle, session, hadmits⟩ := operatorAdmits_of_ok hok
  exact (hadmits.mono (AccessState.le_of_reductions hreduced)).not_denies

end

/-- A key acts only as its owner's session could : it is current, of the workspace and of the
scope's event, each of its grants is one of its permissions that the owner is allowed there,
and for the same policy and scope the owner's session is not denied and is authorized exactly
where the evidence it cites is bounded. And less authority never turns a denial of either
resolver into an authorization. -/
theorem api_key_never_exceeds_owner :
    (∀ (host : AccessHost) (ports : AuthorityPorts) (state : AccessState)
        (input : CurrentAuthorityResolutionInput) (authority : CurrentResolvedAuthority),
      resolveExternalAgentAuthority host ports state input = .ok authority →
      ∃ key requirement,
        (∃ handle clientKey, externalCredential input.lane input.evidence =
          some (handle, clientKey) ∧ state.presentedKey handle = some key) ∧
        resolveOperatorAuthorityPermissionRequirement ports.policies input.lane.policy
          input.scope = some requirement ∧
        key.Current host ports input.evaluatedAt ∧
        (key.eventIds ≠ [] → ∃ eventId ∈ input.scope.eventId, eventId ∈ key.eventIds) ∧
        (∀ grant ∈ authority.grants, grant.key ∈ key.permissionIds ∧
          state.Allows host ports.workspaceId key.ownerUserId input.scope input.evaluatedAt
            grant.key) ∧
        ∀ resolveSession handle session effect,
          CurrentSession host resolveSession handle key.ownerUserId input.evaluatedAt session →
          ¬ Denies (resolveOperatorCurrentAuthority host ports state resolveSession
            (input.asOperator handle effect)) ∧
          ((∃ operator, resolveOperatorCurrentAuthority host ports state resolveSession
              (input.asOperator handle effect) = .ok operator ∧
            OperatorHolds host ports state (input.asOperator handle effect) requirement
              key.ownerUserId operator) ↔
            CitationsBounded host ports state input.scope input.evaluatedAt requirement
              key.ownerUserId)) ∧
    (∀ (host : AccessHost) (ports : AuthorityPorts) (state reduced : AccessState)
        (input : CurrentAuthorityResolutionInput),
      Relation.ReflTransGen (AccessReduction host input.evaluatedAt.val) state reduced →
      (Denies (resolveExternalAgentAuthority host ports state input) →
        ∀ authority, resolveExternalAgentAuthority host ports reduced input ≠ .ok authority) ∧
      ∀ resolveSession,
        Denies (resolveOperatorCurrentAuthority host ports state resolveSession input) →
        ∀ authority, resolveOperatorCurrentAuthority host ports reduced resolveSession input ≠
          .ok authority) := by
  refine ⟨fun host ports state input authority hok => ?_,
    fun host ports state reduced input hreduced => ⟨fun hdenied authority hok => ?_,
      fun resolveSession hdenied authority hok => ?_⟩⟩
  · obtain ⟨requirement, key, hholds⟩ := externalAgentHolds_of_ok hok
    have hadmits := hholds.admits
    obtain ⟨handle, hcredential, hpresented⟩ := hadmits.presented
    refine ⟨key, requirement, ⟨handle, _, hcredential, hpresented⟩, hadmits.required,
      hadmits.current, fun hbound => hadmits.covers.resolve_left hbound, fun grant hgrant => ?_,
      fun resolveSession handle session effect hsession =>
        ⟨(hadmits.asOperator effect hsession).not_denies, hholds.operator_iff effect hsession⟩⟩
    rw [hholds.grants, List.mem_map] at hgrant
    obtain ⟨permissionId, hmem, rfl⟩ := hgrant
    simpa [AccessState.Allows] using (List.mem_filter.mp hmem).2
  · exact external_agent_antitone hreduced hok hdenied
  · exact operator_antitone hreduced hok hdenied

namespace ReaderKeyExample

def workspaceId : ApplicationId := .ofNat 0
def ownerId : ApplicationId := .ofNat 1
def keyId : ApplicationId := .ofNat 2
def eventId : ApplicationId := .ofNat 3
def policy : VersionedAccessPolicyRef := { key := "submission.read", version := 1 }

/-- A host that reads the two instants of the example. -/
def clockHost : AccessHost where
  nfkc := id
  toLowerCase := id
  dateParse := fun s =>
    if s = (Instant.yearStart 2026).val then some 1767225600000
    else if s = (Instant.yearStart 2027).val then some 1798761600000
    else none

/-- A workspace where reading submissions is one permission, with the relationship evidence. -/
def ports (evidenceIds : List String) : AuthorityPorts where
  workspaceId
  policies :=
    { policies := [{ policy, permission := .fixed .submissionRead }]
      unique := by decide
      valid := by simp [OperatorAuthorityPermissionRule.isValid] }
  validateRelationships := fun _ _ _ => .valid evidenceIds

def key : ApiKeyRecord where
  apiKeyId := keyId
  workspaceId := workspaceId
  ownerUserId := ownerId
  mayRead := true
  permissionIds := [.submissionRead]
  eventIds := [eventId]
  expiresAt := none
  standing := .active
  version := 1

/-- The owner is a member with the role of a reader. -/
def state : AccessState where
  findMembership := fun _ _ => some
    { id := (ApplicationId.ofNat 4).val, workspaceId := workspaceId.val, userId := ownerId.val,
      status := .active, version := some 1 }
  listRoles := fun _ =>
    [{ id := "reader", workspaceId := workspaceId.val, name := "Reader",
       permissionIds := [.submissionRead], archivedAt := none }]
  listAssignments := fun _ _ =>
    [{ id := "assignment", userId := ownerId.val, roleId := "reader",
       scope := .workspace workspaceId.val, expiresAt := none }]
  listOverrides := fun _ _ => []
  getKey := fun id => if id = keyId then some key else none

def input : CurrentAuthorityResolutionInput where
  effect := .read
  evidence := .externalMcp keyId.val ("api-key:" ++ keyId.val)
  lane := { kind := .externalMcp, surface := .externalMcp, policy }
  scope := { workspaceId, eventId := some eventId, subjects := [], resolutionEvidenceIds := [] }
  evaluatedAt := .yearStart 2026

def session : OperatorSession where
  sessionId := "session"
  authUserId := "auth-user"
  userId := ownerId
  expiresAt := .yearStart 2027
  evidenceIds := []

def override (effect : OverrideEffect) : PermissionOverride where
  id := "override"
  userId := ownerId.val
  permissionId := .submissionRead
  effect := effect
  scope := .workspace workspaceId.val
  reason := "Agreed"
  expiresAt := none

/-- The reader is granted the permission once more, and denied it. -/
def denied : AccessState :=
  { state with listOverrides := fun _ _ => [override .grant, override .deny] }

def withoutGrant : AccessState :=
  { denied with
    listOverrides := withEntry denied.listOverrides workspaceId ownerId [override .deny] }

/-- The grant is removed, and then the role is archived. -/
def reduced : AccessState :=
  { withoutGrant with
    listRoles := Function.update denied.listRoles workspaceId
      [{ id := "reader", workspaceId := workspaceId.val, name := "Reader"
         permissionIds := [.submissionRead], archivedAt := some (Instant.yearStart 2026).val }] }

theorem reductions : Relation.ReflTransGen (AccessReduction clockHost input.evaluatedAt.val) denied
    reduced := by
  have hremoved : AccessReduction clockHost input.evaluatedAt.val denied withoutGrant :=
    @AccessReduction.grantRemoved _ _ denied workspaceId ownerId [] [override .deny]
      (override .grant) rfl rfl
  have harchived : AccessReduction clockHost input.evaluatedAt.val withoutGrant reduced :=
    @AccessReduction.roleArchived _ _ withoutGrant workspaceId [] [] _ rfl _
  exact (Relation.ReflTransGen.single hremoved).tail harchived

theorem outcomes :
    (resolveExternalAgentAuthority clockHost (ports []) state input).toBool = true ∧
      state.presentedKey keyId.val = some key ∧
      resolveExternalAgentAuthority clockHost (ports []) denied input =
        .error (.denied .notAuthorized) ∧
      resolveOperatorCurrentAuthority clockHost (ports []) denied
        (fun _ _ => .current session) (input.asOperator "session" .read) =
          .error (.denied .notAuthorized) ∧
      (resolveExternalAgentAuthority clockHost (ports [""]) state input).toBool = true ∧
      (resolveOperatorCurrentAuthority clockHost (ports [""]) state
        (fun _ _ => .current session) (input.asOperator "session" .read)).toBool = false := by
  decide +kernel

theorem currentSession :
    CurrentSession clockHost (fun _ _ => .current session) "session" ownerId input.evaluatedAt
      session where
  resolved := rfl
  sessionId := rfl
  handle := by decide
  authUser := by decide
  evidence := nofun
  owner := rfl
  unexpired := by decide +kernel

end ReaderKeyExample

open ReaderKeyExample in
/-- The key of a reader authorizes, and so does its owner's session. Where an override denies the
owner the permission both are denied, and neither authorizes once a grant is removed and the role
archived. -/
theorem api_key_never_exceeds_owner_reader :
    (∃ authority, resolveExternalAgentAuthority clockHost (ports []) state input = .ok authority) ∧
      ¬ Denies (resolveOperatorCurrentAuthority clockHost (ports []) state
        (fun _ _ => .current session) (input.asOperator "session" .read)) ∧
      Denies (resolveExternalAgentAuthority clockHost (ports []) denied input) ∧
      Denies (resolveOperatorCurrentAuthority clockHost (ports []) denied
        (fun _ _ => .current session) (input.asOperator "session" .read)) ∧
      ∀ authority, resolveExternalAgentAuthority clockHost (ports []) reduced input ≠ .ok authority ∧
        resolveOperatorCurrentAuthority clockHost (ports []) reduced
          (fun _ _ => .current session) (input.asOperator "session" .read) ≠ .ok authority := by
  obtain ⟨hkey, hpresented, hexternal, hsession, -⟩ := outcomes
  obtain ⟨authority, hok⟩ := exists_of_toBool hkey
  refine ⟨⟨authority, hok⟩, ?_, ⟨_, hexternal⟩, ⟨_, hsession⟩, fun authority => ⟨?_, ?_⟩⟩
  · obtain ⟨found, requirement, ⟨handle, clientKey, hcredential, hfound⟩, -, -, -, -, hoperator⟩ :=
      api_key_never_exceeds_owner.1 clockHost (ports []) state input authority hok
    obtain ⟨rfl, -⟩ := Prod.mk.inj (Option.some.inj hcredential)
    obtain rfl : key = found := Option.some.inj (hpresented.symm.trans hfound)
    exact (hoperator _ "session" session .read currentSession).1
  · exact (api_key_never_exceeds_owner.2 clockHost (ports []) denied reduced input reductions).1
      ⟨_, hexternal⟩ authority
  · exact (api_key_never_exceeds_owner.2 clockHost (ports []) denied reduced
      (input.asOperator "session" .read) reductions).2 (fun _ _ => .current session) ⟨_, hsession⟩
      authority

open ReaderKeyExample in
/-- Where the relationship answer cites an empty identity, the key authorizes and the session of
its owner does not. -/
theorem empty_relationship_evidence_stops_owner :
    (∃ authority, resolveExternalAgentAuthority clockHost (ports [""]) state input =
        .ok authority) ∧
      CurrentSession clockHost (fun _ _ => .current session) "session" key.ownerUserId
        input.evaluatedAt session ∧
      ∀ operator, resolveOperatorCurrentAuthority clockHost (ports [""]) state
        (fun _ _ => .current session) (input.asOperator "session" .read) ≠ .ok operator := by
  obtain ⟨-, -, -, -, hkey, hsession⟩ := outcomes
  refine ⟨exists_of_toBool hkey, currentSession, fun operator hok => ?_⟩
  rw [hok] at hsession
  cases hsession

end JooEvents
