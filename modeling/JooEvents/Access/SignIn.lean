import JooEvents.Access.Identity

/-!
# Sign-in plans

`planSignIn` turns the claims of a login provider and what the store knows of the person
into the mutations of one transaction. What a plan may do is stated once for all plans
(`SignInPlan.Admits`) : it activates a membership together with the consumption of one
usable reservation and grants what the reservation says, or does none of the three; it
creates a user only for a verified email that is nobody's; and it links an external
identity only to the user it creates (`admits_planSignIn`).
-/

namespace JooEvents

structure ExternalIdentityLink where
  id : String
  userId : String

structure ProviderAvatarCandidate where
  provider : String
  url : String
  observedAt : String
  sourceFingerprint : Option String

/-- Claims that the provider's adapter has verified. -/
structure ExternalIdentityClaims where
  provider : String
  issuer : String
  subject : String
  email : Option String
  emailVerified : Bool
  displayName : Option String
  hostedDomain : Option String
  avatar : Option ProviderAvatarCandidate

inductive ReservedAccessScope where
  | workspace
  | event (eventId : String)

structure ReservedRoleAssignment where
  roleId : String
  scope : ReservedAccessScope

structure ReservedPermissionOverride where
  permissionId : String
  effect : OverrideEffect
  scope : ReservedAccessScope
  reason : String

inductive ReservationStatus where
  | open
  | consumed
  | revoked
  | expired
  deriving DecidableEq

/-- What an administrator intends for the person who signs in with an email. -/
structure AccessReservation where
  id : String
  workspaceId : String
  normalizedEmail : String
  roleAssignments : List ReservedRoleAssignment
  permissionOverrides : List ReservedPermissionOverride
  status : ReservationStatus
  expiresAt : Option String

inductive UserReference where
  | existing (userId : String)
  | new

/-- Whether a new user or membership is active at once. -/
inductive AdmissionStatus where
  | active
  | pendingReview

inductive SignInMutation where
  | createUser (displayName : String) (status : AdmissionStatus)
  | activateUser (userId : String)
  | addVerifiedEmail (user : UserReference) (email : String)
  | linkExternalIdentity (user : UserReference) (claims : ExternalIdentityClaims)
  | refreshExternalIdentitySnapshot (identityLinkId : String) (claims : ExternalIdentityClaims)
  | createMembership (user : UserReference) (workspaceId : String) (status : AdmissionStatus)
  | activateMembership (membershipId : String) (reservationId : String)
  | assignReservedRoles (user : UserReference) (roleAssignments : List ReservedRoleAssignment)
  | applyReservedPermissionOverrides (user : UserReference)
      (permissionOverrides : List ReservedPermissionOverride)
  | consumeAccessReservation (reservationId : String) (user : UserReference)
  | requestAvatarImport (user : UserReference) (candidate : ProviderAvatarCandidate)
  | exposeActiveAccessContext (user : UserReference) (workspaceId : String)
  | exposePendingReviewAccessContext (user : UserReference) (workspaceId : String)
  | writeAuditEvent (eventType : String) (user : UserReference)

inductive SignInResult where
  | signedIn
  | awaitingApproval
  | confirmationRequired
  | rejected

inductive SignInCode where
  | activeMember
  | newPreapprovedMember
  | existingPreapprovedMember
  | newMemberPendingReview
  | existingMemberPendingReview
  | explicitLinkRequired
  | emailNotVerified
  | userInactive
  | membershipInactive
  deriving DecidableEq

inductive NoticeSeverity where
  | info
  | warning

structure OperationalNotice where
  code : String
  severity : NoticeSeverity
  message : String

structure SignInPlan where
  result : SignInResult
  code : SignInCode
  message : String
  mutations : List SignInMutation
  notices : List OperationalNotice

/-- What the store knows of the person who signs in. -/
structure SignInEvidence where
  identityLink : Option ExternalIdentityLink
  linkedUser : Option User
  linkedMembership : Option WorkspaceMembership
  /-- The user who has the verified email without this identity. -/
  sameEmailUser : Option User
  reservation : Option AccessReservation

/-! ## Planning -/

def ExternalIdentityClaims.verifiedEmail (claims : ExternalIdentityClaims) : Option String :=
  claims.email.filter fun email => email ≠ "" && claims.emailVerified

def reservationIsUsable (host : AccessHost) (reservation : AccessReservation)
    (normalizedEmail workspaceId now : String) : Bool :=
  reservation.workspaceId = workspaceId && reservation.normalizedEmail = normalizedEmail &&
    reservation.status = .open &&
    match reservation.expiresAt with
    | none => true
    | some expiresAt => host.later expiresAt now

/-- The reservation, if it is usable for the normalized verified email of the claims. -/
def usableReservation (host : AccessHost) (workspaceId now : String)
    (claims : ExternalIdentityClaims) (reservation : Option AccessReservation) :
    Option AccessReservation :=
  claims.verifiedEmail.bind fun email =>
    reservation.filter fun r =>
      reservationIsUsable host r (host.normalizeEmail email) workspaceId now

def displayNameFromClaims (claims : ExternalIdentityClaims) : String :=
  match claims.displayName, claims.email with
  | some displayName, _ => displayName
  | none, some email => String.ofList (email.toList.takeWhile fun c => c ≠ '@')
  | none, none => "New user"

def externalIdentityKey (claims : ExternalIdentityClaims) : String :=
  claims.provider ++ String.singleton (Char.ofNat 0x1F) ++ claims.issuer ++
    String.singleton (Char.ofNat 0x1F) ++ claims.subject

def avatarMutation (claims : ExternalIdentityClaims) (user : UserReference) :
    List SignInMutation :=
  match claims.avatar with
  | some candidate => [.requestAvatarImport user candidate]
  | none => []

def reservedAccessMutations (reservation : AccessReservation) (user : UserReference) :
    List SignInMutation :=
  (if reservation.roleAssignments = [] then []
    else [.assignReservedRoles user reservation.roleAssignments]) ++
  (if reservation.permissionOverrides = [] then []
    else [.applyReservedPermissionOverrides user reservation.permissionOverrides])

def rejectedPlan (code : SignInCode) (message : String) : SignInPlan :=
  ⟨.rejected, code, message, [], []⟩

def activeMemberPlan (workspaceId : String) (claims : ExternalIdentityClaims)
    (link : ExternalIdentityLink) (user : User) : SignInPlan where
  result := .signedIn
  code := .activeMember
  message := "The verified external identity belongs to an active workspace member."
  mutations :=
    [.refreshExternalIdentitySnapshot link.id claims] ++ avatarMutation claims (.existing user.id) ++
      [.exposeActiveAccessContext (.existing user.id) workspaceId,
        .writeAuditEvent "auth.sign_in.succeeded" (.existing user.id)]
  notices := []

/-- The plan that admits an existing user through a reservation. -/
def existingPreapprovedPlan (workspaceId : String) (claims : ExternalIdentityClaims)
    (link : ExternalIdentityLink) (user : User) (membership : Option WorkspaceMembership)
    (reservation : AccessReservation) : SignInPlan where
  result := .signedIn
  code := .existingPreapprovedMember
  message := "The verified email matches an open reservation, so the existing user is admitted " ++
    "to this workspace."
  mutations :=
    [.refreshExternalIdentitySnapshot link.id claims] ++
      (if user.status = .pendingReview then [.activateUser user.id] else []) ++
      (match membership with
        | none => [.createMembership (.existing user.id) workspaceId .active]
        | some membership => [.activateMembership membership.id reservation.id]) ++
      reservedAccessMutations reservation (.existing user.id) ++
      [.consumeAccessReservation reservation.id (.existing user.id)] ++
      avatarMutation claims (.existing user.id) ++
      [.exposeActiveAccessContext (.existing user.id) workspaceId,
        .writeAuditEvent "auth.preapproved_existing_user_joined" (.existing user.id)]
  notices := []

/-- The plan for an existing user who waits for approval. -/
def existingPendingPlan (workspaceId : String) (claims : ExternalIdentityClaims)
    (link : ExternalIdentityLink) (user : User) (membership : Option WorkspaceMembership) :
    SignInPlan where
  result := .awaitingApproval
  code := .existingMemberPendingReview
  message := "Identity is verified, but workspace admission still needs administrator approval."
  mutations :=
    [.refreshExternalIdentitySnapshot link.id claims] ++ avatarMutation claims (.existing user.id) ++
      (match membership with
        | none => [.createMembership (.existing user.id) workspaceId .pendingReview]
        | some _ => []) ++
      [.exposePendingReviewAccessContext (.existing user.id) workspaceId,
        .writeAuditEvent "auth.sign_in.awaiting_approval" (.existing user.id)]
  notices := []

/-- The plan that creates a user, admitted through a reservation. -/
def newPreapprovedPlan (workspaceId email : String) (claims : ExternalIdentityClaims)
    (reservation : AccessReservation) : SignInPlan where
  result := .signedIn
  code := .newPreapprovedMember
  message := "The verified email matches an open access reservation, so workspace access is " ++
    "active immediately."
  mutations :=
    [.createUser (displayNameFromClaims claims) .active, .addVerifiedEmail .new email,
      .linkExternalIdentity .new claims] ++ avatarMutation claims .new ++
      [.createMembership .new workspaceId .active] ++ reservedAccessMutations reservation .new ++
      [.consumeAccessReservation reservation.id .new, .exposeActiveAccessContext .new workspaceId,
        .writeAuditEvent "auth.preapproved_user_joined" .new]
  notices := []

/-- The plan that creates a user who waits for approval. -/
def newPendingPlan (workspaceId email : String) (claims : ExternalIdentityClaims) :
    SignInPlan where
  result := .awaitingApproval
  code := .newMemberPendingReview
  message := "The account was recorded, but it can only see the review screen until an " ++
    "administrator approves it."
  mutations :=
    [.createUser (displayNameFromClaims claims) .pendingReview, .addVerifiedEmail .new email,
      .linkExternalIdentity .new claims] ++ avatarMutation claims .new ++
      [.createMembership .new workspaceId .pendingReview,
        .exposePendingReviewAccessContext .new workspaceId,
        .writeAuditEvent "auth.user_requested_access" .new]
  notices := []

def awaitsAdmission : Option WorkspaceMembership → Bool
  | none => true
  | some membership => membership.status = .invited || membership.status = .pendingReview

/-- `planSignIn` for an identity that is linked to a user. -/
def planLinkedSignIn (host : AccessHost) (workspaceId now : String)
    (claims : ExternalIdentityClaims) (evidence : SignInEvidence) (link : ExternalIdentityLink) :
    SignInPlan :=
  match evidence.linkedUser with
  | none =>
    rejectedPlan .userInactive "The external identity link does not resolve to an available user."
  | some user =>
    if link.userId ≠ user.id then
      rejectedPlan .userInactive
        "The external identity link does not resolve to an available user."
    else if user.status = .suspended || user.status = .deactivated then
      rejectedPlan .userInactive ("This account is " ++ user.status.text ++ "; no session was issued.")
    else if evidence.linkedMembership.any fun m => m.status = .active then
      activeMemberPlan workspaceId claims link user
    else if awaitsAdmission evidence.linkedMembership then
      match usableReservation host workspaceId now claims evidence.reservation with
      | some reservation =>
        existingPreapprovedPlan workspaceId claims link user evidence.linkedMembership reservation
      | none => existingPendingPlan workspaceId claims link user evidence.linkedMembership
    else
      rejectedPlan .membershipInactive ("Workspace membership is " ++
        (evidence.linkedMembership.map fun m => m.status.text).getD "" ++ "; no session was issued.")

def planSignIn (host : AccessHost) (workspaceId now : String) (claims : ExternalIdentityClaims)
    (evidence : SignInEvidence) : SignInPlan :=
  match evidence.identityLink with
  | some link => planLinkedSignIn host workspaceId now claims evidence link
  | none =>
    match claims.verifiedEmail with
    | none =>
      rejectedPlan .emailNotVerified
        "A new JooEvents account requires a verified email from the login provider."
    | some email =>
      if evidence.sameEmailUser.isSome then
        { result := .confirmationRequired
          code := .explicitLinkRequired
          message := "This verified email already belongs to a user, but this provider identity " ++
            "is not linked."
          mutations := []
          notices := [{
            code := "implicit_email_link_blocked"
            severity := .warning
            message := "No account was linked from email alone. Confirm while signed in to the " ++
              "existing account. Identity key: " ++ externalIdentityKey claims }] }
      else
        match usableReservation host workspaceId now claims evidence.reservation with
        | some reservation => newPreapprovedPlan workspaceId email claims reservation
        | none => newPendingPlan workspaceId email claims

/-! ## What a plan does -/

namespace SignInMutation

def activates : SignInMutation → Bool
  | .createMembership _ _ .active => true
  | .activateMembership _ _ => true
  | _ => false

def consumes : SignInMutation → Option String
  | .consumeAccessReservation reservationId _ => some reservationId
  | _ => none

def roles : SignInMutation → List ReservedRoleAssignment
  | .assignReservedRoles _ roleAssignments => roleAssignments
  | _ => []

def overrides : SignInMutation → List ReservedPermissionOverride
  | .applyReservedPermissionOverrides _ permissionOverrides => permissionOverrides
  | _ => []

def creates : SignInMutation → Bool
  | .createUser _ _ => true
  | _ => false

end SignInMutation

def activations (mutations : List SignInMutation) : List SignInMutation :=
  mutations.filter SignInMutation.activates

def consumptions (mutations : List SignInMutation) : List String :=
  mutations.filterMap SignInMutation.consumes

def grantedRoles (mutations : List SignInMutation) : List ReservedRoleAssignment :=
  mutations.flatMap SignInMutation.roles

def grantedOverrides (mutations : List SignInMutation) : List ReservedPermissionOverride :=
  mutations.flatMap SignInMutation.overrides

def createsUser (mutations : List SignInMutation) : Bool :=
  mutations.any SignInMutation.creates

/-- Access is given through the reservation : one membership is made active, the reservation
is consumed, and what it says is granted. -/
structure GrantsReservation (mutations : List SignInMutation) (reservation : AccessReservation) :
    Prop where
  activated : (activations mutations).length = 1
  consumed : consumptions mutations = [reservation.id]
  roles : grantedRoles mutations = reservation.roleAssignments
  overrides : grantedOverrides mutations = reservation.permissionOverrides

/-- No access is given and no reservation is consumed. -/
structure GrantsNothing (mutations : List SignInMutation) : Prop where
  activated : activations mutations = []
  consumed : consumptions mutations = []
  roles : grantedRoles mutations = []
  overrides : grantedOverrides mutations = []

/-- A person without an account : the verified email is no user's. -/
structure NewPerson (claims : ExternalIdentityClaims) (evidence : SignInEvidence) : Prop where
  verified : claims.verifiedEmail.isSome = true
  unlinked : evidence.identityLink = none
  unclaimed : evidence.sameEmailUser = none

/-- A user is created only for a verified email that no other user has, memberships become
active only through one usable reservation, and identities are linked only to the user that
is created. -/
structure SignInPlan.Admits (host : AccessHost) (workspaceId now : String)
    (claims : ExternalIdentityClaims) (evidence : SignInEvidence) (plan : SignInPlan) : Prop where
  memberships : GrantsNothing plan.mutations ∨
    ∃ reservation, usableReservation host workspaceId now claims evidence.reservation =
      some reservation ∧ GrantsReservation plan.mutations reservation
  created : createsUser plan.mutations = true → NewPerson claims evidence
  linked : ∀ user linkedClaims, .linkExternalIdentity user linkedClaims ∈ plan.mutations →
    user = .new ∧ linkedClaims = claims ∧ createsUser plan.mutations = true

section

variable {m : SignInMutation} {ms ns : List SignInMutation}

@[simp] theorem activations_nil : activations [] = [] := rfl

@[simp] theorem activations_cons :
    activations (m :: ms) = (if m.activates then [m] else []) ++ activations ms := by
  cases h : m.activates <;> simp [activations, h]

@[simp] theorem activations_append : activations (ms ++ ns) = activations ms ++ activations ns :=
  List.filter_append ms ns

@[simp] theorem consumptions_nil : consumptions [] = [] := rfl

@[simp] theorem consumptions_cons :
    consumptions (m :: ms) = m.consumes.toList ++ consumptions ms := by
  cases h : m.consumes <;> simp [consumptions, h]

@[simp] theorem consumptions_append :
    consumptions (ms ++ ns) = consumptions ms ++ consumptions ns :=
  List.filterMap_append

@[simp] theorem grantedRoles_nil : grantedRoles [] = [] := rfl

@[simp] theorem grantedRoles_cons : grantedRoles (m :: ms) = m.roles ++ grantedRoles ms := rfl

@[simp] theorem grantedRoles_append :
    grantedRoles (ms ++ ns) = grantedRoles ms ++ grantedRoles ns :=
  List.flatMap_append

@[simp] theorem grantedOverrides_nil : grantedOverrides [] = [] := rfl

@[simp] theorem grantedOverrides_cons :
    grantedOverrides (m :: ms) = m.overrides ++ grantedOverrides ms := rfl

@[simp] theorem grantedOverrides_append :
    grantedOverrides (ms ++ ns) = grantedOverrides ms ++ grantedOverrides ns :=
  List.flatMap_append

@[simp] theorem createsUser_nil : createsUser [] = false := rfl

@[simp] theorem createsUser_cons : createsUser (m :: ms) = (m.creates || createsUser ms) := rfl

@[simp] theorem createsUser_append : createsUser (ms ++ ns) = (createsUser ms || createsUser ns) :=
  List.any_append

end

section

open SignInMutation

variable {host : AccessHost} {workspaceId now email : String} {claims : ExternalIdentityClaims}
  {evidence : SignInEvidence} {user : UserReference} {reservation : AccessReservation}
  {link : ExternalIdentityLink} {person : User} {membership : Option WorkspaceMembership}

@[simp] theorem avatarMutation_grants :
    activations (avatarMutation claims user) = [] ∧ consumptions (avatarMutation claims user) = [] ∧
      grantedRoles (avatarMutation claims user) = [] ∧
      grantedOverrides (avatarMutation claims user) = [] ∧
      createsUser (avatarMutation claims user) = false := by
  unfold avatarMutation
  cases claims.avatar <;> exact ⟨rfl, rfl, rfl, rfl, rfl⟩

@[simp] theorem linkExternalIdentity_notMem_avatarMutation {user' : UserReference}
    {claims' : ExternalIdentityClaims} :
    SignInMutation.linkExternalIdentity user' claims' ∉ avatarMutation claims user := by
  unfold avatarMutation
  cases claims.avatar <;> simp

@[simp] theorem reservedAccessMutations_grants :
    activations (reservedAccessMutations reservation user) = [] ∧
      consumptions (reservedAccessMutations reservation user) = [] ∧
      grantedRoles (reservedAccessMutations reservation user) = reservation.roleAssignments ∧
      grantedOverrides (reservedAccessMutations reservation user) =
        reservation.permissionOverrides ∧
      createsUser (reservedAccessMutations reservation user) = false := by
  unfold reservedAccessMutations
  by_cases hroles : reservation.roleAssignments = [] <;>
    by_cases hoverrides : reservation.permissionOverrides = [] <;>
    simp [hroles, hoverrides, activates, consumes, roles, overrides, creates]

@[simp] theorem linkExternalIdentity_notMem_reservedAccessMutations {user' : UserReference}
    {claims' : ExternalIdentityClaims} :
    SignInMutation.linkExternalIdentity user' claims' ∉ reservedAccessMutations reservation user := by
  unfold reservedAccessMutations
  by_cases hroles : reservation.roleAssignments = [] <;>
    by_cases hoverrides : reservation.permissionOverrides = [] <;> simp [hroles, hoverrides]

attribute [local simp] activates consumes roles overrides creates

theorem admits_of_no_mutations {plan : SignInPlan} (h : plan.mutations = []) :
    plan.Admits host workspaceId now claims evidence where
  memberships := .inl (by rw [h]; exact ⟨rfl, rfl, rfl, rfl⟩)
  created := by simp [h]
  linked := by simp [h]

theorem admits_activeMemberPlan :
    (activeMemberPlan workspaceId claims link person).Admits host workspaceId now claims
      evidence where
  memberships := .inl (by
    constructor <;> simp [activeMemberPlan, activates, consumes, roles, overrides])
  created := by simp [activeMemberPlan, creates]
  linked := by simp [activeMemberPlan]

theorem admits_existingPendingPlan :
    (existingPendingPlan workspaceId claims link person membership).Admits host workspaceId now
      claims evidence where
  memberships := .inl (by
    constructor <;> cases membership <;>
      simp [existingPendingPlan, activates, consumes, roles, overrides])
  created := by cases membership <;> simp [existingPendingPlan, creates]
  linked := by cases membership <;> simp [existingPendingPlan]

theorem admits_existingPreapprovedPlan
    (h : usableReservation host workspaceId now claims evidence.reservation = some reservation) :
    (existingPreapprovedPlan workspaceId claims link person membership reservation).Admits host
      workspaceId now claims evidence where
  memberships := .inr ⟨reservation, h, by
    constructor <;> cases membership <;> by_cases hpending : person.status = .pendingReview <;>
      simp [existingPreapprovedPlan, hpending, activates, consumes, roles, overrides]⟩
  created := by
    cases membership <;> by_cases hpending : person.status = .pendingReview <;>
      simp [existingPreapprovedPlan, hpending, creates]
  linked := by
    cases membership <;> by_cases hpending : person.status = .pendingReview <;>
      simp [existingPreapprovedPlan, hpending]

theorem admits_newPreapprovedPlan (hnew : NewPerson claims evidence)
    (h : usableReservation host workspaceId now claims evidence.reservation = some reservation) :
    (newPreapprovedPlan workspaceId email claims reservation).Admits host workspaceId now claims
      evidence where
  memberships := .inr ⟨reservation, h, by
    constructor <;> simp [newPreapprovedPlan, activates, consumes, roles, overrides]⟩
  created := fun _ => hnew
  linked := by simp [newPreapprovedPlan, creates]

theorem admits_newPendingPlan (hnew : NewPerson claims evidence) :
    (newPendingPlan workspaceId email claims).Admits host workspaceId now claims evidence where
  memberships := .inl (by
    constructor <;> simp [newPendingPlan, activates, consumes, roles, overrides])
  created := fun _ => hnew
  linked := by simp [newPendingPlan, creates]

theorem planSignIn_of_newPerson {email : String} (hemail : claims.verifiedEmail = some email)
    (hlink : evidence.identityLink = none) (hsame : evidence.sameEmailUser = none) :
    planSignIn host workspaceId now claims evidence =
      match usableReservation host workspaceId now claims evidence.reservation with
      | some reservation => newPreapprovedPlan workspaceId email claims reservation
      | none => newPendingPlan workspaceId email claims := by
  simp only [planSignIn, hlink, hemail, hsame, Option.isSome_none, Bool.false_eq_true, if_false]

theorem admits_planLinkedSignIn :
    (planLinkedSignIn host workspaceId now claims evidence link).Admits host workspaceId now claims
      evidence := by
  unfold planLinkedSignIn
  split
  · exact admits_of_no_mutations rfl
  · split_ifs with hid hstatus hactive hawaits
    · exact admits_of_no_mutations rfl
    · exact admits_of_no_mutations rfl
    · exact admits_activeMemberPlan
    · split
      · exact admits_existingPreapprovedPlan ‹_›
      · exact admits_existingPendingPlan
    · exact admits_of_no_mutations rfl

theorem admits_planSignIn :
    (planSignIn host workspaceId now claims evidence).Admits host workspaceId now claims
      evidence := by
  cases hlink : evidence.identityLink with
  | some link =>
    simp only [planSignIn, hlink]
    exact admits_planLinkedSignIn
  | none =>
    cases hemail : claims.verifiedEmail with
    | none =>
      simp only [planSignIn, hlink, hemail]
      exact admits_of_no_mutations rfl
    | some email =>
      cases hsame : evidence.sameEmailUser with
      | some user =>
        simp only [planSignIn, hlink, hemail, hsame, Option.isSome_some, if_true]
        exact admits_of_no_mutations rfl
      | none =>
        have hnew : NewPerson claims evidence := ⟨by simp [hemail], hlink, hsame⟩
        rw [planSignIn_of_newPerson hemail hlink hsame]
        split
        · exact admits_newPreapprovedPlan hnew ‹_›
        · exact admits_newPendingPlan hnew

theorem code_planSignIn_of_unlinked (hlink : evidence.identityLink = none) :
    (planSignIn host workspaceId now claims evidence).code ≠ .existingPreapprovedMember := by
  simp only [planSignIn, hlink]
  split
  · exact nofun
  · split
    · exact nofun
    · split <;> exact nofun

end

end JooEvents
