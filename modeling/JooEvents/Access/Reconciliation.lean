import JooEvents.Access.SignIn
import JooEvents.Lib.Process

/-!
# Provisioning a principal at sign-in

`ensureAuthPrincipalProvisioned` as a process over its ports : the store, the provider's
claims and the gateway projection, each of which may answer anything or throw. A run
loads evidence at most once and commits at most the plan for that evidence
(`SignInRun`, `signInRun_of_runs`).

The admission policy is asked whether any reservation was found, the planner whether it is
usable : `sign_in_admits_iff` says what a run admits, and that it admits more exactly where
the two differ.
-/

namespace JooEvents

open Process (Runs runs_call_iff runs_done_iff runs_pure_iff runs_ofExcept_iff runs_bind
  runs_tryCatch)

/-! ## Records -/

structure SafeUser where
  id : String
  displayName : String
  primaryEmail : Option String
  avatarAssetId : Option String

structure SafeMembership where
  id : String
  workspaceId : String
  status : MembershipStatus
  version : ℕ

structure SafeWorkspace where
  id : String
  name : String

structure CommittedAccessState where
  user : SafeUser
  membership : SafeMembership
  workspace : SafeWorkspace

structure AdapterError where
  code : String
  message : String
  retryable : Bool

structure ConfirmationChoice where
  id : String
  label : String
  consequence : String

structure ConfirmationRequest where
  code : String
  prompt : String
  choices : List ConfirmationChoice
  defaultChoiceId : Option String

/-- An expected result of an adapter. -/
inductive AdapterOutcome (α : Type) where
  | success (data : α) (notices : List OperationalNotice)
  | needsConfirmation (proposed : Option α) (confirmation : ConfirmationRequest)
      (notices : List OperationalNotice)
  | error (error : AdapterError) (notices : List OperationalNotice)

inductive BlockedCode where
  | suspended
  | deactivated
  | notAdmitted

/-- What a person sees of the workspace. `P` is the gateway projection. -/
inductive AccessContext (P : Type) where
  | active (user : SafeUser) (workspace : SafeWorkspace) (gatewayAuthority : Option P)
  | pendingReview (user : SafeUser) (membership : SafeMembership) (workspace : SafeWorkspace)
  | blocked (code : BlockedCode)

inductive AuthUserProvisioningState where
  | pending
  | ready
  | failed
  deriving DecidableEq

structure AuthUserLink where
  provisioningState : AuthUserProvisioningState

def AuthUserLink.isReady (link : Option AuthUserLink) : Bool :=
  link.any fun link => link.provisioningState = .ready

inductive AdmissionMode where
  | pending
  | workspaceDomain
  | reservationOnly

structure AdmissionPolicy where
  mode : AdmissionMode
  hostedDomain : Option String

structure EnsureProvisionedInput where
  authUserId : String
  workspaceId : String
  correlationId : String
  now : String

inductive SignInCall where
  | findAuthUserLink (authUserId : String)
  | readCommittedAccess (authUserId workspaceId : String)
  | getVerifiedClaims (authUserId : String)
  | loadSignInEvidence (workspaceId : String) (claims : ExternalIdentityClaims)
  | commitSignInPlan (authUserId workspaceId : String) (plan : SignInPlan)
      (correlationId now : String)
  | markProvisioningFailure (authUserId errorCode now : String)
  | project (userId membershipId : String) (membershipVersion : ℕ) (workspaceId : String)

/-- The answer to a call, unless the port throws. A projection that does not parse is none. -/
def SignInCall.Reply (P : Type) : SignInCall → Type
  | .findAuthUserLink _ => Option AuthUserLink
  | .readCommittedAccess _ _ => AdapterOutcome CommittedAccessState
  | .getVerifiedClaims _ => AdapterOutcome ExternalIdentityClaims
  | .loadSignInEvidence _ _ => SignInEvidence
  | .commitSignInPlan _ _ _ _ _ => AdapterOutcome CommittedAccessState
  | .markProvisioningFailure _ _ _ => Unit
  | .project _ _ _ _ => Option P

abbrev SignInCall.Answer (P : Type) (c : SignInCall) : Type := Except Unit (c.Reply P)

abbrev SignInProcess (P α : Type) : Type :=
  Process SignInCall (SignInCall.Answer P) Unit α

variable {P α : Type}

def SignInProcess.await (c : SignInCall) : SignInProcess P (c.Reply P) :=
  .call c Process.ofExcept

/-! ## The service -/

section

variable (host : AccessHost) (admission : AdmissionPolicy) (gatewayAuthority : Bool)
  (input : EnsureProvisionedInput)

/-- `contextFromCommitted`. A projection that throws is as one that does not parse. -/
def contextFromCommitted (state : CommittedAccessState) : SignInProcess P (AccessContext P) :=
  match state.membership.status with
  | .active =>
    if gatewayAuthority then
      .call (.project state.user.id state.membership.id state.membership.version state.workspace.id)
        fun projected => .done (.active state.user state.workspace (projected.toOption.bind id))
    else .done (.active state.user state.workspace none)
  | .pendingReview | .invited =>
    .done (.pendingReview state.user { state.membership with status := .pendingReview }
      state.workspace)
  | .suspended => .done (.blocked .suspended)
  | .deactivated => .done (.blocked .deactivated)

def admissionAllowsNewPerson (policy : AdmissionPolicy) (claims : ExternalIdentityClaims)
    (reservation : Option AccessReservation) : Bool :=
  if reservation.isSome then true
  else
    match policy.mode with
    | .reservationOnly => false
    | .workspaceDomain => claims.hostedDomain = policy.hostedDomain
    | .pending => true

def succeedWith (state : CommittedAccessState) (notices : List OperationalNotice) :
    SignInProcess P (AdapterOutcome (AccessContext P)) := do
  let context ← contextFromCommitted gatewayAuthority state
  return .success context notices

/-- Ask for a confirmation, with the context of the proposed state. -/
def confirmWith (proposed : Option CommittedAccessState) (confirmation : ConfirmationRequest)
    (notices : List OperationalNotice) : SignInProcess P (AdapterOutcome (AccessContext P)) :=
  match proposed with
  | none => return .needsConfirmation none confirmation notices
  | some state => do
    let context ← contextFromCommitted gatewayAuthority state
    return .needsConfirmation (some context) confirmation notices

def afterCommit (readyPendingState : Option CommittedAccessState)
    (principalNotices : List OperationalNotice) :
    AdapterOutcome CommittedAccessState → SignInProcess P (AdapterOutcome (AccessContext P))
  | .success data notices => succeedWith gatewayAuthority data (principalNotices ++ notices)
  | .needsConfirmation proposed confirmation notices =>
    confirmWith gatewayAuthority proposed confirmation (principalNotices ++ notices)
  | .error error notices =>
    match readyPendingState with
    | some state => succeedWith gatewayAuthority state (principalNotices ++ notices)
    | none => do
      let _ ← SignInProcess.await (.markProvisioningFailure input.authUserId error.code input.now)
      return .error error (principalNotices ++ notices)

/-- What follows the evidence : the policy gate, the plan, and the commit. -/
def planAndCommit (readyPendingState : Option CommittedAccessState)
    (claims : ExternalIdentityClaims) (principalNotices : List OperationalNotice)
    (evidence : SignInEvidence) : SignInProcess P (AdapterOutcome (AccessContext P)) :=
  match readyPendingState, evidence.reservation with
  | some state, none => succeedWith gatewayAuthority state principalNotices
  | _, _ =>
    if evidence.identityLink = none ∧ evidence.sameEmailUser = none ∧
        admissionAllowsNewPerson admission claims evidence.reservation = false then
      return .success (.blocked .notAdmitted) principalNotices
    else
      let plan := planSignIn host input.workspaceId input.now claims evidence
      match readyPendingState.filter fun _ => plan.code ≠ .existingPreapprovedMember with
      | some state => succeedWith gatewayAuthority state (principalNotices ++ plan.notices)
      | none =>
        match plan.result with
        | .confirmationRequired =>
          return .success (.blocked .notAdmitted) (principalNotices ++ plan.notices)
        | .rejected =>
          let code := if plan.code = .userInactive ∨ plan.code = .membershipInactive then
            BlockedCode.suspended else .notAdmitted
          return .success (.blocked code) (principalNotices ++ plan.notices)
        | _ => do
          let committed ← SignInProcess.await (.commitSignInPlan input.authUserId input.workspaceId
            plan input.correlationId input.now)
          afterCommit gatewayAuthority input readyPendingState principalNotices committed

def recover (readyPendingState : Option CommittedAccessState)
    (principalNotices : List OperationalNotice) :
    SignInProcess P (AdapterOutcome (AccessContext P)) :=
  match readyPendingState with
  | some state => succeedWith gatewayAuthority state principalNotices
  | none => do
    let _ ← SignInProcess.await
      (.markProvisioningFailure input.authUserId "provisioning_dependency_failed" input.now)
    return .error
      { code := "provisioning_dependency_failed"
        message := "JooEvents could not finish sign-in yet."
        retryable := true } principalNotices

def afterClaims (readyPendingState : Option CommittedAccessState) :
    AdapterOutcome ExternalIdentityClaims → SignInProcess P (AdapterOutcome (AccessContext P))
  | .error error notices =>
    match readyPendingState with
    | some state => succeedWith gatewayAuthority state notices
    | none => return .error error notices
  | .needsConfirmation _ confirmation notices =>
    match readyPendingState with
    | some state => succeedWith gatewayAuthority state notices
    | none => return .needsConfirmation none confirmation notices
  | .success claims notices =>
    Process.tryCatch
      (do
        let evidence ← SignInProcess.await (.loadSignInEvidence input.workspaceId claims)
        planAndCommit host admission gatewayAuthority input readyPendingState claims notices evidence)
      fun _ => recover gatewayAuthority input readyPendingState notices

/-- The evaluation of a principal whose access is not settled. -/
def evaluatePrincipal (readyPendingState : Option CommittedAccessState) :
    SignInProcess P (AdapterOutcome (AccessContext P)) := do
  let principal ← SignInProcess.await (.getVerifiedClaims input.authUserId)
  afterClaims host admission gatewayAuthority input readyPendingState principal

/-- What follows the committed state of a ready link. -/
def afterCommittedAccess : AdapterOutcome CommittedAccessState →
    SignInProcess P (AdapterOutcome (AccessContext P))
  | .success data notices =>
    if data.membership.status ≠ .pendingReview ∧ data.membership.status ≠ .invited then
      succeedWith gatewayAuthority data notices
    else
      -- A reservation may have been added after the first sign-in.
      evaluatePrincipal host admission gatewayAuthority input (some data)
  | .error error notices => return .error error notices
  | .needsConfirmation proposed confirmation notices =>
    confirmWith gatewayAuthority proposed confirmation notices

def afterLink (existingLink : Option AuthUserLink) :
    SignInProcess P (AdapterOutcome (AccessContext P)) :=
  if AuthUserLink.isReady existingLink then do
    let committed ← SignInProcess.await (.readCommittedAccess input.authUserId input.workspaceId)
    afterCommittedAccess host admission gatewayAuthority input committed
  else evaluatePrincipal host admission gatewayAuthority input none

def ensureAuthPrincipalProvisioned : SignInProcess P (AdapterOutcome (AccessContext P)) := do
  let existingLink ← SignInProcess.await (.findAuthUserLink input.authUserId)
  afterLink host admission gatewayAuthority input existingLink

end

/-! ## What a run calls -/

abbrev SignInEvent (P : Type) : Type :=
  Process.Event SignInCall (SignInCall.Answer P)

def SignInCall.decides : SignInCall → Bool
  | .findAuthUserLink _ => true
  | .getVerifiedClaims _ => true
  | .loadSignInEvidence _ _ => true
  | .commitSignInPlan _ _ _ _ _ => true
  | _ => false

def Quiet (events : List (SignInEvent P)) : Prop := ∀ e ∈ events, e.1.decides = false

section

variable {host : AccessHost} {admission : AdmissionPolicy} {gatewayAuthority : Bool}
  {input : EnsureProvisionedInput} {events : List (SignInEvent P)}
  {ready : Option CommittedAccessState} {claims : ExternalIdentityClaims}
  {notices : List OperationalNotice} {evidence : SignInEvidence}

theorem Quiet.nil : Quiet ([] : List (SignInEvent P)) := fun _ h => nomatch h

theorem Quiet.cons {e : SignInEvent P} (he : e.1.decides = false) (h : Quiet events) :
    Quiet (e :: events) := by
  intro e' he'
  rcases List.mem_cons.mp he' with rfl | he'
  · exact he
  · exact h e' he'

theorem Quiet.append {before after : List (SignInEvent P)} (hb : Quiet before)
    (ha : Quiet after) : Quiet (before ++ after) := by
  intro e he
  exact (List.mem_append.mp he).elim (hb e) (ha e)

theorem quiet_bind {β : Type} {p : SignInProcess P α} {f : α → SignInProcess P β} {r : Except Unit β}
    (hp : ∀ {events r}, Runs p events r → Quiet events)
    (hf : ∀ a {events r}, Runs (f a) events r → Quiet events) (h : Runs (p >>= f) events r) :
    Quiet events := by
  rcases runs_bind h with ⟨before, a, after, rfl, hpa, hfa⟩ | ⟨error, hpe, -⟩
  · exact (hp hpa).append (hf a hfa)
  · exact hp hpe

theorem quiet_done {a : α} {r : Except Unit α} (h : Runs (.done a) events r) : Quiet events := by
  obtain ⟨rfl, -⟩ := runs_done_iff.mp h
  exact .nil

theorem runs_await {c : SignInCall} {r : Except Unit (c.Reply P)}
    (h : Runs (SignInProcess.await c) events r) : events = [⟨c, r⟩] := by
  obtain ⟨answer, rest, rfl, hrest⟩ := runs_call_iff.mp h
  obtain ⟨rfl, rfl⟩ := runs_ofExcept_iff.mp hrest
  rfl

theorem quiet_await {c : SignInCall} (hc : c.decides = false) {r : Except Unit (c.Reply P)}
    (h : Runs (SignInProcess.await c) events r) : Quiet events := by
  rw [runs_await h]
  exact Quiet.nil.cons hc

theorem runs_await_bind {c : SignInCall} {f : c.Reply P → SignInProcess P α}
    {r : Except Unit α} (h : Runs (SignInProcess.await c >>= f) events r) :
    (∃ a rest, events = ⟨c, .ok a⟩ :: rest ∧ Runs (f a) rest r) ∨
      events = [⟨c, .error ()⟩] := by
  rcases runs_bind h with ⟨before, a, after, rfl, hc, hf⟩ | ⟨error, hc, -⟩
  · exact .inl ⟨a, after, by rw [runs_await hc]; rfl, hf⟩
  · exact .inr (runs_await hc)

theorem quiet_contextFromCommitted {state : CommittedAccessState}
    {r : Except Unit (AccessContext P)}
    (h : Runs (contextFromCommitted gatewayAuthority state) events r) : Quiet events := by
  unfold contextFromCommitted at h
  split at h
  · split at h
    · obtain ⟨answer, rest, rfl, hrest⟩ := runs_call_iff.mp h
      exact (quiet_done hrest).cons rfl
    · exact quiet_done h
  all_goals exact quiet_done h

theorem quiet_succeedWith {state : CommittedAccessState}
    {r : Except Unit (AdapterOutcome (AccessContext P))}
    (h : Runs (succeedWith gatewayAuthority state notices) events r) : Quiet events :=
  quiet_bind quiet_contextFromCommitted (fun _ => quiet_done) h

theorem quiet_confirmWith {proposed : Option CommittedAccessState}
    {confirmation : ConfirmationRequest} {r : Except Unit (AdapterOutcome (AccessContext P))}
    (h : Runs (confirmWith gatewayAuthority proposed confirmation notices) events r) :
    Quiet events := by
  cases proposed with
  | none => exact quiet_done h
  | some state => exact quiet_bind quiet_contextFromCommitted (fun _ => quiet_done) h

theorem quiet_afterCommit {outcome : AdapterOutcome CommittedAccessState}
    {r : Except Unit (AdapterOutcome (AccessContext P))}
    (h : Runs (afterCommit gatewayAuthority input ready notices outcome) events r) :
    Quiet events := by
  cases outcome with
  | success data ns => exact quiet_succeedWith h
  | needsConfirmation proposed confirmation ns => exact quiet_confirmWith h
  | error error ns =>
    cases ready with
    | some state => exact quiet_succeedWith h
    | none => exact quiet_bind (quiet_await rfl) (fun _ => quiet_done) h

theorem quiet_recover {r : Except Unit (AdapterOutcome (AccessContext P))}
    (h : Runs (recover gatewayAuthority input ready notices) events r) : Quiet events := by
  cases ready with
  | some state => exact quiet_succeedWith h
  | none => exact quiet_bind (quiet_await rfl) (fun _ => quiet_done) h

/-- The evidence leads to a commit. -/
structure Commits (host : AccessHost) (admission : AdmissionPolicy) (input : EnsureProvisionedInput)
    (ready : Option CommittedAccessState) (claims : ExternalIdentityClaims)
    (evidence : SignInEvidence) : Prop where
  upgrade : ready.isSome = true → evidence.reservation.isSome = true ∧
    (planSignIn host input.workspaceId input.now claims evidence).code = .existingPreapprovedMember
  gate : evidence.identityLink = none → evidence.sameEmailUser = none →
    admissionAllowsNewPerson admission claims evidence.reservation = true
  result : (planSignIn host input.workspaceId input.now claims evidence).result = .signedIn ∨
    (planSignIn host input.workspaceId input.now claims evidence).result = .awaitingApproval

/-- The calls after the evidence : the commit of the plan, if the evidence leads to one. -/
def CommitsOnly (host : AccessHost) (admission : AdmissionPolicy) (input : EnsureProvisionedInput)
    (ready : Option CommittedAccessState) (claims : ExternalIdentityClaims)
    (evidence : SignInEvidence) (events : List (SignInEvent P)) : Prop :=
  (¬ Commits host admission input ready claims evidence ∧ Quiet events) ∨
    Commits host admission input ready claims evidence ∧ ∃ answer rest,
      events = ⟨.commitSignInPlan input.authUserId input.workspaceId
        (planSignIn host input.workspaceId input.now claims evidence) input.correlationId
        input.now, answer⟩ :: rest ∧ Quiet rest

theorem CommitsOnly.append {after : List (SignInEvent P)}
    (h : CommitsOnly host admission input ready claims evidence events) (ha : Quiet after) :
    CommitsOnly host admission input ready claims evidence (events ++ after) := by
  rcases h with ⟨hno, hquiet⟩ | ⟨hcommits, answer, rest, rfl, hrest⟩
  · exact .inl ⟨hno, hquiet.append ha⟩
  · exact .inr ⟨hcommits, answer, rest ++ after, rfl, hrest.append ha⟩

theorem commitsOnly_planAndCommit {r : Except Unit (AdapterOutcome (AccessContext P))}
    (h : Runs (planAndCommit host admission gatewayAuthority input ready claims notices evidence)
      events r) : CommitsOnly host admission input ready claims evidence events := by
  unfold planAndCommit at h
  split at h
  · refine .inl ⟨fun hcommits => ?_, quiet_succeedWith h⟩
    have hreservation := (hcommits.upgrade rfl).1
    simp_all
  · rename_i hmatch
    split_ifs at h with hgate
    · refine .inl ⟨fun hcommits => ?_, quiet_done h⟩
      rw [hcommits.gate hgate.1 hgate.2.1] at hgate
      exact absurd hgate.2.2 (by decide)
    · dsimp only at h
      split at h
      · rename_i state hready
        obtain ⟨hready, hcode⟩ := Option.filter_eq_some_iff.mp hready
        refine .inl ⟨fun hcommits => ?_, quiet_succeedWith h⟩
        have hcode' := (hcommits.upgrade (by rw [hready]; rfl)).2
        simp [hcode'] at hcode
      · rename_i hready
        split at h
        · rename_i hresult
          exact .inl ⟨fun hcommits => by simpa [hresult] using hcommits.result, quiet_done h⟩
        · rename_i hresult
          exact .inl ⟨fun hcommits => by simpa [hresult] using hcommits.result, quiet_done h⟩
        · rename_i hconfirmation hrejected
          refine .inr ⟨⟨fun hsome => ?_, fun hlink hsame => ?_, ?_⟩, ?_⟩
          · obtain ⟨state, rfl⟩ := Option.isSome_iff_exists.mp hsome
            refine ⟨Option.isSome_iff_ne_none.mpr (hmatch state rfl), ?_⟩
            simpa using Option.filter_eq_none_iff.mp hready
          · exact Bool.eq_true_of_not_eq_false fun hadmission => hgate ⟨hlink, hsame, hadmission⟩
          · cases hresult : (planSignIn host input.workspaceId input.now claims evidence).result
            · exact .inl rfl
            · exact .inr rfl
            · exact absurd hresult hconfirmation
            · exact absurd hresult hrejected
          · rcases runs_await_bind h with ⟨outcome, rest, rfl, hrest⟩ | rfl
            · exact ⟨_, rest, rfl, quiet_afterCommit hrest⟩
            · exact ⟨_, [], rfl, .nil⟩

/-! ## The shape of a run -/

/-- No evidence is read, and nothing is committed. -/
def NoEvidence (events : List (SignInEvent P)) : Prop :=
  ∀ e ∈ events,
    (∀ authUserId workspaceId plan correlationId now,
      e.1 ≠ .commitSignInPlan authUserId workspaceId plan correlationId now) ∧
    ∀ workspaceId claims evidence, e ≠ ⟨.loadSignInEvidence workspaceId claims, .ok evidence⟩

theorem Quiet.noEvidence (h : Quiet events) : NoEvidence events := by
  intro e he
  have hquiet := h e he
  refine ⟨?_, ?_⟩
  · intro authUserId workspaceId plan correlationId now heq
    rw [heq] at hquiet
    cases hquiet
  · rintro workspaceId claims evidence rfl
    cases hquiet

def SignInCall.acts : SignInCall → Bool
  | .loadSignInEvidence _ _ => true
  | .commitSignInPlan _ _ _ _ _ => true
  | _ => false

theorem NoEvidence.cons {e : SignInEvent P} (h : NoEvidence events)
    (he : e.1.acts = false) : NoEvidence (e :: events) := by
  intro e' he'
  rcases List.mem_cons.mp he' with rfl | he'
  · refine ⟨?_, ?_⟩
    · intro authUserId workspaceId plan correlationId now heq
      rw [heq] at he
      cases he
    · rintro workspaceId claims evidence rfl
      cases he
  · exact h e' he'

theorem NoEvidence.cons_thrown {workspaceId : String} (h : NoEvidence events) :
    NoEvidence (⟨.loadSignInEvidence workspaceId claims, .error ()⟩ :: events) := by
  intro e' he'
  rcases List.mem_cons.mp he' with rfl | he'
  · refine ⟨?_, ?_⟩
    · intro authUserId workspaceId plan correlationId now heq
      cases heq
    · intro workspaceId claims evidence heq
      cases heq
  · exact h e' he'

/-- The calls of the evaluation of a principal. -/
inductive Evaluated (host : AccessHost) (admission : AdmissionPolicy)
    (input : EnsureProvisionedInput) (ready : Option CommittedAccessState) :
    List (SignInEvent P) → Prop
  | unread {events : List (SignInEvent P)} (h : NoEvidence events) :
      Evaluated host admission input ready events
  | read (claims : ExternalIdentityClaims) (notices : List OperationalNotice)
      (evidence : SignInEvidence) {rest : List (SignInEvent P)}
      (h : CommitsOnly host admission input ready claims evidence rest) :
      Evaluated host admission input ready
        (⟨.getVerifiedClaims input.authUserId, .ok (.success claims notices)⟩ ::
          ⟨.loadSignInEvidence input.workspaceId claims, .ok evidence⟩ :: rest)

theorem quiet_afterClaims {outcome : AdapterOutcome ExternalIdentityClaims}
    (hrefused : ∀ claims ns, outcome ≠ .success claims ns)
    {r : Except Unit (AdapterOutcome (AccessContext P))}
    (h : Runs (afterClaims host admission gatewayAuthority input ready outcome) events r) :
    Quiet events := by
  unfold afterClaims at h
  split at h
  · split at h
    · exact quiet_succeedWith h
    · exact quiet_done h
  · split at h
    · exact quiet_succeedWith h
    · exact quiet_done h
  · exact absurd rfl (hrefused _ _)

theorem evaluated_of_runs {r : Except Unit (AdapterOutcome (AccessContext P))}
    (h : Runs (evaluatePrincipal host admission gatewayAuthority input ready) events r) :
    Evaluated host admission input ready events := by
  rcases runs_await_bind h with ⟨outcome, rest, rfl, hrest⟩ | rfl
  · cases outcome with
    | error error ns => exact .unread ((quiet_afterClaims (by simp) hrest).noEvidence.cons rfl)
    | needsConfirmation proposed confirmation ns =>
      exact .unread ((quiet_afterClaims (by simp) hrest).noEvidence.cons rfl)
    | success claims ns =>
      rcases runs_tryCatch hrest with ⟨outcome, hbody, -⟩ | ⟨body, error, after, rfl, hbody, hafter⟩
      · rcases runs_await_bind hbody with ⟨evidence, rest, rfl, hplan⟩ | rfl
        · exact .read claims ns evidence (commitsOnly_planAndCommit hplan)
        · exact .unread (Quiet.nil.noEvidence.cons_thrown.cons rfl)
      · have hquiet := quiet_recover hafter
        rcases runs_await_bind hbody with ⟨evidence, rest, rfl, hplan⟩ | rfl
        · exact .read claims ns evidence ((commitsOnly_planAndCommit hplan).append hquiet)
        · exact .unread (hquiet.noEvidence.cons_thrown.cons rfl)
  · exact .unread (Quiet.nil.noEvidence.cons rfl)

/-- The calls of `ensureAuthPrincipalProvisioned`. -/
inductive SignInRun (host : AccessHost) (admission : AdmissionPolicy)
    (input : EnsureProvisionedInput) : List (SignInEvent P) → Prop
  | unread {events : List (SignInEvent P)} (h : NoEvidence events) :
      SignInRun host admission input events
  | read (link : Option AuthUserLink) (ready : Option CommittedAccessState)
      (hready : ready.isSome = AuthUserLink.isReady link) {before : List (SignInEvent P)}
      (hbefore : Quiet before) (claims : ExternalIdentityClaims) (notices : List OperationalNotice)
      (evidence : SignInEvidence) {rest : List (SignInEvent P)}
      (h : CommitsOnly host admission input ready claims evidence rest) :
      SignInRun host admission input
        (⟨.findAuthUserLink input.authUserId, .ok link⟩ :: (before ++
          ⟨.getVerifiedClaims input.authUserId, .ok (.success claims notices)⟩ ::
            ⟨.loadSignInEvidence input.workspaceId claims, .ok evidence⟩ :: rest))

theorem afterCommittedAccess_cases {outcome : AdapterOutcome CommittedAccessState}
    {r : Except Unit (AdapterOutcome (AccessContext P))}
    (h : Runs (afterCommittedAccess host admission gatewayAuthority input outcome) events r) :
    Quiet events ∨ ∃ data,
      Runs (evaluatePrincipal host admission gatewayAuthority input (some data)) events r := by
  unfold afterCommittedAccess at h
  split at h
  · split at h
    · exact .inl (quiet_succeedWith h)
    · exact .inr ⟨_, h⟩
  · exact .inl (quiet_done h)
  · exact .inl (quiet_confirmWith h)

theorem signInRun_of_runs {r : Except Unit (AdapterOutcome (AccessContext P))}
    (h : Runs (ensureAuthPrincipalProvisioned host admission gatewayAuthority input) events r) :
    SignInRun host admission input events := by
  rcases runs_await_bind h with ⟨link, rest, rfl, hrest⟩ | rfl
  · unfold afterLink at hrest
    split at hrest
    · rename_i hready
      rcases runs_await_bind hrest with ⟨committed, rest, rfl, hcommitted⟩ | rfl
      · rcases afterCommittedAccess_cases hcommitted with hquiet | ⟨data, hdata⟩
        · exact .unread ((hquiet.cons rfl).noEvidence.cons rfl)
        · cases evaluated_of_runs hdata with
          | unread hnone => exact .unread ((hnone.cons rfl).cons rfl)
          | read claims ns evidence honly =>
            exact .read link (some data) hready.symm (Quiet.nil.cons rfl) claims ns evidence honly
      · exact .unread ((Quiet.nil.cons rfl).noEvidence.cons rfl)
    · rename_i hready
      cases evaluated_of_runs hrest with
      | unread hnone => exact .unread (hnone.cons rfl)
      | read claims ns evidence honly =>
        exact .read link none (by simpa using hready) .nil claims ns evidence honly
  · exact .unread (Quiet.nil.noEvidence.cons rfl)

/-! ## Who is admitted -/

/-- A committed plan admits nobody beyond a usable reservation, and creates a user only for a
person whom a usable reservation or the policy mode itself admits. -/
structure AdmittedPlan (host : AccessHost) (admission : AdmissionPolicy)
    (input : EnsureProvisionedInput) (claims : ExternalIdentityClaims) (evidence : SignInEvidence)
    (plan : SignInPlan) : Prop where
  admits : plan.Admits host input.workspaceId input.now claims evidence
  admitted : createsUser plan.mutations = true →
    (usableReservation host input.workspaceId input.now claims evidence.reservation).isSome = true ∨
      admissionAllowsNewPerson admission claims none = true

/-- Every commit of the run is of an admitted plan, for the claims and the evidence it read. -/
def AdmitsOnly (host : AccessHost) (admission : AdmissionPolicy) (input : EnsureProvisionedInput)
    (events : List (SignInEvent P)) : Prop :=
  ∀ authUserId workspaceId plan correlationId now answer,
    (⟨.commitSignInPlan authUserId workspaceId plan correlationId now, answer⟩ :
      SignInEvent P) ∈ events →
    ∃ claims notices evidence,
      ⟨.getVerifiedClaims input.authUserId, .ok (.success claims notices)⟩ ∈ events ∧
      ⟨.loadSignInEvidence input.workspaceId claims, .ok evidence⟩ ∈ events ∧
      AdmittedPlan host admission input claims evidence plan

/-- A new person whom the policy mode does not admit was given a reservation that is not
usable. -/
structure FoundUnusable (host : AccessHost) (admission : AdmissionPolicy)
    (input : EnsureProvisionedInput) (claims : ExternalIdentityClaims) (evidence : SignInEvidence) :
    Prop where
  person : NewPerson claims evidence
  found : evidence.reservation.isSome = true
  unusable : usableReservation host input.workspaceId input.now claims evidence.reservation = none
  closed : admissionAllowsNewPerson admission claims none = false

/-- The run finds no ready link, and then an unusable reservation of a person whom the policy
mode does not admit. -/
def ReadsUnusable (host : AccessHost) (admission : AdmissionPolicy)
    (input : EnsureProvisionedInput) (events : List (SignInEvent P)) : Prop :=
  ∃ link claims notices evidence,
    ⟨.findAuthUserLink input.authUserId, .ok link⟩ ∈ events ∧ AuthUserLink.isReady link = false ∧
    ⟨.getVerifiedClaims input.authUserId, .ok (.success claims notices)⟩ ∈ events ∧
    ⟨.loadSignInEvidence input.workspaceId claims, .ok evidence⟩ ∈ events ∧
    FoundUnusable host admission input claims evidence

theorem admittedPlan_of_gate
    (hgate : evidence.identityLink = none → evidence.sameEmailUser = none →
      admissionAllowsNewPerson admission claims evidence.reservation = true)
    (hfound : createsUser (planSignIn host input.workspaceId input.now claims evidence).mutations =
      true → ¬ FoundUnusable host admission input claims evidence) :
    AdmittedPlan host admission input claims evidence
      (planSignIn host input.workspaceId input.now claims evidence) where
  admits := admits_planSignIn
  admitted hcreates := by
    have hnew := admits_planSignIn.created hcreates
    have hpass := hgate hnew.unlinked hnew.unclaimed
    by_contra hno
    obtain ⟨hunusable, hclosed⟩ := not_or.mp hno
    refine hfound hcreates ⟨hnew, ?_, by simpa using hunusable, by simpa using hclosed⟩
    cases hreservation : evidence.reservation with
    | some r => rfl
    | none =>
      rw [hreservation] at hpass
      exact absurd hpass hclosed

theorem FoundUnusable.commits (h : FoundUnusable host admission input claims evidence) :
    Commits host admission input none claims evidence ∧
      createsUser (planSignIn host input.workspaceId input.now claims evidence).mutations = true := by
  obtain ⟨email, hemail⟩ := Option.isSome_iff_exists.mp h.person.verified
  have hplan : planSignIn host input.workspaceId input.now claims evidence = _ :=
    planSignIn_of_newPerson hemail h.person.unlinked h.person.unclaimed
  rw [h.unusable] at hplan
  refine ⟨⟨nofun, fun _ _ => ?_, ?_⟩, ?_⟩
  · rw [admissionAllowsNewPerson, if_pos h.found]
  · rw [hplan]
    exact .inr rfl
  · rw [hplan]
    rfl

theorem CommitsOnly.of_mem (h : CommitsOnly host admission input ready claims evidence events)
    {e : SignInEvent P} (he : e ∈ events) :
    e.1.decides = false ∨ Commits host admission input ready claims evidence ∧
      e.1 = .commitSignInPlan input.authUserId input.workspaceId
        (planSignIn host input.workspaceId input.now claims evidence) input.correlationId
        input.now := by
  rcases h with ⟨-, hquiet⟩ | ⟨hcommits, answer, rest, rfl, hrest⟩
  · exact .inl (hquiet e he)
  · rcases List.mem_cons.mp he with rfl | he
    · exact .inr ⟨hcommits, rfl⟩
    · exact .inl (hrest e he)

theorem CommitsOnly.commit_mem (h : CommitsOnly host admission input ready claims evidence events)
    (hcommits : Commits host admission input ready claims evidence) :
    ∃ answer, (⟨.commitSignInPlan input.authUserId input.workspaceId
      (planSignIn host input.workspaceId input.now claims evidence) input.correlationId input.now,
      answer⟩ : SignInEvent P) ∈ events := by
  rcases h with ⟨hno, -⟩ | ⟨-, answer, rest, rfl, -⟩
  · exact absurd hcommits hno
  · exact ⟨answer, List.mem_cons_self⟩

theorem mem_read_cases {link : Option AuthUserLink} {before rest : List (SignInEvent P)}
    (hbefore : Quiet before) (h : CommitsOnly host admission input ready claims evidence rest)
    {e : SignInEvent P}
    (he : e ∈ (⟨.findAuthUserLink input.authUserId, .ok link⟩ :: (before ++
      ⟨.getVerifiedClaims input.authUserId, .ok (.success claims notices)⟩ ::
        ⟨.loadSignInEvidence input.workspaceId claims, .ok evidence⟩ :: rest) :
          List (SignInEvent P))) :
    e.1.decides = false ∨ e = ⟨.findAuthUserLink input.authUserId, .ok link⟩ ∨
      e = ⟨.getVerifiedClaims input.authUserId, .ok (.success claims notices)⟩ ∨
      e = ⟨.loadSignInEvidence input.workspaceId claims, .ok evidence⟩ ∨
      Commits host admission input ready claims evidence ∧
        e.1 = .commitSignInPlan input.authUserId input.workspaceId
          (planSignIn host input.workspaceId input.now claims evidence) input.correlationId
          input.now := by
  rcases List.mem_cons.mp he with rfl | he
  · exact .inr (.inl rfl)
  · rcases List.mem_append.mp he with he | he
    · exact .inl (hbefore e he)
    · rcases List.mem_cons.mp he with rfl | he
      · exact .inr (.inr (.inl rfl))
      · rcases List.mem_cons.mp he with rfl | he
        · exact .inr (.inr (.inr (.inl rfl)))
        · exact (h.of_mem he).imp_right fun hcommit => .inr (.inr (.inr hcommit))

section

variable {link link' : Option AuthUserLink} {before rest : List (SignInEvent P)}
  (hbefore : Quiet before) (honly : CommitsOnly host admission input ready claims evidence rest)

include hbefore honly

theorem link_of_mem_read {authUserId : String}
    (h : ⟨.findAuthUserLink authUserId, .ok link'⟩ ∈
      (⟨.findAuthUserLink input.authUserId, .ok link⟩ :: (before ++
        ⟨.getVerifiedClaims input.authUserId, .ok (.success claims notices)⟩ ::
          ⟨.loadSignInEvidence input.workspaceId claims, .ok evidence⟩ :: rest) :
            List (SignInEvent P))) : link' = link := by
  rcases mem_read_cases hbefore honly h with hquiet | heq | heq | heq | ⟨-, heq⟩
  · cases hquiet
  · cases heq
    rfl
  all_goals cases heq

theorem evidence_of_mem_read {workspaceId : String} {claims' : ExternalIdentityClaims}
    {evidence' : SignInEvidence}
    (h : ⟨.loadSignInEvidence workspaceId claims', .ok evidence'⟩ ∈
      (⟨.findAuthUserLink input.authUserId, .ok link⟩ :: (before ++
        ⟨.getVerifiedClaims input.authUserId, .ok (.success claims notices)⟩ ::
          ⟨.loadSignInEvidence input.workspaceId claims, .ok evidence⟩ :: rest) :
            List (SignInEvent P))) : claims' = claims ∧ evidence' = evidence := by
  rcases mem_read_cases hbefore honly h with hquiet | heq | heq | heq | ⟨-, heq⟩
  · cases hquiet
  · cases heq
  · cases heq
  · cases heq
    exact ⟨rfl, rfl⟩
  · cases heq

theorem plan_of_mem_read {authUserId workspaceId correlationId now : String} {plan : SignInPlan}
    {answer : Except Unit (AdapterOutcome CommittedAccessState)}
    (h : ⟨.commitSignInPlan authUserId workspaceId plan correlationId now, answer⟩ ∈
      (⟨.findAuthUserLink input.authUserId, .ok link⟩ :: (before ++
        ⟨.getVerifiedClaims input.authUserId, .ok (.success claims notices)⟩ ::
          ⟨.loadSignInEvidence input.workspaceId claims, .ok evidence⟩ :: rest) :
            List (SignInEvent P))) :
    Commits host admission input ready claims evidence ∧
      plan = planSignIn host input.workspaceId input.now claims evidence := by
  rcases mem_read_cases hbefore honly h with hquiet | heq | heq | heq | ⟨hcommits, heq⟩
  · cases hquiet
  · cases heq
  · cases heq
  · cases heq
  · exact ⟨hcommits, by injection heq⟩

end

theorem admitsOnly_iff_of_signInRun (h : SignInRun host admission input events) :
    AdmitsOnly host admission input events ↔ ¬ ReadsUnusable host admission input events := by
  cases h with
  | unread hnone =>
    refine iff_of_true ?_ ?_
    · intro authUserId workspaceId plan correlationId now answer hcommit
      exact absurd rfl ((hnone _ hcommit).1 authUserId workspaceId plan correlationId now)
    · rintro ⟨link, claims, notices, evidence, -, -, -, hload, -⟩
      exact (hnone _ hload).2 _ _ _ rfl
  | read link ready hready hbefore claims notices evidence honly =>
    constructor
    · rintro hadmits ⟨link', claims', notices', evidence', hlink, hnotReady, -, hload, hfound⟩
      obtain rfl := link_of_mem_read hbefore honly hlink
      obtain ⟨rfl, rfl⟩ := evidence_of_mem_read hbefore honly hload
      obtain rfl : ready = none := by simpa [hnotReady] using hready
      obtain ⟨hcommits, hcreates⟩ := hfound.commits
      obtain ⟨answer, hcommit⟩ := honly.commit_mem hcommits
      obtain ⟨claims'', notices'', evidence'', -, hload'', hplan⟩ :=
        hadmits _ _ _ _ _ answer (by simp [hcommit])
      obtain ⟨rfl, rfl⟩ := evidence_of_mem_read hbefore honly hload''
      rcases hplan.admitted hcreates with husable | hmode
      · simp [hfound.unusable] at husable
      · simp [hfound.closed] at hmode
    · intro hno authUserId workspaceId plan correlationId now answer hcommit
      obtain ⟨hcommits, rfl⟩ := plan_of_mem_read hbefore honly hcommit
      refine ⟨claims, notices, evidence, by simp, by simp,
        admittedPlan_of_gate hcommits.gate fun _ hfound => ?_⟩
      have hnotReady : AuthUserLink.isReady link = false := by
        rw [← hready, Option.isSome_eq_false_iff, Option.isNone_iff_eq_none]
        by_contra hsome
        exact code_planSignIn_of_unlinked hfound.person.unlinked
          (hcommits.upgrade (Option.isSome_iff_ne_none.mpr hsome)).2
      exact hno ⟨link, claims, notices, evidence, by simp, hnotReady, by simp, by simp, hfound⟩

/-! ## A run that admits too much -/

theorem Runs.await {c : SignInCall} {f : c.Reply P → SignInProcess P α} {a : c.Reply P}
    {r : Except Unit α} (h : Runs (f a) events r) :
    Runs (SignInProcess.await c >>= f) (⟨c, .ok a⟩ :: events) r :=
  .call h

theorem planAndCommit_of_commits (h : Commits host admission input none claims evidence) :
    planAndCommit (P := P) host admission gatewayAuthority input none claims notices evidence =
      SignInProcess.await (.commitSignInPlan input.authUserId input.workspaceId
        (planSignIn host input.workspaceId input.now claims evidence) input.correlationId input.now)
        >>= afterCommit gatewayAuthority input none notices := by
  have hgate : ¬ (evidence.identityLink = none ∧ evidence.sameEmailUser = none ∧
      admissionAllowsNewPerson admission claims evidence.reservation = false) := by
    rintro ⟨hlink, hsame, hclosed⟩
    rw [h.gate hlink hsame] at hclosed
    cases hclosed
  unfold planAndCommit
  simp only [if_neg hgate]
  rcases h.result with hresult | hresult <;> rw [hresult] <;> rfl

/-- The events of a run that commits the plan of its evidence, and is answered with a state. -/
def committingEvents (host : AccessHost) (input : EnsureProvisionedInput)
    (claims : ExternalIdentityClaims) (evidence : SignInEvidence)
    (state : CommittedAccessState) : List (SignInEvent P) :=
  [⟨.findAuthUserLink input.authUserId, .ok none⟩,
    ⟨.getVerifiedClaims input.authUserId, .ok (.success claims [])⟩,
    ⟨.loadSignInEvidence input.workspaceId claims, .ok evidence⟩,
    ⟨.commitSignInPlan input.authUserId input.workspaceId
      (planSignIn host input.workspaceId input.now claims evidence) input.correlationId input.now,
      .ok (.success state [])⟩]

theorem runs_committingEvents (h : Commits host admission input none claims evidence)
    {state : CommittedAccessState} (hstate : state.membership.status = .pendingReview) :
    ∃ r, Runs (ensureAuthPrincipalProvisioned (P := P) host admission gatewayAuthority input)
      (committingEvents host input claims evidence state) r := by
  have hcontext : contextFromCommitted (P := P) gatewayAuthority state =
      .done (.pendingReview state.user { state.membership with status := .pendingReview }
        state.workspace) := by
    simp only [contextFromCommitted, hstate]
  have hcommit : Runs (planAndCommit (P := P) host admission gatewayAuthority input none claims []
      evidence) [⟨.commitSignInPlan input.authUserId input.workspaceId
        (planSignIn host input.workspaceId input.now claims evidence) input.correlationId input.now,
        .ok (.success state [])⟩] (.ok (.success (.pendingReview state.user
          { state.membership with status := .pendingReview } state.workspace) [])) := by
    rw [planAndCommit_of_commits h]
    refine Runs.await ?_
    simp only [afterCommit, succeedWith, hcontext]
    exact .done _
  exact ⟨_, Runs.await (Runs.await (Process.Runs.tryCatch (Runs.await hcommit) _))⟩

/-- In every run of a sign-in : memberships become active only through one usable reservation,
with its roles and overrides; users are created only for a verified email that nobody has;
identities are linked only to the user that is created; and a user is created only for a person
whom a usable reservation or the policy mode itself admits. This is so exactly when the run does
not read an unusable reservation of a new person whom the mode does not admit. -/
theorem sign_in_admits_iff {r : Except Unit (AdapterOutcome (AccessContext P))}
    (h : Runs (ensureAuthPrincipalProvisioned host admission gatewayAuthority input) events r) :
    AdmitsOnly host admission input events ↔ ¬ ReadsUnusable host admission input events :=
  admitsOnly_iff_of_signInRun (signInRun_of_runs h)

end

namespace SignInExample

def host : AccessHost where
  nfkc := id
  toLowerCase := id
  dateParse s := if s = "2026-07-01T10:00:00.000Z" then some 1782900000000 else some 1782900005000

def input : EnsureProvisionedInput where
  authUserId := "auth_ada"
  workspaceId := "workspace_summit"
  correlationId := "corr_ada"
  now := "2026-07-01T10:00:05.000Z"

def claims : ExternalIdentityClaims where
  provider := "google"
  issuer := "https://accounts.google.com"
  subject := "ada"
  email := some "ada@example.com"
  emailVerified := true
  displayName := some "Ada"
  hostedDomain := none
  avatar := none

def reservation : AccessReservation where
  id := "reservation_ada"
  workspaceId := "workspace_summit"
  normalizedEmail := "ada@example.com"
  roleAssignments := []
  permissionOverrides := []
  status := .open
  expiresAt := some "2026-07-01T10:00:00.000Z"

def evidence (reservation : Option AccessReservation) : SignInEvidence :=
  ⟨none, none, none, none, reservation⟩

def state : CommittedAccessState where
  user := ⟨"user_ada", "Ada", some "ada@example.com", none⟩
  membership := ⟨"membership_ada", "workspace_summit", .pendingReview, 1⟩
  workspace := ⟨"workspace_summit", "Summit"⟩

theorem newPerson (reservation : Option AccessReservation) :
    NewPerson claims (evidence reservation) :=
  ⟨by decide, rfl, rfl⟩

theorem unusable : usableReservation host input.workspaceId input.now claims (some reservation) =
    none := by
  have hlater : host.later "2026-07-01T10:00:00.000Z" input.now = false := by decide
  have hexpired : ∀ email, reservationIsUsable host reservation email input.workspaceId input.now =
      false := by
    intro email
    change (_ && host.later "2026-07-01T10:00:00.000Z" input.now) = false
    rw [hlater, Bool.and_false]
  cases hemail : claims.verifiedEmail with
  | none => rw [usableReservation, hemail, Option.bind_none]
  | some email => rw [usableReservation, hemail, Option.bind_some, Option.filter_some, hexpired,
      if_neg Bool.false_ne_true]

theorem foundUnusable :
    FoundUnusable host ⟨.reservationOnly, none⟩ input claims (evidence (some reservation)) :=
  ⟨newPerson _, rfl, unusable, rfl⟩

end SignInExample

open SignInExample in
/-- In a workspace that admits reserved people only, an expired reservation makes a user. -/
theorem expired_reservation_creates_user :
    ∃ (events : List (SignInEvent Unit))
      (r : Except Unit (AdapterOutcome (AccessContext Unit))),
      Runs (ensureAuthPrincipalProvisioned host ⟨.reservationOnly, none⟩ false input) events r ∧
        ¬ AdmitsOnly host ⟨.reservationOnly, none⟩ input events := by
  obtain ⟨r, hrun⟩ := runs_committingEvents foundUnusable.commits.1
    (show state.membership.status = .pendingReview from rfl)
  refine ⟨_, r, hrun, fun hadmits => ?_⟩
  exact (admitsOnly_iff_of_signInRun (signInRun_of_runs hrun)).mp hadmits
    ⟨none, claims, [], evidence (some reservation), List.mem_cons_self, rfl,
      List.mem_cons_of_mem _ List.mem_cons_self,
      List.mem_cons_of_mem _ (List.mem_cons_of_mem _ List.mem_cons_self), foundUnusable⟩

open SignInExample in
/-- In an open workspace the person without a reservation is admitted as the mode says. -/
theorem sign_in_admits_pending :
    AdmitsOnly host ⟨.pending, none⟩ input
      (committingEvents (P := Unit) host input claims (evidence none) state) := by
  have hcommits : Commits host ⟨.pending, none⟩ input none claims (evidence none) := by
    refine ⟨nofun, fun _ _ => rfl, .inr ?_⟩
    have hemail : claims.verifiedEmail = some "ada@example.com" := by decide
    rw [planSignIn_of_newPerson hemail rfl rfl]
    rfl
  obtain ⟨r, hrun⟩ := @runs_committingEvents Unit _ _ false _ _ _ hcommits state rfl
  refine (sign_in_admits_iff hrun).mpr ?_
  rintro ⟨link, claims', notices, evidence', -, -, -, -, hfound⟩
  exact Bool.noConfusion hfound.closed

end JooEvents
