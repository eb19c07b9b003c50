import JooEvents.Access.Authority
import JooEvents.Kernel.Time
import JooEvents.Lib.SortedKeys

/-!
# Autonomy

`evaluateAutonomy` decides whether an invocation may proceed unattended. What it is given is read
first (`readAutonomy`), and then the checks are made in their order (`decideAutonomy`) : authority,
failures, bounds and risk. Work outside of its bounds needs an approval that agrees with it in
every field (`approvalMatches`); what asks for one says all of them (`InterventionRequest`).

An instant is a text that `parseUtcInstant` accepts, in whatever precision. Of what it accepts,
`Date.parse` is the moment of its canonical form.
-/

namespace JooEvents

open Fallible

inductive OperationRisk where
  | low
  | normal
  | consequential

inductive AutonomyDisposition where
  | proceed
  | safeRetry
  | reconcile
  | renewedApproval
  | replan
  | compensate
  | block
  | attention
  deriving DecidableEq

inductive AutonomyTrigger where
  | authorityLost
  | unattendedBoundsExceeded
  | approvalRequired
  | knownRetryableFailure
  | ambiguousExternalEffect
  | stalePlan
  | compensationRequired
  | terminalFailure
  deriving DecidableEq

/-- `AUTONOMY_TRIGGERS`, with their texts. -/
def autonomyTriggers : List (AutonomyTrigger × String) :=
  [(.authorityLost, "authority_lost"), (.unattendedBoundsExceeded, "unattended_bounds_exceeded"),
    (.approvalRequired, "approval_required"), (.knownRetryableFailure, "known_retryable_failure"),
    (.ambiguousExternalEffect, "ambiguous_external_effect"), (.stalePlan, "stale_plan"),
    (.compensationRequired, "compensation_required"), (.terminalFailure, "terminal_failure")]

inductive AutonomyError where
  | typeError (message : String)
  /-- What `parseUtcInstant` throws. -/
  | instant
  deriving DecidableEq

/-! ## Values -/

@[ext] structure VersionedDefinitionRef where
  key : String
  version : ℤ
  deriving DecidableEq

structure OperationVersion where
  name : String
  version : ℤ
  deriving DecidableEq

structure ProposedAction extends VersionedDefinitionRef where
  digestSha256 : String
  deriving DecidableEq

/-- Bounds, with their instant as text or as it was read. -/
structure AutonomyBounds (T : Type) where
  scopeKeys : List String
  maximumSpendMicros : ℤ
  maximumActions : ℤ
  notAfter : T

structure OperationAutonomyPolicy where
  definition : VersionedDefinitionRef
  operation : OperationVersion
  riskFloor : OperationRisk
  unattendedRiskCeiling : OperationRisk
  supportedDispositions : List AutonomyDisposition
  triggerDispositions : AutonomyTrigger → AutonomyDisposition
  requiresSeparateApproval : Bool

structure AutonomyPolicyProfile (T : Type) where
  definition : VersionedDefinitionRef
  maximumUnattendedRisk : OperationRisk
  maximumSpendMicros : ℤ
  maximumActions : ℤ
  notAfter : T

inductive WorkFailure where
  | none
  | knownRetryable (semanticAnchorId : Option String)
  | acceptanceUnknown (semanticAnchorId : String)
  | stalePlan
  | compensationRequired
  | terminal

inductive AutonomyAuthorityKind where
  | human
  | participant
  | publicOpen
  | publicCapability
  | externalMcp
  | appModel
  | registeredMachine
  deriving DecidableEq

structure AutonomyAuthority where
  current : Bool
  permitted : Bool
  principalKey : String
  kind : AutonomyAuthorityKind
  hardBounds : AutonomyBounds String

structure AutonomyInvocation where
  operation : OperationVersion
  surface : OperationSurface
  effect : OperationEffect
  resolvedRisk : OperationRisk
  requestOrPlanDigestSha256 : String
  proposedAction : ProposedAction
  scopeKeys : List String
  spendMicros : ℤ
  actionCount : ℤ
  completesBy : String
  authority : AutonomyAuthority
  unattendedBounds : Option (AutonomyBounds String)
  failure : WorkFailure
  consequenceEvidenceIds : List String

structure RenewedApprovalEvidence where
  id : String
  policy : VersionedDefinitionRef
  profile : Option VersionedDefinitionRef
  operation : OperationVersion
  requestOrPlanDigestSha256 : String
  proposedAction : ProposedAction
  scopeKeys : List String
  maximumSpendMicros : ℤ
  maximumActions : ℤ
  notAfter : String
  proposerPrincipalKey : String
  approverPrincipalKey : String
  issuedAt : String
  expiresAt : String
  evidenceIds : List String

structure InterventionRequest where
  trigger : AutonomyTrigger
  policy : VersionedDefinitionRef
  profile : Option VersionedDefinitionRef
  operation : OperationVersion
  requestOrPlanDigestSha256 : String
  proposedAction : ProposedAction
  scopeKeys : List String
  requestedSpendMicros : ℤ
  requestedActions : ℤ
  notAfter : String
  proposerPrincipalKey : String
  evidenceIds : List String
  deriving DecidableEq

inductive AutonomyDecision where
  | proceed
  | safeRetry (semanticAnchorId : String)
  | reconcile (semanticAnchorId : String)
  | renewedApproval (request : InterventionRequest)
  | replan (trigger : AutonomyTrigger)
  | compensate (trigger : AutonomyTrigger)
  | block (trigger : AutonomyTrigger)
  | attention (trigger : AutonomyTrigger)
  deriving DecidableEq

/-! ## Checks -/

/-- `Number.isSafeInteger(value) && value >= 0`. -/
def isNonnegativeSafeInteger (value : ℤ) : Bool := decide (0 ≤ value ∧ value ≤ maxSafeInteger)

def isSha256 (value : String) : Bool := matchesShape (List.replicate 64 isHexChar) value.toList

def parseUtcInstant (value : String) : Except AutonomyError Instant :=
  orRefuse (parseInstant value) .instant

def assertVersionedRef (reference : VersionedDefinitionRef) (label : String) :
    Except AutonomyError Unit :=
  require (stableKeyPattern reference.key = true ∧ isPositiveSafeInteger reference.version = true)
    (.typeError (label ++ " must be a stable versioned reference"))

def assertOperation (operation : OperationVersion) (label : String) : Except AutonomyError Unit :=
  require (stableKeyPattern operation.name = true ∧ isPositiveSafeInteger operation.version = true)
    (.typeError (label ++ " must identify an exact operation version"))

def assertDigest (value label : String) : Except AutonomyError Unit :=
  require (isSha256 value = true) (.typeError (label ++ " must be a lowercase SHA-256 digest"))

/-- The values without order, if they are stable keys and no two are one. -/
def normalizedUnique (values : List String) (label : String) (allowEmpty : Bool) :
    Except AutonomyError (List String) := do
  require ((allowEmpty = true ∨ values ≠ []) ∧ ∀ value ∈ values, stableKeyPattern value = true)
    (.typeError (label ++ " must contain stable scope/evidence keys"))
  let result := values.dedup.sortByKey codeUnits
  require (result.length = values.length) (.typeError (label ++ " contains duplicates"))
  pure result

def assertNonnegative (value : ℤ) (label : String) : Except AutonomyError Unit :=
  require (isNonnegativeSafeInteger value = true)
    (.typeError (label ++ " must be a nonnegative safe integer"))

def assertBounds (bounds : AutonomyBounds String) (label : String) :
    Except AutonomyError (AutonomyBounds Instant) := do
  let scopeKeys ← normalizedUnique bounds.scopeKeys (label ++ ".scopeKeys") false
  assertNonnegative bounds.maximumSpendMicros (label ++ ".maximumSpendMicros")
  assertNonnegative bounds.maximumActions (label ++ ".maximumActions")
  let notAfter ← parseUtcInstant bounds.notAfter
  pure { bounds with scopeKeys, notAfter }

def riskRank : OperationRisk → ℕ
  | .low => 0
  | .normal => 1
  | .consequential => 2

def minimumRisk (left right : OperationRisk) : OperationRisk :=
  if riskRank left ≤ riskRank right then left else right

def maximumRisk (left right : OperationRisk) : OperationRisk :=
  if riskRank left ≥ riskRank right then left else right

def earlier (left right : Instant) : Instant := if left.millis ≤ right.millis then left else right

def validateOperationAutonomyPolicy (policy : OperationAutonomyPolicy) :
    Except AutonomyError Unit := do
  assertVersionedRef policy.definition "autonomy policy"
  assertOperation policy.operation "autonomy policy operation"
  require (policy.supportedDispositions.Nodup ∧ policy.supportedDispositions ≠ [])
    (.typeError "autonomy policy dispositions must be unique and nonempty")
  require (.proceed ∈ policy.supportedDispositions)
    (.typeError "autonomy policy must explicitly support proceeding inside bounds")
  autonomyTriggers.forM fun (trigger, text) =>
    require (policy.triggerDispositions trigger ≠ .proceed ∧
        policy.triggerDispositions trigger ∈ policy.supportedDispositions)
      (.typeError ("trigger " ++ text ++ " selects an unsupported disposition"))
  require (policy.triggerDispositions .authorityLost = .block)
    (.typeError "lost authority is a non-lowerable block")
  require (policy.triggerDispositions .ambiguousExternalEffect ≠ .safeRetry)
    (.typeError "ambiguous external effects cannot select blind retry")
  require (policy.triggerDispositions .approvalRequired ∈
      [AutonomyDisposition.renewedApproval, .block])
    (.typeError "approval-required work must pause for exact approval or block")

def validateAutonomyPolicyProfile (profile : AutonomyPolicyProfile String) :
    Except AutonomyError (AutonomyPolicyProfile Instant) := do
  assertVersionedRef profile.definition "autonomy profile"
  assertNonnegative profile.maximumSpendMicros "autonomy profile maximumSpendMicros"
  assertNonnegative profile.maximumActions "autonomy profile maximumActions"
  let notAfter ← parseUtcInstant profile.notAfter
  pure { profile with notAfter }

/-- The request for an approval of an invocation, as it was given. -/
def interventionRequest (policy : OperationAutonomyPolicy) (trigger : AutonomyTrigger)
    (invocation : AutonomyInvocation) (profile : Option (AutonomyPolicyProfile Instant)) :
    InterventionRequest :=
  { trigger, policy := policy.definition, profile := profile.map (·.definition)
    operation := invocation.operation
    requestOrPlanDigestSha256 := invocation.requestOrPlanDigestSha256
    proposedAction := invocation.proposedAction
    scopeKeys := invocation.scopeKeys.sortByKey codeUnits
    requestedSpendMicros := invocation.spendMicros, requestedActions := invocation.actionCount
    notAfter := invocation.completesBy
    proposerPrincipalKey := invocation.authority.principalKey
    evidenceIds := invocation.consequenceEvidenceIds.sortByKey codeUnits }

def triggerDecision (policy : OperationAutonomyPolicy) (trigger : AutonomyTrigger)
    (invocation : AutonomyInvocation) (profile : Option (AutonomyPolicyProfile Instant)) :
    AutonomyDecision :=
  match policy.triggerDispositions trigger with
  | .renewedApproval => .renewedApproval (interventionRequest policy trigger invocation profile)
  | .safeRetry =>
    match invocation.failure with
    | .knownRetryable (some semanticAnchorId) =>
      if semanticAnchorId = "" then .attention trigger else .safeRetry semanticAnchorId
    | _ => .attention trigger
  | .reconcile =>
    match invocation.failure with
    | .acceptanceUnknown semanticAnchorId => .reconcile semanticAnchorId
    | _ => .attention trigger
  | .replan => .replan trigger
  | .compensate => .compensate trigger
  | .block => .block trigger
  | .attention => .attention trigger
  | .proceed => .proceed

/-! ## The evaluation -/

structure EvaluateAutonomyInput where
  policy : OperationAutonomyPolicy
  invocation : AutonomyInvocation
  profile : Option (AutonomyPolicyProfile String)
  now : String
  renewedApproval : Option RenewedApprovalEvidence
  approverCurrentlyAuthorized : Bool

/-- What an evaluation is made on, as it was read. -/
structure AutonomyReading where
  now : Instant
  scopes : List String
  evidenceIds : List String
  completesBy : Instant
  hardBounds : AutonomyBounds Instant
  unattendedBounds : AutonomyBounds Instant
  profile : Option (AutonomyPolicyProfile Instant)

/-- The unattended bounds, where there are none of their own those of the authority. -/
def readUnattendedBounds (unattendedBounds : Option (AutonomyBounds String))
    (hardBounds : AutonomyBounds Instant) : Except AutonomyError (AutonomyBounds Instant) :=
  match unattendedBounds with
  | some bounds => assertBounds bounds "unattended bounds"
  | none => .ok hardBounds

def readAutonomy (input : EvaluateAutonomyInput) : Except AutonomyError AutonomyReading := do
  validateOperationAutonomyPolicy input.policy
  let now ← parseUtcInstant input.now
  let invocation := input.invocation
  assertOperation invocation.operation "invocation operation"
  require (input.policy.operation = invocation.operation)
    (.typeError "autonomy policy operation mismatch")
  assertDigest invocation.requestOrPlanDigestSha256 "request/plan digest"
  assertVersionedRef invocation.proposedAction.toVersionedDefinitionRef "proposed action"
  assertDigest invocation.proposedAction.digestSha256 "proposed action digest"
  let scopes ← normalizedUnique invocation.scopeKeys "invocation.scopeKeys" false
  let evidenceIds ←
    normalizedUnique invocation.consequenceEvidenceIds "invocation.consequenceEvidenceIds" true
  assertNonnegative invocation.spendMicros "invocation.spendMicros"
  assertNonnegative invocation.actionCount "invocation.actionCount"
  let completesBy ← parseUtcInstant invocation.completesBy
  let hardBounds ← assertBounds invocation.authority.hardBounds "authority hard bounds"
  let unattendedBounds ← readUnattendedBounds invocation.unattendedBounds hardBounds
  let profile ← input.profile.mapM validateAutonomyPolicyProfile
  pure { now, scopes, evidenceIds, completesBy, hardBounds, unattendedBounds, profile }

/-- The instants of an approval whose fields are well formed. -/
def readApproval (approval : RenewedApprovalEvidence) :
    Except AutonomyError (Instant × Instant × Instant) := do
  assertVersionedRef approval.policy "renewed approval policy"
  approval.profile.forM fun profile => assertVersionedRef profile "renewed approval profile"
  assertOperation approval.operation "renewed approval operation"
  assertDigest approval.requestOrPlanDigestSha256 "renewed approval request/plan digest"
  assertVersionedRef approval.proposedAction.toVersionedDefinitionRef "renewed approval action"
  assertDigest approval.proposedAction.digestSha256 "renewed approval action digest"
  let _ ← normalizedUnique approval.scopeKeys "renewed approval scope keys" false
  let _ ← normalizedUnique approval.evidenceIds "renewed approval evidence IDs" true
  assertNonnegative approval.maximumSpendMicros "renewed approval maximum spend"
  assertNonnegative approval.maximumActions "renewed approval maximum actions"
  let issuedAt ← parseUtcInstant approval.issuedAt
  let expiresAt ← parseUtcInstant approval.expiresAt
  let notAfter ← parseUtcInstant approval.notAfter
  pure (issuedAt, expiresAt, notAfter)

section

variable (policy : OperationAutonomyPolicy) (invocation : AutonomyInvocation)
variable (reading : AutonomyReading)

/-- An approval is of this invocation : its scopes, evidence and instant are compared with what
was read. -/
def ApprovesInvocation (approval : RenewedApprovalEvidence) : Prop :=
  approval.policy = policy.definition ∧
  approval.profile = reading.profile.map (·.definition) ∧
  approval.operation = invocation.operation ∧
  approval.requestOrPlanDigestSha256 = invocation.requestOrPlanDigestSha256 ∧
  approval.proposedAction.toVersionedDefinitionRef =
    invocation.proposedAction.toVersionedDefinitionRef ∧
  approval.proposedAction.digestSha256 = invocation.proposedAction.digestSha256 ∧
  approval.scopeKeys.sortByKey codeUnits = reading.scopes.sortByKey codeUnits ∧
  approval.maximumSpendMicros = invocation.spendMicros ∧
  approval.maximumActions = invocation.actionCount ∧
  approval.notAfter = reading.completesBy.val ∧
  approval.proposerPrincipalKey = invocation.authority.principalKey ∧
  approval.approverPrincipalKey ≠ approval.proposerPrincipalKey ∧
  approval.evidenceIds.sortByKey codeUnits = reading.evidenceIds.sortByKey codeUnits

instance (approval : RenewedApprovalEvidence) :
    Decidable (ApprovesInvocation policy invocation reading approval) := by
  unfold ApprovesInvocation
  infer_instance

def approvalMatches (approval : Option RenewedApprovalEvidence)
    (approverCurrentlyAuthorized : Bool) : Bool :=
  match approval with
  | none => false
  | some approval =>
    approverCurrentlyAuthorized &&
      match readApproval approval with
      | .error _ => false
      | .ok (issuedAt, expiresAt, notAfter) =>
        decide (ApprovesInvocation policy invocation reading approval ∧
          issuedAt.millis ≤ reading.now.millis ∧ reading.now.millis < expiresAt.millis ∧
          expiresAt.millis ≤ notAfter.millis)

def authorityKindMatchesSurface : Bool :=
  match invocation.surface with
  | .operatorHttp => invocation.authority.kind = .human
  | .participantHttp => invocation.authority.kind = .participant
  | .publicHttp => invocation.authority.kind = .publicCapability ∨
      (invocation.authority.kind = .publicOpen ∧ invocation.effect = .read)
  | .externalMcp => invocation.authority.kind = .externalMcp
  | .appModel => invocation.authority.kind = .appModel
  | .applicationJob => invocation.authority.kind = .registeredMachine
  | .providerIngress => invocation.authority.kind = .registeredMachine

def Outside (scopeKeys : List String) (spendMicros actions : ℤ) (notAfter : Instant) : Prop :=
  (¬ ∀ scope ∈ reading.scopes, scope ∈ scopeKeys) ∨ spendMicros < invocation.spendMicros ∨
    actions < invocation.actionCount ∨ notAfter.millis < reading.completesBy.millis ∨
    notAfter.millis ≤ reading.now.millis

instance (scopeKeys : List String) (spendMicros actions : ℤ) (notAfter : Instant) :
    Decidable (Outside invocation reading scopeKeys spendMicros actions notAfter) := by
  unfold Outside
  infer_instance

def outsideHardAuthority : Bool :=
  Outside invocation reading reading.hardBounds.scopeKeys reading.hardBounds.maximumSpendMicros
    reading.hardBounds.maximumActions reading.hardBounds.notAfter

def outsideUnattendedBounds : Bool :=
  let effectiveSpend := min reading.unattendedBounds.maximumSpendMicros
    ((reading.profile.map (·.maximumSpendMicros)).getD maxSafeInteger)
  let effectiveActions := min reading.unattendedBounds.maximumActions
    ((reading.profile.map (·.maximumActions)).getD maxSafeInteger)
  let effectiveNotAfter := earlier reading.unattendedBounds.notAfter
    ((reading.profile.map (·.notAfter)).getD reading.hardBounds.notAfter)
  Outside invocation reading reading.unattendedBounds.scopeKeys effectiveSpend effectiveActions
    effectiveNotAfter

def requiresApproval : Bool :=
  let profileCeiling :=
    (reading.profile.map (·.maximumUnattendedRisk)).getD policy.unattendedRiskCeiling
  let effectiveCeiling := minimumRisk policy.unattendedRiskCeiling profileCeiling
  let effectiveRisk := maximumRisk policy.riskFloor invocation.resolvedRisk
  outsideUnattendedBounds invocation reading ||
    decide (riskRank effectiveCeiling < riskRank effectiveRisk) ||
    policy.requiresSeparateApproval

def approvalTrigger : AutonomyTrigger :=
  if outsideUnattendedBounds invocation reading then .unattendedBoundsExceeded
  else .approvalRequired

/-- The decision on work that authority admits : failures come first, then the approval. -/
def decideAdmittedWork (approved : Bool) : AutonomyDecision :=
  match invocation.failure with
  | .acceptanceUnknown _ =>
    triggerDecision policy .ambiguousExternalEffect invocation reading.profile
  | .stalePlan => triggerDecision policy .stalePlan invocation reading.profile
  | .compensationRequired => triggerDecision policy .compensationRequired invocation reading.profile
  | .terminal => triggerDecision policy .terminalFailure invocation reading.profile
  | .none =>
    if requiresApproval policy invocation reading = true ∧ approved = false then
      triggerDecision policy (approvalTrigger invocation reading) invocation reading.profile
    else .proceed
  | .knownRetryable _ =>
    if requiresApproval policy invocation reading = true ∧ approved = false then
      triggerDecision policy (approvalTrigger invocation reading) invocation reading.profile
    else triggerDecision policy .knownRetryableFailure invocation reading.profile

/-- The decision on what was read, with the approval that was given. -/
def decideAutonomy (approval : Option RenewedApprovalEvidence)
    (approverCurrentlyAuthorized : Bool) : AutonomyDecision :=
  if invocation.surface = .appModel ∧ invocation.effect = .commit then .block .authorityLost
  else if authorityKindMatchesSurface invocation = false then .block .authorityLost
  else if invocation.authority.current = false ∨ invocation.authority.permitted = false then
    triggerDecision policy .authorityLost invocation reading.profile
  else if outsideHardAuthority invocation reading then .block .authorityLost
  else decideAdmittedWork policy invocation reading
    (approvalMatches policy invocation reading approval approverCurrentlyAuthorized)

end

def evaluateAutonomy (input : EvaluateAutonomyInput) : Except AutonomyError AutonomyDecision := do
  let reading ← readAutonomy input
  pure (decideAutonomy input.policy input.invocation reading input.renewedApproval
    input.approverCurrentlyAuthorized)

end JooEvents
