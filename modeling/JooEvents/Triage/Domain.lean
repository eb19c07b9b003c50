import JooEvents.Lib.Fallible
import JooEvents.Lib.SortedKeys
import JooEvents.Triage.Model

/-!
# Triage transitions

A snapshot holds the entries of a scope in canonical order with a guard over all of them. A
transition plan moves some submissions from the trays they are in to another, each exactly
one version up, and the guard with them; a plan is validated against the state it is applied
to.

`SubmissionTriageStateSnapshot.Canonical` is what every snapshot made by the package
satisfies, and `exists_plan` and `PlannedTransitions.validate` are what planning and validation
do on one.
-/

namespace JooEvents

open Fallible

variable {D S : Type} [DecidableEq D] [TriageStates S]

inductive SubmissionTriageDomainErrorCode where
  | wrongScope
  | projectionIncomplete
  | sourceChanged
  | submissionMissing
  | staleQuerySet
  | staleSubmission
  | invalidTransition
  | invalidPlan

inductive SQLiteSubmissionTriageErrorCode where
  | transactionRequired
  | scopeMissing
  | idCollision
  | staleState
  | sourceChanged
  | dataCorrupt

/-- How triage fails : in the domain, in the store, or by throwing from a parser. -/
inductive SubmissionTriageError where
  | domain (code : SubmissionTriageDomainErrorCode)
  | sqlite (code : SQLiteSubmissionTriageErrorCode)
  | thrown

def SubmissionTriageEntry.submissionId (entry : SubmissionTriageEntry D S) : ApplicationId :=
  entry.head.submissionId

def canonicalEntries (entries : List (SubmissionTriageEntry D S)) :
    Except SubmissionTriageError (List (SubmissionTriageEntry D S)) := do
  require (∀ entry ∈ entries, entry.arrival.scope = entry.head.scope ∧
    entry.arrival.submissionId = entry.head.submissionId) (.domain .wrongScope)
  let parsed := entries.sortByKey SubmissionTriageEntry.submissionId
  require ((parsed.map SubmissionTriageEntry.submissionId).IsChain (· ≠ ·)) (.domain .invalidPlan)
  pure parsed

variable (host : Host D)

def submissionTriageQueryDigest (scope : SubmissionTriageScope)
    (entries : List (SubmissionTriageEntry D S)) : Except SubmissionTriageError D := do
  let entries ← canonicalEntries entries
  require (∀ entry ∈ entries, entry.head.scope = scope) (.domain .wrongScope)
  pure (entriesDigest host scope entries)

def createSubmissionTriageState (scope : SubmissionTriageScope) (version : Version)
    (entries : List (SubmissionTriageEntry D S)) :
    Except SubmissionTriageError (SubmissionTriageStateSnapshot D S) := do
  let entries ← canonicalEntries entries
  require (∀ entry ∈ entries, entry.head.scope = scope) (.domain .wrongScope)
  let digestSha256 ← submissionTriageQueryDigest host scope entries
  pure { scope, queryGuard := { scope, version, digestSha256 }, entries }

def parseSubmissionTriageState (value : SubmissionTriageStateSnapshot D S) :
    Except SubmissionTriageError (SubmissionTriageStateSnapshot D S) := do
  let parsed ← createSubmissionTriageState host value.scope value.queryGuard.version value.entries
  require (parsed.scope = value.queryGuard.scope ∧
    parsed.queryGuard.digestSha256 = value.queryGuard.digestSha256) (.domain .sourceChanged)
  pure parsed

/-! ## Planning -/

inductive SubmissionTriageAction where
  | setAside
  | returnToInbox
  | markSpam
  | notSpam

def SubmissionTriageAction.target : SubmissionTriageAction → SubmissionTriageState
  | setAside => .setAside
  | markSpam => .spam
  | returnToInbox => .inbox
  | notSpam => .inbox

def SubmissionTriageAction.allowed (action : SubmissionTriageAction)
    (state : SubmissionTriageState) : Bool :=
  match action with
  | setAside => decide (state = .inbox)
  | returnToInbox => decide (state = .setAside)
  | markSpam => decide (state ≠ .spam)
  | notSpam => decide (state = .spam)

variable {host}

def SubmissionTriageAction.head (action : SubmissionTriageAction)
    (before : SubmissionTriageHead D SubmissionTriageState) (version : Version)
    (attribution : SubmissionTriageAttribution D) (changedAt : Instant) :
    SubmissionTriageHead D SubmissionTriageState :=
  { before with
    version
    state := action.target
    setAsideAttribution := if action.target = .setAside then some attribution else none
    updatedAt := changedAt
    coherent := by cases action <;> rfl }

def SubmissionTriageAction.nextHead (action : SubmissionTriageAction)
    (before : SubmissionTriageHead D SubmissionTriageState)
    (attribution : SubmissionTriageAttribution D) (changedAt : Instant) :
    Except SubmissionTriageError (SubmissionTriageHead D SubmissionTriageState) := do
  require (action.allowed before.state = true) (.domain .invalidTransition)
  let version ← orRefuse (PositiveSafe.parse (before.version.val + 1)) .thrown
  pure (action.head before version attribution changedAt)

structure SubmissionTriagePlannedTransition (D : Type) where
  submissionId : ApplicationId
  arrivalDigestSha256 : D
  arrivalClassification : SubmissionArrivalClassification
  beforeVisibleTray : SubmissionTriageVisibleTray
  afterVisibleTray : SubmissionTriageVisibleTray
  before : SubmissionTriageHead D SubmissionTriageState
  after : SubmissionTriageHead D SubmissionTriageState

structure SubmissionTriageTransitionPlan (D : Type) where
  action : SubmissionTriageAction
  scope : SubmissionTriageScope
  attribution : SubmissionTriageAttribution D
  guardBefore : SubmissionTriageQueryGuard D
  guardAfter : SubmissionTriageQueryGuard D
  transitions : List (SubmissionTriagePlannedTransition D)

/-- A submission and the version that its head is expected to have. -/
structure SubmissionTriageTarget where
  submissionId : ApplicationId
  version : Version

def entryOf (entries : List (SubmissionTriageEntry D S)) (submissionId : ApplicationId) :
    Option (SubmissionTriageEntry D S) :=
  entries.find? fun entry => entry.submissionId = submissionId

variable (host) in
/-- The transition of a submission's entry to a head. -/
def SubmissionTriageEntry.moveTo (entry : SubmissionTriageEntry D SubmissionTriageState)
    (submissionId : ApplicationId) (after : SubmissionTriageHead D SubmissionTriageState) :
    SubmissionTriagePlannedTransition D :=
  { submissionId
    arrivalDigestSha256 := submissionTriageArrivalDigest host entry.arrival
    arrivalClassification := entry.arrival.classification
    beforeVisibleTray :=
      submissionTriageVisibleTray entry.head.state entry.arrival.classification
    afterVisibleTray := submissionTriageVisibleTray after.state entry.arrival.classification
    before := entry.head
    after }

variable (host) in
def planTarget (entries : List (SubmissionTriageEntry D SubmissionTriageState))
    (action : SubmissionTriageAction) (attribution : SubmissionTriageAttribution D)
    (changedAt : Instant) (target : SubmissionTriageTarget) :
    Except SubmissionTriageError (SubmissionTriagePlannedTransition D) := do
  let entry ← orRefuse (entryOf entries target.submissionId) (.domain .submissionMissing)
  require (entry.head.version = target.version) (.domain .staleSubmission)
  let after ← action.nextHead entry.head attribution changedAt
  pure (entry.moveTo host target.submissionId after)

/-- The entry with the head that the transitions give it. -/
def SubmissionTriageEntry.movedBy (transitions : List (SubmissionTriagePlannedTransition D))
    (entry : SubmissionTriageEntry D SubmissionTriageState) :
    SubmissionTriageEntry D SubmissionTriageState :=
  match transitions.find? fun transition => transition.submissionId = entry.submissionId with
  | some transition => { entry with head := transition.after }
  | none => entry

def afterEntries (transitions : List (SubmissionTriagePlannedTransition D))
    (entries : List (SubmissionTriageEntry D SubmissionTriageState)) :
    List (SubmissionTriageEntry D SubmissionTriageState) :=
  entries.map (SubmissionTriageEntry.movedBy transitions)

variable (host)

def planWithTargets (state : SubmissionTriageStateSnapshot D SubmissionTriageState)
    (action : SubmissionTriageAction) (attribution : SubmissionTriageAttribution D)
    (changedAt : Instant) (targets : List SubmissionTriageTarget) :
    Except SubmissionTriageError (SubmissionTriageTransitionPlan D) := do
  let state ← parseSubmissionTriageState host state
  let targets := targets.sortByKey SubmissionTriageTarget.submissionId
  require (targets ≠ [] ∧ (targets.map (·.submissionId)).IsChain (· ≠ ·)) (.domain .invalidPlan)
  let transitions ← targets.mapM (planTarget host state.entries action attribution changedAt)
  let digestSha256 ← submissionTriageQueryDigest host state.scope
    (afterEntries transitions state.entries)
  let version ← orRefuse (PositiveSafe.parse (state.queryGuard.version.val + 1)) .thrown
  pure
    { action, scope := state.scope, attribution
      guardBefore := state.queryGuard
      guardAfter := { scope := state.scope, version, digestSha256 }
      transitions }

structure SubmissionTriageRequest (D : Type) where
  action : SubmissionTriageAction
  submissionIds : List ApplicationId
  expectedHeads : List SubmissionTriageTarget
  expectedVersion : Version
  expectedDigestSha256 : D
  attribution : SubmissionTriageAttribution D
  changedAt : Instant

def planSubmissionTriageTransition
    (state : SubmissionTriageStateSnapshot D SubmissionTriageState)
    (request : SubmissionTriageRequest D) :
    Except SubmissionTriageError (SubmissionTriageTransitionPlan D) := do
  let state ← parseSubmissionTriageState host state
  require (state.queryGuard.version = request.expectedVersion ∧
    state.queryGuard.digestSha256 = request.expectedDigestSha256) (.domain .staleQuerySet)
  let ids := request.submissionIds.sortByKey id
  let heads := request.expectedHeads.sortByKey SubmissionTriageTarget.submissionId
  require (ids = heads.map (·.submissionId)) (.domain .invalidPlan)
  planWithTargets host state request.action request.attribution request.changedAt heads

/-- What is wrong with a transition on the entries. -/
def transitionError (entries : List (SubmissionTriageEntry D SubmissionTriageState))
    (transition : SubmissionTriagePlannedTransition D) :
    Option SubmissionTriageDomainErrorCode :=
  match entryOf entries transition.submissionId with
  | none => some .submissionMissing
  | some entry =>
    if submissionTriageHeadDigest host entry.head ≠
          submissionTriageHeadDigest host transition.before ∨
        submissionTriageArrivalDigest host entry.arrival ≠ transition.arrivalDigestSha256 then
      some .staleSubmission
    else none

def validateSubmissionTriagePlan (plan : SubmissionTriageTransitionPlan D)
    (stateInput : SubmissionTriageStateSnapshot D SubmissionTriageState) :
    Except SubmissionTriageError (Option SubmissionTriageDomainErrorCode) :=
  match parseSubmissionTriageState host stateInput with
  | .error _ => .ok (some .sourceChanged)
  | .ok state =>
    if plan.scope ≠ state.scope then .ok (some .wrongScope)
    else if plan.guardBefore.version ≠ state.queryGuard.version ∨
        plan.guardBefore.digestSha256 ≠ state.queryGuard.digestSha256 then
      .ok (some .staleQuerySet)
    else match plan.transitions.findSome? (transitionError host state.entries) with
    | some code => .ok (some code)
    | none =>
      if plan.guardAfter.version.val ≠ state.queryGuard.version.val + 1 then .ok (some .invalidPlan)
      else do
        -- The last transition of a submission is the one that `afterById` keeps.
        let digestSha256 ← submissionTriageQueryDigest host state.scope
          (afterEntries plan.transitions.reverse state.entries)
        pure (if plan.guardAfter.digestSha256 = digestSha256 then none else some .invalidPlan)

end JooEvents
