import JooEvents.Session.Plans

/-!
# Undoing session changes

A compensation puts the image of a session back that a change replaced, in a head with
the next version, or takes the session away that a change created. `planSessionCompensation`
plans it while nothing else has happened in the catalog,
`planSessionGraduationReversalAgainst` while nothing else has happened to the session. A
session that was just created can also be removed (`applyNewSessionRemovalPlan`).
-/

namespace JooEvents

open Fallible

variable {D : Type}

/-- A plan that puts an image of a session back, or takes the session away. -/
structure SessionRestorePlan (D : Type) where
  scope : SessionScope
  expectedCatalog : SessionCatalogGuard D
  expectedCurrent : SessionHead D
  restore : Option (SessionHead D)
  catalogBefore : SessionCatalogGuard D
  catalogAfter : SessionCatalogGuard D
  actorUserId : ApplicationId
  occurredAt : Instant

/-- A plan that removes a session that was just created. -/
structure SessionRemoveNewPlan (D : Type) where
  scope : SessionScope
  expectedCatalog : SessionCatalogGuard D
  expectedCurrent : SessionHead D
  catalogBefore : SessionCatalogGuard D
  catalogAfter : SessionCatalogGuard D
  actorUserId : ApplicationId
  occurredAt : Instant

/-- `sessionRestorePlanSchema`. -/
def parseSessionRestorePlan (host : Host D) (plan : SessionRestorePlan D) :
    Except SessionError (SessionRestorePlan D) := do
  require (headSchema host plan.expectedCurrent = true ∧
    plan.restore.all (headSchema host) = true) .thrown
  return plan

/-- `sessionRemoveNewPlanSchema`. -/
def parseSessionRemoveNewPlan (host : Host D) (plan : SessionRemoveNewPlan D) :
    Except SessionError (SessionRemoveNewPlan D) := do
  require (headSchema host plan.expectedCurrent = true) .thrown
  return plan

/-- The other sessions of a catalog, and a head in the place of the one with an identity, if
there is one. -/
def sessionsWithout (catalog : SessionCatalog D) (id : ApplicationId)
    (restore : Option (SessionHead D)) : List (SessionHead D) :=
  ((catalog.sessions.filter fun session => session.id ≠ id) ++ restore.toList).insertionSort
    fun left right => left.id ≤ right.id

variable [DecidableEq D]

/-- The image to put back : the one that a plan replaced, in a head with the next version. -/
def restoredImage (host : Host D) (original : SessionMutationPlan D) (current : SessionHead D)
    (actorUserId : ApplicationId) (occurredAt : Instant) :
    Except SessionError (Option (SessionHead D)) :=
  original.before.mapM fun prior => do
    let version ← nextVersion current.version
    parseSessionHead host <| signHead host
      { prior with version, updatedByUserId := actorUserId, updatedAt := occurredAt }

/-- The plan that undoes `original` in a catalog. -/
def restorePlanOf (host : Host D) (original : SessionMutationPlan D) (catalog : SessionCatalog D)
    (current : SessionHead D) (actorUserId : ApplicationId) (occurredAt : Instant) :
    Except SessionError (SessionRestorePlan D) := do
  let restore ← restoredImage host original current actorUserId occurredAt
  let afterCatalog ← catalogWith host catalog.scope (catalog.version.val + 1)
    (sessionsWithout catalog current.id restore)
  parseSessionRestorePlan host
    { scope := catalog.scope, expectedCatalog := catalog.guard, expectedCurrent := current
      restore, catalogBefore := catalog.guard, catalogAfter := afterCatalog.guard
      actorUserId, occurredAt }

def planSessionCompensation (host : Host D) (original : SessionMutationPlan D)
    (catalog : SessionCatalog D) (actorUserId : ApplicationId) (occurredAt : Instant) :
    Except SessionError (SessionRestorePlan D) := do
  let current ← orRefuse (findSession catalog original.after.id) (.planning .stale_session)
  require (current.digestSha256 = original.after.digestSha256 ∧
    catalog.version = original.catalogAfter.version ∧
    catalog.digestSha256 = original.catalogAfter.digestSha256) (.planning .stale_session)
  restorePlanOf host original catalog current actorUserId occurredAt

def planSessionGraduationReversalAgainst (host : Host D) (original : SessionMutationPlan D)
    (catalog : SessionCatalog D) (actorUserId : ApplicationId) (occurredAt : Instant) :
    Except SessionError (SessionRestorePlan D) := do
  let current ← orRefuse (findSession catalog original.after.id) (.planning .stale_session)
  require (current.digestSha256 = original.after.digestSha256) (.planning .stale_session)
  restorePlanOf host original catalog current actorUserId occurredAt

def applySessionRestorePlan (host : Host D) (plan : SessionRestorePlan D)
    (catalog : SessionCatalog D) :
    Except SessionError (SessionCatalog D × SessionMutationResult D) := do
  let plan ← parseSessionRestorePlan host plan
  requireCatalogGuard catalog plan.expectedCatalog.version plan.expectedCatalog.digestSha256
  require (catalog.scope = plan.scope) (.planning .wrong_scope)
  let current ← orRefuse (findSession catalog plan.expectedCurrent.id) (.planning .stale_session)
  require (current.digestSha256 = plan.expectedCurrent.digestSha256 ∧
    current.version = plan.expectedCurrent.version) (.planning .stale_session)
  let restore ← plan.restore.mapM (parseSessionHead host)
  let next ← catalogWith host catalog.scope plan.catalogAfter.version.val
    (sessionsWithout catalog current.id restore)
  require (next.digestSha256 = plan.catalogAfter.digestSha256) (.planning .invalid_plan)
  return (next, { action := .restore, catalogVersion := next.version, session := plan.restore })

def planNewSessionRemoval (host : Host D) (current : SessionHead D) (catalog : SessionCatalog D)
    (actorUserId : ApplicationId) (occurredAt : Instant) :
    Except SessionError (SessionRemoveNewPlan D) := do
  let found ← orRefuse (findSession catalog current.id) (.planning .stale_session)
  require (found.version = .one ∧ found.digestSha256 = current.digestSha256)
    (.planning .stale_session)
  let afterCatalog ← catalogWith host catalog.scope (catalog.version.val + 1)
    (catalog.sessions.filter fun session => session.id ≠ found.id)
  parseSessionRemoveNewPlan host
    { scope := catalog.scope, expectedCatalog := catalog.guard, expectedCurrent := found
      catalogBefore := catalog.guard, catalogAfter := afterCatalog.guard, actorUserId, occurredAt }

def applyNewSessionRemovalPlan (host : Host D) (plan : SessionRemoveNewPlan D)
    (catalog : SessionCatalog D) :
    Except SessionError (SessionCatalog D × SessionMutationResult D) := do
  let plan ← parseSessionRemoveNewPlan host plan
  requireCatalogGuard catalog plan.expectedCatalog.version plan.expectedCatalog.digestSha256
  require (catalog.scope = plan.scope) (.planning .wrong_scope)
  let current ← orRefuse (findSession catalog plan.expectedCurrent.id) (.planning .stale_session)
  require (current.version = .one ∧ current.version = plan.expectedCurrent.version ∧
    current.digestSha256 = plan.expectedCurrent.digestSha256) (.planning .stale_session)
  let next ← catalogWith host catalog.scope plan.catalogAfter.version.val
    (catalog.sessions.filter fun session => session.id ≠ current.id)
  require (next.digestSha256 = plan.catalogAfter.digestSha256) (.planning .invalid_plan)
  return (next, { action := .remove_new_session, catalogVersion := next.version, session := none })

end JooEvents
