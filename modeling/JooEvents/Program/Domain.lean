import JooEvents.Program.References

/-!
# Planning and applying vocabulary changes

`planProgramVocabularyMutation` turns an author input into a plan for one of seven
actions, `validateProgramVocabularyPlan` judges a plan against the current state and
the current references, `applyProgramVocabularyPlan` writes it to the vocabulary, and
`applyProgramReferenceRepoints` writes the repoints of a merge to the references.

The validator does not call the planner : it parses the plan, which includes the
coherence predicate `mutationPlanIsCoherent`, compares digests, and computes the
references it expects with `expectedReferencePlans`.

The scalars of a plan carry their schemas. The names in a plan are checked to be
canonical when it is parsed.
-/

namespace JooEvents

open Fallible

variable {D : Type}

/-! ## Plans -/

/-- A live reference led to another item. -/
structure ProgramReferenceRepoint where
  referenceKey : BoundedText
  expectedVersion : Version
  fromItem : ProgramItemRef
  toItem : ProgramItemRef
  destination : SafeProgramReferenceDestination
  deriving DecidableEq

/-- A reference of the past that a plan leaves alone. -/
structure ProgramHistoricalPin where
  referenceKey : BoundedText
  version : Version
  item : ProgramItemRef
  destination : SafeProgramReferenceDestination
  deriving DecidableEq

/-- What a plan does to the references of one contributor. -/
structure ProgramReferenceContributionPlan (D : Type) where
  contributor : ProgramReferenceContributorRef
  guard : ProgramReferenceGuard D
  liveRepoints : List ProgramReferenceRepoint
  historicalPins : List ProgramHistoricalPin
  deriving DecidableEq

/-- What every plan says of the state it was made for. -/
structure PlanBase (D : Type) where
  scope : ProgramVocabularyScope
  expectedSetVersion : Version
  setGuardDigest : D

/-- A plan for the vocabulary of an event. -/
inductive ProgramVocabularyMutationPlan (D : Type) where
  | create (base : PlanBase D) (after : PlannedProgramVocabularyItem)
  | edit (base : PlanBase D) (before after : PlannedProgramVocabularyItem)
  | retire (base : PlanBase D) (before after : PlannedProgramVocabularyItem)
  | restore (base : PlanBase D) (before after : PlannedProgramVocabularyItem)
  | delete (base : PlanBase D) (before : PlannedProgramVocabularyItem)
      (referenceRegistryDigest : D) (references : List (ProgramReferenceContributionPlan D))
  | merge (base : PlanBase D) (sourceBefore sourceAfter target : PlannedProgramVocabularyItem)
      (referenceRegistryDigest : D) (references : List (ProgramReferenceContributionPlan D))
  | merge_compensation (base : PlanBase D)
      (sourceBefore sourceAfter target : PlannedProgramVocabularyItem) (restoreSource : Bool)
      (referenceRegistryDigest : D) (references : List (ProgramReferenceContributionPlan D))

namespace ProgramVocabularyMutationPlan

def base : ProgramVocabularyMutationPlan D → PlanBase D
  | create base .. => base
  | edit base .. => base
  | retire base .. => base
  | restore base .. => base
  | delete base .. => base
  | merge base .. => base
  | merge_compensation base .. => base

def items : ProgramVocabularyMutationPlan D → List PlannedProgramVocabularyItem
  | create _ after => [after]
  | edit _ before after => [before, after]
  | retire _ before after => [before, after]
  | restore _ before after => [before, after]
  | delete _ before .. => [before]
  | merge _ sourceBefore sourceAfter target .. => [sourceBefore, sourceAfter, target]
  | merge_compensation _ sourceBefore sourceAfter target .. => [sourceBefore, sourceAfter, target]

/-- The item a plan changes, as the plan found it. -/
def changed : ProgramVocabularyMutationPlan D → Option PlannedProgramVocabularyItem
  | create .. => none
  | edit _ before _ => some before
  | retire _ before _ => some before
  | restore _ before _ => some before
  | delete _ before .. => some before
  | merge _ sourceBefore .. => some sourceBefore
  | merge_compensation _ sourceBefore .. => some sourceBefore

/-- What a plan leaves in the place of the item it changes. -/
def written : ProgramVocabularyMutationPlan D → List PlannedProgramVocabularyItem
  | create _ after => [after]
  | edit _ _ after => [after]
  | retire _ _ after => [after]
  | restore _ _ after => [after]
  | delete .. => []
  | merge _ _ sourceAfter .. => [sourceAfter]
  | merge_compensation _ _ sourceAfter .. => [sourceAfter]

/-- The item a merge or its compensation leads references to or from. -/
def target : ProgramVocabularyMutationPlan D → Option PlannedProgramVocabularyItem
  | merge _ _ _ target .. => some target
  | merge_compensation _ _ _ target .. => some target
  | _ => none

/-- The registry digest and the references of a plan that has them. -/
def referencePlan : ProgramVocabularyMutationPlan D →
    Option (D × List (ProgramReferenceContributionPlan D))
  | delete _ _ digest references => some (digest, references)
  | merge _ _ _ _ digest references => some (digest, references)
  | merge_compensation _ _ _ _ _ digest references => some (digest, references)
  | _ => none

end ProgramVocabularyMutationPlan

/-- The fields of a new item that depend on its kind. -/
inductive ProgramItemDraftFields where
  | room (capacity : Option ℕ)
  | track
  | format

/-- What an input about one existing item says. -/
structure GuardedItemInput where
  kind : ProgramVocabularyKind
  id : ApplicationId
  scope : ProgramVocabularyScope
  expectedSetVersion : Version
  expectedItemVersion : Version

/-- What a merge input says; a compensation says the same of the merged items. -/
structure MergeInput where
  scope : ProgramVocabularyScope
  kind : ProgramVocabularyKind
  sourceId : ApplicationId
  targetId : ApplicationId
  expectedSetVersion : Version
  expectedSourceVersion : Version
  expectedTargetVersion : Version

/-- The reference keys an input selects from one contributor. -/
structure SelectedReferences where
  contributor : ProgramReferenceContributorRef
  referenceKeys : List String

/-- An input of the planner. -/
inductive ProgramVocabularyAuthorInput where
  | create (scope : ProgramVocabularyScope) (expectedSetVersion : Version) (id : ApplicationId)
      (name : String) (fields : ProgramItemDraftFields)
  | edit (item : GuardedItemInput) (name : String) (capacity : Option ℕ)
  | retire (item : GuardedItemInput)
  | restore (item : GuardedItemInput)
  | delete (item : GuardedItemInput)
  | merge (input : MergeInput)
  | merge_compensation (input : MergeInput) (restoreSource : Bool)
      (references : List SelectedReferences)

/-- The refusals of the planner and the validator. -/
inductive ProgramVocabularyPlanningErrorCode where
  | invalid_plan | wrong_scope | stale_set | item_exists | item_missing | stale_item
  | invalid_transition | delete_referenced | invalid_merge | stale_reference
  deriving DecidableEq

/-- How a function of the package fails : with a planning error, with an error of the
reference package, or by throwing from a parser. -/
inductive ProgramVocabularyError where
  | planning (code : ProgramVocabularyPlanningErrorCode)
  | references (code : ProgramReferenceSnapshotErrorCode)
  | thrown
  deriving DecidableEq

instance : ToJson D ProgramReferenceRepoint :=
  ⟨fun repoint => .obj
    [("referenceKey", toJson repoint.referenceKey),
      ("expectedVersion", toJson repoint.expectedVersion), ("from", toJson repoint.fromItem),
      ("to", toJson repoint.toItem), ("destination", toJson repoint.destination)]⟩

instance : ToJson D ProgramHistoricalPin :=
  ⟨fun pin => .obj
    [("referenceKey", toJson pin.referenceKey), ("version", toJson pin.version),
      ("item", toJson pin.item), ("destination", toJson pin.destination)]⟩

instance : ToJson D (ProgramReferenceContributionPlan D) :=
  ⟨fun plan => .obj
    [("contributor", toJson plan.contributor), ("guard", toJson plan.guard),
      ("liveRepoints", toJson plan.liveRepoints),
      ("historicalPins", toJson plan.historicalPins)]⟩

/-- The members of the base of a plan, which every plan has. -/
def PlanBase.members (base : PlanBase D) : List (String × Json D) :=
  [("scope", toJson base.scope), ("expectedSetVersion", toJson base.expectedSetVersion),
    ("setGuardDigest", .digest base.setGuardDigest)]

instance : ToJson D (ProgramVocabularyMutationPlan D) :=
  ⟨fun
    | .create base after =>
      .obj (("action", .text "create") :: base.members ++ [("after", toJson after)])
    | .edit base before after =>
      .obj (("action", .text "edit") :: base.members ++
        [("before", toJson before), ("after", toJson after)])
    | .retire base before after =>
      .obj (("action", .text "retire") :: base.members ++
        [("before", toJson before), ("after", toJson after)])
    | .restore base before after =>
      .obj (("action", .text "restore") :: base.members ++
        [("before", toJson before), ("after", toJson after)])
    | .delete base before referenceRegistryDigest references =>
      .obj (("action", .text "delete") :: base.members ++
        [("before", toJson before), ("referenceRegistryDigest", .digest referenceRegistryDigest),
          ("references", toJson references)])
    | .merge base sourceBefore sourceAfter target referenceRegistryDigest references =>
      .obj (("action", .text "merge") :: base.members ++
        [("sourceBefore", toJson sourceBefore), ("sourceAfter", toJson sourceAfter),
          ("target", toJson target), ("referenceRegistryDigest", .digest referenceRegistryDigest),
          ("references", toJson references)])
    | .merge_compensation base sourceBefore sourceAfter target restoreSource
        referenceRegistryDigest references =>
      .obj (("action", .text "merge_compensation") :: base.members ++
        [("sourceBefore", toJson sourceBefore), ("sourceAfter", toJson sourceAfter),
          ("target", toJson target), ("restoreSource", toJson restoreSource),
          ("referenceRegistryDigest", .digest referenceRegistryDigest),
          ("references", toJson references)])⟩

def programVocabularySetDigest (host : Host D) (state : ProgramVocabularyState host) : D :=
  host.sha256 <| Json.canonicalize host.nfc <| .obj
    [("scope", toJson state.scope), ("setVersion", toJson state.setVersion),
      ("items", toJson (programVocabularyItems state))]

/-- The value of an item without its status and its version. -/
def strippedItem (item : PlannedProgramVocabularyItem) : Json D :=
  .obj ([("kind", toJson item.kind), ("id", toJson item.id), ("name", toJson item.name)] ++
    match item.fields with
    | .room capacity => [("capacity", toJson capacity)]
    | .track accent => [("accent", toJson accent)]
    | .format => [])

variable [DecidableEq D]

/-- Items that differ at most in status and version, by digest. -/
def sameItemExceptStatusAndVersion (host : Host D)
    (left right : PlannedProgramVocabularyItem) : Bool :=
  decide (host.sha256 ((strippedItem left).canonicalize host.nfc) =
    host.sha256 ((strippedItem right).canonicalize host.nfc))

def itemMatches (host : Host D) (item : Option PlannedProgramVocabularyItem)
    (expected : PlannedProgramVocabularyItem) : Bool :=
  item.any fun item => host.digest item = host.digest expected

def areStrictlyOrderedBy {α : Type} (identity : α → String) : List α → Bool
  | previous :: value :: rest =>
    decide (textLt (identity previous) (identity value)) &&
      areStrictlyOrderedBy identity (value :: rest)
  | _ => true

/-- The way the repoints of a plan lead. -/
inductive ReferenceDirection where
  | forward | reverse | none
  deriving DecidableEq

/-- The repoints of a contribution lead between the items of the plan, and its pins name
the source. -/
def contributionIsCanonical (source : ProgramItemRef) (target : Option ProgramItemRef)
    (direction : ReferenceDirection) (contribution : ProgramReferenceContributionPlan D) : Bool :=
  areStrictlyOrderedBy (fun repoint : ProgramReferenceRepoint => repoint.referenceKey.val)
      contribution.liveRepoints &&
    areStrictlyOrderedBy (fun pin : ProgramHistoricalPin => pin.referenceKey.val)
      contribution.historicalPins &&
    decide (contribution.liveRepoints.map ProgramReferenceRepoint.referenceKey ++
      contribution.historicalPins.map ProgramHistoricalPin.referenceKey).Nodup &&
    decide (direction = .none →
      contribution.liveRepoints = [] ∧ contribution.historicalPins = []) &&
    contribution.liveRepoints.all (fun repoint =>
      match direction with
      | .reverse => target = some repoint.fromItem ∧ repoint.toItem = source
      | _ => repoint.fromItem = source ∧ target = some repoint.toItem) &&
    contribution.historicalPins.all fun pin => pin.item = source

def referencesAreCanonical (references : List (ProgramReferenceContributionPlan D))
    (source : ProgramItemRef) (target : Option ProgramItemRef)
    (direction : ReferenceDirection) : Bool :=
  areStrictlyOrderedBy (fun contribution : ProgramReferenceContributionPlan D =>
      contribution.contributor.identity) references &&
    decide (references.map fun contribution => contribution.guard.id).Nodup &&
    references.all (contributionIsCanonical source target direction)

/-- `after` is `before` with the next version. -/
def isNextVersion (before after : PlannedProgramVocabularyItem) : Bool :=
  decide (after.version.val = before.version.val + 1)

/-- What `mutationPlanIsCoherent` asks of the parts of a plan, by its action. -/
def actionIsCoherent (host : Host D) : ProgramVocabularyMutationPlan D → Bool
  | .create _ after => decide (after.status = .active ∧ after.version.val = 1)
  | .edit _ before after =>
    decide (before.ref = after.ref ∧ before.status = after.status) && isNextVersion before after
  | .retire _ before after =>
    decide (before.ref = after.ref ∧ before.status = .active ∧ after.status = .retired) &&
      isNextVersion before after && sameItemExceptStatusAndVersion host before after
  | .restore _ before after =>
    decide (before.ref = after.ref ∧ before.status = .retired ∧ after.status = .active) &&
      isNextVersion before after && sameItemExceptStatusAndVersion host before after
  | .delete _ before _ references => referencesAreCanonical references before.ref none .none
  | .merge _ sourceBefore sourceAfter target _ references =>
    decide (sourceBefore.kind = target.kind ∧ sourceBefore.id ≠ target.id ∧
      sourceBefore.ref = sourceAfter.ref ∧ sourceAfter.status = .retired ∧
      target.status = .active) &&
      isNextVersion sourceBefore sourceAfter &&
      sameItemExceptStatusAndVersion host sourceBefore sourceAfter &&
      referencesAreCanonical references sourceBefore.ref (some target.ref) .forward
  | .merge_compensation _ sourceBefore sourceAfter target restoreSource _ references =>
    decide (sourceBefore.kind = target.kind ∧ sourceBefore.id ≠ target.id ∧
      sourceBefore.ref = sourceAfter.ref) &&
      (if restoreSource then
        decide (sourceAfter.status = .active) && isNextVersion sourceBefore sourceAfter &&
          sameItemExceptStatusAndVersion host sourceBefore sourceAfter
      else decide (host.digest sourceBefore = host.digest sourceAfter)) &&
      referencesAreCanonical references sourceBefore.ref (some target.ref) .reverse

def mutationPlanIsCoherent (host : Host D) (plan : ProgramVocabularyMutationPlan D) : Bool :=
  plan.items.all (fun item => item.AccentDerived) && actionIsCoherent host plan

/-- `parseProgramVocabularyMutationPlan` lets the plan through : the names of its items
are canonical, and it is coherent. -/
def planParses (host : Host D) (plan : ProgramVocabularyMutationPlan D) : Bool :=
  plan.items.all (fun item => isCanonicalProgramVocabularyName host item.name) &&
    mutationPlanIsCoherent host plan

/-! ## The planner -/

def contributorPlan (contributor : ProgramReferenceContributorSnapshot D)
    (source : ProgramItemRef) (target : Option ProgramItemRef)
    (selectedKeys : Option (List String)) : ProgramReferenceContributionPlan D where
  contributor := contributor.contributor
  guard := contributor.guard
  liveRepoints := contributor.references.filterMap fun reference =>
    if reference.item = source ∧ reference.mode = .current ∧
        selectedKeys.all (fun keys => keys.contains reference.referenceKey.val) then
      target.map fun target =>
        { referenceKey := reference.referenceKey, expectedVersion := reference.version
          fromItem := reference.item, toItem := target, destination := reference.destination }
    else none
  historicalPins := contributor.references.filterMap fun reference =>
    if reference.item = source ∧ reference.mode = .historical then
      some
        { referenceKey := reference.referenceKey, version := reference.version
          item := reference.item, destination := reference.destination }
    else none

def fromReferences {α : Type} (x : Except ProgramReferenceSnapshotErrorCode α) :
    Except ProgramVocabularyError α :=
  x.mapError .references

def captureReferences (host : Host D) (state : ProgramVocabularyState host)
    (registry : ProgramReferenceContributorRegistry)
    (source : ProgramReferenceSnapshotSource D) :
    Except ProgramVocabularyError (CompleteProgramReferenceSnapshot D) := do
  let snapshot ← fromReferences (capture host registry state.scope source)
  fromReferences (validateProgramReferenceTargets state snapshot)
  return snapshot

def requireSetGuard {host : Host D} (state : ProgramVocabularyState host)
    (scope : ProgramVocabularyScope) (expected : Version) : Except ProgramVocabularyError Unit := do
  require (state.scope = scope) (.planning .wrong_scope)
  require (state.setVersion = expected) (.planning .stale_set)

def requireItem {host : Host D} (state : ProgramVocabularyState host)
    (kind : ProgramVocabularyKind) (id : ApplicationId) (expectedVersion : Version) :
    Except ProgramVocabularyError PlannedProgramVocabularyItem := do
  let item ← orRefuse (resolveProgramVocabularyItem state kind id) (.planning .item_missing)
  require (item.version = expectedVersion) (.planning .stale_item)
  return item

omit [DecidableEq D] in
@[simp] theorem requireSetGuard_eq_ok {host : Host D} {state : ProgramVocabularyState host}
    {scope : ProgramVocabularyScope} {expected : Version} {u : Unit} :
    requireSetGuard state scope expected = .ok u ↔
      state.scope = scope ∧ state.setVersion = expected := by
  simp [requireSetGuard]

omit [DecidableEq D] in
@[simp] theorem requireItem_eq_ok {host : Host D} {state : ProgramVocabularyState host}
    {kind : ProgramVocabularyKind} {id : ApplicationId} {version : Version}
    {item : PlannedProgramVocabularyItem} :
    requireItem state kind id version = .ok item ↔
      resolveProgramVocabularyItem state kind id = some item ∧ item.version = version := by
  simp only [requireItem, bind_eq_ok, orRefuse_eq_ok, require_eq_ok, exists_const, pure_eq_ok]
  constructor
  · rintro ⟨item, hitem, hversion, rfl⟩
    exact ⟨hitem, hversion⟩
  · rintro ⟨hitem, hversion⟩
    exact ⟨item, hitem, hversion, rfl⟩

def commonPlan (host : Host D) (state : ProgramVocabularyState host) : PlanBase D :=
  { scope := state.scope, expectedSetVersion := state.setVersion
    setGuardDigest := programVocabularySetDigest host state }

/-- `parseRoomCapacity`, or `none` where it throws. -/
def parseRoomCapacity : Option ℕ → Option (Option PositiveSafe)
  | none => some none
  | some n => (PositiveSafe.parse n).map some

def createdFields (id : ApplicationId) : ProgramItemDraftFields → Option ProgramItemFields
  | .room capacity => (parseRoomCapacity capacity).map .room
  | .track => some (.track (deriveProgramTrackAccent id))
  | .format => some .format

/-- The fields of an edited item : an edit sets the capacity of a room. -/
def editedFields (capacity : Option ℕ) : ProgramItemFields → Option ProgramItemFields
  | .room _ => (parseRoomCapacity capacity).map .room
  | fields => some fields

def planCreate (host : Host D) (scope : ProgramVocabularyScope) (expectedSetVersion : Version)
    (id : ApplicationId) (name : String) (fields : ProgramItemDraftFields)
    (state : ProgramVocabularyState host) :
    Except ProgramVocabularyError (ProgramVocabularyMutationPlan D) := do
  requireSetGuard state scope expectedSetVersion
  require ((programVocabularyItems state).all (fun item => item.id ≠ id) = true)
    (.planning .item_exists)
  let name ← orRefuse (normalizeProgramVocabularyName host name) .thrown
  let fields ← orRefuse (createdFields id fields) .thrown
  return .create (commonPlan host state)
    { id, name, status := .active, version := .one, fields }

def planEdit (host : Host D) (input : GuardedItemInput) (name : String) (capacity : Option ℕ)
    (state : ProgramVocabularyState host) :
    Except ProgramVocabularyError (ProgramVocabularyMutationPlan D) := do
  requireSetGuard state input.scope input.expectedSetVersion
  let before ← requireItem state input.kind input.id input.expectedItemVersion
  let name ← orRefuse (normalizeProgramVocabularyName host name) .thrown
  let version ← orRefuse (nextAggregateVersion before.version) .thrown
  let fields ← orRefuse (editedFields capacity before.fields) .thrown
  return .edit (commonPlan host state) before { before with name, version, fields }

/-- `planLifecycle`, for the status it asks for and the one it leads to. -/
def planLifecycle (host : Host D) (input : GuardedItemInput)
    (required next : ProgramVocabularyStatus) (state : ProgramVocabularyState host) :
    Except ProgramVocabularyError
      (PlannedProgramVocabularyItem × PlannedProgramVocabularyItem) := do
  requireSetGuard state input.scope input.expectedSetVersion
  let before ← requireItem state input.kind input.id input.expectedItemVersion
  require (before.status = required) (.planning .invalid_transition)
  let version ← orRefuse (nextAggregateVersion before.version) .thrown
  return (before, { before with status := next, version })

def planDelete (host : Host D) (input : GuardedItemInput) (state : ProgramVocabularyState host)
    (registry : ProgramReferenceContributorRegistry)
    (source : ProgramReferenceSnapshotSource D) :
    Except ProgramVocabularyError (ProgramVocabularyMutationPlan D) := do
  requireSetGuard state input.scope input.expectedSetVersion
  let before ← requireItem state input.kind input.id input.expectedItemVersion
  let references ← captureReferences host state registry source
  require (programReferenceUsage references before.ref .current = 0 ∧
    programReferenceUsage references before.ref .historical = 0) (.planning .delete_referenced)
  return .delete (commonPlan host state) before references.registryDigestSha256
    (references.contributors.map fun contributor =>
      contributorPlan contributor before.ref none none)

def planMerge (host : Host D) (input : MergeInput) (state : ProgramVocabularyState host)
    (registry : ProgramReferenceContributorRegistry)
    (source : ProgramReferenceSnapshotSource D) :
    Except ProgramVocabularyError (ProgramVocabularyMutationPlan D) := do
  requireSetGuard state input.scope input.expectedSetVersion
  require (input.sourceId ≠ input.targetId) (.planning .invalid_merge)
  let sourceItem ← requireItem state input.kind input.sourceId input.expectedSourceVersion
  let targetItem ← requireItem state input.kind input.targetId input.expectedTargetVersion
  require (targetItem.status = .active) (.planning .invalid_merge)
  let references ← captureReferences host state registry source
  let version ← orRefuse (nextAggregateVersion sourceItem.version) .thrown
  return .merge (commonPlan host state) sourceItem
    { sourceItem with status := .retired, version } targetItem references.registryDigestSha256
    (references.contributors.map fun contributor =>
      contributorPlan contributor sourceItem.ref (some targetItem.ref) none)

/-- The keys an input selects from a contributor; the last entry for it counts. -/
def selectedKeysOf (references : List SelectedReferences)
    (contributor : ProgramReferenceContributorRef) : List String :=
  match references.reverse.find? fun entry =>
    entry.contributor.identity = contributor.identity with
  | some entry => entry.referenceKeys
  | none => []

/-- The contribution of a contributor to the compensation of a merge. -/
def compensationPlan (contributor : ProgramReferenceContributorSnapshot D)
    (source target : ProgramItemRef) (selectedKeys : List String) :
    ProgramReferenceContributionPlan D :=
  { contributorPlan contributor target (some source) (some selectedKeys) with
    historicalPins := (contributorPlan contributor source none none).historicalPins }

/-- The contribution of a contributor to a planned compensation : every selected key must
be found. -/
def planCompensationOf (selected : List SelectedReferences) (source target : ProgramItemRef)
    (contributor : ProgramReferenceContributorSnapshot D) :
    Except ProgramVocabularyError (ProgramReferenceContributionPlan D) := do
  let selectedKeys := selectedKeysOf selected contributor.contributor
  let contribution := compensationPlan contributor source target selectedKeys
  require (contribution.liveRepoints.length = selectedKeys.dedup.length)
    (.planning .stale_reference)
  return contribution

/-- The source of a compensation, made active again or left as it is; `none` where the
source throws. -/
def restoredSource (restoreSource : Bool) (item : PlannedProgramVocabularyItem) :
    Option PlannedProgramVocabularyItem :=
  if restoreSource then
    (nextAggregateVersion item.version).map fun version => { item with status := .active, version }
  else some item

def planMergeCompensation (host : Host D) (input : MergeInput) (restoreSource : Bool)
    (selected : List SelectedReferences) (state : ProgramVocabularyState host)
    (registry : ProgramReferenceContributorRegistry)
    (source : ProgramReferenceSnapshotSource D) :
    Except ProgramVocabularyError (ProgramVocabularyMutationPlan D) := do
  requireSetGuard state input.scope input.expectedSetVersion
  let sourceItem ← requireItem state input.kind input.sourceId input.expectedSourceVersion
  let targetItem ← requireItem state input.kind input.targetId input.expectedTargetVersion
  let references ← captureReferences host state registry source
  let contributions ← references.contributors.mapM
    (planCompensationOf selected sourceItem.ref targetItem.ref)
  let sourceAfter ← orRefuse (restoredSource restoreSource sourceItem) .thrown
  return .merge_compensation (commonPlan host state) sourceItem sourceAfter targetItem
    restoreSource references.registryDigestSha256 contributions

def planProgramVocabularyMutation (host : Host D) (input : ProgramVocabularyAuthorInput)
    (state : ProgramVocabularyState host) (registry : ProgramReferenceContributorRegistry)
    (source : ProgramReferenceSnapshotSource D) :
    Except ProgramVocabularyError (ProgramVocabularyMutationPlan D) :=
  match input with
  | .create scope expectedSetVersion id name fields =>
    planCreate host scope expectedSetVersion id name fields state
  | .edit item name capacity => planEdit host item name capacity state
  | .retire item => do
    let (before, after) ← planLifecycle host item .active .retired state
    return .retire (commonPlan host state) before after
  | .restore item => do
    let (before, after) ← planLifecycle host item .retired .active state
    return .restore (commonPlan host state) before after
  | .delete item => planDelete host item state registry source
  | .merge input => planMerge host input state registry source
  | .merge_compensation input restoreSource references =>
    planMergeCompensation host input restoreSource references state registry source

/-- The references a plan must contain, by the current snapshot; `none` where the plan
deletes an item that is referenced. -/
def expectedReferencePlans (plan : ProgramVocabularyMutationPlan D)
    (current : CompleteProgramReferenceSnapshot D) :
    Option (List (ProgramReferenceContributionPlan D)) :=
  match plan with
  | .delete _ before _ _ =>
    if programReferenceUsage current before.ref .current ≠ 0 ∨
        programReferenceUsage current before.ref .historical ≠ 0 then none
    else some (current.contributors.map fun contributor =>
      contributorPlan contributor before.ref none none)
  | .merge _ sourceBefore _ target _ _ =>
    some (current.contributors.map fun contributor =>
      contributorPlan contributor sourceBefore.ref (some target.ref) none)
  | .merge_compensation _ sourceBefore _ target _ _ references =>
    some (current.contributors.map fun contributor =>
      match references.reverse.find? fun contribution =>
        contribution.contributor.identity = contributor.contributor.identity with
      | none => contributorPlan contributor target.ref (some sourceBefore.ref) (some [])
      | some planned => compensationPlan contributor sourceBefore.ref target.ref
          (planned.liveRepoints.map fun repoint => repoint.referenceKey.val))
  | _ => some []

/-- The references of a plan are the expected ones, by digest. -/
def referencePlansMatch (host : Host D) (left right : List (ProgramReferenceContributionPlan D)) :
    Bool :=
  decide (host.digest left = host.digest right)

/-- The refusal of the references of a plan, if the current ones do not lead to them. -/
def validateReferences (host : Host D) (state : ProgramVocabularyState host)
    (plan : ProgramVocabularyMutationPlan D) (registry : ProgramReferenceContributorRegistry)
    (source : ProgramReferenceSnapshotSource D) : Option ProgramVocabularyPlanningErrorCode :=
  match plan.referencePlan with
  | none => none
  | some (registryDigest, references) =>
    if registry.registryDigestSha256 host ≠ registryDigest then some .stale_reference
    else
      match captureReferences host state registry source with
      | .error _ => some .stale_reference
      | .ok current =>
        if current.registryDigestSha256 ≠ registryDigest then some .stale_reference
        else if (expectedReferencePlans plan current).any (referencePlansMatch host references)
          then none
        else some .stale_reference

/-- The refusal of a plan, if the current state does not admit it. -/
def validateProgramVocabularyPlan (host : Host D) (state : ProgramVocabularyState host)
    (plan : ProgramVocabularyMutationPlan D) (registry : ProgramReferenceContributorRegistry)
    (source : ProgramReferenceSnapshotSource D) : Option ProgramVocabularyPlanningErrorCode :=
  if planParses host plan = false then some .invalid_plan
  else if state.scope ≠ plan.base.scope then some .wrong_scope
  else if state.setVersion ≠ plan.base.expectedSetVersion ∨
      programVocabularySetDigest host state ≠ plan.base.setGuardDigest then some .stale_set
  else
    match plan.changed with
    | none =>
      if (programVocabularyItems state).any fun item => plan.written.any fun after =>
        item.id = after.id then some .item_exists else none
    | some expected =>
      if itemMatches host (resolveProgramVocabularyItem state expected.kind expected.id)
          expected = false then some .stale_item
      else if plan.target.any (fun target => !itemMatches host
          (resolveProgramVocabularyItem state target.kind target.id) target) then
        some .stale_item
      else validateReferences host state plan registry source

/-- The items `applyProgramVocabularyPlan` makes a state of. -/
def itemsAfterPlan (host : Host D) (state : ProgramVocabularyState host)
    (plan : ProgramVocabularyMutationPlan D) :
    Except ProgramVocabularyError (List PlannedProgramVocabularyItem) :=
  let items := programVocabularyItems state
  match plan.changed with
  | none => do
    require (items.all (fun item => plan.written.all fun after => item.id ≠ after.id) = true)
      (.planning .item_exists)
    return items ++ plan.written
  | some before => do
    let found ← orRefuse (items.find? fun item => item.ref = before.ref) (.planning .stale_item)
    require (host.digest found = host.digest before) (.planning .stale_item)
    require (plan.target.all (fun target => itemMatches host
      (resolveProgramVocabularyItem state target.kind target.id) target) = true)
      (.planning .stale_item)
    return Keyed.replaceFirst (fun item => item.ref = before.ref) plan.written items

def applyProgramVocabularyPlan (host : Host D) (state : ProgramVocabularyState host)
    (plan : ProgramVocabularyMutationPlan D) :
    Except ProgramVocabularyError (ProgramVocabularyState host) := do
  require (planParses host plan = true) (.planning .invalid_plan)
  require (state.scope = plan.base.scope ∧ state.setVersion = plan.base.expectedSetVersion ∧
    programVocabularySetDigest host state = plan.base.setGuardDigest) (.planning .stale_set)
  let next ← itemsAfterPlan host state plan
  orRefuse (createProgramVocabularyState host state.scope (state.setVersion.val + 1) next) .thrown

def repointReference (reference : ProgramReferenceRecord) (repoint : ProgramReferenceRepoint) :
    Except ProgramVocabularyError ProgramReferenceRecord := do
  require (reference.mode = .current ∧ reference.version = repoint.expectedVersion ∧
    reference.item = repoint.fromItem) (.planning .stale_reference)
  let version ← orRefuse (nextAggregateVersion reference.version) .thrown
  return { reference with version, item := repoint.toItem }

/-- The references of a contributor led along the repoints with their keys. -/
def repointReferences (repoints : List ProgramReferenceRepoint)
    (references : List ProgramReferenceRecord) :
    Except ProgramVocabularyError (List ProgramReferenceRecord) :=
  references.mapM fun reference =>
    match repoints.find? fun repoint => repoint.referenceKey = reference.referenceKey with
    | none => pure reference
    | some repoint => repointReference reference repoint

def repointedGuardDigest (host : Host D) (contributor : ProgramReferenceContributorRef)
    (guardVersion : Version) (references : List ProgramReferenceRecord) : D :=
  host.sha256 <| Json.canonicalize host.nfc <| .obj
    [("contributor", toJson contributor), ("guardVersion", toJson guardVersion),
      ("references", toJson references)]

/-- A contributor with its references led along the repoints of a plan. -/
def repointContributor (host : Host D)
    (references : List (ProgramReferenceContributionPlan D))
    (contributor : ProgramReferenceContributorSnapshot D) :
    Except ProgramVocabularyError (ProgramReferenceContributorSnapshot D) := do
  let expected ← orRefuse (references.find? fun entry =>
    entry.contributor = contributor.contributor) (.planning .stale_reference)
  require (contributor.guard = expected.guard) (.planning .stale_reference)
  if expected.liveRepoints = [] then return contributor
  let repointed ← repointReferences expected.liveRepoints contributor.references
  require (∀ repoint ∈ expected.liveRepoints, ∃ reference ∈ contributor.references,
    reference.referenceKey = repoint.referenceKey) (.planning .stale_reference)
  let guardVersion ← orRefuse (nextAggregateVersion contributor.guard.version) .thrown
  return { contributor with
    guard := { contributor.guard with
      version := guardVersion
      digest := repointedGuardDigest host contributor.contributor guardVersion repointed }
    references := repointed }

end JooEvents
