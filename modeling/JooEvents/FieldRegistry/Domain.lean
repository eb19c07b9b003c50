import JooEvents.FieldRegistry.Placement

/-!
# Changes of a registry

A change of a registry is planned (`planFieldRegistryMutation`), and a plan is validated by
working out the request that it answers and planning it again
(`validateFieldRegistryMutationPlan`). A plan that is accepted is applied, and the registry after
it must be well formed (`applyFieldRegistryMutationPlan`).
-/

namespace JooEvents

open Fallible

variable {D : Type}

/-- `FieldRegistryPlanningErrorCode`, or the error of a schema. -/
inductive FieldRegistryPlanningError where
  | wrong_scope | stale_registry | field_exists | field_missing | stale_field | field_removed
  | field_active | form_missing | form_changed | locked_field | invalid_options
  | invalid_position | invalid_plan
  | thrown
  deriving DecidableEq

/-- The identity of a choice. -/
structure FieldRegistryChoiceIdentity where
  id : ApplicationId
  key : FieldRegistryStableKey

/-- `FieldRegistryIdentityAssignment`. A key that is the empty string is none. -/
structure FieldRegistryIdentityAssignment where
  fieldId : ApplicationId
  fieldKey : Option FieldRegistryStableKey
  choices : List FieldRegistryChoiceIdentity

structure FieldRegistryFormReference where
  id : ApplicationId
  version : Version

/-- `resolveFormReference`. -/
abbrev FieldRegistryFormReferenceResolver :=
  FieldRegistryScope → ApplicationId → Option FieldRegistryFormReference

/-- `authoredOptionsSchema`. -/
inductive FieldRegistryAuthoredOptions where
  | none
  | custom (labels : List String)
  | program_vocabulary (source : FieldRegistryOptionSource)
  deriving DecidableEq

structure FieldRegistryFieldAuthor where
  kind : FieldRegistryKind
  label : String
  help : Option String
  answerOwner : FieldRegistryAnswerOwner
  scope : FieldRegistryFieldScope
  contexts : FieldRegistryContexts
  options : FieldRegistryAuthoredOptions

/-- The changes of an edit. A change that is absent is `none`. -/
structure FieldRegistryFieldChanges where
  label : Option String
  help : Option (Option String)
  contexts : Option FieldRegistryContexts
  customOptionLabels : Option (List String)

/-- What the actions of an author have each on their own. -/
inductive FieldRegistryChange where
  | add (field : FieldRegistryFieldAuthor) (identities : FieldRegistryIdentityAssignment)
  | edit (fieldId : ApplicationId) (expectedFieldVersion : Version)
      (changes : FieldRegistryFieldChanges) (choiceIdentities : List FieldRegistryChoiceIdentity)
  | move (fieldId : ApplicationId) (expectedFieldVersion : Version) (toIndex : ℕ)
  | remove (fieldId : ApplicationId) (expectedFieldVersion : Version) (removedAt : String)
      (removedByUserId : ApplicationId)
  | restore (fieldId : ApplicationId) (expectedFieldVersion : Version) (toIndex : ℕ)

structure FieldRegistryAuthorInput where
  scope : FieldRegistryScope
  expectedRegistryVersion : Version
  change : FieldRegistryChange

/-- `canonicalLine(240)`. -/
def parseLine (host : FieldRegistryHost D) (value : String) : Except FieldRegistryPlanningError String := do
  let normalized := normalizedProgramVocabularyName host.toHost value
  require (0 < textLength normalized ∧ textLength normalized ≤ 240) .thrown
  return normalized

/-- `optionalCanonicalText(2000)`. -/
def parseHelp (host : FieldRegistryHost D) (value : String) : Except FieldRegistryPlanningError String := do
  let normalized := trimText (host.nfc value)
  require (0 < textLength normalized ∧ textLength normalized ≤ 2000) .thrown
  return normalized

/-- A list of option labels, which are distinct without regard to case. -/
def parseOptionLabels (host : FieldRegistryHost D) (labels : List String) :
    Except FieldRegistryPlanningError (List String) := do
  require (1 ≤ labels.length ∧ labels.length ≤ fieldOptionsMax) .thrown
  let labels ← labels.mapM (parseLine host)
  require (labels.map host.lower).Nodup .thrown
  return labels

/-- `authoredOptionsSchema`. -/
def parseAuthoredOptions (host : FieldRegistryHost D) :
    FieldRegistryAuthoredOptions → Except FieldRegistryPlanningError FieldRegistryAuthoredOptions
  | .custom labels => .custom <$> parseOptionLabels host labels
  | options => return options

/-- `fieldRegistryFieldAuthorSchema`. -/
def parseFieldAuthor (host : FieldRegistryHost D) (field : FieldRegistryFieldAuthor) :
    Except FieldRegistryPlanningError FieldRegistryFieldAuthor := do
  let label ← parseLine host field.label
  let help ← field.help.mapM (parseHelp host)
  require (contextsSchema field.contexts = true) .thrown
  let options ← parseAuthoredOptions host field.options
  require (field.kind.isChoice = true ↔ options ≠ .none) .thrown
  require (formScopeCollected field.scope field.contexts = true) .thrown
  return { field with label, help, options }

/-- The changes of `fieldRegistryEditDraftRequestSchema`. -/
def parseFieldChanges (host : FieldRegistryHost D) (changes : FieldRegistryFieldChanges) :
    Except FieldRegistryPlanningError FieldRegistryFieldChanges := do
  let label ← changes.label.mapM (parseLine host)
  let help ← changes.help.mapM fun help => help.mapM (parseHelp host)
  require (changes.contexts.all contextsSchema = true) .thrown
  let customOptionLabels ← changes.customOptionLabels.mapM (parseOptionLabels host)
  require (label ≠ none ∨ help ≠ none ∨ changes.contexts ≠ none ∨ customOptionLabels ≠ none) .thrown
  return { changes with label, help, customOptionLabels }

/-- What the plans of the actions have each on their own. -/
inductive FieldRegistryPlanBody where
  | add (after : FieldRegistryFieldDefinition) (placement : FieldRegistryPlacementSuggestion)
  | edit (before after : FieldRegistryFieldDefinition)
  | move (fieldId : ApplicationId) (fieldVersion : Version) (beforeIndex afterIndex : ℕ)
  | remove (before : FieldRegistryFieldDefinition) (removedAt : String)
      (removedByUserId : ApplicationId)
  | restore (after : FieldRegistryFieldDefinition) (placement : FieldRegistryPlacementSuggestion)
  deriving DecidableEq

structure FieldRegistryMutationPlan (D : Type) where
  scope : FieldRegistryScope
  expectedRegistryVersion : Version
  resultingRegistryVersion : ℕ
  registryGuardDigestSha256 : D
  formPin : Option FieldRegistryFormReference
  body : FieldRegistryPlanBody

def FieldRegistryPlanBody.action : FieldRegistryPlanBody → String
  | .add _ _ => "add"
  | .edit _ _ => "edit"
  | .move _ _ _ _ => "move"
  | .remove _ _ _ => "remove"
  | .restore _ _ => "restore"

instance : ToJson D FieldRegistryFormReference :=
  ⟨fun reference => .obj [("id", toJson reference.id), ("version", toJson reference.version)]⟩

instance : ToJson D FieldRegistryPlacementSuggestion :=
  ⟨fun placement => .obj [("index", toJson placement.index), ("group", toJson placement.group),
    ("reasonKey", toJson placement.reasonKey)]⟩

/-- The members that the plans of the actions have each on their own. -/
def FieldRegistryPlanBody.members : FieldRegistryPlanBody → List (String × Json D)
  | .add after placement | .restore after placement =>
    [("before", .null), ("after", toJson after), ("placement", toJson placement)]
  | .edit before after => [("before", toJson before), ("after", toJson after)]
  | .move fieldId fieldVersion beforeIndex afterIndex =>
    [("fieldId", toJson fieldId), ("fieldVersion", toJson fieldVersion),
      ("beforeIndex", toJson beforeIndex), ("afterIndex", toJson afterIndex)]
  | .remove before removedAt removedByUserId =>
    [("before", toJson before), ("after", .null), ("removedAt", toJson removedAt),
      ("removedByUserId", toJson removedByUserId)]

def FieldRegistryMutationPlan.members (plan : FieldRegistryMutationPlan D) :
    List (String × Json D) :=
  [("action", toJson plan.body.action), ("scope", toJson plan.scope),
    ("expectedRegistryVersion", toJson plan.expectedRegistryVersion),
    ("resultingRegistryVersion", toJson plan.resultingRegistryVersion),
    ("registryGuardDigestSha256", .digest plan.registryGuardDigestSha256),
    ("formPin", toJson plan.formPin)] ++ plan.body.members

instance : ToJson D (FieldRegistryMutationPlan D) := ⟨fun plan => .obj plan.members⟩

/-- `replace(/[^a-z0-9]+/gu, '_')`, on characters, after a character that was replaced or not. -/
def underscoreRuns : Bool → List Char → List Char
  | _, [] => []
  | inRun, c :: s =>
    if isLowerChar c || isDigitChar c then c :: underscoreRuns false s
    else if inRun then underscoreRuns true s
    else '_' :: underscoreRuns true s

/-- `replace(/^_+|_+$/gu, '')`, on characters. -/
def trimUnderscores (s : List Char) : List Char :=
  ((s.dropWhile (· = '_')).reverse.dropWhile (· = '_')).reverse

def fieldRegistryStableKeyFor (host : FieldRegistryHost D) (label : String) (id : ApplicationId) :
    Except FieldRegistryPlanningError FieldRegistryStableKey :=
  let unmarked := (host.nfkd label).toList.filter fun c => !(0x300 ≤ c.toNat && c.toNat ≤ 0x36F)
  let lowered := (host.lower (String.ofList unmarked)).toList
  let normalized := (trimUnderscores (underscoreRuns false lowered)).take 100
  let suffix := (id.val.toList.filter (· ≠ '-')).take 12
  let key := String.ofList ("custom.".toList ++ (if normalized = [] then "field".toList else normalized) ++
    '_' :: suffix)
  if h : isDottedIdentifier key = true ∧ textLength key ≤ 160 then .ok ⟨key, h⟩ else .error .thrown

def registryApplicationIds (state : FieldRegistryState) : List ApplicationId :=
  state.allFields.flatMap (·.applicationIds)

def formPin (scope : FieldRegistryScope) (fieldScope : FieldRegistryFieldScope)
    (references : FieldRegistryFormReferenceResolver) :
    Except FieldRegistryPlanningError (Option FieldRegistryFormReference) :=
  match fieldScope with
  | .shared => return none
  | .form formId => do
    let reference ← orRefuse (references scope formId) .form_missing
    require (reference.id = formId) .form_missing
    return some reference

/-- The earlier choice with a label, without regard to case. -/
def priorChoice (host : FieldRegistryHost D) (previous : List FieldRegistryChoice) (label : String) :
    Option FieldRegistryChoice :=
  previous.reverse.find? fun choice => host.lower choice.label = host.lower label

/-- A choice of the given label, which keeps the identity of the earlier choice. -/
def choiceOf (host : FieldRegistryHost D) (previous : List FieldRegistryChoice) (position : ℕ)
    (label : String) (identity : FieldRegistryChoiceIdentity) : FieldRegistryChoice :=
  let prior := priorChoice host previous label
  { id := (prior.map (·.id)).getD identity.id
    key := (prior.map (·.key)).getD identity.key
    label
    position }

def customChoices (host : FieldRegistryHost D) (labels : List String)
    (identities : List FieldRegistryChoiceIdentity) (previous : List FieldRegistryChoice) :
    Except FieldRegistryPlanningError (List FieldRegistryChoice) := do
  require (labels.length = identities.length) .invalid_options
  let choices := (labels.zip identities).mapIdx fun position (label, identity) =>
    choiceOf host previous position label identity
  require ((choices.map (·.id)).Nodup ∧ (choices.map (·.key)).Nodup) .invalid_options
  return choices

def optionsFromAuthor (host : FieldRegistryHost D) (options : FieldRegistryAuthoredOptions)
    (choices : List FieldRegistryChoiceIdentity) :
    Except FieldRegistryPlanningError FieldRegistryOptionConfiguration :=
  match options with
  | .none => return .none
  | .custom labels => .custom <$> customChoices host labels choices []
  | .program_vocabulary source => return .program_vocabulary source

def fieldFromAuthor (host : FieldRegistryHost D) (author : FieldRegistryFieldAuthor)
    (fieldId : ApplicationId) (fieldKey : FieldRegistryStableKey)
    (choices : List FieldRegistryChoiceIdentity) (group : FieldRegistryGroup) (position : ℕ) :
    Except FieldRegistryPlanningError FieldRegistryFieldDefinition := do
  let options ← optionsFromAuthor host author.options choices
  let field : FieldRegistryFieldDefinition :=
    { id := fieldId
      key := fieldKey
      version := .one
      kind := author.kind
      label := author.label
      help := author.help
      answerOwner := author.answerOwner
      mapsTo := none
      purpose := .ordinary
      scope := author.scope
      group
      position
      contexts := author.contexts
      options
      constraints := { removal := .allowed, applyVisibility := .editable }
      fileUpload := if author.kind = .file then .disabled else .not_applicable }
  require (fieldDefinitionSchema host field = true) .thrown
  return field

def activeField (state : FieldRegistryState) (fieldId : ApplicationId) (expectedFieldVersion : Version) :
    Except FieldRegistryPlanningError FieldRegistryFieldDefinition := do
  let field ← orRefuse (state.fields.find? fun candidate => candidate.id = fieldId)
    (if state.removed.any fun candidate => candidate.field.id = fieldId then .field_removed
      else .field_missing)
  require (field.version = expectedFieldVersion) .stale_field
  return field

/-! ## Planning -/

/-- What is planned : the pin of a form, and the change. -/
abbrev FieldRegistryPlanned := Option FieldRegistryFormReference × FieldRegistryPlanBody

variable (host : FieldRegistryHost D) (state : FieldRegistryState)
  (references : FieldRegistryFormReferenceResolver)

/-- The key of an added field : the one that was given, or else one that is made from the label. -/
def addedFieldKey (host : FieldRegistryHost D) (identities : FieldRegistryIdentityAssignment)
    (label : String) : Except FieldRegistryPlanningError FieldRegistryStableKey :=
  match identities.fieldKey with
  | some key => return key
  | none => fieldRegistryStableKeyFor host label identities.fieldId

/-- `planFieldRegistryMutation`, of an added field. -/
def planFieldAdd (request : FieldRegistryFieldAuthor) (identities : FieldRegistryIdentityAssignment) :
    Except FieldRegistryPlanningError FieldRegistryPlanned := do
  let field ← parseFieldAuthor host request
  let reservedIds := registryApplicationIds state
  require (identities.fieldId ∉ reservedIds ∧
    ∀ key ∈ identities.fieldKey, key ∉ state.allFields.map (·.key)) .field_exists
  require ((∀ choice ∈ identities.choices, choice.id ∉ reservedIds ∧ choice.id ≠ identities.fieldId) ∧
    (identities.choices.map (·.id)).Nodup) .invalid_options
  let placement := suggestFieldRegistryPlacement field.kind field.label state.fields
  let pin ← formPin state.scope field.scope references
  let fieldKey ← addedFieldKey host identities field.label
  let after ← fieldFromAuthor host field identities.fieldId fieldKey identities.choices
    placement.group placement.index
  return (pin, .add after placement)

def editedOptions (before : FieldRegistryFieldDefinition) (labels : Option (List String))
    (choiceIdentities : List FieldRegistryChoiceIdentity) :
    Except FieldRegistryPlanningError FieldRegistryOptionConfiguration :=
  match labels, before.options with
  | none, options => return options
  | some labels, .custom previous => do
    let choices ← customChoices host labels choiceIdentities previous
    require (∀ choice ∈ choices,
      (choice.id ∈ registryApplicationIds state → ∃ prior ∈ previous, prior.id = choice.id ∧
        host.lower prior.label = host.lower choice.label) ∧
      choice.id ≠ before.id) .invalid_options
    return .custom choices
  | some _, .none | some _, .program_vocabulary _ => .error .invalid_options

/-- `planFieldRegistryMutation`, of an edited field. -/
def planFieldEdit (fieldId : ApplicationId) (expectedFieldVersion : Version)
    (changes : FieldRegistryFieldChanges) (choiceIdentities : List FieldRegistryChoiceIdentity) :
    Except FieldRegistryPlanningError FieldRegistryPlanned := do
  let changes ← parseFieldChanges host changes
  let before ← activeField state fieldId expectedFieldVersion
  let contexts := changes.contexts.getD before.contexts
  require (before.constraints.applyVisibility = .required_visible → contexts.apply.visible = true)
    .locked_field
  let options ← editedOptions host state before changes.customOptionLabels choiceIdentities
  let version ← orRefuse (nextAggregateVersion before.version) .thrown
  let after : FieldRegistryFieldDefinition :=
    { before with
      version
      label := changes.label.getD before.label
      help := changes.help.getD before.help
      contexts
      options }
  require (fieldDefinitionSchema host after = true) .thrown
  let pin ← formPin state.scope before.scope references
  return (pin, .edit before after)

/-- `planFieldRegistryMutation`, of a moved field. -/
def planFieldMove (fieldId : ApplicationId) (expectedFieldVersion : Version) (toIndex : ℕ) :
    Except FieldRegistryPlanningError FieldRegistryPlanned := do
  require (toIndex ≤ maxSafeInteger) .thrown
  let field ← activeField state fieldId expectedFieldVersion
  require (toIndex < state.fields.length) .invalid_position
  let pin ← formPin state.scope field.scope references
  return (pin, .move field.id field.version field.position toIndex)

/-- `planFieldRegistryMutation`, of a removed field. -/
def planFieldRemove (fieldId : ApplicationId) (expectedFieldVersion : Version) (removedAt : String)
    (removedByUserId : ApplicationId) : Except FieldRegistryPlanningError FieldRegistryPlanned := do
  let before ← activeField state fieldId expectedFieldVersion
  require (before.constraints.removal = .allowed) .locked_field
  let pin ← formPin state.scope before.scope references
  return (pin, .remove before removedAt removedByUserId)

/-- `planFieldRegistryMutation`, of a restored field. -/
def planFieldRestore (fieldId : ApplicationId) (expectedFieldVersion : Version) (toIndex : ℕ) :
    Except FieldRegistryPlanningError FieldRegistryPlanned := do
  require (toIndex ≤ maxSafeInteger) .thrown
  require (fieldId ∉ state.fields.map (·.id)) .field_active
  let removed ← orRefuse (state.removed.find? fun candidate => candidate.field.id = fieldId)
    .field_missing
  require (removed.field.version = expectedFieldVersion) .stale_field
  require (toIndex ≤ state.fields.length) .invalid_position
  let version ← orRefuse (nextAggregateVersion removed.field.version) .thrown
  let after : FieldRegistryFieldDefinition := { removed.field with version, position := toIndex }
  require (fieldDefinitionSchema host after = true) .thrown
  let pin ← formPin state.scope removed.field.scope references
  return (pin, .restore after
    { index := toIndex, group := after.group, reasonKey := "field_registry.placement.restore" })

/-- The actions of `planFieldRegistryMutation`. -/
def planFieldRegistryChange :
    FieldRegistryChange → Except FieldRegistryPlanningError FieldRegistryPlanned
  | .add field identities => planFieldAdd host state references field identities
  | .edit fieldId expectedFieldVersion changes choiceIdentities =>
    planFieldEdit host state references fieldId expectedFieldVersion changes choiceIdentities
  | .move fieldId expectedFieldVersion toIndex =>
    planFieldMove state references fieldId expectedFieldVersion toIndex
  | .remove fieldId expectedFieldVersion removedAt removedByUserId =>
    planFieldRemove state references fieldId expectedFieldVersion removedAt removedByUserId
  | .restore fieldId expectedFieldVersion toIndex =>
    planFieldRestore host state references fieldId expectedFieldVersion toIndex

def planFieldRegistryMutation (author : FieldRegistryAuthorInput) :
    Except FieldRegistryPlanningError (FieldRegistryMutationPlan D) := do
  require (registrySchema host state = true) .thrown
  require (state.scope = author.scope) .wrong_scope
  require (state.version = author.expectedRegistryVersion) .stale_registry
  let (formPin, body) ← planFieldRegistryChange host state references author.change
  return {
    scope := state.scope
    expectedRegistryVersion := author.expectedRegistryVersion
    resultingRegistryVersion := author.expectedRegistryVersion.val + 1
    registryGuardDigestSha256 := fieldRegistryStateDigest host state
    formPin
    body }

/-! ## Validation -/

/-- The options of a field as an author asks for them. -/
def FieldRegistryOptionConfiguration.authored :
    FieldRegistryOptionConfiguration → FieldRegistryAuthoredOptions
  | .none => .none
  | .custom choices => .custom (choices.map (·.label))
  | .program_vocabulary source => .program_vocabulary source

def FieldRegistryChoice.identity (choice : FieldRegistryChoice) : FieldRegistryChoiceIdentity :=
  { id := choice.id, key := choice.key }

def FieldRegistryOptionConfiguration.identities (options : FieldRegistryOptionConfiguration) :
    List FieldRegistryChoiceIdentity :=
  options.choices.map (·.identity)

def FieldRegistryOptionConfiguration.customLabels :
    FieldRegistryOptionConfiguration → Option (List String)
  | .custom choices => some (choices.map (·.label))
  | .none | .program_vocabulary _ => Option.none

def FieldRegistryFieldDefinition.authored (field : FieldRegistryFieldDefinition) :
    FieldRegistryFieldAuthor :=
  { kind := field.kind
    label := field.label
    help := field.help
    answerOwner := field.answerOwner
    scope := field.scope
    contexts := field.contexts
    options := field.options.authored }

def FieldRegistryFieldDefinition.changes (field : FieldRegistryFieldDefinition) :
    FieldRegistryFieldChanges :=
  { label := some field.label
    help := some field.help
    contexts := some field.contexts
    customOptionLabels := field.options.customLabels }

def FieldRegistryPlanBody.change : FieldRegistryPlanBody → Option FieldRegistryChange
  | .add after _ =>
    some (.add after.authored
      { fieldId := after.id, fieldKey := some after.key, choices := after.options.identities })
  | .edit before after =>
    some (.edit before.id before.version after.changes after.options.identities)
  | .move fieldId fieldVersion _ afterIndex => some (.move fieldId fieldVersion afterIndex)
  | .remove before removedAt removedByUserId =>
    some (.remove before.id before.version removedAt removedByUserId)
  | .restore after _ =>
    (PositiveSafe.parse (after.version.val - 1)).map fun version =>
      .restore after.id version after.position

def FieldRegistryMutationPlan.author (plan : FieldRegistryMutationPlan D) :
    Option FieldRegistryAuthorInput :=
  plan.body.change.map fun change =>
    { scope := plan.scope, expectedRegistryVersion := plan.expectedRegistryVersion, change }

/-- `error instanceof FieldRegistryPlanningError ? error.code : 'invalid_plan'`. -/
def FieldRegistryPlanningError.caught : FieldRegistryPlanningError → FieldRegistryPlanningError
  | .thrown => .invalid_plan
  | error => error

/-- The form that a plan pins is still there, in its version. -/
def validateFormPin (scope : FieldRegistryScope) :
    Option FieldRegistryFormReference → Except FieldRegistryPlanningError Unit
  | none => return ()
  | some pin => do
    let form ← orRefuse (references scope pin.id) .form_missing
    require (form.id = pin.id ∧ form.version = pin.version) .form_changed

variable [DecidableEq D]

/-- `validateFieldRegistryMutationPlan`. A plan without an error code is accepted. -/
def validateFieldRegistryMutationPlan (plan : FieldRegistryMutationPlan D) :
    Except FieldRegistryPlanningError Unit := do
  require (registrySchema host state = true) .thrown
  require (state.scope = plan.scope) .wrong_scope
  require (state.version = plan.expectedRegistryVersion) .stale_registry
  validateFormPin references plan.scope plan.formPin
  let author ← orRefuse plan.author .invalid_plan
  let replanned ← (planFieldRegistryMutation host state references author).mapError
    FieldRegistryPlanningError.caught
  require (host.digest replanned = host.digest plan) .invalid_plan

/-- `fields.map((field, position) => ({ ...field, position }))`. -/
def renumber (fields : List FieldRegistryFieldDefinition) : List FieldRegistryFieldDefinition :=
  fields.mapIdx fun position field => { field with position }

/-- `fields.splice(index, 0, field)`. -/
def spliceIn (fields : List FieldRegistryFieldDefinition) (index : ℕ)
    (field : FieldRegistryFieldDefinition) : List FieldRegistryFieldDefinition :=
  fields.take index ++ field :: fields.drop index

def reorder (fields : List FieldRegistryFieldDefinition) (fieldId : ApplicationId) (toIndex : ℕ) :
    Except FieldRegistryPlanningError (List FieldRegistryFieldDefinition) := do
  let fromIndex ← orRefuse (fields.findIdx? fun field => field.id = fieldId) .invalid_position
  require (toIndex < fields.length) .invalid_position
  let field ← orRefuse fields[fromIndex]? .field_missing
  return renumber (spliceIn (fields.eraseIdx fromIndex) toIndex field)

def FieldRegistryPlanBody.fields (state : FieldRegistryState) : FieldRegistryPlanBody →
    Except FieldRegistryPlanningError
      (List FieldRegistryFieldDefinition × List FieldRegistryRemovedField)
  | .add after _ => return (renumber (spliceIn state.fields after.position after), state.removed)
  | .edit _ after =>
    return (state.fields.map fun field => if field.id = after.id then after else field, state.removed)
  | .move fieldId _ _ afterIndex => do
    let fields ← reorder state.fields fieldId afterIndex
    return (fields, state.removed)
  | .remove before removedAt removedByUserId =>
    return (renumber (state.fields.filter fun field => field.id ≠ before.id),
      state.removed ++
        [{ field := before, removedAt, removedByUserId, lastPosition := before.position }])
  | .restore after _ =>
    return (renumber (spliceIn state.fields after.position after),
      state.removed.filter fun candidate => candidate.field.id ≠ after.id)

/-- `planIdentity`. -/
def FieldRegistryPlanBody.identity : FieldRegistryPlanBody → ApplicationId
  | .move fieldId _ _ _ => fieldId
  | .remove before _ _ => before.id
  | .add after _ | .edit _ after | .restore after _ => after.id

structure FieldRegistryChangeResult where
  action : String
  fieldId : ApplicationId
  registryVersion : Version
  fieldVersion : Version
  position : Option ℕ

def changeResult (state : FieldRegistryState) (body : FieldRegistryPlanBody) :
    Except FieldRegistryPlanningError FieldRegistryChangeResult := do
  let active := state.fields.find? fun field => field.id = body.identity
  let tombstone := state.removed.find? fun candidate => candidate.field.id = body.identity
  let fieldVersion ← orRefuse
    ((active.map (·.version)).or (tombstone.map (·.field.version))) .thrown
  return {
    action := body.action
    fieldId := body.identity
    registryVersion := state.version
    fieldVersion
    position := active.map (·.position) }

def applyFieldRegistryMutationPlan (plan : FieldRegistryMutationPlan D) :
    Except FieldRegistryPlanningError (FieldRegistryState × FieldRegistryChangeResult) := do
  validateFieldRegistryMutationPlan host state references plan
  let (fields, removed) ← plan.body.fields state
  let version ← orRefuse (PositiveSafe.parse plan.resultingRegistryVersion) .thrown
  let after : FieldRegistryState := { scope := state.scope, version, fields, removed }
  require (registrySchema host after = true) .thrown
  let result ← changeResult after plan.body
  return (after, result)

end JooEvents
