import JooEvents.Session.Model

/-!
# The field registry

The fields that the forms of an event ask for. A field has a kind, an owner of its
answers, a group, a policy for each context it is collected in, and options when it is a
choice. The registry orders its active fields by position, and keeps the fields that were
removed.

Values of these types are of the shape of their schema. What a schema says of texts and of
several members together is a predicate here (`fieldDefinitionSchema`, `registrySchema`).
Labels are compared without regard to case, so the host of a registry adds the lower casing
of the language.
-/

namespace JooEvents

variable {D : Type}

/-- What a registry takes from the language and from its schema library besides. -/
structure FieldRegistryHost (D : Type) extends Host D where
  /-- `String.prototype.toLocaleLowerCase('en-US')`. -/
  lower : String → String
  /-- `String.prototype.normalize('NFKD')`. -/
  nfkd : String → String
  /-- `z.iso.datetime({ offset: true })`. -/
  isDateTime : String → Bool

/-! ## Scalars -/

/-- The scope of a registry : a workspace and an event. -/
abbrev FieldRegistryScope := ProgramVocabularyScope

/-- A stable key : a dotted identifier of at most 160 characters. -/
abbrev FieldRegistryStableKey :=
  {s : String // isDottedIdentifier s = true ∧ textLength s ≤ 160}

/-- The kinds of fields. -/
inductive FieldRegistryKind where
  | text | textarea | email | url | phone | number | date | datetime | select | multiselect
  | checkbox | file
  deriving DecidableEq

/-- The groups of fields. -/
inductive FieldRegistryGroup where
  | identity | contact | presence | talk | logistics | materials | other | consent
  deriving DecidableEq

/-- Whom the answer to a field is about. -/
inductive FieldRegistryAnswerOwner where
  | person | talk
  deriving DecidableEq

/-- The program vocabulary that options are taken from. -/
inductive FieldRegistryOptionSource where
  | tracks | formats
  deriving DecidableEq

/-- What an answer is known as in the program. -/
inductive FieldRegistryMapsTo where
  | person_name | person_email | talk_title | talk_abstract | talk_track | talk_format
  deriving DecidableEq

/-- What a field is for. -/
inductive FieldRegistryPurpose where
  | ordinary
  | consent (key : FieldRegistryStableKey)
  deriving DecidableEq

/-- Whether a field is collected in a context, and must be answered there. -/
structure FieldRegistryContextPolicy where
  visible : Bool
  required : Bool
  deriving DecidableEq

/-- The policies of a field. -/
structure FieldRegistryContexts where
  apply : FieldRegistryContextPolicy
  onboard : FieldRegistryContextPolicy
  profile : FieldRegistryContextPolicy
  deriving DecidableEq

/-- Whether a field belongs to one form. -/
inductive FieldRegistryFieldScope where
  | shared
  | form (formId : ApplicationId)
  deriving DecidableEq

/-- A choice of a field. -/
structure FieldRegistryChoice where
  id : ApplicationId
  key : FieldRegistryStableKey
  label : String
  position : ℕ
  deriving DecidableEq

/-- The options of a field. -/
inductive FieldRegistryOptionConfiguration where
  | none
  | custom (choices : List FieldRegistryChoice)
  | program_vocabulary (source : FieldRegistryOptionSource)
  deriving DecidableEq

/-- Whether a field can be removed. -/
inductive FieldRegistryRemoval where
  | allowed | forbidden
  deriving DecidableEq

/-- Whether a field can be hidden from applicants. -/
inductive FieldRegistryApplyVisibility where
  | editable | required_visible
  deriving DecidableEq

/-- What can not be changed about a field. -/
structure FieldRegistryConstraints where
  removal : FieldRegistryRemoval
  applyVisibility : FieldRegistryApplyVisibility
  deriving DecidableEq

/-- Whether files can be uploaded. -/
inductive FieldRegistryFileUpload where
  | not_applicable | disabled
  deriving DecidableEq

/-! ## Fields -/

/-- A field of the registry. -/
structure FieldRegistryFieldDefinition where
  id : ApplicationId
  key : FieldRegistryStableKey
  version : Version
  kind : FieldRegistryKind
  label : String
  help : Option String
  answerOwner : FieldRegistryAnswerOwner
  mapsTo : Option FieldRegistryMapsTo
  purpose : FieldRegistryPurpose
  scope : FieldRegistryFieldScope
  group : FieldRegistryGroup
  position : ℕ
  contexts : FieldRegistryContexts
  options : FieldRegistryOptionConfiguration
  constraints : FieldRegistryConstraints
  fileUpload : FieldRegistryFileUpload
  deriving DecidableEq

def FieldRegistryOptionConfiguration.choices : FieldRegistryOptionConfiguration →
    List FieldRegistryChoice
  | .custom choices => choices
  | .none | .program_vocabulary _ => []

/-- `FIELD_OPTIONS_MAX`. -/
def fieldOptionsMax : ℕ := 200

/-- `FIELD_REGISTRY_MAX_FIELDS`. -/
def fieldRegistryMaxFields : ℕ := 500

/-- `fieldRegistryHelpSchema`. -/
def isFieldHelp (host : Host D) (value : String) : Bool :=
  decide (1 ≤ textLength value ∧ textLength value ≤ 2000 ∧ trimText (host.nfc value) = value)

/-- `fieldRegistryContextPolicySchema`. -/
def contextPolicySchema (policy : FieldRegistryContextPolicy) : Bool :=
  !policy.required || policy.visible

/-- `fieldRegistryContextsSchema`. -/
def contextsSchema (contexts : FieldRegistryContexts) : Bool :=
  contextPolicySchema contexts.apply && contextPolicySchema contexts.onboard &&
    contextPolicySchema contexts.profile &&
    (contexts.apply.visible || contexts.onboard.visible || contexts.profile.visible)

/-- `fieldRegistryOptionConfigurationSchema`. -/
def optionConfigurationSchema (host : Host D) (options : FieldRegistryOptionConfiguration) : Bool :=
  match options with
  | .none | .program_vocabulary _ => true
  | .custom choices =>
    decide (1 ≤ choices.length ∧ choices.length ≤ fieldOptionsMax) &&
      choices.all fun choice =>
        isCanonicalText host 240 choice.label && decide (choice.position ≤ maxSafeInteger)

/-- A field is mapped to what its kind, its owner and its options are of. -/
def mappingCompatible (field : FieldRegistryFieldDefinition) : Bool :=
  match field.mapsTo with
  | none => true
  | some .person_name => decide (field.answerOwner = .person ∧ field.kind = .text)
  | some .person_email => decide (field.answerOwner = .person ∧ field.kind = .email)
  | some .talk_title => decide (field.answerOwner = .talk ∧ field.kind = .text)
  | some .talk_abstract => decide (field.answerOwner = .talk ∧ field.kind = .textarea)
  | some .talk_track => decide (field.answerOwner = .talk ∧ field.kind = .select ∧
      field.options = .program_vocabulary .tracks)
  | some .talk_format => decide (field.answerOwner = .talk ∧ field.kind = .select ∧
      field.options = .program_vocabulary .formats)

/-- `field.kind === 'select' || field.kind === 'multiselect'`. -/
def FieldRegistryKind.isChoice (kind : FieldRegistryKind) : Bool :=
  decide (kind = .select ∨ kind = .multiselect)

def formScopeCollected (scope : FieldRegistryFieldScope) (contexts : FieldRegistryContexts) : Bool :=
  match scope with
  | .shared => true
  | .form _ => contexts.apply.visible && !contexts.onboard.visible && !contexts.profile.visible

/-- Choices are in order of position, and no identity, key or label occurs twice. -/
def choicesDistinct (host : FieldRegistryHost D) (choices : List FieldRegistryChoice) : Bool :=
  decide (choices.map (·.position) = List.range choices.length) &&
    decide (choices.map (·.id)).Nodup && decide (choices.map (·.key)).Nodup &&
    decide (choices.map fun choice => host.lower choice.label).Nodup

/-- `fieldRegistryFieldDefinitionSchema`. -/
def fieldDefinitionSchema (host : FieldRegistryHost D) (field : FieldRegistryFieldDefinition) :
    Bool :=
  isCanonicalText host.toHost 240 field.label && field.help.all (isFieldHelp host.toHost) &&
    decide (field.position ≤ maxSafeInteger) && contextsSchema field.contexts &&
    optionConfigurationSchema host.toHost field.options && mappingCompatible field &&
    (decide (field.purpose = .ordinary) || decide (field.kind = .checkbox)) &&
    decide (field.kind.isChoice = true ↔ field.options ≠ .none) &&
    choicesDistinct host field.options.choices &&
    formScopeCollected field.scope field.contexts &&
    (decide (field.constraints.applyVisibility = .editable) || field.contexts.apply.visible) &&
    decide (field.fileUpload = if field.kind = .file then .disabled else .not_applicable)

/-- A field that was removed. -/
structure FieldRegistryRemovedField where
  field : FieldRegistryFieldDefinition
  removedAt : String
  removedByUserId : ApplicationId
  lastPosition : ℕ

/-- The registry of an event. -/
structure FieldRegistryState where
  scope : FieldRegistryScope
  version : Version
  fields : List FieldRegistryFieldDefinition
  removed : List FieldRegistryRemovedField

/-- Every field of a registry, the active ones first. -/
def FieldRegistryState.allFields (state : FieldRegistryState) :
    List FieldRegistryFieldDefinition :=
  state.fields ++ state.removed.map (·.field)

def FieldRegistryFieldDefinition.applicationIds (field : FieldRegistryFieldDefinition) :
    List ApplicationId :=
  field.id :: field.options.choices.map (·.id)

/-- `fieldRegistryRemovedFieldSchema`. -/
def removedFieldSchema (host : FieldRegistryHost D) (removed : FieldRegistryRemovedField) : Bool :=
  fieldDefinitionSchema host removed.field && host.isDateTime removed.removedAt &&
    decide (removed.lastPosition ≤ maxSafeInteger)

/-- `fieldRegistryStateSchema`. -/
def registrySchema (host : FieldRegistryHost D) (state : FieldRegistryState) : Bool :=
  decide (state.fields.length ≤ fieldRegistryMaxFields) &&
    decide (state.removed.length ≤ fieldRegistryMaxFields) &&
    state.fields.all (fieldDefinitionSchema host) && state.removed.all (removedFieldSchema host) &&
    decide (state.fields.map (·.position) = List.range state.fields.length) &&
    decide (state.allFields.flatMap (·.applicationIds)).Nodup &&
    decide (state.allFields.map (·.key)).Nodup &&
    decide (state.allFields.filterMap (·.mapsTo)).Nodup

/-! ## Encodings -/

def FieldRegistryKind.written : FieldRegistryKind → String
  | .text => "text"
  | .textarea => "textarea"
  | .email => "email"
  | .url => "url"
  | .phone => "phone"
  | .number => "number"
  | .date => "date"
  | .datetime => "datetime"
  | .select => "select"
  | .multiselect => "multiselect"
  | .checkbox => "checkbox"
  | .file => "file"

def FieldRegistryGroup.written : FieldRegistryGroup → String
  | .identity => "identity"
  | .contact => "contact"
  | .presence => "presence"
  | .talk => "talk"
  | .logistics => "logistics"
  | .materials => "materials"
  | .other => "other"
  | .consent => "consent"

def FieldRegistryMapsTo.written : FieldRegistryMapsTo → String
  | .person_name => "person.name"
  | .person_email => "person.email"
  | .talk_title => "talk.title"
  | .talk_abstract => "talk.abstract"
  | .talk_track => "talk.track"
  | .talk_format => "talk.format"

instance : AsciiText FieldRegistryStableKey where
  text := Subtype.val
  ascii := fun key => ascii_of_isDottedIdentifier key.property.1
  injective := Subtype.val_injective

instance : AsciiText FieldRegistryKind where
  text := FieldRegistryKind.written
  ascii := AsciiText.ascii_of_values [.text, .textarea, .email, .url, .phone, .number, .date,
    .datetime, .select, .multiselect, .checkbox, .file]
  injective := AsciiText.injective_of_values [.text, .textarea, .email, .url, .phone, .number,
    .date, .datetime, .select, .multiselect, .checkbox, .file]

instance : AsciiText FieldRegistryGroup where
  text := FieldRegistryGroup.written
  ascii := AsciiText.ascii_of_values [.identity, .contact, .presence, .talk, .logistics,
    .materials, .other, .consent]
  injective := AsciiText.injective_of_values [.identity, .contact, .presence, .talk, .logistics,
    .materials, .other, .consent]

instance : AsciiText FieldRegistryMapsTo where
  text := FieldRegistryMapsTo.written
  ascii := AsciiText.ascii_of_values [.person_name, .person_email, .talk_title, .talk_abstract,
    .talk_track, .talk_format]
  injective := AsciiText.injective_of_values [.person_name, .person_email, .talk_title,
    .talk_abstract, .talk_track, .talk_format]

instance : AsciiText FieldRegistryAnswerOwner where
  text
    | .person => "person"
    | .talk => "talk"
  ascii := AsciiText.ascii_of_values [.person, .talk]
  injective := AsciiText.injective_of_values [.person, .talk]

instance : AsciiText FieldRegistryOptionSource where
  text
    | .tracks => "tracks"
    | .formats => "formats"
  ascii := AsciiText.ascii_of_values [.tracks, .formats]
  injective := AsciiText.injective_of_values [.tracks, .formats]

instance : AsciiText FieldRegistryRemoval where
  text
    | .allowed => "allowed"
    | .forbidden => "forbidden"
  ascii := AsciiText.ascii_of_values [.allowed, .forbidden]
  injective := AsciiText.injective_of_values [.allowed, .forbidden]

instance : AsciiText FieldRegistryApplyVisibility where
  text
    | .editable => "editable"
    | .required_visible => "required_visible"
  ascii := AsciiText.ascii_of_values [.editable, .required_visible]
  injective := AsciiText.injective_of_values [.editable, .required_visible]

instance : AsciiText FieldRegistryFileUpload where
  text
    | .not_applicable => "not_applicable"
    | .disabled => "disabled"
  ascii := AsciiText.ascii_of_values [.not_applicable, .disabled]
  injective := AsciiText.injective_of_values [.not_applicable, .disabled]

instance : ToJson D FieldRegistryPurpose :=
  ⟨fun
    | .ordinary => .obj [("kind", toJson "ordinary")]
    | .consent key => .obj [("kind", toJson "consent"), ("key", toJson key)]⟩

instance : ToJson D FieldRegistryContextPolicy :=
  ⟨fun policy => .obj [("visible", toJson policy.visible), ("required", toJson policy.required)]⟩

instance : ToJson D FieldRegistryContexts :=
  ⟨fun contexts => .obj [("apply", toJson contexts.apply), ("onboard", toJson contexts.onboard),
    ("profile", toJson contexts.profile)]⟩

instance : ToJson D FieldRegistryFieldScope :=
  ⟨fun
    | .shared => .obj [("kind", toJson "shared")]
    | .form formId => .obj [("kind", toJson "form"), ("formId", toJson formId)]⟩

instance : ToJson D FieldRegistryChoice :=
  ⟨fun choice => .obj [("id", toJson choice.id), ("key", toJson choice.key),
    ("label", toJson choice.label), ("position", toJson choice.position)]⟩

instance : ToJson D FieldRegistryOptionConfiguration :=
  ⟨fun
    | .none => .obj [("kind", toJson "none")]
    | .custom choices => .obj [("kind", toJson "custom"), ("choices", toJson choices)]
    | .program_vocabulary source =>
      .obj [("kind", toJson "program_vocabulary"), ("source", toJson source)]⟩

instance : ToJson D FieldRegistryConstraints :=
  ⟨fun constraints => .obj [("removal", toJson constraints.removal),
    ("applyVisibility", toJson constraints.applyVisibility)]⟩

instance : ToJson D FieldRegistryFieldDefinition :=
  ⟨fun field =>
    .obj [("id", toJson field.id), ("key", toJson field.key), ("version", toJson field.version),
      ("kind", toJson field.kind), ("label", toJson field.label), ("help", toJson field.help),
      ("answerOwner", toJson field.answerOwner), ("mapsTo", toJson field.mapsTo),
      ("purpose", toJson field.purpose), ("scope", toJson field.scope),
      ("group", toJson field.group), ("position", toJson field.position),
      ("contexts", toJson field.contexts), ("options", toJson field.options),
      ("constraints", toJson field.constraints), ("fileUpload", toJson field.fileUpload)]⟩

instance : ToJson D FieldRegistryRemovedField :=
  ⟨fun removed =>
    .obj [("field", toJson removed.field), ("removedAt", toJson removed.removedAt),
      ("removedByUserId", toJson removed.removedByUserId),
      ("lastPosition", toJson removed.lastPosition)]⟩

instance : ToJson D FieldRegistryState :=
  ⟨fun state =>
    .obj [("scope", toJson state.scope), ("version", toJson state.version),
      ("fields", toJson state.fields), ("removed", toJson state.removed)]⟩

def fieldRegistryStateDigest (host : FieldRegistryHost D) (state : FieldRegistryState) : D :=
  host.digest state

/-! ## An example -/

namespace FieldRegistryExample

/-- ASCII labels, and the instants of the application as dates. -/
def plainHost : FieldRegistryHost SymbolicDigest :=
  { SymbolicDigest.host with
    lower := String.toLower
    nfkd := id
    isDateTime := isInstant }

end FieldRegistryExample

end JooEvents
