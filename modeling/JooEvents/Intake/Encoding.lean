import JooEvents.Intake.Index

/-!
# Encodings of forms and answers

The canonical encodings of published versions, of the pins of deadlines and of the answer index.
-/

namespace JooEvents

variable {D : Type}

instance : AsciiText FormTextKind where
  text
    | .text => "text"
    | .textarea => "textarea"
    | .email => "email"
    | .url => "url"
    | .phone => "phone"
  ascii := AsciiText.ascii_of_values [.text, .textarea, .email, .url, .phone]
  injective := AsciiText.injective_of_values [.text, .textarea, .email, .url, .phone]

def FormFieldType.written : FormFieldType → String
  | .line kind => AsciiText.text kind
  | .number => "number"
  | .date => "date"
  | .datetime => "datetime"
  | .select => "select"
  | .multiselect => "multiselect"
  | .checkbox => "checkbox"

instance : AsciiText FormRuleEffectKind where
  text
    | .show => "show"
    | .hide => "hide"
    | .require => "require"
  ascii := AsciiText.ascii_of_values [.show, .hide, .require]
  injective := AsciiText.injective_of_values [.show, .hide, .require]

instance : ToJson D FormTarget :=
  ⟨fun
    | .general_pool => .obj [("kind", .text "general_pool")]
    | .category kind id =>
      .obj [("category", .obj [("id", toJson id), ("kind", toJson kind)]),
        ("kind", .text "category")]
    | .session sessionId => .obj [("kind", .text "session"), ("sessionId", toJson sessionId)]⟩

instance : ToJson D FormAvailability :=
  ⟨fun
    | .evergreen => .obj [("kind", .text "evergreen")]
    | .deadline deadlineId =>
      .obj [("deadlineId", toJson deadlineId), ("kind", .text "deadline")]⟩

instance : ToJson D FormTargetReferencePin :=
  ⟨fun
    | .category pin =>
      .obj [("categoryKind", toJson pin.categoryKind), ("id", toJson pin.id),
        ("kind", .text "category"), ("name", toJson pin.name), ("version", toJson pin.version)]
    | .session pin =>
      .obj [("id", toJson pin.id), ("kind", .text "session"), ("lifecycle", .text "collecting"),
        ("title", toJson pin.title), ("version", toJson pin.version)]⟩

instance : ToJson D (FormDeadlineReferencePin D) :=
  ⟨fun pin => .obj [("digestSha256", .digest pin.digestSha256),
    ("displayDate", toJson pin.displayDate), ("effectiveAt", toJson pin.effectiveAt),
    ("gracePolicy", .text "soft"), ("id", toJson pin.id), ("version", toJson pin.version)]⟩

instance : ToJson D (FormRegistryPin D) :=
  ⟨fun pin => .obj [("digestSha256", .digest pin.digestSha256), ("version", toJson pin.version)]⟩

instance : ToJson D FormProgramVocabularyItemPin :=
  ⟨fun pin => .obj [("id", toJson pin.id), ("label", toJson pin.label),
    ("source", toJson pin.source), ("version", toJson pin.version)]⟩

instance : ToJson D FormVocabularyExposure :=
  ⟨fun
    | .all_active => .obj [("kind", .text "all_active")]
    | .subset items => .obj [("items", toJson items), ("kind", .text "subset")]⟩

instance : ToJson D FormVersionOptions :=
  ⟨fun
    | .custom choices => .obj [("choices", toJson choices), ("kind", .text "custom")]
    | .program_vocabulary source exposure =>
      .obj [("exposure", toJson exposure), ("kind", .text "program_vocabulary"),
        ("source", toJson source)]⟩

def numberOrNull (value : Option ℚ) : Json D := (value.map Json.num).getD .null

/-- The members that the kinds of fields have each on their own. -/
def FormFieldShape.members : FormFieldShape → List (String × Json D)
  | .line kind =>
    [("maximumLength", toJson kind.maximumLength), ("options", .obj [("kind", .text "none")])]
  | .number minimum maximum integerOnly =>
    [("integerOnly", toJson integerOnly), ("maximum", numberOrNull maximum),
      ("minimum", numberOrNull minimum), ("options", .obj [("kind", .text "none")])]
  | .date | .datetime | .checkbox => [("options", .obj [("kind", .text "none")])]
  | .select options => [("options", toJson options)]
  | .multiselect options =>
    [("maximumSelections", toJson formMultiselectMaxSelections), ("options", toJson options)]

instance : ToJson D FormFieldDefinition :=
  ⟨fun field => .obj <|
    [("answerOwner", toJson field.answerOwner), ("constraints", toJson field.constraints),
      ("group", toJson field.group), ("help", toJson field.help), ("id", toJson field.id),
      ("initiallyVisible", toJson field.initiallyVisible), ("key", toJson field.key),
      ("kind", .text field.shape.kind.written), ("label", toJson field.label),
      ("mapsTo", toJson field.mapsTo), ("position", toJson field.position),
      ("purpose", toJson field.purpose), ("required", toJson field.required),
      ("sourceFieldVersion", toJson field.sourceFieldVersion)] ++ field.shape.members⟩

/-- The members of the condition of a rule, with its pins. -/
def FormRuleCondition.members (condition : FormRuleCondition)
    (pins : List FormProgramVocabularyItemPin) : List (String × Json D) :=
  match condition with
  | .selected_any sourceFieldId choiceIds =>
    [("choiceIds", toJson choiceIds), ("kind", .text "selected_any"),
      ("programVocabularyPins", toJson pins), ("sourceFieldId", toJson sourceFieldId)]
  | .checked_is sourceFieldId value =>
    [("kind", .text "checked_is"), ("sourceFieldId", toJson sourceFieldId),
      ("value", toJson value)]

instance : ToJson D FormRuleEffect :=
  ⟨fun effect => .obj [("kind", toJson effect.kind),
    ("targetFieldIds", toJson effect.targetFieldIds)]⟩

instance : ToJson D FormVersionRule :=
  ⟨fun rule => .obj [("condition", .obj (rule.condition.members rule.programVocabularyPins)),
    ("effect", toJson rule.effect), ("id", toJson rule.id), ("key", toJson rule.key),
    ("position", toJson rule.position)]⟩

instance : ToJson D FormVersionDefinitionContent :=
  ⟨fun definition => .obj [("availability", toJson definition.availability),
    ("confirmation", toJson definition.confirmation), ("fields", toJson definition.fields),
    ("kind", .text "cfp"), ("name", toJson definition.name), ("rules", toJson definition.rules),
    ("target", toJson definition.target)]⟩

instance : ToJson D (FormVersion D) :=
  ⟨fun version => .obj [("deadlinePin", toJson version.deadlinePin),
    ("definition", toJson version.definition),
    ("definitionDigestSha256", .digest version.definitionDigestSha256),
    ("formId", toJson version.formId), ("id", toJson version.id),
    ("number", toJson version.number), ("publishedAt", toJson version.publishedAt),
    ("publishedByUserId", toJson version.publishedByUserId),
    ("registryPin", toJson version.registryPin), ("schemaVersion", toJson (1 : ℕ)),
    ("scope", toJson version.scope),
    ("sourceDefinitionDigestSha256", .digest version.sourceDefinitionDigestSha256),
    ("sourceDefinitionVersion", toJson version.sourceDefinitionVersion),
    ("targetPin", toJson version.targetPin)]⟩

instance : ToJson D ApplicationAnswerIndexEntry :=
  ⟨fun answer => .obj <| ("fieldId", toJson answer.fieldId) ::
    ("kind", .text answer.content.kind.written) ::
    match answer.content with
    | .governed _ payloadRefId =>
      [("value", .obj [("payloadRef", .obj [("id", toJson payloadRefId)])])]
    | .select choiceId => [("choiceId", toJson choiceId)]
    | .multiselect choiceIds => [("choiceIds", toJson choiceIds)]
    | .checkbox checked => [("checked", toJson checked)]⟩

end JooEvents
