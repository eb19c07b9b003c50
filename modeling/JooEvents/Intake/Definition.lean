import JooEvents.Intake.Model
import JooEvents.Lib.KeyedMap

/-!
# Form definitions

What an organizer edits : the fields of the registry that a form leaves out, the ones it requires
or not against the registry, the options it exposes of them, and its rules. The composition names
fields by their identities only, so that it can be at odds with the registry as it is later.
-/

namespace JooEvents

variable {D : Type}

/-- `formCompositionSchema`. The two records are in order of insertion. -/
structure FormComposition where
  excludedFieldIds : List ApplicationId
  requiredOverrides : KeyedMap (Prod.fst : ApplicationId × Bool → ApplicationId)
  optionExposure : KeyedMap (Prod.fst : ApplicationId × List ApplicationId → ApplicationId)

def canonicalChoiceIdListSchema (choiceIds : List ApplicationId) : Bool :=
  decide (1 ≤ choiceIds.length ∧ choiceIds.length ≤ formFieldOptionsMax) &&
    decide (choiceIds.IsChain (· < ·))

/-- `formCompositionSchema`, on what the type does not say. -/
def formCompositionSchema (composition : FormComposition) : Bool :=
  decide (composition.excludedFieldIds.length ≤ formFieldsMax) &&
    decide (composition.excludedFieldIds.IsChain (· < ·)) &&
    composition.optionExposure.values.all (fun exposure => canonicalChoiceIdListSchema exposure.2) &&
    decide (composition.requiredOverrides.values.length ≤ formFieldsMax) &&
    decide (composition.optionExposure.values.length ≤ formFieldsMax)

/-- `formDefinitionRuleSchema`. -/
structure FormDefinitionRule where
  id : ApplicationId
  key : FieldRegistryStableKey
  position : ℕ
  condition : FormRuleCondition
  effect : FormRuleEffect

/-- `formDefinitionRuleSchema`, on what the type does not say. -/
def formDefinitionRuleSchema (rule : FormDefinitionRule) : Bool :=
  decide (rule.position < formRulesMax) &&
    (match rule.condition with
    | .selected_any _ choiceIds => canonicalChoiceIdListSchema choiceIds
    | .checked_is _ _ => true) &&
    decide (1 ≤ rule.effect.targetFieldIds.length ∧
      rule.effect.targetFieldIds.length ≤ formFieldsMax) &&
    decide (rule.effect.targetFieldIds.IsChain (· < ·))

/-- `formDefinitionContentSchema`. -/
structure FormDefinitionContent where
  name : String
  target : FormTarget
  availability : FormAvailability
  confirmation : String
  composition : FormComposition
  rules : List FormDefinitionRule

/-- `formDefinitionContentSchema`, on what the type does not say. -/
def formDefinitionContentSchema (host : Host D) (definition : FormDefinitionContent) : Bool :=
  singleLineStored host 120 definition.name && definition.target.isTarget &&
    multilineStored host 2000 definition.confirmation &&
    formCompositionSchema definition.composition &&
    decide (definition.rules.length ≤ formRulesMax) &&
    definition.rules.all formDefinitionRuleSchema &&
    decide (definition.rules.map (·.position) = List.range definition.rules.length) &&
    decide (definition.rules.map (·.id)).Nodup && decide (definition.rules.map (·.key)).Nodup

/-- `formStatusSchema`. -/
inductive FormStatus where
  | draft | open | closed
  deriving DecidableEq

/-- `formDefinitionHeadSchema`. -/
structure FormDefinitionHead where
  id : ApplicationId
  scope : IntakeScope
  version : Version
  status : FormStatus
  currentPublishedVersionId : Option ApplicationId
  definition : FormDefinitionContent
  createdByUserId : ApplicationId
  createdAt : Instant
  updatedByUserId : ApplicationId
  updatedAt : Instant

/-- `formDefinitionHeadSchema`, on what the type does not say. -/
def formDefinitionHeadSchema (host : Host D) (head : FormDefinitionHead) : Bool :=
  formDefinitionContentSchema host head.definition &&
    decide (head.status ≠ .draft → head.currentPublishedVersionId ≠ none)

end JooEvents
