import JooEvents.FieldRegistry.Model

/-!
# Where a new field is put

A new field is grouped by its kind and by the words of its label
(`classifyFieldRegistryField`). It is put after the last field of its group, or before the first
field of the next group that has one, or at the end (`suggestFieldRegistryPlacement`).
-/

namespace JooEvents

/-- A character as a pattern of ASCII letters reads it without regard to case. -/
def foldChar (c : Char) : Char :=
  if 'A' ≤ c ∧ c ≤ 'Z' then Char.ofNat (c.toNat + 32)
  else if c.toNat = 0x17F then 's'
  else if c.toNat = 0x212A then 'k'
  else c

/-- The class `\w`, on folded characters. -/
def isWordChar (c : Char) : Bool := isLowerChar c || isDigitChar c || c == '_'

def endsWord : List Char → Bool
  | [] => true
  | c :: _ => !isWordChar c

/-- One of the words stands in a text, after a character of a word or not. -/
def hasWord (words : List String) : Bool → List Char → Bool
  | _, [] => false
  | afterWord, c :: s =>
    (!afterWord && words.any fun word =>
      word.toList.isPrefixOf (c :: s) && endsWord ((c :: s).drop word.toList.length)) ||
    hasWord words (isWordChar c) s

/-- A pattern of words between word boundaries, without regard to case. -/
def matchesWords (words : List String) (label : String) : Bool :=
  hasWord words false (label.toList.map foldChar)

/-- `FIELD_REGISTRY_GROUP_LADDER`. -/
def fieldRegistryGroupLadder : List FieldRegistryGroup :=
  [.identity, .contact, .presence, .talk, .logistics, .materials, .other, .consent]

def consentLabel : List String := ["consent", "agree", "code of conduct", "permission", "recorded"]

def labelRules : List (List String × FieldRegistryGroup) :=
  [(["travel", "arrival", "departure", "visa", "dietary", "hotel"], .logistics),
    (["bio", "pronoun", "name", "headline"], .identity),
    (["slide", "deck", "material", "headshot"], .materials),
    (["twitter", "linkedin", "github", "website", "social"], .presence),
    (["title", "abstract", "format", "track", "topic", "session"], .talk)]

def groupOfLabel (label : String) : FieldRegistryGroup :=
  ((labelRules.find? fun rule => matchesWords rule.1 label).map (·.2)).getD .other

def classifyFieldRegistryField (kind : FieldRegistryKind) (label : String) : FieldRegistryGroup :=
  match kind with
  | .email | .phone => .contact
  | .url => .presence
  | .date | .datetime => .logistics
  | .file => .materials
  | .checkbox => if matchesWords consentLabel label then .consent else groupOfLabel label
  | .text | .textarea | .number | .select | .multiselect => groupOfLabel label

structure FieldRegistryPlacementSuggestion where
  index : ℕ
  group : FieldRegistryGroup
  reasonKey : String
  deriving DecidableEq

def followingGroups (group : FieldRegistryGroup) : List FieldRegistryGroup :=
  (fieldRegistryGroupLadder.dropWhile (· ≠ group)).tail

def firstOfGroup (current : List FieldRegistryFieldDefinition) (group : FieldRegistryGroup) :
    Option ℕ :=
  current.findIdx? fun field => field.group = group

def suggestFieldRegistryPlacement (kind : FieldRegistryKind) (label : String)
    (current : List FieldRegistryFieldDefinition) : FieldRegistryPlacementSuggestion :=
  let group := classifyFieldRegistryField kind label
  if current = [] then
    { index := 0, group, reasonKey := "field_registry.placement.first" }
  else
    match firstOfGroup current.reverse group with
    | some fromEnd =>
      { index := current.length - fromEnd
        group
        reasonKey := "field_registry.placement.after_" ++ group.written }
    | none =>
      match (followingGroups group).find? fun following => (firstOfGroup current following).isSome with
      | some following =>
        { index := (firstOfGroup current following).getD 0
          group
          reasonKey := "field_registry.placement.before_" ++ following.written }
      | none =>
        { index := current.length
          group
          reasonKey := if group = .consent then "field_registry.placement.consent_last"
            else "field_registry.placement.end" }

end JooEvents
