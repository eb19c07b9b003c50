import JooEvents.Communications.Resend
import Mathlib.Data.List.Chain
import Mathlib.Data.List.Dedup
import Mathlib.Data.List.DropRight

/-!
# Merge fields

The registry of the fields that a message can merge, and what a message merges : for each
field that it asks for a value that was resolved, else the fallback that the field is bound
to, else nothing if the field is optional (`resolveOrganizerMergeFields`). Texts are UTF-16
code units. What `new URL` answers, the dates that are checked and the digest of a registry are
of the host.
-/

namespace JooEvents.Rendering

open Fallible

/-! ## Texts -/

/-- What `new URL` reads. -/
structure Url where
  protocol : List ℕ
  hostname : List ℕ
  username : List ℕ
  password : List ℕ
  origin : List ℕ
  href : List ℕ

def maximumSafeInteger : ℤ := 9007199254740991

def isLowerUnit (u : ℕ) : Bool := decide (97 ≤ u ∧ u ≤ 122)

def isDigitUnit (u : ℕ) : Bool := decide (48 ≤ u ∧ u ≤ 57)

/-- `.`, `_` and `-`. -/
def isSeparatorUnit (u : ℕ) : Bool := [46, 95, 45].contains u

/-- `[a-z0-9]*(?:[._-][a-z0-9]+)*$`, or what is left of it after a separator. -/
def matchesKeyRest : Bool → List ℕ → Bool
  | separated, [] => !separated
  | separated, u :: units =>
    if isLowerUnit u || isDigitUnit u then matchesKeyRest false units
    else isSeparatorUnit u && !separated && matchesKeyRest true units

/-- `/^[a-z][a-z0-9]*(?:[._-][a-z0-9]+)*$/`. -/
def matchesStableKey : List ℕ → Bool
  | [] => false
  | u :: units => isLowerUnit u && matchesKeyRest false units

/-- `organizerCommunicationStableKeySchema`. -/
def isStableKey (key : List ℕ) : Bool := decide (key.length ≤ 160) && matchesStableKey key

/-- `organizerCommunicationOpaqueIdSchema` : a letter or digit, then at most 255 of these and of
`.`, `_`, `:`, `@`, `/` and `-`. -/
def isOpaqueIdText : List ℕ → Bool
  | [] => false
  | u :: units =>
    (Markup.isLetter u || isDigitUnit u) && decide (units.length ≤ 255) &&
      units.all fun v => Markup.isLetter v || isDigitUnit v || [46, 95, 58, 64, 47, 45].contains v

/-- `organizerCommunicationDigestSchema`. -/
def isDigestText (digest : List ℕ) : Bool :=
  decide (digest.length = 64) && digest.all fun u => isDigitUnit u || decide (97 ≤ u ∧ u ≤ 102)

/-- `organizerCommunicationVersionSchema`. -/
def isPositiveVersion (version : ℤ) : Bool := decide (1 ≤ version ∧ version ≤ maximumSafeInteger)

/-- `trim()`. -/
def trimUnits (value : List ℕ) : List ℕ :=
  (value.dropWhile isWhiteSpaceUnit).rdropWhile isWhiteSpaceUnit

/-- `replace(/\s+/gu, ' ')`, after white space or not. -/
def collapseSpaces : Bool → List ℕ → List ℕ
  | _, [] => []
  | spaced, u :: units =>
    if isWhiteSpaceUnit u then
      if spaced then collapseSpaces true units else 0x20 :: collapseSpaces true units
    else u :: collapseSpaces false units

/-- `replace(/\r\n?/gu, '\n')`. -/
def normalizeLineEnds : List ℕ → List ℕ
  | [] => []
  | [u] => [if u = 0xD then 0xA else u]
  | u :: v :: units =>
    if u = 0xD then
      if v = 0xA then 0xA :: normalizeLineEnds units else 0xA :: normalizeLineEnds (v :: units)
    else u :: normalizeLineEnds (v :: units)

def normalizeSingleLine (nfc : List ℕ → List ℕ) (value : List ℕ) : List ℕ :=
  collapseSpaces false (trimUnits (nfc value))

def normalizeMultiline (nfc : List ℕ → List ℕ) (value : List ℕ) : List ℕ :=
  trimUnits (normalizeLineEnds (nfc value))

/-- `CONTROL`. -/
def isControlUnit (u : ℕ) : Bool := decide (u ≤ 0x1F ∨ 0x7F ≤ u ∧ u ≤ 0x9F)

def canonicalSingleLine (nfc : List ℕ → List ℕ) (maximum : ℕ) (allowEmpty : Bool)
    (value : List ℕ) : Bool :=
  decide (value.length ≤ maximum) && (allowEmpty || normalizeSingleLine nfc value != []) &&
    decide (normalizeSingleLine nfc value = value) && !value.any isControlUnit

def canonicalMultiline (nfc : List ℕ → List ℕ) (maximum : ℕ) (allowEmpty : Bool)
    (value : List ℕ) : Bool :=
  decide (value.length ≤ maximum) && (allowEmpty || normalizeMultiline nfc value != []) &&
    decide (normalizeMultiline nfc value = value) &&
    !value.any fun u => u != 0xA && isControlUnit u

/-- The keys are in the order of their code units, none of them twice. -/
def isCanonicalOrder (keys : List (List ℕ)) : Bool :=
  decide (keys.IsChain (· < ·))

/-! ## Definitions -/

structure CommunicationDefinitionReference where
  key : List ℕ
  version : ℤ

structure OrganizerCommunicationDefinitionRef where
  reference : CommunicationDefinitionReference
  definitionDigestSha256 : List ℕ

/-- `organizerCommunicationDefinitionRefSchema`, which trims the key. -/
def parseDefinitionRef (ref : OrganizerCommunicationDefinitionRef) :
    Option OrganizerCommunicationDefinitionRef :=
  if isStableKey (trimUnits ref.reference.key) && isPositiveVersion ref.reference.version &&
      isDigestText ref.definitionDigestSha256 then
    some { ref with reference := { ref.reference with key := trimUnits ref.reference.key } }
  else none

inductive OrganizerMergeFieldValueType where
  | text
  | url
  | date
  | instant
  | integer
  deriving DecidableEq

inductive OrganizerMergeFieldValue where
  | text (value : List ℕ)
  | url (value : List ℕ)
  | date (value : List ℕ)
  | instant (value : List ℕ)
  | integer (value : ℤ)

def OrganizerMergeFieldValue.valueType : OrganizerMergeFieldValue → OrganizerMergeFieldValueType
  | .text _ => .text
  | .url _ => .url
  | .date _ => .date
  | .instant _ => .instant
  | .integer _ => .integer

/-- What a field is, the fields of a URL having the origins that they allow. -/
inductive OrganizerMergeFieldKind where
  | text
  | date
  | instant
  | integer
  | url (allowedHttpsOrigins : List (List ℕ))

def OrganizerMergeFieldKind.valueType : OrganizerMergeFieldKind → OrganizerMergeFieldValueType
  | .text => .text
  | .date => .date
  | .instant => .instant
  | .integer => .integer
  | .url _ => .url

structure OrganizerMergeFieldDefinition where
  fieldKey : List ℕ
  kind : OrganizerMergeFieldKind

structure OrganizerMergeRegistryRelease where
  identity : OrganizerCommunicationDefinitionRef
  fields : List OrganizerMergeFieldDefinition

structure OrganizerResolvedMergeValue where
  fieldKey : List ℕ
  value : OrganizerMergeFieldValue

structure OrganizerFallbackMergeValue where
  payloadRefId : List ℕ
  payloadRefVersion : ℤ
  fieldKey : List ℕ
  value : OrganizerMergeFieldValue

inductive MergeFieldRequirement where
  | required
  | optional
  deriving DecidableEq

inductive MergeFieldFallback where
  | none
  | payloadRef (payloadRefId : List ℕ) (payloadRefVersion : ℤ)

structure OrganizerMessageTemplateFieldBinding where
  fieldKey : List ℕ
  requirement : MergeFieldRequirement
  fallback : MergeFieldFallback

/-- The errors of a resolution. `thrown` stands for what the digest throws. -/
inductive OrganizerMergeRegistryError where
  | invalidRegistry
  | invalidBinding
  | unknownMergeField
  | mergeValueTypeMismatch
  | requiredMergeFieldMissing
  | fallbackBindingMismatch
  | thrown
  deriving DecidableEq

/-- What a resolution takes from elsewhere. -/
structure MergeHost where
  /-- `normalize('NFC')`. -/
  nfc : List ℕ → List ℕ
  /-- `new URL`, which may throw. -/
  parseUrl : List ℕ → Option Url
  /-- `z.iso.date()`. -/
  isDate : List ℕ → Bool
  /-- `parseInstant(value) === value`. -/
  isInstant : List ℕ → Bool
  /-- The digest of a reference and its fields, when their canonical text can be written. -/
  definitionDigest : CommunicationDefinitionReference → List OrganizerMergeFieldDefinition →
    Option (List ℕ)

variable (host : MergeHost)

/-- `https:`. -/
def httpsProtocol : List ℕ := codeUnits "https:"

/-- The URL of a value, if it is one of the kind that messages link to. -/
def readHttpsUrl (value : List ℕ) : Option Url :=
  (host.parseUrl value).filter fun url =>
    decide (url.protocol = httpsProtocol ∧ url.hostname ≠ [] ∧ url.username = [] ∧
      url.password = [])

/-- `canonicalHttpsOriginSchema`. -/
def isCanonicalHttpsOrigin (value : List ℕ) : Bool :=
  decide (value.length ≤ 2000) &&
    (readHttpsUrl host value).any fun url => decide (value = url.origin)

/-- `organizerMergeFieldDefinitionSchema`. -/
def isMergeFieldDefinition (definition : OrganizerMergeFieldDefinition) : Bool :=
  isStableKey definition.fieldKey &&
    match definition.kind with
    | .url origins =>
      decide (1 ≤ origins.length ∧ origins.length ≤ 64) &&
        origins.all (isCanonicalHttpsOrigin host) && isCanonicalOrder origins
    | _ => true

/-- `organizerTemplateFieldFallbackValueSchema`. -/
def isMergeFieldValue : OrganizerMergeFieldValue → Bool
  | .text value => canonicalMultiline host.nfc 20000 true value
  | .url value => canonicalSingleLine host.nfc 8000 false value
  | .date value => host.isDate value
  | .instant value => host.isInstant value
  | .integer value => decide (-maximumSafeInteger ≤ value ∧ value ≤ maximumSafeInteger)

/-- `organizerMessageTemplateFieldBindingSchema`. -/
def isFieldBinding (binding : OrganizerMessageTemplateFieldBinding) : Bool :=
  isStableKey binding.fieldKey &&
    match binding.fallback with
    | .none => true
    | .payloadRef payloadRefId payloadRefVersion =>
      isOpaqueIdText payloadRefId && isPositiveVersion payloadRefVersion

/-! ## Resolution -/

def canonicalFields (fields : List OrganizerMergeFieldDefinition) :
    Except OrganizerMergeRegistryError Unit := do
  require (fields.length ≤ 500) .invalidRegistry
  require (fields.all (isMergeFieldDefinition host) = true) .invalidRegistry
  require (isCanonicalOrder (fields.map (·.fieldKey)) = true) .invalidRegistry

def canonicalBindings (bindings : List OrganizerMessageTemplateFieldBinding) :
    Except OrganizerMergeRegistryError Unit := do
  require (bindings.length ≤ 500) .invalidBinding
  require (bindings.all isFieldBinding = true) .invalidBinding
  require (isCanonicalOrder (bindings.map (·.fieldKey)) = true) .invalidBinding

/-- `sort()` of keys. -/
def sortKeys (keys : List (List ℕ)) : List (List ℕ) := keys.insertionSort (· ≤ ·)

def canonicalRequested (keys : List (List ℕ)) :
    Except OrganizerMergeRegistryError (List (List ℕ)) := do
  require (keys.all isStableKey = true) .unknownMergeField
  return (sortKeys keys).dedup

variable (definitions : List OrganizerMergeFieldDefinition)

def definitionOf (fieldKey : List ℕ) : Option OrganizerMergeFieldDefinition :=
  definitions.find? fun definition => decide (definition.fieldKey = fieldKey)

/-- The loop of `resolvedMap`, with what it has set. -/
def resolvedMap : List OrganizerResolvedMergeValue → List OrganizerResolvedMergeValue →
    Except OrganizerMergeRegistryError (List OrganizerResolvedMergeValue)
  | result, [] => .ok result
  | result, candidate :: values => do
    require (isStableKey candidate.fieldKey = true ∧ isMergeFieldValue host candidate.value = true)
      .mergeValueTypeMismatch
    let definition ← orRefuse (definitionOf definitions candidate.fieldKey) .unknownMergeField
    require (∀ set ∈ result, set.fieldKey ≠ candidate.fieldKey) .mergeValueTypeMismatch
    require (definition.kind.valueType = candidate.value.valueType) .mergeValueTypeMismatch
    resolvedMap (result ++ [candidate]) values

/-- The loop of `fallbackMap`, with what it has set. -/
def fallbackMap : List OrganizerFallbackMergeValue → List OrganizerFallbackMergeValue →
    Except OrganizerMergeRegistryError (List OrganizerFallbackMergeValue)
  | result, [] => .ok result
  | result, candidate :: values => do
    require (isOpaqueIdText candidate.payloadRefId = true ∧
      isPositiveVersion candidate.payloadRefVersion = true ∧
      isStableKey candidate.fieldKey = true ∧ isMergeFieldValue host candidate.value = true)
      .fallbackBindingMismatch
    let definition ← orRefuse (definitionOf definitions candidate.fieldKey)
      .fallbackBindingMismatch
    require (definition.kind.valueType = candidate.value.valueType ∧
      ∀ set ∈ result, set.payloadRefId ≠ candidate.payloadRefId) .fallbackBindingMismatch
    fallbackMap (result ++ [candidate]) values

inductive MergeValueSource where
  | resolved
  | fallback
  | absentOptional
  deriving DecidableEq

/-- An entry of `canonicalValues`, which has the value of the field in `values`. -/
structure CanonicalMergeValue where
  fieldKey : List ℕ
  value : Option OrganizerMergeFieldValue
  source : MergeValueSource

structure OrganizerResolvedMergeFields where
  canonicalValues : List CanonicalMergeValue
  warningCodes : List (List ℕ)

/-- `values.get`. -/
def OrganizerResolvedMergeFields.value? (fields : OrganizerResolvedMergeFields)
    (fieldKey : List ℕ) : Option OrganizerMergeFieldValue :=
  (fields.canonicalValues.find? fun entry => decide (entry.fieldKey = fieldKey)).bind (·.value)

/-- The body of the loop over the requested fields. -/
def resolveField (bindings : List OrganizerMessageTemplateFieldBinding)
    (live : List OrganizerResolvedMergeValue) (fallbacks : List OrganizerFallbackMergeValue)
    (fieldKey : List ℕ) : Except OrganizerMergeRegistryError CanonicalMergeValue := do
  let _ ← orRefuse (definitionOf definitions fieldKey) .unknownMergeField
  let binding ← orRefuse (bindings.find? fun binding => decide (binding.fieldKey = fieldKey))
    .unknownMergeField
  match live.find? fun entry => decide (entry.fieldKey = fieldKey) with
  | some resolved => return ⟨fieldKey, some resolved.value, .resolved⟩
  | none =>
    match binding.fallback with
    | .payloadRef payloadRefId payloadRefVersion => do
      let fallback ← orRefuse
        (fallbacks.find? fun entry => decide (entry.payloadRefId = payloadRefId))
        .fallbackBindingMismatch
      require (fallback.payloadRefVersion = payloadRefVersion ∧ fallback.fieldKey = fieldKey)
        .fallbackBindingMismatch
      return ⟨fieldKey, some fallback.value, .fallback⟩
    | .none => do
      require (binding.requirement = .optional) .requiredMergeFieldMissing
      return ⟨fieldKey, none, .absentOptional⟩

def resolveOrganizerMergeFields (registry : OrganizerMergeRegistryRelease)
    (bindings : List OrganizerMessageTemplateFieldBinding) (requestedFieldKeys : List (List ℕ))
    (resolvedValues : List OrganizerResolvedMergeValue)
    (fallbackValues : List OrganizerFallbackMergeValue) :
    Except OrganizerMergeRegistryError OrganizerResolvedMergeFields := do
  let identity ← orRefuse (parseDefinitionRef registry.identity) .invalidRegistry
  canonicalFields host registry.fields
  let digest ← orRefuse (host.definitionDigest identity.reference registry.fields) .thrown
  require (identity.definitionDigestSha256 = digest) .invalidRegistry
  canonicalBindings bindings
  let requested ← canonicalRequested requestedFieldKeys
  let live ← resolvedMap host registry.fields [] resolvedValues
  let fallbacks ← fallbackMap host registry.fields [] fallbackValues
  let canonicalValues ← requested.mapM (resolveField registry.fields bindings live fallbacks)
  return {
    canonicalValues
    warningCodes := if canonicalValues.any fun entry => decide (entry.source = .absentOptional)
      then [codeUnits "merge.optional_absent"] else [] }

end JooEvents.Rendering
