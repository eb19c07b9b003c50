import JooEvents.Communications.Delivery
import JooEvents.Kernel.Number
import JooEvents.Reliability.Definitions

/-!
# Callbacks of providers

A provider calls back about a message, and a verifier of the connection vouches for the callback.
Verifiers are rotated : the connection points at the current revision of its verifier and for a
while at the previous one, each with the time until which it is asked. A registry holds the
implementations of verifiers. It accepts a callback if every revision that is asked has one
implementation and exactly one of them vouches; whatever else it is told, it refuses.

An implementation is a function of the callback and the candidate that may fail. What it answers
is not typed : `CallbackHost` takes its two records apart, as the schemas of their shape do.
-/

namespace JooEvents

open Fallible

variable {Context Unknown : Type}

/-- `opaqueIdPattern` after its first character. -/
def isProviderIdChar (c : Char) : Bool :=
  isLowerChar c || isDigitChar c || decide (65 ≤ c.val.toNat ∧ c.val.toNat ≤ 90) ||
    isOneOf ['.', '_', ':', '@', '/', '-'] c

/-- `providerOpaqueIdSchema`. -/
def isProviderOpaqueId (s : String) : Bool :=
  match s.toList with
  | [] => false
  | c :: cs => isOpaqueChar c && !isOneOf ['_', '-'] c && cs.all isProviderIdChar &&
      decide (cs.length ≤ 255)

/-- `providerSha256Schema`. -/
def isProviderSha256 (s : String) : Bool := matchesShape (List.replicate 64 isHexChar) s.toList

/-! ## Callbacks -/

/-- Why a callback is thrown back before anyone is asked. -/
inductive RawCallbackError where
  | version_unsupported
  | malformed
  | byte_length
  | payload_size
  | signature_size
  | digest

structure RawProviderCallback where
  contractVersion : Decimal
  providerConnectionId : String
  ingressCorrelationId : String
  payloadDigestSha256 : String
  payloadByteLength : Decimal
  rawPayloadBytes : List UInt8
  signatureEnvelopeBytes : List UInt8

/-- `callbackEvidenceClassSchema`. -/
inductive CallbackEvidenceClass where
  | delivered
  | delayed
  | bounced
  | complained
  | suppressed
  deriving DecidableEq

/-- `normalizedIdentityShape`, with the identities. -/
inductive NormalizedIdentity where
  | external_delivery_key_only (externalDeliveryKey : String)
  | provider_message_id_only (providerMessageId : String)
  | both (providerMessageId externalDeliveryKey : String)
  deriving DecidableEq

structure VerifiedProviderCallback where
  schemaVersion : ℕ
  normalizerVersion : ℕ
  providerConnectionId : String
  providerEventId : String
  payloadDigestSha256 : String
  normalizedEvidenceClass : CallbackEvidenceClass
  signatureTimestamp : ℕ
  replayWindowExpiresAt : ℕ
  verifiedAt : ℕ
  providerOccurredAt : Option ℕ
  identity : NormalizedIdentity
  canonicalDigestSha256 : CanonicalSha256
  deriving DecidableEq

/-- What is computed outside of the registry : digests, and the shapes of the records that a
verifier answers. -/
structure CallbackHost (Unknown : Type) where
  /-- `bytesToHex(sha256(_))`. -/
  sha256 : List UInt8 → String
  /-- The strict shape of `safeEvidenceSchema`. -/
  decodeEvidence : Unknown → Option SafeEvidence
  /-- The strict shape of `verifiedProviderCallbackSchema`. -/
  decodeVerified : Unknown → Option VerifiedProviderCallback
  /-- `computeSafeEvidenceDigestSha256`, of all of the evidence but its digest. -/
  evidenceDigest : SafeEvidence → CanonicalSha256
  /-- `digestCanonicalValue`, of all of the callback but its digest. -/
  verifiedDigest : VerifiedProviderCallback → CanonicalSha256

namespace CallbackHost

variable (host : CallbackHost Unknown)

/-- `safeEvidenceSchema.parse`. -/
def parseEvidence (value : Unknown) : Option SafeEvidence := do
  let evidence ← host.decodeEvidence value
  guard ((evidence.registeredFacts.map (·.factKey)).IsChain (· < ·))
  guard (host.evidenceDigest evidence = evidence.canonicalDigestSha256)
  return evidence

/-- `verifiedProviderCallbackSchema.parse`. -/
def parseVerified (value : Unknown) : Option VerifiedProviderCallback := do
  let verified ← host.decodeVerified value
  guard (host.verifiedDigest verified = verified.canonicalDigestSha256)
  guard (verified.signatureTimestamp < verified.replayWindowExpiresAt)
  return verified

def validateRawProviderCallback (value : RawProviderCallback) :
    Except RawCallbackError RawProviderCallback := do
  require (value.contractVersion.value = 1) .version_unsupported
  require (isProviderOpaqueId value.providerConnectionId = true) .malformed
  require (isProviderOpaqueId value.ingressCorrelationId = true) .malformed
  require (isProviderSha256 value.payloadDigestSha256 = true) .malformed
  require (isSafeInteger value.payloadByteLength.value ∧ 0 ≤ value.payloadByteLength.value ∧
    value.payloadByteLength.value = value.rawPayloadBytes.length) .byte_length
  require (value.payloadByteLength.value ≤ 1048576) .payload_size
  require (value.signatureEnvelopeBytes.length ≤ 16384) .signature_size
  require (host.sha256 value.rawPayloadBytes = value.payloadDigestSha256) .digest
  return value

end CallbackHost

/-! ## Candidates -/

/-- `keyIdMode`. -/
inductive CallbackKeyIdMode where
  | required
  | optional
  | absent

/-- A revision of the verifier of a connection. -/
structure CallbackVerifierRevision (Context : Type) where
  connectionId : String
  callbackVerifierRevisionId : String
  verifierKey : String
  verifierVersion : String
  verificationContractVersion : Decimal
  keyIdMode : CallbackKeyIdMode
  configDigestSha256 : String
  opaqueContext : Context

/-- `pointerRole`, with the time that goes with it. -/
inductive CallbackPointerRole where
  | current (eligibilityCeiling : Option Decimal)
  | unexpired_previous (eligibilityCeiling : Decimal)

/-- The ceiling of a role of the previous revision. -/
def CallbackPointerRole.previousCeiling : CallbackPointerRole → Option Decimal
  | .current _ => none
  | .unexpired_previous eligibilityCeiling => some eligibilityCeiling

structure CallbackVerifierCandidate (Context : Type) where
  revision : CallbackVerifierRevision Context
  pointerRole : CallbackPointerRole

/-- What the slot of the current revision holds. -/
structure CurrentVerifier (Context : Type) where
  revision : CallbackVerifierRevision Context
  eligibilityCeiling : Option Decimal

/-- What the slot of the previous revision holds. -/
structure PreviousVerifier (Context : Type) where
  revision : CallbackVerifierRevision Context
  eligibilityCeiling : Decimal

def CurrentVerifier.candidate (slot : CurrentVerifier Context) :
    CallbackVerifierCandidate Context := ⟨slot.revision, .current slot.eligibilityCeiling⟩

def PreviousVerifier.candidate (slot : PreviousVerifier Context) :
    CallbackVerifierCandidate Context :=
  ⟨slot.revision, .unexpired_previous slot.eligibilityCeiling⟩

/-- `pointerState`, with its slots. -/
inductive CallbackVerifierPointer (Context : Type) where
  | active (current : CurrentVerifier Context) (previous : Option (PreviousVerifier Context))
  | draining_disabled (currentVerificationUntil : Decimal)
      (current : Option (CurrentVerifier Context)) (previous : Option (PreviousVerifier Context))
  | disabled

/-- The ceiling of the current revision of a pointer that drains. -/
def CallbackVerifierPointer.drainingCeiling : CallbackVerifierPointer Context → Option Decimal
  | .draining_disabled currentVerificationUntil _ _ => some currentVerificationUntil
  | _ => none

structure CallbackVerifierCandidateSet (Context : Type) where
  contractVersion : Decimal
  connectionId : String
  verifierPointerVersion : Decimal
  resolvedAtDatabaseTime : Decimal
  connectionLifecycleVerificationUntil : Option Decimal
  pointer : CallbackVerifierPointer Context

def implementationKey (verifierKey verifierVersion : String)
    (verificationContractVersion : Decimal) : List Char :=
  verifierKey.toList ++ '\x00' :: (verifierVersion.toList ++
    '\x00' :: verificationContractVersion.text)

def CallbackVerifierCandidate.implementationKey (candidate : CallbackVerifierCandidate Context) :
    List Char :=
  JooEvents.implementationKey candidate.revision.verifierKey candidate.revision.verifierVersion
    candidate.revision.verificationContractVersion

def CallbackVerifierCandidate.sortKey (candidate : CallbackVerifierCandidate Context) : List Char :=
  candidate.implementationKey ++ '\x00' :: candidate.revision.callbackVerifierRevisionId.toList

def unexpiredPrevious (set : CallbackVerifierCandidateSet Context)
    (previous : Option (PreviousVerifier Context)) : List (CallbackVerifierCandidate Context) :=
  (previous.filter fun slot =>
    set.resolvedAtDatabaseTime.value < slot.eligibilityCeiling.value).toList.map (·.candidate)

/-- The candidates that `eligibleCandidates` pushes. -/
def pushedCandidates (set : CallbackVerifierCandidateSet Context) :
    List (CallbackVerifierCandidate Context) :=
  match set.pointer with
  | .disabled => []
  | .active current previous => current.candidate :: unexpiredPrevious set previous
  | .draining_disabled currentVerificationUntil current previous =>
    (current.filter fun _ =>
      set.resolvedAtDatabaseTime.value < currentVerificationUntil.value).toList.map (·.candidate) ++
      unexpiredPrevious set previous

def eligibleCandidates (set : CallbackVerifierCandidateSet Context) :
    List (CallbackVerifierCandidate Context) :=
  if ∃ ceiling ∈ set.connectionLifecycleVerificationUntil,
      ceiling.value ≤ set.resolvedAtDatabaseTime.value then []
  else (pushedCandidates set).mergeSort fun left right => !decide (right.sortKey < left.sortKey)

/-- Why a set of candidates is not asked. -/
inductive CandidateSetError where
  | version_unsupported
  | connection
  | pointer_version
  | database_time
  | connection_ceiling
  | draining_ceiling
  | candidate_connection
  | candidate_malformed
  | candidate_contract_version
  | revisions_not_unique
  | previous_ceiling

def isBoundedTimestamp (time : Decimal) : Prop := isSafeInteger time.value ∧ 0 ≤ time.value

instance (time : Decimal) : Decidable (isBoundedTimestamp time) :=
  inferInstanceAs (Decidable (_ ∧ _))

def isPositiveVersion (version : Decimal) : Prop :=
  isSafeInteger version.value ∧ 0 < version.value

instance (version : Decimal) : Decidable (isPositiveVersion version) :=
  inferInstanceAs (Decidable (_ ∧ _))

def declaredCandidates (set : CallbackVerifierCandidateSet Context) :
    List (CallbackVerifierCandidate Context) :=
  match set.pointer with
  | .disabled => []
  | .active current previous => current.candidate :: previous.toList.map (·.candidate)
  | .draining_disabled _ current previous =>
    current.toList.map (·.candidate) ++ previous.toList.map (·.candidate)

/-- One turn of the loop over the declared candidates, with the revisions that came before. -/
def validateCandidate (set : CallbackVerifierCandidateSet Context) (revisionIds : List String)
    (candidate : CallbackVerifierCandidate Context) : Except CandidateSetError (List String) := do
  let revision := candidate.revision
  require (revision.connectionId = set.connectionId) .candidate_connection
  require (isProviderOpaqueId revision.callbackVerifierRevisionId = true) .candidate_malformed
  require (isDefinitionKey revision.verifierKey = true) .candidate_malformed
  require (isDefinitionKey revision.verifierVersion = true) .candidate_malformed
  require (isPositiveVersion revision.verificationContractVersion) .candidate_contract_version
  require (isProviderSha256 revision.configDigestSha256 = true) .candidate_malformed
  require (revision.callbackVerifierRevisionId ∉ revisionIds) .revisions_not_unique
  require (∀ ceiling ∈ candidate.pointerRole.previousCeiling, isBoundedTimestamp ceiling)
    .previous_ceiling
  return revisionIds ++ [revision.callbackVerifierRevisionId]

def validateCandidateSet (input : RawProviderCallback)
    (set : CallbackVerifierCandidateSet Context) : Except CandidateSetError Unit := do
  require (set.contractVersion.value = 1) .version_unsupported
  require (set.connectionId = input.providerConnectionId) .connection
  require (isPositiveVersion set.verifierPointerVersion) .pointer_version
  require (isBoundedTimestamp set.resolvedAtDatabaseTime) .database_time
  require (∀ ceiling ∈ set.connectionLifecycleVerificationUntil, isBoundedTimestamp ceiling)
    .connection_ceiling
  require (∀ ceiling ∈ set.pointer.drainingCeiling, isBoundedTimestamp ceiling) .draining_ceiling
  let _ ← (declaredCandidates set).foldlM (validateCandidate set) []
  return ()

/-! ## The registry -/

/-- What a verifier answers, before it is checked. -/
inductive CallbackVerdict (Unknown : Type) where
  | verified (verified : Unknown)
  | not_verified

/-- An answer of a verifier. -/
structure CallbackVerifierOutcome (Unknown : Type) where
  contractVersion : Decimal
  verdict : CallbackVerdict Unknown
  evidence : Unknown

/-- `EmailCallbackVerifier`. It may throw. -/
structure EmailCallbackVerifier (Context Unknown : Type) where
  verifierKey : String
  verifierVersion : String
  verificationContractVersion : Decimal
  verifyCandidate : RawProviderCallback → CallbackVerifierCandidate Context →
    Option (CallbackVerifierOutcome Unknown)

def EmailCallbackVerifier.implementationKey (verifier : EmailCallbackVerifier Context Unknown) :
    List Char :=
  JooEvents.implementationKey verifier.verifierKey verifier.verifierVersion
    verifier.verificationContractVersion

/-- An answer that was checked. -/
inductive CheckedVerifierOutcome where
  | verified (verified : VerifiedProviderCallback) (evidence : SafeEvidence)
  | not_verified (evidence : SafeEvidence)

def CallbackHost.validateVerifierOutcome (host : CallbackHost Unknown)
    (value : CallbackVerifierOutcome Unknown) (input : RawProviderCallback) :
    Option CheckedVerifierOutcome := do
  guard (value.contractVersion.value = 1)
  let evidence ← host.parseEvidence value.evidence
  match value.verdict with
  | .not_verified => return .not_verified evidence
  | .verified verified =>
    let verified ← host.parseVerified verified
    guard (verified.providerConnectionId = input.providerConnectionId ∧
      verified.payloadDigestSha256 = input.payloadDigestSha256)
    return .verified verified evidence

inductive CallbackRegistryEvidenceCode where
  | no_candidate
  | verifier_unavailable
  | none_verified
  | multiple_verified

/-- What is accepted. -/
structure AcceptedCallback where
  callbackVerifierRevisionId : String
  verifierKey : String
  verifierVersion : String
  verificationContractVersion : Decimal
  verifierConfigDigestSha256 : String
  verified : VerifiedProviderCallback
  evidence : SafeEvidence
  deriving DecidableEq

inductive CallbackVerificationResolution where
  | exactly_one (accepted : AcceptedCallback)
  | none (correlationId : String) (evidence : SafeEvidence)
  | ambiguous (correlationId : String) (evidence : SafeEvidence)

def CallbackVerifierCandidate.accepted (candidate : CallbackVerifierCandidate Context)
    (verified : VerifiedProviderCallback) (evidence : SafeEvidence) : AcceptedCallback where
  callbackVerifierRevisionId := candidate.revision.callbackVerifierRevisionId
  verifierKey := candidate.revision.verifierKey
  verifierVersion := candidate.revision.verifierVersion
  verificationContractVersion := candidate.revision.verificationContractVersion
  verifierConfigDigestSha256 := candidate.revision.configDigestSha256
  verified := verified
  evidence := evidence

/-- `createEmailCallbackVerifierRegistry`. -/
structure EmailCallbackVerifierRegistry (Context Unknown : Type) where
  host : CallbackHost Unknown
  evidence : CallbackRegistryEvidenceCode → String → SafeEvidence
  implementations : List (EmailCallbackVerifier Context Unknown)

namespace EmailCallbackVerifierRegistry

variable (registry : EmailCallbackVerifierRegistry Context Unknown)

def byKey : List Char → List (EmailCallbackVerifier Context Unknown) :=
  registry.implementations.foldl
    (fun known implementation => fun key =>
      if key = implementation.implementationKey then known key ++ [implementation] else known key)
    fun _ => []

def exact (candidate : CallbackVerifierCandidate Context) :
    Option (EmailCallbackVerifier Context Unknown) :=
  match registry.byKey candidate.implementationKey with
  | [implementation] => some implementation
  | _ => Option.none

/-- What an implementation says about a candidate, or nothing if it throws or is not understood. -/
def outcome (callback : RawProviderCallback) (candidate : CallbackVerifierCandidate Context)
    (implementation : EmailCallbackVerifier Context Unknown) : Option CheckedVerifierOutcome :=
  (implementation.verifyCandidate callback candidate).bind
    (registry.host.validateVerifierOutcome · callback)

def acceptedBy (candidate : CallbackVerifierCandidate Context) :
    Option CheckedVerifierOutcome → Option AcceptedCallback
  | some (.verified verified evidence) => some (candidate.accepted verified evidence)
  | _ => Option.none

def resolve (raw : RawProviderCallback) (set : CallbackVerifierCandidateSet Context) :
    Except RawCallbackError CallbackVerificationResolution := do
  let callback ← registry.host.validateRawProviderCallback raw
  let refuse (code : CallbackRegistryEvidenceCode) : CallbackVerificationResolution :=
    .none callback.ingressCorrelationId (registry.evidence code callback.ingressCorrelationId)
  match validateCandidateSet callback set with
  | .error _ => return refuse .verifier_unavailable
  | .ok () =>
    let candidates := eligibleCandidates set
    if candidates = [] then return refuse .no_candidate
    else
      match candidates.mapM fun candidate => (registry.exact candidate).map (candidate, ·) with
      | Option.none => return refuse .verifier_unavailable
      | some selected =>
        let verified := selected.filterMap fun (candidate, implementation) =>
          acceptedBy candidate (registry.outcome callback candidate implementation)
        match verified with
        | [] => return refuse .none_verified
        | [accepted] => return .exactly_one accepted
        | _ =>
          let evidence := registry.evidence .multiple_verified callback.ingressCorrelationId
          return .ambiguous callback.ingressCorrelationId evidence

end EmailCallbackVerifierRegistry

end JooEvents
