import JooEvents.Communications.Model
import JooEvents.Lib.Fallible
import JooEvents.Lib.SortedKeys

/-!
# Audience resolution

A source answers with the candidates of an audience, and the address policy with what holds of
each; the members follow the candidates in their order. The groups of a composite audience are
resolved one by one, and members of one mailbox are joined into the first of them.

A port answers with values of the schemas or fails, and it may answer the calls for two groups
differently : they are numbered.
-/

namespace JooEvents

open Fallible

variable {D : Type} [DecidableEq D]

@[ext] structure OrganizerAudienceScope where
  workspaceId : ApplicationId
  eventId : ApplicationId

structure OrganizerCommunicationPurposeRevisionRef (D : Type) where
  purposeId : OpaqueId
  purposeKey : OrganizerStableKey
  revisionId : OpaqueId
  revisionNumber : Version
  digestSha256 : D
  deriving DecidableEq

/-- `organizerCommunicationAudienceAtomicSourceSchema`. -/
inductive OrganizerAudienceAtomicSource (D : Type) where
  | explicitContacts (contactRefIds : {ids : List SubjectRefId //
      (1 ≤ ids.length ∧ ids.length ≤ 10000) ∧ ids.Pairwise (· < ·)})
  | registeredQuery (recipeId : OpaqueId) (recipeVersion : Version) (recipeDigestSha256 : D)
      (sourceDefinition : OrganizerDefinitionRef D)
  deriving DecidableEq

structure OrganizerAudienceGroup (host : Host D) where
  label : CanonicalLine host 200
  source : OrganizerAudienceAtomicSource D
  deriving DecidableEq

inductive OrganizerAudienceSource (host : Host D) where
  | atomic (source : OrganizerAudienceAtomicSource D)
  | composite (groups : {groups : List (OrganizerAudienceGroup host) //
      2 ≤ groups.length ∧ groups.length ≤ 20})
  deriving DecidableEq

structure OrganizerCommunicationAudienceDraft (host : Host D) where
  purposeRevision : OrganizerCommunicationPurposeRevisionRef D
  source : OrganizerAudienceSource host

structure OrganizerMessagePreviewSourceVersion (D : Type) where
  sourceKey : OrganizerStableKey
  sourceVersion : Version
  digestSha256 : D
  deriving DecidableEq

inductive OrganizerAudienceResolutionErrorCode where
  | invalidInput
  | sourceNotRegistered
  | sourceContractMismatch
  | sourceTooLarge
  | duplicateSourceSubject
  | addressEvidenceInvalid
  | addressContactMismatch
  deriving DecidableEq

structure OrganizerAudienceSourceSnapshot (host : Host D) where
  source : OrganizerAudienceSource host
  candidates : List (OrganizerAudienceCandidate host)
  sourceVersions : List (OrganizerMessagePreviewSourceVersion D)

structure OrganizerAudienceSourcePort (host : Host D) where
  resolveCurrentSnapshot (group : ℕ) (scope : OrganizerAudienceScope)
    (audience : OrganizerCommunicationAudienceDraft host) :
    Except OrganizerAudienceResolutionErrorCode (OrganizerAudienceSourceSnapshot host)

structure OrganizerAddressPolicyPort (host : Host D) where
  resolveEmail (group : ℕ) (scope : OrganizerAudienceScope)
    (purposeRevision : OrganizerCommunicationPurposeRevisionRef D)
    (candidate : OrganizerAudienceCandidate host) (asOf : Instant) :
    Except OrganizerAudienceResolutionErrorCode (OrganizerAddressPolicyResolution D)

structure OrganizerResolvedAudienceSnapshot (host : Host D) where
  scope : OrganizerAudienceScope
  audience : OrganizerCommunicationAudienceDraft host
  sourceVersions : List (OrganizerMessagePreviewSourceVersion D)
  members : List (OrganizerResolvedAudienceMember host)

/-- The character between the parts of a sort key. -/
def nulText : String := String.singleton (Char.ofNat 0)

def evidenceSortKey (evidence : OrganizerAudienceEvidenceRef D) : List ℕ :=
  codeUnits (evidence.evidenceRefId.val ++ nulText ++ toString evidence.evidenceVersion.val)

/-- The evidence from a first one on, without what repeats its predecessor, of which it must be
a copy. -/
def uniqueEvidence (prior : OrganizerAudienceEvidenceRef D) :
    List (OrganizerAudienceEvidenceRef D) →
      Except OrganizerAudienceResolutionErrorCode (List (OrganizerAudienceEvidenceRef D))
  | [] => .ok [prior]
  | current :: rest =>
    if prior.evidenceRefId = current.evidenceRefId ∧
        prior.evidenceVersion = current.evidenceVersion then do
      require (prior.evidenceDigestSha256 = current.evidenceDigestSha256) .addressEvidenceInvalid
      uniqueEvidence prior rest
    else (uniqueEvidence current rest).map (prior :: ·)

def canonicalEvidence (values : List (OrganizerAudienceEvidenceRef D)) :
    Except OrganizerAudienceResolutionErrorCode (List (OrganizerAudienceEvidenceRef D)) :=
  match values.sortByKey evidenceSortKey with
  | [] => .ok []
  | prior :: rest => uniqueEvidence prior rest

def excludedReason (policy : OrganizerEvaluatedAddressPolicy D) :
    Option OrganizerAudienceExclusionReason :=
  if policy.address.lifecycle = .revoked then some .addressRevoked
  else if policy.purposeBasis.state = .denied then some .purposeNotAllowed
  else if policy.consent.state = .missing then some .consentMissing
  else if policy.consent.state = .withdrawn then some .consentWithdrawn
  else if policy.doNotContact.state = .active then some .doNotContact
  else if policy.suppression.state = .suppressed then some .suppressed
  else none

/-- `freezePolicyEvidence`. -/
def OrganizerAddressPolicyResolution.policyEvidence :
    OrganizerAddressPolicyResolution D → OrganizerPolicyEvidence D
  | .noEligibleAddress evidence => .noEligibleAddress evidence
  | .evaluated policy => .evaluated policy.selectionPolicy
    { state := policy.address.lifecycle, evidence := policy.address.lifecycleEvidence }
    policy.purposeBasis policy.consent policy.suppression policy.doNotContact

section

variable {host : Host D} (toLocaleLowerCase : String → String)

def candidateSortKey (candidate : OrganizerAudienceCandidate host) : String :=
  toLocaleLowerCase (host.nfc candidate.safeLabel.val) ++ nulText ++ candidate.subjectRefId.val

def canonicalSourceSnapshot (expected : OrganizerCommunicationAudienceDraft host)
    (snapshot : OrganizerAudienceSourceSnapshot host) :
    Except OrganizerAudienceResolutionErrorCode (OrganizerAudienceSourceSnapshot host) := do
  require (snapshot.candidates.length ≤ 10000) .sourceTooLarge
  require (snapshot.sourceVersions.length ≤ 100) .sourceContractMismatch
  require (snapshot.source = expected.source) .sourceContractMismatch
  let candidates := snapshot.candidates.sortByKey fun candidate =>
    codeUnits (candidateSortKey toLocaleLowerCase candidate)
  require ((candidates.map (·.subjectRefId)).Nodup) .duplicateSourceSubject
  let sourceVersions := snapshot.sourceVersions.sortByKey (·.sourceKey)
  require ((sourceVersions.map OrganizerMessagePreviewSourceVersion.sourceKey).IsChain (· ≠ ·))
    .sourceContractMismatch
  pure { source := snapshot.source, candidates, sourceVersions }

def resolveMember (candidate : OrganizerAudienceCandidate host)
    (resolution : OrganizerAddressPolicyResolution D) :
    Except OrganizerAudienceResolutionErrorCode (OrganizerResolvedAudienceMember host) :=
  match resolution with
  | .noEligibleAddress evidence => do
    let evidence ← canonicalEvidence [candidate.membershipEvidence, evidence]
    pure
      { candidate, evidence, policyEvidence := resolution.policyEvidence
        state := .excluded .noEligibleAddress none none }
  | .evaluated policy => do
    require (policy.address.contactRefId = candidate.contactRefId) .addressContactMismatch
    let evidence ← canonicalEvidence
      [candidate.membershipEvidence, policy.address.lifecycleEvidence,
        policy.purposeBasis.evidence, policy.consent.evidence, policy.suppression.evidence,
        policy.doNotContact.evidence]
    pure
      { candidate, evidence, policyEvidence := resolution.policyEvidence
        state := (excludedReason policy).elim (.eligible policy.address policy.selectionPolicy)
          fun reasonCode =>
            .excluded reasonCode (some policy.address) (some policy.selectionPolicy) }

variable (scope : OrganizerAudienceScope) (asOf : Instant)
variable (source : OrganizerAudienceSourcePort host)
variable (addressPolicy : OrganizerAddressPolicyPort host)

/-- `resolveOrganizerAudience`, of an audience of one source. -/
def resolveAtomicAudience (group : ℕ) (audience : OrganizerCommunicationAudienceDraft host) :
    Except OrganizerAudienceResolutionErrorCode (OrganizerResolvedAudienceSnapshot host) := do
  let rawSource ← source.resolveCurrentSnapshot group scope audience
  let snapshot ← canonicalSourceSnapshot toLocaleLowerCase audience rawSource
  let members ← snapshot.candidates.mapM fun candidate => do
    let resolution ← addressPolicy.resolveEmail group scope audience.purposeRevision candidate asOf
    resolveMember candidate resolution
  pure { scope, audience, sourceVersions := snapshot.sourceVersions, members }

def OrganizerResolvedAudienceMember.mailbox (member : OrganizerResolvedAudienceMember host) :
    Option String :=
  (member.state.address.map fun address =>
    toLocaleLowerCase (trimText address.classifiedValue.value.val)).filter (· ≠ "")

/-- The first member of a mailbox with another one of it : an exclusion applies to both. -/
def joinMember (first member : OrganizerResolvedAudienceMember host) :
    Except OrganizerAudienceResolutionErrorCode (OrganizerResolvedAudienceMember host) :=
  match first.state, member.state with
  | .eligible address policy, .excluded reasonCode _ _ => do
    let evidence ← canonicalEvidence (first.evidence ++ member.evidence)
    pure
      { first with
        evidence, policyEvidence := member.policyEvidence,
        state := .excluded reasonCode (some address) (some policy) }
  | _, _ => .ok first

def addMember (members : List (OrganizerResolvedAudienceMember host))
    (member : OrganizerResolvedAudienceMember host) :
    Except OrganizerAudienceResolutionErrorCode (List (OrganizerResolvedAudienceMember host)) :=
  match member.mailbox toLocaleLowerCase with
  | none => .ok (members ++ [member])
  | some mailbox =>
    let sameMailbox := fun other : OrganizerResolvedAudienceMember host =>
      decide (other.mailbox toLocaleLowerCase = some mailbox)
    match members.find? sameMailbox with
    | none => .ok (members ++ [member])
    | some first =>
      (joinMember first member).map fun joined => members.set (members.findIdx sameMailbox) joined

/-- The versions with one more, which must agree with the one of its source. -/
def addSourceVersion (versions : List (OrganizerMessagePreviewSourceVersion D))
    (version : OrganizerMessagePreviewSourceVersion D) :
    Except OrganizerAudienceResolutionErrorCode (List (OrganizerMessagePreviewSourceVersion D)) :=
  match versions.find? fun prior => prior.sourceKey = version.sourceKey with
  | none => .ok (versions ++ [version])
  | some prior => (require (prior = version) .sourceContractMismatch).map fun _ => versions

def resolveOrganizerAudience (audience : OrganizerCommunicationAudienceDraft host) :
    Except OrganizerAudienceResolutionErrorCode (OrganizerResolvedAudienceSnapshot host) :=
  match audience.source with
  | .atomic _ => resolveAtomicAudience toLocaleLowerCase scope asOf source addressPolicy 0 audience
  | .composite groups => do
    let resolvedGroups ← groups.val.zipIdx.mapM fun (group, n) =>
      resolveAtomicAudience toLocaleLowerCase scope asOf source addressPolicy n
        { audience with source := .atomic group.source }
    let members ← (resolvedGroups.flatMap (·.members)).foldlM (addMember toLocaleLowerCase) []
    let versions ← (resolvedGroups.flatMap (·.sourceVersions)).foldlM addSourceVersion []
    pure { scope, audience, sourceVersions := versions.sortByKey (·.sourceKey), members }

end

end JooEvents
