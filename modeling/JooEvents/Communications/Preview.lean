import JooEvents.Communications.Resolution

/-!
# Message previews

Before a batch is sent it is previewed : every member of the audience gets a row, with the mail
that is rendered for it or the reason why there is none. The identity of a preview has a digest
over the digests of its members and of its rows.

The ports answer with values of the schemas or fail. `previewRows_eq_ok` says what the rows are.
-/

namespace JooEvents

open Fallible

variable {D : Type} [DecidableEq D]

/-! ## Inputs -/

structure OrganizerMessageTemplateRevisionRef (D : Type) where
  templateId : OpaqueId
  templateRevisionId : OpaqueId
  revisionNumber : Version
  digestSha256 : D

structure OrganizerPreviewDraft (host : Host D) where
  draftId : OpaqueId
  version : Version
  purposeRevision : OrganizerCommunicationPurposeRevisionRef D
  templateRevision : Option (OrganizerMessageTemplateRevisionRef D)
  audience : OrganizerCommunicationAudienceDraft host

structure OrganizerPreviewDigestProfile where
  key : OrganizerStableKey
  version : Version

/-- Issues the identities of a preview; `none` where the codec throws or the identity is not of
its schema. -/
structure OrganizerPreviewOpaqueTokenCodec (host : Host D) where
  issueAudienceSpecId (scope : OrganizerAudienceScope) (draft : OrganizerPreviewDraft host)
    (previewGeneration : Version) : Option OpaqueId
  issueRecipientResolutionId (audienceSpecId draftId : OpaqueId)
    (draftVersion previewGeneration : Version) (subjectRefId : SubjectRefId) (ordinal : ℕ) :
    Option RecipientResolutionId
  issueReleaseId (recipientResolutionId : RecipientResolutionId) (addressRefId : OpaqueId)
    (addressVersion : Version) : Option OpaqueId
  issueCursor (bindingDigestSha256 : D) (offset : ℕ) : Option String
  readCursor (bindingDigestSha256 : D) (cursor : String) : Option ℕ

inductive AttachmentDisposition where
  | attachment
  | inline
  deriving DecidableEq

structure OrganizerRenderedAttachment (D : Type) where
  slotKey : OrganizerStableKey
  filename : String
  mediaType : String
  byteLength : ℕ
  contentSha256 : D
  disposition : AttachmentDisposition
  contentId : Option String
  deriving DecidableEq

structure OrganizerServerRenderedEmail (D : Type) where
  recipientResolutionId : RecipientResolutionId
  releaseId : OpaqueId
  releaseDigestSha256 : D
  outputDigestSha256 : D
  resolvedInputDigestSha256 : D
  attachmentManifestDigestSha256 : D
  renderer : OrganizerDefinitionRef D
  mergeRegistry : OrganizerDefinitionRef D
  subject : String
  sanitizedHtml : String
  plainText : String
  attachments : List (OrganizerRenderedAttachment D)
  warningCodes : List OrganizerStableKey
  deriving DecidableEq

inductive OrganizerPreviewRenderOutcome (D : Type) where
  | rendered (render : OrganizerServerRenderedEmail D)
  | blocked (reasonCode : OrganizerStableKey)

structure OrganizerPreviewRenderResult (D : Type) where
  outcome : OrganizerPreviewRenderOutcome D
  mergeFallbackFieldKeys : List OrganizerStableKey

structure OrganizerPreviewRenderRequest (host : Host D) where
  scope : OrganizerAudienceScope
  draft : OrganizerPreviewDraft host
  member : OrganizerResolvedAudienceMember host
  recipientResolutionId : RecipientResolutionId
  releaseId : OpaqueId
  renderer : OrganizerDefinitionRef D
  mergeRegistry : OrganizerDefinitionRef D

inductive OrganizerAudiencePreviewErrorCode where
  | invalidInput
  | purposeMismatch
  | opaqueIdentityInvalid
  | opaqueIdentityCollision
  | renderContractMismatch
  | stalePreview
  | recipientNotAvailable
  | invalidCursor
  deriving DecidableEq

/-- How a preview fails : with a code of its own, in the resolution, or by what a port or a
schema throws. -/
inductive OrganizerPreviewError where
  | preview (code : OrganizerAudiencePreviewErrorCode)
  | resolution (code : OrganizerAudienceResolutionErrorCode)
  | thrown
  deriving DecidableEq

structure OrganizerPreviewRenderPort (host : Host D) where
  render (request : OrganizerPreviewRenderRequest host) :
    Except OrganizerPreviewError (OrganizerPreviewRenderResult D)

structure OrganizerPrepareMessageBatchPreviewInput (host : Host D) where
  scope : OrganizerAudienceScope
  draft : OrganizerPreviewDraft host
  previewGeneration : Version
  digestProfile : OrganizerPreviewDigestProfile
  renderer : OrganizerDefinitionRef D
  mergeRegistry : OrganizerDefinitionRef D
  asOf : Instant
  source : OrganizerAudienceSourcePort host
  addressPolicy : OrganizerAddressPolicyPort host
  opaqueTokens : OrganizerPreviewOpaqueTokenCodec host
  render : OrganizerPreviewRenderPort host

/-! ## Rows -/

inductive OrganizerPreviewRowState (D : Type) where
  | included (releaseId : OpaqueId) (releaseDigestSha256 : D)
      (render : OrganizerServerRenderedEmail D)
  | excluded (reasonCode : OrganizerStableKey)
  | blocked (reasonCode : OrganizerStableKey)

@[ext] structure OrganizerPreparedPreviewRow (host : Host D) where
  recipientResolutionId : RecipientResolutionId
  candidate : OrganizerAudienceCandidate host
  address : Option (OrganizerClassifiedEmailAddress D)
  evidence : List (OrganizerAudienceEvidenceRef D)
  mergeFallbackFieldKeys : List OrganizerStableKey
  state : OrganizerPreviewRowState D

def OrganizerPreviewRowState.render :
    OrganizerPreviewRowState D → Option (OrganizerServerRenderedEmail D)
  | .included _ _ render => some render
  | _ => none

def OrganizerPreviewRowState.reasonCode : OrganizerPreviewRowState D → Option OrganizerStableKey
  | .included _ _ _ => none
  | .excluded reasonCode => some reasonCode
  | .blocked reasonCode => some reasonCode

def canonicalFallbackKeys (values : List OrganizerStableKey) :
    Except OrganizerPreviewError (List OrganizerStableKey) := do
  require (values.length ≤ 100) (.preview .renderContractMismatch)
  let result := values.sortByKey id
  require result.Nodup (.preview .renderContractMismatch)
  pure result

section

variable {host : Host D} (toLocaleLowerCase : String → String)
variable (input : OrganizerPrepareMessageBatchPreviewInput host) (audienceSpecId : OpaqueId)

def validateRenderedResult (raw : OrganizerPreviewRenderResult D)
    (recipientResolutionId : RecipientResolutionId) (releaseId : OpaqueId) :
    Except OrganizerPreviewError (OrganizerPreviewRenderResult D) := do
  let mergeFallbackFieldKeys ← canonicalFallbackKeys raw.mergeFallbackFieldKeys
  match raw.outcome with
  | .blocked reasonCode => pure { outcome := .blocked reasonCode, mergeFallbackFieldKeys }
  | .rendered render => do
    require (render.recipientResolutionId = recipientResolutionId ∧ render.releaseId = releaseId ∧
      render.renderer = input.renderer ∧ render.mergeRegistry = input.mergeRegistry)
      (.preview .renderContractMismatch)
    pure { outcome := .rendered render, mergeFallbackFieldKeys }

def memberResolutionId (member : OrganizerResolvedAudienceMember host) (ordinal : ℕ) :
    Except OrganizerPreviewError RecipientResolutionId :=
  orRefuse (input.opaqueTokens.issueRecipientResolutionId audienceSpecId input.draft.draftId
    input.draft.version input.previewGeneration member.candidate.subjectRefId ordinal)
    (.preview .opaqueIdentityInvalid)

def memberReleaseId (recipientResolutionId : RecipientResolutionId)
    (address : OrganizerClassifiedEmailAddress D) : Except OrganizerPreviewError OpaqueId :=
  orRefuse (input.opaqueTokens.issueReleaseId recipientResolutionId address.addressRefId
    address.addressVersion) (.preview .opaqueIdentityInvalid)

def askRender (member : OrganizerResolvedAudienceMember host)
    (recipientResolutionId : RecipientResolutionId) (releaseId : OpaqueId) :
    Except OrganizerPreviewError (OrganizerPreviewRenderResult D) :=
  input.render.render
    { scope := input.scope, draft := input.draft, member, recipientResolutionId, releaseId
      renderer := input.renderer, mergeRegistry := input.mergeRegistry }

def OrganizerPreviewRenderOutcome.rowState (releaseId : OpaqueId) :
    OrganizerPreviewRenderOutcome D → OrganizerPreviewRowState D
  | .blocked reasonCode => .blocked reasonCode
  | .rendered render => .included releaseId render.releaseDigestSha256 render

/-- The row of a member, and the release that was issued for it. -/
def previewRow (seenReleaseIds : List OpaqueId) (recipientResolutionId : RecipientResolutionId)
    (member : OrganizerResolvedAudienceMember host) :
    Except OrganizerPreviewError (OrganizerPreparedPreviewRow host × List OpaqueId) :=
  match member.state with
  | .excluded reasonCode address _ =>
    .ok
      ({ recipientResolutionId, candidate := member.candidate, address, evidence := member.evidence
         mergeFallbackFieldKeys := [], state := .excluded reasonCode.key }, seenReleaseIds)
  | .eligible address _ => do
    let releaseId ← memberReleaseId input recipientResolutionId address
    require (releaseId ∉ seenReleaseIds) (.preview .opaqueIdentityCollision)
    let raw ← askRender input member recipientResolutionId releaseId
    let rendered ← validateRenderedResult input raw recipientResolutionId releaseId
    pure
      ({ recipientResolutionId, candidate := member.candidate, address := some address
         evidence := member.evidence
         mergeFallbackFieldKeys := rendered.mergeFallbackFieldKeys
         state := rendered.outcome.rowState releaseId }, releaseId :: seenReleaseIds)

/-- The loop over the members, from an ordinal on and with the identities that were issued. -/
def previewRows (ordinal : ℕ) (seenResolutionIds : List RecipientResolutionId)
    (seenReleaseIds : List OpaqueId) :
    List (OrganizerResolvedAudienceMember host) →
      Except OrganizerPreviewError (List (OrganizerPreparedPreviewRow host))
  | [] => .ok []
  | member :: members => do
    let recipientResolutionId ← memberResolutionId input audienceSpecId member ordinal
    require (recipientResolutionId ∉ seenResolutionIds) (.preview .opaqueIdentityCollision)
    let (row, seenReleaseIds) ← previewRow input seenReleaseIds recipientResolutionId member
    let rows ← previewRows (ordinal + 1) (recipientResolutionId :: seenResolutionIds)
      seenReleaseIds members
    pure (row :: rows)

end

section

variable {host : Host D}

instance : ToJson D OrganizerAudienceScope :=
  ⟨fun scope =>
    .obj [("workspaceId", toJson scope.workspaceId), ("eventId", toJson scope.eventId)]⟩

instance : ToJson D (OrganizerCommunicationPurposeRevisionRef D) :=
  ⟨fun revision => .obj
    [("purposeId", toJson revision.purposeId), ("purposeKey", toJson revision.purposeKey),
      ("revisionId", toJson revision.revisionId),
      ("revisionNumber", toJson revision.revisionNumber),
      ("digestSha256", .digest revision.digestSha256)]⟩

instance : ToJson D (OrganizerMessageTemplateRevisionRef D) :=
  ⟨fun revision => .obj
    [("templateId", toJson revision.templateId),
      ("templateRevisionId", toJson revision.templateRevisionId),
      ("revisionNumber", toJson revision.revisionNumber),
      ("digestSha256", .digest revision.digestSha256)]⟩

instance : ToJson D (OrganizerAudienceAtomicSource D) :=
  ⟨fun
    | .explicitContacts contactRefIds =>
      .obj [("kind", .text "explicit_contacts"), ("contactRefIds", toJson contactRefIds.val)]
    | .registeredQuery recipeId recipeVersion recipeDigestSha256 sourceDefinition => .obj
      [("kind", .text "registered_query"), ("recipeId", toJson recipeId),
        ("recipeVersion", toJson recipeVersion), ("recipeDigestSha256", .digest recipeDigestSha256),
        ("sourceDefinition", toJson sourceDefinition)]⟩

instance : ToJson D (OrganizerAudienceGroup host) :=
  ⟨fun group => .obj [("label", .text group.label.val), ("source", toJson group.source)]⟩

instance : ToJson D (OrganizerAudienceSource host) :=
  ⟨fun
    | .atomic source => toJson source
    | .composite groups => .obj [("kind", .text "composite"), ("groups", toJson groups.val)]⟩

instance : ToJson D (OrganizerCommunicationAudienceDraft host) :=
  ⟨fun audience => .obj
    [("schemaVersion", toJson (1 : ℕ)), ("binding", .text "current_snapshot"),
      ("purposeRevision", toJson audience.purposeRevision), ("source", toJson audience.source)]⟩

instance : ToJson D (OrganizerMessagePreviewSourceVersion D) :=
  ⟨fun version => .obj
    [("sourceKey", toJson version.sourceKey), ("sourceVersion", toJson version.sourceVersion),
      ("digestSha256", .digest version.digestSha256)]⟩

instance : ToJson D OrganizerPreviewDigestProfile :=
  ⟨fun profile => .obj [("key", toJson profile.key), ("version", toJson profile.version)]⟩

def membershipJson (member : OrganizerResolvedAudienceMember host) : Json D :=
  .obj
    [("subjectRefId", toJson member.candidate.subjectRefId),
      ("subjectVersion", toJson member.candidate.subjectVersion),
      ("personRefId", toJson member.candidate.personRefId),
      ("contactRefId", toJson member.candidate.contactRefId),
      ("membershipEvidence", toJson member.candidate.membershipEvidence)]

def releaseJson (row : OrganizerPreparedPreviewRow host) : Json D :=
  match row.state with
  | .included releaseId releaseDigestSha256 render => .obj
    [("recipientResolutionId", toJson row.recipientResolutionId), ("releaseId", toJson releaseId),
      ("releaseDigestSha256", .digest releaseDigestSha256),
      ("outputDigestSha256", .digest render.outputDigestSha256),
      ("resolvedInputDigestSha256", .digest render.resolvedInputDigestSha256),
      ("attachmentManifestDigestSha256", .digest render.attachmentManifestDigestSha256)]
  | .excluded reasonCode => .obj
    [("recipientResolutionId", toJson row.recipientResolutionId), ("state", .text "excluded"),
      ("reasonCode", toJson reasonCode)]
  | .blocked reasonCode => .obj
    [("recipientResolutionId", toJson row.recipientResolutionId), ("state", .text "blocked"),
      ("reasonCode", toJson reasonCode)]

end

/-! ## Summaries -/

structure OrganizerMessagePreviewCounts where
  visibleCandidateCount : ℕ
  includedCount : ℕ
  excludedCount : ℕ
  blockedCount : ℕ

@[ext] structure OrganizerMessagePreviewIdentity (D : Type) where
  audienceSpecId : OpaqueId
  draftId : OpaqueId
  draftVersion : Version
  previewGeneration : Version
  previewDigestProfile : OrganizerStableKey
  previewDigestVersion : Version
  previewDigestSha256 : D

structure OrganizerMessagePreviewSummary (D : Type) where
  identity : OrganizerMessagePreviewIdentity D
  purposeRevision : OrganizerCommunicationPurposeRevisionRef D
  templateRevision : Option (OrganizerMessageTemplateRevisionRef D)
  counts : OrganizerMessagePreviewCounts
  membershipDigestSha256 : D
  evidenceDigestSha256 : D
  reasonCodes : List OrganizerStableKey
  sourceVersions : List (OrganizerMessagePreviewSourceVersion D)
  renderer : OrganizerDefinitionRef D
  mergeRegistry : OrganizerDefinitionRef D

structure OrganizerPreparedMessageBatchPreview (host : Host D) where
  scope : OrganizerAudienceScope
  draft : OrganizerPreviewDraft host
  previewGeneration : Version
  digestProfile : OrganizerPreviewDigestProfile
  summary : OrganizerMessagePreviewSummary D
  rows : List (OrganizerPreparedPreviewRow host)

instance : ToJson D OrganizerMessagePreviewCounts :=
  ⟨fun counts => .obj
    [("visibleCandidateCount", toJson counts.visibleCandidateCount),
      ("includedCount", toJson counts.includedCount),
      ("excludedCount", toJson counts.excludedCount), ("blockedCount", toJson counts.blockedCount)]⟩

instance : ToJson D (OrganizerMessagePreviewIdentity D) :=
  ⟨fun identity => .obj
    [("audienceSpecId", toJson identity.audienceSpecId), ("draftId", toJson identity.draftId),
      ("draftVersion", toJson identity.draftVersion),
      ("previewGeneration", toJson identity.previewGeneration),
      ("previewDigestProfile", toJson identity.previewDigestProfile),
      ("previewDigestVersion", toJson identity.previewDigestVersion),
      ("previewDigestSha256", .digest identity.previewDigestSha256)]⟩

section

variable {host : Host D}

def OrganizerPreparedPreviewRow.isIncluded (row : OrganizerPreparedPreviewRow host) : Bool :=
  match row.state with
  | .included _ _ _ => true
  | _ => false

def OrganizerPreparedPreviewRow.isExcluded (row : OrganizerPreparedPreviewRow host) : Bool :=
  match row.state with
  | .excluded _ => true
  | _ => false

def OrganizerPreparedPreviewRow.isBlocked (row : OrganizerPreparedPreviewRow host) : Bool :=
  match row.state with
  | .blocked _ => true
  | _ => false

def previewCounts (rows : List (OrganizerPreparedPreviewRow host)) :
    OrganizerMessagePreviewCounts :=
  { visibleCandidateCount := rows.length
    includedCount := (rows.filter (·.isIncluded)).length
    excludedCount := (rows.filter (·.isExcluded)).length
    blockedCount := (rows.filter (·.isBlocked)).length }

def previewReasonCodes (rows : List (OrganizerPreparedPreviewRow host)) : List OrganizerStableKey :=
  (rows.filterMap (·.state.reasonCode)).dedup.sortByKey id

/-- `organizerMessagePreviewSummarySchema`, beside the types of the fields. -/
def OrganizerMessagePreviewSummary.parse (summary : OrganizerMessagePreviewSummary D) :
    Except OrganizerPreviewError (OrganizerMessagePreviewSummary D) := do
  let counts := summary.counts
  require (counts.visibleCandidateCount ≤ 10000 ∧ counts.includedCount ≤ 10000 ∧
    counts.excludedCount ≤ 10000 ∧ counts.blockedCount ≤ 10000 ∧
    counts.includedCount + counts.excludedCount + counts.blockedCount =
      counts.visibleCandidateCount) .thrown
  require (summary.reasonCodes.length ≤ 100 ∧ summary.sourceVersions.length ≤ 100) .thrown
  require (summary.reasonCodes.Pairwise (· < ·)) .thrown
  require ((summary.sourceVersions.map OrganizerMessagePreviewSourceVersion.sourceKey).Pairwise
    (· < ·)) .thrown
  pure summary

variable (toLocaleLowerCase : String → String)
variable (input : OrganizerPrepareMessageBatchPreviewInput host)

def membershipDigest (resolved : OrganizerResolvedAudienceSnapshot host) : D :=
  host.sha256 ((Json.obj
    [("schemaVersion", toJson (1 : ℕ)), ("audience", toJson resolved.audience),
      ("sourceVersions", toJson resolved.sourceVersions),
      ("members", .arr (resolved.members.map membershipJson))]).canonicalize host.nfc)

def evidenceDigest (resolved : OrganizerResolvedAudienceSnapshot host)
    (rows : List (OrganizerPreparedPreviewRow host)) : D :=
  host.sha256 ((Json.obj
    [("schemaVersion", toJson (1 : ℕ)), ("members", .arr (resolved.members.map redactedMember)),
      ("releases", .arr (rows.map releaseJson))]).canonicalize host.nfc)

def previewDigest (audienceSpecId : OpaqueId) (resolved : OrganizerResolvedAudienceSnapshot host)
    (rows : List (OrganizerPreparedPreviewRow host)) : D :=
  host.sha256 ((Json.obj
    [("schemaVersion", toJson (1 : ℕ)), ("digestProfile", toJson input.digestProfile),
      ("audienceSpecId", toJson audienceSpecId), ("draftId", toJson input.draft.draftId),
      ("draftVersion", toJson input.draft.version),
      ("previewGeneration", toJson input.previewGeneration),
      ("purposeRevision", toJson input.draft.purposeRevision),
      ("templateRevision", toJson input.draft.templateRevision),
      ("audience", toJson input.draft.audience), ("counts", toJson (previewCounts rows)),
      ("membershipDigestSha256", .digest (membershipDigest resolved)),
      ("evidenceDigestSha256", .digest (evidenceDigest resolved rows)),
      ("reasonCodes", toJson (previewReasonCodes rows)),
      ("sourceVersions", toJson resolved.sourceVersions), ("renderer", toJson input.renderer),
      ("mergeRegistry", toJson input.mergeRegistry)]).canonicalize host.nfc)

def previewSummary (audienceSpecId : OpaqueId) (resolved : OrganizerResolvedAudienceSnapshot host)
    (rows : List (OrganizerPreparedPreviewRow host)) : OrganizerMessagePreviewSummary D :=
  { identity :=
      { audienceSpecId, draftId := input.draft.draftId, draftVersion := input.draft.version
        previewGeneration := input.previewGeneration
        previewDigestProfile := input.digestProfile.key
        previewDigestVersion := input.digestProfile.version
        previewDigestSha256 := previewDigest input audienceSpecId resolved rows }
    purposeRevision := input.draft.purposeRevision
    templateRevision := input.draft.templateRevision
    counts := previewCounts rows
    membershipDigestSha256 := membershipDigest resolved
    evidenceDigestSha256 := evidenceDigest resolved rows
    reasonCodes := previewReasonCodes rows
    sourceVersions := resolved.sourceVersions
    renderer := input.renderer
    mergeRegistry := input.mergeRegistry }

def resolveDraftAudience :
    Except OrganizerPreviewError (OrganizerResolvedAudienceSnapshot host) :=
  (resolveOrganizerAudience toLocaleLowerCase input.scope input.asOf input.source
    input.addressPolicy input.draft.audience).mapError .resolution

def prepareOrganizerMessageBatchPreview :
    Except OrganizerPreviewError (OrganizerPreparedMessageBatchPreview host) := do
  require (input.draft.purposeRevision = input.draft.audience.purposeRevision)
    (.preview .purposeMismatch)
  let audienceSpecId ← orRefuse (input.opaqueTokens.issueAudienceSpecId input.scope input.draft
    input.previewGeneration) (.preview .opaqueIdentityInvalid)
  let resolved ← resolveDraftAudience toLocaleLowerCase input
  let rows ← previewRows input audienceSpecId 0 [] [] resolved.members
  let summary ← (previewSummary input audienceSpecId resolved rows).parse
  pure
    { scope := input.scope, draft := input.draft, previewGeneration := input.previewGeneration
      digestProfile := input.digestProfile, summary, rows }

def isOrganizerMessageBatchPreviewCurrent (expected : OrganizerPreparedMessageBatchPreview host) :
    Bool :=
  match prepareOrganizerMessageBatchPreview toLocaleLowerCase input with
  | .error _ => false
  | .ok current =>
    decide (host.Same current.summary.identity expected.summary.identity ∧
      current.summary.membershipDigestSha256 = expected.summary.membershipDigestSha256 ∧
      current.summary.evidenceDigestSha256 = expected.summary.evidenceDigestSha256)

end

end JooEvents
