import JooEvents.Communications.MergeFields
import JooEvents.Lib.Escape
import JooEvents.Lib.Collation

/-!
# Rendered email

What `renderOrganizerEmailV1` makes of a message for one recipient : the markup and the plain
text of the blocks of its template, with the merged values, and the attachments that fill the
slots of the template. A value of type `unknown` is `none` where it has not the shape that is
parsed. Digests and formatted dates are of the host.
-/

namespace JooEvents.Rendering

open Fallible

inductive InlineEmphasis where
  | none
  | strong
  | emphasis

inductive OrganizerMessageInlineNode where
  | text (value : List ℕ) (emphasis : Option InlineEmphasis)
  | mergeField (fieldKey : List ℕ)

inductive HeadingLevel where
  | two
  | three

inductive ListStyle where
  | ordered
  | unordered

structure DetailRow where
  label : List OrganizerMessageInlineNode
  value : List OrganizerMessageInlineNode

inductive OrganizerMessageComposedBlock where
  | paragraph (content : List OrganizerMessageInlineNode)
  | heading (level : HeadingLevel) (content : List OrganizerMessageInlineNode)
  | list (style : ListStyle) (items : List (List OrganizerMessageInlineNode))
  | actionLink (label : List OrganizerMessageInlineNode) (hrefFieldKey : List ℕ)
  | detailRows (rows : List DetailRow)

inductive OrganizerMessageTemplateBody where
  | composed (blocks : List OrganizerMessageComposedBlock)
  | openCanvas (inertSource : List ℕ) (parameterKeys complianceAnchors : List (List ℕ))
      (sanitizerContract : OrganizerCommunicationDefinitionRef)

inductive PlainTextPolicy where
  | deriveV1
  | explicitV1
  deriving DecidableEq

structure OrganizerEmailTemplateContent where
  subject : List OrganizerMessageInlineNode
  body : OrganizerMessageTemplateBody
  plainTextPolicy : PlainTextPolicy
  explicitPlainText : Option (List OrganizerMessageInlineNode)
  attachmentSlotKeys : List (List ℕ)

structure OrganizerMessageTemplateRevisionRef where
  templateId : List ℕ
  templateRevisionId : List ℕ
  revisionNumber : ℤ
  digestSha256 : List ℕ
  deriving DecidableEq

inductive EmailMessageBody where
  | plainText (text : List ℕ)
  | templateRevision (templateRevision : OrganizerMessageTemplateRevisionRef)

structure OrganizerEmailMessageContent where
  subject : List ℕ
  body : EmailMessageBody

inductive AttachmentDisposition where
  | attachment
  | inline

structure OrganizerRenderedAttachment where
  slotKey : List ℕ
  filename : List ℕ
  mediaType : List ℕ
  byteLength : ℤ
  contentSha256 : List ℕ
  disposition : AttachmentDisposition
  contentId : Option (List ℕ)

/-- The fields of a rendered email that its digest is of. -/
structure UnsignedRenderedEmail where
  recipientResolutionId : List ℕ
  releaseId : List ℕ
  releaseDigestSha256 : List ℕ
  resolvedInputDigestSha256 : List ℕ
  attachmentManifestDigestSha256 : List ℕ
  renderer : OrganizerCommunicationDefinitionRef
  mergeRegistry : OrganizerCommunicationDefinitionRef
  subject : List ℕ
  sanitizedHtml : List ℕ
  plainText : List ℕ
  attachments : List OrganizerRenderedAttachment
  warningCodes : List (List ℕ)

structure OrganizerServerRenderedEmail extends UnsignedRenderedEmail where
  outputDigestSha256 : List ℕ

/-- What `digest` is taken of. -/
inductive RenderDigestSubject where
  | attachments (attachments : List OrganizerRenderedAttachment)
  | resolvedInput (recipientResolutionId : List ℕ) (message : OrganizerEmailMessageContent)
      (template : Option (OrganizerMessageTemplateRevisionRef × OrganizerEmailTemplateContent ×
        List OrganizerMessageTemplateFieldBinding))
      (mergeRegistry : OrganizerCommunicationDefinitionRef) (values : List CanonicalMergeValue)
      (timezone : Option (List ℕ))
  | output (unsigned : UnsignedRenderedEmail)

/-- The errors of a rendering. `thrown` stands for what a digest throws. -/
inductive OrganizerEmailRenderError where
  | invalidInput
  | templateRevisionMismatch
  | openCanvasNotSupported
  | unsafeUrl
  | attachmentMismatch
  | outputTooLarge
  | mergeResolutionFailed (mergeCode : OrganizerMergeRegistryError)
  | thrown

/-- What a rendering takes from elsewhere. -/
structure RenderHost extends MergeHost where
  /-- `formatDate`. -/
  formatDate : List ℕ → List ℕ
  /-- `formatInstant`, with the zone named. -/
  formatInstant : List ℕ → List ℕ → List ℕ
  /-- `localeCompare`. -/
  localeCompare : List ℕ → List ℕ → Ordering
  /-- `digest`, when the canonical text can be written. -/
  digest : RenderDigestSubject → Option (List ℕ)

structure RenderTemplate where
  revision : Option OrganizerMessageTemplateRevisionRef
  content : Option OrganizerEmailTemplateContent
  fieldBindings : Option (List (Option OrganizerMessageTemplateFieldBinding))

structure RenderInput where
  recipientResolutionId : List ℕ
  releaseId : List ℕ
  releaseDigestSha256 : List ℕ
  renderer : Option OrganizerCommunicationDefinitionRef
  mergeRegistry : OrganizerMergeRegistryRelease
  messageContent : Option OrganizerEmailMessageContent
  template : Option RenderTemplate
  resolvedValues : List OrganizerResolvedMergeValue
  fallbackValues : List OrganizerFallbackMergeValue
  attachments : Option (List (Option OrganizerRenderedAttachment))
  timezone : Option (List ℕ)

/-- `MAXIMUM_RENDERED_BYTES`. -/
def maximumRenderedBytes : ℕ := 1000000

variable (host : RenderHost)

/-- `organizerCommunicationRecipientResolutionIdSchema` : `/^rr1_[A-Za-z0-9_-]{16,160}$/`. -/
def isRecipientResolutionId (id : List ℕ) : Bool :=
  (codeUnits "rr1_").isPrefixOf id && decide (20 ≤ id.length ∧ id.length ≤ 164) &&
    (id.drop 4).all fun u => Markup.isLetter u || isDigitUnit u || [95, 45].contains u

/-- `organizerMessageInlineNodeSchema`. -/
def isInlineNode : OrganizerMessageInlineNode → Bool
  | .text value _ => canonicalSingleLine host.nfc 4000 true value
  | .mergeField fieldKey => isStableKey fieldKey

/-- `inlineNodesSchema`. -/
def isInlineNodes (nodes : List OrganizerMessageInlineNode) : Bool :=
  decide (nodes.length ≤ 200) && nodes.all (isInlineNode host)

/-- `organizerMessageComposedBlockSchema`. -/
def isComposedBlock : OrganizerMessageComposedBlock → Bool
  | .paragraph content => isInlineNodes host content
  | .heading _ content => isInlineNodes host content
  | .list _ items => decide (items.length ≤ 100) && items.all (isInlineNodes host)
  | .actionLink label hrefFieldKey => isInlineNodes host label && isStableKey hrefFieldKey
  | .detailRows rows =>
    decide (rows.length ≤ 100) &&
      rows.all fun row => isInlineNodes host row.label && isInlineNodes host row.value

/-- `organizerMessageTemplateBodySchema`. -/
def isTemplateBody : OrganizerMessageTemplateBody → Bool
  | .composed blocks => decide (blocks.length ≤ 200) && blocks.all (isComposedBlock host)
  | .openCanvas inertSource parameterKeys complianceAnchors sanitizerContract =>
    canonicalMultiline host.nfc 1000000 true inertSource &&
      decide (parameterKeys.length ≤ 500 ∧ complianceAnchors.length ≤ 32) &&
      parameterKeys.all isStableKey && complianceAnchors.all isStableKey &&
      (parseDefinitionRef sanitizerContract).isSome &&
      isCanonicalOrder parameterKeys && isCanonicalOrder complianceAnchors

/-- `organizerEmailTemplateContentSchema`. -/
def isTemplateContent (content : OrganizerEmailTemplateContent) : Bool :=
  isInlineNodes host content.subject && isTemplateBody host content.body &&
    content.explicitPlainText.all (isInlineNodes host) &&
    decide (content.plainTextPolicy = .explicitV1 ↔ content.explicitPlainText.isSome) &&
    decide (content.attachmentSlotKeys.length ≤ 10) &&
    content.attachmentSlotKeys.all isStableKey && isCanonicalOrder content.attachmentSlotKeys

/-- `organizerMessageTemplateRevisionRefSchema`. -/
def isTemplateRevisionRef (ref : OrganizerMessageTemplateRevisionRef) : Bool :=
  isOpaqueIdText ref.templateId && isOpaqueIdText ref.templateRevisionId &&
    isPositiveVersion ref.revisionNumber && isDigestText ref.digestSha256

/-- `organizerEmailMessageContentSchema`. -/
def isMessageContent (message : OrganizerEmailMessageContent) : Bool :=
  canonicalSingleLine host.nfc 998 false message.subject &&
    match message.body with
    | .plainText text => canonicalMultiline host.nfc 100000 true text
    | .templateRevision ref => isTemplateRevisionRef ref

/-- `organizerRenderedAttachmentSchema`. -/
def isRenderedAttachment (attachment : OrganizerRenderedAttachment) : Bool :=
  isStableKey attachment.slotKey &&
    canonicalSingleLine host.nfc 512 false attachment.filename &&
    canonicalSingleLine host.nfc 160 false attachment.mediaType &&
    decide (0 ≤ attachment.byteLength ∧ attachment.byteLength ≤ maximumSafeInteger) &&
    isDigestText attachment.contentSha256 &&
    attachment.contentId.all (canonicalSingleLine host.nfc 512 false)

/-- `replaceAll(u, replacement)`, of a text of one unit. -/
def replaceAllUnits (u : ℕ) (replacement value : List ℕ) : List ℕ :=
  value.flatMap fun v => if v = u then replacement else [v]

def escapeHtml (value : List ℕ) : List ℕ :=
  replaceAllUnits 39 (codeUnits "&#39;") <| replaceAllUnits 34 (codeUnits "&quot;") <|
    replaceAllUnits 62 (codeUnits "&gt;") <| replaceAllUnits 60 (codeUnits "&lt;") <|
      replaceAllUnits 38 (codeUnits "&amp;") value

def safeHttpsUrl (value : List ℕ) (allowedOrigins : List (List ℕ)) :
    Except OrganizerEmailRenderError (List ℕ) := do
  let parsed ← orRefuse (readHttpsUrl host.toMergeHost value) .unsafeUrl
  require (parsed.origin ∈ allowedOrigins) .unsafeUrl
  return parsed.href

/-! ## Fields -/

def inlineKeys (nodes : List OrganizerMessageInlineNode) : List (List ℕ) :=
  nodes.filterMap fun node =>
    match node with
    | .text _ _ => none
    | .mergeField fieldKey => some fieldKey

def blockKeys : OrganizerMessageComposedBlock → List (List ℕ)
  | .paragraph content => inlineKeys content
  | .heading _ content => inlineKeys content
  | .list _ items => items.flatMap inlineKeys
  | .actionLink label hrefFieldKey => inlineKeys label ++ [hrefFieldKey]
  | .detailRows rows => rows.flatMap fun row => inlineKeys row.label ++ inlineKeys row.value

def requestedFields (content : OrganizerEmailTemplateContent) : List (List ℕ) :=
  sortKeys (inlineKeys content.subject ++ (content.explicitPlainText.map inlineKeys).getD [] ++
    match content.body with
    | .composed blocks => blocks.flatMap blockKeys
    | .openCanvas _ _ _ _ => []).dedup

def organizerMergeValueText (timezone : Option (List ℕ)) : OrganizerMergeFieldValue → List ℕ
  | .integer value => codeUnits (toString value)
  | .date value => host.formatDate value
  | .instant value => host.formatInstant value (timezone.getD (codeUnits "UTC"))
  | .text value => value
  | .url value => value

section Inline

variable (fields : OrganizerResolvedMergeFields) (timezone : Option (List ℕ))

/-- The text of a merged field, which is empty when it has no value. -/
def mergedText (fieldKey : List ℕ) : List ℕ :=
  match fields.value? fieldKey with
  | some value => organizerMergeValueText host timezone value
  | none => []

def inlineText (nodes : List OrganizerMessageInlineNode) : List ℕ :=
  nodes.flatMap fun node =>
    match node with
    | .text value _ => value
    | .mergeField fieldKey => mergedText host fields timezone fieldKey

def inlineHtml (nodes : List OrganizerMessageInlineNode) : List ℕ :=
  nodes.flatMap fun node =>
    match node with
    | .text value (some .strong) => Markup.element (codeUnits "strong") (escapeHtml value)
    | .text value (some .emphasis) => Markup.element (codeUnits "em") (escapeHtml value)
    | .text value _ => escapeHtml value
    | .mergeField fieldKey => escapeHtml (mergedText host fields timezone fieldKey)

variable (mergeRegistry : OrganizerMergeRegistryRelease)

def actionUrl (fieldKey : List ℕ) : Except OrganizerEmailRenderError (Option (List ℕ)) :=
  match fields.value? fieldKey with
  | none => .ok none
  | some (.url value) =>
    match definitionOf mergeRegistry.fields fieldKey with
    | some ⟨_, .url allowedHttpsOrigins⟩ => some <$> safeHttpsUrl host value allowedHttpsOrigins
    | _ => .error (.mergeResolutionFailed .mergeValueTypeMismatch)
  | some _ => .error (.mergeResolutionFailed .mergeValueTypeMismatch)

def HeadingLevel.tag : HeadingLevel → List ℕ
  | .two => codeUnits "h2"
  | .three => codeUnits "h3"

def ListStyle.tag : ListStyle → List ℕ
  | .ordered => codeUnits "ol"
  | .unordered => codeUnits "ul"

def blockHtml : OrganizerMessageComposedBlock → Except OrganizerEmailRenderError (List ℕ)
  | .paragraph content =>
    return Markup.element (codeUnits "p") (inlineHtml host fields timezone content)
  | .heading level content =>
    return Markup.element level.tag (inlineHtml host fields timezone content)
  | .list style items =>
    return Markup.element style.tag (items.map fun item =>
      Markup.element (codeUnits "li") (inlineHtml host fields timezone item)).flatten
  | .actionLink label hrefFieldKey => do
    let label := inlineHtml host fields timezone label
    match ← actionUrl host fields mergeRegistry hrefFieldKey with
    | none => return Markup.element (codeUnits "p") label
    | some href =>
      return Markup.element (codeUnits "p")
        (codeUnits "<a href=\"" ++ escapeHtml href ++ codeUnits "\">" ++ label ++ codeUnits "</a>")
  | .detailRows rows =>
    return Markup.element (codeUnits "dl") (rows.map fun row =>
      Markup.element (codeUnits "dt") (inlineHtml host fields timezone row.label) ++
        Markup.element (codeUnits "dd") (inlineHtml host fields timezone row.value)).flatten

/-- `<div data-jooevents-email="v1">`. -/
def emailOpenTag : List ℕ := codeUnits "<div data-jooevents-email=\"v1\">"

def renderComposedHtml (blocks : List OrganizerMessageComposedBlock) :
    Except OrganizerEmailRenderError (List ℕ) := do
  let html ← blocks.mapM (blockHtml host fields timezone mergeRegistry)
  return emailOpenTag ++ html.flatten ++ codeUnits "</div>"

def itemLine (style : ListStyle) (index : ℕ) (text : List ℕ) : List ℕ :=
  match style with
  | .ordered => codeUnits (toString (index + 1)) ++ codeUnits ". " ++ text
  | .unordered => codeUnits "- " ++ text

def blockLines : OrganizerMessageComposedBlock →
    Except OrganizerEmailRenderError (List (List ℕ))
  | .paragraph content => return [inlineText host fields timezone content]
  | .heading _ content => return [inlineText host fields timezone content]
  | .list style items =>
    return items.mapIdx fun index item =>
      itemLine style index (inlineText host fields timezone item)
  | .actionLink label hrefFieldKey => do
    let label := inlineText host fields timezone label
    match ← actionUrl host fields mergeRegistry hrefFieldKey with
    | none => return [label]
    | some href => return [label ++ codeUnits ": " ++ href]
  | .detailRows rows =>
    return rows.map fun row =>
      inlineText host fields timezone row.label ++ codeUnits ": " ++
        inlineText host fields timezone row.value

def renderComposedText (blocks : List OrganizerMessageComposedBlock) :
    Except OrganizerEmailRenderError (List ℕ) := do
  let lines ← blocks.mapM (blockLines host fields timezone mergeRegistry)
  return [0xA, 0xA].intercalate lines.flatten

end Inline

def canonicalAttachments (value : Option (List (Option OrganizerRenderedAttachment)))
    (expectedSlots : List (List ℕ)) :
    Except OrganizerEmailRenderError (List OrganizerRenderedAttachment) := do
  let items ← orRefuse value .attachmentMismatch
  require (items.length ≤ 10) .attachmentMismatch
  let attachments ← items.mapM fun item =>
    orRefuse (item.filter (isRenderedAttachment host)) .attachmentMismatch
  let sorted := attachments.sortByComparison
    fun left right => host.localeCompare left.slotKey right.slotKey
  require (sorted.map (·.slotKey) = expectedSlots) .attachmentMismatch
  return sorted

/-! ## Rendering -/

def directHtml (text : List ℕ) : List ℕ :=
  if text = [] then emailOpenTag ++ codeUnits "</div>"
  else
    emailOpenTag ++
      Markup.element (codeUnits "p") (replaceAllUnits 0xA (codeUnits "<br>") (escapeHtml text)) ++
      codeUnits "</div>"

/-- What the branches of a rendering have made. -/
structure RenderedBody where
  sanitizedHtml : List ℕ
  plainText : List ℕ
  fields : OrganizerResolvedMergeFields
  attachments : List OrganizerRenderedAttachment
  templateDigestInput : Option (OrganizerMessageTemplateRevisionRef ×
    OrganizerEmailTemplateContent × List OrganizerMessageTemplateFieldBinding)

def renderPlainBody (input : RenderInput) (text : List ℕ) :
    Except OrganizerEmailRenderError RenderedBody := do
  require (input.template = none ∧ input.resolvedValues = [] ∧ input.fallbackValues = [])
    .invalidInput
  let attachments ← canonicalAttachments host input.attachments []
  return {
    sanitizedHtml := directHtml text
    plainText := text
    fields := { canonicalValues := [], warningCodes := [] }
    attachments
    templateDigestInput := none }

/-- The revision, the content and the bindings of a template, parsed. -/
def parseTemplate (template : RenderTemplate) : Except OrganizerEmailRenderError
    (OrganizerMessageTemplateRevisionRef × OrganizerEmailTemplateContent ×
      List OrganizerMessageTemplateFieldBinding) := do
  let revision ← orRefuse (template.revision.filter isTemplateRevisionRef) .invalidInput
  let content ← orRefuse (template.content.filter (isTemplateContent host)) .invalidInput
  let items ← orRefuse template.fieldBindings .invalidInput
  let bindings ← items.mapM fun item => orRefuse (item.filter isFieldBinding) .invalidInput
  return (revision, content, bindings)

def templatePlainText (fields : OrganizerResolvedMergeFields) (timezone : Option (List ℕ))
    (mergeRegistry : OrganizerMergeRegistryRelease) (content : OrganizerEmailTemplateContent)
    (blocks : List OrganizerMessageComposedBlock) : Except OrganizerEmailRenderError (List ℕ) :=
  match content.plainTextPolicy with
  | .explicitV1 => return inlineText host fields timezone (content.explicitPlainText.getD [])
  | .deriveV1 => renderComposedText host fields timezone mergeRegistry blocks

def renderTemplateBody (input : RenderInput) (ref : OrganizerMessageTemplateRevisionRef) :
    Except OrganizerEmailRenderError RenderedBody := do
  let template ← orRefuse input.template .templateRevisionMismatch
  let (revision, content, bindings) ← parseTemplate host template
  require (revision = ref) .templateRevisionMismatch
  match content.body with
  | .openCanvas _ _ _ _ => .error .openCanvasNotSupported
  | .composed blocks => do
    let fields ← (resolveOrganizerMergeFields host.toMergeHost input.mergeRegistry bindings
      (requestedFields content) input.resolvedValues input.fallbackValues).mapError
        fun error => if error = .thrown then .thrown else .mergeResolutionFailed error
    let attachments ← canonicalAttachments host input.attachments content.attachmentSlotKeys
    let sanitizedHtml ←
      renderComposedHtml host fields input.timezone input.mergeRegistry blocks
    let plainText ←
      templatePlainText host fields input.timezone input.mergeRegistry content blocks
    return {
      sanitizedHtml
      plainText
      fields
      attachments
      templateDigestInput := some (revision, content, bindings) }

def renderBody (input : RenderInput) : EmailMessageBody →
    Except OrganizerEmailRenderError RenderedBody
  | .plainText text => renderPlainBody host input text
  | .templateRevision ref => renderTemplateBody host input ref

/-- `organizerServerRenderedEmailSchema`, which trims the keys of the definitions. -/
def parseRenderedEmail (email : OrganizerServerRenderedEmail) :
    Option OrganizerServerRenderedEmail := do
  let renderer ← parseDefinitionRef email.renderer
  let mergeRegistry ← parseDefinitionRef email.mergeRegistry
  guard (isRecipientResolutionId email.recipientResolutionId ∧ isOpaqueIdText email.releaseId ∧
    isDigestText email.releaseDigestSha256 ∧ isDigestText email.outputDigestSha256 ∧
    isDigestText email.resolvedInputDigestSha256 ∧
    isDigestText email.attachmentManifestDigestSha256)
  guard (canonicalSingleLine host.nfc 998 false email.subject ∧
    canonicalMultiline host.nfc 1000000 true email.sanitizedHtml ∧
    canonicalMultiline host.nfc 1000000 true email.plainText)
  guard (email.attachments.length ≤ 10 ∧ email.attachments.all (isRenderedAttachment host) ∧
    isCanonicalOrder (email.attachments.map (·.slotKey)))
  guard (email.warningCodes.length ≤ 100 ∧ email.warningCodes.all isStableKey ∧
    isCanonicalOrder email.warningCodes)
  return { email with renderer, mergeRegistry }

def renderOrganizerEmailV1 (input : RenderInput) :
    Except OrganizerEmailRenderError OrganizerServerRenderedEmail := do
  require (isRecipientResolutionId input.recipientResolutionId = true ∧
    isOpaqueIdText input.releaseId = true ∧ isDigestText input.releaseDigestSha256 = true)
    .invalidInput
  let renderer ← orRefuse (input.renderer.bind parseDefinitionRef) .invalidInput
  let message ← orRefuse (input.messageContent.filter (isMessageContent host)) .invalidInput
  let body ← renderBody host input message.body
  require (utf8Length body.sanitizedHtml ≤ maximumRenderedBytes ∧
    utf8Length body.plainText ≤ maximumRenderedBytes) .outputTooLarge
  let attachmentManifestDigestSha256 ← orRefuse (host.digest (.attachments body.attachments))
    .thrown
  let resolvedInputDigestSha256 ← orRefuse (host.digest (.resolvedInput
    input.recipientResolutionId message body.templateDigestInput input.mergeRegistry.identity
    body.fields.canonicalValues input.timezone)) .thrown
  let unsigned : UnsignedRenderedEmail := {
    recipientResolutionId := input.recipientResolutionId
    releaseId := input.releaseId
    releaseDigestSha256 := input.releaseDigestSha256
    resolvedInputDigestSha256
    attachmentManifestDigestSha256
    renderer
    mergeRegistry := input.mergeRegistry.identity
    subject := message.subject
    sanitizedHtml := body.sanitizedHtml
    plainText := body.plainText
    attachments := body.attachments
    warningCodes := sortKeys body.fields.warningCodes }
  let outputDigestSha256 ← orRefuse (host.digest (.output unsigned)) .thrown
  orRefuse (parseRenderedEmail host { unsigned with outputDigestSha256 }) .outputTooLarge

end JooEvents.Rendering
