import Mathlib.Data.Nat.Digits.Defs
import JooEvents.Communications.Preview

/-!
# Preview recipients

The rows of a preview as an organizer sees them : with as much of the address as is disclosed,
page by page. A cursor is an offset with a tag of what is listed, made and checked by the codec
of the preview; `createHmacOrganizerPreviewOpaqueTokenCodec` is the codec over a keyed hash.
-/

namespace JooEvents

open Fallible

variable {D : Type} [DecidableEq D]

/-- The characters before and after the last occurrence of one. -/
def splitAtLast (c : Char) (s : List Char) : Option (List Char × List Char) :=
  match s.reverse.dropWhile (· ≠ c) with
  | [] => none
  | _ :: before => some (before.reverse, (s.reverse.takeWhile (· ≠ c)).reverse)

/-- The name and the suffix of a domain, with the dot. -/
def splitDomain (domain : List Char) : List Char × List Char :=
  match splitAtLast '.' domain with
  | some (name, suffix) => if name = [] then (domain, []) else (name, '.' :: suffix)
  | none => (domain, [])

def maskEmail (value : String) : String :=
  match splitAtLast '@' value.toList with
  | none => "***@***"
  | some (mailbox, domain) =>
    if mailbox = [] ∨ domain = [] then "***@***"
    else
      let (domainName, suffix) := splitDomain domain
      String.ofList (mailbox.take 1 ++ "***@".toList ++ domainName.take 1 ++ "***".toList ++ suffix)

inductive OrganizerContactDisclosure where
  | masked
  | exactAuthorized
  | withheld

inductive OrganizerRecipientChannelProjection where
  | masked (maskedValue : String)
  | exactAuthorized (maskedValue : String) (exactValue : EmailAddress)
  | absent (reasonCode : OrganizerStableKey)

inductive OrganizerMessagePreviewRecipientState (D : Type) where
  | included (releaseId : OpaqueId) (releaseDigestSha256 : D)
  | excluded (reasonCode : OrganizerStableKey)
  | blocked (reasonCode : OrganizerStableKey)

structure OrganizerMessagePreviewRecipientRow {D : Type} (host : Host D) where
  recipientResolutionId : RecipientResolutionId
  safeLabel : SafeLabel host
  channel : OrganizerRecipientChannelProjection
  mergeFallbackFieldKeys : List OrganizerStableKey
  state : OrganizerMessagePreviewRecipientState D

section

variable {host : Host D}

theorem isDefinitionKey_noEligible : isDefinitionKey "address.no_eligible" = true := by decide

def channelProjection (address : Option (OrganizerClassifiedEmailAddress D))
    (disclosure : OrganizerContactDisclosure) : OrganizerRecipientChannelProjection :=
  match address with
  | none => .absent ⟨"address.no_eligible", isDefinitionKey_noEligible⟩
  | some address =>
    match disclosure with
    | .withheld => .absent ⟨"contact.disclosure_denied", by decide⟩
    | .exactAuthorized => .exactAuthorized (maskEmail address.classifiedValue.value.val)
      address.classifiedValue.value
    | .masked => .masked (maskEmail address.classifiedValue.value.val)

/-- The masked value, which is to be a canonical line of at most 320 characters. -/
def OrganizerRecipientChannelProjection.maskedValue :
    OrganizerRecipientChannelProjection → Option String
  | .masked maskedValue => some maskedValue
  | .exactAuthorized maskedValue _ => some maskedValue
  | .absent _ => none

def OrganizerPreviewRowState.project :
    OrganizerPreviewRowState D → OrganizerMessagePreviewRecipientState D
  | .included releaseId releaseDigestSha256 _ => .included releaseId releaseDigestSha256
  | .excluded reasonCode => .excluded reasonCode
  | .blocked reasonCode => .blocked reasonCode

def projectOrganizerPreviewRecipientRow (disclosure : OrganizerContactDisclosure)
    (row : OrganizerPreparedPreviewRow host) :
    Except OrganizerPreviewError (OrganizerMessagePreviewRecipientRow host) := do
  let channel := channelProjection row.address disclosure
  require (channel.maskedValue.all (canonicalSingleLine host 320) = true) .thrown
  require (row.mergeFallbackFieldKeys.length ≤ 100 ∧
    row.mergeFallbackFieldKeys.Pairwise (· < ·)) .thrown
  pure
    { recipientResolutionId := row.recipientResolutionId, safeLabel := row.candidate.safeLabel
      channel, mergeFallbackFieldKeys := row.mergeFallbackFieldKeys, state := row.state.project }

/-! ## Pages -/

inductive OrganizerPreviewRowStateKind where
  | included
  | excluded
  | blocked
  deriving DecidableEq

instance : AsciiText OrganizerPreviewRowStateKind where
  text
    | .included => "included"
    | .excluded => "excluded"
    | .blocked => "blocked"
  ascii := AsciiText.ascii_of_values [.included, .excluded, .blocked]
  injective := AsciiText.injective_of_values [.included, .excluded, .blocked]

instance : AsciiText OrganizerContactDisclosure where
  text
    | .masked => "masked"
    | .exactAuthorized => "exact_authorized"
    | .withheld => "withheld"
  ascii := AsciiText.ascii_of_values [.masked, .exactAuthorized, .withheld]
  injective := AsciiText.injective_of_values [.masked, .exactAuthorized, .withheld]

def OrganizerPreviewRowState.kind : OrganizerPreviewRowState D → OrganizerPreviewRowStateKind
  | .included _ _ _ => .included
  | .excluded _ => .excluded
  | .blocked _ => .blocked

/-- `organizerCommunicationCursorSchema`. -/
abbrev OrganizerCursor := {s : String // isOpaqueKey "cur1_" 512 s = true}

def OrganizerCursor.parse (s : String) : Option OrganizerCursor :=
  if h : isOpaqueKey "cur1_" 512 s = true then some ⟨s, h⟩ else none

abbrev OrganizerRecipientLimit := {n : ℕ // 0 < n ∧ n ≤ 200}

/-- Which rows are listed. -/
structure OrganizerMessagePreviewRecipientFilter where
  state : Option OrganizerPreviewRowStateKind
  reasonCode : Option OrganizerStableKey

structure OrganizerMessagePreviewRecipientListInput (D : Type) where
  identity : OrganizerMessagePreviewIdentity D
  filter : OrganizerMessagePreviewRecipientFilter
  cursor : Option OrganizerCursor
  limit : Option OrganizerRecipientLimit

structure OrganizerMessagePreviewRecipientPage {D : Type} (host : Host D) where
  identity : OrganizerMessagePreviewIdentity D
  rows : List (OrganizerMessagePreviewRecipientRow host)
  nextCursor : Option OrganizerCursor

def OrganizerMessagePreviewRecipientFilter.Admits (filter : OrganizerMessagePreviewRecipientFilter)
    (row : OrganizerPreparedPreviewRow host) : Prop :=
  (∀ state ∈ filter.state, row.state.kind = state) ∧
    ∀ reasonCode ∈ filter.reasonCode, row.state.reasonCode = some reasonCode

instance (filter : OrganizerMessagePreviewRecipientFilter)
    (row : OrganizerPreparedPreviewRow host) : Decidable (filter.Admits row) :=
  inferInstanceAs (Decidable (_ ∧ _))

variable (snapshot : OrganizerPreparedMessageBatchPreview host)
variable (disclosure : OrganizerContactDisclosure)
variable (opaqueTokens : OrganizerPreviewOpaqueTokenCodec host)

def OrganizerPreparedMessageBatchPreview.filtered
    (filter : OrganizerMessagePreviewRecipientFilter) : List (OrganizerPreparedPreviewRow host) :=
  snapshot.rows.filter fun row => filter.Admits row

def bindingDigest (filter : OrganizerMessagePreviewRecipientFilter) : D :=
  host.sha256 ((Json.obj
    [("schemaVersion", toJson (1 : ℕ)), ("identity", toJson snapshot.summary.identity),
      ("state", toJson filter.state), ("reasonCode", toJson filter.reasonCode),
      ("disclosure", toJson disclosure)]).canonicalize host.nfc)

def pageOffset (bindingDigestSha256 : D) :
    Option OrganizerCursor → Except OrganizerPreviewError ℕ
  | none => .ok 0
  | some cursor =>
    orRefuse (opaqueTokens.readCursor bindingDigestSha256 cursor.val) (.preview .invalidCursor)

/-- The cursor of the page after, where there are more rows. -/
def nextPageCursor (bindingDigestSha256 : D) (nextOffset total : ℕ) :
    Except OrganizerPreviewError (Option OrganizerCursor) :=
  if nextOffset < total then
    (orRefuse ((opaqueTokens.issueCursor bindingDigestSha256 nextOffset).bind OrganizerCursor.parse)
      .thrown).map some
  else .ok none

def listOrganizerMessagePreviewRecipients (query : OrganizerMessagePreviewRecipientListInput D) :
    Except OrganizerPreviewError (OrganizerMessagePreviewRecipientPage host) := do
  require (host.Same query.identity snapshot.summary.identity) (.preview .stalePreview)
  let filtered := snapshot.filtered query.filter
  let bindingDigestSha256 := bindingDigest snapshot disclosure query.filter
  let offset ← pageOffset opaqueTokens bindingDigestSha256 query.cursor
  require (offset ≤ filtered.length) (.preview .invalidCursor)
  let limit := (query.limit.map Subtype.val).getD 50
  let rows ← ((filtered.drop offset).take limit).mapM
    (projectOrganizerPreviewRecipientRow disclosure)
  let nextCursor ← nextPageCursor opaqueTokens bindingDigestSha256 (offset + rows.length)
    filtered.length
  require ((rows.map (·.recipientResolutionId)).Nodup ∧ rows.length ≤ 200) .thrown
  pure { identity := snapshot.summary.identity, rows, nextCursor }

end

/-! ## The codec over a keyed hash -/

section

variable {host : Host D}

/-- The digits of `n.toString(36)`. -/
def radix36Char (n : ℕ) : Char := if n < 10 then Char.ofNat (48 + n) else Char.ofNat (87 + n)

/-- `n.toString(36)`, on characters. -/
def toString36 (n : ℕ) : List Char :=
  if n = 0 then ['0'] else (Nat.digits 36 n).reverse.map radix36Char

/-- The value of a digit of `[0-9a-z]`. -/
def radix36Value (c : Char) : ℕ :=
  if isDigitChar c then c.val.toNat - 48 else c.val.toNat - 87

/-- `Number.parseInt(s, 36)` of digits of `[0-9a-z]`. -/
def parseInt36 (s : List Char) : ℕ := Nat.ofDigits 36 (s.reverse.map radix36Value)

instance : ToJson D (OrganizerPreviewDraft host) :=
  ⟨fun draft => .obj
    ([("draftId", toJson draft.draftId), ("version", toJson draft.version),
      ("purposeRevision", toJson draft.purposeRevision), ("audience", toJson draft.audience)] ++
      (draft.templateRevision.map fun revision => ("templateRevision", toJson revision)).toList)⟩

/-- The hash of a canonical value under the key, in 64 digits. -/
abbrev KeyedHash (D : Type) := Json D → CanonicalSha256

variable (hmac : KeyedHash D) (profile : OrganizerPreviewDigestProfile)

/-- The first 40 digits of `hmacHex`. -/
def hmacTag (host : Host D) (space : String) (value : Json D) : List Char :=
  (hmac ((Json.obj [("schemaVersion", toJson (1 : ℕ)), ("profile", toJson profile),
    ("namespace", .text space), ("value", value)]).canonicalize host.nfc)).val.toList.take 40

def hmacToken (host : Host D) (lead space : String) (value : Json D) : String :=
  lead ++ String.ofList (hmacTag hmac profile host space value)

def OpaqueId.parse (s : String) : Option OpaqueId :=
  if h : isReference ['.', '_', ':', '@', '/', '-'] s = true then some ⟨s, h⟩ else none

def RecipientResolutionId.parse (s : String) : Option RecipientResolutionId :=
  if h : isOpaqueKey "rr1_" 160 s = true ∧ 20 ≤ s.toList.length then some ⟨s, h⟩ else none

def cursorTag (host : Host D) (bindingDigestSha256 : D) (offset : ℕ) : List Char :=
  hmacTag hmac profile host "preview-cursor"
    (.obj [("binding", .digest bindingDigestSha256), ("offset", toJson offset)])

/-- The digits and the tag of `/^cur1_([0-9a-z]+)_([0-9a-f]{40})$/`. -/
def matchCursor (cursor : String) : Option (List Char × List Char) :=
  if cursor.toList.take 5 = "cur1_".toList then
    (splitAtLast '_' (cursor.toList.drop 5)).filter fun (digits, tag) =>
      !digits.isEmpty && digits.all (fun c => isDigitChar c || isLowerChar c) &&
        decide (tag.length = 40) && tag.all isHexChar
  else none

def createHmacOrganizerPreviewOpaqueTokenCodec (host : Host D) :
    OrganizerPreviewOpaqueTokenCodec host where
  issueAudienceSpecId scope draft previewGeneration :=
    OpaqueId.parse (hmacToken hmac profile host "aud1_" "audience-spec"
      (.obj [("scope", toJson scope), ("draft", toJson draft),
        ("previewGeneration", toJson previewGeneration)]))
  issueRecipientResolutionId audienceSpecId draftId draftVersion previewGeneration subjectRefId
      ordinal :=
    RecipientResolutionId.parse (hmacToken hmac profile host "rr1_" "recipient-resolution"
      (.obj [("audienceSpecId", toJson audienceSpecId), ("draftId", toJson draftId),
        ("draftVersion", toJson draftVersion), ("previewGeneration", toJson previewGeneration),
        ("subjectRefId", toJson subjectRefId), ("ordinal", toJson ordinal)]))
  issueReleaseId recipientResolutionId addressRefId addressVersion :=
    OpaqueId.parse (hmacToken hmac profile host "rel1_" "message-release"
      (.obj [("recipientResolutionId", toJson recipientResolutionId),
        ("addressRefId", toJson addressRefId), ("addressVersion", toJson addressVersion)]))
  issueCursor bindingDigestSha256 offset :=
    if offset ≤ maxSafeInteger then
      some ("cur1_" ++ String.ofList (toString36 offset) ++ "_" ++
        String.ofList (cursorTag hmac profile host bindingDigestSha256 offset))
    else none
  readCursor bindingDigestSha256 cursor :=
    (matchCursor cursor).bind fun (digits, tag) =>
      let offset := parseInt36 digits
      if offset ≤ maxSafeInteger ∧ cursorTag hmac profile host bindingDigestSha256 offset = tag then
        some offset
      else none

end

end JooEvents
