import JooEvents.Kernel.Reshaped
import JooEvents.Lib.Markup

/-!
# Marked resends

An envelope is sent once more when its first acceptance is unknown : the derived copy has a
prefix before the subject and a note before the text, and the note inside the document of
the markup. A text of an envelope is its UTF-16 code units, since the subject is cut at one
of them. An envelope has a digest when it is valid and canonical JSON takes it.
-/

namespace JooEvents

open Fallible

structure EmailParty where
  address : List ℕ
  displayName : Option (List ℕ)

structure EmailHeader where
  name : List ℕ
  value : List ℕ

structure ImmutableEmailEnvelope where
  contractVersion : JsNumber
  fromParty : EmailParty
  toAddress : List ℕ
  replyTo : Option EmailParty
  subject : List ℕ
  textBody : List ℕ
  htmlBody : Option (List ℕ)
  headers : List EmailHeader

/-- The errors, by what they are about. -/
inductive EnvelopeError where
  | version
  | address
  | displayName
  | subject
  | textBody
  | htmlBody
  | headerCount
  | headerName
  | headerOrder
  | reservedHeader
  | headerValue
  | headerBytes
  | canonical (error : CanonicalError)

/-- What the digest of an envelope takes from the language and from its hash. -/
structure EnvelopeHost (D : Type) where
  /-- `String.prototype.normalize('NFC')`. -/
  nfc : String → String
  /-- The hash of the bytes of a text. -/
  sha256 : String → D

/-- `EMAIL_ADDRESS_MAXIMUM_LENGTH`. -/
def emailAddressMaximumLength : ℕ := 320

/-- `EMAIL_SUBJECT_MAXIMUM_LENGTH`. -/
def emailSubjectMaximumLength : ℕ := 998

/-- `EMAIL_BODY_MAXIMUM_LENGTH`. -/
def emailBodyMaximumLength : ℕ := 26214400

def isHighSurrogate (u : ℕ) : Bool := decide (0xD800 ≤ u ∧ u ≤ 0xDBFF)

def isLowSurrogate (u : ℕ) : Bool := decide (0xDC00 ≤ u ∧ u ≤ 0xDFFF)

/-- The bytes of a unit on its own. A surrogate without its other half is encoded as the
replacement character. -/
def unitBytes (u : ℕ) : ℕ := if u < 0x80 then 1 else if u < 0x800 then 2 else 3

/-- `new TextEncoder().encode(s).byteLength`. -/
def utf8Length : List ℕ → ℕ
  | [] => 0
  | [u] => unitBytes u
  | u :: next :: rest =>
    if isHighSurrogate u && isLowSurrogate next then 4 + utf8Length rest
    else unitBytes u + utf8Length (next :: rest)

/-- A unit of the class `\s`. -/
def isWhiteSpaceUnit (u : ℕ) : Bool :=
  [0x9, 0xA, 0xB, 0xC, 0xD, 0x20, 0xA0, 0x1680, 0x2028, 0x2029, 0x202F, 0x205F, 0x3000,
    0xFEFF].contains u || decide (0x2000 ≤ u ∧ u ≤ 0x200A)

/-- A unit of the class `[\r\n\u0000]`. -/
def isBreakUnit (u : ℕ) : Bool := u == 0xD || u == 0xA || u == 0

/-- `@`. -/
def atSign : ℕ := 0x40

/-- `parseEmailAddress` accepts. -/
def isEmailAddress (value : List ℕ) : Bool :=
  decide (3 ≤ value.length ∧ value.length ≤ emailAddressMaximumLength) &&
    !(value.any fun u => decide (u ≤ 0x1F) || u == 0x7F || isWhiteSpaceUnit u) &&
    value.count atSign == 1 && value.head? != some atSign && value.getLast? != some atSign

def isDisplayName (name : List ℕ) : Bool :=
  name != [] && decide (name.length ≤ 200) && !name.any isBreakUnit

/-- `/^[A-Za-z][A-Za-z0-9-]{0,63}$/`. -/
def isHeaderName : List ℕ → Bool
  | [] => false
  | u :: units =>
    Markup.isLetter u && decide (units.length ≤ 63) &&
      units.all fun u => Markup.isLetter u || decide (48 ≤ u ∧ u ≤ 57) || u == Markup.dash

/-- `/^(?:bcc|cc|content-.*|date|from|message-id|reply-to|sender|subject|to)$/i`, on a name in
lower case. -/
def isReservedHeader (canonicalName : List ℕ) : Bool :=
  (["bcc", "cc", "date", "from", "message-id", "reply-to", "sender", "subject", "to"].map
      codeUnits).contains canonicalName ||
    (codeUnits "content-").isPrefixOf canonicalName

/-- `assertHeader`, and the name in lower case. -/
def assertHeader (previousName : Option (List ℕ)) (header : EmailHeader) :
    Except EnvelopeError (List ℕ) := do
  require (isHeaderName header.name) .headerName
  let canonicalName := header.name.map Markup.lower
  require (∀ previous ∈ previousName, previous < canonicalName) .headerOrder
  require (isReservedHeader canonicalName = false) .reservedHeader
  require (header.value.length ≤ 16384 ∧ header.value.any isBreakUnit = false) .headerValue
  return canonicalName

/-- The loop over the headers, after a name and so many bytes. -/
def validateHeaders : Option (List ℕ) → ℕ → List EmailHeader → Except EnvelopeError ℕ
  | _, totalHeaderBytes, [] => .ok totalHeaderBytes
  | previousName, totalHeaderBytes, header :: headers => do
    let canonicalName ← assertHeader previousName header
    validateHeaders (some canonicalName)
      (totalHeaderBytes + utf8Length (header.name ++ codeUnits ":" ++ header.value ++ [0xD, 0xA]))
      headers

def validateEnvelope (envelope : ImmutableEmailEnvelope) : Except EnvelopeError Unit := do
  require (envelope.contractVersion = .finite ⟨false, 1, 0, by decide⟩) .version
  require (isEmailAddress envelope.fromParty.address) .address
  require (isEmailAddress envelope.toAddress) .address
  require (∀ replyTo ∈ envelope.replyTo, isEmailAddress replyTo.address) .address
  require (∀ name ∈ envelope.fromParty.displayName, isDisplayName name) .displayName
  require (∀ replyTo ∈ envelope.replyTo, ∀ name ∈ replyTo.displayName, isDisplayName name)
    .displayName
  require (envelope.subject ≠ [] ∧ envelope.subject.length ≤ emailSubjectMaximumLength ∧
    envelope.subject.any isBreakUnit = false) .subject
  require (utf8Length envelope.textBody ≤ emailBodyMaximumLength ∧ 0 ∉ envelope.textBody) .textBody
  require (∀ html ∈ envelope.htmlBody, utf8Length html ≤ emailBodyMaximumLength ∧ 0 ∉ html)
    .htmlBody
  require (envelope.headers.length ≤ 128) .headerCount
  let totalHeaderBytes ← validateHeaders none 0 envelope.headers
  require (totalHeaderBytes ≤ 16384) .headerBytes

def textProperty (key : String) (units : List ℕ) : List ℕ × Option JsValue :=
  (codeUnits key, some (.string units))

def EmailParty.value (party : EmailParty) : JsValue :=
  .object true false (textProperty "address" party.address ::
    (party.displayName.map (textProperty "displayName")).toList)

def EmailHeader.jsValue (header : EmailHeader) : JsValue :=
  .object true false [textProperty "name" header.name, textProperty "value" header.value]

def ImmutableEmailEnvelope.properties (envelope : ImmutableEmailEnvelope) :
    List (List ℕ × Option JsValue) :=
  [(codeUnits "contractVersion", some (.number envelope.contractVersion)),
    (codeUnits "from", some envelope.fromParty.value),
    (codeUnits "to", some (.object true false [textProperty "address" envelope.toAddress])),
    textProperty "subject" envelope.subject, textProperty "textBody" envelope.textBody,
    (codeUnits "headers",
      some (.array (envelope.headers.map fun header => some header.jsValue)))] ++
    (envelope.replyTo.map fun replyTo => (codeUnits "replyTo", some replyTo.value)).toList ++
    (envelope.htmlBody.map (textProperty "htmlBody")).toList

def ImmutableEmailEnvelope.value (envelope : ImmutableEmailEnvelope) : JsValue :=
  .object true false envelope.properties

def computeReviewedEmailEnvelopeDigestSha256 {D : Type} (host : EnvelopeHost D)
    (envelope : ImmutableEmailEnvelope) : Except EnvelopeError D := do
  validateEnvelope envelope
  host.sha256 <$> (canonicalJsonText host.nfc envelope.value).mapError .canonical

/-- `MARKED_RESEND_SUBJECT_PREFIX`. -/
def markedResendSubjectPrefix : List ℕ := codeUnits "[Resend] "

/-- `MARKED_RESEND_BODY_NOTE`. -/
def markedResendBodyNoteText : String :=
  "This is a resend: our system could not confirm that the first attempt arrived. " ++
    "If you already received this message, please disregard this copy."

/-- `MARKED_RESEND_BODY_NOTE`, as code units. -/
def markedResendBodyNote : List ℕ := codeUnits markedResendBodyNoteText

def htmlResendNote : List ℕ := codeUnits "<p>" ++ markedResendBodyNote ++ codeUnits "</p>"

/-- `<body[^>]*>` in any case at the beginning : what it matches, and the rest. -/
def matchBodyOpen (html : List ℕ) : Option (List ℕ × List ℕ) :=
  if (html.take 5).map Markup.lower = codeUnits "<body" then
    match (html.drop 5).dropWhile fun u => u ≠ Markup.gt with
    | [] => none
    | gt :: rest =>
      some (html.take 5 ++ ((html.drop 5).takeWhile fun u => u ≠ Markup.gt) ++ [gt], rest)
  else none

/-- `/<body[^>]*>/i.exec` : what is up to the end of the first match, and the rest. -/
def execBodyOpen : List ℕ → Option (List ℕ × List ℕ)
  | [] => none
  | u :: units =>
    match matchBodyOpen (u :: units) with
    | some found => some found
    | none => (execBodyOpen units).map fun found => (u :: found.1, found.2)

def injectHtmlResendNote (htmlBody : List ℕ) : List ℕ :=
  match execBodyOpen htmlBody with
  | some (before, after) => before ++ htmlResendNote ++ after
  | none => htmlResendNote ++ [0xA] ++ htmlBody

/-- The envelope that `deriveMarkedResendEmailEnvelope` puts together. -/
def ImmutableEmailEnvelope.marked (reviewed : ImmutableEmailEnvelope) : ImmutableEmailEnvelope where
  contractVersion := .finite ⟨false, 1, 0, by decide⟩
  fromParty := reviewed.fromParty
  toAddress := reviewed.toAddress
  replyTo := reviewed.replyTo
  subject := (markedResendSubjectPrefix ++ reviewed.subject).take emailSubjectMaximumLength
  textBody := markedResendBodyNote ++ [0xA, 0xA] ++ reviewed.textBody
  htmlBody := reviewed.htmlBody.map injectHtmlResendNote
  headers := reviewed.headers

def deriveMarkedResendEmailEnvelope {D : Type} (host : EnvelopeHost D)
    (reviewed : ImmutableEmailEnvelope) : Except EnvelopeError ImmutableEmailEnvelope := do
  let _ ← computeReviewedEmailEnvelopeDigestSha256 host reviewed
  let _ ← computeReviewedEmailEnvelopeDigestSha256 host reviewed.marked
  return reviewed.marked

end JooEvents
