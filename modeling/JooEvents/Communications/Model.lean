import JooEvents.Kernel.Text
import JooEvents.Reliability.Definitions

/-!
# Audiences

Whom an organizer writes to : the candidates of an audience, what the address policy says of
each, and the members that are made of them. A label is canonical text, so that it is told by
its encoding; an address is encoded by the reference to its value, without the value.

`OrganizerAudienceCandidate.eq_of_same` and `redactedAddress_eq` say what the encodings tell.
-/

namespace JooEvents

/-! ## Text -/

/-- The class `[A-Za-z0-9]`. -/
def isAlphanumericChar (c : Char) : Bool :=
  isLowerChar c || isDigitChar c || decide (65 ≤ c.val.toNat ∧ c.val.toNat ≤ 90)

/-- A letter or digit, and then letters, digits and the given characters. -/
def isReference (others : List Char) (s : String) : Bool :=
  match s.toList with
  | [] => false
  | c :: cs =>
    isAlphanumericChar c && cs.all (fun c => isAlphanumericChar c || isOneOf others c) &&
      decide (cs.length ≤ 255)

/-- `organizerCommunicationOpaqueIdSchema`. -/
abbrev OpaqueId := {s : String // isReference ['.', '_', ':', '@', '/', '-'] s = true}

/-- `organizerCommunicationSubjectRefIdSchema`. -/
abbrev SubjectRefId := {s : String // isReference ['.', '_', ':', '/', '-'] s = true}

/-- `organizerCommunicationStableKeySchema`. -/
abbrev OrganizerStableKey := {s : String // isDefinitionKey s = true}

/-- `organizerCommunicationRecipientResolutionIdSchema`. -/
abbrev RecipientResolutionId :=
  {s : String // isOpaqueKey "rr1_" 160 s = true ∧ 20 ≤ s.toList.length}

theorem isAsciiChar_of_isAlphanumericChar {c : Char} (h : isAlphanumericChar c = true) :
    isAsciiChar c = true := by
  simp only [isAlphanumericChar, Bool.or_eq_true, decide_eq_true_eq] at h
  rcases h with (h | h) | h
  · exact isAsciiChar_of_isLowerChar h
  · exact isAsciiChar_of_isDigitChar h
  · simp only [isAsciiChar, decide_eq_true_eq]
    omega

theorem ascii_of_isReference {others : List Char} (hothers : others.all isAsciiChar = true)
    {s : String} (h : isReference others s = true) : isAscii s = true := by
  unfold isReference at h
  split at h
  · cases h
  · rename_i c cs heq
    simp only [Bool.and_eq_true] at h
    rw [isAscii, heq, List.all_cons, isAsciiChar_of_isAlphanumericChar h.1.1, Bool.true_and]
    refine List.all_eq_true.mpr fun c hc => ?_
    rcases Bool.or_eq_true_iff.mp (List.all_eq_true.mp h.1.2 c hc) with hc | hc
    · exact isAsciiChar_of_isAlphanumericChar hc
    · exact isAsciiChar_of_isOneOf hothers hc

instance : AsciiText OpaqueId :=
  ⟨Subtype.val, fun id => ascii_of_isReference (by decide) id.property, Subtype.val_injective⟩

instance : AsciiText SubjectRefId :=
  ⟨Subtype.val, fun id => ascii_of_isReference (by decide) id.property, Subtype.val_injective⟩

instance : AsciiText RecipientResolutionId :=
  ⟨Subtype.val, fun id => ascii_of_isOpaqueKey (by decide) id.property.1, Subtype.val_injective⟩

section

variable {D : Type} (host : Host D)

def normalizeSingleLine (value : String) : String :=
  collapseWhiteSpace (trimText (host.nfc value))

/-- The class `[\u0000-\u001f\u007f-\u009f]`. -/
def isLatin1Control (c : Char) : Bool :=
  decide (c.val.toNat ≤ 0x1F ∨ (0x7F ≤ c.val.toNat ∧ c.val.toNat ≤ 0x9F))

/-- `canonicalSingleLine(maximum)`. -/
def canonicalSingleLine (maximum : ℕ) (value : String) : Bool :=
  decide (value ≠ "" ∧ textLength value ≤ maximum ∧ normalizeSingleLine host value = value) &&
    !value.toList.any isLatin1Control

/-- A canonical line of at most so many characters. -/
@[ext] structure CanonicalLine (maximum : ℕ) where
  val : String
  canonical : canonicalSingleLine host maximum val = true
  deriving DecidableEq

/-- `canonicalSafeLabelSchema`. -/
abbrev SafeLabel := CanonicalLine host 240

end

/-- The characters of a mail address beside the `@`. -/
def isEmailChar (c : Char) : Bool :=
  isAlphanumericChar c || isOneOf ['_', Char.ofNat 39, '+', '-', '.'] c

/-- `[A-Za-z0-9][A-Za-z0-9\-]*`. -/
def isDomainLabel : List Char → Bool
  | [] => false
  | c :: cs => isAlphanumericChar c && cs.all fun c => isAlphanumericChar c || c = '-'

/-- `([A-Za-z0-9][A-Za-z0-9\-]*\.)+[A-Za-z]{2,}`. -/
def isMailDomain (domain : List Char) : Bool :=
  match (domain.splitOn '.').reverse with
  | suffix :: label :: labels =>
    (label :: labels).all isDomainLabel && decide (2 ≤ suffix.length) &&
      suffix.all fun c => isAlphanumericChar c && !isDigitChar c
  | _ => false

/-- The part before the `@` : without a dot at an end or beside another, and without a quote
at its end. -/
def isMailbox (mailbox : List Char) : Bool :=
  (mailbox.splitOn '.').all (fun part => !part.isEmpty) && mailbox.all isEmailChar &&
    mailbox.getLast?.any fun c => isAlphanumericChar c || isOneOf ['_', '+', '-'] c

/-- The default pattern of `z.email()`. -/
def isEmail (s : String) : Bool :=
  s.toList.all (fun c => isEmailChar c || c = '@') &&
    match s.toList.splitOn '@' with
    | [mailbox, domain] => isMailbox mailbox && isMailDomain domain
    | _ => false

/-- `z.email().max(320)`. -/
abbrev EmailAddress := {s : String // isEmail s = true ∧ textLength s ≤ 320}

@[ext] structure OrganizerAudienceEvidenceRef (D : Type) where
  evidenceRefId : OpaqueId
  evidenceVersion : Version
  evidenceDigestSha256 : D
  deriving DecidableEq

@[ext] structure OrganizerAudienceCandidate {D : Type} (host : Host D) where
  subjectRefId : SubjectRefId
  subjectVersion : Version
  personRefId : SubjectRefId
  contactRefId : SubjectRefId
  safeLabel : SafeLabel host
  membershipEvidence : OrganizerAudienceEvidenceRef D

inductive AddressLifecycle where
  | active
  | revoked
  deriving DecidableEq

@[ext] structure AddressLookupFingerprint (D : Type) where
  profile : OrganizerStableKey
  version : Version
  keyedValue : D
  deriving DecidableEq

@[ext] structure ClassifiedAddressValue where
  payloadRefId : OpaqueId
  payloadRefVersion : Version
  value : EmailAddress
  deriving DecidableEq

@[ext] structure OrganizerClassifiedEmailAddress (D : Type) where
  addressRefId : OpaqueId
  addressVersion : Version
  contactRefId : SubjectRefId
  lifecycle : AddressLifecycle
  lifecycleEvidence : OrganizerAudienceEvidenceRef D
  lookupFingerprint : AddressLookupFingerprint D
  classifiedValue : ClassifiedAddressValue
  deriving DecidableEq

/-- `organizerCommunicationDefinitionRefSchema`. -/
structure OrganizerDefinitionRef (D : Type) where
  reference : DefinitionRef
  definitionDigestSha256 : D
  deriving DecidableEq

inductive PurposeBasisState where
  | allowed
  | denied
  deriving DecidableEq

inductive ConsentState where
  | notRequired
  | granted
  | missing
  | withdrawn
  deriving DecidableEq

inductive SuppressionState where
  | clear
  | suppressed
  deriving DecidableEq

inductive DoNotContactState where
  | clear
  | active
  deriving DecidableEq

/-- A state with the evidence of it. -/
structure Evidenced (D S : Type) where
  state : S
  evidence : OrganizerAudienceEvidenceRef D

structure OrganizerEvaluatedAddressPolicy (D : Type) where
  selectionPolicy : OrganizerDefinitionRef D
  address : OrganizerClassifiedEmailAddress D
  purposeBasis : Evidenced D PurposeBasisState
  consent : Evidenced D ConsentState
  suppression : Evidenced D SuppressionState
  doNotContact : Evidenced D DoNotContactState

inductive OrganizerAddressPolicyResolution (D : Type) where
  | noEligibleAddress (evidence : OrganizerAudienceEvidenceRef D)
  | evaluated (policy : OrganizerEvaluatedAddressPolicy D)

/-- `ORGANIZER_AUDIENCE_EXCLUSION_REASONS`. -/
inductive OrganizerAudienceExclusionReason where
  | noEligibleAddress
  | addressRevoked
  | purposeNotAllowed
  | consentMissing
  | consentWithdrawn
  | doNotContact
  | suppressed

def OrganizerAudienceExclusionReason.key : OrganizerAudienceExclusionReason → OrganizerStableKey
  | .noEligibleAddress => ⟨"address.no_eligible", by decide⟩
  | .addressRevoked => ⟨"address.revoked", by decide⟩
  | .purposeNotAllowed => ⟨"purpose.not_allowed", by decide⟩
  | .consentMissing => ⟨"purpose.consent_missing", by decide⟩
  | .consentWithdrawn => ⟨"purpose.consent_withdrawn", by decide⟩
  | .doNotContact => ⟨"person.do_not_contact", by decide⟩
  | .suppressed => ⟨"address.suppressed", by decide⟩

inductive OrganizerPolicyEvidence (D : Type) where
  | noEligibleAddress (evidence : OrganizerAudienceEvidenceRef D)
  | evaluated (selectionPolicy : OrganizerDefinitionRef D)
      (addressLifecycle : Evidenced D AddressLifecycle)
      (purposeBasis : Evidenced D PurposeBasisState) (consent : Evidenced D ConsentState)
      (suppression : Evidenced D SuppressionState) (doNotContact : Evidenced D DoNotContactState)

/-- What a member is : eligible at an address, or excluded for a reason. -/
inductive OrganizerMemberState (D : Type) where
  | eligible (address : OrganizerClassifiedEmailAddress D) (addressPolicy : OrganizerDefinitionRef D)
  | excluded (reasonCode : OrganizerAudienceExclusionReason)
      (address : Option (OrganizerClassifiedEmailAddress D))
      (addressPolicy : Option (OrganizerDefinitionRef D))

structure OrganizerResolvedAudienceMember {D : Type} (host : Host D) where
  candidate : OrganizerAudienceCandidate host
  evidence : List (OrganizerAudienceEvidenceRef D)
  policyEvidence : OrganizerPolicyEvidence D
  state : OrganizerMemberState D

def OrganizerMemberState.address {D : Type} :
    OrganizerMemberState D → Option (OrganizerClassifiedEmailAddress D)
  | .eligible address _ => some address
  | .excluded _ address _ => address

def OrganizerMemberState.addressPolicy {D : Type} :
    OrganizerMemberState D → Option (OrganizerDefinitionRef D)
  | .eligible _ addressPolicy => some addressPolicy
  | .excluded _ _ addressPolicy => addressPolicy

/-! ## Encodings -/

section

variable {D : Type} {host : Host D}

instance : AsciiText AddressLifecycle where
  text
    | .active => "active"
    | .revoked => "revoked"
  ascii := AsciiText.ascii_of_values [.active, .revoked]
  injective := AsciiText.injective_of_values [.active, .revoked]

instance : AsciiText PurposeBasisState where
  text
    | .allowed => "allowed"
    | .denied => "denied"
  ascii := AsciiText.ascii_of_values [.allowed, .denied]
  injective := AsciiText.injective_of_values [.allowed, .denied]

instance : AsciiText ConsentState where
  text
    | .notRequired => "not_required"
    | .granted => "granted"
    | .missing => "missing"
    | .withdrawn => "withdrawn"
  ascii := AsciiText.ascii_of_values [.notRequired, .granted, .missing, .withdrawn]
  injective := AsciiText.injective_of_values [.notRequired, .granted, .missing, .withdrawn]

instance : AsciiText SuppressionState where
  text
    | .clear => "clear"
    | .suppressed => "suppressed"
  ascii := AsciiText.ascii_of_values [.clear, .suppressed]
  injective := AsciiText.injective_of_values [.clear, .suppressed]

instance : AsciiText DoNotContactState where
  text
    | .clear => "clear"
    | .active => "active"
  ascii := AsciiText.ascii_of_values [.clear, .active]
  injective := AsciiText.injective_of_values [.clear, .active]

instance : ToJson D (OrganizerAudienceEvidenceRef D) :=
  ⟨fun evidence => .obj
    [("evidenceRefId", toJson evidence.evidenceRefId),
      ("evidenceVersion", toJson evidence.evidenceVersion),
      ("evidenceDigestSha256", .digest evidence.evidenceDigestSha256)]⟩

instance : ExactJson D (OrganizerAudienceEvidenceRef D) :=
  ⟨fun {host a b} h => by
    have h := Iff.mp Host.canonicalize_record_iff h
    simp only [List.map_cons, List.map_nil, List.cons.injEq, canonicalize_toJson_eq_iff,
      Host.same_iff_eq, Json.canonicalize_digest, Json.digest.injEq, and_true] at h
    exact OrganizerAudienceEvidenceRef.ext h.1 h.2.1 h.2.2⟩

instance : ToJson D (OrganizerAudienceCandidate host) :=
  ⟨fun candidate => .obj
    [("subjectRefId", toJson candidate.subjectRefId),
      ("subjectVersion", toJson candidate.subjectVersion),
      ("personRefId", toJson candidate.personRefId),
      ("contactRefId", toJson candidate.contactRefId),
      ("safeLabel", toJson candidate.safeLabel.val),
      ("membershipEvidence", toJson candidate.membershipEvidence)]⟩

theorem CanonicalLine.eq_of_same {maximum : ℕ} {a b : CanonicalLine host maximum}
    (h : host.Same a.val b.val) : a = b := by
  have hnormal : ∀ line : CanonicalLine host maximum,
      normalizeSingleLine host line.val = line.val := by
    intro line
    have hcanonical := line.canonical
    simp only [canonicalSingleLine, Bool.and_eq_true, decide_eq_true_eq] at hcanonical
    exact hcanonical.1.2.2
  have hval : a.val = b.val := by
    rw [← hnormal a, ← hnormal b, normalizeSingleLine, normalizeSingleLine, Host.same_text_iff.mp h]
  exact CanonicalLine.ext hval

theorem OrganizerAudienceCandidate.eq_of_same {a b : OrganizerAudienceCandidate host}
    (h : host.Same a b) : a = b := by
  have h := Iff.mp Host.canonicalize_record_iff h
  simp only [List.map_cons, List.map_nil, List.cons.injEq, canonicalize_toJson_eq_iff,
    Host.same_iff_eq, and_true] at h
  obtain ⟨hid, hversion, hperson, hcontact, hlabel, hevidence⟩ := h
  exact OrganizerAudienceCandidate.ext hid hversion hperson hcontact (CanonicalLine.eq_of_same hlabel)
    hevidence

instance : ToJson D (AddressLookupFingerprint D) :=
  ⟨fun fingerprint => .obj
    [("profile", toJson fingerprint.profile), ("version", toJson fingerprint.version),
      ("keyedValue", .digest fingerprint.keyedValue)]⟩

instance : ExactJson D (AddressLookupFingerprint D) :=
  ⟨fun {host a b} h => by
    have h := Iff.mp Host.canonicalize_record_iff h
    simp only [List.map_cons, List.map_nil, List.cons.injEq, canonicalize_toJson_eq_iff,
      Host.same_iff_eq, Json.canonicalize_digest, Json.digest.injEq, and_true] at h
    exact AddressLookupFingerprint.ext h.1 h.2.1 h.2.2⟩

/-- The reference to the value of an address, without the value. -/
def classifiedValueRef (value : ClassifiedAddressValue) : Json D :=
  .obj [("payloadRefId", toJson value.payloadRefId),
    ("payloadRefVersion", toJson value.payloadRefVersion),
    ("classification", .text "communication.contact.email")]

def redactedAddress : Option (OrganizerClassifiedEmailAddress D) → Json D
  | none => .null
  | some address => .obj
    [("addressRefId", toJson address.addressRefId),
      ("addressVersion", toJson address.addressVersion),
      ("contactRefId", toJson address.contactRefId), ("channel", .text "email"),
      ("lifecycle", toJson address.lifecycle),
      ("lifecycleEvidence", toJson address.lifecycleEvidence),
      ("lookupFingerprint", toJson address.lookupFingerprint),
      ("classifiedValueRef", classifiedValueRef address.classifiedValue)]

/-- A reference and its version determine the value. -/
def ClassifiedAddressValue.Agree (a b : ClassifiedAddressValue) : Prop :=
  a.payloadRefId = b.payloadRefId → a.payloadRefVersion = b.payloadRefVersion → a.value = b.value

theorem redactedAddress_eq {a b : Option (OrganizerClassifiedEmailAddress D)}
    (h : (redactedAddress a).canonicalize host.nfc = (redactedAddress b).canonicalize host.nfc)
    (hagree : ∀ x ∈ a, ∀ y ∈ b, x.classifiedValue.Agree y.classifiedValue) : a = b := by
  cases a with
  | none =>
    cases b with
    | none => rfl
    | some b => exact absurd h.symm (canonicalize_obj_ne_null _ _)
  | some a =>
    cases b with
    | none => exact absurd h (canonicalize_obj_ne_null _ _)
    | some b =>
      have h := Iff.mp Host.canonicalize_record_iff h
      simp only [List.map_cons, List.map_nil, List.cons.injEq, canonicalize_toJson_eq_iff,
        Host.same_iff_eq, and_true, true_and] at h
      obtain ⟨hid, hversion, hcontact, hlifecycle, hevidence, hfingerprint, hvalue⟩ := h
      have hvalue := Iff.mp Host.canonicalize_record_iff hvalue
      simp only [List.map_cons, List.map_nil, List.cons.injEq, canonicalize_toJson_eq_iff,
        Host.same_iff_eq, and_true] at hvalue
      have hvalue' : a.classifiedValue = b.classifiedValue :=
        ClassifiedAddressValue.ext hvalue.1 hvalue.2 (hagree a rfl b rfl hvalue.1 hvalue.2)
      rw [OrganizerClassifiedEmailAddress.ext hid hversion hcontact hlifecycle hevidence
        hfingerprint hvalue']

instance : ToJson D (OrganizerDefinitionRef D) :=
  ⟨fun definition => .obj [("reference", toJson definition.reference),
    ("definitionDigestSha256", .digest definition.definitionDigestSha256)]⟩

instance {S : Type} [AsciiText S] : ToJson D (Evidenced D S) :=
  ⟨fun evidenced => .obj
    [("state", toJson evidenced.state), ("evidence", toJson evidenced.evidence)]⟩

instance : ToJson D (OrganizerPolicyEvidence D) :=
  ⟨fun
    | .noEligibleAddress evidence =>
      .obj [("kind", .text "no_eligible_address"), ("evidence", toJson evidence)]
    | .evaluated selectionPolicy addressLifecycle purposeBasis consent suppression doNotContact =>
      .obj [("kind", .text "evaluated"), ("selectionPolicy", toJson selectionPolicy),
        ("addressLifecycle", toJson addressLifecycle), ("purposeBasis", toJson purposeBasis),
        ("consent", toJson consent), ("suppression", toJson suppression),
        ("doNotContact", toJson doNotContact)]⟩

/-- The members of an encoding that say what a member is. -/
def OrganizerMemberState.json : OrganizerMemberState D → List (String × Json D)
  | .eligible _ _ => [("state", .text "eligible")]
  | .excluded reasonCode _ _ => [("state", .text "excluded"), ("reasonCode", toJson reasonCode.key)]

def redactedMember (member : OrganizerResolvedAudienceMember host) : Json D :=
  .obj ([("candidate", toJson member.candidate), ("address", redactedAddress member.state.address),
    ("addressPolicy", toJson member.state.addressPolicy), ("evidence", toJson member.evidence),
    ("policyEvidence", toJson member.policyEvidence)] ++ member.state.json)

theorem redactedMember_eq {a b : OrganizerResolvedAudienceMember host}
    (h : (redactedMember a).canonicalize host.nfc = (redactedMember b).canonicalize host.nfc)
    (hagree : ∀ x ∈ a.state.address, ∀ y ∈ b.state.address,
      x.classifiedValue.Agree y.classifiedValue) :
    a.candidate = b.candidate ∧ a.state.address = b.state.address ∧ a.evidence = b.evidence := by
  have hplain : ∀ member : OrganizerResolvedAudienceMember host,
      plainKeys (([("candidate", toJson member.candidate),
        ("address", redactedAddress member.state.address),
        ("addressPolicy", toJson member.state.addressPolicy), ("evidence", toJson member.evidence),
        ("policyEvidence", (toJson member.policyEvidence : Json D))] ++ member.state.json).map
          Prod.fst) = true := by
    intro member
    cases member.state <;>
    · simp only [OrganizerMemberState.json, List.cons_append, List.nil_append, List.map_cons,
        List.map_nil]
      decide
  have hlookup := fun k => Host.lookup_canonicalize h k (hplain a) (hplain b)
  exact ⟨OrganizerAudienceCandidate.eq_of_same (Option.some.inj (hlookup "candidate")),
    redactedAddress_eq (Option.some.inj (hlookup "address")) hagree,
    ExactJson.eq_of_same (show host.Same _ _ from Option.some.inj (hlookup "evidence"))⟩

end

end JooEvents
