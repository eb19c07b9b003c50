import JooEvents.Program.Model
import JooEvents.Reliability.Definitions

/-!
# Submission triage

A submission arrives once, and its head says where an organizer has put it. The digest of a
scope's entries is over the digests of the heads and the arrivals, so whoever changes a head
changes it (`headDigests_of_entriesDigest`).

Heads are over the states of a schema version : `SubmissionTriageState` is the current one,
`SubmissionTriageStateE20001` the one of the epoch-2 baseline.
-/

namespace JooEvents

/-- The states that a version of the schema gives a head. -/
class TriageStates (S : Type) extends AsciiText S where
  decEq : DecidableEq S
  isSetAside : S → Bool

instance {S : Type} [TriageStates S] : DecidableEq S := TriageStates.decEq

inductive SubmissionTriageState where
  | inbox
  | setAside
  | spam
  deriving DecidableEq

instance : TriageStates SubmissionTriageState where
  text
    | .inbox => "inbox"
    | .setAside => "set_aside"
    | .spam => "spam"
  ascii := AsciiText.ascii_of_values [.inbox, .setAside, .spam]
  injective := AsciiText.injective_of_values [.inbox, .setAside, .spam]
  decEq := inferInstance
  isSetAside state := decide (state = .setAside)

/-- The states of the epoch-2 baseline. -/
inductive SubmissionTriageStateE20001 where
  | inbox
  | setAside
  | discardedRecoverable
  deriving DecidableEq

instance : TriageStates SubmissionTriageStateE20001 where
  text
    | .inbox => "inbox"
    | .setAside => "set_aside"
    | .discardedRecoverable => "discarded_recoverable"
  ascii := AsciiText.ascii_of_values [.inbox, .setAside, .discardedRecoverable]
  injective := AsciiText.injective_of_values [.inbox, .setAside, .discardedRecoverable]
  decEq := inferInstance
  isSetAside state := decide (state = .setAside)

/-- `z.string().trim().min(1).max(512)`, trimmed. -/
abbrev BoundedEvidenceText :=
  {s : String // 1 ≤ textLength s ∧ textLength s ≤ 512 ∧ trimText s = s}

/-- The shape of a lowercase UUID of a version from 1 to 8. -/
def uuidShape : List (Char → Bool) :=
  List.replicate 8 isHexChar ++ [isOneOf ['-']] ++ List.replicate 4 isHexChar ++
    [isOneOf ['-']] ++ [isOneOf ['1', '2', '3', '4', '5', '6', '7', '8']] ++
    List.replicate 3 isHexChar ++ [isOneOf ['-']] ++ [isOneOf ['8', '9', 'a', 'b']] ++
    List.replicate 3 isHexChar ++ [isOneOf ['-']] ++ List.replicate 12 isHexChar

/-- `canonicalApplicationIdSchema` : a lowercase UUID, the nil one or the one of all ones. -/
def isCanonicalUuid (s : String) : Bool :=
  matchesShape uuidShape s.toList || decide (s = "00000000-0000-0000-0000-000000000000") ||
    decide (s = "ffffffff-ffff-ffff-ffff-ffffffffffff")

abbrev CanonicalUuid := {s : String // isCanonicalUuid s = true}

inductive TriageSurface where
  | operatorHttp
  | externalMcp

instance : AsciiText TriageSurface where
  text
    | .operatorHttp => "operator_http"
    | .externalMcp => "external_mcp"
  ascii := AsciiText.ascii_of_values [.operatorHttp, .externalMcp]
  injective := AsciiText.injective_of_values [.operatorHttp, .externalMcp]

/-- A policy and the digest of its definition. -/
structure PolicyDefinition (D : Type) where
  reference : DefinitionRef
  definitionDigestSha256 : D

/-- Between one and 32 evidence identities, in order. -/
abbrev InvocationEvidenceIds :=
  {ids : List BoundedEvidenceText // 1 ≤ ids.length ∧ ids.length ≤ 32 ∧
    ids.Pairwise fun a b => textLt a.val b.val}

/-- Who set a submission aside. -/
inductive SubmissionTriageAttribution (D : Type) where
  | manual (principalKey : BoundedEvidenceText) (invocationId : CanonicalUuid)
      (surface : TriageSurface)
  | registeredRun (runId : CanonicalUuid) (standingPolicy : PolicyDefinition D)
      (invocationEvidenceIds : InvocationEvidenceIds)

/-! ## Arrivals and heads -/

abbrev SubmissionTriageScope := ProgramVocabularyScope

inductive SubmissionSource where
  | publicForm
  | directEntry
  | imported
  | email
  deriving DecidableEq

instance : AsciiText SubmissionSource where
  text
    | .publicForm => "public_form"
    | .directEntry => "direct_entry"
    | .imported => "import"
    | .email => "email"
  ascii := AsciiText.ascii_of_values [.publicForm, .directEntry, .imported, .email]
  injective := AsciiText.injective_of_values [.publicForm, .directEntry, .imported, .email]

inductive SubmissionArrivalClassification where
  | onTime
  | late
  deriving DecidableEq

instance : AsciiText SubmissionArrivalClassification where
  text
    | .onTime => "on_time"
    | .late => "late"
  ascii := AsciiText.ascii_of_values [.onTime, .late]
  injective := AsciiText.injective_of_values [.onTime, .late]

structure SubmissionArrivalCloseEvidence (D : Type) where
  closeAt : Instant
  policy : PolicyDefinition D

/-- A late arrival has evidence of the close, and with it an arrival is late exactly when it
came through the public form after the close. -/
def ClassificationAgrees (source : SubmissionSource) (submittedAt : Instant)
    (classification : SubmissionArrivalClassification) (closeAt : Option Instant) : Prop :=
  match closeAt with
  | none => classification ≠ .late
  | some closeAt => (source = .publicForm ∧ closeAt < submittedAt) ↔ classification = .late

instance (source : SubmissionSource) (submittedAt : Instant)
    (classification : SubmissionArrivalClassification) (closeAt : Option Instant) :
    Decidable (ClassificationAgrees source submittedAt classification closeAt) := by
  unfold ClassificationAgrees
  cases closeAt <;> infer_instance

/-- Immutable evidence of how a submission arrived. -/
structure SubmissionArrivalFact (D : Type) where
  id : ApplicationId
  scope : SubmissionTriageScope
  submissionId : ApplicationId
  formId : ApplicationId
  formVersionId : ApplicationId
  source : SubmissionSource
  submittedAt : Instant
  classification : SubmissionArrivalClassification
  closeEvidence : Option (SubmissionArrivalCloseEvidence D)
  recordedAt : Instant
  agrees : ClassificationAgrees source submittedAt classification (closeEvidence.map (·.closeAt))

/-- A head as it is stored. -/
structure SubmissionTriageHeadValue (D S : Type) where
  scope : SubmissionTriageScope
  submissionId : ApplicationId
  version : Version
  state : S
  setAsideAttribution : Option (SubmissionTriageAttribution D)
  updatedAt : Instant

/-- Where a submission is, with the attribution exactly while it is set aside. -/
structure SubmissionTriageHead (D S : Type) [TriageStates S] extends
    SubmissionTriageHeadValue D S where
  coherent : TriageStates.isSetAside state = setAsideAttribution.isSome

/-- `submissionTriageHeadSchema.parse`. -/
def SubmissionTriageHeadValue.parse {D S : Type} [TriageStates S]
    (value : SubmissionTriageHeadValue D S) : Option (SubmissionTriageHead D S) :=
  if h : TriageStates.isSetAside value.state = value.setAsideAttribution.isSome then
    some { value with coherent := h }
  else none

@[simp] theorem SubmissionTriageHeadValue.parse_eq_some {D S : Type} [TriageStates S]
    {value : SubmissionTriageHeadValue D S} {head : SubmissionTriageHead D S} :
    value.parse = some head ↔ value = head.toSubmissionTriageHeadValue := by
  unfold SubmissionTriageHeadValue.parse
  split
  · constructor
    · rintro ⟨⟩
      rfl
    · rintro rfl
      rfl
  · rename_i h
    refine ⟨nofun, ?_⟩
    rintro rfl
    exact absurd head.coherent h

structure SubmissionTriageEntry (D S : Type) [TriageStates S] where
  arrival : SubmissionArrivalFact D
  head : SubmissionTriageHead D S

structure SubmissionTriageQueryGuard (D : Type) where
  scope : SubmissionTriageScope
  version : Version
  digestSha256 : D
  deriving DecidableEq

structure SubmissionTriageStateSnapshot (D S : Type) [TriageStates S] where
  scope : SubmissionTriageScope
  queryGuard : SubmissionTriageQueryGuard D
  entries : List (SubmissionTriageEntry D S)

inductive SubmissionTriageVisibleTray where
  | inbox
  | setAside
  | late
  | spam
  deriving DecidableEq

/-- The tray that shows a head with an arrival of the classification. -/
def submissionTriageVisibleTray (state : SubmissionTriageState)
    (classification : SubmissionArrivalClassification) : SubmissionTriageVisibleTray :=
  match state with
  | .spam => .spam
  | .setAside => .setAside
  | .inbox =>
    match classification with
    | .late => .late
    | .onTime => .inbox

variable {D S : Type} [TriageStates S]

instance : ToJson D (PolicyDefinition D) :=
  ⟨fun policy => .obj [("reference", toJson policy.reference),
    ("definitionDigestSha256", .digest policy.definitionDigestSha256)]⟩

instance : ToJson D (SubmissionTriageAttribution D) :=
  ⟨fun
    | .manual principalKey invocationId surface => .obj
        [("kind", .text "manual"), ("principalKey", .text principalKey.val),
          ("invocationId", .text invocationId.val), ("surface", toJson surface)]
    | .registeredRun runId standingPolicy invocationEvidenceIds => .obj
        [("kind", .text "registered_run"), ("runId", .text runId.val),
          ("standingPolicy", toJson standingPolicy),
          ("invocationEvidenceIds", .arr (invocationEvidenceIds.val.map fun id => .text id.val))]⟩

instance : ToJson D (SubmissionArrivalCloseEvidence D) :=
  ⟨fun evidence => .obj [("closeAt", toJson evidence.closeAt), ("policy", toJson evidence.policy)]⟩

instance : ToJson D (SubmissionArrivalFact D) :=
  ⟨fun fact => .obj
    [("schemaVersion", toJson (1 : ℕ)), ("id", toJson fact.id), ("scope", toJson fact.scope),
      ("submissionId", toJson fact.submissionId), ("formId", toJson fact.formId),
      ("formVersionId", toJson fact.formVersionId), ("source", toJson fact.source),
      ("submittedAt", toJson fact.submittedAt), ("classification", toJson fact.classification),
      ("closeEvidence", toJson fact.closeEvidence), ("recordedAt", toJson fact.recordedAt)]⟩

instance {T : Type} [AsciiText T] : ToJson D (SubmissionTriageHeadValue D T) :=
  ⟨fun head => .obj
    [("schemaVersion", toJson (1 : ℕ)), ("scope", toJson head.scope),
      ("submissionId", toJson head.submissionId), ("version", toJson head.version),
      ("state", toJson head.state), ("setAsideAttribution", toJson head.setAsideAttribution),
      ("updatedAt", toJson head.updatedAt)]⟩

instance : ToJson D (SubmissionTriageHead D S) := ⟨fun head => toJson head.toSubmissionTriageHeadValue⟩

theorem SubmissionTriageHead.text_state_of_same {T : Type} [TriageStates T] {host : Host D}
    {a : SubmissionTriageHead D S} {b : SubmissionTriageHead D T}
    (h : host.canonical a = host.canonical b) :
    AsciiText.text a.state = AsciiText.text b.state := by
  have hstate := Option.some.inj (Host.lookup_canonicalize h "state")
  simpa [toJson, host.nfc_ascii _ (AsciiText.ascii a.state),
    host.nfc_ascii _ (AsciiText.ascii b.state)] using hstate

section

variable (host : Host D)

def submissionTriageArrivalDigest (arrival : SubmissionArrivalFact D) : D := host.digest arrival

def submissionTriageHeadDigest (head : SubmissionTriageHead D S) : D := host.digest head

def queryEntryJson (entry : SubmissionTriageEntry D S) : Json D :=
  .obj [("submissionId", toJson entry.head.submissionId), ("headVersion", toJson entry.head.version),
    ("headDigestSha256", .digest (submissionTriageHeadDigest host entry.head)),
    ("arrivalDigestSha256", .digest (submissionTriageArrivalDigest host entry.arrival))]

/-- The digest of entries in their canonical order. -/
def entriesDigest (scope : SubmissionTriageScope) (entries : List (SubmissionTriageEntry D S)) : D :=
  host.sha256 ((Json.obj [("schemaVersion", toJson (1 : ℕ)), ("scope", toJson scope),
    ("entries", .arr (entries.map (queryEntryJson host)))]).canonicalize host.nfc)

end

theorem headDigests_of_entriesDigest {T : Type} [TriageStates T] {host : Host D}
    (hcf : host.CollisionFree) {scope : SubmissionTriageScope}
    {as : List (SubmissionTriageEntry D S)} {bs : List (SubmissionTriageEntry D T)}
    (h : entriesDigest host scope as = entriesDigest host scope bs) :
    as.map (fun entry => submissionTriageHeadDigest host entry.head) =
      bs.map fun entry => submissionTriageHeadDigest host entry.head := by
  have hentries := Option.some.inj (Host.lookup_canonicalize (hcf h) "entries")
  simp only [Json.canonicalize_arr, Json.arr.injEq, List.map_map] at hentries
  rw [← List.forall₂_eq_eq_eq, List.forall₂_map_left_iff, List.forall₂_map_right_iff] at hentries
  rw [← List.forall₂_eq_eq_eq, List.forall₂_map_left_iff, List.forall₂_map_right_iff]
  refine hentries.imp fun a b hab => ?_
  simpa using Option.some.inj (Host.lookup_canonicalize hab "headDigestSha256")

end JooEvents
