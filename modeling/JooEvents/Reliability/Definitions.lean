import JooEvents.Kernel.Canonical

/-!
# Reliability definitions

The registered definitions that deliveries and jobs are made from, as far as they are
used : their exact keys and versions, the sources a consumer accepts, and the bounds on
attempts and leases. Definitions are registered with bounds that are positive integers, so
they are numbers here.
-/

namespace JooEvents

/-- The class `[A-Za-z0-9_-]`. -/
def isOpaqueChar (c : Char) : Bool :=
  isLowerChar c || isDigitChar c || decide (65 ≤ c.val.toNat ∧ c.val.toNat ≤ 90) ||
    isOneOf ['_', '-'] c

/-- `DEFINITION_KEY`, of at most 160 characters. -/
def isDefinitionKey (s : String) : Bool :=
  isDottedIdentifier s && decide (s.toList.length ≤ 160)

abbrev DefinitionKey := {s : String // isDefinitionKey s = true}

/-- `s` is `lead` and from 8 to `limit` characters of `[A-Za-z0-9_-]`. -/
def isOpaqueKey (lead : String) (limit : ℕ) (s : String) : Bool :=
  decide (s.toList.take lead.length = lead.toList) &&
    (s.toList.drop lead.length).all isOpaqueChar &&
    decide (8 ≤ s.toList.length - lead.length ∧ s.toList.length - lead.length ≤ limit)

/-- An opaque `ptr1_` identity. -/
abbrev OutboxPointerKey := {s : String // isOpaqueKey "ptr1_" 160 s = true}

/-- An opaque `src1_` identity. -/
abbrev OpaqueSourceIdentity := {s : String // isOpaqueKey "src1_" 200 s = true}

theorem isAsciiChar_of_isOpaqueChar {c : Char} (h : isOpaqueChar c = true) :
    isAsciiChar c = true := by
  simp only [isOpaqueChar, Bool.or_eq_true, decide_eq_true_eq] at h
  rcases h with ((h | h) | h) | h
  · exact isAsciiChar_of_isLowerChar h
  · exact isAsciiChar_of_isDigitChar h
  · simp only [isAsciiChar, decide_eq_true_eq]
    omega
  · exact isAsciiChar_of_isOneOf (by decide) h

theorem DefinitionKey.ascii (key : DefinitionKey) : isAscii key.val = true :=
  ascii_of_isDottedIdentifier (Bool.and_eq_true_iff.mp key.property).1

theorem ascii_of_isOpaqueKey {lead s : String} {limit : ℕ} (hlead : isAscii lead = true)
    (h : isOpaqueKey lead limit s = true) : isAscii s = true := by
  simp only [isOpaqueKey, Bool.and_eq_true, decide_eq_true_eq] at h
  rw [isAscii, ← List.take_append_drop lead.length s.toList, List.all_append, h.1.1,
    Bool.and_eq_true]
  exact ⟨hlead, List.all_eq_true.mpr fun c hc =>
    isAsciiChar_of_isOpaqueChar (List.all_eq_true.mp h.1.2 c hc)⟩

instance : AsciiText DefinitionKey := ⟨Subtype.val, DefinitionKey.ascii, Subtype.val_injective⟩

instance : AsciiText OutboxPointerKey :=
  ⟨Subtype.val, fun key => ascii_of_isOpaqueKey (by decide) key.property, Subtype.val_injective⟩

instance : AsciiText OpaqueSourceIdentity :=
  ⟨Subtype.val, fun key => ascii_of_isOpaqueKey (by decide) key.property, Subtype.val_injective⟩

/-- An exact definition of a kind that is known from its place. -/
@[ext] structure DefinitionRef where
  key : DefinitionKey
  version : Version
  deriving DecidableEq

instance {D : Type} : ToJson D DefinitionRef :=
  ⟨fun reference => .obj [("key", toJson reference.key), ("version", toJson reference.version)]⟩

/-- What a consumer can consume. -/
inductive ConsumerSourceKind where
  | domain_fact
  | effect
  | job
  deriving DecidableEq

/-- What a job can be requested by. -/
inductive JobSourceKind where
  | domain_fact
  | effect
  | job
  | inbox_receipt

/-- `ConsumerSourceRef`. -/
@[ext] structure ConsumerSourceRef where
  kind : ConsumerSourceKind
  key : DefinitionKey
  version : Version
  deriving DecidableEq

structure JobSourceRef where
  kind : JobSourceKind
  key : DefinitionKey
  version : Version

instance : AsciiText ConsumerSourceKind where
  text
    | .domain_fact => "domain_fact"
    | .effect => "effect"
    | .job => "job"
  ascii := AsciiText.ascii_of_values [.domain_fact, .effect, .job]
  injective := AsciiText.injective_of_values [.domain_fact, .effect, .job]

/-- A consumer definition, less the references that fanout does not read. -/
structure ConsumerDefinition where
  key : DefinitionKey
  version : Version
  canonicalDigestSha256 : CanonicalSha256
  acceptedSources : List ConsumerSourceRef
  inputProjection : DefinitionRef
  targetOperation : DefinitionRef
  capabilityRevisionId : ApplicationId
  authorityCitation : DefinitionRef
  maximumAttempts : ℕ
  leaseDurationMs : ℕ

/-- `EXTERNAL_RETRY_POLICIES`. -/
inductive ExternalRetryPolicy where
  | forbidden
  | anchor_inspection_only

/-- A job definition, less the references that `createJob` does not read. -/
structure JobDefinition where
  key : DefinitionKey
  version : Version
  canonicalDigestSha256 : CanonicalSha256
  inputProjection : DefinitionRef
  targetOperation : DefinitionRef
  capabilityRevisionId : ApplicationId
  authorityCitation : DefinitionRef
  leaseDurationMs : ℕ
  maximumAttempts : ℕ
  timeoutMs : ℕ
  externalRetryPolicy : ExternalRetryPolicy

end JooEvents
