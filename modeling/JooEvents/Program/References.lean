import Mathlib.Data.List.Chain
import JooEvents.Lib.Fallible
import JooEvents.Program.Model

/-!
# References to program items

Other packages point at program items. Each contributor of a registry reports its
references in one snapshot, current ones and historical pins, under a guard with a
version and a digest. `capture` reads all contributors of a registry and yields a
`CompleteProgramReferenceSnapshot`, or refuses.

The package only takes complete snapshots it issued itself, so what `capture`
establishes is part of the type : contributors in the order of their identities,
with distinct guards, and the references of each in the order of their keys, which
are distinct.

A source answers with a value of the shape of a snapshot, with nothing, or fails;
a value its schema refuses counts as a failure.
-/

namespace JooEvents

open Fallible

variable {D : Type}

/-- `canonicalBoundedText(300)` : trimmed text of 1 to 300 code units. -/
abbrev BoundedText :=
  {s : String // 1 ≤ textLength s ∧ textLength s ≤ 300 ∧ trimText s = s}

/-- The class `[a-z0-9]`. -/
def isLowerAlnum (c : Char) : Bool :=
  isDigitChar c || decide (97 ≤ c.val.toNat ∧ c.val.toNat ≤ 122)

/-- What may follow in a stable key, after a separator or not. -/
def stableKeyTail : Bool → List Char → Bool
  | afterSeparator, [] => !afterSeparator
  | afterSeparator, c :: s =>
    if isLowerAlnum c then stableKeyTail false s
    else !afterSeparator && isOneOf ['.', '_', '-'] c && stableKeyTail true s

/-- The pattern `^[a-z][a-z0-9]*(?:[._-][a-z0-9]+)*$`. -/
def isStableKey (s : String) : Bool :=
  match s.toList with
  | [] => false
  | c :: s => isLowerAlnum c && !isDigitChar c && stableKeyTail false s

abbrev StableKey := {s : String // isStableKey s = true}

/-- The characters of a guard identity after its prefix, `[A-Za-z0-9._~:-]`. -/
def isGuardChar (c : Char) : Bool :=
  isLowerAlnum c || decide (65 ≤ c.val.toNat ∧ c.val.toNat ≤ 90) ||
    isOneOf ['.', '_', '~', ':', '-'] c

/-- The identity of a reference guard, `^program_reference:[A-Za-z0-9._~:-]+$`. -/
abbrev ReferenceGuardId :=
  {s : String // ∃ t : List Char, t ≠ [] ∧ t.all isGuardChar = true ∧
    s.toList = "program_reference:".toList ++ t}

/-- A contributor and its contract version. -/
@[ext] structure ProgramReferenceContributorRef where
  key : StableKey
  version : Version
  deriving DecidableEq

/-- `${key}@${version}`. -/
def ProgramReferenceContributorRef.identity (contributor : ProgramReferenceContributorRef) :
    String :=
  contributor.key.val ++ "@" ++ String.ofList (Nat.toDigits 10 contributor.version.val)

/-- A program item by kind and identity. -/
@[ext] structure ProgramItemRef where
  kind : ProgramVocabularyKind
  id : ApplicationId
  deriving DecidableEq

def PlannedProgramVocabularyItem.ref (item : PlannedProgramVocabularyItem) : ProgramItemRef :=
  ⟨item.kind, item.id⟩

/-- Where a reference is shown. -/
structure SafeProgramReferenceDestination where
  kind : StableKey
  id : BoundedText
  deriving DecidableEq

/-- A live reference, or a pin of the past. -/
inductive ProgramReferenceMode where
  | current | historical
  deriving DecidableEq

/-- One reference. -/
structure ProgramReferenceRecord where
  referenceKey : BoundedText
  version : Version
  item : ProgramItemRef
  mode : ProgramReferenceMode
  destination : SafeProgramReferenceDestination
  deriving DecidableEq

/-- The guard of the references of a contributor. -/
structure ProgramReferenceGuard (D : Type) where
  id : ReferenceGuardId
  version : Version
  digest : D
  deriving DecidableEq

/-- What a contributor reports. -/
structure ProgramReferenceContributorSnapshot (D : Type) where
  contributor : ProgramReferenceContributorRef
  scope : ProgramVocabularyScope
  guard : ProgramReferenceGuard D
  references : List ProgramReferenceRecord
  deriving DecidableEq

/-- The refusals of the reference package. -/
inductive ProgramReferenceSnapshotErrorCode where
  | missing_contributor | invalid_snapshot | wrong_contributor | wrong_scope
  | duplicate_reference | duplicate_guard | unknown_item | invalid_registry
  deriving DecidableEq

/-! ## Encodings -/

theorem isAsciiChar_of_isLowerAlnum {c : Char} (h : isLowerAlnum c = true) :
    isAsciiChar c = true := by
  simp only [isLowerAlnum, isDigitChar, isAsciiChar, Bool.or_eq_true, decide_eq_true_eq] at h ⊢
  omega

theorem isAscii_stableKeyTail :
    ∀ {afterSeparator : Bool} {s : List Char}, stableKeyTail afterSeparator s = true →
      s.all isAsciiChar = true
  | _, [], _ => rfl
  | afterSeparator, c :: s, h => by
    rw [stableKeyTail] at h
    rw [List.all_cons, Bool.and_eq_true]
    split at h
    · rename_i hc
      exact ⟨isAsciiChar_of_isLowerAlnum hc, isAscii_stableKeyTail h⟩
    · rw [Bool.and_eq_true, Bool.and_eq_true] at h
      exact ⟨isAsciiChar_of_isOneOf (by decide) h.1.2, isAscii_stableKeyTail h.2⟩

theorem StableKey.ascii (key : StableKey) : isAscii key.val = true := by
  obtain ⟨s, hs⟩ := key
  unfold isStableKey at hs
  unfold isAscii
  split at hs
  · cases hs
  · rename_i c t heq
    rw [Bool.and_eq_true, Bool.and_eq_true] at hs
    rw [heq, List.all_cons, Bool.and_eq_true]
    exact ⟨isAsciiChar_of_isLowerAlnum hs.1.1, isAscii_stableKeyTail hs.2⟩

theorem ReferenceGuardId.ascii (id : ReferenceGuardId) : isAscii id.val = true := by
  obtain ⟨s, t, -, ht, hs⟩ := id
  rw [isAscii, hs, List.all_append, Bool.and_eq_true]
  refine ⟨by decide, List.all_eq_true.mpr fun c hc => ?_⟩
  have hc := List.all_eq_true.mp ht c hc
  rw [isGuardChar, Bool.or_eq_true, Bool.or_eq_true, decide_eq_true_eq] at hc
  rcases hc with (hc | hc) | hc
  · exact isAsciiChar_of_isLowerAlnum hc
  · exact decide_eq_true (by omega)
  · exact isAsciiChar_of_isOneOf (by decide) hc

instance : AsciiText StableKey := ⟨Subtype.val, StableKey.ascii, Subtype.val_injective⟩
instance : AsciiText ReferenceGuardId :=
  ⟨Subtype.val, ReferenceGuardId.ascii, Subtype.val_injective⟩

instance : ToJson D BoundedText := ⟨fun text => toJson text.val⟩

instance : ToJson D ProgramReferenceContributorRef :=
  ⟨fun contributor =>
    .obj [("key", toJson contributor.key), ("version", toJson contributor.version)]⟩

instance : ExactJson D ProgramReferenceContributorRef :=
  ⟨fun {host a b} h => by
    have h := Iff.mp Host.canonicalize_record_iff h
    simp only [List.map_cons, List.map_nil, List.cons.injEq, canonicalize_toJson_eq_iff,
      Host.same_iff_eq, and_true] at h
    exact ProgramReferenceContributorRef.ext h.1 h.2⟩

instance : ToJson D ProgramItemRef :=
  ⟨fun item => .obj [("kind", toJson item.kind), ("id", toJson item.id)]⟩

instance : ToJson D SafeProgramReferenceDestination :=
  ⟨fun destination => .obj [("kind", toJson destination.kind), ("id", toJson destination.id)]⟩

instance : AsciiText ProgramReferenceMode where
  text
    | .current => "current"
    | .historical => "historical"
  ascii mode := by cases mode <;> decide
  injective a b h := by
    cases a <;> cases b <;> first | rfl | exact absurd h (by decide)

instance : ToJson D ProgramReferenceRecord :=
  ⟨fun reference => .obj
    [("referenceKey", toJson reference.referenceKey), ("version", toJson reference.version),
      ("item", toJson reference.item), ("mode", toJson reference.mode),
      ("destination", toJson reference.destination)]⟩

instance : ToJson D (ProgramReferenceGuard D) :=
  ⟨fun guard => .obj [("id", toJson guard.id), ("version", toJson guard.version),
    ("digest", .digest guard.digest)]⟩

/-! ## Complete snapshots -/

def OrderedReferences (references : List ProgramReferenceRecord) : Prop :=
  references.Pairwise fun a b => textLt a.referenceKey.val b.referenceKey.val

/-- All references of an event at one moment, as the package issues them. -/
structure CompleteProgramReferenceSnapshot (D : Type) where
  registryDigestSha256 : D
  contributors : List (ProgramReferenceContributorSnapshot D)
  ordered : contributors.Pairwise fun a b =>
    textLt a.contributor.identity b.contributor.identity
  guards_nodup : (contributors.map fun c => c.guard.id).Nodup
  references_ordered : ∀ c ∈ contributors, OrderedReferences c.references
  deriving DecidableEq

/-- The contributors whose references make a snapshot complete. -/
structure ProgramReferenceContributorRegistry where
  contributors : List ProgramReferenceContributorRef
  ordered : contributors.Pairwise fun a b => textLt a.identity b.identity

def ProgramReferenceContributorRegistry.registryDigestSha256 (host : Host D)
    (registry : ProgramReferenceContributorRegistry) : D :=
  host.sha256 (Json.canonicalize host.nfc
    (.obj [("schemaVersion", toJson (1 : ℕ)), ("contributors", toJson registry.contributors)]))

abbrev ProgramReferenceSnapshotSource (D : Type) :=
  ProgramReferenceContributorRef → ProgramVocabularyScope →
    Except ProgramReferenceSnapshotErrorCode (Option (ProgramReferenceContributorSnapshot D))

def sortReferences (references : List ProgramReferenceRecord) : List ProgramReferenceRecord :=
  references.insertionSort fun a b => codeUnits a.referenceKey.val ≤ codeUnits b.referenceKey.val

theorem mem_sortReferences {references : List ProgramReferenceRecord}
    {reference : ProgramReferenceRecord} :
    reference ∈ sortReferences references ↔ reference ∈ references :=
  List.mem_insertionSort _

theorem ordered_sortReferences {references : List ProgramReferenceRecord}
    (h : (references.map ProgramReferenceRecord.referenceKey).Nodup) :
    OrderedReferences (sortReferences references) := by
  have hle := List.pairwise_insertionSort (fun a b : ProgramReferenceRecord =>
    codeUnits a.referenceKey.val ≤ codeUnits b.referenceKey.val) references
  have hnd : ((sortReferences references).map ProgramReferenceRecord.referenceKey).Nodup :=
    ((List.perm_insertionSort _ references).map _).nodup_iff.mpr h
  exact (hle.and (List.pairwise_map.mp hnd)).imp fun h =>
    lt_of_le_of_ne h.1 fun heq => h.2 (Subtype.ext (codeUnits_injective heq))

theorem nodup_keys_of_textLt {α : Type} {key : α → BoundedText} {as : List α}
    (h : as.Pairwise fun a b => textLt (key a).val (key b).val) : (as.map key).Nodup := by
  have hnodup := nodup_map_of_textLt h
  rw [show (fun a => (key a).val) = Subtype.val ∘ key from rfl, ← List.map_map] at hnodup
  exact hnodup.of_map

theorem OrderedReferences.nodup {references : List ProgramReferenceRecord}
    (h : OrderedReferences references) :
    (references.map ProgramReferenceRecord.referenceKey).Nodup :=
  nodup_keys_of_textLt h

def parseSnapshot (value : Option (ProgramReferenceContributorSnapshot D))
    (expected : ProgramReferenceContributorRef) (scope : ProgramVocabularyScope) :
    Except ProgramReferenceSnapshotErrorCode (ProgramReferenceContributorSnapshot D) := do
  let parsed ← orRefuse value .missing_contributor
  require (∀ reference ∈ parsed.references, textLength reference.destination.kind.val ≤ 160)
    .invalid_snapshot
  require (parsed.contributor = expected) .wrong_contributor
  require (parsed.scope = scope) .wrong_scope
  require (parsed.references.map ProgramReferenceRecord.referenceKey).Nodup .duplicate_reference
  return { parsed with references := sortReferences parsed.references }

theorem parseSnapshot_ok {value : Option (ProgramReferenceContributorSnapshot D)}
    {expected : ProgramReferenceContributorRef} {scope : ProgramVocabularyScope}
    {snapshot : ProgramReferenceContributorSnapshot D}
    (h : parseSnapshot value expected scope = .ok snapshot) :
    snapshot.contributor = expected ∧ snapshot.scope = scope ∧
      OrderedReferences snapshot.references ∧
      ∀ reference ∈ snapshot.references, textLength reference.destination.kind.val ≤ 160 := by
  simp only [parseSnapshot, bind_eq_ok, orRefuse_eq_ok, require_eq_ok, exists_const,
    pure_eq_ok] at h
  obtain ⟨parsed, -, hkinds, hcontributor, hscope, hnodup, rfl⟩ := h
  exact ⟨hcontributor, hscope, ordered_sortReferences hnodup,
    fun reference hr => hkinds reference (mem_sortReferences.mp hr)⟩

def readContributor (source : ProgramReferenceSnapshotSource D) (scope : ProgramVocabularyScope)
    (contributor : ProgramReferenceContributorRef) :
    Except ProgramReferenceSnapshotErrorCode (ProgramReferenceContributorSnapshot D) := do
  let value ← source contributor scope
  parseSnapshot value contributor scope

theorem map_contributor_of_readContributor {source : ProgramReferenceSnapshotSource D}
    {scope : ProgramVocabularyScope} {contributors : List ProgramReferenceContributorRef}
    {snapshots : List (ProgramReferenceContributorSnapshot D)}
    (h : contributors.mapM (readContributor source scope) = .ok snapshots) :
    snapshots.map ProgramReferenceContributorSnapshot.contributor = contributors ∧
      ∀ snapshot ∈ snapshots, snapshot.scope = scope ∧ OrderedReferences snapshot.references := by
  have hread := forall₂_of_mapM_eq_ok h
  clear h
  induction hread with
  | nil => exact ⟨rfl, by simp⟩
  | cons hread _ ih =>
    obtain ⟨value, -, hparse⟩ := bind_eq_ok.mp hread
    obtain ⟨hcontributor, hscope, hordered, -⟩ := parseSnapshot_ok hparse
    refine ⟨by rw [List.map_cons, hcontributor, ih.1], ?_⟩
    rintro snapshot (_ | ⟨_, hmem⟩)
    · exact ⟨hscope, hordered⟩
    · exact ih.2 snapshot hmem

def capture (host : Host D) (registry : ProgramReferenceContributorRegistry)
    (scope : ProgramVocabularyScope) (source : ProgramReferenceSnapshotSource D) :
    Except ProgramReferenceSnapshotErrorCode (CompleteProgramReferenceSnapshot D) :=
  match h : registry.contributors.mapM (readContributor source scope) with
  | .error e => .error e
  | .ok snapshots =>
    if hguards : (snapshots.map fun c => c.guard.id).Nodup then
      .ok
        { registryDigestSha256 := registry.registryDigestSha256 host
          contributors := snapshots
          ordered := by
            have hordered := registry.ordered
            rw [← (map_contributor_of_readContributor h).1] at hordered
            simpa only [List.pairwise_map] using hordered
          guards_nodup := hguards
          references_ordered := fun c hc =>
            ((map_contributor_of_readContributor h).2 c hc).2 }
    else .error .duplicate_guard

theorem capture_ok {host : Host D} {registry : ProgramReferenceContributorRegistry}
    {scope : ProgramVocabularyScope} {source : ProgramReferenceSnapshotSource D}
    {snapshot : CompleteProgramReferenceSnapshot D}
    (h : capture host registry scope source = .ok snapshot) :
    registry.contributors.mapM (readContributor source scope) = .ok snapshot.contributors ∧
      snapshot.registryDigestSha256 = registry.registryDigestSha256 host := by
  unfold capture at h
  split at h
  · cases h
  · rename_i snapshots hread
    split at h
    · obtain rfl := Except.ok.inj h
      exact ⟨hread, rfl⟩
    · cases h

/-- Every reference of a snapshot names an item of the vocabulary. -/
def validateProgramReferenceTargets {host : Host D} (state : ProgramVocabularyState host)
    (snapshot : CompleteProgramReferenceSnapshot D) :
    Except ProgramReferenceSnapshotErrorCode Unit :=
  snapshot.contributors.forM fun contributor => do
    require (state.scope = contributor.scope) .wrong_scope
    contributor.references.forM fun reference =>
      require ((resolveProgramVocabularyItem state reference.item.kind
        reference.item.id).isSome = true) .unknown_item

def programReferenceUsage (snapshot : CompleteProgramReferenceSnapshot D)
    (item : ProgramItemRef) (mode : ProgramReferenceMode) : ℕ :=
  (snapshot.contributors.map fun contributor =>
    contributor.references.countP fun reference =>
      reference.item = item ∧ reference.mode = mode).sum

end JooEvents
