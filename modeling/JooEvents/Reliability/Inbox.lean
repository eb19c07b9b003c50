import JooEvents.Reliability.WorkState

/-!
# The verified inbox

`reduceVerifiedInbox` takes a verified message into the inbox. The first message of a semantic
identity is adopted, with a pointer for its processing. A later one is known by any of its keyed
content bindings : it is ignored when it has the content of the receipt or of a conflict, and
quarantined as a new conflict otherwise, with an attention.

`VerifiedInboxReduction.Step` says what an accepted message does, in three cases, and
`VerifiedInboxState.Sound` is what every run keeps. The main results are `verified_inbox_run` and,
on the way to it, `reduceVerifiedInbox_again`.
-/

namespace JooEvents

open Fallible

variable {D : Type}

/-- `s` is `lead` and from `minimum` to `maximum` characters of `[A-Za-z0-9_-]`. -/
def isOpaqueValue (lead : String) (minimum maximum : ℕ) (s : String) : Bool :=
  isOpaqueKey lead maximum s && decide (minimum ≤ s.toList.length - lead.length)

/-- An opaque `si1_` semantic identity. -/
abbrev OpaqueInboxSemanticIdentity := {s : String // isOpaqueValue "si1_" 24 160 s = true}

theorem ascii_of_isOpaqueValue {lead s : String} {minimum maximum : ℕ}
    (hlead : isAscii lead = true) (h : isOpaqueValue lead minimum maximum s = true) :
    isAscii s = true :=
  ascii_of_isOpaqueKey hlead (Bool.and_eq_true_iff.mp h).1

instance : AsciiText OpaqueInboxSemanticIdentity :=
  ⟨Subtype.val, fun identity => ascii_of_isOpaqueValue (by decide) identity.property,
    Subtype.val_injective⟩

/-- The profile of a content binding, with the kind that its reference names. -/
structure ContentBindingProfile where
  kind : String
  key : DefinitionKey
  version : Version

structure OpaqueKeyedContentBinding where
  profile : ContentBindingProfile
  value : String

/-- `parseOpaqueKeyedBindingValue` takes the value of a binding. -/
def isKeyedBindingValue (value : String) : Bool := isOpaqueValue "kb1_" 32 128 value

/-- What the identity of a binding is the text of. -/
def bindingIdentityJson (binding : OpaqueKeyedContentBinding) : Json Empty :=
  .obj [("profile", .obj [("key", toJson binding.profile.key),
      ("version", toJson binding.profile.version)]),
    ("value", toJson binding.value)]

def bindingIdentity (host : Host D) (binding : OpaqueKeyedContentBinding) : String :=
  host.canonicalJsonText (bindingIdentityJson binding)

/-- The bindings of `freezeBindings` one by one, after those of the given identities. -/
def freezeAliases (host : Host D) : List String → List OpaqueKeyedContentBinding →
    Except ReliabilityError (List OpaqueKeyedContentBinding)
  | _, [] => return []
  | identities, binding :: bindings => do
    require (binding.profile.kind = "content_binding")
      (.type "content binding profile kind must be content_binding")
    require (isKeyedBindingValue binding.value = true)
      (.type "content binding must be an opaque kb1_ server-keyed value")
    require (bindingIdentity host binding ∉ identities)
      (.type "content bindings contain a duplicate alias")
    let frozen ← freezeAliases host (bindingIdentity host binding :: identities) bindings
    return binding :: frozen

def freezeBindings (host : Host D) (bindings : List OpaqueKeyedContentBinding) :
    Except ReliabilityError (List OpaqueKeyedContentBinding) := do
  require (bindings.length ≤ 8) (.type "at most eight retained content bindings are accepted")
  let frozen ← freezeAliases host [] bindings
  require (frozen ≠ []) (.type "at least one keyed content binding is required")
  return frozen

def bindingsIntersect (host : Host D) (left right : List OpaqueKeyedContentBinding) : Bool :=
  right.any fun binding => decide (bindingIdentity host binding ∈ left.map (bindingIdentity host))

/-! ## The inbox -/

/-- `PayloadRef`, as the inbox carries it: the record around the id. -/
structure InboxPayloadRef where
  id : ApplicationId

abbrev InboxSemanticKey := String

structure InboxReceipt where
  id : ApplicationId
  semanticKey : InboxSemanticKey
  sourceConnectionId : ApplicationId
  sourceConnectionRevisionId : ApplicationId
  semanticIdentity : OpaqueInboxSemanticIdentity
  verifierRevisionId : ApplicationId
  contentBindings : List OpaqueKeyedContentBinding
  adoptedPayloadRef : InboxPayloadRef
  receivedAt : Instant

structure InboxProcessingPointer where
  id : ApplicationId
  receiptId : ApplicationId
  createdAt : Instant

structure InboxConflict where
  id : ApplicationId
  receiptId : ApplicationId
  sourceConnectionRevisionId : ApplicationId
  verifierRevisionId : ApplicationId
  contentBindings : List OpaqueKeyedContentBinding
  quarantinedPayloadRef : InboxPayloadRef
  observedAt : Instant

structure InboxAttention where
  id : ApplicationId
  conflictId : ApplicationId
  createdAt : Instant

structure VerifiedInboxState where
  receipts : List InboxReceipt
  processingPointers : List InboxProcessingPointer
  conflicts : List InboxConflict
  attentions : List InboxAttention
  adoptedPayloadRefs : List InboxPayloadRef
  quarantinedPayloadRefs : List InboxPayloadRef

/-- `EMPTY_VERIFIED_INBOX_STATE`. -/
def emptyVerifiedInboxState : VerifiedInboxState :=
  { receipts := []
    processingPointers := []
    conflicts := []
    attentions := []
    adoptedPayloadRefs := []
    quarantinedPayloadRefs := [] }

/-- `VerifiedInboxIntake`. The time of an intake is an instant, which `parseInstant` leaves. -/
structure VerifiedInboxIntake where
  receiptId : ApplicationId
  processingPointerId : ApplicationId
  conflictId : ApplicationId
  attentionId : ApplicationId
  sourceConnectionId : ApplicationId
  sourceConnectionRevisionId : ApplicationId
  semanticIdentity : OpaqueInboxSemanticIdentity
  verifierRevisionId : ApplicationId
  contentBindings : List OpaqueKeyedContentBinding
  preparedPayloadRef : InboxPayloadRef
  receivedAt : Instant

/-- The kinds of reductions. -/
inductive VerifiedInboxReductionKind where
  | new | same | changed

/-- What becomes of the payload. -/
inductive PayloadDisposition where
  | adopted | ignored | quarantined
  deriving DecidableEq

/-- What a reduction created. -/
structure VerifiedInboxCreated where
  receipt : Bool
  processingPointer : Bool
  conflict : Bool
  attention : Bool

structure VerifiedInboxReduction where
  kind : VerifiedInboxReductionKind
  state : VerifiedInboxState
  receipt : InboxReceipt
  conflict : Option InboxConflict
  created : VerifiedInboxCreated
  payloadDisposition : PayloadDisposition

/-! ## Reducing -/

def inboxSemanticKeyJson (sourceConnectionId : ApplicationId)
    (semanticIdentity : OpaqueInboxSemanticIdentity) : Json Empty :=
  .obj [("semanticIdentity", toJson semanticIdentity),
    ("sourceConnectionId", toJson sourceConnectionId)]

/-- `semanticKey`. -/
def inboxSemanticKey (host : Host D) (sourceConnectionId : ApplicationId)
    (semanticIdentity : OpaqueInboxSemanticIdentity) : InboxSemanticKey :=
  host.canonicalJsonText (inboxSemanticKeyJson sourceConnectionId semanticIdentity)

def assertUniqueProposedIds (state : VerifiedInboxState) (input : VerifiedInboxIntake) :
    Except ReliabilityError Unit := do
  require (input.receiptId ∉ state.receipts.map (·.id))
    (.transition .duplicate_identity "proposed inbox receipt ID already exists")
  require (input.processingPointerId ∉ state.processingPointers.map (·.id))
    (.transition .duplicate_identity "proposed processing pointer ID already exists")
  require (input.conflictId ∉ state.conflicts.map (·.id))
    (.transition .duplicate_identity "proposed inbox conflict ID already exists")
  require (input.attentionId ∉ state.attentions.map (·.id))
    (.transition .duplicate_identity "proposed inbox attention ID already exists")
  require (input.preparedPayloadRef.id ∉ state.adoptedPayloadRefs.map (·.id) ∧
      input.preparedPayloadRef.id ∉ state.quarantinedPayloadRefs.map (·.id))
    (.transition .duplicate_identity "prepared payload reference was already consumed")

/-- `NOTHING_CREATED`. -/
def nothingCreated : VerifiedInboxCreated :=
  { receipt := false, processingPointer := false, conflict := false, attention := false }

def VerifiedInboxIntake.receipt (host : Host D) (input : VerifiedInboxIntake)
    (bindings : List OpaqueKeyedContentBinding) : InboxReceipt :=
  { id := input.receiptId
    semanticKey := inboxSemanticKey host input.sourceConnectionId input.semanticIdentity
    sourceConnectionId := input.sourceConnectionId
    sourceConnectionRevisionId := input.sourceConnectionRevisionId
    semanticIdentity := input.semanticIdentity
    verifierRevisionId := input.verifierRevisionId
    contentBindings := bindings
    adoptedPayloadRef := input.preparedPayloadRef
    receivedAt := input.receivedAt }

def VerifiedInboxIntake.conflict (input : VerifiedInboxIntake) (receipt : InboxReceipt)
    (bindings : List OpaqueKeyedContentBinding) : InboxConflict :=
  { id := input.conflictId
    receiptId := receipt.id
    sourceConnectionRevisionId := input.sourceConnectionRevisionId
    verifierRevisionId := input.verifierRevisionId
    contentBindings := bindings
    quarantinedPayloadRef := input.preparedPayloadRef
    observedAt := input.receivedAt }

def VerifiedInboxState.adopt (host : Host D) (state : VerifiedInboxState)
    (input : VerifiedInboxIntake) (bindings : List OpaqueKeyedContentBinding) :
    VerifiedInboxState :=
  { state with
    receipts := state.receipts ++ [input.receipt host bindings]
    processingPointers := state.processingPointers ++
      [{ id := input.processingPointerId
         receiptId := input.receiptId
         createdAt := input.receivedAt }]
    adoptedPayloadRefs := state.adoptedPayloadRefs ++ [input.preparedPayloadRef] }

def VerifiedInboxState.quarantine (state : VerifiedInboxState) (input : VerifiedInboxIntake)
    (receipt : InboxReceipt) (bindings : List OpaqueKeyedContentBinding) : VerifiedInboxState :=
  { state with
    conflicts := state.conflicts ++ [input.conflict receipt bindings]
    attentions := state.attentions ++
      [{ id := input.attentionId
         conflictId := input.conflictId
         createdAt := input.receivedAt }]
    quarantinedPayloadRefs := state.quarantinedPayloadRefs ++ [input.preparedPayloadRef] }

/-- The conflicts of a receipt that have one of the bindings. -/
def matchingConflicts (host : Host D) (state : VerifiedInboxState) (receipt : InboxReceipt)
    (bindings : List OpaqueKeyedContentBinding) : List InboxConflict :=
  state.conflicts.filter fun conflict =>
    conflict.receiptId = receipt.id && bindingsIntersect host conflict.contentBindings bindings

def reduceVerifiedInbox (host : Host D) (state : VerifiedInboxState) (input : VerifiedInboxIntake) :
    Except ReliabilityError VerifiedInboxReduction := do
  let bindings ← freezeBindings host input.contentBindings
  let key := inboxSemanticKey host input.sourceConnectionId input.semanticIdentity
  match state.receipts.find? fun candidate => candidate.semanticKey = key with
  | none => do
    assertUniqueProposedIds state input
    return {
      kind := .new
      state := state.adopt host input bindings
      receipt := input.receipt host bindings
      conflict := none
      created := { receipt := true, processingPointer := true, conflict := false, attention := false }
      payloadDisposition := .adopted }
  | some receipt => do
    let canonicalMatch := bindingsIntersect host receipt.contentBindings bindings
    let conflicts := matchingConflicts host state receipt bindings
    require (¬ (canonicalMatch = true ∧ 0 < conflicts.length ∨ 1 < conflicts.length))
      (.transition .binding_collision
        "retained keyed bindings resolve to more than one inbox outcome")
    if canonicalMatch = true then
      return {
        kind := .same
        state
        receipt
        conflict := none
        created := nothingCreated
        payloadDisposition := .ignored }
    else match conflicts.head? with
    | some conflict =>
      return {
        kind := .changed
        state
        receipt
        conflict := some conflict
        created := nothingCreated
        payloadDisposition := .ignored }
    | none => do
      assertUniqueProposedIds state input
      return {
        kind := .changed
        state := state.quarantine input receipt bindings
        receipt
        conflict := some (input.conflict receipt bindings)
        created :=
          { receipt := false, processingPointer := false, conflict := true, attention := true }
        payloadDisposition := .quarantined }

/-- The inbox after an intake, which leaves it when it is refused. -/
def VerifiedInboxState.take (host : Host D) (state : VerifiedInboxState)
    (input : VerifiedInboxIntake) : VerifiedInboxState :=
  match reduceVerifiedInbox host state input with
  | .ok reduction => reduction.state
  | .error _ => state

theorem take_of_reduce {host : Host D} {state : VerifiedInboxState} {input : VerifiedInboxIntake}
    {reduction : VerifiedInboxReduction}
    (h : reduceVerifiedInbox host state input = .ok reduction) :
    state.take host input = reduction.state := by
  rw [VerifiedInboxState.take, h]

def verifiedInboxRun (host : Host D) (intakes : List VerifiedInboxIntake) : VerifiedInboxState :=
  intakes.foldl (VerifiedInboxState.take host) emptyVerifiedInboxState

variable {host : Host D}

theorem integral_toJson_contractVersion (version : Version) :
    Json.Integral (toJson version : Json Empty) :=
  Rat.den_natCast version.val

theorem bindingIdentity_inj {a b : OpaqueKeyedContentBinding}
    (ha : isKeyedBindingValue a.value = true) (hb : isKeyedBindingValue b.value = true) :
    bindingIdentity host a = bindingIdentity host b ↔
      a.profile.key = b.profile.key ∧ a.profile.version = b.profile.version ∧ a.value = b.value := by
  have hintegral : ∀ binding, Json.Integral (bindingIdentityJson binding) := fun binding => by
    simp only [bindingIdentityJson, Json.Integral, Json.IntegralMembers, and_true]
    exact ⟨⟨trivial, integral_toJson_contractVersion _⟩, trivial⟩
  have hvalue : ∀ {value : String}, isKeyedBindingValue value = true → host.nfc value = value :=
    fun h => host.nfc_ascii _ (ascii_of_isOpaqueValue (by decide) h)
  have hversion : ∀ {v w : Version}, (toJson v : Json Empty).canonicalize host.nfc =
      (toJson w : Json Empty).canonicalize host.nfc ↔ v = w := fun {v w} => by
    simp [toJson, Subtype.ext_iff]
  have htext : (toJson a.value : Json Empty).canonicalize host.nfc =
      (toJson b.value : Json Empty).canonicalize host.nfc ↔ a.value = b.value := by
    simp [toJson, hvalue ha, hvalue hb]
  rw [bindingIdentity, bindingIdentity, Host.canonicalJsonText, Host.canonicalJsonText,
    Json.canonicalText_eq_iff (hintegral a) (hintegral b), bindingIdentityJson,
    bindingIdentityJson, Host.canonicalize_record_iff]
  simp only [List.map_cons, List.map_nil, List.cons.injEq, and_true]
  rw [Host.canonicalize_record_iff]
  simp only [List.map_cons, List.map_nil, List.cons.injEq, and_true, hversion, htext,
    Host.canonicalize_asciiText_iff, and_assoc]

/-- Bindings that were frozen : at least one, and each is a keyed content binding. -/
structure FrozenBindings (bindings : List OpaqueKeyedContentBinding) : Prop where
  ne_nil : bindings ≠ []
  kind : ∀ binding ∈ bindings, binding.profile.kind = "content_binding"
  value : ∀ binding ∈ bindings, isKeyedBindingValue binding.value = true

theorem freezeAliases_eq_ok : ∀ {identities : List String}
    {bindings frozen : List OpaqueKeyedContentBinding},
    freezeAliases host identities bindings = .ok frozen → frozen = bindings ∧
      ∀ binding ∈ bindings, binding.profile.kind = "content_binding" ∧
        isKeyedBindingValue binding.value = true
  | _, [], frozen, h => ⟨(pure_eq_ok.mp h).symm, by simp⟩
  | identities, binding :: bindings, frozen, h => by
    simp only [freezeAliases, bind_eq_ok, require_eq_ok, pure_eq_ok, exists_const] at h
    obtain ⟨hkind, hvalue, -, rest, hrest, rfl⟩ := h
    obtain ⟨rfl, hall⟩ := freezeAliases_eq_ok hrest
    exact ⟨rfl, List.forall_mem_cons.mpr ⟨⟨hkind, hvalue⟩, hall⟩⟩

theorem freezeBindings_eq_ok {bindings frozen : List OpaqueKeyedContentBinding}
    (h : freezeBindings host bindings = .ok frozen) : frozen = bindings ∧ FrozenBindings bindings := by
  simp only [freezeBindings, bind_eq_ok, require_eq_ok, pure_eq_ok, exists_const] at h
  obtain ⟨-, rest, hrest, hne, rfl⟩ := h
  obtain ⟨rfl, hall⟩ := freezeAliases_eq_ok hrest
  exact ⟨rfl, hne, fun binding hmem => (hall binding hmem).1, fun binding hmem => (hall binding hmem).2⟩

theorem FrozenBindings.intersect_iff {left right : List OpaqueKeyedContentBinding}
    (hleft : FrozenBindings left) (hright : FrozenBindings right) :
    bindingsIntersect host left right = true ↔ ∃ binding ∈ left, binding ∈ right := by
  simp only [bindingsIntersect, List.any_eq_true, decide_eq_true_eq, List.mem_map]
  constructor
  · rintro ⟨binding, hmem, other, hother, heq⟩
    obtain ⟨hkey, hversion, hvalue⟩ :=
      (bindingIdentity_inj (hleft.value other hother) (hright.value binding hmem)).mp heq
    have hkind := (hleft.kind other hother).trans (hright.kind binding hmem).symm
    have hsame : other = binding := by
      obtain ⟨⟨_, _, _⟩, _⟩ := other
      obtain ⟨⟨_, _, _⟩, _⟩ := binding
      simp only [OpaqueKeyedContentBinding.mk.injEq, ContentBindingProfile.mk.injEq]
      exact ⟨⟨hkind, hkey, hversion⟩, hvalue⟩
    exact ⟨other, hother, hsame ▸ hmem⟩
  · rintro ⟨binding, hmem, hmem'⟩
    exact ⟨binding, hmem', binding, hmem, rfl⟩

theorem FrozenBindings.disjoint_iff {left right : List OpaqueKeyedContentBinding}
    (hleft : FrozenBindings left) (hright : FrozenBindings right) :
    bindingsIntersect host left right = false ↔ left.Disjoint right := by
  rw [← Bool.not_eq_true, hleft.intersect_iff hright]
  exact ⟨fun h binding hmem hmem' => h ⟨binding, hmem, hmem'⟩,
    fun h ⟨binding, hmem, hmem'⟩ => h hmem hmem'⟩

theorem FrozenBindings.intersect_self {bindings : List OpaqueKeyedContentBinding}
    (h : FrozenBindings bindings) : bindingsIntersect host bindings bindings = true :=
  have ⟨binding, hmem⟩ := List.exists_mem_of_ne_nil bindings h.ne_nil
  (h.intersect_iff h).mpr ⟨binding, hmem, hmem⟩

/-! ## Steps -/

/-- What `assertUniqueProposedIds` asks. -/
structure FreshIds (state : VerifiedInboxState) (input : VerifiedInboxIntake) : Prop where
  receipt : input.receiptId ∉ state.receipts.map (·.id)
  pointer : input.processingPointerId ∉ state.processingPointers.map (·.id)
  conflict : input.conflictId ∉ state.conflicts.map (·.id)
  attention : input.attentionId ∉ state.attentions.map (·.id)
  adopted : input.preparedPayloadRef.id ∉ state.adoptedPayloadRefs.map (·.id)
  quarantined : input.preparedPayloadRef.id ∉ state.quarantinedPayloadRefs.map (·.id)

theorem assertUniqueProposedIds_eq_ok {state : VerifiedInboxState} {input : VerifiedInboxIntake}
    {u : Unit} : assertUniqueProposedIds state input = .ok u ↔ FreshIds state input := by
  simp only [assertUniqueProposedIds, bind_eq_ok, require_eq_ok, exists_const]
  constructor
  · rintro ⟨hreceipt, hpointer, hconflict, hattention, hadopted, hquarantined⟩
    exact ⟨hreceipt, hpointer, hconflict, hattention, hadopted, hquarantined⟩
  · intro h
    exact ⟨h.receipt, h.pointer, h.conflict, h.attention, h.adopted, h.quarantined⟩

/-- What an accepted intake does to the inbox, by what becomes of its payload. -/
inductive InboxStep (host : Host D) (state : VerifiedInboxState) (input : VerifiedInboxIntake) :
    PayloadDisposition → VerifiedInboxState → Prop where
  | adopted (hbindings : FrozenBindings input.contentBindings)
      (hnew : ∀ receipt ∈ state.receipts, receipt.semanticKey ≠
        inboxSemanticKey host input.sourceConnectionId input.semanticIdentity)
      (hfresh : FreshIds state input) :
      InboxStep host state input .adopted (state.adopt host input input.contentBindings)
  | ignored {receipt : InboxReceipt} (hbindings : FrozenBindings input.contentBindings)
      (hreceipt : (state.receipts.find? fun candidate => candidate.semanticKey =
        inboxSemanticKey host input.sourceConnectionId input.semanticIdentity) = some receipt)
      (hone : ¬ (bindingsIntersect host receipt.contentBindings input.contentBindings = true ∧
          0 < (matchingConflicts host state receipt input.contentBindings).length ∨
        1 < (matchingConflicts host state receipt input.contentBindings).length))
      (hknown : bindingsIntersect host receipt.contentBindings input.contentBindings = true ∨
        matchingConflicts host state receipt input.contentBindings ≠ []) :
      InboxStep host state input .ignored state
  | quarantined {receipt : InboxReceipt} (hbindings : FrozenBindings input.contentBindings)
      (hreceipt : (state.receipts.find? fun candidate => candidate.semanticKey =
        inboxSemanticKey host input.sourceConnectionId input.semanticIdentity) = some receipt)
      (hcanonical : bindingsIntersect host receipt.contentBindings input.contentBindings = false)
      (hconflicts : matchingConflicts host state receipt input.contentBindings = [])
      (hfresh : FreshIds state input) :
      InboxStep host state input .quarantined (state.quarantine input receipt input.contentBindings)

theorem step_of_reduce {state : VerifiedInboxState} {input : VerifiedInboxIntake}
    {reduction : VerifiedInboxReduction}
    (h : reduceVerifiedInbox host state input = .ok reduction) :
    InboxStep host state input reduction.payloadDisposition reduction.state := by
  simp only [reduceVerifiedInbox, bind_eq_ok] at h
  obtain ⟨bindings, hbindings, h⟩ := h
  obtain ⟨rfl, hfrozen⟩ := freezeBindings_eq_ok hbindings
  split at h
  · rename_i hnone
    simp only [bind_eq_ok, pure_eq_ok] at h
    obtain ⟨⟨⟩, hunique, rfl⟩ := h
    exact .adopted hfrozen (fun receipt hreceipt => by
      simpa using List.find?_eq_none.mp hnone receipt hreceipt)
      (assertUniqueProposedIds_eq_ok.mp hunique)
  · rename_i receipt hreceipt
    simp only [bind_eq_ok, require_eq_ok, exists_const] at h
    obtain ⟨hone, h⟩ := h
    split at h
    · rename_i hcanonical
      obtain rfl := pure_eq_ok.mp h
      exact .ignored hfrozen hreceipt hone (.inl hcanonical)
    · rename_i hcanonical
      split at h
      · rename_i conflict hconflict
        obtain rfl := pure_eq_ok.mp h
        refine .ignored hfrozen hreceipt hone (.inr fun hnil => ?_)
        rw [hnil] at hconflict
        cases hconflict
      · rename_i hconflict
        simp only [bind_eq_ok, pure_eq_ok] at h
        obtain ⟨⟨⟩, hunique, rfl⟩ := h
        exact .quarantined hfrozen hreceipt (Bool.not_eq_true _ ▸ hcanonical)
          (List.head?_eq_none_iff.mp hconflict) (assertUniqueProposedIds_eq_ok.mp hunique)

theorem reduce_known {state : VerifiedInboxState} {input : VerifiedInboxIntake}
    {receipt : InboxReceipt} {bindings : List OpaqueKeyedContentBinding}
    (hbindings : freezeBindings host input.contentBindings = .ok bindings)
    (hreceipt : (state.receipts.find? fun candidate => candidate.semanticKey =
      inboxSemanticKey host input.sourceConnectionId input.semanticIdentity) = some receipt)
    (hone : ¬ (bindingsIntersect host receipt.contentBindings bindings = true ∧
        0 < (matchingConflicts host state receipt bindings).length ∨
      1 < (matchingConflicts host state receipt bindings).length))
    (hknown : bindingsIntersect host receipt.contentBindings bindings = true ∨
      matchingConflicts host state receipt bindings ≠ []) :
    ∃ reduction, reduceVerifiedInbox host state input = .ok reduction ∧ reduction.state = state ∧
      reduction.payloadDisposition = .ignored := by
  simp only [reduceVerifiedInbox, hbindings, ok_bind, hreceipt, require_true hone]
  split
  · exact ⟨_, rfl, rfl, rfl⟩
  · rename_i hcanonical
    obtain ⟨conflict, rest, hconflicts⟩ := List.exists_cons_of_ne_nil
      (hknown.resolve_left hcanonical)
    rw [hconflicts]
    exact ⟨_, rfl, rfl, rfl⟩

/-! ## What every run keeps -/

/-- The contents of a receipt : its own, and those of its conflicts. -/
def VerifiedInboxState.contents (state : VerifiedInboxState) (receipt : InboxReceipt) :
    List (List OpaqueKeyedContentBinding) :=
  receipt.contentBindings ::
    (state.conflicts.filter fun conflict => conflict.receiptId = receipt.id).map (·.contentBindings)

/-- What holds of an inbox in every run. -/
structure VerifiedInboxState.Sound (host : Host D) (state : VerifiedInboxState) : Prop where
  keyed : ∀ receipt ∈ state.receipts, receipt.semanticKey =
    inboxSemanticKey host receipt.sourceConnectionId receipt.semanticIdentity
  keys : (state.receipts.map (·.semanticKey)).Nodup
  receiptIds : (state.receipts.map (·.id)).Nodup
  pointers : state.processingPointers.map (·.receiptId) = state.receipts.map (·.id)
  conflictIds : (state.conflicts.map (·.id)).Nodup
  attentions : state.attentions.map (·.conflictId) = state.conflicts.map (·.id)
  known : ∀ conflict ∈ state.conflicts, conflict.receiptId ∈ state.receipts.map (·.id)
  adopted : state.adoptedPayloadRefs = state.receipts.map (·.adoptedPayloadRef)
  quarantined : state.quarantinedPayloadRefs = state.conflicts.map (·.quarantinedPayloadRef)
  payloads : ((state.adoptedPayloadRefs ++ state.quarantinedPayloadRefs).map (·.id)).Nodup
  receiptBindings : ∀ receipt ∈ state.receipts, FrozenBindings receipt.contentBindings
  conflictBindings : ∀ conflict ∈ state.conflicts, FrozenBindings conflict.contentBindings
  contents : ∀ receipt ∈ state.receipts, (state.contents receipt).Pairwise List.Disjoint

namespace VerifiedInboxState.Sound

variable {state next : VerifiedInboxState} {input : VerifiedInboxIntake}

theorem empty (host : Host D) : emptyVerifiedInboxState.Sound host := by
  constructor <;> simp [emptyVerifiedInboxState]

theorem filter_conflicts_of_fresh (h : state.Sound host) (hfresh : FreshIds state input) :
    (state.conflicts.filter fun conflict => conflict.receiptId = input.receiptId) = [] :=
  List.filter_eq_nil_iff.mpr fun conflict hconflict => by
    rw [decide_eq_true_eq]
    exact fun heq => hfresh.receipt (heq ▸ h.known conflict hconflict)

theorem nodup_snoc {α : Type} {as : List α} {a : α} (has : as.Nodup) (ha : a ∉ as) :
    (as ++ [a]).Nodup :=
  List.nodup_append'.mpr ⟨has, List.nodup_singleton a, List.disjoint_singleton.mpr ha⟩

theorem adopt (h : state.Sound host) (hbindings : FrozenBindings input.contentBindings)
    (hnew : ∀ receipt ∈ state.receipts, receipt.semanticKey ≠
      inboxSemanticKey host input.sourceConnectionId input.semanticIdentity)
    (hfresh : FreshIds state input) :
    (state.adopt host input input.contentBindings).Sound host := by
  refine ⟨?_, ?_, ?_, ?_, h.conflictIds, h.attentions, ?_, ?_, h.quarantined, ?_, ?_,
    h.conflictBindings, ?_⟩
  · exact List.forall_mem_append.mpr ⟨h.keyed, List.forall_mem_singleton.mpr rfl⟩
  · rw [VerifiedInboxState.adopt, List.map_append]
    refine nodup_snoc h.keys fun hmem => ?_
    obtain ⟨receipt, hreceipt, heq⟩ := List.mem_map.mp hmem
    exact hnew receipt hreceipt heq
  · rw [VerifiedInboxState.adopt, List.map_append]
    exact nodup_snoc h.receiptIds hfresh.receipt
  · rw [VerifiedInboxState.adopt, List.map_append, List.map_append, h.pointers]
    rfl
  · intro conflict hconflict
    rw [VerifiedInboxState.adopt, List.map_append]
    exact List.mem_append_left _ (h.known conflict hconflict)
  · rw [VerifiedInboxState.adopt, List.map_append, h.adopted]
    rfl
  · have hpayloads := h.payloads
    rw [List.map_append] at hpayloads
    rw [VerifiedInboxState.adopt, List.append_assoc, List.map_append, List.map_append,
      List.map_singleton, List.singleton_append, List.nodup_middle, List.nodup_cons,
      List.mem_append]
    exact ⟨fun hmem => hmem.elim hfresh.adopted hfresh.quarantined, hpayloads⟩
  · exact List.forall_mem_append.mpr ⟨h.receiptBindings, List.forall_mem_singleton.mpr hbindings⟩
  · refine List.forall_mem_append.mpr ⟨h.contents, List.forall_mem_singleton.mpr ?_⟩
    have hnone := h.filter_conflicts_of_fresh hfresh
    change (input.contentBindings :: (state.conflicts.filter fun conflict =>
      conflict.receiptId = input.receiptId).map (·.contentBindings)).Pairwise List.Disjoint
    rw [hnone]
    exact List.pairwise_singleton _ _

theorem quarantine (h : state.Sound host) {receipt : InboxReceipt}
    (hbindings : FrozenBindings input.contentBindings) (hreceipt : receipt ∈ state.receipts)
    (hcanonical : bindingsIntersect host receipt.contentBindings input.contentBindings = false)
    (hconflicts : matchingConflicts host state receipt input.contentBindings = [])
    (hfresh : FreshIds state input) :
    (state.quarantine input receipt input.contentBindings).Sound host := by
  refine ⟨h.keyed, h.keys, h.receiptIds, h.pointers, ?_, ?_, ?_, h.adopted, ?_, ?_,
    h.receiptBindings, ?_, ?_⟩
  · rw [VerifiedInboxState.quarantine, List.map_append]
    exact nodup_snoc h.conflictIds hfresh.conflict
  · rw [VerifiedInboxState.quarantine, List.map_append, List.map_append, h.attentions]
    rfl
  · exact List.forall_mem_append.mpr
      ⟨h.known, List.forall_mem_singleton.mpr (List.mem_map_of_mem hreceipt)⟩
  · rw [VerifiedInboxState.quarantine, List.map_append, h.quarantined]
    rfl
  · rw [VerifiedInboxState.quarantine, ← List.append_assoc, List.map_append]
    refine nodup_snoc h.payloads fun hmem => ?_
    rw [List.map_append, List.mem_append] at hmem
    exact hmem.elim hfresh.adopted hfresh.quarantined
  · exact List.forall_mem_append.mpr ⟨h.conflictBindings, List.forall_mem_singleton.mpr hbindings⟩
  · intro other hother
    rw [VerifiedInboxState.contents, VerifiedInboxState.quarantine, List.filter_append,
      List.map_append, ← List.cons_append]
    refine List.pairwise_append.mpr ⟨h.contents other hother, ?_, fun content hcontent new hnew => ?_⟩
    · exact (List.pairwise_singleton List.Disjoint input.contentBindings).sublist
        (List.filter_sublist.map InboxConflict.contentBindings)
    · obtain ⟨conflict, hconflict, rfl⟩ := List.mem_map.mp hnew
      obtain ⟨hmem, hid⟩ := List.mem_filter.mp hconflict
      obtain rfl := List.mem_singleton.mp hmem
      -- the new conflict is of this receipt, and shares no binding with its contents
      have hsame : receipt = other :=
        List.inj_on_of_nodup_map h.receiptIds hreceipt hother (of_decide_eq_true hid)
      subst hsame
      rcases List.mem_cons.mp hcontent with rfl | hcontent
      · exact ((h.receiptBindings _ hreceipt).disjoint_iff hbindings).mp hcanonical
      · obtain ⟨earlier, hearlier, rfl⟩ := List.mem_map.mp hcontent
        obtain ⟨hmem, hid⟩ := List.mem_filter.mp hearlier
        have hno := List.filter_eq_nil_iff.mp hconflicts earlier hmem
        rw [hid, Bool.true_and, Bool.not_eq_true] at hno
        exact ((h.conflictBindings earlier hmem).disjoint_iff hbindings).mp hno

theorem step {disposition : PayloadDisposition} (h : state.Sound host)
    (hstep : InboxStep host state input disposition next) : next.Sound host := by
  cases hstep with
  | adopted hbindings hnew hfresh => exact h.adopt hbindings hnew hfresh
  | ignored => exact h
  | quarantined hbindings hreceipt hcanonical hconflicts hfresh =>
    exact h.quarantine hbindings (List.mem_of_find?_eq_some hreceipt) hcanonical hconflicts hfresh

end VerifiedInboxState.Sound

/-! ## Runs -/

variable {state : VerifiedInboxState} {input : VerifiedInboxIntake}

theorem VerifiedInboxState.Sound.take (h : state.Sound host) (input : VerifiedInboxIntake) :
    (state.take host input).Sound host := by
  unfold VerifiedInboxState.take
  split
  · rename_i reduction hreduction
    exact h.step (step_of_reduce hreduction)
  · exact h

theorem sound_foldl (intakes : List VerifiedInboxIntake) (h : state.Sound host) :
    (intakes.foldl (VerifiedInboxState.take host) state).Sound host := by
  induction intakes generalizing state with
  | nil => exact h
  | cons intake intakes ih => exact ih (h.take intake)

theorem sound_verifiedInboxRun (host : Host D) (intakes : List VerifiedInboxIntake) :
    (verifiedInboxRun host intakes).Sound host :=
  sound_foldl intakes (.empty host)

theorem prefix_take (host : Host D) (state : VerifiedInboxState) (input : VerifiedInboxIntake) :
    state.receipts <+: (state.take host input).receipts ∧
      state.conflicts <+: (state.take host input).conflicts := by
  unfold VerifiedInboxState.take
  split
  · rename_i reduction hreduction
    have hstep := step_of_reduce hreduction
    generalize reduction.state = next, reduction.payloadDisposition = disposition at hstep
    cases hstep with
    | adopted => exact ⟨List.prefix_append _ _, List.prefix_rfl⟩
    | ignored => exact ⟨List.prefix_rfl, List.prefix_rfl⟩
    | quarantined => exact ⟨List.prefix_rfl, List.prefix_append _ _⟩
  · exact ⟨List.prefix_rfl, List.prefix_rfl⟩

theorem prefix_foldl (intakes : List VerifiedInboxIntake) (state : VerifiedInboxState) :
    state.receipts <+: (intakes.foldl (VerifiedInboxState.take host) state).receipts ∧
      state.conflicts <+: (intakes.foldl (VerifiedInboxState.take host) state).conflicts := by
  induction intakes generalizing state with
  | nil => exact ⟨List.prefix_rfl, List.prefix_rfl⟩
  | cons intake intakes ih =>
    obtain ⟨hreceipts, hconflicts⟩ := prefix_take host state intake
    obtain ⟨hreceipts', hconflicts'⟩ := ih (state.take host intake)
    exact ⟨hreceipts.trans hreceipts', hconflicts.trans hconflicts'⟩

theorem reduceVerifiedInbox_again (h : state.Sound host) {reduction : VerifiedInboxReduction}
    (hreduction : reduceVerifiedInbox host state input = .ok reduction)
    {again : VerifiedInboxIntake} (hconnection : again.sourceConnectionId = input.sourceConnectionId)
    (hidentity : again.semanticIdentity = input.semanticIdentity)
    (hsame : again.contentBindings = input.contentBindings) :
    ∃ repeated, reduceVerifiedInbox host reduction.state again = .ok repeated ∧
      repeated.state = reduction.state ∧ repeated.payloadDisposition = .ignored := by
  have hbindings : freezeBindings host again.contentBindings = .ok input.contentBindings := by
    rw [hsame]
    simp only [reduceVerifiedInbox, bind_eq_ok] at hreduction
    obtain ⟨bindings, hbindings, -⟩ := hreduction
    exact (freezeBindings_eq_ok hbindings).1 ▸ hbindings
  have hstep := step_of_reduce hreduction
  generalize reduction.state = next, reduction.payloadDisposition = disposition at hstep
  cases hstep with
  | adopted hfrozen hnew hfresh =>
    have hfound : ((state.adopt host input input.contentBindings).receipts.find? fun candidate =>
        candidate.semanticKey = inboxSemanticKey host again.sourceConnectionId
          again.semanticIdentity) = some (input.receipt host input.contentBindings) := by
      rw [hconnection, hidentity, VerifiedInboxState.adopt, List.find?_append,
        List.find?_eq_none.mpr fun receipt hreceipt => by simpa using hnew receipt hreceipt]
      simp [VerifiedInboxIntake.receipt]
    have hnone : matchingConflicts host (state.adopt host input input.contentBindings)
        (input.receipt host input.contentBindings) input.contentBindings = [] := by
      refine List.filter_eq_nil_iff.mpr fun conflict hconflict => ?_
      have hno := List.filter_eq_nil_iff.mp (h.filter_conflicts_of_fresh hfresh) conflict hconflict
      rw [Bool.and_eq_true]
      exact fun hmatch => hno hmatch.1
    refine reduce_known hbindings hfound ?_ (.inl hfrozen.intersect_self)
    rw [hnone]
    simp
  | ignored hfrozen hreceipt hone hknown =>
    rw [← hconnection, ← hidentity] at hreceipt
    exact reduce_known hbindings hreceipt hone hknown
  | @quarantined receipt hfrozen hreceipt hcanonical hconflicts hfresh =>
    rw [← hconnection, ← hidentity] at hreceipt
    have hone : matchingConflicts host (state.quarantine input receipt input.contentBindings) receipt
        input.contentBindings = [input.conflict receipt input.contentBindings] := by
      rw [matchingConflicts, VerifiedInboxState.quarantine, List.filter_append]
      refine (congrArg (· ++ _) hconflicts).trans ?_
      rw [List.nil_append, List.filter_cons_of_pos, List.filter_nil]
      simp [VerifiedInboxIntake.conflict, hfrozen.intersect_self]
    refine reduce_known hbindings hreceipt ?_ (.inr ?_)
    · rw [hone, hcanonical]
      simp
    · rw [hone]
      simp

theorem length_filter_eq_one {α ι : Type} [DecidableEq ι] {refer : α → ι} {as : List α}
    {ids : List ι} (h : as.map refer = ids) (hids : ids.Nodup) {id : ι} (hid : id ∈ ids) :
    (as.filter fun a => refer a = id).length = 1 := by
  have hcount := List.count_eq_one_of_mem hids hid
  rw [← h, List.count, List.countP_map, List.countP_eq_length_filter] at hcount
  refine (congrArg List.length (List.filter_congr fun a _ => ?_)).trans hcount
  rw [Function.comp, beq_eq_decide]

/-- The verified inbox adopts each message once and quarantines each changed content once. In every
run there is one receipt for a connection and an identity, one pointer for a receipt, one attention
for a conflict, and one use of a payload; receipts and conflicts are kept as they are; the contents
of a receipt share no binding; and an accepted intake is adopted where its identity is new, ignored
where its content is known, and quarantined otherwise, and is ignored when it comes again. -/
theorem verified_inbox_run (host : Host D) (intakes : List VerifiedInboxIntake) :
    ((verifiedInboxRun host intakes).receipts.map fun receipt =>
      (receipt.sourceConnectionId, receipt.semanticIdentity)).Nodup ∧
    (∀ receipt ∈ (verifiedInboxRun host intakes).receipts,
      ((verifiedInboxRun host intakes).processingPointers.filter fun pointer =>
        pointer.receiptId = receipt.id).length = 1) ∧
    (∀ conflict ∈ (verifiedInboxRun host intakes).conflicts,
      ((verifiedInboxRun host intakes).attentions.filter fun attention =>
        attention.conflictId = conflict.id).length = 1) ∧
    (((verifiedInboxRun host intakes).adoptedPayloadRefs ++
      (verifiedInboxRun host intakes).quarantinedPayloadRefs).map (·.id)).Nodup ∧
    (verifiedInboxRun host intakes).adoptedPayloadRefs =
      (verifiedInboxRun host intakes).receipts.map (·.adoptedPayloadRef) ∧
    (verifiedInboxRun host intakes).quarantinedPayloadRefs =
      (verifiedInboxRun host intakes).conflicts.map (·.quarantinedPayloadRef) ∧
    (∀ more, (verifiedInboxRun host intakes).receipts <+:
        (verifiedInboxRun host (intakes ++ more)).receipts ∧
      (verifiedInboxRun host intakes).conflicts <+:
        (verifiedInboxRun host (intakes ++ more)).conflicts) ∧
    (∀ receipt ∈ (verifiedInboxRun host intakes).receipts,
      ((verifiedInboxRun host intakes).contents receipt).Pairwise List.Disjoint) ∧
    ∀ input reduction,
      reduceVerifiedInbox host (verifiedInboxRun host intakes) input = .ok reduction →
      InboxStep host (verifiedInboxRun host intakes) input reduction.payloadDisposition
        reduction.state ∧
      ∀ again, again.sourceConnectionId = input.sourceConnectionId →
        again.semanticIdentity = input.semanticIdentity →
        again.contentBindings = input.contentBindings →
          ∃ repeated, reduceVerifiedInbox host reduction.state again = .ok repeated ∧
            repeated.state = reduction.state ∧ repeated.payloadDisposition = .ignored := by
  have h := sound_verifiedInboxRun host intakes
  refine ⟨?_, fun receipt hreceipt => ?_, fun conflict hconflict => ?_, h.payloads, h.adopted,
    h.quarantined, fun more => ?_, h.contents, fun input reduction hreduction =>
      ⟨step_of_reduce hreduction, fun again hconnection hidentity hsame =>
        reduceVerifiedInbox_again h hreduction hconnection hidentity hsame⟩⟩
  · have hkeys : (verifiedInboxRun host intakes).receipts.map (·.semanticKey) =
        ((verifiedInboxRun host intakes).receipts.map fun receipt =>
          (receipt.sourceConnectionId, receipt.semanticIdentity)).map fun key =>
            inboxSemanticKey host key.1 key.2 := by
      rw [List.map_map]
      exact List.map_congr_left h.keyed
    exact .of_map _ (hkeys ▸ h.keys)
  · exact length_filter_eq_one h.pointers h.receiptIds (List.mem_map_of_mem hreceipt)
  · exact length_filter_eq_one h.attentions h.conflictIds (List.mem_map_of_mem hconflict)
  · rw [verifiedInboxRun, verifiedInboxRun, List.foldl_append]
    exact prefix_foldl more _

/-! ## An example -/

namespace InboxExample

theorem isOpaqueValue_identity :
    isOpaqueValue "si1_" 24 160 "si1_form-submission-received" = true := by decide +kernel

theorem isDefinitionKey_content : isDefinitionKey "inbox.content" = true := by decide

/-- The binding whose value is `kb1_` and 36 times the character. -/
def binding (c : Char) : OpaqueKeyedContentBinding where
  profile :=
    { kind := "content_binding", key := ⟨"inbox.content", isDefinitionKey_content⟩, version := .one }
  value := String.ofList ("kb1_".toList ++ List.replicate 36 c)

/-- The `n`-th message of one identity. -/
def intake (n : ℕ) (contentBindings : List OpaqueKeyedContentBinding) : VerifiedInboxIntake where
  receiptId := .ofNat (10 + n)
  processingPointerId := .ofNat (20 + n)
  conflictId := .ofNat (30 + n)
  attentionId := .ofNat (40 + n)
  sourceConnectionId := .ofNat 1
  sourceConnectionRevisionId := .ofNat 2
  semanticIdentity := ⟨"si1_form-submission-received", isOpaqueValue_identity⟩
  verifierRevisionId := .ofNat 3
  contentBindings
  preparedPayloadRef := { id := .ofNat (50 + n) }
  receivedAt := .yearStart 2026

def first : VerifiedInboxIntake := intake 1 [binding 'a']

/-- The first message again, with a second alias of its content. -/
def redelivered : VerifiedInboxIntake := intake 2 [binding 'b', binding 'a']

def changed : VerifiedInboxIntake := intake 3 [binding 'c']

def outcome : Except ReliabilityError Unit := do
  let adoption ← reduceVerifiedInbox SymbolicDigest.host emptyVerifiedInboxState first
  let redelivery ← reduceVerifiedInbox SymbolicDigest.host adoption.state redelivered
  let quarantine ← reduceVerifiedInbox SymbolicDigest.host redelivery.state changed
  require (adoption.payloadDisposition = .adopted ∧ redelivery.payloadDisposition = .ignored ∧
    quarantine.payloadDisposition = .quarantined) (.type "")

theorem outcome_succeeds : outcome.toBool = true := by decide +kernel

end InboxExample

/-- The inbox after a message was adopted, ignored and quarantined. -/
theorem run_of_quarantined {first redelivered changed : VerifiedInboxIntake}
    {adoption redelivery quarantine : VerifiedInboxReduction}
    (hfirst : reduceVerifiedInbox host emptyVerifiedInboxState first = .ok adoption)
    (hsecond : reduceVerifiedInbox host adoption.state redelivered = .ok redelivery)
    (hthird : reduceVerifiedInbox host redelivery.state changed = .ok quarantine)
    (hadopted : adoption.payloadDisposition = .adopted)
    (hignored : redelivery.payloadDisposition = .ignored)
    (hquarantined : quarantine.payloadDisposition = .quarantined) :
    verifiedInboxRun host [first, redelivered] = redelivery.state ∧
      verifiedInboxRun host [first, redelivered, changed] = quarantine.state ∧
      quarantine.state.receipts = [first.receipt host first.contentBindings] ∧
      quarantine.state.conflicts =
        [changed.conflict (first.receipt host first.contentBindings) changed.contentBindings] := by
  have hadoption := step_of_reduce hfirst
  have hredelivery := step_of_reduce hsecond
  have hquarantine := step_of_reduce hthird
  rw [hadopted] at hadoption
  rw [hignored] at hredelivery
  rw [hquarantined] at hquarantine
  have hstate : redelivery.state =
      emptyVerifiedInboxState.adopt host first first.contentBindings := by
    generalize redelivery.state = second at hredelivery
    cases hredelivery with
    | ignored =>
      generalize adoption.state = next at hadoption
      cases hadoption with
      | adopted => rfl
  refine ⟨?_, ?_, ?_⟩
  · simp only [verifiedInboxRun, List.foldl_cons, List.foldl_nil, take_of_reduce hfirst,
      take_of_reduce hsecond]
  · simp only [verifiedInboxRun, List.foldl_cons, List.foldl_nil, take_of_reduce hfirst,
      take_of_reduce hsecond, take_of_reduce hthird]
  · rw [hstate] at hquarantine
    generalize quarantine.state = next at hquarantine
    cases hquarantine with
    | quarantined hbindings hreceipt =>
      -- the receipt that was found is the only one there is
      have hfound := List.mem_singleton.mp (List.mem_of_find?_eq_some hreceipt)
      rw [hfound]
      exact ⟨rfl, rfl⟩

open InboxExample in
/-- A message is adopted, ignored when it comes again under another alias, and quarantined when its
content has changed. The changed one is ignored when it comes again. -/
theorem verified_inbox_run_quarantine :
    ∃ quarantine, reduceVerifiedInbox SymbolicDigest.host
        (verifiedInboxRun SymbolicDigest.host [first, redelivered]) changed = .ok quarantine ∧
      quarantine.payloadDisposition = .quarantined ∧
      quarantine.state = verifiedInboxRun SymbolicDigest.host [first, redelivered, changed] ∧
      quarantine.state.receipts = [first.receipt SymbolicDigest.host first.contentBindings] ∧
      quarantine.state.conflicts = [changed.conflict
        (first.receipt SymbolicDigest.host first.contentBindings) changed.contentBindings] ∧
      ∃ repeated, reduceVerifiedInbox SymbolicDigest.host quarantine.state (intake 4 [binding 'c']) =
          .ok repeated ∧
        repeated.state = quarantine.state ∧ repeated.payloadDisposition = .ignored := by
  obtain ⟨_, h⟩ := exists_of_toBool outcome_succeeds
  simp only [outcome, bind_eq_ok, require_eq_ok] at h
  obtain ⟨adoption, hfirst, redelivery, hsecond, quarantine, hthird, hadopted, hignored,
    hquarantined⟩ := h
  obtain ⟨hrun, hlast, hreceipts, hconflicts⟩ :=
    run_of_quarantined hfirst hsecond hthird hadopted hignored hquarantined
  rw [← hrun] at hthird
  obtain ⟨-, hagain⟩ :=
    (verified_inbox_run SymbolicDigest.host [first, redelivered]).2.2.2.2.2.2.2.2 _ _ hthird
  exact ⟨quarantine, hthird, hquarantined, hlast.symm, hreceipts, hconflicts,
    hagain (intake 4 [binding 'c']) rfl rfl rfl⟩

end JooEvents
