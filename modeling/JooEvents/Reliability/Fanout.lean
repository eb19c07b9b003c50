import JooEvents.Reliability.Fencing

/-!
# Fan-out

`planConsumerFanout` plans a delivery of a pointer for every consumer version that accepts
its source and has none yet. What tells deliveries apart is the canonical text of the
consumer, the pointer and the source (`semanticKey`), from which the consumer can be read
off (`semanticKey_inj`).

A run of fan-outs plans with any registry at each step and creates any part of what it
planned, while workers go on with the deliveries (`FanoutStep`).
-/

namespace JooEvents

open Fallible

variable {D : Type} (host : Host D)

/-- A fan-out plan. -/
structure ConsumerFanoutPlan where
  existing : List ConsumerDelivery
  creations : List ConsumerDeliveryDraft

/-- What the semantic key of a delivery is the text of. -/
def semanticKeyJson (pointer : OutboxPointerRef) (consumer : DefinitionRef) : Json Empty :=
  .obj [("consumer", .obj [("key", toJson consumer.key), ("version", toJson consumer.version)]),
    ("pointer", toJson pointer.key),
    ("source", .obj [("identity", toJson pointer.sourceIdentity),
      ("key", toJson pointer.source.key), ("kind", toJson pointer.source.kind),
      ("version", toJson pointer.source.version)])]

def semanticKey (pointer : OutboxPointerRef) (consumer : DefinitionRef) :
    ConsumerDeliverySemanticKey :=
  host.canonicalJsonText (semanticKeyJson pointer consumer)

def ConsumerDefinition.ref (consumer : ConsumerDefinition) : DefinitionRef :=
  { key := consumer.key, version := consumer.version }

/-- The exact consumer : its key and its version, with a null character between them. -/
def exactConsumer (consumer : ConsumerDefinition) : String :=
  consumer.key.val ++ String.singleton (Char.ofNat 0) ++ toString consumer.version.val

/-- `compareConsumers` does not put `left` after `right`. -/
def consumerLe (left right : ConsumerDefinition) : Prop :=
  ¬ textLt (exactConsumer right) (exactConsumer left)

instance : DecidableRel consumerLe := fun _ _ => inferInstanceAs (Decidable (¬ _))

def acceptsSource (pointer : OutboxPointerRef) (consumer : ConsumerDefinition) : Bool :=
  consumer.acceptedSources.any fun accepted =>
    accepted.kind = pointer.source.kind && accepted.key = pointer.source.key &&
      accepted.version = pointer.source.version

def consumerDraft (pointer : OutboxPointerRef) (consumer : ConsumerDefinition) :
    ConsumerDeliveryDraft :=
  { semanticKey := semanticKey host pointer consumer.ref
    pointer
    consumer := consumer.ref
    definitionDigestSha256 := consumer.canonicalDigestSha256
    targetOperation := consumer.targetOperation
    inputProjection := consumer.inputProjection
    capabilityRevisionId := consumer.capabilityRevisionId
    authorityCitation := consumer.authorityCitation
    maximumAttempts := consumer.maximumAttempts
    leaseDurationMs := consumer.leaseDurationMs }

/-- The deliveries to create for the consumers of a list, after those in `consumerKeys`. -/
def planCreations (pointer : OutboxPointerRef) (existingKeys : List ConsumerDeliverySemanticKey) :
    List String → List ConsumerDefinition → Except ReliabilityError (List ConsumerDeliveryDraft)
  | _, [] => return []
  | consumerKeys, consumer :: consumers => do
    require (exactConsumer consumer ∉ consumerKeys)
      (.transition .duplicate_identity "fanout contains the same consumer version more than once")
    let creations ← planCreations pointer existingKeys (exactConsumer consumer :: consumerKeys)
      consumers
    if acceptsSource pointer consumer = true ∧
        semanticKey host pointer consumer.ref ∉ existingKeys then
      return consumerDraft host pointer consumer :: creations
    else return creations

def planConsumerFanout (pointer : OutboxPointerRef) (consumers : List ConsumerDefinition)
    (existing : List ConsumerDelivery) : Except ReliabilityError ConsumerFanoutPlan := do
  require (existing.map (·.semanticKey)).Nodup (.transition .duplicate_identity
    "existing consumer deliveries contain a duplicate semantic identity")
  let creations ← planCreations host pointer (existing.map (·.semanticKey)) []
    (consumers.insertionSort consumerLe)
  return { existing, creations }

variable {host}

theorem integral_toJson_version (version : Version) :
    Json.Integral (toJson version : Json Empty) :=
  Rat.den_natCast version.val

theorem integral_semanticKeyJson (pointer : OutboxPointerRef) (consumer : DefinitionRef) :
    Json.Integral (semanticKeyJson pointer consumer) := by
  simp only [semanticKeyJson, Json.Integral, Json.IntegralMembers, and_true]
  exact ⟨⟨trivial, integral_toJson_version _⟩, trivial, trivial, trivial, trivial,
    integral_toJson_version _⟩

theorem canonicalize_version_iff {v w : Version} :
    (toJson v : Json Empty).canonicalize host.nfc = (toJson w : Json Empty).canonicalize host.nfc ↔
      v = w := by
  simp [toJson, Subtype.ext_iff]

theorem semanticKey_inj {pointer pointer' : OutboxPointerRef} {consumer consumer' : DefinitionRef} :
    semanticKey host pointer consumer = semanticKey host pointer' consumer' ↔
      consumer = consumer' ∧ pointer.key = pointer'.key ∧
        pointer.sourceIdentity = pointer'.sourceIdentity ∧ pointer.source = pointer'.source := by
  rw [semanticKey, semanticKey, Host.canonicalJsonText, Host.canonicalJsonText,
    Json.canonicalText_eq_iff (integral_semanticKeyJson _ _) (integral_semanticKeyJson _ _),
    semanticKeyJson, semanticKeyJson, Host.canonicalize_record_iff]
  simp only [List.map_cons, List.map_nil, List.cons.injEq, and_true]
  rw [Host.canonicalize_record_iff, Host.canonicalize_record_iff]
  simp only [List.map_cons, List.map_nil, List.cons.injEq, and_true, canonicalize_version_iff,
    Host.canonicalize_asciiText_iff]
  rw [DefinitionRef.ext_iff, ConsumerSourceRef.ext_iff]
  constructor
  · rintro ⟨hconsumer, hpointer, hidentity, hkey, hkind, hversion⟩
    exact ⟨hconsumer, hpointer, hidentity, hkind, hkey, hversion⟩
  · rintro ⟨hconsumer, hpointer, hidentity, hkind, hkey, hversion⟩
    exact ⟨hconsumer, hpointer, hidentity, hkey, hkind, hversion⟩

/-! ## What is planned -/

theorem acceptsSource_iff {pointer : OutboxPointerRef} {consumer : ConsumerDefinition} :
    acceptsSource pointer consumer = true ↔ pointer.source ∈ consumer.acceptedSources := by
  simp only [acceptsSource, List.any_eq_true, Bool.and_eq_true, decide_eq_true_eq]
  constructor
  · rintro ⟨accepted, hmem, ⟨hkind, hkey⟩, hversion⟩
    rwa [← ConsumerSourceRef.ext hkind hkey hversion]
  · exact fun hmem => ⟨_, hmem, ⟨rfl, rfl⟩, rfl⟩

/-- A consumer that accepts a pointer and has no delivery among `existingKeys`. -/
def isNew (host : Host D) (pointer : OutboxPointerRef)
    (existingKeys : List ConsumerDeliverySemanticKey) (consumer : ConsumerDefinition) : Bool :=
  acceptsSource pointer consumer && decide (semanticKey host pointer consumer.ref ∉ existingKeys)

theorem planCreations_eq {pointer : OutboxPointerRef}
    {existingKeys : List ConsumerDeliverySemanticKey} :
    ∀ {consumers : List ConsumerDefinition} {consumerKeys : List String},
      planCreations host pointer existingKeys consumerKeys consumers =
        if (consumers.map exactConsumer).Nodup ∧
            ∀ consumer ∈ consumers, exactConsumer consumer ∉ consumerKeys then
          .ok ((consumers.filter (isNew host pointer existingKeys)).map (consumerDraft host pointer))
        else .error (.transition .duplicate_identity
          "fanout contains the same consumer version more than once")
  | [], _ => by simp [planCreations, pure, Except.pure]
  | consumer :: consumers, consumerKeys => by
    rw [planCreations, planCreations_eq]
    by_cases hkeys : exactConsumer consumer ∈ consumerKeys
    · rw [require_false (not_not_intro hkeys), error_bind, if_neg]
      rintro ⟨-, h⟩
      exact h consumer (by simp) hkeys
    · rw [require_true hkeys, ok_bind]
      have hcond : ((consumers.map exactConsumer).Nodup ∧ ∀ other ∈ consumers,
            exactConsumer other ∉ exactConsumer consumer :: consumerKeys) ↔
          ((consumer :: consumers).map exactConsumer).Nodup ∧
            ∀ other ∈ consumer :: consumers, exactConsumer other ∉ consumerKeys := by
        simp only [List.map_cons, List.nodup_cons, List.mem_cons, forall_eq_or_imp, hkeys,
          not_false_eq_true, true_and, List.mem_map, not_exists, not_and, not_or]
        constructor
        · exact fun ⟨hnodup, hne⟩ => ⟨⟨fun other hother => (hne other hother).1, hnodup⟩,
            fun other hother => (hne other hother).2⟩
        · exact fun ⟨⟨hne, hnodup⟩, hkeys⟩ => ⟨hnodup,
            fun other hother => ⟨hne other hother, hkeys other hother⟩⟩
      by_cases h : (consumers.map exactConsumer).Nodup ∧ ∀ other ∈ consumers,
          exactConsumer other ∉ exactConsumer consumer :: consumerKeys
      · rw [if_pos h, if_pos (hcond.mp h), ok_bind, List.filter_cons]
        by_cases hnew : acceptsSource pointer consumer = true ∧
            semanticKey host pointer consumer.ref ∉ existingKeys
        · rw [if_pos hnew, if_pos (by simpa [isNew] using hnew)]
          rfl
        · rw [if_neg hnew, if_neg (by simpa [isNew] using hnew)]
          rfl
      · rw [if_neg h, if_neg (hcond.not.mp h), error_bind]

/-- The deliveries that are planned when nothing is listed twice. -/
def plannedCreations (host : Host D) (pointer : OutboxPointerRef)
    (consumers : List ConsumerDefinition) (existingKeys : List ConsumerDeliverySemanticKey) :
    List ConsumerDeliveryDraft :=
  ((consumers.insertionSort consumerLe).filter (isNew host pointer existingKeys)).map
    (consumerDraft host pointer)

theorem planConsumerFanout_eq {pointer : OutboxPointerRef} {consumers : List ConsumerDefinition}
    {existing : List ConsumerDelivery} :
    planConsumerFanout host pointer consumers existing =
      if ¬ (existing.map (·.semanticKey)).Nodup then
        .error (.transition .duplicate_identity
          "existing consumer deliveries contain a duplicate semantic identity")
      else if (consumers.map exactConsumer).Nodup then
        .ok { existing
              creations := plannedCreations host pointer consumers (existing.map (·.semanticKey)) }
      else .error (.transition .duplicate_identity
        "fanout contains the same consumer version more than once") := by
  have hsorted : ((consumers.insertionSort consumerLe).map exactConsumer).Nodup ↔
      (consumers.map exactConsumer).Nodup :=
    ((List.perm_insertionSort consumerLe consumers).map exactConsumer).nodup_iff
  rw [planConsumerFanout, planCreations_eq]
  by_cases hexisting : (existing.map (·.semanticKey)).Nodup
  · rw [require_true hexisting, ok_bind, if_neg (not_not_intro hexisting)]
    by_cases hnodup : (consumers.map exactConsumer).Nodup
    · rw [if_pos ⟨hsorted.mpr hnodup, by simp⟩, if_pos hnodup]
      rfl
    · rw [if_neg (fun h => hnodup (hsorted.mp h.1)), if_neg hnodup, error_bind]
  · rw [require_false hexisting, error_bind, if_pos hexisting]

theorem planConsumerFanout_eq_ok {pointer : OutboxPointerRef}
    {consumers : List ConsumerDefinition} {existing : List ConsumerDelivery}
    {plan : ConsumerFanoutPlan} :
    planConsumerFanout host pointer consumers existing = .ok plan ↔
      (existing.map (·.semanticKey)).Nodup ∧ (consumers.map exactConsumer).Nodup ∧
        plan = { existing, creations :=
          plannedCreations host pointer consumers (existing.map (·.semanticKey)) } := by
  rw [planConsumerFanout_eq]
  split
  · simp_all
  · split
    · simp_all [eq_comm]
    · simp_all

theorem mem_plannedCreations {pointer : OutboxPointerRef} {consumers : List ConsumerDefinition}
    {existingKeys : List ConsumerDeliverySemanticKey} {draft : ConsumerDeliveryDraft} :
    draft ∈ plannedCreations host pointer consumers existingKeys ↔
      ∃ consumer ∈ consumers, pointer.source ∈ consumer.acceptedSources ∧
        semanticKey host pointer consumer.ref ∉ existingKeys ∧
        consumerDraft host pointer consumer = draft := by
  simp only [plannedCreations, isNew, List.mem_map, List.mem_filter, List.mem_insertionSort,
    Bool.and_eq_true, decide_eq_true_eq, acceptsSource_iff, and_assoc]

theorem nodup_plannedCreations {pointer : OutboxPointerRef} {consumers : List ConsumerDefinition}
    {existingKeys : List ConsumerDeliverySemanticKey}
    (h : (consumers.map exactConsumer).Nodup) :
    ((plannedCreations host pointer consumers existingKeys).map (·.semanticKey)).Nodup := by
  have hsorted : ((consumers.insertionSort consumerLe).map exactConsumer).Nodup :=
    ((List.perm_insertionSort consumerLe consumers).map exactConsumer).nodup_iff.mpr h
  rw [plannedCreations, List.map_map]
  refine List.Nodup.sublist (List.filter_sublist.map _) (List.pairwise_map.mpr ?_)
  refine (List.pairwise_map.mp hsorted).imp fun {a b} hne heq => hne ?_
  obtain ⟨href, -⟩ := semanticKey_inj.mp heq
  obtain ⟨hkey, hversion⟩ := DefinitionRef.ext_iff.mp href
  rw [exactConsumer, exactConsumer, show a.key = b.key from hkey,
    show a.version = b.version from hversion]

instance : Std.Total consumerLe where
  total _ _ := (le_total (codeUnits _) (codeUnits _)).imp not_lt.mpr not_lt.mpr

instance : IsTrans ConsumerDefinition consumerLe where
  trans _ _ _ h h' := not_lt.mpr ((not_lt.mp h).trans (not_lt.mp h'))

theorem insertionSort_eq_of_perm {consumers consumers' : List ConsumerDefinition}
    (hnodup : (consumers.map exactConsumer).Nodup) (h : consumers.Perm consumers') :
    consumers.insertionSort consumerLe = consumers'.insertionSort consumerLe := by
  refine List.Perm.eq_of_pairwise (fun a b ha hb hab hba => ?_)
    (List.pairwise_insertionSort consumerLe consumers)
    (List.pairwise_insertionSort consumerLe consumers')
    ((List.perm_insertionSort _ _).trans (h.trans (List.perm_insertionSort _ _).symm))
  rw [List.mem_insertionSort] at ha hb
  exact List.inj_on_of_nodup_map hnodup ha (h.mem_iff.mpr hb)
    (codeUnits_injective (le_antisymm (not_lt.mp hab) (not_lt.mp hba)))

theorem plannedCreations_perm {pointer : OutboxPointerRef}
    {consumers consumers' : List ConsumerDefinition}
    {keys keys' : List ConsumerDeliverySemanticKey}
    (hnodup : (consumers.map exactConsumer).Nodup) (hconsumers : consumers.Perm consumers')
    (hkeys : keys.Perm keys') :
    plannedCreations host pointer consumers keys =
      plannedCreations host pointer consumers' keys' := by
  have hnew : isNew host pointer keys = isNew host pointer keys' :=
    funext fun consumer => by rw [isNew, isNew, decide_eq_decide.mpr hkeys.mem_iff.not]
  rw [plannedCreations, plannedCreations, hnew, insertionSort_eq_of_perm hnodup hconsumers]

theorem creations_planConsumerFanout_perm {pointer : OutboxPointerRef}
    {consumers consumers' : List ConsumerDefinition} {existing existing' : List ConsumerDelivery}
    (hconsumers : consumers.Perm consumers') (hexisting : existing.Perm existing') :
    (planConsumerFanout host pointer consumers existing).map (·.creations) =
      (planConsumerFanout host pointer consumers' existing').map (·.creations) := by
  have hkeys := hexisting.map (·.semanticKey)
  have hexact := hconsumers.map exactConsumer
  rw [planConsumerFanout_eq, planConsumerFanout_eq]
  simp only [hkeys.nodup_iff, hexact.nodup_iff]
  split
  · rfl
  · split
    · rename_i hnodup
      rw [Except.map, Except.map,
        plannedCreations_perm (hexact.nodup_iff.mpr hnodup) hconsumers hkeys]
    · rfl

/-! ## Runs -/

/-- The deliveries there are, and the consumers that fan-outs were given. -/
structure FanoutState where
  deliveries : List ConsumerDelivery
  registered : List ConsumerDefinition

def materialized (chosen : List (ConsumerDeliveryDraft × ConsumerDeliveryId)) :
    List ConsumerDelivery :=
  chosen.map fun c => materializeConsumerDelivery c.1 c.2

def FanoutState.fanout (state : FanoutState) (consumers : List ConsumerDefinition)
    (chosen : List (ConsumerDeliveryDraft × ConsumerDeliveryId)) : FanoutState :=
  { deliveries := state.deliveries ++ materialized chosen
    registered := state.registered ++ consumers }

/-- Part of what is planned is created, under any identities, or a worker goes on with a
delivery. -/
inductive FanoutStep (host : Host D) (state : FanoutState) : FanoutState → Prop where
  | fanout {pointer : OutboxPointerRef} {consumers : List ConsumerDefinition}
      {listed : List ConsumerDelivery} {plan : ConsumerFanoutPlan}
      (chosen : List (ConsumerDeliveryDraft × ConsumerDeliveryId))
      (hlisted : listed.Perm state.deliveries)
      (hplan : planConsumerFanout host pointer consumers listed = .ok plan)
      (hchosen : (chosen.map Prod.fst).Subperm plan.creations) :
      FanoutStep host state (state.fanout consumers chosen)
  | work {before after : List ConsumerDelivery} {delivery next : ConsumerDelivery}
      {command : WorkCommand ConsumerAttemptId ConsumerDeliveryCompletion}
      (hdeliveries : state.deliveries = before ++ delivery :: after)
      (hstep : stepConsumerDelivery delivery command = .ok next) :
      FanoutStep host state { state with deliveries := before ++ next :: after }

/-- What holds in every run. -/
structure FanoutInvariant (host : Host D) (state : FanoutState) : Prop where
  keys : (state.deliveries.map (·.semanticKey)).Nodup
  planned : ∀ delivery ∈ state.deliveries, ∃ consumer ∈ state.registered,
    delivery.toConsumerDeliveryDraft = consumerDraft host delivery.pointer consumer ∧
      delivery.pointer.source ∈ consumer.acceptedSources

theorem draft_stepConsumerDelivery {delivery next : ConsumerDelivery}
    {command : WorkCommand ConsumerAttemptId ConsumerDeliveryCompletion}
    (h : stepConsumerDelivery delivery command = .ok next) :
    next.toConsumerDeliveryDraft = delivery.toConsumerDeliveryDraft := by
  cases command with
  | claim input =>
    simp only [stepConsumerDelivery, claimConsumerDelivery, bind_eq_ok, require_eq_ok, pure_eq_ok,
      exists_const] at h
    obtain ⟨_, -, _, -, _, -, -, -, -, -, -, _, -, rfl⟩ := h
    rfl
  | complete fence completedAt completion =>
    simp only [stepConsumerDelivery, completeConsumerDelivery, bind_eq_ok, pure_eq_ok,
      Prod.exists] at h
    obtain ⟨_, _, -, _, -, _, -, rfl⟩ := h
    rfl
  | recordLostFence attemptId observedAt =>
    simp only [stepConsumerDelivery, recordConsumerAttemptLostFence, bind_eq_ok, pure_eq_ok] at h
    obtain ⟨_, -, rfl⟩ := h
    rfl

theorem map_semanticKey_materialized
    (chosen : List (ConsumerDeliveryDraft × ConsumerDeliveryId)) :
    (materialized chosen).map (·.semanticKey) = (chosen.map Prod.fst).map (·.semanticKey) := by
  simp only [materialized, List.map_map]
  rfl

theorem FanoutInvariant.fanout {state : FanoutState} (hinv : FanoutInvariant host state)
    {pointer : OutboxPointerRef} {consumers : List ConsumerDefinition}
    {listed : List ConsumerDelivery} {plan : ConsumerFanoutPlan}
    {chosen : List (ConsumerDeliveryDraft × ConsumerDeliveryId)}
    (hlisted : listed.Perm state.deliveries)
    (hplan : planConsumerFanout host pointer consumers listed = .ok plan)
    (hchosen : (chosen.map Prod.fst).Subperm plan.creations) :
    FanoutInvariant host (state.fanout consumers chosen) := by
  obtain ⟨-, hconsumers, rfl⟩ := planConsumerFanout_eq_ok.mp hplan
  have hmem : ∀ draft ∈ chosen.map Prod.fst, ∃ consumer ∈ consumers,
      pointer.source ∈ consumer.acceptedSources ∧
        semanticKey host pointer consumer.ref ∉ listed.map (·.semanticKey) ∧
        consumerDraft host pointer consumer = draft :=
    fun draft hdraft => mem_plannedCreations.mp (hchosen.subset hdraft)
  refine ⟨?_, fun delivery hdelivery => ?_⟩
  · rw [FanoutState.fanout, List.map_append, map_semanticKey_materialized, List.nodup_append]
    refine ⟨hinv.keys, ?_, fun key hkey key' hkey' heq => ?_⟩
    · obtain ⟨part, hpart, hsub⟩ := hchosen
      exact ((hpart.map _).nodup_iff).mp
        ((nodup_plannedCreations hconsumers).sublist (hsub.map _))
    · obtain ⟨draft, hdraft, rfl⟩ := List.mem_map.mp hkey'
      obtain ⟨consumer, -, -, hnew, rfl⟩ := hmem draft hdraft
      rw [heq] at hkey
      exact hnew ((hlisted.map _).mem_iff.mpr hkey)
  · rcases List.mem_append.mp hdelivery with hdelivery | hdelivery
    · obtain ⟨consumer, hconsumer, h⟩ := hinv.planned delivery hdelivery
      exact ⟨consumer, List.mem_append_left _ hconsumer, h⟩
    · obtain ⟨c, hc, rfl⟩ := List.mem_map.mp hdelivery
      obtain ⟨consumer, hconsumer, haccepts, -, hdraft⟩ := hmem c.1 (List.mem_map_of_mem hc)
      have hpointer : c.1.pointer = pointer := by rw [← hdraft]; rfl
      refine ⟨consumer, List.mem_append_right _ hconsumer, ?_, ?_⟩
      · change c.1 = consumerDraft host c.1.pointer consumer
        rw [hpointer, hdraft]
      · change c.1.pointer.source ∈ _
        rw [hpointer]
        exact haccepts

theorem FanoutInvariant.work {state : FanoutState} (hinv : FanoutInvariant host state)
    {before after : List ConsumerDelivery} {delivery next : ConsumerDelivery}
    (hdeliveries : state.deliveries = before ++ delivery :: after)
    (hdraft : next.toConsumerDeliveryDraft = delivery.toConsumerDeliveryDraft) :
    FanoutInvariant host { state with deliveries := before ++ next :: after } := by
  refine ⟨?_, fun other hother => ?_⟩
  · have hkeys := hinv.keys
    rw [hdeliveries] at hkeys
    simpa [hdraft] using hkeys
  · rcases List.mem_append.mp hother with hother | hother
    · exact hinv.planned other (by simp [hdeliveries, hother])
    · rcases List.mem_cons.mp hother with rfl | hother
      · rw [hdraft]
        exact hinv.planned delivery (by simp [hdeliveries])
      · exact hinv.planned other (by simp [hdeliveries, hother])

theorem FanoutInvariant.step {state next : FanoutState} (hinv : FanoutInvariant host state)
    (h : FanoutStep host state next) : FanoutInvariant host next := by
  cases h with
  | fanout chosen hlisted hplan hchosen => exact hinv.fanout hlisted hplan hchosen
  | work hdeliveries hstep => exact hinv.work hdeliveries (draft_stepConsumerDelivery hstep)

theorem FanoutStep.keys {state next : FanoutState} (h : FanoutStep host state next) :
    state.deliveries.map (·.semanticKey) ⊆ next.deliveries.map (·.semanticKey) := by
  cases h with
  | fanout chosen _ _ _ =>
    rw [FanoutState.fanout, List.map_append]
    exact List.subset_append_left _ _
  | work hdeliveries hstep =>
    rw [hdeliveries]
    simp [draft_stepConsumerDelivery hstep]

theorem FanoutInvariant.run {state later : FanoutState} (hinv : FanoutInvariant host state)
    (h : Relation.ReflTransGen (FanoutStep host) state later) :
    FanoutInvariant host later ∧
      state.deliveries.map (·.semanticKey) ⊆ later.deliveries.map (·.semanticKey) := by
  induction h with
  | refl => exact ⟨hinv, List.Subset.refl _⟩
  | tail _ hstep ih => exact ⟨ih.1.step hstep, List.Subset.trans ih.2 hstep.keys⟩

theorem planConsumerFanout_nil {pointer : OutboxPointerRef} {consumers : List ConsumerDefinition}
    {existing : List ConsumerDelivery} (hexisting : (existing.map (·.semanticKey)).Nodup)
    (hconsumers : (consumers.map exactConsumer).Nodup)
    (hall : ∀ consumer ∈ consumers, pointer.source ∈ consumer.acceptedSources →
      semanticKey host pointer consumer.ref ∈ existing.map (·.semanticKey)) :
    planConsumerFanout host pointer consumers existing = .ok { existing, creations := [] } := by
  have hnil : plannedCreations host pointer consumers (existing.map (·.semanticKey)) = [] := by
    refine List.eq_nil_iff_forall_not_mem.mpr fun draft hdraft => ?_
    obtain ⟨consumer, hconsumer, haccepts, hnew, -⟩ := mem_plannedCreations.mp hdraft
    exact hnew (hall consumer hconsumer haccepts)
  exact planConsumerFanout_eq_ok.mpr ⟨hexisting, hconsumers, by rw [hnil]⟩

theorem semanticKey_mem_of_created {state : FanoutState} {pointer : OutboxPointerRef}
    {consumers : List ConsumerDefinition} {listed : List ConsumerDelivery}
    {plan : ConsumerFanoutPlan} {chosen : List (ConsumerDeliveryDraft × ConsumerDeliveryId)}
    (hlisted : listed.Perm state.deliveries)
    (hplan : planConsumerFanout host pointer consumers listed = .ok plan)
    (hchosen : (chosen.map Prod.fst).Perm plan.creations) {consumer : ConsumerDefinition}
    (hconsumer : consumer ∈ consumers) (haccepts : pointer.source ∈ consumer.acceptedSources) :
    semanticKey host pointer consumer.ref ∈
      (state.fanout consumers chosen).deliveries.map (·.semanticKey) := by
  obtain ⟨-, -, rfl⟩ := planConsumerFanout_eq_ok.mp hplan
  rw [FanoutState.fanout, List.map_append, map_semanticKey_materialized, List.mem_append]
  by_cases hold : semanticKey host pointer consumer.ref ∈ listed.map (·.semanticKey)
  · exact .inl ((hlisted.map _).mem_iff.mp hold)
  · have hdraft := mem_plannedCreations.mpr ⟨consumer, hconsumer, haccepts, hold, rfl⟩
    exact .inr (List.mem_map_of_mem (hchosen.mem_iff.mpr hdraft))

/-- In every run of fan-outs, no two deliveries share a semantic key and the consumer of
every delivery accepts its source. Once all that a fan-out planned is created, the same
registry, in any order and at any later time, plans nothing, and every consumer of it that
accepts the pointer has exactly one delivery. What is planned does not depend on the order
of the consumers and of the existing deliveries. -/
theorem consumer_fanout_once (host : Host D) :
    (∀ state, Relation.ReflTransGen (FanoutStep host) ⟨[], []⟩ state →
      (state.deliveries.map (·.semanticKey)).Nodup ∧
      (∀ delivery ∈ state.deliveries, ∃ consumer ∈ state.registered,
        delivery.consumer = consumer.ref ∧ delivery.pointer.source ∈ consumer.acceptedSources) ∧
      ∀ pointer consumers listed plan chosen, listed.Perm state.deliveries →
        planConsumerFanout host pointer consumers listed = .ok plan →
        (chosen.map Prod.fst).Perm plan.creations →
        ∀ later, Relation.ReflTransGen (FanoutStep host) (state.fanout consumers chosen) later →
          (∀ consumers' listed', consumers'.Perm consumers → listed'.Perm later.deliveries →
            planConsumerFanout host pointer consumers' listed' =
              .ok { existing := listed', creations := [] }) ∧
          ∀ consumer ∈ consumers, pointer.source ∈ consumer.acceptedSources →
            ∃! delivery, delivery ∈ later.deliveries ∧
              delivery.semanticKey = semanticKey host pointer consumer.ref) ∧
    ∀ pointer consumers consumers' existing existing', consumers.Perm consumers' →
      existing.Perm existing' →
      (planConsumerFanout host pointer consumers existing).map (·.creations) =
        (planConsumerFanout host pointer consumers' existing').map (·.creations) := by
  refine ⟨fun state hstate => ?_, fun _ _ _ _ _ => creations_planConsumerFanout_perm⟩
  have hempty : FanoutInvariant host ⟨[], []⟩ := ⟨List.nodup_nil, by simp⟩
  obtain ⟨hinv, -⟩ := hempty.run hstate
  refine ⟨hinv.keys, fun delivery hdelivery => ?_, ?_⟩
  · obtain ⟨consumer, hconsumer, hdraft, haccepts⟩ := hinv.planned delivery hdelivery
    exact ⟨consumer, hconsumer, by rw [hdraft]; rfl, haccepts⟩
  · intro pointer consumers listed plan chosen hlisted hplan hchosen later hlater
    obtain ⟨hlaterInv, hkeys⟩ := (hinv.fanout hlisted hplan hchosen.subperm).run hlater
    have hall : ∀ consumer ∈ consumers, pointer.source ∈ consumer.acceptedSources →
        semanticKey host pointer consumer.ref ∈ later.deliveries.map (·.semanticKey) :=
      fun consumer hconsumer haccepts =>
        hkeys (semanticKey_mem_of_created hlisted hplan hchosen hconsumer haccepts)
    refine ⟨fun consumers' listed' hconsumers' hlisted' => ?_, fun consumer hconsumer haccepts => ?_⟩
    · refine planConsumerFanout_nil ((hlisted'.map _).nodup_iff.mpr hlaterInv.keys)
        ((hconsumers'.map _).nodup_iff.mpr (planConsumerFanout_eq_ok.mp hplan).2.1)
        fun consumer hconsumer haccepts => ?_
      exact (hlisted'.map _).mem_iff.mpr (hall consumer (hconsumers'.mem_iff.mp hconsumer) haccepts)
    · obtain ⟨delivery, hdelivery, hkey⟩ := List.mem_map.mp (hall consumer hconsumer haccepts)
      refine ⟨delivery, ⟨hdelivery, hkey⟩, fun other hother => ?_⟩
      exact List.inj_on_of_nodup_map hlaterInv.keys hother.1 hdelivery (hother.2.trans hkey.symm)

namespace FanoutExample

def ref : DefinitionRef := { key := ⟨"submission.created", by decide⟩, version := .one }

def source : ConsumerSourceRef := { kind := .domain_fact, key := ref.key, version := .one }

def pointer : OutboxPointerRef :=
  { key := ⟨"ptr1_submission", JobExample.isOpaqueKey_pointer⟩, source, sourceIdentity := ⟨"src1_submission", JobExample.isOpaqueKey_source⟩
    sourceVersion := .one, availableAt := .yearStart 2026 }

/-- The `n`-th version of a consumer of the source. -/
def consumer (version : Version) : ConsumerDefinition :=
  { key := ref.key, version
    canonicalDigestSha256 := ⟨String.ofList (List.replicate 64 'a'), JobExample.matchesShape_digest⟩
    acceptedSources := [source], inputProjection := ref, targetOperation := ref
    capabilityRevisionId := .ofNat 1, authorityCitation := ref, maximumAttempts := 2
    leaseDurationMs := 30000 }

def consumers : List ConsumerDefinition := [consumer ⟨2, isPositiveSafe_two⟩, consumer .one]

def outcome : Except ReliabilityError ConsumerFanoutPlan := do
  let plan ← planConsumerFanout SymbolicDigest.host pointer consumers []
  require (plan.creations.map (·.consumer.version.val) = [1, 2]) (.type "")
  return plan

theorem outcome_succeeds : outcome.toBool = true := by decide +kernel

end FanoutExample

/-- After two consumer versions have got their deliveries, nothing more is planned. -/
theorem consumer_fanout_once_two_versions :
    ∃ plan, planConsumerFanout SymbolicDigest.host FanoutExample.pointer FanoutExample.consumers [] =
        .ok plan ∧ plan.creations.map (·.consumer.version.val) = [1, 2] ∧
      let created := materialized (plan.creations.map fun draft => (draft, .ofNat 2))
      planConsumerFanout SymbolicDigest.host FanoutExample.pointer FanoutExample.consumers created =
        .ok { existing := created, creations := [] } := by
  obtain ⟨plan, h⟩ := exists_of_toBool FanoutExample.outcome_succeeds
  simp only [FanoutExample.outcome, bind_eq_ok, require_eq_ok, pure_eq_ok, exists_const] at h
  obtain ⟨_, hplan, hversions, rfl⟩ := h
  refine ⟨_, hplan, hversions, ?_⟩
  obtain ⟨-, -, hcreated⟩ := (consumer_fanout_once SymbolicDigest.host).1 ⟨[], []⟩ .refl
  exact (hcreated FanoutExample.pointer FanoutExample.consumers [] _ _ (.refl _) hplan
    (by simp [Function.comp_def]) _ .refl).1 _ _ (.refl _) (.refl _)

end JooEvents
