import JooEvents.Communications.Callbacks
import Mathlib.Data.List.Count
import Mathlib.Data.List.Perm.Basic

/-!
# Exactly one verifier

A callback is accepted exactly when the candidates are well formed, every eligible candidate has
one implementation, and exactly one of them vouches (`resolve_eq_exactly_one_iff`).

What is resolved comes from what each eligible candidate reports : that it has no single
implementation, or what its implementation vouches for, if it does (`resolve_eq`). The order of
the reports does not matter (`verdict_perm`), so neither does the order of the implementations,
nor the slots, nor a candidate that is not eligible.
-/

namespace JooEvents

open Fallible

variable {Context Unknown : Type}

/-! ## Keys -/

theorem char_of_isDottedTail :
    ∀ {afterWord : Bool} {cs : List Char}, isDottedTail afterWord cs = true →
      ∀ c ∈ cs, isLowerChar c = true ∨ isDigitChar c = true ∨ isOneOf ['.', '_', '-'] c = true
  | _, [], _, _, hc => nomatch hc
  | afterWord, d :: ds, h, c, hc => by
    rw [isDottedTail] at h
    split at h
    · rename_i hd
      rcases List.mem_cons.mp hc with rfl | hc
      · exact (Bool.or_eq_true_iff.mp hd).imp_right .inl
      · exact char_of_isDottedTail h c hc
    · simp only [Bool.and_eq_true] at h
      rcases List.mem_cons.mp hc with rfl | hc
      · exact .inr (.inr h.1.2)
      · exact char_of_isDottedTail h.2 c hc

theorem nul_notMem_of_isDefinitionKey {s : String} (h : isDefinitionKey s = true) :
    '\x00' ∉ s.toList := by
  intro hmem
  have hdotted := (Bool.and_eq_true_iff.mp h).1
  unfold isDottedIdentifier at hdotted
  split at hdotted
  · cases hdotted
  · rename_i c cs heq
    rw [Bool.and_eq_true] at hdotted
    rw [heq] at hmem
    rcases List.mem_cons.mp hmem with rfl | hmem
    · exact absurd hdotted.1 (by decide)
    · have hclass := char_of_isDottedTail hdotted.2 _ hmem
      exact absurd hclass (by decide)

theorem append_separator_inj {x : Char} {s s' : List Char} :
    ∀ {a a' : List Char}, x ∉ a → x ∉ a' → a ++ x :: s = a' ++ x :: s' → a = a' ∧ s = s'
  | [], [], _, _, h => ⟨rfl, (List.cons.inj h).2⟩
  | [], _ :: _, _, ha', h => absurd ((List.cons.inj h).1 ▸ List.mem_cons_self) ha'
  | _ :: _, [], ha, _, h => absurd ((List.cons.inj h).1 ▸ List.mem_cons_self) ha
  | c :: a, d :: a', ha, ha', h => by
    obtain ⟨rfl, htail⟩ := List.cons.inj h
    obtain ⟨rfl, rfl⟩ := append_separator_inj (fun hx => ha (List.mem_cons_of_mem _ hx))
      (fun hx => ha' (List.mem_cons_of_mem _ hx)) htail
    exact ⟨rfl, rfl⟩

theorem separated_inj {x : Char} {a b c a' b' c' : List Char} (ha : x ∉ a) (hb : x ∉ b)
    (hc : x ∉ c) (h : a' ++ x :: (b' ++ x :: c') = a ++ x :: (b ++ x :: c)) :
    a' = a ∧ b' = b ∧ c' = c := by
  have hcount := congrArg (List.count x) h
  simp only [List.count_append, List.count_cons_self, List.count_eq_zero.mpr ha,
    List.count_eq_zero.mpr hb, List.count_eq_zero.mpr hc] at hcount
  have ha' : x ∉ a' := List.count_eq_zero.mp (by omega)
  have hb' : x ∉ b' := List.count_eq_zero.mp (by omega)
  obtain ⟨rfl, htail⟩ := append_separator_inj ha' ha h
  obtain ⟨rfl, rfl⟩ := append_separator_inj hb' hb htail
  exact ⟨rfl, rfl, rfl⟩

def EmailCallbackVerifier.Serves (verifier : EmailCallbackVerifier Context Unknown)
    (revision : CallbackVerifierRevision Context) : Prop :=
  verifier.verifierKey = revision.verifierKey ∧
    verifier.verifierVersion = revision.verifierVersion ∧
    verifier.verificationContractVersion = revision.verificationContractVersion

instance (verifier : EmailCallbackVerifier Context Unknown)
    (revision : CallbackVerifierRevision Context) : Decidable (verifier.Serves revision) :=
  inferInstanceAs (Decidable (_ ∧ _))

theorem implementationKey_eq_iff {candidate : CallbackVerifierCandidate Context}
    (verifier : EmailCallbackVerifier Context Unknown)
    (hkey : isDefinitionKey candidate.revision.verifierKey = true)
    (hversion : isDefinitionKey candidate.revision.verifierVersion = true) :
    candidate.implementationKey = verifier.implementationKey ↔
      verifier.Serves candidate.revision := by
  constructor
  · intro h
    obtain ⟨hk, hv, hc⟩ := separated_inj (nul_notMem_of_isDefinitionKey hkey)
      (nul_notMem_of_isDefinitionKey hversion) (Decimal.nul_notMem_text _) h.symm
    exact ⟨String.toList_inj.mp hk, String.toList_inj.mp hv, Decimal.text_injective hc⟩
  · rintro ⟨hk, hv, hc⟩
    rw [CallbackVerifierCandidate.implementationKey, EmailCallbackVerifier.implementationKey,
      hk, hv, hc]

/-- What is checked of a candidate on its own. -/
structure CallbackVerifierCandidate.WellFormed (connectionId : String)
    (candidate : CallbackVerifierCandidate Context) : Prop where
  connection : candidate.revision.connectionId = connectionId
  revisionId : isProviderOpaqueId candidate.revision.callbackVerifierRevisionId = true
  verifierKey : isDefinitionKey candidate.revision.verifierKey = true
  verifierVersion : isDefinitionKey candidate.revision.verifierVersion = true
  contractVersion : isPositiveVersion candidate.revision.verificationContractVersion
  configDigest : isProviderSha256 candidate.revision.configDigestSha256 = true
  ceiling : ∀ ceiling ∈ candidate.pointerRole.previousCeiling, isBoundedTimestamp ceiling

/-- A well-formed set of candidates for a callback. -/
structure CallbackVerifierCandidateSet.WellFormed (input : RawProviderCallback)
    (set : CallbackVerifierCandidateSet Context) : Prop where
  contractVersion : set.contractVersion.value = 1
  connection : set.connectionId = input.providerConnectionId
  pointerVersion : isPositiveVersion set.verifierPointerVersion
  databaseTime : isBoundedTimestamp set.resolvedAtDatabaseTime
  connectionCeiling : ∀ ceiling ∈ set.connectionLifecycleVerificationUntil,
    isBoundedTimestamp ceiling
  drainingCeiling : ∀ ceiling ∈ set.pointer.drainingCeiling, isBoundedTimestamp ceiling
  candidates : ∀ candidate ∈ declaredCandidates set, candidate.WellFormed set.connectionId
  revisions : ((declaredCandidates set).map (·.revision.callbackVerifierRevisionId)).Nodup

theorem validateCandidate_eq_ok {set : CallbackVerifierCandidateSet Context}
    {revisionIds result : List String} {candidate : CallbackVerifierCandidate Context} :
    validateCandidate set revisionIds candidate = .ok result ↔
      candidate.WellFormed set.connectionId ∧
        candidate.revision.callbackVerifierRevisionId ∉ revisionIds ∧
        revisionIds ++ [candidate.revision.callbackVerifierRevisionId] = result := by
  simp only [validateCandidate, bind_eq_ok, require_eq_ok, pure_eq_ok, exists_const]
  constructor
  · rintro ⟨h1, h2, h3, h4, h5, h6, h7, h8, h9⟩
    exact ⟨⟨h1, h2, h3, h4, h5, h6, h8⟩, h7, h9⟩
  · rintro ⟨h, h7, h9⟩
    exact ⟨h.connection, h.revisionId, h.verifierKey, h.verifierVersion, h.contractVersion,
      h.configDigest, h7, h.ceiling, h9⟩

theorem foldlM_validateCandidate {set : CallbackVerifierCandidateSet Context} :
    ∀ {candidates : List (CallbackVerifierCandidate Context)} {revisionIds : List String},
      revisionIds.Nodup →
      ((∃ result, candidates.foldlM (validateCandidate set) revisionIds = .ok result) ↔
        (∀ candidate ∈ candidates, candidate.WellFormed set.connectionId) ∧
          (revisionIds ++ candidates.map (·.revision.callbackVerifierRevisionId)).Nodup)
  | [], revisionIds, hids => by simpa using hids
  | candidate :: candidates, revisionIds, hids => by
    simp only [List.foldlM_cons, bind_eq_ok, validateCandidate_eq_ok, List.forall_mem_cons,
      List.map_cons]
    constructor
    · rintro ⟨result, ids, ⟨hcandidate, hnew, rfl⟩, hrest⟩
      have hids' : (revisionIds ++ [candidate.revision.callbackVerifierRevisionId]).Nodup :=
        List.nodup_append_comm.mp (List.nodup_cons.mpr ⟨hnew, hids⟩)
      obtain ⟨hall, hnodup⟩ := (foldlM_validateCandidate hids').mp ⟨result, hrest⟩
      refine ⟨⟨hcandidate, hall⟩, ?_⟩
      rwa [List.append_assoc, List.singleton_append] at hnodup
    · rintro ⟨⟨hcandidate, hall⟩, hnodup⟩
      rw [← List.singleton_append, ← List.append_assoc] at hnodup
      have hids' := hnodup.of_append_left
      obtain ⟨result, hrest⟩ := (foldlM_validateCandidate hids').mpr ⟨hall, hnodup⟩
      have hnew := (List.nodup_cons.mp (List.nodup_append_comm.mp hids')).1
      exact ⟨result, _, ⟨hcandidate, hnew, rfl⟩, hrest⟩

theorem validateCandidateSet_eq_ok {input : RawProviderCallback}
    {set : CallbackVerifierCandidateSet Context} {u : Unit} :
    validateCandidateSet input set = .ok u ↔ set.WellFormed input := by
  have hloop : (∃ result,
      (declaredCandidates set).foldlM (validateCandidate set) [] = .ok result) ↔ _ :=
    foldlM_validateCandidate List.nodup_nil
  rw [List.nil_append] at hloop
  simp only [validateCandidateSet, bind_eq_ok, require_eq_ok, pure_eq_ok, exists_const]
  constructor
  · rintro ⟨h1, h2, h3, h4, h5, h6, result, h7, -⟩
    have hcandidates := hloop.mp ⟨result, h7⟩
    exact ⟨h1, h2, h3, h4, h5, h6, hcandidates.1, hcandidates.2⟩
  · intro h
    obtain ⟨result, h7⟩ := hloop.mpr ⟨h.candidates, h.revisions⟩
    exact ⟨h.contractVersion, h.connection, h.pointerVersion, h.databaseTime, h.connectionCeiling,
      h.drainingCeiling, result, h7, trivial⟩

/-! ## Eligibility -/

/-- Who is asked : the current revision, or the one that is drained before its ceiling, and the
previous one before its own; nobody when the pointer is disabled or the connection has passed its
ceiling. -/
def CallbackVerifierCandidateSet.Eligible (set : CallbackVerifierCandidateSet Context)
    (candidate : CallbackVerifierCandidate Context) : Prop :=
  let now := set.resolvedAtDatabaseTime.value
  (∀ ceiling ∈ set.connectionLifecycleVerificationUntil, now < ceiling.value) ∧
    match set.pointer with
    | .disabled => False
    | .active current previous =>
      candidate = current.candidate ∨
        ∃ slot ∈ previous, now < slot.eligibilityCeiling.value ∧ candidate = slot.candidate
    | .draining_disabled currentVerificationUntil current previous =>
      (now < currentVerificationUntil.value ∧ ∃ slot ∈ current, candidate = slot.candidate) ∨
        ∃ slot ∈ previous, now < slot.eligibilityCeiling.value ∧ candidate = slot.candidate

theorem mem_unexpiredPrevious {set : CallbackVerifierCandidateSet Context}
    {previous : Option (PreviousVerifier Context)} {candidate : CallbackVerifierCandidate Context} :
    candidate ∈ unexpiredPrevious set previous ↔
      ∃ slot ∈ previous, set.resolvedAtDatabaseTime.value < slot.eligibilityCeiling.value ∧
        candidate = slot.candidate := by
  simp only [unexpiredPrevious, List.mem_map, Option.mem_toList, Option.filter_eq_some_iff,
    decide_eq_true_eq, Option.mem_def, and_assoc, @eq_comm _ candidate]

theorem mem_pushedCandidates {set : CallbackVerifierCandidateSet Context}
    {candidate : CallbackVerifierCandidate Context} :
    candidate ∈ pushedCandidates set ↔
      match set.pointer with
      | .disabled => False
      | .active current previous =>
        candidate = current.candidate ∨
          ∃ slot ∈ previous, set.resolvedAtDatabaseTime.value < slot.eligibilityCeiling.value ∧
            candidate = slot.candidate
      | .draining_disabled currentVerificationUntil current previous =>
        (set.resolvedAtDatabaseTime.value < currentVerificationUntil.value ∧
          ∃ slot ∈ current, candidate = slot.candidate) ∨
          ∃ slot ∈ previous, set.resolvedAtDatabaseTime.value < slot.eligibilityCeiling.value ∧
            candidate = slot.candidate := by
  rw [pushedCandidates]
  cases set.pointer with
  | disabled => simp
  | active current previous => rw [List.mem_cons, mem_unexpiredPrevious]
  | draining_disabled ceiling current previous =>
    rw [List.mem_append, mem_unexpiredPrevious]
    refine or_congr_left ?_
    simp only [List.mem_map, Option.mem_toList, Option.filter_eq_some_iff, decide_eq_true_eq]
    constructor
    · rintro ⟨slot, ⟨hslot, hlt⟩, rfl⟩
      exact ⟨hlt, slot, hslot, rfl⟩
    · rintro ⟨hlt, slot, hslot, rfl⟩
      exact ⟨slot, ⟨hslot, hlt⟩, rfl⟩

theorem mem_eligibleCandidates {set : CallbackVerifierCandidateSet Context}
    {candidate : CallbackVerifierCandidate Context} :
    candidate ∈ eligibleCandidates set ↔ set.Eligible candidate := by
  rw [eligibleCandidates, CallbackVerifierCandidateSet.Eligible]
  split_ifs with hpassed
  · obtain ⟨ceiling, hceiling, hle⟩ := hpassed
    exact ⟨fun h => (List.not_mem_nil h).elim, fun h => absurd (h.1 ceiling hceiling) hle.not_gt⟩
  · push Not at hpassed
    rw [List.mem_mergeSort, mem_pushedCandidates]
    exact ⟨fun h => ⟨hpassed, h⟩, fun h => h.2⟩

theorem pushedCandidates_sublist (set : CallbackVerifierCandidateSet Context) :
    (pushedCandidates set).Sublist (declaredCandidates set) := by
  have hslot {α β : Type} (f : α → β) (p : α → Bool) (o : Option α) :
      ((o.filter p).toList.map f).Sublist (o.toList.map f) := by
    cases o with
    | none => exact List.Sublist.refl _
    | some a => cases hp : p a <;> simp [Option.filter, hp]
  rw [pushedCandidates, declaredCandidates]
  cases set.pointer with
  | disabled => exact List.Sublist.refl _
  | active current previous => exact (hslot _ _ previous).cons_cons _
  | draining_disabled ceiling current previous =>
    exact (hslot _ _ current).append (hslot _ _ previous)

theorem CallbackVerifierCandidateSet.WellFormed.nodup_eligible {input : RawProviderCallback}
    {set : CallbackVerifierCandidateSet Context} (h : set.WellFormed input) :
    ((eligibleCandidates set).map (·.revision.callbackVerifierRevisionId)).Nodup := by
  rw [eligibleCandidates]
  split_ifs
  · exact List.nodup_nil
  · have hperm := (List.mergeSort_perm (pushedCandidates set)
      fun left right => !decide (right.sortKey < left.sortKey)).map
        (·.revision.callbackVerifierRevisionId)
    exact hperm.nodup_iff.mpr (((pushedCandidates_sublist set).map _).nodup h.revisions)

theorem CallbackVerifierCandidateSet.WellFormed.of_eligible {input : RawProviderCallback}
    {set : CallbackVerifierCandidateSet Context} (h : set.WellFormed input)
    {candidate : CallbackVerifierCandidate Context}
    (heligible : candidate ∈ eligibleCandidates set) :
    candidate.WellFormed set.connectionId := by
  rw [eligibleCandidates] at heligible
  split_ifs at heligible
  · cases heligible
  · exact h.candidates candidate
      ((pushedCandidates_sublist set).subset (List.mem_mergeSort.mp heligible))

/-! ## What is reported -/

namespace EmailCallbackVerifierRegistry

variable (registry : EmailCallbackVerifierRegistry Context Unknown)

theorem byKey_eq_filter (key : List Char) :
    registry.byKey key =
      registry.implementations.filter fun implementation =>
        key = implementation.implementationKey := by
  have hfold : ∀ (implementations : List (EmailCallbackVerifier Context Unknown))
      (known : List Char → List (EmailCallbackVerifier Context Unknown)),
      implementations.foldl (fun known implementation => fun key =>
        if key = implementation.implementationKey then known key ++ [implementation] else known key)
          known key =
        known key ++ implementations.filter fun implementation =>
          key = implementation.implementationKey := by
    intro implementations
    induction implementations with
    | nil => simp
    | cons implementation implementations ih =>
      intro known
      rw [List.foldl_cons, ih, List.filter_cons]
      by_cases h : key = implementation.implementationKey <;> simp [h]
  rw [byKey, hfold, List.nil_append]

theorem byKey_implementationKey {connectionId : String}
    {candidate : CallbackVerifierCandidate Context} (h : candidate.WellFormed connectionId) :
    registry.byKey candidate.implementationKey =
      registry.implementations.filter (·.Serves candidate.revision) := by
  rw [byKey_eq_filter]
  refine List.filter_congr fun implementation _ => ?_
  rw [decide_eq_decide]
  exact implementationKey_eq_iff implementation h.verifierKey h.verifierVersion

theorem exact_eq_some {connectionId : String} {candidate : CallbackVerifierCandidate Context}
    (h : candidate.WellFormed connectionId)
    {implementation : EmailCallbackVerifier Context Unknown} :
    registry.exact candidate = some implementation ↔
      registry.implementations.filter (·.Serves candidate.revision) = [implementation] := by
  rw [exact, byKey_implementationKey registry h]
  split
  · rename_i only heq
    rw [heq, Option.some.injEq, List.singleton_inj]
  · rename_i hne
    exact ⟨(nomatch ·), fun h => absurd h (hne implementation)⟩

/-- What an eligible candidate reports : that it has no single implementation, or what is accepted
in its name, if anything is. -/
def report (callback : RawProviderCallback) (candidate : CallbackVerifierCandidate Context) :
    Option (Option AcceptedCallback) :=
  (registry.exact candidate).map fun implementation =>
    acceptedBy candidate (registry.outcome callback candidate implementation)

def verdict (callback : RawProviderCallback) (reports : List (Option (Option AcceptedCallback))) :
    CallbackVerificationResolution :=
  let refuse (code : CallbackRegistryEvidenceCode) : CallbackVerificationResolution :=
    .none callback.ingressCorrelationId (registry.evidence code callback.ingressCorrelationId)
  if reports = [] then refuse .no_candidate
  else if Option.none ∈ reports then refuse .verifier_unavailable
  else
    match reports.filterMap Option.join with
    | [] => refuse .none_verified
    | [accepted] => .exactly_one accepted
    | _ => .ambiguous callback.ingressCorrelationId
        (registry.evidence .multiple_verified callback.ingressCorrelationId)

theorem mapM_exact (callback : RawProviderCallback) :
    ∀ candidates : List (CallbackVerifierCandidate Context),
      match candidates.mapM fun candidate => (registry.exact candidate).map (candidate, ·) with
      | Option.none => Option.none ∈ candidates.map (registry.report callback)
      | some selected => Option.none ∉ candidates.map (registry.report callback) ∧
          (selected.filterMap fun (candidate, implementation) =>
            acceptedBy candidate (registry.outcome callback candidate implementation)) =
            (candidates.map (registry.report callback)).filterMap Option.join
  | [] => by simp
  | candidate :: candidates => by
    have ih := mapM_exact callback candidates
    cases hexact : registry.exact candidate with
    | none => simp [hexact, report]
    | some implementation =>
      cases hrest : candidates.mapM fun candidate =>
          (registry.exact candidate).map (candidate, ·) with
      | none =>
        rw [hrest] at ih
        simp only [List.mapM_cons, hexact, hrest]
        exact List.mem_cons_of_mem _ ih
      | some selected =>
        rw [hrest] at ih
        simp only [List.mapM_cons, hexact, hrest]
        refine ⟨fun h => ?_, ?_⟩
        · rcases List.mem_cons.mp h with h | h
          · simp [report, hexact] at h
          · exact ih.1 h
        · have hreport : registry.report callback candidate =
              some (acceptedBy candidate (registry.outcome callback candidate implementation)) := by
            rw [report, hexact, Option.map_some]
          rw [List.map_cons, List.filterMap_cons, List.filterMap_cons, hreport, ← ih.2]
          rfl

theorem none_mem_of_mapM_exact (callback : RawProviderCallback)
    {candidates : List (CallbackVerifierCandidate Context)}
    (h : (candidates.mapM fun candidate => (registry.exact candidate).map (candidate, ·)) =
      Option.none) : Option.none ∈ candidates.map (registry.report callback) := by
  have hpick := registry.mapM_exact callback candidates
  rw [h] at hpick
  exact hpick

theorem filterMap_of_mapM_exact (callback : RawProviderCallback)
    {candidates : List (CallbackVerifierCandidate Context)}
    {selected : List (CallbackVerifierCandidate Context × _)}
    (h : (candidates.mapM fun candidate => (registry.exact candidate).map (candidate, ·)) =
      some selected) :
    Option.none ∉ candidates.map (registry.report callback) ∧
      (selected.filterMap fun (candidate, implementation) =>
        acceptedBy candidate (registry.outcome callback candidate implementation)) =
        (candidates.map (registry.report callback)).filterMap Option.join := by
  have hpick := registry.mapM_exact callback candidates
  rw [h] at hpick
  exact hpick

theorem resolve_eq {raw callback : RawProviderCallback}
    (hraw : registry.host.validateRawProviderCallback raw = .ok callback)
    {set : CallbackVerifierCandidateSet Context} (hset : set.WellFormed callback) :
    registry.resolve raw set =
      .ok (registry.verdict callback
        ((eligibleCandidates set).map (registry.report callback))) := by
  have hvalid : validateCandidateSet callback set = .ok () := validateCandidateSet_eq_ok.mpr hset
  simp only [resolve, hraw, ok_bind, hvalid, verdict, List.map_eq_nil_iff]
  by_cases hempty : eligibleCandidates set = []
  · rw [if_pos hempty, if_pos hempty]
    rfl
  rw [if_neg hempty, if_neg hempty]
  cases hselected : (eligibleCandidates set).mapM fun candidate =>
      (registry.exact candidate).map (candidate, ·) with
  | none =>
    rw [if_pos (registry.none_mem_of_mapM_exact callback hselected)]
    rfl
  | some selected =>
    have hpick := registry.filterMap_of_mapM_exact callback hselected
    rw [if_neg hpick.1, ← hpick.2]
    dsimp only
    generalize selected.filterMap _ = verified
    rcases verified with - | ⟨one, - | ⟨two, rest⟩⟩ <;> rfl

theorem resolve_of_not_wellFormed {raw callback : RawProviderCallback}
    (hraw : registry.host.validateRawProviderCallback raw = .ok callback)
    {set : CallbackVerifierCandidateSet Context} (hset : ¬ set.WellFormed callback) :
    registry.resolve raw set = .ok (.none callback.ingressCorrelationId
      (registry.evidence .verifier_unavailable callback.ingressCorrelationId)) := by
  cases hvalid : validateCandidateSet callback set with
  | ok u => exact absurd (validateCandidateSet_eq_ok.mp hvalid) hset
  | error e =>
    simp only [resolve, hraw, ok_bind, hvalid]
    rfl

theorem verdict_perm (callback : RawProviderCallback)
    {reports reports' : List (Option (Option AcceptedCallback))} (h : reports.Perm reports') :
    registry.verdict callback reports = registry.verdict callback reports' := by
  have hnil : reports = [] ↔ reports' = [] := by
    rw [← List.length_eq_zero_iff, h.length_eq, List.length_eq_zero_iff]
  have hjoin := h.filterMap Option.join
  simp only [verdict, h.mem_iff, hnil]
  congr 2
  generalize reports.filterMap Option.join = accepted at hjoin
  generalize reports'.filterMap Option.join = accepted' at hjoin
  match accepted, accepted', hjoin with
  | [], _, hjoin => rw [List.nil_perm.mp hjoin]
  | [a], _, hjoin => rw [List.singleton_perm.mp hjoin]
  | a :: b :: rest, accepted', hjoin =>
    match accepted', hjoin.length_eq with
    | _ :: _ :: _, _ => rfl

theorem verdict_eq_exactly_one {callback : RawProviderCallback}
    {reports : List (Option (Option AcceptedCallback))} {accepted : AcceptedCallback} :
    registry.verdict callback reports = .exactly_one accepted ↔
      Option.none ∉ reports ∧ reports.filterMap Option.join = [accepted] := by
  simp only [verdict]
  split_ifs with hnil hnone
  · simp [hnil]
  · simp [hnone]
  · split <;> simp_all

/-! ## Vouching -/

def HasOneImplementation (candidate : CallbackVerifierCandidate Context) : Prop :=
  ∃ implementation, registry.implementations.filter (·.Serves candidate.revision) = [implementation]

/-- An implementation vouches for the callback in the name of the candidate : its answer is well
formed, and bound to the connection and to the payload. -/
def Vouches (callback : RawProviderCallback) (candidate : CallbackVerifierCandidate Context)
    (accepted : AcceptedCallback) : Prop :=
  ∃ implementation ∈ registry.implementations, implementation.Serves candidate.revision ∧
    ∃ answer value verified evidence,
      implementation.verifyCandidate callback candidate = some answer ∧
      answer.contractVersion.value = 1 ∧
      registry.host.parseEvidence answer.evidence = some evidence ∧
      answer.verdict = .verified value ∧
      registry.host.parseVerified value = some verified ∧
      verified.providerConnectionId = callback.providerConnectionId ∧
      verified.payloadDigestSha256 = callback.payloadDigestSha256 ∧
      accepted = candidate.accepted verified evidence

theorem validateVerifierOutcome_eq_verified {host : CallbackHost Unknown}
    {value : CallbackVerifierOutcome Unknown} {input : RawProviderCallback}
    {verified : VerifiedProviderCallback} {evidence : SafeEvidence} :
    host.validateVerifierOutcome value input = some (.verified verified evidence) ↔
      value.contractVersion.value = 1 ∧ host.parseEvidence value.evidence = some evidence ∧
        ∃ answered, value.verdict = .verified answered ∧
          host.parseVerified answered = some verified ∧
          verified.providerConnectionId = input.providerConnectionId ∧
          verified.payloadDigestSha256 = input.payloadDigestSha256 := by
  rw [CallbackHost.validateVerifierOutcome]
  cases value.verdict <;> simp [Option.bind_eq_some_iff]

theorem acceptedBy_eq_some {candidate : CallbackVerifierCandidate Context}
    {outcome : Option CheckedVerifierOutcome} {accepted : AcceptedCallback} :
    acceptedBy candidate outcome = some accepted ↔
      ∃ verified evidence, outcome = some (.verified verified evidence) ∧
        accepted = candidate.accepted verified evidence := by
  rcases outcome with - | ⟨⟨verified, evidence⟩ | evidence⟩
  · simp [acceptedBy]
  · simp [acceptedBy, eq_comm]
  · simp [acceptedBy]

theorem acceptedBy_outcome_iff {callback : RawProviderCallback}
    {candidate : CallbackVerifierCandidate Context}
    {implementation : EmailCallbackVerifier Context Unknown}
    (honly : registry.implementations.filter (·.Serves candidate.revision) = [implementation])
    {accepted : AcceptedCallback} :
    acceptedBy candidate (registry.outcome callback candidate implementation) = some accepted ↔
      registry.Vouches callback candidate accepted := by
  have hserves (other : EmailCallbackVerifier Context Unknown) :
      other ∈ registry.implementations ∧ other.Serves candidate.revision ↔
        other = implementation := by
    rw [← List.mem_singleton, ← honly, List.mem_filter, decide_eq_true_eq]
  rw [acceptedBy_eq_some]
  constructor
  · rintro ⟨verified, evidence, houtcome, rfl⟩
    obtain ⟨answer, hanswer, hchecked⟩ := Option.bind_eq_some_iff.mp houtcome
    obtain ⟨hversion, hevidence, value, hverdict, hverified, hconnection, hpayload⟩ :=
      validateVerifierOutcome_eq_verified.mp hchecked
    obtain ⟨hmem, hown⟩ := (hserves implementation).mpr rfl
    exact ⟨implementation, hmem, hown, answer, value, verified, evidence, hanswer, hversion,
      hevidence, hverdict, hverified, hconnection, hpayload, rfl⟩
  · rintro ⟨other, hmem, hown, answer, value, verified, evidence, hanswer, hversion, hevidence,
      hverdict, hverified, hconnection, hpayload, rfl⟩
    obtain rfl := (hserves other).mp ⟨hmem, hown⟩
    have hchecked := validateVerifierOutcome_eq_verified.mpr
      ⟨hversion, hevidence, value, hverdict, hverified, hconnection, hpayload⟩
    exact ⟨verified, evidence, Option.bind_eq_some_iff.mpr ⟨answer, hanswer, hchecked⟩, rfl⟩

theorem report_ne_none {connectionId : String} {callback : RawProviderCallback}
    {candidate : CallbackVerifierCandidate Context} (h : candidate.WellFormed connectionId) :
    registry.report callback candidate ≠ Option.none ↔ registry.HasOneImplementation candidate := by
  rw [report, Ne, Option.map_eq_none_iff, Option.eq_none_iff_forall_ne_some]
  push Not
  exact exists_congr fun implementation => registry.exact_eq_some h

theorem report_join {connectionId : String} {callback : RawProviderCallback}
    {candidate : CallbackVerifierCandidate Context} (h : candidate.WellFormed connectionId)
    (hone : registry.HasOneImplementation candidate) {accepted : AcceptedCallback} :
    (registry.report callback candidate).join = some accepted ↔
      registry.Vouches callback candidate accepted := by
  obtain ⟨implementation, honly⟩ := hone
  rw [report, (registry.exact_eq_some h).mpr honly, Option.map_some, Option.join_some]
  exact registry.acceptedBy_outcome_iff honly

end EmailCallbackVerifierRegistry

/-! ## The result -/

theorem filterMap_eq_singleton_iff {α β : Type} {f : α → Option β} {b : β} :
    ∀ {as : List α}, as.Nodup →
      (as.filterMap f = [b] ↔
        ∃ a ∈ as, f a = some b ∧ ∀ a' ∈ as, ∀ b', f a' = some b' → a' = a)
  | [], _ => by simp
  | a :: as, hnodup => by
    obtain ⟨hnew, hnodup⟩ := List.nodup_cons.mp hnodup
    cases hfa : f a with
    | none =>
      rw [List.filterMap_cons_none hfa, filterMap_eq_singleton_iff hnodup]
      constructor
      · rintro ⟨c, hc, hfc, honly⟩
        refine ⟨c, List.mem_cons_of_mem _ hc, hfc, List.forall_mem_cons.mpr ⟨?_, honly⟩⟩
        exact fun b' h => by rw [hfa] at h; cases h
      · rintro ⟨c, hc, hfc, honly⟩
        rcases List.mem_cons.mp hc with rfl | hc
        · rw [hfa] at hfc
          cases hfc
        · exact ⟨c, hc, hfc, (List.forall_mem_cons.mp honly).2⟩
    | some b₀ =>
      rw [List.filterMap_cons_some hfa, List.cons.injEq, List.filterMap_eq_nil_iff]
      constructor
      · rintro ⟨rfl, hrest⟩
        refine ⟨a, List.mem_cons_self, hfa, List.forall_mem_cons.mpr ⟨fun _ _ => rfl, ?_⟩⟩
        intro a' ha' b' h
        rw [hrest a' ha'] at h
        cases h
      · rintro ⟨c, hc, hfc, honly⟩
        obtain rfl := honly a List.mem_cons_self b₀ hfa
        rw [hfa] at hfc
        refine ⟨Option.some.inj hfc, fun a' ha' => ?_⟩
        by_contra hsome
        obtain ⟨b', hb'⟩ := Option.ne_none_iff_exists'.mp hsome
        exact hnew (honly a' (List.mem_cons_of_mem _ ha') b' hb' ▸ ha')

theorem CallbackHost.eq_of_validateRawProviderCallback {host : CallbackHost Unknown}
    {raw callback : RawProviderCallback}
    (h : host.validateRawProviderCallback raw = .ok callback) : callback = raw := by
  simp only [CallbackHost.validateRawProviderCallback, bind_eq_ok, require_eq_ok, pure_eq_ok,
    exists_const] at h
  obtain ⟨-, -, -, -, -, -, -, -, rfl⟩ := h
  rfl

namespace EmailCallbackVerifierRegistry

variable (registry : EmailCallbackVerifierRegistry Context Unknown)

theorem resolve_congr {raw : RawProviderCallback} {set set' : CallbackVerifierCandidateSet Context}
    (registry' : EmailCallbackVerifierRegistry Context Unknown)
    (hhost : registry'.host = registry.host)
    (h : registry.host.validateRawProviderCallback raw = .ok raw →
      registry.resolve raw set = registry'.resolve raw set') :
    registry.resolve raw set = registry'.resolve raw set' := by
  cases hraw : registry.host.validateRawProviderCallback raw with
  | ok callback =>
    obtain rfl := CallbackHost.eq_of_validateRawProviderCallback hraw
    exact h hraw
  | error e => rw [resolve, resolve, hhost, hraw, error_bind, error_bind]

theorem resolve_eq_exactly_one_iff {raw : RawProviderCallback}
    {set : CallbackVerifierCandidateSet Context} {accepted : AcceptedCallback} :
    registry.resolve raw set = .ok (.exactly_one accepted) ↔
      registry.host.validateRawProviderCallback raw = .ok raw ∧ set.WellFormed raw ∧
        (∀ candidate, set.Eligible candidate → registry.HasOneImplementation candidate) ∧
        ∃ candidate, set.Eligible candidate ∧ registry.Vouches raw candidate accepted ∧
          ∀ other a, set.Eligible other → registry.Vouches raw other a → other = candidate := by
  cases hraw : registry.host.validateRawProviderCallback raw with
  | error e => simp [resolve, hraw]
  | ok callback =>
    obtain rfl := CallbackHost.eq_of_validateRawProviderCallback hraw
    by_cases hset : set.WellFormed callback
    · have hwell {candidate} (h : set.Eligible candidate) : candidate.WellFormed set.connectionId :=
        hset.of_eligible (mem_eligibleCandidates.mpr h)
      have hnone : Option.none ∉ (eligibleCandidates set).map (registry.report callback) ↔
          ∀ candidate, set.Eligible candidate → registry.HasOneImplementation candidate := by
        simp only [List.mem_map, mem_eligibleCandidates, not_exists, not_and]
        exact forall_congr' fun candidate => forall_congr' fun h =>
          registry.report_ne_none (hwell h)
      rw [registry.resolve_eq hraw hset, Except.ok.injEq, verdict_eq_exactly_one, hnone,
        List.filterMap_map, filterMap_eq_singleton_iff hset.nodup_eligible.of_map]
      simp only [hset, true_and, Function.comp_apply, mem_eligibleCandidates]
      refine and_congr_right fun hone => exists_congr fun candidate =>
        and_congr_right fun heligible => ?_
      rw [registry.report_join (hwell heligible) (hone candidate heligible)]
      refine and_congr_right fun _ => ⟨?_, ?_⟩
      · intro honly other a hother hvouches
        exact honly other hother a
          ((registry.report_join (hwell hother) (hone other hother)).mpr hvouches)
      · intro honly other hother a hreport
        exact honly other a hother
          ((registry.report_join (hwell hother) (hone other hother)).mp hreport)
    · rw [registry.resolve_of_not_wellFormed hraw hset]
      simp [hset]

theorem resolve_implementations_perm
    {implementations : List (EmailCallbackVerifier Context Unknown)}
    (h : registry.implementations.Perm implementations) (raw : RawProviderCallback)
    (set : CallbackVerifierCandidateSet Context) :
    registry.resolve raw set = { registry with implementations }.resolve raw set := by
  refine registry.resolve_congr { registry with implementations } rfl fun hraw => ?_
  by_cases hset : set.WellFormed raw
  · rw [registry.resolve_eq hraw hset, resolve_eq { registry with implementations } hraw hset]
    have hreport : (eligibleCandidates set).map (registry.report raw) =
        (eligibleCandidates set).map ({ registry with implementations }.report raw) := by
      refine List.map_congr_left fun candidate hcandidate => ?_
      have hwell := hset.of_eligible hcandidate
      have hexact :
          registry.exact candidate = { registry with implementations }.exact candidate := by
        refine Option.ext fun implementation => ?_
        rw [registry.exact_eq_some hwell, exact_eq_some { registry with implementations } hwell]
        have hfilter := h.filter (·.Serves candidate.revision)
        exact ⟨fun hone => (List.singleton_perm.mp (hone ▸ hfilter)).symm,
          fun hone => List.perm_singleton.mp (hone ▸ hfilter)⟩
      rw [report, report, hexact]
      rfl
    rw [hreport]
    rfl
  · rw [registry.resolve_of_not_wellFormed hraw hset,
      resolve_of_not_wellFormed { registry with implementations } hraw hset]

theorem resolve_of_reports_perm {raw : RawProviderCallback}
    {set set' : CallbackVerifierCandidateSet Context} (hset : set.WellFormed raw)
    (hset' : set'.WellFormed raw)
    (h : ((eligibleCandidates set).map (registry.report raw)).Perm
      ((eligibleCandidates set').map (registry.report raw))) :
    registry.resolve raw set = registry.resolve raw set' := by
  refine registry.resolve_congr registry rfl fun hraw => ?_
  rw [registry.resolve_eq hraw hset, registry.resolve_eq hraw hset', registry.verdict_perm raw h]

theorem resolve_of_same_candidates {raw : RawProviderCallback}
    {set set' : CallbackVerifierCandidateSet Context} (hset : set.WellFormed raw)
    (hset' : set'.WellFormed raw)
    (h : ∀ candidate, set.Eligible candidate ↔ set'.Eligible candidate) :
    registry.resolve raw set = registry.resolve raw set' := by
  refine registry.resolve_of_reports_perm hset hset' (List.Perm.map _ ?_)
  rw [List.perm_ext_iff_of_nodup hset.nodup_eligible.of_map hset'.nodup_eligible.of_map]
  exact fun candidate => by rw [mem_eligibleCandidates, mem_eligibleCandidates, h]

/-- The answers of verifiers do not depend on the slot of a candidate. -/
def IgnoresSlots (callback : RawProviderCallback) : Prop :=
  ∀ implementation ∈ registry.implementations,
    ∀ candidate other : CallbackVerifierCandidate Context, candidate.revision = other.revision →
      implementation.verifyCandidate callback candidate =
        implementation.verifyCandidate callback other

theorem resolve_of_same_revisions {raw : RawProviderCallback}
    {set set' : CallbackVerifierCandidateSet Context} (hset : set.WellFormed raw)
    (hset' : set'.WellFormed raw) (hslots : registry.IgnoresSlots raw)
    (h : ∀ revision, (∃ candidate, set.Eligible candidate ∧ candidate.revision = revision) ↔
      ∃ candidate, set'.Eligible candidate ∧ candidate.revision = revision) :
    registry.resolve raw set = registry.resolve raw set' := by
  have hreport (set : CallbackVerifierCandidateSet Context) (hset : set.WellFormed raw) :
      (eligibleCandidates set).map (registry.report raw) =
        ((eligibleCandidates set).map (·.revision)).map
          fun revision => registry.report raw ⟨revision, .current none⟩ := by
    rw [List.map_map]
    refine List.map_congr_left fun candidate hcandidate => ?_
    have hsame :
        registry.exact ⟨candidate.revision, .current none⟩ = registry.exact candidate := rfl
    rw [Function.comp_apply, report, report, hsame]
    cases hexact : registry.exact candidate with
    | none => rfl
    | some implementation =>
      have hmem :
          implementation ∈ registry.implementations.filter (·.Serves candidate.revision) := by
        rw [(registry.exact_eq_some (hset.of_eligible hcandidate)).mp hexact]
        exact List.mem_singleton_self _
      have hanswer := hslots implementation (List.mem_filter.mp hmem).1 candidate
        ⟨candidate.revision, .current none⟩ rfl
      rw [Option.map_some, Option.map_some, outcome, outcome, hanswer]
      rfl
  refine registry.resolve_of_reports_perm hset hset' ?_
  rw [hreport set hset, hreport set' hset']
  have hnodup (set : CallbackVerifierCandidateSet Context) (hset : set.WellFormed raw) :
      ((eligibleCandidates set).map (·.revision)).Nodup := by
    have hids := hset.nodup_eligible
    rw [show (fun candidate : CallbackVerifierCandidate Context =>
      candidate.revision.callbackVerifierRevisionId) =
        (·.callbackVerifierRevisionId) ∘ (·.revision) from rfl, ← List.map_map] at hids
    exact hids.of_map
  refine List.Perm.map _ ((List.perm_ext_iff_of_nodup (hnodup set hset) (hnodup set' hset')).mpr ?_)
  intro revision
  simp only [List.mem_map, mem_eligibleCandidates]
  exact h revision

theorem resolve_of_silent_candidate {raw : RawProviderCallback}
    {set set' : CallbackVerifierCandidateSet Context} (hset : set.WellFormed raw)
    (hset' : set'.WellFormed raw) {silent : CallbackVerifierCandidate Context}
    (h : ∀ candidate, set'.Eligible candidate ↔ set.Eligible candidate ∨ candidate = silent)
    (hsilent : ∀ accepted, ¬ registry.Vouches raw silent accepted) (accepted : AcceptedCallback) :
    registry.resolve raw set' = .ok (.exactly_one accepted) ↔
      registry.HasOneImplementation silent ∧
        registry.resolve raw set = .ok (.exactly_one accepted) := by
  simp only [resolve_eq_exactly_one_iff, hset, hset', true_and, h, or_imp, forall_and, forall_eq]
  constructor
  · rintro ⟨hraw, ⟨hones, hone⟩, candidate, heligible | rfl, hvouches, honly, -⟩
    · exact ⟨hone, hraw, hones, candidate, heligible, hvouches, honly⟩
    · exact absurd hvouches (hsilent accepted)
  · rintro ⟨hone, hraw, hones, candidate, heligible, hvouches, honly⟩
    refine ⟨hraw, ⟨hones, hone⟩, candidate, .inl heligible, hvouches, honly, ?_⟩
    exact fun other a hother hv => absurd (hother ▸ hv) (hsilent a)

end EmailCallbackVerifierRegistry

/-- A callback is accepted exactly when it and the candidates are well formed, every candidate that
is asked has one implementation, and one of them vouches; and in the name of that one. Neither the
order of the implementations matters, nor the candidates that are not asked, nor the slots to
verifiers that do not look at them, and one more candidate that does not vouch changes nothing
that is accepted if it has an implementation, and otherwise nothing is accepted. -/
theorem callback_accepted_by_exactly_one
    (registry : EmailCallbackVerifierRegistry Context Unknown) :
    (∀ raw set accepted, registry.resolve raw set = .ok (.exactly_one accepted) ↔
      registry.host.validateRawProviderCallback raw = .ok raw ∧ set.WellFormed raw ∧
        (∀ candidate, set.Eligible candidate → registry.HasOneImplementation candidate) ∧
        ∃ candidate, set.Eligible candidate ∧ registry.Vouches raw candidate accepted ∧
          ∀ other a, set.Eligible other → registry.Vouches raw other a → other = candidate) ∧
    (∀ implementations, registry.implementations.Perm implementations →
      ∀ raw set, registry.resolve raw set = { registry with implementations }.resolve raw set) ∧
    (∀ raw set set', set.WellFormed raw → set'.WellFormed raw →
      ((∀ candidate, set.Eligible candidate ↔ set'.Eligible candidate) →
        registry.resolve raw set = registry.resolve raw set') ∧
      (registry.IgnoresSlots raw →
        (∀ revision, (∃ candidate, set.Eligible candidate ∧ candidate.revision = revision) ↔
          ∃ candidate, set'.Eligible candidate ∧ candidate.revision = revision) →
        registry.resolve raw set = registry.resolve raw set') ∧
      ∀ silent,
        (∀ candidate, set'.Eligible candidate ↔ set.Eligible candidate ∨ candidate = silent) →
        (∀ accepted, ¬ registry.Vouches raw silent accepted) →
        ∀ accepted, registry.resolve raw set' = .ok (.exactly_one accepted) ↔
          registry.HasOneImplementation silent ∧
            registry.resolve raw set = .ok (.exactly_one accepted)) := by
  refine ⟨fun _ _ _ => registry.resolve_eq_exactly_one_iff,
    fun _ => registry.resolve_implementations_perm, fun raw set set' hset hset' => ⟨?_, ?_, ?_⟩⟩
  · exact registry.resolve_of_same_candidates hset hset'
  · exact registry.resolve_of_same_revisions hset hset'
  · exact fun silent h hsilent => registry.resolve_of_silent_candidate hset hset' h hsilent

/-! ## A connection with two revisions -/

namespace CallbackExample

def digit (n : ℕ) (h : ¬ 10 ∣ n) : Decimal := ⟨false, n, 0, .inl h⟩

theorem value_digit {n : ℕ} (h : ¬ 10 ∣ n) : (digit n h).value = n := by
  simp [digit, Decimal.value]

def one : Decimal := digit 1 (by decide)

def emptyDigest : String := "e3b0c44298fc1c149afbf4c8996fb92427ae41e4649b934ca495991b7852b855"

def evidence : SafeEvidence where
  registeredCode := "callback.verified"
  correlationId := "corr1_callback1"
  canonicalDigestSha256 :=
    ⟨"b5ab68f2906b47c2fbdcbbdda2de3fd51905d5189a81c37bdc3994e2de96a515", by decide⟩
  registeredFacts := []

def verified : VerifiedProviderCallback where
  schemaVersion := 1
  normalizerVersion := 1
  providerConnectionId := "connection-1"
  providerEventId := "event-1"
  payloadDigestSha256 := emptyDigest
  normalizedEvidenceClass := .delivered
  signatureTimestamp := 100
  replayWindowExpiresAt := 200
  verifiedAt := 100
  providerOccurredAt := none
  identity := .external_delivery_key_only "delivery-1"
  canonicalDigestSha256 :=
    ⟨"e74d9d5e02cb8292c395eed579556938d42fff97f289a696a76df4deaf682c0f", by decide⟩

def host : CallbackHost (SafeEvidence ⊕ VerifiedProviderCallback) where
  sha256 _ := emptyDigest
  decodeEvidence := Sum.getLeft?
  decodeVerified := Sum.getRight?
  evidenceDigest _ := evidence.canonicalDigestSha256
  verifiedDigest _ := verified.canonicalDigestSha256

theorem isNormal_zero : ¬ 10 ∣ 0 ∨ false = false ∧ 0 = 0 ∧ (0 : ℤ) = 0 := .inr ⟨rfl, rfl, rfl⟩

def raw : RawProviderCallback where
  contractVersion := one
  providerConnectionId := "connection-1"
  ingressCorrelationId := "corr1_callback1"
  payloadDigestSha256 := emptyDigest
  payloadByteLength := ⟨false, 0, 0, isNormal_zero⟩
  rawPayloadBytes := []
  signatureEnvelopeBytes := []

def revision (id version : String) : CallbackVerifierRevision Unit where
  connectionId := "connection-1"
  callbackVerifierRevisionId := id
  verifierKey := "mail.signature"
  verifierVersion := version
  verificationContractVersion := one
  keyIdMode := .absent
  configDigestSha256 := emptyDigest
  opaqueContext := ()

def verifier (version : String) :
    EmailCallbackVerifier Unit (SafeEvidence ⊕ VerifiedProviderCallback) where
  verifierKey := "mail.signature"
  verifierVersion := version
  verificationContractVersion := one
  verifyCandidate _ candidate :=
    match candidate.pointerRole with
    | .current _ => some ⟨one, .verified (.inr verified), .inl evidence⟩
    | .unexpired_previous _ => none

def registry : EmailCallbackVerifierRegistry Unit (SafeEvidence ⊕ VerifiedProviderCallback) where
  host := host
  evidence _ _ := evidence
  implementations := [verifier "v1", verifier "v2"]

/-- At time 5, with a previous revision until `ceiling`. -/
def slots (current previous : CallbackVerifierRevision Unit) (ceiling : Decimal) :
    CallbackVerifierCandidateSet Unit where
  contractVersion := one
  connectionId := "connection-1"
  verifierPointerVersion := one
  resolvedAtDatabaseTime := digit 5 (by decide)
  connectionLifecycleVerificationUntil := none
  pointer := .active ⟨current, none⟩ (some ⟨previous, ceiling⟩)

/-- At time 5, with no previous revision. -/
def slot (current : CallbackVerifierRevision Unit) : CallbackVerifierCandidateSet Unit where
  contractVersion := one
  connectionId := "connection-1"
  verifierPointerVersion := one
  resolvedAtDatabaseTime := digit 5 (by decide)
  connectionLifecycleVerificationUntil := none
  pointer := .active ⟨current, none⟩ none

theorem isSafeInteger_digit {n : ℕ} (h : ¬ 10 ∣ n) (hn : n < 10) :
    isSafeInteger (digit n h).value := by
  rw [value_digit]
  exact isSafeInteger_natCast (by omega)

theorem positive_one : isPositiveVersion one :=
  ⟨isSafeInteger_digit _ (by decide), by rw [one, value_digit]; norm_num⟩

theorem bounded_digit {n : ℕ} (h : ¬ 10 ∣ n) (hn : n < 10) : isBoundedTimestamp (digit n h) :=
  ⟨isSafeInteger_digit h hn, by rw [value_digit]; positivity⟩

theorem validate_raw : host.validateRawProviderCallback raw = .ok raw := by
  have hone : one.value = 1 := by rw [one, value_digit, Nat.cast_one]
  have hzero : raw.payloadByteLength.value = 0 := by simp [raw, Decimal.value]
  simp only [CallbackHost.validateRawProviderCallback, bind_eq_ok, require_eq_ok, pure_eq_ok,
    exists_const, and_true]
  refine ⟨hone, by decide, by decide, by decide, ?_, ?_, by decide, rfl⟩
  · rw [hzero]
    exact ⟨isSafeInteger_natCast (n := 0) (by decide), le_rfl, rfl⟩
  · rw [hzero]
    norm_num

theorem isDefinitionKey_signature : isDefinitionKey "mail.signature" = true := by decide

theorem isProviderSha256_emptyDigest : isProviderSha256 emptyDigest = true := by decide

theorem wellFormed_slots {id id' version version' : String} (hid : isProviderOpaqueId id = true)
    (hid' : isProviderOpaqueId id' = true) (hversion : isDefinitionKey version = true)
    (hversion' : isDefinitionKey version' = true) (hne : id ≠ id') {n : ℕ} (h : ¬ 10 ∣ n)
    (hn : n < 10) :
    (slots (revision id version) (revision id' version') (digit n h)).WellFormed raw where
  contractVersion := by rw [slots, one, value_digit, Nat.cast_one]
  connection := rfl
  pointerVersion := positive_one
  databaseTime := bounded_digit (show ¬ 10 ∣ 5 by decide) (by decide)
  connectionCeiling := fun _ h => nomatch h
  drainingCeiling := fun _ h => nomatch h
  candidates := by
    intro candidate hcandidate
    rcases List.mem_cons.mp hcandidate with rfl | hcandidate
    · exact ⟨rfl, hid, isDefinitionKey_signature, hversion, positive_one,
        isProviderSha256_emptyDigest, fun _ h => nomatch h⟩
    · obtain rfl := List.mem_singleton.mp hcandidate
      refine ⟨rfl, hid', isDefinitionKey_signature, hversion', positive_one,
        isProviderSha256_emptyDigest, fun ceiling hceiling => ?_⟩
      obtain rfl := Option.some.inj hceiling
      exact bounded_digit h hn
  revisions := by simpa [declaredCandidates, slots, CurrentVerifier.candidate,
    PreviousVerifier.candidate, revision] using hne

theorem wellFormed_slot {id version : String} (hid : isProviderOpaqueId id = true)
    (hversion : isDefinitionKey version = true) : (slot (revision id version)).WellFormed raw where
  contractVersion := by rw [slot, one, value_digit, Nat.cast_one]
  connection := rfl
  pointerVersion := positive_one
  databaseTime := bounded_digit (show ¬ 10 ∣ 5 by decide) (by decide)
  connectionCeiling := fun _ h => nomatch h
  drainingCeiling := fun _ h => nomatch h
  candidates := by
    intro candidate hcandidate
    obtain rfl := List.mem_singleton.mp hcandidate
    exact ⟨rfl, hid, isDefinitionKey_signature, hversion, positive_one,
      isProviderSha256_emptyDigest, fun _ h => nomatch h⟩
  revisions := List.nodup_singleton _

theorem hasOneImplementation {id version : String} {role : CallbackPointerRole}
    (h : version = "v1" ∨ version = "v2") :
    registry.HasOneImplementation ⟨revision id version, role⟩ := by
  refine ⟨verifier version, ?_⟩
  rcases h with rfl | rfl <;>
    simp [registry, verifier, revision, EmailCallbackVerifier.Serves]

theorem vouches_iff {id version : String} {role : CallbackPointerRole}
    (h : version = "v1" ∨ version = "v2") {callback : RawProviderCallback}
    (hconnection : callback.providerConnectionId = "connection-1")
    (hpayload : callback.payloadDigestSha256 = emptyDigest) {accepted : AcceptedCallback} :
    registry.Vouches callback ⟨revision id version, role⟩ accepted ↔
      (∃ ceiling, role = .current ceiling) ∧
        accepted = CallbackVerifierCandidate.accepted ⟨revision id version, role⟩ verified
          evidence := by
  have hone : one.value = 1 := by rw [one, value_digit, Nat.cast_one]
  have hevidence : host.parseEvidence (.inl evidence) = some evidence := rfl
  have hverified : host.parseVerified (.inr verified) = some verified := rfl
  constructor
  · rintro ⟨implementation, hmem, -, answer, value, v, e, hanswer, -, he, hvalue, hv, -, -, rfl⟩
    obtain ⟨name, rfl⟩ : ∃ name, implementation = verifier name := by
      simp only [registry, List.mem_cons, List.not_mem_nil, or_false] at hmem
      rcases hmem with rfl | rfl <;> exact ⟨_, rfl⟩
    cases role with
    | unexpired_previous => cases hanswer
    | current ceiling =>
      obtain rfl := Option.some.inj hanswer
      obtain rfl := CallbackVerdict.verified.inj hvalue
      obtain rfl := Option.some.inj (hevidence.symm.trans he)
      obtain rfl := Option.some.inj (hverified.symm.trans hv)
      exact ⟨⟨ceiling, rfl⟩, rfl⟩
  · rintro ⟨⟨ceiling, rfl⟩, rfl⟩
    refine ⟨verifier version, ?_, ⟨rfl, rfl, rfl⟩, _, _, _, _, rfl, hone, hevidence, rfl, hverified,
      hconnection.symm, hpayload.symm, rfl⟩
    rcases h with rfl | rfl <;> simp [registry]

theorem eligible_slots_iff {current previous : CallbackVerifierRevision Unit}
    {candidate : CallbackVerifierCandidate Unit} :
    (slots current previous (digit 9 (by decide))).Eligible candidate ↔
      candidate = ⟨current, .current none⟩ ∨
        candidate = ⟨previous, .unexpired_previous (digit 9 (by decide))⟩ := by
  have hlt : (digit 5 (by decide)).value < (digit 9 (by decide)).value := by
    rw [value_digit, value_digit]
    norm_num
  simp [CallbackVerifierCandidateSet.Eligible, slots, CurrentVerifier.candidate,
    PreviousVerifier.candidate, hlt]

/-- What is accepted in the name of the current revision. -/
def acceptedCurrent (id version : String) : AcceptedCallback :=
  (⟨revision id version, .current none⟩ : CallbackVerifierCandidate Unit).accepted verified evidence

theorem only_current_vouches {id id' version version' : String}
    (h : version = "v1" ∨ version = "v2") (h' : version' = "v1" ∨ version' = "v2")
    {callback : RawProviderCallback} (hconnection : callback.providerConnectionId = "connection-1")
    (hpayload : callback.payloadDigestSha256 = emptyDigest) :
    let offered := slots (revision id version) (revision id' version') (digit 9 (by decide))
    (∀ candidate, offered.Eligible candidate → registry.HasOneImplementation candidate) ∧
      ∃ candidate, offered.Eligible candidate ∧
        registry.Vouches callback candidate (acceptedCurrent id version) ∧
        ∀ other a, offered.Eligible other → registry.Vouches callback other a →
          other = candidate := by
  refine ⟨fun candidate heligible => ?_, ⟨revision id version, .current none⟩,
    eligible_slots_iff.mpr (.inl rfl), ?_, fun other a heligible hvouches => ?_⟩
  · rcases eligible_slots_iff.mp heligible with rfl | rfl
    · exact hasOneImplementation h
    · exact hasOneImplementation h'
  · exact (vouches_iff h hconnection hpayload).mpr ⟨⟨none, rfl⟩, rfl⟩
  · rcases eligible_slots_iff.mp heligible with rfl | rfl
    · rfl
    · obtain ⟨⟨ceiling, hrole⟩, -⟩ := (vouches_iff h' hconnection hpayload).mp hvouches
      cases hrole

theorem eligible_slot_iff {current : CallbackVerifierRevision Unit}
    {candidate : CallbackVerifierCandidate Unit} :
    (slot current).Eligible candidate ↔ candidate = ⟨current, .current none⟩ := by
  simp [CallbackVerifierCandidateSet.Eligible, slot, CurrentVerifier.candidate]

theorem slot_vouches {id version : String} (h : version = "v1" ∨ version = "v2")
    {callback : RawProviderCallback} (hconnection : callback.providerConnectionId = "connection-1")
    (hpayload : callback.payloadDigestSha256 = emptyDigest) :
    (∀ candidate, (slot (revision id version)).Eligible candidate →
      registry.HasOneImplementation candidate) ∧
      ∃ candidate, (slot (revision id version)).Eligible candidate ∧
        registry.Vouches callback candidate (acceptedCurrent id version) ∧
        ∀ other a, (slot (revision id version)).Eligible other →
          registry.Vouches callback other a → other = candidate := by
  refine ⟨fun candidate heligible => ?_, ⟨revision id version, .current none⟩,
    eligible_slot_iff.mpr rfl, (vouches_iff h hconnection hpayload).mpr ⟨⟨none, rfl⟩, rfl⟩,
    fun other a heligible _ => eligible_slot_iff.mp heligible⟩
  rw [eligible_slot_iff.mp heligible]
  exact hasOneImplementation h

end CallbackExample

open CallbackExample in
/-- The callback is accepted in the name of the current revision. -/
theorem callback_accepted_current_revision :
    registry.resolve raw
      (slots (revision "revision-a" "v1") (revision "revision-b" "v2") (digit 9 (by decide))) =
        .ok (.exactly_one (acceptedCurrent "revision-a" "v1")) :=
  ((callback_accepted_by_exactly_one registry).1 _ _ _).mpr
    ⟨validate_raw, wellFormed_slots (by decide) (by decide) (by decide) (by decide) (by decide) _
      (by decide), only_current_vouches (.inl rfl) (.inr rfl) rfl rfl⟩

open CallbackExample in
/-- A callback of another version is thrown back although one verifier vouches for it. An expired
revision that has the identity of the current one keeps it from being asked, and without it the
current one is accepted. And with verifiers that look at the slots, it is the one revision that
is accepted or the other. -/
theorem callback_envelope_and_slots_count :
    (let callback := { raw with contractVersion := digit 2 (by decide) }
     let offered :=
      slots (revision "revision-a" "v1") (revision "revision-b" "v2") (digit 9 (by decide))
     offered.WellFormed callback ∧
      (∀ candidate, offered.Eligible candidate → registry.HasOneImplementation candidate) ∧
      (∃ candidate, offered.Eligible candidate ∧
        registry.Vouches callback candidate (acceptedCurrent "revision-a" "v1") ∧
        ∀ other a, offered.Eligible other → registry.Vouches callback other a → other = candidate) ∧
      registry.resolve callback offered = .error .version_unsupported) ∧
    (let expired :=
      slots (revision "revision-a" "v1") (revision "revision-a" "v2") (digit 3 (by decide))
     (∀ candidate, expired.Eligible candidate ↔
        candidate = ⟨revision "revision-a" "v1", .current none⟩) ∧
      registry.resolve raw expired = .ok (.none "corr1_callback1" evidence)) ∧
    registry.resolve raw (slot (revision "revision-a" "v1")) =
      .ok (.exactly_one (acceptedCurrent "revision-a" "v1")) ∧
    registry.resolve raw
      (slots (revision "revision-a" "v1") (revision "revision-b" "v2") (digit 9 (by decide))) =
        .ok (.exactly_one (acceptedCurrent "revision-a" "v1")) ∧
    registry.resolve raw
      (slots (revision "revision-b" "v2") (revision "revision-a" "v1") (digit 9 (by decide))) =
        .ok (.exactly_one (acceptedCurrent "revision-b" "v2")) := by
  have hset : (slots (revision "revision-a" "v1") (revision "revision-b" "v2")
      (digit 9 (by decide))).WellFormed raw :=
    wellFormed_slots (by decide) (by decide) (by decide) (by decide) (by decide) _ (by decide)
  have hswapped : (slots (revision "revision-b" "v2") (revision "revision-a" "v1")
      (digit 9 (by decide))).WellFormed raw :=
    wellFormed_slots (by decide) (by decide) (by decide) (by decide) (by decide) _ (by decide)
  have hvouches := @only_current_vouches "revision-a" "revision-b" "v1" "v2" (.inl rfl) (.inr rfl)
    { raw with contractVersion := digit 2 (by decide) } rfl rfl
  refine ⟨⟨{ hset with connection := hset.connection }, hvouches.1, hvouches.2, ?_⟩,
    ⟨fun candidate => ?_, ?_⟩, ?_, ?_, ?_⟩
  · have hversion : (digit 2 (by decide)).value ≠ 1 := by
      rw [value_digit]
      norm_num
    rw [EmailCallbackVerifierRegistry.resolve, CallbackHost.validateRawProviderCallback,
      require_false hversion]
    rfl
  · have hle : ¬ (digit 5 (by decide)).value < (digit 3 (by decide)).value := by
      rw [value_digit, value_digit]
      norm_num
    simp [CallbackVerifierCandidateSet.Eligible, slots, CurrentVerifier.candidate, hle]
  · refine registry.resolve_of_not_wellFormed validate_raw fun h => ?_
    exact absurd h.revisions (by decide)
  · exact registry.resolve_eq_exactly_one_iff.mpr
      ⟨validate_raw, wellFormed_slot (by decide) (by decide), slot_vouches (.inl rfl) rfl rfl⟩
  · exact registry.resolve_eq_exactly_one_iff.mpr
      ⟨validate_raw, hset, only_current_vouches (.inl rfl) (.inr rfl) rfl rfl⟩
  · exact registry.resolve_eq_exactly_one_iff.mpr
      ⟨validate_raw, hswapped, only_current_vouches (.inr rfl) (.inl rfl) rfl rfl⟩

end JooEvents
