import JooEvents.Program.Application

/-!
# Repointing references

`applyProgramReferenceRepoints` writes the repoints of a merge, or of its
compensation, to the references of an event. What it does to one reference is
`LedBy` : a reference the plan selects names the other item and is one version on,
any other reference stays as it was. Over a snapshot, this holds of every reference of
every contributor (`snapshotLedBy_of_repointSnapshot`).
-/

namespace JooEvents

open Fallible

variable {D : Type} [DecidableEq D]

theorem repointReference_ok {reference reference' : ProgramReferenceRecord}
    {repoint : ProgramReferenceRepoint}
    (h : repointReference reference repoint = .ok reference') :
    reference.mode = .current ∧
      ∃ version, nextAggregateVersion reference.version = some version ∧
        reference' = { reference with version, item := repoint.toItem } := by
  simp only [repointReference, bind_eq_ok, require_eq_ok, orRefuse_eq_ok, exists_const,
    pure_eq_ok] at h
  obtain ⟨⟨hmode, -⟩, version, hversion, rfl⟩ := h
  exact ⟨hmode, version, hversion, rfl⟩

theorem referenceKey_repointReferences {repoints : List ProgramReferenceRepoint}
    {references references' : List ProgramReferenceRecord}
    (h : repointReferences repoints references = .ok references') :
    references'.map ProgramReferenceRecord.referenceKey =
      references.map ProgramReferenceRecord.referenceKey := by
  refine Keyed.map_eq_of_forall₂ (fun a b hab => ?_) (forall₂_of_mapM_eq_ok h)
  split at hab
  · rw [pure_eq_ok.mp hab]
  · obtain ⟨-, version, -, rfl⟩ := repointReference_ok hab
    rfl

theorem repointContributor_keeps {host : Host D}
    {references : List (ProgramReferenceContributionPlan D)}
    {contributor contributor' : ProgramReferenceContributorSnapshot D}
    (h : repointContributor host references contributor = .ok contributor') :
    contributor'.contributor = contributor.contributor ∧
      contributor'.scope = contributor.scope ∧ contributor'.guard.id = contributor.guard.id ∧
      contributor'.references.map ProgramReferenceRecord.referenceKey =
        contributor.references.map ProgramReferenceRecord.referenceKey := by
  simp only [repointContributor, bind_eq_ok, require_eq_ok, orRefuse_eq_ok, exists_const] at h
  obtain ⟨expected, -, -, h⟩ := h
  split at h
  · rw [← pure_eq_ok.mp h]
    exact ⟨rfl, rfl, rfl, rfl⟩
  · simp only [bind_eq_ok, require_eq_ok, orRefuse_eq_ok, exists_const, pure_eq_ok] at h
    obtain ⟨repointed, hrepointed, -, version, -, rfl⟩ := h
    exact ⟨rfl, rfl, rfl, referenceKey_repointReferences hrepointed⟩

/-- The plan repoints references : it is a merge or the compensation of one. -/
def ProgramVocabularyMutationPlan.isMerge : ProgramVocabularyMutationPlan D → Bool
  | .merge .. => true
  | .merge_compensation .. => true
  | _ => false

/-- A snapshot with its contributors exchanged for their repointed forms. -/
def CompleteProgramReferenceSnapshot.repointed {host : Host D}
    {references : List (ProgramReferenceContributionPlan D)}
    (current : CompleteProgramReferenceSnapshot D)
    (contributors : List (ProgramReferenceContributorSnapshot D))
    (h : current.contributors.mapM (repointContributor host references) = .ok contributors) :
    CompleteProgramReferenceSnapshot D where
  registryDigestSha256 := current.registryDigestSha256
  contributors := contributors
  ordered := by
    have hkeys := Keyed.map_eq_of_forall₂ (fun a b (hab : repointContributor host references a =
      .ok b) => congrArg ProgramReferenceContributorRef.identity (repointContributor_keeps hab).1)
      (forall₂_of_mapM_eq_ok h)
    exact Keyed.pairwise_of_map_eq hkeys current.ordered
  guards_nodup := by
    have hids := Keyed.map_eq_of_forall₂ (fun a b (hab : repointContributor host references a =
      .ok b) => (repointContributor_keeps hab).2.2.1) (forall₂_of_mapM_eq_ok h)
    exact hids ▸ current.guards_nodup
  references_ordered c hc := by
    obtain ⟨b, hb, hbc⟩ := Keyed.exists_left_of_forall₂ (forall₂_of_mapM_eq_ok h) hc
    have hkeys := congrArg (List.map Subtype.val) (repointContributor_keeps hbc).2.2.2
    rw [List.map_map, List.map_map] at hkeys
    exact Keyed.pairwise_of_map_eq hkeys (current.references_ordered b hb)

/-- All contributors of a snapshot with their references led along a plan. -/
def repointSnapshot (host : Host D) (references : List (ProgramReferenceContributionPlan D))
    (current : CompleteProgramReferenceSnapshot D) :
    Except ProgramVocabularyError (CompleteProgramReferenceSnapshot D) :=
  match h : current.contributors.mapM (repointContributor host references) with
  | .error e => .error e
  | .ok contributors => .ok (current.repointed contributors h)

theorem repointSnapshot_ok {host : Host D}
    {references : List (ProgramReferenceContributionPlan D)}
    {current next : CompleteProgramReferenceSnapshot D}
    (h : repointSnapshot host references current = .ok next) :
    List.Forall₂ (fun c c' => repointContributor host references c = .ok c')
      current.contributors next.contributors := by
  unfold repointSnapshot at h
  split at h
  · cases h
  · rename_i contributors hcontributors
    obtain rfl := Except.ok.inj h
    exact forall₂_of_mapM_eq_ok hcontributors

def applyProgramReferenceRepoints (host : Host D) (current : CompleteProgramReferenceSnapshot D)
    (plan : ProgramVocabularyMutationPlan D) :
    Except ProgramVocabularyError (CompleteProgramReferenceSnapshot D) := do
  require (planParses host plan = true ∧ plan.isMerge = true) (.planning .invalid_plan)
  let (registryDigest, references) ← orRefuse plan.referencePlan (.planning .invalid_plan)
  require (current.registryDigestSha256 = registryDigest ∧
    (expectedReferencePlans plan current).any (referencePlansMatch host references) = true)
    (.planning .stale_reference)
  repointSnapshot host references current

/-! ## Selected references -/

/-- What a repoint does to a reference : one that is selected names the item `toItem` and
is one version on, any other stays as it is. -/
def LedBy (selected : ProgramReferenceRecord → Prop) (toItem : ProgramItemRef)
    (reference reference' : ProgramReferenceRecord) : Prop :=
  (selected reference → ∃ version : Version, version.val = reference.version.val + 1 ∧
    reference' = { reference with version, item := toItem }) ∧
  (¬ selected reference → reference' = reference)

/-- The references that `contributorPlan` leads away from an item, out of those with a key
among `keys` if any are given. -/
def SelectedBy (fromItem : ProgramItemRef) (keys : Option (List String))
    (reference : ProgramReferenceRecord) : Prop :=
  reference.item = fromItem ∧ reference.mode = .current ∧
    keys.all (fun keys => keys.contains reference.referenceKey.val) = true

instance (fromItem : ProgramItemRef) (keys : Option (List String)) :
    DecidablePred (SelectedBy fromItem keys) := fun reference =>
  inferInstanceAs (Decidable (reference.item = fromItem ∧ reference.mode = .current ∧ _ = true))

def repointOf (fromItem toItem : ProgramItemRef) (keys : Option (List String))
    (reference : ProgramReferenceRecord) : Option ProgramReferenceRepoint :=
  if SelectedBy fromItem keys reference then
    some
      { referenceKey := reference.referenceKey, expectedVersion := reference.version
        fromItem := reference.item, toItem, destination := reference.destination }
  else none

theorem referenceKey_of_repointOf {fromItem toItem : ProgramItemRef}
    {keys : Option (List String)} {reference : ProgramReferenceRecord}
    {repoint : ProgramReferenceRepoint} (h : repoint ∈ repointOf fromItem toItem keys reference) :
    repoint.referenceKey = reference.referenceKey := by
  unfold repointOf at h
  split at h
  · rw [← Option.some.inj h]
  · cases h

theorem ledBy_of_repointContributor {host : Host D}
    {references : List (ProgramReferenceContributionPlan D)}
    {contributor contributor' : ProgramReferenceContributorSnapshot D}
    {expected : ProgramReferenceContributionPlan D} {fromItem toItem : ProgramItemRef}
    {keys : Option (List String)} (hordered : OrderedReferences contributor.references)
    (hfind : (references.find? fun entry => entry.contributor = contributor.contributor) =
      some expected)
    (hlive : expected.liveRepoints = contributor.references.filterMap
      (repointOf fromItem toItem keys))
    (h : repointContributor host references contributor = .ok contributor') :
    List.Forall₂ (LedBy (SelectedBy fromItem keys) toItem) contributor.references
      contributor'.references := by
  simp only [repointContributor, hfind, bind_eq_ok, require_eq_ok, orRefuse_eq_ok,
    exists_const, Option.some.injEq] at h
  obtain ⟨expected, rfl, -, h⟩ := h
  split at h
  · rename_i hempty
    rw [← pure_eq_ok.mp h]
    rw [hlive, List.filterMap_eq_nil_iff] at hempty
    refine List.forall₂_same.mpr fun reference hr => ⟨fun hs => ?_, fun _ => rfl⟩
    have hnone := hempty reference hr
    rw [repointOf, if_pos hs] at hnone
    cases hnone
  · simp only [bind_eq_ok, require_eq_ok, orRefuse_eq_ok, exists_const, pure_eq_ok] at h
    obtain ⟨repointed, hrepointed, -, version, -, rfl⟩ := h
    rw [repointReferences, hlive] at hrepointed
    have hstep := forall₂_of_mapM_eq_ok hrepointed
    refine ((List.forall₂_and_left _ _).mpr ⟨fun r hr => hr, hstep⟩).imp ?_
    rintro r r' ⟨hr, hrr'⟩
    rw [Keyed.find?_filterMap_key (fun a b => referenceKey_of_repointOf) hordered.nodup r hr,
      repointOf] at hrr'
    split at hrr'
    · rename_i heq
      have hs : ¬ SelectedBy fromItem keys r := fun hs => by rw [if_pos hs] at heq; cases heq
      exact ⟨fun h => absurd h hs, fun _ => (pure_eq_ok.mp hrr').symm⟩
    · rename_i repoint heq
      by_cases hs : SelectedBy fromItem keys r
      · rw [if_pos hs, Option.some.injEq] at heq
        subst heq
        obtain ⟨-, version, hversion, rfl⟩ := repointReference_ok hrr'
        exact ⟨fun _ => ⟨version, val_of_nextAggregateVersion hversion, rfl⟩,
          fun hn => absurd hs hn⟩
      · rw [if_neg hs] at heq
        cases heq

/-- A snapshot whose selected references were led to an item, and nothing else. -/
def SnapshotLedBy (selected : ProgramReferenceContributorSnapshot D → ProgramReferenceRecord → Prop)
    (toItem : ProgramItemRef) (before after : CompleteProgramReferenceSnapshot D) : Prop :=
  List.Forall₂ (fun c c' => c'.contributor = c.contributor ∧
    List.Forall₂ (LedBy (selected c) toItem) c.references c'.references)
    before.contributors after.contributors

omit [DecidableEq D] in
theorem CompleteProgramReferenceSnapshot.contributors_nodup
    (snapshot : CompleteProgramReferenceSnapshot D) :
    (snapshot.contributors.map ProgramReferenceContributorSnapshot.contributor).Nodup := by
  have hnodup := nodup_map_of_textLt snapshot.ordered
  rw [show (fun c : ProgramReferenceContributorSnapshot D => c.contributor.identity) =
    ProgramReferenceContributorRef.identity ∘ ProgramReferenceContributorSnapshot.contributor
    from rfl, ← List.map_map] at hnodup
  exact hnodup.of_map

theorem snapshotLedBy_of_repointSnapshot {host : Host D}
    {before after : CompleteProgramReferenceSnapshot D}
    {planOf : ProgramReferenceContributorSnapshot D → ProgramReferenceContributionPlan D}
    {fromItem toItem : ProgramItemRef}
    {keys : ProgramReferenceContributorSnapshot D → Option (List String)}
    (hcontributor : ∀ c, (planOf c).contributor = c.contributor)
    (hlive : ∀ c, (planOf c).liveRepoints =
      c.references.filterMap (repointOf fromItem toItem (keys c)))
    (h : repointSnapshot host (before.contributors.map planOf) before = .ok after) :
    SnapshotLedBy (fun c => SelectedBy fromItem (keys c)) toItem before after := by
  have hnd : ((before.contributors.map planOf).map
      ProgramReferenceContributionPlan.contributor).Nodup := by
    rw [List.map_map]
    exact (List.map_congr_left fun c _ => hcontributor c) ▸ before.contributors_nodup
  refine ((List.forall₂_and_left _ _).mpr ⟨fun c hc => hc, repointSnapshot_ok h⟩).imp ?_
  rintro c c' ⟨hc, hcc'⟩
  refine ⟨(repointContributor_keeps hcc').1, ?_⟩
  refine ledBy_of_repointContributor (before.references_ordered c hc)
    ((Keyed.find?_key_eq_some_iff hnd).mpr ?_) (hlive c) hcc'
  exact ⟨List.mem_map_of_mem hc, hcontributor c⟩

end JooEvents
