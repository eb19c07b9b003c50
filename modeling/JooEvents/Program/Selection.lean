import Mathlib.Data.List.Dedup
import JooEvents.Program.Validation

/-!
# What a compensation leads back

The input of a compensation lists reference keys by contributor. Of several entries for a
contributor the planner keeps the last, and it looks the entries up for the contributors that
are registered. Every key it looks up is led back or the input is refused
(`mem_liveRepoints_iff`), but a key listed only in an entry it does not look up is neither
(`compensation_leads_back_iff`).
-/

namespace JooEvents

open Fallible

variable {D : Type}

/-- The keys that an input lists, with the contributors it lists them for. -/
def listedReferences (references : List SelectedReferences) : Set (String × String) :=
  {p | ∃ entry ∈ references, entry.contributor.identity = p.1 ∧ p.2 ∈ entry.referenceKeys}

/-- The keys that contributions repoint, with their contributors. -/
def repointedReferences (contributions : List (ProgramReferenceContributionPlan D)) :
    Set (String × String) :=
  {p | ∃ contribution ∈ contributions, contribution.contributor.identity = p.1 ∧
    ∃ repoint ∈ contribution.liveRepoints, repoint.referenceKey.val = p.2}

/-- A plan leads exactly the listed references from its target back to its source. -/
def ProgramVocabularyMutationPlan.LeadsBack (references : List SelectedReferences) :
    ProgramVocabularyMutationPlan D → Prop
  | .merge_compensation _ sourceBefore _ target _ _ contributions =>
    repointedReferences contributions = listedReferences references ∧
      ∀ contribution ∈ contributions, ∀ repoint ∈ contribution.liveRepoints,
        repoint.fromItem = target.ref ∧ repoint.toItem = sourceBefore.ref
  | _ => False

/-- Every key that is listed is listed for a registered contributor, and in the last entry
for it. -/
def ProgramReferenceContributorRegistry.LooksUp (registry : ProgramReferenceContributorRegistry)
    (references : List SelectedReferences) : Prop :=
  ∀ entry ∈ references, ∀ key ∈ entry.referenceKeys,
    (∃ contributor ∈ registry.contributors,
      contributor.identity = entry.contributor.identity) ∧
      key ∈ selectedKeysOf references entry.contributor

theorem selectedKeysOf_congr {references : List SelectedReferences}
    {a b : ProgramReferenceContributorRef} (h : a.identity = b.identity) :
    selectedKeysOf references a = selectedKeysOf references b := by
  rw [selectedKeysOf, selectedKeysOf, h]

theorem exists_entry_of_mem_selectedKeysOf {references : List SelectedReferences}
    {contributor : ProgramReferenceContributorRef} {key : String}
    (h : key ∈ selectedKeysOf references contributor) :
    ∃ entry ∈ references, entry.contributor.identity = contributor.identity ∧
      key ∈ entry.referenceKeys := by
  unfold selectedKeysOf at h
  split at h
  · rename_i entry hfind
    exact ⟨entry, List.mem_reverse.mp (List.mem_of_find?_eq_some hfind),
      by simpa using List.find?_some hfind, h⟩
  · simp at h

theorem of_repointOf {fromItem toItem : ProgramItemRef} {keys : Option (List String)}
    {reference : ProgramReferenceRecord} {repoint : ProgramReferenceRepoint}
    (h : repoint ∈ repointOf fromItem toItem keys reference) :
    SelectedBy fromItem keys reference ∧ repoint.fromItem = fromItem ∧ repoint.toItem = toItem := by
  unfold repointOf at h
  split at h
  · rename_i hselected
    obtain rfl := Option.some.inj h
    exact ⟨hselected, hselected.1, rfl⟩
  · cases h

theorem mem_liveRepoints_iff {contributor : ProgramReferenceContributorSnapshot D}
    (hordered : OrderedReferences contributor.references) {source target : ProgramItemRef}
    {keys : List String}
    (hlength : (compensationPlan contributor source target keys).liveRepoints.length =
      keys.dedup.length) {key : String} :
    (∃ repoint ∈ (compensationPlan contributor source target keys).liveRepoints,
      repoint.referenceKey.val = key) ↔ key ∈ keys := by
  have hlive : (compensationPlan contributor source target keys).liveRepoints =
      contributor.references.filterMap (repointOf target source (some keys)) := rfl
  rw [hlive] at hlength ⊢
  generalize hrepoints :
    contributor.references.filterMap (repointOf target source (some keys)) = repoints at hlength ⊢
  have hnodup : (repoints.map fun repoint => repoint.referenceKey.val).Nodup := by
    have hkeys := pairwise_filterMap_key hordered (g := repointOf target source (some keys))
      fun r repoint => referenceKey_of_repointOf
    rw [hrepoints] at hkeys
    have hmap := (nodup_keys_of_textLt hkeys).map Subtype.val_injective
    rwa [List.map_map] at hmap
  have hsub : ∀ k ∈ repoints.map fun repoint => repoint.referenceKey.val, k ∈ keys := by
    intro k hk
    obtain ⟨repoint, hrepoint, rfl⟩ := List.mem_map.mp hk
    rw [← hrepoints] at hrepoint
    obtain ⟨reference, -, hreference⟩ := List.mem_filterMap.mp hrepoint
    rw [referenceKey_of_repointOf hreference]
    simpa using (of_repointOf hreference).1.2.2
  -- As many distinct keys as were selected, and all of them selected.
  have hperm := (List.subperm_of_subset hnodup fun k hk =>
    List.mem_dedup.mpr (hsub k hk)).perm_of_length_le (by rw [List.length_map, hlength])
  rw [← List.mem_dedup, ← hperm.mem_iff, List.mem_map]

section

variable {host : Host D} {state : ProgramVocabularyState host}
  {registry : ProgramReferenceContributorRegistry} {source : ProgramReferenceSnapshotSource D}

theorem map_contributor_of_captureReferences {snapshot : CompleteProgramReferenceSnapshot D}
    (h : captureReferences host state registry source = .ok snapshot) :
    snapshot.contributors.map ProgramReferenceContributorSnapshot.contributor =
      registry.contributors := by
  simp only [captureReferences, fromReferences, bind_eq_ok, mapError_eq_ok, pure_eq_ok] at h
  obtain ⟨captured, hcaptured, -, -, rfl⟩ := h
  exact (map_contributor_of_readContributor (capture_ok hcaptured).1).1

theorem repointedReferences_compensation {snapshot : CompleteProgramReferenceSnapshot D}
    (hsnapshot : captureReferences host state registry source = .ok snapshot)
    {references : List SelectedReferences} {sourceRef targetRef : ProgramItemRef}
    (hlengths : ∀ c ∈ snapshot.contributors, (compensationPlan c sourceRef targetRef
      (selectedKeysOf references c.contributor)).liveRepoints.length =
        (selectedKeysOf references c.contributor).dedup.length) :
    repointedReferences (snapshot.contributors.map fun c =>
        compensationPlan c sourceRef targetRef (selectedKeysOf references c.contributor)) =
      {p | ∃ contributor ∈ registry.contributors, contributor.identity = p.1 ∧
        p.2 ∈ selectedKeysOf references contributor} := by
  have hregistered := map_contributor_of_captureReferences hsnapshot
  ext ⟨identity, key⟩
  constructor
  · rintro ⟨contribution, hcontribution, hidentity, hkey⟩
    obtain ⟨c, hc, rfl⟩ := List.mem_map.mp hcontribution
    refine ⟨c.contributor, hregistered ▸ List.mem_map_of_mem hc, hidentity, ?_⟩
    exact (mem_liveRepoints_iff (snapshot.references_ordered c hc) (hlengths c hc)).mp hkey
  · rintro ⟨contributor, hcontributor, hidentity, hkey⟩
    rw [← hregistered] at hcontributor
    obtain ⟨c, hc, rfl⟩ := List.mem_map.mp hcontributor
    exact ⟨_, List.mem_map_of_mem hc, hidentity,
      (mem_liveRepoints_iff (snapshot.references_ordered c hc) (hlengths c hc)).mpr hkey⟩

/-- A planned compensation leads exactly the listed references back, if and only if each listed
key is in the last entry for a registered contributor. -/
theorem compensation_leads_back_iff {input : MergeInput} {restoreSource : Bool}
    {references : List SelectedReferences} {plan : ProgramVocabularyMutationPlan D}
    (h : planProgramVocabularyMutation host (.merge_compensation input restoreSource references)
      state registry source = .ok plan) :
    plan.LeadsBack references ↔ registry.LooksUp references := by
  obtain ⟨-, sourceItem, -, targetItem, -, snapshot, hsnapshot, hlengths, sourceAfter, -, rfl⟩ :=
    planMergeCompensation_eq_ok.mp h
  rw [ProgramVocabularyMutationPlan.LeadsBack,
    repointedReferences_compensation hsnapshot hlengths]
  constructor
  · rintro ⟨hsame, -⟩ entry hentry key hkey
    have hlisted : (entry.contributor.identity, key) ∈ listedReferences references :=
      ⟨entry, hentry, rfl, hkey⟩
    rw [← hsame] at hlisted
    obtain ⟨contributor, hcontributor, hidentity, hselected⟩ := hlisted
    exact ⟨⟨contributor, hcontributor, hidentity⟩, selectedKeysOf_congr hidentity ▸ hselected⟩
  · intro hlooks
    refine ⟨?_, fun contribution hcontribution repoint hrepoint => ?_⟩
    · ext ⟨identity, key⟩
      constructor
      · rintro ⟨contributor, -, rfl, hselected⟩
        exact exists_entry_of_mem_selectedKeysOf hselected
      · rintro ⟨entry, hentry, rfl, hkey⟩
        obtain ⟨⟨contributor, hcontributor, hidentity⟩, hselected⟩ := hlooks entry hentry key hkey
        exact ⟨contributor, hcontributor, hidentity, selectedKeysOf_congr hidentity ▸ hselected⟩
    · obtain ⟨c, -, rfl⟩ := List.mem_map.mp hcontribution
      obtain ⟨reference, -, hreference⟩ := List.mem_filterMap.mp hrepoint
      exact (of_repointOf hreference).2

end

namespace MergeExample

/-- Nothing that a contributor of another version is said to have is led back, nor refused. -/
def unregistered : List SelectedReferences := [⟨⟨contributor.contributor.key, ⟨2, isPositiveSafe_two⟩⟩, ["c"]⟩]

/-- The reference of the example to the room that is kept. -/
def registered : List SelectedReferences := [⟨contributor.contributor, ["c"]⟩]

def plannedRepoints (references : List SelectedReferences) :
    Except ProgramVocabularyError (List ProgramReferenceRepoint) :=
  (planProgramVocabularyMutation SymbolicDigest.host
    (.merge_compensation (input .one .one) false references) vocabulary registry
    (sourceOf [contributor])).map fun plan =>
      (plan.referencePlan.elim [] Prod.snd).flatMap fun contribution => contribution.liveRepoints

theorem plannedRepoints_unregistered : plannedRepoints unregistered = .ok [] := by
  decide +kernel

theorem plannedRepoints_registered : (plannedRepoints registered).toBool = true := by
  decide +kernel

example : selectedKeysOf unregistered contributor.contributor = [] := by decide +kernel

end MergeExample

open MergeExample in
/-- A reference that is listed for a version of the contributor that is not registered is
neither led back nor refused. -/
theorem compensation_drops_unregistered :
    ∃ plan, planProgramVocabularyMutation SymbolicDigest.host
        (.merge_compensation (input .one .one) false unregistered) vocabulary registry
        (sourceOf [contributor]) = .ok plan ∧ ¬ plan.LeadsBack unregistered := by
  obtain ⟨plan, hplan, hrepoints⟩ := map_eq_ok.mp plannedRepoints_unregistered
  refine ⟨plan, hplan, fun hback => ?_⟩
  cases plan with
  | merge_compensation base before after target restored digest contributions =>
    have hlisted : (_, "c") ∈ listedReferences unregistered :=
      ⟨_, List.mem_singleton_self _, rfl, List.mem_singleton_self _⟩
    rw [← hback.1] at hlisted
    obtain ⟨contribution, hcontribution, -, repoint, hrepoint, -⟩ := hlisted
    have hmem := List.mem_flatMap.mpr ⟨contribution, hcontribution, hrepoint⟩
    rw [show contributions.flatMap _ = [] from hrepoints] at hmem
    cases hmem
  | create | edit | retire | restore | delete | merge => exact hback

open MergeExample in
theorem compensation_leads_back_registered :
    ∃ plan, planProgramVocabularyMutation SymbolicDigest.host
        (.merge_compensation (input .one .one) false registered) vocabulary registry
        (sourceOf [contributor]) = .ok plan ∧ plan.LeadsBack registered := by
  obtain ⟨repoints, hrepoints⟩ := exists_of_toBool plannedRepoints_registered
  obtain ⟨plan, hplan, -⟩ := map_eq_ok.mp hrepoints
  refine ⟨plan, hplan, (compensation_leads_back_iff hplan).mpr ?_⟩
  unfold ProgramReferenceContributorRegistry.LooksUp
  decide +kernel

end JooEvents
