import JooEvents.Review.Domain
import Mathlib.Data.List.Dedup
import Mathlib.Data.List.Perm.Basic

/-!
# Submissions that arrive while a round is open

A submission that arrives later is handed out to the reviewers that would have got it when the
round was opened (`expectedPairs_arrival`), and once only (`ensureArrivalAssignments_stored`).

The identities of the new assignments are handed in, one for each reviewer. They are not checked
to be distinct, as they are when a round is opened (`assignmentSeedMap`) : the assignments have
distinct identities and distinct reviewers exactly when the identities are distinct and no
reviewer is listed twice (`arrival_hand_out`).
-/

namespace JooEvents.Review

open Fallible

variable {D : Type}

theorem perm_expectedReviewAssignmentPairs (candidates : List Candidate)
    (reviewers : List RosterMember) :
    (expectedReviewAssignmentPairs candidates reviewers).Perm <|
      reviewers.flatMap fun reviewer =>
        (candidates.filter (reviewerCoversCandidate reviewer)).map fun candidate =>
          (reviewer.reviewerId, candidate.submissionId) := by
  refine ((perm_sortReviewers reviewers).flatMap_right _).trans ?_
  refine List.Perm.flatMap_left _ fun reviewer _ => ?_
  exact ((perm_sortCandidates candidates).filter _).map _

/-- The reviewers that cover a candidate, paired with it. -/
def coveringPairs (candidate : Candidate) (reviewers : List RosterMember) :
    List (ApplicationId × ApplicationId) :=
  (reviewers.filter fun reviewer => reviewerCoversCandidate reviewer candidate).map fun reviewer =>
    (reviewer.reviewerId, candidate.submissionId)

theorem flatMap_covering (candidate : Candidate) (reviewers : List RosterMember) :
    (reviewers.flatMap fun reviewer =>
      ([candidate].filter (reviewerCoversCandidate reviewer)).map fun candidate =>
        (reviewer.reviewerId, candidate.submissionId)) = coveringPairs candidate reviewers := by
  induction reviewers with
  | nil => rfl
  | cons reviewer reviewers ih =>
    rw [List.flatMap_cons, ih, coveringPairs, coveringPairs, List.filter_cons]
    cases h : reviewerCoversCandidate reviewer candidate <;> simp [h]

theorem expectedPairs_arrival (candidates : List Candidate) (candidate : Candidate)
    (reviewers : List RosterMember) :
    (expectedReviewAssignmentPairs (candidates ++ [candidate]) reviewers).Perm
      (expectedReviewAssignmentPairs candidates reviewers ++ coveringPairs candidate reviewers) := by
  refine (perm_expectedReviewAssignmentPairs _ reviewers).trans ?_
  refine .trans ?_ ((perm_expectedReviewAssignmentPairs candidates reviewers).symm.append_right _)
  rw [← flatMap_covering]
  simp only [List.filter_append, List.map_append]
  exact (List.flatMap_append_perm reviewers _ _).symm

/-! ## Hand-outs -/

theorem ensureArrivalAssignments_eq_ok {scope : Scope} {roundId : ApplicationId}
    {candidate : Candidate} {seeds : List ArrivalSeed} {time : Instant}
    {repository : Repository D} {sources : PlanningSource} {assignments : List Assignment} :
    ensureArrivalAssignments scope roundId candidate seeds time repository sources =
        .ok assignments ↔
      (∃ round, requiredOpenRound scope roundId repository = .ok round) ∧
        ∃ roster, sources.readReviewerRoster scope = some roster ∧
          let expected := arrivalReviewers candidate roster.reviewers
            (repository.listAssignments scope roundId)
          ((seeds.map ArrivalSeed.reviewerId).dedup.length = seeds.length ∧
            (seeds.map ArrivalSeed.reviewerId).dedup.length = expected.length ∧
            ∀ reviewer ∈ expected, (arrivalSeedFor seeds reviewer.reviewerId.val).isSome = true) ∧
          ∃ rows, expected.mapM (fun reviewer => do
              let text ← orRefuse (arrivalSeedFor seeds reviewer.reviewerId.val) .thrown
              let id ← orRefuse (parseReviewId text) .thrown
              return newAssignment scope id roundId
                (reviewer.reviewerId, candidate.submissionId) time) =
              (.ok rows : Except ReviewError _) ∧
            sortAssignments rows = assignments := by
  simp only [ensureArrivalAssignments, bind_eq_ok, require_eq_ok, orRefuse_eq_ok, pure_eq_ok,
    exists_and_right, exists_const]

theorem mem_arrivalReviewers {candidate : Candidate} {reviewers : List RosterMember}
    {existing : List Assignment} {reviewer : RosterMember} :
    reviewer ∈ arrivalReviewers candidate reviewers existing ↔
      reviewer ∈ reviewers ∧ reviewerCoversCandidate reviewer candidate = true ∧
        ∀ assignment ∈ existing, assignment.submissionId = candidate.submissionId →
          assignment.reviewerId ≠ reviewer.reviewerId := by
  rw [arrivalReviewers, (perm_sortReviewers _).mem_iff, List.mem_filter, Bool.and_eq_true,
    decide_eq_true_eq]

theorem parseReviewId_eq_some {value : String} {id : ApplicationId} :
    parseReviewId value = some id ↔ value = id.val := by
  unfold parseReviewId
  split
  · simp only [Option.some.injEq, Subtype.ext_iff]
  · rename_i h
    exact ⟨fun h' => by simp at h', fun h' => absurd (h' ▸ id.property) h⟩

theorem rows_of_hand_out {scope : Scope} {roundId : ApplicationId} {candidate : Candidate}
    {seeds : List ArrivalSeed} {time : Instant} {expected : List RosterMember}
    {rows : List Assignment}
    (h : expected.mapM (fun reviewer => do
        let text ← orRefuse (arrivalSeedFor seeds reviewer.reviewerId.val) .thrown
        let id ← orRefuse (parseReviewId text) .thrown
        return newAssignment scope id roundId (reviewer.reviewerId, candidate.submissionId) time) =
      (.ok rows : Except ReviewError _)) :
    List.Forall₂ (fun reviewer row =>
      arrivalSeedFor seeds reviewer.reviewerId.val = some row.id.val ∧
        row = newAssignment scope row.id roundId (reviewer.reviewerId, candidate.submissionId)
          time) expected rows := by
  refine (forall₂_of_mapM_eq_ok h).imp fun reviewer row hrow => ?_
  simp only [bind_eq_ok, orRefuse_eq_ok, pure_eq_ok, parseReviewId_eq_some] at hrow
  obtain ⟨text, htext, id, rfl, rfl⟩ := hrow
  exact ⟨htext, rfl⟩

theorem map_of_rows {scope : Scope} {roundId : ApplicationId} {candidate : Candidate}
    {seeds : List ArrivalSeed} {time : Instant} {expected : List RosterMember}
    {rows : List Assignment}
    (h : List.Forall₂ (fun reviewer row =>
      arrivalSeedFor seeds reviewer.reviewerId.val = some row.id.val ∧
        row = newAssignment scope row.id roundId (reviewer.reviewerId, candidate.submissionId)
          time) expected rows) :
    rows.map Assignment.pair = expected.map (fun reviewer =>
        (reviewer.reviewerId, candidate.submissionId)) ∧
      rows.map (fun row => some row.id.val) =
        expected.map fun reviewer => arrivalSeedFor seeds reviewer.reviewerId.val := by
  induction h with
  | nil => exact ⟨rfl, rfl⟩
  | cons hrow _ ih =>
    obtain ⟨hseed, hnew⟩ := hrow
    refine ⟨?_, ?_⟩
    · rw [List.map_cons, List.map_cons, ih.1, hnew]
      rfl
    · rw [List.map_cons, List.map_cons, ih.2, hseed]

theorem pairs_of_hand_out {scope : Scope} {roundId : ApplicationId} {candidate : Candidate}
    {seeds : List ArrivalSeed} {time : Instant} {repository : Repository D}
    {sources : PlanningSource} {assignments : List Assignment} {roster : RosterSet}
    (hroster : sources.readReviewerRoster scope = some roster)
    (h : ensureArrivalAssignments scope roundId candidate seeds time repository sources =
      .ok assignments) :
    (assignments.map Assignment.pair).Perm <|
      (arrivalReviewers candidate roster.reviewers (repository.listAssignments scope roundId)).map
        fun reviewer => (reviewer.reviewerId, candidate.submissionId) := by
  obtain ⟨-, roster', hroster', -, rows, hrows, rfl⟩ := ensureArrivalAssignments_eq_ok.mp h
  obtain rfl := Option.some.inj (hroster.symm.trans hroster')
  rw [← (map_of_rows (rows_of_hand_out hrows)).1]
  exact (perm_sortAssignments rows).map _

theorem arrivalReviewers_of_none {candidate : Candidate} {reviewers : List RosterMember}
    {existing : List Assignment}
    (h : ∀ assignment ∈ existing, assignment.submissionId ≠ candidate.submissionId) :
    ((arrivalReviewers candidate reviewers existing).map fun reviewer =>
      (reviewer.reviewerId, candidate.submissionId)).Perm (coveringPairs candidate reviewers) := by
  refine ((perm_sortReviewers _).map _).trans (.of_eq ?_)
  rw [coveringPairs]
  congr 1
  refine List.filter_congr fun reviewer _ => ?_
  have hnone : ∀ assignment ∈ existing, assignment.submissionId = candidate.submissionId →
      assignment.reviewerId ≠ reviewer.reviewerId :=
    fun assignment hassignment heq => absurd heq (h assignment hassignment)
  rw [decide_eq_true hnone, Bool.and_true]

/-- The repository after assignments were inserted. -/
def Repository.withAssignments (repository : Repository D) (assignments : List Assignment) :
    Repository D :=
  { repository with
    listAssignments := fun scope roundId => repository.listAssignments scope roundId ++
      assignments.filter fun assignment => assignment.scope = scope ∧ assignment.roundId = roundId
    readAssignment := fun scope id =>
      (assignments.find? fun assignment => assignment.scope = scope ∧ assignment.id = id).or
        (repository.readAssignment scope id) }

theorem arrivalReviewers_stored {scope : Scope} {roundId : ApplicationId}
    {candidate : Candidate} {seeds : List ArrivalSeed} {time : Instant}
    {repository : Repository D} {sources : PlanningSource} {assignments : List Assignment}
    {roster : RosterSet} (hroster : sources.readReviewerRoster scope = some roster)
    (h : ensureArrivalAssignments scope roundId candidate seeds time repository sources =
      .ok assignments) :
    arrivalReviewers candidate roster.reviewers
      ((repository.withAssignments assignments).listAssignments scope roundId) = [] := by
  refine List.eq_nil_iff_forall_not_mem.mpr fun reviewer hreviewer => ?_
  obtain ⟨hmem, hcovers, hnone⟩ := mem_arrivalReviewers.mp hreviewer
  obtain ⟨-, roster', hroster', -, rows, hrows, rfl⟩ := ensureArrivalAssignments_eq_ok.mp h
  obtain rfl := Option.some.inj (hroster.symm.trans hroster')
  -- the reviewer was expected before, so one of the rows is for the reviewer
  have hexpected : reviewer ∈ arrivalReviewers candidate roster.reviewers
      (repository.listAssignments scope roundId) :=
    mem_arrivalReviewers.mpr ⟨hmem, hcovers, fun assignment hassignment =>
      hnone assignment (List.mem_append_left _ hassignment)⟩
  obtain ⟨row, hrow, -, hnew⟩ := Keyed.exists_left_of_forall₂ (rows_of_hand_out hrows).flip hexpected
  refine hnone row (List.mem_append_right _ (List.mem_filter.mpr
    ⟨(perm_sortAssignments rows).mem_iff.mpr hrow, ?_⟩)) ?_ ?_ <;> rw [hnew]
  · exact decide_eq_true ⟨rfl, rfl⟩
  · rfl
  · rfl

theorem ensureArrivalAssignments_stored {scope : Scope} {roundId : ApplicationId}
    {candidate : Candidate} {seeds seeds' : List ArrivalSeed} {time time' : Instant}
    {repository : Repository D} {sources : PlanningSource} {assignments again : List Assignment}
    (h : ensureArrivalAssignments scope roundId candidate seeds time repository sources =
      .ok assignments) :
    ensureArrivalAssignments scope roundId candidate seeds' time'
        (repository.withAssignments assignments) sources = .ok again ↔
      seeds' = [] ∧ again = [] := by
  obtain ⟨hround, roster, hroster, -⟩ := ensureArrivalAssignments_eq_ok.mp h
  rw [ensureArrivalAssignments_eq_ok]
  have hnone := arrivalReviewers_stored hroster h
  constructor
  · rintro ⟨-, roster', hroster', ⟨hsize, hlength, -⟩, rows, hrows, rfl⟩
    obtain rfl := Option.some.inj (hroster.symm.trans hroster')
    rw [hnone] at hlength hrows
    obtain rfl := pure_eq_ok.mp hrows
    exact ⟨List.length_eq_zero_iff.mp (hsize.symm.trans hlength), rfl⟩
  · rintro ⟨rfl, rfl⟩
    refine ⟨hround, roster, hroster, ?_⟩
    rw [hnone]
    exact ⟨⟨rfl, rfl, by simp⟩, [], rfl, rfl⟩

theorem arrivalSeedFor_eq_some {seeds : List ArrivalSeed}
    (hnd : (seeds.map ArrivalSeed.reviewerId).Nodup) {seed : ArrivalSeed} (h : seed ∈ seeds) :
    arrivalSeedFor seeds seed.reviewerId = some seed.assignmentId := by
  have hnd' : (seeds.reverse.map ArrivalSeed.reviewerId).Nodup := by
    rw [List.map_reverse]
    exact List.nodup_reverse.mpr hnd
  rw [arrivalSeedFor, (Keyed.find?_key_eq_some_iff hnd').mpr ⟨List.mem_reverse.mpr h, rfl⟩]
  rfl

theorem ids_of_rows {scope : Scope} {roundId : ApplicationId} {candidate : Candidate}
    {seeds : List ArrivalSeed} {time : Instant} {expected : List RosterMember}
    {rows : List Assignment}
    (hrows : List.Forall₂ (fun reviewer row =>
      arrivalSeedFor seeds reviewer.reviewerId.val = some row.id.val ∧
        row = newAssignment scope row.id roundId (reviewer.reviewerId, candidate.submissionId)
          time) expected rows)
    (hsize : (seeds.map ArrivalSeed.reviewerId).dedup.length = seeds.length)
    (hlength : seeds.length = expected.length)
    (hexpected : (expected.map RosterMember.reviewerId).Nodup) :
    (rows.map fun row => some row.id.val).Perm
      (seeds.map fun seed => some seed.assignmentId) := by
  have hnd : (seeds.map ArrivalSeed.reviewerId).Nodup := by
    rw [← List.dedup_eq_self]
    exact (List.dedup_sublist _).eq_of_length (by rw [hsize, List.length_map])
  have hkeys : (expected.map fun reviewer => reviewer.reviewerId.val).Nodup := by
    have h := hexpected.map Subtype.val_injective
    rwa [List.map_map] at h
  -- the reviewers are among the keys of the seeds, and as many
  have hperm : (expected.map fun reviewer => reviewer.reviewerId.val).Perm
      (seeds.map ArrivalSeed.reviewerId) := by
    refine (List.subperm_of_subset hkeys ?_).perm_of_length_le (by simp [hlength])
    intro key hkey
    obtain ⟨reviewer, hreviewer, rfl⟩ := List.mem_map.mp hkey
    obtain ⟨row, -, hseed, -⟩ := Keyed.exists_left_of_forall₂ hrows.flip hreviewer
    obtain ⟨seed, hfind, -⟩ := Option.map_eq_some_iff.mp hseed
    obtain ⟨hmem, hkey⟩ := Keyed.mem_of_find?_key hfind
    exact List.mem_map.mpr ⟨seed, List.mem_reverse.mp hmem, hkey⟩
  rw [(map_of_rows hrows).2]
  have hseeds : (seeds.map fun seed => some seed.assignmentId) =
      (seeds.map ArrivalSeed.reviewerId).map (arrivalSeedFor seeds) := by
    rw [List.map_map]
    exact List.map_congr_left fun seed hseed => (arrivalSeedFor_eq_some hnd hseed).symm
  rw [hseeds]
  have h := hperm.map (arrivalSeedFor seeds)
  rwa [List.map_map] at h

/-- A hand-out of a submission agrees with opening the round later : with any candidates, the
pairs are those that are expected when the submission is one of them; once it is stored there is
nothing to hand out; and its assignments have distinct identities and distinct reviewers. -/
structure AgreesWithOpening (scope : Scope) (roundId : ApplicationId) (candidate : Candidate)
    (repository : Repository D) (sources : PlanningSource) (roster : RosterSet)
    (assignments : List Assignment) : Prop where
  pairs : (∀ assignment ∈ repository.listAssignments scope roundId,
      assignment.submissionId ≠ candidate.submissionId) →
    ∀ candidates,
      (expectedReviewAssignmentPairs (candidates ++ [candidate]) roster.reviewers).Perm
        (expectedReviewAssignmentPairs candidates roster.reviewers ++
          assignments.map Assignment.pair)
  again : ∀ seeds time again,
    ensureArrivalAssignments scope roundId candidate seeds time
        (repository.withAssignments assignments) sources = .ok again ↔
      seeds = [] ∧ again = []
  ids_distinct : (assignments.map Assignment.id).Nodup
  reviewers_distinct : (assignments.map Assignment.reviewerId).Nodup

/-- The identities handed in are distinct, and the submission is handed out to distinct
reviewers. -/
def DistinctSeeds (scope : Scope) (roundId : ApplicationId) (candidate : Candidate)
    (repository : Repository D) (roster : RosterSet) (seeds : List ArrivalSeed) : Prop :=
  (seeds.map ArrivalSeed.assignmentId).Nodup ∧
    ((arrivalReviewers candidate roster.reviewers
      (repository.listAssignments scope roundId)).map RosterMember.reviewerId).Nodup

instance (scope : Scope) (roundId : ApplicationId) (candidate : Candidate)
    (repository : Repository D) (roster : RosterSet) (seeds : List ArrivalSeed) :
    Decidable (DistinctSeeds scope roundId candidate repository roster seeds) :=
  inferInstanceAs (Decidable (_ ∧ _))

theorem nodup_some_iff {α β : Type} {f : α → β} (hf : Function.Injective f) {as : List α} :
    (as.map fun a => some (f a)).Nodup ↔ as.Nodup :=
  List.nodup_map_iff ((Option.some_injective β).comp hf)

/-- An accepted hand-out agrees with opening the round later exactly when the identities handed
in are distinct and no reviewer is listed twice. -/
theorem arrival_hand_out {scope : Scope} {roundId : ApplicationId} {candidate : Candidate}
    {seeds : List ArrivalSeed} {time : Instant} {repository : Repository D}
    {sources : PlanningSource} {assignments : List Assignment} {roster : RosterSet}
    (hroster : sources.readReviewerRoster scope = some roster)
    (h : ensureArrivalAssignments scope roundId candidate seeds time repository sources =
      .ok assignments) :
    AgreesWithOpening scope roundId candidate repository sources roster assignments ↔
      DistinctSeeds scope roundId candidate repository roster seeds := by
  have hpairs := pairs_of_hand_out hroster h
  obtain ⟨-, roster', hroster', ⟨hsize, hlength, -⟩, rows, hrows, hsort⟩ :=
    ensureArrivalAssignments_eq_ok.mp h
  obtain rfl := Option.some.inj (hroster.symm.trans hroster')
  have hreviewers : (assignments.map Assignment.reviewerId).Perm
      ((arrivalReviewers candidate roster.reviewers
        (repository.listAssignments scope roundId)).map RosterMember.reviewerId) := by
    have hfst := hpairs.map Prod.fst
    rwa [List.map_map, List.map_map] at hfst
  have hids := fun hexpected => ids_of_rows (rows_of_hand_out hrows) hsize
    (hsize.symm.trans hlength) hexpected
  -- distinct identities of the rows and of the seeds are the same, for distinct reviewers
  have hiff : ((arrivalReviewers candidate roster.reviewers
      (repository.listAssignments scope roundId)).map RosterMember.reviewerId).Nodup →
      ((assignments.map Assignment.id).Nodup ↔ (seeds.map ArrivalSeed.assignmentId).Nodup) := by
    intro hexpected
    have hnodup := (hids hexpected).nodup_iff
    rw [← hsort, ((perm_sortAssignments rows).map Assignment.id).nodup_iff,
      ← nodup_some_iff (Subtype.val_injective : Function.Injective (Subtype.val (p := _))),
      ← nodup_some_iff (Function.injective_id (α := String)), List.map_map, List.map_map]
    exact hnodup
  constructor
  · intro hagrees
    have hexpected := hreviewers.nodup_iff.mp hagrees.reviewers_distinct
    exact ⟨(hiff hexpected).mp hagrees.ids_distinct, hexpected⟩
  · rintro ⟨hseeds, hexpected⟩
    refine ⟨fun hnone candidates => ?_, fun _ _ _ => ensureArrivalAssignments_stored h,
      (hiff hexpected).mpr hseeds, hreviewers.nodup_iff.mpr hexpected⟩
    exact (expectedPairs_arrival candidates candidate roster.reviewers).trans
      ((hpairs.trans (arrivalReviewers_of_none hnone)).symm.append_left _)

/-! ## An example -/

namespace ArrivalExample

open RoundExample

def repository : Repository SymbolicDigest where
  readCatalog _ := none
  readRound scope' id := if scope' = scope ∧ id = round.id then some round else none
  listAssignments _ _ := []
  readAssignment _ _ := none
  readVacancyResolution _ _ := none
  readDraft _ _ := none
  readReviewHead _ _ := none
  readRevision _ _ := none

def reviewer (n : ℕ) : RosterMember :=
  { reviewerId := .ofNat n, version := .one, status := .active, displayName := none, scope := [] }

def roster : RosterSet := { version := .one, reviewers := [reviewer 7, reviewer 8] }

def candidate : Candidate :=
  { submissionId := .ofNat 9, version := .one, trackId := none, formatId := none
    targetSessionId := none }

def sources : PlanningSource where
  readCandidates _ := none
  readCandidate _ _ := none
  readReviewerRoster _ := some roster

/-- The hand-out with identities for the two reviewers. -/
def handOut (first second : ℕ) : Except ReviewError (List Assignment) :=
  ensureArrivalAssignments scope round.id candidate
    [⟨(ApplicationId.ofNat 7).val, (ApplicationId.ofNat first).val⟩,
      ⟨(ApplicationId.ofNat 8).val, (ApplicationId.ofNat second).val⟩]
    (.yearStart 2026) repository sources

theorem handOut_succeeds :
    (handOut 10 11).toBool = true ∧ (handOut 10 10).toBool = true := by decide +kernel

end ArrivalExample

/-- One identity handed in for two reviewers is accepted, and the hand-out does not agree with
opening the round later. -/
theorem arrival_shared_identity :
    ∃ assignments, ArrivalExample.handOut 10 10 = .ok assignments ∧
      ¬ AgreesWithOpening RoundExample.scope RoundExample.round.id ArrivalExample.candidate
        ArrivalExample.repository ArrivalExample.sources ArrivalExample.roster assignments ∧
      ¬ (assignments.map Assignment.id).Nodup := by
  obtain ⟨assignments, h⟩ := exists_of_toBool ArrivalExample.handOut_succeeds.2
  have hdup : ¬ (assignments.map Assignment.id).Nodup := by
    intro hnd
    rw [ArrivalExample.handOut] at h
    obtain ⟨-, roster, hroster, ⟨hsize, hlength, -⟩, rows, hrows, hsort⟩ :=
      ensureArrivalAssignments_eq_ok.mp h
    obtain rfl : ArrivalExample.roster = roster := Option.some.inj hroster
    have hperm := ids_of_rows (rows_of_hand_out hrows) hsize (hsize.symm.trans hlength) (by decide)
    have hrows : (rows.map fun row => some row.id.val).Nodup := by
      have h := hnd
      rw [← hsort, ((perm_sortAssignments rows).map Assignment.id).nodup_iff] at h
      have h' := h.map ((Option.some_injective String).comp Subtype.val_injective)
      rwa [List.map_map] at h'
    exact absurd (hperm.nodup_iff.mp hrows) (by decide)
  exact ⟨assignments, h, fun hagrees => hdup hagrees.ids_distinct, hdup⟩

/-- Distinct identities for two reviewers give a hand-out that agrees with opening the round
later. -/
theorem arrival_hand_out_two :
    ∃ assignments, ArrivalExample.handOut 10 11 = .ok assignments ∧
      AgreesWithOpening RoundExample.scope RoundExample.round.id ArrivalExample.candidate
        ArrivalExample.repository ArrivalExample.sources ArrivalExample.roster assignments := by
  obtain ⟨assignments, h⟩ := exists_of_toBool ArrivalExample.handOut_succeeds.1
  exact ⟨assignments, h, (arrival_hand_out rfl h).mpr (by decide +kernel)⟩

end JooEvents.Review
