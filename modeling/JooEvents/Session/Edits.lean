import Mathlib.Data.List.InsertIdx
import JooEvents.Session.Runs

/-!
# Edits of rosters

What a planned edit of a roster does to the participants, and which edits take it back.
A dense roster is seated in the order it is listed in (`DenseRoster.reseat_eq`), so an
edit is followed on the participants without their positions, which seating gives back
(`reseat_congr`).

A run that removes a participant and restores it, or reorders a roster and reorders it
back, ends with the roster it began with. Appending keeps what is there and adds every
new person once, so that appending again adds nobody. A change of visibility or of a role
sets one field of one entry (`session_roster_edits`), which may hold the value already
(`roster_visibility_unchanged`).
-/

namespace JooEvents

open Fallible

variable {D : Type}

def SessionParticipantRef.unseated (participant : SessionParticipantRef) : SessionParticipantRef :=
  { participant with position := 0 }

theorem SessionParticipantRef.with_position {p : SessionParticipantRef} {position : ℕ}
    (h : p.position = position) : { p with position } = p := by
  subst h
  rfl

theorem reseat_congr {as bs : List SessionParticipantRef}
    (h : as.map SessionParticipantRef.unseated = bs.map SessionParticipantRef.unseated) :
    reseat as = reseat bs := by
  have hlen : as.length = bs.length := by simpa using congrArg List.length h
  refine List.ext_getElem (by simpa [reseat] using hlen) fun i hi hi' => ?_
  simp only [reseat, List.length_mapIdx] at hi hi'
  have hget := List.getElem_of_eq h (show i < _ by rwa [List.length_map])
  rw [List.getElem_map, List.getElem_map] at hget
  simp only [reseat, List.getElem_mapIdx]
  simp only [SessionParticipantRef.unseated, SessionParticipantRef.mk.injEq, true_and] at hget ⊢
  exact hget

theorem map_unseated_reseat (participants : List SessionParticipantRef) :
    (reseat participants).map SessionParticipantRef.unseated =
      participants.map SessionParticipantRef.unseated := by
  refine List.ext_getElem (by simp [reseat]) fun i hi hi' => ?_
  simp [reseat, SessionParticipantRef.unseated]

theorem DenseRoster.position_getElem {participants : List SessionParticipantRef}
    (h : DenseRoster participants) {i : ℕ} (hi : i < participants.length) :
    participants[i].position = i := by
  have := List.getElem_of_eq h.positions (by simpa using hi)
  simpa using this

theorem DenseRoster.reseat_eq {participants : List SessionParticipantRef}
    (h : DenseRoster participants) : reseat participants = participants := by
  refine List.ext_getElem (by simp [reseat]) fun i hi hi' => ?_
  simp only [reseat, List.getElem_mapIdx]
  exact SessionParticipantRef.with_position (h.position_getElem hi')

theorem DenseRoster.find?_eq_some {participants : List SessionParticipantRef}
    (h : DenseRoster participants) {personId : ApplicationId} {p : SessionParticipantRef} :
    (participants.find? fun q => q.personId = personId) = some p ↔
      p ∈ participants ∧ p.personId = personId :=
  Keyed.find?_key_eq_some_iff h.persons

theorem DenseRoster.filter_person {participants : List SessionParticipantRef}
    (h : DenseRoster participants) {i : ℕ} (hi : i < participants.length) :
    (participants.filter fun q => q.personId ≠ participants[i].personId) =
      participants.eraseIdx i := by
  obtain ⟨front, back, hsplit, hfront⟩ : ∃ front back,
      participants = front ++ participants[i] :: back ∧ front.length = i :=
    ⟨participants.take i, participants.drop (i + 1), by
      rw [List.getElem_cons_drop, List.take_append_drop], by simp; omega⟩
  have hpersons := h.persons
  set p := participants[i]
  rw [hsplit, List.map_append, List.map_cons, List.nodup_middle, List.nodup_cons, List.mem_append,
    not_or] at hpersons
  have hout : ∀ qs : List SessionParticipantRef, p.personId ∉ qs.map (·.personId) →
      (qs.filter fun q => q.personId ≠ p.personId) = qs := fun qs hqs =>
    List.filter_eq_self.mpr fun q hq => decide_eq_true fun heq =>
      hqs (heq ▸ List.mem_map_of_mem hq)
  rw [hsplit, List.filter_append, List.filter_cons_of_neg (by simp), hout front hpersons.1.1,
    hout back hpersons.1.2, List.eraseIdx_append_of_length_le hfront.le, hfront, Nat.sub_self,
    List.eraseIdx_cons_zero]

theorem restoredRoster_of_removed {current : List SessionParticipantRef} (h : DenseRoster current)
    {p : SessionParticipantRef} (hp : p ∈ current) :
    restoredRosterParticipant (reseat (current.filter fun q => q.personId ≠ p.personId)) p =
      .ok current := by
  obtain ⟨i, hi, rfl⟩ := List.getElem_of_mem hp
  rw [h.filter_person hi]
  have hposition := h.position_getElem hi
  have hnew : ∀ q ∈ reseat (current.eraseIdx i), q.personId ≠ current[i].personId := by
    intro q hq heq
    have hmem := List.mem_map_of_mem (f := (·.personId)) hq
    rw [map_personId_reseat, ← h.filter_person hi] at hmem
    obtain ⟨r, hr, hrq⟩ := List.mem_map.mp hmem
    exact of_decide_eq_true (List.mem_filter.mp hr).2 (hrq.trans heq)
  have hseat : current[i].position ≤ (reseat (current.eraseIdx i)).length := by
    rw [hposition, reseat, List.length_mapIdx, List.length_eraseIdx_of_lt hi]
    omega
  rw [restoredRosterParticipant, require_true hnew, ok_bind, require_true hseat, ok_bind]
  -- without the seats, the participant goes back to its index
  refine congrArg Except.ok ((reseat_congr ?_).trans h.reseat_eq)
  rw [List.map_insertIdx, map_unseated_reseat, ← List.map_insertIdx, hposition,
    List.insertIdx_eraseIdx_getElem hi]

/-! ## Appending -/

theorem map_personId_seatNewParticipants :
    ∀ (incoming : List SessionRosterParticipantInput) (seen : List ApplicationId) (position : ℕ),
      (seatNewParticipants seen position incoming).map (·.personId) =
        ((incoming.map (·.personId)).filter (· ∉ seen)).eraseDups
  | [], _, _ => rfl
  | q :: incoming, seen, position => by
    rw [seatNewParticipants, List.map_cons]
    split
    · rename_i hseen
      rw [map_personId_seatNewParticipants incoming seen position,
        List.filter_cons_of_neg (by simpa using hseen)]
    · rename_i hnew
      rw [List.map_cons, map_personId_seatNewParticipants incoming (q.personId :: seen),
        List.filter_cons_of_pos (by simpa using hnew), List.eraseDups_cons, List.filter_filter]
      refine congrArg _ (congrArg _ (List.filter_congr fun id _ => ?_))
      by_cases heq : id = q.personId
      · simp [heq]
      · simp [heq, mt Subtype.ext heq]

theorem first_of_mem_seatNewParticipants {p : SessionParticipantRef} :
    ∀ {incoming : List SessionRosterParticipantInput} {seen : List ApplicationId} {position : ℕ},
      p ∈ seatNewParticipants seen position incoming →
        ∃ q, incoming.find? (fun q => q.personId = p.personId) = some q ∧ p = q.seat p.position
  | [], _, _, h => by cases h
  | q :: incoming, seen, position, h => by
    rw [seatNewParticipants] at h
    split at h
    · rename_i hseen
      have hne : q.personId ≠ p.personId := fun heq =>
        (nodup_seatNewParticipants incoming seen position).2 p h (heq ▸ hseen)
      rw [List.find?_cons_of_neg (by simpa using hne)]
      exact first_of_mem_seatNewParticipants h
    · rcases List.mem_cons.mp h with rfl | h
      · exact ⟨q, List.find?_cons_of_pos (by simp [SessionRosterParticipantInput.seat]), rfl⟩
      · have hne : q.personId ≠ p.personId := fun heq =>
          (nodup_seatNewParticipants incoming (q.personId :: seen) (position + 1)).2 p h
            (heq ▸ List.mem_cons_self)
        rw [List.find?_cons_of_neg (by simpa using hne)]
        exact first_of_mem_seatNewParticipants h

/-- The new participants of a list keep what is there, and add every new person of the
incoming ones once, in the order of their first occurrences and as they first occur. -/
structure AppendsNew (current : List SessionParticipantRef)
    (incoming : List SessionRosterParticipantInput) (more : List SessionParticipantRef) : Prop where
  dense : DenseRoster more
  added : ∃ new, more = current ++ new ∧
    new.map (·.personId) =
      ((incoming.map (·.personId)).filter (· ∉ current.map (·.personId))).eraseDups ∧
    ∀ p ∈ new, ∃ q, incoming.find? (fun q => q.personId = p.personId) = some q ∧
      p = q.seat p.position

theorem DenseRoster.appendsNew {current : List SessionParticipantRef} (h : DenseRoster current)
    (incoming : List SessionRosterParticipantInput) :
    AppendsNew current incoming ((appendedRosterParticipants current incoming).getD current) := by
  cases happended : appendedRosterParticipants current incoming with
  | none =>
    refine ⟨h, [], by simp, ?_, by simp⟩
    simp only [appendedRosterParticipants, ite_eq_left_iff, reduceCtorEq, imp_false,
      not_not] at happended
    rw [← map_personId_seatNewParticipants, happended, List.map_nil]
  | some more =>
    refine ⟨h.appended happended, ?_⟩
    simp only [appendedRosterParticipants] at happended
    split at happended
    · cases happended
    · obtain rfl := Option.some.inj happended
      exact ⟨_, rfl, map_personId_seatNewParticipants _ _ _,
        fun p hp => first_of_mem_seatNewParticipants hp⟩

theorem AppendsNew.again {current more : List SessionParticipantRef}
    {incoming : List SessionRosterParticipantInput} (h : AppendsNew current incoming more) :
    appendedRosterParticipants more incoming = none := by
  obtain ⟨new, rfl, hpersons, -⟩ := h.added
  have hall : ∀ q ∈ incoming, q.personId ∈ (current ++ new).map (·.personId) := by
    intro q hq
    rw [List.map_append, List.mem_append, hpersons, List.mem_eraseDups, List.mem_filter]
    by_cases hcurrent : q.personId ∈ current.map (·.personId)
    · exact .inl hcurrent
    · exact .inr ⟨List.mem_map_of_mem hq, by simpa using hcurrent⟩
  have hnone : ∀ position, seatNewParticipants ((current ++ new).map (·.personId)) position incoming =
      [] := by
    intro position
    rw [← List.map_eq_nil_iff, map_personId_seatNewParticipants,
      List.filter_eq_nil_iff.mpr fun id hid => ?_, List.eraseDups_nil]
    obtain ⟨q, hq, rfl⟩ := List.mem_map.mp hid
    rw [decide_eq_true_eq, not_not]
    exact hall q hq
  simp only [appendedRosterParticipants, hnone, if_true]

/-- The participants of a roster in another order, seated in it. -/
structure Reorders (current : List SessionParticipantRef) (personIds : List ApplicationId)
    (seated : List SessionParticipantRef) : Prop where
  persons : seated.map (·.personId) = personIds
  perm : (seated.map SessionParticipantRef.unseated).Perm
    (current.map SessionParticipantRef.unseated)
  dense : DenseRoster seated

theorem DenseRoster.forall₂_found {current found : List SessionParticipantRef}
    (h : DenseRoster current) {personIds : List ApplicationId} {e : SessionError} :
    (personIds.mapM fun personId =>
        orRefuse (current.reverse.find? fun p => p.personId = personId) e) = .ok found ↔
      List.Forall₂ (fun personId p => p ∈ current ∧ p.personId = personId) personIds found := by
  have hreverse : (current.reverse.map (·.personId)).Nodup := by
    rw [List.map_reverse]
    exact List.nodup_reverse.mpr h.persons
  have hiff : ∀ personId p, (orRefuse (current.reverse.find? fun p => p.personId = personId) e =
      .ok p ↔ p ∈ current ∧ p.personId = personId) := fun personId p => by
    rw [orRefuse_eq_ok, Keyed.find?_key_eq_some_iff hreverse, List.mem_reverse]
  exact ⟨fun hmap => (forall₂_of_mapM_eq_ok hmap).imp fun personId p => (hiff personId p).mp,
    fun hfound => mapM_eq_ok_of_forall₂ (hfound.imp fun personId p => (hiff personId p).mpr)⟩

theorem DenseRoster.reorders {current seated : List SessionParticipantRef}
    {personIds : List ApplicationId} (h : DenseRoster current)
    (hreordered : reorderedRosterParticipants current personIds = .ok seated) :
    Reorders current personIds seated := by
  have hdense := denseRoster_reordered hreordered
  simp only [reorderedRosterParticipants, bind_eq_ok, require_eq_ok, pure_eq_ok,
    exists_const] at hreordered
  obtain ⟨⟨hlen, hnodup⟩, found, hfound, rfl⟩ := hreordered
  have hpersons := personIds_of_mapM_find hfound
  have hmem := h.forall₂_found.mp hfound
  have hsub : found ⊆ current := fun p hp => by
    obtain ⟨_, -, hp, -⟩ := Keyed.exists_left_of_forall₂ hmem hp
    exact hp
  have hfoundNodup : found.Nodup := List.Nodup.of_map _ (hpersons ▸ hnodup)
  have hperm : found.Perm current :=
    (List.subperm_of_subset hfoundNodup hsub).perm_of_length_le
      (by rw [← hlen, ← hpersons, List.length_map])
  exact ⟨by rw [map_personId_reseat, hpersons], by rw [map_unseated_reseat]; exact hperm.map _,
    hdense⟩

theorem Reorders.back {current seated : List SessionParticipantRef}
    {personIds : List ApplicationId} (h : Reorders current personIds seated)
    (hdense : DenseRoster current) :
    reorderedRosterParticipants seated (current.map (·.personId)) = .ok current := by
  have hlen : seated.length = current.length := by simpa using h.perm.length_eq
  -- the entry of a participant on the reordered roster differs in its seat only
  have hentry : ∀ p ∈ current, ∃ q ∈ seated, q.unseated = p.unseated := fun p hp => by
    obtain ⟨q, hq, heq⟩ := List.mem_map.mp
      (h.perm.mem_iff.mpr (List.mem_map_of_mem (f := SessionParticipantRef.unseated) hp))
    exact ⟨q, hq, heq⟩
  obtain ⟨found, hfound⟩ : ∃ found, List.Forall₂
      (fun p q => q ∈ seated ∧ q.unseated = p.unseated) current found := by
    clear hlen hdense h
    induction current with
    | nil => exact ⟨[], .nil⟩
    | cons p ps ih =>
      obtain ⟨q, hq, heq⟩ := hentry p List.mem_cons_self
      obtain ⟨found, hfound⟩ := ih fun p hp => hentry p (List.mem_cons_of_mem _ hp)
      exact ⟨q :: found, .cons ⟨hq, heq⟩ hfound⟩
  have hmap : (current.map (·.personId)).mapM (fun personId =>
      orRefuse (seated.reverse.find? fun p => p.personId = personId)
        (SessionError.planning .participant_changed)) = .ok found := by
    refine h.dense.forall₂_found.mpr (List.forall₂_map_left_iff.mpr (hfound.imp ?_))
    rintro p q ⟨hq, heq⟩
    exact ⟨hq, show q.unseated.personId = p.unseated.personId by rw [heq]⟩
  rw [reorderedRosterParticipants, require_true ⟨by rw [List.length_map, hlen], hdense.persons⟩,
    ok_bind, hmap, ok_bind]
  refine congrArg Except.ok ((reseat_congr ?_).trans hdense.reseat_eq)
  exact (Keyed.map_eq_of_forall₂ (fun p q hpq => hpq.2) hfound)

theorem DenseRoster.map_person {current : List SessionParticipantRef} (h : DenseRoster current)
    {i : ℕ} (hi : i < current.length) (change : SessionParticipantRef → SessionParticipantRef) :
    (current.map fun q => if q.personId = current[i].personId then change q else q) =
      current.set i (change current[i]) := by
  refine List.ext_getElem (by simp) fun j hj hj' => ?_
  rw [List.length_map] at hj
  rw [List.getElem_map, List.getElem_set]
  by_cases hij : i = j
  · subst hij
    rw [if_pos rfl, if_pos rfl]
  · have hne : current[j].personId ≠ current[i].personId := fun heq => hij <| Eq.symm <| by
      exact (@List.Nodup.getElem_inj_iff _ _ h.persons j (by simpa) i (by simpa)).mp
        (by simpa using heq)
    rw [if_neg hne, if_neg hij]

theorem DenseRoster.visibility_set {current : List SessionParticipantRef}
    (h : DenseRoster current) {personId : ApplicationId} {publiclyVisible : Bool}
    {switched : Option (List SessionParticipantRef)}
    (hswitched : visibilitySwitchedRosterParticipants current personId publiclyVisible =
      .ok switched) :
    ∃ i, ∃ hi : i < current.length, current[i].personId = personId ∧
      switched.getD current = current.set i { current[i] with publiclyVisible } := by
  simp only [visibilitySwitchedRosterParticipants, bind_eq_ok, orRefuse_eq_ok,
    h.find?_eq_some] at hswitched
  obtain ⟨p, ⟨hp, rfl⟩, hswitched⟩ := hswitched
  obtain ⟨i, hi, rfl⟩ := List.getElem_of_mem hp
  refine ⟨i, hi, rfl, ?_⟩
  split at hswitched
  · rename_i hflag
    obtain rfl := pure_eq_ok.mp hswitched
    rw [← hflag, List.set_getElem_self]
    rfl
  · obtain rfl := pure_eq_ok.mp hswitched
    exact h.map_person hi fun q => { q with publiclyVisible }

variable [DecidableEq D] {host : Host D}

theorem DenseRoster.expected_mem {current : List SessionParticipantRef} (h : DenseRoster current)
    (hschema : ∀ p ∈ current, participantSchema host p = true) {expected : SessionParticipantRef}
    (hexpected : participantSchema host expected = true) {u : Unit}
    (hrequire : requireParticipant host current expected = .ok u) : expected ∈ current := by
  simp only [requireParticipant, bind_eq_ok, orRefuse_eq_ok, require_eq_ok,
    h.find?_eq_some] at hrequire
  obtain ⟨p, ⟨hp, -⟩, hsame⟩ := hrequire
  rwa [SessionParticipantRef.eq_of_same (hschema p hp) hexpected hsame] at hp

/-! ## Planned edits -/

/-- What a planned change makes of the participants : nothing where they stay as they are. -/
def SessionPlanningInput.editedRoster (host : Host D) (current : List SessionParticipantRef) :
    SessionPlanningInput D → Except SessionError (Option (List SessionParticipantRef))
  | roster_append _ _ participants _ => return appendedRosterParticipants current participants
  | roster_visibility _ _ personId publiclyVisible =>
    visibilitySwitchedRosterParticipants current personId publiclyVisible
  | roster_remove _ _ _ expectedParticipant =>
    some <$> removedRosterParticipant host current expectedParticipant
  | roster_restore _ _ _ participant => some <$> restoredRosterParticipant current participant
  | roster_role _ _ _ expectedParticipant role =>
    some <$> changedRosterParticipantRole host current expectedParticipant role
  | roster_reorder _ _ _ personIds => some <$> reorderedRosterParticipants current personIds
  | create .. | transition .. | retarget .. => return none

omit [DecidableEq D] in
theorem participants_of_nextRoster {existing : SessionHead D}
    {participants : Option (List SessionParticipantRef)} {roster : SessionRosterEvidence D}
    (h : nextRoster host existing participants = .ok roster) :
    roster.participants = participants.getD existing.roster.participants := by
  cases participants with
  | none =>
    obtain rfl := pure_eq_ok.mp h
    rfl
  | some new =>
    simp only [nextRoster, bind_eq_ok, pure_eq_ok] at h
    obtain ⟨version, -, rfl⟩ := h
    rfl

theorem roster_of_nextHead {base : SessionInputBase D} {existing after : SessionHead D}
    {lifecycle : SessionLifecycle} {programTarget : SessionProgramTargetEvidence D}
    {roster : SessionRosterEvidence D}
    (h : nextHead host base existing lifecycle programTarget roster = .ok after) :
    after.roster = roster := by
  simp only [nextHead, bind_eq_ok, parseSessionHead_eq_ok] at h
  obtain ⟨version, -, -, rfl⟩ := h
  rfl

theorem participants_of_changedRosterHead {base : SessionInputBase D}
    {existing after : SessionHead D} {participants : List SessionParticipantRef}
    (h : changedRosterHead host base existing participants = .ok after) :
    after.roster.participants = participants := by
  simp only [changedRosterHead, bind_eq_ok] at h
  obtain ⟨version, -, h⟩ := h
  rw [roster_of_nextHead h]
  rfl

theorem roster_of_plannedHead {vocabulary : ProgramVocabularyState host}
    {current : SessionHead D} {input : SessionPlanningInput D} {before : Option (SessionHead D)}
    {after : SessionHead D}
    (h : plannedHead host vocabulary (some current) input = .ok (before, after)) :
    ∃ edited, input.editedRoster host current.roster.participants = .ok edited ∧
      after.roster.participants = edited.getD current.roster.participants := by
  cases input with
  | create base title duration lifecycle formatId trackId participants =>
    simp only [plannedHead, bind_eq_ok, require_eq_ok, reduceCtorEq, false_and,
      exists_false] at h
  | roster_append base expected participants graduateTo =>
    cases graduateTo with
    | false =>
      simp only [plannedHead, Bool.false_eq_true, if_false, bind_eq_ok, pure_eq_ok,
        Prod.mk.injEq] at h
      obtain ⟨existing, hexisting, _, rfl, roster, hroster, after', hafter, rfl, rfl⟩ := h
      obtain rfl := Option.some.inj (requireSession_eq_ok hexisting)
      exact ⟨_, rfl, by rw [roster_of_nextHead hafter, participants_of_nextRoster hroster]⟩
    | true =>
      simp only [plannedHead, requireSessionTransition, if_true, bind_eq_ok, require_eq_ok,
        pure_eq_ok, Prod.mk.injEq] at h
      obtain ⟨existing, hexisting, -, -, target, -, roster, hroster, after', hafter, rfl, rfl⟩ := h
      obtain rfl := Option.some.inj (requireSession_eq_ok hexisting)
      exact ⟨_, rfl, by rw [roster_of_nextHead hafter, participants_of_nextRoster hroster]⟩
  | roster_visibility base expected personId publiclyVisible =>
    simp only [plannedHead, bind_eq_ok, pure_eq_ok, Prod.mk.injEq] at h
    obtain ⟨existing, hexisting, switched, hswitched, roster, hroster, after', hafter, rfl,
      rfl⟩ := h
    obtain rfl := Option.some.inj (requireSession_eq_ok hexisting)
    exact ⟨switched, hswitched,
      by rw [roster_of_nextHead hafter, participants_of_nextRoster hroster]⟩
  | roster_remove | roster_restore | roster_role | roster_reorder =>
    simp only [plannedHead, bind_eq_ok, pure_eq_ok, Prod.mk.injEq] at h
    obtain ⟨existing, hexisting, participants, hedited, after', hafter, rfl, rfl⟩ := h
    obtain rfl := Option.some.inj (requireExactSessionAndRoster_eq_ok hexisting)
    exact ⟨some participants, map_eq_ok.mpr ⟨_, hedited, rfl⟩,
      participants_of_changedRosterHead hafter⟩
  | retarget base expected formatId trackId =>
    simp only [plannedHead, bind_eq_ok, pure_eq_ok, Prod.mk.injEq] at h
    obtain ⟨existing, hexisting, target, -, after', hafter, rfl, rfl⟩ := h
    obtain rfl := Option.some.inj (requireSession_eq_ok hexisting)
    exact ⟨none, rfl, by rw [roster_of_nextHead hafter]; rfl⟩
  | transition base expected toLifecycle =>
    simp only [plannedHead, requireSessionTransition, bind_eq_ok, require_eq_ok, pure_eq_ok,
      Prod.mk.injEq] at h
    obtain ⟨existing, hexisting, -, -, target, -, after', hafter, rfl, rfl⟩ := h
    obtain rfl := Option.some.inj (requireSession_eq_ok hexisting)
    exact ⟨none, rfl, by rw [roster_of_nextHead hafter]; rfl⟩

/-! ## Edits in runs -/

omit [DecidableEq D] in
def SessionRun.participants (run : SessionRun D) (id : ApplicationId) :
    Option (List SessionParticipantRef) :=
  (findSession run.catalog id).map fun session => session.roster.participants

/-- A change is planned and applied. -/
inductive EditStep (host : Host D) (input : SessionPlanningInput D) :
    SessionRun D → SessionRun D → Prop where
  | apply {run : SessionRun D} {vocabulary vocabulary' : ProgramVocabularyState host}
      {plan : SessionMutationPlan D} {next : SessionCatalog D} {result : SessionMutationResult D}
      (hplan : planSessionMutation host input run.catalog vocabulary = .ok plan)
      (happly : applySessionMutationPlan host plan run.catalog vocabulary' = .ok (next, result)) :
      EditStep host input run { catalog := next, applied := plan :: run.applied }

theorem EditStep.authored {input : SessionPlanningInput D} {run next : SessionRun D}
    (h : EditStep host input run next) : AuthoredStep host run next := by
  obtain ⟨-, happly⟩ := h
  exact ⟨happly⟩

theorem EditStep.edited {input : SessionPlanningInput D} {run next : SessionRun D}
    (h : EditStep host input run next) {current : List SessionParticipantRef}
    (hcurrent : run.participants input.base.sessionId = some current) :
    ∃ parsed edited, parseSessionPlanningInput host input = .ok parsed ∧
      parsed.editedRoster host current = .ok edited ∧
      next.participants input.base.sessionId = some (edited.getD current) := by
  obtain ⟨hplan, happly⟩ := h
  obtain ⟨parsed, hparsed, -, -, before, after, hhead, catalog, -, hbuilt⟩ :=
    planSessionMutation_eq_ok.mp hplan
  obtain ⟨input', hinput', -, -, ⟨hid, -⟩, rfl⟩ := parseSessionMutationPlan_eq_ok.mp hbuilt
  rw [base_of_parseSessionPlanningInput hinput', base_of_parseSessionPlanningInput hparsed] at hid
  obtain ⟨head, hhead', rfl⟩ := Option.map_eq_some_iff.mp hcurrent
  rw [base_of_parseSessionPlanningInput hparsed, hhead'] at hhead
  obtain ⟨edited, hedited, hroster⟩ := roster_of_plannedHead hhead
  obtain ⟨hsound, -, hsessions, -⟩ := applySessionMutationPlan_ok happly
  refine ⟨parsed, edited, hparsed, hedited, Option.map_eq_some_iff.mpr ⟨after, ?_, hroster⟩⟩
  refine (Keyed.find?_key_eq_some_iff hsound.nodup).mpr ⟨?_, hid⟩
  rw [hsessions]
  exact mem_sessionsWith.mpr (.inr rfl)

omit [DecidableEq D] in
theorem SessionRun.mem_of_participants {run : SessionRun D} {id : ApplicationId}
    {current : List SessionParticipantRef} (h : run.participants id = some current) :
    ∃ session ∈ run.catalog.sessions, session.roster.participants = current := by
  obtain ⟨session, hsession, rfl⟩ := Option.map_eq_some_iff.mp h
  exact ⟨session, (mem_of_findSession hsession).1, rfl⟩

omit [DecidableEq D] in
theorem SessionRunInvariant.participants {run : SessionRun D} (h : SessionRunInvariant host run)
    {id : ApplicationId} {current : List SessionParticipantRef}
    (hcurrent : run.participants id = some current) :
    DenseRoster current ∧ ∀ p ∈ current, participantSchema host p = true := by
  obtain ⟨session, hmem, rfl⟩ := SessionRun.mem_of_participants hcurrent
  have hschema := h.sound.schema session hmem
  simp only [headSchema, rosterSchema, Bool.and_eq_true, List.all_eq_true] at hschema
  exact ⟨h.dense session hmem, hschema.2.1.1.1⟩

/-- Edits of the roster `current` of a session, and what takes them back. -/
structure RosterEdits (host : Host D) (run : SessionRun D) (id : ApplicationId)
    (current : List SessionParticipantRef) : Prop where
  /-- A participant that is removed and restored is back where it was. -/
  removed : ∀ {base expected version p next}, base.sessionId = id →
    EditStep host (.roster_remove base expected version p) run next →
    p ∈ current ∧ ∃ fewer, next.participants id = some fewer ∧
      p.personId ∉ fewer.map (·.personId) ∧
      restoredRosterParticipant fewer p = .ok current ∧
      ∀ {base' expected' version' last}, base'.sessionId = id →
        EditStep host (.roster_restore base' expected' version' p) next last →
        last.participants id = some current
  /-- Appending keeps what is there, and appending again changes nothing. -/
  appended : ∀ {base expected incoming graduateTo next}, base.sessionId = id →
    EditStep host (.roster_append base expected incoming graduateTo) run next →
    ∃ more, next.participants id = some more ∧ AppendsNew current incoming more ∧
      ∀ {base' expected' graduateTo' last}, base'.sessionId = id →
        EditStep host (.roster_append base' expected' incoming graduateTo') next last →
        last.participants id = some more
  /-- A roster that is reordered, and reordered to the old order, is what it was. -/
  reordered : ∀ {base expected version personIds next}, base.sessionId = id →
    EditStep host (.roster_reorder base expected version personIds) run next →
    ∃ seated, next.participants id = some seated ∧ Reorders current personIds seated ∧
      reorderedRosterParticipants seated (current.map (·.personId)) = .ok current ∧
      ∀ {base' expected' version' last}, base'.sessionId = id →
        EditStep host (.roster_reorder base' expected' version' (current.map (·.personId)))
          next last →
        last.participants id = some current
  /-- A change of visibility sets the flag of one entry. -/
  visibility : ∀ {base expected personId publiclyVisible next}, base.sessionId = id →
    EditStep host (.roster_visibility base expected personId publiclyVisible) run next →
    ∃ i, ∃ hi : i < current.length, current[i].personId = personId ∧
      next.participants id = some (current.set i { current[i] with publiclyVisible })
  /-- A change of a role sets the role of one entry. -/
  role : ∀ {base expected version p role next}, base.sessionId = id →
    EditStep host (.roster_role base expected version p role) run next →
    ∃ i, ∃ hi : i < current.length, current[i] = p ∧
      next.participants id = some (current.set i { current[i] with role })

theorem EditStep.of_removed {base : SessionInputBase D} {expected : SessionExpectation D}
    {version : Version} {p : SessionParticipantRef} {run next : SessionRun D}
    (hinv : SessionRunInvariant host run)
    (h : EditStep host (.roster_remove base expected version p) run next)
    {current : List SessionParticipantRef}
    (hcurrent : run.participants base.sessionId = some current) :
    p ∈ current ∧ next.participants base.sessionId =
      some (reseat (current.filter fun q => q.personId ≠ p.personId)) := by
  obtain ⟨hdense, hschema⟩ := hinv.participants hcurrent
  obtain ⟨parsed, edited, hparsed, hedited, hnext⟩ := h.edited hcurrent
  simp only [parseSessionPlanningInput, bind_eq_ok, require_eq_ok, pure_eq_ok] at hparsed
  obtain ⟨-, hp, rfl⟩ := hparsed
  simp only [SessionPlanningInput.editedRoster, removedRosterParticipant, map_eq_ok, bind_eq_ok,
    pure_eq_ok] at hedited
  obtain ⟨fewer, ⟨_, hrequire, rfl⟩, rfl⟩ := hedited
  exact ⟨hdense.expected_mem hschema hp hrequire, hnext⟩

theorem EditStep.of_restored {base : SessionInputBase D} {expected : SessionExpectation D}
    {version : Version} {p : SessionParticipantRef} {run next : SessionRun D}
    (h : EditStep host (.roster_restore base expected version p) run next)
    {current : List SessionParticipantRef}
    (hcurrent : run.participants base.sessionId = some current) :
    ∃ more, restoredRosterParticipant current p = .ok more ∧
      next.participants base.sessionId = some more := by
  obtain ⟨parsed, edited, hparsed, hedited, hnext⟩ := h.edited hcurrent
  simp only [parseSessionPlanningInput, bind_eq_ok, require_eq_ok, pure_eq_ok] at hparsed
  obtain ⟨-, -, rfl⟩ := hparsed
  obtain ⟨more, hmore, rfl⟩ := map_eq_ok.mp hedited
  exact ⟨more, hmore, hnext⟩

theorem EditStep.of_appended {base : SessionInputBase D} {expected : SessionExpectation D}
    {incoming : List SessionRosterParticipantInput} {graduateTo : Bool} {run next : SessionRun D}
    (h : EditStep host (.roster_append base expected incoming graduateTo) run next)
    {current : List SessionParticipantRef}
    (hcurrent : run.participants base.sessionId = some current) :
    next.participants base.sessionId =
      some ((appendedRosterParticipants current incoming).getD current) := by
  obtain ⟨parsed, edited, hparsed, hedited, hnext⟩ := h.edited hcurrent
  simp only [parseSessionPlanningInput, bind_eq_ok, require_eq_ok, pure_eq_ok] at hparsed
  obtain ⟨-, -, rfl⟩ := hparsed
  obtain rfl := pure_eq_ok.mp hedited
  exact hnext

theorem EditStep.of_reordered {base : SessionInputBase D} {expected : SessionExpectation D}
    {version : Version} {personIds : List ApplicationId} {run next : SessionRun D}
    (h : EditStep host (.roster_reorder base expected version personIds) run next)
    {current : List SessionParticipantRef}
    (hcurrent : run.participants base.sessionId = some current) :
    ∃ seated, reorderedRosterParticipants current personIds = .ok seated ∧
      next.participants base.sessionId = some seated := by
  obtain ⟨parsed, edited, hparsed, hedited, hnext⟩ := h.edited hcurrent
  simp only [parseSessionPlanningInput, bind_eq_ok, require_eq_ok, pure_eq_ok] at hparsed
  obtain ⟨-, -, rfl⟩ := hparsed
  obtain ⟨seated, hseated, rfl⟩ := map_eq_ok.mp hedited
  exact ⟨seated, hseated, hnext⟩

theorem EditStep.of_visibility {base : SessionInputBase D} {expected : SessionExpectation D}
    {personId : ApplicationId} {publiclyVisible : Bool} {run next : SessionRun D}
    (h : EditStep host (.roster_visibility base expected personId publiclyVisible) run next)
    {current : List SessionParticipantRef}
    (hcurrent : run.participants base.sessionId = some current) :
    ∃ switched, visibilitySwitchedRosterParticipants current personId publiclyVisible =
        .ok switched ∧
      next.participants base.sessionId = some (switched.getD current) := by
  obtain ⟨parsed, edited, hparsed, hedited, hnext⟩ := h.edited hcurrent
  obtain rfl := pure_eq_ok.mp hparsed
  exact ⟨edited, hedited, hnext⟩

theorem EditStep.of_role {base : SessionInputBase D} {expected : SessionExpectation D}
    {version : Version} {p : SessionParticipantRef} {role : SessionParticipantRole}
    {run next : SessionRun D} (hinv : SessionRunInvariant host run)
    (h : EditStep host (.roster_role base expected version p role) run next)
    {current : List SessionParticipantRef}
    (hcurrent : run.participants base.sessionId = some current) :
    p ∈ current ∧ next.participants base.sessionId = some (current.map fun q =>
      if q.personId = p.personId then { q with role } else q) := by
  obtain ⟨hdense, hschema⟩ := hinv.participants hcurrent
  obtain ⟨parsed, edited, hparsed, hedited, hnext⟩ := h.edited hcurrent
  simp only [parseSessionPlanningInput, bind_eq_ok, require_eq_ok, pure_eq_ok] at hparsed
  obtain ⟨-, hp, rfl⟩ := hparsed
  simp only [SessionPlanningInput.editedRoster, changedRosterParticipantRole, map_eq_ok,
    bind_eq_ok, pure_eq_ok] at hedited
  obtain ⟨changed, ⟨_, hrequire, rfl⟩, rfl⟩ := hedited
  exact ⟨hdense.expected_mem hschema hp hrequire, hnext⟩

/-- Edits of the roster of a session, in every run from an empty catalog. -/
theorem session_roster_edits {scope : SessionScope} {empty : SessionCatalog D}
    {run : SessionRun D} (hempty : createEmptySessionCatalog host scope = .ok empty)
    (hrun : Relation.ReflTransGen (SessionStep host) ⟨empty, []⟩ run) {id : ApplicationId}
    {current : List SessionParticipantRef} (hcurrent : run.participants id = some current) :
    RosterEdits host run id current := by
  have hinv := SessionRunInvariant.of_run hempty hrun
  obtain ⟨hdense, -⟩ := hinv.participants hcurrent
  constructor
  case removed =>
    rintro base expected version p next rfl hstep
    obtain ⟨hp, hnext⟩ := hstep.of_removed hinv hcurrent
    have hback := restoredRoster_of_removed hdense hp
    refine ⟨hp, _, hnext, ?_, hback, ?_⟩
    · rw [map_personId_reseat]
      intro hmem
      obtain ⟨q, hq, heq⟩ := List.mem_map.mp hmem
      exact of_decide_eq_true (List.mem_filter.mp hq).2 heq
    · intro base' expected' version' last hbase hrestore
      rw [← hbase] at hnext ⊢
      obtain ⟨more, hmore, hlast⟩ := hrestore.of_restored hnext
      rw [hlast, Except.ok.inj (hmore.symm.trans hback)]
  case appended =>
    rintro base expected incoming graduateTo next rfl hstep
    have hnext := hstep.of_appended hcurrent
    have happends := hdense.appendsNew incoming
    refine ⟨_, hnext, happends, ?_⟩
    intro base' expected' graduateTo' last hbase hagain
    rw [← hbase] at hnext ⊢
    rw [hagain.of_appended hnext, happends.again, Option.getD_none]
  case reordered =>
    rintro base expected version personIds next rfl hstep
    obtain ⟨seated, hseated, hnext⟩ := hstep.of_reordered hcurrent
    have hreorders := hdense.reorders hseated
    have hback := hreorders.back hdense
    refine ⟨seated, hnext, hreorders, hback, ?_⟩
    intro base' expected' version' last hbase hreorder
    rw [← hbase] at hnext ⊢
    obtain ⟨more, hmore, hlast⟩ := hreorder.of_reordered hnext
    rw [hlast, Except.ok.inj (hmore.symm.trans hback)]
  case visibility =>
    rintro base expected personId publiclyVisible next rfl hstep
    obtain ⟨switched, hswitched, hnext⟩ := hstep.of_visibility hcurrent
    obtain ⟨i, hi, hperson, hset⟩ := hdense.visibility_set hswitched
    exact ⟨i, hi, hperson, hset ▸ hnext⟩
  case role =>
    rintro base expected version p role next rfl hstep
    obtain ⟨hp, hnext⟩ := hstep.of_role hinv hcurrent
    obtain ⟨i, hi, rfl⟩ := List.getElem_of_mem hp
    exact ⟨i, hi, rfl, by rw [hnext, hdense.map_person hi fun q => { q with role }]⟩

/-! ## An example -/

namespace EditExample

open RestoreExample

def person (n : ℕ) : SessionRosterParticipantInput :=
  { personId := .ofNat n, role := .speaker, publiclyVisible := true
    source := { kind := "submission", id := "s", version := .one } }

def seeded : Except SessionError (SessionCatalog SymbolicDigest × SessionMutationPlan SymbolicDigest ×
    SessionCatalog SymbolicDigest) := do
  let empty ← createEmptySessionCatalog SymbolicDigest.host scope
  let (plan, next) ← change empty
    (.create (base empty) "Panel" ⟨60, isDuration_sixty⟩ .collecting talk.id none
      (some [person 6, person 7, person 8]))
  return (empty, plan, next)

def expectation (head : SessionHead SymbolicDigest) : SessionExpectation SymbolicDigest :=
  { expectedSessionVersion := head.version, expectedSessionDigestSha256 := head.digestSha256 }

def shown (catalog : SessionCatalog SymbolicDigest) (head : SessionHead SymbolicDigest) :
    SessionPlanningInput SymbolicDigest :=
  .roster_visibility (base catalog) (expectation head) (.ofNat 6) true

def outcome : Except SessionError Unit := do
  let (_, plan, first) ← seeded
  let (_, second) ← change first (shown first plan.after)
  let before ← orRefuse (findSession first (.ofNat 5)) .thrown
  let after ← orRefuse (findSession second (.ofNat 5)) .thrown
  require (before.roster.participants = after.roster.participants) .thrown

theorem outcome_succeeds : outcome.toBool = true := by decide +kernel

theorem edit_of_change {catalog next : SessionCatalog SymbolicDigest}
    {input : SessionPlanningInput SymbolicDigest} {plan : SessionMutationPlan SymbolicDigest}
    {applied : List (SessionMutationPlan SymbolicDigest)}
    (h : change catalog input = .ok (plan, next)) :
    EditStep SymbolicDigest.host input ⟨catalog, applied⟩ ⟨next, plan :: applied⟩ := by
  simp only [change, bind_eq_ok, pure_eq_ok, Prod.mk.injEq] at h
  obtain ⟨_, hplan, ⟨_, _⟩, happly, rfl, rfl⟩ := h
  exact ⟨hplan, happly⟩

theorem exists_run : ∃ empty run next input current,
    createEmptySessionCatalog SymbolicDigest.host scope = .ok empty ∧
      Relation.ReflTransGen (SessionStep SymbolicDigest.host) ⟨empty, []⟩ run ∧
      EditStep SymbolicDigest.host input run next ∧
      (∃ base expected, base.sessionId = .ofNat 5 ∧
        input = .roster_visibility base expected (.ofNat 6) true) ∧
      run.participants (.ofNat 5) = some current ∧ next.participants (.ofNat 5) = some current := by
  obtain ⟨_, h⟩ := exists_of_toBool outcome_succeeds
  simp only [outcome, bind_eq_ok, orRefuse_eq_ok, require_eq_ok] at h
  obtain ⟨⟨empty, plan, first⟩, hseeded, ⟨plan', second⟩, hshown, before, hbefore, after, hafter,
    heq⟩ := h
  simp only [seeded, bind_eq_ok, pure_eq_ok, Prod.mk.injEq] at hseeded
  obtain ⟨_, hempty, ⟨_, _⟩, hcreate, rfl, rfl, rfl⟩ := hseeded
  refine ⟨_, ⟨_, _⟩, _, _, before.roster.participants, hempty,
    .single (.authored (edit_of_change hcreate).authored), edit_of_change hshown,
    ⟨_, _, rfl, rfl⟩, ?_, ?_⟩
  · rw [SessionRun.participants, hbefore]
    rfl
  · rw [SessionRun.participants, hafter, heq]
    rfl

end EditExample

/-- Making a visible participant visible changes no entry. -/
theorem roster_visibility_unchanged :
    ∃ empty run next current base expected,
      createEmptySessionCatalog SymbolicDigest.host RestoreExample.scope = .ok empty ∧
      Relation.ReflTransGen (SessionStep SymbolicDigest.host) ⟨empty, []⟩ run ∧
      EditStep SymbolicDigest.host (.roster_visibility base expected (.ofNat 6) true) run next ∧
      run.participants base.sessionId = some current ∧
      next.participants base.sessionId = some current := by
  obtain ⟨empty, run, next, _, current, hempty, hrun, hstep, ⟨base, expected, hbase, rfl⟩,
    hcurrent, hnext⟩ := EditExample.exists_run
  exact ⟨empty, run, next, current, base, expected, hempty, hrun, hstep, hbase ▸ hcurrent,
    hbase ▸ hnext⟩

namespace EditExample

open RestoreExample

/-- The second of three participants is removed and restored. -/
def removedAndRestored : Except SessionError Unit := do
  let (_, plan, first) ← seeded
  let p ← orRefuse plan.after.roster.participants[1]? .thrown
  let (removal, second) ← change first
    (.roster_remove (base first) (expectation plan.after) plan.after.roster.version p)
  let (_, _) ← change second
    (.roster_restore (base second) (expectation removal.after) removal.after.roster.version p)
  let head ← orRefuse (findSession first (.ofNat 5)) .thrown
  require (p.personId = .ofNat 7 ∧
    head.roster.participants.map (·.personId) = [.ofNat 6, .ofNat 7, .ofNat 8]) .thrown

theorem removedAndRestored_succeeds : removedAndRestored.toBool = true := by decide +kernel

end EditExample

open EditExample RestoreExample in
/-- A participant between two others is removed and restored, and the roster is what it was. -/
theorem session_roster_edits_restored :
    ∃ empty run p current fewer,
      createEmptySessionCatalog SymbolicDigest.host scope = .ok empty ∧
      Relation.ReflTransGen (SessionStep SymbolicDigest.host) ⟨empty, []⟩ run ∧
      run.participants (.ofNat 5) = some current ∧
      current.map (·.personId) = [.ofNat 6, .ofNat 7, .ofNat 8] ∧
      RosterEdits SymbolicDigest.host run (.ofNat 5) current ∧ p ∈ current ∧
      p.personId = .ofNat 7 ∧ p.personId ∉ fewer.map (·.personId) ∧
      ∃ next last base expected version base' expected' version',
        EditStep SymbolicDigest.host (.roster_remove base expected version p) run next ∧
        EditStep SymbolicDigest.host (.roster_restore base' expected' version' p) next last ∧
        next.participants (.ofNat 5) = some fewer ∧ last.participants (.ofNat 5) = some current := by
  obtain ⟨_, h⟩ := exists_of_toBool removedAndRestored_succeeds
  simp only [removedAndRestored, bind_eq_ok, orRefuse_eq_ok, require_eq_ok] at h
  obtain ⟨_, hseeded, p, hp, ⟨removal, second⟩, hremove, ⟨_, third⟩, hrestore, head, hhead,
    hperson, hpeople⟩ := h
  simp only [seeded, bind_eq_ok, pure_eq_ok] at hseeded
  obtain ⟨empty, hempty, ⟨plan, first⟩, hcreate, rfl⟩ := hseeded
  have hrun : Relation.ReflTransGen (SessionStep SymbolicDigest.host) ⟨empty, []⟩ ⟨first, [plan]⟩ :=
    .single (.authored (edit_of_change hcreate).authored)
  have hcurrent : SessionRun.participants ⟨first, [plan]⟩ (.ofNat 5) =
      some head.roster.participants := by
    rw [SessionRun.participants, hhead]
    rfl
  have hedits := session_roster_edits hempty hrun hcurrent
  have hremoved : EditStep SymbolicDigest.host _ ⟨first, [plan]⟩ ⟨second, [removal, plan]⟩ :=
    edit_of_change hremove
  have hrestored : EditStep SymbolicDigest.host _ ⟨second, [removal, plan]⟩ _ :=
    edit_of_change hrestore
  obtain ⟨hmem, fewer, hfewer, hgone, -, hback⟩ := hedits.removed rfl hremoved
  exact ⟨empty, _, p, _, fewer, hempty, hrun, hcurrent, hpeople, hedits, hmem, hperson, hgone, _, _, _,
    _, _, _, _, _, hremoved, hrestored, hfewer, hback rfl hrestored⟩

end JooEvents
