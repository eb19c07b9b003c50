import JooEvents.Session.Encoding

/-!
# Dense rosters

A roster is dense when its participants are distinct persons seated at the positions 0,
1, 2 and so on, in this order (`DenseRoster`). Every way of changing a roster keeps it
dense, and so does every change of a session that `plannedHead` plans : what the planner
makes of an existing head is said by `HeadStep`.
-/

namespace JooEvents

open Fallible

variable {D : Type}

/-- Distinct persons, seated one after another. -/
structure DenseRoster (participants : List SessionParticipantRef) : Prop where
  persons : (participants.map (·.personId)).Nodup
  positions : participants.map (·.position) = List.range participants.length

theorem DenseRoster.nil : DenseRoster [] := ⟨List.nodup_nil, rfl⟩

/-! ## Seating -/

theorem map_personId_reseat (participants : List SessionParticipantRef) :
    (reseat participants).map (·.personId) = participants.map (·.personId) := by
  refine List.ext_getElem (by simp [reseat]) fun i hi hi' => ?_
  simp [reseat]

theorem map_position_reseat (participants : List SessionParticipantRef) :
    (reseat participants).map (·.position) = List.range participants.length := by
  refine List.ext_getElem (by simp [reseat]) fun i hi hi' => ?_
  simp [reseat]

theorem denseRoster_reseat {participants : List SessionParticipantRef}
    (h : (participants.map (·.personId)).Nodup) : DenseRoster (reseat participants) := by
  refine ⟨by rwa [map_personId_reseat], ?_⟩
  rw [map_position_reseat]
  simp [reseat]

theorem DenseRoster.map {participants : List SessionParticipantRef}
    {change : SessionParticipantRef → SessionParticipantRef}
    (hperson : ∀ p, (change p).personId = p.personId)
    (hposition : ∀ p, (change p).position = p.position) (h : DenseRoster participants) :
    DenseRoster (participants.map change) := by
  refine ⟨?_, ?_⟩
  · simpa [Function.comp_def, hperson] using h.persons
  · simpa [Function.comp_def, hposition] using h.positions

theorem nodup_seatNewParticipants :
    ∀ (participants : List SessionRosterParticipantInput) (seen : List ApplicationId)
      (position : ℕ),
      ((seatNewParticipants seen position participants).map (·.personId)).Nodup ∧
        ∀ p ∈ seatNewParticipants seen position participants, p.personId ∉ seen
  | [], _, _ => by simp [seatNewParticipants]
  | participant :: participants, seen, position => by
    rw [seatNewParticipants]
    split
    · exact nodup_seatNewParticipants participants seen position
    · rename_i hnew
      obtain ⟨hnodup, hunseen⟩ := nodup_seatNewParticipants participants
        (participant.personId :: seen) (position + 1)
      have hperson : (participant.seat position).personId = participant.personId := rfl
      constructor
      · rw [List.map_cons, List.nodup_cons]
        refine ⟨fun hmem => ?_, hnodup⟩
        obtain ⟨p, hp, heq⟩ := List.mem_map.mp hmem
        exact hunseen p hp (by rw [heq, hperson]; exact List.mem_cons_self)
      · intro p hp
        rcases List.mem_cons.mp hp with rfl | hp
        · exact hnew
        · exact fun hseen => hunseen p hp (List.mem_cons_of_mem _ hseen)

theorem positions_seatNewParticipants :
    ∀ (participants : List SessionRosterParticipantInput) (seen : List ApplicationId)
      (position : ℕ),
      (seatNewParticipants seen position participants).map (·.position) =
        List.range' position (seatNewParticipants seen position participants).length
  | [], _, _ => rfl
  | participant :: participants, seen, position => by
    rw [seatNewParticipants]
    split
    · exact positions_seatNewParticipants participants seen position
    · rw [List.map_cons, List.length_cons, List.range'_succ,
        positions_seatNewParticipants participants]
      rfl

theorem denseRoster_seeded (participants : Option (List SessionRosterParticipantInput)) :
    DenseRoster (seededRosterParticipants participants) := by
  refine ⟨(nodup_seatNewParticipants _ _ _).1, ?_⟩
  rw [seededRosterParticipants, positions_seatNewParticipants, List.range_eq_range']

theorem foldl_max_position :
    ∀ {participants : List SessionParticipantRef} {start : ℕ},
      participants.map (·.position) = List.range' start participants.length →
        participants.foldl (fun maximum p => max maximum (p.position + 1)) start =
          start + participants.length
  | [], _, _ => rfl
  | p :: participants, start, h => by
    rw [List.map_cons, List.length_cons, List.range'_succ, List.cons.injEq] at h
    rw [List.foldl_cons, h.1, max_eq_right (by omega), foldl_max_position h.2, List.length_cons]
    omega

theorem DenseRoster.appended {current participants : List SessionParticipantRef}
    {incoming : List SessionRosterParticipantInput} (h : DenseRoster current)
    (happended : appendedRosterParticipants current incoming = some participants) :
    DenseRoster participants := by
  have hnext : current.foldl (fun maximum p => max maximum (p.position + 1)) 0 =
      current.length := by
    rw [foldl_max_position (by rw [h.positions, List.range_eq_range']), Nat.zero_add]
  simp only [appendedRosterParticipants, hnext] at happended
  split at happended
  · cases happended
  · obtain rfl := Option.some.inj happended
    obtain ⟨hnodup, hunseen⟩ := nodup_seatNewParticipants incoming
      (current.map (·.personId)) current.length
    refine ⟨?_, ?_⟩
    · rw [List.map_append]
      refine h.persons.append hnodup fun id hid hid' => ?_
      obtain ⟨p, hp, rfl⟩ := List.mem_map.mp hid'
      exact hunseen p hp hid
    · rw [List.map_append, h.positions, positions_seatNewParticipants, List.length_append,
        List.range_eq_range', List.range_eq_range', ← List.range'_append_1, Nat.zero_add]

theorem DenseRoster.visibilitySwitched {current participants : List SessionParticipantRef}
    {personId : ApplicationId} {publiclyVisible : Bool} (h : DenseRoster current)
    (hswitched : visibilitySwitchedRosterParticipants current personId publiclyVisible =
      .ok (some participants)) : DenseRoster participants := by
  simp only [visibilitySwitchedRosterParticipants, bind_eq_ok, orRefuse_eq_ok] at hswitched
  obtain ⟨participant, -, hswitched⟩ := hswitched
  split at hswitched
  · cases hswitched
  · obtain rfl := Option.some.inj (pure_eq_ok.mp hswitched)
    refine h.map (fun p => ?_) fun p => ?_ <;> split <;> rfl

theorem DenseRoster.restored {current participants : List SessionParticipantRef}
    {participant : SessionParticipantRef} (h : DenseRoster current)
    (hrestored : restoredRosterParticipant current participant = .ok participants) :
    DenseRoster participants := by
  simp only [restoredRosterParticipant, bind_eq_ok, require_eq_ok, pure_eq_ok,
    exists_const] at hrestored
  obtain ⟨hnew, hposition, rfl⟩ := hrestored
  refine denseRoster_reseat ?_
  have hperm := (List.perm_insertIdx participant current hposition).map (·.personId)
  rw [hperm.nodup_iff, List.map_cons, List.nodup_cons]
  refine ⟨fun hmem => ?_, h.persons⟩
  obtain ⟨p, hp, heq⟩ := List.mem_map.mp hmem
  exact hnew p hp heq

theorem personIds_of_mapM_find {current : List SessionParticipantRef} {e : SessionError} :
    ∀ {personIds : List ApplicationId} {participants : List SessionParticipantRef},
      (personIds.mapM fun personId =>
        orRefuse (current.reverse.find? fun p => p.personId = personId) e) = .ok participants →
      participants.map (·.personId) = personIds := by
  intro personIds participants h
  rw [Keyed.map_eq_of_forall₂ (f := id) ?_ (forall₂_of_mapM_eq_ok h), List.map_id]
  intro personId p hp
  exact (Keyed.mem_of_find?_key (orRefuse_eq_ok.mp hp)).2

theorem denseRoster_reordered {current participants : List SessionParticipantRef}
    {personIds : List ApplicationId}
    (h : reorderedRosterParticipants current personIds = .ok participants) :
    DenseRoster participants := by
  simp only [reorderedRosterParticipants, bind_eq_ok, require_eq_ok, pure_eq_ok,
    exists_const] at h
  obtain ⟨⟨-, hnodup⟩, found, hfound, rfl⟩ := h
  exact denseRoster_reseat (by rwa [personIds_of_mapM_find hfound])

variable [DecidableEq D] {host : Host D}

theorem DenseRoster.removed {current participants : List SessionParticipantRef}
    {expected : SessionParticipantRef} (h : DenseRoster current)
    (hremoved : removedRosterParticipant host current expected = .ok participants) :
    DenseRoster participants := by
  simp only [removedRosterParticipant, bind_eq_ok, pure_eq_ok] at hremoved
  obtain ⟨-, -, rfl⟩ := hremoved
  exact denseRoster_reseat (h.persons.sublist (List.filter_sublist.map _))

theorem DenseRoster.roleChanged {current participants : List SessionParticipantRef}
    {expected : SessionParticipantRef} {role : SessionParticipantRole} (h : DenseRoster current)
    (hchanged : changedRosterParticipantRole host current expected role = .ok participants) :
    DenseRoster participants := by
  simp only [changedRosterParticipantRole, bind_eq_ok, pure_eq_ok] at hchanged
  obtain ⟨-, -, rfl⟩ := hchanged
  refine h.map (fun p => ?_) fun p => ?_ <;> split <;> rfl

/-! ## Heads -/

/-- The lifecycle moves forward. -/
inductive LifecycleMoves : SessionLifecycle → SessionLifecycle → Prop where
  | open_draft : LifecycleMoves .draft .collecting
  | program_draft : LifecycleMoves .draft .programmed
  | program_collecting : LifecycleMoves .collecting .programmed

theorem lifecycleMoves_of_transitionIsValid {fromLifecycle : SessionLifecycle}
    {toLifecycle : PlaceableSessionLifecycle}
    (h : transitionIsValid fromLifecycle toLifecycle = true) :
    LifecycleMoves fromLifecycle toLifecycle.lifecycle := by
  cases fromLifecycle <;> cases toLifecycle <;>
    first | (cases h; done) | constructor

/-- What the planner makes of a head. -/
structure HeadStep (host : Host D) (current after : SessionHead D) : Prop where
  id : after.id = current.id
  version : after.version.val = current.version.val + 1
  lifecycle : after.lifecycle = current.lifecycle ∨
    LifecycleMoves current.lifecycle after.lifecycle
  roster : after.roster.version = current.roster.version ∧
      after.roster.participants = current.roster.participants ∨
    after.roster.version.val = current.roster.version.val + 1
  dense : DenseRoster current.roster.participants → DenseRoster after.roster.participants
  checks : headChecks host after = true

theorem headStep_of_nextHead {base : SessionInputBase D} {existing after : SessionHead D}
    {lifecycle : SessionLifecycle} {programTarget : SessionProgramTargetEvidence D}
    {roster : SessionRosterEvidence D}
    (hlifecycle : lifecycle = existing.lifecycle ∨ LifecycleMoves existing.lifecycle lifecycle)
    (hroster : roster.version = existing.roster.version ∧
        roster.participants = existing.roster.participants ∨
      roster.version.val = existing.roster.version.val + 1)
    (hdense : DenseRoster existing.roster.participants → DenseRoster roster.participants)
    (h : nextHead host base existing lifecycle programTarget roster = .ok after) :
    HeadStep host existing after := by
  simp only [nextHead, nextVersion, bind_eq_ok, orRefuse_eq_ok, parseSessionHead_eq_ok] at h
  obtain ⟨version, hversion, hchecks, rfl⟩ := h
  exact ⟨rfl, val_of_nextAggregateVersion hversion, hlifecycle, hroster, hdense, hchecks⟩

theorem headStep_of_changedRosterHead {base : SessionInputBase D}
    {existing after : SessionHead D} {participants : List SessionParticipantRef}
    (hdense : DenseRoster existing.roster.participants → DenseRoster participants)
    (h : changedRosterHead host base existing participants = .ok after) :
    HeadStep host existing after := by
  simp only [changedRosterHead, nextVersion, bind_eq_ok, orRefuse_eq_ok] at h
  obtain ⟨version, hversion, h⟩ := h
  exact headStep_of_nextHead (.inl rfl) (.inr (val_of_nextAggregateVersion hversion)) hdense h

omit [DecidableEq D] in
theorem nextRoster_ok {existing : SessionHead D}
    {participants : Option (List SessionParticipantRef)} {roster : SessionRosterEvidence D}
    (h : nextRoster host existing participants = .ok roster) :
    (roster.version = existing.roster.version ∧
        roster.participants = existing.roster.participants ∨
      roster.version.val = existing.roster.version.val + 1) ∧
    ((∀ new ∈ participants, DenseRoster existing.roster.participants → DenseRoster new) →
      DenseRoster existing.roster.participants → DenseRoster roster.participants) := by
  cases participants with
  | none =>
    obtain rfl := pure_eq_ok.mp h
    exact ⟨.inl ⟨rfl, rfl⟩, fun _ h => h⟩
  | some new =>
    simp only [nextRoster, nextVersion, bind_eq_ok, orRefuse_eq_ok, pure_eq_ok] at h
    obtain ⟨version, hversion, rfl⟩ := h
    exact ⟨.inr (val_of_nextAggregateVersion hversion), fun hnew hd => hnew new rfl hd⟩

theorem requireSession_eq_ok {existing : Option (SessionHead D)}
    {expected : SessionExpectation D} {head : SessionHead D}
    (h : requireSession existing expected = .ok head) : existing = some head := by
  simp only [requireSession, bind_eq_ok, orRefuse_eq_ok, require_eq_ok, pure_eq_ok] at h
  obtain ⟨_, h, -, -, rfl⟩ := h
  exact h

theorem requireExactSessionAndRoster_eq_ok {existing : Option (SessionHead D)}
    {expected : SessionExpectation D} {version : Version} {head : SessionHead D}
    (h : requireExactSessionAndRoster existing expected version = .ok head) :
    existing = some head := by
  simp only [requireExactSessionAndRoster, bind_eq_ok, require_eq_ok, pure_eq_ok] at h
  obtain ⟨_, h, -, -, rfl⟩ := h
  exact requireSession_eq_ok h

theorem plannedHead_cases {vocabulary : ProgramVocabularyState host}
    {existing : Option (SessionHead D)} {input : SessionPlanningInput D}
    {before : Option (SessionHead D)} {after : SessionHead D}
    (h : plannedHead host vocabulary existing input = .ok (before, after)) :
    (before = none ∧ existing = none ∧ after.version = .one ∧
      DenseRoster after.roster.participants ∧ headChecks host after = true) ∨
    ∃ current, before = some current ∧ existing = some current ∧
      HeadStep host current after := by
  cases input with
  | create base title duration lifecycle formatId trackId participants =>
    simp only [plannedHead, bind_eq_ok, require_eq_ok, pure_eq_ok, parseSessionHead_eq_ok,
      Prod.mk.injEq] at h
    obtain ⟨-, hnone, target, -, _, ⟨hchecks, rfl⟩, rfl, rfl⟩ := h
    exact .inl ⟨rfl, hnone, rfl, denseRoster_seeded participants, hchecks⟩
  | roster_append base expected participants graduateTo =>
    have hdense : ∀ {current : SessionHead D} {new : List SessionParticipantRef},
        new ∈ appendedRosterParticipants current.roster.participants participants →
          DenseRoster current.roster.participants → DenseRoster new :=
      fun hnew hd => hd.appended hnew
    cases graduateTo with
    | false =>
      simp only [plannedHead, Bool.false_eq_true, if_false, bind_eq_ok, pure_eq_ok,
        Prod.mk.injEq] at h
      obtain ⟨current, hcurrent, _, rfl, roster, hroster, after', hafter, rfl, rfl⟩ := h
      obtain ⟨hversion, hnext⟩ := nextRoster_ok hroster
      exact .inr ⟨current, rfl, requireSession_eq_ok hcurrent,
        headStep_of_nextHead (.inl rfl) hversion (hnext fun _ => hdense) hafter⟩
    | true =>
      simp only [plannedHead, requireSessionTransition, if_true, bind_eq_ok, require_eq_ok,
        pure_eq_ok, Prod.mk.injEq] at h
      obtain ⟨current, hcurrent, -, hvalid, target, -, roster, hroster, after', hafter, rfl,
        rfl⟩ := h
      obtain ⟨hversion, hnext⟩ := nextRoster_ok hroster
      exact .inr ⟨current, rfl, requireSession_eq_ok hcurrent, headStep_of_nextHead
        (.inr (lifecycleMoves_of_transitionIsValid hvalid)) hversion (hnext fun _ => hdense) hafter⟩
  | roster_visibility base expected personId publiclyVisible =>
    simp only [plannedHead, bind_eq_ok, pure_eq_ok, Prod.mk.injEq] at h
    obtain ⟨current, hcurrent, switched, hswitched, roster, hroster, after', hafter, rfl, rfl⟩ := h
    obtain ⟨hversion, hdense⟩ := nextRoster_ok hroster
    refine .inr ⟨current, rfl, requireSession_eq_ok hcurrent,
      headStep_of_nextHead (.inl rfl) hversion (hdense fun new hnew hd => ?_) hafter⟩
    exact hd.visibilitySwitched (by rw [hswitched, hnew])
  | roster_remove base expected version participant =>
    simp only [plannedHead, bind_eq_ok, pure_eq_ok, Prod.mk.injEq] at h
    obtain ⟨current, hcurrent, participants, hremoved, after', hafter, rfl, rfl⟩ := h
    exact .inr ⟨current, rfl, requireExactSessionAndRoster_eq_ok hcurrent,
      headStep_of_changedRosterHead (fun hd => hd.removed hremoved) hafter⟩
  | roster_restore base expected version participant =>
    simp only [plannedHead, bind_eq_ok, pure_eq_ok, Prod.mk.injEq] at h
    obtain ⟨current, hcurrent, participants, hrestored, after', hafter, rfl, rfl⟩ := h
    exact .inr ⟨current, rfl, requireExactSessionAndRoster_eq_ok hcurrent,
      headStep_of_changedRosterHead (fun hd => hd.restored hrestored) hafter⟩
  | roster_role base expected version participant role =>
    simp only [plannedHead, bind_eq_ok, pure_eq_ok, Prod.mk.injEq] at h
    obtain ⟨current, hcurrent, participants, hchanged, after', hafter, rfl, rfl⟩ := h
    exact .inr ⟨current, rfl, requireExactSessionAndRoster_eq_ok hcurrent,
      headStep_of_changedRosterHead (fun hd => hd.roleChanged hchanged) hafter⟩
  | roster_reorder base expected version personIds =>
    simp only [plannedHead, bind_eq_ok, pure_eq_ok, Prod.mk.injEq] at h
    obtain ⟨current, hcurrent, participants, hreordered, after', hafter, rfl, rfl⟩ := h
    exact .inr ⟨current, rfl, requireExactSessionAndRoster_eq_ok hcurrent,
      headStep_of_changedRosterHead (fun _ => denseRoster_reordered hreordered) hafter⟩
  | retarget base expected formatId trackId =>
    simp only [plannedHead, bind_eq_ok, pure_eq_ok, Prod.mk.injEq] at h
    obtain ⟨current, hcurrent, target, -, after', hafter, rfl, rfl⟩ := h
    exact .inr ⟨current, rfl, requireSession_eq_ok hcurrent,
      headStep_of_nextHead (.inl rfl) (.inl ⟨rfl, rfl⟩) id hafter⟩
  | transition base expected toLifecycle =>
    simp only [plannedHead, requireSessionTransition, bind_eq_ok, require_eq_ok, pure_eq_ok,
      Prod.mk.injEq] at h
    obtain ⟨current, hcurrent, -, hvalid, target, -, after', hafter, rfl, rfl⟩ := h
    exact .inr ⟨current, rfl, requireSession_eq_ok hcurrent, headStep_of_nextHead
      (.inr (lifecycleMoves_of_transitionIsValid hvalid)) (.inl ⟨rfl, rfl⟩) id hafter⟩

end JooEvents
