import JooEvents.Schedule.Placing

/-!
# What the board offers

The starts that the segments of a column offer against those that the check finds nothing
about. A column is clear (`ColumnClear`) when nothing in it starts after a free minute past the
end of the day, every busy time adds a free minute to those that start before it, and the last
thing to start before an opening has a namesake that ends there; only then, and always then,
does the board keep what it promises (`columnSound_iff`).
-/

namespace JooEvents

section Column

variable {schedule : ScheduleState} {session : SessionItem} {dayKey roomId : String}

theorem mem_occupantsOf {o : Occupant} : o ∈ occupantsOf schedule session dayKey roomId ↔
    (∃ placed ∈ placedOthers schedule session dayKey, placed.1.roomId = roomId ∧
      placedOccupant placed = o) ∨
    ∃ brk ∈ columnBreaks schedule dayKey roomId, brk.occupant = o := by
  simp only [occupantsOf, List.mem_insertionSort, List.mem_append, List.mem_map, List.mem_filter,
    decide_eq_true_eq, and_assoc]

theorem mem_speakerBusy {b : BusyTime} : b ∈ speakerBusy schedule session dayKey ↔
    ∃ placed ∈ placedOthers schedule session dayKey, busyTime schedule session placed = some b := by
  simp only [speakerBusy, List.mem_insertionSort, List.mem_filterMap]

theorem swept_occupantsOf : Swept (occupantsOf schedule session dayKey roomId) where
  sorted := by
    have : Std.Total fun a b : Occupant => a.startMin ≤ b.startMin := ⟨fun a b => le_total _ _⟩
    have : IsTrans Occupant fun a b => a.startMin ≤ b.startMin := ⟨fun _ _ _ => le_trans⟩
    exact List.pairwise_insertionSort _ _
  pos := by
    intro o ho
    rcases mem_occupantsOf.mp ho with ⟨placed, -, -, rfl⟩ | ⟨brk, -, rfl⟩
    · exact lt_add_of_pos_right _ placed.2.durationMin_pos
    · exact lt_add_of_pos_right _ brk.durationMin_pos

theorem sorted_speakerBusy :
    (speakerBusy schedule session dayKey).Pairwise fun a b => a.startMin ≤ b.startMin := by
  have : Std.Total fun a b : BusyTime => a.startMin ≤ b.startMin := ⟨fun a b => le_total _ _⟩
  have : IsTrans BusyTime fun a b => a.startMin ≤ b.startMin := ⟨fun _ _ _ => le_trans⟩
  exact List.pairwise_insertionSort _ _

theorem speakerBusy_pos {b : BusyTime} (hb : b ∈ speakerBusy schedule session dayKey) :
    b.startMin < b.endMin := by
  obtain ⟨placed, -, hplaced⟩ := mem_speakerBusy.mp hb
  obtain ⟨shared, -, rfl⟩ := Option.map_eq_some_iff.mp hplaced
  exact lt_add_of_pos_right _ placed.2.durationMin_pos

theorem cutting_cuts (gap : FreeGap) :
    Cutting gap (gap.cuts (speakerBusy schedule session dayKey)) where
  sorted := sorted_speakerBusy.sublist List.filter_sublist
  pos _ hc := speakerBusy_pos (List.mem_of_mem_filter hc)
  meets _ hc := of_decide_eq_true (List.mem_filter.mp hc).2

variable (schedule session dayKey roomId) in
def columnGaps : List FreeGap :=
  freeGaps (dayLengthMin schedule) 0 none (occupantsOf schedule session dayKey roomId)

theorem mem_columnSegments {segment : ColumnSegment} :
    segment ∈ columnSegments schedule session dayKey roomId ↔
      ∃ gap ∈ columnGaps schedule session dayKey roomId, segment ∈
        splitGap session gap gap.startMin (gap.cuts (speakerBusy schedule session dayKey)) := by
  simp only [columnSegments, columnGaps, List.mem_flatMap]

theorem isGap_of_mem_columnGaps {gap : FreeGap}
    (h : gap ∈ columnGaps schedule session dayKey roomId) :
    IsGap (dayLengthMin schedule) 0 none (occupantsOf schedule session dayKey roomId) gap :=
  isGap_of_mem_freeGaps swept_occupantsOf h

theorem pairwise_columnSegments : (columnSegments schedule session dayKey roomId).Pairwise
    fun a b => a.endMin ≤ b.startMin := by
  rw [columnSegments, List.pairwise_flatMap]
  refine ⟨fun gap _ => pairwise_splitGap (cutting_cuts gap),
    (pairwise_freeGaps swept_occupantsOf).imp ?_⟩
  intro gap gap' hgap a ha b hb
  exact (splitGap_bounds (cutting_cuts gap) ha).2.trans
    (hgap.trans (splitGap_bounds (cutting_cuts gap') hb).1)

variable (schedule session dayKey roomId) in
/-- Nothing is in the way of a start : neither the ends of the day nor what is in the column
nor what keeps a speaker elsewhere. -/
structure Vacant (startMin : ℤ) : Prop where
  start_nonneg : 0 ≤ startMin
  end_le : startMin + session.durationMin ≤ dayLengthMin schedule
  free : ∀ o ∈ occupantsOf schedule session dayKey roomId,
    ¬ overlaps startMin (startMin + session.durationMin) o.startMin o.endMin
  present : ∀ b ∈ speakerBusy schedule session dayKey,
    ¬ overlaps startMin (startMin + session.durationMin) b.startMin b.endMin

theorem placementConflict_eq_none_iff {startMin : ℤ} {placed : BoardPlacement × SessionItem} :
    placementConflict schedule session roomId startMin placed = none ↔
      overlaps startMin (startMin + session.durationMin) (placedOccupant placed).startMin
        (placedOccupant placed).endMin →
      placed.1.roomId ≠ roomId ∧ sharedSpeaker session placed.2 = none := by
  obtain ⟨placement, other⟩ := placed
  unfold placementConflict placedOccupant
  simp only
  split_ifs with hover hroom
  · simp [hover, hroom]
  · simp [hover, hroom]
  · simp [hover]

theorem preflight_eq_nil_iff {startMin : ℤ} :
    preflight schedule session dayKey roomId startMin = [] ↔
      Vacant schedule session dayKey roomId startMin := by
  have hbreak : ∀ brk : BreakBlock, breakConflict schedule session roomId startMin brk = none ↔
      ¬ overlaps startMin (startMin + session.durationMin) brk.occupant.startMin
        brk.occupant.endMin := by
    intro brk
    unfold breakConflict BreakBlock.occupant
    split_ifs with hover
    · simp [hover]
    · simp [hover]
  simp only [preflight, List.append_eq_nil_iff, List.filterMap_eq_nil_iff, ite_eq_right_iff,
    reduceCtorEq, imp_false, not_or, not_lt, placementConflict_eq_none_iff, hbreak]
  constructor
  · rintro ⟨⟨hplaced, hbreaks⟩, hstart, hend⟩
    refine ⟨hstart, hend, ?_, ?_⟩
    · intro o ho
      rcases mem_occupantsOf.mp ho with ⟨placed, hmem, hroom, rfl⟩ | ⟨brk, hmem, rfl⟩
      · exact fun hover => (hplaced placed hmem hover).1 hroom
      · exact hbreaks brk hmem
    · intro b hb hover
      obtain ⟨placed, hmem, hbusy⟩ := mem_speakerBusy.mp hb
      obtain ⟨shared, hshared, rfl⟩ := Option.map_eq_some_iff.mp hbusy
      exact absurd ((hplaced placed hmem hover).2.symm.trans hshared) (by simp)
  · intro h
    refine ⟨⟨fun placed hmem hover => ⟨fun hroom => ?_, ?_⟩, fun brk hmem => ?_⟩,
      h.start_nonneg, h.end_le⟩
    · exact h.free _ (mem_occupantsOf.mpr (.inl ⟨placed, hmem, hroom, rfl⟩)) hover
    · rw [Option.eq_none_iff_forall_ne_some]
      intro shared hshared
      have hbusy := mem_speakerBusy.mpr
        ⟨placed, hmem, Option.map_eq_some_iff.mpr ⟨shared, hshared, rfl⟩⟩
      exact h.present _ hbusy hover
    · exact h.free _ (mem_occupantsOf.mpr (.inr ⟨brk, hmem, rfl⟩))

variable (schedule session dayKey roomId) in
/-- A minute of the day that nothing in the column takes. -/
structure FreeMinute (minute : ℤ) : Prop where
  nonneg : 0 ≤ minute
  lt_length : minute < dayLengthMin schedule
  free : ¬ Occupied (occupantsOf schedule session dayKey roomId) minute

theorem IsGap.not_occupied {length cursor : ℤ} {prevLabel : Option String}
    {occupants : List Occupant} {gap : FreeGap} (hgap : IsGap length cursor prevLabel occupants gap)
    {m : ℤ} (hm : covers gap.startMin gap.endMin m) : ¬ Occupied occupants m :=
  fun ⟨o, ho, hcovers⟩ =>
    hgap.apart o ho ⟨hm.1.trans_lt hcovers.2, hcovers.1.trans_lt hm.2⟩

theorem exists_gap_of_apart {a b : ℤ} (hab : a < b) (ha : 0 ≤ a) (hb : b ≤ dayLengthMin schedule)
    (hfree : ∀ o ∈ occupantsOf schedule session dayKey roomId,
      ¬ overlaps a b o.startMin o.endMin) :
    ∃ gap ∈ columnGaps schedule session dayKey roomId, gap.startMin ≤ a ∧ b ≤ gap.endMin :=
  exists_gap_of_free hab ha hfree (.inl hb)

theorem FreeMinute.exists_gap {m : ℤ} (h : FreeMinute schedule session dayKey roomId m) :
    ∃ gap ∈ columnGaps schedule session dayKey roomId, covers gap.startMin gap.endMin m := by
  obtain ⟨gap, hgap, hstart, hend⟩ := exists_gap_of_apart (lt_add_one m) h.nonneg h.lt_length
    fun o ho hover => h.free ⟨o, ho, Int.lt_add_one_iff.mp hover.2, hover.1⟩
  exact ⟨gap, hgap, hstart, hend⟩

variable (schedule session dayKey roomId) in
def GapsInside : Prop := ∀ gap ∈ columnGaps schedule session dayKey roomId, ∀ m,
  covers gap.startMin gap.endMin m → FreeMinute schedule session dayKey roomId m

theorem gapsInside_iff : GapsInside schedule session dayKey roomId ↔
    ∀ m, 0 ≤ m → dayLengthMin schedule ≤ m →
      (∃ o ∈ occupantsOf schedule session dayKey roomId, m < o.startMin) →
      Occupied (occupantsOf schedule session dayKey roomId) m := by
  constructor
  · intro hinside m hm hlength hlater
    by_contra hfree
    have hgaps : ∃ gap ∈ columnGaps schedule session dayKey roomId,
        gap.startMin ≤ m ∧ m + 1 ≤ gap.endMin :=
      exists_gap_of_free (lt_add_one m) hm
        (fun o ho hover => hfree ⟨o, ho, Int.lt_add_one_iff.mp hover.2, hover.1⟩) (.inr hlater)
    obtain ⟨gap, hgap, hstart, hend⟩ := hgaps
    exact absurd (hinside gap hgap m ⟨hstart, hend⟩).lt_length (not_lt.mpr hlength)
  · intro h gap hgap m hm
    have hisGap := isGap_of_mem_columnGaps hgap
    have hnonneg : 0 ≤ m := hisGap.cursor_le.trans hm.1
    have hfree := hisGap.not_occupied hm
    refine ⟨hnonneg, ?_, hfree⟩
    by_contra hlength
    refine hfree (h m hnonneg (not_lt.mp hlength) ?_)
    rcases hisGap.end_eq with hend | ⟨o, ho, hend⟩
    · exact absurd (hend ▸ hm.2) hlength
    · exact ⟨o, ho, hend ▸ hm.2⟩

theorem covers_of_run {gap : FreeGap}
    (hgap : gap ∈ columnGaps schedule session dayKey roomId) {m m' : ℤ}
    (hm : covers gap.startMin gap.endMin m)
    (hrun : ∀ k, min m m' ≤ k → k ≤ max m m' → FreeMinute schedule session dayKey roomId k) :
    covers gap.startMin gap.endMin m' := by
  have hisGap := isGap_of_mem_columnGaps hgap
  constructor
  · by_contra hbefore
    rw [not_le] at hbefore
    have hedge := hrun (gap.startMin - 1) (min_le_of_right_le (by omega))
      (le_max_of_le_left (by have := hm.1; omega))
    rcases hisGap.start_eq with hstart | ⟨o, ho, hend⟩
    · exact absurd hedge.nonneg (by omega)
    · have hpos := swept_occupantsOf.pos o ho
      exact hedge.free ⟨o, ho, by omega, by omega⟩
  · by_contra hafter
    rw [not_lt] at hafter
    have hedge := hrun gap.endMin (min_le_of_left_le hm.2.le) (le_max_of_le_right hafter)
    rcases hisGap.end_eq with hend | ⟨o, ho, hstart⟩
    · exact absurd hedge.lt_length (by omega)
    · have hpos := swept_occupantsOf.pos o ho
      exact hedge.free ⟨o, ho, by omega, by omega⟩

theorem GapsInside.vacant_of_open (hinside : GapsInside schedule session dayKey roomId)
    {segment : ColumnSegment} (hmem : segment ∈ columnSegments schedule session dayKey roomId)
    (hopen : segment.isOpen = true) {startMin : ℤ} (hstart : segment.startMin ≤ startMin)
    (hend : startMin + session.durationMin ≤ segment.endMin) :
    Vacant schedule session dayKey roomId startMin := by
  obtain ⟨gap, hgap, hpart⟩ := mem_columnSegments.mp hmem
  have hisGap := isGap_of_mem_columnGaps hgap
  have hbounds := splitGap_bounds (cutting_cuts gap) hpart
  have hopening := isOpening_of_mem_splitGap (cutting_cuts gap) hpart hopen
  have hpos := session.durationMin_pos
  have hlast := hinside gap hgap (startMin + session.durationMin - 1)
    ⟨by omega, by omega⟩
  refine ⟨by have := hisGap.cursor_le; omega, by have := hlast.lt_length; omega, ?_, ?_⟩
  · rintro o ho ⟨hover, hover'⟩
    exact hisGap.apart o ho ⟨by omega, by omega⟩
  · rintro b hb ⟨hover, hover'⟩
    have hcut : b ∈ gap.cuts (speakerBusy schedule session dayKey) :=
      List.mem_filter.mpr ⟨hb, decide_eq_true ⟨by omega, by omega⟩⟩
    exact hopening.apart b hcut ⟨by omega, by omega⟩

theorem Vacant.exists_open {startMin : ℤ}
    (hvacant : Vacant schedule session dayKey roomId startMin) :
    ∃ segment ∈ columnSegments schedule session dayKey roomId, segment.isOpen = true ∧
      segment.startMin ≤ startMin ∧ startMin + session.durationMin ≤ segment.endMin := by
  obtain ⟨gap, hgap, hstart, hend⟩ := exists_gap_of_apart
    (lt_add_of_pos_right startMin session.durationMin_pos) hvacant.start_nonneg hvacant.end_le
    hvacant.free
  obtain ⟨segment, hpart, hin⟩ := exists_opening (cutting_cuts gap) hstart hend
    fun c hc => hvacant.present c (List.mem_of_mem_filter hc)
  exact ⟨segment, mem_columnSegments.mpr ⟨gap, hgap, hpart⟩, hin⟩

theorem open_fits {segment : ColumnSegment}
    (hmem : segment ∈ columnSegments schedule session dayKey roomId)
    (hopen : segment.isOpen = true) :
    session.durationMin ≤ segment.endMin - segment.startMin := by
  obtain ⟨gap, -, hpart⟩ := mem_columnSegments.mp hmem
  exact (isOpening_of_mem_splitGap (cutting_cuts gap) hpart hopen).fits

variable (schedule session dayKey roomId) in
/-- Every busy time that meets a run of free minutes has one in the run that those before it do
not have. -/
def BusyTimesCount : Prop := ∀ before cut after,
  speakerBusy schedule session dayKey = before ++ cut :: after → ∀ m,
    covers cut.startMin cut.endMin m → FreeMinute schedule session dayKey roomId m →
      ∃ m', covers cut.startMin cut.endMin m' ∧
        (∀ k, min m m' ≤ k → k ≤ max m m' → FreeMinute schedule session dayKey roomId k) ∧
        ∀ b ∈ before, ¬ covers b.startMin b.endMin m'

theorem nonempty_of_busyTimesCount (hinside : GapsInside schedule session dayKey roomId)
    (hbusy : BusyTimesCount schedule session dayKey roomId) {segment : ColumnSegment}
    (hmem : segment ∈ columnSegments schedule session dayKey roomId) :
    segment.startMin < segment.endMin := by
  obtain ⟨gap, hgap, hpart⟩ := mem_columnSegments.mp hmem
  rcases nonempty_or_blockedPart hpart with hlt | ⟨before, cut, after, hcuts, rfl⟩
  · exact hlt
  have hcut : cut ∈ gap.cuts (speakerBusy schedule session dayKey) := by
    rw [hcuts]
    exact List.mem_append_right _ List.mem_cons_self
  have hcutting : Cutting gap (gap.cuts (speakerBusy schedule session dayKey)) := cutting_cuts gap
  obtain ⟨m, hm, hcovers⟩ := (overlaps_iff_exists
    (isGap_of_mem_columnGaps hgap).nonempty (hcutting.pos cut hcut)).mp
    (hcutting.meets cut hcut)
  -- The cuts before this one are among the busy times before it.
  obtain ⟨all, rest, hall, hbefore, hrest⟩ := List.filter_eq_append_iff.mp hcuts
  obtain ⟨skipped, after', rfl, hskipped, -, -⟩ := List.filter_eq_cons_iff.mp hrest
  obtain ⟨m', hm', hrun, hnot⟩ := hbusy (all ++ skipped) cut after' (by simpa using hall) m hcovers
    (hinside gap hgap m hm)
  have hin := covers_of_run hgap hm hrun
  have hafter : gap.after gap.startMin before ≤ m' := by
    refine FreeGap.after_le.mpr ⟨hin.1, fun b hb => (min_le_right _ _).trans ?_⟩
    have hsorted := hcutting.sorted
    rw [hcuts, List.pairwise_append] at hsorted
    have hfirst := hsorted.2.2 b hb cut List.mem_cons_self
    have hb' : b ∈ all := by
      rw [← hbefore] at hb
      exact List.mem_of_mem_filter hb
    by_contra hlt
    exact hnot b (List.mem_append_left _ hb') ⟨hfirst.trans hm'.1, not_le.mp hlt⟩
  exact (max_le hafter hm'.1).trans_lt (lt_min hin.2 hm'.2)

theorem busyTimesCount_of_nonempty (hinside : GapsInside schedule session dayKey roomId)
    (hnonempty : ∀ segment ∈ columnSegments schedule session dayKey roomId,
      segment.startMin < segment.endMin) : BusyTimesCount schedule session dayKey roomId := by
  intro before cut after hsplit m hm hfree
  obtain ⟨gap, hgap, hin⟩ := hfree.exists_gap
  let meets : BusyTime → Bool :=
    fun b => decide (overlaps gap.startMin gap.endMin b.startMin b.endMin)
  have hcuts : gap.cuts (speakerBusy schedule session dayKey) =
      before.filter meets ++ cut :: after.filter meets := by
    have hcut : meets cut = true :=
      decide_eq_true ⟨hin.1.trans_lt hm.2, hm.1.trans_lt hin.2⟩
    rw [FreeGap.cuts, hsplit, List.filter_append, List.filter_cons_of_pos hcut]
  have hpart := hnonempty (gap.blockedPart gap.startMin (before.filter meets) cut)
    (mem_columnSegments.mpr ⟨gap, hgap, hcuts ▸ blockedPart_mem_splitGap⟩)
  have hstart : max (gap.after gap.startMin (before.filter meets)) cut.startMin <
      min gap.endMin cut.endMin := hpart
  obtain ⟨hafter, hcutStart⟩ := max_le_iff.mp (le_refl
    (max (gap.after gap.startMin (before.filter meets)) cut.startMin))
  obtain ⟨hend, hcutEnd⟩ := lt_min_iff.mp hstart
  obtain ⟨hgapStart, hpassed⟩ := FreeGap.after_le.mp hafter
  refine ⟨_, ⟨hcutStart, hcutEnd⟩, ?_, ?_⟩
  · intro k hk hk'
    exact hinside gap hgap k ⟨(le_min hin.1 hgapStart).trans hk, hk'.trans_lt (max_lt hin.2 hend)⟩
  · intro b hb hcovers
    have hmeets : b ∈ before.filter meets := List.mem_filter.mpr
      ⟨hb, decide_eq_true ⟨hgapStart.trans_lt hcovers.2, hcovers.1.trans_lt hend⟩⟩
    exact absurd (hpassed b hmeets) (not_le.mpr (lt_min hend hcovers.2))

variable (schedule session dayKey roomId) in
/-- Where something ends and the next start is vacant, the last thing to have started has a
namesake that ends there. -/
def LabelsEnd : Prop := ∀ startMin, Vacant schedule session dayKey roomId startMin →
  (startMin = 0 ∨ ∃ o ∈ occupantsOf schedule session dayKey roomId, o.endMin = startMin) →
    ∀ o ∈ ((occupantsOf schedule session dayKey roomId).filter
      fun o => decide (o.startMin ≤ startMin)).getLast?,
      ∃ o' ∈ occupantsOf schedule session dayKey roomId,
        o'.label = o.label ∧ o'.endMin = startMin

theorem labelAt_eq_some_iff {gap : FreeGap} {position : ℤ} {label : String} :
    gap.labelAt position = some label ↔ position = gap.startMin ∧ gap.prevLabel = some label := by
  unfold FreeGap.labelAt
  split_ifs with h
  · simp [h]
  · simp [h]

theorem prevLabel_eq_some_iff {gap : FreeGap}
    (hgap : gap ∈ columnGaps schedule session dayKey roomId) {label : String} :
    gap.prevLabel = some label ↔ ∃ o ∈ ((occupantsOf schedule session dayKey roomId).filter
      fun o => decide (o.startMin ≤ gap.startMin)).getLast?, o.label = label := by
  rw [(isGap_of_mem_columnGaps hgap).prev_eq, Option.or_none, Option.map_eq_some_iff]
  rfl

theorem LabelsEnd.prevLabel (hlabels : LabelsEnd schedule session dayKey roomId)
    (hinside : GapsInside schedule session dayKey roomId) {segment : ColumnSegment}
    (hmem : segment ∈ columnSegments schedule session dayKey roomId) {label : String}
    (hlabel : segment.prevLabel = some label) :
    ∃ o ∈ occupantsOf schedule session dayKey roomId,
      o.label = label ∧ o.endMin = segment.startMin := by
  have hopen := isOpen_of_prevLabel hlabel
  have hfits := open_fits hmem hopen
  have hvacant := hinside.vacant_of_open hmem hopen (le_refl _) (by omega)
  obtain ⟨gap, hgap, hpart⟩ := mem_columnSegments.mp hmem
  rw [(isOpening_of_mem_splitGap (cutting_cuts gap) hpart hopen).prev_eq,
    labelAt_eq_some_iff] at hlabel
  obtain ⟨hstart, hprev⟩ := hlabel
  obtain ⟨o, ho, rfl⟩ := (prevLabel_eq_some_iff hgap).mp hprev
  rw [hstart] at hvacant ⊢
  exact hlabels gap.startMin hvacant (isGap_of_mem_columnGaps hgap).start_eq o ho

theorem labelsEnd_of_prevLabel
    (hlabel : ∀ segment ∈ columnSegments schedule session dayKey roomId,
      ∀ label ∈ segment.prevLabel, ∃ o ∈ occupantsOf schedule session dayKey roomId,
        o.label = label ∧ o.endMin = segment.startMin) :
    LabelsEnd schedule session dayKey roomId := by
  intro startMin hvacant hedge o ho
  obtain ⟨segment, hmem, hopen, hstart, hend⟩ := hvacant.exists_open
  obtain ⟨gap, hgap, hpart⟩ := mem_columnSegments.mp hmem
  have hisGap := isGap_of_mem_columnGaps hgap
  have hpos := session.durationMin_pos
  obtain ⟨hle, hlast⟩ := splitGap_bounds (cutting_cuts gap) hpart
  -- Nothing free comes right before the start, so that it is the edge of its gap.
  have hgapStart : gap.startMin = startMin := by
    refine le_antisymm (hle.trans hstart) ?_
    rcases hedge with rfl | ⟨o', ho', hend'⟩
    · exact hisGap.cursor_le
    · by_contra hlt
      have hpos' := swept_occupantsOf.pos o' ho'
      exact hisGap.apart o' ho' ⟨by omega, by omega⟩
  have hsegment : segment.startMin = startMin := by omega
  have hprev : segment.prevLabel = some o.label := by
    rw [(isOpening_of_mem_splitGap (cutting_cuts gap) hpart hopen).prev_eq, labelAt_eq_some_iff]
    refine ⟨by omega, (prevLabel_eq_some_iff hgap).mpr ⟨o, ?_, rfl⟩⟩
    rwa [hgapStart]
  rw [← hsegment]
  exact hlabel segment hmem o.label hprev

theorem nextLabel_starts {segment : ColumnSegment}
    (hmem : segment ∈ columnSegments schedule session dayKey roomId) {label : String}
    (hlabel : segment.nextLabel = some label) :
    ∃ o ∈ occupantsOf schedule session dayKey roomId,
      o.label = label ∧ o.startMin = segment.endMin := by
  obtain ⟨gap, hgap, hpart⟩ := mem_columnSegments.mp hmem
  obtain ⟨hend, hnext⟩ := nextLabel_splitGap hpart hlabel
  rw [hend]
  exact (isGap_of_mem_columnGaps hgap).next label hnext

theorem mem_slotLines {slotMinutes low high m : ℤ} (hslot : 0 < slotMinutes)
    (h : m ∈ slotLines slotMinutes low high) : low ≤ m ∧ m ≤ high := by
  simp only [slotLines, List.mem_map, List.mem_range, Int.lt_toNat, Int.lt_add_one_iff] at h
  obtain ⟨i, hi, rfl⟩ := h
  have hfirst := Int.ediv_mul_le (-low) hslot.ne'
  have hline := (Int.le_ediv_iff_mul_le hslot).mp hi
  have hnonneg : (0 : ℤ) ≤ i * slotMinutes := mul_nonneg (Int.natCast_nonneg i) hslot.le
  rw [neg_mul] at hline ⊢
  exact ⟨by omega, by omega⟩

theorem mem_foldl_nearerAnchor {clamped : ℚ} {anchors : List SnapResult} {best : SnapResult} :
    ∀ {kept : Option SnapResult}, anchors.foldl (nearerAnchor clamped) kept = some best →
      kept = some best ∨ best ∈ anchors := by
  induction anchors with
  | nil => exact fun h => .inl h
  | cons anchor anchors ih =>
    intro kept h
    rcases ih h with hnext | hmem
    · have hchoice : nearerAnchor clamped kept anchor = kept ∨
          nearerAnchor clamped kept anchor = some anchor := by
        unfold nearerAnchor
        dsimp only
        split_ifs
        · exact .inl rfl
        · cases kept with
          | none => exact .inr rfl
          | some kept =>
            dsimp only
            split_ifs
            · exact .inr rfl
            · exact .inl rfl
      rcases hchoice with hkept | hanchor
      · exact .inl (hkept ▸ hnext)
      · rw [hanchor, Option.some.injEq] at hnext
        exact .inr (hnext ▸ List.mem_cons_self)
    · exact .inr (List.mem_cons_of_mem _ hmem)

theorem snapStart_mem {segment : ColumnSegment} {slotMinutes : ℤ} (hslot : 0 < slotMinutes)
    (hfits : session.durationMin ≤ segment.endMin - segment.startMin) (rawMin : ℚ) :
    segment.startMin ≤ (snapStart segment session slotMinutes rawMin).startMin ∧
      (snapStart segment session slotMinutes rawMin).startMin + session.durationMin ≤
        segment.endMin := by
  unfold snapStart
  dsimp only
  split
  · rename_i best hbest
    rcases mem_foldl_nearerAnchor hbest with hnone | hmem
    · cases hnone
    · simp only [List.mem_append, List.mem_cons, List.not_mem_nil, or_false, List.mem_map] at hmem
      rcases hmem with (rfl | rfl) | ⟨slot, hline, rfl⟩
      · exact ⟨le_refl _, by dsimp only; omega⟩
      · exact ⟨by dsimp only; omega, by dsimp only; omega⟩
      · have hbounds := mem_slotLines hslot hline
        exact ⟨hbounds.1, by dsimp only; omega⟩
  · dsimp only
    refine ⟨le_min (by omega) (le_max_left _ _), ?_⟩
    have := min_le_left (segment.endMin - session.durationMin)
      (max segment.startMin (roundHalfUp (min (↑(segment.endMin - session.durationMin) : ℚ)
        (max (segment.startMin : ℚ) rawMin) / aimStepMin) * aimStepMin))
    omega

theorem exists_segment_of_quickPick {limit : ℕ} {pick : QuickPick}
    (h : pick ∈ quickPicks schedule session limit) :
    ∃ segment ∈ columnSegments schedule session pick.dayKey pick.roomId,
      segment.isOpen = true ∧ pick.startMin = segment.startMin := by
  simp only [quickPicks, List.mem_map] at h
  obtain ⟨candidate, hcandidate, rfl⟩ := h
  have hmem := List.mem_of_mem_take hcandidate
  simp only [List.mem_insertionSort, List.mem_flatMap, columnCandidates] at hmem
  obtain ⟨day, -, room, -, hmem⟩ := hmem
  split_ifs at hmem
  · cases hmem
  · obtain ⟨segment, hsegment, rfl⟩ := List.mem_map.mp hmem
    exact ⟨segment, List.mem_of_mem_filter hsegment, (List.mem_filter.mp hsegment).2, rfl⟩

end Column

/-! ## The column as a whole -/

variable (schedule : ScheduleState) (session : SessionItem) (dayKey roomId : String)

/-- What the board promises about a column. -/
structure ColumnSound : Prop where
  starts : ∀ startMin, (∃ segment ∈ columnSegments schedule session dayKey roomId,
    segment.isOpen = true ∧ segment.startMin ≤ startMin ∧
      startMin ≤ segment.endMin - session.durationMin) ↔
    preflight schedule session dayKey roomId startMin = []
  sorted : (columnSegments schedule session dayKey roomId).Pairwise
    fun a b => a.endMin ≤ b.startMin
  nonempty : ∀ segment ∈ columnSegments schedule session dayKey roomId,
    segment.startMin < segment.endMin
  /-- Segments and occupants take each minute of the day, and segments no other. -/
  cover : ∀ minute, (∃ segment ∈ columnSegments schedule session dayKey roomId,
    covers segment.startMin segment.endMin minute) ↔
    FreeMinute schedule session dayKey roomId minute
  snapped : ∀ segment ∈ columnSegments schedule session dayKey roomId, segment.isOpen = true →
    ∀ rawMin, preflight schedule session dayKey roomId
      (snapStart segment session schedule.slotMinutes rawMin).startMin = []
  proposed : ∀ segment ∈ columnSegments schedule session dayKey roomId, segment.isOpen = true →
    ∀ durationMin, preflight schedule session dayKey roomId
      (defaultStart segment durationMin).startMin = []
  picked : ∀ limit, ∀ pick ∈ quickPicks schedule session limit, pick.dayKey = dayKey →
    pick.roomId = roomId → preflight schedule session dayKey roomId pick.startMin = []
  prevLabel : ∀ segment ∈ columnSegments schedule session dayKey roomId,
    ∀ label ∈ segment.prevLabel, ∃ o ∈ occupantsOf schedule session dayKey roomId,
      o.label = label ∧ o.endMin = segment.startMin
  nextLabel : ∀ segment ∈ columnSegments schedule session dayKey roomId,
    ∀ label ∈ segment.nextLabel, ∃ o ∈ occupantsOf schedule session dayKey roomId,
      o.label = label ∧ o.startMin = segment.endMin

/-- The column and the busy times leave the sweep nothing to miss. -/
structure ColumnClear : Prop where
  /-- What starts past the end of the day starts with no free minute before it. -/
  late : ∀ m, 0 ≤ m → dayLengthMin schedule ≤ m →
    (∃ o ∈ occupantsOf schedule session dayKey roomId, m < o.startMin) →
      Occupied (occupantsOf schedule session dayKey roomId) m
  busy : BusyTimesCount schedule session dayKey roomId
  labels : LabelsEnd schedule session dayKey roomId

variable {schedule session dayKey roomId}

theorem GapsInside.cover (hinside : GapsInside schedule session dayKey roomId) (minute : ℤ) :
    (∃ segment ∈ columnSegments schedule session dayKey roomId,
      covers segment.startMin segment.endMin minute) ↔
      FreeMinute schedule session dayKey roomId minute := by
  constructor
  · rintro ⟨segment, hmem, hcovers⟩
    obtain ⟨gap, hgap, hpart⟩ := mem_columnSegments.mp hmem
    have hbounds := splitGap_bounds (cutting_cuts gap) hpart
    exact hinside gap hgap minute
      ⟨hbounds.1.trans hcovers.1, hcovers.2.trans_le hbounds.2⟩
  · intro hfree
    obtain ⟨gap, hgap, hin⟩ := hfree.exists_gap
    obtain ⟨segment, hpart, hcovers⟩ := exists_part_covers hin.1 hin.2
    exact ⟨segment, mem_columnSegments.mpr ⟨gap, hgap, hpart⟩, hcovers⟩

theorem columnSound_of_clear (h : ColumnClear schedule session dayKey roomId) :
    ColumnSound schedule session dayKey roomId := by
  have hinside := gapsInside_iff.mpr h.late
  have hoffer : ∀ segment ∈ columnSegments schedule session dayKey roomId,
      segment.isOpen = true → ∀ startMin, segment.startMin ≤ startMin →
        startMin + session.durationMin ≤ segment.endMin →
        preflight schedule session dayKey roomId startMin = [] :=
    fun segment hmem hopen startMin hstart hend =>
      preflight_eq_nil_iff.mpr (hinside.vacant_of_open hmem hopen hstart hend)
  have hfirst : ∀ segment ∈ columnSegments schedule session dayKey roomId,
      segment.isOpen = true →
        preflight schedule session dayKey roomId segment.startMin = [] := by
    intro segment hmem hopen
    have hfits := open_fits hmem hopen
    exact hoffer segment hmem hopen _ (le_refl _) (by omega)
  refine ⟨?_, pairwise_columnSegments,
    fun segment hmem => nonempty_of_busyTimesCount hinside h.busy hmem, hinside.cover, ?_,
    fun segment hmem hopen _ => hfirst segment hmem hopen, ?_,
    fun segment hmem label hlabel => h.labels.prevLabel hinside hmem hlabel,
    fun segment hmem label hlabel => nextLabel_starts hmem hlabel⟩
  · intro startMin
    constructor
    · rintro ⟨segment, hmem, hopen, hstart, hend⟩
      exact hoffer segment hmem hopen startMin hstart (by omega)
    · intro hnone
      obtain ⟨segment, hmem, hopen, hstart, hend⟩ := (preflight_eq_nil_iff.mp hnone).exists_open
      exact ⟨segment, hmem, hopen, hstart, by omega⟩
  · intro segment hmem hopen rawMin
    obtain ⟨hstart, hend⟩ :=
      snapStart_mem schedule.slotMinutes_pos (open_fits hmem hopen) rawMin
    exact hoffer segment hmem hopen _ hstart hend
  · rintro limit pick hpick rfl rfl
    obtain ⟨segment, hmem, hopen, hstart⟩ := exists_segment_of_quickPick hpick
    rw [hstart]
    exact hfirst segment hmem hopen

variable (schedule session dayKey roomId) in
/-- The board keeps its promises about a column exactly when the column is clear. -/
theorem columnSound_iff : ColumnSound schedule session dayKey roomId ↔
    ColumnClear schedule session dayKey roomId := by
  refine ⟨fun h => ?_, columnSound_of_clear⟩
  have hinside : GapsInside schedule session dayKey roomId := by
    intro gap hgap m hm
    obtain ⟨segment, hpart, hcovers⟩ := exists_part_covers hm.1 hm.2
    exact (h.cover m).mp ⟨segment, mem_columnSegments.mpr ⟨gap, hgap, hpart⟩, hcovers⟩
  exact ⟨gapsInside_iff.mp hinside, busyTimesCount_of_nonempty hinside h.nonempty,
    labelsEnd_of_prevLabel h.prevLabel⟩

/-- A column is clear where everything in it starts within the day and ends in the order in
which it starts, and the busy times come one after another. -/
theorem columnClear_of_inOrder
    (hday : ∀ o ∈ occupantsOf schedule session dayKey roomId,
      0 ≤ o.startMin ∧ o.startMin ≤ dayLengthMin schedule)
    (hends : (occupantsOf schedule session dayKey roomId).Pairwise fun a b => a.endMin ≤ b.endMin)
    (hbusy : (speakerBusy schedule session dayKey).Pairwise fun a b => a.endMin ≤ b.startMin) :
    ColumnClear schedule session dayKey roomId where
  late := by
    rintro m - hlength ⟨o, ho, hlt⟩
    have hstart := (hday o ho).2
    omega
  busy := by
    intro before cut after hsplit m hm hfree
    rw [hsplit, List.pairwise_append] at hbusy
    refine ⟨m, hm, fun k hk hk' => ?_, fun b hb hcovers => ?_⟩
    · rwa [show k = m by omega]
    · have hapart := hbusy.2.2 b hb cut List.mem_cons_self
      exact absurd hcovers.2 (not_lt.mpr (hapart.trans hm.1))
  labels := by
    intro startMin hvacant hedge o ho
    have hlast := List.mem_of_getLast? ho
    obtain ⟨hmem, hstarted⟩ := List.mem_filter.mp hlast
    have hstart : o.startMin ≤ startMin := of_decide_eq_true hstarted
    have hpos := swept_occupantsOf.pos o hmem
    have hduration := session.durationMin_pos
    have hended : o.endMin ≤ startMin := by
      by_contra hlt
      exact hvacant.free o hmem ⟨by omega, by omega⟩
    refine ⟨o, hmem, rfl, le_antisymm hended ?_⟩
    rcases hedge with rfl | ⟨x, hx, rfl⟩
    · have hnonneg := (hday o hmem).1
      omega
    · have hposX := swept_occupantsOf.pos x hx
      have hstartedX : x ∈ (occupantsOf schedule session dayKey roomId).filter
          fun o => decide (o.startMin ≤ x.endMin) :=
        List.mem_filter.mpr ⟨hx, decide_eq_true hposX.le⟩
      have hordered := hends.sublist
        (List.filter_sublist (p := fun o => decide (o.startMin ≤ x.endMin)))
      obtain ⟨earlier, hsplit⟩ := List.getLast?_eq_some_iff.mp ho
      rw [hsplit] at hstartedX hordered
      rcases List.mem_append.mp hstartedX with hearlier | hsame
      · exact (List.pairwise_append.mp hordered).2.2 x hearlier o (List.mem_singleton_self o)
      · rw [List.mem_singleton.mp hsame]

def halfHour (id title : String) : SessionItem := ⟨id, title, [], 30, by decide⟩

/-- A session of half an hour with two speakers. -/
def jointHalfHour : SessionItem :=
  ⟨"panel", "Panel", [⟨"Ann", "ann@x.y"⟩, ⟨"Bob", "bob@x.y"⟩], 30, by decide⟩

/-- A day of four hours : a talk that runs into lunch, and two elsewhere with speakers of the
session. -/
def fullDay : ScheduleState where
  days := ["mon"]
  rooms := [⟨"hall", "Hall", none⟩, ⟨"studio", "Studio", none⟩]
  slotMinutes := 15
  slotMinutes_pos := by decide
  slotsPerDay := 16
  sessions := [jointHalfHour, ⟨"opening", "Opening", [], 45, by decide⟩,
    ⟨"a", "A", [⟨"Ann", "ann@x.y"⟩], 30, by decide⟩,
    ⟨"b", "B", [⟨"Bob", "bob@x.y"⟩, ⟨"Ann", "ann@x.y"⟩], 45, by decide⟩]
  placements := [⟨"b", "mon", "studio", 150⟩, ⟨"a", "mon", "studio", 120⟩,
    ⟨"opening", "mon", "hall", 30⟩]
  breaks := [⟨"Lunch", "mon", "hall", 60, 30, by decide⟩]

/-- The session can start before the opening, right after lunch and when the talks are over. -/
theorem columnSound_fullDay :
    ColumnSound fullDay jointHalfHour "mon" "hall" ∧
      columnSegments fullDay jointHalfHour "mon" "hall" =
        [⟨.open none (some "Opening"), 0, 30⟩, ⟨.open (some "Lunch") none, 90, 120⟩,
          ⟨.blocked "Ann is speaking in Studio then", 120, 150⟩,
          ⟨.blocked "Ann is speaking in Studio then", 150, 195⟩, ⟨.open none none, 195, 240⟩] := by
  refine ⟨(columnSound_iff _ _ _ _).mpr (columnClear_of_inOrder ?_ ?_ ?_), ?_⟩
  all_goals decide +kernel

/-- A day of one hour with a break that was set when the day was longer. -/
def shortenedDay : ScheduleState where
  days := ["mon"]
  rooms := [⟨"hall", "Hall", none⟩]
  slotMinutes := 15
  slotMinutes_pos := by decide
  slotsPerDay := 4
  sessions := [halfHour "new" "New"]
  placements := []
  breaks := [⟨"Lunch", "mon", "hall", 120, 30, by decide⟩]

/-- The time up to the late break is offered, and the check turns a start in it down. -/
theorem not_columnSound_shortenedDay :
    ¬ ColumnSound shortenedDay (halfHour "new" "New") "mon" "hall" := by
  intro h
  have hoffered := (h.starts 90).mp
    ⟨⟨.open none (some "Lunch"), 0, 120⟩, by decide +kernel, rfl, by decide, by decide⟩
  exact absurd hoffered (by decide +kernel)

end JooEvents
