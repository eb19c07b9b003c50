import JooEvents.Schedule.Openings

/-!
# Gaps and their parts

What the sweep over a column finds. The free gaps are the longest runs of minutes that nothing
in the column takes (`isGap_of_mem_freeGaps`, `exists_gap_of_free`). The parts of a gap cover
it in order (`pairwise_splitGap`, `exists_part_covers`), and the open ones are the longest runs
that no cut overlaps (`isOpening_of_mem_splitGap`, `exists_opening`). A part that a cut blocks
is empty when the cuts before it reach past its end (`FreeGap.after_le`).
-/

namespace JooEvents

def covers (startMin endMin minute : ℤ) : Prop := startMin ≤ minute ∧ minute < endMin

theorem overlaps_iff_exists {a b c d : ℤ} (hab : a < b) (hcd : c < d) :
    overlaps a b c d ↔ ∃ m, covers a b m ∧ covers c d m := by
  constructor
  · rintro ⟨h, h'⟩
    exact ⟨max a c, ⟨le_max_left _ _, max_lt hab h'⟩, ⟨le_max_right _ _, max_lt h hcd⟩⟩
  · rintro ⟨m, hm, hm'⟩
    exact ⟨hm.1.trans_lt hm'.2, hm'.1.trans_lt hm.2⟩

/-! ## Gaps -/

section Gaps

variable {length : ℤ}

/-- The occupants are in the order of their starts, and take time. -/
structure Swept (occupants : List Occupant) : Prop where
  sorted : occupants.Pairwise fun a b => a.startMin ≤ b.startMin
  pos : ∀ o ∈ occupants, o.startMin < o.endMin

theorem Swept.tail {o : Occupant} {occupants : List Occupant} (h : Swept (o :: occupants)) :
    Swept occupants :=
  ⟨(List.pairwise_cons.mp h.sorted).2, fun o' ho' => h.pos o' (List.mem_cons_of_mem _ ho')⟩

def Occupied (occupants : List Occupant) (minute : ℤ) : Prop :=
  ∃ o ∈ occupants, covers o.startMin o.endMin minute

/-- What a gap of the sweep from a cursor is. -/
structure IsGap (length cursor : ℤ) (prevLabel : Option String) (occupants : List Occupant)
    (gap : FreeGap) : Prop where
  cursor_le : cursor ≤ gap.startMin
  nonempty : gap.startMin < gap.endMin
  apart : ∀ o ∈ occupants, ¬ overlaps gap.startMin gap.endMin o.startMin o.endMin
  /-- The gap begins at the cursor or where something ends. -/
  start_eq : gap.startMin = cursor ∨ ∃ o ∈ occupants, o.endMin = gap.startMin
  /-- The gap ends with the day or where something starts. -/
  end_eq : gap.endMin = length ∨ ∃ o ∈ occupants, o.startMin = gap.endMin
  prev_eq : gap.prevLabel =
    (((occupants.filter fun o => decide (o.startMin ≤ gap.startMin)).getLast?.map
      (·.label)).or prevLabel)
  next : ∀ label ∈ gap.nextLabel, ∃ o ∈ occupants, o.label = label ∧ o.startMin = gap.endMin

theorem isGap_of_mem_freeGaps : ∀ {occupants : List Occupant} {cursor : ℤ}
    {prevLabel : Option String} {gap : FreeGap}, Swept occupants →
    gap ∈ freeGaps length cursor prevLabel occupants →
      IsGap length cursor prevLabel occupants gap
  | [], cursor, prevLabel, gap, _, h => by
    unfold freeGaps at h
    split at h
    · rename_i hlt
      rw [List.mem_singleton] at h
      subst h
      exact ⟨le_refl _, hlt, by simp, .inl rfl, .inl rfl, by simp, by simp⟩
    · cases h
  | o :: occupants, cursor, prevLabel, gap, hswept, h => by
    have hfirst := (List.pairwise_cons.mp hswept.sorted).1
    have hpos := hswept.pos o List.mem_cons_self
    rw [freeGaps, List.mem_append] at h
    rcases h with h | h
    · split at h
      · rename_i hlt
        rw [List.mem_singleton] at h
        subst h
        refine ⟨le_refl _, hlt, ?_, .inl rfl, .inr ⟨o, by simp, rfl⟩, ?_, ?_⟩
        · rintro o' ho' ⟨-, hover⟩
          rcases List.mem_cons.mp ho' with rfl | ho'
          · exact absurd hover (lt_irrefl _)
          · exact absurd hover (not_lt.mpr (hfirst o' ho'))
        · have hnone : (o :: occupants).filter (fun o' => decide (o'.startMin ≤ cursor)) = [] := by
            rw [List.filter_eq_nil_iff]
            intro o' ho'
            rw [decide_eq_true_eq, not_le]
            rcases List.mem_cons.mp ho' with rfl | ho'
            · exact hlt
            · exact hlt.trans_le (hfirst o' ho')
          rw [hnone]
          rfl
        · rintro label ⟨⟩
          exact ⟨o, by simp, rfl, rfl⟩
      · cases h
    · have ih := isGap_of_mem_freeGaps hswept.tail h
      have hcursor := max_le_iff.mp ih.cursor_le
      refine ⟨hcursor.1, ih.nonempty, ?_, ?_, ?_, ?_, ?_⟩
      · intro o' ho'
        rcases List.mem_cons.mp ho' with rfl | ho'
        · exact fun hover => absurd hover.1 (not_lt.mpr hcursor.2)
        · exact ih.apart o' ho'
      · rcases ih.start_eq with hstart | ⟨o', ho', hstart⟩
        · rcases max_choice cursor o.endMin with hmax | hmax
          · exact .inl (hstart.trans hmax)
          · exact .inr ⟨o, by simp, (hstart.trans hmax).symm⟩
        · exact .inr ⟨o', by simp [ho'], hstart⟩
      · rcases ih.end_eq with hend | ⟨o', ho', hend⟩
        · exact .inl hend
        · exact .inr ⟨o', by simp [ho'], hend⟩
      · have hbefore : o.startMin ≤ gap.startMin := hpos.le.trans hcursor.2
        rw [List.filter_cons_of_pos (by simpa using hbefore), ih.prev_eq]
        cases hlast : (occupants.filter fun o => decide (o.startMin ≤ gap.startMin)).getLast? with
        | none =>
          rw [List.getLast?_eq_none_iff] at hlast
          rw [hlast]
          rfl
        | some last => rw [List.getLast?_cons, hlast]; rfl
      · intro label hlabel
        obtain ⟨o', ho', hlabel', hend⟩ := ih.next label hlabel
        exact ⟨o', by simp [ho'], hlabel', hend⟩

theorem pairwise_freeGaps : ∀ {occupants : List Occupant} {cursor : ℤ}
    {prevLabel : Option String}, Swept occupants →
    (freeGaps length cursor prevLabel occupants).Pairwise fun a b => a.endMin ≤ b.startMin
  | [], cursor, prevLabel, _ => by
    unfold freeGaps
    split <;> simp
  | o :: occupants, cursor, prevLabel, hswept => by
    rw [freeGaps, List.pairwise_append]
    refine ⟨by split <;> simp, pairwise_freeGaps hswept.tail, ?_⟩
    intro gap hgap gap' hgap'
    have hlater := max_le_iff.mp (isGap_of_mem_freeGaps hswept.tail hgap').cursor_le
    split at hgap
    · rw [List.mem_singleton] at hgap
      subst hgap
      exact (hswept.pos o List.mem_cons_self).le.trans hlater.2
    · cases hgap

theorem exists_gap_of_free : ∀ {occupants : List Occupant} {cursor : ℤ}
    {prevLabel : Option String} {a b : ℤ}, a < b → cursor ≤ a →
    (∀ o ∈ occupants, ¬ overlaps a b o.startMin o.endMin) →
    (b ≤ length ∨ ∃ o ∈ occupants, b ≤ o.startMin) →
      ∃ gap ∈ freeGaps length cursor prevLabel occupants, gap.startMin ≤ a ∧ b ≤ gap.endMin
  | [], cursor, prevLabel, a, b, hab, hcursor, _, hend => by
    have hlength : b ≤ length := hend.elim id fun ⟨_, ho, _⟩ => nomatch ho
    rw [freeGaps, if_pos (hcursor.trans_lt (hab.trans_le hlength))]
    exact ⟨_, List.mem_singleton_self _, hcursor, hlength⟩
  | o :: occupants, cursor, prevLabel, a, b, hab, hcursor, hfree, hend => by
    rw [freeGaps]
    have ho := hfree o List.mem_cons_self
    rw [overlaps, not_and_or, not_lt, not_lt] at ho
    rcases le_or_gt b o.startMin with hbefore | hbefore
    · rw [if_pos (hcursor.trans_lt (hab.trans_le hbefore))]
      exact ⟨_, List.mem_append_left _ (List.mem_singleton_self _), hcursor, hbefore⟩
    · have hafter : o.endMin ≤ a := ho.resolve_right (not_le.mpr hbefore)
      have hend' : b ≤ length ∨ ∃ o' ∈ occupants, b ≤ o'.startMin := by
        rcases hend with hend | ⟨o', ho', hend⟩
        · exact .inl hend
        · rcases List.mem_cons.mp ho' with rfl | ho'
          · exact absurd hend (not_le.mpr hbefore)
          · exact .inr ⟨o', ho', hend⟩
      obtain ⟨gap, hgap, hin⟩ := exists_gap_of_free hab (max_le hcursor hafter)
        (fun o' ho' => hfree o' (List.mem_cons_of_mem _ ho')) hend'
      exact ⟨gap, List.mem_append_right _ hgap, hin⟩

end Gaps

/-! ## Cuts -/

section Cuts

variable {session : SessionItem} {gap : FreeGap}

/-- The cuts overlap the gap, are in the order of their starts, and take time. -/
structure Cutting (gap : FreeGap) (cuts : List BusyTime) : Prop where
  sorted : cuts.Pairwise fun a b => a.startMin ≤ b.startMin
  pos : ∀ c ∈ cuts, c.startMin < c.endMin
  meets : ∀ c ∈ cuts, overlaps gap.startMin gap.endMin c.startMin c.endMin

theorem Cutting.tail {c : BusyTime} {cuts : List BusyTime} (h : Cutting gap (c :: cuts)) :
    Cutting gap cuts :=
  ⟨(List.pairwise_cons.mp h.sorted).2, fun c' hc' => h.pos c' (List.mem_cons_of_mem _ hc'),
    fun c' hc' => h.meets c' (List.mem_cons_of_mem _ hc')⟩

@[simp]
theorem fitSegment_startMin (a b : ℤ) (p n : Option String) :
    (fitSegment session a b p n).startMin = a := by
  unfold fitSegment
  split <;> rfl

@[simp]
theorem fitSegment_endMin (a b : ℤ) (p n : Option String) :
    (fitSegment session a b p n).endMin = b := by
  unfold fitSegment
  split <;> rfl

theorem isOpen_fitSegment (a b : ℤ) (p n : Option String) :
    (fitSegment session a b p n).isOpen = true ↔ session.durationMin ≤ b - a := by
  unfold fitSegment
  split
  · rename_i h
    simpa [ColumnSegment.isOpen] using h
  · rename_i h
    simpa [ColumnSegment.isOpen] using h

theorem nextLabel_fitSegment {a b : ℤ} {p n : Option String} {label : String}
    (h : (fitSegment session a b p n).nextLabel = some label) : n = some label := by
  unfold fitSegment at h
  split at h
  · exact h
  · cases h

theorem prevLabel_fitSegment_of_isOpen {a b : ℤ} {p n : Option String}
    (h : (fitSegment session a b p n).isOpen = true) :
    (fitSegment session a b p n).prevLabel = p := by
  rw [isOpen_fitSegment] at h
  rw [fitSegment, if_pos h]
  rfl

theorem splitGap_bounds : ∀ {cuts : List BusyTime} {position : ℤ} {segment : ColumnSegment},
    Cutting gap cuts → segment ∈ splitGap session gap position cuts →
      position ≤ segment.startMin ∧ segment.endMin ≤ gap.endMin
  | [], position, segment, _, h => by
    unfold splitGap at h
    split at h
    · rw [List.mem_singleton] at h
      subst h
      simp
    · cases h
  | cut :: cuts, position, segment, hcut, h => by
    have hmeets := hcut.meets cut List.mem_cons_self
    rw [splitGap, List.mem_append, List.mem_cons] at h
    rcases h with h | rfl | h
    · split at h
      · rw [List.mem_singleton] at h
        subst h
        exact ⟨by simp, by simpa using hmeets.2.le⟩
      · cases h
    · exact ⟨le_max_left _ _, min_le_left _ _⟩
    · obtain ⟨hle, hend⟩ := splitGap_bounds hcut.tail h
      exact ⟨(le_max_left _ _).trans hle, hend⟩

theorem pairwise_splitGap : ∀ {cuts : List BusyTime} {position : ℤ}, Cutting gap cuts →
    (splitGap session gap position cuts).Pairwise fun a b => a.endMin ≤ b.startMin
  | [], position, _ => by
    unfold splitGap
    split <;> simp
  | cut :: cuts, position, hcut => by
    have hmeets := hcut.meets cut List.mem_cons_self
    have hpos := hcut.pos cut List.mem_cons_self
    have hlater : ∀ segment ∈ splitGap session gap (max position (min gap.endMin cut.endMin)) cuts,
        min gap.endMin cut.endMin ≤ segment.startMin := fun segment hsegment =>
      (le_max_right _ _).trans (splitGap_bounds hcut.tail hsegment).1
    rw [splitGap, List.pairwise_append, List.pairwise_cons]
    refine ⟨by split <;> simp, ⟨hlater, pairwise_splitGap hcut.tail⟩, ?_⟩
    intro a ha b hb
    split at ha
    · rw [List.mem_singleton] at ha
      subst ha
      rw [fitSegment_endMin]
      rcases List.mem_cons.mp hb with rfl | hb
      · exact le_max_right _ _
      · exact (le_min hmeets.2.le hpos.le).trans (hlater b hb)
    · cases ha

theorem exists_part_covers : ∀ {cuts : List BusyTime} {position m : ℤ},
    position ≤ m → m < gap.endMin →
      ∃ segment ∈ splitGap session gap position cuts,
        covers segment.startMin segment.endMin m
  | [], position, m, hm, hend => by
    rw [splitGap, if_pos (hm.trans_lt hend)]
    exact ⟨_, List.mem_singleton_self _, by simpa [covers] using ⟨hm, hend⟩⟩
  | cut :: cuts, position, m, hm, hend => by
    rw [splitGap]
    rcases lt_or_ge m cut.startMin with hbefore | hafter
    · rw [if_pos (hm.trans_lt hbefore)]
      exact ⟨_, List.mem_append_left _ (List.mem_singleton_self _),
        by simpa [covers] using ⟨hm, hbefore⟩⟩
    · rcases lt_or_ge m cut.endMin with hin | hout
      · exact ⟨_, List.mem_append_right _ List.mem_cons_self, max_le hm hafter, lt_min hend hin⟩
      · have hafter : max position (min gap.endMin cut.endMin) ≤ m :=
          max_le hm ((min_le_right gap.endMin _).trans hout)
        have hrest : ∃ segment ∈
            splitGap session gap (max position (min gap.endMin cut.endMin)) cuts,
              covers segment.startMin segment.endMin m := exists_part_covers hafter hend
        obtain ⟨segment, hsegment, hcovers⟩ := hrest
        exact ⟨segment, List.mem_append_right _ (List.mem_cons_of_mem _ hsegment), hcovers⟩

/-- What an open part is. -/
structure IsOpening (session : SessionItem) (gap : FreeGap) (cuts : List BusyTime)
    (segment : ColumnSegment) : Prop where
  fits : session.durationMin ≤ segment.endMin - segment.startMin
  apart : ∀ c ∈ cuts, ¬ overlaps segment.startMin segment.endMin c.startMin c.endMin
  prev_eq : segment.prevLabel = gap.labelAt segment.startMin

theorem isOpening_of_mem_splitGap : ∀ {cuts : List BusyTime} {position : ℤ}
    {segment : ColumnSegment}, Cutting gap cuts →
    segment ∈ splitGap session gap position cuts → segment.isOpen = true →
      IsOpening session gap cuts segment
  | [], position, segment, _, h, hopen => by
    unfold splitGap at h
    split at h
    · rw [List.mem_singleton] at h
      subst h
      exact ⟨by simpa using (isOpen_fitSegment _ _ _ _).mp hopen, by simp,
        by rw [prevLabel_fitSegment_of_isOpen hopen, fitSegment_startMin]⟩
    · cases h
  | cut :: cuts, position, segment, hcut, h, hopen => by
    have hfirst := (List.pairwise_cons.mp hcut.sorted).1
    have hmeets := hcut.meets cut List.mem_cons_self
    rw [splitGap, List.mem_append, List.mem_cons] at h
    rcases h with h | rfl | h
    · split at h
      · rw [List.mem_singleton] at h
        subst h
        refine ⟨by simpa using (isOpen_fitSegment _ _ _ _).mp hopen, ?_,
          by rw [prevLabel_fitSegment_of_isOpen hopen, fitSegment_startMin]⟩
        -- The part ends where the first cut starts, and the others start later.
        rintro c hc ⟨-, hover⟩
        rw [fitSegment_endMin] at hover
        rcases List.mem_cons.mp hc with rfl | hc
        · exact absurd hover (lt_irrefl _)
        · exact absurd hover (not_lt.mpr (hfirst c hc))
      · cases h
    · cases hopen
    · have ih := isOpening_of_mem_splitGap hcut.tail h hopen
      have hbounds := splitGap_bounds hcut.tail h
      refine ⟨ih.fits, fun c hc => ?_, ih.prev_eq⟩
      rcases List.mem_cons.mp hc with rfl | hc
      · have hpos := session.durationMin_pos
        have hfits := ih.fits
        have hstart := (le_max_right _ _).trans hbounds.1
        rintro ⟨hover, -⟩
        rcases min_choice gap.endMin c.endMin with hmin | hmin
        · omega
        · omega
      · exact ih.apart c hc

theorem exists_opening : ∀ {cuts : List BusyTime} {position a : ℤ}, Cutting gap cuts →
    position ≤ a → a + session.durationMin ≤ gap.endMin →
    (∀ c ∈ cuts, ¬ overlaps a (a + session.durationMin) c.startMin c.endMin) →
      ∃ segment ∈ splitGap session gap position cuts, segment.isOpen = true ∧
        segment.startMin ≤ a ∧ a + session.durationMin ≤ segment.endMin
  | [], position, a, _, hposition, hend, _ => by
    have hpos := session.durationMin_pos
    rw [splitGap, if_pos (by omega)]
    refine ⟨_, List.mem_singleton_self _, (isOpen_fitSegment _ _ _ _).mpr (by omega), ?_, ?_⟩
    · rwa [fitSegment_startMin]
    · rwa [fitSegment_endMin]
  | cut :: cuts, position, a, hcut, hposition, hend, hfree => by
    have hpos := session.durationMin_pos
    have hcutFree := hfree cut List.mem_cons_self
    rw [overlaps, not_and_or, not_lt, not_lt] at hcutFree
    rw [splitGap]
    rcases le_or_gt (a + session.durationMin) cut.startMin with hbefore | hbefore
    · rw [if_pos (by omega)]
      refine ⟨_, List.mem_append_left _ (List.mem_singleton_self _),
        (isOpen_fitSegment _ _ _ _).mpr (by omega), ?_, ?_⟩
      · rwa [fitSegment_startMin]
      · rwa [fitSegment_endMin]
    · have hafter : cut.endMin ≤ a := hcutFree.resolve_right (by omega)
      obtain ⟨segment, hsegment, hin⟩ := exists_opening hcut.tail
        (max_le hposition ((min_le_right gap.endMin _).trans hafter)) hend
        fun c hc => hfree c (List.mem_cons_of_mem _ hc)
      exact ⟨segment, List.mem_append_right _ (List.mem_cons_of_mem _ hsegment), hin⟩

theorem nextLabel_splitGap : ∀ {cuts : List BusyTime} {position : ℤ} {segment : ColumnSegment}
    {label : String}, segment ∈ splitGap session gap position cuts →
    segment.nextLabel = some label → segment.endMin = gap.endMin ∧ gap.nextLabel = some label
  | [], position, segment, label, h, hlabel => by
    unfold splitGap at h
    split at h
    · rw [List.mem_singleton] at h
      subst h
      exact ⟨fitSegment_endMin _ _ _ _, nextLabel_fitSegment hlabel⟩
    · cases h
  | cut :: cuts, position, segment, label, h, hlabel => by
    rw [splitGap, List.mem_append, List.mem_cons] at h
    rcases h with h | rfl | h
    · split at h
      · rw [List.mem_singleton] at h
        subst h
        cases nextLabel_fitSegment hlabel
      · cases h
    · cases hlabel
    · exact nextLabel_splitGap h hlabel

theorem isOpen_of_prevLabel {segment : ColumnSegment} {label : String}
    (h : segment.prevLabel = some label) : segment.isOpen = true := by
  unfold ColumnSegment.prevLabel at h
  unfold ColumnSegment.isOpen
  split at h
  · rfl
  · cases h

def FreeGap.after (gap : FreeGap) (position : ℤ) (cuts : List BusyTime) : ℤ :=
  cuts.foldl (fun position cut => max position (min gap.endMin cut.endMin)) position

theorem FreeGap.after_le {cuts : List BusyTime} {position m : ℤ} :
    gap.after position cuts ≤ m ↔ position ≤ m ∧ ∀ c ∈ cuts, min gap.endMin c.endMin ≤ m := by
  induction cuts generalizing position with
  | nil => simp [FreeGap.after]
  | cons cut cuts ih =>
    rw [FreeGap.after, List.foldl_cons, ← FreeGap.after, ih, List.forall_mem_cons, max_le_iff,
      and_assoc]

def FreeGap.blockedPart (gap : FreeGap) (position : ℤ) (before : List BusyTime)
    (cut : BusyTime) : ColumnSegment :=
  ⟨.blocked cut.reason, max (gap.after position before) cut.startMin,
    min gap.endMin cut.endMin⟩

theorem blockedPart_mem_splitGap : ∀ {before after : List BusyTime} {cut : BusyTime}
    {position : ℤ}, gap.blockedPart position before cut ∈
      splitGap session gap position (before ++ cut :: after)
  | [], _, _, _ => by
    rw [List.nil_append, splitGap]
    exact List.mem_append_right _ List.mem_cons_self
  | _ :: _, _, _, _ => by
    rw [List.cons_append, splitGap]
    exact List.mem_append_right _ (List.mem_cons_of_mem _ blockedPart_mem_splitGap)

theorem nonempty_or_blockedPart : ∀ {cuts : List BusyTime} {position : ℤ}
    {segment : ColumnSegment}, segment ∈ splitGap session gap position cuts →
      segment.startMin < segment.endMin ∨ ∃ before cut after, cuts = before ++ cut :: after ∧
        segment = gap.blockedPart position before cut
  | [], position, segment, h => by
    unfold splitGap at h
    split at h
    · rename_i hlt
      rw [List.mem_singleton] at h
      subst h
      exact .inl (by simpa using hlt)
    · cases h
  | cut :: cuts, position, segment, h => by
    rw [splitGap, List.mem_append, List.mem_cons] at h
    rcases h with h | rfl | h
    · split at h
      · rename_i hlt
        rw [List.mem_singleton] at h
        subst h
        exact .inl (by simpa using hlt)
      · cases h
    · exact .inr ⟨[], cut, cuts, rfl, rfl⟩
    · rcases nonempty_or_blockedPart h with hlt | ⟨before, cut', after, rfl, rfl⟩
      · exact .inl hlt
      · exact .inr ⟨cut :: before, cut', after, rfl, rfl⟩

end Cuts

end JooEvents
