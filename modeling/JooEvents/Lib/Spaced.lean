import Mathlib.Data.List.Infix

/-!
# Spaced words

Elements are parts of words, or break them. `spaced` is what a loop keeps of a text : its words,
with one space between two. It is known from what it does at a break (`spaced_append_break`), so
that what stands between breaks is found again as whole words (`wholeIn_spaced`).
-/

variable {α : Type} {inWord : α → Bool} {space : α}

/-- One more element : a part of a word, after a space if a break is pending, or a break. -/
def spacedStep (inWord : α → Bool) (space : α) (state : List α × Bool) (a : α) : List α × Bool :=
  if inWord a then
    ((if state.2 && !state.1.isEmpty then state.1 ++ [space] else state.1) ++ [a], false)
  else (state.1, true)

/-- The words of a text with one space between them. -/
def spaced (inWord : α → Bool) (space : α) (as : List α) : List α :=
  (as.foldl (spacedStep inWord space) ([], false)).1

/-- Two spaced texts as one. -/
def joinSpaced (space : α) (as bs : List α) : List α :=
  if as.isEmpty then bs else if bs.isEmpty then as else as ++ space :: bs

@[simp] theorem joinSpaced_nil_left (as : List α) : joinSpaced space [] as = as := rfl

@[simp] theorem joinSpaced_nil_right (as : List α) : joinSpaced space as [] = as := by
  cases as <;> rfl

theorem joinSpaced_of_ne_nil {as bs : List α} (has : as ≠ []) (hbs : bs ≠ []) :
    joinSpaced space as bs = as ++ space :: bs := by
  simp [joinSpaced, has, hbs]

/-- What was kept before stays in front. -/
theorem foldl_spacedStep_append (pre : List α) {as : List α} (has : as ≠ []) (pending : Bool)
    (bs : List α) :
    (bs.foldl (spacedStep inWord space) (pre ++ as, pending)).1 =
      pre ++ (bs.foldl (spacedStep inWord space) (as, pending)).1 := by
  induction bs generalizing as pending with
  | nil => rfl
  | cons b bs ih =>
    rw [List.foldl_cons, List.foldl_cons, spacedStep, spacedStep]
    by_cases hb : inWord b = true
    · cases pending with
      | false => simpa [hb, has] using @ih (as ++ [b]) (by simp) false
      | true => simpa [hb, has] using @ih (as ++ [space] ++ [b]) (by simp) false
    · simpa [hb] using ih has true

theorem prefix_foldl_spacedStep (as : List α) (pending : Bool) (bs : List α) :
    as <+: (bs.foldl (spacedStep inWord space) (as, pending)).1 := by
  induction bs generalizing as pending with
  | nil => exact List.prefix_rfl
  | cons b bs ih =>
    rw [List.foldl_cons, spacedStep]
    split_ifs
    · exact ((List.prefix_append as [space]).trans (List.prefix_append _ [b])).trans (ih _ _)
    · exact (List.prefix_append as [b]).trans (ih _ _)
    · exact ih _ _

/-- At the start a break changes nothing. -/
theorem foldl_spacedStep_nil (bs : List α) :
    (bs.foldl (spacedStep inWord space) ([], true)).1 = spaced inWord space bs := by
  cases bs with
  | nil => rfl
  | cons b bs => rw [spaced, List.foldl_cons, List.foldl_cons, spacedStep, spacedStep]; simp

/-- After a break the rest is spaced on its own. -/
theorem foldl_spacedStep_break (as bs : List α) :
    (bs.foldl (spacedStep inWord space) (as, true)).1 =
      joinSpaced space as (spaced inWord space bs) := by
  by_cases has : as = []
  · rw [has, foldl_spacedStep_nil, joinSpaced_nil_left]
  induction bs with
  | nil => simp [spaced]
  | cons b bs ih =>
    by_cases hb : inWord b = true
    · have hkept : spaced inWord space (b :: bs) =
          (bs.foldl (spacedStep inWord space) ([b], false)).1 := by
        rw [spaced, List.foldl_cons, spacedStep]
        simp [hb]
      have hne : spaced inWord space (b :: bs) ≠ [] := by
        rw [hkept]
        exact (prefix_foldl_spacedStep [b] false bs).ne_nil (by simp)
      rw [List.foldl_cons, spacedStep, joinSpaced_of_ne_nil has hne, hkept]
      have hfront := @foldl_spacedStep_append α inWord space (as ++ [space]) [b] (by simp) false bs
      simpa [hb, has] using hfront
    · have hskip : spaced inWord space (b :: bs) = spaced inWord space bs := by
        rw [spaced, List.foldl_cons, spacedStep]
        simpa [hb] using foldl_spacedStep_nil bs
      rw [hskip, ← ih, List.foldl_cons, spacedStep]
      simp [hb]

@[simp] theorem spaced_nil : spaced inWord space [] = [] := rfl

/-- A text is spaced on both sides of a break. -/
theorem spaced_append_break (as : List α) {a : α} (ha : inWord a = false) (bs : List α) :
    spaced inWord space (as ++ a :: bs) =
      joinSpaced space (spaced inWord space as) (spaced inWord space bs) := by
  rw [← foldl_spacedStep_break, spaced, List.foldl_append, List.foldl_cons]
  simp only [spacedStep, ha, Bool.false_eq_true, if_false]
  rfl

theorem spaced_cons_break {a : α} (ha : inWord a = false) (bs : List α) :
    spaced inWord space (a :: bs) = spaced inWord space bs :=
  spaced_append_break [] ha bs

/-- Several breaks are like one. -/
theorem spaced_append_breaks (as : List α) {breaks : List α} (hne : breaks ≠ [])
    (hbreaks : ∀ a ∈ breaks, inWord a = false) (bs : List α) :
    spaced inWord space (as ++ breaks ++ bs) =
      joinSpaced space (spaced inWord space as) (spaced inWord space bs) := by
  obtain ⟨a, breaks, rfl⟩ := List.exists_cons_of_ne_nil hne
  have hskip : spaced inWord space (breaks ++ bs) = spaced inWord space bs := by
    clear hne
    induction breaks with
    | nil => rfl
    | cons b breaks ih =>
      rw [List.cons_append, spaced_cons_break (hbreaks b (by simp)),
        ih fun a ha => hbreaks a (by
          rcases List.mem_cons.mp ha with rfl | ha
          · simp
          · simp [ha])]
  rw [List.append_assoc, List.cons_append, spaced_append_break as (hbreaks a (by simp)), hskip]

/-- Nothing is kept exactly of a text of breaks. -/
theorem spaced_eq_nil_iff {as : List α} :
    spaced inWord space as = [] ↔ ∀ a ∈ as, inWord a = false := by
  induction as with
  | nil => simp
  | cons a as ih =>
    by_cases ha : inWord a = true
    · have hstart : [a] <+: (as.foldl (spacedStep inWord space) ([a], false)).1 :=
        prefix_foldl_spacedStep [a] false as
      have hkept : spaced inWord space (a :: as) =
          (as.foldl (spacedStep inWord space) ([a], false)).1 := by
        rw [spaced, List.foldl_cons, spacedStep]
        simp [ha]
      rw [hkept]
      exact iff_of_false (hstart.ne_nil (by simp)) fun h => by simp [ha] at h
    · rw [Bool.not_eq_true] at ha
      rw [spaced_cons_break ha, ih]
      simp [ha]

/-- A text stands in another as whole words : between its ends and spaces. -/
def WholeIn (space : α) (as bs : List α) : Prop :=
  ∃ pre post, bs = pre ++ as ++ post ∧ (pre = [] ∨ ∃ pre', pre = pre' ++ [space]) ∧
    (post = [] ∨ ∃ post', post = space :: post')

theorem WholeIn.refl (as : List α) : WholeIn space as as := ⟨[], [], by simp, .inl rfl, .inl rfl⟩

theorem WholeIn.isInfix {as bs : List α} (h : WholeIn space as bs) : as <:+: bs := by
  obtain ⟨pre, post, rfl, -⟩ := h
  exact ⟨pre, post, rfl⟩

theorem WholeIn.ne_nil {as bs : List α} (h : WholeIn space as bs) (has : as ≠ []) : bs ≠ [] := by
  obtain ⟨pre, post, rfl, -⟩ := h
  simp [has]

theorem WholeIn.trans {as bs cs : List α} (h : WholeIn space as bs) (h' : WholeIn space bs cs) :
    WholeIn space as cs := by
  obtain ⟨pre, post, rfl, hpre, hpost⟩ := h
  obtain ⟨pre', post', rfl, hpre', hpost'⟩ := h'
  refine ⟨pre' ++ pre, post ++ post', by simp, ?_, ?_⟩
  · rcases hpre with rfl | ⟨front, rfl⟩
    · simpa using hpre'
    · exact .inr ⟨pre' ++ front, by simp⟩
  · rcases hpost with rfl | ⟨back, rfl⟩
    · simpa using hpost'
    · exact .inr ⟨back ++ post', by simp⟩

theorem wholeIn_joinSpaced_left {as : List α} (has : as ≠ []) (bs : List α) :
    WholeIn space as (joinSpaced space as bs) := by
  by_cases hbs : bs = []
  · rw [hbs, joinSpaced_nil_right]
    exact .refl as
  · rw [joinSpaced_of_ne_nil has hbs]
    exact ⟨[], space :: bs, by simp, .inl rfl, .inr ⟨bs, rfl⟩⟩

theorem wholeIn_joinSpaced_right {bs : List α} (hbs : bs ≠ []) (as : List α) :
    WholeIn space bs (joinSpaced space as bs) := by
  by_cases has : as = []
  · rw [has, joinSpaced_nil_left]
    exact .refl bs
  · rw [joinSpaced_of_ne_nil has hbs]
    exact ⟨as ++ [space], [], by simp, .inr ⟨as, rfl⟩, .inl rfl⟩

/-- What stands between breaks is kept as whole words. -/
theorem wholeIn_spaced {pre as post : List α}
    (hpre : pre = [] ∨ ∃ pre' a, pre = pre' ++ [a] ∧ inWord a = false)
    (hpost : post = [] ∨ ∃ a post', post = a :: post' ∧ inWord a = false)
    (has : spaced inWord space as ≠ []) :
    WholeIn space (spaced inWord space as) (spaced inWord space (pre ++ as ++ post)) := by
  have hleft : WholeIn space (spaced inWord space as) (spaced inWord space (pre ++ as)) := by
    rcases hpre with rfl | ⟨pre, a, rfl, ha⟩
    · exact .refl _
    · rw [List.append_assoc, List.singleton_append, spaced_append_break pre ha]
      exact wholeIn_joinSpaced_right has _
  rcases hpost with rfl | ⟨a, post, rfl, ha⟩
  · rwa [List.append_nil]
  · rw [spaced_append_break _ ha]
    exact hleft.trans (wholeIn_joinSpaced_left (hleft.ne_nil has) _)

example : spaced (· ≠ 0) 0 [0, 1, 0, 0, 2, 0] = [1, 0, 2] := by decide +kernel
