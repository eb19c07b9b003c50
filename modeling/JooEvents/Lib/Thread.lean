import JooEvents.Lib.Fallible

/-!
# Loops that thread a state

A loop over a list of inputs produces an output for each of them and advances a state
between them. `Fallible.thread step s as` is the loop from the state `s`, which refuses
when one of its steps does.

What one step does is carried along a loop (`thread_induction`, `forall₂_of_thread`). A
loop whose steps are simulated by the steps of another loop is simulated by that loop
(`thread_simulates`), and checking the outputs of a loop when it is over is checking each
of them when it is produced (`thread_mapM_eq_ok_iff`), as far as successful runs go.
-/

namespace Fallible

variable {ε ε' σ τ α β γ : Type}

/-- Run `step` on the inputs in order, from the state `s`. -/
def thread (step : σ → α → Except ε (β × σ)) : σ → List α → Except ε (List β × σ)
  | s, [] => .ok ([], s)
  | s, a :: as => do
    let (b, s) ← step s a
    let (bs, s) ← thread step s as
    return (b :: bs, s)

@[simp] theorem thread_nil_eq_ok {step : σ → α → Except ε (β × σ)} {s t : σ} {bs : List β} :
    thread step s [] = .ok (bs, t) ↔ bs = [] ∧ s = t := by
  simp [thread, eq_comm]

theorem thread_cons_eq_ok {step : σ → α → Except ε (β × σ)} {s t : σ} {a : α} {as : List α}
    {bs : List β} :
    thread step s (a :: as) = .ok (bs, t) ↔
      ∃ b s' bs', step s a = .ok (b, s') ∧ thread step s' as = .ok (bs', t) ∧ bs = b :: bs' := by
  simp only [thread, bind_eq_ok, pure_eq_ok, Prod.exists, Prod.mk.injEq]
  constructor
  · rintro ⟨b, s', hstep, bs', t', hrest, rfl, rfl⟩
    exact ⟨b, s', bs', hstep, hrest, rfl⟩
  · rintro ⟨b, s', bs', hstep, hrest, rfl⟩
    exact ⟨b, s', hstep, bs', t, hrest, rfl, rfl⟩

/-- What relates the states around an output, along a loop. -/
theorem thread_induction {step : σ → α → Except ε (β × σ)} {P : σ → List β → σ → Prop}
    (nil : ∀ s, P s [] s)
    (cons : ∀ {s a b s' bs t}, step s a = .ok (b, s') → P s' bs t → P s (b :: bs) t) :
    ∀ {as : List α} {s t : σ} {bs : List β}, thread step s as = .ok (bs, t) → P s bs t
  | [], s, t, bs, h => by
    obtain ⟨rfl, rfl⟩ := thread_nil_eq_ok.mp h
    exact nil s
  | a :: as, s, t, bs, h => by
    obtain ⟨b, s', bs', hstep, hrest, rfl⟩ := thread_cons_eq_ok.mp h
    exact cons hstep (thread_induction nil cons hrest)

/-- What relates an input and its output, along a loop. -/
theorem forall₂_of_thread {step : σ → α → Except ε (β × σ)} {P : α → β → Prop}
    (hstep : ∀ {s a b s'}, step s a = .ok (b, s') → P a b) :
    ∀ {as : List α} {s t : σ} {bs : List β}, thread step s as = .ok (bs, t) →
      List.Forall₂ P as bs
  | [], s, t, bs, h => by
    obtain ⟨rfl, -⟩ := thread_nil_eq_ok.mp h
    exact .nil
  | a :: as, s, t, bs, h => by
    obtain ⟨b, s', bs', hs, hrest, rfl⟩ := thread_cons_eq_ok.mp h
    exact .cons (hstep hs) (forall₂_of_thread (P := P) hstep hrest)

/-- A loop over one input is a step. -/
theorem thread_singleton_eq_ok {step : σ → α → Except ε (β × σ)} {s t : σ} {a : α}
    {bs : List β} :
    thread step s [a] = .ok (bs, t) ↔ ∃ b, step s a = .ok (b, t) ∧ bs = [b] := by
  rw [thread_cons_eq_ok]
  constructor
  · rintro ⟨b, s', bs', hstep, hrest, rfl⟩
    obtain ⟨rfl, rfl⟩ := thread_nil_eq_ok.mp hrest
    exact ⟨b, hstep, rfl⟩
  · rintro ⟨b, hstep, rfl⟩
    exact ⟨b, t, [], hstep, thread_nil_eq_ok.mpr ⟨rfl, rfl⟩, rfl⟩

/-- Steps that are simulated by steps of another loop make a loop that is. -/
theorem thread_simulates {step : σ → α → Except ε (β × σ)} {step' : τ → α → Except ε' (γ × τ)}
    {R : σ → τ → Prop} {S : β → γ → Prop}
    (hstep : ∀ {s t a b s'}, R s t → step s a = .ok (b, s') →
      ∃ c t', step' t a = .ok (c, t') ∧ R s' t' ∧ S b c) :
    ∀ {as : List α} {s t bs s'}, R s t → thread step s as = .ok (bs, s') →
      ∃ cs t', thread step' t as = .ok (cs, t') ∧ R s' t' ∧ List.Forall₂ S bs cs
  | [], s, t, bs, s', hR, h => by
    obtain ⟨rfl, rfl⟩ := thread_nil_eq_ok.mp h
    exact ⟨[], t, thread_nil_eq_ok.mpr ⟨rfl, rfl⟩, hR, .nil⟩
  | a :: as, s, t, bs, s', hR, h => by
    obtain ⟨b, s₁, bs', hs, hrest, rfl⟩ := thread_cons_eq_ok.mp h
    obtain ⟨c, t₁, ht, hR₁, hS⟩ := hstep hR hs
    obtain ⟨cs, t', hrest', hR', hSs⟩ := thread_simulates hstep hR₁ hrest
    exact ⟨c :: cs, t', thread_cons_eq_ok.mpr ⟨c, t₁, cs, ht, hrest', rfl⟩, hR', .cons hS hSs⟩

/-- A step with a check of its output. -/
def checked (step : σ → α → Except ε (β × σ)) (check : β → Except ε γ) (s : σ) (a : α) :
    Except ε (γ × σ) := do
  let (b, s) ← step s a
  let c ← check b
  return (c, s)

theorem checked_eq_ok {step : σ → α → Except ε (β × σ)} {check : β → Except ε γ} {s t : σ}
    {a : α} {c : γ} :
    checked step check s a = .ok (c, t) ↔ ∃ b, step s a = .ok (b, t) ∧ check b = .ok c := by
  simp only [checked, bind_eq_ok, pure_eq_ok, Prod.exists, Prod.mk.injEq]
  constructor
  · rintro ⟨b, s', hstep, c', hcheck, rfl, rfl⟩
    exact ⟨b, hstep, hcheck⟩
  · rintro ⟨b, hstep, hcheck⟩
    exact ⟨b, t, hstep, c, hcheck, rfl, rfl⟩

/-- Outputs checked after a loop are outputs checked step by step. -/
theorem thread_mapM_eq_ok_iff {step : σ → α → Except ε (β × σ)} {check : β → Except ε γ} :
    ∀ {as : List α} {s t : σ} {cs : List γ},
      (∃ bs, thread step s as = .ok (bs, t) ∧ bs.mapM check = .ok cs) ↔
        thread (checked step check) s as = .ok (cs, t)
  | [], s, t, cs => by
    simp only [thread_nil_eq_ok]
    constructor
    · rintro ⟨bs, ⟨rfl, rfl⟩, h⟩
      exact ⟨(pure_eq_ok.mp h).symm, rfl⟩
    · rintro ⟨rfl, rfl⟩
      exact ⟨[], ⟨rfl, rfl⟩, rfl⟩
  | a :: as, s, t, cs => by
    rw [thread_cons_eq_ok]
    constructor
    · rintro ⟨bs, hthread, hcheck⟩
      obtain ⟨b, s₁, bs', hs, hrest, rfl⟩ := thread_cons_eq_ok.mp hthread
      rw [List.mapM_cons] at hcheck
      simp only [bind_eq_ok, pure_eq_ok] at hcheck
      obtain ⟨c, hc, cs', hcs, rfl⟩ := hcheck
      exact ⟨c, s₁, cs', checked_eq_ok.mpr ⟨b, hs, hc⟩,
        thread_mapM_eq_ok_iff.mp ⟨bs', hrest, hcs⟩, rfl⟩
    · rintro ⟨c, s₁, cs', hs, hrest, rfl⟩
      obtain ⟨b, hs, hc⟩ := checked_eq_ok.mp hs
      obtain ⟨bs, hthread, hcheck⟩ := thread_mapM_eq_ok_iff.mpr hrest
      refine ⟨b :: bs, thread_cons_eq_ok.mpr ⟨b, s₁, bs, hs, hthread, rfl⟩, ?_⟩
      rw [List.mapM_cons, hc, ok_bind, hcheck]
      rfl

/-- A list that corresponds to two others is put together from them. -/
theorem eq_zipWith_of_forall₂ {f : α → β → γ} {R : α → γ → Prop} {S : β → γ → Prop}
    (hf : ∀ {a b c}, R a c → S b c → c = f a b) :
    ∀ {as : List α} {bs : List β} {cs : List γ}, List.Forall₂ R as cs → List.Forall₂ S bs cs →
      cs = List.zipWith f as bs
  | _, _, _, .nil, .nil => rfl
  | _, _, _, .cons hR hRs, .cons hS hSs => by
    rw [List.zipWith_cons_cons, ← hf hR hS, ← eq_zipWith_of_forall₂ hf hRs hSs]

/-- Run `step` on the inputs in order. A refused step leaves the state as it is. -/
def run (step : σ → α → Except ε σ) (s : σ) (as : List α) : σ :=
  as.foldl (fun s a => (step s a).toOption.getD s) s

theorem run_cons_ok {step : σ → α → Except ε σ} {s t : σ} {a : α} {as : List α}
    (h : step s a = .ok t) : run step s (a :: as) = run step t as := by
  rw [run, List.foldl_cons, h]
  rfl

theorem run_cons_error {step : σ → α → Except ε σ} {s : σ} {a : α} {as : List α} {e : ε}
    (h : step s a = .error e) : run step s (a :: as) = run step s as := by
  rw [run, List.foldl_cons, h]
  rfl

/-- What accepted steps preserve holds at the end of a run. -/
theorem run_induction {step : σ → α → Except ε σ} {P : σ → Prop}
    (hstep : ∀ s a t, P s → step s a = .ok t → P t) :
    ∀ (as : List α) (s : σ), P s → P (run step s as)
  | [], _, hs => hs
  | a :: as, s, hs => by
    cases h : step s a with
    | ok t =>
      rw [run_cons_ok h]
      exact run_induction hstep as t (hstep s a t hs h)
    | error e =>
      rw [run_cons_error h]
      exact run_induction hstep as s hs

-- a step that is refused leaves the state as it was
example : run (fun s a => if a = 0 then .error () else .ok (s + a)) 0 [1, 0, 2] = 3 := by
  decide +kernel

end Fallible
