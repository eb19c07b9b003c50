import Mathlib.Data.List.Basic

/-!
# Traces of a labelled transition system

A trace lists the steps of a run, each with its label and the states around it. What holds of
the start and is kept by steps that meet a condition holds at the end of a trace whose steps all
meet it (`Trace.invariant`), and what such steps do is done by all of them (`Trace.all_of`).
Where a step does it exactly when it meets the condition, all steps of a trace do it exactly
when all meet the condition (`Trace.all_iff`).
-/

variable {σ ε : Type} {step : σ → ε → σ → Prop}

/-- The runs from a state, with their steps. -/
inductive Trace (step : σ → ε → σ → Prop) (start : σ) : List (σ × ε × σ) → σ → Prop where
  | nil : Trace step start [] start
  | snoc {steps : List (σ × ε × σ)} {s t : σ} {e : ε} (hrun : Trace step start steps s)
      (hstep : step s e t) : Trace step start (steps ++ [(s, e, t)]) t

namespace Trace

variable {start final : σ} {steps : List (σ × ε × σ)} {Inv : σ → Prop}
  {Cond Good : σ → ε → σ → Prop}

/-- All steps of a list are of a kind. -/
def All (P : σ → ε → σ → Prop) (steps : List (σ × ε × σ)) : Prop :=
  ∀ s e t, (s, e, t) ∈ steps → P s e t

@[simp] theorem all_nil (P : σ → ε → σ → Prop) : All P [] := by simp [All]

theorem all_snoc {P : σ → ε → σ → Prop} {s t : σ} {e : ε} :
    All P (steps ++ [(s, e, t)]) ↔ All P steps ∧ P s e t := by
  constructor
  · exact fun h => ⟨fun s' e' t' hmem => h s' e' t' (List.mem_append_left _ hmem),
      h s e t (List.mem_append_right _ (List.mem_singleton.2 rfl))⟩
  · rintro ⟨hsteps, hlast⟩ s' e' t' hmem
    rcases List.mem_append.1 hmem with hmem | hmem
    · exact hsteps s' e' t' hmem
    · cases List.mem_singleton.1 hmem
      exact hlast

theorem invariant (hstart : Inv start)
    (hkept : ∀ {s e t}, Inv s → step s e t → Cond s e t → Inv t)
    (hrun : Trace step start steps final) (hall : All Cond steps) : Inv final := by
  induction hrun with
  | nil => exact hstart
  | snoc _ hstep ih =>
    obtain ⟨hsteps, hlast⟩ := all_snoc.1 hall
    exact hkept (ih hsteps) hstep hlast

theorem all_of (hstart : Inv start)
    (hkept : ∀ {s e t}, Inv s → step s e t → Cond s e t → Inv t)
    (hgood : ∀ {s e t}, Inv s → step s e t → Cond s e t → Good s e t)
    (hrun : Trace step start steps final) (hall : All Cond steps) : All Good steps := by
  induction hrun with
  | nil => exact all_nil Good
  | snoc hrun hstep ih =>
    obtain ⟨hsteps, hlast⟩ := all_snoc.1 hall
    exact all_snoc.2 ⟨ih hsteps, hgood (invariant hstart hkept hrun hsteps) hstep hlast⟩

theorem all_iff (hstart : Inv start)
    (hkept : ∀ {s e t}, Inv s → step s e t → Cond s e t → Inv t)
    (hgood : ∀ {s e t}, Inv s → step s e t → (Good s e t ↔ Cond s e t))
    (hrun : Trace step start steps final) : All Good steps ↔ All Cond steps := by
  induction hrun with
  | nil => simp
  | snoc hrun hstep ih =>
    rw [all_snoc, all_snoc, ih]
    exact and_congr_right fun hsteps =>
      hgood (invariant hstart hkept hrun hsteps) hstep

end Trace
