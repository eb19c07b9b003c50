import JooEvents.Lib.Thread

/-!
# Results that are related

Two computations are related (`Fallible.Related R`) when both are refused with the same error, or
both succeed with values that `R` relates. They are put together from related steps
(`Related.bind`), so a computation that differs from another one in a few places is compared with
it there only.
-/

namespace Fallible

variable {ε α β γ δ σ τ : Type} {R : α → β → Prop} {S : γ → δ → Prop}

/-- Refused alike, or successful with related values. -/
def Related (R : α → β → Prop) : Except ε α → Except ε β → Prop
  | .ok a, .ok b => R a b
  | .error e, .error e' => e = e'
  | .ok _, .error _ | .error _, .ok _ => False

theorem Related.bind {f : α → Except ε γ} {g : β → Except ε δ}
    (hfg : ∀ a b, R a b → Related S (f a) (g b)) :
    ∀ {x : Except ε α} {y : Except ε β}, Related R x y → Related S (x >>= f) (y >>= g)
  | .ok _, .ok _, h => hfg _ _ h
  | .error _, .error _, h => h

/-- What comes first is the same on both sides. -/
theorem related_bind_same {f : α → Except ε γ} {g : α → Except ε δ} :
    ∀ {x : Except ε α}, (∀ a, x = .ok a → Related S (f a) (g a)) → Related S (x >>= f) (x >>= g)
  | .ok a, h => h a rfl
  | .error _, _ => rfl

theorem related_require {c d : Prop} [Decidable c] [Decidable d] {e : ε} (h : c ↔ d) :
    Related Eq (require c e) (require d e) := by
  by_cases hc : c
  · rw [require_true hc, require_true (h.mp hc)]
    exact rfl
  · rw [require_false hc, require_false fun hd => hc (h.mpr hd)]
    exact rfl

/-- What is read off related values alike is one result. -/
theorem Related.map_eq {f : α → γ} {g : β → γ} (hfg : ∀ a b, R a b → f a = g b) :
    ∀ {x : Except ε α} {y : Except ε β}, Related R x y → x.map f = y.map g
  | .ok _, .ok _, h => congrArg Except.ok (hfg _ _ h)
  | .error _, .error _, h => congrArg Except.error h

/-- The states after a step that was not refused are related, and the states before are where it
was. -/
theorem Related.getD {R : σ → τ → Prop} {s : σ} {t : τ} (h : R s t) :
    ∀ {x : Except ε σ} {y : Except ε τ}, Related R x y → R (x.toOption.getD s) (y.toOption.getD t)
  | .ok _, .ok _, h' => h'
  | .error _, .error _, _ => h

theorem run_append {step : σ → α → Except ε σ} (s : σ) (as bs : List α) :
    run step s (as ++ bs) = run step (run step s as) bs :=
  List.foldl_append

theorem run_singleton (step : σ → α → Except ε σ) (s : σ) (a : α) :
    run step s [a] = (step s a).toOption.getD s := rfl

theorem exists_getElem?_of_forall₂ {as : List α} {bs : List β} (h : List.Forall₂ R as bs) :
    ∀ {i : ℕ} {b : β}, bs[i]? = some b → ∃ a, as[i]? = some a ∧ R a b := by
  induction h with
  | nil => intro i b hb; cases hb
  | @cons a _ _ _ hab _ ih =>
    intro i b hb
    cases i with
    | zero =>
      obtain rfl := Option.some.inj hb
      exact ⟨a, rfl, hab⟩
    | succ i => exact ih hb

/-- A value on the right is changed for one that is related as well. -/
theorem forall₂_set_right {as : List α} {bs : List β} (h : List.Forall₂ R as bs) :
    ∀ {i : ℕ} {a : α} {b : β}, as[i]? = some a → R a b → List.Forall₂ R as (bs.set i b) := by
  induction h with
  | nil => intro i a b ha; cases ha
  | cons hab hrest ih =>
    intro i a b ha hb
    cases i with
    | zero =>
      obtain rfl := Option.some.inj ha
      exact .cons hb hrest
    | succ i => exact .cons hab (ih ha hb)

theorem forall₂_set {as : List α} {bs : List β} (h : List.Forall₂ R as bs) :
    ∀ (i : ℕ) {a : α} {b : β}, R a b → List.Forall₂ R (as.set i a) (bs.set i b) := by
  induction h with
  | nil => intro i a b hab; exact .nil
  | cons hab hrest ih =>
    intro i a b hnew
    cases i with
    | zero => exact .cons hnew hrest
    | succ i => exact .cons hab (ih i hnew)

end Fallible
