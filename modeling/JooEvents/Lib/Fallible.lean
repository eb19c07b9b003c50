import Mathlib.Data.List.Forall2

/-!
# Fallible steps

A fallible function is a sequence of checks and lookups in `Except`. `require` is a
check that refuses with an error, `orRefuse` a lookup that does. What it takes for a
sequence to succeed is read off by `bind_eq_ok`, `require_eq_ok` and
`orRefuse_eq_ok`.
-/

namespace Fallible

variable {ε α β : Type}

/-- Refuse with `e` unless `c` holds. -/
def require (c : Prop) [Decidable c] (e : ε) : Except ε Unit :=
  if c then .ok () else .error e

/-- The value of `o`, or refuse with `e`. -/
def orRefuse (o : Option α) (e : ε) : Except ε α :=
  match o with
  | some a => .ok a
  | none => .error e

@[simp] theorem bind_eq_ok {x : Except ε α} {f : α → Except ε β} {b : β} :
    (x >>= f) = .ok b ↔ ∃ a, x = .ok a ∧ f a = .ok b := by
  cases x <;> simp [bind, Except.bind]

@[simp] theorem map_eq_ok {x : Except ε α} {f : α → β} {b : β} :
    (f <$> x) = .ok b ↔ ∃ a, x = .ok a ∧ f a = b := by
  cases x <;> simp [Functor.map, Except.map]

@[simp] theorem pure_eq_ok {a b : α} : (pure a : Except ε α) = .ok b ↔ a = b := by
  simp [pure, Except.pure]

@[simp] theorem require_eq_ok {c : Prop} [Decidable c] {e : ε} {u : Unit} :
    require c e = .ok u ↔ c := by
  unfold require
  split <;> simp [*]

@[simp] theorem orRefuse_eq_ok {o : Option α} {e : ε} {a : α} :
    orRefuse o e = .ok a ↔ o = some a := by
  cases o <;> simp [orRefuse]

theorem orRefuse_some {a : α} {e : ε} : orRefuse (some a) e = .ok a := rfl

@[simp] theorem ok_bind {a : α} {f : α → Except ε β} : (Except.ok a >>= f) = f a := rfl

@[simp] theorem error_bind {e : ε} {f : α → Except ε β} :
    ((Except.error e : Except ε α) >>= f) = .error e := rfl

theorem bind_eq_error {x : Except ε α} {f : α → Except ε β} {e : ε} :
    (x >>= f) = .error e ↔ x = .error e ∨ ∃ a, x = .ok a ∧ f a = .error e := by
  cases x <;> simp [bind, Except.bind]

theorem optionMapM_eq_error {f : α → Except ε β} {o : Option α} {e : ε}
    (h : o.mapM f = .error e) : ∃ a ∈ o, f a = .error e := by
  cases o with
  | none => exact absurd h (by simp [Option.mapM_none, pure, Except.pure])
  | some a =>
    refine ⟨a, rfl, ?_⟩
    cases hf : f a with
    | ok b => simp [Option.mapM_some, hf, Functor.map, Except.map] at h
    | error e' => simpa [Option.mapM_some, hf, Functor.map, Except.map] using h

theorem require_eq_error {c : Prop} [Decidable c] {e e' : ε} :
    require c e = .error e' ↔ ¬ c ∧ e = e' := by
  unfold require
  split <;> simp [*]

theorem orRefuse_eq_error {o : Option α} {e e' : ε} :
    orRefuse o e = .error e' ↔ o = none ∧ e = e' := by
  cases o <;> simp [orRefuse]

theorem pure_ne_error {a : α} {e : ε} : (pure a : Except ε α) ≠ .error e := by
  simp [pure, Except.pure]

/-- A sequence of steps refuses with an error of one of its steps. -/
theorem mapM_eq_error {f : α → Except ε β} {e : ε} :
    ∀ {as : List α}, as.mapM f = .error e → ∃ a ∈ as, f a = .error e
  | [], h => absurd h pure_ne_error
  | a :: as, h => by
    rw [List.mapM_cons] at h
    rcases bind_eq_error.mp h with h | ⟨b, -, h⟩
    · exact ⟨a, by simp, h⟩
    · rcases bind_eq_error.mp h with h | ⟨bs, -, h⟩
      · obtain ⟨a', ha', he⟩ := mapM_eq_error h
        exact ⟨a', by simp [ha'], he⟩
      · exact absurd h pure_ne_error

@[simp] theorem mapError_eq_ok {ε' : Type} {f : ε → ε'} {x : Except ε α} {a : α} :
    x.mapError f = .ok a ↔ x = .ok a := by
  cases x <;> simp [Except.mapError]

/-- The results of a successful sequence of steps, one for each. -/
theorem forall₂_of_mapM_eq_ok {f : α → Except ε β} :
    ∀ {as : List α} {bs : List β}, as.mapM f = .ok bs →
      List.Forall₂ (fun a b => f a = .ok b) as bs
  | [], bs, h => by
    rw [List.mapM_nil, pure_eq_ok] at h
    exact h ▸ .nil
  | a :: as, bs, h => by
    rw [List.mapM_cons] at h
    simp only [bind_eq_ok, pure_eq_ok] at h
    obtain ⟨b, hb, bs', hbs', rfl⟩ := h
    exact .cons hb (forall₂_of_mapM_eq_ok hbs')

theorem mapM_eq_ok_of_forall₂ {f : α → Except ε β} {as : List α} {bs : List β}
    (h : List.Forall₂ (fun a b => f a = .ok b) as bs) : as.mapM f = .ok bs := by
  induction h with
  | nil => rfl
  | cons hab _ ih =>
    rw [List.mapM_cons, hab, ok_bind, ih]
    rfl

/-- A sequence of steps succeeds where each of its steps does. -/
theorem exists_mapM_eq_ok_iff {f : α → Except ε β} {p : α → Prop}
    (hf : ∀ a, (∃ b, f a = .ok b) ↔ p a) {as : List α} :
    (∃ bs, as.mapM f = .ok bs) ↔ ∀ a ∈ as, p a := by
  induction as with
  | nil => simp
  | cons a as ih =>
    rw [List.forall_mem_cons, ← hf, ← ih, List.mapM_cons]
    simp only [bind_eq_ok, pure_eq_ok]
    constructor
    · rintro ⟨_, b, hb, bs, hbs, rfl⟩
      exact ⟨⟨b, hb⟩, bs, hbs⟩
    · rintro ⟨⟨b, hb⟩, bs, hbs⟩
      exact ⟨b :: bs, b, hb, bs, hbs, rfl⟩

theorem toOption_eq_some {x : Except ε α} {a : α} : x.toOption = some a ↔ x = .ok a := by
  cases x with
  | ok b => simp [Except.toOption]
  | error e => simp [Except.toOption]

/-- A step that is seen to succeed has a result. -/
theorem exists_of_toBool {x : Except ε α} (h : x.toBool = true) : ∃ a, x = .ok a := by
  cases x with
  | ok a => exact ⟨a, rfl⟩
  | error e => cases h

theorem require_true {c : Prop} [Decidable c] {e : ε} (h : c) : require c e = .ok () :=
  require_eq_ok.mpr h

theorem require_false {c : Prop} [Decidable c] {e : ε} (h : ¬ c) : require c e = .error e := by
  rw [require, if_neg h]

end Fallible
