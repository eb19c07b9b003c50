import Mathlib.Data.List.Basic

/-!
# Processes that call ports

An asynchronous function is a sequence of calls to the ports it is given, each awaited
before the next. `Process Call Answer ε α` is such a function : it is done with a value,
it fails with an error, or it makes a call and goes on with the answer. What a port
answers is up to the port, so what holds of every port is what holds of every run
(`Process.Runs`), which lists the calls with their answers.

The runs of a sequence are the runs of its parts one after the other
(`runs_bind_ok`, `Runs.bind`), and a loop makes the calls of each of its passes
(`runs_forM_ok`, `Runs.forM`). What every call of a process is, whatever is answered, is put
together in the same way (`Emits`).
-/

/-- A computation that makes calls and awaits their answers. -/
inductive Process (Call : Type) (Answer : Call → Type) (ε α : Type) : Type where
  | done (a : α)
  | fail (error : ε)
  | call (c : Call) (next : Answer c → Process Call Answer ε α)

namespace Process

variable {Call : Type} {Answer : Call → Type} {ε α β γ : Type}

/-- Continue with the value of `p`. -/
def bind : Process Call Answer ε α → (α → Process Call Answer ε β) → Process Call Answer ε β
  | .done a, f => f a
  | .fail error, _ => .fail error
  | .call c next, f => .call c fun answer => (next answer).bind f

instance : Monad (Process Call Answer ε) where
  pure := .done
  bind := .bind

/-- A computation without calls. -/
def ofExcept : Except ε α → Process Call Answer ε α
  | .ok a => .done a
  | .error error => .fail error

/-- A call with its answer. -/
abbrev Event (Call : Type) (Answer : Call → Type) : Type := (c : Call) × Answer c

/-- Continue with `handler` when `p` fails. -/
def tryCatch : Process Call Answer ε α → (ε → Process Call Answer ε α) →
    Process Call Answer ε α
  | .done a, _ => .done a
  | .fail error, handler => handler error
  | .call c next, handler => .call c fun answer => (next answer).tryCatch handler

/-- `p` makes these calls, is given these answers, and ends so. -/
inductive Runs : Process Call Answer ε α → List (Event Call Answer) → Except ε α → Prop where
  | done (a : α) : Runs (.done a) [] (.ok a)
  | fail (error : ε) : Runs (.fail error) [] (.error error)
  | call {c : Call} {next : Answer c → Process Call Answer ε α} {answer : Answer c}
      {events : List (Event Call Answer)} {r : Except ε α} (h : Runs (next answer) events r) :
      Runs (.call c next) (⟨c, answer⟩ :: events) r

/-! ## What the runs of a process are -/

variable {events : List (Event Call Answer)}

@[simp] theorem runs_done_iff {a : α} {r : Except ε α} :
    Runs (.done a : Process Call Answer ε α) events r ↔ events = [] ∧ r = .ok a := by
  constructor
  · rintro ⟨⟩
    exact ⟨rfl, rfl⟩
  · rintro ⟨rfl, rfl⟩
    exact .done a

@[simp] theorem runs_pure_iff {a : α} {r : Except ε α} :
    Runs (pure a : Process Call Answer ε α) events r ↔ events = [] ∧ r = .ok a :=
  runs_done_iff

@[simp] theorem runs_fail_iff {error : ε} {r : Except ε α} :
    Runs (.fail error : Process Call Answer ε α) events r ↔ events = [] ∧ r = .error error := by
  constructor
  · rintro ⟨⟩
    exact ⟨rfl, rfl⟩
  · rintro ⟨rfl, rfl⟩
    exact .fail error

theorem runs_call_iff {c : Call} {next : Answer c → Process Call Answer ε α} {r : Except ε α} :
    Runs (.call c next) events r ↔
      ∃ answer rest, events = ⟨c, answer⟩ :: rest ∧ Runs (next answer) rest r := by
  constructor
  · rintro ⟨⟩
    exact ⟨_, _, rfl, ‹_›⟩
  · rintro ⟨answer, rest, rfl, h⟩
    exact .call h

@[simp] theorem runs_ofExcept_iff {x : Except ε α} {r : Except ε α} :
    Runs (ofExcept x : Process Call Answer ε α) events r ↔ events = [] ∧ r = x := by
  cases x <;> simp [ofExcept]

theorem Runs.bind {p : Process Call Answer ε α} {f : α → Process Call Answer ε β}
    {before after : List (Event Call Answer)} {a : α} {r : Except ε β}
    (hp : Runs p before (.ok a)) (hf : Runs (f a) after r) :
    Runs (p >>= f) (before ++ after) r := by
  generalize hx : Except.ok (ε := ε) a = x at hp
  induction hp with
  | done b =>
    cases hx
    exact hf
  | fail error => cases hx
  | call _ ih => exact .call (ih hx)

/-- A sequence that ends with a value runs its first part to a value, then the rest. -/
theorem runs_bind_ok {p : Process Call Answer ε α} {f : α → Process Call Answer ε β} {b : β} :
    Runs (p >>= f) events (.ok b) ↔
      ∃ before a after, events = before ++ after ∧ Runs p before (.ok a) ∧
        Runs (f a) after (.ok b) := by
  constructor
  · intro h
    induction p generalizing events with
    | done a => exact ⟨[], a, events, rfl, .done a, h⟩
    | fail error => cases h
    | call c next ih =>
      obtain ⟨answer, rest, rfl, hrest⟩ := runs_call_iff.mp h
      obtain ⟨before, a, after, rfl, hp, hf⟩ := ih answer hrest
      exact ⟨⟨c, answer⟩ :: before, a, after, rfl, .call hp, hf⟩
  · rintro ⟨before, a, after, rfl, hp, hf⟩
    exact hp.bind hf

/-- A sequence runs its first part, and the rest if the first part ends with a value. -/
theorem runs_bind {p : Process Call Answer ε α} {f : α → Process Call Answer ε β}
    {r : Except ε β} (h : Runs (p >>= f) events r) :
    (∃ before a after, events = before ++ after ∧ Runs p before (.ok a) ∧ Runs (f a) after r) ∨
      ∃ error, Runs p events (.error error) ∧ r = .error error := by
  induction p generalizing events with
  | done a => exact .inl ⟨[], a, events, rfl, .done a, h⟩
  | fail error =>
    obtain ⟨rfl, rfl⟩ := runs_fail_iff.mp h
    exact .inr ⟨error, .fail error, rfl⟩
  | call c next ih =>
    obtain ⟨answer, rest, rfl, hrest⟩ := runs_call_iff.mp h
    rcases ih answer hrest with ⟨before, a, after, rfl, hp, hf⟩ | ⟨error, hp, rfl⟩
    · exact .inl ⟨⟨c, answer⟩ :: before, a, after, rfl, .call hp, hf⟩
    · exact .inr ⟨error, .call hp, rfl⟩

/-- A guarded computation runs to its end, or to its failure and then the handler. -/
theorem runs_tryCatch {p : Process Call Answer ε α} {handler : ε → Process Call Answer ε α}
    {r : Except ε α} (h : Runs (p.tryCatch handler) events r) :
    (∃ a, Runs p events (.ok a) ∧ r = .ok a) ∨
      ∃ before error after, events = before ++ after ∧ Runs p before (.error error) ∧
        Runs (handler error) after r := by
  induction p generalizing events with
  | done a =>
    obtain ⟨rfl, rfl⟩ := runs_done_iff.mp h
    exact .inl ⟨a, .done a, rfl⟩
  | fail error => exact .inr ⟨[], error, events, rfl, .fail error, h⟩
  | call c next ih =>
    obtain ⟨answer, rest, rfl, hrest⟩ := runs_call_iff.mp h
    rcases ih answer hrest with ⟨a, hp, rfl⟩ | ⟨before, error, after, rfl, hp, hhandler⟩
    · exact .inl ⟨a, .call hp, rfl⟩
    · exact .inr ⟨⟨c, answer⟩ :: before, error, after, rfl, .call hp, hhandler⟩

theorem Runs.tryCatch {p : Process Call Answer ε α} {a : α} (h : Runs p events (.ok a))
    (handler : ε → Process Call Answer ε α) : Runs (p.tryCatch handler) events (.ok a) := by
  generalize hx : Except.ok (ε := ε) a = x at h
  induction h with
  | done b =>
    cases hx
    exact .done a
  | fail error => cases hx
  | call _ ih => exact .call (ih hx)

/-- A loop that ends makes the calls of each of its passes. -/
theorem runs_forM_ok {f : α → Process Call Answer ε PUnit} :
    ∀ {as : List α} {events : List (Event Call Answer)}, Runs (as.forM f) events (.ok ⟨⟩) →
      ∀ a ∈ as, ∃ part, part ⊆ events ∧ Runs (f a) part (.ok ⟨⟩)
  | [], _, _, a, ha => absurd ha (by simp)
  | b :: as, events, h, a, ha => by
    obtain ⟨before, ⟨⟩, after, rfl, hb, has⟩ := runs_bind_ok.mp h
    rcases List.mem_cons.mp ha with rfl | ha
    · exact ⟨before, List.subset_append_left _ _, hb⟩
    · obtain ⟨part, hpart, hrun⟩ := runs_forM_ok has a ha
      exact ⟨part, fun e he => List.mem_append_right before (hpart he), hrun⟩

/-- A loop runs when each of its passes does. -/
theorem Runs.forM {f : α → Process Call Answer ε PUnit} {calls : α → List (Event Call Answer)} :
    ∀ {as : List α}, (∀ a ∈ as, Runs (f a) (calls a) (.ok ⟨⟩)) →
      Runs (as.forM f) (as.flatMap calls) (.ok ⟨⟩)
  | [], _ => .done _
  | a :: _, h => (h a (by simp)).bind (Runs.forM fun b hb => h b (by simp [hb]))

/-- Whatever is answered, every call of the process is as `P` says. -/
def Emits (P : Call → Prop) : Process Call Answer ε α → Prop
  | .done _ => True
  | .fail _ => True
  | .call c next => P c ∧ ∀ answer, Emits P (next answer)

section

variable {P Q : Call → Prop}

theorem emits_pure (a : α) : Emits P (pure a : Process Call Answer ε α) := trivial

theorem emits_ofExcept (x : Except ε α) : Emits P (ofExcept x : Process Call Answer ε α) := by
  cases x <;> exact trivial

theorem Emits.bind {p : Process Call Answer ε α} {f : α → Process Call Answer ε β}
    (hp : Emits P p) (hf : ∀ a, Emits P (f a)) : Emits P (p >>= f) := by
  induction p with
  | done a => exact hf a
  | fail error => exact trivial
  | call c next ih => exact ⟨hp.1, fun answer => ih answer (hp.2 answer)⟩

theorem Emits.forM {f : α → Process Call Answer ε PUnit} :
    ∀ {as : List α}, (∀ a ∈ as, Emits P (f a)) → Emits P (as.forM f)
  | [], _ => trivial
  | _ :: _, h => (h _ List.mem_cons_self).bind fun _ =>
    Emits.forM fun b hb => h b (List.mem_cons_of_mem _ hb)

/-- The calls of a run are as the process may call. -/
theorem Emits.of_mem {p : Process Call Answer ε α} {r : Except ε α} (hp : Emits P p)
    (h : Runs p events r) : ∀ event ∈ events, P event.1 := by
  induction h with
  | done a => simp
  | fail error => simp
  | call _ ih =>
    intro event hevent
    rcases List.mem_cons.mp hevent with rfl | hevent
    · exact hp.1
    · exact ih (hp.2 _) event hevent

end

end Process
