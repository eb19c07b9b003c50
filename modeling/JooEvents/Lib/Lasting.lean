import Mathlib.Data.List.Basic

/-!
# Bindings that last

The states of a history bind identities to values. Bindings last (`Lasting`) when an identity is
bound to one value throughout the history, also when it is unbound in between. A state that takes
its bindings from the state before it, and binds only identities besides that were never bound,
keeps that so (`Lasting.cons`).
-/

namespace JooEvents

variable {S I V : Type*} {binds : S → I → V → Prop} {state next : S} {past : List S}

/-- An identity is bound to one value in all the states. -/
def Lasting (binds : S → I → V → Prop) (states : List S) : Prop :=
  ∀ s ∈ states, ∀ t ∈ states, ∀ id v w, binds s id v → binds t id w → v = w

theorem Lasting.singleton (h : ∀ id v w, binds state id v → binds state id w → v = w) :
    Lasting binds [state] := by
  intro s hs t ht
  obtain rfl := List.mem_singleton.mp hs
  obtain rfl := List.mem_singleton.mp ht
  exact h

/-- A binding that is taken over agrees with all the earlier ones, and a new one has none to agree
with. -/
theorem Lasting.cons (h : Lasting binds (state :: past))
    (hself : ∀ id v w, binds next id v → binds next id w → v = w)
    (hnew : ∀ id v, binds next id v →
      binds state id v ∨ ∀ t ∈ state :: past, ∀ w, ¬ binds t id w) :
    Lasting binds (next :: state :: past) := by
  have hnext : ∀ t ∈ state :: past, ∀ id v w, binds next id v → binds t id w → v = w := by
    intro t ht id v w hv hw
    rcases hnew id v hv with hkept | hfresh
    · exact h state (List.mem_cons_self ..) t ht id v w hkept hw
    · exact absurd hw (hfresh t ht w)
  intro s hs t ht id v w hv hw
  rcases List.mem_cons.mp hs with rfl | hsPast
  · rcases List.mem_cons.mp ht with rfl | htPast
    · exact hself id v w hv hw
    · exact hnext t htPast id v w hv hw
  · rcases List.mem_cons.mp ht with rfl | htPast
    · exact (hnext s hsPast id w v hw hv).symm
    · exact h s hsPast t htPast id v w hv hw

end JooEvents
