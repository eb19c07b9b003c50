import Mathlib.Logic.Function.Basic
import JooEvents.Lib.Process
import JooEvents.Lib.Trace

/-!
# Workers that share a world

Workers are processes, and a step of their `Configuration` is one call of one of them : the
world answers it and changes. In between, the other workers may call as often as they like.

A `Contract` says how the world may move between two calls of a worker (`Le`), what a worker
may call (`Ask`), and what a call that it makes leaves it with (`Reply`). A worker that keeps
the contract (`Process.Respects`) may use at a call what it learnt before, as far as that lasts
while the world moves. Where the world keeps its invariant under calls that may be made, the
configuration is sound in every interleaving (`Configuration.Sound.of_run`).
-/

/-- What a worker may rely on and what it has to keep. -/
structure Contract (Call : Type) (Answer : Call → Type) (σ : Type) where
  Inv : σ → Prop
  Le : σ → σ → Prop
  Ask : σ → Call → Prop
  Reply : σ → (c : Call) → Answer c → σ → Prop

namespace Process

variable {Call : Type} {Answer : Call → Type} {ε α β σ : Type}

/-- From the world `w` on, `p` makes calls that the contract allows, if the world and the
answers keep to it. -/
def Respects (K : Contract Call Answer σ) : σ → Process Call Answer ε α → Prop
  | _, .done _ => True
  | _, .fail _ => True
  | w, .call c next => ∀ w', K.Le w w' → K.Inv w' →
      K.Ask w' c ∧ ∀ answer w'', K.Reply w' c answer w'' → (next answer).Respects K w''

variable {K : Contract Call Answer σ} {w w' : σ} {p : Process Call Answer ε α}

theorem Respects.ofExcept (x : Except ε α) :
    Respects K w (ofExcept x : Process Call Answer ε α) := by
  cases x <;> trivial

/-- A sequence of which the second part relies on nothing that the first part learnt. -/
theorem Respects.bind {f : α → Process Call Answer ε β} (hp : p.Respects K w)
    (hf : ∀ w a, (f a).Respects K w) : (p >>= f).Respects K w := by
  induction p generalizing w with
  | done a => exact hf w a
  | fail error => trivial
  | call c next ih =>
    intro w' hle hinv
    obtain ⟨hask, hnext⟩ := hp w' hle hinv
    exact ⟨hask, fun answer w'' hreply => ih answer (hnext answer w'' hreply)⟩

/-- From the world `w` on, `p` makes calls that the contract allows, and what it is done with
satisfies `Post` in the world that it knows then. -/
def Ensures (K : Contract Call Answer σ) (Post : σ → α → Prop) :
    σ → Process Call Answer ε α → Prop
  | w, .done a => Post w a
  | _, .fail _ => True
  | w, .call c next => ∀ w', K.Le w w' → K.Inv w' →
      K.Ask w' c ∧ ∀ answer w'', K.Reply w' c answer w'' → (next answer).Ensures K Post w''

variable {Post : σ → α → Prop}

theorem respects_iff_ensures : p.Respects K w ↔ p.Ensures K (fun _ _ => True) w := by
  induction p generalizing w with
  | done a => exact Iff.rfl
  | fail error => exact Iff.rfl
  | call c next ih =>
    exact forall₃_congr fun w' hle hinv => and_congr_right fun hask =>
      forall₃_congr fun answer w'' hreply => ih answer

/-- A sequence of which the second part relies on what the first part is done with. -/
theorem Ensures.andThen {Post' : σ → β → Prop} {f : α → Process Call Answer ε β}
    (hp : p.Ensures K Post w) (hf : ∀ w a, Post w a → (f a).Ensures K Post' w) :
    (p >>= f).Ensures K Post' w := by
  induction p generalizing w with
  | done a => exact hf w a hp
  | fail error => trivial
  | call c next ih =>
    intro w' hle hinv
    obtain ⟨hask, hnext⟩ := hp w' hle hinv
    exact ⟨hask, fun answer w'' hreply => ih answer (hnext answer w'' hreply)⟩

theorem Ensures.bind {f : α → Process Call Answer ε β} (hp : p.Ensures K Post w)
    (hf : ∀ w a, Post w a → (f a).Respects K w) : (p >>= f).Respects K w :=
  respects_iff_ensures.mpr <| hp.andThen fun w a ha => respects_iff_ensures.mp (hf w a ha)

/-- What a worker ensures, of which what it is done with lasts, it still ensures when the world
has moved. -/
theorem Ensures.mono (htrans : ∀ {a b c}, K.Le a b → K.Le b c → K.Le a c)
    (hlasts : ∀ a b x, K.Le a b → Post a x → Post b x)
    (h : p.Ensures K Post w) (hle : K.Le w w') : p.Ensures K Post w' := by
  cases p with
  | done a => exact hlasts _ _ a hle h
  | fail error => trivial
  | call c next => exact fun v hv => h v (htrans hle hv)

/-- A computation without calls comes before the calls. -/
theorem Ensures.ofExcept_bind {x : Except ε β} {f : β → Process Call Answer ε α}
    (hf : ∀ b, x = .ok b → (f b).Ensures K Post w) :
    (Process.ofExcept x >>= f).Ensures K Post w := by
  cases x with
  | ok b => exact hf b rfl
  | error error => trivial

end Process

/-- A world with workers on it. -/
structure Configuration (Call : Type) (Answer : Call → Type) (ε α σ ι : Type) where
  world : σ
  workers : ι → Process Call Answer ε α

namespace Configuration

variable {Call : Type} {Answer : Call → Type} {ε α σ ι : Type} [DecidableEq ι]
  {exec : σ → (c : Call) → Answer c → σ → Prop}

/-- A worker makes its next call. -/
inductive Step (exec : σ → (c : Call) → Answer c → σ → Prop) :
    Configuration Call Answer ε α σ ι → ι × Process.Event Call Answer →
      Configuration Call Answer ε α σ ι → Prop where
  | call {s : Configuration Call Answer ε α σ ι} {i : ι} {c : Call}
      {next : Answer c → Process Call Answer ε α} {answer : Answer c} {world : σ}
      (hworker : s.workers i = .call c next) (hexec : exec s.world c answer world) :
      Step exec s (i, ⟨c, answer⟩) ⟨world, Function.update s.workers i (next answer)⟩

variable {s t : Configuration Call Answer ε α σ ι} {e : ι × Process.Event Call Answer}
  {steps : List (Configuration Call Answer ε α σ ι × (ι × Process.Event Call Answer) ×
    Configuration Call Answer ε α σ ι)}

variable {K : Contract Call Answer σ} {Post : ι → σ → α → Prop}

/-- The world keeps its invariant, and the workers ensure what they are done with. -/
structure Delivers (K : Contract Call Answer σ) (Post : ι → σ → α → Prop)
    (s : Configuration Call Answer ε α σ ι) : Prop where
  world : K.Inv s.world
  workers : ∀ i, (s.workers i).Ensures K (Post i) s.world

/-- A step of a configuration that delivers is a call that may be made. -/
theorem Delivers.asks (hrefl : ∀ w, K.Le w w) (h : s.Delivers K Post)
    (hstep : Step exec s e t) : K.Ask s.world e.2.1 ∧ exec s.world e.2.1 e.2.2 t.world := by
  cases hstep with
  | @call i c next answer world hworker hexec =>
    have hensures := h.workers i
    rw [hworker] at hensures
    exact ⟨(hensures s.world (hrefl _) h.world).1, hexec⟩

theorem Delivers.step (hrefl : ∀ w, K.Le w w)
    (htrans : ∀ {a b c}, K.Le a b → K.Le b c → K.Le a c)
    (hlasts : ∀ i a b x, K.Le a b → Post i a x → Post i b x) (h : s.Delivers K Post)
    (hstep : Step exec s e t) (hreply : K.Reply s.world e.2.1 e.2.2 t.world)
    (hle : K.Le s.world t.world) (hkept : K.Inv t.world) : t.Delivers K Post := by
  cases hstep with
  | @call i c next answer world hworker hexec =>
    refine ⟨hkept, fun j => ?_⟩
    by_cases hj : j = i
    · subst hj
      have hensures := h.workers j
      rw [hworker] at hensures
      simpa using (hensures s.world (hrefl _) h.world).2 answer world hreply
    · simpa [Function.update_of_ne hj] using (h.workers j).mono htrans (hlasts j) hle

/-- The world keeps its invariant, and the workers their contract. -/
structure Sound (K : Contract Call Answer σ) (s : Configuration Call Answer ε α σ ι) : Prop where
  world : K.Inv s.world
  workers : ∀ i, (s.workers i).Respects K s.world

omit [DecidableEq ι] in
theorem sound_iff_delivers : s.Sound K ↔ s.Delivers K fun _ _ _ => True :=
  ⟨fun h => ⟨h.world, fun i => Process.respects_iff_ensures.mp (h.workers i)⟩,
    fun h => ⟨h.world, fun i => Process.respects_iff_ensures.mpr (h.workers i)⟩⟩

/-- A step of a sound configuration is a call that may be made. -/
theorem Sound.asks (hrefl : ∀ w, K.Le w w) (h : s.Sound K) (hstep : Step exec s e t) :
    K.Ask s.world e.2.1 ∧ exec s.world e.2.1 e.2.2 t.world :=
  (sound_iff_delivers.mp h).asks hrefl hstep

theorem Sound.step (hrefl : ∀ w, K.Le w w)
    (htrans : ∀ {a b c}, K.Le a b → K.Le b c → K.Le a c) (h : s.Sound K)
    (hstep : Step exec s e t) (hreply : K.Reply s.world e.2.1 e.2.2 t.world)
    (hle : K.Le s.world t.world) (hkept : K.Inv t.world) : t.Sound K :=
  sound_iff_delivers.mpr <| (sound_iff_delivers.mp h).step hrefl htrans (fun _ _ _ _ _ _ => trivial)
    hstep hreply hle hkept

/-- The world answers to the contract under the steps that meet a condition. -/
structure Kept (K : Contract Call Answer σ) (exec : σ → (c : Call) → Answer c → σ → Prop)
    (Cond : σ → Process.Event Call Answer → σ → Prop) : Prop where
  refl : ∀ w, K.Le w w
  trans : ∀ {a b c}, K.Le a b → K.Le b c → K.Le a c
  reply : ∀ {w c answer w'}, K.Inv w → K.Ask w c → exec w c answer w' →
    Cond w ⟨c, answer⟩ w' → K.Reply w c answer w'
  le : ∀ {w c answer w'}, K.Inv w → K.Ask w c → exec w c answer w' →
    Cond w ⟨c, answer⟩ w' → K.Le w w'
  inv : ∀ {w c answer w'}, K.Inv w → K.Ask w c → exec w c answer w' →
    Cond w ⟨c, answer⟩ w' → K.Inv w'

variable {Cond : σ → Process.Event Call Answer → σ → Prop}

theorem Kept.sound (hkept : Kept K exec Cond) (h : s.Sound K) (hstep : Step exec s e t)
    (hcond : Cond s.world e.2 t.world) : t.Sound K := by
  obtain ⟨hask, hexec⟩ := h.asks hkept.refl hstep
  exact h.step hkept.refl hkept.trans hstep (hkept.reply h.world hask hexec hcond)
    (hkept.le h.world hask hexec hcond) (hkept.inv h.world hask hexec hcond)

/-- Where the world keeps to the contract in the steps of a run, it stays sound. -/
theorem Sound.of_run (hkept : Kept K exec Cond) (hstart : s.Sound K)
    (hrun : Trace (Step exec) s steps t)
    (hall : Trace.All (fun s e t => Cond s.world e.2 t.world) steps) : t.Sound K :=
  Trace.invariant hstart (fun h hstep hcond => hkept.sound h hstep hcond) hrun hall

/-- What the calls of a run do, where the world keeps to the contract. -/
theorem Sound.all_of_run (hkept : Kept K exec Cond) (hstart : s.Sound K)
    (Good : σ → Process.Event Call Answer → σ → Prop)
    (hgood : ∀ {w c answer w'}, K.Inv w → K.Ask w c → exec w c answer w' →
      Good w ⟨c, answer⟩ w')
    (hrun : Trace (Step exec) s steps t)
    (hall : Trace.All (fun s e t => Cond s.world e.2 t.world) steps) :
    Trace.All (fun s e t => Good s.world e.2 t.world) steps := by
  refine Trace.all_of hstart (fun h hstep hcond => hkept.sound h hstep hcond)
    (fun h hstep _ => ?_) hrun hall
  obtain ⟨hask, hexec⟩ := h.asks hkept.refl hstep
  exact hgood h.world hask hexec

end Configuration
