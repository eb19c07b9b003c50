import Mathlib.Data.List.Basic
import Mathlib.Data.List.Nodup
import Mathlib.Logic.Relation

/-!
# Records that are leased

Workers take a record in turn and try to settle it. Taking it starts an attempt under the
next fence, so a worker that comes back late finds its fence overtaken. An attempt ends
when its worker completes it under the fence of the record, or when it is seen to have
lost its fence.

`Lease.Step` is what one operation may do to a record and `Lease.Sound` what holds in every
run. Attempts are numbered and fenced from 1, a lease is the lease of the last attempt and
of a running one, and nothing is attempted once an attempt has won. `Lease.Grows` says that
attempts stay, and stay as they ended.
-/

namespace Lease

variable {Id F T : Type}

/-- An attempt, with its end once it has ended. -/
structure Attempt (Id F T : Type) where
  id : Id
  number : ℕ
  fence : ℕ
  start : T
  finish : Option F

/-- A record waits for a worker, is held by one, or is done. -/
inductive Phase where
  | waiting
  | held
  | done

/-- A record. The lease is the fence and the attempt it was given for, and `due` is when
the record may be taken next. -/
structure Record (Id F T : Type) where
  phase : Phase
  version : ℕ
  fence : Option ℕ
  lease : Option (ℕ × Id)
  due : Option T
  attempts : List (Attempt Id F T)

/-- The record with a new attempt. -/
def Record.claim (r : Record Id F T) (id : Id) (start : T) : Record Id F T :=
  { phase := .held, version := r.version + 1, fence := some (r.fence.getD 0 + 1)
    lease := some (r.fence.getD 0 + 1, id), due := none
    attempts := r.attempts ++ [⟨id, r.attempts.length + 1, r.fence.getD 0 + 1, start, none⟩] }

/-- The record with the `i`-th attempt ended. -/
def Record.finish (r : Record Id F T) (i : ℕ) (a : Attempt Id F T) (f : F) : Record Id F T :=
  { r with version := r.version + 1, attempts := r.attempts.set i { a with finish := some f } }

/-- What an operation may do. The ends in `Won` settle the record. -/
inductive Step (Won : F → Prop) (r : Record Id F T) : Record Id F T → Prop where
  | claim (id : Id) (start : T) (opened : r.phase ≠ .done) (fresh : ∀ a ∈ r.attempts, a.id ≠ id) :
    Step Won r (r.claim id start)
  | complete (i : ℕ) (a : Attempt Id F T) (f : F) (phase : Phase) (due : Option T)
      (held : r.phase = .held) (lease : ∀ l ∈ r.lease, a.id = l.2) (leased : r.lease.isSome)
      (mem : r.attempts[i]? = some a) (running : a.finish = none)
      (released : phase ≠ .held) (settled : Won f → phase = .done) :
    Step Won r { r.finish i a f with phase, lease := none, due }
  | lose (i : ℕ) (a : Attempt Id F T) (f : F) (mem : r.attempts[i]? = some a)
      (running : a.finish = none) (lost : ∀ fence ∈ r.fence, a.fence < fence) (not_won : ¬ Won f) :
    Step Won r (r.finish i a f)

/-- What holds in every run. -/
structure Sound (Won : F → Prop) (r : Record Id F T) : Prop where
  numbered : ∀ (i : ℕ) (a : Attempt Id F T), r.attempts[i]? = some a → a.number = i + 1 ∧ a.fence = i + 1
  fence : r.fence = r.attempts.getLast?.map (·.fence)
  ids : (r.attempts.map (·.id)).Nodup
  held : r.phase = .held ↔ r.lease.isSome
  lease : ∀ l ∈ r.lease, r.due = none ∧
    ∃ last ∈ r.attempts.getLast?, last.finish = none ∧ l = (last.fence, last.id)
  won : ∀ a ∈ r.attempts, ∀ f ∈ a.finish, Won f → r.phase = .done
  once : ∀ (i j : ℕ) (a b : Attempt Id F T), r.attempts[i]? = some a → r.attempts[j]? = some b →
    (∃ f ∈ a.finish, Won f) → (∃ f ∈ b.finish, Won f) → i = j

/-- Every attempt of `r` is an attempt of `s`, as it was once it has ended. -/
def Grows (r s : Record Id F T) : Prop :=
  ∀ (i : ℕ) (a : Attempt Id F T), r.attempts[i]? = some a → ∃ b : Attempt Id F T, s.attempts[i]? = some b ∧
    b = { a with finish := b.finish } ∧ (a.finish.isSome → b = a)

variable {Won : F → Prop} {r s : Record Id F T}

/-- The fence counts the attempts. -/
theorem Sound.fence_getD (h : Sound Won r) : r.fence.getD 0 = r.attempts.length := by
  rw [h.fence]
  cases hlast : r.attempts.getLast? with
  | none => simp [List.getLast?_eq_none_iff.mp hlast]
  | some a =>
    rw [List.getLast?_eq_getElem?] at hlast
    have hlt := (List.getElem?_eq_some_iff.mp hlast).1
    simp only [Option.map_some, Option.getD_some, (h.numbered _ a hlast).2]
    omega

theorem Sound.index_eq_of_id_eq (h : Sound Won r) {i j : ℕ} {a b : Attempt Id F T}
    (ha : r.attempts[i]? = some a) (hb : r.attempts[j]? = some b) (hid : a.id = b.id) : i = j := by
  have hi : i < (r.attempts.map (·.id)).length := by
    rw [List.length_map]
    exact (List.getElem?_eq_some_iff.mp ha).1
  refine (List.getElem?_inj hi h.ids).mp ?_
  rw [List.getElem?_map, List.getElem?_map, ha, hb, Option.map_some, Option.map_some, hid]

/-- The last place of a list is set after the places before it. -/
theorem set_length_sub_one {α : Type*} {l : List α} {a b : α} (h : a ∈ l.getLast?) :
    l.set (l.length - 1) b = l.dropLast ++ [b] := by
  obtain ⟨before, rfl⟩ : ∃ before, l = before ++ [a] := ⟨_, (List.dropLast_append_getLast? a h).symm⟩
  simp

theorem getElem?_finish {i : ℕ} {a : Attempt Id F T} {f : F} (ha : r.attempts[i]? = some a) (j : ℕ) :
    (r.finish i a f).attempts[j]? =
      if i = j then some { a with finish := some f } else r.attempts[j]? := by
  have hi := (List.getElem?_eq_some_iff.mp ha).1
  simp only [Record.finish, List.getElem?_set, if_pos hi]

theorem map_id_finish {i : ℕ} {a : Attempt Id F T} {f : F} (ha : r.attempts[i]? = some a) :
    (r.finish i a f).attempts.map (·.id) = r.attempts.map (·.id) := by
  refine List.ext_getElem? fun j => ?_
  rw [List.getElem?_map, List.getElem?_map, getElem?_finish ha]
  split
  · rename_i hij
    rw [← hij, ha]
    rfl
  · rfl

theorem length_finish {i : ℕ} {a : Attempt Id F T} {f : F} :
    (r.finish i a f).attempts.length = r.attempts.length := by
  simp [Record.finish]

theorem map_fence_getLast?_finish {i : ℕ} {a : Attempt Id F T} {f : F}
    (ha : r.attempts[i]? = some a) :
    (r.finish i a f).attempts.getLast?.map (·.fence) = r.attempts.getLast?.map (·.fence) := by
  rw [List.getLast?_eq_getElem?, List.getLast?_eq_getElem?, length_finish, getElem?_finish ha]
  split
  · rename_i hij
    rw [← hij, ha]
    rfl
  · rfl

/-- An attempt after one has ended : the ended one, or one that was there. -/
theorem mem_finish {i : ℕ} {a b : Attempt Id F T} {f : F} (ha : r.attempts[i]? = some a)
    (hb : b ∈ (r.finish i a f).attempts) :
    b = { a with finish := some f } ∨ b ∈ r.attempts := by
  obtain ⟨j, hj⟩ := List.mem_iff_getElem?.mp hb
  rw [getElem?_finish ha] at hj
  split at hj
  · exact .inl (Option.some.inj hj).symm
  · exact .inr (List.mem_of_getElem? hj)

theorem numbered_finish (h : Sound Won r) {i : ℕ} {a : Attempt Id F T} {f : F}
    (ha : r.attempts[i]? = some a) (j : ℕ) (b : Attempt Id F T)
    (hb : (r.finish i a f).attempts[j]? = some b) : b.number = j + 1 ∧ b.fence = j + 1 := by
  rw [getElem?_finish ha] at hb
  split at hb
  · rename_i hij
    obtain rfl := Option.some.inj hb
    exact hij ▸ h.numbered i a ha
  · exact h.numbered j b hb

theorem Grows.of_finish {i : ℕ} {a : Attempt Id F T} {f : F} (ha : r.attempts[i]? = some a)
    (hrunning : a.finish = none) : Grows r (r.finish i a f) := by
  intro j b hb
  rw [getElem?_finish ha]
  split
  · rename_i hij
    obtain rfl : a = b := Option.some.inj (ha.symm.trans (hij ▸ hb))
    exact ⟨_, rfl, rfl, fun h => by simp [hrunning] at h⟩
  · exact ⟨b, hb, rfl, fun _ => rfl⟩

/-! ## Steps -/

/-- Nobody has won while the record is not done. -/
theorem Sound.not_won (h : Sound Won r) (hphase : r.phase ≠ .done) {a : Attempt Id F T}
    (ha : a ∈ r.attempts) : ¬ ∃ f ∈ a.finish, Won f :=
  fun ⟨f, hf, hwon⟩ => hphase (h.won a ha f hf hwon)

theorem Sound.claim (h : Sound Won r) {id : Id} {start : T} (hphase : r.phase ≠ .done)
    (hfresh : ∀ a ∈ r.attempts, a.id ≠ id) :
    Sound Won (r.claim id start) := by
  have hold : ∀ (i : ℕ) (a : Attempt Id F T),
      (r.claim id start).attempts[i]? = some a →
        r.attempts[i]? = some a ∨
          i = r.attempts.length ∧ a = ⟨id, r.attempts.length + 1, r.fence.getD 0 + 1, start, none⟩ := by
    intro i a ha
    rw [Record.claim] at ha
    rcases Nat.lt_trichotomy i r.attempts.length with hi | rfl | hi
    · rw [List.getElem?_append_left hi] at ha
      exact .inl ha
    · rw [List.getElem?_append_right Nat.le.refl, Nat.sub_self] at ha
      exact .inr ⟨rfl, (Option.some.inj ha).symm⟩
    · rw [List.getElem?_eq_none (by simp; omega)] at ha
      cases ha
  refine ⟨fun i a ha => ?_, by simp [Record.claim], ?_, by simp [Record.claim], ?_,
    fun a ha f hf hwon => ?_, fun i j a b ha hb hawon hbwon => ?_⟩
  · rcases hold i a ha with ha | ⟨rfl, rfl⟩
    · exact h.numbered i a ha
    · exact ⟨rfl, by rw [h.fence_getD]⟩
  · rw [Record.claim, List.map_append, List.nodup_append]
    refine ⟨h.ids, by simp, fun x hx y hy => ?_⟩
    obtain ⟨a, ha, rfl⟩ := List.mem_map.mp hx
    rw [List.map_singleton, List.mem_singleton] at hy
    exact hy ▸ hfresh a ha
  · rintro l hl
    obtain rfl := Option.mem_some_iff.mp hl
    exact ⟨rfl, _, List.getLast?_concat, rfl, rfl⟩
  · rcases List.mem_append.mp ha with ha | ha
    · exact absurd ⟨f, hf, hwon⟩ (h.not_won hphase ha)
    · rw [List.mem_singleton.mp ha] at hf
      cases hf
  · obtain ⟨f, hf, hwon⟩ := hawon
    rcases hold i a ha with ha | ⟨-, rfl⟩
    · exact absurd ⟨f, hf, hwon⟩ (h.not_won hphase (List.mem_of_getElem? ha))
    · cases hf

/-- One attempt has won when an attempt ends in a record where nobody has. -/
theorem won_once_finish {i : ℕ} {a : Attempt Id F T} {f : F} (ha : r.attempts[i]? = some a)
    (hnone : ∀ b ∈ r.attempts, ¬ ∃ f ∈ b.finish, Won f) (j : ℕ) (b : Attempt Id F T)
    (hb : (r.finish i a f).attempts[j]? = some b) (hwon : ∃ f ∈ b.finish, Won f) : i = j := by
  rw [getElem?_finish ha] at hb
  split at hb
  · assumption
  · exact absurd hwon (hnone b (List.mem_of_getElem? hb))

theorem Sound.complete (h : Sound Won r) {i : ℕ} {a : Attempt Id F T} {f : F} {phase : Phase}
    {due : Option T} (hheld : r.phase = .held) (ha : r.attempts[i]? = some a)
    (hphase : phase ≠ .held) (hsettled : Won f → phase = .done) :
    Sound Won { r.finish i a f with phase, lease := none, due } := by
  have hnone : ∀ b ∈ r.attempts, ¬ ∃ f ∈ b.finish, Won f :=
    fun b hb => h.not_won (by rw [hheld]; simp) hb
  refine ⟨numbered_finish h ha, ?_, ?_, by simp [hphase], by simp, fun b hb g hg hwon => ?_,
    fun j k b c hb hc hbwon hcwon => ?_⟩
  · exact (map_fence_getLast?_finish ha).symm ▸ h.fence
  · exact (map_id_finish ha).symm ▸ h.ids
  · rcases mem_finish ha hb with rfl | hb
    · exact hsettled (Option.mem_some_iff.mp hg ▸ hwon)
    · exact absurd ⟨g, hg, hwon⟩ (hnone b hb)
  · exact (won_once_finish ha hnone j b hb hbwon).symm.trans (won_once_finish ha hnone k c hc hcwon)

theorem Sound.lose (h : Sound Won r) {i : ℕ} {a : Attempt Id F T} {f : F}
    (ha : r.attempts[i]? = some a) (hlost : ∀ fence ∈ r.fence, a.fence < fence)
    (hf : ¬ Won f) : Sound Won (r.finish i a f) := by
  -- an attempt that has won is one that had won before
  have hold : ∀ (j : ℕ) (b : Attempt Id F T), (r.finish i a f).attempts[j]? = some b →
      (∃ f ∈ b.finish, Won f) → r.attempts[j]? = some b := by
    intro j b hb hwon
    rw [getElem?_finish ha] at hb
    split at hb
    · obtain rfl := Option.some.inj hb
      obtain ⟨g, hg, hwon⟩ := hwon
      exact absurd (Option.mem_some_iff.mp hg ▸ hwon) hf
    · exact hb
  refine ⟨numbered_finish h ha, ?_, ?_, h.held, fun l hl => ?_, fun b hb g hg hwon => ?_,
    fun j k b c hb hc hbwon hcwon => ?_⟩
  · exact (map_fence_getLast?_finish ha).symm ▸ h.fence
  · exact (map_id_finish ha).symm ▸ h.ids
  · obtain ⟨hdue, last, hlast, hrunning, rfl⟩ := h.lease l hl
    refine ⟨hdue, last, ?_, hrunning, rfl⟩
    -- the last attempt has the fence of the record
    have hne : i ≠ r.attempts.length - 1 := by
      rintro rfl
      rw [List.getLast?_eq_getElem?, ha] at hlast
      obtain rfl := Option.mem_some_iff.mp hlast
      have hfence := h.fence
      rw [List.getLast?_eq_getElem?, ha, Option.map_some] at hfence
      exact Nat.lt_irrefl _ (hlost a.fence hfence)
    rw [List.getLast?_eq_getElem?, length_finish, getElem?_finish ha, if_neg hne,
      ← List.getLast?_eq_getElem?]
    exact hlast
  · obtain ⟨j, hj⟩ := List.mem_iff_getElem?.mp hb
    exact h.won b (List.mem_of_getElem? (hold j b hj ⟨g, hg, hwon⟩)) g hg hwon
  · exact h.once j k b c (hold j b hb hbwon) (hold k c hc hcwon) hbwon hcwon

theorem Sound.step (h : Sound Won r) (hstep : Step Won r s) : Sound Won s := by
  cases hstep with
  | claim id start hopened hfresh => exact h.claim hopened hfresh
  | complete i a f phase due hheld _ _ hmem _ hreleased hsettled =>
    exact h.complete hheld hmem hreleased hsettled
  | lose i a f hmem _ hlost hwon => exact h.lose hmem hlost hwon

theorem Step.version_eq (hstep : Step Won r s) : s.version = r.version + 1 := by
  cases hstep <;> rfl

theorem Grows.refl (r : Record Id F T) : Grows r r :=
  fun _ a ha => ⟨a, ha, rfl, fun _ => rfl⟩

theorem Grows.trans {t : Record Id F T} (h : Grows r s) (h' : Grows s t) : Grows r t := by
  intro i a ha
  obtain ⟨b, hb, hkept, hended⟩ := h i a ha
  obtain ⟨c, hc, hkept', hended'⟩ := h' i b hb
  refine ⟨c, hc, ?_, fun hfinish => ?_⟩
  · rw [hkept', hkept]
  · obtain rfl := hended hfinish
    exact hended' hfinish

theorem Step.grows (hstep : Step Won r s) : Grows r s := by
  cases hstep with
  | claim id _ _ _ =>
    intro i a ha
    have hi := (List.getElem?_eq_some_iff.mp ha).1
    exact ⟨a, by rw [Record.claim, List.getElem?_append_left hi, ha], rfl, fun _ => rfl⟩
  | complete i a f _ _ _ _ _ hmem hrunning _ _ => exact Grows.of_finish hmem hrunning
  | lose i a f hmem hrunning _ _ => exact Grows.of_finish hmem hrunning

end Lease
