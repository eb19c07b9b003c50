import JooEvents.Lib.Keyed

/-!
# Maps in order of insertion

A `KeyedMap key` holds values under the keys they carry, at most one of a key, in the order in
which the keys were inserted. What it holds under a key is `get` ; what `set`, `delete` and
`ofList` do to it is said by `get_set`, `get_delete` and `get_ofList`.
-/

variable {α κ : Type} [DecidableEq κ]

/-- Values under the keys they carry, in order of insertion. -/
structure KeyedMap (key : α → κ) where
  values : List α
  nodup : (values.map key).Nodup

namespace KeyedMap

variable {key : α → κ}

/-- The map without values. -/
def empty : KeyedMap key := ⟨[], List.nodup_nil⟩

/-- The value under a key. -/
def get (m : KeyedMap key) (k : κ) : Option α := m.values.find? fun a => key a = k

/-- Replacing a value by one with its key keeps the keys. -/
theorem key_comp_replace (key : α → κ) (a : α) :
    (key ∘ fun b => if key b = key a then a else b) = key := by
  funext b
  rw [Function.comp_apply]
  split_ifs with h
  · exact h.symm
  · rfl

/-- Put a value under its key, in the place of what is there. -/
def set (m : KeyedMap key) (a : α) : KeyedMap key :=
  if h : key a ∈ m.values.map key then
    ⟨m.values.map fun b => if key b = key a then a else b, by
      rw [List.map_map, key_comp_replace]
      exact m.nodup⟩
  else
    ⟨m.values ++ [a], by
      rw [List.map_append, List.map_singleton]
      exact m.nodup.append (List.nodup_singleton _) (List.disjoint_singleton.2 h)⟩

/-- Remove what is under a key. -/
def delete (m : KeyedMap key) (k : κ) : KeyedMap key :=
  ⟨m.values.filter fun a => key a ≠ k, (List.filter_sublist.map key).nodup m.nodup⟩

/-- The map of values put one after the other. -/
def ofList (values : List α) : KeyedMap key := values.foldl set empty

/-- Two maps hold the same. -/
def Agree (m m' : KeyedMap key) : Prop := ∀ k, m.get k = m'.get k

@[simp] theorem get_empty (k : κ) : (empty : KeyedMap key).get k = none := rfl

theorem Agree.symm {m m' : KeyedMap key} (h : m.Agree m') : m'.Agree m := fun k => (h k).symm

theorem Agree.trans {m m' m'' : KeyedMap key} (h : m.Agree m') (h' : m'.Agree m'') : m.Agree m'' :=
  fun k => (h k).trans (h' k)

/-- A map holds values under their own keys. -/
theorem key_of_get {m : KeyedMap key} {k : κ} {a : α} (h : m.get k = some a) : key a = k :=
  (Keyed.mem_of_find?_key h).2

theorem find?_replace (values : List α) (a : α) (k : κ) :
    (values.map fun b => if key b = key a then a else b).find? (fun b => key b = k) =
      (values.find? fun b => key b = k).map fun b => if key b = key a then a else b := by
  rw [List.find?_map]
  exact congrArg (fun f : α → κ => (values.find? fun b => f b = k).map _) (key_comp_replace key a)

theorem get_set (m : KeyedMap key) (a : α) (k : κ) :
    (m.set a).get k = if key a = k then some a else m.get k := by
  unfold set get
  split_ifs with hmem hk hk
  · obtain ⟨b, hb, hkey⟩ := List.mem_map.1 hmem
    rw [find?_replace, (Keyed.find?_key_eq_some_iff m.nodup).2 ⟨hb, hkey.trans hk⟩, Option.map_some,
      if_pos hkey]
  · rw [find?_replace]
    cases hfind : m.values.find? fun b => key b = k with
    | none => rfl
    | some b =>
      have hb : key b = k := (Keyed.mem_of_find?_key hfind).2
      rw [Option.map_some, if_neg fun hba => hk (hba.symm.trans hb)]
  · have hnone : m.values.find? (fun b => key b = k) = none :=
      Keyed.find?_key_eq_none_iff.2 fun b hb hkey => hmem (hk ▸ hkey ▸ List.mem_map_of_mem hb)
    simp [List.find?_append, hnone, hk]
  · simp [List.find?_append, hk]

theorem get_delete (m : KeyedMap key) (k k' : κ) :
    (m.delete k).get k' = if k' = k then none else m.get k' := by
  unfold delete get
  rw [List.find?_filter]
  split_ifs with hk
  · subst hk
    refine List.find?_eq_none.2 fun a _ => ?_
    simp
  · congr 1
    funext a
    by_cases ha : key a = k' <;> simp [ha, hk]

theorem get_foldl_set (k : κ) :
    ∀ (values : List α) (m : KeyedMap key), (values.map key).Nodup →
      (values.foldl set m).get k = (values.find? fun a => key a = k).or (m.get k)
  | [], m, _ => rfl
  | a :: values, m, hnodup => by
    obtain ⟨hnotin, hnodup⟩ := List.nodup_cons.1 hnodup
    rw [List.foldl_cons, get_foldl_set k values (m.set a) hnodup, get_set]
    by_cases hk : key a = k
    · have hnone : values.find? (fun b => key b = k) = none :=
        Keyed.find?_key_eq_none_iff.2 fun b hb hkey =>
          hnotin (hk ▸ hkey ▸ List.mem_map_of_mem hb)
      simp [hk, hnone]
    · simp [hk]

/-- Putting values under other keys leaves what is under a key. -/
theorem get_foldl_set_of_ne {k : κ} :
    ∀ {values : List α} {m : KeyedMap key}, (∀ a ∈ values, key a ≠ k) →
      (values.foldl set m).get k = m.get k
  | [], _, _ => rfl
  | a :: values, m, h => by
    rw [List.foldl_cons, get_foldl_set_of_ne fun b hb => h b (List.mem_cons_of_mem _ hb), get_set,
      if_neg (h a List.mem_cons_self)]

/-- Where values were put under a key, one of them is there. -/
theorem exists_get_foldl_set {k : κ} :
    ∀ {values : List α} {m : KeyedMap key}, (∃ a ∈ values, key a = k) →
      ∃ a ∈ values, key a = k ∧ (values.foldl set m).get k = some a
  | [], _, h => absurd h (by simp)
  | a :: values, m, h => by
    by_cases hrest : ∃ b ∈ values, key b = k
    · obtain ⟨b, hb, hkey, hget⟩ := exists_get_foldl_set (m := m.set a) hrest
      exact ⟨b, List.mem_cons_of_mem _ hb, hkey, hget⟩
    · have hne : ∀ b ∈ values, key b ≠ k := fun b hb hkey => hrest ⟨b, hb, hkey⟩
      have ha : key a = k := by
        obtain ⟨b, hb, hkey⟩ := h
        rcases List.mem_cons.mp hb with rfl | hb
        · exact hkey
        · exact absurd hkey (hne b hb)
      refine ⟨a, List.mem_cons_self, ha, ?_⟩
      rw [List.foldl_cons, get_foldl_set_of_ne hne, get_set, if_pos ha]

/-- A value is under its key. -/
theorem get_eq_some_iff {m : KeyedMap key} {k : κ} {a : α} :
    m.get k = some a ↔ a ∈ m.values ∧ key a = k :=
  Keyed.find?_key_eq_some_iff m.nodup

/-- Values that are made from what is there are there, under the keys of what they are made for. -/
theorem exists_get_foldl {β : Type} {k : β → κ} {f : KeyedMap key → β → α}
    (hkey : ∀ m b, key (f m b) = k b) {c : κ} :
    ∀ {bs : List β} {m : KeyedMap key}, ((∃ a, m.get c = some a) ∨ ∃ b ∈ bs, k b = c) →
      ∃ a, (bs.foldl (fun m b => m.set (f m b)) m).get c = some a
  | [], _, h => h.elim id fun h => absurd h (by simp)
  | b :: bs, m, h => by
    rw [List.foldl_cons]
    refine exists_get_foldl hkey ?_
    rw [get_set, hkey]
    split_ifs with hb
    · exact .inl ⟨_, rfl⟩
    · rcases h with h | ⟨b', hb', hk⟩
      · exact .inl h
      · rcases List.mem_cons.mp hb' with rfl | hb'
        · exact absurd hk hb
        · exact .inr ⟨b', hb', hk⟩

theorem mem_values_set {m : KeyedMap key} {a b : α} (h : b ∈ (m.set a).values) :
    b = a ∨ b ∈ m.values := by
  have hget := get_eq_some_iff.mpr ⟨h, rfl⟩
  rw [get_set] at hget
  split_ifs at hget with hkey
  · exact .inl (Option.some.inj hget).symm
  · exact .inr (get_eq_some_iff.mp hget).1

/-- Values that were put one after the other were each made from what was there. -/
theorem mem_values_foldl {β : Type} {f : KeyedMap key → β → α} {a : α} :
    ∀ {bs : List β} {m : KeyedMap key}, a ∈ (bs.foldl (fun m b => m.set (f m b)) m).values →
      a ∈ m.values ∨ ∃ b ∈ bs, ∃ m', a = f m' b
  | [], _, h => .inl h
  | b :: bs, m, h => by
    rw [List.foldl_cons] at h
    rcases mem_values_foldl h with h | ⟨b', hb', h⟩
    · rcases mem_values_set h with rfl | h
      · exact .inr ⟨b, List.mem_cons_self, m, rfl⟩
      · exact .inl h
    · exact .inr ⟨b', List.mem_cons_of_mem _ hb', h⟩

theorem mem_of_get_ofList {values : List α} {k : κ} {a : α}
    (h : (ofList values : KeyedMap key).get k = some a) : a ∈ values ∧ key a = k := by
  obtain ⟨hmem, hkey⟩ := get_eq_some_iff.mp h
  rcases mem_values_foldl (f := fun _ b => b) hmem with hempty | ⟨b, hb, -, rfl⟩
  · cases hempty
  · exact ⟨hb, hkey⟩

/-- Maps that hold the same have the same values, in some order. -/
theorem Agree.perm {m m' : KeyedMap key} (h : m.Agree m') : m.values.Perm m'.values := by
  rw [List.perm_ext_iff_of_nodup (m.nodup.of_map key) (m'.nodup.of_map key)]
  intro a
  have hmem := fun m'' : KeyedMap key => (get_eq_some_iff (m := m'') (k := key a) (a := a)).symm
  rw [← and_iff_left (a := a ∈ m.values) (rfl : key a = key a),
    ← and_iff_left (a := a ∈ m'.values) (rfl : key a = key a), hmem, hmem, h]

/-- Values with distinct keys are each under their key. -/
theorem get_ofList_eq_some_iff {values : List α} (h : (values.map key).Nodup) {k : κ} {a : α} :
    (ofList values : KeyedMap key).get k = some a ↔ a ∈ values ∧ key a = k := by
  rw [ofList, get_foldl_set k values empty h, get_empty, Option.or_none]
  exact Keyed.find?_key_eq_some_iff h

theorem get_ofList_eq_none_iff {values : List α} (h : (values.map key).Nodup) {k : κ} :
    (ofList values : KeyedMap key).get k = none ↔ ∀ a ∈ values, key a ≠ k := by
  rw [ofList, get_foldl_set k values empty h, get_empty, Option.or_none]
  exact Keyed.find?_key_eq_none_iff

/-- Where the key tells values apart, a map put together from values has these. -/
theorem mem_ofList_iff (hkey : Function.Injective key) {values : List α} {a : α} :
    a ∈ (ofList values : KeyedMap key).values ↔ a ∈ values := by
  rw [← and_iff_left (a := a ∈ (ofList values : KeyedMap key).values) (rfl : key a = key a),
    ← get_eq_some_iff]
  constructor
  · intro h
    by_cases hex : ∃ b ∈ values, key b = key a
    · obtain ⟨b, hb, hba⟩ := hex
      exact hkey hba ▸ hb
    · rw [ofList, get_foldl_set_of_ne fun b hb hba => hex ⟨b, hb, hba⟩, get_empty] at h
      exact absurd h (by simp)
  · intro h
    obtain ⟨b, -, hba, hget⟩ := exists_get_foldl_set (m := (empty : KeyedMap key)) ⟨a, h, rfl⟩
    rwa [hkey hba] at hget

/-- A map is put together from its values. -/
theorem ofList_values (m : KeyedMap key) : (ofList m.values : KeyedMap key).Agree m := by
  intro k
  rw [ofList, get_foldl_set k m.values empty m.nodup, get_empty, Option.or_none]
  rfl

end KeyedMap
