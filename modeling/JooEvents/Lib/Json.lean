import Mathlib.Data.List.Lex
import Mathlib.Data.List.Sort
import Mathlib.Data.Rat.Defs

/-!
# Canonical JSON values

JSON trees, and the canonical form two encoders agree on before they compare or
hash a value : every string and every key is normalized, and the members of every
object are put in the order of their keys. Digests of other values occur inside
trees, so a tree is over a type `D` of digests, which canonicalization leaves
alone.

An encoder compares values by their canonical trees. `canonicalize_obj_inj` says
what that means for two objects with the same keys, and `lookup_of_canonicalize_eq`
what it means for any two objects : the members under a key have the same canonical
form, or both objects lack the key. Keys are compared on their UTF-16 code units.
-/

/-- A JSON tree, with digests of type `D` among its leaves. -/
inductive Json (D : Type) where
  | null
  | bool (b : Bool)
  | num (q : ℚ)
  | text (s : String)
  | digest (d : D)
  | arr (items : List (Json D))
  | obj (members : List (String × Json D))

namespace Json

variable {D : Type}

section DecidableEq

variable [DecidableEq D]

mutual

/-- Structural comparison of trees. -/
def beq : Json D → Json D → Bool
  | .null, .null => true
  | .bool a, .bool b => a == b
  | .num a, .num b => decide (a = b)
  | .text a, .text b => decide (a = b)
  | .digest a, .digest b => decide (a = b)
  | .arr a, .arr b => beqItems a b
  | .obj a, .obj b => beqMembers a b
  | _, _ => false

/-- Structural comparison of array items. -/
def beqItems : List (Json D) → List (Json D) → Bool
  | [], [] => true
  | a :: as, b :: bs => beq a b && beqItems as bs
  | _, _ => false

/-- Structural comparison of object members. -/
def beqMembers : List (String × Json D) → List (String × Json D) → Bool
  | [], [] => true
  | (k, a) :: as, (l, b) :: bs => decide (k = l) && beq a b && beqMembers as bs
  | _, _ => false

end

mutual

theorem beq_iff : ∀ a b : Json D, beq a b = true ↔ a = b
  | .arr a, b => by cases b <;> simp [beq, beqItems_iff a]
  | .obj a, b => by cases b <;> simp [beq, beqMembers_iff a]
  | .null, b => by cases b <;> simp [beq]
  | .bool a, b => by cases b <;> simp [beq]
  | .num a, b => by cases b <;> simp [beq]
  | .text a, b => by cases b <;> simp [beq]
  | .digest a, b => by cases b <;> simp [beq]

theorem beqItems_iff : ∀ a b : List (Json D), beqItems a b = true ↔ a = b
  | [], b => by cases b <;> simp [beqItems]
  | a :: as, b => by cases b <;> simp [beqItems, beq_iff a, beqItems_iff as]

theorem beqMembers_iff : ∀ a b : List (String × Json D), beqMembers a b = true ↔ a = b
  | [], b => by cases b <;> simp [beqMembers]
  | (k, a) :: as, b => by
    cases b <;> simp [beqMembers, beq_iff a, beqMembers_iff as, Prod.ext_iff]

end

instance : DecidableEq (Json D) := fun a b => decidable_of_iff _ (beq_iff a b)

end DecidableEq

/-! ## The canonical form -/

/-- The UTF-16 code units of a character : itself, or a surrogate pair. -/
def utf16Units (c : Char) : List ℕ :=
  if c.val.toNat < 0x10000 then [c.val.toNat]
  else [0xD800 + (c.val.toNat - 0x10000) / 0x400, 0xDC00 + (c.val.toNat - 0x10000) % 0x400]

/-- The bytes of a string in UTF-8. -/
def utf8Bytes (s : String) : List ℕ := s.toByteArray.data.toList.map UInt8.toNat

/-- Whether all bytes are those of ASCII characters. -/
def asciiBytes : List ℕ → Bool
  | [] => true
  | byte :: bytes => Nat.blt byte 128 && asciiBytes bytes

/-- The lexicographic order of lists of numbers. -/
def lexLe : List ℕ → List ℕ → Bool
  | [], _ => true
  | _ :: _, [] => false
  | a :: as, b :: bs => Nat.blt a b || (Nat.beq a b && lexLe as bs)

theorem lexLe_iff_not_lt : ∀ {as bs : List ℕ}, lexLe as bs = true ↔ ¬ bs < as
  | [], bs => by simp [lexLe]
  | a :: as, [] => by simp [lexLe]
  | a :: as, b :: bs => by
    rw [lexLe, Bool.or_eq_true, Bool.and_eq_true, lexLe_iff_not_lt, List.cons_lt_cons_iff,
      Nat.blt_eq, Nat.beq_eq]
    by_cases hlt : b < a
    · simp only [hlt, true_or, not_true_eq_false, iff_false]
      omega
    · by_cases heq : a = b
      · simp [heq]
      · simp only [hlt, Ne.symm heq, heq, false_and, or_self, or_false, not_false_eq_true, iff_true]
        omega

theorem asciiBytes_append {as bs : List ℕ} :
    asciiBytes (as ++ bs) = (asciiBytes as && asciiBytes bs) := by
  induction as with
  | nil => rfl
  | cons a as ih => rw [List.cons_append, asciiBytes, asciiBytes, ih, Bool.and_assoc]

theorem utf8Bytes_eq (s : String) :
    utf8Bytes s = s.toList.flatMap fun c => (String.utf8EncodeChar c).map UInt8.toNat := by
  rw [utf8Bytes, ← String.utf8Encode_toList, List.utf8Encode, List.toList_data_toByteArray,
    List.map_flatMap]

/-- The first byte of a character that is not ASCII says so. -/
theorem utf16Units_eq_of_ascii {c : Char}
    (h : asciiBytes ((String.utf8EncodeChar c).map UInt8.toNat) = true) :
    (String.utf8EncodeChar c).map UInt8.toNat = utf16Units c := by
  rw [String.utf8EncodeChar] at h ⊢
  split at h
  next hc =>
    rw [if_pos hc, utf16Units, if_pos (by omega)]
    rw [List.map_singleton, UInt8.toNat_ofNat_of_lt' (lt_of_le_of_lt hc (by decide))]
  next hc =>
    exfalso
    split at h
    · simp [asciiBytes] at h
      omega
    · split at h
      · simp [asciiBytes] at h
        omega
      · simp [asciiBytes] at h
        omega

theorem utf8Bytes_eq_of_ascii {s : String} (h : asciiBytes (utf8Bytes s) = true) :
    utf8Bytes s = s.toList.flatMap utf16Units := by
  rw [utf8Bytes_eq] at h ⊢
  generalize s.toList = cs at h
  induction cs with
  | nil => rfl
  | cons c cs ih =>
    rw [List.flatMap_cons, asciiBytes_append, Bool.and_eq_true] at h
    rw [List.flatMap_cons, List.flatMap_cons, utf16Units_eq_of_ascii h.1, ih h.2]

/-- ASCII strings are compared on their bytes. -/
instance decidableUtf16Le (s t : String) :
    Decidable (s.toList.flatMap utf16Units ≤ t.toList.flatMap utf16Units) :=
  if h : (asciiBytes (utf8Bytes s) && asciiBytes (utf8Bytes t)) = true then
    decidable_of_iff (lexLe (utf8Bytes s) (utf8Bytes t) = true) (by
      rw [Bool.and_eq_true] at h
      rw [lexLe_iff_not_lt, not_lt, utf8Bytes_eq_of_ascii h.1, utf8Bytes_eq_of_ascii h.2])
  else inferInstanceAs (Decidable (_ ≤ _))

/-- The order of strings by their UTF-16 code units. -/
def utf16Le (s t : String) : Bool :=
  decide (s.toList.flatMap utf16Units ≤ t.toList.flatMap utf16Units)

/-- Members in the order of their keys. -/
def sortMembers (members : List (String × Json D)) : List (String × Json D) :=
  members.insertionSort fun a b => utf16Le a.1 b.1

mutual

/-- The canonical form under the string normalization `nfc`. -/
def canonicalize (nfc : String → String) : Json D → Json D
  | .null => .null
  | .bool b => .bool b
  | .num q => .num q
  | .text s => .text (nfc s)
  | .digest d => .digest d
  | .arr items => .arr (canonicalizeItems nfc items)
  | .obj members => .obj (sortMembers (canonicalizeMembers nfc members))

/-- The canonical forms of array items, in order. -/
def canonicalizeItems (nfc : String → String) : List (Json D) → List (Json D)
  | [] => []
  | a :: as => canonicalize nfc a :: canonicalizeItems nfc as

/-- The canonical forms of object members, in order. -/
def canonicalizeMembers (nfc : String → String) :
    List (String × Json D) → List (String × Json D)
  | [] => []
  | (k, a) :: as => (nfc k, canonicalize nfc a) :: canonicalizeMembers nfc as

end

@[simp] theorem canonicalizeItems_eq_map (nfc : String → String) :
    ∀ items : List (Json D), canonicalizeItems nfc items = items.map (canonicalize nfc)
  | [] => rfl
  | a :: as => by rw [canonicalizeItems, canonicalizeItems_eq_map nfc as, List.map_cons]

@[simp] theorem canonicalizeMembers_eq_map (nfc : String → String) :
    ∀ members : List (String × Json D),
      canonicalizeMembers nfc members = members.map fun m => (nfc m.1, canonicalize nfc m.2)
  | [] => rfl
  | (k, a) :: as => by
    rw [canonicalizeMembers, canonicalizeMembers_eq_map nfc as, List.map_cons]

@[simp] theorem canonicalize_null (nfc : String → String) :
    canonicalize nfc (.null : Json D) = .null := rfl

@[simp] theorem canonicalize_bool (nfc : String → String) (b : Bool) :
    canonicalize nfc (.bool b : Json D) = .bool b := rfl

@[simp] theorem canonicalize_num (nfc : String → String) (q : ℚ) :
    canonicalize nfc (.num q : Json D) = .num q := rfl

@[simp] theorem canonicalize_text (nfc : String → String) (s : String) :
    canonicalize nfc (.text s : Json D) = .text (nfc s) := rfl

@[simp] theorem canonicalize_digest (nfc : String → String) (d : D) :
    canonicalize nfc (.digest d : Json D) = .digest d := rfl

@[simp] theorem canonicalize_arr (nfc : String → String) (items : List (Json D)) :
    canonicalize nfc (.arr items) = .arr (items.map (canonicalize nfc)) := by
  simp only [canonicalize, canonicalizeItems_eq_map]

theorem canonicalize_obj (nfc : String → String) (members : List (String × Json D)) :
    canonicalize nfc (.obj members) =
      .obj (sortMembers (members.map fun m => (nfc m.1, canonicalize nfc m.2))) := by
  simp only [canonicalize, canonicalizeMembers_eq_map]

/-! ## Comparing objects -/

/-- In an association list with distinct keys, a lookup finds exactly the entries. -/
theorem lookup_eq_some_iff_mem {α β : Type*} [DecidableEq α] {k : α} {v : β} :
    ∀ {entries : List (α × β)}, (entries.map Prod.fst).Nodup →
      (entries.lookup k = some v ↔ (k, v) ∈ entries)
  | [], _ => by simp
  | (l, w) :: entries, hnd => by
    rw [List.map_cons, List.nodup_cons] at hnd
    rw [List.lookup_cons]
    by_cases hk : k = l
    · subst hk
      have hno : (k, v) ∉ entries := fun h => hnd.1 (List.mem_map.mpr ⟨_, h, rfl⟩)
      simp [hno, eq_comm]
    · simp [beq_false_of_ne hk, hk, lookup_eq_some_iff_mem hnd.2]

/-- Association lists with distinct keys that hold the same entries answer every
lookup alike. -/
theorem lookup_eq_of_perm {α β : Type*} [DecidableEq α] {xs ys : List (α × β)}
    (hnd : (xs.map Prod.fst).Nodup) (h : xs.Perm ys) (k : α) :
    xs.lookup k = ys.lookup k := by
  have hnd' : (ys.map Prod.fst).Nodup := (h.map Prod.fst).nodup_iff.mp hnd
  refine Option.ext fun v => ?_
  rw [lookup_eq_some_iff_mem hnd, lookup_eq_some_iff_mem hnd', h.mem_iff]

/-- Association lists with the same distinct keys, in the same places, that hold
the same entries are equal. -/
theorem eq_of_perm_of_keys_eq {α β : Type*} [DecidableEq α] {xs ys : List (α × β)}
    (hnd : (xs.map Prod.fst).Nodup) (hk : xs.map Prod.fst = ys.map Prod.fst)
    (h : xs.Perm ys) : xs = ys := by
  have hnd' : (ys.map Prod.fst).Nodup := hk ▸ hnd
  refine List.ext_getElem h.length_eq fun i hi hi' => ?_
  have hki : xs[i].1 = ys[i].1 := by
    have := congrArg (fun l => l[i]?) hk
    simpa [hi, hi'] using this
  have hmem : (ys[i].1, xs[i].2) ∈ ys := by
    rw [← hki]
    exact h.mem_iff.mp (List.getElem_mem hi)
  have hval : ys.lookup ys[i].1 = some xs[i].2 := (lookup_eq_some_iff_mem hnd').mpr hmem
  have hval' : ys.lookup ys[i].1 = some ys[i].2 :=
    (lookup_eq_some_iff_mem hnd').mpr (List.getElem_mem hi')
  exact Prod.ext hki (Option.some.inj (hval.symm.trans hval'))

/-- Keys an object may have so that its canonical form keeps them apart : distinct,
and fixed by the normalization. -/
def PlainKeys (nfc : String → String) (members : List (String × Json D)) : Prop :=
  (members.map Prod.fst).Nodup ∧ ∀ k ∈ members.map Prod.fst, nfc k = k

/-- The members of an object with plain keys, in canonical form. -/
theorem map_canonicalize_of_plainKeys {nfc : String → String}
    {members : List (String × Json D)} (h : PlainKeys nfc members) :
    (members.map fun m => (nfc m.1, canonicalize nfc m.2)) =
      members.map fun m => (m.1, canonicalize nfc m.2) :=
  List.map_congr_left fun m hm => by rw [h.2 m.1 (List.mem_map_of_mem hm)]

theorem perm_of_canonicalize_obj_eq {nfc : String → String}
    {xs ys : List (String × Json D)} (hx : PlainKeys nfc xs) (hy : PlainKeys nfc ys)
    (h : canonicalize nfc (.obj xs) = canonicalize nfc (.obj ys)) :
    (xs.map fun m => (m.1, canonicalize nfc m.2)).Perm
      (ys.map fun m => (m.1, canonicalize nfc m.2)) := by
  rw [canonicalize_obj, canonicalize_obj, Json.obj.injEq] at h
  rw [← map_canonicalize_of_plainKeys hx, ← map_canonicalize_of_plainKeys hy]
  have hxs := List.perm_insertionSort (fun a b => utf16Le a.1 b.1)
    (xs.map fun m => (nfc m.1, canonicalize nfc m.2))
  refine hxs.symm.trans ?_
  change (sortMembers _).Perm _
  rw [h]
  exact List.perm_insertionSort _ _

/-- Two objects with plain keys and one canonical form hold, under every key,
members of one canonical form. -/
theorem lookup_of_canonicalize_eq {nfc : String → String} {xs ys : List (String × Json D)}
    (hx : PlainKeys nfc xs) (hy : PlainKeys nfc ys)
    (h : canonicalize nfc (.obj xs) = canonicalize nfc (.obj ys)) (k : String) :
    (xs.lookup k).map (canonicalize nfc) = (ys.lookup k).map (canonicalize nfc) := by
  have hlookup : ∀ l : List (String × Json D),
      (l.map fun m => (m.1, canonicalize nfc m.2)).lookup k =
        (l.lookup k).map (canonicalize nfc) := by
    intro l
    induction l with
    | nil => rfl
    | cons m l ih =>
      obtain ⟨l', a⟩ := m
      rw [List.map_cons, List.lookup_cons, List.lookup_cons, ih]
      cases k == l' <;> rfl
  rw [← hlookup, ← hlookup]
  refine lookup_eq_of_perm ?_ (perm_of_canonicalize_obj_eq hx hy h) k
  simpa [Function.comp_def] using hx.1

/-- Two objects with the same plain keys have one canonical form exactly when their
members do, one by one. -/
theorem canonicalize_obj_inj {nfc : String → String} {xs ys : List (String × Json D)}
    (hx : PlainKeys nfc xs) (hk : xs.map Prod.fst = ys.map Prod.fst) :
    canonicalize nfc (.obj xs) = canonicalize nfc (.obj ys) ↔
      xs.map (fun m => canonicalize nfc m.2) = ys.map (fun m => canonicalize nfc m.2) := by
  have hy : PlainKeys nfc ys := by
    unfold PlainKeys at hx ⊢
    rwa [← hk]
  have hkeys : (xs.map fun m => (m.1, canonicalize nfc m.2)).map Prod.fst =
      (ys.map fun m => (m.1, canonicalize nfc m.2)).map Prod.fst := by
    simpa [Function.comp_def] using hk
  constructor
  · intro h
    have hperm := perm_of_canonicalize_obj_eq hx hy h
    have heq := eq_of_perm_of_keys_eq (by simpa [Function.comp_def] using hx.1) hkeys hperm
    simpa [Function.comp_def] using congrArg (List.map Prod.snd) heq
  · intro h
    have heq : (xs.map fun m => (m.1, canonicalize nfc m.2)) =
        ys.map fun m => (m.1, canonicalize nfc m.2) := by
      refine List.ext_getElem (by simpa using congrArg List.length hk) fun i hi hi' => ?_
      have h₁ := congrArg (fun l => l[i]?) hk
      have h₂ := congrArg (fun l => l[i]?) h
      simp only [List.length_map] at hi hi'
      simp only [List.getElem?_map, List.getElem?_eq_getElem hi,
        List.getElem?_eq_getElem hi', Option.map_some, Option.some.injEq] at h₁ h₂
      simp [h₁, h₂]
    rw [canonicalize_obj, canonicalize_obj, map_canonicalize_of_plainKeys hx,
      map_canonicalize_of_plainKeys hy, heq]

end Json
