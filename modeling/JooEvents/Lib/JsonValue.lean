import JooEvents.Lib.Decimal
import JooEvents.Lib.JsonText

/-!
# JSON values and their texts

A `JsonValue` is what the language keeps of a JSON text : an object is the list of its
members in the order in which the language enumerates them, array indices first and
ascending, then the other names in the order of their definition (`ownKeyOrder`). A
name is a name : there is none with a meaning of its own.

`JsonValue.stringify` is `JSON.stringify`, and `Proper` values are those whose objects
are in their own order, with distinct names.
-/

/-- A JSON value. -/
inductive JsonValue where
  | null
  | bool (b : Bool)
  | num (d : Decimal)
  | str (s : String)
  | arr (items : List JsonValue)
  | obj (members : List (String × JsonValue))

namespace JsonValue

/-! ## The order of the members of an object -/

section Members

variable {α : Type*}

/-- The array index a name is. -/
def arrayIndex? (name : String) : Option ℕ :=
  let n := Nat.ofDigitChars 10 name.toList 0
  if Nat.toDigits 10 n = name.toList ∧ n < 2 ^ 32 - 1 then some n else none

/-- Members in the order of the indices that their names are. -/
def sortIndices (members : List (String × α)) : List (String × α) :=
  members.insertionSort fun a b => (arrayIndex? a.1).getD 0 ≤ (arrayIndex? b.1).getD 0

/-- Members that were defined in this order, as the language enumerates them. -/
def ownKeyOrder (members : List (String × α)) : List (String × α) :=
  sortIndices (members.filter fun m => (arrayIndex? m.1).isSome) ++
    members.filter fun m => (arrayIndex? m.1).isNone

/-- Define a member : in the place of an earlier one of its name, or at the end. -/
def define (members : List (String × α)) (m : String × α) : List (String × α) :=
  if m.1 ∈ members.map Prod.fst then members.map fun n => if n.1 = m.1 then m else n
  else members ++ [m]

/-- `Object.fromEntries`. -/
def fromEntries (entries : List (String × α)) : List (String × α) :=
  ownKeyOrder (entries.foldl define [])

theorem perm_sortIndices (members : List (String × α)) : (sortIndices members).Perm members :=
  List.perm_insertionSort _ _

theorem sortIndices_sortIndices (members : List (String × α)) :
    sortIndices (sortIndices members) = sortIndices members := by
  let le : String × α → String × α → Prop :=
    fun a b => (arrayIndex? a.1).getD 0 ≤ (arrayIndex? b.1).getD 0
  have : Std.Total le := ⟨fun _ _ => Nat.le_total _ _⟩
  have : IsTrans (String × α) le := ⟨fun _ _ _ => Nat.le_trans⟩
  exact (List.pairwise_insertionSort le members).insertionSort_eq

theorem perm_ownKeyOrder (members : List (String × α)) : (ownKeyOrder members).Perm members := by
  refine ((perm_sortIndices _).append_right _).trans ?_
  have hsplit := List.filter_append_perm (fun m : String × α => (arrayIndex? m.1).isSome) members
  simpa only [Option.not_isSome] using hsplit

theorem ownKeyOrder_ownKeyOrder (members : List (String × α)) :
    ownKeyOrder (ownKeyOrder members) = ownKeyOrder members := by
  have hindices : ∀ m ∈ sortIndices (members.filter fun m => (arrayIndex? m.1).isSome),
      (arrayIndex? m.1).isSome = true := by
    intro m hm
    exact (List.mem_filter.mp ((perm_sortIndices _).mem_iff.mp hm)).2
  have hothers : ∀ m ∈ members.filter fun m => (arrayIndex? m.1).isNone,
      (arrayIndex? m.1).isNone = true := fun m hm => (List.mem_filter.mp hm).2
  have hfirst : (ownKeyOrder members).filter (fun m => (arrayIndex? m.1).isSome) =
      sortIndices (members.filter fun m => (arrayIndex? m.1).isSome) := by
    have hnone : (members.filter fun m => (arrayIndex? m.1).isNone).filter
        (fun m => (arrayIndex? m.1).isSome) = [] :=
      List.filter_eq_nil_iff.mpr fun m hm => by simpa using hothers m hm
    rw [ownKeyOrder, List.filter_append, List.filter_eq_self.mpr hindices, hnone, List.append_nil]
  have hsecond : (ownKeyOrder members).filter (fun m => (arrayIndex? m.1).isNone) =
      members.filter fun m => (arrayIndex? m.1).isNone := by
    have hnone : (sortIndices (members.filter fun m => (arrayIndex? m.1).isSome)).filter
        (fun m => (arrayIndex? m.1).isNone) = [] :=
      List.filter_eq_nil_iff.mpr fun m hm => by
        simpa [Option.isSome_iff_ne_none] using hindices m hm
    rw [ownKeyOrder, List.filter_append, List.filter_eq_self.mpr hothers, hnone, List.nil_append]
  rw [ownKeyOrder, hfirst, hsecond, sortIndices_sortIndices, ← ownKeyOrder]

theorem foldl_define (entries : List (String × α)) : ∀ {members : List (String × α)},
    ((members ++ entries).map Prod.fst).Nodup →
      entries.foldl define members = members ++ entries := by
  induction entries with
  | nil => intro members _; simp
  | cons e entries ih =>
    intro members hnd
    have hnew : e.1 ∉ members.map Prod.fst := by
      rw [List.map_append, List.map_cons, List.nodup_append] at hnd
      exact fun h => hnd.2.2 e.1 h e.1 List.mem_cons_self rfl
    rw [List.foldl_cons, define, if_neg hnew, ih (by simpa using hnd)]
    simp

/-- Entries with distinct names all become members. -/
theorem fromEntries_eq {entries : List (String × α)} (hnd : (entries.map Prod.fst).Nodup) :
    fromEntries entries = ownKeyOrder entries := by
  rw [fromEntries, foldl_define entries (by simpa using hnd), List.nil_append]

end Members

mutual

/-- `JSON.stringify`. -/
def stringify : JsonValue → List Char
  | .null => "null".toList
  | .bool true => "true".toList
  | .bool false => "false".toList
  | .num d => d.text
  | .str s => Json.quote s
  | .arr items => '[' :: stringifyItems true items
  | .obj members => '{' :: stringifyMembers true members

/-- The items of an array, the first of which follows no comma, and the closing bracket. -/
def stringifyItems : Bool → List JsonValue → List Char
  | _, [] => [']']
  | first, a :: as => (if first then [] else [',']) ++ (stringify a ++ stringifyItems false as)

/-- The members of an object and the closing bracket. -/
def stringifyMembers : Bool → List (String × JsonValue) → List Char
  | _, [] => ['}']
  | first, (k, a) :: as =>
    (if first then [] else [',']) ++
      (Json.quote k ++ (':' :: (stringify a ++ stringifyMembers false as)))

end

mutual

/-- Every object holds its members in their own order, under distinct names. -/
def Proper : JsonValue → Prop
  | .arr items => ProperItems items
  | .obj members => (members.map Prod.fst).Nodup ∧ ownKeyOrder members = members ∧
      ProperMembers members
  | _ => True

/-- The items are proper. -/
def ProperItems : List JsonValue → Prop
  | [] => True
  | a :: as => Proper a ∧ ProperItems as

/-- The members are proper. -/
def ProperMembers : List (String × JsonValue) → Prop
  | [] => True
  | (_, a) :: as => Proper a ∧ ProperMembers as

end

theorem properMembers_iff : ∀ {as : List (String × JsonValue)},
    ProperMembers as ↔ ∀ a ∈ as, Proper a.2
  | [] => by simp [ProperMembers]
  | (k, a) :: as => by simp [ProperMembers, properMembers_iff]

end JsonValue
