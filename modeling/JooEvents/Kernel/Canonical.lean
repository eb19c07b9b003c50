import JooEvents.Lib.Json
import JooEvents.Kernel.Ids

/-!
# Canonical comparison and digests

The domain packages compare values by their canonical JSON encoding and pin them by
the SHA-256 of it. `Host` collects what this rests on outside the repository : the
Unicode normalization of the language, of which the code uses that it is idempotent
and leaves ASCII strings alone, and the hash of a canonical value. Where a result
needs the hash to tell values apart it assumes `Host.CollisionFree`.

`ToJson D α` is the encoding of the type `α`, and `host.Same a b` says that `a` and
`b` have one canonical encoding. A type is `ExactJson` when only equal values have :
identities, instants, versions, and the records made of them. Free text is not, for
two strings are the same up to normalization.

`SymbolicDigest.host` is the perfect hash : its digests are the canonical values
themselves, so it is collision free.
-/

namespace JooEvents

/-- What the canonical encoding takes from the language and from `node:crypto`. -/
structure Host (D : Type) where
  /-- `String.prototype.normalize('NFC')`. -/
  nfc : String → String
  nfc_idem : ∀ s, nfc (nfc s) = nfc s
  nfc_ascii : ∀ s, isAscii s = true → nfc s = s
  /-- The digest of a canonical JSON value. -/
  sha256 : Json D → D

/-- The hash gives distinct canonical values distinct digests. -/
def Host.CollisionFree {D : Type} (host : Host D) : Prop := Function.Injective host.sha256

/-- The JSON encoding of the values of a type. -/
class ToJson (D : Type) (α : Type) where
  toJson : α → Json D

export ToJson (toJson)

variable {D α : Type}

section

variable [ToJson D α]

/-- The canonical JSON value of `a`. -/
def Host.canonical (host : Host D) (a : α) : Json D := (toJson a).canonicalize host.nfc

/-- The SHA-256 of the canonical encoding of `a`. -/
def Host.digest (host : Host D) (a : α) : D := host.sha256 (host.canonical a)

/-- `a` and `b` have the same canonical encoding. -/
def Host.Same (host : Host D) (a b : α) : Prop := host.canonical a = host.canonical b

instance [DecidableEq D] (host : Host D) (a b : α) : Decidable (host.Same a b) :=
  inferInstanceAs (Decidable (_ = _))

theorem Host.Same.refl (host : Host D) (a : α) : host.Same a a := rfl

theorem Host.Same.symm {host : Host D} {a b : α} (h : host.Same a b) : host.Same b a :=
  Eq.symm h

theorem Host.Same.trans {host : Host D} {a b c : α} (h : host.Same a b)
    (h' : host.Same b c) : host.Same a c :=
  Eq.trans h h'

theorem Host.Same.digest_eq {host : Host D} {a b : α} (h : host.Same a b) :
    host.digest a = host.digest b :=
  congrArg host.sha256 h

theorem Host.CollisionFree.digest_eq_iff {host : Host D} (hcf : host.CollisionFree) {a b : α} :
    host.digest a = host.digest b ↔ host.Same a b :=
  ⟨fun h => hcf h, Host.Same.digest_eq⟩

end

/-- Only equal values of the type have one canonical encoding. -/
class ExactJson (D α : Type) [ToJson D α] : Prop where
  eq_of_same : ∀ {host : Host D} {a b : α}, host.Same a b → a = b

/-- No value of the type is encoded as `null`. -/
class NonNullJson (D α : Type) [ToJson D α] : Prop where
  canonical_ne_null : ∀ (host : Host D) (a : α), host.canonical a ≠ .null

@[simp] theorem Host.same_iff_eq [ToJson D α] [ExactJson D α] {host : Host D} {a b : α} :
    host.Same a b ↔ a = b :=
  ⟨ExactJson.eq_of_same, fun h => h ▸ rfl⟩

@[simp] theorem canonicalize_toJson_eq_iff [ToJson D α] {host : Host D} {a b : α} :
    (toJson a : Json D).canonicalize host.nfc = (toJson b : Json D).canonicalize host.nfc ↔
      host.Same a b :=
  Iff.rfl

instance : ToJson D String := ⟨.text⟩
instance : ToJson D Bool := ⟨.bool⟩
instance : ToJson D ℕ := ⟨fun n => .num n⟩
instance : ToJson D PositiveSafe := ⟨fun v => toJson v.val⟩
theorem Host.same_text_iff {host : Host D} {s t : String} :
    host.Same s t ↔ host.nfc s = host.nfc t := by
  simp [Host.Same, Host.canonical, toJson]

theorem Host.eq_of_same_text {host : Host D} {s t : String} (hs : isAscii s = true)
    (ht : isAscii t = true) (h : host.Same s t) : s = t := by
  rwa [Host.same_text_iff, host.nfc_ascii s hs, host.nfc_ascii t ht] at h

instance : NonNullJson D String := ⟨fun host s => by simp [Host.canonical, toJson]⟩

instance : ExactJson D Bool := ⟨fun h => by simpa [Host.Same, Host.canonical, toJson] using h⟩
instance : NonNullJson D Bool := ⟨fun host s => by simp [Host.canonical, toJson]⟩

instance : ExactJson D ℕ := ⟨fun h => by simpa [Host.Same, Host.canonical, toJson] using h⟩
instance : NonNullJson D ℕ := ⟨fun host s => by simp [Host.canonical, toJson]⟩

instance : ExactJson D PositiveSafe :=
  ⟨fun {host a b} h => Subtype.ext (ExactJson.eq_of_same (show host.Same a.val b.val from h))⟩
instance : NonNullJson D PositiveSafe := ⟨fun host s => by simp [Host.canonical, toJson]⟩

/-- A type whose values are written as ASCII strings : an enumeration, or a type of
strings of a fixed shape. -/
class AsciiText (α : Type) where
  text : α → String
  ascii : ∀ a, isAscii (text a) = true
  injective : Function.Injective text

theorem AsciiText.ascii_of_values {text : α → String} (values : List α)
    (mem : ∀ a, a ∈ values := by intro a; cases a <;> simp)
    (h : (values.all fun a => isAscii (text a)) = true := by decide) (a : α) :
    isAscii (text a) = true :=
  List.all_eq_true.mp h a (mem a)

theorem AsciiText.injective_of_values {text : α → String} (values : List α)
    (mem : ∀ a, a ∈ values := by intro a; cases a <;> simp)
    (h : (values.map text).Nodup := by decide) : Function.Injective text :=
  fun a b => List.inj_on_of_nodup_map h (mem a) (mem b)

instance : AsciiText ApplicationId := ⟨Subtype.val, ApplicationId.ascii, Subtype.val_injective⟩
instance : AsciiText Instant := ⟨Subtype.val, Instant.ascii, Subtype.val_injective⟩

section

variable [AsciiText α]

instance : ToJson D α := ⟨fun a => toJson (AsciiText.text a)⟩

instance : ExactJson D α :=
  ⟨fun {host a b} h => AsciiText.injective (Host.eq_of_same_text (AsciiText.ascii a)
    (AsciiText.ascii b) (show host.Same (AsciiText.text a) (AsciiText.text b) from h))⟩

instance : NonNullJson D α := ⟨fun host s => by simp [Host.canonical, toJson]⟩

theorem Host.canonicalize_asciiText_iff {E : Type} {host : Host D} {a b : α} :
    (toJson a : Json E).canonicalize host.nfc = (toJson b : Json E).canonicalize host.nfc ↔
      a = b := by
  refine ⟨fun h => AsciiText.injective ?_, fun h => h ▸ rfl⟩
  simpa [toJson, host.nfc_ascii _ (AsciiText.ascii a), host.nfc_ascii _ (AsciiText.ascii b)] using h

end

section

variable [ToJson D α]

instance : ToJson D (Option α) :=
  ⟨fun
    | none => .null
    | some a => toJson a⟩

instance : ToJson D (List α) := ⟨fun as => .arr (as.map toJson)⟩

@[simp] theorem Host.same_some_iff {host : Host D} {a b : α} :
    host.Same (some a) (some b) ↔ host.Same a b :=
  Iff.rfl

theorem Host.not_same_some_none [NonNullJson D α] {host : Host D} {a : α} :
    ¬ host.Same (some a) none := by
  intro h
  exact NonNullJson.canonical_ne_null host a (by simpa [Host.Same, Host.canonical, toJson] using h)

instance [NonNullJson D α] [ExactJson D α] : ExactJson D (Option α) :=
  ⟨fun {host a b} h => by
    cases a with
    | none =>
      cases b with
      | none => rfl
      | some b => exact absurd h.symm Host.not_same_some_none
    | some a =>
      cases b with
      | none => exact absurd h Host.not_same_some_none
      | some b => exact congrArg some (ExactJson.eq_of_same (show host.Same a b from h))⟩

theorem Host.same_list_iff {host : Host D} {as bs : List α} :
    host.Same as bs ↔ as.map host.canonical = bs.map host.canonical := by
  simp only [Host.Same, Host.canonical, toJson, Json.canonicalize_arr, Json.arr.injEq,
    List.map_map]
  rfl

instance : NonNullJson D (List α) := ⟨fun host s => by simp [Host.canonical, toJson]⟩

instance [ExactJson D α] : ExactJson D (List α) :=
  ⟨fun h => List.map_injective_iff.mpr (fun _ _ h => ExactJson.eq_of_same h)
    (Host.same_list_iff.mp h)⟩

end

/-- Keys a schema may give an object : distinct and ASCII. -/
def plainKeys (keys : List String) : Bool := decide keys.Nodup && keys.all isAscii

theorem plainKeys_members {E : Type} {host : Host D} {members : List (String × Json E)}
    (h : plainKeys (members.map Prod.fst) = true) : Json.PlainKeys host.nfc members := by
  simp only [plainKeys, Bool.and_eq_true, decide_eq_true_eq, List.all_eq_true] at h
  exact ⟨h.1, fun k hk => host.nfc_ascii k (h.2 k hk)⟩

theorem Host.canonicalize_record_iff {E : Type} {host : Host D} {xs ys : List (String × Json E)}
    (hkeys : plainKeys (xs.map Prod.fst) = true := by
      simp only [List.cons_append, List.nil_append, List.map_cons, List.map_nil]; decide)
    (hk : xs.map Prod.fst = ys.map Prod.fst := by rfl) :
    (Json.obj xs).canonicalize host.nfc = (Json.obj ys).canonicalize host.nfc ↔
      xs.map (fun m => m.2.canonicalize host.nfc) = ys.map (fun m => m.2.canonicalize host.nfc) :=
  Json.canonicalize_obj_inj (plainKeys_members hkeys) hk

theorem Host.lookup_canonicalize {host : Host D} {xs ys : List (String × Json D)}
    (h : (Json.obj xs).canonicalize host.nfc = (Json.obj ys).canonicalize host.nfc)
    (k : String)
    (hx : plainKeys (xs.map Prod.fst) = true := by
      simp only [List.cons_append, List.nil_append, List.map_cons, List.map_nil]; decide)
    (hy : plainKeys (ys.map Prod.fst) = true := by
      simp only [List.cons_append, List.nil_append, List.map_cons, List.map_nil]; decide) :
    (xs.lookup k).map (Json.canonicalize host.nfc) =
      (ys.lookup k).map (Json.canonicalize host.nfc) :=
  Json.lookup_of_canonicalize_eq (plainKeys_members hx) (plainKeys_members hy) h k

theorem canonicalize_obj_ne_null (nfc : String → String) (members : List (String × Json D)) :
    (Json.obj members).canonicalize nfc ≠ .null := by
  simp [Json.canonicalize_obj]

/-- Digests that are the values they were computed from. -/
inductive SymbolicDigest where
  | null
  | bool (b : Bool)
  | num (q : ℚ)
  | text (s : String)
  | digest (d : SymbolicDigest)
  | nil
  | item (head tail : SymbolicDigest)
  | member (key : String) (head tail : SymbolicDigest)
  | arr (items : SymbolicDigest)
  | obj (members : SymbolicDigest)
  deriving DecidableEq

namespace SymbolicDigest

mutual

def ofJson : Json SymbolicDigest → SymbolicDigest
  | .null => .null
  | .bool b => .bool b
  | .num q => .num q
  | .text s => .text s
  | .digest d => .digest d
  | .arr items => .arr (ofItems items)
  | .obj members => .obj (ofMembers members)

def ofItems : List (Json SymbolicDigest) → SymbolicDigest
  | [] => .nil
  | a :: as => .item (ofJson a) (ofItems as)

def ofMembers : List (String × Json SymbolicDigest) → SymbolicDigest
  | [] => .nil
  | (k, a) :: as => .member k (ofJson a) (ofMembers as)

end

mutual

theorem ofJson_inj : ∀ {a b : Json SymbolicDigest}, ofJson a = ofJson b → a = b
  | .arr a, b, h => by cases b <;> simp_all [ofJson]; exact ofItems_inj h
  | .obj a, b, h => by cases b <;> simp_all [ofJson]; exact ofMembers_inj h
  | .null, b, h => by cases b <;> simp_all [ofJson]
  | .bool a, b, h => by cases b <;> simp_all [ofJson]
  | .num a, b, h => by cases b <;> simp_all [ofJson]
  | .text a, b, h => by cases b <;> simp_all [ofJson]
  | .digest a, b, h => by cases b <;> simp_all [ofJson]

theorem ofItems_inj : ∀ {a b : List (Json SymbolicDigest)}, ofItems a = ofItems b → a = b
  | [], b, h => by cases b <;> simp_all [ofItems]
  | a :: as, [], h => by simp [ofItems] at h
  | a :: as, b :: bs, h => by
    simp only [ofItems, item.injEq] at h
    rw [ofJson_inj h.1, ofItems_inj h.2]

theorem ofMembers_inj :
    ∀ {a b : List (String × Json SymbolicDigest)}, ofMembers a = ofMembers b → a = b
  | [], b, h => by cases b <;> simp_all [ofMembers]
  | (k, a) :: as, [], h => by simp [ofMembers] at h
  | (k, a) :: as, (l, b) :: bs, h => by
    simp only [ofMembers, member.injEq] at h
    rw [h.1, ofJson_inj h.2.1, ofMembers_inj h.2.2]

end

/-- The host with the perfect hash, where every string is in normal form. -/
def host : Host SymbolicDigest where
  nfc s := s
  nfc_idem _ := rfl
  nfc_ascii _ _ := rfl
  sha256 := ofJson

theorem host_collisionFree : host.CollisionFree := fun _ _ h => ofJson_inj h

end SymbolicDigest

end JooEvents
