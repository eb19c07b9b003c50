import Mathlib.Data.List.Perm.Basic
import JooEvents.Kernel.CanonicalJson
import JooEvents.Lib.Keyed

/-!
# What canonical JSON identifies

Two values are reshapings of one another when they differ in the order of the properties
of some objects inside them, and in the choice of canonically equivalent strings and keys.
`canonical_json_identifies_values` says that canonical JSON identifies exactly these : it
accepts or refuses them together and gives them one text, it gives other values other
texts, and it is read back and encoded again without change.

The order in which an object lists its canonical members is not the order of their keys :
array indices come first. It depends on the members alone (`canonicalMembers_eq_of_perm`),
which is what the proofs use.
-/

namespace JooEvents

open Fallible
open JsonValue (Proper ProperItems ProperMembers)

theorem utf16Le_antisymm {s t : String} (hst : Json.utf16Le s t = true)
    (hts : Json.utf16Le t s = true) : s = t :=
  String.toList_inj.mp (flatMap_utf16Units_inj
    (le_antisymm (of_decide_eq_true hst) (of_decide_eq_true hts)))

theorem pairwise_sortEntries (es : List (String × JsonValue)) :
    (sortEntries es).Pairwise fun a b => Json.utf16Le a.1 b.1 = true := by
  let le : String × JsonValue → String × JsonValue → Prop :=
    fun a b => Json.utf16Le a.1 b.1 = true
  have : Std.Total le :=
    ⟨fun a b => (le_total (a.1.toList.flatMap Json.utf16Units)
      (b.1.toList.flatMap Json.utf16Units)).imp decide_eq_true decide_eq_true⟩
  have : IsTrans (String × JsonValue) le :=
    ⟨fun _ _ _ hab hbc => decide_eq_true
      (le_trans (of_decide_eq_true hab) (of_decide_eq_true hbc))⟩
  exact List.pairwise_insertionSort le es

theorem perm_sortEntries (es : List (String × JsonValue)) : (sortEntries es).Perm es :=
  List.perm_insertionSort _ _

theorem sortEntries_eq_of_perm {es fs : List (String × JsonValue)}
    (hnd : (es.map Prod.fst).Nodup) (h : es.Perm fs) : sortEntries es = sortEntries fs := by
  refine List.Perm.eq_of_pairwise ?_ (pairwise_sortEntries es) (pairwise_sortEntries fs)
    ((perm_sortEntries es).trans (h.trans (perm_sortEntries fs).symm))
  intro a b ha hb hab hba
  exact Keyed.eq_of_key_eq hnd ((perm_sortEntries es).mem_iff.mp ha)
    (h.mem_iff.mpr ((perm_sortEntries fs).mem_iff.mp hb)) (utf16Le_antisymm hab hba)

theorem canonicalMembers_eq_of_perm {es fs : List (String × JsonValue)}
    (hnd : (es.map Prod.fst).Nodup) (h : es.Perm fs) :
    canonicalMembers es = canonicalMembers fs := by
  rw [canonicalMembers, canonicalMembers, sortEntries_eq_of_perm hnd h]

theorem nodup_sortEntries {es : List (String × JsonValue)} (hnd : (es.map Prod.fst).Nodup) :
    ((sortEntries es).map Prod.fst).Nodup :=
  ((perm_sortEntries es).map Prod.fst).nodup_iff.mpr hnd

theorem perm_canonicalMembers {es : List (String × JsonValue)} (hnd : (es.map Prod.fst).Nodup) :
    (canonicalMembers es).Perm es := by
  rw [canonicalMembers, JsonValue.fromEntries_eq (nodup_sortEntries hnd)]
  exact (JsonValue.perm_ownKeyOrder _).trans (perm_sortEntries es)

theorem nodup_canonicalMembers {es : List (String × JsonValue)} (hnd : (es.map Prod.fst).Nodup) :
    ((canonicalMembers es).map Prod.fst).Nodup :=
  ((perm_canonicalMembers hnd).map Prod.fst).nodup_iff.mpr hnd

theorem ownKeyOrder_canonicalMembers {es : List (String × JsonValue)}
    (hnd : (es.map Prod.fst).Nodup) :
    JsonValue.ownKeyOrder (canonicalMembers es) = canonicalMembers es := by
  rw [canonicalMembers, JsonValue.fromEntries_eq (nodup_sortEntries hnd),
    JsonValue.ownKeyOrder_ownKeyOrder]

/-- The values that differ from a value in the order of properties and in the choice of
canonically equivalent strings and keys. -/
inductive Reshaped (nfc : String → String) : JsValue → JsValue → Prop
  | refl (v : JsValue) : Reshaped nfc v v
  | trans {u v w : JsValue} (huv : Reshaped nfc u v) (hvw : Reshaped nfc v w) : Reshaped nfc u w
  | string {units units' : List ℕ} {s t : String} (hs : scalarString units = some s)
      (ht : scalarString units' = some t) (hst : nfc s = nfc t) :
      Reshaped nfc (.string units) (.string units')
  | permute {plain symbolKeyed : Bool} {ps qs : List (List ℕ × Option JsValue)}
      (h : ps.Perm qs) :
      Reshaped nfc (.object plain symbolKeyed ps) (.object plain symbolKeyed qs)
  | key {plain symbolKeyed : Bool} {key key' : List ℕ} {s t : String}
      (hs : scalarString key = some s) (ht : scalarString key' = some t) (hst : nfc s = nfc t)
      (value : Option JsValue) (before after : List (List ℕ × Option JsValue)) :
      Reshaped nfc (.object plain symbolKeyed (before ++ (key, value) :: after))
        (.object plain symbolKeyed (before ++ (key', value) :: after))
  | item {v w : JsValue} (h : Reshaped nfc v w) (before after : List (Option JsValue)) :
      Reshaped nfc (.array (before ++ some v :: after)) (.array (before ++ some w :: after))
  | property {plain symbolKeyed : Bool} {v w : JsValue} (h : Reshaped nfc v w) (key : List ℕ)
      (before after : List (List ℕ × Option JsValue)) :
      Reshaped nfc (.object plain symbolKeyed (before ++ (key, some v) :: after))
        (.object plain symbolKeyed (before ++ (key, some w) :: after))

variable {nfc : String → String}

theorem Reshaped.symm {v w : JsValue} (h : Reshaped nfc v w) : Reshaped nfc w v := by
  induction h with
  | refl v => exact .refl v
  | trans _ _ huv hvw => exact .trans hvw huv
  | string hs ht hst => exact .string ht hs hst.symm
  | permute h => exact .permute h.symm
  | key hs ht hst value before after => exact .key ht hs hst.symm value before after
  | item _ before after ih => exact .item ih before after
  | property _ key before after ih => exact .property ih key before after

/-! ## Reshapings have one canonical form -/

def ItemForm (nfc : String → String) (x : Option JsValue) (c : JsonValue) : Prop :=
  ∃ v, x = some v ∧ Canonical nfc v c

def EntryForm (nfc : String → String) (p : List ℕ × Option JsValue) (e : String × JsonValue) :
    Prop :=
  ∃ s v, scalarString p.1 = some s ∧ p.2 = some v ∧ e.1 = nfc s ∧ Canonical nfc v e.2

theorem canonicalItems_iff : ∀ {items : List (Option JsValue)} {cs : List JsonValue},
    CanonicalItems nfc items cs ↔ List.Forall₂ (ItemForm nfc) items cs
  | [], cs => by
    refine ⟨fun h => ?_, fun h => ?_⟩ <;> cases h <;> constructor
  | x :: items, cs => by
    refine ⟨fun h => ?_, fun h => ?_⟩
    · cases h with
      | cons hv hitems => exact .cons ⟨_, rfl, hv⟩ (canonicalItems_iff.mp hitems)
    · cases h with
      | cons hx hitems =>
        obtain ⟨v, rfl, hv⟩ := hx
        exact .cons hv (canonicalItems_iff.mpr hitems)

theorem canonicalEntries_iff : ∀ {ps : List (List ℕ × Option JsValue)}
    {es : List (String × JsonValue)},
    CanonicalEntries nfc ps es ↔ List.Forall₂ (EntryForm nfc) ps es
  | [], es => by
    refine ⟨fun h => ?_, fun h => ?_⟩ <;> cases h <;> constructor
  | p :: ps, es => by
    refine ⟨fun h => ?_, fun h => ?_⟩
    · cases h with
      | cons hkey hv hentries =>
        exact .cons ⟨_, _, hkey, rfl, rfl, hv⟩ (canonicalEntries_iff.mp hentries)
    · cases h with
      | @cons _ e _ es hp hentries =>
        obtain ⟨key, value⟩ := p
        obtain ⟨name, c⟩ := e
        obtain ⟨s, v, hkey, hvalue, hname, hv⟩ := hp
        dsimp only at hkey hvalue hname hv
        subst hvalue hname
        exact .cons hkey hv (canonicalEntries_iff.mpr hentries)

theorem forall₂_replace {α β : Type*} {R : α → β → Prop} {x y : α} (hxy : ∀ c, R x c → R y c)
    {after : List α} : ∀ {before : List α} {cs : List β},
      List.Forall₂ R (before ++ x :: after) cs → List.Forall₂ R (before ++ y :: after) cs := by
  intro before
  induction before with
  | nil =>
    intro cs h
    cases h with
    | cons hx hrest => exact .cons (hxy _ hx) hrest
  | cons z before ih =>
    intro cs h
    cases h with
    | cons hz hrest => exact .cons hz (ih hrest)

theorem Canonical.reshaped {v w : JsValue} (h : Reshaped nfc v w) :
    ∀ {c : JsonValue}, Canonical nfc v c → Canonical nfc w c := by
  induction h with
  | refl v => exact id
  | trans _ _ ihuv ihvw => exact fun hc => ihvw (ihuv hc)
  | @string units units' s t hs ht hst =>
    intro c hc
    cases hc with
    | string hs' =>
      obtain rfl := Option.some.inj (hs.symm.trans hs')
      rw [hst]
      exact .string ht
  | @permute plain symbolKeyed ps qs hperm =>
    intro c hc
    cases hc with
    | @object _ es hentries hnd =>
      obtain ⟨fs, hfs, hfses⟩ := List.perm_comp_forall₂ hperm.symm (canonicalEntries_iff.mp hentries)
      rw [canonicalMembers_eq_of_perm hnd hfses.symm]
      exact .object (canonicalEntries_iff.mpr hfs) ((hfses.map Prod.fst).nodup_iff.mpr hnd)
  | @key plain symbolKeyed key key' s t hs ht hst value before after =>
    intro c hc
    cases hc with
    | object hentries hnd =>
      refine .object (canonicalEntries_iff.mpr (forall₂_replace ?_
        (canonicalEntries_iff.mp hentries))) hnd
      rintro e ⟨s', v, hs', hv, hname, hform⟩
      obtain rfl := Option.some.inj (hs.symm.trans hs')
      exact ⟨t, v, ht, hv, hname.trans hst, hform⟩
  | item _ before after ih =>
    intro c hc
    cases hc with
    | array hitems =>
      refine .array (canonicalItems_iff.mpr (forall₂_replace ?_ (canonicalItems_iff.mp hitems)))
      rintro c ⟨v, hv, hform⟩
      obtain rfl := Option.some.inj hv
      exact ⟨_, rfl, ih hform⟩
  | property _ key before after ih =>
    intro c hc
    cases hc with
    | object hentries hnd =>
      refine .object (canonicalEntries_iff.mpr (forall₂_replace ?_
        (canonicalEntries_iff.mp hentries))) hnd
      rintro e ⟨s, v, hs, hv, hname, hform⟩
      obtain rfl := Option.some.inj hv
      exact ⟨s, _, hs, rfl, hname, ih hform⟩

theorem toOption_canonicalJsonValue {v w : JsValue} (h : Reshaped nfc v w) :
    (canonicalJsonValue nfc v).toOption = (canonicalJsonValue nfc w).toOption := by
  cases hv : canonicalJsonValue nfc v with
  | ok c =>
    have hw := (canonicalJsonValue_eq_ok_iff.mp hv).reshaped h
    rw [canonicalJsonValue_eq_ok_iff.mpr hw]
  | error e =>
    cases hw : canonicalJsonValue nfc w with
    | error e' => rfl
    | ok c =>
      have hv' := (canonicalJsonValue_eq_ok_iff.mp hw).reshaped h.symm
      rw [canonicalJsonValue_eq_ok_iff.mpr hv'] at hv
      cases hv

mutual

theorem Canonical.proper : ∀ {v : JsValue} {c : JsonValue}, Canonical nfc v c → Proper c
  | _, _, .null => trivial
  | _, _, .boolean _ => trivial
  | _, _, .number _ => trivial
  | _, _, .string _ => trivial
  | _, _, .array hitems => by
    rw [Proper]
    exact hitems.proper
  | _, _, .object hentries hnd => by
    rw [Proper]
    refine ⟨nodup_canonicalMembers hnd, ownKeyOrder_canonicalMembers hnd, ?_⟩
    refine JsonValue.properMembers_iff.mpr fun m hm => ?_
    exact hentries.proper m ((perm_canonicalMembers hnd).mem_iff.mp hm)

theorem CanonicalItems.proper : ∀ {items : List (Option JsValue)} {cs : List JsonValue},
    CanonicalItems nfc items cs → ProperItems cs
  | _, _, .nil => trivial
  | _, _, .cons hv hitems => by
    rw [ProperItems]
    exact ⟨hv.proper, hitems.proper⟩

theorem CanonicalEntries.proper : ∀ {ps : List (List ℕ × Option JsValue)}
    {es : List (String × JsonValue)}, CanonicalEntries nfc ps es → ∀ e ∈ es, Proper e.2
  | _, _, .nil, _, he => nomatch he
  | _, _, .cons _ hv hentries, e, he => by
    rcases List.mem_cons.mp he with rfl | he
    · exact hv.proper
    · exact hentries.proper e he

end

/-! ## The canonical form as a value -/

mutual

def toJsValue : JsonValue → JsValue
  | .null => .null
  | .bool b => .boolean b
  | .num d => .number (.finite d)
  | .str s => .string (codeUnits s)
  | .arr items => .array (toItems items)
  | .obj members => .object true false (toProperties members)

def toItems : List JsonValue → List (Option JsValue)
  | [] => []
  | a :: as => some (toJsValue a) :: toItems as

def toProperties : List (String × JsonValue) → List (List ℕ × Option JsValue)
  | [] => []
  | (k, a) :: as => (codeUnits k, some (toJsValue a)) :: toProperties as

end

theorem toProperties_eq_map : ∀ members : List (String × JsonValue),
    toProperties members = members.map fun m => (codeUnits m.1, some (toJsValue m.2))
  | [] => rfl
  | (k, a) :: as => by rw [toProperties, toProperties_eq_map as, List.map_cons]

mutual

theorem Canonical.idempotent (hnfc : ∀ s, nfc (nfc s) = nfc s) :
    ∀ {v : JsValue} {c : JsonValue}, Canonical nfc v c →
    Canonical nfc (toJsValue c) c
  | _, _, .null => .null
  | _, _, .boolean b => .boolean b
  | _, _, .number d => .number d
  | _, _, @Canonical.string _ _ s _ => by
    have hform : Canonical nfc _ _ := Canonical.string (scalarString_codeUnits (nfc s))
    rwa [hnfc] at hform
  | _, _, .array hitems => .array (hitems.idempotent hnfc)
  | _, _, @Canonical.object _ _ es hentries hnd => by
    have hforms := hentries.idempotent hnfc
    have hperm := perm_canonicalMembers hnd
    have hentries' : CanonicalEntries nfc (toProperties (canonicalMembers es))
        (canonicalMembers es) := by
      rw [canonicalEntries_iff, toProperties_eq_map, List.forall₂_map_left_iff]
      refine List.forall₂_same.mpr fun m hm => ?_
      obtain ⟨hname, hform⟩ := hforms m (hperm.mem_iff.mp hm)
      exact ⟨m.1, _, scalarString_codeUnits m.1, rfl, hname.symm, hform⟩
    have hobject := Canonical.object hentries' (nodup_canonicalMembers hnd)
    rwa [canonicalMembers_eq_of_perm (nodup_canonicalMembers hnd) hperm] at hobject

theorem CanonicalItems.idempotent (hnfc : ∀ s, nfc (nfc s) = nfc s) :
    ∀ {items : List (Option JsValue)} {cs : List JsonValue},
    CanonicalItems nfc items cs → CanonicalItems nfc (toItems cs) cs
  | _, _, .nil => .nil
  | _, _, .cons hv hitems => .cons (hv.idempotent hnfc) (hitems.idempotent hnfc)

theorem CanonicalEntries.idempotent (hnfc : ∀ s, nfc (nfc s) = nfc s) :
    ∀ {ps : List (List ℕ × Option JsValue)}
    {es : List (String × JsonValue)}, CanonicalEntries nfc ps es →
      ∀ e ∈ es, nfc e.1 = e.1 ∧ Canonical nfc (toJsValue e.2) e.2
  | _, _, .nil, _, he => nomatch he
  | _, _, .cons _ hv hentries, e, he => by
    rcases List.mem_cons.mp he with rfl | he
    · exact ⟨hnfc _, hv.idempotent hnfc⟩
    · exact hentries.idempotent hnfc e he

end

mutual

theorem Canonical.reshaped_toJsValue (hnfc : ∀ s, nfc (nfc s) = nfc s) :
    ∀ {v : JsValue} {c : JsonValue}, Canonical nfc v c →
    Reshaped nfc v (toJsValue c)
  | _, _, .null => .refl _
  | _, _, .boolean b => .refl _
  | _, _, .number d => .refl _
  | _, _, .string hs => .string hs (scalarString_codeUnits _) (hnfc _).symm
  | _, _, .array hitems => hitems.reshaped_toItems hnfc []
  | _, _, .object hentries hnd => by
    refine (hentries.reshaped_toProperties hnfc []).trans (.permute ?_)
    rw [List.nil_append, toProperties_eq_map, toProperties_eq_map]
    exact (perm_canonicalMembers hnd).symm.map _

theorem CanonicalItems.reshaped_toItems (hnfc : ∀ s, nfc (nfc s) = nfc s) :
    ∀ {items : List (Option JsValue)}
    {cs : List JsonValue}, CanonicalItems nfc items cs → ∀ before,
      Reshaped nfc (.array (before ++ items)) (.array (before ++ toItems cs))
  | _, _, .nil, _ => .refl _
  | _, _, @CanonicalItems.cons _ _ c _ _ hv hitems, before => by
    have hrest := hitems.reshaped_toItems hnfc (before ++ [some (toJsValue c)])
    rw [List.append_assoc, List.append_assoc] at hrest
    exact (Reshaped.item (hv.reshaped_toJsValue hnfc) before _).trans hrest

theorem CanonicalEntries.reshaped_toProperties (hnfc : ∀ s, nfc (nfc s) = nfc s) :
    ∀ {ps : List (List ℕ × Option JsValue)}
    {es : List (String × JsonValue)}, CanonicalEntries nfc ps es → ∀ before,
      Reshaped nfc (.object true false (before ++ ps))
        (.object true false (before ++ toProperties es))
  | _, _, .nil, _ => .refl _
  | _, _, @CanonicalEntries.cons _ _ s _ c _ _ hkey hv hentries, before => by
    have hrest := hentries.reshaped_toProperties hnfc
      (before ++ [(codeUnits (nfc s), some (toJsValue c))])
    rw [List.append_assoc, List.append_assoc] at hrest
    exact (Reshaped.key hkey (scalarString_codeUnits _) (hnfc _).symm _ before _).trans
      ((Reshaped.property (hv.reshaped_toJsValue hnfc) _ before _).trans hrest)

end

/-! ## What canonical JSON identifies -/

theorem canonicalJsonText_of_canonical {v : JsValue} {c : JsonValue} (h : Canonical nfc v c) :
    canonicalJsonText nfc v = .ok (String.ofList c.stringify) := by
  rw [canonicalJsonText, canonicalJsonValue_eq_ok_iff.mpr h]
  rfl

theorem encodeCanonicalJson_of_canonical {v : JsValue} {c : JsonValue} (h : Canonical nfc v c) :
    encodeCanonicalJson nfc v = .ok (String.ofList c.stringify).toUTF8 := by
  rw [encodeCanonicalJson, canonicalJsonText_of_canonical h]
  rfl

theorem eq_of_utf8_eq {c d : JsonValue} (hc : Proper c) (hd : Proper d)
    (h : (String.ofList c.stringify).toUTF8 = (String.ofList d.stringify).toUTF8) : c = d :=
  JsonValue.stringify_injOn_proper hc hd (String.ofList_injective (String.toByteArray_inj.mp h))

theorem Canonical.eq_iff_reshaped (hnfc : ∀ s, nfc (nfc s) = nfc s) {v w : JsValue}
    {c d : JsonValue} (hv : Canonical nfc v c) (hw : Canonical nfc w d) :
    c = d ↔ Reshaped nfc v w := by
  constructor
  · rintro rfl
    exact (hv.reshaped_toJsValue hnfc).trans (hw.reshaped_toJsValue hnfc).symm
  · intro h
    have hok := canonicalJsonValue_eq_ok_iff.mpr (hv.reshaped h)
    rw [canonicalJsonValue_eq_ok_iff.mpr hw] at hok
    exact (Except.ok.inj hok).symm

/-- Canonical JSON accepts or refuses reshapings of a value together and gives them one text;
a canonical form is its own canonical form, is read back from its text and encoded again to
the same bytes, and holds all of the value; and two values that are accepted have one encoding
exactly when they have one canonical form, which is when they are reshapings of one another. -/
theorem canonical_json_identifies_values (hnfc : ∀ s, nfc (nfc s) = nfc s) :
    (∀ v w, Reshaped nfc v w →
      (canonicalJsonText nfc v).toOption = (canonicalJsonText nfc w).toOption) ∧
    (∀ v c, canonicalJsonValue nfc v = .ok c →
      canonicalJsonValue nfc (toJsValue c) = .ok c ∧
      (∃ text, canonicalJsonText nfc v = .ok text ∧ JsonValue.parse text = some c) ∧
      encodeCanonicalJson nfc (toJsValue c) = encodeCanonicalJson nfc v ∧
      Reshaped nfc v (toJsValue c)) ∧
    ∀ v w c d, canonicalJsonValue nfc v = .ok c → canonicalJsonValue nfc w = .ok d →
      (encodeCanonicalJson nfc v = encodeCanonicalJson nfc w ↔ c = d) ∧
      (c = d ↔ Reshaped nfc v w) := by
  refine ⟨fun v w h => ?_, fun v c hv => ?_, fun v w c d hv hw => ?_⟩
  · have hvalue := toOption_canonicalJsonValue h
    unfold canonicalJsonText
    cases hv : canonicalJsonValue nfc v <;> cases hw : canonicalJsonValue nfc w <;>
      rw [hv, hw] at hvalue
    · rfl
    · cases hvalue
    · cases hvalue
    · obtain rfl := Option.some.inj hvalue
      rfl
  · have hform := canonicalJsonValue_eq_ok_iff.mp hv
    have hself := hform.idempotent hnfc
    refine ⟨canonicalJsonValue_eq_ok_iff.mpr hself,
      ⟨_, canonicalJsonText_of_canonical hform, JsonValue.parse_stringify hform.proper⟩, ?_,
      hform.reshaped_toJsValue hnfc⟩
    rw [encodeCanonicalJson_of_canonical hself, encodeCanonicalJson_of_canonical hform]
  · have hv := canonicalJsonValue_eq_ok_iff.mp hv
    have hw := canonicalJsonValue_eq_ok_iff.mp hw
    refine ⟨?_, hv.eq_iff_reshaped hnfc hw⟩
    rw [encodeCanonicalJson_of_canonical hv, encodeCanonicalJson_of_canonical hw]
    exact ⟨fun h => eq_of_utf8_eq hv.proper hw.proper (Except.ok.inj h), fun h => by rw [h]⟩

def ReshapedExample.decomposed : String := String.ofList ['e', Char.ofNat 0x301]

def ReshapedExample.composed : String := String.singleton (Char.ofNat 0xE9)

def ReshapedExample.compose (s : String) : String :=
  if s = decomposed then composed else s

theorem ReshapedExample.compose_idem (s : String) : compose (compose s) = compose s := by
  unfold compose
  by_cases h : s = decomposed
  · rw [if_pos h, if_neg (by decide)]
  · rw [if_neg h, if_neg h]

/-- An object with a member under the name of the prototype, and one under an index. -/
def ReshapedExample.named (name : String) : JsValue :=
  .object true false
    [(codeUnits "__proto__", some (.string (codeUnits name))), (codeUnits "7", some .null)]

def ReshapedExample.reordered (name : String) : JsValue :=
  .object true false
    [(codeUnits "7", some .null), (codeUnits "__proto__", some (.string (codeUnits name)))]

def ReshapedExample.text : String := "\x7b\"7\":null,\"__proto__\":\"" ++ composed ++ "\"\x7d"

theorem ReshapedExample.text_eq :
    (canonicalJsonText compose (named decomposed)).toOption = some text := by decide +kernel

open ReshapedExample in
/-- The two members in both orders, with a name spelled in two ways, are accepted with one text, which
is read back and encoded to the same bytes. -/
theorem canonical_json_identifies_proto :
    (canonicalJsonText compose (named decomposed)).toOption = some text ∧
    (canonicalJsonText compose (reordered composed)).toOption = some text ∧
    ∃ c, canonicalJsonValue compose (named decomposed) = .ok c ∧
      canonicalJsonValue compose (toJsValue c) = .ok c ∧ JsonValue.parse text = some c ∧
      encodeCanonicalJson compose (toJsValue c) = .ok text.toUTF8 := by
  obtain ⟨hreshaped, hself, -⟩ := canonical_json_identifies_values compose_idem
  have hsame : Reshaped compose (named decomposed) (reordered composed) :=
    (Reshaped.property (.string (scalarString_codeUnits _) (scalarString_codeUnits _) (by decide))
      (codeUnits "__proto__") [] _).trans (.permute (.swap _ _ []))
  have htext := toOption_eq_some.mp text_eq
  have haccepted := htext
  rw [canonicalJsonText, map_eq_ok] at haccepted
  obtain ⟨c, hvalue, -⟩ := haccepted
  obtain ⟨hidempotent, ⟨read, hread, hparse⟩, hagain, -⟩ := hself _ c hvalue
  obtain rfl := Except.ok.inj (hread.symm.trans htext)
  refine ⟨text_eq, (hreshaped _ _ hsame).symm.trans text_eq, c, hvalue, hidempotent, hparse, ?_⟩
  rw [hagain, encodeCanonicalJson, hread]
  rfl

end JooEvents
