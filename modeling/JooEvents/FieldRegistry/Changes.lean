import JooEvents.FieldRegistry.Planning
import Mathlib.Data.List.Perm.Basic
import Mathlib.Data.List.Flatten
import Mathlib.Data.List.Perm.Lattice

/-!
# What a change does to a registry

Whatever its action, an applied plan takes the planned field out of the registry and puts it back :
as an active field at its position, or at the end of the removed ones (`FieldRegistryState.put`,
`fields_of_planned`). Putting a field again forgets where it was put before
(`FieldRegistryState.put_put`), and putting a field where it stands changes nothing
(`FieldRegistryState.put_active_self`).
-/

namespace JooEvents

open Fallible

variable {D : Type} {host : FieldRegistryHost D} {state : FieldRegistryState}
  {references : FieldRegistryFormReferenceResolver}

namespace FieldRegistryFieldDefinition

def unplaced (field : FieldRegistryFieldDefinition) : FieldRegistryFieldDefinition :=
  { field with position := 0 }

@[simp] theorem unplaced_placed (field : FieldRegistryFieldDefinition) (position : ℕ) :
    unplaced { field with position } = field.unplaced := rfl

@[simp] theorem id_unplaced (field : FieldRegistryFieldDefinition) :
    field.unplaced.id = field.id := rfl

theorem eq_of_unplaced {a b : FieldRegistryFieldDefinition} (h : a.unplaced = b.unplaced)
    (hposition : a.position = b.position) : a = b := by
  cases a
  cases b
  simp only [unplaced, mk.injEq] at h hposition ⊢
  tauto

end FieldRegistryFieldDefinition

@[simp] theorem length_renumber (fields : List FieldRegistryFieldDefinition) :
    (renumber fields).length = fields.length := by simp [renumber]

theorem positions_renumber (fields : List FieldRegistryFieldDefinition) :
    (renumber fields).map (·.position) = List.range fields.length := by
  exact List.ext_getElem (by simp) fun i _ _ => by simp [renumber]

theorem map_renumber {α : Type} {g : FieldRegistryFieldDefinition → α}
    (hg : ∀ field position, g { field with position } = g field)
    (fields : List FieldRegistryFieldDefinition) : (renumber fields).map g = fields.map g := by
  exact List.ext_getElem (by simp) fun i _ _ => by simp [renumber, hg]

theorem eq_of_map_unplaced {as bs : List FieldRegistryFieldDefinition}
    (h : as.map (·.unplaced) = bs.map (·.unplaced))
    (hpositions : as.map (·.position) = bs.map (·.position)) : as = bs := by
  have hlength : as.length = bs.length := by simpa using congrArg List.length h
  refine List.ext_getElem hlength fun i hi hi' => ?_
  refine FieldRegistryFieldDefinition.eq_of_unplaced ?_ ?_
  · have := List.getElem_of_eq h (by simpa using hi)
    simpa using this
  · have := List.getElem_of_eq hpositions (by simpa using hi)
    simpa using this

theorem renumber_eq_iff {as bs : List FieldRegistryFieldDefinition} :
    renumber as = renumber bs ↔ as.map (·.unplaced) = bs.map (·.unplaced) := by
  constructor
  · intro h
    have := congrArg (List.map (·.unplaced)) h
    rwa [map_renumber (fun _ _ => rfl), map_renumber (fun _ _ => rfl)] at this
  · intro h
    have hlength : as.length = bs.length := by simpa using congrArg List.length h
    refine eq_of_map_unplaced ?_ ?_
    · rwa [map_renumber (fun _ _ => rfl), map_renumber (fun _ _ => rfl)]
    · rw [positions_renumber, positions_renumber, hlength]

theorem renumber_eq_self {fields : List FieldRegistryFieldDefinition}
    (h : fields.map (·.position) = List.range fields.length) : renumber fields = fields :=
  eq_of_map_unplaced (map_renumber (fun _ _ => rfl) fields) (by rw [positions_renumber, h])

theorem mem_renumber {fields : List FieldRegistryFieldDefinition}
    {field : FieldRegistryFieldDefinition} (h : field ∈ renumber fields) :
    ∃ f ∈ fields, ∃ position < fields.length, field = { f with position } := by
  obtain ⟨i, hi, rfl⟩ := List.mem_mapIdx.mp h
  exact ⟨fields[i], List.getElem_mem hi, i, hi, rfl⟩

theorem map_spliceIn (g : FieldRegistryFieldDefinition → FieldRegistryFieldDefinition)
    (fields : List FieldRegistryFieldDefinition) (i : ℕ) (field : FieldRegistryFieldDefinition) :
    (spliceIn fields i field).map g = spliceIn (fields.map g) i (g field) := by
  rw [spliceIn, List.map_append, List.map_cons, List.map_take, List.map_drop, spliceIn]

theorem perm_spliceIn (fields : List FieldRegistryFieldDefinition) (i : ℕ)
    (field : FieldRegistryFieldDefinition) : (spliceIn fields i field).Perm (field :: fields) := by
  have h : (spliceIn fields i field).Perm (field :: (fields.take i ++ fields.drop i)) :=
    List.perm_middle
  rwa [List.take_append_drop] at h

theorem length_spliceIn (fields : List FieldRegistryFieldDefinition) (i : ℕ)
    (field : FieldRegistryFieldDefinition) :
    (spliceIn fields i field).length = fields.length + 1 :=
  (perm_spliceIn fields i field).length_eq

theorem filter_spliceIn {p : FieldRegistryFieldDefinition → Bool}
    (fields : List FieldRegistryFieldDefinition) (i : ℕ) {field : FieldRegistryFieldDefinition}
    (h : p field = false) : (spliceIn fields i field).filter p = fields.filter p := by
  rw [spliceIn, List.filter_append, List.filter_cons_of_neg (by simp [h]), ← List.filter_append,
    List.take_append_drop]

theorem spliceIn_append (before after : List FieldRegistryFieldDefinition)
    (field : FieldRegistryFieldDefinition) :
    spliceIn (before ++ after) before.length field = before ++ field :: after := by
  rw [spliceIn, List.take_left, List.drop_left]

/-! ## Putting a field -/

/-- What becomes of the field of a change : it is active, or it is removed. -/
inductive FieldRegistryOutcome where
  | active (field : FieldRegistryFieldDefinition)
  | removed (removed : FieldRegistryRemovedField)

def FieldRegistryOutcome.field : FieldRegistryOutcome → FieldRegistryFieldDefinition
  | .active field => field
  | .removed entry => entry.field

namespace FieldRegistryState

def others (state : FieldRegistryState) (fieldId : ApplicationId) :
    List FieldRegistryFieldDefinition :=
  state.fields.filter fun field => field.id ≠ fieldId

def otherRemoved (state : FieldRegistryState) (fieldId : ApplicationId) :
    List FieldRegistryRemovedField :=
  state.removed.filter fun removed => removed.field.id ≠ fieldId

/-- Take a field out of a registry, and put what became of it. -/
def put (state : FieldRegistryState) : FieldRegistryOutcome → FieldRegistryState
  | .active field =>
    { state with
      fields := renumber (spliceIn (state.others field.id) field.position field)
      removed := state.otherRemoved field.id }
  | .removed removed =>
    { state with
      fields := renumber (state.others removed.field.id)
      removed := state.otherRemoved removed.field.id ++ [removed] }

theorem others_put (state : FieldRegistryState) (outcome : FieldRegistryOutcome) :
    ((state.put outcome).others outcome.field.id).map (·.unplaced) =
      (state.others outcome.field.id).map (·.unplaced) := by
  have hrenumber : ∀ fields : List FieldRegistryFieldDefinition,
      ((renumber fields).filter fun field => field.id ≠ outcome.field.id).map (·.unplaced) =
        (fields.filter fun field => field.id ≠ outcome.field.id).map (·.unplaced) := by
    intro fields
    have hfilter : ∀ as : List FieldRegistryFieldDefinition,
        (as.filter fun field => field.id ≠ outcome.field.id).map (·.unplaced) =
          (as.map (·.unplaced)).filter fun field => field.id ≠ outcome.field.id := fun as => by
      rw [List.filter_map]
      rfl
    rw [hfilter, hfilter, map_renumber (fun _ _ => rfl)]
  cases outcome with
  | active field =>
    rw [others, put]
    refine (hrenumber _).trans ?_
    rw [filter_spliceIn _ _ (by simp [FieldRegistryOutcome.field]), FieldRegistryOutcome.field,
      others, List.filter_filter]
    simp
  | removed removed =>
    rw [others, put]
    refine (hrenumber _).trans ?_
    rw [FieldRegistryOutcome.field, others, List.filter_filter]
    simp

theorem otherRemoved_put (state : FieldRegistryState) (outcome : FieldRegistryOutcome) :
    (state.put outcome).otherRemoved outcome.field.id = state.otherRemoved outcome.field.id := by
  have htwice : (state.otherRemoved outcome.field.id).filter
      (fun removed => removed.field.id ≠ outcome.field.id) =
        state.otherRemoved outcome.field.id :=
    List.filter_eq_self.mpr fun _ hmem => (List.mem_filter.mp hmem).2
  cases outcome with
  | active field => exact htwice
  | removed removed =>
    refine (List.filter_append _ _).trans ?_
    rw [List.filter_cons_of_neg (by simp [FieldRegistryOutcome.field]), List.filter_nil,
      List.append_nil]
    exact htwice

theorem put_put (state : FieldRegistryState) {outcome next : FieldRegistryOutcome}
    (h : outcome.field.id = next.field.id) : (state.put outcome).put next = state.put next := by
  have hothers := others_put state outcome
  have hremoved := otherRemoved_put state outcome
  rw [h] at hothers hremoved
  have hscope : (state.put outcome).scope = state.scope := by cases outcome <;> rfl
  have hversion : (state.put outcome).version = state.version := by cases outcome <;> rfl
  cases next with
  | active field =>
    rw [put, put, hscope, hversion, FieldRegistryState.mk.injEq]
    refine ⟨rfl, rfl, renumber_eq_iff.mpr ?_, hremoved⟩
    rw [map_spliceIn, map_spliceIn]
    exact congrArg (spliceIn · field.position field.unplaced) hothers
  | removed removed =>
    rw [put, put, hscope, hversion, FieldRegistryState.mk.injEq]
    exact ⟨rfl, rfl, renumber_eq_iff.mpr hothers, congrArg (· ++ [removed]) hremoved⟩

theorem WellFormed.split (h : state.WellFormed host) {field : FieldRegistryFieldDefinition}
    (hfield : field ∈ state.fields) :
    ∃ before after, state.fields = before ++ field :: after ∧ before.length = field.position ∧
      state.others field.id = before ++ after := by
  obtain ⟨hlt, hget⟩ := List.getElem?_eq_some_iff.mp (h.getElem?_position hfield)
  have hsplit : state.fields =
      state.fields.take field.position ++ field :: state.fields.drop (field.position + 1) := by
    conv_lhs => rw [← List.take_append_drop field.position state.fields,
      List.drop_eq_getElem_cons hlt, hget]
  refine ⟨_, _, hsplit, ?_, ?_⟩
  · rw [List.length_take, Nat.min_eq_left hlt.le]
  · have hids := h.active_ids
    rw [hsplit, List.map_append, List.map_cons, List.nodup_middle, List.nodup_cons,
      ← List.map_append] at hids
    rw [others]
    nth_rewrite 1 [hsplit]
    rw [List.filter_append, List.filter_cons_of_neg (by simp), ← List.filter_append,
      List.filter_eq_self]
    exact fun other hother => decide_eq_true fun heq => hids.1 (heq ▸ List.mem_map_of_mem hother)

theorem WellFormed.otherRemoved_active (h : state.WellFormed host)
    {field : FieldRegistryFieldDefinition} (hfield : field ∈ state.fields) :
    state.otherRemoved field.id = state.removed :=
  List.filter_eq_self.mpr fun _ hremoved => decide_eq_true fun heq =>
    (h.apart hfield hremoved).1 heq.symm

theorem WellFormed.put_active (h : state.WellFormed host) {field next : FieldRegistryFieldDefinition}
    (hfield : field ∈ state.fields) (hid : next.id = field.id)
    (hposition : next.position = field.position) :
    state.put (.active next) =
      { state with fields := state.fields.map fun f => if f.id = next.id then next else f } := by
  obtain ⟨before, after, hsplit, hlength, hothers⟩ := h.split hfield
  have hids := h.active_ids
  rw [hsplit, List.map_append, List.map_cons, List.nodup_middle, List.nodup_cons,
    ← List.map_append] at hids
  have hkeep : ∀ fields : List FieldRegistryFieldDefinition, (∀ f ∈ fields, f ∈ before ++ after) →
      (fields.map fun f => if f.id = next.id then next else f) = fields := fun fields hmem => by
    refine (List.map_congr_left fun f hf => if_neg fun heq => hids.1 ?_).trans (List.map_id' fields)
    rw [← hid, ← heq]
    exact List.mem_map_of_mem (hmem f hf)
  have hmap : (state.fields.map fun f => if f.id = next.id then next else f) =
      before ++ next :: after := by
    rw [hsplit, List.map_append, List.map_cons, if_pos hid.symm,
      hkeep before (fun f hf => List.mem_append_left _ hf),
      hkeep after (fun f hf => List.mem_append_right _ hf)]
  rw [put, hmap, hid, hposition, hothers, ← hlength, spliceIn_append, h.otherRemoved_active hfield]
  congr 1
  refine renumber_eq_self ?_
  have hpositions := h.positions
  rw [hsplit] at hpositions
  simpa [hposition] using hpositions

theorem WellFormed.put_active_self (h : state.WellFormed host) {field : FieldRegistryFieldDefinition}
    (hfield : field ∈ state.fields) : state.put (.active field) = state := by
  rw [h.put_active hfield rfl rfl]
  congr 1
  refine (List.map_congr_left fun f hf => ?_).trans (List.map_id' _)
  split
  · rename_i heq
    exact (List.inj_on_of_nodup_map h.active_ids hf hfield heq).symm
  · rfl

/-! ## What is put fits -/

/-- The fields besides one, the active ones first. -/
def rest (state : FieldRegistryState) (fieldId : ApplicationId) :
    List FieldRegistryFieldDefinition :=
  state.others fieldId ++ (state.otherRemoved fieldId).map (·.field)

theorem mem_rest {fieldId : ApplicationId} {field : FieldRegistryFieldDefinition} :
    field ∈ state.rest fieldId ↔ field ∈ state.allFields ∧ field.id ≠ fieldId := by
  simp only [rest, others, otherRemoved, allFields, List.mem_append, List.mem_map, List.mem_filter,
    decide_eq_true_eq]
  constructor
  · rintro (⟨hmem, hne⟩ | ⟨removed, ⟨hmem, hne⟩, rfl⟩)
    · exact ⟨.inl hmem, hne⟩
    · exact ⟨.inr ⟨removed, hmem, rfl⟩, hne⟩
  · rintro ⟨hmem | ⟨removed, hmem, rfl⟩, hne⟩
    · exact .inl ⟨hmem, hne⟩
    · exact .inr ⟨removed, ⟨hmem, hne⟩, rfl⟩

theorem rest_sublist (state : FieldRegistryState) (fieldId : ApplicationId) :
    (state.rest fieldId).Sublist state.allFields :=
  List.Sublist.append List.filter_sublist (List.filter_sublist.map _)

theorem allFields_put_perm {α : Type} (g : FieldRegistryFieldDefinition → α)
    (hg : ∀ field position, g { field with position } = g field) (state : FieldRegistryState)
    (outcome : FieldRegistryOutcome) :
    ((state.put outcome).allFields.map g).Perm
      (g outcome.field :: (state.rest outcome.field.id).map g) := by
  cases outcome with
  | active field =>
    rw [allFields, put, List.map_append, map_renumber hg, rest, List.map_append, ← List.cons_append]
    exact ((perm_spliceIn _ _ _).map g).append_right _
  | removed removed =>
    rw [allFields, put, List.map_append, map_renumber hg, rest, List.map_append, List.map_append,
      ← List.append_assoc, List.map_append]
    exact List.perm_append_singleton _ _

/-- What is put has no identity, key or mapping of another field. -/
structure Apart (state : FieldRegistryState) (field : FieldRegistryFieldDefinition) : Prop where
  ids : field.applicationIds.Nodup
  otherIds : ∀ other ∈ state.allFields, other.id ≠ field.id →
    ∀ id ∈ field.applicationIds, id ∉ other.applicationIds
  otherKeys : ∀ other ∈ state.allFields, other.id ≠ field.id → field.key ≠ other.key
  otherMaps : ∀ other ∈ state.allFields, other.id ≠ field.id →
    ∀ mapsTo ∈ field.mapsTo, mapsTo ∉ other.mapsTo

/-- What is put is well formed, and is put where there is a place. -/
inductive Fits (host : FieldRegistryHost D) (state : FieldRegistryState) :
    FieldRegistryOutcome → Prop where
  | active {field : FieldRegistryFieldDefinition} (hfield : field.WellFormed host)
      (hplace : field.position ≤ (state.others field.id).length) : Fits host state (.active field)
  | removed {removed : FieldRegistryRemovedField} (hfield : removed.field.WellFormed host)
      (hplace : removed.lastPosition ≤ maxSafeInteger) : Fits host state (.removed removed)

/-- A registry has room for what is put, and the time of a removal is a date. -/
def Room (host : FieldRegistryHost D) (state : FieldRegistryState) : FieldRegistryOutcome → Prop
  | .active field => (state.others field.id).length < fieldRegistryMaxFields
  | .removed entry => (state.otherRemoved entry.field.id).length < fieldRegistryMaxFields ∧
      host.isDateTime entry.removedAt = true

theorem wellFormed_of_mem_renumber {fields : List FieldRegistryFieldDefinition}
    (hmax : fields.length ≤ fieldRegistryMaxFields) (h : ∀ f ∈ fields, f.WellFormed host)
    {field : FieldRegistryFieldDefinition} (hmem : field ∈ renumber fields) :
    field.WellFormed host := by
  obtain ⟨f, hf, position, hlt, rfl⟩ := mem_renumber hmem
  have hsafe : fieldRegistryMaxFields ≤ maxSafeInteger := by decide
  exact (h f hf).placed (by omega)

theorem WellFormed.ids_put (h : state.WellFormed host) {outcome : FieldRegistryOutcome}
    (hapart : state.Apart outcome.field) :
    ((state.put outcome).allFields.flatMap (·.applicationIds)).Nodup := by
  have hperm := (allFields_put_perm FieldRegistryFieldDefinition.applicationIds
    (fun _ _ => rfl) state outcome).flatten
  rw [List.flatMap_def, hperm.nodup_iff, List.flatten_cons, ← List.flatMap_def, List.nodup_append']
  refine ⟨hapart.ids, ((state.rest_sublist _).flatMap _).nodup h.ids, fun id hid hrest => ?_⟩
  obtain ⟨other, hother, hmem⟩ := List.mem_flatMap.mp hrest
  obtain ⟨hall, hne⟩ := mem_rest.mp hother
  exact hapart.otherIds other hall hne id hid hmem

theorem WellFormed.keys_put (h : state.WellFormed host) {outcome : FieldRegistryOutcome}
    (hapart : state.Apart outcome.field) : ((state.put outcome).allFields.map (·.key)).Nodup := by
  have hperm := allFields_put_perm FieldRegistryFieldDefinition.key (fun _ _ => rfl) state outcome
  rw [hperm.nodup_iff, List.nodup_cons]
  refine ⟨fun hkey => ?_, ((state.rest_sublist _).map _).nodup h.keys⟩
  obtain ⟨other, hother, heq⟩ := List.mem_map.mp hkey
  obtain ⟨hall, hne⟩ := mem_rest.mp hother
  exact hapart.otherKeys other hall hne heq.symm

theorem WellFormed.mapsTo_put (h : state.WellFormed host) {outcome : FieldRegistryOutcome}
    (hapart : state.Apart outcome.field) :
    ((state.put outcome).allFields.filterMap (·.mapsTo)).Nodup := by
  have hmaps : ∀ fields : List FieldRegistryFieldDefinition,
      fields.filterMap (·.mapsTo) = (fields.map (·.mapsTo)).filterMap id := fun fields => by
    rw [List.filterMap_map]
    rfl
  have hperm := (allFields_put_perm FieldRegistryFieldDefinition.mapsTo
    (fun _ _ => rfl) state outcome).filterMap id
  have hrest : ((state.rest outcome.field.id).filterMap (·.mapsTo)).Nodup :=
    ((state.rest_sublist _).filterMap _).nodup h.mapsTo
  rw [hmaps, hperm.nodup_iff]
  rw [hmaps] at hrest
  cases hmapsTo : outcome.field.mapsTo with
  | none => exact hrest
  | some mapsTo =>
    have hcons : ∀ l : List (Option FieldRegistryMapsTo),
        (some mapsTo :: l).filterMap id = mapsTo :: l.filterMap id := fun _ => rfl
    rw [hcons, List.nodup_cons]
    refine ⟨fun hmem => ?_, hrest⟩
    rw [← hmaps] at hmem
    obtain ⟨other, hother, heq⟩ := List.mem_filterMap.mp hmem
    obtain ⟨hall, hne⟩ := mem_rest.mp hother
    exact hapart.otherMaps other hall hne mapsTo hmapsTo heq

theorem WellFormed.put_iff (h : state.WellFormed host) {outcome : FieldRegistryOutcome}
    (hfits : Fits host state outcome) (hapart : state.Apart outcome.field) :
    (state.put outcome).WellFormed host ↔ Room host state outcome := by
  have hothers : ∀ id, (state.others id).length ≤ fieldRegistryMaxFields := fun _ =>
    List.filter_sublist.length_le.trans h.fieldsMax
  have hremoved : ∀ id, (state.otherRemoved id).length ≤ fieldRegistryMaxFields := fun _ =>
    List.filter_sublist.length_le.trans h.removedMax
  have hfields : ∀ id, ∀ f ∈ state.others id, f.WellFormed host := fun _ f hf =>
    h.fields f (List.mem_filter.mp hf).1
  have hentries : ∀ id, ∀ entry ∈ state.otherRemoved id, removedFieldSchema host entry = true :=
    fun _ entry hentry => h.removed entry (List.mem_filter.mp hentry).1
  cases hfits with
  | @active field hfield hplace =>
    constructor
    · intro hput
      have hmax := hput.fieldsMax
      rw [put, length_renumber, length_spliceIn] at hmax
      exact hmax
    · intro hroom
      have hmax : (spliceIn (state.others field.id) field.position field).length ≤
          fieldRegistryMaxFields := by
        rw [length_spliceIn]
        exact hroom
      refine ⟨?_, hremoved _, fun f hf => ?_, hentries _, ?_, h.ids_put hapart, h.keys_put hapart,
        h.mapsTo_put hapart⟩
      · rw [put, length_renumber]
        exact hmax
      · refine wellFormed_of_mem_renumber hmax (fun f hf => ?_) hf
        rcases List.mem_cons.mp ((perm_spliceIn _ _ _).mem_iff.mp hf) with rfl | hf
        · exact hfield
        · exact hfields _ f hf
      · rw [put, positions_renumber, length_renumber]
  | @removed removed hfield hplace =>
    constructor
    · intro hput
      have hmax := hput.removedMax
      rw [put, List.length_append, List.length_singleton] at hmax
      exact ⟨hmax, (removedFieldSchema_iff.mp (hput.removed removed (by simp [put]))).2.1⟩
    · intro hroom
      refine ⟨?_, ?_, fun f hf => wellFormed_of_mem_renumber (hothers _) (hfields _) hf,
        fun entry hentry => ?_, ?_, h.ids_put hapart, h.keys_put hapart, h.mapsTo_put hapart⟩
      · rw [put, length_renumber]
        exact hothers _
      · rw [put, List.length_append, List.length_singleton]
        exact hroom.1
      · rcases List.mem_append.mp hentry with hentry | hentry
        · exact hentries _ entry hentry
        · rw [List.mem_singleton.mp hentry]
          exact removedFieldSchema_iff.mpr ⟨hfield, hroom.2, hplace⟩
      · rw [put, positions_renumber, length_renumber]

end FieldRegistryState

end JooEvents
