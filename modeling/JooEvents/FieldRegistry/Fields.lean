import JooEvents.FieldRegistry.Domain
import JooEvents.Session.Encoding

/-!
# Well formed fields

What the schemas of a field and of a registry say, member by member
(`fieldDefinitionSchema_iff`, `registrySchema_iff`). A well formed field is determined by its
canonical encoding (`FieldRegistryFieldDefinition.eq_of_same`).
-/

namespace JooEvents

variable {D : Type} {host : FieldRegistryHost D}

/-- What `choicesDistinct` says. -/
structure ChoicesDistinct (host : FieldRegistryHost D) (choices : List FieldRegistryChoice) :
    Prop where
  positions : choices.map (·.position) = List.range choices.length
  ids : (choices.map (·.id)).Nodup
  keys : (choices.map (·.key)).Nodup
  labels : (choices.map fun choice => host.lower choice.label).Nodup

theorem choicesDistinct_iff {choices : List FieldRegistryChoice} :
    choicesDistinct host choices = true ↔ ChoicesDistinct host choices := by
  simp only [choicesDistinct, Bool.and_eq_true, decide_eq_true_eq]
  exact ⟨fun ⟨⟨⟨hpositions, hids⟩, hkeys⟩, hlabels⟩ => ⟨hpositions, hids, hkeys, hlabels⟩,
    fun h => ⟨⟨⟨h.positions, h.ids⟩, h.keys⟩, h.labels⟩⟩

/-- What `fieldRegistryFieldDefinitionSchema` says. -/
structure FieldRegistryFieldDefinition.WellFormed (host : FieldRegistryHost D)
    (field : FieldRegistryFieldDefinition) : Prop where
  label : isCanonicalText host.toHost 240 field.label = true
  help : field.help.all (isFieldHelp host.toHost) = true
  position : field.position ≤ maxSafeInteger
  contexts : contextsSchema field.contexts = true
  options : optionConfigurationSchema host.toHost field.options = true
  mapping : mappingCompatible field = true
  purpose : field.purpose = .ordinary ∨ field.kind = .checkbox
  choice : field.kind.isChoice = true ↔ field.options ≠ .none
  distinct : ChoicesDistinct host field.options.choices
  collected : formScopeCollected field.scope field.contexts = true
  applyVisible : field.constraints.applyVisibility = .editable ∨ field.contexts.apply.visible = true
  fileUpload : field.fileUpload = if field.kind = .file then .disabled else .not_applicable

theorem fieldDefinitionSchema_iff {field : FieldRegistryFieldDefinition} :
    fieldDefinitionSchema host field = true ↔ field.WellFormed host := by
  simp only [fieldDefinitionSchema, Bool.and_eq_true, Bool.or_eq_true, decide_eq_true_eq,
    choicesDistinct_iff]
  constructor
  · rintro ⟨⟨⟨⟨⟨⟨⟨⟨⟨⟨⟨hlabel, hhelp⟩, hposition⟩, hcontexts⟩, hoptions⟩, hmapping⟩, hpurpose⟩,
      hchoice⟩, hdistinct⟩, hcollected⟩, hvisible⟩, hupload⟩
    exact ⟨hlabel, hhelp, hposition, hcontexts, hoptions, hmapping, hpurpose, hchoice, hdistinct,
      hcollected, hvisible, hupload⟩
  · intro h
    exact ⟨⟨⟨⟨⟨⟨⟨⟨⟨⟨⟨h.label, h.help⟩, h.position⟩, h.contexts⟩, h.options⟩, h.mapping⟩, h.purpose⟩,
      h.choice⟩, h.distinct⟩, h.collected⟩, h.applyVisible⟩, h.fileUpload⟩

namespace FieldRegistryFieldDefinition

variable {field : FieldRegistryFieldDefinition}

theorem WellFormed.placed {position : ℕ} (h : field.WellFormed host)
    (hposition : position ≤ maxSafeInteger) :
    ({ field with position } : FieldRegistryFieldDefinition).WellFormed host :=
  { h with position := hposition }

end FieldRegistryFieldDefinition

/-- What `fieldRegistryStateSchema` says. -/
structure FieldRegistryState.WellFormed (host : FieldRegistryHost D) (state : FieldRegistryState) :
    Prop where
  fieldsMax : state.fields.length ≤ fieldRegistryMaxFields
  removedMax : state.removed.length ≤ fieldRegistryMaxFields
  fields : ∀ field ∈ state.fields, field.WellFormed host
  removed : ∀ removed ∈ state.removed, removedFieldSchema host removed = true
  positions : state.fields.map (·.position) = List.range state.fields.length
  ids : (state.allFields.flatMap (·.applicationIds)).Nodup
  keys : (state.allFields.map (·.key)).Nodup
  mapsTo : (state.allFields.filterMap (·.mapsTo)).Nodup

theorem registrySchema_iff {state : FieldRegistryState} :
    registrySchema host state = true ↔ state.WellFormed host := by
  simp only [registrySchema, Bool.and_eq_true, decide_eq_true_eq, List.all_eq_true,
    fieldDefinitionSchema_iff]
  constructor
  · rintro ⟨⟨⟨⟨⟨⟨⟨hmax, hremovedMax⟩, hfields⟩, hremoved⟩, hpositions⟩, hids⟩, hkeys⟩, hmapsTo⟩
    exact ⟨hmax, hremovedMax, hfields, hremoved, hpositions, hids, hkeys, hmapsTo⟩
  · intro h
    exact ⟨⟨⟨⟨⟨⟨⟨h.fieldsMax, h.removedMax⟩, h.fields⟩, h.removed⟩, h.positions⟩, h.ids⟩, h.keys⟩,
      h.mapsTo⟩

theorem removedFieldSchema_iff {removed : FieldRegistryRemovedField} :
    removedFieldSchema host removed = true ↔ removed.field.WellFormed host ∧
      host.isDateTime removed.removedAt = true ∧ removed.lastPosition ≤ maxSafeInteger := by
  simp only [removedFieldSchema, Bool.and_eq_true, decide_eq_true_eq, fieldDefinitionSchema_iff,
    and_assoc]

namespace FieldRegistryState

variable {state : FieldRegistryState}

theorem WellFormed.field_ids (h : state.WellFormed host) : (state.allFields.map (·.id)).Nodup := by
  refine List.Sublist.nodup ?_ h.ids
  induction state.allFields with
  | nil => exact .slnil
  | cons field fields ih =>
    rw [List.map_cons, List.flatMap_cons, FieldRegistryFieldDefinition.applicationIds,
      List.cons_append]
    exact .cons_cons _ (ih.trans (List.sublist_append_right _ _))

theorem WellFormed.active_ids (h : state.WellFormed host) : (state.fields.map (·.id)).Nodup := by
  have hids := h.field_ids
  rw [allFields, List.map_append] at hids
  exact hids.of_append_left

theorem WellFormed.apart (h : state.WellFormed host) {field : FieldRegistryFieldDefinition}
    {removed : FieldRegistryRemovedField} (hfield : field ∈ state.fields)
    (hremoved : removed ∈ state.removed) :
    field.id ≠ removed.field.id ∧ field.key ≠ removed.field.key := by
  have hids := h.field_ids
  have hkeys := h.keys
  rw [allFields, List.map_append] at hids hkeys
  have hmem : removed.field ∈ state.removed.map (·.field) := List.mem_map_of_mem hremoved
  exact ⟨fun heq => (List.disjoint_of_nodup_append hids) (List.mem_map_of_mem hfield)
      (heq ▸ List.mem_map_of_mem hmem),
    fun heq => (List.disjoint_of_nodup_append hkeys) (List.mem_map_of_mem hfield)
      (heq ▸ List.mem_map_of_mem hmem)⟩

theorem WellFormed.getElem?_position (h : state.WellFormed host)
    {field : FieldRegistryFieldDefinition} (hfield : field ∈ state.fields) :
    state.fields[field.position]? = some field := by
  obtain ⟨i, hi, heq⟩ := List.getElem_of_mem hfield
  have hposition : (state.fields.map (·.position))[i]? = some field.position := by
    rw [List.getElem?_map, List.getElem?_eq_getElem hi, heq, Option.map_some]
  rw [h.positions, List.getElem?_range hi, Option.some.injEq] at hposition
  rw [← hposition, List.getElem?_eq_getElem hi, heq]

end FieldRegistryState

/-! ## Encodings -/

theorem kind_eq_of_same {host : Host D} {a b : String} {xs ys : List (String × Json D)}
    (h : (Json.obj (("kind", toJson a) :: xs)).canonicalize host.nfc =
      (Json.obj (("kind", toJson b) :: ys)).canonicalize host.nfc)
    (hx : plainKeys ((("kind", (toJson a : Json D)) :: xs).map Prod.fst) = true := by
      simp only [List.map_cons, List.map_nil]; decide)
    (hy : plainKeys ((("kind", (toJson b : Json D)) :: ys).map Prod.fst) = true := by
      simp only [List.map_cons, List.map_nil]; decide)
    (ha : isAscii a = true := by decide) (hb : isAscii b = true := by decide) : a = b := by
  have hkind := Host.lookup_canonicalize h "kind" hx hy
  simp only [List.lookup_cons, BEq.rfl, Option.map_some, Option.some.injEq,
    canonicalize_toJson_eq_iff] at hkind
  exact Host.eq_of_same_text ha hb hkind

theorem member_eq_of_same {α β : Type} [ToJson D α] [ToJson D β] [ExactJson D β] {host : Host D}
    {tag key : String} {kind : α} {a b : β}
    (h : (Json.obj [(tag, toJson kind), (key, (toJson a : Json D))]).canonicalize host.nfc =
      (Json.obj [(tag, toJson kind), (key, toJson b)]).canonicalize host.nfc)
    (hkeys : plainKeys [tag, key] = true := by decide) : a = b := by
  have hmembers := (@Host.canonicalize_record_iff D D host [(tag, toJson kind), (key, toJson a)]
    [(tag, toJson kind), (key, toJson b)] hkeys rfl).1 h
  simpa using hmembers

instance : ExactJson D FieldRegistryFieldScope :=
  ⟨fun {host a b} h => by
    cases a with
    | shared =>
      cases b with
      | shared => rfl
      | form formId => exact absurd (kind_eq_of_same h) (by decide)
    | form formId =>
      cases b with
      | shared => exact absurd (kind_eq_of_same h) (by decide)
      | form formId' => exact congrArg _ (member_eq_of_same h)⟩

instance : ExactJson D FieldRegistryPurpose :=
  ⟨fun {host a b} h => by
    cases a with
    | ordinary =>
      cases b with
      | ordinary => rfl
      | consent key => exact absurd (kind_eq_of_same h) (by decide)
    | consent key =>
      cases b with
      | ordinary => exact absurd (kind_eq_of_same h) (by decide)
      | consent key' => exact congrArg _ (member_eq_of_same h)⟩

instance : ExactJson D FieldRegistryContextPolicy :=
  ⟨fun {host a b} h => by
    have h := Iff.mp Host.canonicalize_record_iff h
    simp only [List.map_cons, List.map_nil, List.cons.injEq, canonicalize_toJson_eq_iff,
      Host.same_iff_eq, and_true] at h
    cases a
    cases b
    rw [FieldRegistryContextPolicy.mk.injEq]
    exact h⟩

instance : ExactJson D FieldRegistryContexts :=
  ⟨fun {host a b} h => by
    have h := Iff.mp Host.canonicalize_record_iff h
    simp only [List.map_cons, List.map_nil, List.cons.injEq, canonicalize_toJson_eq_iff,
      Host.same_iff_eq, and_true] at h
    cases a
    cases b
    rw [FieldRegistryContexts.mk.injEq]
    exact h⟩

instance : ExactJson D FieldRegistryConstraints :=
  ⟨fun {host a b} h => by
    have h := Iff.mp Host.canonicalize_record_iff h
    simp only [List.map_cons, List.map_nil, List.cons.injEq, canonicalize_toJson_eq_iff,
      Host.same_iff_eq, and_true] at h
    cases a
    cases b
    rw [FieldRegistryConstraints.mk.injEq]
    exact h⟩

theorem FieldRegistryChoice.eq_of_same {a b : FieldRegistryChoice}
    (ha : isCanonicalText host.toHost 240 a.label = true)
    (hb : isCanonicalText host.toHost 240 b.label = true) (h : host.toHost.Same a b) : a = b := by
  have h := Iff.mp Host.canonicalize_record_iff h
  simp only [List.map_cons, List.map_nil, List.cons.injEq, canonicalize_toJson_eq_iff,
    Host.same_iff_eq, and_true] at h
  obtain ⟨hid, hkey, hlabel, hposition⟩ := h
  cases a
  cases b
  rw [FieldRegistryChoice.mk.injEq]
  exact ⟨hid, hkey, eq_of_same_normalized (normalized_of_isCanonicalText ha)
    (normalized_of_isCanonicalText hb) hlabel, hposition⟩

theorem FieldRegistryOptionConfiguration.eq_of_same {a b : FieldRegistryOptionConfiguration}
    (ha : optionConfigurationSchema host.toHost a = true)
    (hb : optionConfigurationSchema host.toHost b = true) (h : host.toHost.Same a b) : a = b := by
  cases a with
  | none =>
    cases b with
    | none => rfl
    | custom choices => exact absurd (kind_eq_of_same h) (by decide)
    | program_vocabulary source => exact absurd (kind_eq_of_same h) (by decide)
  | custom choices =>
    cases b with
    | none => exact absurd (kind_eq_of_same h) (by decide)
    | custom choices' =>
      have h := Iff.mp Host.canonicalize_record_iff h
      simp only [List.map_cons, List.map_nil, List.cons.injEq, canonicalize_toJson_eq_iff,
        and_true, true_and] at h
      simp only [optionConfigurationSchema, Bool.and_eq_true] at ha hb
      refine congrArg _ (eq_of_same_list (fun {a b} ha hb => ?_) ha.2 hb.2 h)
      rw [Bool.and_eq_true] at ha hb
      exact FieldRegistryChoice.eq_of_same ha.1 hb.1
    | program_vocabulary source => exact absurd (kind_eq_of_same h) (by decide)
  | program_vocabulary source =>
    cases b with
    | none => exact absurd (kind_eq_of_same h) (by decide)
    | custom choices => exact absurd (kind_eq_of_same h) (by decide)
    | program_vocabulary source' => exact congrArg _ (member_eq_of_same h)

theorem eq_of_same_help {a b : Option String} (ha : a.all (isFieldHelp host.toHost) = true)
    (hb : b.all (isFieldHelp host.toHost) = true) (h : host.toHost.Same a b) : a = b := by
  cases a with
  | none =>
    cases b with
    | none => rfl
    | some b => exact absurd h.symm Host.not_same_some_none
  | some a =>
    cases b with
    | none => exact absurd h Host.not_same_some_none
    | some b =>
      have ha := (of_decide_eq_true ha).2.2
      have hb := (of_decide_eq_true hb).2.2
      rw [← ha, ← hb, Host.same_text_iff.mp h]

theorem FieldRegistryFieldDefinition.eq_of_same {a b : FieldRegistryFieldDefinition}
    (ha : a.WellFormed host) (hb : b.WellFormed host) (h : host.toHost.Same a b) : a = b := by
  have h := Iff.mp Host.canonicalize_record_iff h
  simp only [List.map_cons, List.map_nil, List.cons.injEq, canonicalize_toJson_eq_iff,
    Host.same_iff_eq, and_true] at h
  obtain ⟨hid, hkey, hversion, hkind, hlabel, hhelp, howner, hmapsTo, hpurpose, hscope, hgroup,
    hposition, hcontexts, hoptions, hconstraints, hupload⟩ := h
  have hlabel := eq_of_same_normalized (normalized_of_isCanonicalText ha.label)
    (normalized_of_isCanonicalText hb.label) hlabel
  have hhelp := eq_of_same_help ha.help hb.help hhelp
  have hoptions := FieldRegistryOptionConfiguration.eq_of_same ha.options hb.options hoptions
  cases a
  cases b
  rw [mk.injEq]
  exact ⟨hid, hkey, hversion, hkind, hlabel, hhelp, howner, hmapsTo, hpurpose, hscope, hgroup,
    hposition, hcontexts, hoptions, hconstraints, hupload⟩

end JooEvents
