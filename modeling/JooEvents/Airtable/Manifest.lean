import JooEvents.Lib.KeyedMap
import JooEvents.Airtable.Comparison

/-!
# Managed bases

A manifest says which tables a managed base has. `bindManagedSchema` finds them in the schema of
a base by the names of tables and fields, and `projectSnapshotBatch` turns a page of projected
records into writes that carry the subject of each in the stable id field of its table.

A manifest carries what `createManagedBaseManifest` checks of it : keys and names are distinct,
and the stable id of a table is one of its fields. So a bound table has a field for each of
the manifest's, and distinct ones (`BoundTable`), and a write says its subject
(`projectSnapshotBatch_subject`), as long as the stable id is not the field that tells when the
record was synced.
-/

namespace JooEvents

open Fallible

variable {D : Type}

structure ManagedManifestField where
  key : String
  name : String
  type : String
  description : String
  options : Option (Json Empty)

structure ManagedManifestTable where
  key : String
  name : String
  description : String
  stableIdFieldKey : String
  fields : List ManagedManifestField
  fieldKeys_nodup : (fields.map (·.key)).Nodup
  fieldNames_nodup : (fields.map (·.name)).Nodup
  stableId_mem : stableIdFieldKey ∈ fields.map (·.key)

structure ManagedBaseManifest where
  version : ℕ
  tables : List ManagedManifestTable
  digestSha256 : String
  tableKeys_nodup : (tables.map (·.key)).Nodup
  tableNames_nodup : (tables.map (·.name)).Nodup

structure AirtableFieldSchema where
  id : String
  name : String
  type : String

structure AirtableViewSchema where
  id : String
  type : String

structure AirtableTableSchema where
  id : String
  name : String
  primaryFieldId : String
  fields : List AirtableFieldSchema
  views : List AirtableViewSchema

structure AirtableBaseSchema where
  id : String
  tables : List AirtableTableSchema

/-- The fields in an `AirtableCreateTableInput`. -/
structure AirtableCreateFieldInput where
  name : String
  type : String
  description : String
  options : Option (Json Empty)

structure AirtableCreateTableInput where
  name : String
  description : String
  fields : List AirtableCreateFieldInput

def ManagedManifestTable.toCreateTable (table : ManagedManifestTable) :
    AirtableCreateTableInput where
  name := table.name
  description := table.description
  fields := table.fields.map fun field =>
    { name := field.name, type := field.type, description := field.description,
      options := field.options }

def toAirtableCreateTables (manifest : ManagedBaseManifest) : List AirtableCreateTableInput :=
  manifest.tables.map (·.toCreateTable)

structure ManagedFieldBinding where
  key : String
  fieldId : String
  type : String
  deriving DecidableEq

structure ManagedTableBinding where
  key : String
  tableId : String
  primaryFieldId : String
  defaultViewId : String
  stableIdFieldId : String
  fields : List ManagedFieldBinding
  deriving DecidableEq

structure ManagedSchemaBinding where
  manifestVersion : ℕ
  manifestDigestSha256 : String
  baseId : String
  tables : List ManagedTableBinding
  deriving DecidableEq

/-- The code of a drift, with its table and field. -/
structure ManagedSchemaDrift where
  code : String
  tableKey : String
  fieldKey : Option String

/-- The one value of a list, if it is the only one. -/
def onlyOne {α : Type} : List α → Option α
  | [a] => some a
  | _ => none

/-- The field of a table that is bound to a field of the manifest. -/
def bindManagedField (expectedTable : ManagedManifestTable) (actualTable : AirtableTableSchema)
    (expectedField : ManagedManifestField) : Except ManagedSchemaDrift ManagedFieldBinding := do
  let drift : ManagedSchemaDrift :=
    ⟨"field_name_type_match", expectedTable.key, some expectedField.key⟩
  let candidate ← orRefuse
    (onlyOne (actualTable.fields.filter fun field => field.name = expectedField.name)) drift
  require (candidate.type = expectedField.type) drift
  return { key := expectedField.key, fieldId := candidate.id, type := expectedField.type }

/-- The table of a schema that is bound to a table of the manifest. -/
def bindManagedTable (schema : AirtableBaseSchema) (expectedTable : ManagedManifestTable) :
    Except ManagedSchemaDrift ManagedTableBinding := do
  let actualTable ← orRefuse
    (onlyOne (schema.tables.filter fun table => table.name = expectedTable.name))
    ⟨"table_name_match", expectedTable.key, none⟩
  let fields ← expectedTable.fields.mapM (bindManagedField expectedTable actualTable)
  let defaultView ← orRefuse (actualTable.views.find? fun view => view.type = "grid")
    ⟨"default_grid_missing", expectedTable.key, none⟩
  return {
    key := expectedTable.key
    tableId := actualTable.id
    primaryFieldId := actualTable.primaryFieldId
    defaultViewId := defaultView.id
    -- the manifest has the stable id among its fields
    stableIdFieldId := ((fields.find? fun field =>
      field.key = expectedTable.stableIdFieldKey).map (·.fieldId)).getD ""
    fields }

def bindManagedSchema (manifest : ManagedBaseManifest) (schema : AirtableBaseSchema) :
    Except ManagedSchemaDrift ManagedSchemaBinding := do
  let tables ← manifest.tables.mapM (bindManagedTable schema)
  return {
    manifestVersion := manifest.version
    manifestDigestSha256 := manifest.digestSha256
    baseId := schema.id
    tables }

abbrev AirtableCells : Type := KeyedMap (Prod.fst : String × Json Empty → String)

def AirtableCells.cell (cells : AirtableCells) (fieldId : String) : Option (Json Empty) :=
  (cells.get fieldId).map (·.2)

/-- `ManagedProjectedRecord`. Its fields are in the order of `Object.entries`. -/
structure ManagedProjectedRecord where
  subjectKey : String
  fields : List (String × Json Empty)

/-- A batch of writes to a table, each the cells of one record. -/
structure ManagedSnapshotBatch where
  tableId : String
  stableIdFieldId : String
  writes : List AirtableCells

/-- What is thrown in a provisioning step. -/
inductive ProvisioningError where
  | managed_provisioning_input_invalid
  | managed_snapshot_batch_invalid
  | managed_snapshot_table_missing
  | managed_snapshot_subject_invalid
  | managed_snapshot_stable_id_mismatch
  | managed_snapshot_field_invalid
  | managed_snapshot_field_unbound
  | snapshot_result_invalid
  | binding_of_undefined
  deriving DecidableEq

/-- The field that a key of the manifest is bound to. -/
def ManagedTableBinding.fieldId (binding : ManagedTableBinding) (key : String) : Option String :=
  (binding.fields.find? fun field => field.key = key).map (·.fieldId)

def projectField (host : Host D) (table : ManagedManifestTable) (binding : ManagedTableBinding)
    (record : ManagedProjectedRecord) (cells : AirtableCells) (entry : String × Json Empty) :
    Except ProvisioningError AirtableCells :=
  if entry.1 = table.stableIdFieldKey then do
    require (entry.2 = .text record.subjectKey) .managed_snapshot_stable_id_mismatch
    return cells
  else do
    require (entry.1 ∈ table.fields.map (·.key)) .managed_snapshot_field_invalid
    let fieldId ← orRefuse (binding.fieldId entry.1) .managed_snapshot_field_unbound
    return cells.set (fieldId, entry.2.canonicalize host.nfc)

def projectRecord (host : Host D) (table : ManagedManifestTable) (binding : ManagedTableBinding)
    (syncedAt : String) (record : ManagedProjectedRecord) :
    Except ProvisioningError AirtableCells := do
  require (record.subjectKey ≠ "" ∧ textLength record.subjectKey ≤ 256)
    ProvisioningError.managed_snapshot_subject_invalid
  let cells ← record.fields.foldlM (projectField host table binding record)
    (KeyedMap.empty.set (binding.stableIdFieldId, .text record.subjectKey))
  return match binding.fieldId "last_synced" with
    | some syncedId => cells.set (syncedId, .text syncedAt)
    | none => cells

def projectSnapshotBatch (host : Host D) (manifest : ManagedBaseManifest)
    (binding : ManagedSchemaBinding) (tableKey : String) (records : List ManagedProjectedRecord)
    (syncedAt : String) : Except ProvisioningError ManagedSnapshotBatch := do
  require (binding.manifestDigestSha256 = manifest.digestSha256 ∧
    1 ≤ records.length ∧ records.length ≤ 10) ProvisioningError.managed_snapshot_batch_invalid
  let manifestTable ← orRefuse (manifest.tables.find? fun table => table.key = tableKey)
    ProvisioningError.managed_snapshot_table_missing
  let bindingTable ← orRefuse (binding.tables.find? fun table => table.key = tableKey)
    ProvisioningError.managed_snapshot_table_missing
  let writes ← records.mapM (projectRecord host manifestTable bindingTable syncedAt)
  return { tableId := bindingTable.tableId, stableIdFieldId := bindingTable.stableIdFieldId, writes }

/-! ## What a bound table is -/

/-- A table of the manifest, bound : the keys of the manifest have distinct fields, and the
stable id is one of them. -/
structure BoundTable (table : ManagedManifestTable) (binding : ManagedTableBinding) : Prop where
  key : binding.key = table.key
  fields : binding.fields.map (·.key) = table.fields.map (·.key)
  fieldIds_nodup : (binding.fields.map (·.fieldId)).Nodup
  stableId : binding.fieldId table.stableIdFieldKey = some binding.stableIdFieldId

/-- A schema whose tables, and the fields of each, have distinct ids. -/
structure AirtableBaseSchema.WellFormed (schema : AirtableBaseSchema) : Prop where
  tableIds_nodup : (schema.tables.map (·.id)).Nodup
  fieldIds_nodup : ∀ table ∈ schema.tables, (table.fields.map (·.id)).Nodup

@[simp] theorem onlyOne_eq_some {α : Type} {as : List α} {a : α} :
    onlyOne as = some a ↔ as = [a] := by
  unfold onlyOne
  split <;> simp_all

theorem mem_of_onlyOne_filter {α : Type} {as : List α} {p : α → Bool} {a : α}
    (h : onlyOne (as.filter p) = some a) : a ∈ as ∧ p a = true := by
  have hmem : a ∈ as.filter p := by
    rw [onlyOne_eq_some.mp h]
    exact List.mem_singleton_self a
  exact List.mem_filter.mp hmem

theorem bindManagedField_eq_ok {expectedTable : ManagedManifestTable}
    {actualTable : AirtableTableSchema} {expectedField : ManagedManifestField}
    {field : ManagedFieldBinding}
    (h : bindManagedField expectedTable actualTable expectedField = .ok field) :
    field.key = expectedField.key ∧
      ∃ candidate ∈ actualTable.fields, candidate.name = expectedField.name ∧
        field.fieldId = candidate.id := by
  simp only [bindManagedField, bind_eq_ok, orRefuse_eq_ok, require_eq_ok, pure_eq_ok] at h
  obtain ⟨candidate, hcandidate, ⟨⟩, -, rfl⟩ := h
  obtain ⟨hmem, hname⟩ := mem_of_onlyOne_filter hcandidate
  exact ⟨rfl, candidate, hmem, by simpa using hname, rfl⟩

theorem bindManagedTable_eq_ok {schema : AirtableBaseSchema} {table : ManagedManifestTable}
    {binding : ManagedTableBinding} (hschema : schema.WellFormed)
    (h : bindManagedTable schema table = .ok binding) :
    BoundTable table binding ∧
      ∃ actual ∈ schema.tables, actual.name = table.name ∧ binding.tableId = actual.id := by
  simp only [bindManagedTable, bind_eq_ok, orRefuse_eq_ok, pure_eq_ok] at h
  obtain ⟨actual, hactual, fields, hfields, view, -, rfl⟩ := h
  obtain ⟨hmem, hname⟩ := mem_of_onlyOne_filter hactual
  have hall := forall₂_of_mapM_eq_ok hfields
  have hkeys : fields.map (·.key) = table.fields.map (·.key) := by
    refine Keyed.map_eq_of_forall₂ (fun _ _ hfield => ?_) hall
    exact (bindManagedField_eq_ok hfield).1
  refine ⟨⟨rfl, hkeys, ?_, ?_⟩, actual, hmem, by simpa using hname, rfl⟩
  · -- two fields of one id are one field of the table, so of one name
    refine Keyed.nodup_map_of_forall₂ (fun f f' b b' hb hb' heq => ?_) hall table.fieldNames_nodup
    obtain ⟨-, candidate, hcandidate, hcname, hid⟩ := bindManagedField_eq_ok hb
    obtain ⟨-, candidate', hcandidate', hcname', hid'⟩ := bindManagedField_eq_ok hb'
    have hsame := Keyed.eq_of_key_eq (hschema.fieldIds_nodup actual hmem) hcandidate hcandidate'
      (hid.symm.trans (heq.trans hid'))
    exact hcname.symm.trans (hsame ▸ hcname')
  · have hstable := table.stableId_mem
    rw [← hkeys] at hstable
    obtain ⟨field, hfield, hkey⟩ := List.mem_map.mp hstable
    have hfind : fields.find? (fun field => field.key = table.stableIdFieldKey) = some field :=
      (Keyed.find?_key_eq_some_iff (hkeys ▸ table.fieldKeys_nodup)).mpr ⟨hfield, hkey⟩
    simp [ManagedTableBinding.fieldId, hfind]

theorem bindManagedSchema_eq_ok {schema : AirtableBaseSchema} {manifest : ManagedBaseManifest}
    {binding : ManagedSchemaBinding} (hschema : schema.WellFormed)
    (h : bindManagedSchema manifest schema = .ok binding) :
    binding.manifestDigestSha256 = manifest.digestSha256 ∧ binding.baseId = schema.id ∧
      (binding.tables.map (·.tableId)).Nodup ∧
      List.Forall₂ (fun table bound => BoundTable table bound ∧
        ∃ actual ∈ schema.tables, actual.name = table.name ∧ bound.tableId = actual.id)
        manifest.tables binding.tables := by
  simp only [bindManagedSchema, bind_eq_ok, pure_eq_ok] at h
  obtain ⟨tables, htables, rfl⟩ := h
  have hall : List.Forall₂ (fun table bound => BoundTable table bound ∧
      ∃ actual ∈ schema.tables, actual.name = table.name ∧ bound.tableId = actual.id)
      manifest.tables tables :=
    (forall₂_of_mapM_eq_ok htables).imp fun _ _ => bindManagedTable_eq_ok hschema
  refine ⟨rfl, rfl, ?_, hall⟩
  -- two tables of one id are one table of the schema, so of one name
  refine Keyed.nodup_map_of_forall₂ (fun t t' b b' hb hb' heq => ?_) hall manifest.tableNames_nodup
  obtain ⟨-, actual, hactual, hname, hid⟩ := hb
  obtain ⟨-, actual', hactual', hname', hid'⟩ := hb'
  have hsame := Keyed.eq_of_key_eq hschema.tableIds_nodup hactual hactual'
    (hid.symm.trans (heq.trans hid'))
  exact hname.symm.trans (hsame ▸ hname')

/-! ## What a write says -/

theorem BoundTable.fieldId_ne {table : ManagedManifestTable} {binding : ManagedTableBinding}
    (h : BoundTable table binding) {key fieldId : String} (hfield : binding.fieldId key = some fieldId)
    (hne : key ≠ table.stableIdFieldKey) : fieldId ≠ binding.stableIdFieldId := by
  rintro rfl
  have hstable := h.stableId
  simp only [ManagedTableBinding.fieldId, Option.map_eq_some_iff] at hfield hstable
  obtain ⟨field, hfind, hid⟩ := hfield
  obtain ⟨stable, hfind', hid'⟩ := hstable
  obtain ⟨hmem, hkey⟩ := Keyed.mem_of_find?_key hfind
  obtain ⟨hmem', hkey'⟩ := Keyed.mem_of_find?_key hfind'
  have hsame := Keyed.eq_of_key_eq h.fieldIds_nodup hmem hmem' (hid.trans hid'.symm)
  exact hne (hkey.symm.trans (hsame ▸ hkey'))

theorem cell_set (cells : AirtableCells) (fieldId fieldId' : String) (value : Json Empty) :
    AirtableCells.cell (cells.set (fieldId, value)) fieldId' =
      if fieldId = fieldId' then some value else cells.cell fieldId' := by
  rw [AirtableCells.cell, KeyedMap.get_set]
  split_ifs <;> rfl

section

variable {host : Host D} {table : ManagedManifestTable} {binding : ManagedTableBinding}
  {record : ManagedProjectedRecord} {syncedAt : String}

theorem projectField_subject (hbound : BoundTable table binding) {cells cells' : AirtableCells}
    {entry : String × Json Empty}
    (hcells : cells.cell binding.stableIdFieldId = some (.text record.subjectKey))
    (h : projectField host table binding record cells entry = .ok cells') :
    cells'.cell binding.stableIdFieldId = some (.text record.subjectKey) := by
  unfold projectField at h
  split_ifs at h with hkey
  · simp only [bind_eq_ok, require_eq_ok, pure_eq_ok] at h
    obtain ⟨⟨⟩, -, rfl⟩ := h
    exact hcells
  · simp only [bind_eq_ok, require_eq_ok, orRefuse_eq_ok, pure_eq_ok] at h
    obtain ⟨⟨⟩, -, fieldId, hfieldId, rfl⟩ := h
    rw [cell_set, if_neg (hbound.fieldId_ne hfieldId hkey)]
    exact hcells

theorem projectFields_subject (hbound : BoundTable table binding) :
    ∀ {entries : List (String × Json Empty)} {cells cells' : AirtableCells},
      cells.cell binding.stableIdFieldId = some (.text record.subjectKey) →
      entries.foldlM (projectField host table binding record) cells = .ok cells' →
      cells'.cell binding.stableIdFieldId = some (.text record.subjectKey)
  | [], cells, cells', hcells, h => by
    cases h
    exact hcells
  | entry :: entries, cells, cells', hcells, h => by
    rw [List.foldlM_cons, bind_eq_ok] at h
    obtain ⟨next, hnext, hrest⟩ := h
    exact projectFields_subject hbound (projectField_subject hbound hcells hnext) hrest

theorem projectRecord_subject (hbound : BoundTable table binding)
    (hsynced : table.stableIdFieldKey ≠ "last_synced") {cells : AirtableCells}
    (h : projectRecord host table binding syncedAt record = .ok cells) :
    cells.cell binding.stableIdFieldId = some (.text record.subjectKey) := by
  simp only [projectRecord, bind_eq_ok, require_eq_ok, pure_eq_ok] at h
  obtain ⟨⟨⟩, -, projected, hprojected, rfl⟩ := h
  have hsubject := projectFields_subject hbound (by rw [cell_set, if_pos rfl]) hprojected
  cases hid : binding.fieldId "last_synced" with
  | none => exact hsubject
  | some syncedId =>
    change AirtableCells.cell (projected.set (syncedId, _)) _ = _
    rw [cell_set, if_neg (hbound.fieldId_ne hid hsynced.symm)]
    exact hsubject

end

theorem projectSnapshotBatch_subject {host : Host D} {manifest : ManagedBaseManifest}
    {binding : ManagedSchemaBinding} {tableKey syncedAt : String}
    {records : List ManagedProjectedRecord} {batch : ManagedSnapshotBatch}
    (hbound : List.Forall₂ BoundTable manifest.tables binding.tables)
    (h : projectSnapshotBatch host manifest binding tableKey records syncedAt = .ok batch) :
    ∃ bound ∈ binding.tables, bound.key = tableKey ∧ batch.tableId = bound.tableId ∧
      batch.stableIdFieldId = bound.stableIdFieldId ∧
      ((∀ table ∈ manifest.tables, table.stableIdFieldKey ≠ "last_synced") →
        List.Forall₂ (fun record write =>
          AirtableCells.cell write bound.stableIdFieldId = some (.text record.subjectKey))
          records batch.writes) := by
  simp only [projectSnapshotBatch, bind_eq_ok, require_eq_ok, orRefuse_eq_ok, pure_eq_ok] at h
  obtain ⟨⟨⟩, -, table, htable, bound, hfind, writes, hwrites, rfl⟩ := h
  obtain ⟨hmem, hkey⟩ := Keyed.mem_of_find?_key hfind
  obtain ⟨htableMem, htableKey⟩ := Keyed.mem_of_find?_key htable
  refine ⟨bound, hmem, hkey, rfl, rfl, fun hsynced => ?_⟩
  obtain ⟨i, hi, rfl⟩ := List.getElem_of_mem hmem
  rw [List.forall₂_iff_get] at hbound
  have hof := hbound.2 i (hbound.1 ▸ hi) hi
  have hsame : manifest.tables.get ⟨i, hbound.1 ▸ hi⟩ = table :=
    Keyed.eq_of_key_eq manifest.tableKeys_nodup (List.get_mem _ _) htableMem
      (hof.key.symm.trans (hkey.trans htableKey.symm))
  rw [hsame] at hof
  exact (forall₂_of_mapM_eq_ok hwrites).imp fun _ _ hwrite =>
    projectRecord_subject hof (hsynced table htableMem) hwrite

end JooEvents
