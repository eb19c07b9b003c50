import JooEvents.Lib.Interleaving
import JooEvents.Airtable.Provisioning

/-!
# The world of provisioning

Beside the workers there are the stored state of the run with its lease and links, and the
bases of the provider. `ProvisioningWorld.Exec` says how a call is answered and what it
changes : a claim takes a lease that is free, a completion stores the next state if the claim
still is the current one, and the provider creates, writes and lists, or fails, with or without
having done what it was asked.

What the provider does to one table is `TableGrown` : nothing, creating it, or writing records
that are merged on a field (`AirtableTable.Written`). Writing keeps the values of that field in
the records that were there (`AirtableTable.Written.rows_kept`), and adds records of values that
were not (`AirtableTable.Written.rowsOf`).
-/

namespace JooEvents

/-- A table of a base, with its records. -/
structure AirtableTable where
  schema : AirtableTableSchema
  records : KeyedMap AirtableRecord.id
  fieldIds_nodup : (schema.fields.map (·.id)).Nodup

/-- A base of the provider. -/
structure AirtableBase where
  id : String
  tables : KeyedMap fun table : AirtableTable => table.schema.id

def AirtableBase.schema (base : AirtableBase) : AirtableBaseSchema where
  id := base.id
  tables := base.tables.values.map (·.schema)

theorem AirtableBase.schema_wellFormed (base : AirtableBase) : base.schema.WellFormed := by
  constructor
  · have hnodup := base.tables.nodup
    rwa [AirtableBase.schema, List.map_map]
  · intro schema hschema
    obtain ⟨table, -, rfl⟩ := List.mem_map.mp hschema
    exact table.fieldIds_nodup

def AirtableRecord.merge (record : AirtableRecord) (write : AirtableCells) : AirtableRecord :=
  { record with fields := write.values.foldl KeyedMap.set record.fields }

namespace AirtableTable

def put (table : AirtableTable) (record : AirtableRecord) : AirtableTable :=
  { table with records := table.records.set record }

/-- What a write becomes : a record that has its value in the field it is merged on, with the
cells of the write, or a new record where there is none. -/
inductive Upsert (mergeOnFieldId : String) (table : AirtableTable) (write : AirtableCells) :
    AirtableRecord → Prop where
  | created {id : String}
      (hnone : ∀ record ∈ table.records.values,
        record.fields.cell mergeOnFieldId ≠ write.cell mergeOnFieldId)
      (hid : table.records.get id = none) : Upsert mergeOnFieldId table write ⟨id, write⟩
  | updated {record : AirtableRecord} (hrecord : record ∈ table.records.values)
      (hcell : record.fields.cell mergeOnFieldId = write.cell mergeOnFieldId) :
      Upsert mergeOnFieldId table write (record.merge write)

/-- Some writes of a batch are made, with the records that they became. -/
inductive Written (mergeOnFieldId : String) (writes : List AirtableCells) (table : AirtableTable) :
    List (ℕ × String) → AirtableTable → Prop where
  | nil : Written mergeOnFieldId writes table [] table
  | snoc {made : List (ℕ × String)} {table' : AirtableTable} {i : ℕ} {write : AirtableCells}
      {record : AirtableRecord} (h : Written mergeOnFieldId writes table made table')
      (hwrite : writes[i]? = some write) (hupsert : Upsert mergeOnFieldId table' write record) :
      Written mergeOnFieldId writes table (made ++ [(i, record.id)]) (table'.put record)

/-- The values of a field, with the records that have them. -/
def rows (table : AirtableTable) (fieldId : String) : List (Option (Json Empty) × String) :=
  table.records.values.map fun record => (record.fields.cell fieldId, record.id)

def RowsOf (subjects : List String) (rows : List (Option (Json Empty) × String)) : Prop :=
  ∃ present : List String, rows.map Prod.fst = present.map (fun s => some (.text s)) ∧
    present.Nodup ∧ present ⊆ subjects

/-! ## What writing does to the rows -/

theorem cell_merge (record : AirtableRecord) (write : AirtableCells) (fieldId : String) :
    (record.merge write).fields.cell fieldId =
      (write.cell fieldId).or (record.fields.cell fieldId) := by
  rw [AirtableRecord.merge, AirtableCells.cell, KeyedMap.get_foldl_set _ _ _ write.nodup]
  exact Option.map_or

variable {mergeOnFieldId : String} {table table' : AirtableTable} {write : AirtableCells}
  {record : AirtableRecord} {writes : List AirtableCells} {made : List (ℕ × String)}

theorem Upsert.rows (h : Upsert mergeOnFieldId table write record) :
    (table.put record).rows mergeOnFieldId = table.rows mergeOnFieldId ∧
        (write.cell mergeOnFieldId, record.id) ∈ table.rows mergeOnFieldId ∨
      (table.put record).rows mergeOnFieldId =
        table.rows mergeOnFieldId ++ [(write.cell mergeOnFieldId, record.id)] ∧
        ∀ row ∈ table.rows mergeOnFieldId, row.1 ≠ write.cell mergeOnFieldId := by
  cases h with
  | created hnone hid =>
    refine .inr ⟨?_, fun row hrow => ?_⟩
    · have hnot : ∀ r ∈ table.records.values, ¬ r.id = _ := Keyed.find?_key_eq_none_iff.mp hid
      rw [AirtableTable.rows, put, KeyedMap.set, dif_neg]
      · exact List.map_append
      · intro hmem
        obtain ⟨r, hr, hkey⟩ := List.mem_map.mp hmem
        exact hnot r hr hkey
    · obtain ⟨r, hr, rfl⟩ := List.mem_map.mp hrow
      exact hnone r hr
  | @updated old hold hcell =>
    have hmerged : (old.merge write).fields.cell mergeOnFieldId =
        old.fields.cell mergeOnFieldId := by
      rw [cell_merge, ← hcell]
      cases old.fields.cell mergeOnFieldId <;> rfl
    refine .inl ⟨?_, List.mem_map.mpr ⟨old, hold, by rw [hcell]; rfl⟩⟩
    have hpresent : (old.merge write).id ∈ table.records.values.map AirtableRecord.id :=
      List.mem_map.mpr ⟨old, hold, rfl⟩
    rw [AirtableTable.rows, put, KeyedMap.set, dif_pos hpresent, AirtableTable.rows, List.map_map]
    refine List.map_congr_left fun r hr => ?_
    rw [Function.comp_apply]
    split_ifs with hid
    · have hsame : r = old := Keyed.eq_of_key_eq table.records.nodup hr hold hid
      subst hsame
      exact Prod.ext hmerged rfl
    · rfl

theorem Upsert.mem_rows (h : Upsert mergeOnFieldId table write record) :
    (write.cell mergeOnFieldId, record.id) ∈ (table.put record).rows mergeOnFieldId := by
  rcases h.rows with ⟨heq, hmem⟩ | ⟨heq, -⟩ <;> rw [heq]
  · exact hmem
  · exact List.mem_append_right _ (List.mem_singleton.mpr rfl)

theorem Written.rows_kept (h : Written mergeOnFieldId writes table made table') :
    table.rows mergeOnFieldId <+: table'.rows mergeOnFieldId := by
  induction h with
  | nil => exact List.prefix_refl _
  | snoc _ _ hupsert ih =>
    rcases hupsert.rows with ⟨heq, -⟩ | ⟨heq, -⟩ <;> rw [heq]
    · exact ih
    · exact ih.trans (List.prefix_append _ _)

@[simp] theorem put_schema : (table.put record).schema = table.schema := rfl

theorem Written.schema (h : Written mergeOnFieldId writes table made table') :
    table'.schema = table.schema := by
  induction h with
  | nil => rfl
  | snoc _ _ _ ih => exact ih

theorem Written.mem_rows (h : Written mergeOnFieldId writes table made table') {i : ℕ}
    {id : String} (hmade : (i, id) ∈ made) :
    ∃ write, writes[i]? = some write ∧
      (write.cell mergeOnFieldId, id) ∈ table'.rows mergeOnFieldId := by
  induction h with
  | nil => exact absurd hmade List.not_mem_nil
  | snoc _ hwrite hupsert ih =>
    rcases List.mem_append.mp hmade with hmade | hmade
    · obtain ⟨write, hwrite', hmem⟩ := ih hmade
      have hlast := (Written.snoc .nil hwrite hupsert).rows_kept
      exact ⟨write, hwrite', hlast.subset hmem⟩
    · cases List.mem_singleton.mp hmade
      exact ⟨_, hwrite, hupsert.mem_rows⟩

theorem Written.rowsOf {subjects : List String}
    (h : Written mergeOnFieldId writes table made table')
    (hwrites : ∀ write ∈ writes, ∃ s ∈ subjects, write.cell mergeOnFieldId = some (.text s))
    (hrows : RowsOf subjects (table.rows mergeOnFieldId)) :
    RowsOf subjects (table'.rows mergeOnFieldId) := by
  induction h with
  | nil => exact hrows
  | snoc _ hwrite hupsert ih =>
    rcases hupsert.rows with ⟨heq, -⟩ | ⟨heq, hnew⟩ <;> rw [heq]
    · exact ih
    · obtain ⟨present, hpresent, hnodup, hsubset⟩ := ih
      obtain ⟨s, hs, hcell⟩ := hwrites _ (List.mem_of_getElem? hwrite)
      have hnotin : s ∉ present := by
        intro hmem
        have hvalue : some (.text s) ∈ present.map fun s => (some (.text s) : Option (Json Empty)) :=
          List.mem_map_of_mem hmem
        rw [← hpresent] at hvalue
        obtain ⟨row, hrow, hvalue⟩ := List.mem_map.mp hvalue
        exact hnew row hrow (hvalue.trans hcell.symm)
      refine ⟨present ++ [s], ?_, hnodup.append (List.nodup_singleton s)
        (List.disjoint_singleton.mpr hnotin), List.append_subset.mpr ⟨hsubset, by simpa using hs⟩⟩
      rw [List.map_append, List.map_append, hpresent, List.map_singleton, List.map_singleton, hcell]

end AirtableTable

/-! ## The stored state -/

/-- A link as it is stored. -/
structure StoredSnapshotLink where
  tableKey : String
  subjectKey : String
  providerTableId : String
  providerRecordId : String

/-- A link with the table of the binding that it is about. -/
def ManagedProvisioningState.storedLink (state : ManagedProvisioningState)
    (link : SnapshotRecordLink) : Option StoredSnapshotLink := do
  let binding ← state.binding
  let table ← binding.tables.find? fun candidate => candidate.key = link.tableKey
  return ⟨link.tableKey, link.subjectKey, table.tableId, link.recordId⟩

theorem forall₂_of_mapM_eq_some {α β : Type} {f : α → Option β} :
    ∀ {as : List α} {bs : List β}, as.mapM f = some bs →
      List.Forall₂ (fun a b => f a = some b) as bs
  | [], bs, h => by
    cases h
    exact .nil
  | a :: as, bs, h => by
    rw [List.mapM_cons] at h
    obtain ⟨b, hb, h⟩ := Option.bind_eq_some_iff.mp h
    obtain ⟨bs', hbs', h⟩ := Option.bind_eq_some_iff.mp h
    cases h
    exact .cons hb (forall₂_of_mapM_eq_some hbs')

theorem ManagedProvisioningState.storedLink_eq_some {state : ManagedProvisioningState}
    {link : SnapshotRecordLink} {stored : StoredSnapshotLink}
    (h : state.storedLink link = some stored) :
    ∃ binding, state.binding = some binding ∧ ∃ table ∈ binding.tables,
      table.key = link.tableKey ∧
        stored = ⟨link.tableKey, link.subjectKey, table.tableId, link.recordId⟩ := by
  obtain ⟨binding, hbinding, h⟩ := Option.bind_eq_some_iff.mp h
  obtain ⟨table, htable, h⟩ := Option.bind_eq_some_iff.mp h
  cases h
  obtain ⟨hmem, hkey⟩ := Keyed.mem_of_find?_key htable
  exact ⟨binding, hbinding, table, hmem, hkey, rfl⟩

/-- What is stored of a run, with who has claimed it until when, and the bases of the provider. -/
structure ProvisioningWorld where
  state : ManagedProvisioningState
  lease : Option (String × ℤ)
  leaseVersion : ℕ
  links : KeyedMap fun link : StoredSnapshotLink => (link.tableKey, link.subjectKey)
  bases : KeyedMap AirtableBase.id

/-- The subjects of a page of a source, and the cursor of the next. -/
structure SubjectPage where
  subjects : List String
  nextCursor : Option String

/-- Which subjects are on the page of a table at a cursor. -/
abbrev SubjectSource : Type := String → Option String → SubjectPage

namespace ProvisioningWorld

variable (w : ProvisioningWorld)

def Free (nowMs : ℤ) : Prop := ∀ lease ∈ w.lease, lease.2 ≤ nowMs

/-- A claim is the last one, and what was claimed is stored. -/
def Current (claim : ManagedProvisioningClaim) : Prop :=
  w.state.connectionId = claim.state.connectionId ∧ w.state.version = claim.state.version ∧
    w.lease.map (·.1) = some claim.workerId ∧ w.leaseVersion = claim.leaseVersion

def claim (workerId : String) (expiresAtMs : ℤ) : ProvisioningWorld :=
  { w with lease := some (workerId, expiresAtMs), leaseVersion := w.leaseVersion + 1 }

def complete (nextState : ManagedProvisioningState) (links : List StoredSnapshotLink) :
    ProvisioningWorld :=
  { w with state := nextState, lease := none, links := links.foldl KeyedMap.set w.links }

def setBase (base : AirtableBase) : ProvisioningWorld := { w with bases := w.bases.set base }

def setTable (base : AirtableBase) (table : AirtableTable) : ProvisioningWorld :=
  w.setBase { base with tables := base.tables.set table }

def table? (baseId tableId : String) : Option AirtableTable :=
  (w.bases.get baseId).bind fun base => base.tables.get tableId

/-- A base comes to be, with tables without records. -/
def CreatesBase (base : AirtableBase) (w' : ProvisioningWorld) : Prop :=
  w.bases.get base.id = none ∧ (∀ table ∈ base.tables.values, table.records.values = []) ∧
    w' = w.setBase base

def CreatesTable (baseId : Option String) (table : AirtableTable) (w' : ProvisioningWorld) :
    Prop :=
  ∃ base, baseId = some base.id ∧ w.bases.get base.id = some base ∧
    base.tables.get table.schema.id = none ∧ table.records.values = [] ∧ w' = w.setTable base table

def Writes (baseId tableId mergeOnFieldId : String) (writes : List AirtableCells)
    (made : List (ℕ × String)) (w' : ProvisioningWorld) : Prop :=
  ∃ base table table', w.bases.get baseId = some base ∧ base.tables.get tableId = some table ∧
    AirtableTable.Written mergeOnFieldId writes table made table' ∧ w' = w.setTable base table'

/-- How a call is answered, and what it changes. -/
inductive Exec (source : SubjectSource) : ProvisioningWorld → (c : ProvisioningCall) → c.Answer →
    ProvisioningWorld → Prop where
  | claimed {w : ProvisioningWorld} {workerId : String} {nowMs leaseMs : ℤ} (hfree : w.Free nowMs) :
      Exec source w (.claim w.state.connectionId workerId nowMs leaseMs)
        (some ⟨w.state, workerId, w.leaseVersion + 1⟩) (w.claim workerId (nowMs + leaseMs))
  | unclaimed {w : ProvisioningWorld} {connectionId workerId : String} {nowMs leaseMs : ℤ} :
      Exec source w (.claim connectionId workerId nowMs leaseMs) none w
  | completed {w : ProvisioningWorld} {claim : ManagedProvisioningClaim}
      {nextState : ManagedProvisioningState} {links : List SnapshotRecordLink} {nowMs : ℤ}
      {stored : List StoredSnapshotLink} (hcurrent : w.Current claim)
      (hstored : links.mapM nextState.storedLink = some stored) :
      Exec source w (.complete claim nextState links nowMs) true (w.complete nextState stored)
  | lost {w : ProvisioningWorld} {claim : ManagedProvisioningClaim}
      {nextState : ManagedProvisioningState} {links : List SnapshotRecordLink} {nowMs : ℤ}
      (hstale : ¬ w.Current claim) :
      Exec source w (.complete claim nextState links nowMs) false w
  | createdBase {w w' : ProvisioningWorld} {workspaceId name : Option String}
      {tables : List AirtableCreateTableInput} {base : AirtableBase}
      (hcreates : w.CreatesBase base w') :
      Exec source w (.createBase workspaceId name tables) (.ok base.schema) w'
  | createBaseFailed {w w' : ProvisioningWorld} {workspaceId name : Option String}
      {tables : List AirtableCreateTableInput} {failure : AirtableProviderFailure}
      (hcreates : w' = w ∨ ∃ base, w.CreatesBase base w') :
      Exec source w (.createBase workspaceId name tables) (.error failure) w'
  | inspected {w : ProvisioningWorld} {base : AirtableBase} (hbase : w.bases.get base.id = some base) :
      Exec source w (.getBaseSchema (some base.id)) (.ok base.schema) w
  | inspectionFailed {w : ProvisioningWorld} {baseId : Option String}
      {failure : AirtableProviderFailure} :
      Exec source w (.getBaseSchema baseId) (.error failure) w
  | createdTable {w w' : ProvisioningWorld} {baseId : Option String}
      {input : AirtableCreateTableInput} {table : AirtableTable}
      (hcreates : w.CreatesTable baseId table w') :
      Exec source w (.createTable baseId input) (.ok table.schema) w'
  | createTableFailed {w w' : ProvisioningWorld} {baseId : Option String}
      {input : AirtableCreateTableInput} {failure : AirtableProviderFailure}
      (hcreates : w' = w ∨ ∃ table, w.CreatesTable baseId table w') :
      Exec source w (.createTable baseId input) (.error failure) w'
  | paged {w : ProvisioningWorld} {connectionId tableKey : String} {cursor : Option String}
      {page : ManagedSnapshotPage}
      (hsubjects : page.records.map (·.subjectKey) = (source tableKey cursor).subjects)
      (hnext : page.nextCursor = (source tableKey cursor).nextCursor) :
      Exec source w (.listPage connectionId tableKey cursor) page w
  | patched {w w' : ProvisioningWorld} {baseId tableId mergeOnFieldId : String}
      {writes : List AirtableCells} {made : List (ℕ × String)}
      {dispositions : List AirtableWriteDisposition}
      (hwrites : w.Writes baseId tableId mergeOnFieldId writes made w')
      (hmade : ∀ i record, .written i record ∈ dispositions → (i, record.id) ∈ made) :
      Exec source w (.patchRecords baseId tableId mergeOnFieldId writes) (.ok dispositions) w'
  | patchFailed {w w' : ProvisioningWorld} {baseId tableId mergeOnFieldId : String}
      {writes : List AirtableCells} {failure : AirtableProviderFailure}
      (hwrites : w' = w ∨ ∃ made, w.Writes baseId tableId mergeOnFieldId writes made w') :
      Exec source w (.patchRecords baseId tableId mergeOnFieldId writes) (.error failure) w'
  | listed {w : ProvisioningWorld} {baseId tableId : String} {fieldIds : List String}
      {offset : Option String} {answer : Except AirtableProviderFailure AirtableRecordPage} :
      Exec source w (.listRecords baseId tableId fieldIds offset) answer w

end ProvisioningWorld

end JooEvents
