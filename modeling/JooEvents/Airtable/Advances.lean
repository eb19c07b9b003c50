import JooEvents.Airtable.Provider

/-!
# What holds while a base is provisioned

A run is about a manifest and the subjects that a source pages through (`ManagedSnapshot`).
`ProvisioningInv` says how far the subjects of each table have come : those of the pages that
were read are linked to their rows, the others are not, and the bound tables have rows of
subjects alone. `ProvisioningLe` says how the world moves : the version never goes back, a
binding stays, and rows stay.

What the provider is asked leaves all of it alone or adds to the rows
(`WorldKept`). A completion keeps it when the next state is one that a phase advances to
(`ProvisioningAdvances`).
-/

namespace JooEvents

/-- The pages of a table from a cursor on have these subjects, in this order. -/
inductive Enumerates (source : SubjectSource) (tableKey : String) :
    Option String → List String → Prop where
  | last {cursor : Option String} (hlast : (source tableKey cursor).nextCursor = none) :
      Enumerates source tableKey cursor (source tableKey cursor).subjects
  | page {cursor : Option String} {next : String} {rest : List String}
      (hnext : (source tableKey cursor).nextCursor = some next)
      (hrest : Enumerates source tableKey (some next) rest) :
      Enumerates source tableKey cursor ((source tableKey cursor).subjects ++ rest)

/-- A manifest, and a source that pages through subjects for its tables, each once. -/
structure ManagedSnapshot where
  manifest : ManagedBaseManifest
  source : SubjectSource
  subjects : String → List String
  subjects_nodup : ∀ tableKey, (subjects tableKey).Nodup
  enumerates : ∀ table ∈ manifest.tables, Enumerates source table.key none (subjects table.key)

def ManagedBaseManifest.tableNames (manifest : ManagedBaseManifest) : List String :=
  manifest.tables.map (·.name)

namespace ProvisioningWorld

variable (w : ProvisioningWorld)

/-! ## What is seen of the bases -/

def rows (binding : ManagedSchemaBinding) (bound : ManagedTableBinding) :
    List (Option (Json Empty) × String) :=
  ((w.table? binding.baseId bound.tableId).map (·.rows bound.stableIdFieldId)).getD []

def Described (schema : AirtableBaseSchema) : Prop :=
  ∀ table ∈ schema.tables, ∃ actual, w.table? schema.id table.id = some actual ∧
    actual.schema = table

/-- The tables of a base that have these names have no records. -/
def Unfilled (names : List String) (baseId : String) : Prop :=
  ∀ tableId table, w.table? baseId tableId = some table → table.schema.name ∈ names →
    table.records.values = []

def Linked (binding : ManagedSchemaBinding) (bound : ManagedTableBinding) (subject : String) :
    Prop :=
  ∃ id, (some (.text subject), id) ∈ w.rows binding bound ∧
    w.links.get (bound.key, subject) = some ⟨bound.key, subject, bound.tableId, id⟩

variable {w} {w' : ProvisioningWorld}

theorem table?_setTable {base : AirtableBase} {table : AirtableTable}
    (hbase : w.bases.get base.id = some base) (baseId tableId : String) :
    (w.setTable base table).table? baseId tableId =
      if base.id = baseId ∧ table.schema.id = tableId then some table
      else w.table? baseId tableId := by
  unfold setTable setBase table?
  rw [KeyedMap.get_set]
  by_cases hid : base.id = baseId
  · subst hid
    rw [if_pos rfl, hbase, Option.bind_some, Option.bind_some, KeyedMap.get_set]
    simp
  · rw [if_neg hid, if_neg fun h => hid h.1]

/-- A call changes neither the stored state nor the links, and of the tables of the bases none,
or adds some without records. -/
structure Grows (w w' : ProvisioningWorld) : Prop where
  state : w'.state = w.state
  links : w'.links = w.links
  tables : ∀ baseId tableId, w'.table? baseId tableId = w.table? baseId tableId ∨
    w.table? baseId tableId = none ∧
      ∃ table, w'.table? baseId tableId = some table ∧ table.records.values = []

theorem Grows.refl (w : ProvisioningWorld) : w.Grows w := ⟨rfl, rfl, fun _ _ => .inl rfl⟩

theorem CreatesBase.grows {base : AirtableBase} (h : w.CreatesBase base w') : w.Grows w' := by
  obtain ⟨hnew, hempty, rfl⟩ := h
  refine ⟨rfl, rfl, fun baseId tableId => ?_⟩
  unfold table? setBase
  rw [KeyedMap.get_set]
  by_cases hid : base.id = baseId
  · subst hid
    rw [if_pos rfl, hnew, Option.bind_some]
    cases htable : base.tables.get tableId with
    | none => exact .inl rfl
    | some table => exact .inr ⟨rfl, table, rfl, hempty table (List.mem_of_find?_eq_some htable)⟩
  · rw [if_neg hid]
    exact .inl rfl

theorem CreatesTable.grows {baseId : Option String} {table : AirtableTable}
    (h : w.CreatesTable baseId table w') : w.Grows w' := by
  obtain ⟨base, -, hbase, hnew, hempty, rfl⟩ := h
  refine ⟨rfl, rfl, fun baseId tableId => ?_⟩
  rw [table?_setTable hbase]
  split_ifs with hid
  · obtain ⟨rfl, rfl⟩ := hid
    refine .inr ⟨?_, table, rfl, hempty⟩
    rw [table?, hbase, Option.bind_some, hnew]
  · exact .inl rfl

theorem Writes.tables {baseId tableId mergeOnFieldId : String} {writes : List AirtableCells}
    {made : List (ℕ × String)} (h : w.Writes baseId tableId mergeOnFieldId writes made w') :
    w'.state = w.state ∧ w'.links = w.links ∧
      ∃ table table', w.table? baseId tableId = some table ∧
        AirtableTable.Written mergeOnFieldId writes table made table' ∧
        ∀ baseId' tableId', w'.table? baseId' tableId' =
          if baseId = baseId' ∧ tableId = tableId' then some table'
          else w.table? baseId' tableId' := by
  obtain ⟨base, table, table', hbase, htable, hwritten, rfl⟩ := h
  have hid : base.id = baseId := KeyedMap.key_of_get hbase
  have htableId := KeyedMap.key_of_get htable
  have hschema : table'.schema.id = tableId := hwritten.schema ▸ htableId
  subst hid hschema
  refine ⟨rfl, rfl, table, table', ?_, hwritten, table?_setTable hbase⟩
  rw [table?, hbase]
  exact htable

end ProvisioningWorld

/-! ## How the world moves -/

/-- The world has moved. -/
structure ProvisioningLe (names : List String) (w w' : ProvisioningWorld) : Prop where
  version : w.state.version ≤ w'.state.version
  same : w'.state.version = w.state.version → w'.state = w.state
  binding : ∀ b, w.state.binding = some b → w'.state.binding = some b
  rows : ∀ b, w.state.binding = some b → ∀ bound ∈ b.tables, w.rows b bound <+: w'.rows b bound
  described : ∀ schema, w.Described schema → w'.Described schema
  unfilled : w'.state.binding = none → ∀ baseId, w.Unfilled names baseId → w'.Unfilled names baseId

namespace ProvisioningLe

variable {names : List String} {w w' w'' : ProvisioningWorld}

theorem refl (w : ProvisioningWorld) : ProvisioningLe names w w where
  version := le_rfl
  same _ := rfl
  binding _ h := h
  rows _ _ _ _ := List.prefix_refl _
  described _ h := h
  unfilled _ _ h := h

theorem trans (h : ProvisioningLe names w w') (h' : ProvisioningLe names w' w'') :
    ProvisioningLe names w w'' where
  version := h.version.trans h'.version
  same heq := by
    have hle := h.version
    have hle' := h'.version
    rw [h'.same (by omega), h.same (by omega)]
  binding b hb := h'.binding b (h.binding b hb)
  rows b hb bound hbound :=
    (h.rows b hb bound hbound).trans (h'.rows b (h.binding b hb) bound hbound)
  described schema hschema := h'.described schema (h.described schema hschema)
  unfilled hnone baseId hunfilled := by
    refine h'.unfilled hnone baseId (h.unfilled ?_ baseId hunfilled)
    cases hb : w'.state.binding with
    | none => rfl
    | some b => exact absurd ((h'.binding b hb).symm.trans hnone) (by simp)

theorem complete {next : ManagedProvisioningState} {stored : List StoredSnapshotLink}
    (hversion : next.version = w.state.version + 1)
    (hbinding : ∀ b, w.state.binding = some b → next.binding = some b) :
    ProvisioningLe names w (w.complete next stored) where
  version := by
    change w.state.version ≤ next.version
    omega
  same heq := absurd (heq.symm.trans hversion) (by simp)
  binding := hbinding
  rows _ _ _ _ := List.prefix_refl _
  described _ h := h
  unfilled _ _ h := h

end ProvisioningLe

/-- A call leaves the stored state and the links, and adds to the rows at most rows of subjects. -/
structure WorldKept (subjects : String → List String) (names : List String) (good : Prop)
    (w w' : ProvisioningWorld) : Prop where
  state : w'.state = w.state
  links : w'.links = w.links
  rows : ∀ b, w.state.binding = some b → ∀ bound ∈ b.tables, w.rows b bound <+: w'.rows b bound
  rowsOf : good → ∀ b, w.state.binding = some b → ∀ bound ∈ b.tables,
    AirtableTable.RowsOf (subjects bound.key) (w.rows b bound) →
    AirtableTable.RowsOf (subjects bound.key) (w'.rows b bound)
  described : ∀ schema, w.Described schema → w'.Described schema
  unfilled : w.state.binding = none → ∀ baseId, w.Unfilled names baseId → w'.Unfilled names baseId

namespace WorldKept

variable {subjects : String → List String} {names : List String} {good : Prop}
  {w w' : ProvisioningWorld}

theorem le (h : WorldKept subjects names good w w') : ProvisioningLe names w w' where
  version := by rw [h.state]
  same _ := h.state
  binding b hb := h.state ▸ hb
  rows := h.rows
  described := h.described
  unfilled hnone := h.unfilled (h.state ▸ hnone)

theorem of_grows (h : w.Grows w') : WorldKept subjects names good w w' := by
  have hrows : ∀ b bound, w'.rows b bound = w.rows b bound := by
    intro b bound
    unfold ProvisioningWorld.rows
    rcases h.tables b.baseId bound.tableId with heq | ⟨hnone, table, hsome, hempty⟩
    · rw [heq]
    · rw [hnone, hsome, Option.map_some, AirtableTable.rows, hempty]
      rfl
  refine ⟨h.state, h.links, fun b _ bound _ => ?_, fun _ b _ bound _ hrowsOf => ?_,
    fun schema hschema table htable => ?_, fun _ baseId hunfilled tableId table htable hname => ?_⟩
  · exact hrows b bound ▸ List.prefix_refl _
  · rwa [hrows]
  · obtain ⟨actual, hactual, heq⟩ := hschema table htable
    rcases h.tables schema.id table.id with hsame | ⟨hnone, -⟩
    · exact ⟨actual, hsame.trans hactual, heq⟩
    · exact absurd (hactual.symm.trans hnone) (by simp)
  · rcases h.tables baseId tableId with hsame | ⟨-, new, hnew, hempty⟩
    · exact hunfilled tableId table (hsame ▸ htable) hname
    · cases hnew.symm.trans htable
      exact hempty

theorem of_writes {b : ManagedSchemaBinding} {bound : ManagedTableBinding}
    {writes : List AirtableCells} {made : List (ℕ × String)}
    (hbinding : w.state.binding = some b) (hbound : bound ∈ b.tables)
    (hnodup : (b.tables.map (·.tableId)).Nodup)
    (hwrites : good → ∀ write ∈ writes, ∃ s ∈ subjects bound.key,
      write.cell bound.stableIdFieldId = some (.text s))
    (h : w.Writes b.baseId bound.tableId bound.stableIdFieldId writes made w') :
    WorldKept subjects names good w w' := by
  obtain ⟨hstate, hlinks, table, table', htable, hwritten, htables⟩ := h.tables
  have hrows : w.rows b bound = table.rows bound.stableIdFieldId := by
    rw [ProvisioningWorld.rows, htable]
    rfl
  have hrows' : w'.rows b bound = table'.rows bound.stableIdFieldId := by
    rw [ProvisioningWorld.rows, htables, if_pos ⟨rfl, rfl⟩]
    rfl
  have hother : ∀ other ∈ b.tables, other ≠ bound → w'.rows b other = w.rows b other := by
    intro other hmem hne
    have hid : ¬ (b.baseId = b.baseId ∧ bound.tableId = other.tableId) := fun h =>
      hne (Keyed.eq_of_key_eq hnodup hmem hbound h.2.symm)
    rw [ProvisioningWorld.rows, htables, if_neg hid, ProvisioningWorld.rows]
  refine ⟨hstate, hlinks, fun b' hb' other hmem => ?_, fun hgood b' hb' other hmem hrowsOf => ?_,
    fun schema hschema schemaTable hmem => ?_, fun hnone => ?_⟩
  · cases hb'.symm.trans hbinding
    by_cases heq : other = bound
    · rw [heq, hrows, hrows']
      exact hwritten.rows_kept
    · exact hother other hmem heq ▸ List.prefix_refl _
  · cases hb'.symm.trans hbinding
    by_cases heq : other = bound
    · subst heq
      rw [hrows']
      exact hwritten.rowsOf (hwrites hgood) (hrows ▸ hrowsOf)
    · rwa [hother other hmem heq]
  · obtain ⟨actual, hactual, heq⟩ := hschema schemaTable hmem
    rw [htables]
    split_ifs with hid
    · obtain ⟨hbase, hid⟩ := hid
      rw [← hbase, ← hid, htable] at hactual
      cases hactual
      exact ⟨table', rfl, hwritten.schema.trans heq⟩
    · exact ⟨actual, hactual, heq⟩
  · exact absurd (hbinding.symm.trans hnone) (by simp)

end WorldKept

/-! ## The invariant -/

/-- From a phase to one that follows it, or to attention. -/
inductive ManagedProvisioningPhase.Next :
    ManagedProvisioningPhase → ManagedProvisioningPhase → Prop where
  | baseCreated : Next .create_base .snapshot
  | inspected : Next .inspect_base .create_tables
  | tableCreated : Next .create_tables .create_tables
  | tablesCreated : Next .create_tables .snapshot
  | projected : Next .snapshot .snapshot
  | allProjected : Next .snapshot .verify
  | verified : Next .verify .verify
  | allVerified : Next .verify .ready
  | attention (phase : ManagedProvisioningPhase) : Next phase .attention

/-- A binding of the tables of a manifest, to distinct tables. -/
structure SchemaBound (manifest : ManagedBaseManifest) (b : ManagedSchemaBinding) : Prop where
  tables : List.Forall₂ BoundTable manifest.tables b.tables
  tableIds_nodup : (b.tables.map (·.tableId)).Nodup

theorem SchemaBound.keys {manifest : ManagedBaseManifest} {b : ManagedSchemaBinding}
    (h : SchemaBound manifest b) : b.tables.map (·.key) = manifest.tables.map (·.key) :=
  Keyed.map_eq_of_forall₂ (fun _ _ h => h.key) h.tables

section

variable (P : ManagedSnapshot) (good : Prop)

/-- The subjects of a table that were projected are `done`, and if all is `good` they are linked
to their rows. The others are still to come from the cursor of the table. -/
structure TableProgress (w : ProvisioningWorld) (t : ManagedProvisioningTableState)
    (done : List String) : Prop where
  rest : ∃ rest, P.subjects t.tableKey = done ++ rest ∧
    (t.snapshotComplete = true → rest = []) ∧
    (t.snapshotComplete = false → Enumerates P.source t.tableKey t.snapshotCursor rest)
  unlinked : ∀ s, s ∉ done → w.links.get (t.tableKey, s) = none
  linked : good → ∀ b, w.state.binding = some b → ∀ bound ∈ b.tables, bound.key = t.tableKey →
    ∀ s ∈ done, w.Linked b bound s
  unbound : w.state.binding = none → done = []

/-- What holds of the stored state, the links and the bases. -/
structure ProvisioningInv (w : ProvisioningWorld) : Prop where
  digest : w.state.manifestDigestSha256 = P.manifest.digestSha256
  tableKeys : w.state.tables.map (·.tableKey) = P.manifest.tables.map (·.key)
  phase_bound : w.state.binding ≠ none → w.state.phase ≠ .create_base ∧
    w.state.phase ≠ .inspect_base ∧ w.state.phase ≠ .create_tables
  phase_unbound : w.state.binding = none → w.state.phase ≠ .snapshot ∧
    w.state.phase ≠ .verify ∧ w.state.phase ≠ .ready
  schema : ∀ b, w.state.binding = some b → SchemaBound P.manifest b
  rowsOf : good → ∀ b, w.state.binding = some b → ∀ bound ∈ b.tables,
    AirtableTable.RowsOf (P.subjects bound.key) (w.rows b bound)
  progress : ∀ t ∈ w.state.tables, ∃ done, TableProgress P good w t done
  unfilled : w.state.phase = .create_tables → ∀ baseId, w.state.providerBaseId = some baseId →
    w.Unfilled P.manifest.tableNames baseId
  complete : w.state.phase = .verify ∨ w.state.phase = .ready →
    ∀ t ∈ w.state.tables, t.snapshotComplete = true

/-- A next state, with its links, may be stored. -/
structure ProvisioningAdvances (w : ProvisioningWorld) (next : ProvisioningAdvance) : Prop where
  version : next.1.version = w.state.version + 1
  phase : w.state.phase.Next next.1.phase
  binding : ∀ b, w.state.binding = some b → next.1.binding = some b
  inv : ∀ stored, next.2.mapM next.1.storedLink = some stored →
    ProvisioningInv P good (w.complete next.1 stored)

end

variable {P : ManagedSnapshot} {good : Prop} {w w' : ProvisioningWorld}

theorem ProvisioningInv.kept (h : ProvisioningInv P good w)
    (hkept : WorldKept P.subjects P.manifest.tableNames good w w') : ProvisioningInv P good w' where
  digest := hkept.state ▸ h.digest
  tableKeys := hkept.state ▸ h.tableKeys
  phase_bound := hkept.state ▸ h.phase_bound
  phase_unbound := hkept.state ▸ h.phase_unbound
  schema := hkept.state ▸ h.schema
  rowsOf hgood b hb bound hbound := by
    rw [hkept.state] at hb
    exact hkept.rowsOf hgood b hb bound hbound (h.rowsOf hgood b hb bound hbound)
  progress t ht := by
    rw [hkept.state] at ht
    obtain ⟨done, hdone⟩ := h.progress t ht
    refine ⟨done, hdone.rest, hkept.links ▸ hdone.unlinked, fun hgood b hb bound hbound hkey s hs => ?_,
      hkept.state ▸ hdone.unbound⟩
    rw [hkept.state] at hb
    obtain ⟨id, hrow, hlink⟩ := hdone.linked hgood b hb bound hbound hkey s hs
    exact ⟨id, (hkept.rows b hb bound hbound).subset hrow, hkept.links ▸ hlink⟩
  unfilled hphase baseId hbase := by
    rw [hkept.state] at hphase hbase
    refine hkept.unfilled ?_ baseId (h.unfilled hphase baseId hbase)
    by_contra hbound
    exact (h.phase_bound hbound).2.2 hphase
  complete := hkept.state ▸ h.complete

/-! ## What is stored next -/

theorem ProvisioningInv.completePhase (h : ProvisioningInv P good w)
    {next : ManagedProvisioningState}
    (hdigest : next.manifestDigestSha256 = w.state.manifestDigestSha256)
    (htables : next.tables = w.state.tables) (hbinding : next.binding = w.state.binding)
    (hphase_bound : next.binding ≠ none → next.phase ≠ .create_base ∧
      next.phase ≠ .inspect_base ∧ next.phase ≠ .create_tables)
    (hphase_unbound : next.binding = none → next.phase ≠ .snapshot ∧
      next.phase ≠ .verify ∧ next.phase ≠ .ready)
    (hunfilled : next.phase = .create_tables → ∀ baseId, next.providerBaseId = some baseId →
      w.Unfilled P.manifest.tableNames baseId)
    (hcomplete : next.phase = .verify ∨ next.phase = .ready →
      ∀ t ∈ w.state.tables, t.snapshotComplete = true) :
    ProvisioningInv P good (w.complete next []) where
  digest := hdigest.trans h.digest
  tableKeys := (congrArg _ htables).trans h.tableKeys
  phase_bound := hphase_bound
  phase_unbound := hphase_unbound
  schema b hb := h.schema b (hbinding.symm.trans hb)
  rowsOf hgood b hb := h.rowsOf hgood b (hbinding.symm.trans hb)
  progress t ht := by
    obtain ⟨done, hdone⟩ := h.progress t (htables ▸ ht)
    exact ⟨done, hdone.rest, hdone.unlinked,
      fun hgood b hb => hdone.linked hgood b (hbinding.symm.trans hb),
      fun hnone => hdone.unbound (hbinding.symm.trans hnone)⟩
  unfilled := hunfilled
  complete hphase t ht := hcomplete hphase t (htables ▸ ht)

theorem eq_nil_of_mapM_nil {stored : List StoredSnapshotLink} {f : SnapshotRecordLink → Option _}
    (h : [].mapM f = some stored) : stored = [] := by
  simpa using h.symm

theorem advances_toAttention (h : ProvisioningInv P good w) (code : String) :
    ProvisioningAdvances P good w (w.state.toAttention code, []) where
  version := rfl
  phase := .attention _
  binding _ hb := hb
  inv stored hstored := by
    cases eq_nil_of_mapM_nil hstored
    refine h.completePhase rfl rfl rfl ?_ ?_ ?_ ?_ <;>
      simp [ManagedProvisioningState.toAttention]

theorem advances_createTables (h : ProvisioningInv P good w) (hphase : w.state.phase = .inspect_base)
    (hunfilled : ∀ baseId, w.state.providerBaseId = some baseId →
      w.Unfilled P.manifest.tableNames baseId) :
    ProvisioningAdvances P good w (w.state.toPhase .create_tables, []) where
  version := rfl
  phase := hphase ▸ .inspected
  binding _ hb := hb
  inv stored hstored := by
    cases eq_nil_of_mapM_nil hstored
    refine h.completePhase rfl rfl rfl (fun hbound => ?_) ?_ (fun _ => hunfilled) ?_
    · exact absurd hphase (h.phase_bound hbound).2.1
    · simp [ManagedProvisioningState.toPhase]
    · simp [ManagedProvisioningState.toPhase]

theorem advances_withCreated (h : ProvisioningInv P good w)
    (hphase : w.state.phase = .create_tables) (tableKey : String) :
    ProvisioningAdvances P good w (w.state.withCreated tableKey, []) where
  version := rfl
  phase := by
    change w.state.phase.Next w.state.phase
    exact hphase ▸ .tableCreated
  binding _ hb := hb
  inv stored hstored := by
    cases eq_nil_of_mapM_nil hstored
    exact h.completePhase rfl rfl rfl h.phase_bound h.phase_unbound h.unfilled h.complete

theorem advances_verify (h : ProvisioningInv P good w) (hphase : w.state.phase = .snapshot)
    (hcomplete : ∀ t ∈ w.state.tables, t.snapshotComplete = true) :
    ProvisioningAdvances P good w (w.state.toPhase .verify, []) where
  version := rfl
  phase := hphase ▸ .allProjected
  binding _ hb := hb
  inv stored hstored := by
    cases eq_nil_of_mapM_nil hstored
    refine h.completePhase rfl rfl rfl ?_ (fun hnone => ?_) ?_ fun _ => hcomplete
    · simp [ManagedProvisioningState.toPhase]
    · exact absurd hphase (h.phase_unbound hnone).1
    · simp [ManagedProvisioningState.toPhase]

theorem advances_ready (h : ProvisioningInv P good w) (hphase : w.state.phase = .verify) :
    ProvisioningAdvances P good w (w.state.toPhase .ready, []) where
  version := rfl
  phase := hphase ▸ .allVerified
  binding _ hb := hb
  inv stored hstored := by
    cases eq_nil_of_mapM_nil hstored
    refine h.completePhase rfl rfl rfl ?_ (fun hnone => ?_) ?_ fun _ => h.complete (.inl hphase)
    · simp [ManagedProvisioningState.toPhase]
    · exact absurd hphase (h.phase_unbound hnone).2.1
    · simp [ManagedProvisioningState.toPhase]

theorem rows_eq_nil {schema : AirtableBaseSchema} {b : ManagedSchemaBinding}
    {bound : ManagedTableBinding} {actual : AirtableTableSchema} {names : List String}
    (hbase : b.baseId = schema.id) (hdescribed : w.Described schema)
    (hunfilled : w.Unfilled names schema.id) (hactual : actual ∈ schema.tables)
    (hname : actual.name ∈ names) (hid : bound.tableId = actual.id) : w.rows b bound = [] := by
  obtain ⟨table, htable, rfl⟩ := hdescribed actual hactual
  rw [ProvisioningWorld.rows, hbase, hid, htable, Option.map_some, Option.getD_some,
    AirtableTable.rows, hunfilled _ table htable hname, List.map_nil]

theorem advances_bindCreated (h : ProvisioningInv P good w)
    (hphase : w.state.phase = .create_base ∨ w.state.phase = .create_tables)
    {schema : AirtableBaseSchema} (hschema : schema.WellFormed) (hdescribed : w.Described schema)
    (hunfilled : w.Unfilled P.manifest.tableNames schema.id) (createdTableKeys : List String) :
    ProvisioningAdvances P good w (bindCreated P.manifest w.state createdTableKeys schema, []) := by
  have hnone : w.state.binding = none := by
    by_contra hbound
    have := h.phase_bound hbound
    tauto
  unfold bindCreated
  split
  · exact advances_toAttention h _
  · next b hb =>
    obtain ⟨-, hbase, hnodup, hall⟩ := bindManagedSchema_eq_ok hschema hb
    refine ⟨rfl, ?_, fun b' hb' => absurd (hnone.symm.trans hb') (by simp), fun stored hstored => ?_⟩
    · rcases hphase with hphase | hphase <;> rw [hphase]
      · exact .baseCreated
      · exact .tablesCreated
    cases eq_nil_of_mapM_nil hstored
    have hrows : ∀ bound ∈ b.tables, w.rows b bound = [] := by
      intro bound hmem
      obtain ⟨table, htable, -, actual, hactual, hname, hid⟩ :=
        Keyed.exists_left_of_forall₂ hall hmem
      exact rows_eq_nil hbase hdescribed hunfilled hactual
        (hname ▸ List.mem_map_of_mem htable) hid
    refine ⟨h.digest, h.tableKeys, by simp [ProvisioningWorld.complete,
      ManagedProvisioningState.toSnapshot], fun hb' => absurd hb' (by simp
      [ProvisioningWorld.complete, ManagedProvisioningState.toSnapshot]), fun b' hb' => ?_,
      fun _ b' hb' bound hbound => ?_, fun t ht => ?_, by simp [ProvisioningWorld.complete,
      ManagedProvisioningState.toSnapshot], by simp [ProvisioningWorld.complete,
      ManagedProvisioningState.toSnapshot]⟩
    · cases hb'
      exact ⟨hall.imp fun _ _ h => h.1, hnodup⟩
    · cases hb'
      change AirtableTable.RowsOf _ (w.rows b bound)
      rw [hrows bound hbound]
      exact ⟨[], rfl, List.nodup_nil, List.nil_subset _⟩
    · obtain ⟨done, hdone⟩ := h.progress t ht
      have hempty := hdone.unbound hnone
      subst hempty
      exact ⟨[], hdone.rest, hdone.unlinked, fun _ _ _ _ _ _ s hs => absurd hs List.not_mem_nil,
        fun _ => rfl⟩

theorem advances_withTable (h : ProvisioningInv P good w) {table : ManagedProvisioningTableState}
    {update : ManagedProvisioningTableState → ManagedProvisioningTableState}
    {links : List SnapshotRecordLink} (htable : table ∈ w.state.tables)
    (hphase : w.state.phase = .snapshot ∨ w.state.phase = .verify)
    (hkey : ∀ t, (update t).tableKey = t.tableKey)
    (hlinks : ∀ link ∈ links, link.tableKey = table.tableKey)
    (hcomplete : w.state.phase = .verify → (update table).snapshotComplete = true)
    (hprogress : ∀ stored,
      links.mapM (w.state.withTable table.tableKey update).storedLink = some stored →
      ∃ done, TableProgress P good
        (w.complete (w.state.withTable table.tableKey update) stored) (update table) done) :
    ProvisioningAdvances P good w (w.state.withTable table.tableKey update, links) := by
  have hkeys_nodup : (w.state.tables.map (·.tableKey)).Nodup :=
    h.tableKeys ▸ P.manifest.tableKeys_nodup
  -- a table of the next state is the one that was updated, or another as it was
  have hmem : ∀ t ∈ (w.state.withTable table.tableKey update).tables,
      t = update table ∨ t ∈ w.state.tables ∧ t.tableKey ≠ table.tableKey := by
    intro t ht
    obtain ⟨old, hold, rfl⟩ := List.mem_map.mp ht
    split_ifs with heq
    · exact .inl (congrArg update (Keyed.eq_of_key_eq hkeys_nodup hold htable heq))
    · exact .inr ⟨hold, heq⟩
  have hother : ∀ t : ManagedProvisioningTableState, t.tableKey ≠ table.tableKey →
      ∀ stored s, links.mapM (w.state.withTable table.tableKey update).storedLink = some stored →
      (w.complete (w.state.withTable table.tableKey update) stored).links.get (t.tableKey, s) =
        w.links.get (t.tableKey, s) := by
    intro t hne stored s hstored
    refine KeyedMap.get_foldl_set_of_ne fun link hlink hsame => hne ?_
    obtain ⟨source, hsource, hlink⟩ :=
      Keyed.exists_left_of_forall₂ (forall₂_of_mapM_eq_some hstored) hlink
    obtain ⟨_, -, _, -, -, rfl⟩ := ManagedProvisioningState.storedLink_eq_some hlink
    exact (congrArg Prod.fst hsame).symm.trans (hlinks source hsource)
  refine ⟨rfl, ?_, fun _ hb => hb, fun stored hstored => ⟨h.digest, ?_, h.phase_bound,
    h.phase_unbound, h.schema, h.rowsOf, fun t ht => ?_, ?_, ?_⟩⟩
  · change w.state.phase.Next w.state.phase
    rcases hphase with hphase | hphase <;> rw [hphase]
    · exact .projected
    · exact .verified
  · rw [← h.tableKeys]
    change List.map _ (List.map _ _) = _
    rw [List.map_map]
    refine List.map_congr_left fun t _ => ?_
    rw [Function.comp_apply]
    split_ifs
    · exact hkey t
    · rfl
  · rcases hmem t ht with rfl | ⟨ht, hne⟩
    · exact hprogress stored hstored
    · obtain ⟨done, hdone⟩ := h.progress t ht
      refine ⟨done, hdone.rest, fun s hs => ?_, fun hgood b hb bound hbound hboundKey s hs => ?_,
        hdone.unbound⟩
      · rw [hother t hne stored s hstored]
        exact hdone.unlinked s hs
      · obtain ⟨id, hrow, hlink⟩ := hdone.linked hgood b hb bound hbound hboundKey s hs
        refine ⟨id, hrow, ?_⟩
        rw [hboundKey, hother t hne stored s hstored, ← hboundKey]
        exact hlink
  · intro hcreate
    rcases hphase with hphase | hphase <;> exact absurd (hphase.symm.trans hcreate) (by simp)
  · intro hverify t ht
    have hverify' : w.state.phase = .verify := by
      rcases hphase with hphase | hphase
      · rcases hverify with hverify | hverify <;> exact absurd (hphase.symm.trans hverify) (by simp)
      · exact hphase
    rcases hmem t ht with rfl | ⟨ht, -⟩
    · exact hcomplete hverify'
    · exact h.complete (.inl hverify') t ht

/-! ## A page of a table -/

/-- The links of a page are about its subjects, and if all is `good` they point at their rows and
leave out none. -/
structure PageLinks (good : Prop) (w : ProvisioningWorld) (b : ManagedSchemaBinding)
    (bound : ManagedTableBinding) (subjects : List String) (links : List SnapshotRecordLink) :
    Prop where
  keys : ∀ link ∈ links, link.tableKey = bound.key ∧ link.subjectKey ∈ subjects
  rows : good → ∀ link ∈ links, (some (.text link.subjectKey), link.recordId) ∈ w.rows b bound
  all : good → ∀ s ∈ subjects, ∃ link ∈ links, link.subjectKey = s

theorem PageLinks.mono {names : List String} {b : ManagedSchemaBinding}
    {bound : ManagedTableBinding} {subjects : List String} {links : List SnapshotRecordLink}
    (h : PageLinks good w b bound subjects links) (hbinding : w.state.binding = some b)
    (hbound : bound ∈ b.tables) (hle : ProvisioningLe names w w') :
    PageLinks good w' b bound subjects links :=
  ⟨h.keys, fun hgood link hlink =>
    (hle.rows b hbinding bound hbound).subset (h.rows hgood link hlink), h.all⟩

theorem Enumerates.step {source : SubjectSource} {tableKey : String} {cursor : Option String}
    {subjects : List String} (h : Enumerates source tableKey cursor subjects) :
    ∃ rest, subjects = (source tableKey cursor).subjects ++ rest ∧
      ((source tableKey cursor).nextCursor = none → rest = []) ∧
      ∀ next, (source tableKey cursor).nextCursor = some next →
        Enumerates source tableKey (some next) rest := by
  cases h with
  | last hlast => exact ⟨[], by simp, fun _ => rfl, fun next hnext => by simp [hlast] at hnext⟩
  | @page _ next rest hnext hrest =>
    refine ⟨rest, rfl, fun hnone => by simp [hnext] at hnone, fun next' hnext' => ?_⟩
    cases hnext.symm.trans hnext'
    exact hrest

theorem advances_emptyPage (h : ProvisioningInv P good w) (hphase : w.state.phase = .snapshot)
    {table : ManagedProvisioningTableState} (htable : table ∈ w.state.tables)
    (hopen : table.snapshotComplete = false)
    (hsubjects : (P.source table.tableKey table.snapshotCursor).subjects = [])
    (hlast : (P.source table.tableKey table.snapshotCursor).nextCursor = none) :
    ProvisioningAdvances P good w (w.state.withTable table.tableKey
      fun current => { current with snapshotComplete := true }, []) := by
  refine advances_withTable h htable (.inl hphase) (fun _ => rfl) (by simp) (fun _ => rfl)
    fun stored hstored => ?_
  cases eq_nil_of_mapM_nil hstored
  obtain ⟨done, hdone⟩ := h.progress table htable
  obtain ⟨rest, hall, -, henumerates⟩ := hdone.rest
  obtain ⟨rest', hrest, hend, -⟩ := (henumerates hopen).step
  have hnil : rest = [] := by rw [hrest, hsubjects, hend hlast, List.append_nil]
  exact ⟨done, ⟨rest, hall, fun _ => hnil, fun hopen => by simp at hopen⟩, hdone.unlinked,
    hdone.linked, hdone.unbound⟩

theorem advances_page (h : ProvisioningInv P good w) (hphase : w.state.phase = .snapshot)
    {table : ManagedProvisioningTableState} (htable : table ∈ w.state.tables)
    (hopen : table.snapshotComplete = false) {b : ManagedSchemaBinding}
    {bound : ManagedTableBinding} (hbinding : w.state.binding = some b) (hbound : bound ∈ b.tables)
    (hkey : bound.key = table.tableKey) {page : ManagedSnapshotPage}
    (hsubjects : page.records.map (·.subjectKey) =
      (P.source table.tableKey table.snapshotCursor).subjects)
    (hnext : page.nextCursor = (P.source table.tableKey table.snapshotCursor).nextCursor)
    {links : List SnapshotRecordLink}
    (hlinks : PageLinks good w b bound (page.records.map (·.subjectKey)) links) :
    ProvisioningAdvances P good w
      (w.state.withTable table.tableKey (projectedTable page), links) := by
  refine advances_withTable h htable (.inl hphase) (fun _ => rfl)
    (fun link hlink => (hlinks.keys link hlink).1.trans hkey)
    (fun hverify => absurd (hphase.symm.trans hverify) (by simp)) fun stored hstored => ?_
  obtain ⟨done, hdone⟩ := h.progress table htable
  obtain ⟨rest, hall, -, henumerates⟩ := hdone.rest
  obtain ⟨rest', rfl, hend, hmore⟩ := (henumerates hopen).step
  rw [← hsubjects] at hall
  rw [← hnext] at hend hmore
  have hkeys_nodup : (b.tables.map (·.key)).Nodup :=
    (h.schema b hbinding).keys ▸ P.manifest.tableKeys_nodup
  have hpair := forall₂_of_mapM_eq_some hstored
  -- what is stored for a link is about the bound table
  have hstoredLink : ∀ {link row}, link ∈ links →
      (w.state.withTable table.tableKey (projectedTable page)).storedLink link = some row →
      row = ⟨bound.key, link.subjectKey, bound.tableId, link.recordId⟩ := by
    intro link row hlink hrow
    obtain ⟨b', hb', other, hother, hotherKey, rfl⟩ :=
      ManagedProvisioningState.storedLink_eq_some hrow
    cases hbinding.symm.trans hb'
    have hsame : other = bound := Keyed.eq_of_key_eq hkeys_nodup hother hbound
      (hotherKey.trans (hlinks.keys link hlink).1)
    rw [(hlinks.keys link hlink).1, hsame]
  have hsource : ∀ row ∈ stored, ∃ link ∈ links,
      row = ⟨bound.key, link.subjectKey, bound.tableId, link.recordId⟩ := by
    intro row hrow
    obtain ⟨link, hlink, heq⟩ := Keyed.exists_left_of_forall₂ hpair hrow
    exact ⟨link, hlink, hstoredLink hlink heq⟩
  have hold : ∀ s, s ∉ page.records.map (·.subjectKey) →
      (stored.foldl KeyedMap.set w.links).get (bound.key, s) = w.links.get (bound.key, s) := by
    intro s hs
    refine KeyedMap.get_foldl_set_of_ne fun row hrow heq => hs ?_
    obtain ⟨link, hlink, rfl⟩ := hsource row hrow
    cases heq
    exact (hlinks.keys link hlink).2
  refine ⟨done ++ page.records.map (·.subjectKey), ⟨rest', ?_, ?_, ?_⟩, ?_, ?_, ?_⟩
  · rw [List.append_assoc]
    exact hall
  · intro hcomplete
    exact hend (Option.isNone_iff_eq_none.mp hcomplete)
  · intro hincomplete
    cases hcursor : page.nextCursor with
    | none => simp [projectedTable, hcursor] at hincomplete
    | some next =>
      have hrest := hmore next hcursor
      simpa [projectedTable, hcursor] using hrest
  · intro s hs
    rw [List.mem_append, not_or] at hs
    change (stored.foldl KeyedMap.set w.links).get (table.tableKey, s) = none
    rw [← hkey, hold s hs.2, hkey]
    exact hdone.unlinked s hs.1
  · intro hgood b' hb' other hother hotherKey s hs
    cases hbinding.symm.trans (hb' : w.state.binding = some b')
    have hsame : other = bound :=
      Keyed.eq_of_key_eq hkeys_nodup hother hbound (hotherKey.trans hkey.symm)
    subst hsame
    by_cases hpage : s ∈ page.records.map (·.subjectKey)
    · -- one of the links of the page is stored for it, and all of them point at rows
      obtain ⟨link, hlink, rfl⟩ := hlinks.all hgood s hpage
      have hrow : ∃ row ∈ stored, (row.tableKey, row.subjectKey) = (other.key, link.subjectKey) := by
        obtain ⟨row, hrow, heq⟩ := Keyed.exists_left_of_forall₂ hpair.flip hlink
        exact ⟨row, hrow, by rw [hstoredLink hlink heq]⟩
      obtain ⟨row, hrow, heq, hget⟩ := KeyedMap.exists_get_foldl_set (m := w.links) hrow
      obtain ⟨source, hsourceMem, rfl⟩ := hsource row hrow
      have hsubject : source.subjectKey = link.subjectKey := congrArg Prod.snd heq
      refine ⟨source.recordId, ?_, ?_⟩
      · exact hsubject ▸ hlinks.rows hgood source hsourceMem
      · exact hget.trans (by rw [hsubject])
    · obtain ⟨id, hrow, hlink⟩ := hdone.linked hgood b hbinding other hbound hkey s
        ((List.mem_append.mp hs).resolve_right hpage)
      exact ⟨id, hrow, (hold s hpage).trans hlink⟩
  · intro hnone
    exact absurd (hbinding.symm.trans hnone) (by simp)

end JooEvents
