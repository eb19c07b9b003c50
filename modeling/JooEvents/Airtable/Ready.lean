import JooEvents.Airtable.Advances

/-!
# A base that is declared ready

Workers run provisioning steps in any interleaving, claims are lost, and the provider fails in
every way that `ProvisioningWorld.Exec` allows. What a worker asks is what the stored state lets
it (`provisioningContract`) : it completes a claim with a state that the phase advances to, and it
writes records of subjects to tables that are bound.

So each completion is one step of the phases (`provisioning_commits`). Where moreover
no answer to a batch leaves out one of its records, a base that is declared ready has one record
for each subject, and one link for each that points at it (`provisioning_ready`). A batch whose
answer leaves out a record leaves a subject without a link (`omitted_record_unlinked`), as the
counts that are compared are of records that were asked for.
-/

namespace JooEvents

open Fallible

variable {D ι : Type}

section

variable (P : ManagedSnapshot) (good : Prop)

def ProvisioningAsk (w : ProvisioningWorld) : ProvisioningCall → Prop
  | .complete claim nextState links _ =>
      w.Current claim → ProvisioningAdvances P good w (nextState, links)
  | .patchRecords baseId tableId mergeOnFieldId writes =>
      ∃ b, w.state.binding = some b ∧ ∃ bound ∈ b.tables, baseId = b.baseId ∧
        tableId = bound.tableId ∧ mergeOnFieldId = bound.stableIdFieldId ∧
        (good → ∀ write ∈ writes, ∃ s ∈ P.subjects bound.key,
          write.cell bound.stableIdFieldId = some (.text s))
  | _ => True

/-- Each record of a batch has a disposition in the answer. -/
def AnswersEach : (c : ProvisioningCall) → c.Answer → Prop
  | .patchRecords _ _ _ writes, .ok dispositions =>
      ∀ i < writes.length, i ∈ dispositions.map (·.requestIndex)
  | _, _ => True

def ProvisioningTells (w' : ProvisioningWorld) : (c : ProvisioningCall) → c.Answer → Prop
  | .claim _ _ _ _, some claim => w'.state = claim.state ∧ ProvisioningInv P good w'
  | .createBase _ _ _, .ok schema =>
      schema.WellFormed ∧ w'.Described schema ∧ w'.Unfilled P.manifest.tableNames schema.id
  | .getBaseSchema baseId, .ok schema =>
      baseId = some schema.id ∧ schema.WellFormed ∧ w'.Described schema ∧
        ∀ tableId table, w'.table? schema.id tableId = some table → table.schema ∈ schema.tables
  | .listPage _ tableKey cursor, page =>
      (page : ManagedSnapshotPage).records.map (·.subjectKey) =
          (P.source tableKey cursor).subjects ∧
        page.nextCursor = (P.source tableKey cursor).nextCursor
  | .patchRecords baseId tableId mergeOnFieldId writes, .ok dispositions =>
      (good → ∀ i < writes.length, i ∈ dispositions.map (·.requestIndex)) ∧
        ∀ i record, .written i record ∈ dispositions → ∃ write, writes[i]? = some write ∧
          (write.cell mergeOnFieldId, record.id) ∈
            ((w'.table? baseId tableId).map (·.rows mergeOnFieldId)).getD []
  | _, _ => True

def provisioningContract :
    Contract ProvisioningCall ProvisioningCall.Answer ProvisioningWorld where
  Inv := ProvisioningInv P good
  Le := ProvisioningLe P.manifest.tableNames
  Ask := ProvisioningAsk P good
  Reply w c answer w' :=
    ProvisioningLe P.manifest.tableNames w w' ∧ ProvisioningTells P good w' c answer

end

variable {P : ManagedSnapshot} {good : Prop}

/-! ## What the world keeps -/

section

variable {w w' : ProvisioningWorld} {c : ProvisioningCall} {answer : c.Answer}

theorem provisioning_cases (hinv : ProvisioningInv P good w) (hask : ProvisioningAsk P good w c)
    (hexec : ProvisioningWorld.Exec P.source w c answer w') :
    (∃ next stored, ProvisioningAdvances P good w next ∧
        next.2.mapM next.1.storedLink = some stored ∧ w' = w.complete next.1 stored) ∨
      WorldKept P.subjects P.manifest.tableNames good w w' := by
  cases hexec with
  | completed hcurrent hstored => exact .inl ⟨(_, _), _, hask hcurrent, hstored, rfl⟩
  | claimed _ => exact .inr (.of_grows ⟨rfl, rfl, fun _ _ => .inl rfl⟩)
  | createdBase hcreates => exact .inr (.of_grows hcreates.grows)
  | createdTable hcreates => exact .inr (.of_grows hcreates.grows)
  | createBaseFailed hcreates =>
    rcases hcreates with rfl | ⟨base, hcreates⟩
    · exact .inr (.of_grows (.refl _))
    · exact .inr (.of_grows hcreates.grows)
  | createTableFailed hcreates =>
    rcases hcreates with rfl | ⟨table, hcreates⟩
    · exact .inr (.of_grows (.refl _))
    · exact .inr (.of_grows hcreates.grows)
  | patched hwrites _ =>
    obtain ⟨b, hb, bound, hbound, rfl, rfl, rfl, hcells⟩ := hask
    exact .inr (.of_writes hb hbound (hinv.schema b hb).tableIds_nodup hcells hwrites)
  | patchFailed hwrites =>
    rcases hwrites with rfl | ⟨made, hwrites⟩
    · exact .inr (.of_grows (.refl _))
    · obtain ⟨b, hb, bound, hbound, rfl, rfl, rfl, hcells⟩ := hask
      exact .inr (.of_writes hb hbound (hinv.schema b hb).tableIds_nodup hcells hwrites)
  | unclaimed => exact .inr (.of_grows (.refl _))
  | lost _ => exact .inr (.of_grows (.refl _))
  | inspected _ => exact .inr (.of_grows (.refl _))
  | inspectionFailed => exact .inr (.of_grows (.refl _))
  | paged _ _ => exact .inr (.of_grows (.refl _))
  | listed => exact .inr (.of_grows (.refl _))

theorem le_of_exec (hinv : ProvisioningInv P good w) (hask : ProvisioningAsk P good w c)
    (hexec : ProvisioningWorld.Exec P.source w c answer w') :
    ProvisioningLe P.manifest.tableNames w w' := by
  rcases provisioning_cases hinv hask hexec with ⟨next, stored, hadvances, -, rfl⟩ | hkept
  · exact .complete hadvances.version hadvances.binding
  · exact hkept.le

theorem inv_of_exec (hinv : ProvisioningInv P good w) (hask : ProvisioningAsk P good w c)
    (hexec : ProvisioningWorld.Exec P.source w c answer w') : ProvisioningInv P good w' := by
  rcases provisioning_cases hinv hask hexec with ⟨next, stored, hadvances, hstored, rfl⟩ | hkept
  · exact hadvances.inv stored hstored
  · exact hinv.kept hkept

theorem described_schema {base : AirtableBase} (hbase : w.bases.get base.id = some base) :
    w.Described base.schema ∧ ∀ tableId table, w.table? base.schema.id tableId = some table →
      table.schema ∈ base.schema.tables := by
  constructor
  · intro schema hschema
    obtain ⟨table, htable, rfl⟩ := List.mem_map.mp hschema
    refine ⟨table, ?_, rfl⟩
    change (w.bases.get base.id).bind _ = _
    rw [hbase]
    exact (Keyed.find?_key_eq_some_iff base.tables.nodup).mpr ⟨htable, rfl⟩
  · intro tableId table htable
    change (w.bases.get base.id).bind _ = _ at htable
    rw [hbase] at htable
    exact List.mem_map_of_mem (List.mem_of_find?_eq_some htable)

theorem tells_of_exec (hinv : ProvisioningInv P good w) (hask : ProvisioningAsk P good w c)
    (hexec : ProvisioningWorld.Exec P.source w c answer w')
    (heach : good → AnswersEach c answer) : ProvisioningTells P good w' c answer := by
  have hinv' := inv_of_exec hinv hask hexec
  cases hexec with
  | claimed _ => exact ⟨rfl, hinv'⟩
  | createdBase hcreates =>
    obtain ⟨-, hempty, rfl⟩ := hcreates
    next base =>
    have hbase : (w.setBase base).bases.get base.id = some base := by
      rw [ProvisioningWorld.setBase, KeyedMap.get_set, if_pos rfl]
    refine ⟨base.schema_wellFormed, (described_schema hbase).1, fun tableId table htable _ => ?_⟩
    change ((w.setBase base).bases.get base.id).bind _ = _ at htable
    rw [hbase] at htable
    exact hempty table (List.mem_of_find?_eq_some htable)
  | inspected hbase => exact ⟨rfl, AirtableBase.schema_wellFormed _, described_schema hbase⟩
  | paged hsubjects hnext => exact ⟨hsubjects, hnext⟩
  | patched hwrites hmade =>
    refine ⟨heach, fun i record hrecord => ?_⟩
    obtain ⟨-, -, table, table', -, hwritten, htables⟩ := hwrites.tables
    obtain ⟨write, hwrite, hrow⟩ := hwritten.mem_rows (hmade i record hrecord)
    refine ⟨write, hwrite, ?_⟩
    rw [htables, if_pos ⟨rfl, rfl⟩]
    exact hrow
  | _ => trivial

theorem provisioningContract_kept :
    Configuration.Kept (provisioningContract P good) (ProvisioningWorld.Exec P.source)
      fun _ e _ => good → AnswersEach e.1 e.2 where
  refl := .refl
  trans := .trans
  reply hinv hask hexec heach :=
    ⟨le_of_exec hinv hask hexec, tells_of_exec hinv hask hexec heach⟩
  le hinv hask hexec _ := le_of_exec hinv hask hexec
  inv hinv hask hexec _ := inv_of_exec hinv hask hexec

end

/-! ## What the workers ask -/

/-- The state was stored when it was claimed, and the world has moved since. -/
def Claimed (P : ManagedSnapshot) (good : Prop) (state : ManagedProvisioningState)
    (w : ProvisioningWorld) : Prop :=
  ∃ start : ProvisioningWorld, start.state = state ∧ ProvisioningInv P good start ∧
    ProvisioningLe P.manifest.tableNames start w

/-- What a phase is done with may be stored as long as the state that was claimed is. -/
def AdvancesClaimed (P : ManagedSnapshot) (good : Prop) (state : ManagedProvisioningState)
    (w : ProvisioningWorld) (next : ProvisioningAdvance) : Prop :=
  Claimed P good state w ∧ ∀ w', ProvisioningLe P.manifest.tableNames w w' →
    ProvisioningInv P good w' → w'.state = state → ProvisioningAdvances P good w' next

section

variable {host : Host D} {input : ManagedProvisioningInput} {state : ManagedProvisioningState}
  {w w' : ProvisioningWorld}

theorem Claimed.mono (h : Claimed P good state w) (hle : ProvisioningLe P.manifest.tableNames w w') :
    Claimed P good state w' := by
  obtain ⟨start, hstart, hinv, hsince⟩ := h
  exact ⟨start, hstart, hinv, hsince.trans hle⟩

theorem Claimed.state_eq (h : Claimed P good state w) (hversion : w.state.version = state.version) :
    w.state = state := by
  obtain ⟨start, rfl, -, hsince⟩ := h
  exact hsince.same hversion

theorem Claimed.binding (h : Claimed P good state w) {b : ManagedSchemaBinding}
    (hb : state.binding = some b) : w.state.binding = some b := by
  obtain ⟨start, rfl, -, hsince⟩ := h
  exact hsince.binding b hb

theorem Claimed.schema (h : Claimed P good state w) {b : ManagedSchemaBinding}
    (hb : state.binding = some b) : SchemaBound P.manifest b := by
  obtain ⟨start, rfl, hinv, -⟩ := h
  exact hinv.schema b hb

theorem Claimed.page_subset (h : Claimed P good state w) {table : ManagedProvisioningTableState}
    (htable : table ∈ state.tables) (hopen : table.snapshotComplete = false) :
    (P.source table.tableKey table.snapshotCursor).subjects ⊆ P.subjects table.tableKey := by
  obtain ⟨start, rfl, hinv, -⟩ := h
  obtain ⟨done, hdone⟩ := hinv.progress table htable
  obtain ⟨rest, hall, -, henumerates⟩ := hdone.rest
  obtain ⟨rest', rfl, -⟩ := (henumerates hopen).step
  rw [hall]
  exact fun s hs => List.mem_append_right _ (List.mem_append_left _ hs)

theorem AdvancesClaimed.toAttention (h : Claimed P good state w) (code : String) :
    AdvancesClaimed P good state w (state.toAttention code, []) := by
  refine ⟨h, fun w' _ hinv hstate => ?_⟩
  subst hstate
  exact advances_toAttention hinv code

theorem createBasePhase_ensures (h : Claimed P good state w) (hphase : state.phase = .create_base) :
    (createBasePhase P.manifest state).Ensures (provisioningContract P good)
      (AdvancesClaimed P good state) w := by
  intro w₁ hle₁ _
  refine ⟨trivial, fun answer w₂ hreply => ?_⟩
  obtain ⟨hle₂, htells⟩ := hreply
  have hclaimed := (h.mono hle₁).mono hle₂
  cases answer with
  | error failure => exact .toAttention hclaimed _
  | ok schema =>
    obtain ⟨hschema, hdescribed, hunfilled⟩ := htells
    refine ⟨hclaimed, fun w₃ hle₃ hinv hstate => ?_⟩
    subst hstate
    refine advances_bindCreated hinv (.inl hphase) hschema (hle₃.described _ hdescribed)
      (hle₃.unfilled ?_ _ hunfilled) _
    by_contra hbound
    exact (hinv.phase_bound hbound).1 hphase

theorem inspectBasePhase_ensures (h : Claimed P good state w) (hphase : state.phase = .inspect_base) :
    (inspectBasePhase P.manifest state).Ensures (provisioningContract P good)
      (AdvancesClaimed P good state) w := by
  intro w₁ hle₁ _
  refine ⟨trivial, fun answer w₂ hreply => ?_⟩
  obtain ⟨hle₂, htells⟩ := hreply
  have hclaimed := (h.mono hle₁).mono hle₂
  cases answer with
  | error failure => exact .toAttention hclaimed _
  | ok schema =>
    obtain ⟨hbase, -, -, hall⟩ := htells
    change Process.Ensures _ _ _ (ite _ _ _ : ProvisioningWorker _)
    split_ifs with hreserved
    · exact .toAttention hclaimed _
    refine ⟨hclaimed, fun w₃ hle₃ hinv hstate => ?_⟩
    subst hstate
    refine advances_createTables hinv hphase fun baseId hbaseId => ?_
    cases hbase.symm.trans hbaseId
    refine hle₃.unfilled ?_ _ fun tableId table htable hname => ?_
    · by_contra hbound
      exact (hinv.phase_bound hbound).2.1 hphase
    · exact absurd ⟨_, hall tableId table htable, hname⟩ hreserved

theorem createPendingTable_ensures (h : Claimed P good state w) (hphase : state.phase = .create_tables)
    (pending : ManagedManifestTable) :
    (createPendingTable state pending).Ensures (provisioningContract P good)
      (AdvancesClaimed P good state) w := by
  intro w₁ hle₁ _
  refine ⟨trivial, fun answer w₂ hreply => ?_⟩
  have hclaimed := (h.mono hle₁).mono hreply.1
  cases answer with
  | error failure => exact .toAttention hclaimed _
  | ok created =>
    change Process.Ensures _ _ _ (ite _ _ _ : ProvisioningWorker _)
    split_ifs
    · refine ⟨hclaimed, fun w₃ _ hinv hstate => ?_⟩
      subst hstate
      exact advances_withCreated hinv hphase _
    · exact .toAttention hclaimed _

theorem createTablesPhase_ensures (h : Claimed P good state w)
    (hphase : state.phase = .create_tables) :
    (createTablesPhase P.manifest state).Ensures (provisioningContract P good)
      (AdvancesClaimed P good state) w := by
  intro w₁ hle₁ _
  refine ⟨trivial, fun answer w₂ hreply => ?_⟩
  obtain ⟨hle₂, htells⟩ := hreply
  have hclaimed := (h.mono hle₁).mono hle₂
  cases answer with
  | error failure => exact .toAttention hclaimed _
  | ok schema =>
    obtain ⟨hbase, hschema, hdescribed, -⟩ := htells
    have hcreated : ∀ tableKey : String,
        AdvancesClaimed P good state w₂ (state.withCreated tableKey, []) := by
      refine fun tableKey => ⟨hclaimed, fun w₃ _ hinv hstate => ?_⟩
      subst hstate
      exact advances_withCreated hinv hphase tableKey
    dsimp only
    split
    · refine ⟨hclaimed, fun w₃ hle₃ hinv hstate => ?_⟩
      subst hstate
      exact advances_bindCreated hinv (.inr hphase) hschema (hle₃.described _ hdescribed)
        (hinv.unfilled hphase _ hbase) _
    · split
      · exact createPendingTable_ensures hclaimed hphase _
      · split_ifs
        · exact hcreated _
        · exact .toAttention hclaimed _
      · exact .toAttention hclaimed _

/-! ### A page -/

theorem snapshotLink_eq_ok {tableKey : String} {records : List ManagedProjectedRecord}
    {disposition : AirtableWriteDisposition} {link : SnapshotRecordLink}
    (h : snapshotLink tableKey records disposition = .ok link) :
    ∃ i record, disposition = .written i record ∧ ∃ sourceRecord,
      records[i]? = some sourceRecord ∧ link = ⟨tableKey, sourceRecord.subjectKey, record.id⟩ := by
  cases disposition with
  | failed i failure => cases h
  | written i record =>
    simp only [snapshotLink, bind_eq_ok, orRefuse_eq_ok, pure_eq_ok] at h
    obtain ⟨sourceRecord, hrecord, rfl⟩ := h
    exact ⟨i, record, rfl, sourceRecord, hrecord, rfl⟩

theorem pageLinks_of_dispositions {b : ManagedSchemaBinding} {bound : ManagedTableBinding}
    {records : List ManagedProjectedRecord} {dispositions : List AirtableWriteDisposition}
    {links : List SnapshotRecordLink}
    (h : dispositions.mapM (snapshotLink bound.key records) = .ok links)
    (hrows : good → ∀ i record, .written i record ∈ dispositions →
      ∀ sourceRecord, records[i]? = some sourceRecord →
        (some (.text sourceRecord.subjectKey), record.id) ∈ w.rows b bound)
    (heach : good → ∀ i < records.length, i ∈ dispositions.map (·.requestIndex)) :
    PageLinks good w b bound (records.map (·.subjectKey)) links := by
  have hpair := forall₂_of_mapM_eq_ok h
  have hsource : ∀ link ∈ links, ∃ i record, .written i record ∈ dispositions ∧
      ∃ sourceRecord, records[i]? = some sourceRecord ∧
        link = ⟨bound.key, sourceRecord.subjectKey, record.id⟩ := by
    intro link hlink
    obtain ⟨disposition, hmem, heq⟩ := Keyed.exists_left_of_forall₂ hpair hlink
    obtain ⟨i, record, rfl, hrecord⟩ := snapshotLink_eq_ok heq
    exact ⟨i, record, hmem, hrecord⟩
  refine ⟨fun link hlink => ?_, fun hgood link hlink => ?_, fun hgood s hs => ?_⟩
  · obtain ⟨i, record, -, sourceRecord, hrecord, rfl⟩ := hsource link hlink
    exact ⟨rfl, List.mem_map_of_mem (List.mem_of_getElem? hrecord)⟩
  · obtain ⟨i, record, hmem, sourceRecord, hrecord, rfl⟩ := hsource link hlink
    exact hrows hgood i record hmem sourceRecord hrecord
  · obtain ⟨sourceRecord, hmem, rfl⟩ := List.mem_map.mp hs
    obtain ⟨i, hi, hget⟩ := List.getElem_of_mem hmem
    obtain ⟨disposition, hdisposition, hindex⟩ := List.mem_map.mp (heach hgood i hi)
    obtain ⟨link, hlink, heq⟩ := Keyed.exists_left_of_forall₂ hpair.flip hdisposition
    obtain ⟨j, record, rfl, found, hfound, rfl⟩ := snapshotLink_eq_ok heq
    have hsame : records[i]? = some found := hindex ▸ hfound
    rw [List.getElem?_eq_getElem hi, hget] at hsame
    cases hsame
    exact ⟨_, hlink, rfl⟩

theorem writeSnapshotPage_ensures (hmanifest : input.manifest = P.manifest)
    (hsynced : good → ∀ table ∈ P.manifest.tables, table.stableIdFieldKey ≠ "last_synced")
    (h : Claimed P good state w) (hphase : state.phase = .snapshot)
    {table : ManagedProvisioningTableState} (htable : table ∈ state.tables)
    (hopen : table.snapshotComplete = false) {page : ManagedSnapshotPage}
    (hsubjects : page.records.map (·.subjectKey) =
      (P.source table.tableKey table.snapshotCursor).subjects)
    (hnext : page.nextCursor = (P.source table.tableKey table.snapshotCursor).nextCursor) :
    (writeSnapshotPage host input state table page).Ensures (provisioningContract P good)
      (AdvancesClaimed P good state) w := by
  refine .ofExcept_bind fun b hb => .ofExcept_bind fun batch hbatch => ?_
  rw [orRefuse_eq_ok] at hb
  rw [hmanifest] at hbatch
  obtain ⟨bound, hbound, hkey, htableId, hstableId, hcells⟩ :=
    projectSnapshotBatch_subject (h.schema hb).tables hbatch
  intro w₁ hle₁ _
  refine ⟨⟨b, (h.mono hle₁).binding hb, bound, hbound, rfl, htableId, hstableId,
    fun hgood write hwrite => ?_⟩, fun answer w₂ hreply => ?_⟩
  · obtain ⟨record, hrecord, hcell⟩ :=
      Keyed.exists_left_of_forall₂ (hcells (hsynced hgood)) hwrite
    refine ⟨record.subjectKey, ?_, hcell⟩
    rw [hkey]
    exact h.page_subset htable hopen (hsubjects ▸ List.mem_map_of_mem hrecord)
  obtain ⟨hle₂, htells⟩ := hreply
  have hclaimed := (h.mono hle₁).mono hle₂
  cases answer with
  | error failure => exact .toAttention hclaimed _
  | ok dispositions =>
    obtain ⟨heach, hwritten⟩ := htells
    change Process.Ensures _ _ _ (ite _ _ _ : ProvisioningWorker _)
    split_ifs
    · exact .toAttention hclaimed _
    refine .ofExcept_bind fun links hlinks => ⟨hclaimed, fun w₃ hle₃ hinv hstate => ?_⟩
    have hpage : PageLinks good w₂ b bound (page.records.map (·.subjectKey)) links := by
      refine pageLinks_of_dispositions (hkey ▸ hlinks) (fun hgood i record hmem sourceRecord hget => ?_)
        fun hgood => ?_
      · obtain ⟨write, hwrite, hrow⟩ := hwritten i record hmem
        have hcell := List.forall₂_iff_get.mp (hcells (hsynced hgood))
        obtain ⟨hi, rfl⟩ := List.getElem?_eq_some_iff.mp hget
        obtain ⟨hi', rfl⟩ := List.getElem?_eq_some_iff.mp hwrite
        have hsame := hcell.2 i hi hi'
        rw [List.get_eq_getElem, List.get_eq_getElem] at hsame
        rw [htableId, hstableId, hsame] at hrow
        exact hrow
      · rw [(hcells (hsynced hgood)).length_eq]
        exact heach hgood
    have hpage₃ := hpage.mono (hclaimed.binding hb) hbound hle₃
    subst hstate
    exact advances_page hinv hphase htable hopen hb hbound hkey hsubjects hnext hpage₃

theorem snapshotPhase_ensures (hmanifest : input.manifest = P.manifest)
    (hsynced : good → ∀ table ∈ P.manifest.tables, table.stableIdFieldKey ≠ "last_synced")
    (h : Claimed P good state w) (hphase : state.phase = .snapshot) :
    (snapshotPhase host input state).Ensures (provisioningContract P good)
      (AdvancesClaimed P good state) w := by
  unfold snapshotPhase
  split
  · next hnone =>
    refine ⟨h, fun w' _ hinv hstate => ?_⟩
    subst hstate
    exact advances_verify hinv hphase fun t ht => by simpa using List.find?_eq_none.mp hnone t ht
  · next table hfind =>
    have htable := List.mem_of_find?_eq_some hfind
    have hopen : table.snapshotComplete = false := by simpa using List.find?_some hfind
    intro w₁ hle₁ _
    refine ⟨trivial, fun page w₂ hreply => ?_⟩
    obtain ⟨hle₂, hsubjects, hnext⟩ := hreply
    have hclaimed := (h.mono hle₁).mono hle₂
    change Process.Ensures _ _ _ (ite _ _ _ : ProvisioningWorker _)
    split_ifs with hinvalid hempty
    · exact .toAttention hclaimed _
    · refine ⟨hclaimed, fun w₃ _ hinv hstate => ?_⟩
      subst hstate
      refine advances_emptyPage hinv hphase htable hopen ?_ ?_
      · rw [← hsubjects, hempty, List.map_nil]
      · rw [← hnext, ← Option.not_isSome_iff_eq_none]
        exact fun hsome => hinvalid (.inr ⟨hempty, hsome⟩)
    · exact writeSnapshotPage_ensures hmanifest hsynced hclaimed hphase htable hopen hsubjects hnext

/-! ### The whole step -/

theorem advances_verifyPage {table : ManagedProvisioningTableState}
    (h : ProvisioningInv P good w) (hphase : w.state.phase = .verify)
    (htable : table ∈ w.state.tables) (stableIdFieldId : String) (page : AirtableRecordPage) :
    ProvisioningAdvances P good w (verifyPage w.state table stableIdFieldId page, []) := by
  unfold verifyPage
  split_ifs
  · exact advances_toAttention h _
  · exact advances_toAttention h _
  · refine advances_withTable h htable (.inr hphase) (fun _ => rfl) (by simp)
      (fun _ => h.complete (.inl hphase) table htable) fun stored hstored => ?_
    cases eq_nil_of_mapM_nil hstored
    obtain ⟨done, hdone⟩ := h.progress table htable
    exact ⟨done, hdone.rest, hdone.unlinked, hdone.linked, hdone.unbound⟩

theorem verifyPhase_ensures (h : Claimed P good state w) (hphase : state.phase = .verify) :
    (verifyPhase state).Ensures (provisioningContract P good) (AdvancesClaimed P good state) w := by
  unfold verifyPhase
  split
  · refine ⟨h, fun w' _ hinv hstate => ?_⟩
    subst hstate
    exact advances_ready hinv hphase
  · next table hfind =>
    refine .ofExcept_bind fun b _ => .ofExcept_bind fun bound _ => ?_
    intro w₁ hle₁ _
    refine ⟨trivial, fun answer w₂ hreply => ?_⟩
    have hclaimed := (h.mono hle₁).mono hreply.1
    cases answer with
    | error failure => exact .toAttention hclaimed _
    | ok page =>
      refine ⟨hclaimed, fun w₃ _ hinv hstate => ?_⟩
      subst hstate
      exact advances_verifyPage hinv hphase (List.mem_of_find?_eq_some hfind) _ page

theorem completeClaim_respects {claim : ManagedProvisioningClaim} {next : ProvisioningAdvance}
    (h : AdvancesClaimed P good claim.state w next) :
    (completeClaim input claim next).Respects (provisioningContract P good) w := by
  intro w₁ hle₁ hinv
  refine ⟨fun hcurrent => ?_, fun fenced _ _ => trivial⟩
  exact h.2 w₁ hle₁ hinv ((h.1.mono hle₁).state_eq hcurrent.2.1)

/-- A worker whose manifest has the digest of the run has the manifest of the run. -/
def SharesManifest (P : ManagedSnapshot) (input : ManagedProvisioningInput) : Prop :=
  input.manifest.digestSha256 = P.manifest.digestSha256 → input.manifest = P.manifest

theorem provisioningPhase_ensures (hmanifest : input.manifest = P.manifest)
    (hsynced : good → ∀ table ∈ P.manifest.tables, table.stableIdFieldKey ≠ "last_synced")
    (h : Claimed P good state w) (hready : state.phase ≠ .ready)
    (hattention : state.phase ≠ .attention) :
    (provisioningPhase host input state).Ensures (provisioningContract P good)
      (AdvancesClaimed P good state) w := by
  unfold provisioningPhase
  split
  · next hphase => exact hmanifest ▸ createBasePhase_ensures h hphase
  · next hphase => exact hmanifest ▸ inspectBasePhase_ensures h hphase
  · next hphase => exact hmanifest ▸ createTablesPhase_ensures h hphase
  · next hphase => exact snapshotPhase_ensures hmanifest hsynced h hphase
  · refine verifyPhase_ensures h ?_
    cases hphase : state.phase <;> simp_all

theorem runClaim_respects (hshares : SharesManifest P input)
    (hsynced : good → ∀ table ∈ P.manifest.tables, table.stableIdFieldKey ≠ "last_synced")
    {claim : ManagedProvisioningClaim} (h : Claimed P good claim.state w) :
    (runClaim host input claim).Respects (provisioningContract P good) w := by
  unfold runClaim
  split_ifs with hchanged
  · exact completeClaim_respects (.toAttention h _)
  have hmanifest : input.manifest = P.manifest := by
    obtain ⟨start, hstart, hinv, -⟩ := h
    rw [not_or, not_not, not_not] at hchanged
    refine hshares (hchanged.2.symm.trans ?_)
    rw [← hstart]
    exact hinv.digest
  split
  · trivial
  · trivial
  · next hready hattention =>
    exact (provisioningPhase_ensures hmanifest hsynced h hready hattention).bind
      fun _ _ hnext => completeClaim_respects hnext

theorem runManagedProvisioningStep_respects (hshares : SharesManifest P input)
    (hsynced : good → ∀ table ∈ P.manifest.tables, table.stableIdFieldKey ≠ "last_synced") :
    (runManagedProvisioningStep host input).Respects (provisioningContract P good) w := by
  intro w₁ _ _
  refine ⟨trivial, fun answer w₂ hreply => ?_⟩
  cases answer with
  | none => trivial
  | some claim =>
    obtain ⟨-, hstate, hinv⟩ := hreply
    exact runClaim_respects hshares hsynced ⟨w₂, hstate, hinv, .refl w₂⟩

end

/-! ## Every interleaving -/

abbrev ProvisioningConfiguration (ι : Type) : Type :=
  Configuration ProvisioningCall ProvisioningCall.Answer ProvisioningError
    ManagedProvisioningStepResult ProvisioningWorld ι

abbrev ProvisioningSteps (ι : Type) : Type :=
  List (ProvisioningConfiguration ι ×
    (ι × Process.Event ProvisioningCall ProvisioningCall.Answer) × ProvisioningConfiguration ι)

def provisioningWorkers (host : Host D) (inputs : ι → ManagedProvisioningInput)
    (w : ProvisioningWorld) : ProvisioningConfiguration ι :=
  ⟨w, fun i => runManagedProvisioningStep host (inputs i)⟩

/-- Nothing was done yet of a run that creates a base, or that was given one. -/
structure ProvisioningWorld.Starts (manifest : ManagedBaseManifest) (w : ProvisioningWorld) :
    Prop where
  state : (∃ connectionId workspaceId baseName,
      createManagedProvisioningState connectionId workspaceId baseName manifest = .ok w.state) ∨
    ∃ connectionId baseId baseName, createManagedSelectedBaseProvisioningState connectionId baseId
      baseName manifest = .ok w.state
  links : w.links = KeyedMap.empty

/-- A completion of a claim that is current stores the version and a phase that come next. Any
other call leaves what is stored. -/
def ProvisioningCommits (w : ProvisioningWorld) :
    Process.Event ProvisioningCall ProvisioningCall.Answer → ProvisioningWorld → Prop
  | ⟨.complete _ _ _ _, true⟩, w' =>
      w'.state.version = w.state.version + 1 ∧ w.state.phase.Next w'.state.phase
  | _, w' => w'.state = w.state ∧ w'.links = w.links

/-- The base is bound, and each managed table has one record for each subject and no other, with
one link for each that points at it. -/
def Provisioned (P : ManagedSnapshot) (w : ProvisioningWorld) : Prop :=
  ∃ b, w.state.binding = some b ∧ ∀ table ∈ P.manifest.tables, ∃ bound ∈ b.tables,
    bound.key = table.key ∧
      ((w.rows b bound).map Prod.fst).Perm ((P.subjects table.key).map fun s => some (.text s)) ∧
      (∀ s ∈ P.subjects table.key, w.Linked b bound s) ∧
      ∀ s, s ∉ P.subjects table.key → w.links.get (table.key, s) = none

section

variable {host : Host D} {inputs : ι → ManagedProvisioningInput} {w : ProvisioningWorld}

theorem ProvisioningWorld.Starts.inv (h : w.Starts P.manifest) : ProvisioningInv P good w := by
  have hstate : ∃ connectionId mode workspaceId baseName baseId, w.state =
      newProvisioningState connectionId P.manifest mode workspaceId baseName baseId := by
    rcases h.state with ⟨connectionId, workspaceId, baseName, heq⟩ |
      ⟨connectionId, baseId, baseName, heq⟩
    · simp only [createManagedProvisioningState, bind_eq_ok, require_eq_ok, pure_eq_ok] at heq
      obtain ⟨⟨⟩, -, heq⟩ := heq
      exact ⟨_, _, _, _, _, heq.symm⟩
    · simp only [createManagedSelectedBaseProvisioningState, bind_eq_ok, require_eq_ok,
        pure_eq_ok] at heq
      obtain ⟨⟨⟩, -, heq⟩ := heq
      exact ⟨_, _, _, _, _, heq.symm⟩
  obtain ⟨connectionId, mode, workspaceId, baseName, baseId, hstate⟩ := hstate
  have hunbound : w.state.binding = none := by rw [hstate]; rfl
  have hphase : w.state.phase = .create_base ∨ w.state.phase = .inspect_base := by
    rw [hstate]
    cases mode
    · exact .inl rfl
    · exact .inr rfl
  refine ⟨by rw [hstate]; rfl, ?_, fun hbound => absurd hunbound hbound, fun _ => ?_,
    fun b hb => ?_, fun _ b hb => ?_, fun t ht => ?_, fun hcreate => ?_, fun hcomplete => ?_⟩
  · rw [hstate]
    exact List.map_map
  · rcases hphase with hphase | hphase <;> rw [hphase] <;> simp
  · exact absurd (hunbound.symm.trans hb) (by simp)
  · exact absurd (hunbound.symm.trans hb) (by simp)
  · rw [hstate] at ht
    obtain ⟨table, htable, rfl⟩ := List.mem_map.mp ht
    refine ⟨[], ⟨_, rfl, fun hcomplete => absurd hcomplete (by simp [newTableState]),
      fun _ => P.enumerates table htable⟩, fun s _ => by rw [h.links]; rfl,
      fun _ b hb => absurd (hunbound.symm.trans hb) (by simp), fun _ => rfl⟩
  · rcases hphase with hphase | hphase <;> exact absurd (hphase.symm.trans hcreate) (by simp)
  · rcases hphase with hphase | hphase <;> rw [hphase] at hcomplete <;> simp at hcomplete

theorem commits_of_exec {c : ProvisioningCall} {answer : c.Answer} {w' : ProvisioningWorld}
    (hask : ProvisioningAsk P good w c) (hexec : ProvisioningWorld.Exec P.source w c answer w') :
    ProvisioningCommits w ⟨c, answer⟩ w' := by
  cases hexec with
  | completed hcurrent hstored => exact ⟨(hask hcurrent).version, (hask hcurrent).phase⟩
  | createdBase hcreates => exact ⟨hcreates.grows.state, hcreates.grows.links⟩
  | createdTable hcreates => exact ⟨hcreates.grows.state, hcreates.grows.links⟩
  | createBaseFailed hcreates =>
    rcases hcreates with rfl | ⟨base, hcreates⟩
    · exact ⟨rfl, rfl⟩
    · exact ⟨hcreates.grows.state, hcreates.grows.links⟩
  | createTableFailed hcreates =>
    rcases hcreates with rfl | ⟨table, hcreates⟩
    · exact ⟨rfl, rfl⟩
    · exact ⟨hcreates.grows.state, hcreates.grows.links⟩
  | patched hwrites _ => exact ⟨hwrites.tables.1, hwrites.tables.2.1⟩
  | patchFailed hwrites =>
    rcases hwrites with rfl | ⟨made, hwrites⟩
    · exact ⟨rfl, rfl⟩
    · exact ⟨hwrites.tables.1, hwrites.tables.2.1⟩
  | _ => exact ⟨rfl, rfl⟩

theorem ProvisioningInv.provisioned (h : ProvisioningInv P True w)
    (hready : w.state.phase = .ready) : Provisioned P w := by
  cases hb : w.state.binding with
  | none => exact absurd hready (h.phase_unbound hb).2.2
  | some b =>
    have hschema := h.schema b hb
    refine ⟨b, hb, fun table htable => ?_⟩
    obtain ⟨bound, hbound, hkey⟩ := List.mem_map.mp
      (hschema.keys ▸ List.mem_map_of_mem htable : table.key ∈ b.tables.map (·.key))
    obtain ⟨t, ht, htkey⟩ := List.mem_map.mp
      (h.tableKeys ▸ List.mem_map_of_mem htable : table.key ∈ w.state.tables.map (·.tableKey))
    obtain ⟨done, hdone⟩ := h.progress t ht
    obtain ⟨rest, hall, hend, -⟩ := hdone.rest
    have hsubjects : P.subjects table.key = done := by
      rw [← htkey, hall, hend (h.complete (.inr hready) t ht), List.append_nil]
    have hlinked : ∀ s ∈ done, w.Linked b bound s :=
      hdone.linked trivial b hb bound hbound (hkey.trans htkey.symm)
    refine ⟨bound, hbound, hkey, ?_, hsubjects ▸ hlinked, fun s hs => ?_⟩
    · obtain ⟨present, hpresent, hnodup, hsubset⟩ := h.rowsOf trivial b hb bound hbound
      rw [hkey] at hsubset
      rw [hpresent]
      refine List.Perm.map _ ((List.perm_ext_iff_of_nodup hnodup (P.subjects_nodup _)).mpr
        fun s => ⟨fun hs => hsubset hs, fun hs => ?_⟩)
      obtain ⟨id, hrow, -⟩ := hlinked s (hsubjects ▸ hs)
      have hvalue := List.mem_map_of_mem (f := Prod.fst) hrow
      rw [hpresent] at hvalue
      obtain ⟨s', hs', heq⟩ := List.mem_map.mp hvalue
      cases heq
      exact hs'
    · rw [← htkey]
      exact hdone.unlinked s (hsubjects ▸ hs)

variable [DecidableEq ι]

/-- However the steps interleave, and however the provider fails : each completion of a claim
that is current is one version more and one step of the phases, and nothing else changes what is
stored. Where the answer to each batch has a disposition for each of its records, and no stable id
is the field that tells when the record was synced, what is declared ready is provisioned. -/
theorem provisioning_ready (host : Host D) (P : ManagedSnapshot)
    (inputs : ι → ManagedProvisioningInput) {w : ProvisioningWorld}
    (hstart : w.Starts P.manifest) (hshares : ∀ i, SharesManifest P (inputs i))
    {steps : ProvisioningSteps ι} {final : ProvisioningConfiguration ι}
    (hrun : Trace (Configuration.Step (ProvisioningWorld.Exec P.source))
      (provisioningWorkers host inputs w) steps final) :
    Trace.All (fun s e t => ProvisioningCommits s.world e.2 t.world) steps ∧
      ((∀ table ∈ P.manifest.tables, table.stableIdFieldKey ≠ "last_synced") →
        Trace.All (fun _ e _ => AnswersEach e.2.1 e.2.2) steps →
        final.world.state.phase = .ready → Provisioned P final.world) := by
  have hsound : ∀ good : Prop,
      (good → ∀ table ∈ P.manifest.tables, table.stableIdFieldKey ≠ "last_synced") →
      (provisioningWorkers host inputs w).Sound (provisioningContract P good) :=
    fun good hsynced => ⟨hstart.inv, fun i =>
      runManagedProvisioningStep_respects (hshares i) hsynced⟩
  refine ⟨(hsound False False.elim).all_of_run provisioningContract_kept ProvisioningCommits
      (fun _ hask hexec => commits_of_exec hask hexec) hrun fun _ _ _ _ => False.elim,
    fun hsynced heach hready => ?_⟩
  exact ((hsound True fun _ => hsynced).of_run provisioningContract_kept hrun
    fun s e t hmem _ => heach s e t hmem).world.provisioned hready

end

/-! ## A record that is left out -/

def peopleTable : ManagedManifestTable where
  key := "people"
  name := "People"
  description := ""
  stableIdFieldKey := "id"
  fields := [⟨"id", "ID", "singleLineText", "", none⟩]
  fieldKeys_nodup := by decide
  fieldNames_nodup := by decide
  stableId_mem := by decide

def peopleSnapshot : ManagedSnapshot where
  manifest := {
    version := 1
    tables := [peopleTable]
    digestSha256 := "people-1"
    tableKeys_nodup := by decide
    tableNames_nodup := by decide }
  source := fun _ _ => ⟨["ada", "bob"], none⟩
  subjects := fun _ => ["ada", "bob"]
  subjects_nodup := fun _ => by decide
  enumerates := fun _ _ => .last rfl

def peoplePage : ManagedSnapshotPage := ⟨[⟨"ada", []⟩, ⟨"bob", []⟩], none⟩

def peopleCells (subject : String) : AirtableCells := KeyedMap.empty.set ("fld1", .text subject)

def peopleEmptyTable : AirtableTable where
  schema := ⟨"tbl1", "People", "fld1", [⟨"fld1", "ID", "singleLineText"⟩], [⟨"viw1", "grid"⟩]⟩
  records := KeyedMap.empty
  fieldIds_nodup := by decide

def peopleFullTable : AirtableTable :=
  (peopleEmptyTable.put ⟨"rec1", peopleCells "ada"⟩).put ⟨"rec2", peopleCells "bob"⟩

def peopleBase : AirtableBase := ⟨"app1", KeyedMap.empty.set peopleEmptyTable⟩

/-- The answer to the batch of the page, with its second record or without. -/
def peopleAnswer (whole : Bool) : List AirtableWriteDisposition :=
  .written 0 ⟨"rec1", peopleCells "ada"⟩ ::
    if whole then [.written 1 ⟨"rec2", peopleCells "bob"⟩] else []

def peopleListed : AirtableRecordPage := ⟨peopleFullTable.records.values, none⟩

def peopleWorld : ProvisioningWorld where
  state := newProvisioningState "connection-1" peopleSnapshot.manifest .create_base (some "wsp1")
    (some "Event") none
  lease := none
  leaseVersion := 0
  links := KeyedMap.empty
  bases := KeyedMap.empty

def peopleInput (_ : ℕ) : ManagedProvisioningInput where
  connectionId := "connection-1"
  workerId := "worker"
  nowMs := 0
  leaseMs := 60000
  syncedAt := "2026-08-17T00:00:00.000Z"
  manifest := peopleSnapshot.manifest

theorem peopleWorld_starts : peopleWorld.Starts peopleSnapshot.manifest :=
  ⟨.inl ⟨"connection-1", "wsp1", "Event", by decide +kernel⟩, rfl⟩

section

variable {w : ProvisioningWorld}

theorem people_claimed (hid : w.state.connectionId = "connection-1") (hfree : w.lease = none) :
    ProvisioningWorld.Exec peopleSnapshot.source w (.claim "connection-1" "worker" 0 60000)
      (some ⟨w.state, "worker", w.leaseVersion + 1⟩) (w.claim "worker" 60000) := by
  have hnone : w.Free 0 := by
    intro lease hlease
    rw [hfree] at hlease
    cases hlease
  rw [← hid]
  exact .claimed hnone

theorem people_created (h : w.bases.get "app1" = none) :
    w.CreatesBase peopleBase (w.setBase peopleBase) := by
  refine ⟨h, fun table htable => ?_, rfl⟩
  cases List.mem_singleton.mp htable
  rfl

theorem people_paged : ProvisioningWorld.Exec peopleSnapshot.source w
    (.listPage "connection-1" "people" none) peoplePage w := .paged rfl rfl

theorem people_listed : ProvisioningWorld.Exec peopleSnapshot.source w
    (.listRecords "app1" "tbl1" ["fld1"] none) (.ok peopleListed) w := .listed

theorem people_written : AirtableTable.Written "fld1" [peopleCells "ada", peopleCells "bob"]
    peopleEmptyTable [(0, "rec1"), (1, "rec2")] peopleFullTable := by
  refine .snoc (.snoc .nil (i := 0) rfl (.created ?_ rfl)) (i := 1) rfl (.created ?_ rfl)
  · intro record hrecord
    exact absurd hrecord List.not_mem_nil
  · intro record hrecord
    cases List.mem_singleton.mp hrecord
    decide +kernel

theorem people_patched (h : w.bases.get "app1" = some peopleBase) (whole : Bool) :
    ProvisioningWorld.Exec peopleSnapshot.source w
      (.patchRecords "app1" "tbl1" "fld1" [peopleCells "ada", peopleCells "bob"])
      (.ok (peopleAnswer whole)) (w.setTable peopleBase peopleFullTable) := by
  have hwrites : w.Writes "app1" "tbl1" "fld1" [peopleCells "ada", peopleCells "bob"]
      [(0, "rec1"), (1, "rec2")] (w.setTable peopleBase peopleFullTable) :=
    ⟨peopleBase, peopleEmptyTable, peopleFullTable, h, rfl, people_written, rfl⟩
  refine .patched hwrites fun i record hmem => ?_
  rcases List.mem_cons.mp hmem with heq | hmem
  · cases heq
    exact List.mem_cons_self
  · cases whole with
    | false => exact absurd hmem List.not_mem_nil
    | true =>
      cases List.mem_singleton.mp hmem
      exact List.mem_cons_of_mem _ List.mem_cons_self

end

/-- With an answer for both, the people are provisioned. -/
theorem provisioning_ready_people :
    ∃ (steps : ProvisioningSteps ℕ) (final : ProvisioningConfiguration ℕ),
      Trace (Configuration.Step (ProvisioningWorld.Exec peopleSnapshot.source))
        (provisioningWorkers SymbolicDigest.host peopleInput peopleWorld) steps final ∧
      final.world.state.phase = .ready ∧ Provisioned peopleSnapshot final.world := by
  have hrun : ∃ (steps : ProvisioningSteps ℕ) (final : ProvisioningConfiguration ℕ),
      Trace (Configuration.Step (ProvisioningWorld.Exec peopleSnapshot.source))
        (provisioningWorkers SymbolicDigest.host peopleInput peopleWorld) steps final ∧
      final.world.state.phase = .ready ∧
      Trace.All (fun _ e _ => AnswersEach e.2.1 e.2.2) steps := by
    refine ⟨_, _, ((((((((((((((Trace.nil.snoc
      (.call (i := 0) rfl (people_claimed rfl rfl))).snoc
      (.call (i := 0) rfl (.createdBase (people_created rfl)))).snoc
      (.call (i := 0) rfl (.completed ⟨rfl, rfl, rfl, rfl⟩ rfl))).snoc
      (.call (i := 1) rfl (people_claimed rfl rfl))).snoc
      (.call (i := 1) rfl people_paged)).snoc
      (.call (i := 1) rfl (people_patched rfl true))).snoc
      (.call (i := 1) rfl (.completed ⟨rfl, rfl, rfl, rfl⟩ rfl))).snoc
      (.call (i := 2) rfl (people_claimed rfl rfl))).snoc
      (.call (i := 2) rfl (.completed ⟨rfl, rfl, rfl, rfl⟩ rfl))).snoc
      (.call (i := 3) rfl (people_claimed rfl rfl))).snoc
      (.call (i := 3) rfl people_listed)).snoc
      (.call (i := 3) rfl (.completed ⟨rfl, rfl, rfl, rfl⟩ rfl))).snoc
      (.call (i := 4) rfl (people_claimed rfl rfl))).snoc
      (.call (i := 4) rfl (.completed ⟨rfl, rfl, rfl, rfl⟩ rfl))), rfl, ?_⟩
    simp only [Trace.all_snoc, Trace.all_nil, true_and]
    simp only [AnswersEach, and_true]
    decide
  obtain ⟨steps, final, hrun, hready, heach⟩ := hrun
  exact ⟨steps, final, hrun, hready, (provisioning_ready SymbolicDigest.host peopleSnapshot
    peopleInput peopleWorld_starts (fun _ _ => rfl) hrun).2 (by decide) heach hready⟩

/-- With an answer that leaves out the second, the base is declared ready, and there is no link
for him. -/
theorem omitted_record_unlinked :
    ∃ (steps : ProvisioningSteps ℕ) (final : ProvisioningConfiguration ℕ),
      Trace (Configuration.Step (ProvisioningWorld.Exec peopleSnapshot.source))
        (provisioningWorkers SymbolicDigest.host peopleInput peopleWorld) steps final ∧
      final.workers 4 = .done (.ready (some "app1")) ∧ final.world.state.phase = .ready ∧
      ¬ Provisioned peopleSnapshot final.world := by
  have hrun : ∃ (steps : ProvisioningSteps ℕ) (final : ProvisioningConfiguration ℕ),
      Trace (Configuration.Step (ProvisioningWorld.Exec peopleSnapshot.source))
        (provisioningWorkers SymbolicDigest.host peopleInput peopleWorld) steps final ∧
      final.workers 4 = .done (.ready (some "app1")) ∧ final.world.state.phase = .ready ∧
      final.world.links.get ("people", "bob") = none := by
    refine ⟨_, _, ((((((((((((((Trace.nil.snoc
      (.call (i := 0) rfl (people_claimed rfl rfl))).snoc
      (.call (i := 0) rfl (.createdBase (people_created rfl)))).snoc
      (.call (i := 0) rfl (.completed ⟨rfl, rfl, rfl, rfl⟩ rfl))).snoc
      (.call (i := 1) rfl (people_claimed rfl rfl))).snoc
      (.call (i := 1) rfl people_paged)).snoc
      (.call (i := 1) rfl (people_patched rfl false))).snoc
      (.call (i := 1) rfl (.completed ⟨rfl, rfl, rfl, rfl⟩ rfl))).snoc
      (.call (i := 2) rfl (people_claimed rfl rfl))).snoc
      (.call (i := 2) rfl (.completed ⟨rfl, rfl, rfl, rfl⟩ rfl))).snoc
      (.call (i := 3) rfl (people_claimed rfl rfl))).snoc
      (.call (i := 3) rfl people_listed)).snoc
      (.call (i := 3) rfl (.completed ⟨rfl, rfl, rfl, rfl⟩ rfl))).snoc
      (.call (i := 4) rfl (people_claimed rfl rfl))).snoc
      (.call (i := 4) rfl (.completed ⟨rfl, rfl, rfl, rfl⟩ rfl))), rfl, rfl, rfl⟩
  obtain ⟨steps, final, hrun, hdone, hready, hunlinked⟩ := hrun
  refine ⟨steps, final, hrun, hdone, hready, ?_⟩
  rintro ⟨b, -, hall⟩
  obtain ⟨bound, -, hkey, -, hlinked, -⟩ := hall peopleTable List.mem_cons_self
  obtain ⟨id, -, hlink⟩ := hlinked "bob" (by decide)
  rw [hkey] at hlink
  exact absurd (hunlinked.symm.trans hlink) (by simp)

end JooEvents
