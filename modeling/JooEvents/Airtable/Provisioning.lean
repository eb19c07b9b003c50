import JooEvents.Lib.Process
import JooEvents.Airtable.Manifest

/-!
# Provisioning a managed base

A base is provisioned step by step : it is created, or selected and given the managed tables,
then filled page by page with the records of a snapshot source, then listed and counted.
`runManagedProvisioningStep` claims the stored state, does what its phase asks for, and
completes the claim with the next state. Where a claim was lost in between, what was done to
the base stays done, and the step is taken again from the stored state.
-/

namespace JooEvents

open Fallible

variable {D : Type}

/-! ## States -/

inductive ManagedProvisioningPhase where
  | create_base
  | inspect_base
  | create_tables
  | snapshot
  | verify
  | ready
  | attention
  deriving DecidableEq

/-- How a base comes to be managed. -/
inductive ManagedProvisioningMode where
  | create_base
  | selected_base
  deriving DecidableEq

structure ManagedProvisioningTableState where
  tableKey : String
  snapshotCursor : Option String
  snapshotComplete : Bool
  projectedCount : ℕ
  verifyOffset : Option String
  verifyComplete : Bool
  verifiedCount : ℕ
  deriving DecidableEq

structure ManagedProvisioningState where
  connectionId : String
  manifestVersion : ℕ
  manifestDigestSha256 : String
  mode : ManagedProvisioningMode
  providerWorkspaceId : Option String
  baseName : Option String
  providerBaseId : Option String
  createdTableKeys : List String
  phase : ManagedProvisioningPhase
  binding : Option ManagedSchemaBinding
  tables : List ManagedProvisioningTableState
  attentionCode : Option String
  version : ℕ
  deriving DecidableEq

def newTableState (table : ManagedManifestTable) : ManagedProvisioningTableState where
  tableKey := table.key
  snapshotCursor := none
  snapshotComplete := false
  projectedCount := 0
  verifyOffset := none
  verifyComplete := false
  verifiedCount := 0

def newProvisioningState (connectionId : String) (manifest : ManagedBaseManifest)
    (mode : ManagedProvisioningMode) (providerWorkspaceId baseName providerBaseId : Option String) :
    ManagedProvisioningState where
  connectionId := connectionId
  manifestVersion := manifest.version
  manifestDigestSha256 := manifest.digestSha256
  mode := mode
  providerWorkspaceId := providerWorkspaceId
  baseName := baseName
  providerBaseId := providerBaseId
  createdTableKeys := []
  phase := match mode with
    | .create_base => .create_base
    | .selected_base => .inspect_base
  binding := none
  tables := manifest.tables.map newTableState
  attentionCode := none
  version := 1

def createManagedProvisioningState (connectionId providerWorkspaceId baseName : String)
    (manifest : ManagedBaseManifest) : Except ProvisioningError ManagedProvisioningState := do
  require (1 ≤ textLength connectionId ∧ textLength connectionId ≤ 256 ∧
    trimText baseName = baseName ∧ 1 ≤ textLength baseName ∧ textLength baseName ≤ 255)
    ProvisioningError.managed_provisioning_input_invalid
  return newProvisioningState connectionId manifest .create_base (some providerWorkspaceId)
    (some baseName) none

def createManagedSelectedBaseProvisioningState (connectionId providerBaseId : String)
    (baseName : Option String) (manifest : ManagedBaseManifest) :
    Except ProvisioningError ManagedProvisioningState := do
  require (1 ≤ textLength connectionId ∧ textLength connectionId ≤ 256)
    ProvisioningError.managed_provisioning_input_invalid
  return newProvisioningState connectionId manifest .selected_base none baseName
    (some providerBaseId)

namespace ManagedProvisioningState

variable (state : ManagedProvisioningState)

def replaceTable (tableKey : String)
    (update : ManagedProvisioningTableState → ManagedProvisioningTableState) :
    List ManagedProvisioningTableState :=
  state.tables.map fun table => if table.tableKey = tableKey then update table else table

/-- `attention`. -/
def toAttention (code : String) : ManagedProvisioningState :=
  { state with phase := .attention, attentionCode := some code, version := state.version + 1 }

/-- `advance`, to another phase. -/
def toPhase (phase : ManagedProvisioningPhase) : ManagedProvisioningState :=
  { state with phase, version := state.version + 1 }

/-- `advance`, to the snapshot of a bound base. -/
def toSnapshot (binding : ManagedSchemaBinding) (createdTableKeys : List String) :
    ManagedProvisioningState :=
  { state with
    phase := .snapshot
    binding := some binding
    createdTableKeys
    version := state.version + 1 }

/-- `advance`, by a table that was created. -/
def withCreated (tableKey : String) : ManagedProvisioningState :=
  { state with
    createdTableKeys := state.createdTableKeys ++ [tableKey]
    version := state.version + 1 }

/-- `advance`, with what a table has become. -/
def withTable (tableKey : String)
    (update : ManagedProvisioningTableState → ManagedProvisioningTableState) :
    ManagedProvisioningState :=
  { state with tables := state.replaceTable tableKey update, version := state.version + 1 }

end ManagedProvisioningState

structure ManagedProvisioningClaim where
  state : ManagedProvisioningState
  workerId : String
  leaseVersion : ℕ

structure SnapshotRecordLink where
  tableKey : String
  subjectKey : String
  recordId : String

/-- A page of `ManagedSnapshotSource`. -/
structure ManagedSnapshotPage where
  records : List ManagedProjectedRecord
  nextCursor : Option String

structure AirtableRecord where
  id : String
  fields : AirtableCells

structure AirtableRecordPage where
  records : List AirtableRecord
  offset : Option String

inductive AirtableWriteDisposition where
  | written (requestIndex : ℕ) (record : AirtableRecord)
  | failed (requestIndex : ℕ) (failure : AirtableProviderFailure)

/-- `disposition.requestIndex`. -/
def AirtableWriteDisposition.requestIndex : AirtableWriteDisposition → ℕ
  | .written requestIndex _ => requestIndex
  | .failed requestIndex _ => requestIndex

/-- A call of a provisioning step. -/
inductive ProvisioningCall where
  | claim (connectionId workerId : String) (nowMs leaseMs : ℤ)
  | complete (claim : ManagedProvisioningClaim) (nextState : ManagedProvisioningState)
      (links : List SnapshotRecordLink) (nowMs : ℤ)
  | createBase (workspaceId name : Option String) (tables : List AirtableCreateTableInput)
  | getBaseSchema (baseId : Option String)
  | createTable (baseId : Option String) (table : AirtableCreateTableInput)
  | listPage (connectionId tableKey : String) (cursor : Option String)
  | patchRecords (baseId tableId mergeOnFieldId : String) (records : List AirtableCells)
  | listRecords (baseId tableId : String) (fieldIds : List String) (offset : Option String)

def ProvisioningCall.Answer : ProvisioningCall → Type
  | .claim _ _ _ _ => Option ManagedProvisioningClaim
  | .complete _ _ _ _ => Bool
  | .createBase _ _ _ => Except AirtableProviderFailure AirtableBaseSchema
  | .getBaseSchema _ => Except AirtableProviderFailure AirtableBaseSchema
  | .createTable _ _ => Except AirtableProviderFailure AirtableTableSchema
  | .listPage _ _ _ => ManagedSnapshotPage
  | .patchRecords _ _ _ _ => Except AirtableProviderFailure (List AirtableWriteDisposition)
  | .listRecords _ _ _ _ => Except AirtableProviderFailure AirtableRecordPage

abbrev ProvisioningWorker (α : Type) : Type :=
  Process ProvisioningCall ProvisioningCall.Answer ProvisioningError α

abbrev ProvisioningAdvance : Type := ManagedProvisioningState × List SnapshotRecordLink

/-- What a provisioning step is given beside its ports. `syncedAt` is `nowMs` as a text. -/
structure ManagedProvisioningInput where
  connectionId : String
  workerId : String
  nowMs : ℤ
  leaseMs : ℤ
  syncedAt : String
  manifest : ManagedBaseManifest

/-! ## Phases -/

/-- The code of a failure, where the provider may have accepted after all. -/
def acceptanceCode (what accepted : String) (failure : AirtableProviderFailure) : String :=
  if failure.code = "acceptance_unknown" then accepted else what ++ failure.code

/-- A schema that was created or completed is bound. -/
def bindCreated (manifest : ManagedBaseManifest) (state : ManagedProvisioningState)
    (createdTableKeys : List String) (schema : AirtableBaseSchema) : ManagedProvisioningState :=
  match bindManagedSchema manifest schema with
  | .error drift => state.toAttention ("created_schema_" ++ drift.code)
  | .ok binding => state.toSnapshot binding createdTableKeys

/-- The phase `create_base`. -/
def createBasePhase (manifest : ManagedBaseManifest) (state : ManagedProvisioningState) :
    ProvisioningWorker ProvisioningAdvance :=
  .call (.createBase state.providerWorkspaceId state.baseName (toAirtableCreateTables manifest)) fun
    | .error failure => .done (state.toAttention
        (acceptanceCode "base_creation_" "base_creation_acceptance_unknown" failure), [])
    | .ok schema =>
        .done (bindCreated manifest state (manifest.tables.map (·.key)) schema, [])

/-- The phase `inspect_base`. -/
def inspectBasePhase (manifest : ManagedBaseManifest) (state : ManagedProvisioningState) :
    ProvisioningWorker ProvisioningAdvance :=
  .call (.getBaseSchema state.providerBaseId) fun
    | .error failure => .done (state.toAttention ("base_inspection_" ++ failure.code), [])
    | .ok schema =>
        if ∃ table ∈ schema.tables, table.name ∈ manifest.tables.map (·.name) then
          .done (state.toAttention "base_managed_table_name_conflict", [])
        else .done (state.toPhase .create_tables, [])

def tableMatchesManagedDefinition (expected : ManagedManifestTable)
    (actual : AirtableTableSchema) : Bool :=
  decide (actual.name = expected.name ∧ actual.fields.length = expected.fields.length ∧
      ∃ view ∈ actual.views, view.type = "grid") &&
    expected.fields.all fun field =>
      ((onlyOne (actual.fields.filter fun candidate => candidate.name = field.name)).any
        fun found => found.type = field.type)

/-- A managed table that the base lacks is created. -/
def createPendingTable (state : ManagedProvisioningState) (pending : ManagedManifestTable) :
    ProvisioningWorker ProvisioningAdvance :=
  .call (.createTable state.providerBaseId pending.toCreateTable) fun
    | .error failure => .done (state.toAttention
        (acceptanceCode "table_creation_" "table_creation_acceptance_unknown" failure), [])
    | .ok created =>
        if tableMatchesManagedDefinition pending created then
          .done (state.withCreated pending.key, [])
        else .done (state.toAttention "created_table_schema_mismatch", [])

/-- The phase `create_tables`. -/
def createTablesPhase (manifest : ManagedBaseManifest) (state : ManagedProvisioningState) :
    ProvisioningWorker ProvisioningAdvance :=
  .call (.getBaseSchema state.providerBaseId) fun
    | .error failure => .done (state.toAttention ("table_reconciliation_" ++ failure.code), [])
    | .ok schema =>
        match manifest.tables.find? fun table => table.key ∉ state.createdTableKeys with
        | none => .done (bindCreated manifest state state.createdTableKeys schema, [])
        | some pending =>
            match schema.tables.filter fun table => table.name = pending.name with
            | [] => createPendingTable state pending
            | [matching] =>
                if tableMatchesManagedDefinition pending matching then
                  .done (state.withCreated pending.key, [])
                else .done (state.toAttention "base_managed_table_name_conflict", [])
            | _ => .done (state.toAttention "base_managed_table_name_conflict", [])

def snapshotLink (tableKey : String) (records : List ManagedProjectedRecord) :
    AirtableWriteDisposition → Except ProvisioningError SnapshotRecordLink
  | .failed _ _ => .error .snapshot_result_invalid
  | .written requestIndex record => do
    let sourceRecord ← orRefuse records[requestIndex]? ProvisioningError.snapshot_result_invalid
    return { tableKey, subjectKey := sourceRecord.subjectKey, recordId := record.id }

def AirtableWriteDisposition.isFailed : AirtableWriteDisposition → Bool
  | .failed _ _ => true
  | .written _ _ => false

def projectedTable (page : ManagedSnapshotPage) (current : ManagedProvisioningTableState) :
    ManagedProvisioningTableState :=
  { current with
    snapshotCursor := page.nextCursor.or current.snapshotCursor
    snapshotComplete := page.nextCursor.isNone
    projectedCount := current.projectedCount + page.records.length }

def writeSnapshotPage (host : Host D) (input : ManagedProvisioningInput)
    (state : ManagedProvisioningState) (table : ManagedProvisioningTableState)
    (page : ManagedSnapshotPage) : ProvisioningWorker ProvisioningAdvance := do
  let binding ← .ofExcept (orRefuse state.binding ProvisioningError.binding_of_undefined)
  let batch ← .ofExcept (projectSnapshotBatch host input.manifest binding table.tableKey
    page.records input.syncedAt)
  .call (.patchRecords binding.baseId batch.tableId batch.stableIdFieldId batch.writes) fun
    | .error failure => .done (state.toAttention
        (acceptanceCode "snapshot_" "snapshot_acceptance_unknown" failure), [])
    | .ok dispositions =>
        if dispositions.any (·.isFailed) then
          .done (state.toAttention "snapshot_partial_failure", [])
        else
          (Process.ofExcept (dispositions.mapM (snapshotLink table.tableKey page.records))).bind
            fun links => .done (state.withTable table.tableKey (projectedTable page), links)

/-- The phase `snapshot`. -/
def snapshotPhase (host : Host D) (input : ManagedProvisioningInput)
    (state : ManagedProvisioningState) : ProvisioningWorker ProvisioningAdvance :=
  match state.tables.find? fun table => ¬ table.snapshotComplete with
  | none => .done (state.toPhase .verify, [])
  | some table =>
      .call (.listPage state.connectionId table.tableKey table.snapshotCursor)
        fun (page : ManagedSnapshotPage) =>
          if 10 < page.records.length ∨ page.records = [] ∧ page.nextCursor.isSome then
            .done (state.toAttention "snapshot_source_invalid", [])
          else if page.records = [] then
            .done (state.withTable table.tableKey fun current =>
              { current with snapshotComplete := true }, [])
          else writeSnapshotPage host input state table page

/-- The stable ids that were listed, if they are texts, not empty, and distinct. -/
def listedSubjects (stableIdFieldId : String) :
    List String → List AirtableRecord → Option (List String)
  | seen, [] => some seen
  | seen, record :: records =>
    match record.fields.cell stableIdFieldId with
    | some (.text subject) =>
        if subject = "" ∨ subject ∈ seen then none
        else listedSubjects stableIdFieldId (subject :: seen) records
    | _ => none

/-- What a table has become by a page that was listed. -/
def verifiedTable (page : AirtableRecordPage) (current : ManagedProvisioningTableState) :
    ManagedProvisioningTableState :=
  { current with
    verifyOffset := page.offset.or current.verifyOffset
    verifyComplete := page.offset.isNone
    verifiedCount := current.verifiedCount + page.records.length }

def verifyPage (state : ManagedProvisioningState) (table : ManagedProvisioningTableState)
    (stableIdFieldId : String) (page : AirtableRecordPage) : ManagedProvisioningState :=
  if (listedSubjects stableIdFieldId [] page.records).isNone then
    state.toAttention "verify_identity_invalid"
  else if page.offset.isNone ∧
      table.verifiedCount + page.records.length ≠ table.projectedCount then
    state.toAttention "verify_count_mismatch"
  else state.withTable table.tableKey (verifiedTable page)

/-- The phase `verify`. -/
def verifyPhase (state : ManagedProvisioningState) : ProvisioningWorker ProvisioningAdvance :=
  match state.tables.find? fun table => ¬ table.verifyComplete with
  | none => .done (state.toPhase .ready, [])
  | some table => do
      let binding ← .ofExcept (orRefuse state.binding ProvisioningError.binding_of_undefined)
      let bound ← .ofExcept (orRefuse (binding.tables.find? fun candidate =>
        candidate.key = table.tableKey) ProvisioningError.binding_of_undefined)
      .call (.listRecords binding.baseId bound.tableId [bound.stableIdFieldId]
          table.verifyOffset) fun
        | .error failure => .done (state.toAttention ("verify_" ++ failure.code), [])
        | .ok page => .done (verifyPage state table bound.stableIdFieldId page, [])

def provisioningPhase (host : Host D) (input : ManagedProvisioningInput)
    (state : ManagedProvisioningState) : ProvisioningWorker ProvisioningAdvance :=
  match state.phase with
  | .create_base => createBasePhase input.manifest state
  | .inspect_base => inspectBasePhase input.manifest state
  | .create_tables => createTablesPhase input.manifest state
  | .snapshot => snapshotPhase host input state
  | _ => verifyPhase state

inductive ManagedProvisioningStepResult where
  | idle
  | advanced (phase : ManagedProvisioningPhase)
  | ready (baseId : Option String)
  | attention (code : Option String)
  | stale

def storedResult (state : ManagedProvisioningState) : ManagedProvisioningStepResult :=
  match state.phase with
  | .attention => .attention state.attentionCode
  | .ready => .ready (state.binding.map (·.baseId))
  | phase => .advanced phase

def completeClaim (input : ManagedProvisioningInput) (claim : ManagedProvisioningClaim)
    (next : ProvisioningAdvance) : ProvisioningWorker ManagedProvisioningStepResult :=
  .call (.complete claim next.1 next.2 input.nowMs) fun (fenced : Bool) =>
    .done (if fenced then storedResult next.1 else .stale)

def runClaim (host : Host D) (input : ManagedProvisioningInput)
    (claim : ManagedProvisioningClaim) : ProvisioningWorker ManagedProvisioningStepResult :=
  if claim.state.manifestVersion ≠ input.manifest.version ∨
      claim.state.manifestDigestSha256 ≠ input.manifest.digestSha256 then
    completeClaim input claim (claim.state.toAttention "manifest_changed", [])
  else match claim.state.phase with
    | .ready => .done (.ready (claim.state.binding.map (·.baseId)))
    | .attention => .done (.attention
        (some (claim.state.attentionCode.getD "provisioning_attention")))
    | _ => provisioningPhase host input claim.state >>= completeClaim input claim

def runManagedProvisioningStep (host : Host D) (input : ManagedProvisioningInput) :
    ProvisioningWorker ManagedProvisioningStepResult :=
  .call (.claim input.connectionId input.workerId input.nowMs input.leaseMs) fun
    | none => .done .idle
    | some claim => runClaim host input claim

end JooEvents
