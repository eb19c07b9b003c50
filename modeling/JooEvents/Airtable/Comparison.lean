import JooEvents.Lib.Fallible
import JooEvents.Kernel.Text

/-!
# Three-way comparison

A mapped Airtable field has a value on each side and the value both sides last agreed on.
`compareSyncField` classifies the field by which sides moved, and
`evaluateAirtableShadowRecord` does so for the mappings of a record, each of which has a
key and a field of its own.

`evaluation_keys_nodup` and `finding_eq_compare` say what an evaluation is : findings with
distinct keys, each disposed of as its own values are. A field that Airtable moved alone
has a remote value that is not the local one (`not_equal_of_changed`).
-/

namespace JooEvents

open Fallible

variable {D : Type}

/-- What the integration takes from the language beside the canonical encoding. -/
structure LocaleHost (D : Type) extends Host D where
  /-- `a.localeCompare(b)`. -/
  localeCompare : String → String → Ordering
  /-- `s.toLocaleLowerCase('en-US')`. -/
  toLocaleLowerCase : String → String

/-- `values.sort((left, right) => text(left).localeCompare(text(right)))`. -/
def LocaleHost.sortBy {α : Type} (host : LocaleHost D) (text : α → String) (values : List α) :
    List α :=
  values.insertionSort fun left right => host.localeCompare (text left) (text right) ≠ .gt

theorem LocaleHost.sortBy_perm {α : Type} (host : LocaleHost D) (text : α → String)
    (values : List α) : (host.sortBy text values).Perm values :=
  List.perm_insertionSort _ _

/-- A language whose texts compare by code points. -/
def plainLocale : LocaleHost SymbolicDigest where
  toHost := SymbolicDigest.host
  localeCompare := compare
  toLocaleLowerCase := String.toLower

/-- What of an `AirtableProviderFailure` is looked at. -/
structure AirtableProviderFailure where
  code : String
  retryAfterDelay : Bool
  retryAfterMs : Option ℤ

/-- `FIELD_SYNC_MODES`. -/
inductive FieldSyncMode where
  | not_shared
  | view_in_airtable
  | editable_in_airtable
  | request_from_airtable
  deriving DecidableEq

/-- How a field's data is classified. -/
inductive DataClassification where
  | ordinary
  | personal
  | sensitive
  | classified
  deriving DecidableEq

structure SyncFieldState where
  fieldKey : String
  mode : FieldSyncMode
  base : Json Empty
  «local» : Json Empty
  remote : Json Empty
  lastOutbound : Option (Json Empty)

inductive FieldComparisonDisposition where
  | unchanged
  | outbound
  | echo
  | converged
  | apply_inbound
  | create_request
  | restore
  | forbidden
  | conflict
  deriving DecidableEq

structure FieldComparison where
  fieldKey : String
  mode : FieldSyncMode
  localChanged : Bool
  remoteChanged : Bool
  disposition : FieldComparisonDisposition

/-- `equal`. The canonical texts agree when the canonical values do. -/
def syncEqual (host : Host D) (left right : Json Empty) : Bool :=
  decide (left.canonicalize host.nfc = right.canonicalize host.nfc)

def compareSyncField (host : Host D) (field : SyncFieldState) : FieldComparison :=
  let localChanged := !syncEqual host field.«local» field.base
  let remoteChanged := !syncEqual host field.remote field.base
  let disposition : FieldComparisonDisposition :=
    if !localChanged && !remoteChanged then .unchanged
    else if localChanged && !remoteChanged then .outbound
    else if localChanged && remoteChanged && syncEqual host field.«local» field.remote then
      if field.lastOutbound.any (syncEqual host field.remote) then .echo else .converged
    else if localChanged && remoteChanged then .conflict
    else match field.mode with
      | .editable_in_airtable => .apply_inbound
      | .request_from_airtable => .create_request
      | .view_in_airtable => .restore
      | .not_shared => .forbidden
  { fieldKey := field.fieldKey, mode := field.mode, localChanged, remoteChanged, disposition }

/-- What is thrown while a record is evaluated. -/
inductive ShadowError where
  | sync_field_duplicate
  | airtable_shadow_mapping_duplicate
  | disposition_of_undefined
  deriving DecidableEq

/-! ## Records -/

structure RecordComparison where
  fields : List FieldComparison
  hasConflict : Bool
  needsOutbound : Bool
  needsInbound : Bool
  needsReview : Bool

/-- The comparisons of the fields, whose keys must be new. -/
def compareFields (host : Host D) : List String → List SyncFieldState →
    Except ShadowError (List FieldComparison)
  | _, [] => .ok []
  | seen, field :: fields => do
    require (field.fieldKey ∉ seen) ShadowError.sync_field_duplicate
    let comparisons ← compareFields host (field.fieldKey :: seen) fields
    return compareSyncField host field :: comparisons

def compareSyncRecord (host : LocaleHost D) (fields : List SyncFieldState) :
    Except ShadowError RecordComparison := do
  let compared ← compareFields host.toHost [] fields
  let comparisons := host.sortBy FieldComparison.fieldKey compared
  return {
    fields := comparisons
    hasConflict := comparisons.any fun field => field.disposition = .conflict
    needsOutbound := comparisons.any fun field =>
      field.disposition = .outbound ∨ field.disposition = .restore
    needsInbound := comparisons.any fun field => field.disposition = .apply_inbound
    needsReview := comparisons.any fun field => field.disposition = .create_request }

structure AirtableShadowFieldMapping where
  fieldKey : String
  fieldId : String
  mode : FieldSyncMode
  dataClassification : DataClassification
  deriving DecidableEq

structure AirtableShadowFieldFinding extends AirtableShadowFieldMapping where
  base : Json Empty
  «local» : Json Empty
  remote : Json Empty
  disposition : FieldComparisonDisposition
  deriving DecidableEq

structure AirtableShadowEvaluation where
  fields : List AirtableShadowFieldFinding
  hasConflict : Bool
  needsOutbound : Bool
  wouldApplyInbound : Bool
  wouldCreateRequest : Bool
  deriving DecidableEq

/-- What a record is evaluated on. The values are by field key, the remote ones by field. -/
structure AirtableShadowInput where
  mappings : List AirtableShadowFieldMapping
  baseline : String → Option (Json Empty)
  «local» : String → Option (Json Empty)
  remote : String → Option (Json Empty)
  lastOutbound : Option (String → Option (Json Empty))

namespace AirtableShadowInput

variable (input : AirtableShadowInput)

def state (mapping : AirtableShadowFieldMapping) : SyncFieldState where
  fieldKey := mapping.fieldKey
  mode := mapping.mode
  base := (input.baseline mapping.fieldKey).getD .null
  «local» := (input.«local» mapping.fieldKey).getD .null
  remote := (input.remote mapping.fieldId).getD .null
  lastOutbound := input.lastOutbound.bind fun values => values mapping.fieldKey

/-- The states of the mapped fields, whose keys and fields must be new. -/
def states : List String → List String → List AirtableShadowFieldMapping →
    Except ShadowError (List SyncFieldState)
  | _, _, [] => .ok []
  | seenKeys, seenIds, mapping :: mappings => do
    require (¬ (mapping.fieldKey ∈ seenKeys ∨ mapping.fieldId ∈ seenIds))
      ShadowError.airtable_shadow_mapping_duplicate
    let rest ← states (mapping.fieldKey :: seenKeys) (mapping.fieldId :: seenIds) mappings
    return input.state mapping :: rest

def finding (comparison : RecordComparison) (mapping : AirtableShadowFieldMapping) :
    Except ShadowError AirtableShadowFieldFinding := do
  let field ← orRefuse (comparison.fields.find? fun field => field.fieldKey = mapping.fieldKey)
    ShadowError.disposition_of_undefined
  return {
    toAirtableShadowFieldMapping := mapping
    base := (input.baseline mapping.fieldKey).getD .null
    «local» := (input.«local» mapping.fieldKey).getD .null
    remote := (input.remote mapping.fieldId).getD .null
    disposition := field.disposition }

end AirtableShadowInput

def evaluateAirtableShadowRecord (host : LocaleHost D) (input : AirtableShadowInput) :
    Except ShadowError AirtableShadowEvaluation := do
  let states ← input.states [] [] input.mappings
  let comparison ← compareSyncRecord host states
  let findings ← input.mappings.mapM (input.finding comparison)
  return {
    fields := host.sortBy (·.fieldKey) findings
    hasConflict := comparison.hasConflict
    needsOutbound := comparison.needsOutbound
    wouldApplyInbound := comparison.needsInbound
    wouldCreateRequest := comparison.needsReview }

/-! ## What a comparison says -/

def AirtableShadowFieldFinding.state (finding : AirtableShadowFieldFinding)
    (lastOutbound : Option (Json Empty)) : SyncFieldState where
  fieldKey := finding.fieldKey
  mode := finding.mode
  base := finding.base
  «local» := finding.«local»
  remote := finding.remote
  lastOutbound := lastOutbound

def AirtableShadowFieldFinding.changed (finding : AirtableShadowFieldFinding) : Bool :=
  finding.disposition = .apply_inbound ∨ finding.disposition = .create_request

theorem compareSyncField_alone {host : Host D} {field : SyncFieldState}
    (h : (compareSyncField host field).disposition = .apply_inbound ∨
      (compareSyncField host field).disposition = .create_request) :
    syncEqual host field.«local» field.base = true ∧
      syncEqual host field.remote field.base = false := by
  cases hlocal : syncEqual host field.«local» field.base <;>
    cases hremote : syncEqual host field.remote field.base
  · exfalso
    simp only [compareSyncField, hlocal, hremote] at h
    split_ifs at h <;> simp_all
  · simp [compareSyncField, hlocal, hremote] at h
  · exact ⟨rfl, rfl⟩
  · simp [compareSyncField, hlocal, hremote] at h

theorem states_eq_ok {input : AirtableShadowInput} :
    ∀ {mappings : List AirtableShadowFieldMapping} {keys ids : List String}
      {states : List SyncFieldState}, input.states keys ids mappings = .ok states →
      states = mappings.map input.state ∧ (mappings.map (·.fieldKey)).Nodup ∧
        ∀ mapping ∈ mappings, mapping.fieldKey ∉ keys
  | [], keys, ids, states, h => by
    cases h
    simp
  | mapping :: mappings, keys, ids, states, h => by
    simp only [AirtableShadowInput.states, bind_eq_ok, require_eq_ok, pure_eq_ok, not_or] at h
    obtain ⟨⟨⟩, ⟨hkey, -⟩, rest, hrest, rfl⟩ := h
    obtain ⟨rfl, hnodup, hfresh⟩ := states_eq_ok hrest
    refine ⟨rfl, ?_, ?_⟩
    · rw [List.map_cons, List.nodup_cons, List.mem_map]
      refine ⟨?_, hnodup⟩
      rintro ⟨other, hother, heq⟩
      exact hfresh other hother (by simp [heq])
    · rintro other (_ | ⟨_, hother⟩)
      · exact hkey
      · exact fun hmem => hfresh other hother (List.mem_cons_of_mem _ hmem)

theorem compareFields_eq_ok {host : Host D} :
    ∀ {fields : List SyncFieldState} {seen : List String} {comparisons : List FieldComparison},
      compareFields host seen fields = .ok comparisons →
      comparisons = fields.map (compareSyncField host)
  | [], seen, comparisons, h => by
    cases h
    rfl
  | field :: fields, seen, comparisons, h => by
    simp only [compareFields, bind_eq_ok, require_eq_ok, pure_eq_ok] at h
    obtain ⟨⟨⟩, -, rest, hrest, rfl⟩ := h
    rw [compareFields_eq_ok hrest]
    rfl

section

variable {host : LocaleHost D} {input : AirtableShadowInput}
  {evaluation : AirtableShadowEvaluation}

theorem finding_eq_ok {comparison : RecordComparison} {mapping : AirtableShadowFieldMapping}
    {finding : AirtableShadowFieldFinding}
    (hcompare : compareSyncRecord host (input.mappings.map input.state) = .ok comparison)
    (hnodup : (input.mappings.map (·.fieldKey)).Nodup) (hmem : mapping ∈ input.mappings)
    (h : input.finding comparison mapping = .ok finding) :
    finding.toAirtableShadowFieldMapping = mapping ∧
      ∃ lastOutbound, finding.disposition =
        (compareSyncField host.toHost (finding.state lastOutbound)).disposition := by
  simp only [AirtableShadowInput.finding, bind_eq_ok, orRefuse_eq_ok, pure_eq_ok] at h
  obtain ⟨field, hfind, rfl⟩ := h
  refine ⟨rfl, (input.state mapping).lastOutbound, ?_⟩
  simp only [compareSyncRecord, bind_eq_ok, pure_eq_ok] at hcompare
  obtain ⟨compared, hcompared, rfl⟩ := hcompare
  have hfield := List.mem_of_find?_eq_some hfind
  have hkey : field.fieldKey = mapping.fieldKey := by simpa using List.find?_some hfind
  rw [(host.sortBy_perm _ _).mem_iff, compareFields_eq_ok hcompared] at hfield
  simp only [List.map_map, List.mem_map, Function.comp_apply] at hfield
  obtain ⟨other, hother, rfl⟩ := hfield
  have hsame : other = mapping := List.inj_on_of_nodup_map hnodup hother hmem hkey
  rw [hsame]
  rfl

theorem evaluation_findings (h : evaluateAirtableShadowRecord host input = .ok evaluation) :
    (input.mappings.map (·.fieldKey)).Nodup ∧
      ∃ findings, evaluation.fields.Perm findings ∧
        List.Forall₂ (fun mapping finding => finding.toAirtableShadowFieldMapping = mapping ∧
          ∃ lastOutbound, finding.disposition =
            (compareSyncField host.toHost (finding.state lastOutbound)).disposition)
          input.mappings findings := by
  simp only [evaluateAirtableShadowRecord, bind_eq_ok, pure_eq_ok] at h
  obtain ⟨states, hstates, comparison, hcompare, findings, hfindings, rfl⟩ := h
  obtain ⟨rfl, hnodup, -⟩ := states_eq_ok hstates
  refine ⟨hnodup, findings, host.sortBy_perm _ _, ?_⟩
  have hall := forall₂_of_mapM_eq_ok hfindings
  rw [List.forall₂_iff_get] at hall ⊢
  exact ⟨hall.1, fun i hi hi' =>
    finding_eq_ok hcompare hnodup (List.get_mem _ _) (hall.2 i hi hi')⟩

theorem evaluation_keys_nodup (h : evaluateAirtableShadowRecord host input = .ok evaluation) :
    (evaluation.fields.map (·.fieldKey)).Nodup := by
  obtain ⟨hnodup, findings, hperm, hall⟩ := evaluation_findings h
  rw [(hperm.map _).nodup_iff]
  have hkeys : input.mappings.map (·.fieldKey) = findings.map (·.fieldKey) := by
    rw [← List.forall₂_eq_eq_eq, List.forall₂_map_left_iff, List.forall₂_map_right_iff]
    exact hall.imp fun _ _ hfinding => by rw [hfinding.1]
  exact hkeys ▸ hnodup

theorem finding_eq_compare (h : evaluateAirtableShadowRecord host input = .ok evaluation)
    {finding : AirtableShadowFieldFinding} (hmem : finding ∈ evaluation.fields) :
    ∃ lastOutbound, finding.disposition =
      (compareSyncField host.toHost (finding.state lastOutbound)).disposition := by
  obtain ⟨-, findings, hperm, hall⟩ := evaluation_findings h
  obtain ⟨i, hi, rfl⟩ := List.getElem_of_mem (hperm.mem_iff.mp hmem)
  rw [List.forall₂_iff_get] at hall
  exact (hall.2 i (hall.1 ▸ hi) hi).2

theorem not_equal_of_changed (h : evaluateAirtableShadowRecord host input = .ok evaluation)
    {finding : AirtableShadowFieldFinding} (hmem : finding ∈ evaluation.fields)
    (hchanged : finding.changed = true) :
    syncEqual host.toHost finding.remote finding.«local» = false := by
  obtain ⟨lastOutbound, hdisposition⟩ := finding_eq_compare h hmem
  simp only [AirtableShadowFieldFinding.changed, hdisposition, decide_eq_true_eq] at hchanged
  obtain ⟨hlocal, hremote⟩ := compareSyncField_alone hchanged
  have hbase := of_decide_eq_true hlocal
  refine decide_eq_false fun heq => of_decide_eq_false hremote ?_
  exact heq.trans hbase

end

end JooEvents
