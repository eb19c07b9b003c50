import JooEvents.FieldRegistry.Model
import JooEvents.Lib.SortedKeys

/-!
# The registry as it is read

A snapshot lists the active fields of a registry, each with the options there are now of the
program vocabulary it draws on (`projectFieldRegistrySnapshot`). A field that is read so
resolves options exactly when it draws on the vocabulary.
-/

namespace JooEvents

open Fallible

variable {D : Type}

/-- `fieldRegistryResolvedOptionSchema`. -/
structure FieldRegistryResolvedOption where
  id : ApplicationId
  label : String
  version : Version
  deriving DecidableEq

/-- `fieldRegistryFieldViewSchema`. -/
structure FieldRegistryFieldView extends FieldRegistryFieldDefinition where
  resolvedOptions : Option (List FieldRegistryResolvedOption)
  deriving DecidableEq

/-- `options.kind === 'program_vocabulary'`. -/
def FieldRegistryOptionConfiguration.isVocabulary : FieldRegistryOptionConfiguration → Bool
  | .program_vocabulary _ => true
  | .none | .custom _ => false

/-- `fieldRegistryResolvedOptionSchema`, on what the type does not say. -/
def resolvedOptionSchema (host : Host D) (option : FieldRegistryResolvedOption) : Bool :=
  isCanonicalText host 240 option.label

/-- `fieldRegistryFieldViewSchema`, on what the type does not say. -/
def fieldRegistryFieldViewSchema (host : FieldRegistryHost D) (field : FieldRegistryFieldView) :
    Bool :=
  fieldDefinitionSchema host field.toFieldRegistryFieldDefinition &&
    field.resolvedOptions.all (fun options => decide (options.length ≤ fieldOptionsMax) &&
      options.all (resolvedOptionSchema host.toHost)) &&
    decide (field.options.isVocabulary = field.resolvedOptions.isSome)

/-- `fieldRegistrySnapshotSchema`. -/
structure FieldRegistrySnapshot (D : Type) where
  scope : FieldRegistryScope
  version : Version
  registryDigestSha256 : D
  fields : List FieldRegistryFieldView

/-- `fieldRegistrySnapshotSchema`, on what the type does not say. -/
def fieldRegistrySnapshotSchema (host : FieldRegistryHost D) (snapshot : FieldRegistrySnapshot D) :
    Bool :=
  decide (snapshot.fields.length ≤ fieldRegistryMaxFields) &&
    snapshot.fields.all (fieldRegistryFieldViewSchema host) &&
    decide (snapshot.fields.map (·.position) = List.range snapshot.fields.length) &&
    decide (snapshot.fields.flatMap (·.applicationIds)).Nodup &&
    decide (snapshot.fields.map (·.key)).Nodup &&
    decide (snapshot.fields.filterMap (·.mapsTo)).Nodup

structure FieldRegistryLiveOption where
  id : ApplicationId
  label : String
  version : Version
  status : ProgramVocabularyStatus

abbrev FieldRegistryLiveOptionSource :=
  FieldRegistryScope → FieldRegistryOptionSource → List FieldRegistryLiveOption

/-- The schema that a projection of the registry does not satisfy. -/
inductive FieldRegistryProjectionError where
  | state | field | snapshot
  deriving DecidableEq

/-- The active options of a field from the program vocabulary, in order of their identities. -/
def resolveOptions (optionSource : FieldRegistryLiveOptionSource) (scope : FieldRegistryScope)
    (options : FieldRegistryOptionConfiguration) : Option (List FieldRegistryResolvedOption) :=
  match options with
  | .program_vocabulary source =>
    let active := (optionSource scope source).filter fun option => option.status = .active
    some ((active.sortByKey (·.id)).map fun option =>
      { id := option.id, label := option.label, version := option.version })
  | .none | .custom _ => none

def projectFieldRegistrySnapshot (host : FieldRegistryHost D) (state : FieldRegistryState)
    (optionSource : FieldRegistryLiveOptionSource) :
    Except FieldRegistryProjectionError (FieldRegistrySnapshot D) := do
  require (registrySchema host state = true) .state
  let fields ← state.fields.mapM fun field => do
    let view : FieldRegistryFieldView :=
      { field with resolvedOptions := resolveOptions optionSource state.scope field.options }
    require (fieldRegistryFieldViewSchema host view = true) .field
    return view
  let snapshot : FieldRegistrySnapshot D :=
    { scope := state.scope, version := state.version
      registryDigestSha256 := fieldRegistryStateDigest host state, fields }
  require (fieldRegistrySnapshotSchema host snapshot = true) .snapshot
  return snapshot

theorem fieldRegistrySnapshotSchema_of_project {host : FieldRegistryHost D}
    {state : FieldRegistryState} {optionSource : FieldRegistryLiveOptionSource}
    {snapshot : FieldRegistrySnapshot D}
    (h : projectFieldRegistrySnapshot host state optionSource = .ok snapshot) :
    fieldRegistrySnapshotSchema host snapshot = true := by
  simp only [projectFieldRegistrySnapshot, bind_eq_ok, require_eq_ok, pure_eq_ok] at h
  obtain ⟨_, -, _, -, _, hsnapshot, rfl⟩ := h
  exact hsnapshot

/-- The facts about fields that the schema of a snapshot establishes. -/
structure FieldRegistrySnapshot.Sound (host : FieldRegistryHost D)
    (snapshot : FieldRegistrySnapshot D) : Prop where
  length_le : snapshot.fields.length ≤ fieldRegistryMaxFields
  field : ∀ field ∈ snapshot.fields, fieldRegistryFieldViewSchema host field = true
  ids : (snapshot.fields.map (·.id)).Nodup
  keys : (snapshot.fields.map (·.key)).Nodup
  mappings : (snapshot.fields.filterMap (·.mapsTo)).Nodup

theorem map_id_sublist_applicationIds (fields : List FieldRegistryFieldView) :
    (fields.map (·.id)).Sublist
      (fields.flatMap fun field => field.applicationIds) := by
  induction fields with
  | nil => exact List.Sublist.slnil
  | cons field fields ih =>
    rw [List.map_cons, List.flatMap_cons, FieldRegistryFieldDefinition.applicationIds,
      List.cons_append]
    exact (ih.trans (List.sublist_append_right _ _)).cons_cons _

theorem FieldRegistrySnapshot.sound {host : FieldRegistryHost D}
    {snapshot : FieldRegistrySnapshot D} (h : fieldRegistrySnapshotSchema host snapshot = true) :
    snapshot.Sound host := by
  simp only [fieldRegistrySnapshotSchema, Bool.and_eq_true, decide_eq_true_eq,
    List.all_eq_true] at h
  obtain ⟨⟨⟨⟨⟨hlength, hfield⟩, -⟩, hids⟩, hkeys⟩, hmappings⟩ := h
  exact ⟨hlength, hfield, (map_id_sublist_applicationIds _).nodup hids, hkeys, hmappings⟩

theorem resolvedOptions_of_view {host : FieldRegistryHost D} {field : FieldRegistryFieldView}
    (h : fieldRegistryFieldViewSchema host field = true) :
    field.options.isVocabulary = field.resolvedOptions.isSome ∧
      ∀ options ∈ field.resolvedOptions, options.length ≤ fieldOptionsMax := by
  simp only [fieldRegistryFieldViewSchema, Bool.and_eq_true, decide_eq_true_eq, Option.all_eq_true] at h
  exact ⟨h.2, fun options hoptions => (h.1.2 options hoptions).1⟩

end JooEvents
