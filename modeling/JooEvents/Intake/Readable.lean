import JooEvents.Intake.Stale

/-!
# The organizer's view of a form

The list of forms shows a summary of each, and a form opens as a detail with the fields it offers
(`projectOrganizerFormSummary`, `projectOrganizerFormDetail`). Both are read by a schema that
bounds the number of issues by the number of fields and of rules, and that takes the labels of
options as the forms write them.

An issue is about a field and a rule, not about one of them, so that the bound can be exceeded :
`organizerForm_readable_iff` says when both views are read, and `organizerForm_unreadable` has a
form of two rules whose targets were removed from the registry.
-/

namespace JooEvents

open Fallible

variable {D : Type}

def formRegistryPin (registry : FieldRegistrySnapshot D) : FormRegistryPin D :=
  { version := registry.version, digestSha256 := registry.registryDigestSha256 }

/-- Why a view of a form is not read : `IntakeValidationError`, or the schema of the view. -/
inductive OrganizerFormError where
  | invalid_form_head | schema

/-- `organizerFormSummarySchema`. -/
structure OrganizerFormSummary (D : Type) where
  id : ApplicationId
  name : String
  target : FormTarget
  availability : FormAvailability
  status : FormStatus
  version : Version
  currentPublishedVersionId : Option ApplicationId
  composition : FormComposition
  registryPin : FormRegistryPin D
  closesAt : Option String
  fieldCount : ℕ
  configurationIssues : List FormConfigurationIssue
  submissionCount : ℕ
  updatedAt : Instant

/-- `z.array(formConfigurationIssueSchema).max(FORM_FIELDS_MAX + FORM_RULES_MAX)`. -/
def configurationIssuesSchema (issues : List FormConfigurationIssue) : Bool :=
  decide (issues.length ≤ formFieldsMax + formRulesMax)

/-- `organizerFormSummarySchema`, on what the type does not say. -/
def organizerFormSummarySchema (host : Host D) (summary : OrganizerFormSummary D) : Bool :=
  singleLineStored host 120 summary.name && summary.target.isTarget &&
    formCompositionSchema summary.composition && decide (summary.fieldCount ≤ formFieldsMax) &&
    configurationIssuesSchema summary.configurationIssues &&
    decide (summary.submissionCount ≤ maxSafeInteger)

def currentDeadline (head : FormDefinitionHead) (references : IntakeFormReferenceSource D) :
    Option (FormDeadlineReferencePin D) :=
  match head.definition.availability with
  | .evergreen => none
  | .deadline deadlineId => resolveCurrentDeadline head.scope deadlineId references

def projectOrganizerFormSummary (host : FieldRegistryHost D) (head : FormDefinitionHead)
    (submissionCount : ℕ) (registry : FieldRegistrySnapshot D)
    (references : IntakeFormReferenceSource D) :
    Except OrganizerFormError (OrganizerFormSummary D) := do
  require (formDefinitionHeadSchema host.toHost head = true) .invalid_form_head
  let summary : OrganizerFormSummary D :=
    { id := head.id
      name := head.definition.name
      target := head.definition.target
      availability := head.definition.availability
      status := head.status
      version := head.version
      currentPublishedVersionId := head.currentPublishedVersionId
      composition := head.definition.composition
      registryPin := formRegistryPin registry
      closesAt := (currentDeadline head references).map (·.displayDate)
      fieldCount := (analyzeFormComposition head.id head.definition registry).fields.length
      configurationIssues := organizerFormIssues head registry references
      submissionCount
      updatedAt := head.updatedAt }
  require (organizerFormSummarySchema host.toHost summary = true) .schema
  return summary

/-- `organizerFormDetailSchema`. -/
structure OrganizerFormDetail (D : Type) where
  head : FormDefinitionHead
  registryPin : FormRegistryPin D
  fields : List OrganizerFormFieldRow
  configurationIssues : List FormConfigurationIssue
  currentPublishedVersion : Option (FormVersion D)

/-- `organizerFormOptionSchema`, on what the type does not say. -/
def organizerFormOptionSchema (host : Host D) (option : OrganizerFormOption) : Bool :=
  singleLineStored host 240 option.name

/-- `organizerFormFieldRowSchema`, on what the type does not say. -/
def organizerFormFieldRowSchema (host : FieldRegistryHost D) (row : OrganizerFormFieldRow) : Bool :=
  fieldRegistryFieldViewSchema host row.field &&
    row.options.all fun options => decide (options.length ≤ formFieldOptionsMax) &&
      options.all (organizerFormOptionSchema host.toHost)

/-- `organizerFormDetailSchema`, on what the type does not say. -/
def organizerFormDetailSchema (host : FieldRegistryHost D) (detail : OrganizerFormDetail D) :
    Bool :=
  formDefinitionHeadSchema host.toHost detail.head &&
    decide (detail.fields.length ≤ formFieldsMax) &&
    detail.fields.all (organizerFormFieldRowSchema host) &&
    configurationIssuesSchema detail.configurationIssues &&
    detail.currentPublishedVersion.all (formVersionSchema host.toHost) &&
    decide (detail.head.currentPublishedVersionId = detail.currentPublishedVersion.map (·.id))

def projectOrganizerFormDetail (host : FieldRegistryHost D) (head : FormDefinitionHead)
    (registry : FieldRegistrySnapshot D) (references : IntakeFormReferenceSource D)
    (currentPublishedVersion : Option (FormVersion D)) :
    Except OrganizerFormError (OrganizerFormDetail D) := do
  require (formDefinitionHeadSchema host.toHost head = true) .invalid_form_head
  let detail : OrganizerFormDetail D :=
    { head
      registryPin := formRegistryPin registry
      fields := (analyzeFormComposition head.id head.definition registry).fields
      configurationIssues := organizerFormIssues head registry references
      currentPublishedVersion }
  require (organizerFormDetailSchema host detail = true) .schema
  return detail

/-! ## What is read -/

section

variable {host : FieldRegistryHost D} {head : FormDefinitionHead}
  {registry : FieldRegistrySnapshot D} {references : IntakeFormReferenceSource D}

theorem length_analyzedFields_le {formId : ApplicationId} {definition : FormDefinitionContent}
    (hsound : registry.Sound host) :
    (analyzeFormComposition formId definition registry).fields.length ≤ formFieldsMax := by
  rw [analyzeFormComposition, List.length_map]
  calc (includedFields formId definition.composition registry).length
      ≤ (eligibleFields formId registry).length := List.length_filter_le _ _
    _ ≤ registry.fields.length := List.length_filter_le _ _
    _ ≤ formFieldsMax := hsound.length_le

theorem projectOrganizerFormSummary_ok_iff {submissionCount : ℕ}
    (hhead : formDefinitionHeadSchema host.toHost head = true) (hsound : registry.Sound host)
    (hcount : submissionCount ≤ maxSafeInteger) :
    (∃ summary, projectOrganizerFormSummary host head submissionCount registry references =
        .ok summary) ↔
      configurationIssuesSchema (organizerFormIssues head registry references) = true := by
  have hcontent := hhead
  simp only [formDefinitionHeadSchema, formDefinitionContentSchema, Bool.and_eq_true] at hcontent
  obtain ⟨⟨⟨⟨⟨⟨⟨⟨⟨hname, htarget⟩, -⟩, hcomposition⟩, -⟩, -⟩, -⟩, -⟩, -⟩, -⟩ := hcontent
  simp only [projectOrganizerFormSummary, bind_eq_ok, require_eq_ok, pure_eq_ok,
    organizerFormSummarySchema, Bool.and_eq_true, decide_eq_true_eq]
  constructor
  · rintro ⟨_, _, -, _, hsummary, -⟩
    exact hsummary.1.2
  · exact fun h => ⟨_, (), hhead, (),
      ⟨⟨⟨⟨⟨hname, htarget⟩, hcomposition⟩, length_analyzedFields_le hsound⟩, h⟩, hcount⟩, rfl⟩

/-- Every label of an option of a field that is offered is written as forms write them. -/
def OptionLabelsStored (host : Host D) (head : FormDefinitionHead)
    (registry : FieldRegistrySnapshot D) : Prop :=
  ∀ field ∈ includedFields head.id head.definition.composition registry,
    ∀ options ∈ field.resolvedOptions, ∀ option ∈ options,
      singleLineStored host 240 option.label = true

theorem organizerFormFieldRowSchema_iff {composition : FormComposition}
    {field : FieldRegistryFieldView} (h : fieldRegistryFieldViewSchema host field = true) :
    organizerFormFieldRowSchema host (organizerFormFieldRow composition field) = true ↔
      ∀ options ∈ field.resolvedOptions, ∀ option ∈ options,
        singleLineStored host.toHost 240 option.label = true := by
  have hlength := (resolvedOptions_of_view h).2
  rw [organizerFormFieldRowSchema, organizerFormFieldRow]
  cases hoptions : field.resolvedOptions with
  | none => simp [h]
  | some options =>
    have hmax : options.length ≤ formFieldOptionsMax := hlength options hoptions
    simp [h, hmax, organizerFormOptionSchema]

theorem projectOrganizerFormDetail_ok_iff {currentPublishedVersion : Option (FormVersion D)}
    (hhead : formDefinitionHeadSchema host.toHost head = true) (hsound : registry.Sound host)
    (hversion : ∀ version ∈ currentPublishedVersion, formVersionSchema host.toHost version = true)
    (hpointer : head.currentPublishedVersionId = currentPublishedVersion.map (·.id)) :
    (∃ detail, projectOrganizerFormDetail host head registry references currentPublishedVersion =
        .ok detail) ↔
      configurationIssuesSchema (organizerFormIssues head registry references) = true ∧
        OptionLabelsStored host.toHost head registry := by
  have hrows : (analyzeFormComposition head.id head.definition registry).fields.all
      (organizerFormFieldRowSchema host) = true ↔ OptionLabelsStored host.toHost head registry := by
    rw [analyzeFormComposition, List.all_map, List.all_eq_true]
    refine forall₂_congr fun field hfield => ?_
    exact organizerFormFieldRowSchema_iff (hsound.field field
      (List.mem_of_mem_filter (mem_eligibleFields_of_included hfield)))
  simp only [projectOrganizerFormDetail, bind_eq_ok, require_eq_ok, pure_eq_ok]
  simp only [organizerFormDetailSchema, Bool.and_eq_true, decide_eq_true_eq, Option.all_eq_true,
    hrows]
  constructor
  · rintro ⟨_, _, -, _, hdetail, -⟩
    exact ⟨hdetail.1.1.2, hdetail.1.1.1.2⟩
  · exact fun h => ⟨_, (), hhead, (),
      ⟨⟨⟨⟨⟨hhead, length_analyzedFields_le hsound⟩, h.2⟩, h.1⟩, hversion⟩, hpointer⟩, rfl⟩

end

/-- A form is readable, its summary and its detail, exactly when its composition and its references
are stale in no more places than there can be fields and rules, and the labels of the options it
offers are written as forms write them. -/
theorem organizerForm_readable_iff {host : FieldRegistryHost D} {head : FormDefinitionHead}
    {registry : FieldRegistrySnapshot D} {references : IntakeFormReferenceSource D}
    {submissionCount : ℕ} {currentPublishedVersion : Option (FormVersion D)}
    (hhead : formDefinitionHeadSchema host.toHost head = true)
    (hregistry : fieldRegistrySnapshotSchema host registry = true)
    (hcount : submissionCount ≤ maxSafeInteger)
    (hversion : ∀ version ∈ currentPublishedVersion, formVersionSchema host.toHost version = true)
    (hpointer : head.currentPublishedVersionId = currentPublishedVersion.map (·.id)) :
    ((∃ summary, projectOrganizerFormSummary host head submissionCount registry references =
          .ok summary) ∧
        ∃ detail, projectOrganizerFormDetail host head registry references
          currentPublishedVersion = .ok detail) ↔
      {issue | IsStale head registry references issue}.ncard ≤ formFieldsMax + formRulesMax ∧
        OptionLabelsStored host.toHost head registry := by
  have hsound := FieldRegistrySnapshot.sound hregistry
  rw [projectOrganizerFormSummary_ok_iff hhead hsound hcount,
    projectOrganizerFormDetail_ok_iff hhead hsound hversion hpointer, configurationIssuesSchema,
    decide_eq_true_eq, length_organizerFormIssues hsound, ← and_assoc, and_self]

namespace OrganizerFormExample

open FieldRegistryExample FormExample

/-- The registry once the other fields were removed. -/
def registry (fields : List FieldRegistryFieldView) : FieldRegistrySnapshot SymbolicDigest :=
  { scope, version := .one, registryDigestSha256 := .null
    fields := { email with resolvedOptions := none } :: fields }

def removed : List ApplicationId := (List.range 400).map fun n => .ofNat (100 + n)

/-- Two rules, each about the fields that were removed. -/
def rules : List FormDefinitionRule :=
  [rule 0 (.checked_is (.ofNat 99) true) .hide removed,
   rule 1 (.checked_is (.ofNat 99) true) .require removed]

def references : IntakeFormReferenceSource SymbolicDigest :=
  { resolveActiveCategory := fun _ _ _ => none
    resolveCollectingSession := fun _ _ => none
    resolveCurrentDeadline := fun _ _ => none }

theorem registry_schema : fieldRegistrySnapshotSchema plainHost (registry []) = true := by
  decide +kernel

theorem pairwise_removed : removed.Pairwise (· < ·) :=
  List.pairwise_map.mpr (List.pairwise_lt_range.imp_of_mem fun {a b} _ hb hab =>
    ApplicationId.ofNat_lt (by omega) (by have := List.mem_range.mp hb; omega))

theorem rule_schema {position : ℕ} (kind : FormRuleEffectKind) (h : position < formRulesMax) :
    formDefinitionRuleSchema (rule position (.checked_is (.ofNat 99) true) kind removed) = true := by
  have hlength : removed.length = 400 := by rw [removed, List.length_map, List.length_range]
  simp [formDefinitionRuleSchema, rule, h, hlength, formFieldsMax, pairwise_removed.isChain]

theorem head_schema : formDefinitionHeadSchema plainHost.toHost (head rules) = true := by
  have hrules : rules.all formDefinitionRuleSchema = true := by
    simp [rules, rule_schema _ (show 0 < formRulesMax by decide),
      rule_schema _ (show 1 < formRulesMax by decide)]
  have hname : singleLineStored plainHost.toHost 120 "Call for papers" = true := by decide +kernel
  have hconfirmation : multilineStored plainHost.toHost 2000 "" = true := by decide +kernel
  simp only [formDefinitionHeadSchema, formDefinitionContentSchema, head, hrules, hname,
    hconfirmation, Bool.true_and, Bool.and_true]
  simp only [rules, rule, List.map_cons, List.map_nil, List.length_cons, List.length_nil]
  decide

def issues : List FormConfigurationIssue :=
  (rules.map (·.id) ×ˢ removed).map fun p => ⟨.rule_field_missing, some p.2, some p.1⟩

theorem nodup_issues : issues.Nodup := by
  have hids : (rules.map (·.id)).Nodup := by
    simp only [rules, rule, List.map_cons, List.map_nil]
    decide
  refine (hids.product (pairwise_removed.imp ne_of_lt)).map fun p q h => ?_
  simp only [FormConfigurationIssue.mk.injEq, Option.some.injEq, true_and] at h
  exact Prod.ext h.2 h.1

theorem length_issues : issues.length = 800 := by
  rw [issues, List.length_map, List.length_product, removed, List.length_map, List.length_map,
    List.length_range, rules, List.length_cons, List.length_cons, List.length_nil]

theorem mem_organizerFormIssues {issue : FormConfigurationIssue} (h : issue ∈ issues) :
    issue ∈ organizerFormIssues (head rules) (registry []) references := by
  rw [mem_organizerFormIssues_iff (FieldRegistrySnapshot.sound registry_schema)]
  obtain ⟨⟨ruleId, fieldId⟩, hp, rfl⟩ := List.mem_map.mp h
  obtain ⟨hrule, hfield⟩ := List.mem_product.mp hp
  obtain ⟨rule, hmem, rfl⟩ := List.mem_map.mp hrule
  refine .inl (.rule_field_missing hmem (.inr ?_) fun field heligible heq => ?_)
  · rcases List.mem_cons.mp hmem with rfl | hmem
    · exact hfield
    · rw [List.mem_singleton.mp hmem]
      exact hfield
  · obtain ⟨n, hn, rfl⟩ := List.mem_map.mp hfield
    rw [List.mem_singleton.mp (List.mem_of_mem_filter heligible)] at heq
    have hsame := ApplicationId.ofNat_injective (by omega)
      (by have := List.mem_range.mp hn; omega) heq
    omega

theorem too_many_issues :
    configurationIssuesSchema (organizerFormIssues (head rules) (registry []) references) ≠ true := by
  have hle := (nodup_issues.subperm fun _ => mem_organizerFormIssues).length_le
  rw [length_issues] at hle
  rw [configurationIssuesSchema, ne_eq, decide_eq_true_eq, formFieldsMax, formRulesMax]
  omega

/-- A rule about the track, and one about fields that were removed. -/
def mixedRules : List FormDefinitionRule :=
  [rule 0 (.selected_any track.id [.ofNat 20]) .require [email.id],
   rule 1 (.checked_is (.ofNat 99) true) .hide [track.id, .ofNat 100]]

/-- The track with the options there are. -/
def trackView : FieldRegistryFieldView :=
  { track with
    resolvedOptions := some
      [{ id := .ofNat 20, label := "Frontend", version := .one },
       { id := .ofNat 21, label := "Backend", version := .one }] }

theorem readable_schemas : formDefinitionHeadSchema plainHost.toHost (head mixedRules) = true ∧
    fieldRegistrySnapshotSchema plainHost (registry [trackView]) = true := by
  decide +kernel

theorem readable_labels : OptionLabelsStored plainHost.toHost (head mixedRules)
    (registry [trackView]) := by
  have hlabels : ∀ field ∈ (registry [trackView]).fields, ∀ options ∈ field.resolvedOptions,
      ∀ option ∈ options, singleLineStored plainHost.toHost 240 option.label = true := by
    decide +kernel
  exact fun field hfield => hlabels field
    (List.mem_of_mem_filter (mem_eligibleFields_of_included hfield))

theorem readable_issues :
    (organizerFormIssues (head mixedRules) (registry [trackView]) references).length = 2 := by
  decide +kernel

end OrganizerFormExample

open FieldRegistryExample FormExample OrganizerFormExample in
/-- A form of two rules can not be read once the fields they are about were removed. -/
theorem organizerForm_unreadable :
    formDefinitionHeadSchema plainHost.toHost (head rules) = true ∧
      fieldRegistrySnapshotSchema plainHost (registry []) = true ∧
      (∀ summary, projectOrganizerFormSummary plainHost (head rules) 0 (registry []) references ≠
        .ok summary) ∧
      ∀ detail, projectOrganizerFormDetail plainHost (head rules) (registry []) references none ≠
        .ok detail := by
  have hsound := FieldRegistrySnapshot.sound registry_schema
  refine ⟨head_schema, registry_schema, fun summary h => ?_, fun detail h => ?_⟩
  · exact too_many_issues
      ((projectOrganizerFormSummary_ok_iff head_schema hsound (Nat.zero_le _)).mp ⟨summary, h⟩)
  · exact too_many_issues
      ((projectOrganizerFormDetail_ok_iff head_schema hsound (by simp) rfl).mp ⟨detail, h⟩).1

open FieldRegistryExample FormExample OrganizerFormExample in
/-- A form with a choice and with a rule about a removed field is read, with its two issues. -/
theorem organizerForm_readable_stale_rule :
    (organizerFormIssues (head mixedRules) (registry [trackView]) references).length = 2 ∧
      (∃ summary, projectOrganizerFormSummary plainHost (head mixedRules) 0 (registry [trackView])
        references = .ok summary) ∧
      ∃ detail, projectOrganizerFormDetail plainHost (head mixedRules) (registry [trackView])
        references none = .ok detail := by
  obtain ⟨hhead, hregistry⟩ := readable_schemas
  refine ⟨readable_issues, (organizerForm_readable_iff hhead hregistry (Nat.zero_le _) (by simp)
    rfl).mpr ⟨?_, readable_labels⟩⟩
  rw [← length_organizerFormIssues (FieldRegistrySnapshot.sound hregistry), readable_issues]
  decide

end JooEvents
