import Mathlib.Data.Set.Card
import JooEvents.Intake.Composition

/-!
# Stale references of a form

What the issues of a form are without the analysis that lists them : `StaleComposition` has one
constructor for a code, which says what in the composition or the rules is at odds with the
registry. The analysis finds these (`mem_analyzedIssues_iff`), and since an issue is told apart by
its text (`issueIdentity_injective`) it lists each once, so that there are as many entries as
stale references (`length_organizerFormIssues`).
-/

namespace JooEvents

variable {D : Type}

theorem colon_notMem_code (code : FormConfigurationIssueCode) :
    ':' ∉ (AsciiText.text code).toList := by
  cases code <;> decide

theorem colon_notMem_optionalId (id : Option ApplicationId) :
    ':' ∉ (id.elim "" (·.val)).toList := by
  cases id with
  | none => exact List.not_mem_nil
  | some id =>
    intro h
    refine id.forall_char (q := (· ≠ ':')) (by decide) (fun c hc => ?_) ':' h rfl
    rintro rfl
    exact absurd hc (by decide)

theorem optionalId_injective :
    Function.Injective fun id : Option ApplicationId => id.elim "" (·.val) := by
  have hne : ∀ id : ApplicationId, id.val ≠ "" := by
    intro id h
    have hlength := id.length
    rw [h] at hlength
    exact absurd hlength (by decide)
  rintro (_ | id) (_ | id') h
  · rfl
  · exact absurd h.symm (hne id')
  · exact absurd h (hne id)
  · exact congrArg some (Subtype.ext h)

theorem append_colon_inj {α : Type} {a : α} :
    ∀ {s s' t t' : List α}, a ∉ s → a ∉ s' → s ++ a :: t = s' ++ a :: t' → s = s' ∧ t = t'
  | [], [], _, _, _, _, h => ⟨rfl, List.tail_eq_of_cons_eq h⟩
  | [], b :: s', _, _, _, hs', h =>
    absurd (List.head_eq_of_cons_eq h ▸ List.mem_cons_self) hs'
  | b :: s, [], _, _, hs, _, h =>
    absurd (List.head_eq_of_cons_eq h ▸ List.mem_cons_self) hs
  | b :: s, b' :: s', t, t', hs, hs', h => by
    obtain ⟨rfl, hrest⟩ := List.cons_eq_cons.mp h
    obtain ⟨rfl, ht⟩ := append_colon_inj (fun hmem => hs (List.mem_cons_of_mem _ hmem))
      (fun hmem => hs' (List.mem_cons_of_mem _ hmem)) hrest
    exact ⟨rfl, ht⟩

theorem issueIdentity_injective : Function.Injective issueIdentity := by
  rintro ⟨code, fieldId, ruleId⟩ ⟨code', fieldId', ruleId'⟩ h
  have hchars := congrArg String.toList h
  simp only [issueIdentity, String.toList_append, show ":".toList = [':'] from rfl,
    List.append_assoc, List.singleton_append] at hchars
  obtain ⟨hcode, hchars⟩ := append_colon_inj (colon_notMem_code code) (colon_notMem_code code') hchars
  obtain ⟨hfield, hrule⟩ := append_colon_inj (colon_notMem_optionalId fieldId)
    (colon_notMem_optionalId fieldId') hchars
  obtain rfl := AsciiText.injective (String.toList_inj.mp hcode)
  obtain rfl := optionalId_injective (String.toList_inj.mp hfield)
  obtain rfl := optionalId_injective (String.toList_inj.mp hrule)
  rfl

theorem RuleEffects.kinds_add {kind : FormRuleEffectKind} {effects : RuleEffects}
    {targetId fieldId : ApplicationId} :
    (RuleEffects.add kind effects targetId).kinds fieldId =
      if targetId = fieldId then (effects.kinds fieldId).insert kind else effects.kinds fieldId := by
  rw [RuleEffects.kinds, RuleEffects.add, KeyedMap.get_set]
  split_ifs with h
  · rw [← h]
    rfl
  · rfl

theorem RuleEffects.mem_kinds_foldl_add {kind kind' : FormRuleEffectKind} {fieldId : ApplicationId} :
    ∀ {targetIds : List ApplicationId} {effects : RuleEffects},
      kind' ∈ (targetIds.foldl (RuleEffects.add kind) effects).kinds fieldId ↔
        kind' ∈ effects.kinds fieldId ∨ kind' = kind ∧ fieldId ∈ targetIds
  | [], effects => by simp
  | targetId :: targetIds, effects => by
    rw [List.foldl_cons, RuleEffects.mem_kinds_foldl_add, RuleEffects.kinds_add]
    split_ifs with h
    · rw [List.mem_insert_iff, List.mem_cons]
      simp only [h, true_or, and_true]
      tauto
    · rw [List.mem_cons]
      simp only [Ne.symm h, false_or]

theorem mem_kinds_ruleEffects {kind : FormRuleEffectKind} {fieldId : ApplicationId} :
    ∀ {rules : List FormDefinitionRule} {effects : RuleEffects},
      kind ∈ (ruleEffects effects rules).kinds fieldId ↔
        kind ∈ effects.kinds fieldId ∨
          ∃ rule ∈ rules, rule.effect.kind = kind ∧ fieldId ∈ rule.effect.targetFieldIds
  | [], effects => by simp [ruleEffects]
  | rule :: rules, effects => by
    rw [ruleEffects, List.foldl_cons, ← ruleEffects, mem_kinds_ruleEffects,
      RuleEffects.mem_kinds_foldl_add]
    simp only [List.mem_cons, exists_eq_or_imp]
    rw [or_assoc, eq_comm (a := kind)]

/-! ## What is at odds with the registry -/

/-- The issues of a composition, one constructor for each code : which fields are named that are
not there, or not offered, or not with these options. -/
inductive StaleComposition (formId : ApplicationId) (definition : FormDefinitionContent)
    (registry : FieldRegistrySnapshot D) : FormConfigurationIssue → Prop
  | unknown_excluded_field {fieldId} (h : fieldId ∈ definition.composition.excludedFieldIds)
      (hfield : ∀ field ∈ eligibleFields formId registry, field.id ≠ fieldId) :
      StaleComposition formId definition registry ⟨.unknown_excluded_field, some fieldId, none⟩
  | scoped_field_excluded {field} (h : field.id ∈ definition.composition.excludedFieldIds)
      (hfield : field ∈ eligibleFields formId registry) (hscope : field.scope ≠ .shared) :
      StaleComposition formId definition registry ⟨.scoped_field_excluded, some field.id, none⟩
  | locked_email_excluded {field} (h : field.id ∈ definition.composition.excludedFieldIds)
      (hfield : field ∈ eligibleFields formId registry) (hscope : field.scope = .shared)
      (hlocked : field.mapsTo = some .person_email ∨
        field.constraints.applyVisibility = .required_visible) :
      StaleComposition formId definition registry ⟨.locked_email_excluded, some field.id, none⟩
  | locked_email_missing
      (h : ∀ field ∈ includedFields formId definition.composition registry,
        lockedEmail field = false) :
      StaleComposition formId definition registry ⟨.locked_email_missing, none, none⟩
  | unknown_required_override {entry} (h : entry ∈ definition.composition.requiredOverrides.values)
      (hfield : ∀ field ∈ eligibleFields formId registry, field.id ≠ entry.1) :
      StaleComposition formId definition registry ⟨.unknown_required_override, some entry.1, none⟩
  | required_override_for_excluded_field {field required}
      (h : (field.id, required) ∈ definition.composition.requiredOverrides.values)
      (hfield : field ∈ eligibleFields formId registry)
      (hexcluded : field ∉ includedFields formId definition.composition registry) :
      StaleComposition formId definition registry
        ⟨.required_override_for_excluded_field, some field.id, none⟩
  | unknown_option_exposure_field {entry} (h : entry ∈ definition.composition.optionExposure.values)
      (hfield : ∀ field ∈ eligibleFields formId registry, field.id ≠ entry.1) :
      StaleComposition formId definition registry
        ⟨.unknown_option_exposure_field, some entry.1, none⟩
  | option_exposure_not_vocabulary {field itemIds}
      (h : (field.id, itemIds) ∈ definition.composition.optionExposure.values)
      (hfield : field ∈ eligibleFields formId registry) (hoptions : field.resolvedOptions = none) :
      StaleComposition formId definition registry
        ⟨.option_exposure_not_vocabulary, some field.id, none⟩
  | option_exposure_item_missing {field itemIds options id}
      (h : (field.id, itemIds) ∈ definition.composition.optionExposure.values)
      (hfield : field ∈ eligibleFields formId registry)
      (hoptions : field.resolvedOptions = some options) (hid : id ∈ itemIds)
      (hmissing : id ∉ options.map (·.id)) :
      StaleComposition formId definition registry
        ⟨.option_exposure_item_missing, some field.id, none⟩
  | file_upload_disabled {field}
      (hfield : field ∈ includedFields formId definition.composition registry)
      (hkind : field.kind = .file) :
      StaleComposition formId definition registry ⟨.file_upload_disabled, some field.id, none⟩
  | rule_field_missing {rule fieldId} (h : rule ∈ definition.rules) (hnamed : rule.Names fieldId)
      (hfield : ∀ field ∈ eligibleFields formId registry, field.id ≠ fieldId) :
      StaleComposition formId definition registry ⟨.rule_field_missing, some fieldId, some rule.id⟩
  | rule_field_excluded {rule field} (h : rule ∈ definition.rules) (hnamed : rule.Names field.id)
      (hfield : field ∈ eligibleFields formId registry)
      (hexcluded : field ∉ includedFields formId definition.composition registry) :
      StaleComposition formId definition registry
        ⟨.rule_field_excluded, some field.id, some rule.id⟩
  | rule_choice_missing {rule field choiceIds id} (h : rule ∈ definition.rules)
      (hcondition : rule.condition = .selected_any field.id choiceIds)
      (hfield : field ∈ includedFields formId definition.composition registry)
      (hid : id ∈ choiceIds) (hmissing : id ∉ optionIds definition.composition field) :
      StaleComposition formId definition registry
        ⟨.rule_choice_missing, some field.id, some rule.id⟩
  | rule_visibility_conflict {shown hidden fieldId} (hshown : shown ∈ definition.rules)
      (hhidden : hidden ∈ definition.rules) (hshow : shown.effect.kind = .show)
      (hhide : hidden.effect.kind = .hide) (h : fieldId ∈ shown.effect.targetFieldIds)
      (h' : fieldId ∈ hidden.effect.targetFieldIds) :
      StaleComposition formId definition registry ⟨.rule_visibility_conflict, some fieldId, none⟩

/-- The issues of a head apart from the registry. -/
inductive StaleReference (head : FormDefinitionHead) (references : IntakeFormReferenceSource D) :
    FormConfigurationIssue → Prop
  | target_unavailable (htarget : head.definition.target ≠ .general_pool)
      (h : ∀ pin, resolveCurrentTarget head.scope head.definition.target references ≠
        some (some pin)) : StaleReference head references ⟨.target_unavailable, none, none⟩
  | deadline_unavailable {deadlineId} (hdeadline : head.definition.availability = .deadline deadlineId)
      (h : resolveCurrentDeadline head.scope deadlineId references = none) :
      StaleReference head references ⟨.deadline_unavailable, none, none⟩

section

variable {formId : ApplicationId} {definition : FormDefinitionContent}
  {registry : FieldRegistrySnapshot D} {issue : FormConfigurationIssue}

theorem nodup_eligibleFields (hids : (registry.fields.map (·.id)).Nodup) :
    ((eligibleFields formId registry).map (·.id)).Nodup :=
  (List.filter_sublist.map _).nodup hids

theorem nodup_includedFields {composition : FormComposition}
    (hids : (registry.fields.map (·.id)).Nodup) :
    ((includedFields formId composition registry).map (·.id)).Nodup :=
  (List.filter_sublist.map _).nodup (nodup_eligibleFields hids)

theorem mem_eligibleFields_of_included {composition : FormComposition}
    {field : FieldRegistryFieldView} (h : field ∈ includedFields formId composition registry) :
    field ∈ eligibleFields formId registry :=
  List.mem_of_mem_filter h

theorem get_included_eq_none {composition : FormComposition}
    (hids : (registry.fields.map (·.id)).Nodup) {field : FieldRegistryFieldView}
    (hfield : field ∈ eligibleFields formId registry)
    (hexcluded : field ∉ includedFields formId composition registry) :
    (KeyedMap.ofList (includedFields formId composition registry) : FieldsById).get field.id =
      none := by
  refine (KeyedMap.get_ofList_eq_none_iff (nodup_includedFields hids)).mpr fun other hother heq => ?_
  exact hexcluded (Keyed.eq_of_key_eq (nodup_eligibleFields hids)
    (mem_eligibleFields_of_included hother) hfield heq ▸ hother)

theorem notMem_included_of_get {composition : FormComposition}
    (hids : (registry.fields.map (·.id)).Nodup) {field : FieldRegistryFieldView}
    (h : (KeyedMap.ofList (includedFields formId composition registry) : FieldsById).get field.id =
      none) : field ∉ includedFields formId composition registry := fun hmem =>
  (KeyedMap.get_ofList_eq_none_iff (nodup_includedFields hids)).mp h field hmem rfl

/-! ### Every issue is about a stale reference -/

theorem stale_of_excludedFieldIssue (hids : (registry.fields.map (·.id)).Nodup)
    {fieldId : ApplicationId} (h : fieldId ∈ definition.composition.excludedFieldIds)
    (hissue : excludedFieldIssue (.ofList (eligibleFields formId registry)) fieldId = some issue) :
    StaleComposition formId definition registry issue := by
  unfold excludedFieldIssue at hissue
  split at hissue
  · rename_i hget
    obtain rfl := Option.some.inj hissue
    exact .unknown_excluded_field h
      ((KeyedMap.get_ofList_eq_none_iff (nodup_eligibleFields hids)).mp hget)
  · rename_i field hget
    obtain ⟨hfield, rfl⟩ :=
      (KeyedMap.get_ofList_eq_some_iff (nodup_eligibleFields hids)).mp hget
    split_ifs at hissue with hscope hlocked
    · obtain rfl := Option.some.inj hissue
      exact .scoped_field_excluded h hfield hscope
    · obtain rfl := Option.some.inj hissue
      exact .locked_email_excluded h hfield (not_not.mp hscope) hlocked

theorem stale_of_requiredOverrideIssue (hids : (registry.fields.map (·.id)).Nodup)
    {entry : ApplicationId × Bool} (h : entry ∈ definition.composition.requiredOverrides.values)
    (hissue : requiredOverrideIssue (.ofList (eligibleFields formId registry))
      (.ofList (includedFields formId definition.composition registry)) entry.1 = some issue) :
    StaleComposition formId definition registry issue := by
  unfold requiredOverrideIssue at hissue
  split_ifs at hissue with hget hincluded
  · obtain rfl := Option.some.inj hissue
    exact .unknown_required_override h
      ((KeyedMap.get_ofList_eq_none_iff (nodup_eligibleFields hids)).mp hget)
  · obtain ⟨field, hsome⟩ := Option.ne_none_iff_exists'.mp hget
    obtain ⟨hfield, hid⟩ :=
      (KeyedMap.get_ofList_eq_some_iff (nodup_eligibleFields hids)).mp hsome
    obtain rfl := Option.some.inj hissue
    have hentry : (field.id, entry.2) ∈ definition.composition.requiredOverrides.values := hid ▸ h
    rw [← hid] at hincluded ⊢
    exact .required_override_for_excluded_field hentry hfield
      (notMem_included_of_get hids hincluded)

theorem stale_of_optionExposureIssue {host : FieldRegistryHost D} (hsound : registry.Sound host)
    {entry : ApplicationId × List ApplicationId}
    (h : entry ∈ definition.composition.optionExposure.values)
    (hissue : optionExposureIssue (.ofList (eligibleFields formId registry)) entry.1 entry.2 =
      some issue) : StaleComposition formId definition registry issue := by
  have hnodup : ((eligibleFields formId registry).map (·.id)).Nodup :=
    nodup_eligibleFields hsound.ids
  unfold optionExposureIssue at hissue
  split at hissue
  · rename_i hget
    obtain rfl := Option.some.inj hissue
    exact .unknown_option_exposure_field h ((KeyedMap.get_ofList_eq_none_iff hnodup).mp hget)
  · rename_i field hget
    obtain ⟨hfield, hid⟩ := (KeyedMap.get_ofList_eq_some_iff hnodup).mp hget
    have hentry : (field.id, entry.2) ∈ definition.composition.optionExposure.values := hid ▸ h
    rw [← hid] at hissue
    split at hissue
    · rename_i options _ hoptions
      split_ifs at hissue with hmissing
      obtain ⟨id, hitem, hnotin⟩ := hmissing
      obtain rfl := Option.some.inj hissue
      exact .option_exposure_item_missing hentry hfield hoptions hitem hnotin
    · rename_i hnot
      obtain rfl := Option.some.inj hissue
      have hview := (resolvedOptions_of_view
        (hsound.field field (List.mem_of_mem_filter hfield))).1
      refine .option_exposure_not_vocabulary hentry hfield ?_
      cases hoptions : field.resolvedOptions with
      | none => rfl
      | some options => exact absurd hoptions (hnot options (by rw [hview, hoptions]; rfl))

theorem stale_of_ruleFieldIssue (hids : (registry.fields.map (·.id)).Nodup)
    {rule : FormDefinitionRule} {fieldId : ApplicationId} (h : rule ∈ definition.rules)
    (hnamed : rule.Names fieldId)
    (hissue : ruleFieldIssue (.ofList (eligibleFields formId registry))
      (.ofList (includedFields formId definition.composition registry)) rule.id fieldId =
        some issue) : StaleComposition formId definition registry issue := by
  unfold ruleFieldIssue at hissue
  split_ifs at hissue with hincluded hget
  · obtain rfl := Option.some.inj hissue
    exact .rule_field_missing h hnamed
      ((KeyedMap.get_ofList_eq_none_iff (nodup_eligibleFields hids)).mp hget)
  · obtain ⟨field, hsome⟩ := Option.ne_none_iff_exists'.mp hget
    obtain ⟨hfield, rfl⟩ :=
      (KeyedMap.get_ofList_eq_some_iff (nodup_eligibleFields hids)).mp hsome
    obtain rfl := Option.some.inj hissue
    exact .rule_field_excluded h hnamed hfield (notMem_included_of_get hids hincluded)

theorem stale_of_ruleChoiceIssue (hids : (registry.fields.map (·.id)).Nodup)
    {rule : FormDefinitionRule} (h : rule ∈ definition.rules)
    (hissue : ruleChoiceIssue definition.composition
      (.ofList (includedFields formId definition.composition registry)) rule = some issue) :
    StaleComposition formId definition registry issue := by
  unfold ruleChoiceIssue at hissue
  split at hissue
  · rename_i field sourceFieldId choiceIds hget hcondition
    split_ifs at hissue with hmissing
    obtain ⟨id, hid, hnotin⟩ := hmissing
    obtain ⟨hfield, hsource⟩ :=
      (KeyedMap.get_ofList_eq_some_iff (nodup_includedFields hids)).mp hget
    obtain rfl := Option.some.inj hissue
    rw [hcondition, FormRuleCondition.sourceFieldId] at hsource
    exact .rule_choice_missing h (hsource ▸ hcondition) hfield hid hnotin
  · exact absurd hissue (by simp)

theorem stale_of_visibilityConflictIssue {entry : ApplicationId × List FormRuleEffectKind}
    (h : entry ∈ (ruleEffects .empty definition.rules).values)
    (hissue : visibilityConflictIssue entry = some issue) :
    StaleComposition formId definition registry issue := by
  unfold visibilityConflictIssue at hissue
  split_ifs at hissue with hboth
  obtain rfl := Option.some.inj hissue
  have hkinds : entry.2 = (ruleEffects .empty definition.rules).kinds entry.1 := by
    rw [RuleEffects.kinds, KeyedMap.get_eq_some_iff.mpr ⟨h, rfl⟩]
    rfl
  rw [hkinds, mem_kinds_ruleEffects, mem_kinds_ruleEffects] at hboth
  obtain ⟨hshow | ⟨shown, hshown, hshow, hmem⟩, hhide | ⟨hidden, hhidden, hhide, hmem'⟩⟩ := hboth
  · exact absurd hshow List.not_mem_nil
  · exact absurd hshow List.not_mem_nil
  · exact absurd hhide List.not_mem_nil
  · exact .rule_visibility_conflict hshown hhidden hshow hhide hmem hmem'

/-! ### Every stale reference is an issue -/

theorem get_eligible {field : FieldRegistryFieldView} (hids : (registry.fields.map (·.id)).Nodup)
    (hfield : field ∈ eligibleFields formId registry) :
    (KeyedMap.ofList (eligibleFields formId registry) : FieldsById).get field.id = some field :=
  (KeyedMap.get_ofList_eq_some_iff (nodup_eligibleFields hids)).mpr ⟨hfield, rfl⟩

theorem get_eligible_eq_none {fieldId : ApplicationId} (hids : (registry.fields.map (·.id)).Nodup)
    (hfield : ∀ field ∈ eligibleFields formId registry, field.id ≠ fieldId) :
    (KeyedMap.ofList (eligibleFields formId registry) : FieldsById).get fieldId = none :=
  (KeyedMap.get_ofList_eq_none_iff (nodup_eligibleFields hids)).mpr hfield

theorem get_included_eq_none_of_unknown {composition : FormComposition} {fieldId : ApplicationId}
    (hids : (registry.fields.map (·.id)).Nodup)
    (hfield : ∀ field ∈ eligibleFields formId registry, field.id ≠ fieldId) :
    (KeyedMap.ofList (includedFields formId composition registry) : FieldsById).get fieldId = none :=
  (KeyedMap.get_ofList_eq_none_iff (nodup_includedFields hids)).mpr fun field hmem =>
    hfield field (mem_eligibleFields_of_included hmem)

theorem mem_ruleIssues_of_named {composition : FormComposition} {byId includedById : FieldsById}
    {rule : FormDefinitionRule} {fieldId : ApplicationId} (hnamed : rule.Names fieldId)
    (hissue : ruleFieldIssue byId includedById rule.id fieldId = some issue) :
    issue ∈ ruleIssues composition byId includedById rule := by
  rcases hnamed with rfl | htarget
  · simp [ruleIssues, hissue]
  · exact List.mem_append_right _ (List.mem_filterMap.mpr ⟨fieldId, htarget, hissue⟩)

theorem mem_collectIssues_iff {host : FieldRegistryHost D} (hsound : registry.Sound host) :
    issue ∈ collectIssues definition (eligibleFields formId registry)
        (includedFields formId definition.composition registry) ↔
      StaleComposition formId definition registry issue := by
  have hids := hsound.ids
  simp only [collectIssues, List.mem_append, List.mem_filterMap, List.mem_map, List.mem_filter,
    List.mem_flatMap, decide_eq_true_eq, or_assoc]
  constructor
  · rintro (⟨fieldId, h, hissue⟩ | hissue | ⟨entry, h, hissue⟩ | ⟨entry, h, hissue⟩ |
      ⟨field, ⟨hfield, hkind⟩, rfl⟩ | ⟨rule, h, hissue⟩ | ⟨entry, h, hissue⟩)
    · exact stale_of_excludedFieldIssue hids h hissue
    · split_ifs at hissue with hany
      · exact absurd hissue List.not_mem_nil
      · obtain rfl := List.mem_singleton.mp hissue
        refine .locked_email_missing fun field hfield => ?_
        exact Bool.eq_false_iff.mpr fun hlocked => hany (List.any_eq_true.mpr ⟨field, hfield, hlocked⟩)
    · exact stale_of_requiredOverrideIssue hids h hissue
    · exact stale_of_optionExposureIssue hsound h hissue
    · exact .file_upload_disabled hfield hkind
    · simp only [ruleIssues, List.mem_append, Option.mem_toList, List.mem_filterMap] at hissue
      obtain (hissue | hissue) | ⟨fieldId, htarget, hissue⟩ := hissue
      · exact stale_of_ruleFieldIssue hids h (.inl rfl) hissue
      · exact stale_of_ruleChoiceIssue hids h hissue
      · exact stale_of_ruleFieldIssue hids h (.inr htarget) hissue
    · exact stale_of_visibilityConflictIssue h hissue
  · intro hstale
    cases hstale with
    | unknown_excluded_field h hfield =>
      exact .inl ⟨_, h, by rw [excludedFieldIssue, get_eligible_eq_none hids hfield]⟩
    | scoped_field_excluded h hfield hscope =>
      exact .inl ⟨_, h, by
        rw [excludedFieldIssue, get_eligible hids hfield]
        exact if_pos hscope⟩
    | locked_email_excluded h hfield hscope hlocked =>
      exact .inl ⟨_, h, by
        rw [excludedFieldIssue, get_eligible hids hfield]
        exact (if_neg (not_not.mpr hscope)).trans (if_pos hlocked)⟩
    | locked_email_missing h =>
      refine .inr (.inl ?_)
      rw [if_neg fun hany => ?_]
      · exact List.mem_singleton_self _
      · obtain ⟨field, hfield, hlocked⟩ := List.any_eq_true.mp hany
        exact absurd (h field hfield) (by rw [hlocked]; decide)
    | unknown_required_override h hfield =>
      exact .inr (.inr (.inl ⟨_, h, if_pos (get_eligible_eq_none hids hfield)⟩))
    | required_override_for_excluded_field h hfield hexcluded =>
      refine .inr (.inr (.inl ⟨_, h, ?_⟩))
      rw [requiredOverrideIssue, if_neg (by rw [get_eligible hids hfield]; simp),
        if_pos (get_included_eq_none hids hfield hexcluded)]
    | unknown_option_exposure_field h hfield =>
      exact .inr (.inr (.inr (.inl ⟨_, h, by
        rw [optionExposureIssue, get_eligible_eq_none hids hfield]⟩)))
    | option_exposure_not_vocabulary h hfield hoptions =>
      refine .inr (.inr (.inr (.inl ⟨_, h, ?_⟩)))
      have hview := (resolvedOptions_of_view
        (hsound.field _ (List.mem_of_mem_filter hfield))).1
      rw [hoptions, Option.isSome_none] at hview
      rw [optionExposureIssue, get_eligible hids hfield]
      simp only [hoptions, hview]
    | option_exposure_item_missing h hfield hoptions hid hmissing =>
      refine .inr (.inr (.inr (.inl ⟨_, h, ?_⟩)))
      have hview := (resolvedOptions_of_view
        (hsound.field _ (List.mem_of_mem_filter hfield))).1
      rw [hoptions, Option.isSome_some] at hview
      rw [optionExposureIssue, get_eligible hids hfield]
      simp only [hoptions, hview]
      exact if_pos ⟨_, hid, hmissing⟩
    | file_upload_disabled hfield hkind =>
      exact .inr (.inr (.inr (.inr (.inl ⟨_, ⟨hfield, hkind⟩, rfl⟩))))
    | rule_field_missing h hnamed hfield =>
      refine .inr (.inr (.inr (.inr (.inr (.inl ⟨_, h, mem_ruleIssues_of_named hnamed ?_⟩)))))
      rw [ruleFieldIssue, if_pos (get_included_eq_none_of_unknown hids hfield),
        if_pos (get_eligible_eq_none hids hfield)]
    | rule_field_excluded h hnamed hfield hexcluded =>
      refine .inr (.inr (.inr (.inr (.inr (.inl ⟨_, h, mem_ruleIssues_of_named hnamed ?_⟩)))))
      rw [ruleFieldIssue, if_pos (get_included_eq_none hids hfield hexcluded),
        if_neg (by rw [get_eligible hids hfield]; simp)]
    | rule_choice_missing h hcondition hfield hid hmissing =>
      refine .inr (.inr (.inr (.inr (.inr (.inl ⟨_, h, ?_⟩)))))
      refine List.mem_append_left _ (List.mem_append_right _ (Option.mem_toList.mpr ?_))
      rw [ruleChoiceIssue, hcondition, FormRuleCondition.sourceFieldId,
        (KeyedMap.get_ofList_eq_some_iff (nodup_includedFields hids)).mpr ⟨hfield, rfl⟩]
      exact if_pos ⟨_, hid, hmissing⟩
    | @rule_visibility_conflict shown hidden fieldId hshown hhidden hshow hhide h h' =>
      have hshow' : .show ∈ (ruleEffects .empty definition.rules).kinds fieldId :=
        mem_kinds_ruleEffects.mpr (.inr ⟨shown, hshown, hshow, h⟩)
      have hhide' : .hide ∈ (ruleEffects .empty definition.rules).kinds fieldId :=
        mem_kinds_ruleEffects.mpr (.inr ⟨hidden, hhidden, hhide, h'⟩)
      unfold RuleEffects.kinds at hshow' hhide'
      cases hget : (ruleEffects .empty definition.rules).get fieldId with
      | none =>
        rw [hget] at hshow'
        exact absurd hshow' List.not_mem_nil
      | some entry =>
        rw [hget] at hshow' hhide'
        obtain ⟨hentry, rfl⟩ := KeyedMap.get_eq_some_iff.mp hget
        exact .inr (.inr (.inr (.inr (.inr (.inr ⟨entry, hentry, if_pos ⟨hshow', hhide'⟩⟩)))))

theorem mem_analyzedIssues_iff {host : FieldRegistryHost D} (hsound : registry.Sound host) :
    issue ∈ (analyzeFormComposition formId definition registry).issues ↔
      StaleComposition formId definition registry issue := by
  rw [analyzeFormComposition, sortIssues, List.mem_sortByKey,
    KeyedMap.mem_ofList_iff issueIdentity_injective]
  exact mem_collectIssues_iff hsound

theorem nodup_analyzedIssues : (analyzeFormComposition formId definition registry).issues.Nodup :=
  (List.perm_sortByKey _ _).nodup_iff.mpr (KeyedMap.nodup _).of_map

end

section

variable {head : FormDefinitionHead} {references : IntakeFormReferenceSource D}

theorem join_resolveCurrentTarget_eq_none_iff :
    (resolveCurrentTarget head.scope head.definition.target references).join = none ↔
      ∀ pin, resolveCurrentTarget head.scope head.definition.target references ≠
        some (some pin) := by
  rcases resolveCurrentTarget head.scope head.definition.target references with _ | _ | pin
  · simp
  · simp
  · simp

theorem mem_currentReferenceIssues_iff {issue : FormConfigurationIssue} :
    issue ∈ currentReferenceIssues head references ↔ StaleReference head references issue := by
  rw [currentReferenceIssues, List.mem_append]
  constructor
  · rintro (h | h)
    · split_ifs at h with htarget
      · obtain rfl := List.mem_singleton.mp h
        exact .target_unavailable htarget.1 (join_resolveCurrentTarget_eq_none_iff.mp htarget.2)
      · exact absurd h List.not_mem_nil
    · cases hdeadline : head.definition.availability with
      | evergreen =>
        rw [hdeadline] at h
        exact absurd h List.not_mem_nil
      | deadline deadlineId =>
        rw [hdeadline] at h
        dsimp only at h
        split_ifs at h with hnone
        · obtain rfl := List.mem_singleton.mp h
          exact .deadline_unavailable hdeadline hnone
        · exact absurd h List.not_mem_nil
  · rintro (⟨htarget, h⟩ | ⟨hdeadline, h⟩)
    · rw [if_pos ⟨htarget, join_resolveCurrentTarget_eq_none_iff.mpr h⟩]
      exact .inl (List.mem_singleton_self _)
    · refine .inr ?_
      rw [hdeadline]
      dsimp only
      rw [if_pos h]
      exact List.mem_singleton_self _

theorem nodup_currentReferenceIssues : (currentReferenceIssues head references).Nodup := by
  rw [currentReferenceIssues]
  split_ifs <;> cases head.definition.availability <;> dsimp only <;> (try split_ifs) <;> decide

def IsStale (head : FormDefinitionHead) (registry : FieldRegistrySnapshot D)
    (references : IntakeFormReferenceSource D) (issue : FormConfigurationIssue) : Prop :=
  StaleComposition head.id head.definition registry issue ∨ StaleReference head references issue

theorem mem_organizerFormIssues_iff {host : FieldRegistryHost D}
    {registry : FieldRegistrySnapshot D} (hsound : registry.Sound host)
    {issue : FormConfigurationIssue} :
    issue ∈ organizerFormIssues head registry references ↔ IsStale head registry references issue := by
  rw [organizerFormIssues, sortIssues, List.mem_sortByKey, List.mem_append,
    mem_analyzedIssues_iff hsound, mem_currentReferenceIssues_iff, IsStale]

theorem nodup_organizerFormIssues {host : FieldRegistryHost D} {registry : FieldRegistrySnapshot D}
    (hsound : registry.Sound host) : (organizerFormIssues head registry references).Nodup := by
  refine (List.perm_sortByKey _ _).nodup_iff.mpr
    (nodup_analyzedIssues.append nodup_currentReferenceIssues ?_)
  intro issue hcomposition hreference
  rw [mem_analyzedIssues_iff hsound] at hcomposition
  rw [mem_currentReferenceIssues_iff] at hreference
  cases hreference <;> cases hcomposition

theorem length_organizerFormIssues {host : FieldRegistryHost D} {registry : FieldRegistrySnapshot D}
    (hsound : registry.Sound host) :
    (organizerFormIssues head registry references).length =
      {issue | IsStale head registry references issue}.ncard := by
  have hset : {issue | IsStale head registry references issue} =
      ↑(organizerFormIssues head registry references).toFinset := by
    ext issue
    simp [mem_organizerFormIssues_iff hsound]
  rw [hset, Set.ncard_coe_finset, List.toFinset_card_of_nodup (nodup_organizerFormIssues hsound)]

end

end JooEvents
