import JooEvents.Intake.Rules

/-!
# Whether the sides agree

A form is run identically on both sides when every field is shown by both or by neither, and
required by both or by neither while it is shown (`FormRulesIdentical`). Then a form without
blockers is accepted, and an answer to a field that is shown is not refused as hidden.

The sides agree exactly when their closed forms do on every field
(`form_rules_identical_iff`), which is not always so (`form_rules_untouched_checkbox`).
-/

namespace JooEvents

open Fallible

variable {D : Type}

/-- The two sides agree on a field, given the effects on it of the rules that hold on the server
and of those that hold in the browser. -/
structure SidesAgree (field : FormFieldDefinition) (server browser : List FormRuleEffectKind) :
    Prop where
  shown : BrowserShows field browser ↔ ServerShows field server
  required : BrowserShows field browser →
    (BrowserRequires field browser ↔ ServerRequires field server)

instance (field : FormFieldDefinition) (server browser : List FormRuleEffectKind) :
    Decidable (SidesAgree field server browser) :=
  decidable_of_iff (_ ∧ _) ⟨fun h => ⟨h.1, h.2⟩, fun h => ⟨h.shown, h.required⟩⟩

/-- A field of the form has a property in the browser. -/
def BrowserField (form : ServedPublicForm) (answers : List TransientApplicationAnswer)
    (p : PublicApplicationFieldState → Prop) (fieldId : ApplicationId) : Prop :=
  ∃ state ∈ publicApplicationFieldStates form answers fieldId, p state

def withAnswer (answers : List TransientApplicationAnswer) (fieldId : ApplicationId)
    (content : AnswerContent) : List TransientApplicationAnswer :=
  answers.filter (fun answer => answer.fieldId ≠ fieldId) ++ [⟨fieldId, content⟩]

def serverVerdict (version : FormVersion D) (answers : List TransientApplicationAnswer)
    (mode : ApplicationAnswerValidationMode) : Except ApplicationAnswerError Unit :=
  validateEffectiveState version.definition (structuralAnswerTo answers)
    (answers.map (·.answered)) mode

/-- The rules of a form run identically on both sides. -/
structure FormRulesIdentical (version : FormVersion D) (form : ServedPublicForm)
    (answers : List TransientApplicationAnswer) : Prop where
  visible : ∀ field ∈ version.definition.fields,
    BrowserField form answers (fun state => state.visible = true) field.id ↔
      field.id ∈
        (evaluateEffectiveFormState version.definition (structuralAnswerTo answers)).visible
  required : ∀ field ∈ version.definition.fields,
    BrowserField form answers (fun state => state.visible = true ∧ state.required = true) field.id ↔
      field.id ∈
        (evaluateEffectiveFormState version.definition (structuralAnswerTo answers)).required
  submits : publicApplicationSubmitBlockers form answers = [] →
    (∀ answer ∈ answers, BrowserField form answers (fun state => state.visible = true)
      answer.fieldId) →
    serverVerdict version answers .submit = .ok ()
  answerable : ∀ field ∈ version.definition.fields,
    BrowserField form answers (fun state => state.visible = true) field.id →
    ∀ content mode, serverVerdict version (withAnswer answers field.id content) mode ≠
      .error ⟨.hidden_field_answered, field.id⟩

theorem ServerRequires.shows {field : FormFieldDefinition} {effects : List FormRuleEffectKind}
    (h : ServerRequires field effects) : ServerShows field effects := by
  rcases h with ⟨hhide, hvisible, -⟩ | hrequire
  · exact Or.inl ⟨hhide, hvisible⟩
  · exact Or.inr (List.ne_nil_of_mem hrequire)

theorem browserField_iff {scope : IntakeScope} {definition : FormVersionDefinitionContent}
    {optionSource : ApplicationAnswerOptionSource} {form : ServedPublicForm}
    (hserves : form.Serves scope definition optionSource)
    (answers : List TransientApplicationAnswer) (p : PublicApplicationFieldState → Prop)
    (fieldId : ApplicationId) :
    BrowserField form answers p fieldId ↔
      (∃ field ∈ definition.fields, field.id = fieldId) ∧
        p { visible := decide
              (fieldId ∈ (browserFormState form (structuralAnswerTo answers)).visible)
            required := decide
              (fieldId ∈ (browserFormState form (structuralAnswerTo answers)).required) } := by
  have hfind : (∃ served, form.fields.find? (fun field => field.id = fieldId) = some served) ↔
      ∃ field ∈ definition.fields, field.id = fieldId := by
    rw [← Option.isSome_iff_exists, List.find?_isSome, hserves.fields]
    simp [FormFieldDefinition.served]
  rw [← hfind]
  simp only [BrowserField, publicApplicationFieldStates, Option.mem_def, Option.map_eq_some_iff]
  constructor
  · rintro ⟨_, ⟨served, hserved, rfl⟩, hp⟩
    exact ⟨⟨served, hserved⟩, hp⟩
  · rintro ⟨⟨served, hserved⟩, hp⟩
    exact ⟨_, ⟨served, hserved, rfl⟩, hp⟩

theorem browserField_visible_iff {scope : IntakeScope} {definition : FormVersionDefinitionContent}
    {optionSource : ApplicationAnswerOptionSource} {form : ServedPublicForm}
    (hserves : form.Serves scope definition optionSource) (hsound : definition.Sound)
    (answers : List TransientApplicationAnswer) {field : FormFieldDefinition}
    (hfield : field ∈ definition.fields) :
    BrowserField form answers (fun state => state.visible = true) field.id ↔
      BrowserShows field (browserEffects definition (structuralAnswerTo answers) field.id) := by
  rw [browserField_iff hserves, decide_eq_true_iff,
    (browser_iff hserves hsound (structuralAnswerTo answers) hfield).1]
  exact and_iff_right ⟨field, hfield, rfl⟩

theorem browserField_required_iff {scope : IntakeScope} {definition : FormVersionDefinitionContent}
    {optionSource : ApplicationAnswerOptionSource} {form : ServedPublicForm}
    (hserves : form.Serves scope definition optionSource) (hsound : definition.Sound)
    (answers : List TransientApplicationAnswer) {field : FormFieldDefinition}
    (hfield : field ∈ definition.fields) :
    BrowserField form answers (fun state => state.visible = true ∧ state.required = true)
        field.id ↔
      BrowserShows field (browserEffects definition (structuralAnswerTo answers) field.id) ∧
        BrowserRequires field (browserEffects definition (structuralAnswerTo answers) field.id) := by
  obtain ⟨hshows, hrequires⟩ := browser_iff hserves hsound (structuralAnswerTo answers) hfield
  rw [browserField_iff hserves, decide_eq_true_iff, decide_eq_true_iff, hshows, hrequires]
  exact and_iff_right ⟨field, hfield, rfl⟩

theorem satisfies_of_no_blockers {scope : IntakeScope} {definition : FormVersionDefinitionContent}
    {optionSource : ApplicationAnswerOptionSource} {form : ServedPublicForm}
    (hserves : form.Serves scope definition optionSource)
    {answers : List TransientApplicationAnswer}
    (hblockers : publicApplicationSubmitBlockers form answers = []) {field : FormFieldDefinition}
    (hfield : field ∈ definition.fields)
    (hrequired : BrowserField form answers
      (fun state => state.visible = true ∧ state.required = true) field.id) :
    satisfies (field.served scope optionSource).shape (answerTo answers field.id) = true := by
  have hserved : field.served scope optionSource ∈ form.fields := by
    rw [hserves.fields]
    exact List.mem_map_of_mem hfield
  have hnone := List.filterMap_eq_nil_iff.1 hblockers _ hserved
  obtain ⟨state, hstate, hvisible, hrequires⟩ := hrequired
  have hshown : (publicApplicationFieldStates form answers field.id).all
      (fun state => !state.visible || !state.required) = false := by
    rw [Option.mem_def.1 hstate]
    simp [hvisible, hrequires]
  by_contra hunsatisfied
  rw [show (field.served scope optionSource).id = field.id from rfl, hshown, if_neg (by decide),
    if_neg hunsatisfied] at hnone
  exact absurd hnone (by simp)

/-! ## What the server says -/

theorem field_of_required {definition : FormVersionDefinitionContent} (hsound : definition.Sound)
    {answers : ApplicationId → Option StructuralAnswer} {fieldId : ApplicationId}
    (h : fieldId ∈ (evaluateEffectiveFormState definition answers).required) :
    ∃ field ∈ definition.fields, field.id = fieldId := by
  by_contra hno
  have hstep : ∀ kind s, serverStep kind (serverStep kind s) = serverStep kind s := by
    rintro ⟨⟩ ⟨_, _⟩ <;> rfl
  have hnone : effectsOn (fun condition => condition.matches answers) definition.rules fieldId = [] :=
    List.filterMap_eq_nil_iff.2 fun rule hrule =>
      if_neg fun ⟨_, hmem⟩ => hno (hsound.targets rule hrule fieldId hmem).1
  have hrules := observe_rules hstep (affect_at fieldId)
    (fun condition => condition.matches answers) definition.rules
  have hinitial := congrArg Prod.snd (hrules
    { visible := (definition.fields.filter (·.initiallyVisible)).map (·.id)
      required := (definition.fields.filter fun field =>
        field.initiallyVisible && field.required).map (·.id) })
  rw [hnone, List.foldl_nil] at hinitial
  obtain ⟨field, hfield, hid⟩ := List.mem_map.1 ((decide_eq_decide.1 hinitial).1 h)
  exact hno ⟨field, (List.mem_filter.1 hfield).1, hid⟩

theorem find?_answered {answers : List TransientApplicationAnswer} {fieldId : ApplicationId}
    {content : AnswerContent} (h : answerTo answers fieldId = some content) :
    (answers.map (·.answered)).find? (fun answer => answer.fieldId = fieldId) =
      some { fieldId, checked := content.checked } := by
  rw [answerTo, Option.map_eq_some_iff] at h
  obtain ⟨answer, hfind, rfl⟩ := h
  obtain ⟨-, rfl⟩ := Keyed.mem_of_find?_key hfind
  rw [List.find?_map]
  exact congrArg (Option.map _) hfind

theorem checkRequired_of_satisfies {definition : FormVersionDefinitionContent}
    (hsound : definition.Sound) {scope : IntakeScope} {optionSource : ApplicationAnswerOptionSource}
    {answers : List TransientApplicationAnswer} {field : FormFieldDefinition}
    (hfield : field ∈ definition.fields)
    (h : satisfies (field.served scope optionSource).shape (answerTo answers field.id) = true) :
    checkRequired definition (answers.map (·.answered)) field.id = .ok () := by
  obtain ⟨content, hcontent⟩ : ∃ content, answerTo answers field.id = some content := by
    cases hanswer : answerTo answers field.id with
    | some content => exact ⟨content, rfl⟩
    | none =>
      rw [hanswer] at h
      cases hshape : (field.served scope optionSource).shape <;>
        exact absurd (hshape ▸ h) (by simp [satisfies])
  simp only [checkRequired, bind_eq_ok, orRefuse_eq_ok, require_eq_ok, find?_answered hcontent]
  refine ⟨_, rfl, ?_⟩
  rintro ⟨other, hother, hpurpose⟩
  obtain ⟨hmem, hid⟩ := FormVersionDefinitionContent.mem_of_field hother
  obtain rfl := Keyed.eq_of_key_eq hsound.ids hmem hfield hid
  have hshape : (other.served scope optionSource).shape = .checkbox := by
    rw [FormFieldDefinition.served, hsound.consent other hmem hpurpose]
    rfl
  rw [hshape, satisfies, hcontent, decide_eq_true_iff, Option.some_inj] at h
  rw [h]
  rfl

theorem validateEffectiveState_submit_iff {definition : FormVersionDefinitionContent}
    {answerByField : ApplicationId → Option StructuralAnswer} {answers : List AnsweredField} :
    validateEffectiveState definition answerByField answers .submit = .ok () ↔
      (∀ answer ∈ answers,
        answer.fieldId ∈ (evaluateEffectiveFormState definition answerByField).visible) ∧
      ∀ fieldId ∈ (evaluateEffectiveFormState definition answerByField).required,
        checkRequired definition answers fieldId = .ok () := by
  refine bind_eq_ok.trans ?_
  simp only [checkEach_eq_ok, require_eq_ok, exists_const]

theorem not_visible_of_hidden_field_answered {definition : FormVersionDefinitionContent}
    {answerByField : ApplicationId → Option StructuralAnswer} {answers : List AnsweredField}
    {mode : ApplicationAnswerValidationMode} {fieldId : ApplicationId}
    (h : validateEffectiveState definition answerByField answers mode =
      .error ⟨.hidden_field_answered, fieldId⟩) :
    fieldId ∉ (evaluateEffectiveFormState definition answerByField).visible := by
  rcases bind_eq_error.1 h with hhidden | ⟨_, -, hmode⟩
  · obtain ⟨answer, -, hanswer⟩ := checkEach_eq_error hhidden
    obtain ⟨hnot, herror⟩ := require_eq_error.1 hanswer
    obtain rfl : answer.fieldId = fieldId := by simpa using herror
    exact hnot
  · exfalso
    cases mode with
    | draft => exact pure_ne_error hmode
    | submit =>
      obtain ⟨required, -, hcheck⟩ := checkEach_eq_error hmode
      rw [checkRequired, bind_eq_error] at hcheck
      rcases hcheck with hmissing | ⟨_, -, hconsent⟩
      · exact absurd (orRefuse_eq_error.1 hmissing).2 (by simp)
      · exact absurd (require_eq_error.1 hconsent).2 (by simp)
    | direct_entry =>
      obtain ⟨answer, -, hcheck⟩ := checkEach_eq_error hmode
      exact absurd (require_eq_error.1 hcheck).2 (by simp)

theorem serverEffects_withAnswer {definition : FormVersionDefinitionContent}
    (hsound : definition.Sound) (answers : List TransientApplicationAnswer)
    (fieldId : ApplicationId) (content : AnswerContent) :
    serverEffects definition (structuralAnswerTo (withAnswer answers fieldId content)) fieldId =
      serverEffects definition (structuralAnswerTo answers) fieldId := by
  refine effectsOn_congr fun rule hrule hmem => ?_
  have hne : rule.condition.sourceFieldId ≠ fieldId :=
    Ne.symm (hsound.targets rule hrule fieldId hmem).2
  have hanswer : structuralAnswerTo (withAnswer answers fieldId content)
      rule.condition.sourceFieldId = structuralAnswerTo answers rule.condition.sourceFieldId := by
    have hfind : (withAnswer answers fieldId content).find?
          (fun answer => answer.fieldId = rule.condition.sourceFieldId) =
        answers.find? fun answer => answer.fieldId = rule.condition.sourceFieldId := by
      rw [withAnswer, List.find?_append, List.find?_filter, List.find?_singleton,
        if_neg (by simpa using Ne.symm hne), Option.or_none]
      congr 1
      funext answer
      by_cases hid : answer.fieldId = rule.condition.sourceFieldId <;> simp [hid, hne]
    rw [structuralAnswerTo, answerTo, hfind]
    rfl
  cases hcondition : rule.condition with
  | selected_any sourceFieldId choiceIds =>
    rw [hcondition] at hanswer
    exact congrArg (selectedAny choiceIds) hanswer
  | checked_is sourceFieldId value =>
    rw [hcondition] at hanswer
    exact congrArg (fun answer => decide (answer = some (StructuralAnswer.checkbox value))) hanswer

theorem sidesAgree_of_identical {version : FormVersion D}
    {optionSource : ApplicationAnswerOptionSource} {form : ServedPublicForm}
    {answers : List TransientApplicationAnswer}
    (hserves : form.Serves version.scope version.definition optionSource)
    (hsound : version.definition.Sound) (h : FormRulesIdentical version form answers)
    {field : FormFieldDefinition} (hfield : field ∈ version.definition.fields) :
    SidesAgree field (serverEffects version.definition (structuralAnswerTo answers) field.id)
      (browserEffects version.definition (structuralAnswerTo answers) field.id) := by
  obtain ⟨hshows, hrequires⟩ := server_iff hsound (structuralAnswerTo answers) hfield
  refine ⟨?_, fun hshown => ?_⟩
  · rw [← browserField_visible_iff hserves hsound answers hfield, ← hshows]
    exact h.visible field hfield
  · rw [← hrequires, ← h.required field hfield,
      browserField_required_iff hserves hsound answers hfield]
    exact (and_iff_right hshown).symm

theorem identical_of_sidesAgree {version : FormVersion D}
    {optionSource : ApplicationAnswerOptionSource} {form : ServedPublicForm}
    {answers : List TransientApplicationAnswer}
    (hserves : form.Serves version.scope version.definition optionSource)
    (hsound : version.definition.Sound)
    (hagree : ∀ field ∈ version.definition.fields,
      SidesAgree field (serverEffects version.definition (structuralAnswerTo answers) field.id)
        (browserEffects version.definition (structuralAnswerTo answers) field.id)) :
    FormRulesIdentical version form answers := by
  have hvisible : ∀ field ∈ version.definition.fields,
      BrowserField form answers (fun state => state.visible = true) field.id ↔
        field.id ∈
          (evaluateEffectiveFormState version.definition (structuralAnswerTo answers)).visible := by
    intro field hfield
    rw [browserField_visible_iff hserves hsound answers hfield, (server_iff hsound _ hfield).1]
    exact (hagree field hfield).shown
  have hrequired : ∀ field ∈ version.definition.fields,
      BrowserField form answers (fun state => state.visible = true ∧ state.required = true)
          field.id ↔
        field.id ∈
          (evaluateEffectiveFormState version.definition (structuralAnswerTo answers)).required := by
    intro field hfield
    rw [browserField_required_iff hserves hsound answers hfield, (server_iff hsound _ hfield).2]
    refine ⟨fun ⟨hshown, hrequires⟩ => ((hagree field hfield).required hshown).1 hrequires,
      fun hrequires => ?_⟩
    have hshown := (hagree field hfield).shown.2 hrequires.shows
    exact ⟨hshown, ((hagree field hfield).required hshown).2 hrequires⟩
  refine ⟨hvisible, hrequired, fun hblockers hanswered => ?_, ?_⟩
  · refine validateEffectiveState_submit_iff.2
      ⟨List.forall_mem_map.2 fun answer hanswer => ?_, fun fieldId hfieldId => ?_⟩
    · have hshown := hanswered answer hanswer
      obtain ⟨⟨field, hfield, hid⟩, -⟩ := (browserField_iff hserves answers _ _).1 hshown
      rw [← hid] at hshown
      have hmem := (hvisible field hfield).1 hshown
      rwa [hid] at hmem
    · obtain ⟨field, hfield, rfl⟩ := field_of_required hsound hfieldId
      exact checkRequired_of_satisfies hsound hfield
        (satisfies_of_no_blockers hserves hblockers hfield ((hrequired field hfield).2 hfieldId))
  · intro field hfield hshown content mode hrefused
    refine not_visible_of_hidden_field_answered hrefused ?_
    rw [(server_iff hsound _ hfield).1, serverEffects_withAnswer hsound,
      ← (server_iff hsound _ hfield).1]
    exact (hvisible field hfield).1 hshown

/-- A form runs identically on both sides exactly when they agree on every field, given the
effects on it of the rules that hold on each side. -/
theorem form_rules_identical_iff {host : Host D} {version : FormVersion D}
    {optionSource : ApplicationAnswerOptionSource} {references : IntakeFormReferenceSource D}
    {form : ServedPublicForm}
    (h : projectServedPublicForm host version optionSource references = .ok form)
    (answers : List TransientApplicationAnswer) :
    FormRulesIdentical version form answers ↔
      ∀ field ∈ version.definition.fields,
        SidesAgree field (serverEffects version.definition (structuralAnswerTo answers) field.id)
          (browserEffects version.definition (structuralAnswerTo answers) field.id) := by
  obtain ⟨hsound, hserves⟩ := projectServedPublicForm_eq_ok h
  exact ⟨fun hidentical _ => sidesAgree_of_identical hserves hsound hidentical,
    identical_of_sidesAgree hserves hsound⟩

/-! ## An example -/

namespace ParityExample

def field (position : ℕ) (key : FieldRegistryStableKey) (shape : FormFieldShape) :
    FormFieldDefinition :=
  { id := .ofNat (10 + position)
    sourceFieldVersion := .one
    key
    mapsTo := none
    purpose := .ordinary
    answerOwner := .talk
    group := .talk
    constraints := { removal := .allowed, applyVisibility := .editable }
    label := key.val
    help := none
    required := false
    initiallyVisible := true
    position
    shape }

/-- A form that asks those who do not come in person for their link. -/
def version : FormVersion SymbolicDigest :=
  { id := .ofNat 1
    formId := .ofNat 2
    scope := { workspaceId := .ofNat 3, eventId := .ofNat 4 }
    number := .one
    sourceDefinitionVersion := .one
    sourceDefinitionDigestSha256 := .null
    registryPin := { version := .one, digestSha256 := .null }
    definitionDigestSha256 := .null
    definition :=
      { name := "Talks"
        target := .general_pool
        availability := .evergreen
        confirmation := ""
        fields :=
          [{ field 0 ⟨"email", by decide⟩ (.line .email) with
              mapsTo := some .person_email
              required := true
              constraints := { removal := .forbidden, applyVisibility := .required_visible } },
            field 1 ⟨"present", by decide⟩ .checkbox,
            { field 2 ⟨"link", by decide⟩ (.line .text) with initiallyVisible := false }]
        rules :=
          [{ id := .ofNat 20
             key := ⟨"remote", by decide⟩
             position := 0
             condition := .checked_is (.ofNat 11) false
             programVocabularyPins := []
             effect := { kind := .show, targetFieldIds := [.ofNat 12] } }] }
    targetPin := none
    deadlinePin := none
    publishedByUserId := .ofNat 5
    publishedAt := .yearStart 2026 }

def served : Except IntakeValidationError ServedPublicForm :=
  projectServedPublicForm SymbolicDigest.host version (fun _ _ => [])
    { resolveActiveCategory := fun _ _ _ => none
      resolveCollectingSession := fun _ _ => none
      resolveCurrentDeadline := fun _ _ => none }

theorem served_succeeds : served.toBool = true := by decide +kernel

end ParityExample

/-- Before the checkbox is touched, the browser shows the link and the server does not. -/
theorem form_rules_untouched_checkbox :
    ∃ form, ParityExample.served = .ok form ∧
      ¬ FormRulesIdentical ParityExample.version form [] := by
  obtain ⟨form, hform⟩ := exists_of_toBool ParityExample.served_succeeds
  obtain ⟨hsound, hserves⟩ := projectServedPublicForm_eq_ok hform
  refine ⟨form, hform, fun hidentical => ?_⟩
  have hagree : ∀ field ∈ ParityExample.version.definition.fields, SidesAgree field _ _ :=
    fun _ => sidesAgree_of_identical hserves hsound hidentical
  revert hagree
  decide +kernel

/-- Once it is unchecked, the form runs identically on both sides. -/
theorem form_rules_identical_iff_unchecked :
    ∃ form, ParityExample.served = .ok form ∧
      FormRulesIdentical ParityExample.version form [⟨.ofNat 11, .checkbox false⟩] := by
  obtain ⟨form, hform⟩ := exists_of_toBool ParityExample.served_succeeds
  exact ⟨form, hform, (form_rules_identical_iff hform _).2 (by decide +kernel)⟩

end JooEvents
