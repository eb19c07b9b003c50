import JooEvents.Intake.PublicForm

/-!
# The rules on both sides

The server and the browser run the rules of a form each in its own way. What becomes of a
field depends only on the effects of the rules that hold and have it as a target
(`observe_rules`), and of these on what comes after the last `hide` (`server_shows_iff`,
`server_requires_iff`, `browser_shows_iff`, `browser_requires_iff`).

On the server `require` also shows, `hide` also takes a requirement back, a field that starts
hidden starts without its requirement, and an untouched checkbox is neither checked nor
unchecked. In the browser none of this is so. The two sides agree on a form exactly when
nothing of this shows on any of its fields (`form_rules_identical_iff`).
-/

namespace JooEvents

open Fallible

variable {D : Type}

/-! ## The effects on a field -/

/-- The effects on a field of the rules whose conditions hold, in order. -/
def effectsOn (holds : FormRuleCondition → Bool) (rules : List FormVersionRule)
    (fieldId : ApplicationId) : List FormRuleEffectKind :=
  rules.filterMap fun rule =>
    if holds rule.condition = true ∧ fieldId ∈ rule.effect.targetFieldIds then
      some rule.effect.kind
    else none

theorem effectsOn_cons_of_pos {holds : FormRuleCondition → Bool} {rule : FormVersionRule}
    {rules : List FormVersionRule} {fieldId : ApplicationId} (hholds : holds rule.condition = true)
    (hmem : fieldId ∈ rule.effect.targetFieldIds) :
    effectsOn holds (rule :: rules) fieldId = rule.effect.kind :: effectsOn holds rules fieldId :=
  List.filterMap_cons_some (if_pos ⟨hholds, hmem⟩)

theorem effectsOn_cons_of_neg {holds : FormRuleCondition → Bool} {rule : FormVersionRule}
    {rules : List FormVersionRule} {fieldId : ApplicationId}
    (h : ¬ (holds rule.condition = true ∧ fieldId ∈ rule.effect.targetFieldIds)) :
    effectsOn holds (rule :: rules) fieldId = effectsOn holds rules fieldId :=
  List.filterMap_cons_none (if_neg h)

theorem effectsOn_congr {holds holds' : FormRuleCondition → Bool} {rules : List FormVersionRule}
    {fieldId : ApplicationId}
    (h : ∀ rule ∈ rules, fieldId ∈ rule.effect.targetFieldIds →
      holds rule.condition = holds' rule.condition) :
    effectsOn holds rules fieldId = effectsOn holds' rules fieldId := by
  refine List.filterMap_congr fun rule hrule => ?_
  by_cases hmem : fieldId ∈ rule.effect.targetFieldIds
  · rw [h rule hrule hmem]
  · rw [if_neg fun hboth => hmem hboth.2, if_neg fun hboth => hmem hboth.2]

/-- What comes after the last `hide`. -/
def sinceHide (effects : List FormRuleEffectKind) : List FormRuleEffectKind :=
  (effects.reverse.takeWhile (· ≠ .hide)).reverse

@[simp] theorem sinceHide_nil : sinceHide [] = [] := rfl

@[simp] theorem sinceHide_append_hide (effects : List FormRuleEffectKind) :
    sinceHide (effects ++ [.hide]) = [] := by
  simp [sinceHide]

theorem sinceHide_append {effects : List FormRuleEffectKind} {kind : FormRuleEffectKind}
    (h : kind ≠ .hide) : sinceHide (effects ++ [kind]) = sinceHide effects ++ [kind] := by
  simp [sinceHide, h]

section Observe

variable {σ : Type} {affect : FormRuleEffectKind → EffectiveFormState → ApplicationId →
    EffectiveFormState} {observe : EffectiveFormState → σ} {step : FormRuleEffectKind → σ → σ}
  {fieldId : ApplicationId}

theorem observe_targets (hstep : ∀ kind s, step kind (step kind s) = step kind s)
    (haffect : ∀ kind state targetId, observe (affect kind state targetId) =
      if targetId = fieldId then step kind (observe state) else observe state)
    (kind : FormRuleEffectKind) :
    ∀ (targetIds : List ApplicationId) (state : EffectiveFormState),
      observe (targetIds.foldl (affect kind) state) =
        if fieldId ∈ targetIds then step kind (observe state) else observe state
  | [], state => by simp
  | targetId :: targetIds, state => by
    rw [List.foldl_cons, observe_targets hstep haffect kind targetIds, haffect]
    by_cases htarget : targetId = fieldId <;> by_cases hmem : fieldId ∈ targetIds
    · simp [htarget, hmem, hstep]
    · simp [htarget, hmem]
    · simp [hmem, htarget]
    · simp [hmem, htarget, Ne.symm htarget]

theorem observe_rules (hstep : ∀ kind s, step kind (step kind s) = step kind s)
    (haffect : ∀ kind state targetId, observe (affect kind state targetId) =
      if targetId = fieldId then step kind (observe state) else observe state)
    (holds : FormRuleCondition → Bool) :
    ∀ (rules : List FormVersionRule) (state : EffectiveFormState),
      observe (rules.foldl (fun state rule =>
        if holds rule.condition then
          rule.effect.targetFieldIds.foldl (affect rule.effect.kind) state
        else state) state) =
        (effectsOn holds rules fieldId).foldl (fun s kind => step kind s) (observe state)
  | [], state => rfl
  | rule :: rules, state => by
    rw [List.foldl_cons, observe_rules hstep haffect holds rules]
    by_cases hholds : holds rule.condition = true
    · rw [if_pos hholds, observe_targets hstep haffect]
      by_cases hmem : fieldId ∈ rule.effect.targetFieldIds
      · rw [if_pos hmem, effectsOn_cons_of_pos hholds hmem, List.foldl_cons]
      · rw [if_neg hmem, effectsOn_cons_of_neg fun h => hmem h.2]
    · rw [if_neg hholds, effectsOn_cons_of_neg fun h => hholds h.1]

end Observe

/-! ## The server -/

def EffectiveFormState.at (fieldId : ApplicationId) (state : EffectiveFormState) : Bool × Bool :=
  (decide (fieldId ∈ state.visible), decide (fieldId ∈ state.required))

/-- What an effect makes of a field on the server. -/
def serverStep : FormRuleEffectKind → Bool × Bool → Bool × Bool
  | .show, s => (true, s.2)
  | .hide, _ => (false, false)
  | .require, _ => (true, true)

/-- The server shows a field : no effect hides it and it starts visible, or something comes
after the last `hide`. -/
def ServerShows (field : FormFieldDefinition) (effects : List FormRuleEffectKind) : Prop :=
  (.hide ∉ effects ∧ field.initiallyVisible = true) ∨ sinceHide effects ≠ []

/-- The server requires a field : no effect hides it, it starts visible and is required, or
a `require` comes after the last `hide`. -/
def ServerRequires (field : FormFieldDefinition) (effects : List FormRuleEffectKind) : Prop :=
  (.hide ∉ effects ∧ field.initiallyVisible = true ∧ field.required = true) ∨
    .require ∈ sinceHide effects

instance (field : FormFieldDefinition) (effects : List FormRuleEffectKind) :
    Decidable (ServerShows field effects) :=
  inferInstanceAs (Decidable (_ ∨ _))

instance (field : FormFieldDefinition) (effects : List FormRuleEffectKind) :
    Decidable (ServerRequires field effects) :=
  inferInstanceAs (Decidable (_ ∨ _))

theorem serverStep_foldl (field : FormFieldDefinition) (effects : List FormRuleEffectKind) :
    ((effects.foldl (fun s kind => serverStep kind s)
        (field.initiallyVisible, field.initiallyVisible && field.required)).1 = true ↔
      ServerShows field effects) ∧
    ((effects.foldl (fun s kind => serverStep kind s)
        (field.initiallyVisible, field.initiallyVisible && field.required)).2 = true ↔
      ServerRequires field effects) := by
  induction effects using List.reverseRecOn with
  | nil => simp [ServerShows, ServerRequires]
  | append_singleton effects kind ih =>
    obtain ⟨-, hrequires⟩ := ih
    rw [List.foldl_append, List.foldl_cons, List.foldl_nil]
    cases kind with
    | «show» =>
      constructor
      · simp [serverStep, ServerShows, sinceHide_append]
      · rw [serverStep, hrequires]
        simp [ServerRequires, sinceHide_append]
    | «hide» => simp [serverStep, ServerShows, ServerRequires]
    | require => simp [serverStep, ServerShows, ServerRequires, sinceHide_append]

theorem affect_at (fieldId : ApplicationId) (kind : FormRuleEffectKind) (state : EffectiveFormState)
    (targetId : ApplicationId) :
    (state.affect kind targetId).at fieldId =
      if targetId = fieldId then serverStep kind (state.at fieldId) else state.at fieldId := by
  by_cases htarget : targetId = fieldId
  · subst htarget
    rw [if_pos rfl]
    cases kind with
    | «show» => exact Prod.ext (by simp [EffectiveFormState.at, EffectiveFormState.affect, serverStep]) rfl
    | «hide» | require => simp [EffectiveFormState.at, EffectiveFormState.affect, serverStep]
  · have hne : fieldId ≠ targetId := Ne.symm htarget
    rw [if_neg htarget]
    cases kind with
    | «show» => exact Prod.ext (by simp [EffectiveFormState.at, EffectiveFormState.affect, hne]) rfl
    | «hide» | require => simp [EffectiveFormState.at, EffectiveFormState.affect, hne]

theorem mem_initial_iff {fields : List FormFieldDefinition} (hids : (fields.map (·.id)).Nodup)
    {field : FormFieldDefinition} (hfield : field ∈ fields) (p : FormFieldDefinition → Bool) :
    field.id ∈ (fields.filter p).map (·.id) ↔ p field = true := by
  simp only [List.mem_map, List.mem_filter]
  constructor
  · rintro ⟨other, ⟨hother, hp⟩, hid⟩
    rwa [← Keyed.eq_of_key_eq hids hother hfield hid]
  · exact fun hp => ⟨field, ⟨hfield, hp⟩, rfl⟩

/-- The effects on a field of the rules that hold on the server. -/
def serverEffects (definition : FormVersionDefinitionContent)
    (answers : ApplicationId → Option StructuralAnswer) (fieldId : ApplicationId) :
    List FormRuleEffectKind :=
  effectsOn (fun condition => condition.matches answers) definition.rules fieldId

theorem evaluateEffectiveFormState_at {definition : FormVersionDefinitionContent}
    (hsound : definition.Sound) (answers : ApplicationId → Option StructuralAnswer)
    {field : FormFieldDefinition} (hfield : field ∈ definition.fields) :
    (evaluateEffectiveFormState definition answers).at field.id =
      (serverEffects definition answers field.id).foldl (fun s kind => serverStep kind s)
        (field.initiallyVisible, field.initiallyVisible && field.required) := by
  have hstep : ∀ kind s, serverStep kind (serverStep kind s) = serverStep kind s := by
    rintro ⟨⟩ ⟨_, _⟩ <;> rfl
  have hrules := observe_rules hstep (affect_at field.id)
    (fun condition => condition.matches answers) definition.rules
  rw [evaluateEffectiveFormState, serverEffects, hrules]
  congr 1
  simp only [EffectiveFormState.at, mem_initial_iff hsound.ids hfield, Bool.decide_eq_true]

theorem server_iff {definition : FormVersionDefinitionContent} (hsound : definition.Sound)
    (answers : ApplicationId → Option StructuralAnswer) {field : FormFieldDefinition}
    (hfield : field ∈ definition.fields) :
    (field.id ∈ (evaluateEffectiveFormState definition answers).visible ↔
      ServerShows field (serverEffects definition answers field.id)) ∧
    (field.id ∈ (evaluateEffectiveFormState definition answers).required ↔
      ServerRequires field (serverEffects definition answers field.id)) := by
  have hclosed := serverStep_foldl field (serverEffects definition answers field.id)
  rw [← evaluateEffectiveFormState_at hsound answers hfield] at hclosed
  simpa only [EffectiveFormState.at, decide_eq_true_eq] using hclosed

/-! ## The browser -/

/-- What an effect makes of a field in the browser. -/
def browserStep : FormRuleEffectKind → Bool × Bool → Bool × Bool
  | .show, s => (true, s.2)
  | .hide, s => (false, s.2)
  | .require, s => (s.1, true)

/-- The browser shows a field : no effect hides it and it starts visible, or a `show` comes
after the last `hide`. -/
def BrowserShows (field : FormFieldDefinition) (effects : List FormRuleEffectKind) : Prop :=
  (.hide ∉ effects ∧ field.initiallyVisible = true) ∨ .show ∈ sinceHide effects

/-- The browser requires a field : it is required from the start, or by a `require` anywhere. -/
def BrowserRequires (field : FormFieldDefinition) (effects : List FormRuleEffectKind) : Prop :=
  field.required = true ∨ .require ∈ effects

instance (field : FormFieldDefinition) (effects : List FormRuleEffectKind) :
    Decidable (BrowserShows field effects) :=
  inferInstanceAs (Decidable (_ ∨ _))

instance (field : FormFieldDefinition) (effects : List FormRuleEffectKind) :
    Decidable (BrowserRequires field effects) :=
  inferInstanceAs (Decidable (_ ∨ _))

theorem browserStep_foldl (field : FormFieldDefinition) (effects : List FormRuleEffectKind) :
    ((effects.foldl (fun s kind => browserStep kind s)
        (field.initiallyVisible, field.required)).1 = true ↔ BrowserShows field effects) ∧
    ((effects.foldl (fun s kind => browserStep kind s)
        (field.initiallyVisible, field.required)).2 = true ↔ BrowserRequires field effects) := by
  induction effects using List.reverseRecOn with
  | nil => simp [BrowserShows, BrowserRequires]
  | append_singleton effects kind ih =>
    obtain ⟨hshows, hrequires⟩ := ih
    rw [List.foldl_append, List.foldl_cons, List.foldl_nil]
    cases kind with
    | «show» =>
      constructor
      · simp [browserStep, BrowserShows, sinceHide_append]
      · rw [browserStep, hrequires]
        simp [BrowserRequires]
    | «hide» =>
      constructor
      · simp [browserStep, BrowserShows]
      · rw [browserStep, hrequires]
        simp [BrowserRequires]
    | require =>
      constructor
      · rw [browserStep, hshows]
        simp [BrowserShows, sinceHide_append]
      · simp [browserStep, BrowserRequires]

theorem browserAffect_at (fieldId : ApplicationId) (kind : FormRuleEffectKind)
    (state : EffectiveFormState) (targetId : ApplicationId) :
    (state.browserAffect kind targetId).at fieldId =
      if targetId = fieldId then browserStep kind (state.at fieldId) else state.at fieldId := by
  by_cases htarget : targetId = fieldId
  · subst htarget
    rw [if_pos rfl]
    cases kind with
    | «show» | «hide» =>
      exact Prod.ext
        (by simp [EffectiveFormState.at, EffectiveFormState.browserAffect, browserStep]) rfl
    | require =>
      exact Prod.ext rfl
        (by simp [EffectiveFormState.at, EffectiveFormState.browserAffect, browserStep])
  · have hne : fieldId ≠ targetId := Ne.symm htarget
    rw [if_neg htarget]
    cases kind with
    | «show» | «hide» =>
      exact Prod.ext (by simp [EffectiveFormState.at, EffectiveFormState.browserAffect, hne]) rfl
    | require =>
      exact Prod.ext rfl (by simp [EffectiveFormState.at, EffectiveFormState.browserAffect, hne])

/-- A form that serves a definition. -/
structure ServedPublicForm.Serves (form : ServedPublicForm) (scope : IntakeScope)
    (definition : FormVersionDefinitionContent) (optionSource : ApplicationAnswerOptionSource) :
    Prop where
  fields : form.fields = definition.fields.map fun field => field.served scope optionSource
  rules : form.rules = definition.rules.map (·.served)

theorem projectServedPublicForm_eq_ok {host : Host D} {version : FormVersion D}
    {optionSource : ApplicationAnswerOptionSource} {references : IntakeFormReferenceSource D}
    {form : ServedPublicForm}
    (h : projectServedPublicForm host version optionSource references = .ok form) :
    version.definition.Sound ∧ form.Serves version.scope version.definition optionSource := by
  simp only [projectServedPublicForm, bind_eq_ok, require_eq_ok, orRefuse_eq_ok, pure_eq_ok,
    exists_const] at h
  obtain ⟨hversion, targetPin, -, availability, -, -, rfl⟩ := h
  exact ⟨formVersionSchema_sound hversion, ⟨rfl, rfl⟩⟩

/-- The effects on a field of the rules that hold in the browser. -/
def browserEffects (definition : FormVersionDefinitionContent)
    (answers : ApplicationId → Option StructuralAnswer) (fieldId : ApplicationId) :
    List FormRuleEffectKind :=
  effectsOn (fun condition => conditionHolds condition answers) definition.rules fieldId

theorem browserFormState_at {scope : IntakeScope} {definition : FormVersionDefinitionContent}
    {optionSource : ApplicationAnswerOptionSource} {form : ServedPublicForm}
    (hserves : form.Serves scope definition optionSource) (hsound : definition.Sound)
    (answers : ApplicationId → Option StructuralAnswer) {field : FormFieldDefinition}
    (hfield : field ∈ definition.fields) :
    (browserFormState form answers).at field.id =
      (browserEffects definition answers field.id).foldl (fun s kind => browserStep kind s)
        (field.initiallyVisible, field.required) := by
  have hstep : ∀ kind s, browserStep kind (browserStep kind s) = browserStep kind s := by
    rintro ⟨⟩ ⟨_, _⟩ <;> rfl
  have hrules := observe_rules hstep (browserAffect_at field.id)
    (fun condition => conditionHolds condition answers) definition.rules
  rw [browserFormState, hserves.rules, List.foldl_map, browserEffects]
  refine (hrules _).trans ?_
  congr 1
  have hvisible := mem_initial_iff hsound.ids hfield (·.initiallyVisible)
  have hrequired := mem_initial_iff hsound.ids hfield (·.required)
  rw [hserves.fields, List.filter_map, List.filter_map, List.map_map, List.map_map]
  exact Prod.ext (Bool.eq_iff_iff.2 (decide_eq_true_iff.trans hvisible))
    (Bool.eq_iff_iff.2 (decide_eq_true_iff.trans hrequired))

theorem browser_iff {scope : IntakeScope} {definition : FormVersionDefinitionContent}
    {optionSource : ApplicationAnswerOptionSource} {form : ServedPublicForm}
    (hserves : form.Serves scope definition optionSource) (hsound : definition.Sound)
    (answers : ApplicationId → Option StructuralAnswer) {field : FormFieldDefinition}
    (hfield : field ∈ definition.fields) :
    (field.id ∈ (browserFormState form answers).visible ↔
      BrowserShows field (browserEffects definition answers field.id)) ∧
    (field.id ∈ (browserFormState form answers).required ↔
      BrowserRequires field (browserEffects definition answers field.id)) := by
  have hclosed := browserStep_foldl field (browserEffects definition answers field.id)
  rw [← browserFormState_at hserves hsound answers hfield] at hclosed
  simpa only [EffectiveFormState.at, decide_eq_true_eq] using hclosed

end JooEvents
