import JooEvents.Intake.Preparation
import Mathlib.Data.Prod.Lex

/-!
# Answers and their index

Answers are checked when they are taken and again when they are in the index. The two checks
read different maps in different orders, and come to one result : rules read the same of an
answer and of its entry (`sameReading_governedIndex`), so the effective state is the same
(`evaluateEffectiveFormState_congr`), and what is required of it is refused with one code
(`refusal_validateGovernedAnswerIndex`).
-/

namespace JooEvents

open Fallible List

variable {D : Type}

/-- The entry of an answer, whose payload is kept under a reference. -/
def AnswerInputContent.entry (payloadRefId : ApplicationId) :
    AnswerInputContent ApplicationId → AnswerIndexContent
  | .line kind _ => .governed (.line kind) payloadRefId
  | .number _ => .governed .number payloadRefId
  | .date _ => .governed .date payloadRefId
  | .datetime _ => .governed .datetime payloadRefId
  | .select choiceId => .select choiceId
  | .multiselect choiceIds => .multiselect (choiceIds.sortByKey id)
  | .checkbox checked => .checkbox checked

def ApplicationAnswerInput.entry (refs : ApplicationId → ApplicationId)
    (answer : ApplicationAnswerInput ApplicationId) : ApplicationAnswerIndexEntry :=
  { fieldId := answer.fieldId, content := answer.content.entry (refs answer.fieldId) }

/-- The index that is built from answers, whose payloads are kept under references. -/
def governedIndex (refs : ApplicationId → ApplicationId)
    (answers : List (ApplicationAnswerInput ApplicationId)) : List ApplicationAnswerIndexEntry :=
  (answers.map (·.entry refs)).sortByKey (·.fieldId)

/-- What the schema of answers establishes. -/
structure Taken (answers : List (ApplicationAnswerInput ApplicationId)) : Prop where
  length : answers.length ≤ formFieldsMax
  fieldIds : (answers.map (·.fieldId)).Nodup
  choices : ∀ answer ∈ answers, answer.content.choiceIds.Nodup

theorem Taken.of_schema {host : AnswerHost D} {raw : List (ApplicationAnswerInput String)}
    {answers : List (ApplicationAnswerInput ApplicationId)}
    (h : takenAnswers host raw = some answers) : Taken answers := by
  obtain ⟨parsed, hparsed, rfl⟩ := Option.map_eq_some_iff.mp h
  simp only [transientApplicationAnswersInputSchema, Option.bind_eq_bind,
    Option.bind_eq_some_iff, Option.ite_none_right_eq_some, Option.some.injEq] at hparsed
  obtain ⟨_, -, ⟨hlength, hids, hchoices, -⟩, rfl⟩ := hparsed
  exact ⟨(length_filter_le _ _).trans hlength, hids.sublist (filter_sublist.map _),
    fun answer hanswer => hchoices answer (mem_of_mem_filter hanswer)⟩

section

variable {answers : List (ApplicationAnswerInput ApplicationId)}
  {refs : ApplicationId → ApplicationId}

theorem perm_governedIndex : governedIndex refs answers ~ answers.map (·.entry refs) :=
  perm_sortByKey _ _

theorem map_fieldId_entries :
    (answers.map (·.entry refs)).map (·.fieldId) = answers.map (·.fieldId) := by
  rw [map_map]
  rfl

theorem Taken.entries_nodup (h : Taken answers) :
    ((answers.map (·.entry refs)).map (·.fieldId)).Nodup := by
  rw [map_fieldId_entries]
  exact h.fieldIds

theorem Taken.index_nodup (h : Taken answers) :
    ((governedIndex refs answers).map (·.fieldId)).Nodup :=
  ((perm_governedIndex.map _).nodup_iff).mpr h.entries_nodup

theorem Taken.find?_governedIndex (h : Taken answers) (fieldId : ApplicationId) :
    (governedIndex refs answers).find? (fun entry => entry.fieldId = fieldId) =
      (answers.find? fun answer => answer.fieldId = fieldId).map (·.entry refs) := by
  refine Option.ext fun entry => ?_
  rw [Keyed.find?_key_eq_some_iff h.index_nodup, perm_governedIndex.mem_iff, mem_map,
    Option.map_eq_some_iff]
  simp only [Keyed.find?_key_eq_some_iff h.fieldIds]
  constructor
  · rintro ⟨⟨answer, hanswer, rfl⟩, hfield⟩
    exact ⟨answer, ⟨hanswer, hfield⟩, rfl⟩
  · rintro ⟨answer, ⟨hanswer, hfield⟩, rfl⟩
    exact ⟨⟨answer, hanswer, rfl⟩, hfield⟩

end

def SameReading (a b : Option StructuralAnswer) : Prop :=
  (∀ choiceIds, selectedAny choiceIds a = selectedAny choiceIds b) ∧
    ∀ value, a = some (.checkbox value) ↔ b = some (.checkbox value)

theorem SameReading.refl (a : Option StructuralAnswer) : SameReading a a :=
  ⟨fun _ => rfl, fun _ => Iff.rfl⟩

theorem SameReading.matches_eq {f g : ApplicationId → Option StructuralAnswer}
    (h : ∀ fieldId, SameReading (f fieldId) (g fieldId)) (condition : FormRuleCondition) :
    condition.matches f = condition.matches g := by
  cases condition with
  | selected_any sourceFieldId choiceIds => exact (h sourceFieldId).1 choiceIds
  | checked_is sourceFieldId value => exact decide_eq_decide.mpr ((h sourceFieldId).2 value)

theorem evaluateEffectiveFormState_congr (definition : FormVersionDefinitionContent)
    {f g : ApplicationId → Option StructuralAnswer}
    (h : ∀ fieldId, SameReading (f fieldId) (g fieldId)) :
    evaluateEffectiveFormState definition f = evaluateEffectiveFormState definition g := by
  simp only [evaluateEffectiveFormState, SameReading.matches_eq h]

theorem sameReading_entry (content : AnswerInputContent ApplicationId) (ref : ApplicationId) :
    SameReading content.structural (content.entry ref).structural := by
  cases content with
  | multiselect choiceIds =>
    refine ⟨fun wanted => decide_eq_decide.mpr ?_, fun value => by
      simp [AnswerInputContent.structural, AnswerInputContent.entry,
        AnswerIndexContent.structural]⟩
    simp only [mem_sortByKey]
  | line _ _ | number _ | date _ | datetime _ | select _ | checkbox _ => exact .refl _

theorem Taken.sameReading {answers : List (ApplicationAnswerInput ApplicationId)}
    (h : Taken answers) (refs : ApplicationId → ApplicationId) (fieldId : ApplicationId) :
    SameReading (takenAnswerTo answers fieldId)
      (structuralEntryOf (governedIndex refs answers) fieldId) := by
  rw [takenAnswerTo, structuralEntryOf, h.find?_governedIndex]
  cases answers.find? fun answer => answer.fieldId = fieldId with
  | none => exact .refl _
  | some answer => exact sameReading_entry answer.content (refs answer.fieldId)

/-- The code that a check refuses with, if it does. -/
def refusal : Except ApplicationAnswerError Unit → Option ApplicationAnswerErrorCode
  | .ok _ => none
  | .error error => some error.code

theorem refusal_eq_none_iff {x : Except ApplicationAnswerError Unit} :
    refusal x = none ↔ x = .ok () := by
  cases x <;> simp [refusal]

theorem refusal_bind (x y : Except ApplicationAnswerError Unit) :
    refusal (x >>= fun _ => y) = (refusal x).or (refusal y) := by
  cases x <;> rfl

theorem refusal_require {c : Prop} [Decidable c] (code : ApplicationAnswerErrorCode)
    (fieldId : Option ApplicationId) :
    refusal (require c ⟨code, fieldId⟩) = if c then none else some code := by
  unfold require
  split <;> rfl

theorem refusal_checkEach {α : Type} {p : α → Prop} [DecidablePred p]
    (code : ApplicationAnswerErrorCode) (fieldId : α → Option ApplicationId) (values : List α) :
    refusal (checkEach (fun value => require (p value) ⟨code, fieldId value⟩) values) =
      if ∀ value ∈ values, p value then none else some code := by
  induction values with
  | nil => simp [checkEach, refusal, pure, Except.pure]
  | cons value values ih =>
    rw [checkEach, forM_cons, refusal_bind, refusal_require]
    rw [checkEach] at ih
    rw [ih]
    by_cases hvalue : p value <;> simp [hvalue]

theorem refusal_validateEffectiveState (definition : FormVersionDefinitionContent)
    {f g : ApplicationId → Option StructuralAnswer} {as bs : List AnsweredField}
    (hread : ∀ fieldId, SameReading (f fieldId) (g fieldId)) (hperm : as ~ bs)
    (hnodup : (as.map (·.fieldId)).Nodup) (mode : ApplicationAnswerValidationMode) :
    refusal (validateEffectiveState definition f as mode) =
      refusal (validateEffectiveState definition g bs mode) := by
  have hfind : ∀ fieldId, as.find? (fun answer => answer.fieldId = fieldId) =
      bs.find? fun answer => answer.fieldId = fieldId := fun fieldId => Option.ext fun answer => by
    rw [Keyed.find?_key_eq_some_iff hnodup,
      Keyed.find?_key_eq_some_iff ((hperm.map _).nodup_iff.mp hnodup), hperm.mem_iff]
  have hrequired : ∀ fieldId, checkRequired definition as fieldId =
      checkRequired definition bs fieldId := fun fieldId => by
    rw [checkRequired, checkRequired, hfind]
  unfold validateEffectiveState
  rw [evaluateEffectiveFormState_congr definition hread]
  cases mode with
  | draft => simp only [refusal_bind, refusal_checkEach, hperm.mem_iff]
  | submit => simp only [refusal_bind, refusal_checkEach, hperm.mem_iff, funext hrequired]
  | direct_entry => simp only [refusal_bind, refusal_checkEach, hperm.mem_iff]

/-! ## Shapes -/

/-- The codes of what is validated of the effective state. -/
def ApplicationAnswerErrorCode.isEffective : ApplicationAnswerErrorCode → Bool
  | .hidden_field_answered | .required_answer_missing | .required_consent_not_affirmed
  | .consent_not_enterable => true
  | .unknown_field | .answer_type_mismatch | .answer_too_long | .number_out_of_range
  | .integer_required | .unknown_choice | .too_many_choices | .invalid_payload_adoption
  | .invalid_answer_index => false

theorem kind_entry (content : AnswerInputContent ApplicationId) (ref : ApplicationId) :
    (content.entry ref).kind = content.kind := by
  cases content <;> rfl

theorem choicesAllowed_congr {scope : IntakeScope} {field : FormFieldDefinition}
    {as bs : List ApplicationId} (h : ∀ choiceId, choiceId ∈ as ↔ choiceId ∈ bs)
    (optionSource : ApplicationAnswerOptionSource) :
    choicesAllowed scope field as optionSource = choicesAllowed scope field bs optionSource := by
  simp only [choicesAllowed, h]

theorem validateGovernedAnswerShape_entry {scope : IntakeScope} {field : FormFieldDefinition}
    {content : AnswerInputContent ApplicationId} {optionSource : ApplicationAnswerOptionSource}
    (ref : ApplicationId)
    (h : validateTakenAnswerShape scope field content optionSource = .ok ()) :
    validateGovernedAnswerShape scope field (content.entry ref) optionSource = .ok () := by
  simp only [validateTakenAnswerShape, bind_eq_ok, require_eq_ok] at h
  obtain ⟨-, hkind, h⟩ := h
  unfold validateGovernedAnswerShape
  rw [require_true (hkind.trans (kind_entry content ref).symm), ok_bind]
  cases content with
  | line _ _ | number _ | date _ | datetime _ | checkbox _ => rfl
  | select choiceId => exact h
  | multiselect choiceIds =>
    simp only [bind_eq_ok, require_eq_ok] at h
    obtain ⟨-, hlength, hallowed⟩ := h
    simp only [AnswerInputContent.entry]
    rw [require_true ((perm_sortByKey id choiceIds).length_eq.trans_le hlength), ok_bind,
      choicesAllowed_congr fun _ => mem_sortByKey]
    exact hallowed

theorem choicesAllowed_not_effective {scope : IntakeScope} {field : FormFieldDefinition}
    {choiceIds : List ApplicationId} {optionSource : ApplicationAnswerOptionSource}
    {error : ApplicationAnswerError}
    (h : choicesAllowed scope field choiceIds optionSource = .error error) :
    error.code.isEffective = false := by
  unfold choicesAllowed at h
  split at h
  · obtain rfl := Except.error.inj h
    rfl
  · obtain ⟨-, rfl⟩ := require_eq_error.mp h
    rfl

theorem validateTakenAnswerShape_not_effective {scope : IntakeScope} {field : FormFieldDefinition}
    {content : AnswerInputContent ApplicationId} {optionSource : ApplicationAnswerOptionSource}
    {error : ApplicationAnswerError}
    (h : validateTakenAnswerShape scope field content optionSource = .error error) :
    error.code.isEffective = false := by
  unfold validateTakenAnswerShape at h
  rcases bind_eq_error.mp h with h | ⟨_, hkind, h⟩
  · obtain ⟨-, rfl⟩ := require_eq_error.mp h
    rfl
  · cases content with
    | line kind value =>
      obtain ⟨-, rfl⟩ := require_eq_error.mp h
      rfl
    | number value =>
      rw [require_eq_ok] at hkind
      generalize field.shape = shape at h hkind
      cases shape with
      | number minimum maximum integerOnly =>
        rcases bind_eq_error.mp h with h | ⟨_, -, h⟩
        · obtain ⟨-, rfl⟩ := require_eq_error.mp h
          rfl
        · obtain ⟨-, rfl⟩ := require_eq_error.mp h
          rfl
      | line _ | date | datetime | select _ | multiselect _ | checkbox => cases hkind
    | select choiceId => exact choicesAllowed_not_effective h
    | multiselect choiceIds =>
      rcases bind_eq_error.mp h with h | ⟨_, -, h⟩
      · obtain ⟨-, rfl⟩ := require_eq_error.mp h
        rfl
      · exact choicesAllowed_not_effective h
    | date _ | datetime _ | checkbox _ => exact absurd h pure_ne_error

/-- Each of the answers has the shape of its field. -/
def ShapesValid (version : FormVersion D) (optionSource : ApplicationAnswerOptionSource)
    (answers : List (ApplicationAnswerInput ApplicationId)) : Prop :=
  ∀ answer ∈ answers, ∃ field, version.definition.field answer.fieldId = some field ∧
    validateTakenAnswerShape version.scope field answer.content optionSource = .ok ()

/-! ## The index -/

section

variable {answers : List (ApplicationAnswerInput ApplicationId)}
  {refs : ApplicationId → ApplicationId} {version : FormVersion D}
  {optionSource : ApplicationAnswerOptionSource}

theorem indexChoicesSchema_entry {content : AnswerInputContent ApplicationId}
    (hlength : content.choiceIds.length ≤ formMultiselectMaxSelections)
    (hnodup : content.choiceIds.Nodup) (ref : ApplicationId) :
    indexChoicesSchema (content.entry ref) = true := by
  cases content with
  | multiselect choiceIds =>
    have hsorted : (choiceIds.sortByKey id).Pairwise fun a b => id a < id b :=
      pairwise_lt_sortByKey (by rwa [map_id])
    have hsame := (perm_sortByKey id choiceIds).length_eq
    exact Bool.and_eq_true_iff.mpr ⟨decide_eq_true (hsame.trans_le hlength),
      decide_eq_true hsorted.isChain⟩
  | line _ _ | number _ | date _ | datetime _ | select _ | checkbox _ => rfl

theorem length_choiceIds_of_shape {scope : IntakeScope} {field : FormFieldDefinition}
    {content : AnswerInputContent ApplicationId}
    (h : validateTakenAnswerShape scope field content optionSource = .ok ()) :
    content.choiceIds.length ≤ formMultiselectMaxSelections := by
  cases content with
  | multiselect choiceIds =>
    simp only [validateTakenAnswerShape, bind_eq_ok, require_eq_ok] at h
    obtain ⟨-, -, -, hlength, -⟩ := h
    exact hlength
  | line _ _ | number _ | date _ | datetime _ | select _ | checkbox _ =>
    exact Nat.le_of_ble_eq_true rfl

theorem Taken.applicationAnswerIndexSchema (h : Taken answers)
    (hshapes : ShapesValid version optionSource answers) :
    applicationAnswerIndexSchema (governedIndex refs answers) = true := by
  have hlength : (governedIndex refs answers).length = answers.length := by
    rw [perm_governedIndex.length_eq, length_map]
  have hsorted : (governedIndex refs answers).Pairwise fun a b => a.fieldId < b.fieldId :=
    pairwise_lt_sortByKey h.entries_nodup
  have hchoices : ∀ entry ∈ governedIndex refs answers,
      indexChoicesSchema entry.content = true := by
    intro entry hentry
    obtain ⟨answer, hanswer, rfl⟩ := mem_map.mp (perm_governedIndex.mem_iff.mp hentry)
    obtain ⟨field, -, hshape⟩ := hshapes answer hanswer
    exact indexChoicesSchema_entry (length_choiceIds_of_shape hshape) (h.choices answer hanswer) _
  rw [JooEvents.applicationAnswerIndexSchema, Bool.and_eq_true, Bool.and_eq_true,
    decide_eq_true_eq, decide_eq_true_eq, all_eq_true]
  exact ⟨⟨hlength.trans_le h.length, (pairwise_map.mpr hsorted).isChain⟩, hchoices⟩

theorem answered_entry (answer : ApplicationAnswerInput ApplicationId) :
    (answer.entry refs).answered = answer.answered := by
  cases answer with
  | mk fieldId content => cases content <;> rfl

theorem perm_answered :
    answers.map (·.answered) ~ (governedIndex refs answers).map (·.answered) := by
  have h : (answers.map (·.entry refs)).map (·.answered) = answers.map (·.answered) := by
    rw [map_map]
    exact map_congr_left fun answer _ => answered_entry answer
  rw [← h]
  exact (perm_governedIndex.map _).symm

theorem Taken.refusal_validateGovernedAnswerIndex (h : Taken answers)
    (hshapes : ShapesValid version optionSource answers) (refs : ApplicationId → ApplicationId)
    (mode : ApplicationAnswerValidationMode) :
    refusal (validateGovernedAnswerIndex version (governedIndex refs answers) optionSource mode) =
      refusal (validateEffectiveState version.definition (takenAnswerTo answers)
        (answers.map (·.answered)) mode) := by
  have hentries : checkEach (fun entry : ApplicationAnswerIndexEntry => do
      let field ← orRefuse (version.definition.field entry.fieldId) ⟨.unknown_field, entry.fieldId⟩
      validateGovernedAnswerShape version.scope field entry.content optionSource)
        (governedIndex refs answers) = .ok () := by
    refine checkEach_eq_ok.mpr fun entry hentry => ?_
    obtain ⟨answer, hanswer, rfl⟩ := mem_map.mp (perm_governedIndex.mem_iff.mp hentry)
    obtain ⟨field, hfield, hshape⟩ := hshapes answer hanswer
    rw [ApplicationAnswerInput.entry, hfield, orRefuse_some, ok_bind]
    exact validateGovernedAnswerShape_entry _ hshape
  rw [validateGovernedAnswerIndex, require_true (h.applicationAnswerIndexSchema hshapes), ok_bind,
    hentries, ok_bind]
  refine (refusal_validateEffectiveState _ (h.sameReading refs) perm_answered ?_ mode).symm
  rw [map_map]
  exact h.fieldIds

end

/-! ## What was prepared -/

theorem validateTakenAnswers_eq_ok {version : FormVersion D}
    {answers : List (ApplicationAnswerInput ApplicationId)}
    {optionSource : ApplicationAnswerOptionSource} {mode : ApplicationAnswerValidationMode} :
    validateTakenAnswers version answers optionSource mode = .ok () ↔
      ShapesValid version optionSource answers ∧
        validateEffectiveState version.definition (takenAnswerTo answers)
          (answers.map (·.answered)) mode = .ok () := by
  simp only [validateTakenAnswers, bind_eq_ok, checkEach_eq_ok, orRefuse_eq_ok, ShapesValid]
  constructor
  · rintro ⟨_, hshapes, heffective⟩
    exact ⟨hshapes, heffective⟩
  · rintro ⟨hshapes, heffective⟩
    exact ⟨(), hshapes, heffective⟩

theorem of_validateTakenAnswers_eq_error {version : FormVersion D}
    {answers : List (ApplicationAnswerInput ApplicationId)}
    {optionSource : ApplicationAnswerOptionSource} {mode : ApplicationAnswerValidationMode}
    {error : ApplicationAnswerError}
    (h : validateTakenAnswers version answers optionSource mode = .error error)
    (hcode : error.code.isEffective = true) :
    ShapesValid version optionSource answers ∧
      validateEffectiveState version.definition (takenAnswerTo answers)
        (answers.map (·.answered)) mode = .error error := by
  rcases bind_eq_error.mp h with h | ⟨_, hshapes, heffective⟩
  · obtain ⟨answer, -, h⟩ := checkEach_eq_error h
    rcases bind_eq_error.mp h with h | ⟨_, -, h⟩
    · obtain ⟨-, rfl⟩ := orRefuse_eq_error.mp h
      cases hcode
    · rw [validateTakenAnswerShape_not_effective h] at hcode
      cases hcode
  · refine ⟨fun answer hanswer => ?_, heffective⟩
    have hanswer := checkEach_eq_ok.mp hshapes answer hanswer
    simpa only [bind_eq_ok, orRefuse_eq_ok] using hanswer

/-- What prepared answers are made of. -/
structure PreparedFrom (version : FormVersion D) (optionSource : ApplicationAnswerOptionSource)
    (mode : ApplicationAnswerValidationMode)
    (answers : List (ApplicationAnswerInput ApplicationId))
    (prepared : PreparedApplicationAnswers D) : Prop where
  valid : validateTakenAnswers version answers optionSource mode = .ok ()
  payloads : prepared.payloads.map (fun payload => (payload.fieldId, payload.kind)) ~
    answers.filterMap fun answer =>
      answer.content.governedKind.map fun kind => (answer.fieldId, kind)
  entries : prepared.structuralEntries ~ answers.filterMap fun answer =>
    answer.content.structuralEntry.map fun content =>
      { fieldId := answer.fieldId, content }
  fieldIds : prepared.answeredFieldIds = (answers.map (·.fieldId)).sortByKey id

theorem prepareApplicationAnswers_eq_ok {host : AnswerHost D}
    {raw : List (ApplicationAnswerInput String)} {version : FormVersion D}
    {optionSource : ApplicationAnswerOptionSource} {mode : ApplicationAnswerValidationMode}
    {owner : ApplicationAnswerOwner D} {prepared : PreparedApplicationAnswers D}
    (h : prepareApplicationAnswers host raw version optionSource mode owner = .ok prepared) :
    ∃ answers, takenAnswers host raw = some answers ∧
      PreparedFrom version optionSource mode answers prepared := by
  simp only [prepareApplicationAnswers, bind_eq_ok, require_eq_ok, orRefuse_eq_ok,
    mapError_eq_ok, pure_eq_ok] at h
  obtain ⟨-, -, answers, hanswers, _, hvalid, payloads, hpayloads, rfl⟩ := h
  refine ⟨answers, hanswers, hvalid, ?_, perm_sortByKey _ _, rfl⟩
  have hkeys : payloads.map (fun payload => (payload.fieldId, payload.kind)) =
      (answers.filterMap fun answer => answer.content.governedKind.map fun kind =>
        (answer, kind)).map fun pair => (pair.1.fieldId, pair.2) := by
    refine Keyed.map_eq_of_forall₂ (fun pair payload hpayload => ?_)
      (forall₂_of_mapM_eq_ok hpayloads)
    simp only [preparePayload, bind_eq_ok, pure_eq_ok] at hpayload
    obtain ⟨bytes, -, rfl⟩ := hpayload
    rfl
  refine ((perm_sortByKey _ payloads).map _).trans ?_
  rw [hkeys, map_filterMap]
  simp only [Option.map_map]
  exact .refl _

theorem prepareApplicationAnswers_eq_error {host : AnswerHost D}
    {raw : List (ApplicationAnswerInput String)} {version : FormVersion D}
    {optionSource : ApplicationAnswerOptionSource} {mode : ApplicationAnswerValidationMode}
    {owner : ApplicationAnswerOwner D} {error : ApplicationAnswerError}
    (h : prepareApplicationAnswers host raw version optionSource mode owner =
      .error (.answer error)) :
    ∃ answers, takenAnswers host raw = some answers ∧
      validateTakenAnswers version answers optionSource mode = .error error := by
  rcases bind_eq_error.mp h with h | ⟨_, -, h⟩
  · cases (require_eq_error.mp h).2
  rcases bind_eq_error.mp h with h | ⟨answers, hanswers, h⟩
  · cases (orRefuse_eq_error.mp h).2
  refine ⟨answers, orRefuse_eq_ok.mp hanswers, ?_⟩
  rcases bind_eq_error.mp h with h | ⟨_, -, h⟩
  · cases hvalid : validateTakenAnswers version answers optionSource mode with
    | ok _ =>
      rw [hvalid] at h
      cases h
    | error error' =>
      rw [hvalid] at h
      cases h
      rfl
  · rcases bind_eq_error.mp h with h | ⟨_, -, h⟩
    · obtain ⟨⟨answer, kind⟩, -, h⟩ := mapM_eq_error h
      rcases bind_eq_error.mp h with h | ⟨_, -, h⟩
      · cases hcontent : answer.content with
        | number value =>
          rw [hcontent, AnswerInputContent.bytes] at h
          cases hbytes : encodeCanonicalJson host.nfc (.number value) with
          | ok _ =>
            rw [hbytes] at h
            cases h
          | error _ =>
            rw [hbytes] at h
            cases h
        | line _ _ | date _ | datetime _ | select _ | multiselect _ | checkbox _ =>
          rw [hcontent] at h
          cases h
      · cases h
    · cases h

def adoptedRef (adopted : List (ApplicationId × String)) (fieldId : ApplicationId) :
    ApplicationId :=
  ((adopted.find? fun entry => entry.1 = fieldId).bind fun entry =>
    if h : isApplicationId entry.2 = true then some ⟨entry.2, h⟩ else none).getD
      (ApplicationId.ofNat 0)

theorem payloadEntry_eq_ok {adopted : List (ApplicationId × String)}
    {payload : PreparedApplicationAnswerPayload D} {entry : ApplicationAnswerIndexEntry}
    (h : payloadEntry adopted payload = .ok entry) :
    entry = { fieldId := payload.fieldId
              content := .governed payload.kind (adoptedRef adopted payload.fieldId) } := by
  simp only [payloadEntry, bind_eq_ok, orRefuse_eq_ok, require_eq_ok, Option.map_eq_some_iff] at h
  obtain ⟨_, ⟨found, hfound, rfl⟩, -, -, h⟩ := h
  split at h
  · next hid =>
    obtain rfl := pure_eq_ok.mp h
    rw [adoptedRef, hfound, Option.bind_some, dif_pos hid, Option.getD_some]
  · cases h

theorem perm_filterMap_append {α β : Type} {f g : α → Option β} {e : α → β}
    (h : ∀ a, f a = some (e a) ∧ g a = none ∨ f a = none ∧ g a = some (e a)) :
    ∀ as : List α, as.filterMap f ++ as.filterMap g ~ as.map e
  | [] => .nil
  | a :: as => by
    rcases h a with ⟨hf, hg⟩ | ⟨hf, hg⟩
    · rw [filterMap_cons_some hf, filterMap_cons_none hg, map_cons, cons_append]
      exact (perm_filterMap_append h as).cons _
    · rw [filterMap_cons_none hf, filterMap_cons_some hg, map_cons]
      exact perm_middle.trans ((perm_filterMap_append h as).cons _)

theorem finalizeGovernedAnswerIndex_eq_ok {Receipt : Type}
    {openReceipt : Receipt → PreparedApplicationAnswerPayload D → Option String}
    {issued : Bool} {prepared : PreparedApplicationAnswers D} {adoptions : List Receipt}
    {index : List ApplicationAnswerIndexEntry} {version : FormVersion D}
    {optionSource : ApplicationAnswerOptionSource} {mode : ApplicationAnswerValidationMode}
    {answers : List (ApplicationAnswerInput ApplicationId)} (htaken : Taken answers)
    (hprepared : PreparedFrom version optionSource mode answers prepared)
    (h : finalizeGovernedAnswerIndex openReceipt issued prepared adoptions = .ok index) :
    ∃ refs, index = governedIndex refs answers := by
  simp only [finalizeGovernedAnswerIndex, bind_eq_ok, require_eq_ok, pure_eq_ok] at h
  obtain ⟨-, -, adopted, -, -, -, governed, hgoverned, -, -, rfl⟩ := h
  refine ⟨adoptedRef adopted, ?_⟩
  have hentries : governed = (prepared.payloads.map fun payload =>
      (payload.fieldId, payload.kind)).map fun pair => { fieldId := pair.1
                                                         content := .governed pair.2
                                                           (adoptedRef adopted pair.1) } := by
    have hmap := Keyed.map_eq_of_forall₂ (fun payload entry hentry => payloadEntry_eq_ok hentry)
      (forall₂_of_mapM_eq_ok hgoverned)
    rw [map_map]
    exact (map_id governed).symm.trans hmap
  have hperm : prepared.structuralEntries ++ governed ~
      answers.map (·.entry (adoptedRef adopted)) := by
    rw [hentries]
    refine (hprepared.entries.append (hprepared.payloads.map _)).trans ?_
    rw [map_filterMap]
    refine perm_filterMap_append (fun answer => ?_) answers
    cases answer with
    | mk fieldId content =>
      cases content with
      | line _ _ | number _ | date _ | datetime _ => exact .inr ⟨rfl, rfl⟩
      | select _ | multiselect _ | checkbox _ => exact .inl ⟨rfl, rfl⟩
  exact (sortByKey_eq_of_perm htaken.entries_nodup hperm.symm).symm

end JooEvents
