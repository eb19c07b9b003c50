import JooEvents.Intake.Applications

/-!
# Replays and corrections

The twenty equations that a replay checks are implied by what a parsed plan of a submission says,
so the stored records answer a replay with the receipt of the plan (`replay_of_submit`). The
receipt of a replay is determined by the draft alone (`receipt_of_replay`).

The correction of a save goes back to the revision before it, but not to its version : the
corrected draft and the revision it names have different versions, and no save and no submission
of it is planned any more (`correction_unusable`).
-/

namespace JooEvents

open Fallible

variable {D : Type} {host : Host D}

theorem parseApplicationDraftHead_eq_ok {head parsed : ApplicationDraftHead D} :
    parseApplicationDraftHead head = .ok parsed ↔
      applicationDraftHeadSchema head = true ∧ head = parsed := by
  simp [parseApplicationDraftHead]

theorem parseApplicationDraftRevision_eq_ok {revision parsed : ApplicationDraftRevision D} :
    parseApplicationDraftRevision revision = .ok parsed ↔
      applicationDraftRevisionSchema revision = true ∧ revision = parsed := by
  simp [parseApplicationDraftRevision]

theorem parseSubmissionSubmitEvidence_eq_ok {evidence parsed : SubmissionSubmitEvidence D} :
    parseSubmissionSubmitEvidence host evidence = .ok parsed ↔
      submissionSubmitEvidenceSchema host evidence = true ∧ evidence = parsed := by
  simp [parseSubmissionSubmitEvidence]

theorem answerIndexDigest_eq_ok {answers : List ApplicationAnswerIndexEntry} {digest : D} :
    answerIndexDigest host answers = .ok digest ↔
      applicationAnswerIndexSchema answers = true ∧ host.digest answers = digest := by
  simp [answerIndexDigest]

/-- The receipt that a draft leaves open no part of. -/
def ReceiptOf (draft : ApplicationDraftHead D) (receipt : PublicApplicationSubmitReceipt) : Prop :=
  draft.submittedSubmissionId = some receipt.submissionId ∧ receipt.formId = draft.formId ∧
    receipt.formVersionId = draft.formVersionId ∧ receipt.submittedAt = draft.updatedAt

theorem ReceiptOf.unique {draft : ApplicationDraftHead D}
    {receipt receipt' : PublicApplicationSubmitReceipt} (h : ReceiptOf draft receipt)
    (h' : ReceiptOf draft receipt') : receipt = receipt' := by
  obtain ⟨submissionId, formId, formVersionId, submittedAt⟩ := receipt
  obtain ⟨submissionId', formId', formVersionId', submittedAt'⟩ := receipt'
  obtain ⟨hid, rfl, rfl, rfl⟩ := h
  obtain ⟨hid', rfl, rfl, rfl⟩ := h'
  simp only at hid hid'
  rw [Option.some.inj (hid.symm.trans hid')]

variable [DecidableEq D]

theorem parseApplicationMutationPlan_eq_ok {plan parsed : ApplicationMutationPlan D} :
    parseApplicationMutationPlan host plan = .ok parsed ↔
      parsePlanRecords host plan = .ok () ∧
        assertApplicationMutationPlanShape host plan = .ok () ∧ plan = parsed := by
  simp only [parseApplicationMutationPlan, mapError_eq_ok, bind_eq_ok, pure_eq_ok]
  constructor
  · rintro ⟨_, hrecords, _, hshape, heq⟩
    exact ⟨hrecords, hshape, heq⟩
  · rintro ⟨hrecords, hshape, heq⟩
    exact ⟨(), hrecords, (), hshape, heq⟩

/-- A revision that is current for a head. -/
structure IsCurrentRevision (host : Host D) (head : ApplicationDraftHead D)
    (revision : ApplicationDraftRevision D) : Prop where
  id : head.currentRevisionId = revision.id
  draft : head.id = revision.draftId
  version : head.version = revision.version
  digest : revision.answersDigestSha256 = host.digest revision.answers

theorem IsCurrentRevision.of_assert {head : ApplicationDraftHead D}
    {revision : ApplicationDraftRevision D}
    (h : assertCurrentRevision host head revision = .ok ()) :
    IsCurrentRevision host head revision := by
  simp only [assertCurrentRevision, bind_eq_ok, answerIndexDigest_eq_ok, require_eq_ok] at h
  obtain ⟨_, ⟨-, rfl⟩, _, ⟨hid, hdraft, hversion, -, hdigest⟩, -⟩ := h
  exact ⟨hid, hdraft, hversion, hdigest⟩

/-- What is kept of a head, and the revision that was current for it. -/
structure Advances (host : Host D) (beforeHead afterHead : ApplicationDraftHead D)
    (beforeRevision : ApplicationDraftRevision D) : Prop where
  current : IsCurrentRevision host beforeHead beforeRevision
  id : afterHead.id = beforeHead.id
  scope : afterHead.scope = beforeHead.scope
  form : afterHead.formId = beforeHead.formId
  formVersion : afterHead.formVersionId = beforeHead.formVersionId
  version : afterHead.version.val = beforeHead.version.val + 1

theorem Advances.of_assert {beforeHead afterHead : ApplicationDraftHead D}
    {beforeRevision : ApplicationDraftRevision D}
    (h : assertAdvancedHead host beforeHead afterHead beforeRevision = .ok ()) :
    Advances host beforeHead afterHead beforeRevision := by
  simp only [assertAdvancedHead, bind_eq_ok, require_eq_ok] at h
  obtain ⟨_, hcurrent, -, hid, hscope, hform, hformVersion, -, -, hversion, -⟩ := h
  exact ⟨IsCurrentRevision.of_assert hcurrent, hid, hscope, hform, hformVersion, hversion⟩

/-! ## Replays -/

theorem replay_of_submit {plan : ApplicationSubmitPlan D}
    {parsed : ApplicationMutationPlan D}
    (h : parseApplicationMutationPlan host (.submit plan) = .ok parsed) :
    validateApplicationSubmitReplay host plan.afterHead plan.sourceRevision plan.submission
      plan.submitEvidence = .ok plan.result := by
  obtain ⟨hrecords, hshape, -⟩ := parseApplicationMutationPlan_eq_ok.mp h
  simp only [parsePlanRecords, bind_eq_ok, parseApplicationDraftHead_eq_ok,
    parseApplicationDraftRevision_eq_ok, parseSubmissionSubmitEvidence_eq_ok, pure_eq_ok] at hrecords
  obtain ⟨_, -, _, ⟨hrevision, -⟩, _, ⟨hhead, -⟩, _, ⟨hevidence, -⟩, -⟩ := hrecords
  simp only [assertApplicationMutationPlanShape, assertSubmitShape, bind_eq_ok] at hshape
  obtain ⟨_, hadvances, _, hsubmit, -⟩ := hshape
  have hadvances := Advances.of_assert hadvances
  simp only [assertSubmitRecords, bind_eq_ok, answerIndexDigest_eq_ok, require_eq_ok] at hsubmit
  obtain ⟨_, ⟨hschema, rfl⟩, hstatus, hlinked, hrevisionId, hupdated, hscope, hform, hformVersion,
    -, hevidenceId, hsubmission, hdraft, hdraftRevision, hevidenceVersion, -, hdigest, hanswers,
    htime, -, -, -, hresult⟩ := hsubmit
  obtain ⟨⟨hid, hdraftId, hversion, hrevisionDigest⟩, hafterId, hafterScope, hafterForm,
    hafterFormVersion, hafterVersion⟩ := hadvances
  rw [validateApplicationSubmitReplay, parseApplicationDraftHead_eq_ok.mpr ⟨hhead, rfl⟩, ok_bind,
    parseApplicationDraftRevision_eq_ok.mpr ⟨hrevision, rfl⟩, ok_bind,
    parseSubmissionSubmitEvidence_eq_ok.mpr ⟨hevidence, rfl⟩, ok_bind,
    answerIndexDigest_eq_ok.mpr ⟨hschema, rfl⟩, ok_bind, require_true, ok_bind]
  · obtain ⟨hresultId, hresultForm, hresultVersion, hresultTime⟩ := hresult
    rw [pure_eq_ok]
    rw [← hresultId, ← hresultForm, ← hresultVersion, ← hresultTime]
  · refine ⟨hstatus, hlinked, hrevisionId.trans hid, ?_, ?_, hevidenceId, hsubmission, ?_,
      hdraftRevision, ?_, hevidenceVersion, ?_, hdigest, hanswers, htime, htime.trans hupdated.symm,
      ?_, ?_, hscope.trans hafterScope.symm⟩
    · rw [← hdraftId, hafterId]
    · rw [← hversion, hafterVersion, Nat.add_sub_cancel]
    · rw [hdraft, hafterId]
    · rw [hevidenceVersion, hformVersion, hafterFormVersion]
    · rw [hdigest, hrevisionDigest]
    · rw [hform, hafterForm]
    · rw [hformVersion, hafterFormVersion]

theorem receipt_of_replay {draft : ApplicationDraftHead D}
    {revision : ApplicationDraftRevision D} {submission : SubmissionHead}
    {evidence : SubmissionSubmitEvidence D} {receipt : PublicApplicationSubmitReceipt}
    (h : validateApplicationSubmitReplay host draft revision submission evidence = .ok receipt) :
    ReceiptOf draft receipt ∧ draft.submittedSubmissionId = some submission.id ∧
      receipt.formId = submission.formId ∧ receipt.formVersionId = submission.formVersionId ∧
      receipt.submittedAt = submission.submittedAt := by
  simp only [validateApplicationSubmitReplay, bind_eq_ok, parseApplicationDraftHead_eq_ok,
    parseApplicationDraftRevision_eq_ok, parseSubmissionSubmitEvidence_eq_ok,
    answerIndexDigest_eq_ok, require_eq_ok, pure_eq_ok] at h
  obtain ⟨_, ⟨-, rfl⟩, _, ⟨-, rfl⟩, _, ⟨-, rfl⟩, _, ⟨-, rfl⟩, _, ⟨-, hlinked, -, -, -, -, -, -, -,
    -, -, -, -, -, htime, hupdated, hform, hformVersion, -⟩, rfl⟩ := h
  exact ⟨⟨hlinked, hform, hformVersion, htime.symm.trans hupdated⟩, hlinked, rfl, rfl, rfl⟩

theorem result_of_planApplicationSubmit {input : ApplicationSubmitInput D}
    {plan : ApplicationSubmitPlan D} (h : planApplicationSubmit host input = .ok plan) :
    plan.result = { submissionId := input.identities.submissionId
                    formId := input.draftHead.formId
                    formVersionId := input.draftHead.formVersionId
                    submittedAt := input.submittedAt } := by
  simp only [planApplicationSubmit, parseFormDefinitionHead, parseFormVersion,
    parseSubmitIdentities, bind_eq_ok, require_eq_ok, pure_eq_ok, parseApplicationDraftHead_eq_ok,
    parseApplicationDraftRevision_eq_ok] at h
  obtain ⟨_, ⟨_, -, rfl⟩, _, ⟨_, -, rfl⟩, _, ⟨-, rfl⟩, _, ⟨-, rfl⟩, _, -, _, -, _, -, _,
    ⟨_, -, rfl⟩, _, -, _, -, _, -, _, -, _, -, _, -, _, -, _, -, rfl⟩ := h
  rfl

/-- The planned submission is answered on a replay with its receipt, and no two replays of one
draft are answered differently. -/
theorem submit_replay (host : Host D) :
    (∀ input plan parsed, planApplicationSubmit host input = .ok plan →
      parseApplicationMutationPlan host (.submit plan) = .ok parsed →
        validateApplicationSubmitReplay host plan.afterHead plan.sourceRevision plan.submission
            plan.submitEvidence = .ok plan.result ∧
          plan.result = { submissionId := input.identities.submissionId
                          formId := input.draftHead.formId
                          formVersionId := input.draftHead.formVersionId
                          submittedAt := input.submittedAt }) ∧
    (∀ draft revision submission evidence receipt,
      validateApplicationSubmitReplay host draft revision submission evidence = .ok receipt →
        draft.submittedSubmissionId = some submission.id ∧
          receipt.submissionId = submission.id ∧ receipt.formId = submission.formId ∧
          receipt.formVersionId = submission.formVersionId ∧
          receipt.submittedAt = submission.submittedAt) ∧
    ∀ draft revision submission evidence receipt revision' submission' evidence' receipt',
      validateApplicationSubmitReplay host draft revision submission evidence = .ok receipt →
      validateApplicationSubmitReplay host draft revision' submission' evidence' = .ok receipt' →
        receipt = receipt' := by
  refine ⟨fun input plan parsed hplan hparse =>
      ⟨replay_of_submit hparse, result_of_planApplicationSubmit hplan⟩,
    fun draft revision submission evidence receipt h => ?_,
    fun draft _ _ _ receipt _ _ _ receipt' h h' =>
      (receipt_of_replay h).1.unique (receipt_of_replay h').1⟩
  obtain ⟨hreceipt, hlinked, hform, hformVersion, htime⟩ := receipt_of_replay h
  exact ⟨hlinked, Option.some.inj (hreceipt.1.symm.trans hlinked), hform, hformVersion, htime⟩

/-! ## Corrections -/

theorem assertDraftContext_ne_ok {head : ApplicationDraftHead D}
    {revision : ApplicationDraftRevision D} (h : revision.version ≠ head.version)
    {formVersion : FormVersion D} {expectedDraftVersion : ℕ} {digest : D} {u : Unit} :
    assertDraftContext head revision formVersion expectedDraftVersion digest ≠ .ok u := by
  intro hcontext
  simp only [assertDraftContext, bind_eq_ok, require_eq_ok] at hcontext
  obtain ⟨_, -, _, -, _, -, _, -, -, -, hversion⟩ := hcontext
  exact h hversion

/-- A draft is usable with a revision : its context is accepted, for the form version it is of. -/
def UsableDraft (head : ApplicationDraftHead D) (revision : ApplicationDraftRevision D) : Prop :=
  ∃ formVersion : FormVersion D, assertDraftContext head revision formVersion head.version.val
    head.authorityPartitionDigestSha256 = .ok ()

/-- The correction of a save whose head is still current gives back a usable draft, with the
revision that the corrected head names. -/
def CorrectionUsable (host : Host D) (plan : ApplicationDraftSavePlan D) (correctedAt : Instant) :
    Prop :=
  ∃ restoredHead retainedRevisionId,
    deriveApplicationCorrection host (.save plan) (some plan.afterHead) correctedAt =
        .ok (.semantic restoredHead retainedRevisionId) ∧
      restoredHead.currentRevisionId = plan.beforeRevision.id ∧
      UsableDraft restoredHead plan.beforeRevision

theorem restored_of_correction {plan : ApplicationDraftSavePlan D}
    (hadvances : Advances host plan.beforeHead plan.afterHead plan.beforeRevision)
    {currentHead : Option (ApplicationDraftHead D)} {correctedAt : Instant}
    {restoredHead : ApplicationDraftHead D} {retainedRevisionId : ApplicationId}
    (h : deriveApplicationCorrection host (.save plan) currentHead correctedAt =
      .ok (.semantic restoredHead retainedRevisionId)) :
    restoredHead.currentRevisionId = plan.beforeRevision.id ∧
      restoredHead.version.val = plan.beforeRevision.version.val + 2 := by
  simp only [deriveApplicationCorrection, correctionOf] at h
  split_ifs at h
  · simp only [nextDraftVersion, bind_eq_ok, orRefuse_eq_ok, parseApplicationDraftHead_eq_ok,
      pure_eq_ok, ApplicationCorrectionDerivation.semantic.injEq] at h
    obtain ⟨version, hversion, _, ⟨-, rfl⟩, rfl, -⟩ := h
    refine ⟨hadvances.current.id, ?_⟩
    rw [val_of_nextAggregateVersion hversion, hadvances.version, hadvances.current.version]
  · cases h

/-- No correction of a parsed save plan is usable, and no save and no submission of the corrected
draft is planned. -/
theorem correction_unusable {plan : ApplicationDraftSavePlan D}
    {parsed : ApplicationMutationPlan D}
    (h : parseApplicationMutationPlan host (.save plan) = .ok parsed) (correctedAt : Instant) :
    ¬ CorrectionUsable host plan correctedAt ∧
      ∀ restoredHead retainedRevisionId,
        deriveApplicationCorrection host (.save plan) (some plan.afterHead) correctedAt =
          .ok (.semantic restoredHead retainedRevisionId) →
        (∀ input saved, input.draftHead = restoredHead →
          input.currentRevision = plan.beforeRevision →
          planApplicationDraftSave host input ≠ .ok saved) ∧
        ∀ input submitted, input.draftHead = restoredHead →
          input.currentRevision = plan.beforeRevision →
          planApplicationSubmit host input ≠ .ok submitted := by
  obtain ⟨-, hshape, -⟩ := parseApplicationMutationPlan_eq_ok.mp h
  simp only [assertApplicationMutationPlanShape, assertSaveShape, bind_eq_ok] at hshape
  obtain ⟨_, hadvances, -⟩ := hshape
  have hadvances := Advances.of_assert hadvances
  have hne : ∀ {restoredHead retainedRevisionId},
      deriveApplicationCorrection host (.save plan) (some plan.afterHead) correctedAt =
        .ok (.semantic restoredHead retainedRevisionId) →
      plan.beforeRevision.version ≠ restoredHead.version := by
    intro restoredHead retainedRevisionId hderive heq
    have hversion := (restored_of_correction hadvances hderive).2
    rw [← heq] at hversion
    omega
  refine ⟨?_, fun restoredHead retainedRevisionId hderive =>
    ⟨fun input saved hhead hrevision hsave => ?_, fun input submitted hhead hrevision hsubmit => ?_⟩⟩
  · rintro ⟨restoredHead, retainedRevisionId, hderive, -, formVersion, hcontext⟩
    exact assertDraftContext_ne_ok (hne hderive) hcontext
  · simp only [planApplicationDraftSave, bind_eq_ok, parseApplicationDraftHead_eq_ok,
      parseApplicationDraftRevision_eq_ok] at hsave
    obtain ⟨_, -, _, -, _, ⟨-, rfl⟩, _, ⟨-, rfl⟩, _, -, _, hcontext, -⟩ := hsave
    rw [hhead, hrevision] at hcontext
    exact assertDraftContext_ne_ok (hne hderive) hcontext
  · simp only [planApplicationSubmit, bind_eq_ok, parseApplicationDraftHead_eq_ok,
      parseApplicationDraftRevision_eq_ok] at hsubmit
    obtain ⟨_, -, _, -, _, ⟨-, rfl⟩, _, ⟨-, rfl⟩, _, -, _, hcontext, -⟩ := hsubmit
    rw [hhead, hrevision] at hcontext
    exact assertDraftContext_ne_ok (hne hderive) hcontext

/-! ## An example -/

namespace ApplicationExample

theorem isFieldKey_email : isDottedIdentifier "email" = true ∧ textLength "email" ≤ 160 := by decide

def version : FormVersion SymbolicDigest :=
  { id := .ofNat 1
    formId := .ofNat 2
    scope := { workspaceId := .ofNat 3, eventId := .ofNat 4 }
    number := .one
    sourceDefinitionVersion := .one
    sourceDefinitionDigestSha256 := .null
    registryPin := { version := .one, digestSha256 := .null }
    definitionDigestSha256 := .null
    definition :=
      { name := "Talks"
        target := .general_pool
        availability := .evergreen
        confirmation := ""
        fields :=
          [{ id := .ofNat 5
             sourceFieldVersion := .one
             key := ⟨"email", isFieldKey_email⟩
             mapsTo := some .person_email
             purpose := .ordinary
             answerOwner := .person
             group := .contact
             constraints := { removal := .forbidden, applyVisibility := .required_visible }
             label := "Email"
             help := none
             required := true
             initiallyVisible := true
             position := 0
             shape := .line .email }]
        rules := [] }
    targetPin := none
    deadlinePin := none
    publishedByUserId := .ofNat 6
    publishedAt := .yearStart 2025 }

def formHead : FormDefinitionHead :=
  { id := .ofNat 2, scope := version.scope, version := .one, status := .open
    currentPublishedVersionId := some version.id
    definition :=
      { name := "Talks", target := .general_pool, availability := .evergreen, confirmation := ""
        composition :=
          { excludedFieldIds := [], requiredOverrides := .empty, optionExposure := .empty }
        rules := [] }
    createdByUserId := .ofNat 6, createdAt := .yearStart 2025, updatedByUserId := .ofNat 6
    updatedAt := .yearStart 2025 }

def context (action : PublicInputPolicyAction) (time : Instant) :
    PublicInputPolicyEvaluationContext SymbolicDigest :=
  { scope := version.scope, action, requestDigestSha256 := .null, evaluatedAt := time }

def allowed (action : PublicInputPolicyAction) (time : Instant) :
    PublicInputPolicyDecisionEvidence SymbolicDigest :=
  let evidence : PublicInputPolicyDecisionEvidence SymbolicDigest :=
    { evaluationId := .ofNat 7, policy := { key := ⟨"open", by decide⟩, version := .one }
      disposition := .allow, reasonCode := none, remedyCode := none, requestDigestSha256 := .null
      evaluatedAt := time, evidenceDigestSha256 := .null }
  { evidence with
    evidenceDigestSha256 := inputPolicyEvidenceDigest SymbolicDigest.host (context action time) evidence }

def second : Version := ⟨2, isPositiveSafe_two⟩

def answers : List ApplicationAnswerIndexEntry := [⟨.ofNat 5, .governed (.line .email) (.ofNat 8)⟩]

def begun : ApplicationDraftHead SymbolicDigest :=
  { id := .ofNat 9, scope := version.scope, formId := version.formId, formVersionId := version.id
    authorityPartitionDigestSha256 := .null, version := .one, currentRevisionId := .ofNat 10
    status := .in_progress, submittedSubmissionId := none, createdAt := .yearStart 2026
    updatedAt := .yearStart 2026 }

def firstRevision : ApplicationDraftRevision SymbolicDigest :=
  { id := .ofNat 10, draftId := begun.id, version := .one, sourceExpectedDraftVersion := 0
    requestDigestSha256 := .null
    answersDigestSha256 := SymbolicDigest.host.digest ([] : List ApplicationAnswerIndexEntry)
    answers := [], admissibilityDeadlinePin := none
    inputPolicy := allowed .application_draft_begin (.yearStart 2026)
    savedAt := .yearStart 2026 }

def saved : ApplicationDraftHead SymbolicDigest :=
  { begun with version := second, currentRevisionId := .ofNat 11, updatedAt := .yearStart 2027 }

def secondRevision : ApplicationDraftRevision SymbolicDigest :=
  { id := .ofNat 11, draftId := begun.id, version := second, sourceExpectedDraftVersion := 1
    requestDigestSha256 := .null, answersDigestSha256 := SymbolicDigest.host.digest answers
    answers, admissibilityDeadlinePin := none
    inputPolicy := allowed .application_draft_save (.yearStart 2027)
    savedAt := .yearStart 2027 }

def savePlan : ApplicationDraftSavePlan SymbolicDigest :=
  { formDefinitionVersion := .one
    formVersionDigestSha256 := SymbolicDigest.host.digest version
    beforeHead := begun, beforeRevision := firstRevision, afterHead := saved
    afterRevision := secondRevision }

def submitInput : ApplicationSubmitInput SymbolicDigest :=
  { formHead, formVersion := version
    collection :=
      { resolveActiveCategory := fun _ _ _ => none
        resolveCollectingSession := fun _ _ => none
        resolveCurrentDeadline := fun _ _ => none
        readLiveOptions := fun _ _ => [] }
    draftHead := saved, currentRevision := secondRevision, expectedDraftVersion := 2
    expectedAuthorityPartitionDigestSha256 := .null, requestDigestSha256 := .null
    inputPolicy := some
      { context := context .application_submit (.yearStart 2028)
        evidence := allowed .application_submit (.yearStart 2028) }
    identities :=
      { submissionId := .ofNat 12, submitEvidenceId := .ofNat 13, personId := .ofNat 14
        participantIdentityId := .ofNat 15, participantEvidenceId := .ofNat 16
        consentEvidenceIds := [] }
    submittedAt := .yearStart 2028 }

theorem savePlan_parses :
    (parseApplicationMutationPlan SymbolicDigest.host (.save savePlan)).toBool = true := by
  decide +kernel

/-- The plan of the submission, with its parsed form. -/
def submitted : Except ApplicationError
    (ApplicationSubmitPlan SymbolicDigest × ApplicationMutationPlan SymbolicDigest) := do
  let plan ← planApplicationSubmit SymbolicDigest.host submitInput
  let parsed ← parseApplicationMutationPlan SymbolicDigest.host (.submit plan)
  return (plan, parsed)

theorem submitted_succeeds : submitted.toBool = true := by decide +kernel

example : (planApplicationSubmit SymbolicDigest.host
    { submitInput with expectedDraftVersion := 1 }).toBool = false := by decide +kernel

end ApplicationExample

/-- A submission that is planned, parsed and replayed. -/
theorem submit_replay_email :
    ∃ plan, planApplicationSubmit SymbolicDigest.host ApplicationExample.submitInput = .ok plan ∧
      validateApplicationSubmitReplay SymbolicDigest.host plan.afterHead plan.sourceRevision
        plan.submission plan.submitEvidence = .ok plan.result ∧
      plan.result = { submissionId := .ofNat 12, formId := .ofNat 2, formVersionId := .ofNat 1
                      submittedAt := .yearStart 2028 } := by
  obtain ⟨⟨plan, parsed⟩, h⟩ := exists_of_toBool ApplicationExample.submitted_succeeds
  simp only [ApplicationExample.submitted, bind_eq_ok, pure_eq_ok, Prod.mk.injEq] at h
  obtain ⟨_, hplan, _, hparsed, rfl, rfl⟩ := h
  exact ⟨_, hplan, (submit_replay SymbolicDigest.host).1 _ _ _ hplan hparsed⟩

/-- A corrected draft is refused, where it was accepted before the save. -/
theorem correction_of_save_refused :
    (parseApplicationMutationPlan SymbolicDigest.host (.save ApplicationExample.savePlan)).toBool =
        true ∧
      assertDraftContext ApplicationExample.begun ApplicationExample.firstRevision
        ApplicationExample.version 1 .null = .ok () ∧
      ∃ restoredHead retainedRevisionId,
        deriveApplicationCorrection SymbolicDigest.host (.save ApplicationExample.savePlan)
            (some ApplicationExample.saved) (.yearStart 2028) =
          .ok (.semantic restoredHead retainedRevisionId) ∧
        restoredHead.currentRevisionId = ApplicationExample.firstRevision.id ∧
        assertDraftContext restoredHead ApplicationExample.firstRevision
          ApplicationExample.version restoredHead.version.val
          restoredHead.authorityPartitionDigestSha256 = .error (.of .draft_revision_mismatch) := by
  refine ⟨ApplicationExample.savePlan_parses, by decide +kernel,
    { ApplicationExample.begun with version := ⟨3, by decide⟩, updatedAt := .yearStart 2028 },
    .ofNat 11, ?_, rfl, by decide +kernel⟩
  rw [deriveApplicationCorrection, correctionOf]
  exact if_pos rfl

/-- The save of the example can not be corrected so that the draft is usable. -/
theorem correction_unusable_email :
    ¬ CorrectionUsable SymbolicDigest.host ApplicationExample.savePlan (.yearStart 2028) := by
  obtain ⟨parsed, h⟩ := exists_of_toBool ApplicationExample.savePlan_parses
  exact (correction_unusable h (.yearStart 2028)).1

end JooEvents
