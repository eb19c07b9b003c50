import JooEvents.Intake.Submissions
import Mathlib.Data.List.ReduceOption

/-!
# Planning applications

The planner of drafts and submissions. Each plan starts from parsed records : the form must still
collect, the draft must be the one that was asked for, and the input policy must have allowed the
request.
-/

namespace JooEvents

open Fallible

variable {D : Type} [DecidableEq D]

def answerIndexDigest (host : Host D) (answers : List ApplicationAnswerIndexEntry) :
    Except ApplicationError D := do
  require (applicationAnswerIndexSchema answers = true) .thrown
  return host.digest answers

/-- `consentWordingDigest`, of a field that asks for a consent. -/
def consentWordingDigest (host : Host D) (field : FormFieldDefinition)
    (key : FieldRegistryStableKey) : D :=
  host.sha256 <| Json.canonicalize host.nfc <| .obj
    [("help", toJson field.help), ("label", toJson field.label), ("purposeKey", toJson key)]

structure ApplicationCollectionSource (D : Type) extends IntakeFormReferenceSource D where
  readLiveOptions : ApplicationAnswerOptionSource

def parseFormDefinitionHead (host : Host D) (head : FormDefinitionHead) :
    Except ApplicationError FormDefinitionHead := do
  require (formDefinitionHeadSchema host head = true) .thrown
  return head

def parseFormVersion (host : Host D) (version : FormVersion D) :
    Except ApplicationError (FormVersion D) := do
  require (formVersionSchema host version = true) .thrown
  return version

def assertFormMayCollect (head : FormDefinitionHead) (version : FormVersion D) :
    Except ApplicationError Unit := do
  require (head.scope = version.scope ∧ head.id = version.formId) (.of .wrong_scope)
  require (head.status = .open) (.of .form_not_open)
  require (head.currentPublishedVersionId ≠ none) (.of .form_version_mismatch)

/-- `resolveCollectionAdmissibility`, for the draft that is edited or submitted, if there is one. -/
def resolveCollectionAdmissibility (head : FormDefinitionHead) (version : FormVersion D)
    (collection : ApplicationCollectionSource D) (time : Instant)
    (draftHead : Option (ApplicationDraftHead D)) :
    Except ApplicationError (Option (FormDeadlineReferencePin D)) := do
  assertFormMayCollect head version
  let _ ← orRefuse (resolveCurrentTarget version.scope version.definition.target
    collection.toIntakeFormReferenceSource) (.of .target_unavailable)
  match version.definition.availability with
  | .evergreen => return none
  | .deadline deadlineId =>
    let pin ← orRefuse (resolveCurrentDeadline version.scope deadlineId
      collection.toIntakeFormReferenceSource) (.of .deadline_unavailable)
    require (∀ draft ∈ draftHead, ¬ (pin.effectiveAt ≤ time ∧ draft.createdAt < pin.effectiveAt))
      (.of .deadline_edit_locked)
    return some pin

def assertDraftContext (draftHead : ApplicationDraftHead D)
    (currentRevision : ApplicationDraftRevision D) (formVersion : FormVersion D)
    (expectedDraftVersion : ℕ) (expectedAuthorityPartitionDigestSha256 : D) :
    Except ApplicationError Unit := do
  require (draftHead.status ≠ .submitted) (.of .draft_submitted)
  require (draftHead.version.val = expectedDraftVersion) (.of .stale_draft)
  require (draftHead.authorityPartitionDigestSha256 = expectedAuthorityPartitionDigestSha256)
    (.of .wrong_authority_partition)
  require (draftHead.scope = formVersion.scope ∧ draftHead.formId = formVersion.formId ∧
    draftHead.formVersionId = formVersion.id) (.of .form_version_mismatch)
  require (draftHead.currentRevisionId = currentRevision.id ∧
    currentRevision.draftId = draftHead.id ∧ currentRevision.version = draftHead.version)
    (.of .draft_revision_mismatch)

/-- `openPublicInputPolicyDecision` and `openAllowPolicy`. -/
def openAllowPolicy (host : Host D) (decision : SealedPublicInputPolicyDecision D)
    (expected : PublicInputPolicyEvaluationContext D) :
    Except ApplicationError (PublicInputPolicyDecisionEvidence D) := do
  let issued ← orRefuse decision (.of .invalid_input_policy_evidence)
  require (issued.context = expected) (.of .input_policy_mismatch)
  require (inputPolicyEvidenceDigest host issued.context issued.evidence =
    issued.evidence.evidenceDigestSha256) (.of .invalid_input_policy_evidence)
  require (issued.evidence.disposition = .allow) (.of .input_policy_refused)
  return issued.evidence

def assertAnswers (answers : List ApplicationAnswerIndexEntry) (formVersion : FormVersion D)
    (collection : ApplicationCollectionSource D) (mode : ApplicationAnswerValidationMode) :
    Except ApplicationError Unit :=
  (validateGovernedAnswerIndex formVersion answers collection.readLiveOptions mode).mapError
    fun error => .planning .invalid_answers (some error)

/-- The next version of a head, where the schema of versions takes it. -/
def nextDraftVersion (version : Version) : Except ApplicationError Version :=
  orRefuse (nextAggregateVersion version) .thrown

/-- The input of `planApplicationDraftSave`. -/
structure ApplicationDraftSaveInput (D : Type) where
  formHead : FormDefinitionHead
  formVersion : FormVersion D
  collection : ApplicationCollectionSource D
  draftHead : ApplicationDraftHead D
  currentRevision : ApplicationDraftRevision D
  expectedDraftVersion : ℕ
  expectedAuthorityPartitionDigestSha256 : D
  requestDigestSha256 : D
  inputPolicy : SealedPublicInputPolicyDecision D
  answers : List ApplicationAnswerIndexEntry
  revisionId : ApplicationId
  savedAt : Instant

def planApplicationDraftSave (host : Host D) (input : ApplicationDraftSaveInput D) :
    Except ApplicationError (ApplicationDraftSavePlan D) := do
  let formHead ← parseFormDefinitionHead host input.formHead
  let formVersion ← parseFormVersion host input.formVersion
  let beforeHead ← parseApplicationDraftHead input.draftHead
  let beforeRevision ← parseApplicationDraftRevision input.currentRevision
  assertFormMayCollect formHead formVersion
  assertDraftContext beforeHead beforeRevision formVersion input.expectedDraftVersion
    input.expectedAuthorityPartitionDigestSha256
  assertAnswers input.answers formVersion input.collection .draft
  let deadlinePin ← resolveCollectionAdmissibility formHead formVersion input.collection
    input.savedAt (some beforeHead)
  let inputPolicy ← openAllowPolicy host input.inputPolicy
    { scope := formVersion.scope, action := .application_draft_save
      requestDigestSha256 := input.requestDigestSha256, evaluatedAt := input.savedAt }
  let version ← nextDraftVersion beforeHead.version
  let answersDigestSha256 ← answerIndexDigest host input.answers
  let afterRevision ← parseApplicationDraftRevision
    { id := input.revisionId, draftId := beforeHead.id, version
      sourceExpectedDraftVersion := input.expectedDraftVersion
      requestDigestSha256 := input.requestDigestSha256, answersDigestSha256
      answers := input.answers, admissibilityDeadlinePin := deadlinePin, inputPolicy
      savedAt := input.savedAt }
  let afterHead ← parseApplicationDraftHead
    { beforeHead with version, currentRevisionId := afterRevision.id, updatedAt := input.savedAt }
  return { formDefinitionVersion := formHead.version
           formVersionDigestSha256 := host.digest formVersion
           beforeHead, beforeRevision, afterHead, afterRevision }

/-! ## Submitting -/

/-- The fields whose consent is affirmed, in canonical order. -/
def affirmedConsentFieldIds (formVersion : FormVersion D)
    (answers : List ApplicationAnswerIndexEntry) : List ApplicationId :=
  ((answers.filter fun answer => answer.content.checked = some true ∧
    formVersion.definition.isConsent answer.fieldId).map (·.fieldId)).insertionSort (· ≤ ·)

def parseSubmitIdentities (identities : ApplicationSubmitIdentityAssignment)
    (formVersion : FormVersion D) (answers : List ApplicationAnswerIndexEntry) :
    Except ApplicationError ApplicationSubmitIdentityAssignment := do
  let consentEvidenceIds :=
    identities.consentEvidenceIds.insertionSort fun left right => left.fieldId ≤ right.fieldId
  let allIds := [identities.submissionId, identities.submitEvidenceId, identities.personId,
    identities.participantIdentityId, identities.participantEvidenceId] ++
    consentEvidenceIds.map (·.evidenceId)
  require (allIds.Nodup ∧ affirmedConsentFieldIds formVersion answers =
    consentEvidenceIds.map (·.fieldId)) (.of .invalid_submission_identity)
  return { identities with consentEvidenceIds }

/-- The evidence of a consent, where it was affirmed. -/
def submitConsent (host : Host D) (formVersionId : ApplicationId)
    (answers : List ApplicationAnswerIndexEntry)
    (identities : ApplicationSubmitIdentityAssignment) (submittedAt : Instant)
    (field : FormFieldDefinition) :
    Except ApplicationError (Option (SubmissionConsentEvidence D)) :=
  match (answers.find? fun answer => answer.fieldId = field.id).bind (·.content.checked),
      field.purpose with
  | some true, .consent key => do
    let assignment ← orRefuse (identities.consentEvidenceIds.find? fun entry =>
      entry.fieldId = field.id) .thrown
    return some
      { id := assignment.evidenceId, submissionId := identities.submissionId, formVersionId
        fieldId := field.id, wordingDigestSha256 := consentWordingDigest host field key
        recordedAt := submittedAt }
  | _, _ => return none

/-- The input of `planApplicationSubmit`. -/
structure ApplicationSubmitInput (D : Type) where
  formHead : FormDefinitionHead
  formVersion : FormVersion D
  collection : ApplicationCollectionSource D
  draftHead : ApplicationDraftHead D
  currentRevision : ApplicationDraftRevision D
  expectedDraftVersion : ℕ
  expectedAuthorityPartitionDigestSha256 : D
  requestDigestSha256 : D
  inputPolicy : SealedPublicInputPolicyDecision D
  identities : ApplicationSubmitIdentityAssignment
  submittedAt : Instant

def planApplicationSubmit (host : Host D) (input : ApplicationSubmitInput D) :
    Except ApplicationError (ApplicationSubmitPlan D) := do
  let formHead ← parseFormDefinitionHead host input.formHead
  let formVersion ← parseFormVersion host input.formVersion
  let beforeHead ← parseApplicationDraftHead input.draftHead
  let sourceRevision ← parseApplicationDraftRevision input.currentRevision
  assertFormMayCollect formHead formVersion
  assertDraftContext beforeHead sourceRevision formVersion input.expectedDraftVersion
    input.expectedAuthorityPartitionDigestSha256
  assertAnswers sourceRevision.answers formVersion input.collection .submit
  let identities ← parseSubmitIdentities input.identities formVersion sourceRevision.answers
  let submittedAt := input.submittedAt
  let deadlinePin ← resolveCollectionAdmissibility formHead formVersion input.collection
    submittedAt (some beforeHead)
  let inputPolicy ← openAllowPolicy host input.inputPolicy
    { scope := formVersion.scope, action := .application_submit
      requestDigestSha256 := input.requestDigestSha256, evaluatedAt := submittedAt }
  let submission : SubmissionHead :=
    { id := identities.submissionId, scope := beforeHead.scope, formId := beforeHead.formId
      formVersionId := beforeHead.formVersionId, source := .public_form, version := .one
      submitEvidenceId := identities.submitEvidenceId, primaryPersonId := identities.personId
      submittedAt }
  let programVocabularyAnswerPins ← (pinProgramVocabularyAnswers formVersion sourceRevision.answers
    input.collection.readLiveOptions none).mapError fun _ => .thrown
  let answerIndexDigestSha256 ← answerIndexDigest host sourceRevision.answers
  let submitEvidence ← parseSubmissionSubmitEvidence host
    { id := identities.submitEvidenceId, submissionId := submission.id, draftId := beforeHead.id
      draftRevisionId := sourceRevision.id, formVersionId := formVersion.id
      requestDigestSha256 := input.requestDigestSha256, answerIndexDigestSha256
      answers := sourceRevision.answers, programVocabularyAnswerPins
      admissibilityDeadlinePin := deadlinePin, inputPolicy, submittedAt }
  let participant : SubmissionParticipantEvidence :=
    { id := identities.participantEvidenceId, submissionId := submission.id
      personId := identities.personId, participantIdentityId := identities.participantIdentityId
      recordedAt := submittedAt }
  let explicitConsents := (formVersion.definition.fields.filter fun field =>
    field.purpose ≠ .ordinary).insertionSort fun left right => left.id ≤ right.id
  let consents ← explicitConsents.mapM
    (submitConsent host formVersion.id sourceRevision.answers identities submittedAt)
  let version ← nextDraftVersion beforeHead.version
  let afterHead ← parseApplicationDraftHead
    { beforeHead with
      version, status := .submitted, submittedSubmissionId := some submission.id
      updatedAt := submittedAt }
  return { formDefinitionVersion := formHead.version
           formVersionDigestSha256 := host.digest formVersion
           beforeHead, sourceRevision, afterHead, submission, submitEvidence, participant
           consents := consents.reduceOption
           result :=
            { submissionId := submission.id, formId := submission.formId
              formVersionId := submission.formVersionId, submittedAt } }

/-! ## Parsing plans -/

def assertPersistedAllowPolicy (host : Host D) (evidence : PublicInputPolicyDecisionEvidence D)
    (scope : IntakeScope) (action : PublicInputPolicyAction) (requestDigestSha256 : D)
    (evaluatedAt : Instant) : Except ApplicationError Unit := do
  require (inputPolicyEvidenceSchema evidence = true) .thrown
  require (evidence.requestDigestSha256 = requestDigestSha256 ∧
    evidence.evaluatedAt = evaluatedAt ∧
    inputPolicyEvidenceDigest host { scope, action, requestDigestSha256, evaluatedAt } evidence =
      evidence.evidenceDigestSha256) .thrown
  require (evidence.disposition = .allow) .thrown

def assertCurrentRevision (host : Host D) (head : ApplicationDraftHead D)
    (revision : ApplicationDraftRevision D) : Except ApplicationError Unit := do
  let digest ← answerIndexDigest host revision.answers
  require (head.currentRevisionId = revision.id ∧ head.id = revision.draftId ∧
    head.version = revision.version ∧ head.updatedAt = revision.savedAt ∧
    revision.answersDigestSha256 = digest) .thrown
  assertPersistedAllowPolicy host revision.inputPolicy head.scope
    (if revision.sourceExpectedDraftVersion = 0 then .application_draft_begin
      else .application_draft_save) revision.requestDigestSha256 revision.savedAt

def assertBeginShape (host : Host D) (plan : ApplicationDraftBeginPlan D) :
    Except ApplicationError Unit := do
  let head := plan.head
  let revision := plan.revision
  let digest ← answerIndexDigest host revision.answers
  require (head.version = .one ∧ head.status = .in_progress ∧ head.submittedSubmissionId = none ∧
    head.currentRevisionId = revision.id ∧ head.id = revision.draftId ∧
    revision.version = .one ∧ revision.sourceExpectedDraftVersion = 0 ∧ revision.answers = [] ∧
    revision.answersDigestSha256 = digest ∧ head.createdAt = revision.savedAt ∧
    head.updatedAt = revision.savedAt) .thrown
  assertPersistedAllowPolicy host revision.inputPolicy head.scope .application_draft_begin
    revision.requestDigestSha256 revision.savedAt

/-- What a save and a submission keep of the head of a draft. -/
def assertAdvancedHead (host : Host D) (beforeHead afterHead : ApplicationDraftHead D)
    (beforeRevision : ApplicationDraftRevision D) : Except ApplicationError Unit := do
  assertCurrentRevision host beforeHead beforeRevision
  require (beforeHead.status = .in_progress ∧ afterHead.id = beforeHead.id ∧
    afterHead.scope = beforeHead.scope ∧ afterHead.formId = beforeHead.formId ∧
    afterHead.formVersionId = beforeHead.formVersionId ∧
    afterHead.authorityPartitionDigestSha256 = beforeHead.authorityPartitionDigestSha256 ∧
    afterHead.createdAt = beforeHead.createdAt ∧
    afterHead.version.val = beforeHead.version.val + 1 ∧
    beforeHead.updatedAt ≤ afterHead.updatedAt) .thrown

def assertSaveShape (host : Host D) (plan : ApplicationDraftSavePlan D) :
    Except ApplicationError Unit := do
  assertAdvancedHead host plan.beforeHead plan.afterHead plan.beforeRevision
  let revision := plan.afterRevision
  let digest ← answerIndexDigest host revision.answers
  require (plan.afterHead.status = .in_progress ∧ plan.afterHead.submittedSubmissionId = none ∧
    plan.afterHead.currentRevisionId = revision.id ∧ revision.draftId = plan.beforeHead.id ∧
    revision.version = plan.afterHead.version ∧
    revision.sourceExpectedDraftVersion = plan.beforeHead.version.val ∧
    revision.savedAt = plan.afterHead.updatedAt ∧ revision.answersDigestSha256 = digest) .thrown
  assertPersistedAllowPolicy host revision.inputPolicy plan.afterHead.scope
    .application_draft_save revision.requestDigestSha256 revision.savedAt

def assertSubmitRecords (host : Host D) (plan : ApplicationSubmitPlan D) :
    Except ApplicationError Unit := do
  let submission := plan.submission
  let evidence := plan.submitEvidence
  let participant := plan.participant
  let result := plan.result
  let digest ← answerIndexDigest host plan.sourceRevision.answers
  require (plan.afterHead.status = .submitted ∧
    plan.afterHead.submittedSubmissionId = some submission.id ∧
    plan.afterHead.currentRevisionId = plan.beforeHead.currentRevisionId ∧
    plan.afterHead.updatedAt = submission.submittedAt ∧
    submission.scope = plan.beforeHead.scope ∧ submission.formId = plan.beforeHead.formId ∧
    submission.formVersionId = plan.beforeHead.formVersionId ∧ submission.version = .one ∧
    submission.submitEvidenceId = evidence.id ∧ evidence.submissionId = submission.id ∧
    evidence.draftId = plan.beforeHead.id ∧ evidence.draftRevisionId = plan.sourceRevision.id ∧
    evidence.formVersionId = submission.formVersionId ∧
    evidence.requestDigestSha256 = evidence.inputPolicy.requestDigestSha256 ∧
    evidence.answerIndexDigestSha256 = digest ∧
    host.digest evidence.answers = host.digest plan.sourceRevision.answers ∧
    evidence.submittedAt = submission.submittedAt ∧ participant.submissionId = submission.id ∧
    participant.personId = submission.primaryPersonId ∧
    participant.recordedAt = submission.submittedAt ∧ result.submissionId = submission.id ∧
    result.formId = submission.formId ∧ result.formVersionId = submission.formVersionId ∧
    result.submittedAt = submission.submittedAt) .thrown

def assertSubmitShape (host : Host D) (plan : ApplicationSubmitPlan D) :
    Except ApplicationError Unit := do
  assertAdvancedHead host plan.beforeHead plan.afterHead plan.sourceRevision
  assertSubmitRecords host plan
  let evidenceIds := [plan.submission.id, plan.submitEvidence.id, plan.participant.id,
    plan.participant.personId, plan.participant.participantIdentityId] ++ plan.consents.map (·.id)
  require (evidenceIds.Nodup ∧ (plan.consents.map (·.fieldId)).IsChain (· < ·) ∧
    ∀ consent ∈ plan.consents, consent.submissionId = plan.submission.id ∧
      consent.formVersionId = plan.submission.formVersionId ∧
      consent.recordedAt = plan.submission.submittedAt) .thrown
  assertPersistedAllowPolicy host plan.submitEvidence.inputPolicy plan.submission.scope
    .application_submit plan.submitEvidence.requestDigestSha256 plan.submitEvidence.submittedAt

/-- The records of a plan that have a schema are parsed. -/
def parsePlanRecords (host : Host D) : ApplicationMutationPlan D → Except ApplicationError Unit
  | .begin plan => do
    let _ ← parseApplicationDraftHead plan.head
    let _ ← parseApplicationDraftRevision plan.revision
  | .save plan => do
    let _ ← parseApplicationDraftHead plan.beforeHead
    let _ ← parseApplicationDraftRevision plan.beforeRevision
    let _ ← parseApplicationDraftHead plan.afterHead
    let _ ← parseApplicationDraftRevision plan.afterRevision
  | .submit plan => do
    let _ ← parseApplicationDraftHead plan.beforeHead
    let _ ← parseApplicationDraftRevision plan.sourceRevision
    let _ ← parseApplicationDraftHead plan.afterHead
    let _ ← parseSubmissionSubmitEvidence host plan.submitEvidence

def assertApplicationMutationPlanShape (host : Host D) :
    ApplicationMutationPlan D → Except ApplicationError Unit
  | .begin plan => assertBeginShape host plan
  | .save plan => assertSaveShape host plan
  | .submit plan => assertSubmitShape host plan

/-- `parseApplicationMutationPlan`. Whatever a parser throws, the plan is invalid. -/
def parseApplicationMutationPlan (host : Host D) (plan : ApplicationMutationPlan D) :
    Except ApplicationError (ApplicationMutationPlan D) :=
  Except.mapError (fun _ => .of .invalid_plan) <| do
    parsePlanRecords host plan
    assertApplicationMutationPlanShape host plan
    return plan

def validateApplicationSubmitReplay (host : Host D) (draftHead : ApplicationDraftHead D)
    (sourceRevision : ApplicationDraftRevision D) (submission : SubmissionHead)
    (submitEvidence : SubmissionSubmitEvidence D) :
    Except ApplicationError PublicApplicationSubmitReceipt := do
  let draft ← parseApplicationDraftHead draftHead
  let revision ← parseApplicationDraftRevision sourceRevision
  let evidence ← parseSubmissionSubmitEvidence host submitEvidence
  let digest ← answerIndexDigest host revision.answers
  require (draft.status = .submitted ∧ draft.submittedSubmissionId = some submission.id ∧
    draft.currentRevisionId = revision.id ∧ revision.draftId = draft.id ∧
    revision.version.val = draft.version.val - 1 ∧ submission.submitEvidenceId = evidence.id ∧
    evidence.submissionId = submission.id ∧ evidence.draftId = draft.id ∧
    evidence.draftRevisionId = revision.id ∧ evidence.formVersionId = draft.formVersionId ∧
    evidence.formVersionId = submission.formVersionId ∧
    evidence.answerIndexDigestSha256 = revision.answersDigestSha256 ∧
    evidence.answerIndexDigestSha256 = digest ∧
    host.digest evidence.answers = host.digest revision.answers ∧
    evidence.submittedAt = submission.submittedAt ∧ evidence.submittedAt = draft.updatedAt ∧
    submission.formId = draft.formId ∧ submission.formVersionId = draft.formVersionId ∧
    submission.scope = draft.scope) (.of .invalid_plan)
  return { submissionId := submission.id, formId := submission.formId
           formVersionId := submission.formVersionId, submittedAt := submission.submittedAt }

inductive ApplicationCorrectionDerivation (D : Type) where
  | exact
  | semantic (restoredHead : ApplicationDraftHead D) (retainedRevisionId : ApplicationId)
  | later_draft_change
  | submission_immutable

/-- The correction of a plan whose head was written, where it is still current. -/
def correctionOf (host : Host D) (currentHead : Option (ApplicationDraftHead D))
    (after : ApplicationDraftHead D)
    (correction : Except ApplicationError (ApplicationCorrectionDerivation D)) :
    Except ApplicationError (ApplicationCorrectionDerivation D) :=
  if currentHead.map host.digest = some (host.digest after) then correction
  else return .later_draft_change

def deriveApplicationCorrection (host : Host D) (sourcePlan : ApplicationMutationPlan D)
    (currentHead : Option (ApplicationDraftHead D)) (correctedAt : Instant) :
    Except ApplicationError (ApplicationCorrectionDerivation D) :=
  match sourcePlan with
  | .submit _ => return .submission_immutable
  | .begin plan => correctionOf host currentHead plan.head (return .exact)
  | .save plan => correctionOf host currentHead plan.afterHead do
    let version ← nextDraftVersion plan.afterHead.version
    let restoredHead ← parseApplicationDraftHead
      { plan.beforeHead with version, updatedAt := correctedAt }
    return .semantic restoredHead plan.afterRevision.id

end JooEvents
