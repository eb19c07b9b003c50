import JooEvents.Intake.Definition
import JooEvents.Intake.Encoding
import JooEvents.Intake.PublicForm

/-!
# Applications

An application is a draft until it is submitted. The head of a draft names its current revision,
and the two carry the same version and the same time. A save writes a new revision and a new
head, a submission writes the head, the submission and the evidence of it (`ApplicationSubmitPlan`).
A plan is parsed again before it is applied, and its records are compared with each other then
(`assertApplicationMutationPlanShape`).

A submission that is sent again is answered from the stored records
(`validateApplicationSubmitReplay`), and a save can be taken back (`deriveApplicationCorrection`).
-/

namespace JooEvents

open Fallible

variable {D : Type} [DecidableEq D]

/-! ## Input policy -/

/-- The actions that the input policy decides on. -/
inductive PublicInputPolicyAction where
  | application_draft_begin | application_draft_save | application_submit
  deriving DecidableEq

/-- `publicInputPolicyDispositionSchema`. -/
inductive PublicInputPolicyDisposition where
  | allow | throttle | challenge_required | reject
  deriving DecidableEq

structure PublicInputPolicyEvaluationContext (D : Type) where
  scope : IntakeScope
  action : PublicInputPolicyAction
  requestDigestSha256 : D
  evaluatedAt : Instant
  deriving DecidableEq

/-- A policy at a version. -/
structure PublicInputPolicy where
  key : FieldRegistryStableKey
  version : Version

/-- `publicInputPolicyDecisionEvidenceSchema`. -/
structure PublicInputPolicyDecisionEvidence (D : Type) where
  evaluationId : ApplicationId
  policy : PublicInputPolicy
  disposition : PublicInputPolicyDisposition
  reasonCode : Option FieldRegistryStableKey
  remedyCode : Option FieldRegistryStableKey
  requestDigestSha256 : D
  evaluatedAt : Instant
  evidenceDigestSha256 : D

/-- `publicInputPolicyDecisionEvidenceSchema`, on what the type does not say. -/
def inputPolicyEvidenceSchema (evidence : PublicInputPolicyDecisionEvidence D) : Bool :=
  decide (evidence.disposition = .allow →
      evidence.reasonCode = none ∧ evidence.remedyCode = none) &&
    decide (evidence.disposition ≠ .allow → evidence.reasonCode ≠ none)

/-- What was issued for a sealed decision. -/
structure IssuedDecisionRecord (D : Type) where
  context : PublicInputPolicyEvaluationContext D
  evidence : PublicInputPolicyDecisionEvidence D

/-- `SealedPublicInputPolicyDecision` : what was issued for it, if anything was. -/
abbrev SealedPublicInputPolicyDecision (D : Type) := Option (IssuedDecisionRecord D)

instance : AsciiText PublicInputPolicyAction where
  text
    | .application_draft_begin => "application_draft_begin"
    | .application_draft_save => "application_draft_save"
    | .application_submit => "application_submit"
  ascii := AsciiText.ascii_of_values
    [.application_draft_begin, .application_draft_save, .application_submit]
  injective := AsciiText.injective_of_values
    [.application_draft_begin, .application_draft_save, .application_submit]

instance : AsciiText PublicInputPolicyDisposition where
  text
    | .allow => "allow"
    | .throttle => "throttle"
    | .challenge_required => "challenge_required"
    | .reject => "reject"
  ascii := AsciiText.ascii_of_values [.allow, .throttle, .challenge_required, .reject]
  injective := AsciiText.injective_of_values [.allow, .throttle, .challenge_required, .reject]

instance : ToJson D (PublicInputPolicyEvaluationContext D) :=
  ⟨fun context => .obj [("action", toJson context.action),
    ("evaluatedAt", toJson context.evaluatedAt),
    ("requestDigestSha256", .digest context.requestDigestSha256),
    ("scope", toJson context.scope)]⟩

instance : ToJson D PublicInputPolicy :=
  ⟨fun policy => .obj [("key", toJson policy.key), ("version", toJson policy.version)]⟩

/-- `evidenceDigest`, of the input policy. -/
def inputPolicyEvidenceDigest (host : Host D) (context : PublicInputPolicyEvaluationContext D)
    (evidence : PublicInputPolicyDecisionEvidence D) : D :=
  host.sha256 <| Json.canonicalize host.nfc <| .obj
    [("disposition", toJson evidence.disposition), ("evaluationContext", toJson context),
      ("evaluationId", toJson evidence.evaluationId), ("policy", toJson evidence.policy),
      ("reasonCode", toJson evidence.reasonCode), ("remedyCode", toJson evidence.remedyCode),
      ("schemaVersion", toJson (1 : ℕ))]

inductive ApplicationPlanningErrorCode where
  | wrong_scope | form_not_open | form_version_mismatch | target_unavailable
  | deadline_unavailable | deadline_changed | deadline_edit_locked | wrong_authority_partition
  | stale_draft | draft_submitted | draft_revision_mismatch | input_policy_refused
  | input_policy_mismatch | invalid_input_policy_evidence | invalid_answers
  | invalid_submission_identity | direct_entry_title_required | direct_entry_email_required
  | invalid_plan
  deriving DecidableEq

/-- How a function of applications fails : a planning error, or what a parser throws. -/
inductive ApplicationError where
  | planning (code : ApplicationPlanningErrorCode) (answerError : Option ApplicationAnswerError)
  | thrown
  deriving DecidableEq

/-- `new ApplicationPlanningError(code)`. -/
abbrev ApplicationError.of (code : ApplicationPlanningErrorCode) : ApplicationError :=
  .planning code none

/-- `applicationDraftStatusSchema`. -/
inductive ApplicationDraftStatus where
  | in_progress | submitted
  deriving DecidableEq

/-- `applicationDraftHeadSchema`. -/
structure ApplicationDraftHead (D : Type) where
  id : ApplicationId
  scope : IntakeScope
  formId : ApplicationId
  formVersionId : ApplicationId
  authorityPartitionDigestSha256 : D
  version : Version
  currentRevisionId : ApplicationId
  status : ApplicationDraftStatus
  submittedSubmissionId : Option ApplicationId
  createdAt : Instant
  updatedAt : Instant

/-- `applicationDraftHeadSchema`, on what the type does not say. -/
def applicationDraftHeadSchema (head : ApplicationDraftHead D) : Bool :=
  decide (head.status = .submitted ↔ head.submittedSubmissionId ≠ none)

/-- `applicationDraftRevisionSchema`. The version it was saved over is 0 for the first one. -/
structure ApplicationDraftRevision (D : Type) where
  id : ApplicationId
  draftId : ApplicationId
  version : Version
  sourceExpectedDraftVersion : ℕ
  requestDigestSha256 : D
  answersDigestSha256 : D
  answers : List ApplicationAnswerIndexEntry
  admissibilityDeadlinePin : Option (FormDeadlineReferencePin D)
  inputPolicy : PublicInputPolicyDecisionEvidence D
  savedAt : Instant

/-- `applicationDraftRevisionSchema`, on what the type does not say. -/
def applicationDraftRevisionSchema (revision : ApplicationDraftRevision D) : Bool :=
  decide (revision.sourceExpectedDraftVersion ≤ maxSafeInteger) &&
    applicationAnswerIndexSchema revision.answers &&
    inputPolicyEvidenceSchema revision.inputPolicy

def parseApplicationDraftHead (head : ApplicationDraftHead D) :
    Except ApplicationError (ApplicationDraftHead D) := do
  require (applicationDraftHeadSchema head = true) .thrown
  return head

def parseApplicationDraftRevision (revision : ApplicationDraftRevision D) :
    Except ApplicationError (ApplicationDraftRevision D) := do
  require (applicationDraftRevisionSchema revision = true) .thrown
  return revision

instance : AsciiText ApplicationDraftStatus where
  text
    | .in_progress => "in_progress"
    | .submitted => "submitted"
  ascii := AsciiText.ascii_of_values [.in_progress, .submitted]
  injective := AsciiText.injective_of_values [.in_progress, .submitted]

instance : ToJson D (ApplicationDraftHead D) :=
  ⟨fun head => .obj [
    ("authorityPartitionDigestSha256", .digest head.authorityPartitionDigestSha256),
    ("createdAt", toJson head.createdAt), ("currentRevisionId", toJson head.currentRevisionId),
    ("formId", toJson head.formId), ("formVersionId", toJson head.formVersionId),
    ("id", toJson head.id), ("schemaVersion", toJson (1 : ℕ)), ("scope", toJson head.scope),
    ("status", toJson head.status), ("submittedSubmissionId", toJson head.submittedSubmissionId),
    ("updatedAt", toJson head.updatedAt), ("version", toJson head.version)]⟩

/-- `submissionSourceSchema`. -/
inductive IntakeSubmissionSource where
  | public_form | direct_entry | «import» | email

/-- `submissionHeadSchema`. -/
structure SubmissionHead where
  id : ApplicationId
  scope : IntakeScope
  formId : ApplicationId
  formVersionId : ApplicationId
  source : IntakeSubmissionSource
  version : Version
  submitEvidenceId : ApplicationId
  primaryPersonId : ApplicationId
  submittedAt : Instant

/-- `submissionSubmitEvidenceSchema`. -/
structure SubmissionSubmitEvidence (D : Type) where
  id : ApplicationId
  submissionId : ApplicationId
  draftId : ApplicationId
  draftRevisionId : ApplicationId
  formVersionId : ApplicationId
  requestDigestSha256 : D
  answerIndexDigestSha256 : D
  answers : List ApplicationAnswerIndexEntry
  programVocabularyAnswerPins : List SubmissionProgramVocabularyAnswerPin
  admissibilityDeadlinePin : Option (FormDeadlineReferencePin D)
  inputPolicy : PublicInputPolicyDecisionEvidence D
  submittedAt : Instant

/-- `submissionSubmitEvidenceSchema`, on what the type does not say. -/
def submissionSubmitEvidenceSchema (host : Host D) (evidence : SubmissionSubmitEvidence D) : Bool :=
  applicationAnswerIndexSchema evidence.answers &&
    decide (evidence.programVocabularyAnswerPins.length ≤
      formFieldsMax * formMultiselectMaxSelections) &&
    evidence.programVocabularyAnswerPins.all (fun pin => singleLineStored host 240 pin.label) &&
    inputPolicyEvidenceSchema evidence.inputPolicy &&
    decide ((evidence.programVocabularyAnswerPins.map (·.identity)).IsChain textLt)

/-- `submissionParticipantEvidenceSchema`. -/
structure SubmissionParticipantEvidence where
  id : ApplicationId
  submissionId : ApplicationId
  personId : ApplicationId
  participantIdentityId : ApplicationId
  recordedAt : Instant

/-- `submissionConsentEvidenceSchema`. -/
structure SubmissionConsentEvidence (D : Type) where
  id : ApplicationId
  submissionId : ApplicationId
  formVersionId : ApplicationId
  fieldId : ApplicationId
  wordingDigestSha256 : D
  recordedAt : Instant

/-- `publicApplicationSubmitResultSchema` : the receipt of a submission. -/
structure PublicApplicationSubmitReceipt where
  submissionId : ApplicationId
  formId : ApplicationId
  formVersionId : ApplicationId
  submittedAt : Instant

def parseSubmissionSubmitEvidence (host : Host D) (evidence : SubmissionSubmitEvidence D) :
    Except ApplicationError (SubmissionSubmitEvidence D) := do
  require (submissionSubmitEvidenceSchema host evidence = true) .thrown
  return evidence

structure ApplicationDraftBeginPlan (D : Type) where
  formDefinitionVersion : Version
  formVersionDigestSha256 : D
  head : ApplicationDraftHead D
  revision : ApplicationDraftRevision D

structure ApplicationDraftSavePlan (D : Type) where
  formDefinitionVersion : Version
  formVersionDigestSha256 : D
  beforeHead : ApplicationDraftHead D
  beforeRevision : ApplicationDraftRevision D
  afterHead : ApplicationDraftHead D
  afterRevision : ApplicationDraftRevision D

/-- The evidence of a consent is given an identity. -/
structure ConsentEvidenceAssignment where
  fieldId : ApplicationId
  evidenceId : ApplicationId

structure ApplicationSubmitIdentityAssignment where
  submissionId : ApplicationId
  submitEvidenceId : ApplicationId
  personId : ApplicationId
  participantIdentityId : ApplicationId
  participantEvidenceId : ApplicationId
  consentEvidenceIds : List ConsentEvidenceAssignment

structure ApplicationSubmitPlan (D : Type) where
  formDefinitionVersion : Version
  formVersionDigestSha256 : D
  beforeHead : ApplicationDraftHead D
  sourceRevision : ApplicationDraftRevision D
  afterHead : ApplicationDraftHead D
  submission : SubmissionHead
  submitEvidence : SubmissionSubmitEvidence D
  participant : SubmissionParticipantEvidence
  consents : List (SubmissionConsentEvidence D)
  result : PublicApplicationSubmitReceipt

inductive ApplicationMutationPlan (D : Type) where
  | begin (plan : ApplicationDraftBeginPlan D)
  | save (plan : ApplicationDraftSavePlan D)
  | submit (plan : ApplicationSubmitPlan D)

end JooEvents
