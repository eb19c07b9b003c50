import JooEvents.Airtable.Inbound

/-!
# Settled records

A settled record drops no edit when every field that moved is `EditHandled` in the calls
that were made : an accepted operation carried it, or the boundary was told of a conflict,
or of an edit that was refused and restored. A destroyed record has to be reviewed and
restored as well (`InboundHandled`).

Each part of the settle handles the fields that it looks at (`reportFinding_handled`,
`applyTaskStatus_handled`, `applyRequestFields_handled`, `restoreUnrecognized_handled`), and
together these are all of them. But a conflict ends the settle after the first part :
`settles_after_conflicts` is a run that does, and it makes no operation call.
-/

namespace JooEvents

open Fallible

variable {D : Type}

def AirtableInboundOperationResult.accepted : AirtableInboundOperationResult → Bool
  | .applied _ _ => true
  | .already_current _ => true
  | _ => false

def AirtableControlledInboundFeatureContext.Carries
    (featureContext : AirtableControlledInboundFeatureContext)
    (field : AirtableShadowFieldFinding) : Prop :=
  ∃ observation ∈ featureContext.observations, observation.fieldKey = field.fieldKey ∧
    observation.before = field.«local» ∧ observation.after = field.remote

/-- The call has the edit of the field. The deletion of a record is that of its fields. -/
def AirtableOperationCall.Carries (field : AirtableShadowFieldFinding) :
    AirtableOperationCall → Prop
  | .setTaskAssignmentStatus _ _ _ _ featureContext => featureContext.Carries field
  | .setEngagementCancellationRequest _ _ _ _ _ featureContext => featureContext.Carries field
  | .requestRecordDeletionReview _ _ => True

def operationEvent (call : AirtableOperationCall) (result : AirtableInboundOperationResult) :
    InboundEvent :=
  ⟨.operation call, some result⟩

def boundaryEvent (call : AirtableBoundaryCall) : InboundEvent := ⟨.boundary call, some ()⟩

@[simp] theorem boundaryEvent_inj {call call' : AirtableBoundaryCall} :
    boundaryEvent call = boundaryEvent call' ↔ call = call' :=
  ⟨fun h => AirtablePortCall.boundary.inj (congrArg Sigma.fst h), congrArg boundaryEvent⟩

@[simp] theorem operationEvent_ne_boundaryEvent {call : AirtableOperationCall}
    {result : AirtableInboundOperationResult} {call' : AirtableBoundaryCall} :
    operationEvent call result ≠ boundaryEvent call' :=
  fun h => nomatch (congrArg Sigma.fst h : AirtablePortCall.operation call = .boundary call')

/-- In these calls the edit of the field was dealt with. -/
inductive EditHandled (input : AirtableInboundInput) (field : AirtableShadowFieldFinding)
    (events : List InboundEvent) : Prop where
  | carried {call : AirtableOperationCall} {result : AirtableInboundOperationResult}
      (hcall : operationEvent call result ∈ events) (haccepted : result.accepted = true)
      (hcarries : call.Carries field)
  | reported (hconflict : boundaryEvent (input.conflict field) ∈ events)
  | refused (reason : RestoreReason) (hrefused : boundaryEvent (input.refused field) ∈ events)
      (hrestored : boundaryEvent (input.restore reason) ∈ events)

def AirtableShadowFieldFinding.edited (field : AirtableShadowFieldFinding) : Bool :=
  field.changed || decide (field.disposition = .restore ∨ field.disposition = .forbidden ∨
    field.disposition = .conflict)

/-- In these calls no edit of the record was dropped. -/
structure InboundHandled (input : AirtableInboundInput) (events : List InboundEvent) : Prop where
  fields : ∀ field ∈ input.evaluation.fields, field.edited = true →
    EditHandled input field events
  deletion : input.claim.changeKind = .destroyed →
    (∃ idempotencyKey result, result.accepted = true ∧
      operationEvent (.requestRecordDeletionReview input.subject idempotencyKey) result ∈ events) ∧
      ∃ reason, boundaryEvent (input.restore reason) ∈ events

variable {host : LocaleHost D} {input : AirtableInboundInput}
  {field : AirtableShadowFieldFinding} {events events' : List InboundEvent}

theorem EditHandled.mono (h : EditHandled input field events) (hsub : events ⊆ events') :
    EditHandled input field events' := by
  cases h with
  | carried hcall haccepted hcarries => exact .carried (hsub hcall) haccepted hcarries
  | reported hconflict => exact .reported (hsub hconflict)
  | refused reason hrefused hrestored => exact .refused _ (hsub hrefused) (hsub hrestored)

@[simp] theorem runs_atBoundary_ok {call : AirtableBoundaryCall} {u : Unit} :
    Process.Runs (atBoundary call) events (.ok u) ↔ events = [boundaryEvent call] := by
  rw [atBoundary, Process.runs_call_iff]
  constructor
  · rintro ⟨answer, rest, rfl, h⟩
    cases answer with
    | none => simp at h
    | some u =>
      obtain ⟨rfl, -⟩ := Process.runs_done_iff.mp h
      rfl
  · rintro rfl
    exact ⟨some (), [], rfl, .done _⟩

@[simp] theorem runs_operate_ok {call : AirtableOperationCall}
    {result : AirtableInboundOperationResult} :
    Process.Runs (operate call) events (.ok result) ↔ events = [operationEvent call result] := by
  rw [operate, Process.runs_call_iff]
  constructor
  · rintro ⟨answer, rest, rfl, h⟩
    cases answer with
    | none => simp at h
    | some r =>
      obtain ⟨rfl, hr⟩ := Process.runs_done_iff.mp h
      cases hr
      rfl
  · rintro rfl
    exact ⟨some result, [], rfl, .done _⟩

theorem accepted_of_operationFailure {result : AirtableInboundOperationResult}
    (h : operationFailure result = none) : result.accepted = true := by
  cases result <;> first | rfl | cases h

theorem controlledFeatureContext_carries {kind : InboundObservationKind}
    {fields : List AirtableShadowFieldFinding}
    {featureContext : AirtableControlledInboundFeatureContext}
    (h : input.controlledFeatureContext kind fields = .ok featureContext)
    (hmem : field ∈ fields) : featureContext.Carries field := by
  simp only [AirtableInboundInput.controlledFeatureContext, bind_eq_ok, pure_eq_ok] at h
  obtain ⟨⟨⟩, -, rfl⟩ := h
  exact ⟨_, List.mem_map_of_mem hmem, rfl, rfl, rfl⟩

/-! ## The parts of a settle -/

def reportEvents (input : AirtableInboundInput) (field : AirtableShadowFieldFinding) :
    List InboundEvent :=
  match field.disposition with
  | .conflict => [boundaryEvent (input.conflict field)]
  | .restore | .forbidden =>
    [boundaryEvent (input.refused field), boundaryEvent (input.restore .protected_edit)]
  | _ => []

theorem runs_reportFinding_ok :
    Process.Runs (input.reportFinding field) events (.ok ()) ↔
      events = reportEvents input field := by
  unfold AirtableInboundInput.reportFinding reportEvents
  cases field.disposition <;> simp [Process.runs_bind_ok]

theorem reportFinding_handled
    (h : Process.Runs (input.reportFinding field) events (.ok ()))
    (hedited : field.edited = true) (hchanged : field.changed = false) :
    EditHandled input field events := by
  rw [runs_reportFinding_ok] at h
  simp only [AirtableShadowFieldFinding.edited, hchanged, Bool.false_or,
    decide_eq_true_eq] at hedited
  rcases hedited with hd | hd | hd
  · refine .refused .protected_edit ?_ ?_ <;> simp [h, reportEvents, hd]
  · refine .refused .protected_edit ?_ ?_ <;> simp [h, reportEvents, hd]
  · exact .reported (by simp [h, reportEvents, hd])

theorem reviewDeletion_handled {applied requests conflicts : ℕ}
    (h : Process.Runs input.reviewDeletion events (.ok (.settled applied requests conflicts))) :
    (∃ idempotencyKey result, result.accepted = true ∧
      operationEvent (.requestRecordDeletionReview input.subject idempotencyKey) result ∈ events) ∧
      boundaryEvent (input.restore .record_deleted) ∈ events := by
  obtain ⟨before, result, after, rfl, hreview, h⟩ := Process.runs_bind_ok.mp h
  rw [runs_operate_ok] at hreview
  cases hfailure : operationFailure result with
  | some failure => simp [hfailure] at h
  | none =>
    simp only [hfailure] at h
    obtain ⟨restored, ⟨⟩, rest, rfl, hrestore, -⟩ := Process.runs_bind_ok.mp h
    rw [runs_atBoundary_ok] at hrestore
    subst hreview hrestore
    exact ⟨⟨_, result, accepted_of_operationFailure hfailure, List.mem_cons_self⟩, by simp⟩

theorem applyTaskStatus_handled {applied : ℕ}
    (h : Process.Runs (input.applyTaskStatus host field) events (.ok (.ok applied))) :
    EditHandled input field events := by
  unfold AirtableInboundInput.applyTaskStatus at h
  split_ifs at h with hkind
  · simp at h
  · cases hstatus : AirtableInboundInput.namedStatus host field.remote with
    | none =>
      simp only [hstatus] at h
      obtain ⟨refused, ⟨⟩, after, rfl, hrefused, h⟩ := Process.runs_bind_ok.mp h
      obtain ⟨restored, ⟨⟩, rest, rfl, hrestored, -⟩ := Process.runs_bind_ok.mp h
      rw [runs_atBoundary_ok] at hrefused hrestored
      exact .refused .invalid_value (by simp [hrefused]) (by simp [hrestored])
    | some status =>
      simp only [hstatus] at h
      obtain ⟨none', featureContext, after, rfl, hcontext, h⟩ := Process.runs_bind_ok.mp h
      obtain ⟨-, hcontext⟩ := Process.runs_ofExcept_iff.mp hcontext
      obtain ⟨called, result, rest, rfl, hcall, h⟩ := Process.runs_bind_ok.mp h
      rw [runs_operate_ok] at hcall
      cases hfailure : operationFailure result with
      | some failure => simp [hfailure] at h
      | none =>
        subst hcall
        refine .carried (List.mem_append_right _ List.mem_cons_self)
          (accepted_of_operationFailure hfailure) ?_
        exact controlledFeatureContext_carries hcontext.symm (List.mem_singleton_self _)

theorem applyRequestFields_handled {requests : ℕ}
    (h : Process.Runs (input.applyRequestFields host) events (.ok (.ok requests)))
    (hmem : field ∈ input.requestFields) : EditHandled input field events := by
  unfold AirtableInboundInput.applyRequestFields at h
  simp only at h
  split_ifs at h
  · simp at h
  · simp [Process.runs_bind_ok] at h
  · simp at h
  · unfold AirtableInboundInput.requestCancellation at h
    obtain ⟨none', featureContext, after, rfl, hcontext, h⟩ := Process.runs_bind_ok.mp h
    obtain ⟨-, hcontext⟩ := Process.runs_ofExcept_iff.mp hcontext
    obtain ⟨called, result, rest, rfl, hcall, h⟩ := Process.runs_bind_ok.mp h
    rw [runs_operate_ok] at hcall
    cases hfailure : operationFailure result with
    | some failure => simp [hfailure] at h
    | none =>
      subst hcall
      refine .carried (List.mem_append_right _ List.mem_cons_self)
        (accepted_of_operationFailure hfailure) ?_
      exact controlledFeatureContext_carries hcontext.symm hmem

theorem restoreUnrecognized_handled
    (h : Process.Runs (input.restoreUnrecognized host.toHost field) events (.ok ()))
    (hchanged : field.changed = true) (hstatus : some field ≠ input.taskStatus)
    (hrequest : field ∉ input.requestFields)
    (hdiffers : syncEqual host.toHost field.remote field.«local» = false) :
    EditHandled input field events := by
  rw [AirtableInboundInput.restoreUnrecognized, if_pos ⟨hchanged, hstatus, hrequest⟩,
    hdiffers] at h
  obtain ⟨restored, ⟨⟩, rest, rfl, hrestored, h⟩ := Process.runs_bind_ok.mp h
  rw [runs_atBoundary_ok] at hrestored
  have hrefused := runs_atBoundary_ok.mp h
  exact .refused .protected_edit (by simp [hrefused]) (by simp [hrestored])

theorem applyFields_handled {applied requests conflicts : ℕ}
    (h : Process.Runs (input.applyFields host) events (.ok (.settled applied requests conflicts)))
    (hmem : field ∈ input.evaluation.fields) (hchanged : field.changed = true)
    (hdiffers : syncEqual host.toHost field.remote field.«local» = false) :
    EditHandled input field events := by
  unfold AirtableInboundInput.applyFields at h
  obtain ⟨first, applied', after, rfl, htask, h⟩ := Process.runs_bind_ok.mp h
  cases applied' with
  | error failure => simp at h
  | ok applied' =>
    obtain ⟨second, requests', rest, rfl, hrequests, h⟩ := Process.runs_bind_ok.mp h
    cases requests' with
    | error failure => simp at h
    | ok requests' =>
      obtain ⟨third, ⟨⟩, last, rfl, hloop, -⟩ := Process.runs_bind_ok.mp h
      by_cases hstatus : some field = input.taskStatus
      · rw [AirtableInboundInput.applyTask, ← hstatus] at htask
        exact (applyTaskStatus_handled htask).mono (List.subset_append_left _ _)
      · by_cases hrequest : field ∈ input.requestFields
        · rw [AirtableInboundInput.applyRequest, if_neg (List.ne_nil_of_mem hrequest)] at hrequests
          refine (applyRequestFields_handled hrequests hrequest).mono ?_
          exact List.Subset.trans (List.subset_append_left _ _) (List.subset_append_right _ _)
        · obtain ⟨part, hpart, hrun⟩ := Process.runs_forM_ok hloop field hmem
          refine (restoreUnrecognized_handled hrun hchanged hstatus hrequest hdiffers).mono ?_
          intro event hevent
          simp [hpart hevent]

theorem conflicts_pos_iff :
    0 < input.conflicts ↔ ∃ field ∈ input.evaluation.fields, field.disposition = .conflict := by
  simp [AirtableInboundInput.conflicts, List.countP_pos_iff]

theorem settles_after_conflicts (hconflict : 0 < input.conflicts) :
    Process.Runs (applyControlledAirtableInbound host input)
      (input.evaluation.fields.flatMap (reportEvents input))
      (.ok (.settled 0 0 input.conflicts)) := by
  have hloop : Process.Runs (input.evaluation.fields.forM input.reportFinding)
      (input.evaluation.fields.flatMap (reportEvents input)) (.ok ()) :=
    .forM fun field _ => runs_reportFinding_ok.mpr rfl
  rw [← List.append_nil (input.evaluation.fields.flatMap _)]
  refine hloop.bind ?_
  rw [if_pos hconflict]
  exact .done _

theorem operationEvent_not_mem_report {call : AirtableOperationCall}
    {result : AirtableInboundOperationResult} (fields : List AirtableShadowFieldFinding) :
    operationEvent call result ∉ fields.flatMap (reportEvents input) := by
  rw [List.mem_flatMap]
  rintro ⟨field, -, h⟩
  unfold reportEvents at h
  cases hd : field.disposition <;> simp [hd] at h

theorem reported_key {other : AirtableShadowFieldFinding} {call : AirtableBoundaryCall}
    (hevent : boundaryEvent call ∈ reportEvents input other)
    (hkind : call = input.conflict field ∨ call = input.refused field) :
    other.fieldKey = field.fieldKey ∧ other.changed = false := by
  unfold reportEvents at hevent
  rcases hkind with rfl | rfl <;> cases hd : other.disposition <;>
    simp [hd, AirtableInboundInput.conflict, AirtableInboundInput.refused,
      AirtableInboundInput.restore] at hevent <;>
    simp [hevent, AirtableShadowFieldFinding.changed, hd]

theorem not_handled_of_changed (hnodup : (input.evaluation.fields.map (·.fieldKey)).Nodup)
    (hmem : field ∈ input.evaluation.fields) (hchanged : field.changed = true) :
    ¬ EditHandled input field (input.evaluation.fields.flatMap (reportEvents input)) := by
  -- an event of the loop about the key of the field is about the field
  have hown : ∀ call, call = input.conflict field ∨ call = input.refused field →
      boundaryEvent call ∉ input.evaluation.fields.flatMap (reportEvents input) := by
    intro call hkind hcall
    obtain ⟨other, hother, hevent⟩ := List.mem_flatMap.mp hcall
    obtain ⟨hkey, hkept⟩ := reported_key hevent hkind
    obtain rfl := List.inj_on_of_nodup_map hnodup hother hmem hkey
    rw [hkept] at hchanged
    cases hchanged
  intro h
  cases h with
  | carried hcall haccepted hcarries => exact operationEvent_not_mem_report _ hcall
  | reported hconflict => exact hown _ (.inl rfl) hconflict
  | refused reason hrefused hrestored => exact hown _ (.inr rfl) hrefused

/-- Whether a conflict ends the settle before something else is done. -/
def AirtableInboundInput.Masked (input : AirtableInboundInput) : Prop :=
  (∃ field ∈ input.evaluation.fields, field.disposition = .conflict) ∧
    ((∃ field ∈ input.evaluation.fields, field.changed = true) ∨
      input.claim.changeKind = .destroyed)

theorem handled_of_not_masked {shadow : AirtableShadowInput} {applied requests conflicts : ℕ}
    (hevaluation : evaluateAirtableShadowRecord host shadow = .ok input.evaluation)
    (hmasked : ¬ input.Masked)
    (h : Process.Runs (applyControlledAirtableInbound host input) events
      (.ok (.settled applied requests conflicts))) : InboundHandled input events := by
  obtain ⟨before, ⟨⟩, after, rfl, hloop, h⟩ := Process.runs_bind_ok.mp h
  -- what the first loop handles stays handled
  have hreported : ∀ field ∈ input.evaluation.fields, field.edited = true →
      field.changed = false → EditHandled input field (before ++ after) := by
    intro field hmem hedited hchanged
    obtain ⟨part, hpart, hrun⟩ := Process.runs_forM_ok hloop field hmem
    refine (reportFinding_handled hrun hedited hchanged).mono ?_
    exact List.Subset.trans hpart (List.subset_append_left _ _)
  have hfields (hchangedHandled : ∀ field ∈ input.evaluation.fields, field.changed = true →
      EditHandled input field (before ++ after)) :
      ∀ field ∈ input.evaluation.fields, field.edited = true →
        EditHandled input field (before ++ after) := by
    intro field hmem hedited
    cases hchanged : field.changed with
    | true => exact hchangedHandled field hmem hchanged
    | false => exact hreported field hmem hedited hchanged
  split_ifs at h with hconflict hdestroyed
  · have hquiet := not_or.mp (not_and.mp hmasked (conflicts_pos_iff.mp hconflict))
    exact {
      fields := hfields fun field hmem hchanged => absurd ⟨field, hmem, hchanged⟩ hquiet.1
      deletion := fun hdestroyed => absurd hdestroyed hquiet.2 }
  · obtain ⟨⟨key, result, haccepted, hcall⟩, hrestored⟩ := reviewDeletion_handled h
    have hcall' := List.mem_append_right before hcall
    exact {
      fields := hfields fun field hmem hchanged => .carried hcall' haccepted trivial
      deletion := fun _ => ⟨⟨key, result, haccepted, hcall'⟩, _,
        List.mem_append_right before hrestored⟩ }
  · refine {
      fields := hfields fun field hmem hchanged => ?_
      deletion := fun hdestroyed' => absurd hdestroyed' hdestroyed }
    have hdiffers := not_equal_of_changed hevaluation hmem hchanged
    exact (applyFields_handled h hmem hchanged hdiffers).mono (List.subset_append_right _ _)

/-- Whatever the ports do, a settled record drops no edit, exactly when no conflict stands
beside a field that is for an operation or beside a deletion. -/
theorem airtable_inbound_handled_iff (input : AirtableInboundInput) (shadow : AirtableShadowInput)
    (hevaluation : evaluateAirtableShadowRecord host shadow = .ok input.evaluation) :
    (∀ events applied requests conflicts,
      Process.Runs (applyControlledAirtableInbound host input) events
        (.ok (.settled applied requests conflicts)) → InboundHandled input events) ↔
      ¬ ((∃ field ∈ input.evaluation.fields, field.disposition = .conflict) ∧
        ((∃ field ∈ input.evaluation.fields, field.changed = true) ∨
          input.claim.changeKind = .destroyed)) := by
  refine ⟨?_, fun hmasked events applied requests conflicts h =>
    handled_of_not_masked hevaluation hmasked h⟩
  rintro hall ⟨hconflict, hother⟩
  have hhandled := hall _ _ _ _ (settles_after_conflicts (conflicts_pos_iff.mpr hconflict))
  rcases hother with ⟨field, hmem, hchanged⟩ | hdestroyed
  · refine not_handled_of_changed (evaluation_keys_nodup hevaluation) hmem hchanged ?_
    exact hhandled.fields field hmem (by simp [AirtableShadowFieldFinding.edited, hchanged])
  · obtain ⟨⟨key, result, -, hcall⟩, -⟩ := hhandled.deletion hdestroyed
    exact operationEvent_not_mem_report _ hcall

def speakerMappings : List AirtableShadowFieldMapping :=
  [{ fieldKey := "speaker.cancellation_note", fieldId := "fldNote",
     mode := .request_from_airtable, dataClassification := .personal },
   { fieldKey := "speaker.requested_status", fieldId := "fldStatus",
     mode := .request_from_airtable, dataClassification := .personal }]

/-- A speaker who asks in Airtable to cancel. The local status is `status`. -/
def speakerShadow (status : Option (Json Empty)) : AirtableShadowInput where
  mappings := speakerMappings
  baseline := fun _ => none
  «local» := fun key => if key = "speaker.requested_status" then status else none
  remote := fun id => some (.text (if id = "fldNote" then "Travel changed" else "Cancelled"))
  lastOutbound := none

/-- What is found when the status is `status` locally and disposed of in this way. -/
def speakerEvaluation (status : Json Empty) (disposition : FieldComparisonDisposition) :
    AirtableShadowEvaluation where
  fields := [
    { fieldKey := "speaker.cancellation_note", fieldId := "fldNote",
      mode := .request_from_airtable, dataClassification := .personal,
      base := .null, «local» := .null, remote := .text "Travel changed",
      disposition := .create_request },
    { fieldKey := "speaker.requested_status", fieldId := "fldStatus",
      mode := .request_from_airtable, dataClassification := .personal,
      base := .null, «local» := status, remote := .text "Cancelled",
      disposition := disposition }]
  hasConflict := disposition = .conflict
  needsOutbound := false
  wouldApplyInbound := false
  wouldCreateRequest := true

def speakerInput (evaluation : AirtableShadowEvaluation) : AirtableInboundInput where
  claim := {
    settleId := "settle-1", connectionId := "connection-1", mappingRevision := 2,
    providerTableId := "tbl00000000000001", providerRecordId := "rec00000000000001",
    transactionNumber := 19, settleRevision := none, changeKind := .updated,
    providerActor := none, observedAtMs := none, workerId := "worker-1", leaseVersion := 1 }
  recordLinkId := "link-2"
  subject := { kind := .engagement, id := "engagement-1", expectedVersion := 7 }
  evaluation := evaluation

/-- When nothing conflicts, a settled request is handled. -/
theorem airtable_inbound_handled_request :
    evaluateAirtableShadowRecord plainLocale (speakerShadow none) =
      .ok (speakerEvaluation .null .create_request) ∧
    ∀ events applied requests conflicts,
      Process.Runs (applyControlledAirtableInbound plainLocale
          (speakerInput (speakerEvaluation .null .create_request))) events
        (.ok (.settled applied requests conflicts)) →
      InboundHandled (speakerInput (speakerEvaluation .null .create_request)) events := by
  have hevaluation : evaluateAirtableShadowRecord plainLocale (speakerShadow none) =
      .ok (speakerEvaluation .null .create_request) := by decide +kernel
  exact ⟨hevaluation, (airtable_inbound_handled_iff
    (speakerInput (speakerEvaluation .null .create_request)) (speakerShadow none) hevaluation).mpr
      (by decide)⟩

/-- The status was set to something else on our side as well : the record is settled, and the
note is dropped. -/
theorem mixed_edit_dropped :
    evaluateAirtableShadowRecord plainLocale (speakerShadow (some (.text "Held"))) =
      .ok (speakerEvaluation (.text "Held") .conflict) ∧
    ∃ events, Process.Runs (applyControlledAirtableInbound plainLocale
        (speakerInput (speakerEvaluation (.text "Held") .conflict))) events
          (.ok (.settled 0 0 1)) ∧
      ∃ field ∈ (speakerEvaluation (.text "Held") .conflict).fields,
        field.disposition = .create_request ∧
        ¬ EditHandled (speakerInput (speakerEvaluation (.text "Held") .conflict)) field events := by
  refine ⟨by decide +kernel, _, settles_after_conflicts (by decide), _, List.mem_cons_self, rfl, ?_⟩
  exact not_handled_of_changed (by decide) List.mem_cons_self (by decide)

end JooEvents
