import JooEvents.Airtable.Settled
import JooEvents.Lib.Keyed

/-!
# Values from the other side

An operation that an inbound settle calls may change what a field says only to what Airtable
changed it to. `AirtableOperationCall.Traced` says so of a call : whatever a field says after
it is what a remotely changed value says, or what the local value said before.

The status of a task is read from a changed field. But a cancellation request is made from two
fields as soon as one of them changed, and the other one is read from Airtable as well, also
when it was changed on our side only or is not mapped (`StaleInAirtable`). So the calls are
traced unless a request is handed over with such a field
(`airtable_inbound_traced_iff`).
-/

namespace JooEvents

open Fallible

variable {D : Type} {α : Type}

/-! ## What fields say -/

/-- `'cancelled'` as a requested status. -/
def saysCancelled (host : LocaleHost D) (value : Json Empty) : Bool :=
  (textValue host.toHost value).map host.toLocaleLowerCase == some "cancelled"

def saysNote (host : Host D) (value : Json Empty) : Option String :=
  presentText (textValue host value)

/-- What the fields say that operations may change. -/
structure SyncedMeaning where
  task : Option TaskAssignmentStatus
  requested : Bool
  note : Option String

def AirtableShadowInput.localValue (shadow : AirtableShadowInput) (key : String) : Json Empty :=
  (shadow.«local» key).getD .null

def AirtableShadowInput.meaning (host : LocaleHost D) (shadow : AirtableShadowInput) :
    SyncedMeaning where
  task := AirtableInboundInput.namedStatus host (shadow.localValue "task.status")
  requested := saysCancelled host (shadow.localValue "speaker.requested_status")
  note := saysNote host.toHost (shadow.localValue "speaker.cancellation_note")

/-- What our side says after an operation : the status, or the request, is set to the
arguments. -/
def AirtableOperationCall.setMeaning :
    AirtableOperationCall → SyncedMeaning → SyncedMeaning
  | .setTaskAssignmentStatus _ _ status _ _, said => { said with task := some status }
  | .setEngagementCancellationRequest _ _ requested note _ _, said =>
    { said with requested := requested, note := note }
  | .requestRecordDeletionReview _ _, said => said

section

variable (host : Host D) (shadow : AirtableShadowInput) (evaluation : AirtableShadowEvaluation)
  (key : String) (means : Json Empty → α)

/-- What a field says now comes from a value that Airtable changed, or it was said before. -/
def Determined (now : α) : Prop :=
  (∃ field ∈ evaluation.fields, field.fieldKey = key ∧
    syncEqual host field.remote field.base = false ∧ now = means field.remote) ∨
    now = means (shadow.localValue key)

/-- A field says what it said, if it is unchanged, changed on our side only, or not mapped. -/
def Kept (now : α) : Prop :=
  (∀ field ∈ evaluation.fields, field.fieldKey = key →
    field.disposition = .unchanged ∨ field.disposition = .outbound) →
    now = means (shadow.localValue key)

/-- The value of a field in Airtable, if it is mapped. -/
def AirtableShadowEvaluation.shown (evaluation : AirtableShadowEvaluation) (key : String) :
    Json Empty :=
  ((evaluation.fields.find? fun field => field.fieldKey = key).map (·.remote)).getD .null

/-- A field was changed on our side only, or is not mapped, and Airtable does not say what
our side says. -/
def StaleInAirtable : Prop :=
  (∀ field ∈ evaluation.fields, field.fieldKey = key → field.disposition = .outbound) ∧
    means (evaluation.shown key) ≠ means (shadow.localValue key)

end

/-- A call changes what fields say only to what Airtable changed them to. -/
structure AirtableOperationCall.Traced (host : LocaleHost D) (shadow : AirtableShadowInput)
    (evaluation : AirtableShadowEvaluation) (call : AirtableOperationCall) : Prop where
  determined :
    Determined host.toHost shadow evaluation "task.status"
      (AirtableInboundInput.namedStatus host) (call.setMeaning (shadow.meaning host)).task ∧
    Determined host.toHost shadow evaluation "speaker.requested_status"
      (saysCancelled host) (call.setMeaning (shadow.meaning host)).requested ∧
    Determined host.toHost shadow evaluation "speaker.cancellation_note"
      (saysNote host.toHost) (call.setMeaning (shadow.meaning host)).note
  kept :
    Kept shadow evaluation "task.status"
      (AirtableInboundInput.namedStatus host) (call.setMeaning (shadow.meaning host)).task ∧
    Kept shadow evaluation "speaker.requested_status"
      (saysCancelled host) (call.setMeaning (shadow.meaning host)).requested ∧
    Kept shadow evaluation "speaker.cancellation_note"
      (saysNote host.toHost) (call.setMeaning (shadow.meaning host)).note

/-- A cancellation request is handed over : nothing conflicts, the record is there, no task is
set, and the values of the request are accepted. -/
structure AirtableInboundInput.HandsOver (host : LocaleHost D) (input : AirtableInboundInput) :
    Prop where
  agreed : ∀ field ∈ input.evaluation.fields, field.disposition ≠ .conflict
  present : input.claim.changeKind ≠ .destroyed
  noTask : input.taskStatus = none
  changed : input.requestFields ≠ []
  subject : input.subject.kind = .engagement
  status : ∀ text, input.fieldText host.toHost "speaker.requested_status" = some text →
    host.toLocaleLowerCase text = "cancelled"
  note : ∀ text, input.fieldText host.toHost "speaker.cancellation_note" = some text →
    textLength text ≤ 500
  context : ∀ field ∈ input.requestFields,
    (input.featureObservation .request field).accepted = true

/-! ## Comparisons -/

theorem textValue_congr {host : Host D} {left right : Json Empty}
    (h : syncEqual host left right = true) : textValue host left = textValue host right := by
  have heq := of_decide_eq_true h
  cases left <;> cases right <;> simp_all [textValue, Json.canonicalize_obj]

theorem saysCancelled_congr {host : LocaleHost D} {left right : Json Empty}
    (h : syncEqual host.toHost left right = true) :
    saysCancelled host left = saysCancelled host right := by
  rw [saysCancelled, textValue_congr h, saysCancelled]

theorem saysNote_congr {host : Host D} {left right : Json Empty}
    (h : syncEqual host left right = true) : saysNote host left = saysNote host right := by
  rw [saysNote, textValue_congr h, saysNote]

theorem compareSyncField_kept_iff {host : Host D} {field : SyncFieldState} :
    ((compareSyncField host field).disposition = .unchanged ∨
      (compareSyncField host field).disposition = .outbound) ↔
      syncEqual host field.remote field.base = true := by
  cases hlocal : syncEqual host field.«local» field.base <;>
    cases hremote : syncEqual host field.remote field.base
  · simp only [compareSyncField, hlocal, hremote]
    split_ifs <;> simp_all
  · simp [compareSyncField, hlocal, hremote]
  · simp only [compareSyncField, hlocal, hremote]
    cases field.mode <;> simp
  · simp [compareSyncField, hlocal, hremote]

theorem compareSyncField_unchanged {host : Host D} {field : SyncFieldState}
    (h : (compareSyncField host field).disposition = .unchanged) :
    syncEqual host field.remote field.«local» = true := by
  have hremote := compareSyncField_kept_iff.mp (.inl h)
  cases hlocal : syncEqual host field.«local» field.base with
  | true =>
    refine decide_eq_true ?_
    exact (of_decide_eq_true hremote).trans (of_decide_eq_true hlocal).symm
  | false => simp [compareSyncField, hlocal, hremote] at h

section

variable {host : LocaleHost D} {shadow : AirtableShadowInput}
  {evaluation : AirtableShadowEvaluation} {field : AirtableShadowFieldFinding}

theorem finding_local (h : evaluateAirtableShadowRecord host shadow = .ok evaluation)
    (hmem : field ∈ evaluation.fields) :
    field.«local» = shadow.localValue field.fieldKey := by
  simp only [evaluateAirtableShadowRecord, bind_eq_ok, pure_eq_ok] at h
  obtain ⟨states, -, comparison, -, findings, hfindings, rfl⟩ := h
  rw [(host.sortBy_perm _ _).mem_iff] at hmem
  obtain ⟨mapping, -, hfinding⟩ :=
    Keyed.exists_left_of_forall₂ (forall₂_of_mapM_eq_ok hfindings) hmem
  simp only [AirtableShadowInput.finding, bind_eq_ok, orRefuse_eq_ok, pure_eq_ok] at hfinding
  obtain ⟨comparison', -, rfl⟩ := hfinding
  rfl

theorem kept_iff (h : evaluateAirtableShadowRecord host shadow = .ok evaluation)
    (hmem : field ∈ evaluation.fields) :
    (field.disposition = .unchanged ∨ field.disposition = .outbound) ↔
      syncEqual host.toHost field.remote field.base = true := by
  obtain ⟨lastOutbound, hdisposition⟩ := finding_eq_compare h hmem
  rw [hdisposition]
  exact compareSyncField_kept_iff

theorem shown_of_unchanged (h : evaluateAirtableShadowRecord host shadow = .ok evaluation)
    (hmem : field ∈ evaluation.fields) (hunchanged : field.disposition = .unchanged) :
    syncEqual host.toHost field.remote (shadow.localValue field.fieldKey) = true := by
  obtain ⟨lastOutbound, hdisposition⟩ := finding_eq_compare h hmem
  rw [← finding_local h hmem]
  exact compareSyncField_unchanged (hdisposition.symm.trans hunchanged)

theorem shown_eq (h : evaluateAirtableShadowRecord host shadow = .ok evaluation)
    (hmem : field ∈ evaluation.fields) : evaluation.shown field.fieldKey = field.remote := by
  have hfind := (Keyed.find?_key_eq_some_iff (evaluation_keys_nodup h)).mpr ⟨hmem, rfl⟩
  rw [AirtableShadowEvaluation.shown, hfind]
  rfl

section

variable {key : String} {means : Json Empty → α} {now : α}

theorem determined_shown_iff (h : evaluateAirtableShadowRecord host shadow = .ok evaluation)
    (hmeans : ∀ left right, syncEqual host.toHost left right = true → means left = means right) :
    Determined host.toHost shadow evaluation key means (means (evaluation.shown key)) ↔
      ¬ StaleInAirtable shadow evaluation key means := by
  constructor
  · rintro (⟨field, hmem, hkey, hremote, -⟩ | heq) ⟨houtbound, hdiffers⟩
    · have hkept := (kept_iff h hmem).mp (.inr (houtbound field hmem hkey))
      rw [hremote] at hkept
      cases hkept
    · exact hdiffers heq
  · intro hfresh
    by_cases houtbound : ∀ field ∈ evaluation.fields, field.fieldKey = key →
        field.disposition = .outbound
    · refine .inr (by_contra fun hdiffers => ?_)
      exact hfresh ⟨houtbound, hdiffers⟩
    · push Not at houtbound
      obtain ⟨field, hmem, rfl, houtbound⟩ := houtbound
      rw [shown_eq h hmem]
      cases hremote : syncEqual host.toHost field.remote field.base with
      | false => exact .inl ⟨field, hmem, rfl, hremote, rfl⟩
      | true =>
        have hunchanged := ((kept_iff h hmem).mpr hremote).resolve_right houtbound
        exact .inr (hmeans _ _ (shown_of_unchanged h hmem hunchanged))

theorem Determined.kept (hnow : Determined host.toHost shadow evaluation key means now)
    (h : evaluateAirtableShadowRecord host shadow = .ok evaluation) :
    Kept shadow evaluation key means now := by
  intro hkept
  rcases hnow with ⟨field, hmem, hkey, hremote, -⟩ | heq
  · have hequal := (kept_iff h hmem).mp (hkept field hmem hkey)
    rw [hremote] at hequal
    cases hequal
  · exact heq

end

/-! ## Calls that are made -/

def CallTraced (host : LocaleHost D) (shadow : AirtableShadowInput)
    (evaluation : AirtableShadowEvaluation) : AirtablePortCall → Prop
  | .operation call => call.Traced host shadow evaluation
  | .boundary _ => True

theorem emits_atBoundary (call : AirtableBoundaryCall) :
    Process.Emits (CallTraced host shadow evaluation) (atBoundary call) :=
  ⟨trivial, fun answer => by cases answer <;> exact trivial⟩

theorem emits_operate {call : AirtableOperationCall}
    (h : call.Traced host shadow evaluation) :
    Process.Emits (CallTraced host shadow evaluation) (operate call) :=
  ⟨h, fun answer => by cases answer <;> exact trivial⟩

theorem traced_of_determined (h : evaluateAirtableShadowRecord host shadow = .ok evaluation)
    {call : AirtableOperationCall}
    (htask : Determined host.toHost shadow evaluation "task.status"
      (AirtableInboundInput.namedStatus host) (call.setMeaning (shadow.meaning host)).task)
    (hrequested : Determined host.toHost shadow evaluation "speaker.requested_status"
      (saysCancelled host) (call.setMeaning (shadow.meaning host)).requested)
    (hnote : Determined host.toHost shadow evaluation "speaker.cancellation_note"
      (saysNote host.toHost) (call.setMeaning (shadow.meaning host)).note) :
    call.Traced host shadow evaluation where
  determined := ⟨htask, hrequested, hnote⟩
  kept := ⟨htask.kept h, hrequested.kept h, hnote.kept h⟩

end

namespace AirtableInboundInput

variable {host : LocaleHost D} {shadow : AirtableShadowInput} {input : AirtableInboundInput}

theorem fieldText_eq (host : Host D) (key : String) :
    input.fieldText host key = textValue host (input.evaluation.shown key) := by
  rw [fieldText, AirtableShadowEvaluation.shown]
  cases input.evaluation.fields.find? fun field => field.fieldKey = key <;> rfl

theorem emits_reportFinding (field : AirtableShadowFieldFinding) :
    Process.Emits (CallTraced host shadow input.evaluation) (input.reportFinding field) := by
  unfold reportFinding
  cases field.disposition
  case conflict => exact emits_atBoundary _
  case restore | forbidden => exact (emits_atBoundary _).bind fun _ => emits_atBoundary _
  all_goals exact trivial

theorem emits_restoreUnrecognized (field : AirtableShadowFieldFinding) :
    Process.Emits (CallTraced host shadow input.evaluation)
      (input.restoreUnrecognized host.toHost field) := by
  unfold restoreUnrecognized
  split_ifs
  · exact (emits_atBoundary _).bind fun _ => trivial
  · exact (emits_atBoundary _).bind fun _ => emits_atBoundary _
  · exact trivial

theorem emits_applyTaskStatus {field : AirtableShadowFieldFinding}
    (h : evaluateAirtableShadowRecord host shadow = .ok input.evaluation)
    (hfield : input.taskStatus = some field) :
    Process.Emits (CallTraced host shadow input.evaluation) (input.applyTaskStatus host field) := by
  have hmem := List.mem_of_find?_eq_some hfield
  have hfound := List.find?_some hfield
  simp only [decide_eq_true_eq] at hfound
  obtain ⟨hkey, hchanged⟩ := hfound
  obtain ⟨lastOutbound, hdisposition⟩ := finding_eq_compare h hmem
  simp only [AirtableShadowFieldFinding.changed, hdisposition, decide_eq_true_eq] at hchanged
  have hremote : syncEqual host.toHost field.remote field.base = false :=
    (compareSyncField_alone hchanged).2
  unfold applyTaskStatus
  split_ifs with hkind
  · exact trivial
  · cases hstatus : namedStatus host field.remote with
    | none => exact (emits_atBoundary _).bind fun _ => (emits_atBoundary _).bind fun _ => trivial
    | some status =>
      refine (Process.emits_ofExcept _).bind fun featureContext => ?_
      refine (emits_operate ?_).bind fun result => ?_
      · exact traced_of_determined h (.inl ⟨field, hmem, hkey, hremote, hstatus.symm⟩)
          (.inr rfl) (.inr rfl)
      · cases operationFailure result with
        | some failure => exact trivial
        | none =>
          dsimp only
          by_cases hrecorded : result.recorded = true
          · rw [if_pos hrecorded]
            exact Process.emits_pure _
          · rw [if_neg hrecorded]
            exact (emits_atBoundary _).bind fun _ => Process.emits_pure _

/-! ## Requests -/

theorem accepted_of_controlledFeatureContext {kind : InboundObservationKind}
    {fields : List AirtableShadowFieldFinding}
    {featureContext : AirtableControlledInboundFeatureContext}
    (h : input.controlledFeatureContext kind fields = .ok featureContext) :
    ∀ field ∈ fields, (input.featureObservation kind field).accepted = true := by
  simp only [controlledFeatureContext, bind_eq_ok, require_eq_ok] at h
  obtain ⟨⟨⟩, ⟨-, -, haccepted⟩, -⟩ := h
  intro field hmem
  exact List.all_eq_true.mp haccepted _ (List.mem_map_of_mem hmem)

theorem length_requestFields_le
    (h : evaluateAirtableShadowRecord host shadow = .ok input.evaluation) :
    input.requestFields.length ≤ 2 := by
  have hnodup : (input.requestFields.map (·.fieldKey)).Nodup :=
    (evaluation_keys_nodup h).sublist (List.filter_sublist.map _)
  have hsubset : input.requestFields.map (·.fieldKey) ⊆
      ["speaker.requested_status", "speaker.cancellation_note"] := by
    intro key hkey
    obtain ⟨field, hfield, rfl⟩ := List.mem_map.mp hkey
    have hfound := (List.mem_filter.mp hfield).2
    simp only [decide_eq_true_eq] at hfound
    simpa using hfound.1
  have hlength := (List.subperm_of_subset hnodup hsubset).length_le
  rwa [List.length_map] at hlength

theorem controlledFeatureContext_eq_ok (hrequest : input.HandsOver host)
    (h : evaluateAirtableShadowRecord host shadow = .ok input.evaluation) :
    input.controlledFeatureContext .request input.requestFields =
      .ok ⟨input.requestFields.map (input.featureObservation .request)⟩ := by
  have hlength := length_requestFields_le h
  have hpos := List.length_pos_of_ne_nil hrequest.changed
  rw [controlledFeatureContext, require_true]
  · rfl
  · refine ⟨by rw [List.length_map]; omega, by rw [List.length_map]; omega, ?_⟩
    simpa using hrequest.context

def cancellationCall (host : LocaleHost D) (input : AirtableInboundInput) :
    AirtableOperationCall :=
  .setEngagementCancellationRequest input.subject.id input.subject.expectedVersion
    (saysCancelled host (input.evaluation.shown "speaker.requested_status"))
    (saysNote host.toHost (input.evaluation.shown "speaker.cancellation_note"))
    (String.intercalate ":" [input.stableKey, engagementCancellationKey])
    ⟨input.requestFields.map (input.featureObservation .request)⟩

theorem traced_cancellationCall_iff
    (h : evaluateAirtableShadowRecord host shadow = .ok input.evaluation) :
    (input.cancellationCall host).Traced host shadow input.evaluation ↔
      ¬ (StaleInAirtable shadow input.evaluation "speaker.requested_status" (saysCancelled host) ∨
        StaleInAirtable shadow input.evaluation "speaker.cancellation_note"
          (saysNote host.toHost)) := by
  rw [not_or, ← determined_shown_iff h fun _ _ => saysCancelled_congr,
    ← determined_shown_iff h fun _ _ => saysNote_congr]
  constructor
  · exact fun htraced => htraced.determined.2
  · exact fun hdetermined => traced_of_determined h (.inr rfl) hdetermined.1 hdetermined.2

theorem emits_requestCancellation
    (h : evaluateAirtableShadowRecord host shadow = .ok input.evaluation)
    (hstale : ¬ (StaleInAirtable shadow input.evaluation "speaker.requested_status"
        (saysCancelled host) ∨
      StaleInAirtable shadow input.evaluation "speaker.cancellation_note"
        (saysNote host.toHost))) :
    Process.Emits (CallTraced host shadow input.evaluation)
      (input.requestCancellation
        ((input.fieldText host.toHost "speaker.requested_status").map host.toLocaleLowerCase)
        (input.fieldText host.toHost "speaker.cancellation_note")) := by
  have hdetermined := ((traced_cancellationCall_iff h).mpr hstale).determined
  unfold requestCancellation
  refine (Process.emits_ofExcept _).bind fun featureContext => ?_
  refine (emits_operate ?_).bind fun result => ?_
  · rw [fieldText_eq, fieldText_eq]
    exact traced_of_determined h (.inr rfl) hdetermined.2.1 hdetermined.2.2
  · cases operationFailure result with
    | some failure => exact trivial
    | none =>
      dsimp only
      by_cases hrecorded : result.recorded = true
      · rw [if_pos hrecorded]
        exact Process.emits_pure _
      · rw [if_neg hrecorded]
        refine (Process.Emits.forM fun field _ => ?_).bind fun _ => Process.emits_pure _
        exact emits_atBoundary _

theorem emits_requestCancellation_of_error {statusText note : Option String}
    (herror : ∀ featureContext,
      input.controlledFeatureContext .request input.requestFields ≠ .ok featureContext) :
    Process.Emits (CallTraced host shadow input.evaluation)
      (input.requestCancellation statusText note) := by
  unfold requestCancellation
  cases hcontext : input.controlledFeatureContext .request input.requestFields with
  | ok featureContext => exact absurd hcontext (herror featureContext)
  | error error => exact trivial

theorem emits_applyRequest (h : evaluateAirtableShadowRecord host shadow = .ok input.evaluation)
    (hagreed : ∀ field ∈ input.evaluation.fields, field.disposition ≠ .conflict)
    (hkept : input.claim.changeKind ≠ .destroyed) (htask : input.taskStatus = none)
    (hfresh : ¬ (input.HandsOver host ∧
      (StaleInAirtable shadow input.evaluation "speaker.requested_status" (saysCancelled host) ∨
        StaleInAirtable shadow input.evaluation "speaker.cancellation_note"
          (saysNote host.toHost)))) :
    Process.Emits (CallTraced host shadow input.evaluation) (input.applyRequest host) := by
  unfold applyRequest applyRequestFields
  dsimp only
  split_ifs with hnone hkind hstatus hnote
  · exact Process.emits_pure _
  · exact Process.emits_pure _
  · exact (emits_atBoundary _).bind fun _ => Process.emits_pure _
  · exact Process.emits_pure _
  · by_cases hcontext : ∀ featureContext,
        input.controlledFeatureContext .request input.requestFields ≠ .ok featureContext
    · exact emits_requestCancellation_of_error hcontext
    · push Not at hcontext
      obtain ⟨featureContext, hcontext⟩ := hcontext
      refine emits_requestCancellation h fun hstale => hfresh ⟨?_, hstale⟩
      exact {
        agreed := hagreed
        present := hkept
        noTask := htask
        changed := hnone
        subject := not_not.mp hkind
        status := fun text htext => by simpa [htext] using hstatus
        note := fun text htext => by simpa [htext] using hnote
        context := accepted_of_controlledFeatureContext hcontext }

theorem emits_applyRequest_of_task (hkind : input.subject.kind = .task_assignment) :
    Process.Emits (CallTraced host shadow input.evaluation) (input.applyRequest host) := by
  have hother : input.subject.kind ≠ .engagement := by
    rw [hkind]
    decide
  unfold applyRequest applyRequestFields
  dsimp only
  rw [if_pos hother]
  split_ifs
  · exact Process.emits_pure _
  · exact Process.emits_pure _

theorem emits_applyFields
    (htask : Process.Emits (CallTraced host shadow input.evaluation) (input.applyTask host))
    (hrequest : Process.Emits (CallTraced host shadow input.evaluation)
      (input.applyRequest host)) :
    Process.Emits (CallTraced host shadow input.evaluation) (input.applyFields host) := by
  unfold applyFields
  refine htask.bind fun applied => ?_
  cases applied with
  | error failure => exact Process.emits_pure _
  | ok applied =>
    refine hrequest.bind fun requests => ?_
    cases requests with
    | error failure => exact Process.emits_pure _
    | ok requests =>
      refine (Process.Emits.forM fun field _ => emits_restoreUnrecognized field).bind fun _ => ?_
      exact Process.emits_pure _

theorem emits_applyControlledAirtableInbound
    (h : evaluateAirtableShadowRecord host shadow = .ok input.evaluation)
    (hfresh : ¬ (input.HandsOver host ∧
      (StaleInAirtable shadow input.evaluation "speaker.requested_status" (saysCancelled host) ∨
        StaleInAirtable shadow input.evaluation "speaker.cancellation_note"
          (saysNote host.toHost)))) :
    Process.Emits (CallTraced host shadow input.evaluation)
      (applyControlledAirtableInbound host input) := by
  unfold applyControlledAirtableInbound
  refine (Process.Emits.forM fun field _ => emits_reportFinding field).bind fun _ => ?_
  split_ifs with hconflict hdestroyed
  · exact Process.emits_pure _
  · unfold reviewDeletion
    refine (emits_operate ?_).bind fun result => ?_
    · exact traced_of_determined h (.inr rfl) (.inr rfl) (.inr rfl)
    · cases operationFailure result with
      | some failure => exact Process.emits_pure _
      | none => exact (emits_atBoundary _).bind fun _ => Process.emits_pure _
  · have hagreed : ∀ field ∈ input.evaluation.fields, field.disposition ≠ .conflict :=
      fun field hmem hdisposition => hconflict (conflicts_pos_iff.mpr ⟨field, hmem, hdisposition⟩)
    cases htask : input.taskStatus with
    | none =>
      refine emits_applyFields ?_ (emits_applyRequest h hagreed hdestroyed htask hfresh)
      rw [applyTask, htask]
      exact Process.emits_pure _
    | some field =>
      cases hkind : input.subject.kind with
      | task_assignment =>
        refine emits_applyFields ?_ (emits_applyRequest_of_task hkind)
        rw [applyTask, htask]
        exact emits_applyTaskStatus h htask
      | engagement =>
        have happly : input.applyTask host =
            pure (.error (.attention "task_subject_mismatch")) := by
          have hother : input.subject.kind ≠ .task_assignment := by
            rw [hkind]
            decide
          unfold applyTask applyTaskStatus
          rw [htask]
          dsimp only
          rw [if_pos hother]
        rw [applyFields, happly]
        exact trivial

theorem runs_applyRequest (hrequest : input.HandsOver host)
    (h : evaluateAirtableShadowRecord host shadow = .ok input.evaluation) :
    Process.Runs (input.applyRequest host)
      [operationEvent (input.cancellationCall host) (.refused "refused")]
      (.ok (.error (.attention "refused"))) := by
  have hstatus : ¬ ((input.fieldText host.toHost "speaker.requested_status").map
      host.toLocaleLowerCase).any (· != "cancelled") = true := by
    cases htext : input.fieldText host.toHost "speaker.requested_status" with
    | none => simp
    | some text => simp [hrequest.status text htext]
  have hnote : ¬ ((input.fieldText host.toHost "speaker.cancellation_note").any fun s =>
      decide (500 < textLength s)) = true := by
    cases htext : input.fieldText host.toHost "speaker.cancellation_note" with
    | none => simp
    | some text => simpa using hrequest.note text htext
  unfold applyRequest applyRequestFields
  dsimp only
  rw [if_neg hrequest.changed, if_neg (not_not.mpr hrequest.subject), if_neg hstatus,
    if_neg hnote, requestCancellation, controlledFeatureContext_eq_ok hrequest h, fieldText_eq,
    fieldText_eq]
  exact .call (.done _)

theorem runs_handsOver (hrequest : input.HandsOver host)
    (h : evaluateAirtableShadowRecord host shadow = .ok input.evaluation) :
    Process.Runs (applyControlledAirtableInbound host input)
      (input.evaluation.fields.flatMap (reportEvents input) ++
        [operationEvent (input.cancellationCall host) (.refused "refused")])
      (.ok (.unsettled (.attention "refused"))) := by
  have hloop : Process.Runs (input.evaluation.fields.forM input.reportFinding)
      (input.evaluation.fields.flatMap (reportEvents input)) (.ok ()) :=
    .forM fun field _ => runs_reportFinding_ok.mpr rfl
  have hquiet : ¬ 0 < input.conflicts := by
    rw [conflicts_pos_iff]
    rintro ⟨field, hmem, hdisposition⟩
    exact hrequest.agreed field hmem hdisposition
  have htask : input.applyTask host = pure (.ok 0) := by rw [applyTask, hrequest.noTask]
  refine hloop.bind ?_
  rw [if_neg hquiet, if_neg hrequest.present, applyFields, htask]
  exact (runs_applyRequest hrequest h).bind (.done _)

end AirtableInboundInput

section

variable {host : LocaleHost D} {shadow : AirtableShadowInput}

/-- Whatever the ports do, the operations that an inbound settle calls change what fields say
only to what Airtable changed them to, exactly when no cancellation request is handed over with
a field that is stale in Airtable. -/
theorem airtable_inbound_traced_iff (input : AirtableInboundInput)
    (h : evaluateAirtableShadowRecord host shadow = .ok input.evaluation) :
    (∀ events outcome,
      Process.Runs (applyControlledAirtableInbound host input) events outcome →
      ∀ call answer, (⟨.operation call, answer⟩ : InboundEvent) ∈ events →
        call.Traced host shadow input.evaluation) ↔
      ¬ (input.HandsOver host ∧
        (StaleInAirtable shadow input.evaluation "speaker.requested_status" (saysCancelled host) ∨
          StaleInAirtable shadow input.evaluation "speaker.cancellation_note"
            (saysNote host.toHost))) := by
  constructor
  · rintro hall ⟨hrequest, hstale⟩
    have hrun := AirtableInboundInput.runs_handsOver hrequest h
    have htraced := hall _ _ hrun (input.cancellationCall host) _
      (List.mem_append_right _ List.mem_cons_self)
    exact (AirtableInboundInput.traced_cancellationCall_iff h).mp htraced hstale
  · intro hfresh events outcome hrun call answer hcall
    exact (AirtableInboundInput.emits_applyControlledAirtableInbound h hfresh).of_mem hrun _ hcall

end

/-- Both fields of a request come from Airtable. -/
theorem airtable_inbound_traced_request :
    evaluateAirtableShadowRecord plainLocale (speakerShadow none) =
      .ok (speakerEvaluation .null .create_request) ∧
    ∀ events outcome,
      Process.Runs (applyControlledAirtableInbound plainLocale
        (speakerInput (speakerEvaluation .null .create_request))) events outcome →
      ∀ call answer, (⟨.operation call, answer⟩ : InboundEvent) ∈ events →
        call.Traced plainLocale (speakerShadow none) (speakerEvaluation .null .create_request) := by
  have hevaluation : evaluateAirtableShadowRecord plainLocale (speakerShadow none) =
      .ok (speakerEvaluation .null .create_request) := by decide +kernel
  refine ⟨hevaluation, (airtable_inbound_traced_iff
    (speakerInput (speakerEvaluation .null .create_request)) hevaluation).mpr ?_⟩
  rintro ⟨-, ⟨houtbound, -⟩ | ⟨houtbound, -⟩⟩
  · exact absurd (houtbound _ (.tail _ (.head _)) rfl) (by decide)
  · exact absurd (houtbound _ (.head _) rfl) (by decide)

/-- An organizer asked to cancel, Airtable was not told yet, and a note is written there. -/
def notedShadow : AirtableShadowInput where
  mappings := speakerMappings
  baseline := fun _ => none
  «local» := fun key => if key = "speaker.requested_status" then some (.text "Cancelled") else none
  remote := fun id => if id = "fldNote" then some (.text "Travel changed") else none
  lastOutbound := none

def notedEvaluation : AirtableShadowEvaluation where
  fields := [
    { fieldKey := "speaker.cancellation_note", fieldId := "fldNote",
      mode := .request_from_airtable, dataClassification := .personal,
      base := .null, «local» := .null, remote := .text "Travel changed",
      disposition := .create_request },
    { fieldKey := "speaker.requested_status", fieldId := "fldStatus",
      mode := .request_from_airtable, dataClassification := .personal,
      base := .null, «local» := .text "Cancelled", remote := .null, disposition := .outbound }]
  hasConflict := false
  needsOutbound := true
  wouldApplyInbound := false
  wouldCreateRequest := true

/-- The note withdraws the organizer's request. -/
theorem note_withdraws_request :
    evaluateAirtableShadowRecord plainLocale notedShadow = .ok notedEvaluation ∧
    ∃ events outcome, Process.Runs
        (applyControlledAirtableInbound plainLocale (speakerInput notedEvaluation))
        events outcome ∧
      ∃ call answer, (⟨.operation call, answer⟩ : InboundEvent) ∈ events ∧
        ¬ call.Traced plainLocale notedShadow notedEvaluation := by
  have hevaluation : evaluateAirtableShadowRecord plainLocale notedShadow =
      .ok notedEvaluation := by decide +kernel
  have hstatus : (speakerInput notedEvaluation).fieldText plainLocale.toHost
      "speaker.requested_status" = none := by decide +kernel
  have hnote : (speakerInput notedEvaluation).fieldText plainLocale.toHost
      "speaker.cancellation_note" = some "Travel changed" := by decide +kernel
  have hrequest : (speakerInput notedEvaluation).HandsOver plainLocale := {
    agreed := by decide
    present := by decide
    noTask := by decide
    changed := by decide
    subject := rfl
    status := fun text htext => absurd (hstatus.symm.trans htext) nofun
    note := fun text htext => by
      rw [← Option.some.inj (hnote.symm.trans htext)]
      decide +kernel
    context := by decide +kernel }
  have hstale : StaleInAirtable notedShadow notedEvaluation "speaker.requested_status"
      (saysCancelled plainLocale) := by
    constructor
    · decide
    · decide +kernel
  refine ⟨hevaluation, _, _, AirtableInboundInput.runs_handsOver hrequest hevaluation, _, _,
    List.mem_append_right _ List.mem_cons_self, ?_⟩
  have htraced := AirtableInboundInput.traced_cancellationCall_iff
    (show evaluateAirtableShadowRecord plainLocale notedShadow =
      .ok (speakerInput notedEvaluation).evaluation from hevaluation)
  exact fun h => htraced.mp h (.inl hstale)

end JooEvents
