import JooEvents.PublicApplication.Saved

/-!
# What is submitted

A submission saves first, and then names the version of the draft that it has. Whatever became of
the save, it goes on as long as the session is ready : also when the save failed, and when there
was an edit meanwhile (`submitted_after_failed_save`).

Where neither happens (`Undisturbed`), every edit counts as saved when the request is sent
(`PublicApplicationSession.Pressed`), so the version it names holds what the applicant had
entered, then and later (`submit_carries`).
-/

namespace JooEvents

open PublicApplicationSession

/-! ## Undisturbed submissions -/

/-- A submission waits for its save, or has it behind it and is about to be sent. -/
def PublicApplicationSession.Pressing (s : PublicApplicationSession) : Prop :=
  (∃ attempted, s.running = some (.save attempted .submit)) ∨
    (s.running = some .press ∧ s.phase = .ready)

/-- The save of a submission succeeds, or finds the session stopped, or a changed draft that can
then be read. -/
structure PublicApplicationSession.SettlesSave (s : PublicApplicationSession)
    (reply : PublicApplicationReply) : Prop where
  save : ∀ attempted, s.running = some (.save attempted .submit) →
    (∃ draft, reply = .mutate (.success (.save draft))) ∨
      (∃ outcome, reply = .mutate (.outcome outcome) ∧ outcome.isChanged = true) ∨
      reply = .mutate .stopped
  resume : s.running = some (.resume (.save .submit)) →
    ∀ error, reply ≠ .resume (.transport_error error)

/-- Nothing was entered before a begin that succeeds, no submission goes on after a save that
failed, and nothing is edited while one saves. -/
def Undisturbed (c : PublicApplicationSystem) (e : PublicApplicationEvent)
    (_ : PublicApplicationSystem) : Prop :=
  match e with
  | .setAnswer _ => ¬ c.session.Pressing
  | .clearAnswer fieldId => c.session.Pressing → c.session.answers.get fieldId = none
  | .receive => ∀ request reply, c.network = .replied request reply →
      c.session.NothingEntered reply ∧ c.session.SettlesSave reply
  | _ => True

/-- What holds of a submission on its way : all edits are in the save that it waits for, and all
count as saved when it is about to be sent. -/
structure PublicApplicationSession.Pressed (s : PublicApplicationSession) : Prop where
  saving : ∀ attempted, s.running = some (.save attempted .submit) →
    attempted = s.edits ∧ s.continuation.isSome = true
  pressed : s.running = some .press → s.phase = .ready → s.draft.isSome = true →
    s.continuation.isSome = true → s.edits = s.savedEdits

section Work

variable {options : PublicApplicationSessionOptions} {s : PublicApplicationSession}

theorem pressed_of_running (h : ∀ attempted, s.running ≠ some (.save attempted .submit))
    (hpress : s.running ≠ some .press) : s.Pressed :=
  ⟨fun attempted hrunning => absurd hrunning (h attempted), fun hrunning => absurd hrunning hpress⟩

theorem over_pressed (s : PublicApplicationSession) : s.workOver.Pressed :=
  pressed_of_running nofun nofun

theorem reconcileFromServer_pressed (s : PublicApplicationSession) {caller : ResumeCaller}
    (h : caller = .save .submit → s.continuation.isSome = true) :
    (reconcileFromServer options s caller).1.Pressed := by
  unfold reconcileFromServer
  split
  · next hnone =>
    cases caller with
    | start => exact pressed_of_running nofun nofun
    | save caller =>
      cases caller with
      | flush => exact over_pressed s
      | submit => exact absurd (h rfl) (by simp [hnone])
    | submit => exact over_pressed s
  · exact pressed_of_running nofun nofun

theorem saveNow_pressed (s : PublicApplicationSession) (caller : SaveCaller) :
    (saveNow options s caller).1.Pressed := by
  cases caller with
  | flush =>
    unfold saveNow
    split <;> try split
    all_goals exact pressed_of_running nofun nofun
  | submit =>
    unfold saveNow
    split
    · next hdraft hcontinuation =>
      split
      · refine ⟨?_, nofun⟩
        rintro _ ⟨⟩
        exact ⟨rfl, by simp [mutate, hcontinuation]⟩
      · next hsaved =>
        refine ⟨nofun, fun _ hphase _ _ => ?_⟩
        by_contra hedits
        exact hsaved ⟨hphase, hedits⟩
    · next hnone =>
      refine ⟨nofun, fun _ _ hdraft hcontinuation => ?_⟩
      obtain ⟨draft, hdraft⟩ := Option.isSome_iff_exists.1 hdraft
      obtain ⟨continuation, hcontinuation⟩ := Option.isSome_iff_exists.1 hcontinuation
      exact absurd hcontinuation (hnone draft continuation hdraft)

theorem turn_pressed {work : Worked} (h : s.turn options = some work) : work.1.Pressed := by
  unfold turn at h
  split at h <;> cases h
  · unfold press
    split <;> try split
    all_goals exact pressed_of_running nofun nofun
  · unfold start
    split
    · dsimp only
      split
      · exact reconcileFromServer_pressed _ nofun
      · exact pressed_of_running nofun nofun
    · exact over_pressed _
  · exact saveNow_pressed _ .flush
  · exact saveNow_pressed _ .submit

theorem receiveMint_pressed (s : PublicApplicationSession) (second : Bool)
    (result : PublicApplicationMintResult) : (receiveMint options s second result).1.Pressed := by
  cases result with
  | issued continuation expiresAt => exact pressed_of_running nofun nofun
  | already_issued expiresAt =>
    cases second with
    | false => exact pressed_of_running nofun nofun
    | true => exact over_pressed _
  | rejected | not_available | transport_error error => exact over_pressed _

theorem receiveBegin_pressed (s : PublicApplicationSession)
    (result : PublicApplicationMutateResult) : (receiveBegin options s result).1.Pressed := by
  cases result with
  | success data => cases data <;> exact pressed_of_running (by rintro _ ⟨⟩) (by rintro ⟨⟩)
  | outcome outcome =>
    rw [receiveBegin]
    split
    · exact reconcileFromServer_pressed s (by rintro ⟨⟩)
    · exact over_pressed _
  | stopped | transport_error error => exact pressed_of_running (by rintro _ ⟨⟩) (by rintro ⟨⟩)

theorem receiveSave_flush_pressed (s : PublicApplicationSession) (attempted : ℕ)
    (result : PublicApplicationMutateResult) :
    (receiveSave options s attempted .flush result).1.Pressed := by
  cases result with
  | success data => cases data <;> exact over_pressed _
  | outcome outcome =>
    rw [receiveSave]
    split
    · exact reconcileFromServer_pressed _ (by rintro ⟨⟩)
    · exact over_pressed _
  | stopped | transport_error error => exact over_pressed _

theorem receiveSave_submit_pressed (h : s.Pressed) {attempted : ℕ}
    (hrunning : s.running = some (.save attempted .submit)) {result : PublicApplicationMutateResult}
    (hsettles : s.SettlesSave (.mutate result)) :
    (receiveSave options s attempted .submit result).1.Pressed := by
  obtain ⟨hattempted, hcontinuation⟩ := h.saving attempted hrunning
  rcases hsettles.save attempted hrunning with ⟨draft, ⟨⟩⟩ | ⟨outcome, ⟨⟩, hchanged⟩ | ⟨⟨⟩⟩
  · exact ⟨by rintro _ ⟨⟩, fun _ _ _ _ => hattempted.symm⟩
  · rw [receiveSave, if_pos hchanged]
    exact reconcileFromServer_pressed _ fun _ => hcontinuation
  · exact ⟨by rintro _ ⟨⟩, by rintro _ ⟨⟩⟩

theorem receiveResume_pressed {caller : ResumeCaller} (hrunning : s.running = some (.resume caller))
    {result : PublicApplicationResumeResult} (hsettles : s.SettlesSave (.resume result)) :
    (receiveResume options s caller result).Pressed := by
  cases caller with
  | start => cases result <;> exact pressed_of_running nofun nofun
  | submit => cases result <;> exact over_pressed _
  | save caller =>
    cases caller with
    | flush => cases result <;> exact over_pressed _
    | submit =>
      cases result with
      | resume data => exact ⟨nofun, fun _ _ _ _ => rfl⟩
      | submitted submission | stopped => exact ⟨nofun, nofun⟩
      | transport_error error => exact absurd rfl (hsettles.resume hrunning error)

theorem receiveSubmit_pressed (s : PublicApplicationSession)
    (result : PublicApplicationMutateResult) : (receiveSubmit options s result).1.Pressed := by
  cases result with
  | success data => cases data <;> exact over_pressed _
  | outcome outcome =>
    rw [receiveSubmit]
    split
    · exact reconcileFromServer_pressed _ (by rintro ⟨⟩)
    · exact over_pressed _
  | stopped | transport_error error => exact over_pressed _

theorem receive_pressed (h : s.Pressed) {reply : PublicApplicationReply}
    (hsettles : s.SettlesSave reply) : (receive options s reply).1.Pressed := by
  unfold receive
  split
  · exact receiveMint_pressed s _ _
  · exact receiveBegin_pressed s _
  · next attempted caller result hrunning =>
    cases caller with
    | flush => exact receiveSave_flush_pressed s attempted result
    | submit => exact receiveSave_submit_pressed h hrunning hsettles
  · next hrunning => exact receiveResume_pressed hrunning hsettles
  · exact receiveSubmit_pressed s _
  · exact h

end Work

/-! ## Steps -/

section Steps

variable {options : PublicApplicationSessionOptions} {c c' : PublicApplicationSystem}
  {e : PublicApplicationEvent}

theorem edited_pressed {s : PublicApplicationSession} (hpressing : ¬ s.Pressing)
    (answers : AnswerMap) :
    { s with answers, edits := s.edits + 1, autosave := true }.Pressed :=
  ⟨fun attempted hrunning => absurd (Or.inl ⟨attempted, hrunning⟩) hpressing,
    fun hrunning hphase => absurd (Or.inr ⟨hrunning, hphase⟩) hpressing⟩

theorem PublicApplicationSession.Pressed.step (h : c.session.Pressed)
    (hstep : PublicApplicationStep options c e c') (hundisturbed : Undisturbed c e c') :
    c'.session.Pressed := by
  cases hstep with
  | setAnswer answer =>
    unfold setAnswer
    split
    · exact h
    · exact edited_pressed hundisturbed _
  | clearAnswer fieldId =>
    unfold clearAnswer
    split
    · exact h
    · split
      · exact h
      · next hheld => exact edited_pressed (fun hpressing => hheld (by simp [hundisturbed hpressing])) _
  | start | flush | submit | autosave _ => exact ⟨h.saving, h.pressed⟩
  | turn hturn => exact turn_pressed hturn
  | receive hreply => exact receive_pressed h (hundisturbed _ _ hreply).2
  | serve _ _ | answer _ _ _ | elsewhere _ => exact h

def PublicApplicationSystem.Submits (c c' : PublicApplicationSystem) (version : Version) : Prop :=
  c.network = .quiet ∧ ∃ formId continuation key,
    c'.network = .sent (.mutate formId continuation key (.submit version))

theorem turn_submits {s : PublicApplicationSession} {work : Worked} (h : s.turn options = some work)
    {formId : ApplicationId} {continuation key : String} {version : Version}
    (hrequest : work.2 = some (.mutate formId continuation key (.submit version))) :
    s.running = some .press ∧ s.phase = .ready ∧ s.continuation.isSome = true ∧
      s.draft = some ⟨version⟩ ∧ work.1.answers = s.answers := by
  unfold turn at h
  split at h <;> cases h
  · next hrunning =>
    unfold press at hrequest ⊢
    split at hrequest
    · next draft _ hdraft hcontinuation =>
      split at hrequest
      · next hphase =>
        cases hrequest
        refine ⟨hrunning, hphase, by simp [hcontinuation], hdraft, ?_⟩
        simp only [hdraft, hcontinuation, hphase, if_true]
      · cases hrequest
    · cases hrequest
  · unfold start reconcileFromServer at hrequest
    dsimp only at hrequest
    split at hrequest <;> try split at hrequest
    all_goals try split at hrequest
    all_goals cases hrequest
  all_goals
    unfold saveNow at hrequest
    split at hrequest <;> try split at hrequest
    all_goals cases hrequest

/-- What holds after every step of undisturbed submissions. -/
structure PublicApplicationSystem.Carrying (c : PublicApplicationSystem) : Prop where
  sound : c.Sound
  pressed : c.session.Pressed

theorem PublicApplicationSystem.Carrying.step (h : c.Carrying)
    (hstep : PublicApplicationStep options c e c') (hundisturbed : Undisturbed c e c') :
    c'.Carrying := by
  refine ⟨h.sound.step hstep ?_, h.pressed.step hstep hundisturbed⟩
  rintro rfl request reply hreply
  exact (hundisturbed request reply hreply).1

theorem PublicApplicationSystem.Carrying.holds (h : c.Carrying)
    (hstep : PublicApplicationStep options c e c') (version : Version)
    (hsubmits : c.Submits c' version) : c'.server.Holds version c'.session.answers := by
  obtain ⟨hquiet, formId, continuation, key, hsent⟩ := hsubmits
  cases hstep with
  | @turn work hturn =>
    obtain ⟨session, request⟩ := work
    cases request with
    | none => cases hsent
    | some request =>
      cases hsent
      obtain ⟨hrunning, hphase, hcontinuation, hdraft, hanswers⟩ := turn_submits hturn rfl
      have hedits := h.pressed.pressed hrunning hphase (by simp [hdraft]) hcontinuation
      have hheld := h.sound.synced.held hedits ⟨version⟩ hdraft
      rwa [← hanswers] at hheld
  | serve hnetwork _ => exact absurd (hquiet.symm.trans hnetwork) nofun
  | answer hrequest _ _ => exact absurd (hquiet ▸ hrequest) nofun
  | receive hnetwork => exact absurd (hquiet.symm.trans hnetwork) nofun
  | _ => exact absurd (hquiet.symm.trans hsent) nofun

theorem holds_final {start final : PublicApplicationSystem}
    {steps : List (PublicApplicationSystem × PublicApplicationEvent × PublicApplicationSystem)}
    (hrun : Trace (PublicApplicationStep options) start steps final) {version : Version}
    {answers : AnswerMap} (hmem : (c, e, c') ∈ steps) (h : c'.server.Holds version answers) :
    final.server.Holds version answers := by
  induction hrun with
  | nil => cases hmem
  | snoc _ hstep ih =>
    rcases List.mem_append.1 hmem with hmem | hmem
    · exact (ih hmem).step hstep
    · cases List.mem_singleton.1 hmem
      exact h

end Steps

/-- In a run of undisturbed submissions, the version that a request to submit names holds the
answers of the session when it is sent, from then on. -/
theorem submit_carries {options : PublicApplicationSessionOptions} {server : PublicApplicationServer}
    {steps : List (PublicApplicationSystem × PublicApplicationEvent × PublicApplicationSystem)}
    {final : PublicApplicationSystem} (hrun : PublicApplicationRun options server steps final)
    (hundisturbed : Trace.All Undisturbed steps) :
    Trace.All (fun c _ c' => ∀ version, c.Submits c' version →
      c'.server.Holds version c'.session.answers ∧
        final.server.Holds version c'.session.answers) steps := by
  have hstart : PublicApplicationSystem.Carrying
      ⟨createPublicApplicationSession options, server, .quiet⟩ :=
    ⟨sound_initial options server, nofun, nofun⟩
  have hheld := Trace.all_of hstart (fun h hstep hcond => h.step hstep hcond)
    (fun h hstep _ => h.holds hstep) hrun hundisturbed
  intro c e c' hmem version hsubmits
  have hversion := hheld c e c' hmem version hsubmits
  exact ⟨hversion, holds_final hrun hmem hversion⟩

open SessionExample

/-- A submission goes on after its save failed, and names the draft without the answer. -/
theorem submitted_after_failed_save :
    ∃ steps final, PublicApplicationRun options server steps final ∧
      ¬ Trace.All (fun c _ c' => ∀ version, c.Submits c' version →
        c'.server.Holds version c'.session.answers ∧
          final.server.Holds version c'.session.answers) steps := by
  have hstart : PublicApplicationRun options server [] _ := .nil
  have hrun := hstart.snoc .start |>.snoc (.turn rfl)
    |>.snoc (.answer rfl (rfl : Fits _ issued = true) rfl) |>.snoc (.receive rfl)
    |>.snoc (.serve rfl (.begin .intro)) |>.snoc (.receive rfl) |>.snoc (.setAnswer answer)
    |>.snoc .submit |>.snoc (.turn rfl) |>.snoc (.answer rfl (rfl : Fits _ offline = true) rfl)
    |>.snoc (.receive rfl) |>.snoc (.turn rfl)
  refine ⟨_, _, hrun, fun hall => ?_⟩
  obtain ⟨revision, hmem, -, hagree⟩ :=
    ((Trace.all_snoc.1 hall).2 .one ⟨rfl, _, _, _, rfl⟩).1
  obtain rfl := List.mem_singleton.1 hmem
  exact absurd (hagree (.ofNat 2)) (by decide +kernel)

/-- After a save that succeeds, the submission names the draft with the answer. -/
theorem submit_carries_after_save :
    ∃ steps final, PublicApplicationRun options server steps final ∧
      final.session.phase = .submitting ∧ final.session.draft = some ⟨second⟩ ∧
      Trace.All (fun c _ c' => ∀ version, c.Submits c' version →
        c'.server.Holds version c'.session.answers ∧
          final.server.Holds version c'.session.answers) steps := by
  have hstart : PublicApplicationRun options server [] _ := .nil
  have hrun := hstart.snoc .start |>.snoc (.turn rfl)
    |>.snoc (.answer rfl (rfl : Fits _ issued = true) rfl) |>.snoc (.receive rfl)
    |>.snoc (.serve rfl (.begin .intro)) |>.snoc (.receive rfl) |>.snoc (.setAnswer answer)
    |>.snoc .submit |>.snoc (.turn rfl) |>.snoc (.serve rfl (.save saves)) |>.snoc (.receive rfl)
    |>.snoc (.turn rfl)
  refine ⟨_, _, hrun, rfl, rfl, submit_carries hrun ?_⟩
  simp only [Trace.all_snoc, Trace.all_nil, true_and]
  refine ⟨⟨⟨⟨⟨⟨⟨⟨⟨⟨⟨trivial, trivial⟩, trivial⟩, ?_⟩, trivial⟩, ?_⟩, ?_⟩, trivial⟩, trivial⟩,
    trivial⟩, ?_⟩, trivial⟩
  · rintro _ _ ⟨⟩
    exact ⟨nofun, nofun, nofun⟩
  · rintro _ _ ⟨⟩
    exact ⟨fun _ _ _ _ => rfl, nofun, nofun⟩
  · rintro (⟨_, ⟨⟩⟩ | ⟨⟨⟩, -⟩)
  · rintro _ _ ⟨⟩
    exact ⟨nofun, fun _ _ => Or.inl ⟨_, rfl⟩, nofun⟩

end JooEvents
