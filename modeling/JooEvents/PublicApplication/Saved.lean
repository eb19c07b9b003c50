import JooEvents.PublicApplication.Server

/-!
# What is saved

Whenever all edits count as saved, the server holds the answers of the session at its draft
version (`PublicApplicationSystem.Sound`). This is kept by all steps but one : a begin that
succeeds counts edits as saved that were made before there was a draft (`NothingEntered`).

Answers are taken from the session only by adopting the server's draft. That a session is
honest, and that answers are dropped only by edits and by drafts that changed, holds of a run
exactly when these two events are harmless in it (`saved_indicator_iff`).
-/

namespace JooEvents

open PublicApplicationSession

/-- A reply is of the type of its request, and says the truth about what the server holds. -/
structure Informs (server : PublicApplicationServer) (request : PublicApplicationRequest)
    (reply : PublicApplicationReply) : Prop where
  fits : Fits request reply = true
  begun : ∀ formId continuation key formId' draft,
    request = .mutate formId continuation key (.begin formId') →
    reply = .mutate (.success (.begin draft)) → server.Holds draft.draftVersion .empty
  saved : ∀ formId continuation key expected answers draft,
    request = .mutate formId continuation key (.save expected answers) →
    reply = .mutate (.success (.save draft)) → server.Holds draft.draftVersion (.ofList answers)
  resumed : ∀ formId continuation data, request = .resume formId continuation →
    reply = .resume (.resume data) → server.Holds data.draft.draftVersion (.ofList data.answers)

theorem Serves.informs {server server' : PublicApplicationServer}
    {request : PublicApplicationRequest} {reply : PublicApplicationReply}
    (h : Serves server request server' reply) : Informs server' request reply := by
  cases h with
  | begin h =>
    refine ⟨rfl, ?_, nofun, nofun⟩
    rintro _ _ _ _ _ - ⟨⟩
    cases h
    exact ⟨_, List.mem_singleton.2 rfl, rfl, fun _ => rfl⟩
  | save h =>
    refine ⟨rfl, nofun, ?_, nofun⟩
    rintro _ _ _ _ _ _ ⟨⟩ ⟨⟩
    exact ⟨⟨_, _⟩, h.revisions ▸ List.mem_cons_self, rfl, fun _ => rfl⟩
  | submit _ | replay _ => exact ⟨rfl, nofun, nofun, nofun⟩
  | resume hcurrent hanswers =>
    refine ⟨rfl, nofun, nofun, ?_⟩
    rintro _ _ _ - ⟨⟩
    exact ⟨_, PublicApplicationServer.mem_of_current hcurrent, rfl, hanswers.symm⟩

theorem informs_of_not_informative {server : PublicApplicationServer}
    {request : PublicApplicationRequest} {reply : PublicApplicationReply}
    (hfits : Fits request reply = true) (h : Informative request reply = false) :
    Informs server request reply := by
  refine ⟨hfits, ?_, ?_, ?_⟩
  · rintro _ _ _ _ _ rfl rfl
    cases h
  · rintro _ _ _ _ _ _ rfl rfl
    cases h
  · rintro _ _ _ rfl rfl
    cases h

theorem Informs.step {options : PublicApplicationSessionOptions} {c c' : PublicApplicationSystem}
    {e : PublicApplicationEvent} {request : PublicApplicationRequest}
    {reply : PublicApplicationReply} (h : Informs c.server request reply)
    (hstep : PublicApplicationStep options c e c') : Informs c'.server request reply where
  fits := h.fits
  begun _ _ _ _ _ hrequest hreply := (h.begun _ _ _ _ _ hrequest hreply).step hstep
  saved _ _ _ _ _ _ hrequest hreply := (h.saved _ _ _ _ _ _ hrequest hreply).step hstep
  resumed _ _ _ hrequest hreply := (h.resumed _ _ _ hrequest hreply).step hstep

/-! ## The invariant -/

/-- When all edits count as saved, the server holds the answers of the session at its draft. -/
structure PublicApplicationSession.Synced (s : PublicApplicationSession)
    (server : PublicApplicationServer) : Prop where
  counted : s.savedEdits ≤ s.edits
  held : s.edits = s.savedEdits → ∀ draft ∈ s.draft, server.Holds draft.draftVersion s.answers

/-- The request under way is what the running work waits for. A save sends the answers there are
at that time. -/
def PublicApplicationSession.Asks (s : PublicApplicationSession)
    (request : Option PublicApplicationRequest) : Prop :=
  match s.running with
  | none | some .press => request = none
  | some (.mint _) => ∃ formId bootstrap, request = some (.mint formId bootstrap)
  | some .begin => ∃ formId continuation key formId',
      request = some (.mutate formId continuation key (.begin formId'))
  | some (.save attempted _) => attempted ≤ s.edits ∧
      ∃ formId continuation key expected answers,
        request = some (.mutate formId continuation key (.save expected answers)) ∧
          (attempted = s.edits → answers = s.answers.values)
  | some (.resume _) => ∃ formId continuation, request = some (.resume formId continuation)
  | some .submit => ∃ formId continuation key expected,
      request = some (.mutate formId continuation key (.submit expected))

/-- What holds after every step. -/
structure PublicApplicationSystem.Sound (c : PublicApplicationSystem) : Prop where
  synced : c.session.Synced c.server
  asks : c.session.Asks c.network.request
  informs : ∀ request reply, c.network = .replied request reply → Informs c.server request reply

/-- What holds after work. -/
structure WorkedSound (server : PublicApplicationServer) (work : Worked) : Prop where
  synced : work.1.Synced server
  asks : work.1.Asks work.2

section Work

variable {options : PublicApplicationSessionOptions} {server : PublicApplicationServer}
  {s : PublicApplicationSession}

theorem over_sound (h : s.Synced server) : WorkedSound server (s.workOver, none) :=
  ⟨⟨h.counted, h.held⟩, rfl⟩

theorem afterSave_sound (h : s.Synced server) (caller : SaveCaller) :
    WorkedSound server (s.afterSave caller, none) := by
  cases caller with
  | flush => exact over_sound h
  | submit => exact ⟨⟨h.counted, h.held⟩, rfl⟩

theorem afterReconcile_sound (h : s.Synced server) (settled : Bool) (caller : ResumeCaller) :
    WorkedSound server (s.afterReconcile settled caller, none) := by
  cases caller with
  | start =>
    cases settled with
    | false => exact ⟨⟨h.counted, h.held⟩, rfl⟩
    | true => exact over_sound h
  | save caller => exact afterSave_sound h caller
  | submit => exact over_sound h

theorem reconcileFromServer_sound (h : s.Synced server) (caller : ResumeCaller) :
    WorkedSound server (reconcileFromServer options s caller) := by
  unfold reconcileFromServer
  split
  · exact afterReconcile_sound h false caller
  · exact ⟨⟨h.counted, h.held⟩, _, _, rfl⟩

theorem mint_sound (h : s.Synced server) (second : Bool) :
    WorkedSound server (mint options s second) :=
  ⟨⟨h.counted, h.held⟩, _, _, rfl⟩

theorem start_sound (h : s.Synced server) : WorkedSound server (start options s) := by
  unfold start
  have hstarting : { s with phase := .starting, transport := none }.Synced server :=
    ⟨h.counted, h.held⟩
  split
  · dsimp only
    split
    · exact reconcileFromServer_sound hstarting .start
    · exact mint_sound hstarting false
  · exact over_sound h

theorem saveNow_sound (h : s.Synced server) (caller : SaveCaller) :
    WorkedSound server (saveNow options s caller) := by
  unfold saveNow
  split
  · split
    · exact ⟨⟨h.counted, h.held⟩, le_refl _, _, _, _, _, _, rfl, fun _ => rfl⟩
    · exact afterSave_sound h caller
  · exact afterSave_sound h caller

theorem press_sound (h : s.Synced server) : WorkedSound server (press options s) := by
  unfold press
  split
  · split
    · exact ⟨⟨h.counted, h.held⟩, _, _, _, _, rfl⟩
    · exact over_sound h
  · exact over_sound h

theorem turn_sound (h : s.Synced server) {work : Worked} (hturn : s.turn options = some work) :
    WorkedSound server work := by
  have hqueue : ∀ queue, { s with queue }.Synced server := fun _ => ⟨h.counted, h.held⟩
  unfold turn at hturn
  split at hturn <;> cases hturn
  · exact press_sound h
  · exact start_sound (hqueue _)
  · exact saveNow_sound (hqueue _) .flush
  · exact saveNow_sound (hqueue _) .submit

theorem receiveMint_sound (h : s.Synced server) (second : Bool)
    (result : PublicApplicationMintResult) :
    WorkedSound server (receiveMint options s second result) := by
  cases result with
  | issued continuation expiresAt => exact ⟨⟨h.counted, h.held⟩, _, _, _, _, rfl⟩
  | already_issued expiresAt =>
    cases second with
    | false => exact mint_sound h true
    | true => exact over_sound ⟨h.counted, h.held⟩
  | rejected | not_available | transport_error error => exact over_sound ⟨h.counted, h.held⟩

theorem receiveResume_sound (h : s.Synced server) (caller : ResumeCaller)
    (result : PublicApplicationResumeResult)
    (hresumed : ∀ data, result = .resume data →
      server.Holds data.draft.draftVersion (.ofList data.answers)) :
    WorkedSound server (receiveResume options s caller result, none) := by
  cases result with
  | resume data =>
    refine afterReconcile_sound ⟨le_refl _, ?_⟩ true caller
    rintro - _ ⟨⟩
    exact hresumed data rfl
  | submitted submission | stopped | transport_error error =>
    refine afterReconcile_sound ?_ _ caller
    exact ⟨h.counted, h.held⟩

theorem receiveBegin_sound (h : s.Synced server) (result : PublicApplicationMutateResult)
    (hbegun : ∀ draft, result = .success (.begin draft) →
      server.Holds draft.draftVersion s.answers) :
    WorkedSound server (receiveBegin options s result) := by
  cases result with
  | success data =>
    cases data with
    | begin draft =>
      refine over_sound ⟨le_refl _, ?_⟩
      rintro - _ ⟨⟩
      exact hbegun draft rfl
    | save draft | submit submission => exact over_sound ⟨h.counted, h.held⟩
  | outcome outcome =>
    rw [receiveBegin]
    split
    · exact reconcileFromServer_sound h .start
    · exact over_sound ⟨h.counted, h.held⟩
  | stopped | transport_error error => exact over_sound ⟨h.counted, h.held⟩

theorem receiveSave_sound (h : s.Synced server) {attempted : ℕ} (hattempted : attempted ≤ s.edits)
    (caller : SaveCaller) (result : PublicApplicationMutateResult)
    (hsaved : ∀ draft, result = .success (.save draft) → attempted = s.edits →
      server.Holds draft.draftVersion s.answers) :
    WorkedSound server (receiveSave options s attempted caller result) := by
  cases result with
  | success data =>
    cases data with
    | save draft =>
      refine afterSave_sound ⟨hattempted, ?_⟩ caller
      rintro hedits _ ⟨⟩
      exact hsaved draft rfl hedits.symm
    | begin draft | submit submission =>
      refine afterSave_sound ?_ caller
      exact ⟨h.counted, h.held⟩
  | outcome outcome =>
    rw [receiveSave]
    split
    · refine reconcileFromServer_sound ?_ (.save caller)
      exact ⟨h.counted, h.held⟩
    · refine afterSave_sound ?_ caller
      exact ⟨h.counted, h.held⟩
  | stopped | transport_error error =>
    refine afterSave_sound ?_ caller
    exact ⟨h.counted, h.held⟩

theorem receiveSubmit_sound (h : s.Synced server) (result : PublicApplicationMutateResult) :
    WorkedSound server (receiveSubmit options s result) := by
  cases result with
  | success data => cases data <;> exact over_sound ⟨h.counted, h.held⟩
  | outcome outcome =>
    rw [receiveSubmit]
    split
    · refine reconcileFromServer_sound ?_ .submit
      exact ⟨h.counted, h.held⟩
    · exact over_sound ⟨h.counted, h.held⟩
  | stopped | transport_error error => exact over_sound ⟨h.counted, h.held⟩

/-- Nothing was entered before a begin that succeeds. -/
def PublicApplicationSession.NothingEntered (s : PublicApplicationSession)
    (reply : PublicApplicationReply) : Prop :=
  s.running = some .begin → ∀ draft, reply = .mutate (.success (.begin draft)) →
    ∀ fieldId, s.answers.get fieldId = none

theorem receive_sound (h : s.Synced server) {request : PublicApplicationRequest}
    (hasks : s.Asks (some request)) {reply : PublicApplicationReply}
    (hinforms : Informs server request reply) (hentered : s.NothingEntered reply) :
    WorkedSound server (receive options s reply) := by
  have hfits := hinforms.fits
  cases hrunning : s.running with
  | none => simp [Asks, hrunning] at hasks
  | some point =>
    simp only [Asks, hrunning] at hasks
    cases point with
    | press => cases hasks
    | mint second =>
      obtain ⟨_, _, ⟨⟩⟩ := hasks
      cases reply with
      | mint result =>
        simp only [receive, hrunning]
        exact receiveMint_sound h second result
      | resume result | mutate result => cases hfits
    | begin =>
      obtain ⟨_, _, _, _, ⟨⟩⟩ := hasks
      cases reply with
      | mutate result =>
        simp only [receive, hrunning]
        refine receiveBegin_sound h result ?_
        rintro draft rfl
        obtain ⟨revision, hmem, hversion, hagree⟩ := hinforms.begun _ _ _ _ draft rfl rfl
        exact ⟨revision, hmem, hversion, hagree.trans fun fieldId =>
          (hentered hrunning draft rfl fieldId).symm⟩
      | resume result | mint result => cases hfits
    | save attempted caller =>
      obtain ⟨hattempted, _, _, _, _, answers, ⟨⟩, hanswers⟩ := hasks
      cases reply with
      | mutate result =>
        simp only [receive, hrunning]
        refine receiveSave_sound h hattempted caller result ?_
        rintro draft rfl hedits
        obtain ⟨revision, hmem, hversion, hagree⟩ := hinforms.saved _ _ _ _ _ draft rfl rfl
        rw [hanswers hedits] at hagree
        exact ⟨revision, hmem, hversion, hagree.trans (KeyedMap.ofList_values _)⟩
      | resume result | mint result => cases hfits
    | resume caller =>
      obtain ⟨_, _, ⟨⟩⟩ := hasks
      cases reply with
      | resume result =>
        simp only [receive, hrunning]
        refine receiveResume_sound h caller result ?_
        rintro data rfl
        exact hinforms.resumed _ _ data rfl rfl
      | mutate result | mint result => cases hfits
    | submit =>
      obtain ⟨_, _, _, _, ⟨⟩⟩ := hasks
      cases reply with
      | mutate result =>
        simp only [receive, hrunning]
        exact receiveSubmit_sound h result
      | resume result | mint result => cases hfits

/-! ## Steps -/

theorem edited_synced (h : s.Synced server) (answers : AnswerMap) :
    { s with answers, edits := s.edits + 1, autosave := true }.Synced server :=
  ⟨Nat.le_succ_of_le h.counted, fun hedits => absurd h.counted (by simp at hedits; omega)⟩

theorem edited_asks {request : Option PublicApplicationRequest} (h : s.Asks request)
    (answers : AnswerMap) :
    { s with answers, edits := s.edits + 1, autosave := true }.Asks request := by
  unfold Asks at h ⊢
  dsimp only
  split at h
  all_goals try exact h
  obtain ⟨hattempted, formId, continuation, key, expected, sent, hrequest, -⟩ := h
  exact ⟨Nat.le_succ_of_le hattempted, formId, continuation, key, expected, sent, hrequest,
    fun hedits => absurd hattempted (by omega)⟩

end Work

section Steps

variable {options : PublicApplicationSessionOptions} {c c' : PublicApplicationSystem}
  {e : PublicApplicationEvent}

theorem PublicApplicationSystem.Sound.edited (h : c.Sound) (answers : AnswerMap) :
    { c with session :=
      { c.session with answers, edits := c.session.edits + 1, autosave := true } }.Sound :=
  ⟨edited_synced h.synced answers, edited_asks h.asks answers, h.informs⟩

theorem WorkedSound.system {work : Worked} (h : WorkedSound c.server work) :
    (c.worked work).Sound := by
  obtain ⟨session, request⟩ := work
  cases request with
  | none => exact ⟨h.synced, h.asks, nofun⟩
  | some request => exact ⟨h.synced, h.asks, nofun⟩

theorem PublicApplicationSession.Synced.step {s : PublicApplicationSession}
    (h : s.Synced c.server) (hstep : PublicApplicationStep options c e c') : s.Synced c'.server :=
  ⟨h.counted, fun hedits draft hdraft => (h.held hedits draft hdraft).step hstep⟩

/-- Nothing was entered before a begin that succeeds, at a step. -/
def BeginsEmpty (c : PublicApplicationSystem) (e : PublicApplicationEvent)
    (_ : PublicApplicationSystem) : Prop :=
  e = .receive → ∀ request reply, c.network = .replied request reply →
    c.session.NothingEntered reply

theorem PublicApplicationSystem.Sound.step (h : c.Sound)
    (hstep : PublicApplicationStep options c e c') (hempty : BeginsEmpty c e c') : c'.Sound := by
  have hsame := hstep
  cases hstep with
  | setAnswer answer =>
    unfold setAnswer
    split
    · exact h
    · exact h.edited _
  | clearAnswer fieldId =>
    unfold clearAnswer
    split
    · exact h
    · split
      · exact h
      · exact h.edited _
  | start | flush | submit | autosave _ =>
    exact ⟨⟨h.synced.counted, h.synced.held⟩, h.asks, h.informs⟩
  | turn hturn => exact (turn_sound h.synced hturn).system
  | serve hsent hserves =>
    refine ⟨h.synced.step hsame, ?_, ?_⟩
    · have hasks := h.asks
      rw [hsent] at hasks
      exact hasks
    · rintro _ _ ⟨⟩
      exact hserves.informs
  | answer hrequest hfits hreply =>
    refine ⟨h.synced, ?_, ?_⟩
    · have hasks := h.asks
      rw [hrequest] at hasks
      exact hasks
    · rintro _ _ ⟨⟩
      exact informs_of_not_informative hfits hreply
  | receive hreply =>
    have hasks := h.asks
    rw [hreply] at hasks
    exact (receive_sound h.synced hasks (h.informs _ _ hreply) (hempty rfl _ _ hreply)).system
  | elsewhere hchanges =>
    exact ⟨h.synced.step hsame, h.asks, fun _ _ hreply => (h.informs _ _ hreply).step hsame⟩

/-! ## Answers -/

section Answers

variable {s : PublicApplicationSession}

@[simp] theorem afterSave_answers (s : PublicApplicationSession) (caller : SaveCaller) :
    (s.afterSave caller).answers = s.answers := by
  cases caller <;> rfl

@[simp] theorem afterReconcile_answers (s : PublicApplicationSession) (settled : Bool)
    (caller : ResumeCaller) : (s.afterReconcile settled caller).answers = s.answers := by
  cases caller with
  | start => cases settled <;> rfl
  | save caller => exact afterSave_answers s caller
  | submit => rfl

@[simp] theorem reconcileFromServer_answers (s : PublicApplicationSession) (caller : ResumeCaller) :
    (reconcileFromServer options s caller).1.answers = s.answers := by
  unfold reconcileFromServer
  split
  · exact afterReconcile_answers s false caller
  · rfl

theorem turn_answers {work : Worked} (h : s.turn options = some work) :
    work.1.answers = s.answers := by
  unfold turn at h
  split at h <;> cases h
  · unfold press
    split <;> try split
    all_goals rfl
  · unfold start
    split
    · dsimp only
      split
      · rw [reconcileFromServer_answers]
      · rfl
    · rfl
  all_goals
    unfold saveNow
    split <;> try split
    all_goals rfl

theorem receive_answers (s : PublicApplicationSession) (reply : PublicApplicationReply) :
    (receive options s reply).1.answers = s.answers ∨
      ∃ caller data, s.running = some (.resume caller) ∧ reply = .resume (.resume data) := by
  unfold receive
  split
  · next result _ =>
    refine Or.inl ?_
    cases result with
    | already_issued expiresAt =>
      rw [receiveMint]
      split <;> rfl
    | _ => rfl
  · next result _ =>
    refine Or.inl ?_
    cases result with
    | success data => cases data <;> rfl
    | outcome outcome =>
      rw [receiveBegin]
      split
      · exact reconcileFromServer_answers _ _
      · rfl
    | _ => rfl
  · next result _ =>
    refine Or.inl ?_
    cases result with
    | success data => cases data <;> exact afterSave_answers _ _
    | outcome outcome =>
      rw [receiveSave]
      split
      · exact reconcileFromServer_answers _ _
      · exact afterSave_answers _ _
    | _ => exact afterSave_answers _ _
  · next caller result hrunning =>
    cases result with
    | resume data => exact Or.inr ⟨caller, data, hrunning, rfl⟩
    | _ => exact Or.inl (afterReconcile_answers _ _ _)
  · next result _ =>
    refine Or.inl ?_
    cases result with
    | success data => cases data <;> rfl
    | outcome outcome =>
      rw [receiveSubmit]
      split
      · exact reconcileFromServer_answers _ _
      · rfl
    | _ => rfl
  · exact Or.inl rfl

theorem receive_resume (options : PublicApplicationSessionOptions) {caller : ResumeCaller}
    (hrunning : s.running = some (.resume caller)) (data : PublicApplicationDraftResume) :
    (receive options s (.resume (.resume data))).1.answers = .ofList data.answers ∧
      (receive options s (.resume (.resume data))).1.draft = some data.draft ∧
      ((receive options s (.resume (.resume data))).1.refusal = some .draft_changed ↔
        caller ≠ .start) := by
  simp only [receive, hrunning]
  cases caller with
  | start => exact ⟨rfl, rfl, nofun, fun h => absurd rfl h⟩
  | save caller => cases caller <;> exact ⟨rfl, rfl, fun _ => nofun, fun _ => rfl⟩
  | submit => exact ⟨rfl, rfl, fun _ => nofun, fun _ => rfl⟩

end Answers

/-! ## Honesty -/

/-- When the session is ready with nothing unsaved, the server holds its answers at its draft. -/
def PublicApplicationSystem.Honest (c : PublicApplicationSystem) : Prop :=
  c.session.phase = .ready → c.session.dirty = false →
    ∀ draft ∈ c.session.draft, c.server.Holds draft.draftVersion c.session.answers

def PublicApplicationEvent.Edits : PublicApplicationEvent → ApplicationId → Prop
  | .setAnswer given, fieldId => given.fieldId = fieldId
  | .clearAnswer cleared, fieldId => cleared = fieldId
  | _, _ => False

/-- Answers are dropped only by edits, and by adopting a draft that changed, which is reported. -/
def AnswersKept (c : PublicApplicationSystem) (e : PublicApplicationEvent)
    (c' : PublicApplicationSystem) : Prop :=
  ∀ fieldId answer, c.session.answers.get fieldId = some answer →
    c'.session.answers.get fieldId = some answer ∨ e.Edits fieldId ∨
      (e = .receive ∧ c'.session.refusal = some .draft_changed ∧
        c'.session.draft ≠ c.session.draft)

/-- A draft that is adopted holds the answers of the session, or is another one than the session
has, and not adopted by `start`. -/
def PublicApplicationSession.KeepsAnswers (s : PublicApplicationSession)
    (reply : PublicApplicationReply) : Prop :=
  ∀ caller data, s.running = some (.resume caller) → reply = .resume (.resume data) →
    (caller ≠ .start ∧ s.draft ≠ some data.draft) ∨
      ∀ fieldId answer, s.answers.get fieldId = some answer →
        (KeyedMap.ofList data.answers : AnswerMap).get fieldId = some answer

/-- The replies that a step takes in are harmless. -/
def HarmlessReplies (c : PublicApplicationSystem) (e : PublicApplicationEvent)
    (_ : PublicApplicationSystem) : Prop :=
  e = .receive → ∀ request reply, c.network = .replied request reply →
    c.session.NothingEntered reply ∧ c.session.KeepsAnswers reply

theorem PublicApplicationSystem.Sound.honest (h : c.Sound) : c.Honest := by
  intro _ hdirty draft hdraft
  exact h.synced.held (by simpa [dirty] using hdirty) draft hdraft

theorem answersKept_of_eq (h : c'.session.answers = c.session.answers) : AnswersKept c e c' :=
  fun _ _ hget => Or.inl (h ▸ hget)

theorem answersKept_of_harmless (hstep : PublicApplicationStep options c e c')
    (hharmless : HarmlessReplies c e c') : AnswersKept c e c' := by
  cases hstep with
  | setAnswer answer =>
    intro fieldId old hget
    by_cases hfield : answer.fieldId = fieldId
    · exact Or.inr (Or.inl hfield)
    · refine Or.inl ?_
      unfold setAnswer
      split
      · exact hget
      · exact (KeyedMap.get_set _ _ _).trans ((if_neg hfield).trans hget)
  | clearAnswer cleared =>
    intro fieldId old hget
    by_cases hfield : cleared = fieldId
    · exact Or.inr (Or.inl hfield)
    · refine Or.inl ?_
      unfold clearAnswer
      split
      · exact hget
      · split
        · exact hget
        · exact (KeyedMap.get_delete _ _ _).trans ((if_neg (Ne.symm hfield)).trans hget)
  | turn hturn => exact answersKept_of_eq (turn_answers hturn)
  | @receive request reply hreply =>
    rcases receive_answers c.session reply with hanswers | ⟨caller, data, hrunning, rfl⟩
    · exact answersKept_of_eq hanswers
    · obtain ⟨hanswers, hdraft, hrefusal⟩ := receive_resume options hrunning data
      intro fieldId old hget
      rcases (hharmless rfl _ _ hreply).2 caller data hrunning rfl with ⟨hcaller, hchanged⟩ | hkept
      · exact Or.inr (Or.inr ⟨rfl, hrefusal.2 hcaller, fun hsame =>
          hchanged (hsame.symm.trans hdraft)⟩)
      · exact Or.inl ((congrArg (KeyedMap.get · fieldId) hanswers).trans (hkept fieldId old hget))
  | _ => exact answersKept_of_eq rfl

theorem nothingEntered_of_honest (h : c.Sound) {request : PublicApplicationRequest}
    {reply : PublicApplicationReply} (hreply : c.network = .replied request reply)
    (hhonest : (c.worked (c.session.receive options reply)).Honest) :
    c.session.NothingEntered reply := by
  rintro hrunning draft rfl fieldId
  have hasks := h.asks
  rw [hreply] at hasks
  simp only [Asks, hrunning] at hasks
  obtain ⟨_, _, _, _, ⟨⟩⟩ := hasks
  have hempty := (h.informs _ _ hreply).begun _ _ _ _ draft rfl rfl
  simp only [receive, hrunning, receiveBegin] at hhonest
  have hheld := hhonest rfl (by simp [dirty, PublicApplicationSystem.worked, workOver]) draft rfl
  exact (hheld.agree hempty fieldId).trans (KeyedMap.get_empty fieldId)

theorem keepsAnswers_of_answersKept {reply : PublicApplicationReply}
    (hkept : AnswersKept c .receive (c.worked (c.session.receive options reply))) :
    c.session.KeepsAnswers reply := by
  rintro caller data hrunning rfl
  obtain ⟨hanswers, hdraft, hrefusal⟩ := receive_resume options hrunning data
  by_cases hchanged : caller ≠ .start ∧ c.session.draft ≠ some data.draft
  · exact Or.inl hchanged
  · refine Or.inr fun fieldId answer hget => ?_
    rcases hkept fieldId answer hget with hsame | hedits | ⟨-, hreported, hdiffers⟩
    · exact (congrArg (KeyedMap.get · fieldId) hanswers).symm.trans hsame
    · exact hedits.elim
    · exact absurd ⟨hrefusal.1 hreported, fun hsame => hdiffers (hdraft.trans hsame.symm)⟩ hchanged

theorem honest_step_iff (h : c.Sound) (hstep : PublicApplicationStep options c e c') :
    c'.Honest ∧ AnswersKept c e c' ↔ HarmlessReplies c e c' := by
  constructor
  · rintro ⟨hhonest, hkept⟩ rfl request reply hreply
    cases hstep with
    | receive hreply' =>
      cases hreply.symm.trans hreply'
      exact ⟨nothingEntered_of_honest h hreply hhonest, keepsAnswers_of_answersKept hkept⟩
  · intro hharmless
    exact ⟨(h.step hstep fun he request reply hreply => (hharmless he request reply hreply).1).honest,
      answersKept_of_harmless hstep hharmless⟩

end Steps

theorem sound_initial (options : PublicApplicationSessionOptions)
    (server : PublicApplicationServer) :
    (⟨createPublicApplicationSession options, server, .quiet⟩ : PublicApplicationSystem).Sound :=
  ⟨⟨le_refl 0, nofun⟩, rfl, nofun⟩

/-- In a run, every state is honest and every step keeps the answers exactly when all replies that
are taken in are harmless. -/
theorem saved_indicator_iff {options : PublicApplicationSessionOptions}
    {server : PublicApplicationServer}
    {steps : List (PublicApplicationSystem × PublicApplicationEvent × PublicApplicationSystem)}
    {final : PublicApplicationSystem} (hrun : PublicApplicationRun options server steps final) :
    Trace.All (fun c e c' => c'.Honest ∧ AnswersKept c e c') steps ↔
      Trace.All HarmlessReplies steps :=
  Trace.all_iff (sound_initial options server)
    (fun h hstep hharmless =>
      h.step hstep fun he request reply hreply => (hharmless he request reply hreply).1)
    (fun h hstep => honest_step_iff h hstep) hrun

namespace SessionExample

def options : PublicApplicationSessionOptions :=
  { formId := .ofNat 1
    target := none
    continuation := none
    newIdempotencyKey := fun _ => "key"
    newBootstrap := fun _ => "bootstrap" }

def server : PublicApplicationServer := ⟨[], List.Pairwise.nil, none⟩

def answer : TransientApplicationAnswer := ⟨.ofNat 2, .line .text "Ada"⟩

def second : Version := ⟨2, isPositiveSafe_two⟩

def begun : PublicApplicationServer :=
  ⟨[⟨.one, .empty⟩], List.pairwise_singleton _ _, none⟩

def saved : PublicApplicationServer :=
  ⟨[⟨second, .ofList [answer]⟩, ⟨.one, .empty⟩], by decide, none⟩

theorem saves : begun.Saves .one (.ofList [answer]) second saved :=
  ⟨⟨_, rfl, rfl⟩, by decide, rfl, rfl⟩

def issued : PublicApplicationReply := .mint (.issued "continuation" (.yearStart 2026))

def offline : PublicApplicationReply :=
  .mutate (.transport_error { code := "network_unavailable", retryable := true })

end SessionExample

open SessionExample in
/-- An answer that is given before the session starts counts as saved with the empty draft. -/
theorem saved_before_start :
    ∃ steps final, PublicApplicationRun options server steps final ∧
      ¬ Trace.All (fun c e c' => c'.Honest ∧ AnswersKept c e c') steps := by
  have hstart : PublicApplicationRun options server [] _ := .nil
  have hrun := hstart.snoc (.setAnswer answer) |>.snoc .start |>.snoc (.turn rfl)
    |>.snoc (.answer rfl (rfl : Fits _ issued = true) rfl) |>.snoc (.receive rfl)
    |>.snoc (.serve rfl (.begin .intro)) |>.snoc (.receive rfl)
  refine ⟨_, _, hrun, fun hall => ?_⟩
  have hhonest := (Trace.all_snoc.1 hall).2.1
  obtain ⟨revision, hmem, -, hagree⟩ := hhonest rfl rfl ⟨.one⟩ rfl
  obtain rfl := List.mem_singleton.1 hmem
  exact absurd (hagree (.ofNat 2)) (by decide +kernel)

open SessionExample in
/-- Given once the session has started, the answer is saved. -/
theorem saved_indicator_iff_after_start :
    ∃ steps final, PublicApplicationRun options server steps final ∧
      final.session.answers.get (.ofNat 2) = some answer ∧
      publicApplicationSaveStatusView final.session = some .saved ∧
      Trace.All (fun c e c' => c'.Honest ∧ AnswersKept c e c') steps := by
  have hstart : PublicApplicationRun options server [] _ := .nil
  have hrun := hstart.snoc .start |>.snoc (.turn rfl)
    |>.snoc (.answer rfl (rfl : Fits _ issued = true) rfl) |>.snoc (.receive rfl)
    |>.snoc (.serve rfl (.begin .intro)) |>.snoc (.receive rfl) |>.snoc (.setAnswer answer)
    |>.snoc .flush |>.snoc (.turn rfl) |>.snoc (.serve rfl (.save saves)) |>.snoc (.receive rfl)
  refine ⟨_, _, hrun, rfl, rfl, (saved_indicator_iff hrun).2 ?_⟩
  simp only [Trace.all_snoc, Trace.all_nil, true_and]
  refine ⟨⟨⟨⟨⟨⟨⟨⟨⟨⟨by rintro ⟨⟩, by rintro ⟨⟩⟩, by rintro ⟨⟩⟩, ?_⟩, by rintro ⟨⟩⟩, ?_⟩, by rintro ⟨⟩⟩,
    by rintro ⟨⟩⟩, by rintro ⟨⟩⟩, by rintro ⟨⟩⟩, ?_⟩
  · rintro - _ _ ⟨⟩
    exact ⟨by rintro ⟨⟩, by rintro _ _ ⟨⟩⟩
  · rintro - _ _ ⟨⟩
    exact ⟨fun _ _ _ _ => rfl, by rintro _ _ ⟨⟩⟩
  · rintro - _ _ ⟨⟩
    exact ⟨by rintro ⟨⟩, by rintro _ _ ⟨⟩⟩

end JooEvents
