import JooEvents.Lib.Trace
import JooEvents.PublicApplication.Session

/-!
# The session and its server

The server keeps the answers of every version of the draft, and takes a save or a submission for
the current version only. Others with the same continuation use it too, from another tab.

A run is any interleaving of edits, calls, timers, turns of the work, and of what happens to the
request under way : the server does it and replies, or some other reply comes that says nothing
of what the server did (a refusal, a stop, a failure of the transport), also after the server did
it. What a version holds is never changed (`Holds.step`).
-/

namespace JooEvents

/-- What is stored of a version of the draft. -/
structure PublicApplicationRevision where
  draftVersion : Version
  answers : AnswerMap

/-- The versions of the draft, the current one first, and the version that was submitted. -/
structure PublicApplicationServer where
  revisions : List PublicApplicationRevision
  sorted : revisions.Pairwise fun newer older => older.draftVersion < newer.draftVersion
  submitted : Option Version

namespace PublicApplicationServer

variable {server server' : PublicApplicationServer}

/-- The current version, unless the draft is submitted. -/
def current (server : PublicApplicationServer) : Option PublicApplicationRevision :=
  if server.submitted.isSome then none else server.revisions.head?

theorem mem_of_current {revision : PublicApplicationRevision}
    (h : server.current = some revision) : revision ∈ server.revisions := by
  unfold current at h
  split at h
  · cases h
  · exact List.mem_of_mem_head? h

def Holds (server : PublicApplicationServer) (version : Version) (answers : AnswerMap) : Prop :=
  ∃ revision ∈ server.revisions, revision.draftVersion = version ∧ revision.answers.Agree answers

/-- A draft without answers. -/
inductive Begins : PublicApplicationServer → PublicApplicationServer → Prop where
  | intro : Begins ⟨[], List.Pairwise.nil, none⟩
      ⟨[⟨.one, .empty⟩], List.pairwise_singleton _ _, none⟩

/-- A save for the current version makes the next one. -/
structure Saves (server : PublicApplicationServer) (expected : Version) (answers : AnswerMap)
    (version : Version) (server' : PublicApplicationServer) : Prop where
  current : ∃ revision, server.current = some revision ∧ revision.draftVersion = expected
  next : nextAggregateVersion expected = some version
  revisions : server'.revisions = ⟨version, answers⟩ :: server.revisions
  submitted : server'.submitted = server.submitted

/-- A submission for the current version. -/
structure Submits (server : PublicApplicationServer) (expected : Version)
    (server' : PublicApplicationServer) : Prop where
  current : ∃ revision, server.current = some revision ∧ revision.draftVersion = expected
  revisions : server'.revisions = server.revisions
  submitted : server'.submitted = some expected

/-- What the server does for anyone. -/
inductive Changes (server server' : PublicApplicationServer) : Prop where
  | begin (h : server.Begins server')
  | save {expected version : Version} {answers : AnswerMap}
      (h : server.Saves expected answers version server')
  | submit {expected : Version} (h : server.Submits expected server')

theorem Changes.subset (h : server.Changes server') : server.revisions ⊆ server'.revisions := by
  cases h with
  | begin h =>
    cases h
    exact List.nil_subset _
  | save h => exact h.revisions ▸ List.subset_cons_self _ _
  | submit h => exact h.revisions ▸ List.Subset.refl _

theorem Holds.agree {version : Version} {answers answers' : AnswerMap}
    (h : server.Holds version answers) (h' : server.Holds version answers') :
    answers.Agree answers' := by
  obtain ⟨revision, hmem, rfl, hagree⟩ := h
  obtain ⟨revision', hmem', hversion, hagree'⟩ := h'
  have hnodup : (server.revisions.map (·.draftVersion)).Nodup :=
    (List.pairwise_map.2 server.sorted).imp ne_of_gt
  obtain rfl := Keyed.eq_of_key_eq hnodup hmem' hmem hversion
  exact hagree.symm.trans hagree'

end PublicApplicationServer

/-- The server does what a request asks for, and says so. -/
inductive Serves (server : PublicApplicationServer) :
    PublicApplicationRequest → PublicApplicationServer → PublicApplicationReply → Prop where
  | begin {formId formId' : ApplicationId} {continuation key : String}
      {server' : PublicApplicationServer} (h : server.Begins server') :
      Serves server (.mutate formId continuation key (.begin formId')) server'
        (.mutate (.success (.begin ⟨.one⟩)))
  | save {formId : ApplicationId} {continuation key : String} {expected version : Version}
      {answers : List TransientApplicationAnswer} {server' : PublicApplicationServer}
      (h : server.Saves expected (.ofList answers) version server') :
      Serves server (.mutate formId continuation key (.save expected answers)) server'
        (.mutate (.success (.save ⟨version⟩)))
  | submit {formId : ApplicationId} {continuation key : String} {expected : Version}
      {server' : PublicApplicationServer} {submission : PublicApplicationSubmitResult}
      (h : server.Submits expected server') :
      Serves server (.mutate formId continuation key (.submit expected)) server'
        (.mutate (.success (.submit submission)))
  | replay {formId : ApplicationId} {continuation key : String} {expected : Version}
      {submission : PublicApplicationSubmitResult} (h : server.submitted.isSome) :
      Serves server (.mutate formId continuation key (.submit expected)) server
        (.mutate (.success (.submit submission)))
  | resume {formId : ApplicationId} {continuation : String} {revision : PublicApplicationRevision}
      {answers : List TransientApplicationAnswer} (hcurrent : server.current = some revision)
      (hanswers : (KeyedMap.ofList answers : AnswerMap).Agree revision.answers) :
      Serves server (.resume formId continuation) server
        (.resume (.resume ⟨⟨revision.draftVersion⟩, answers⟩))

def Fits : PublicApplicationRequest → PublicApplicationReply → Bool
  | .mint _ _, .mint _ | .resume _ _, .resume _ | .mutate _ _ _ _, .mutate _ => true
  | _, _ => false

/-- A reply says that the server did what was asked for, or what it holds. -/
def Informative : PublicApplicationRequest → PublicApplicationReply → Bool
  | .resume _ _, .resume (.resume _)
  | .mutate _ _ _ (.begin _), .mutate (.success (.begin _))
  | .mutate _ _ _ (.save _ _), .mutate (.success (.save _))
  | .mutate _ _ _ (.submit _), .mutate (.success (.submit _)) => true
  | _, _ => false

/-! ## Steps -/

/-- What is under way : nothing, a request, or the reply to it. -/
inductive PublicApplicationNetwork where
  | quiet
  | sent (request : PublicApplicationRequest)
  | replied (request : PublicApplicationRequest) (reply : PublicApplicationReply)

def PublicApplicationNetwork.request : PublicApplicationNetwork → Option PublicApplicationRequest
  | .quiet => none
  | .sent request | .replied request _ => some request

/-- A session and its server. -/
structure PublicApplicationSystem where
  session : PublicApplicationSession
  server : PublicApplicationServer
  network : PublicApplicationNetwork

/-- After work, with the request that it waits on. -/
def PublicApplicationSystem.worked (c : PublicApplicationSystem)
    (work : PublicApplicationSession.Worked) : PublicApplicationSystem :=
  { c with
    session := work.1
    network := match work.2 with
      | none => .quiet
      | some request => .sent request }

/-- What happens. -/
inductive PublicApplicationEvent where
  | setAnswer (answer : TransientApplicationAnswer)
  | clearAnswer (fieldId : ApplicationId)
  | start | flush | submit
  | autosave
  | turn
  | serve
  | answer
  | receive
  | elsewhere

/-- The steps of a session and its server. -/
inductive PublicApplicationStep (options : PublicApplicationSessionOptions)
    (c : PublicApplicationSystem) : PublicApplicationEvent → PublicApplicationSystem → Prop where
  | setAnswer (answer : TransientApplicationAnswer) :
      PublicApplicationStep options c (.setAnswer answer)
        { c with session := c.session.setAnswer answer }
  | clearAnswer (fieldId : ApplicationId) :
      PublicApplicationStep options c (.clearAnswer fieldId)
        { c with session := c.session.clearAnswer fieldId }
  | start : PublicApplicationStep options c .start { c with session := c.session.callStart }
  | flush : PublicApplicationStep options c .flush { c with session := c.session.callFlush }
  | submit : PublicApplicationStep options c .submit { c with session := c.session.callSubmit }
  | autosave (h : c.session.autosave = true) :
      PublicApplicationStep options c .autosave { c with session := c.session.fireAutosave }
  | turn {work : PublicApplicationSession.Worked} (h : c.session.turn options = some work) :
      PublicApplicationStep options c .turn (c.worked work)
  | serve {request : PublicApplicationRequest} {server' : PublicApplicationServer}
      {reply : PublicApplicationReply} (hsent : c.network = .sent request)
      (h : Serves c.server request server' reply) :
      PublicApplicationStep options c .serve
        { c with server := server', network := .replied request reply }
  | answer {request : PublicApplicationRequest} {reply : PublicApplicationReply}
      (hrequest : c.network.request = some request) (hfits : Fits request reply = true)
      (h : Informative request reply = false) :
      PublicApplicationStep options c .answer { c with network := .replied request reply }
  | receive {request : PublicApplicationRequest} {reply : PublicApplicationReply}
      (hreply : c.network = .replied request reply) :
      PublicApplicationStep options c .receive (c.worked (c.session.receive options reply))
  | elsewhere {server' : PublicApplicationServer} (h : c.server.Changes server') :
      PublicApplicationStep options c .elsewhere { c with server := server' }

variable {options : PublicApplicationSessionOptions}

abbrev PublicApplicationRun (options : PublicApplicationSessionOptions)
    (server : PublicApplicationServer) :=
  Trace (PublicApplicationStep options) ⟨createPublicApplicationSession options, server, .quiet⟩

theorem Serves.changes {server server' : PublicApplicationServer}
    {request : PublicApplicationRequest} {reply : PublicApplicationReply}
    (h : Serves server request server' reply) : server.Changes server' ∨ server' = server := by
  cases h with
  | begin h => exact Or.inl (.begin h)
  | save h => exact Or.inl (.save h)
  | submit h => exact Or.inl (.submit h)
  | replay _ => exact Or.inr rfl
  | resume _ _ => exact Or.inr rfl

theorem PublicApplicationStep.subset {c c' : PublicApplicationSystem} {e : PublicApplicationEvent}
    (h : PublicApplicationStep options c e c') : c.server.revisions ⊆ c'.server.revisions := by
  cases h with
  | serve _ h =>
    rcases h.changes with hchanges | rfl
    · exact hchanges.subset
    · exact List.Subset.refl _
  | elsewhere h => exact h.subset
  | _ => exact List.Subset.refl _

theorem PublicApplicationServer.Holds.step {c c' : PublicApplicationSystem}
    {e : PublicApplicationEvent} {version : Version} {answers : AnswerMap}
    (h : c.server.Holds version answers) (hstep : PublicApplicationStep options c e c') :
    c'.server.Holds version answers := by
  obtain ⟨revision, hmem, hrevision⟩ := h
  exact ⟨revision, hstep.subset hmem, hrevision⟩

end JooEvents
