import JooEvents.Session.Model

/-!
# Engagements

An engagement is what has become of the invitation of a person to a session. Its head is
invited, confirmed, declined or cancelled, and says where the invitation came from : rows
that the acceptance of a submission seeded are stamped with the decision that seeded them.

A head of the type `EngagementHead` satisfies its schema. A store holds heads with at most
one for each session and person (`EngagementStore`).
-/

namespace JooEvents

open Fallible

variable {D : Type}

/-! ## Heads -/

/-- The scope of engagements : a workspace and an event. -/
abbrev EngagementScope := ProgramVocabularyScope

/-- The decision that seeded an engagement : its version and its digest. -/
structure EngagementSeedProvenance (D : Type) where
  version : Version
  digestSha256 : D
  deriving DecidableEq

/-- `engagementStateSchema`. -/
inductive EngagementState where
  | invited | confirmed | declined | cancelled
  deriving DecidableEq

/-- Whose act a confirmation was. -/
inductive EngagementConfirmationAttribution where
  | self | co_speaker | organizer_recorded
  deriving DecidableEq

/-- A confirmation. -/
structure EngagementConfirmation where
  attribution : EngagementConfirmationAttribution
  personId : ApplicationId
  recordedByUserId : Option ApplicationId
  confirmedAt : Instant
  deriving DecidableEq

/-- Who requests a cancellation. -/
inductive CancellationRequester where
  | speaker | organizer
  deriving DecidableEq

/-- A request to cancel. -/
structure EngagementCancellationRequest where
  requestedBy : CancellationRequester
  requestedAt : Instant
  note : Option String
  deriving DecidableEq

/-- A head, before its schema is checked. -/
structure EngagementHeadDto (D : Type) where
  id : ApplicationId
  scope : EngagementScope
  sessionId : ApplicationId
  personId : ApplicationId
  submissionId : Option ApplicationId
  seededByDecision : Option (EngagementSeedProvenance D)
  state : EngagementState
  invitedAt : Instant
  respondBy : Option Instant
  confirmation : Option EngagementConfirmation
  cancellationRequest : Option EngagementCancellationRequest
  cancelledAt : Option Instant
  source : SessionRosterSourceRef
  version : Version
  deriving DecidableEq

def engagementConfirmationSchema (confirmation : EngagementConfirmation) : Bool :=
  decide (confirmation.attribution = .organizer_recorded ↔ confirmation.recordedByUserId.isSome)

def engagementHeadSchema (host : Host D) (head : EngagementHeadDto D) : Bool :=
  sourceSchema host head.source &&
    head.confirmation.all engagementConfirmationSchema &&
    head.cancellationRequest.all (fun request => request.note.all (isCanonicalText host 500)) &&
    decide ((head.state = .cancelled) ↔ head.cancelledAt.isSome) &&
    decide (head.state = .confirmed → head.confirmation.isSome) &&
    decide (head.state = .invited ∨ head.state = .declined → head.confirmation = none) &&
    decide (head.state = .declined → head.cancellationRequest = none) &&
    head.confirmation.all (fun confirmation =>
      decide (confirmation.attribution = .self → confirmation.personId = head.personId) &&
        decide (confirmation.attribution = .co_speaker → confirmation.personId ≠ head.personId)) &&
    decide (head.source.kind = "submission" →
      head.submissionId.map (·.val) = some head.source.id) &&
    decide (head.submissionId.isSome → head.source.kind = "submission") &&
    decide (head.submissionId.isSome ↔ head.seededByDecision.isSome)

abbrev EngagementHead (host : Host D) :=
  {head : EngagementHeadDto D // engagementHeadSchema host head = true}

/-- The scope, session and person that a head is the only one of. -/
def EngagementHead.pair {host : Host D} (head : EngagementHead host) :
    EngagementScope × ApplicationId × ApplicationId :=
  (head.val.scope, head.val.sessionId, head.val.personId)

inductive EngagementPlanningErrorCode where
  | wrong_scope | engagement_missing | stale_engagement | invalid_transition
  | cancellation_already_requested | cancellation_not_requested | invalid_plan

inductive EngagementSeedErrorCode where
  | wrong_scope | seed_stale | seed_row_missing | engagement_advanced | invalid_plan

/-- What is thrown : a planning error about an engagement, a seed error about a person, a
conflict in the store, or the error of a schema. -/
inductive EngagementError where
  | planning (code : EngagementPlanningErrorCode) (engagementId : ApplicationId)
  | seed (code : EngagementSeedErrorCode) (personId : ApplicationId)
  | stale_engagement
  | seed_conflict
  | thrown

def parseEngagementHead (host : Host D) (head : EngagementHeadDto D) :
    Except EngagementError (EngagementHead host) :=
  if h : engagementHeadSchema host head = true then .ok ⟨head, h⟩ else .error .thrown

@[simp] theorem parseEngagementHead_eq_ok {host : Host D} {head : EngagementHeadDto D}
    {parsed : EngagementHead host} :
    parseEngagementHead host head = .ok parsed ↔ parsed.val = head := by
  unfold parseEngagementHead
  split
  · rw [Except.ok.injEq, Subtype.ext_iff, eq_comm]
  · rename_i h
    constructor
    · intro h'
      cases h'
    · intro h'
      exact absurd (h' ▸ parsed.property) h

/-- A UUID from the hexadecimal digits of a digest, with the nibbles of its version and its
variant put in. -/
def uuidOfDigest (hex : CanonicalSha256) : ApplicationId :=
  ⟨String.ofList (hex.val.toList.take 8 ++ ['-'] ++ (hex.val.toList.drop 8).take 4 ++ ['-'] ++ ['4'] ++
      (hex.val.toList.drop 13).take 3 ++ ['-'] ++ ['8'] ++ (hex.val.toList.drop 17).take 3 ++
      ['-'] ++ (hex.val.toList.drop 20).take 12), by
    obtain ⟨hlength, hall⟩ := of_matchesShape_replicate hex.property
    have hslice : ∀ start length, start + length ≤ 64 →
        matchesShape (List.replicate length isHexChar)
          ((hex.val.toList.drop start).take length) = true := fun start length hle =>
      matchesShape_replicate (by simp; omega)
        fun c hc => hall c (List.mem_of_mem_drop (List.mem_of_mem_take hc))
    rw [isApplicationId, String.toList_ofList]
    have h0 := hslice 0 8 (by decide)
    rw [List.drop_zero] at h0
    have htail := hslice 20 12 (by decide)
    refine matchesShape_append ?_ htail
    exact matchesShape_append (matchesShape_append (matchesShape_append (matchesShape_append
      (matchesShape_append (matchesShape_append (matchesShape_append (matchesShape_append
        (matchesShape_append h0 (by decide)) (hslice 8 4 (by decide))) (by decide)) (by decide))
        (hslice 13 3 (by decide))) (by decide)) (by decide)) (hslice 17 3 (by decide))) (by decide)⟩

/-- `deterministicEngagementId`, where `hex` writes a digest. -/
def deterministicEngagementId (host : Host D) (hex : D → CanonicalSha256) (scope : EngagementScope)
    (sessionId personId : ApplicationId) : ApplicationId :=
  uuidOfDigest <| hex <| host.sha256 <| Json.canonicalize host.nfc <| .obj
    [("domain", .text "engagement_head"), ("eventId", toJson scope.eventId),
      ("personId", toJson personId), ("sessionId", toJson sessionId),
      ("workspaceId", toJson scope.workspaceId)]

/-- The engagements there are, at most one for each session and person. -/
structure EngagementStore (host : Host D) where
  heads : List (EngagementHead host)
  nodup : (heads.map EngagementHead.pair).Nodup

namespace EngagementStore

variable {host : Host D} [DecidableEq D]

omit [DecidableEq D] in
@[ext] theorem ext {store store' : EngagementStore host} (h : store.heads = store'.heads) :
    store = store' := by
  cases store
  cases store'
  cases h
  rfl

def readEngagementHead (store : EngagementStore host) (scope : EngagementScope)
    (engagementId : ApplicationId) : Option (EngagementHead host) :=
  store.heads.find? fun head => head.val.scope = scope ∧ head.val.id = engagementId

def readSessionPersonEngagement (store : EngagementStore host) (scope : EngagementScope)
    (sessionId personId : ApplicationId) : Option (EngagementHead host) :=
  store.heads.find? fun head => head.pair = (scope, sessionId, personId)

/-- `listSeededEngagements` : the rows of a submission on a session, in the order of their
persons. -/
def listSeededEngagements (store : EngagementStore host) (scope : EngagementScope)
    (sessionId submissionId : ApplicationId) : List (EngagementHead host) :=
  (store.heads.filter fun head => head.val.scope = scope ∧ head.val.submissionId = some submissionId ∧
    head.val.sessionId = sessionId).insertionSort fun left right =>
      left.val.personId ≤ right.val.personId

def insertHead (store : EngagementStore host) (head : EngagementHead host) :
    Except EngagementError (EngagementStore host) :=
  if h : head.pair ∈ store.heads.map EngagementHead.pair then .error .seed_conflict
  else .ok
    { heads := store.heads ++ [head]
      nodup := by
        rw [List.map_append]
        exact store.nodup.append (List.nodup_singleton _) (by simpa using h) }

omit [DecidableEq D] in
theorem eq_of_pair_eq (store : EngagementStore host) {head head' : EngagementHead host}
    (hmem : head ∈ store.heads) (hmem' : head' ∈ store.heads) (h : head.pair = head'.pair) :
    head = head' :=
  Keyed.eq_of_key_eq store.nodup hmem hmem' h

/-- `updateHead` : the row that is `expected` becomes `next`. -/
def updateHead (store : EngagementStore host) (expected next : EngagementHead host) :
    Except EngagementError (EngagementStore host) :=
  if h : expected ∈ store.heads ∧ next.pair = expected.pair then .ok
    { heads := store.heads.map fun head => if head = expected then next else head
      nodup := by
        have hpairs : store.heads.map (EngagementHead.pair ∘
            fun head => if head = expected then next else head) =
              store.heads.map EngagementHead.pair := by
          refine List.map_congr_left fun head _ => ?_
          rw [Function.comp_apply]
          split
          · next heq => rw [h.2, heq]
          · rfl
        rw [List.map_map, hpairs]
        exact store.nodup }
  else .error .stale_engagement

def deleteSeededHead (store : EngagementStore host) (expected : EngagementHead host) :
    Except EngagementError (EngagementStore host) :=
  if expected ∈ store.heads ∧ expected.val.version = .one ∧ expected.val.state = .invited then .ok
    { heads := store.heads.filter fun head => head ≠ expected
      nodup := store.nodup.sublist (List.filter_sublist.map _) }
  else .error .stale_engagement

end EngagementStore

end JooEvents
