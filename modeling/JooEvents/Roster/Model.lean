import JooEvents.Lib.Fallible
import JooEvents.Program.Model

/-!
# The reviewer roster

Who may review an event, and which tracks, formats and sessions each of them is asked
to review. A record of the roster names the subject of the access owner it rests on.
The access owner reports what it knows of the subjects in a `ReviewerAuthoritySet`, the
owners of tracks, formats and sessions report theirs in a `ReviewerScopeTargetSet`.

Values carry the schemas of their fields. What a schema says of the fields together is
a predicate here (`rosterParses`, `authorityParses`, `targetsParse`), and so is the
comparison of the digests a value carries with those of its contents, for repositories
and sources hand out any value of the right shape.
-/

namespace JooEvents

variable {D : Type}

/-- The scope of reviews : a workspace and an event. -/
abbrev ReviewScope := ProgramVocabularyScope

/-- What a reviewer can be asked to review. -/
inductive ReviewScopeKind where
  | track | format | session
  deriving DecidableEq

/-- A track, a format or a session. -/
@[ext] structure ReviewScopeRef where
  kind : ReviewScopeKind
  id : ApplicationId
  deriving DecidableEq

/-- The place of a kind in the order of `compareScopeRef`. -/
def ReviewScopeKind.order : ReviewScopeKind → ℕ
  | .track => 0
  | .format => 1
  | .session => 2

/-- `compareScopeRef(left, right) < 0`. -/
def scopeRefLt (left right : ReviewScopeRef) : Prop :=
  if left.kind.order ≠ right.kind.order then left.kind.order < right.kind.order
  else left.id < right.id

instance (left right : ReviewScopeRef) : Decidable (scopeRefLt left right) := by
  unfold scopeRefLt
  infer_instance

theorem scopeRefLt_irrefl (ref : ReviewScopeRef) : ¬ scopeRefLt ref ref := by
  simp [scopeRefLt]

/-- `reviewerScopeRefsSchema` : at most 100 references in strict order. -/
abbrev ReviewScopeRefs :=
  {refs : List ReviewScopeRef // refs.length ≤ 100 ∧ refs.Pairwise scopeRefLt}

/-- The kinds of subjects of the access owner. -/
inductive ReviewerAuthoritySubjectKind where
  | access_reservation | workspace_membership
  deriving DecidableEq

/-- A subject of the access owner at a version. -/
@[ext] structure ReviewerAuthoritySubjectRef where
  kind : ReviewerAuthoritySubjectKind
  id : ApplicationId
  version : Version

/-- `sameAuthoritySubject` : versions do not matter. -/
def sameAuthoritySubject (left right : ReviewerAuthoritySubjectRef) : Bool :=
  decide (left.kind = right.kind ∧ left.id = right.id)

/-- The text of a kind, by which subjects are ordered. -/
def ReviewerAuthoritySubjectKind.text : ReviewerAuthoritySubjectKind → String
  | .access_reservation => "access_reservation"
  | .workspace_membership => "workspace_membership"

/-- `compareAuthoritySubject(left, right) < 0`. -/
def authoritySubjectLt (left right : ReviewerAuthoritySubjectRef) : Prop :=
  if left.kind ≠ right.kind then textLt left.kind.text right.kind.text else left.id < right.id

instance (left right : ReviewerAuthoritySubjectRef) :
    Decidable (authoritySubjectLt left right) := by
  unfold authoritySubjectLt
  infer_instance

/-- A reviewer is included, or was revoked by someone at some time. -/
inductive ReviewerRecordState where
  | included
  | revoked (revokedByUserId : ApplicationId) (revokedAt : Instant)
  deriving DecidableEq

/-- A record of the roster. -/
@[ext] structure ReviewerRosterRecord where
  scope : ReviewScope
  reviewerId : ApplicationId
  version : Version
  accessSubject : ReviewerAuthoritySubjectRef
  reviews : ReviewScopeRefs
  addedByUserId : ApplicationId
  addedAt : Instant
  state : ReviewerRecordState

/-- The roster of an event. -/
structure ReviewerRosterState (D : Type) where
  scope : ReviewScope
  version : Version
  digestSha256 : D
  reviewers : List ReviewerRosterRecord

/-- `reviewerRosterStateSchema`, over the fields together. -/
def rosterParses (state : ReviewerRosterState D) : Bool :=
  decide (state.reviewers.length ≤ 10000) &&
    state.reviewers.all (fun reviewer => reviewer.scope = state.scope) &&
    decide (state.reviewers.Pairwise fun a b => a.reviewerId < b.reviewerId)

/-- What the access owner knows of a subject : it is reserved, active, or not available. -/
inductive ReviewerFactState where
  | reserved | active | unavailable
  deriving DecidableEq

/-- An identity of evidence : trimmed text of 1 to 300 code units. -/
abbrev EvidenceId := {s : String // 1 ≤ textLength s ∧ textLength s ≤ 300 ∧ trimText s = s}

/-- The evidence of a fact : identities in strict order, or the one identity
`reviewer_authority_set:${digest}` of an authority set. -/
inductive FactEvidence (D : Type) where
  | ids (ids : {ids : List EvidenceId // ids ≠ [] ∧ ids.length ≤ 100 ∧
      ids.Pairwise fun a b => textLt a.val b.val})
  | authoritySet (digestSha256 : D)

/-- A name that is shown : trimmed text of 1 to 160 code units. -/
abbrev ReviewerDisplayName :=
  {s : String // 1 ≤ textLength s ∧ textLength s ≤ 160 ∧ trimText s = s}

/-- What the access owner knows of a subject of the roster. -/
structure ReviewerEligibilityFact (D : Type) where
  scope : ReviewScope
  rosterSubject : ReviewerAuthoritySubjectRef
  currentSubject : Option ReviewerAuthoritySubjectRef
  state : ReviewerFactState
  version : Version
  digestSha256 : D
  evidence : FactEvidence D
  displayName : Option ReviewerDisplayName

def reviewerCapabilityIds : List String :=
  ["event.read", "speaker.directory.read", "submission.read", "submission.score",
    "submission.comment", "schedule.read"]

/-- The capabilities a fact lists : all of them, or none where it is unavailable. -/
def ReviewerEligibilityFact.capabilityIds (fact : ReviewerEligibilityFact D) : List String :=
  match fact.state with
  | .unavailable => []
  | _ => reviewerCapabilityIds

/-- `reviewerEligibilityFactSchema`, over the fields together. -/
def factParses (fact : ReviewerEligibilityFact D) : Bool :=
  match fact.state, fact.currentSubject with
  | .unavailable, _ => true
  | _, none => false
  | .reserved, some current =>
    decide (fact.rosterSubject.kind = .access_reservation) &&
      sameAuthoritySubject current fact.rosterSubject
  | .active, some current => decide (current.kind = .workspace_membership)

/-- The facts of an event. -/
structure ReviewerAuthoritySet (D : Type) where
  scope : ReviewScope
  version : Version
  digestSha256 : D
  facts : List (ReviewerEligibilityFact D)

/-- `reviewerAuthoritySetSchema`, over the fields together. -/
def authorityParses (set : ReviewerAuthoritySet D) : Bool :=
  decide (set.facts.length ≤ 10000) &&
    set.facts.all (fun fact => factParses fact && decide (fact.scope = set.scope)) &&
    decide (set.facts.Pairwise fun a b => authoritySubjectLt a.rosterSubject b.rosterSubject)

/-- New scopes may name a target, or only scopes that name it already. -/
inductive ScopeTargetAssignability where
  | assignable | retained_only
  deriving DecidableEq

/-- What its owner knows of a track, a format or a session. -/
structure ReviewerScopeTargetFact (D : Type) where
  scope : ReviewScope
  ref : ReviewScopeRef
  version : Version
  digestSha256 : D
  assignability : ScopeTargetAssignability

/-- The targets of an event. -/
structure ReviewerScopeTargetSet (D : Type) where
  scope : ReviewScope
  version : Version
  digestSha256 : D
  targets : List (ReviewerScopeTargetFact D)

/-- `reviewerScopeTargetSetSchema`, over the fields together. -/
def targetsParse (set : ReviewerScopeTargetSet D) : Bool :=
  decide (set.targets.length ≤ 50000) &&
    set.targets.all (fun target => target.scope = set.scope) &&
    decide (set.targets.Pairwise fun a b => scopeRefLt a.ref b.ref)

/-- What planner and validator read. -/
structure ReviewerRosterMutationEnvironment (D : Type) where
  readReviewerRoster : ReviewScope → Option (ReviewerRosterState D)
  readReviewerAuthority : ReviewScope → Option (ReviewerAuthoritySet D)
  readReviewerScopeTargets : ReviewScope → Option (ReviewerScopeTargetSet D)

/-! ## Encodings -/

instance : AsciiText ReviewScopeKind where
  text
    | .track => "track"
    | .format => "format"
    | .session => "session"
  ascii kind := by cases kind <;> decide
  injective a b h := by
    cases a <;> cases b <;> first | rfl | exact absurd h (by decide)

instance : AsciiText ReviewerAuthoritySubjectKind where
  text := ReviewerAuthoritySubjectKind.text
  ascii kind := by cases kind <;> decide
  injective a b h := by
    cases a <;> cases b <;> first | rfl | exact absurd h (by decide)

instance : AsciiText ReviewerFactState where
  text
    | .reserved => "reserved"
    | .active => "active"
    | .unavailable => "unavailable"
  ascii state := by cases state <;> decide
  injective a b h := by
    cases a <;> cases b <;> first | rfl | exact absurd h (by decide)

instance : AsciiText ScopeTargetAssignability where
  text
    | .assignable => "assignable"
    | .retained_only => "retained_only"
  ascii assignability := by cases assignability <;> decide
  injective a b h := by
    cases a <;> cases b <;> first | rfl | exact absurd h (by decide)

instance : ToJson D ReviewScopeRef :=
  ⟨fun ref => .obj [("kind", toJson ref.kind), ("id", toJson ref.id)]⟩

instance : ExactJson D ReviewScopeRef :=
  ⟨fun {host a b} h => by
    have h := Iff.mp Host.canonicalize_record_iff h
    simp only [List.map_cons, List.map_nil, List.cons.injEq, canonicalize_toJson_eq_iff,
      Host.same_iff_eq, and_true] at h
    exact ReviewScopeRef.ext h.1 h.2⟩

instance : ToJson D ReviewScopeRefs := ⟨fun refs => toJson refs.val⟩

instance : ExactJson D ReviewScopeRefs :=
  ⟨fun {host a b} h => Subtype.ext (ExactJson.eq_of_same (show host.Same a.val b.val from h))⟩

instance : ToJson D ReviewerAuthoritySubjectRef :=
  ⟨fun subject => .obj [("kind", toJson subject.kind), ("id", toJson subject.id),
    ("version", toJson subject.version)]⟩

instance : ExactJson D ReviewerAuthoritySubjectRef :=
  ⟨fun {host a b} h => by
    have h := Iff.mp Host.canonicalize_record_iff h
    simp only [List.map_cons, List.map_nil, List.cons.injEq, canonicalize_toJson_eq_iff,
      Host.same_iff_eq, and_true] at h
    exact ReviewerAuthoritySubjectRef.ext h.1 h.2.1 h.2.2⟩

instance : ToJson D ReviewerRosterRecord :=
  ⟨fun record => .obj ([("schemaVersion", toJson (1 : ℕ)), ("scope", toJson record.scope),
      ("reviewerId", toJson record.reviewerId), ("version", toJson record.version),
      ("accessSubject", toJson record.accessSubject), ("reviews", toJson record.reviews),
      ("addedByUserId", toJson record.addedByUserId), ("addedAt", toJson record.addedAt)] ++
    match record.state with
    | .included => [("state", .text "included")]
    | .revoked revokedByUserId revokedAt =>
      [("state", .text "revoked"), ("revokedByUserId", toJson revokedByUserId),
        ("revokedAt", toJson revokedAt)])⟩

instance : ExactJson D ReviewerRosterRecord :=
  ⟨fun {host a b} h => by
    obtain ⟨scopea, ida, versiona, subjecta, reviewsa, bya, ata, statea⟩ := a
    obtain ⟨scopeb, idb, versionb, subjectb, reviewsb, byb, atb, stateb⟩ := b
    cases statea <;> cases stateb
    case included.included | revoked.revoked =>
      have h := Iff.mp Host.canonicalize_record_iff h
      simp only [List.map_cons, List.map_nil, List.cons.injEq, canonicalize_toJson_eq_iff,
        Host.same_iff_eq, and_true, List.cons_append, List.nil_append, true_and] at h
      simp [h]
    all_goals
      exact absurd (Option.some.inj (Host.lookup_canonicalize h "state"))
        (by simp [host.nfc_ascii "included" (by decide), host.nfc_ascii "revoked" (by decide)])⟩

instance : NonNullJson D ReviewerRosterRecord :=
  ⟨fun _ _ => canonicalize_obj_ne_null _ _⟩

instance : ToJson D (FactEvidence D) :=
  ⟨fun
    | .ids ids => .arr (ids.val.map fun id => .text id.val)
    | .authoritySet digest => .arr [.obj [("reviewer_authority_set", .digest digest)]]⟩

def ReviewerEligibilityFact.unsigned (fact : ReviewerEligibilityFact D) : Json D :=
  .obj ([("schemaVersion", toJson (1 : ℕ)), ("scope", toJson fact.scope),
      ("rosterSubject", toJson fact.rosterSubject), ("state", toJson fact.state),
      ("version", toJson fact.version), ("capabilityIds", toJson fact.capabilityIds),
      ("evidenceIds", toJson fact.evidence)] ++
    (fact.currentSubject.map fun subject => ("currentSubject", toJson subject)).toList ++
    (fact.displayName.map fun name => ("displayName", .text name.val)).toList)

instance : ToJson D (ReviewerEligibilityFact D) :=
  ⟨fun fact => match fact.unsigned with
    | .obj members => .obj (members ++ [("digestSha256", .digest fact.digestSha256)])
    | json => json⟩

/-- The members of a target that its digest is of. -/
def ReviewerScopeTargetFact.unsignedMembers (target : ReviewerScopeTargetFact D) :
    List (String × Json D) :=
  [("schemaVersion", toJson (1 : ℕ)), ("scope", toJson target.scope), ("ref", toJson target.ref),
    ("version", toJson target.version), ("assignability", toJson target.assignability)]

instance : ToJson D (ReviewerScopeTargetFact D) :=
  ⟨fun target => .obj (target.unsignedMembers ++ [("digestSha256", .digest target.digestSha256)])⟩

end JooEvents
