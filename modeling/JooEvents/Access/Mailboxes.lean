import Mathlib.Data.List.TakeWhile
import JooEvents.Access.Participants

/-!
# Proven mailboxes

When the completion of a claimed link ends with a session. The address that the directory
knows is resumed; another one is given the pair that intake attributed to it first, or a
new one, and the directory takes the pair unless it is there under another address.
-/

namespace JooEvents

open Fallible

theorem writeRows_eq_ok {Row : Type} {Constraints : List Row → Prop}
    [DecidablePred Constraints] {error : ParticipantAccessError} {rows : List Row}
    {table : {rows : List Row // Constraints rows}} :
    writeRows Constraints error rows = .ok table ↔ table.val = rows := by
  unfold writeRows
  split
  · rw [Except.ok.injEq, Subtype.ext_iff, eq_comm]
  · rename_i h
    constructor
    · rintro ⟨⟩
    · intro h'
      exact absurd (h' ▸ table.property) h

theorem exists_writeRows_iff {Row : Type} {Constraints : List Row → Prop}
    [DecidablePred Constraints] {error : ParticipantAccessError} {rows : List Row} :
    (∃ table, writeRows Constraints error rows = .ok table) ↔ Constraints rows := by
  simp only [writeRows_eq_ok]
  exact ⟨fun ⟨table, h⟩ => h ▸ table.property, fun h => ⟨⟨rows, h⟩, rfl⟩⟩

/-! ## Attribution -/

section Attribution

variable {host : AccessHost} {evidence : ParticipantEvidence} {lane : ParticipantLane}
  {normalizedEmail : String}

namespace ParticipantEvidenceRow

theorem notAfter_trans {a b c : ParticipantEvidenceRow} (hab : a.NotAfter b)
    (hbc : b.NotAfter c) : a.NotAfter c := by
  rcases hab with hab | ⟨hab, hab'⟩ <;> rcases hbc with hbc | ⟨hbc, hbc'⟩
  · exact .inl (hab.trans hbc)
  · exact .inl (hbc ▸ hab)
  · exact .inl (hab ▸ hbc)
  · exact .inr ⟨hab.trans hbc, hab'.trans hbc'⟩

theorem notAfter_total (a b : ParticipantEvidenceRow) : a.NotAfter b ∨ b.NotAfter a := by
  rcases lt_trichotomy a.submittedAtMs b.submittedAtMs with h | h | h
  · exact .inl (.inl h)
  · rcases le_total a.submissionId.val b.submissionId.val with h' | h'
    · exact .inl (.inr ⟨h, h'⟩)
    · exact .inr (.inr ⟨h.symm, h'⟩)
  · exact .inr (.inl h)

instance : Std.Total NotAfter := ⟨notAfter_total⟩

instance : IsTrans ParticipantEvidenceRow NotAfter := ⟨fun _ _ _ => notAfter_trans⟩

theorem submissionId_eq_of_notAfter {a b : ParticipantEvidenceRow} (hab : a.NotAfter b)
    (hba : b.NotAfter a) : a.submissionId = b.submissionId := by
  rcases hab with hab | ⟨_, hab⟩ <;> rcases hba with hba | ⟨_, hba⟩
  · omega
  · omega
  · omega
  · exact Subtype.ext (le_antisymm hab hba)

/-- The contact of the submission is at this address. -/
def IsAt (host : AccessHost) (normalizedEmail : String) (row : ParticipantEvidenceRow) : Prop :=
  ∃ contact, row.contact = .found contact ∧ row.Agrees contact ∧
    host.normalizeEmail contact.email = normalizedEmail

def Stops (row : ParticipantEvidenceRow) : Prop :=
  row.contact = .failed ∨ ∃ contact, row.contact = .found contact ∧ ¬ row.Agrees contact

theorem IsAt.not_stops {row : ParticipantEvidenceRow} (h : row.IsAt host normalizedEmail) :
    ¬ row.Stops := by
  obtain ⟨contact, hfound, hagrees, -⟩ := h
  rintro (hfailed | ⟨contact', hfound', hdisagrees⟩)
  · rw [hfound] at hfailed
    cases hfailed
  · rw [hfound] at hfound'
    cases hfound'
    exact hdisagrees hagrees

def Passed (host : AccessHost) (normalizedEmail : String) (row : ParticipantEvidenceRow) : Prop :=
  ¬ row.IsAt host normalizedEmail ∧ ¬ row.Stops

end ParticipantEvidenceRow

open ParticipantEvidenceRow

/-- How the scan ends. -/
inductive ScanOutcome (host : AccessHost) (normalizedEmail : String)
    (rows : List ParticipantEvidenceRow) :
    Except ParticipantAccessError (Option AttributedPair) → Prop where
  | passed (h : ∀ row ∈ rows, row.Passed host normalizedEmail) :
      ScanOutcome host normalizedEmail rows (.ok none)
  | found {before after : List ParticipantEvidenceRow} {row : ParticipantEvidenceRow}
      (hrows : rows = before ++ row :: after)
      (hbefore : ∀ row ∈ before, row.Passed host normalizedEmail)
      (hrow : row.IsAt host normalizedEmail) :
      ScanOutcome host normalizedEmail rows (.ok (some row.pair))
  | stopped {before after : List ParticipantEvidenceRow} {row : ParticipantEvidenceRow}
      {error : ParticipantAccessError} (hrows : rows = before ++ row :: after)
      (hbefore : ∀ row ∈ before, row.Passed host normalizedEmail) (hrow : row.Stops) :
      ScanOutcome host normalizedEmail rows (.error error)

theorem ScanOutcome.cons {row : ParticipantEvidenceRow} {rows : List ParticipantEvidenceRow}
    {r : Except ParticipantAccessError (Option AttributedPair)}
    (hrow : row.Passed host normalizedEmail) (h : ScanOutcome host normalizedEmail rows r) :
    ScanOutcome host normalizedEmail (row :: rows) r := by
  cases h with
  | passed h => exact .passed (List.forall_mem_cons.mpr ⟨hrow, h⟩)
  | found hrows hbefore hmatch =>
    exact .found (congrArg (row :: ·) hrows) (List.forall_mem_cons.mpr ⟨hrow, hbefore⟩) hmatch
  | stopped hrows hbefore hstops =>
    exact .stopped (congrArg (row :: ·) hrows) (List.forall_mem_cons.mpr ⟨hrow, hbefore⟩) hstops

theorem scanOutcome_firstAttributed :
    ∀ rows : List ParticipantEvidenceRow,
      ScanOutcome host normalizedEmail rows (firstAttributed host normalizedEmail rows)
  | [] => .passed (by simp)
  | row :: rows => by
    have hrest := scanOutcome_firstAttributed rows
    have hpassed : ∀ {contact : ContactRead}, row.contact = contact →
        contact = .missing ∨ contact = .unresolvable → row.Passed host normalizedEmail := by
      intro contact hcontact hskipped
      constructor
      · rintro ⟨_, hfound, -⟩
        rcases hskipped with rfl | rfl <;> simp [hcontact] at hfound
      · rintro (hfailed | ⟨_, hfound, -⟩)
        · rcases hskipped with rfl | rfl <;> simp [hcontact] at hfailed
        · rcases hskipped with rfl | rfl <;> simp [hcontact] at hfound
    unfold firstAttributed
    split
    · rename_i h
      exact hrest.cons (hpassed h (.inl rfl))
    · rename_i h
      exact hrest.cons (hpassed h (.inr rfl))
    · rename_i h
      exact .stopped (List.nil_append _).symm (by simp) (.inl h)
    · rename_i contact h
      split
      · rename_i hdisagrees
        exact .stopped (List.nil_append _).symm (by simp) (.inr ⟨contact, h, hdisagrees⟩)
      · rename_i hagrees
        rw [not_not] at hagrees
        split
        · rename_i hother
          refine hrest.cons ⟨?_, ?_⟩
          · rintro ⟨contact', hfound, -, hsame⟩
            rw [h] at hfound
            cases hfound
            exact hother hsame
          · rintro (hfailed | ⟨contact', hfound, hdisagrees⟩)
            · rw [h] at hfailed
              cases hfailed
            · rw [h] at hfound
              cases hfound
              exact hdisagrees hagrees
        · rename_i hsame
          rw [not_not] at hsame
          exact .found (List.nil_append _).symm (by simp) ⟨contact, h, hagrees, hsame⟩

namespace ParticipantEvidence

theorem mem_ofLane {row : ParticipantEvidenceRow} :
    row ∈ evidence.ofLane lane ↔ row ∈ evidence.val ∧ row.lane = lane := by
  simp [ofLane]

theorem pairwise_ofLane (evidence : ParticipantEvidence) :
    (evidence.ofLane lane).Pairwise NotAfter :=
  List.pairwise_insertionSort _ _

theorem eq_of_submissionId_eq {row other : ParticipantEvidenceRow} (hrow : row ∈ evidence.val)
    (hother : other ∈ evidence.val) (hlane : row.lane = other.lane)
    (hid : row.submissionId = other.submissionId) : row = other :=
  List.inj_on_of_nodup_map evidence.property hrow hother (Prod.ext hlane hid)

/-- The row is the earliest submission of the lane whose contact is at this address. -/
structure IsEarliest (host : AccessHost) (evidence : ParticipantEvidence) (lane : ParticipantLane)
    (normalizedEmail : String) (row : ParticipantEvidenceRow) : Prop where
  mem : row ∈ evidence.val
  lane_eq : row.lane = lane
  isAt : row.IsAt host normalizedEmail
  notAfter : ∀ other ∈ evidence.val, other.lane = lane → other.IsAt host normalizedEmail →
    row.NotAfter other

/-- Every submission of the lane whose contact fails or is not its own comes after one whose
contact is at this address. -/
def IsReadable (host : AccessHost) (evidence : ParticipantEvidence) (lane : ParticipantLane)
    (normalizedEmail : String) : Prop :=
  ∀ bad ∈ evidence.val, bad.lane = lane → bad.Stops →
    ∃ row ∈ evidence.val, row.lane = lane ∧ row.IsAt host normalizedEmail ∧ row.NotAfter bad

theorem IsEarliest.unique {row other : ParticipantEvidenceRow}
    (hrow : IsEarliest host evidence lane normalizedEmail row)
    (hother : IsEarliest host evidence lane normalizedEmail other) : row = other :=
  eq_of_submissionId_eq hrow.mem hother.mem (hrow.lane_eq.trans hother.lane_eq.symm)
    (submissionId_eq_of_notAfter (hrow.notAfter other hother.mem hother.lane_eq hother.isAt)
      (hother.notAfter row hrow.mem hrow.lane_eq hrow.isAt))

theorem isEarliest_of_ofLane_eq {before after : List ParticipantEvidenceRow}
    {row : ParticipantEvidenceRow} (hrows : evidence.ofLane lane = before ++ row :: after)
    (hbefore : ∀ row ∈ before, row.Passed host normalizedEmail)
    (hrow : row.IsAt host normalizedEmail) :
    IsEarliest host evidence lane normalizedEmail row := by
  have hmem := mem_ofLane.mp (show row ∈ evidence.ofLane lane by simp [hrows])
  have hsorted := List.pairwise_append.mp (hrows ▸ pairwise_ofLane evidence)
  refine ⟨hmem.1, hmem.2, hrow, fun other hother hlane hisAt => ?_⟩
  have hsplit : other ∈ before ++ row :: after := hrows ▸ mem_ofLane.mpr ⟨hother, hlane⟩
  rcases List.mem_append.mp hsplit with hin | hin
  · exact absurd hisAt (hbefore other hin).1
  · rcases List.mem_cons.mp hin with rfl | hin
    · exact (notAfter_total other other).elim id id
    · exact (List.pairwise_cons.mp hsorted.2.1).1 other hin

theorem exists_isEarliest_of_resolveByEmail {pair : AttributedPair}
    (h : evidence.resolveByEmail host lane normalizedEmail = .ok (some pair)) :
    ∃ row, IsEarliest host evidence lane normalizedEmail row ∧ row.pair = pair := by
  have houtcome : ScanOutcome host normalizedEmail (evidence.ofLane lane) (.ok (some pair)) :=
    h ▸ scanOutcome_firstAttributed _
  cases houtcome with
  | found hrows hbefore hrow => exact ⟨_, isEarliest_of_ofLane_eq hrows hbefore hrow, rfl⟩

theorem forall_not_isAt_of_resolveByEmail
    (h : evidence.resolveByEmail host lane normalizedEmail = .ok none) :
    ∀ row ∈ evidence.val, row.lane = lane → ¬ row.IsAt host normalizedEmail := by
  have houtcome : ScanOutcome host normalizedEmail (evidence.ofLane lane) (.ok none) :=
    h ▸ scanOutcome_firstAttributed _
  cases houtcome with
  | passed hpassed => exact fun row hrow hlane => (hpassed row (mem_ofLane.mpr ⟨hrow, hlane⟩)).1

theorem exists_resolveByEmail_iff :
    (∃ attributed, evidence.resolveByEmail host lane normalizedEmail = .ok attributed) ↔
      IsReadable host evidence lane normalizedEmail := by
  have houtcome : ScanOutcome host normalizedEmail (evidence.ofLane lane)
      (evidence.resolveByEmail host lane normalizedEmail) := scanOutcome_firstAttributed _
  constructor
  · rintro ⟨attributed, h⟩ bad hbad hlane hstops
    have hmem := mem_ofLane.mpr ⟨hbad, hlane⟩
    rw [h] at houtcome
    cases houtcome with
    | passed hpassed => exact absurd hstops (hpassed bad hmem).2
    | @found before after row hrows hbefore hrow =>
      have hearliest := isEarliest_of_ofLane_eq hrows hbefore hrow
      refine ⟨row, hearliest.mem, hearliest.lane_eq, hrow, ?_⟩
      have hsorted := List.pairwise_append.mp (hrows ▸ pairwise_ofLane evidence)
      rcases List.mem_append.mp (hrows ▸ hmem) with hin | hin
      · exact absurd hstops (hbefore bad hin).2
      · rcases List.mem_cons.mp hin with rfl | hin
        · exact absurd hstops hrow.not_stops
        · exact (List.pairwise_cons.mp hsorted.2.1).1 bad hin
  · intro hreadable
    generalize hresult : evidence.resolveByEmail host lane normalizedEmail = result at houtcome ⊢
    cases houtcome with
    | passed _ => exact ⟨_, rfl⟩
    | found _ _ _ => exact ⟨_, rfl⟩
    | @stopped before after bad error hrows hbefore hstops =>
      have hmem := mem_ofLane.mp (show bad ∈ evidence.ofLane lane by simp [hrows])
      obtain ⟨row, hrow, hlane, hisAt, hnotAfter⟩ := hreadable bad hmem.1 hmem.2 hstops
      have hsorted := List.pairwise_append.mp (hrows ▸ pairwise_ofLane evidence)
      rcases List.mem_append.mp (hrows ▸ mem_ofLane.mpr ⟨hrow, hlane⟩) with hin | hin
      · exact absurd hisAt (hbefore row hin).1
      · rcases List.mem_cons.mp hin with rfl | hin
        · exact absurd hstops hisAt.not_stops
        · -- a row that is neither before nor after another in the order is that row
          have hid := submissionId_eq_of_notAfter hnotAfter
            ((List.pairwise_cons.mp hsorted.2.1).1 row hin)
          have hsame := eq_of_submissionId_eq hrow hmem.1 (hlane.trans hmem.2.symm) hid
          exact absurd (hsame ▸ hstops) hisAt.not_stops

end ParticipantEvidence

end Attribution

/-! ## The directory -/

section Directory

variable {host : AccessHost} {lane : ParticipantLane} {email : ParticipantEmail host}

theorem beforeLastAt_sublist (s : List Char) : (beforeLastAt s).Sublist s := by
  have h : ((s.reverse.dropWhile fun c => c ≠ '@').drop 1).Sublist s.reverse :=
    (List.drop_sublist _ _).trans (List.dropWhile_sublist _)
  have hreverse := h.reverse
  rwa [List.reverse_reverse] at hreverse

namespace ParticipantEmail

theorem not_isRefusedEmailChar (email : ParticipantEmail host) :
    ∀ c ∈ email.displayEmail.toList, isRefusedEmailChar c = false := by
  have h := email.accepted
  simp only [isParticipantEmail, Bool.and_eq_true, Bool.not_eq_true', List.any_eq_false] at h
  exact fun c hc => Bool.eq_false_iff.mpr (h.1.1.1.2 c hc)

theorem beforeLastAt_ne_nil (email : ParticipantEmail host) :
    beforeLastAt email.displayEmail.toList ≠ [] := by
  have h := email.accepted
  simp only [isParticipantEmail, Bool.and_eq_true, Bool.not_eq_true',
    List.isEmpty_eq_false_iff] at h
  exact h.1.1.2

end ParticipantEmail

theorem sqlLength_displayNameFromEmail (email : ParticipantEmail host) :
    sqlLength (displayNameFromEmail email) = (beforeLastAt email.displayEmail.toList).length := by
  have hname : displayNameFromEmail email =
      String.ofList (beforeLastAt email.displayEmail.toList) := by
    simp [displayNameFromEmail, email.beforeLastAt_ne_nil]
  have hchars : ∀ c ∈ beforeLastAt email.displayEmail.toList, decide (c.val.toNat ≠ 0) = true := by
    intro c hc
    have hrefused := email.not_isRefusedEmailChar c ((beforeLastAt_sublist _).subset hc)
    rw [decide_eq_true_eq]
    intro hzero
    simp [isRefusedEmailChar, hzero] at hrefused
  rw [hname, sqlLength, String.toList_ofList, List.takeWhile_eq_self_iff.mpr hchars]

theorem nodup_map_concat {Row Key : Type} {key : Row → Key} {rows : List Row} {row : Row}
    (h : (rows.map key).Nodup) :
    ((rows ++ [row]).map key).Nodup ↔ ∀ other ∈ rows, key other ≠ key row := by
  simp [List.nodup_append, h]

namespace ParticipantDirectory

variable {directory : ParticipantDirectory} {pair : AttributedPair} {displayName : String}
  {origin : ParticipantIdentityOrigin} {mintedAt : InstantMs}

/-- Neither the person nor the identity of the pair is in the directory, in either role. -/
structure IsFree (directory : ParticipantDirectory) (pair : AttributedPair) : Prop where
  apart : pair.personId ≠ pair.participantIdentityId
  identity_ne : ∀ row ∈ directory.val, row.participantIdentityId ≠ pair.participantIdentityId
  person_ne : ∀ row ∈ directory.val, row.personId ≠ pair.personId
  person_ne_identity : ∀ row ∈ directory.val, row.personId ≠ pair.participantIdentityId
  identity_ne_person : ∀ row ∈ directory.val, row.participantIdentityId ≠ pair.personId

def minted (pair : AttributedPair) (lane : ParticipantLane) (email : ParticipantEmail host)
    (displayName : String) (origin : ParticipantIdentityOrigin) (mintedAt : InstantMs) :
    ParticipantIdentityRecord where
  participantIdentityId := pair.participantIdentityId
  personId := pair.personId
  lane := lane
  normalizedEmail := email.normalizedEmail
  displayEmail := email.displayEmail
  displayName := displayName
  standing := .active
  origin := origin
  mintedAtMs := mintedAt.val
  revokedAtMs := none

theorem resolveByEmail_eq_none {normalizedEmail : String} :
    directory.resolveByEmail lane normalizedEmail = none ↔
      ∀ row ∈ directory.val, (row.lane, row.normalizedEmail) ≠ (lane, normalizedEmail) := by
  simp [resolveByEmail, Prod.ext_iff]

theorem mem_of_resolveByEmail {normalizedEmail : String} {row : ParticipantIdentityRecord}
    (h : directory.resolveByEmail lane normalizedEmail = some row) :
    row ∈ directory.val ∧ row.lane = lane ∧ row.normalizedEmail = normalizedEmail :=
  ⟨List.mem_of_find?_eq_some h, by simpa using List.find?_some h⟩

theorem directoryConstraints_concat {row : ParticipantIdentityRecord} :
    DirectoryConstraints (directory.val ++ [row]) ↔
      row.Checked ∧ IsFree directory ⟨row.personId, row.participantIdentityId⟩ ∧
        directory.resolveByEmail row.lane row.normalizedEmail = none := by
  obtain ⟨hchecked, hids, hpersons, hemails, hroles⟩ := directory.property
  rw [resolveByEmail_eq_none, DirectoryConstraints, nodup_map_concat hids,
    nodup_map_concat hpersons, nodup_map_concat hemails]
  simp only [List.forall_mem_append, List.forall_mem_singleton]
  constructor
  · rintro ⟨⟨-, hrow⟩, hid, hperson, hemail, hrole, hself⟩
    exact ⟨hrow, ⟨hself.2, hid, hperson, fun other hother => (hrole other hother).2,
      fun other hother => (hself.1 other hother).symm⟩, hemail⟩
  · rintro ⟨hrow, hfree, hemail⟩
    exact ⟨⟨hchecked, hrow⟩, hfree.identity_ne, hfree.person_ne, hemail,
      fun other hother => ⟨hroles other hother, hfree.person_ne_identity other hother⟩,
      fun other hother => (hfree.identity_ne_person other hother).symm, hfree.apart⟩

theorem mint_eq_ok {minted' : ParticipantDirectory × ParticipantIdentityRecord} :
    directory.mint pair lane email displayName origin mintedAt = .ok minted' ↔
      minted'.1.val = directory.val ++ [minted pair lane email displayName origin mintedAt] ∧
        minted'.2 = minted pair lane email displayName origin mintedAt := by
  obtain ⟨directory', record⟩ := minted'
  simp only [mint, bind_eq_ok, writeRows_eq_ok, orRefuse_eq_ok, pure_eq_ok, Prod.mk.injEq]
  have hget : ∀ {table : ParticipantDirectory},
      table.val = directory.val ++ [minted pair lane email displayName origin mintedAt] →
      get table lane pair.participantIdentityId =
        some (minted pair lane email displayName origin mintedAt) := by
    intro table htable
    have hfree := (directoryConstraints_concat.mp (htable ▸ table.property)).2.1
    rw [get, htable, List.find?_append, List.find?_eq_none.mpr, Option.none_or]
    · simp [minted]
    · intro row hrow
      have hne : row.participantIdentityId ≠ pair.participantIdentityId :=
        hfree.identity_ne row hrow
      simp [hne]
  constructor
  · rintro ⟨table, htable, row, hrow, rfl, rfl⟩
    rw [hget htable, Option.some.injEq] at hrow
    exact ⟨htable, hrow.symm⟩
  · rintro ⟨htable, rfl⟩
    exact ⟨directory', htable, _, hget htable, rfl, rfl⟩

theorem exists_mint_iff (hunknown : directory.resolveByEmail lane email.normalizedEmail = none)
    (hnormalized : lengthBetween 3 320 email.normalizedEmail)
    (hdisplay : lengthBetween 3 320 email.displayEmail) (hmintedAt : 0 ≤ mintedAt.val) :
    (∃ done, directory.mint pair lane email displayName origin mintedAt = .ok done) ↔
      IsFree directory pair ∧ lengthBetween 1 200 displayName := by
  have hrow : DirectoryConstraints
      (directory.val ++ [minted pair lane email displayName origin mintedAt]) ↔
        IsFree directory pair ∧ lengthBetween 1 200 displayName := by
    rw [directoryConstraints_concat]
    constructor
    · rintro ⟨⟨-, -, hname, -⟩, hfree, -⟩
      exact ⟨hfree, hname⟩
    · rintro ⟨hfree, hname⟩
      have hlast : mintedAt.val ≤ maxColumnMs :=
        mintedAt.property.2.trans (by decide)
      refine ⟨⟨hnormalized, hdisplay, hname, ⟨hmintedAt, hlast⟩, ?_, ?_⟩, hfree, hunknown⟩
      · simp [minted]
      · simp [minted]
  rw [← hrow]
  constructor
  · rintro ⟨done, hdone⟩
    exact (mint_eq_ok.mp hdone).1 ▸ done.1.property
  · intro h
    exact ⟨(⟨_, h⟩, _), mint_eq_ok.mpr ⟨rfl, rfl⟩⟩

end ParticipantDirectory

end Directory

/-! ## Challenges and sessions -/

section Store

variable {host : AccessHost} {lane : ParticipantLane} {now : InstantMs}

theorem ChallengeTable.claimed_of_claim {challenges challenges' : ChallengeTable host}
    {tokenHashSha256 : CanonicalSha256} {email : ParticipantEmail host}
    (h : challenges.claim lane tokenHashSha256 now = .ok (challenges', .claimed email)) :
    0 ≤ now.val ∧ lengthBetween 3 320 email.normalizedEmail ∧
      lengthBetween 3 320 email.displayEmail := by
  unfold claim at h
  split at h
  · cases h
  · rename_i row hfound
    split at h
    · simp only [bind_eq_ok, writeRows_eq_ok, pure_eq_ok, Prod.mk.injEq] at h
      obtain ⟨table, htable, -, hclaim⟩ := h
      have hhash : row.tokenHashSha256 = tokenHashSha256 := by
        have := List.find?_some hfound
        simp only [decide_eq_true_eq] at this
        exact this.1
      split at hclaim
      · rename_i hlive
        cases hclaim
        have hchecked := challenges.property.1 row (List.mem_of_find?_eq_some hfound)
        have hclosed := table.property.1
          { row with state := .used, closedAtMs := some now.val } (by
            rw [htable, closeChallenge, List.mem_map]
            exact ⟨row, List.mem_of_find?_eq_some hfound, by rw [if_pos hhash, if_pos hlive]⟩)
        have hafter : row.requestedAtMs ≤ now.val := hclosed.2.2.2.2.1 now.val rfl
        exact ⟨hchecked.2.2.1.1.trans hafter, hchecked.1, hchecked.2.1⟩
      · cases hclaim
    all_goals cases h

theorem toInstant_eq_ok {ms : ℤ} {instant : InstantMs} :
    toInstant ms = .ok instant ↔ instant.val = ms := by
  unfold toInstant
  split
  · rw [Except.ok.injEq, Subtype.ext_iff, eq_comm]
  · rename_i h
    constructor
    · rintro ⟨⟩
    · rintro rfl
      exact absurd instant.property h

variable {policy : ParticipantAccessPolicy} {window : ParticipantSessionWindow}

theorem initialParticipantSessionWindow_eq_ok :
    initialParticipantSessionWindow policy now = .ok window ↔
      window.slidingExpiresAt.val = now.val + policy.sessionSlidingWindowMs ∧
        window.absoluteExpiresAt.val = now.val + policy.sessionAbsoluteCapMs := by
  have hmin : min (now.val + policy.sessionSlidingWindowMs)
      (now.val + policy.sessionAbsoluteCapMs) = now.val + policy.sessionSlidingWindowMs :=
    min_eq_left (Int.add_le_add_left policy.sliding_le_cap _)
  simp only [initialParticipantSessionWindow, bind_eq_ok, toInstant_eq_ok, pure_eq_ok, hmin]
  constructor
  · rintro ⟨sliding, hsliding, absolute, habsolute, rfl⟩
    exact ⟨hsliding, habsolute⟩
  · rintro ⟨hsliding, habsolute⟩
    exact ⟨_, hsliding, _, habsolute, rfl⟩

theorem exists_initialParticipantSessionWindow_iff :
    (∃ window, initialParticipantSessionWindow policy now = .ok window) ↔
      now.val + policy.sessionAbsoluteCapMs ≤ maxInstantMs := by
  simp only [initialParticipantSessionWindow_eq_ok]
  have hsliding := policy.sliding_pos
  have hcap := policy.sliding_le_cap
  constructor
  · rintro ⟨window, -, habsolute⟩
    exact habsolute ▸ window.absoluteExpiresAt.property.2
  · intro h
    have hnow := now.property.1
    exact ⟨⟨⟨now.val + policy.sessionSlidingWindowMs, by omega⟩,
      ⟨now.val + policy.sessionAbsoluteCapMs, by omega⟩⟩, rfl, rfl⟩

theorem ParticipantSessionTable.exists_create (lane : ParticipantLane)
    {sessions : ParticipantSessionTable}
    {directory : ParticipantDirectory} {sessionId : ApplicationId}
    {identity : ParticipantIdentityRecord} {tokenHashSha256 : CanonicalSha256}
    (hidentity : identity ∈ directory.val) (hnow : 0 ≤ now.val)
    (hwindow : initialParticipantSessionWindow policy now = .ok window)
    (hid : ∀ row ∈ sessions.val, row.sessionId ≠ sessionId)
    (htoken : ∀ row ∈ sessions.val, row.tokenHashSha256 ≠ tokenHashSha256) :
    ∃ sessions', sessions.create directory sessionId lane identity tokenHashSha256 now window =
      .ok sessions' := by
  obtain ⟨hsliding, habsolute⟩ := initialParticipantSessionWindow_eq_ok.mp hwindow
  obtain ⟨hchecked, hids, htokens⟩ := sessions.property
  have hpos := policy.sliding_pos
  have hcap := policy.sliding_le_cap
  have hlast : now.val ≤ maxColumnMs := now.property.2.trans (by decide)
  rw [create, require_true ⟨identity, hidentity, rfl⟩, ok_bind, exists_writeRows_iff]
  refine ⟨?_, (nodup_map_concat hids).mpr hid, (nodup_map_concat htokens).mpr htoken⟩
  rw [List.forall_mem_append, List.forall_mem_singleton]
  refine ⟨hchecked, ⟨hnow, hlast⟩, le_refl _, ?_, ?_⟩
  · dsimp only
    omega
  · dsimp only
    omega

end Store

/-! ## Sign-in -/

section SignIn

variable {host : ParticipantHost} {policy : ParticipantAccessPolicy}
  {world world' : ParticipantWorld host.toAccessHost} {input : CompleteSignInLink}
  {email : ParticipantEmail host.toAccessHost}

/-- The ids and the token that a completion is given are new. -/
structure CompleteSignInLink.IsFresh (host : ParticipantHost) (input : CompleteSignInLink)
    (world : ParticipantWorld host.toAccessHost) : Prop where
  pair : world.directory.IsFree ⟨input.newPersonId, input.newParticipantIdentityId⟩
  session : ∀ row ∈ world.sessions.val, row.sessionId ≠ input.newSessionId
  token : ∀ row ∈ world.sessions.val,
    row.tokenHashSha256 ≠ host.sha256 input.newSessionToken

/-- What it takes for an address that the directory does not know to be admitted : its
attribution can be read, the pair that it gives is not in the directory, and its local part
fits a display name. -/
structure ParticipantWorld.Admits (world : ParticipantWorld host.toAccessHost)
    (lane : ParticipantLane) (email : ParticipantEmail host.toAccessHost) : Prop where
  readable : world.evidence.IsReadable host.toAccessHost lane email.normalizedEmail
  free : ∀ row, world.evidence.IsEarliest host.toAccessHost lane email.normalizedEmail row →
    world.directory.IsFree row.pair
  localPart : (beforeLastAt email.displayEmail.toList).length ≤ 200

/-- The pair is that of the earliest submission from the address, or a new one where intake
has attributed none. -/
def ParticipantWorld.IsChosen (world : ParticipantWorld host.toAccessHost)
    (input : CompleteSignInLink) (normalizedEmail : String) (pair : AttributedPair) : Prop :=
  (∃ row, world.evidence.IsEarliest host.toAccessHost input.lane normalizedEmail row ∧
      row.pair = pair) ∨
    (∀ row ∈ world.evidence.val, row.lane = input.lane →
        ¬ row.IsAt host.toAccessHost normalizedEmail) ∧
      pair = ⟨input.newPersonId, input.newParticipantIdentityId⟩

theorem of_admitParticipant_eq_ok
    {done : ParticipantDirectory × ParticipantIdentityRecord}
    (h : admitParticipant input email world = .ok done) :
    done.2 ∈ done.1.val ∧ done.2.normalizedEmail = email.normalizedEmail ∧
      world.IsChosen input email.normalizedEmail
        ⟨done.2.personId, done.2.participantIdentityId⟩ := by
  simp only [admitParticipant, bind_eq_ok] at h
  obtain ⟨attributed, hattributed, h⟩ := h
  cases attributed with
  | some pair =>
    obtain ⟨hdirectory, hrecord⟩ := ParticipantDirectory.mint_eq_ok.mp h
    obtain ⟨row, hearliest, rfl⟩ :=
      ParticipantEvidence.exists_isEarliest_of_resolveByEmail hattributed
    rw [hdirectory, hrecord]
    exact ⟨by simp, rfl, .inl ⟨row, hearliest, rfl⟩⟩
  | none =>
    obtain ⟨hdirectory, hrecord⟩ := ParticipantDirectory.mint_eq_ok.mp h
    rw [hdirectory, hrecord]
    exact ⟨by simp, rfl,
      .inr ⟨ParticipantEvidence.forall_not_isAt_of_resolveByEmail hattributed, rfl⟩⟩

theorem exists_admitParticipant_iff (hfresh : input.IsFresh host world)
    (hunknown : world.directory.resolveByEmail input.lane email.normalizedEmail = none)
    (hnormalized : lengthBetween 3 320 email.normalizedEmail)
    (hdisplay : lengthBetween 3 320 email.displayEmail) (hnow : 0 ≤ input.now.val) :
    (∃ done, admitParticipant input email world = .ok done) ↔ world.Admits input.lane email := by
  have hname : lengthBetween 1 200 (displayNameFromEmail email) ↔
      (beforeLastAt email.displayEmail.toList).length ≤ 200 := by
    have hpos := List.length_pos_of_ne_nil email.beforeLastAt_ne_nil
    rw [lengthBetween, sqlLength_displayNameFromEmail]
    omega
  constructor
  · rintro ⟨done, h⟩
    simp only [admitParticipant, bind_eq_ok] at h
    obtain ⟨attributed, hattributed, h⟩ := h
    have hreadable := ParticipantEvidence.exists_resolveByEmail_iff.mp ⟨attributed, hattributed⟩
    cases attributed with
    | some pair =>
      obtain ⟨row, hearliest, rfl⟩ :=
        ParticipantEvidence.exists_isEarliest_of_resolveByEmail hattributed
      have hmint := (ParticipantDirectory.exists_mint_iff hunknown hnormalized hdisplay hnow).mp
        ⟨done, h⟩
      exact ⟨hreadable, fun other hother => hother.unique hearliest ▸ hmint.1,
        hname.mp hmint.2⟩
    | none =>
      have hmint := (ParticipantDirectory.exists_mint_iff hunknown hnormalized hdisplay hnow).mp
        ⟨done, h⟩
      have hnone := ParticipantEvidence.forall_not_isAt_of_resolveByEmail hattributed
      exact ⟨hreadable, fun row hrow => absurd hrow.isAt (hnone row hrow.mem hrow.lane_eq),
        hname.mp hmint.2⟩
  · intro hadmits
    obtain ⟨attributed, hattributed⟩ :=
      ParticipantEvidence.exists_resolveByEmail_iff.mpr hadmits.readable
    rw [admitParticipant, hattributed, ok_bind]
    cases attributed with
    | some pair =>
      obtain ⟨row, hearliest, rfl⟩ :=
        ParticipantEvidence.exists_isEarliest_of_resolveByEmail hattributed
      exact (ParticipantDirectory.exists_mint_iff hunknown hnormalized hdisplay hnow).mpr
        ⟨hadmits.free row hearliest, hname.mpr hadmits.localPart⟩
    | none =>
      exact (ParticipantDirectory.exists_mint_iff hunknown hnormalized hdisplay hnow).mpr
        ⟨hfresh.pair, hname.mpr hadmits.localPart⟩

def SignsIn (policy : ParticipantAccessPolicy) (input : CompleteSignInLink)
    (world : ParticipantWorld host.toAccessHost) (identity : ParticipantIdentityRecord) : Prop :=
  ∃ world' session resumed, completeParticipantSignInLink policy input world =
    .ok (world', .signedIn identity session resumed)

theorem openParticipantSession_eq_ok {identity : ParticipantIdentityRecord} {resumed : Bool}
    {completion : ParticipantLinkCompletion}
    (h : openParticipantSession policy input identity resumed world = .ok (world', completion)) :
    (∃ session, completion = .signedIn identity session resumed) ∧
      input.now.val + policy.sessionAbsoluteCapMs ≤ maxInstantMs := by
  simp only [openParticipantSession, bind_eq_ok, pure_eq_ok, Prod.mk.injEq] at h
  obtain ⟨window, hwindow, sessions, -, -, rfl⟩ := h
  exact ⟨⟨_, rfl⟩, exists_initialParticipantSessionWindow_iff.mp ⟨window, hwindow⟩⟩

theorem exists_openParticipantSession {identity : ParticipantIdentityRecord}
    (world : ParticipantWorld host.toAccessHost) (resumed : Bool)
    (hidentity : identity ∈ world.directory.val) (hnow : 0 ≤ input.now.val)
    (hend : input.now.val + policy.sessionAbsoluteCapMs ≤ maxInstantMs)
    (hid : ∀ row ∈ world.sessions.val, row.sessionId ≠ input.newSessionId)
    (htoken : ∀ row ∈ world.sessions.val,
      row.tokenHashSha256 ≠ host.sha256 input.newSessionToken) :
    ∃ world' session, openParticipantSession policy input identity resumed world =
      .ok (world', .signedIn identity session resumed) := by
  obtain ⟨window, hwindow⟩ := exists_initialParticipantSessionWindow_iff.mpr hend
  obtain ⟨sessions, hsessions⟩ := ParticipantSessionTable.exists_create input.lane
    hidentity hnow hwindow hid htoken
  rw [openParticipantSession, hwindow, ok_bind, hsessions, ok_bind]
  exact ⟨_, _, rfl⟩

/-- The completion claims a challenge for this address. -/
def CompleteSignInLink.Claims (host : ParticipantHost) (input : CompleteSignInLink)
    (world : ParticipantWorld host.toAccessHost) (email : ParticipantEmail host.toAccessHost) :
    Prop :=
  isWellFormedParticipantLinkToken input.token = true ∧
    ∃ challenges, world.challenges.claim input.lane (host.sha256 input.token) input.now =
      .ok (challenges, .claimed email)

theorem completeParticipantSignInLink_eq (policy : ParticipantAccessPolicy)
    (h : input.Claims host world email) :
    ∃ challenges, completeParticipantSignInLink policy input world =
      signInClaimed policy input email { world with challenges } := by
  obtain ⟨hwellFormed, challenges, hclaim⟩ := h
  refine ⟨challenges, ?_⟩
  rw [completeParticipantSignInLink, if_neg (by simp [hwellFormed])]
  simp only [hclaim, ok_bind]

theorem exists_signsIn_iff (hclaims : input.Claims host world email)
    (hstanding : ∀ row, world.directory.resolveByEmail input.lane email.normalizedEmail =
      some row → row.standing = .active)
    (hfresh : input.IsFresh host world) :
    (∃ identity, SignsIn policy input world identity) ↔
      input.now.val + policy.sessionAbsoluteCapMs ≤ maxInstantMs ∧
        (world.directory.resolveByEmail input.lane email.normalizedEmail = none →
          world.Admits input.lane email) := by
  obtain ⟨challenges, hcomplete⟩ := completeParticipantSignInLink_eq policy hclaims
  obtain ⟨-, _, hclaim⟩ := hclaims
  obtain ⟨hnow, hnormalized, hdisplay⟩ := ChallengeTable.claimed_of_claim hclaim
  simp only [SignsIn, hcomplete]
  unfold signInClaimed
  cases hknown : world.directory.resolveByEmail input.lane email.normalizedEmail with
  | some existing =>
    have hactive := hstanding existing hknown
    simp only [hactive, ne_eq, not_true_eq_false, if_false]
    constructor
    · rintro ⟨identity, world', session, resumed, h⟩
      exact ⟨(openParticipantSession_eq_ok h).2, fun h => nomatch h⟩
    · rintro ⟨hend, -⟩
      obtain ⟨world', session, h⟩ := exists_openParticipantSession
        { world with challenges } true
        (ParticipantDirectory.mem_of_resolveByEmail hknown).1 hnow hend hfresh.session hfresh.token
      exact ⟨existing, world', session, true, h⟩
  | none =>
    have hadmit := exists_admitParticipant_iff hfresh hknown hnormalized hdisplay hnow
    constructor
    · rintro ⟨identity, world', session, resumed, h⟩
      simp only [bind_eq_ok] at h
      obtain ⟨done, hdone, h⟩ := h
      exact ⟨(openParticipantSession_eq_ok h).2, fun _ => hadmit.mp ⟨done, hdone⟩⟩
    · rintro ⟨hend, hadmits⟩
      obtain ⟨done, hdone⟩ := hadmit.mpr (hadmits rfl)
      obtain ⟨world', session, h⟩ := exists_openParticipantSession
        { world with challenges, directory := done.1 } false
        (of_admitParticipant_eq_ok hdone).1 hnow hend hfresh.session hfresh.token
      refine ⟨done.2, world', session, false, ?_⟩
      rw [bind_eq_ok]
      exact ⟨done, hdone, h⟩

theorem SignsIn.identity {identity : ParticipantIdentityRecord}
    (hclaims : input.Claims host world email) (h : SignsIn policy input world identity) :
    identity.normalizedEmail = email.normalizedEmail ∧
      (world.directory.resolveByEmail input.lane email.normalizedEmail = none →
        world.IsChosen input email.normalizedEmail
          ⟨identity.personId, identity.participantIdentityId⟩) := by
  obtain ⟨world', session, resumed, h⟩ := h
  obtain ⟨challenges, hcomplete⟩ := completeParticipantSignInLink_eq policy hclaims
  rw [hcomplete] at h
  unfold signInClaimed at h
  cases hknown : world.directory.resolveByEmail input.lane email.normalizedEmail with
  | some existing =>
    simp only [hknown] at h
    split at h
    · cases h
    · obtain ⟨⟨session', hsession⟩, -⟩ := openParticipantSession_eq_ok h
      cases hsession
      exact ⟨(ParticipantDirectory.mem_of_resolveByEmail hknown).2.2, fun h => nomatch h⟩
  | none =>
    simp only [hknown, bind_eq_ok] at h
    obtain ⟨done, hdone, h⟩ := h
    obtain ⟨⟨session', hsession⟩, -⟩ := openParticipantSession_eq_ok h
    cases hsession
    obtain ⟨-, hemail, hchosen⟩ := of_admitParticipant_eq_ok hdone
    exact ⟨hemail, fun _ => hchosen⟩

/-- In every run of ceremonies and attributions, a claimed link of an address that is not
revoked signs in exactly when the session can end at an instant and the directory knows the
address or admits it; and an address that the directory does not know is given the pair of
its earliest submission, whoever has signed in before. -/
theorem proven_mailbox_signs_in_iff (steps : List (ParticipantStep host))
    (hclaims : input.Claims host (participantRun policy steps) email)
    (hstanding : ∀ row, (participantRun policy steps).directory.resolveByEmail input.lane
      email.normalizedEmail = some row → row.standing = .active)
    (hfresh : input.IsFresh host (participantRun policy steps)) :
    ((∃ identity, SignsIn policy input (participantRun policy steps) identity) ↔
      input.now.val + policy.sessionAbsoluteCapMs ≤ maxInstantMs ∧
        ((participantRun policy steps).directory.resolveByEmail input.lane
            email.normalizedEmail = none →
          (participantRun policy steps).Admits input.lane email)) ∧
      ∀ identity, SignsIn policy input (participantRun policy steps) identity →
        identity.normalizedEmail = email.normalizedEmail ∧
          ((participantRun policy steps).directory.resolveByEmail input.lane
              email.normalizedEmail = none →
            (participantRun policy steps).IsChosen input email.normalizedEmail
              ⟨identity.personId, identity.participantIdentityId⟩) :=
  ⟨exists_signsIn_iff hclaims hstanding hfresh, fun _ h => h.identity hclaims⟩

end SignIn

/-! ## An address that has changed -/

namespace MailboxExample

def lane : ParticipantLane := ⟨.ofNat 1, .ofNat 2⟩

/-- A digest that ends in the number of the token. -/
def digest (n : ℕ) : CanonicalSha256 :=
  if n % 2 = 0 then ⟨String.ofList (List.replicate 64 '0'), by decide +kernel⟩
  else ⟨String.ofList (List.replicate 63 '0' ++ ['1']), by decide +kernel⟩

def host : ParticipantHost where
  nfkc s := s
  toLowerCase s := s
  dateParse _ := none
  sha256 token := digest (token.toList.count 'b')

def policy : ParticipantAccessPolicy where
  linkTtlMs := 900000
  sessionSlidingWindowMs := 2592000000
  sessionAbsoluteCapMs := 7776000000
  linkTtl_pos := by decide
  sliding_pos := by decide
  sliding_le_cap := by decide

def token (c : Char) : String := linkTokenStart ++ String.ofList (List.replicate 43 c)

def contact (email : String) : SubmissionContact := ⟨.ofNat 3, .ofNat 4, .ofNat 5, email⟩

def submission (email : String) : ParticipantEvidenceRow where
  lane := lane
  submissionId := .ofNat 3
  submittedAtMs := 0
  pair := ⟨.ofNat 4, .ofNat 5⟩
  contact := .found (contact email)

def first : CompleteSignInLink where
  lane := lane
  token := token 'a'
  now := ⟨2, by decide⟩
  newPersonId := .ofNat 10
  newParticipantIdentityId := .ofNat 11
  newSessionId := .ofNat 12
  newSessionToken := "a"

def second : CompleteSignInLink where
  lane := lane
  token := token 'b'
  now := ⟨4, by decide⟩
  newPersonId := .ofNat 20
  newParticipantIdentityId := .ofNat 21
  newSessionId := .ofNat 22
  newSessionToken := "b"

def steps : List (ParticipantStep host) :=
  [.attribute (submission "a@x.y"), .request ⟨lane, "a@x.y", ⟨1, by decide⟩, .ofNat 13, token 'a'⟩,
    .complete first, .contact lane (.ofNat 3) (.found (contact "b@x.y")),
    .request ⟨lane, "b@x.y", ⟨3, by decide⟩, .ofNat 23, token 'b'⟩]

def firstSteps : List (ParticipantStep host) := steps.take 2

/-- An address whose host is `x.y`. -/
def address (name : String) (h : isParticipantEmail name = true) :
    ParticipantEmail host.toAccessHost :=
  ⟨name, host.normalizeEmail name, h, rfl⟩

def member : ParticipantIdentityRecord where
  participantIdentityId := .ofNat 5
  personId := .ofNat 4
  lane := lane
  normalizedEmail := "a@x.y"
  displayEmail := "a@x.y"
  displayName := "a"
  standing := .active
  origin := .adoptedAttribution
  mintedAtMs := 2
  revokedAtMs := none

def session : ParticipantSessionRow where
  sessionId := .ofNat 12
  lane := lane
  participantIdentityId := .ofNat 5
  personId := .ofNat 4
  tokenHashSha256 := digest 0
  createdAtMs := 2
  lastSeenAtMs := 2
  slidingExpiresAtMs := 2592000002
  absoluteExpiresAtMs := 7776000002

def claimedEmail (input : CompleteSignInLink) (world : ParticipantWorld host.toAccessHost) :
    Option String :=
  match world.challenges.claim input.lane (host.sha256 input.token) input.now with
  | .ok (_, .claimed email) => some email.displayEmail
  | _ => none

theorem claims_of_claimedEmail {input : CompleteSignInLink}
    {world : ParticipantWorld host.toAccessHost} {name : String}
    (hname : isParticipantEmail name = true)
    (hwellFormed : isWellFormedParticipantLinkToken input.token = true)
    (h : claimedEmail input world = some name) :
    input.Claims host world (address name hname) := by
  refine ⟨hwellFormed, ?_⟩
  unfold claimedEmail at h
  split at h
  · rename_i challenges email hclaim
    obtain ⟨displayEmail, normalizedEmail, haccepted, rfl⟩ := email
    cases h
    exact ⟨challenges, hclaim⟩
  · cases h

/-- What a completion comes to : an error, or whom it signs in. -/
def outcome (input : CompleteSignInLink) (world : ParticipantWorld host.toAccessHost) :
    Except ParticipantAccessError (Option ParticipantIdentityRecord) :=
  match completeParticipantSignInLink policy input world with
  | .error error => .error error
  | .ok (_, .signedIn identity _ _) => .ok (some identity)
  | .ok _ => .ok none

theorem eq_error_of_outcome {input : CompleteSignInLink}
    {world : ParticipantWorld host.toAccessHost} {error : ParticipantAccessError}
    (h : outcome input world = .error error) :
    completeParticipantSignInLink policy input world = .error error := by
  unfold outcome at h
  split at h
  · rename_i heq
    cases h
    exact heq
  · cases h
  · cases h

theorem signsIn_of_outcome {input : CompleteSignInLink}
    {world : ParticipantWorld host.toAccessHost} {identity : ParticipantIdentityRecord}
    (h : outcome input world = .ok (some identity)) : SignsIn policy input world identity := by
  unfold outcome at h
  split at h
  · cases h
  · rename_i world' identity' session resumed heq
    cases h
    exact ⟨world', session, resumed, heq⟩
  · cases h

end MailboxExample

open MailboxExample in
/-- A submission is signed in to from its address, as the pair that intake gave it, which is
the earliest from that address. -/
theorem proven_mailbox_first :
    ∃ identity, SignsIn policy first (participantRun policy firstSteps) identity ∧
      identity.normalizedEmail = "a@x.y" ∧ identity.personId = .ofNat 4 ∧
      identity.participantIdentityId = .ofNat 5 ∧
      (participantRun policy firstSteps).IsChosen first "a@x.y" ⟨.ofNat 4, .ofNat 5⟩ := by
  have hclaims := claims_of_claimedEmail (by decide +kernel) (by decide +kernel)
    (show claimedEmail first (participantRun policy firstSteps) = some "a@x.y" by decide +kernel)
  have hdirectory : (participantRun policy firstSteps).directory.val = [] := by decide +kernel
  have hsessions : (participantRun policy firstSteps).sessions.val = [] := by decide +kernel
  have hfresh : first.IsFresh host (participantRun policy firstSteps) := by
    refine ⟨⟨by decide +kernel, ?_, ?_, ?_, ?_⟩, ?_, ?_⟩ <;> simp [hdirectory, hsessions]
  have hunknown : (participantRun policy firstSteps).directory.resolveByEmail lane "a@x.y" =
      none := by
    simp [ParticipantDirectory.resolveByEmail, hdirectory]
  have hstanding : ∀ row, (participantRun policy firstSteps).directory.resolveByEmail lane
      "a@x.y" = some row → row.standing = .active := by
    simp [hunknown]
  have hsigns : SignsIn policy first (participantRun policy firstSteps) member :=
    signsIn_of_outcome (by decide +kernel)
  obtain ⟨hemail, hchosen⟩ :=
    (proven_mailbox_signs_in_iff firstSteps hclaims hstanding hfresh).2 member hsigns
  exact ⟨member, hsigns, hemail, rfl, rfl, hchosen hunknown⟩

open MailboxExample in
/-- The contact of the submission changes to an address of the same person : its link is
claimed and fails. -/
theorem changed_address_cannot_sign_in :
    ∃ email : ParticipantEmail host.toAccessHost,
      second.Claims host (participantRun policy steps) email ∧
        (participantRun policy steps).directory.resolveByEmail lane email.normalizedEmail = none ∧
        second.IsFresh host (participantRun policy steps) ∧
        completeParticipantSignInLink policy second (participantRun policy steps) =
          .error .identityConstraint := by
  have hdirectory : (participantRun policy steps).directory.val = [member] := by decide +kernel
  have hsessions : (participantRun policy steps).sessions.val = [session] := by decide +kernel
  have hfree : ParticipantDirectory.IsFree (participantRun policy steps).directory
      ⟨second.newPersonId, second.newParticipantIdentityId⟩ := by
    constructor
    · decide +kernel
    all_goals
      rw [hdirectory]
      decide +kernel
  refine ⟨address "b@x.y" (by decide +kernel), claims_of_claimedEmail _ (by decide +kernel)
    (by decide +kernel), ?_, ⟨hfree, ?_, ?_⟩, eq_error_of_outcome (by decide +kernel)⟩
  · rw [ParticipantDirectory.resolveByEmail, hdirectory]
    decide +kernel
  all_goals
    rw [hsessions]
    decide +kernel

end JooEvents
