import Mathlib.Data.Prod.Lex
import JooEvents.Triage.Applied

/-!
# The spam migration

The migration to the current schema makes the discarded heads of the epoch-2 baseline spam :
`prepareMigration` transforms their values, for which it computes the digests, and the script
copies every head into a table of the current states. The guards of the scopes are not
touched, and their digests are over the digests of the heads.

On tables that are readable the migration succeeds (`migrate_eq_ok`), and a scope is then read
exactly when none of its heads was discarded (`readScope_migrated_iff`).
-/

namespace JooEvents

open Fallible Keyed List

variable {D : Type}

/-! ## The migration -/

inductive MigrationError where
  | notNull
  | check
  | key

/-- A row of the temporary table of transformed heads. -/
structure SubmissionTriageSpamRow (D : Type) where
  scope : SubmissionTriageScope
  submissionId : ApplicationId
  headJson : SubmissionTriageHeadValue D SubmissionTriageState
  headDigestSha256 : D

def SubmissionTriageSpamRow.key (row : SubmissionTriageSpamRow D) :
    SubmissionTriageScope × ApplicationId :=
  (row.scope, row.submissionId)

def SubmissionTriageHeadValue.withState {S T : Type} (value : SubmissionTriageHeadValue D S)
    (state : T) : SubmissionTriageHeadValue D T :=
  { scope := value.scope, submissionId := value.submissionId, version := value.version, state,
    setAsideAttribution := value.setAsideAttribution, updatedAt := value.updatedAt }

/-- `ORDER BY workspace_id,event_id,submission_id`. -/
def TriageHeadRow.order {S : Type} [TriageStates S] (row : TriageHeadRow D S) :
    ApplicationId ×ₗ ApplicationId ×ₗ ApplicationId :=
  toLex (row.scope.workspaceId, toLex (row.scope.eventId, row.submissionId))

section

variable (host : Host D)

def SubmissionTriageSpamRow.of {S : Type} [TriageStates S] (row : TriageHeadRow D S) :
    SubmissionTriageSpamRow D :=
  let transformed := row.headJson.withState SubmissionTriageState.spam
  { scope := row.scope, submissionId := row.submissionId, headJson := transformed
    headDigestSha256 := host.digest transformed }

def prepareMigration (tables : TriageTables D SubmissionTriageStateE20001) :
    List (SubmissionTriageSpamRow D) :=
  ((tables.heads.filter fun row => row.state = .discardedRecoverable).sortByKey
    TriageHeadRow.order).map (SubmissionTriageSpamRow.of host)

/-- `CASE state WHEN 'discarded_recoverable' THEN 'spam' ELSE state END`. -/
def SubmissionTriageStateE20001.migrated : SubmissionTriageStateE20001 → SubmissionTriageState
  | .inbox => .inbox
  | .setAside => .setAside
  | .discardedRecoverable => .spam

/-- The state of the text in the current schema, which has no text for the discarded one. -/
def SubmissionTriageStateE20001.current : SubmissionTriageStateE20001 → Option SubmissionTriageState
  | .inbox => some .inbox
  | .setAside => some .setAside
  | .discardedRecoverable => none

/-- The value and the digest that the script copies. -/
def migratedValue (spamRows : List (SubmissionTriageSpamRow D))
    (row : TriageHeadRow D SubmissionTriageStateE20001) :
    Except MigrationError (SubmissionTriageHeadValue D SubmissionTriageState × D) :=
  match row.state with
  | .discardedRecoverable => do
    let transformed ← orRefuse (spamRows.find? fun spam => spam.key = row.key) .notNull
    pure (transformed.headJson, transformed.headDigestSha256)
  | _ => do
    let state ← orRefuse row.headJson.state.current .check
    pure (row.headJson.withState state, row.headDigestSha256)

/-- The row that the script inserts, under the checks of the table. -/
def migrateHead (spamRows : List (SubmissionTriageSpamRow D))
    (row : TriageHeadRow D SubmissionTriageStateE20001) :
    Except MigrationError (TriageHeadRow D SubmissionTriageState) := do
  let (headJson, headDigestSha256) ← migratedValue spamRows row
  let state := row.state.migrated
  require (headJson.submissionId = row.submissionId ∧ headJson.version = row.headVersion ∧
    headJson.state = state) .check
  pure
    { scope := row.scope, submissionId := row.submissionId, headVersion := row.headVersion, state,
      updatedAt := row.updatedAt, headJson, headDigestSha256 }

/-- The tables with the heads, under the primary and the foreign key of the table. -/
def TriageTables.withHeads {S T : Type} [TriageStates S] [TriageStates T]
    (tables : TriageTables D S) (heads : List (TriageHeadRow D T)) :
    Except MigrationError (TriageTables D T) :=
  if h : (heads.map TriageHeadRow.key).Nodup ∧
      ∀ head ∈ heads, head.key ∈ tables.arrivals.map SubmissionArrivalRow.key then
    .ok
      { eventHeads := tables.eventHeads, arrivals := tables.arrivals, heads
        eventHeadKeys := tables.eventHeadKeys, arrivalKeys := tables.arrivalKeys
        headKeys := h.1, arrivalRoots := tables.arrivalRoots, headArrivals := h.2 }
  else .error .key

/-- `e2_0002_submission_triage_spam`, after `prepareMigration`. -/
def migrateSubmissionTriageSpam (tables : TriageTables D SubmissionTriageStateE20001) :
    Except MigrationError (TriageTables D SubmissionTriageState) := do
  let heads ← tables.heads.mapM (migrateHead (prepareMigration host tables))
  tables.withHeads heads

end

/-! ## Migrated heads -/

section

variable {host : Host D}

theorem isSetAside_migrated (state : SubmissionTriageStateE20001) :
    TriageStates.isSetAside state.migrated = TriageStates.isSetAside state := by
  cases state <;> rfl

/-- The head in its current state, with everything else as it was. -/
def SubmissionTriageHead.migrated (head : SubmissionTriageHead D SubmissionTriageStateE20001) :
    SubmissionTriageHead D SubmissionTriageState :=
  { head.toSubmissionTriageHeadValue.withState head.state.migrated with
    coherent := (isSetAside_migrated head.state).trans head.coherent }

def SubmissionTriageEntry.migrated (entry : SubmissionTriageEntry D SubmissionTriageStateE20001) :
    SubmissionTriageEntry D SubmissionTriageState :=
  { arrival := entry.arrival, head := entry.head.migrated }

def TriageHeadRow.migrated (host : Host D) (row : TriageHeadRow D SubmissionTriageStateE20001) :
    TriageHeadRow D SubmissionTriageState :=
  let headJson := row.headJson.withState row.state.migrated
  { scope := row.scope, submissionId := row.submissionId, headVersion := row.headVersion
    state := row.state.migrated, updatedAt := row.updatedAt, headJson
    headDigestSha256 := host.digest headJson }

theorem mapsHeads_migrated (scope : SubmissionTriageScope) :
    MapsHeads host scope (TriageHeadRow.migrated host) SubmissionTriageEntry.migrated where
  key _ := rfl
  arrival _ := rfl
  head _ _ := rfl

theorem text_migrated {state : SubmissionTriageStateE20001} (h : state ≠ .discardedRecoverable) :
    AsciiText.text state.migrated = AsciiText.text state := by
  cases state with
  | inbox => rfl
  | setAside => rfl
  | discardedRecoverable => exact absurd rfl h

theorem text_migrated_iff {state : SubmissionTriageStateE20001} :
    AsciiText.text state.migrated = AsciiText.text state ↔ state ≠ .discardedRecoverable := by
  cases state <;> decide

theorem current_eq_migrated {state : SubmissionTriageStateE20001}
    (h : state ≠ .discardedRecoverable) : state.current = some state.migrated := by
  cases state with
  | inbox => rfl
  | setAside => rfl
  | discardedRecoverable => exact absurd rfl h

theorem digest_migrated {head : SubmissionTriageHead D SubmissionTriageStateE20001}
    (h : head.state ≠ .discardedRecoverable) :
    submissionTriageHeadDigest host head.migrated = submissionTriageHeadDigest host head := by
  have hjson : (toJson head.migrated : Json D) = toJson head := by
    have htext : (toJson head.state.migrated : Json D) = toJson head.state :=
      congrArg Json.text (text_migrated h)
    simp only [toJson, SubmissionTriageHead.migrated, SubmissionTriageHeadValue.withState] at htext ⊢
    rw [htext]
  exact congrArg (fun json => host.sha256 (json.canonicalize host.nfc)) hjson

theorem state_of_digest_migrated (hcf : host.CollisionFree)
    {head : SubmissionTriageHead D SubmissionTriageStateE20001}
    (h : submissionTriageHeadDigest host head.migrated = submissionTriageHeadDigest host head) :
    head.state ≠ .discardedRecoverable :=
  text_migrated_iff.mp (SubmissionTriageHead.text_state_of_same (hcf h))

theorem find?_prepareMigration {tables : TriageTables D SubmissionTriageStateE20001}
    {row : TriageHeadRow D SubmissionTriageStateE20001} (hrow : row ∈ tables.heads)
    (hstate : row.state = .discardedRecoverable) :
    (prepareMigration host tables).find? (fun spam => spam.key = row.key) =
      some (SubmissionTriageSpamRow.of host row) := by
  have hmem : ∀ other, other ∈ (tables.heads.filter fun row =>
      row.state = .discardedRecoverable).sortByKey TriageHeadRow.order ↔
      other ∈ tables.heads ∧ other.state = .discardedRecoverable := by simp
  cases hfind : (prepareMigration host tables).find? fun spam => spam.key = row.key with
  | none =>
    exact absurd rfl (find?_key_eq_none_iff.mp hfind _ (List.mem_map.mpr
      ⟨row, (hmem row).mpr ⟨hrow, hstate⟩, rfl⟩))
  | some spam =>
    obtain ⟨hspam, hkey⟩ := mem_of_find?_key hfind
    obtain ⟨other, hother, rfl⟩ := List.mem_map.mp hspam
    rw [eq_of_key_eq tables.headKeys ((hmem other).mp hother).1 hrow hkey]

theorem migratedValue_of_discarded {spamRows : List (SubmissionTriageSpamRow D)}
    {row : TriageHeadRow D SubmissionTriageStateE20001} (h : row.state = .discardedRecoverable) :
    migratedValue spamRows row =
      (orRefuse (spamRows.find? fun spam => spam.key = row.key) .notNull).map
        fun spam => (spam.headJson, spam.headDigestSha256) := by
  rw [migratedValue, h]
  rfl

theorem migratedValue_of_kept {spamRows : List (SubmissionTriageSpamRow D)}
    {row : TriageHeadRow D SubmissionTriageStateE20001} (h : row.state ≠ .discardedRecoverable) :
    migratedValue spamRows row =
      (orRefuse row.headJson.state.current .check).map
        fun state => (row.headJson.withState state, row.headDigestSha256) := by
  unfold migratedValue
  split
  · exact absurd ‹_› h
  · rfl

theorem migrateHead_of {tables : TriageTables D SubmissionTriageStateE20001}
    {head : SubmissionTriageHead D SubmissionTriageStateE20001}
    (hrow : TriageHeadRow.of host head ∈ tables.heads) :
    migrateHead (prepareMigration host tables) (TriageHeadRow.of host head) =
      .ok (TriageHeadRow.of host head.migrated) := by
  have hvalue : migratedValue (prepareMigration host tables) (TriageHeadRow.of host head) =
      .ok (head.migrated.toSubmissionTriageHeadValue,
        submissionTriageHeadDigest host head.migrated) := by
    by_cases hstate : head.state = .discardedRecoverable
    · rw [migratedValue_of_discarded hstate, find?_prepareMigration hrow hstate]
      have hmigrated : head.toSubmissionTriageHeadValue.withState SubmissionTriageState.spam =
          head.migrated.toSubmissionTriageHeadValue :=
        congrArg head.withState (congrArg SubmissionTriageStateE20001.migrated hstate).symm
      rw [orRefuse_eq_ok.mpr rfl, SubmissionTriageSpamRow.of, TriageHeadRow.of, hmigrated]
      rfl
    · rw [migratedValue_of_kept hstate, digest_migrated hstate]
      rw [TriageHeadRow.of, current_eq_migrated hstate]
      rfl
  rw [migrateHead, hvalue, ok_bind]
  dsimp only
  rw [require_eq_ok (u := ()).mpr ⟨rfl, rfl, rfl⟩]
  rfl

def TriageTables.Readable [DecidableEq D] {S : Type} [TriageStates S] (host : Host D)
    (tables : TriageTables D S) :
    Prop :=
  ∀ scope, ∃ found, readTriageState host tables scope = .ok found

variable {tables : TriageTables D SubmissionTriageStateE20001}

theorem mem_joinedRows_of {S : Type} [TriageStates S] {tables : TriageTables D S}
    {arrival : SubmissionArrivalRow D} {row : TriageHeadRow D S}
    (harrival : arrival ∈ tables.arrivals) (hrow : row ∈ tables.heads) (hkey : row.key = arrival.key) :
    (arrival, row) ∈ tables.joinedRows arrival.scope := by
  have hfind : tables.heads.find? (fun head => head.key = arrival.key) = some row :=
    (find?_key_eq_some_iff tables.headKeys).mpr ⟨hrow, hkey⟩
  refine List.mem_filterMap.mpr ⟨arrival, mem_sortByKey.mpr (List.mem_filter.mpr ⟨harrival, ?_⟩), ?_⟩
  · exact decide_eq_true rfl
  · rw [hfind]
    rfl

theorem TriageTables.Readable.exists_entry [DecidableEq D] {S : Type} [TriageStates S]
    {tables : TriageTables D S}
    (h : tables.Readable host) {row : TriageHeadRow D S} (hrow : row ∈ tables.heads) :
    ∃ root ∈ tables.eventHeads, ∃ state, readScope host tables root = .ok state ∧
      ∃ entry ∈ state.entries, row = TriageHeadRow.of host entry.head := by
  obtain ⟨arrival, harrival, hkey⟩ := List.mem_map.mp (tables.headArrivals row hrow)
  obtain ⟨root, hroot, hscope⟩ := List.mem_map.mp (tables.arrivalRoots arrival harrival)
  obtain ⟨found, hfound⟩ := h root.scope
  cases found with
  | none => exact absurd rfl (readTriageState_eq_none.mp hfound root hroot)
  | some state =>
    obtain ⟨root', hroot', hscope', hread⟩ := readTriageState_eq_some.mp hfound
    obtain rfl := eq_of_key_eq tables.eventHeadKeys hroot' hroot hscope'
    obtain ⟨-, entries, hparsed, hcreate, -⟩ := readScope_eq_ok.mp hread
    obtain ⟨-, -, -, hsorted⟩ := canonical_of_create hcreate
    have hjoined := mem_joinedRows_of harrival hrow hkey.symm
    rw [← hscope] at hjoined
    obtain ⟨entry, hentry, hparse⟩ :=
      exists_left_of_forall₂ (forall₂_of_mapM_eq_ok hparsed).flip hjoined
    exact ⟨root', hroot', state, hread, entry, hsorted ▸ mem_sortByKey.mpr hentry,
      (parseRow_eq_ok.mp hparse).2⟩

theorem withHeads_map {S T : Type} [TriageStates S] [TriageStates T] {tables : TriageTables D S}
    {f : TriageHeadRow D S → TriageHeadRow D T} (hf : ∀ row, (f row).key = row.key) :
    ∃ written, tables.withHeads (tables.heads.map f) = .ok written ∧
      written.heads = tables.heads.map f ∧ written.arrivals = tables.arrivals ∧
      written.eventHeads = tables.eventHeads := by
  have hkeys : (tables.heads.map f).map TriageHeadRow.key = tables.heads.map TriageHeadRow.key := by
    rw [List.map_map]
    exact List.map_congr_left fun row _ => hf row
  have hvalid : ((tables.heads.map f).map TriageHeadRow.key).Nodup ∧
      ∀ head ∈ tables.heads.map f, head.key ∈ tables.arrivals.map SubmissionArrivalRow.key := by
    refine ⟨hkeys ▸ tables.headKeys, List.forall_mem_map.mpr fun row hrow => ?_⟩
    rw [hf]
    exact tables.headArrivals row hrow
  exact ⟨_, dif_pos hvalid, rfl, rfl, rfl⟩

theorem migrate_eq_ok [DecidableEq D] (h : tables.Readable host) :
    ∃ written, migrateSubmissionTriageSpam host tables = .ok written ∧
      written.heads = tables.heads.map (TriageHeadRow.migrated host) ∧
      written.arrivals = tables.arrivals ∧ written.eventHeads = tables.eventHeads := by
  have hheads : tables.heads.mapM (migrateHead (prepareMigration host tables)) =
      .ok (tables.heads.map (TriageHeadRow.migrated host)) := by
    refine mapM_eq_ok_of_forall₂ (List.forall₂_map_right_iff.mpr (List.forall₂_same.mpr ?_))
    intro row hrow
    obtain ⟨-, -, -, -, entry, -, rfl⟩ := h.exists_entry hrow
    exact migrateHead_of hrow
  obtain ⟨written, hwritten, hrest⟩ :=
    withHeads_map (f := TriageHeadRow.migrated host) fun row : TriageHeadRow D _ => rfl
  refine ⟨written, ?_, hrest⟩
  rw [migrateSubmissionTriageSpam, hheads]
  exact hwritten

/-! ## Reading after the migration -/

variable {written : TriageTables D SubmissionTriageState} {scope : SubmissionTriageScope}

theorem entriesDigest_migrated_iff (hcf : host.CollisionFree)
    {entries : List (SubmissionTriageEntry D SubmissionTriageStateE20001)} :
    entriesDigest host scope entries =
        entriesDigest host scope (entries.map SubmissionTriageEntry.migrated) ↔
      ∀ entry ∈ entries, entry.head.state ≠ .discardedRecoverable := by
  constructor
  · intro h entry hentry
    have hdigests := headDigests_of_entriesDigest hcf h
    rw [List.map_map] at hdigests
    exact state_of_digest_migrated hcf (List.map_inj_left.mp hdigests entry hentry).symm
  · intro h
    have hjson : (entries.map SubmissionTriageEntry.migrated).map (queryEntryJson host) =
        entries.map (queryEntryJson host) := by
      rw [List.map_map]
      refine List.map_congr_left fun entry hentry => ?_
      simp only [Function.comp_apply, queryEntryJson, SubmissionTriageEntry.migrated,
        digest_migrated (h entry hentry)]
      rfl
    rw [entriesDigest, entriesDigest, hjson]

def SubmissionTriageStateSnapshot.migrated
    (state : SubmissionTriageStateSnapshot D SubmissionTriageStateE20001) :
    SubmissionTriageStateSnapshot D SubmissionTriageState :=
  { scope := state.scope, queryGuard := state.queryGuard,
    entries := state.entries.map SubmissionTriageEntry.migrated }

theorem readScope_migrated_iff [DecidableEq D] (hcf : host.CollisionFree) {root : TriageEventHeadRow D}
    {state : SubmissionTriageStateSnapshot D SubmissionTriageStateE20001}
    {after : SubmissionTriageStateSnapshot D SubmissionTriageState}
    (hread : readScope host tables root = .ok state) (harrivals : written.arrivals = tables.arrivals)
    (hheads : written.heads = tables.heads.map (TriageHeadRow.migrated host)) :
    readScope host written root = .ok after ↔
      (∀ entry ∈ state.entries, entry.head.state ≠ .discardedRecoverable) ∧
        after = state.migrated := by
  obtain ⟨-, entries, -, hcreate, hdigest⟩ := readScope_eq_ok.mp hread
  obtain ⟨hcanonical, hscope, hversion, -⟩ := canonical_of_create hcreate
  have hstored : root.queryDigestSha256 = entriesDigest host root.scope state.entries :=
    hdigest.symm.trans (hscope ▸ hcanonical.digest)
  rw [readScope_map hread rfl (mapsHeads_migrated root.scope) harrivals hheads, hstored,
    entriesDigest_migrated_iff hcf, ← hstored]
  have hguard : state.queryGuard =
      { scope := root.scope, version := root.queryVersion, digestSha256 := root.queryDigestSha256 } := by
    rw [← hversion, ← hdigest, ← hscope, ← hcanonical.guardScope]
  rw [SubmissionTriageStateSnapshot.migrated, hguard, hscope]

/-- The migration keeps the triage : of every scope that could be read the entries are read, the
discarded ones as spam, and every legal transition of them is planned and applied. -/
def KeepsTriage [DecidableEq D] (host : Host D) (tables : TriageTables D SubmissionTriageStateE20001) : Prop :=
  ∃ written, migrateSubmissionTriageSpam host tables = .ok written ∧
    ∀ scope found, readTriageState host tables scope = .ok found →
      ∃ after, readTriageState host written scope = .ok after ∧
        after.map (·.entries) =
          found.map (fun state => state.entries.map SubmissionTriageEntry.migrated) ∧
        ∀ state ∈ after, ∀ request, LegalTransition state request →
          ∃ plan result, planSubmissionTriageTransition host state request = .ok plan ∧
            applyTransitionPlan host true written plan = .ok result

theorem ne_discarded_of_keepsTriage [DecidableEq D] (hcf : host.CollisionFree) (h : tables.Readable host)
    (hkeeps : KeepsTriage host tables) {row : TriageHeadRow D SubmissionTriageStateE20001}
    (hrow : row ∈ tables.heads) : row.state ≠ .discardedRecoverable := by
  obtain ⟨written, hwritten, hheads, harrivals, hroots⟩ := migrate_eq_ok h
  obtain ⟨written', hwritten', hkeeps⟩ := hkeeps
  obtain rfl := Except.ok.inj (hwritten.symm.trans hwritten')
  obtain ⟨root, hroot, state, hread, entry, hentry, rfl⟩ := h.exists_entry hrow
  obtain ⟨after, hafter, hentries, -⟩ :=
    hkeeps root.scope (some state) (readTriageState_eq_some.mpr ⟨root, hroot, rfl, hread⟩)
  obtain ⟨migrated, rfl, -⟩ := Option.map_eq_some_iff.mp hentries
  obtain ⟨root', hroot', hscope, hread'⟩ := readTriageState_eq_some.mp hafter
  obtain rfl := eq_of_key_eq tables.eventHeadKeys (hroots ▸ hroot') hroot hscope
  exact ((readScope_migrated_iff hcf hread harrivals hheads).mp hread').1 entry hentry

/-- The spam migration keeps the triage of readable tables exactly when no head is
discarded. -/
theorem spam_migration_keeps_triage_iff [DecidableEq D] (hcf : host.CollisionFree) (h : tables.Readable host) :
    KeepsTriage host tables ↔ ∀ row ∈ tables.heads, row.state ≠ .discardedRecoverable := by
  refine ⟨fun hkeeps row hrow => ne_discarded_of_keepsTriage hcf h hkeeps hrow, fun hkept => ?_⟩
  obtain ⟨written, hwritten, hheads, harrivals, hroots⟩ := migrate_eq_ok h
  refine ⟨written, hwritten, fun scope found hfound => ?_⟩
  cases found with
  | none =>
    have hnone : readTriageState host written scope = .ok none :=
      readTriageState_eq_none.mpr (hroots ▸ readTriageState_eq_none.mp hfound)
    exact ⟨none, hnone, rfl, nofun⟩
  | some state =>
    obtain ⟨root, hroot, hscope, hread⟩ := readTriageState_eq_some.mp hfound
    have hstates : ∀ entry ∈ state.entries, entry.head.state ≠ .discardedRecoverable := by
      intro entry hentry
      obtain ⟨-, -, -, -, hrow⟩ := exists_rows_of_entry hread hentry
      exact hkept _ hrow
    have hafter : readTriageState host written scope = .ok (some state.migrated) :=
      readTriageState_eq_some.mpr ⟨root, hroots ▸ hroot, hscope,
        (readScope_migrated_iff hcf hread harrivals hheads).mpr ⟨hstates, rfl⟩⟩
    refine ⟨some state.migrated, hafter, rfl, ?_⟩
    rintro _ ⟨⟩ request hlegal
    obtain ⟨plan, result, hplan, happly, -⟩ := exists_apply hafter hlegal
    exact ⟨plan, _, hplan, happly⟩

end

/-! ## An event with several submissions -/

def SubmissionArrivalRow.of (host : Host D) (arrival : SubmissionArrivalFact D) :
    SubmissionArrivalRow D :=
  { scope := arrival.scope, submissionId := arrival.submissionId, arrivalId := arrival.id
    formId := arrival.formId, formVersionId := arrival.formVersionId, source := arrival.source
    classification := arrival.classification, submittedAt := arrival.submittedAt
    recordedAt := arrival.recordedAt, factJson := arrival
    factDigestSha256 := submissionTriageArrivalDigest host arrival }

theorem parseArrival_of [DecidableEq D] (host : Host D) (arrival : SubmissionArrivalFact D) :
    parseArrival host (.of host arrival) = .ok arrival := by
  rw [parseArrival, require_eq_ok (u := ()).mpr ⟨rfl, rfl, rfl, rfl, rfl, rfl, rfl, rfl, rfl, rfl⟩]
  rfl

namespace EntriesCanonical

variable {S : Type} [TriageStates S] {scope : SubmissionTriageScope}
  {entries : List (SubmissionTriageEntry D S)}

theorem arrivalKey (h : EntriesCanonical scope entries) {entry : SubmissionTriageEntry D S}
    (hentry : entry ∈ entries) :
    (SubmissionArrivalRow.of host entry.arrival).key = (scope, entry.submissionId) :=
  Prod.ext (h.scopes entry hentry).1 (h.ids entry hentry)

theorem headKey (h : EntriesCanonical scope entries) {entry : SubmissionTriageEntry D S}
    (hentry : entry ∈ entries) :
    (TriageHeadRow.of host entry.head).key = (scope, entry.submissionId) :=
  Prod.ext (h.scopes entry hentry).2 rfl

theorem nodup_keys (h : EntriesCanonical scope entries) :
    (entries.map fun entry => (scope, entry.submissionId)).Nodup := by
  have hids : (entries.map SubmissionTriageEntry.submissionId).Nodup :=
    nodup_map_of_pairwise_lt h.sorted
  have hkeys := hids.map (Prod.mk_right_injective scope)
  rwa [List.map_map] at hkeys

/-- The tables that hold the entries of one scope. -/
def stored (h : EntriesCanonical scope entries) (host : Host D) : TriageTables D S where
  eventHeads :=
    [{ scope, queryVersion := .one, queryDigestSha256 := entriesDigest host scope entries }]
  arrivals := entries.map fun entry => .of host entry.arrival
  heads := entries.map fun entry => .of host entry.head
  eventHeadKeys := List.nodup_singleton _
  arrivalKeys := by
    rw [List.map_map]
    exact List.map_congr_left (fun entry hentry => h.arrivalKey hentry) ▸ h.nodup_keys
  headKeys := by
    rw [List.map_map]
    exact List.map_congr_left (fun entry hentry => h.headKey hentry) ▸ h.nodup_keys
  arrivalRoots := List.forall_mem_map.mpr fun entry hentry => by
    simp [SubmissionArrivalRow.of, (h.scopes entry hentry).1]
  headArrivals := List.forall_mem_map.mpr fun entry hentry => by
    rw [h.headKey hentry, ← h.arrivalKey hentry]
    exact List.mem_map_of_mem (List.mem_map_of_mem hentry)

theorem joinedRows_stored (h : EntriesCanonical scope entries) :
    (h.stored host).joinedRows scope = entries.map fun entry =>
      (SubmissionArrivalRow.of host entry.arrival, TriageHeadRow.of host entry.head) := by
  have hscope : (h.stored host).arrivals.filter (fun arrival => arrival.scope = scope) =
      entries.map fun entry => SubmissionArrivalRow.of host entry.arrival :=
    List.filter_eq_self.mpr <| List.forall_mem_map.mpr fun entry hentry =>
      decide_eq_true (h.scopes entry hentry).1
  have hsorted : (entries.map fun entry => SubmissionArrivalRow.of host entry.arrival).Pairwise
      fun a b => a.submissionId < b.submissionId := by
    refine List.pairwise_map.mpr (h.sorted.imp_of_mem fun {a b} ha hb hab => ?_)
    have hids : a.arrival.submissionId < b.arrival.submissionId := by
      rw [h.ids a ha, h.ids b hb]
      exact hab
    exact hids
  rw [TriageTables.joinedRows, hscope, sortByKey_eq_self hsorted, List.filterMap_map,
    ← List.filterMap_eq_map]
  refine List.filterMap_congr fun entry hentry => ?_
  have hfound : (h.stored host).heads.find? (fun head =>
      head.key = (SubmissionArrivalRow.of host entry.arrival).key) =
        some (TriageHeadRow.of host entry.head) :=
    (find?_key_eq_some_iff (h.stored host).headKeys).mpr
      ⟨List.mem_map_of_mem hentry, (h.headKey hentry).trans (h.arrivalKey hentry).symm⟩
  rw [Function.comp, hfound]
  rfl

/-- What is stored is readable. -/
theorem readable_stored [DecidableEq D] (h : EntriesCanonical scope entries) :
    (h.stored host).Readable host := by
  intro other
  by_cases hother : other = scope
  · have hrows : ((h.stored host).joinedRows scope).mapM (parseRow host) = .ok entries := by
      rw [h.joinedRows_stored]
      refine mapM_eq_ok_of_forall₂ (List.forall₂_map_left_iff.mpr (List.forall₂_same.mpr ?_))
      exact fun entry _ => parseRow_eq_ok.mpr ⟨parseArrival_of host entry.arrival, rfl⟩
    have hheads : (h.stored host).heads.filter (fun head => head.scope = scope) =
        (h.stored host).heads :=
      List.filter_eq_self.mpr <| List.forall_mem_map.mpr fun entry hentry =>
        decide_eq_true (h.scopes entry hentry).2
    have harrivals : (h.stored host).arrivals.filter (fun arrival => arrival.scope = scope) =
        (h.stored host).arrivals :=
      List.filter_eq_self.mpr <| List.forall_mem_map.mpr fun entry hentry =>
        decide_eq_true (h.scopes entry hentry).1
    refine ⟨some _, readTriageState_eq_some.mpr ⟨_, List.mem_singleton_self _, hother.symm,
      readScope_eq_ok.mpr ⟨⟨?_, ?_⟩, entries, hrows, h.create .one, rfl⟩⟩⟩
    · rw [harrivals, h.joinedRows_stored, List.length_map]
      exact List.length_map _
    · rw [hheads, h.joinedRows_stored, List.length_map]
      exact List.length_map _
  · refine ⟨none, readTriageState_eq_none.mpr (List.forall_mem_singleton.mpr ?_)⟩
    exact fun heq => hother heq.symm

end EntriesCanonical

namespace SpamMigrationExample

def scope : SubmissionTriageScope := { workspaceId := .ofNat 1, eventId := .ofNat 2 }

theorem isEvidenceText_owner :
    1 ≤ textLength "owner" ∧ textLength "owner" ≤ 512 ∧ trimText "owner" = "owner" := by decide

theorem isCanonicalUuid_nil : isCanonicalUuid "00000000-0000-0000-0000-000000000000" = true := by
  decide

/-- The entry of a submission, which the owner set aside if it is not in the inbox. -/
def entry (n : ℕ) (state : SubmissionTriageStateE20001) :
    SubmissionTriageEntry SymbolicDigest SubmissionTriageStateE20001 where
  arrival :=
    { id := .ofNat 3, scope, submissionId := .ofNat n, formId := .ofNat 5, formVersionId := .ofNat 6
      source := .publicForm, submittedAt := .yearStart 2026, classification := .onTime
      closeEvidence := none, recordedAt := .yearStart 2026, agrees := nofun }
  head :=
    { scope, submissionId := .ofNat n, version := .one, state
      setAsideAttribution :=
        if TriageStates.isSetAside state then
          some (.manual ⟨"owner", isEvidenceText_owner⟩ ⟨_, isCanonicalUuid_nil⟩ .operatorHttp)
        else none
      updatedAt := .yearStart 2026, coherent := by cases state <;> rfl }

/-- Three submissions, the last one in a given state. -/
def entries (state : SubmissionTriageStateE20001) :
    List (SubmissionTriageEntry SymbolicDigest SubmissionTriageStateE20001) :=
  [entry 4 .inbox, entry 7 .setAside, entry 8 state]

theorem canonical (state : SubmissionTriageStateE20001) : EntriesCanonical scope (entries state) where
  scopes := by simp [entries, entry]
  ids := by simp [entries, entry]
  sorted := by simp [entries, entry, SubmissionTriageEntry.submissionId, ApplicationId.ofNat_lt]

end SpamMigrationExample

open SpamMigrationExample in
/-- A submission that was discarded makes its event unreadable. -/
theorem discarded_submission_loses_triage :
    ((canonical .discardedRecoverable).stored SymbolicDigest.host).Readable SymbolicDigest.host ∧
      ¬ KeepsTriage SymbolicDigest.host
        ((canonical .discardedRecoverable).stored SymbolicDigest.host) := by
  refine ⟨(canonical _).readable_stored, fun hkeeps => ?_⟩
  have hdiscarded : entry 8 .discardedRecoverable ∈ entries .discardedRecoverable := by simp [entries]
  exact ne_discarded_of_keepsTriage SymbolicDigest.host_collisionFree (canonical _).readable_stored
    hkeeps (List.mem_map_of_mem hdiscarded) rfl

open SpamMigrationExample in
/-- Two submissions in the inbox and one that is set aside keep their triage. -/
theorem spam_migration_keeps_triage_inbox :
    (entries .inbox).map (·.head.state) = [.inbox, .setAside, .inbox] ∧
      KeepsTriage SymbolicDigest.host ((canonical .inbox).stored SymbolicDigest.host) := by
  refine ⟨rfl, (spam_migration_keeps_triage_iff SymbolicDigest.host_collisionFree
    (canonical _).readable_stored).mpr (List.forall_mem_map.mpr fun found hfound hdiscarded => ?_)⟩
  have hstate : found.head.state = .discardedRecoverable := hdiscarded
  simp only [entries, List.mem_cons, List.not_mem_nil, or_false] at hfound
  rcases hfound with rfl | rfl | rfl <;> cases hstate

end JooEvents
