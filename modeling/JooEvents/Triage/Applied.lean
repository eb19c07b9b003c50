import JooEvents.Triage.Tables

/-!
# Applied transitions

Reading a scope accepts exactly the rows of heads (`parseHead_eq_ok`), and a snapshot that was
read is canonical (`canonical_of_read`). The updates of a plan set the rows of its targets and
leave the others (`foldlM_updateHead`), so that what is read after a legal transition is what
was planned (`exists_apply`).
-/

namespace JooEvents

open Fallible Keyed List

variable {D S : Type} [TriageStates S] {host : Host D}

/-! ## What is read -/

section

variable [DecidableEq D]

theorem parseHead_eq_ok {row : TriageHeadRow D S} {head : SubmissionTriageHead D S} :
    parseHead host row = .ok head ↔ row = TriageHeadRow.of host head := by
  simp only [parseHead, bind_eq_ok, orRefuse_eq_ok, SubmissionTriageHeadValue.parse_eq_some,
    require_eq_ok, pure_eq_ok, exists_const]
  constructor
  · rintro ⟨found, hjson, ⟨hdigest, hscope, hid, hversion, hstate, hupdated⟩, rfl⟩
    obtain ⟨scope, submissionId, headVersion, state, updatedAt, headJson, digest⟩ := row
    dsimp only at hjson hdigest hscope hid hversion hstate hupdated
    subst hjson hdigest hscope hid hversion hstate hupdated
    rfl
  · rintro rfl
    exact ⟨head, rfl, ⟨rfl, rfl, rfl, rfl, rfl, rfl⟩, rfl⟩

theorem parseArrival_eq_ok {row : SubmissionArrivalRow D} {fact : SubmissionArrivalFact D}
    (h : parseArrival host row = .ok fact) :
    row.factDigestSha256 = submissionTriageArrivalDigest host fact ∧
      row.key = (fact.scope, fact.submissionId) := by
  simp only [parseArrival, bind_eq_ok, require_eq_ok, pure_eq_ok, exists_const] at h
  obtain ⟨⟨hdigest, hscope, hid, -⟩, rfl⟩ := h
  exact ⟨hdigest.symm, by rw [SubmissionArrivalRow.key, hscope, hid]⟩

theorem parseRow_eq_ok {row : SubmissionArrivalRow D × TriageHeadRow D S}
    {entry : SubmissionTriageEntry D S} :
    parseRow host row = .ok entry ↔
      parseArrival host row.1 = .ok entry.arrival ∧ row.2 = TriageHeadRow.of host entry.head := by
  simp only [parseRow, bind_eq_ok, parseHead_eq_ok, pure_eq_ok]
  constructor
  · rintro ⟨arrival, harrival, head, hhead, rfl⟩
    exact ⟨harrival, hhead⟩
  · rintro ⟨harrival, hhead⟩
    exact ⟨entry.arrival, harrival, entry.head, hhead, rfl⟩

theorem filter_key_eq_singleton {α κ : Type} [DecidableEq κ] {key : α → κ} {as : List α}
    (hnd : (as.map key).Nodup) {a : α} (ha : a ∈ as) :
    as.filter (fun b => key b = key a) = [a] := by
  induction as with
  | nil => cases ha
  | cons b as ih =>
    rw [List.map_cons, List.nodup_cons] at hnd
    rcases List.mem_cons.mp ha with rfl | ha
    · have hrest : as.filter (fun b => key b = key a) = [] :=
        List.filter_eq_nil_iff.mpr fun b hb hkey =>
          hnd.1 (List.mem_map.mpr ⟨b, hb, by simpa using hkey⟩)
      rw [List.filter_cons_of_pos (by simp), hrest]
    · have hne : key b ≠ key a := fun h => hnd.1 (List.mem_map.mpr ⟨a, ha, h.symm⟩)
      rw [List.filter_cons_of_neg (by simp [hne]), ih hnd.2 ha]

theorem readTriageState_eq_some {tables : TriageTables D S} {scope : SubmissionTriageScope}
    {state : SubmissionTriageStateSnapshot D S} :
    readTriageState host tables scope = .ok (some state) ↔
      ∃ root ∈ tables.eventHeads, root.scope = scope ∧ readScope host tables root = .ok state := by
  have hmem : ∀ root, root ∈ tables.eventHeads.filter (fun root => root.scope = scope) ↔
      root ∈ tables.eventHeads ∧ root.scope = scope := by simp
  constructor
  · intro h
    unfold readTriageState at h
    split at h
    · cases h
    · rename_i root hroots
      obtain ⟨hroot, hscope⟩ := (hmem root).mp (hroots ▸ List.mem_singleton_self root)
      refine ⟨root, hroot, hscope, ?_⟩
      cases hread : readScope host tables root with
      | error e => rw [hread] at h; cases h
      | ok read =>
        rw [hread] at h
        exact congrArg Except.ok (Option.some.inj (Except.ok.inj h))
    · cases h
  · rintro ⟨root, hroot, rfl, hread⟩
    rw [readTriageState, filter_key_eq_singleton tables.eventHeadKeys hroot]
    exact congrArg (Except.map some) hread

theorem readTriageState_eq_none {tables : TriageTables D S} {scope : SubmissionTriageScope} :
    readTriageState host tables scope = .ok none ↔ ∀ root ∈ tables.eventHeads, root.scope ≠ scope := by
  constructor
  · intro h root hroot hscope
    subst hscope
    rw [readTriageState, filter_key_eq_singleton tables.eventHeadKeys hroot] at h
    dsimp only at h
    cases hread : readScope host tables root with
    | error e => rw [hread] at h; cases h
    | ok read => rw [hread] at h; cases h
  · intro h
    have hnil : tables.eventHeads.filter (fun root => root.scope = scope) = [] :=
      List.filter_eq_nil_iff.mpr fun root hroot hscope => h root hroot (by simpa using hscope)
    rw [readTriageState, hnil]

theorem readScope_eq_ok {tables : TriageTables D S} {root : TriageEventHeadRow D}
    {state : SubmissionTriageStateSnapshot D S} :
    readScope host tables root = .ok state ↔
      ((tables.arrivals.filter fun arrival => arrival.scope = root.scope).length =
          (tables.joinedRows root.scope).length ∧
        (tables.heads.filter fun head => head.scope = root.scope).length =
          (tables.joinedRows root.scope).length) ∧
      ∃ entries, (tables.joinedRows root.scope).mapM (parseRow host) = .ok entries ∧
        createSubmissionTriageState host root.scope root.queryVersion entries = .ok state ∧
        state.queryGuard.digestSha256 = root.queryDigestSha256 := by
  simp only [readScope, bind_eq_ok, require_eq_ok, pure_eq_ok, exists_const]
  refine and_congr_right fun _ => exists_congr fun entries => and_congr_right fun _ => ?_
  constructor
  · rintro ⟨read, hread, hdigest, rfl⟩
    exact ⟨hread, hdigest⟩
  · rintro ⟨hread, hdigest⟩
    exact ⟨state, hread, hdigest, rfl⟩

theorem canonical_of_read {tables : TriageTables D S} {scope : SubmissionTriageScope}
    {state : SubmissionTriageStateSnapshot D S}
    (h : readTriageState host tables scope = .ok (some state)) :
    state.Canonical host ∧ state.scope = scope := by
  obtain ⟨root, -, rfl, hread⟩ := readTriageState_eq_some.mp h
  obtain ⟨-, entries, -, hcreate, -⟩ := readScope_eq_ok.mp hread
  obtain ⟨hcanonical, hscope, -⟩ := canonical_of_create hcreate
  exact ⟨hcanonical, hscope⟩

end

/-! ## The updates -/

section

variable {scope : SubmissionTriageScope}
variable {transitions : List (SubmissionTriagePlannedTransition D)}
variable {tables : TriageTables D SubmissionTriageState}

/-- The row with what the transitions set on it, one after the other. -/
def setMoved (host : Host D) (scope : SubmissionTriageScope)
    (transitions : List (SubmissionTriagePlannedTransition D))
    (row : TriageHeadRow D SubmissionTriageState) : TriageHeadRow D SubmissionTriageState :=
  transitions.foldl (fun row transition =>
    if row.key = (scope, transition.submissionId) then row.set host transition.after else row) row

theorem key_setMoved (row : TriageHeadRow D SubmissionTriageState) :
    (setMoved host scope transitions row).key = row.key := by
  induction transitions generalizing row with
  | nil => rfl
  | cons transition transitions ih =>
    rw [setMoved, List.foldl_cons]
    refine (ih _).trans ?_
    split <;> rfl

theorem setMoved_of_ne {row : TriageHeadRow D SubmissionTriageState}
    (h : ∀ transition ∈ transitions, row.key ≠ (scope, transition.submissionId)) :
    setMoved host scope transitions row = row := by
  induction transitions with
  | nil => rfl
  | cons transition transitions ih =>
    rw [setMoved, List.foldl_cons, if_neg (h transition (by simp))]
    exact ih fun t ht => h t (by simp [ht])

theorem setMoved_of {entry : SubmissionTriageEntry D SubmissionTriageState}
    (hdistinct : (transitions.map (·.submissionId)).Nodup)
    (hmoves : MovesWithin scope transitions) (hscope : entry.head.scope = scope) :
    setMoved host scope transitions (TriageHeadRow.of host entry.head) =
      TriageHeadRow.of host (entry.movedBy transitions).head := by
  induction transitions with
  | nil => rfl
  | cons transition transitions ih =>
    rw [List.map_cons, List.nodup_cons] at hdistinct
    have hmove := hmoves transition (by simp)
    rw [setMoved, List.foldl_cons, SubmissionTriageEntry.movedBy]
    by_cases hid : transition.submissionId = entry.submissionId
    · have hkey : (TriageHeadRow.of host entry.head).key = (scope, transition.submissionId) :=
        Prod.ext hscope hid.symm
      have hset : (TriageHeadRow.of host entry.head).set host transition.after =
          TriageHeadRow.of host transition.after := by
        have hscope' : entry.head.scope = transition.after.scope := hscope.trans hmove.1.symm
        have hid' : entry.head.submissionId = transition.after.submissionId :=
          hid.symm.trans hmove.2.symm
        rw [TriageHeadRow.set]
        simp only [TriageHeadRow.of, hscope', hid']
      rw [if_pos hkey, hset, List.find?_cons_of_pos (by simpa using hid)]
      refine setMoved_of_ne fun other hother hkey' => hdistinct.1 (List.mem_map.mpr
        ⟨other, hother, ?_⟩)
      exact (Prod.mk.inj hkey').2.symm.trans hmove.2
    · have hkey : (TriageHeadRow.of host entry.head).key ≠ (scope, transition.submissionId) :=
        fun hkey => hid (Prod.mk.inj hkey).2.symm
      rw [if_neg hkey, List.find?_cons_of_neg (by simpa using hid)]
      exact ih hdistinct.2 fun other hother => hmoves other (by simp [hother])

variable [DecidableEq D]

theorem updateHead_eq_ok {transition : SubmissionTriagePlannedTransition D}
    {row : TriageHeadRow D SubmissionTriageState} (hrow : row ∈ tables.heads)
    (hupdates : Updates host tables scope transition row)
    (haccepts : AcceptsUpdate row transition.after) :
    ∃ updated, updateHead host scope tables transition = .ok updated ∧
      updated.heads = tables.heads.map (setMoved host scope [transition]) ∧
      updated.arrivals = tables.arrivals ∧ updated.eventHeads = tables.eventHeads := by
  have hkey : row.key = (scope, transition.submissionId) := Prod.ext hupdates.1 hupdates.2.1
  have hiff : ∀ other ∈ tables.heads,
      Updates host tables scope transition other ↔ other.key = row.key := by
    intro other hother
    constructor
    · exact fun h => (Prod.ext h.1 h.2.1 : other.key = (scope, transition.submissionId)).trans
        hkey.symm
    · intro h
      rw [eq_of_key_eq tables.headKeys hother hrow h]
      exact hupdates
  have hfilter : tables.heads.filter (fun other => Updates host tables scope transition other) =
      [row] := by
    rw [← filter_key_eq_singleton tables.headKeys hrow]
    exact List.filter_congr fun other hother => decide_eq_decide.mpr (hiff other hother)
  have hok : updateHead host scope tables transition =
      .ok (tables.mapHeads (updatedRow host scope tables transition)
        (key_updatedRow host scope tables transition)) := by
    have haccepted : ∀ other ∈ [row], AcceptsUpdate other transition.after :=
      List.forall_mem_singleton.mpr haccepts
    rw [updateHead, hfilter, require_eq_ok (u := ()).mpr haccepted, ok_bind,
      require_eq_ok (u := ()).mpr (List.length_singleton (a := row))]
    rfl
  refine ⟨_, hok, List.map_congr_left fun other hother => ?_, rfl, rfl⟩
  rw [updatedRow, setMoved, List.foldl_cons, List.foldl_nil]
  exact if_congr ((hiff other hother).trans (by rw [hkey])) rfl rfl

theorem foldlM_updateHead (hdistinct : (transitions.map (·.submissionId)).Nodup)
    (hrows : ∀ transition ∈ transitions, ∃ row ∈ tables.heads,
      Updates host tables scope transition row ∧ AcceptsUpdate row transition.after) :
    ∃ updated, transitions.foldlM (updateHead host scope) tables = .ok updated ∧
      updated.heads = tables.heads.map (setMoved host scope transitions) ∧
      updated.arrivals = tables.arrivals ∧ updated.eventHeads = tables.eventHeads := by
  induction transitions generalizing tables with
  | nil => exact ⟨tables, rfl, (List.map_id _).symm, rfl, rfl⟩
  | cons transition transitions ih =>
    rw [List.map_cons, List.nodup_cons] at hdistinct
    obtain ⟨row, hrow, hupdates, haccepts⟩ := hrows transition (by simp)
    obtain ⟨once, honce, hheads, harrivals, hroots⟩ := updateHead_eq_ok hrow hupdates haccepts
    have hnext : ∀ other ∈ transitions, ∃ row ∈ once.heads,
        Updates host once scope other row ∧ AcceptsUpdate row other.after := by
      intro other hother
      obtain ⟨row', hrow', hupdates', haccepts'⟩ := hrows other (by simp [hother])
      have hne : setMoved host scope [transition] row' = row' := by
        refine setMoved_of_ne fun t ht hkey => hdistinct.1 (List.mem_map.mpr ⟨other, hother, ?_⟩)
        rw [List.mem_singleton.mp ht] at hkey
        exact hupdates'.2.1.symm.trans (Prod.mk.inj hkey).2
      refine ⟨row', hheads ▸ List.mem_map.mpr ⟨row', hrow', hne⟩, ?_, haccepts'⟩
      rw [Updates, harrivals]
      exact hupdates'
    obtain ⟨updated, hupdated, hheads', harrivals', hroots'⟩ := ih hdistinct.2 hnext
    refine ⟨updated, ?_, ?_, harrivals'.trans harrivals, hroots'.trans hroots⟩
    · rw [List.foldlM_cons, honce]
      exact hupdated
    · rw [hheads', hheads, List.map_map]
      rfl

end

/-! ## Reading back -/

section

variable {T : Type} [TriageStates T] {scope : SubmissionTriageScope}
variable {tables : TriageTables D S} {written : TriageTables D T}
variable {f : TriageHeadRow D S → TriageHeadRow D T}

theorem joinedRows_of_map (harrivals : written.arrivals = tables.arrivals)
    (hheads : written.heads = tables.heads.map f) (hf : ∀ row, (f row).key = row.key) :
    written.joinedRows scope = (tables.joinedRows scope).map fun row => (row.1, f row.2) := by
  rw [TriageTables.joinedRows, TriageTables.joinedRows, harrivals, hheads, List.map_filterMap]
  refine List.filterMap_congr fun arrival _ => ?_
  rw [List.find?_map]
  simp only [Function.comp_def, hf, Option.map_map]

theorem create_of_sorted [DecidableEq D] {version : Version} {entries : List (SubmissionTriageEntry D S)}
    (h : EntriesCanonical scope (entries.sortByKey SubmissionTriageEntry.submissionId)) :
    createSubmissionTriageState host scope version entries = .ok
      { scope
        queryGuard :=
          { scope, version
            digestSha256 := entriesDigest host scope
              (entries.sortByKey SubmissionTriageEntry.submissionId) }
        entries := entries.sortByKey SubmissionTriageEntry.submissionId } := by
  have hperm := perm_sortByKey SubmissionTriageEntry.submissionId entries
  have hcanonical : canonicalEntries entries =
      .ok (entries.sortByKey SubmissionTriageEntry.submissionId) := by
    refine canonicalEntries_eq_ok.mpr ⟨fun entry hentry => ?_,
      (hperm.map _).nodup_iff.mp (nodup_map_of_pairwise_lt h.sorted), rfl⟩
    have hmem : entry ∈ entries.sortByKey SubmissionTriageEntry.submissionId :=
      mem_sortByKey.mpr hentry
    exact ⟨(h.scopes entry hmem).1.trans (h.scopes entry hmem).2.symm, h.ids entry hmem⟩
  rw [createSubmissionTriageState, hcanonical, ← h.canonicalEntries]
  exact h.create version

/-- The heads of a scope are mapped as `g` maps its entries. -/
structure MapsHeads (host : Host D) (scope : SubmissionTriageScope)
    (f : TriageHeadRow D S → TriageHeadRow D T)
    (g : SubmissionTriageEntry D S → SubmissionTriageEntry D T) : Prop where
  key : ∀ row, (f row).key = row.key
  arrival : ∀ entry, (g entry).arrival = entry.arrival
  head : ∀ entry, entry.head.scope = scope →
    f (TriageHeadRow.of host entry.head) = TriageHeadRow.of host (g entry).head

variable {g : SubmissionTriageEntry D S → SubmissionTriageEntry D T}
variable {entries : List (SubmissionTriageEntry D S)}

theorem MapsHeads.head_key (h : MapsHeads host scope f g) {entry : SubmissionTriageEntry D S}
    (hscope : entry.head.scope = scope) :
    (g entry).head.scope = entry.head.scope ∧ (g entry).submissionId = entry.submissionId := by
  have hkey := h.key (TriageHeadRow.of host entry.head)
  rw [h.head entry hscope] at hkey
  exact Prod.mk.inj hkey

theorem MapsHeads.entriesCanonical (h : MapsHeads host scope f g)
    (hentries : EntriesCanonical scope entries) : EntriesCanonical scope (entries.map g) := by
  refine ⟨List.forall_mem_map.mpr fun entry hentry => ?_,
    List.forall_mem_map.mpr fun entry hentry => ?_, List.pairwise_map.mpr ?_⟩
  · obtain ⟨harrival, hhead⟩ := hentries.scopes entry hentry
    rw [h.arrival, (h.head_key hhead).1]
    exact ⟨harrival, hhead⟩
  · rw [h.arrival, hentries.ids entry hentry]
    exact (h.head_key (hentries.scopes entry hentry).2).2.symm
  · refine hentries.sorted.imp_of_mem fun {a b} ha hb hab => ?_
    rwa [(h.head_key (hentries.scopes a ha).2).2, (h.head_key (hentries.scopes b hb).2).2]

theorem MapsHeads.sortByKey (h : MapsHeads host scope f g)
    (hentries : EntriesCanonical scope (entries.sortByKey SubmissionTriageEntry.submissionId)) :
    (entries.map g).sortByKey SubmissionTriageEntry.submissionId =
      (entries.sortByKey SubmissionTriageEntry.submissionId).map g := by
  have hperm := (perm_sortByKey SubmissionTriageEntry.submissionId entries).map g
  have hsorted := (h.entriesCanonical hentries).sorted
  have hnodup : ((entries.map g).map SubmissionTriageEntry.submissionId).Nodup :=
    (hperm.map _).nodup_iff.mp (nodup_map_of_pairwise_lt hsorted)
  exact eq_of_perm_of_pairwise_lt (pairwise_lt_sortByKey hnodup) hsorted
    ((perm_sortByKey _ _).trans hperm.symm)

variable [DecidableEq D]

theorem MapsHeads.parsed (h : MapsHeads host scope f g)
    {rows : List (SubmissionArrivalRow D × TriageHeadRow D S)}
    (hscopes : ∀ entry ∈ entries, entry.head.scope = scope)
    (hparsed : rows.mapM (parseRow host) = .ok entries) :
    (rows.map fun row => (row.1, f row.2)).mapM (parseRow host) = .ok (entries.map g) := by
  refine mapM_eq_ok_of_forall₂ (List.forall₂_map_left_iff.mpr (List.forall₂_map_right_iff.mpr ?_))
  have hpairs := (forall₂_of_mapM_eq_ok hparsed).flip
  refine ((List.forall₂_and_left _ _).mpr ⟨hscopes, hpairs⟩).flip.imp ?_
  rintro row entry ⟨hentry, hrow⟩
  obtain ⟨harrival, hhead⟩ := parseRow_eq_ok.mp hrow
  refine parseRow_eq_ok.mpr ⟨?_, ?_⟩
  · rw [h.arrival]
    exact harrival
  · dsimp only
    rw [hhead, h.head entry hentry]

theorem readScope_map {root root' : TriageEventHeadRow D}
    {state : SubmissionTriageStateSnapshot D S} {after : SubmissionTriageStateSnapshot D T}
    (hread : readScope host tables root = .ok state) (hroot : root'.scope = root.scope)
    (hmap : MapsHeads host root.scope f g) (harrivals : written.arrivals = tables.arrivals)
    (hheads : written.heads = tables.heads.map f) :
    readScope host written root' = .ok after ↔
      root'.queryDigestSha256 = entriesDigest host root.scope (state.entries.map g) ∧
        after =
          { scope := root.scope
            queryGuard :=
              { scope := root.scope, version := root'.queryVersion
                digestSha256 := root'.queryDigestSha256 }
            entries := state.entries.map g } := by
  obtain ⟨⟨hcountArrivals, hcountHeads⟩, entries, hparsed, hcreate, -⟩ := readScope_eq_ok.mp hread
  obtain ⟨hcanonical, hscope, -, hsorted⟩ := canonical_of_create hcreate
  have hentries : EntriesCanonical root.scope (entries.sortByKey SubmissionTriageEntry.submissionId) :=
    hscope ▸ hsorted ▸ hcanonical.entries
  have hscopes : ∀ entry ∈ entries, entry.head.scope = root.scope := fun entry hentry =>
    (hentries.scopes entry (mem_sortByKey.mpr hentry)).2
  have hrows : written.joinedRows root.scope = _ := joinedRows_of_map harrivals hheads hmap.key
  have hparsed' := hmap.parsed hscopes hparsed
  have hcreate' : createSubmissionTriageState host root.scope root'.queryVersion (entries.map g) =
      _ := create_of_sorted (hmap.sortByKey hentries ▸ hmap.entriesCanonical hentries)
  rw [hmap.sortByKey hentries, ← hsorted] at hcreate'
  rw [readScope_eq_ok, hroot, hrows, harrivals, hheads]
  constructor
  · rintro ⟨-, read, hparse, hcreated, hdigest⟩
    obtain rfl := Except.ok.inj (hparsed'.symm.trans hparse)
    obtain rfl := Except.ok.inj (hcreate'.symm.trans hcreated)
    exact ⟨hdigest.symm, by rw [← hdigest]⟩
  · rintro ⟨hdigest, rfl⟩
    refine ⟨⟨?_, ?_⟩, entries.map g, hparsed', ?_, rfl⟩
    · rw [List.length_map]
      exact hcountArrivals
    · have hfilter : ((fun head : TriageHeadRow D T => decide (head.scope = root.scope)) ∘ f) =
          fun head => decide (head.scope = root.scope) :=
        funext fun row => by
          rw [Function.comp_apply, (Prod.mk.inj (hmap.key row)).1]
      rw [List.length_map, List.filter_map, List.length_map, hfilter]
      exact hcountHeads
    · rw [hcreate', hdigest]

end

section

variable {scope : SubmissionTriageScope} {tables : TriageTables D SubmissionTriageState}
variable {state : SubmissionTriageStateSnapshot D SubmissionTriageState}
variable {request : SubmissionTriageRequest D} {plan : SubmissionTriageTransitionPlan D}

theorem mem_joinedRows {tables : TriageTables D S} {arrival : SubmissionArrivalRow D}
    {head : TriageHeadRow D S} (h : (arrival, head) ∈ tables.joinedRows scope) :
    arrival ∈ tables.arrivals ∧ arrival.scope = scope ∧ head ∈ tables.heads ∧
      head.key = arrival.key := by
  obtain ⟨found, hfound, hhead⟩ := List.mem_filterMap.mp h
  obtain ⟨row, hfind, hpair⟩ := Option.map_eq_some_iff.mp hhead
  obtain ⟨rfl, rfl⟩ := Prod.mk.inj hpair
  obtain ⟨hrow, hkey⟩ := mem_of_find?_key hfind
  obtain ⟨harrival, hscope⟩ := List.mem_filter.mp (mem_sortByKey.mp hfound)
  exact ⟨harrival, by simpa using hscope, hrow, hkey⟩

def SubmissionTriageTransitionPlan.after (plan : SubmissionTriageTransitionPlan D)
    (state : SubmissionTriageStateSnapshot D SubmissionTriageState) :
    SubmissionTriageStateSnapshot D SubmissionTriageState :=
  { scope := state.scope, queryGuard := plan.guardAfter,
    entries := afterEntries plan.transitions state.entries }

theorem PlannedTransitions.mapsHeads (hcanonical : state.Canonical host)
    (h : PlannedTransitions host state request plan) :
    MapsHeads host state.scope (setMoved host state.scope plan.transitions)
      fun entry => entry.movedBy plan.transitions where
  key _ := key_setMoved _
  arrival _ := arrival_movedBy
  head _ hscope := setMoved_of h.distinct (h.movesWithin hcanonical) hscope

theorem readBack_after (hcanonical : state.Canonical host)
    (hplanned : PlannedTransitions host state request plan) :
    ReadBack host plan (plan.after state) := by
  refine ⟨rfl, List.forall_mem_map.mpr fun entry _ transition hfind => ?_⟩
  obtain ⟨hfound, hid⟩ := mem_of_find?_key hfind
  rw [List.mem_reverse] at hfound
  rw [submissionId_movedBy (hplanned.movesWithin hcanonical)] at hid
  rcases movedBy_cases entry plan.transitions with ⟨moving, hmem, hmovingId, heq⟩ | ⟨hnone, -⟩
  · rw [heq, eq_of_key_eq hplanned.distinct hmem hfound (hmovingId.trans hid.symm)]
  · exact absurd hid (hnone transition hfound)

variable [DecidableEq D]

theorem exists_rows_of_entry {tables : TriageTables D S} {root : TriageEventHeadRow D}
    {state : SubmissionTriageStateSnapshot D S} (hread : readScope host tables root = .ok state)
    {entry : SubmissionTriageEntry D S} (hentry : entry ∈ state.entries) :
    ∃ arrival ∈ tables.arrivals, parseArrival host arrival = .ok entry.arrival ∧
      arrival.key = (TriageHeadRow.of host entry.head).key ∧
      TriageHeadRow.of host entry.head ∈ tables.heads := by
  obtain ⟨-, entries, hparsed, hcreate, -⟩ := readScope_eq_ok.mp hread
  obtain ⟨-, -, -, hsorted⟩ := canonical_of_create hcreate
  rw [hsorted, mem_sortByKey] at hentry
  obtain ⟨⟨arrival, head⟩, hmem, hrow⟩ :=
    exists_left_of_forall₂ (forall₂_of_mapM_eq_ok hparsed) hentry
  obtain ⟨harrival, -, hhead, hkey⟩ := mem_joinedRows hmem
  obtain ⟨hparse, hof⟩ := parseRow_eq_ok.mp hrow
  dsimp only at hof
  subst hof
  exact ⟨arrival, harrival, hparse, hkey.symm, hhead⟩

theorem exists_updates {root : TriageEventHeadRow D}
    (hread : readScope host tables root = .ok state) (hlegal : LegalTransition state request)
    (hplanned : PlannedTransitions host state request plan)
    {transition : SubmissionTriagePlannedTransition D} (hmem : transition ∈ plan.transitions) :
    ∃ row ∈ tables.heads, Updates host tables root.scope transition row ∧
      AcceptsUpdate row transition.after := by
  obtain ⟨-, entries, -, hcreate, -⟩ := readScope_eq_ok.mp hread
  obtain ⟨hcanonical, hscope, -⟩ := canonical_of_create hcreate
  obtain ⟨entry, hentry, hmoves⟩ := hplanned.moves transition hmem
  obtain ⟨arrival, harrival, hparse, hkey, hrow⟩ := exists_rows_of_entry hread hentry
  obtain ⟨version, hversion, hafter⟩ := hmoves.after
  refine ⟨_, hrow, ⟨?_, hmoves.submissionId.symm, ?_, ?_, arrival, harrival, hkey, ?_⟩, ?_, ?_, ?_⟩
  · exact (hcanonical.entries.scopes entry hentry).2.trans hscope
  · rw [hmoves.before]
    rfl
  · rw [hmoves.before]
    rfl
  · rw [hmoves.arrival]
    exact (parseArrival_eq_ok hparse).1
  · rw [hafter]
    exact hversion
  · have hid : transition.submissionId ∈ (request.expectedHeads.sortByKey
        SubmissionTriageTarget.submissionId).map (·.submissionId) :=
      hplanned.ids ▸ List.mem_map.mpr ⟨transition, hmem, rfl⟩
    obtain ⟨target, htarget, htargetId⟩ := List.mem_map.mp hid
    obtain ⟨found, hfound, hfoundId, -, -, -, hupdated⟩ :=
      hlegal.heads target (mem_sortByKey.mp htarget)
    have hsame : found = entry :=
      eq_of_key_eq (nodup_map_of_pairwise_lt hcanonical.entries.sorted) hfound hentry
        (hfoundId.trans (htargetId.trans hmoves.submissionId))
    rw [hafter]
    exact hsame ▸ hupdated
  · rw [hafter]
    rfl

theorem updateEventHead_eq_ok {root : TriageEventHeadRow D} (hroot : root ∈ tables.eventHeads)
    (hupdates : UpdatesGuard plan root)
    (hversion : plan.guardAfter.version.val = root.queryVersion.val + 1) :
    ∃ written, updateEventHead tables plan = .ok written ∧ written.heads = tables.heads ∧
      written.arrivals = tables.arrivals ∧ updatedGuardRow plan root ∈ written.eventHeads := by
  have hfilter : tables.eventHeads.filter (fun row => UpdatesGuard plan row) = [root] := by
    rw [← filter_key_eq_singleton tables.eventHeadKeys hroot]
    refine List.filter_congr fun row hrow => decide_eq_decide.mpr ⟨fun h => ?_, fun h => ?_⟩
    · exact h.1.trans hupdates.1.symm
    · rw [eq_of_key_eq tables.eventHeadKeys hrow hroot h]
      exact hupdates
  have haccepted : ∀ row ∈ [root], plan.guardAfter.version.val = row.queryVersion.val + 1 :=
    List.forall_mem_singleton.mpr hversion
  have hok : updateEventHead tables plan =
      .ok (tables.mapEventHeads (updatedGuardRow plan) (scope_updatedGuardRow plan)) := by
    rw [updateEventHead, hfilter, require_eq_ok (u := ()).mpr haccepted, ok_bind,
      require_eq_ok (u := ()).mpr (List.length_singleton (a := root))]
    rfl
  exact ⟨_, hok, rfl, rfl, List.mem_map.mpr ⟨root, hroot, rfl⟩⟩

theorem readScope_moved {root : TriageEventHeadRow D} {written : TriageTables D SubmissionTriageState}
    (hread : readScope host tables root = .ok state)
    (hplanned : PlannedTransitions host state request plan)
    (hheads : written.heads = tables.heads.map (setMoved host root.scope plan.transitions))
    (harrivals : written.arrivals = tables.arrivals) :
    readScope host written
      { root with
        queryVersion := plan.guardAfter.version
        queryDigestSha256 := plan.guardAfter.digestSha256 } = .ok (plan.after state) := by
  obtain ⟨-, entries, -, hcreate, -⟩ := readScope_eq_ok.mp hread
  obtain ⟨hcanonical, hscope, -⟩ := canonical_of_create hcreate
  have hmap := hscope ▸ hplanned.mapsHeads hcanonical
  have hroot : ({ root with
      queryVersion := plan.guardAfter.version
      queryDigestSha256 := plan.guardAfter.digestSha256 } : TriageEventHeadRow D).scope =
      root.scope := rfl
  refine (readScope_map hread hroot hmap harrivals hheads).mpr ⟨hscope ▸ hplanned.guardDigest, ?_⟩
  have hguardScope : plan.guardAfter.scope = root.scope := hplanned.guardScope.trans hscope
  rw [SubmissionTriageTransitionPlan.after, hscope, ← hguardScope]
  rfl

theorem exists_updated {root : TriageEventHeadRow D} (hroot : root ∈ tables.eventHeads)
    (hread : readScope host tables root = .ok state) (hlegal : LegalTransition state request)
    (hplanned : PlannedTransitions host state request plan) :
    ∃ moved written,
      plan.transitions.foldlM (updateHead host plan.scope) tables = .ok moved ∧
        updateEventHead moved plan = .ok written ∧
        readTriageState host written plan.scope = .ok (some (plan.after state)) := by
  obtain ⟨hcounts, entries, hparsed, hcreate, hdigest⟩ := readScope_eq_ok.mp hread
  obtain ⟨hcanonical, hscope, hqueryVersion, hsorted⟩ := canonical_of_create hcreate
  have hplanScope : plan.scope = root.scope := hplanned.scope.trans hscope
  have hmoves := hplanned.movesWithin hcanonical
  obtain ⟨moved, hmoved, hheads, harrivals, hroots⟩ := foldlM_updateHead hplanned.distinct
    fun transition hmem => exists_updates hread hlegal hplanned hmem
  have hupdates : UpdatesGuard plan root := by
    refine ⟨hplanScope.symm, ?_, ?_⟩
    · rw [hplanned.guardBefore, hqueryVersion]
    · rw [hplanned.guardBefore, hdigest]
  obtain ⟨written, hwritten, hheads', harrivals', hroot'⟩ :=
    updateEventHead_eq_ok (hroots ▸ hroot) hupdates (hqueryVersion ▸ hplanned.guardVersion)
  refine ⟨moved, written, hplanScope ▸ hmoved, hwritten, readTriageState_eq_some.mpr
    ⟨_, hroot', (scope_updatedGuardRow plan root).trans hplanScope.symm, ?_⟩⟩
  rw [updatedGuardRow, if_pos hupdates]
  exact readScope_moved hread hplanned (hheads'.trans hheads) (harrivals'.trans harrivals)

theorem exists_apply {tables : TriageTables D SubmissionTriageState}
    (hread : readTriageState host tables scope = .ok (some state))
    (hlegal : LegalTransition state request) :
    ∃ plan written, planSubmissionTriageTransition host state request = .ok plan ∧
      applyTransitionPlan host true tables plan =
        .ok (written, submissionTriageTransitionResult plan) ∧
      readTriageState host written scope = .ok (some (plan.after state)) := by
  obtain ⟨hcanonical, rfl⟩ := canonical_of_read hread
  obtain ⟨root, hroot, hrootScope, hreadScope⟩ := readTriageState_eq_some.mp hread
  obtain ⟨plan, hplan, hplanned⟩ := exists_plan hcanonical hlegal
  obtain ⟨moved, written, hmoved, hwritten, hreread⟩ :=
    exists_updated hroot hreadScope hlegal hplanned
  refine ⟨plan, written, hplan, ?_, hplanned.scope ▸ hreread⟩
  rw [applyTransitionPlan, require_eq_ok (u := ()).mpr rfl, ok_bind, hplanned.scope, hread, ok_bind,
    orRefuse_eq_ok.mpr rfl, ok_bind, hplanned.validate hcanonical, ok_bind,
    require_eq_ok (u := ()).mpr rfl, ok_bind, ← hplanned.scope, hmoved, ok_bind, hwritten, ok_bind,
    hreread, ok_bind, orRefuse_eq_ok.mpr rfl, ok_bind,
    require_eq_ok (u := ()).mpr (readBack_after hcanonical hplanned)]
  rfl

end

end JooEvents
