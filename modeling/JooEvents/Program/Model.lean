import JooEvents.Lib.Keyed
import JooEvents.Kernel.Text

/-!
# Program vocabulary

The rooms, tracks and formats of an event. An item is a
`PlannedProgramVocabularyItem` : what the kinds have in common, and the fields of
its kind. The items of a state carry no scope of their own here, for the source
gives every item the scope of its state and drops it again from every digest.

A `ProgramVocabularyState` is a value `createProgramVocabularyState` returns : its
families are ordered by identity, names are in their canonical form, the accents of
tracks are derived from their identities, and no identity occurs twice in the event.
-/

namespace JooEvents

variable {D : Type}

def normalizedProgramVocabularyName (host : Host D) (value : String) : String :=
  collapseWhiteSpace (trimText (host.nfc value))

/-- Tests canonical output bytes without changing them. -/
def isCanonicalProgramVocabularyName (host : Host D) (value : String) : Bool :=
  decide (0 < textLength value ∧ textLength value ≤ 200 ∧
    normalizedProgramVocabularyName host value = value)

/-- The stored form of a name, or `none` where the source throws. -/
def normalizeProgramVocabularyName (host : Host D) (value : String) : Option String :=
  if isCanonicalProgramVocabularyName host (normalizedProgramVocabularyName host value) then
    some (normalizedProgramVocabularyName host value)
  else none

theorem normalizeProgramVocabularyName_of_canonical {host : Host D} {name : String}
    (h : isCanonicalProgramVocabularyName host name = true) :
    normalizeProgramVocabularyName host name = some name := by
  have hn : normalizedProgramVocabularyName host name = name := (of_decide_eq_true h).2.2
  rw [normalizeProgramVocabularyName, hn, if_pos h]

theorem canonical_of_normalizeProgramVocabularyName {host : Host D} {value name : String}
    (h : normalizeProgramVocabularyName host value = some name) :
    isCanonicalProgramVocabularyName host name = true := by
  unfold normalizeProgramVocabularyName at h
  split at h
  · rename_i hc
    rwa [Option.some.inj h] at hc
  · cases h

theorem eq_of_same_canonicalName {host : Host D} {a b : String}
    (ha : isCanonicalProgramVocabularyName host a = true)
    (hb : isCanonicalProgramVocabularyName host b = true) (h : host.Same a b) : a = b := by
  have ha' : normalizedProgramVocabularyName host a = a := (of_decide_eq_true ha).2.2
  have hb' : normalizedProgramVocabularyName host b = b := (of_decide_eq_true hb).2.2
  rw [← ha', ← hb']
  unfold normalizedProgramVocabularyName
  rw [Host.same_text_iff.mp h]

/-- A workspace and an event in it. -/
@[ext] structure ProgramVocabularyScope where
  workspaceId : ApplicationId
  eventId : ApplicationId
  deriving DecidableEq

/-- The kinds of program items. -/
inductive ProgramVocabularyKind where
  | room | track | format
  deriving DecidableEq

/-- An item is offered for new assignments while it is active. -/
inductive ProgramVocabularyStatus where
  | active | retired
  deriving DecidableEq

/-- The presentation voices of tracks. -/
inductive ProgramTrackAccent where
  | lavender | sea | neutral
  deriving DecidableEq

def hexValue (c : Char) : ℕ :=
  if isDigitChar c then c.val.toNat - 48 else c.val.toNat - 87

/-- Stable presentation voice derived from an immutable canonical track identity. -/
def deriveProgramTrackAccent (id : ApplicationId) : ProgramTrackAccent :=
  let finalByte := (id.val.toList.drop 34).foldl (fun n c => 16 * n + hexValue c) 0
  if finalByte % 3 = 0 then .lavender else if finalByte % 3 = 1 then .sea else .neutral

/-- The fields of an item that depend on its kind. -/
inductive ProgramItemFields where
  | room (capacity : Option PositiveSafe)
  | track (accent : ProgramTrackAccent)
  | format
  deriving DecidableEq

def ProgramItemFields.kind : ProgramItemFields → ProgramVocabularyKind
  | .room _ => .room
  | .track _ => .track
  | .format => .format

/-- A program item. -/
@[ext] structure PlannedProgramVocabularyItem where
  id : ApplicationId
  name : String
  status : ProgramVocabularyStatus
  version : Version
  fields : ProgramItemFields
  deriving DecidableEq

namespace PlannedProgramVocabularyItem

def kind (item : PlannedProgramVocabularyItem) : ProgramVocabularyKind := item.fields.kind

def AccentDerived (item : PlannedProgramVocabularyItem) : Prop :=
  match item.fields with
  | .track accent => accent = deriveProgramTrackAccent item.id
  | _ => True

instance (item : PlannedProgramVocabularyItem) : Decidable item.AccentDerived := by
  unfold AccentDerived
  split <;> infer_instance

end PlannedProgramVocabularyItem

instance : AsciiText ProgramVocabularyKind where
  text
    | .room => "room"
    | .track => "track"
    | .format => "format"
  ascii kind := by cases kind <;> decide
  injective a b h := by
    cases a <;> cases b <;> first | rfl | exact absurd h (by decide)

instance : AsciiText ProgramVocabularyStatus where
  text
    | .active => "active"
    | .retired => "retired"
  ascii status := by cases status <;> decide
  injective a b h := by
    cases a <;> cases b <;> first | rfl | exact absurd h (by decide)

instance : AsciiText ProgramTrackAccent where
  text
    | .lavender => "lavender"
    | .sea => "sea"
    | .neutral => "neutral"
  ascii accent := by cases accent <;> decide
  injective a b h := by
    cases a <;> cases b <;> first | rfl | exact absurd h (by decide)

instance : ToJson D ProgramVocabularyScope :=
  ⟨fun scope => .obj [("workspaceId", toJson scope.workspaceId), ("eventId", toJson scope.eventId)]⟩

instance : ToJson D PlannedProgramVocabularyItem :=
  ⟨fun item =>
    .obj ([("kind", toJson item.kind), ("id", toJson item.id), ("name", toJson item.name),
      ("status", toJson item.status), ("version", toJson item.version)] ++
      match item.fields with
      | .room capacity => [("capacity", toJson capacity)]
      | .track accent => [("accent", toJson accent)]
      | .format => [])⟩

instance : ExactJson D ProgramVocabularyScope :=
  ⟨fun {host a b} h => by
    have h := Iff.mp Host.canonicalize_record_iff h
    simp only [List.map_cons, List.map_nil, List.cons.injEq, canonicalize_toJson_eq_iff,
      Host.same_iff_eq, and_true] at h
    exact ProgramVocabularyScope.ext h.1 h.2⟩

namespace PlannedProgramVocabularyItem

theorem same_iff {host : Host D} {a b : PlannedProgramVocabularyItem} :
    host.Same a b ↔ a.id = b.id ∧ host.Same a.name b.name ∧ a.status = b.status ∧
      a.version = b.version ∧ a.fields = b.fields := by
  obtain ⟨ida, namea, statusa, versiona, fieldsa⟩ := a
  obtain ⟨idb, nameb, statusb, versionb, fieldsb⟩ := b
  cases fieldsa <;> cases fieldsb
  case room.room | track.track | format.format =>
    refine Iff.trans Host.canonicalize_record_iff ?_
    simp only [List.map_cons, List.map_nil, List.cons.injEq, canonicalize_toJson_eq_iff,
      Host.same_iff_eq, and_true, List.cons_append, List.nil_append, kind,
      ProgramItemFields.kind, true_and, ProgramItemFields.room.injEq,
      ProgramItemFields.track.injEq]
  all_goals
    refine iff_of_false (fun h => ?_) (by simp)
    have hkind := Host.lookup_canonicalize h "kind"
    exact absurd (ExactJson.eq_of_same (Option.some.inj hkind)) (by simp [kind,
      ProgramItemFields.kind])

end PlannedProgramVocabularyItem

/-! ## States -/

/-- The stored form of an item : its name canonical, its accent derived. -/
structure PlannedProgramVocabularyItem.Stored (host : Host D)
    (item : PlannedProgramVocabularyItem) : Prop where
  name : isCanonicalProgramVocabularyName host item.name = true
  accent : item.AccentDerived

/-- The vocabulary of an event. `itemsOfKind` are the families `rooms`, `tracks` and
`formats`. -/
structure ProgramVocabularyState (host : Host D) where
  scope : ProgramVocabularyScope
  setVersion : Version
  itemsOfKind : ProgramVocabularyKind → List PlannedProgramVocabularyItem
  kind_eq : ∀ kind, ∀ item ∈ itemsOfKind kind, item.kind = kind
  stored : ∀ kind, ∀ item ∈ itemsOfKind kind, item.Stored host
  sorted : ∀ kind, (itemsOfKind kind).Pairwise fun a b => a.id < b.id
  nodup : ((itemsOfKind .room ++ itemsOfKind .track ++ itemsOfKind .format).map
    PlannedProgramVocabularyItem.id).Nodup

def programVocabularyItems {host : Host D} (state : ProgramVocabularyState host) :
    List PlannedProgramVocabularyItem :=
  state.itemsOfKind .room ++ state.itemsOfKind .track ++ state.itemsOfKind .format

def resolveProgramVocabularyItem {host : Host D} (state : ProgramVocabularyState host)
    (kind : ProgramVocabularyKind) (id : ApplicationId) : Option PlannedProgramVocabularyItem :=
  (state.itemsOfKind kind).find? fun item => item.id = id

/-- An item as `createProgramVocabularyState` stores it. -/
def createProgramVocabularyItem (host : Host D) (item : PlannedProgramVocabularyItem) :
    Option PlannedProgramVocabularyItem :=
  (normalizeProgramVocabularyName host item.name).map fun name =>
    { item with
      name := name
      fields := match item.fields with
        | .track _ => .track (deriveProgramTrackAccent item.id)
        | fields => fields }

theorem createProgramVocabularyItem_of_stored {host : Host D}
    {item : PlannedProgramVocabularyItem} (h : item.Stored host) :
    createProgramVocabularyItem host item = some item := by
  obtain ⟨id, name, status, version, fields⟩ := item
  have haccent := h.accent
  rw [createProgramVocabularyItem, normalizeProgramVocabularyName_of_canonical h.name]
  cases fields with
  | track accent => simpa [PlannedProgramVocabularyItem.AccentDerived, eq_comm] using haccent
  | room _ => rfl
  | format => rfl

theorem stored_of_createProgramVocabularyItem {host : Host D}
    {item created : PlannedProgramVocabularyItem}
    (h : createProgramVocabularyItem host item = some created) :
    created.Stored host ∧ created.kind = item.kind := by
  obtain ⟨name, hname, rfl⟩ := Option.map_eq_some_iff.mp h
  refine ⟨⟨canonical_of_normalizeProgramVocabularyName hname, ?_⟩, ?_⟩
  · cases item.fields <;> simp [PlannedProgramVocabularyItem.AccentDerived]
  · cases hf : item.fields <;>
      simp [PlannedProgramVocabularyItem.kind, ProgramItemFields.kind, hf]

/-- The family of a kind among `items`, in stored form and ordered by identity. -/
def createFamily (host : Host D) (items : List PlannedProgramVocabularyItem)
    (kind : ProgramVocabularyKind) : Option (List PlannedProgramVocabularyItem) :=
  ((items.filter fun item => item.kind = kind).mapM (createProgramVocabularyItem host)).map
    (List.insertionSort fun a b => a.id ≤ b.id)

theorem mem_of_mapM_eq_some {α β : Type*} {f : α → Option β} :
    ∀ {xs : List α} {ys : List β}, xs.mapM f = some ys → ∀ y ∈ ys, ∃ x ∈ xs, f x = some y
  | [], ys, h, y, hy => by
    rw [List.mapM_nil] at h
    obtain rfl : ys = [] := (Option.some.inj h).symm
    cases hy
  | x :: xs, ys, h, y, hy => by
    rw [List.mapM_cons] at h
    obtain ⟨z, hz, h⟩ := Option.bind_eq_some_iff.mp h
    obtain ⟨zs, hzs, h⟩ := Option.bind_eq_some_iff.mp h
    obtain rfl : ys = z :: zs := (Option.some.inj h).symm
    rcases List.mem_cons.mp hy with rfl | hy
    · exact ⟨x, by simp, hz⟩
    · obtain ⟨x', hx', hy'⟩ := mem_of_mapM_eq_some hzs y hy
      exact ⟨x', by simp [hx'], hy'⟩

theorem mem_createFamily {host : Host D} {items family : List PlannedProgramVocabularyItem}
    {kind : ProgramVocabularyKind} (h : createFamily host items kind = some family) :
    ∀ item ∈ family, item.kind = kind ∧ item.Stored host := by
  obtain ⟨created, hcreated, rfl⟩ := Option.map_eq_some_iff.mp h
  intro item hitem
  obtain ⟨x, hx, hxi⟩ := mem_of_mapM_eq_some hcreated item ((List.mem_insertionSort _).mp hitem)
  obtain ⟨hstored, hkind⟩ := stored_of_createProgramVocabularyItem hxi
  exact ⟨hkind.trans (by simpa using (List.mem_filter.mp hx).2), hstored⟩

theorem sorted_createFamily {host : Host D} {items family : List PlannedProgramVocabularyItem}
    {kind : ProgramVocabularyKind} (h : createFamily host items kind = some family)
    (hnd : (family.map PlannedProgramVocabularyItem.id).Nodup) :
    family.Pairwise fun a b => a.id < b.id := by
  obtain ⟨created, -, rfl⟩ := Option.map_eq_some_iff.mp h
  have hle := List.pairwise_insertionSort
    (fun a b : PlannedProgramVocabularyItem => a.id ≤ b.id) created
  exact (hle.and (List.pairwise_map.mp hnd)).imp fun h => lt_of_le_of_ne h.1 h.2

/-- The state with the given items, or `none` where the source throws : a name without
a stored form, an identity that occurs twice, a version out of range. -/
def createProgramVocabularyState (host : Host D) (scope : ProgramVocabularyScope)
    (setVersion : ℕ) (items : List PlannedProgramVocabularyItem) :
    Option (ProgramVocabularyState host) :=
  match hr : createFamily host items .room, ht : createFamily host items .track,
    hf : createFamily host items .format, PositiveSafe.parse setVersion with
  | some rooms, some tracks, some formats, some setVersion =>
    if hnd : ((rooms ++ tracks ++ formats).map PlannedProgramVocabularyItem.id).Nodup then
      some
        { scope, setVersion, nodup := hnd
          itemsOfKind := fun
            | .room => rooms
            | .track => tracks
            | .format => formats
          kind_eq := by
            rintro (_ | _ | _) item h
            exacts [(mem_createFamily hr item h).1, (mem_createFamily ht item h).1,
              (mem_createFamily hf item h).1]
          stored := by
            rintro (_ | _ | _) item h
            exacts [(mem_createFamily hr item h).2, (mem_createFamily ht item h).2,
              (mem_createFamily hf item h).2]
          sorted := by
            rw [List.map_append, List.map_append] at hnd
            rintro (_ | _ | _)
            exacts [sorted_createFamily hr hnd.of_append_left.of_append_left,
              sorted_createFamily ht hnd.of_append_left.of_append_right,
              sorted_createFamily hf hnd.of_append_right] }
    else none
  | _, _, _, _ => none

theorem mem_programVocabularyItems {host : Host D} {state : ProgramVocabularyState host}
    {item : PlannedProgramVocabularyItem} :
    item ∈ programVocabularyItems state ↔ item ∈ state.itemsOfKind item.kind := by
  simp only [programVocabularyItems, List.mem_append]
  constructor
  · rintro ((h | h) | h) <;> rwa [state.kind_eq _ _ h]
  · intro h
    cases hk : item.kind <;> rw [hk] at h <;> simp [h]

theorem ProgramVocabularyState.eq_of_id_eq {host : Host D} {state : ProgramVocabularyState host}
    {a b : PlannedProgramVocabularyItem} (ha : a ∈ programVocabularyItems state)
    (hb : b ∈ programVocabularyItems state) (h : a.id = b.id) : a = b :=
  Keyed.eq_of_key_eq state.nodup ha hb h

theorem resolve_eq_some_iff {host : Host D} {state : ProgramVocabularyState host}
    {kind : ProgramVocabularyKind} {id : ApplicationId} {item : PlannedProgramVocabularyItem} :
    resolveProgramVocabularyItem state kind id = some item ↔
      item ∈ programVocabularyItems state ∧ item.kind = kind ∧ item.id = id := by
  have hnd : ((state.itemsOfKind kind).map PlannedProgramVocabularyItem.id).Nodup :=
    List.pairwise_map.mpr ((state.sorted kind).imp fun h => ne_of_lt h)
  rw [resolveProgramVocabularyItem, Keyed.find?_key_eq_some_iff hnd, mem_programVocabularyItems]
  constructor
  · rintro ⟨hmem, hid⟩
    have hkind := state.kind_eq kind item hmem
    exact ⟨hkind ▸ hmem, hkind, hid⟩
  · rintro ⟨hmem, rfl, hid⟩
    exact ⟨hmem, hid⟩

theorem createFamily_of_stored {host : Host D} {items : List PlannedProgramVocabularyItem}
    (h : ∀ item ∈ items, item.Stored host) (kind : ProgramVocabularyKind) :
    createFamily host items kind =
      some ((items.filter fun item => item.kind = kind).insertionSort fun a b => a.id ≤ b.id) := by
  have hmap : ∀ l : List PlannedProgramVocabularyItem, (∀ item ∈ l, item.Stored host) →
      l.mapM (createProgramVocabularyItem host) = some l := by
    intro l hl
    induction l with
    | nil => rfl
    | cons item l ih =>
      rw [List.mapM_cons, createProgramVocabularyItem_of_stored (hl item (by simp)),
        ih fun x hx => hl x (by simp [hx])]
      rfl
  rw [createFamily, hmap _ fun item hi => h item (List.mem_of_mem_filter hi), Option.map_some]

theorem createProgramVocabularyState_eq_some {host : Host D} {scope : ProgramVocabularyScope}
    {setVersion : ℕ} {items : List PlannedProgramVocabularyItem}
    {state : ProgramVocabularyState host} (hstored : ∀ item ∈ items, item.Stored host)
    (h : createProgramVocabularyState host scope setVersion items = some state) :
    state.scope = scope ∧ state.setVersion.val = setVersion ∧
      ∀ item, item ∈ programVocabularyItems state ↔ item ∈ items := by
  unfold createProgramVocabularyState at h
  split at h
  · rename_i rooms tracks formats version hr ht hf hv
    split at h
    · obtain rfl := Option.some.inj h
      rw [createFamily_of_stored hstored, Option.some.injEq] at hr ht hf
      refine ⟨rfl, PositiveSafe.parse_eq_some.mp hv, fun item => ?_⟩
      simp only [programVocabularyItems, ← hr, ← ht, ← hf, List.mem_append,
        List.mem_insertionSort, List.mem_filter, decide_eq_true_eq]
      cases item.kind <;> simp
    · cases h
  · cases h

theorem exists_createProgramVocabularyState {host : Host D} (scope : ProgramVocabularyScope)
    {setVersion : ℕ} {items : List PlannedProgramVocabularyItem}
    (hstored : ∀ item ∈ items, item.Stored host)
    (hnodup : (items.map PlannedProgramVocabularyItem.id).Nodup)
    (hversion : IsPositiveSafe setVersion) :
    ∃ state, createProgramVocabularyState host scope setVersion items = some state := by
  have hmem : ∀ {kind item}, item ∈ (items.filter fun item => item.kind = kind).insertionSort
      (fun a b => a.id ≤ b.id) → item ∈ items ∧ item.kind = kind := by
    intro kind item h
    simpa using h
  have hfamily : ∀ kind, (((items.filter fun item => item.kind = kind).insertionSort
      fun a b => a.id ≤ b.id).map PlannedProgramVocabularyItem.id).Nodup := fun kind =>
    ((List.perm_insertionSort _ _).map _).nodup_iff.mpr
      (hnodup.sublist (List.filter_sublist.map _))
  have hdisjoint : ∀ {kind kind' id}, kind ≠ kind' →
      id ∈ ((items.filter fun item => item.kind = kind).insertionSort
        fun a b => a.id ≤ b.id).map PlannedProgramVocabularyItem.id →
      id ∉ ((items.filter fun item => item.kind = kind').insertionSort
        fun a b => a.id ≤ b.id).map PlannedProgramVocabularyItem.id := by
    intro kind kind' id hne h h'
    obtain ⟨a, ha, rfl⟩ := List.mem_map.mp h
    obtain ⟨b, hb, hid⟩ := List.mem_map.mp h'
    obtain rfl := List.inj_on_of_nodup_map hnodup (hmem ha).1 (hmem hb).1 hid.symm
    exact hne ((hmem ha).2.symm.trans (hmem hb).2)
  unfold createProgramVocabularyState
  split
  · rename_i rooms tracks formats version hr ht hf _
    rw [createFamily_of_stored hstored, Option.some.injEq] at hr ht hf
    refine ⟨_, dif_pos ?_⟩
    rw [List.map_append, List.map_append, ← hr, ← ht, ← hf]
    refine ((hfamily _).append (hfamily _) fun id h h' => hdisjoint (by decide) h h').append
      (hfamily _) fun id h h' => ?_
    rcases List.mem_append.mp h with h | h
    · exact hdisjoint (by decide) h h'
    · exact hdisjoint (by decide) h h'
  · rename_i hne
    exact (hne _ _ _ ⟨setVersion, hversion⟩ (createFamily_of_stored hstored _)
      (createFamily_of_stored hstored _) (createFamily_of_stored hstored _)
      (PositiveSafe.parse_eq_some.mpr rfl)).elim

end JooEvents
