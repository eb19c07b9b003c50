import JooEvents.Airtable.Comparison
import JooEvents.Lib.Collation
import JooEvents.Lib.KeyedMap
import JooEvents.Lib.SortedKeys

/-!
# Reconciliation of an inventory

The links of an area say which provider record stands for which subject. The inventory of the
provider is compared with them by the stable identities that the records carry
(`assessAirtableRecordInventory`), and every deviation is a finding.

`findings_of_link` and `findings_of_record` say what is found of a link and of a record, so nothing
is found exactly when records and links stand one to one (`assessAirtableRecordInventory_exact`).
-/

namespace JooEvents

open Fallible

variable {D : Type}

/-- What is read of a `ReconciliationLink`. -/
structure ReconciliationLink where
  recordLinkId : String
  subjectKey : String
  providerRecordId : String

/-- What is read of a `ReconciliationProviderRecord`. -/
structure ReconciliationProviderRecord where
  providerRecordId : String
  subjectKey : Option String

/-- The subject of a record. An empty key is none. -/
def ReconciliationProviderRecord.subject (record : ReconciliationProviderRecord) : Option String :=
  record.subjectKey.filter (· ≠ "")

inductive ReconciliationFinding where
  | missing (subjectKey recordLinkId : String)
  | duplicate (subjectKey : String) (providerRecordIds : List String)
  | orphan (providerRecordId : String) (subjectKey : Option String)
  | record_id_changed (subjectKey expectedRecordId actualRecordId : String)
  deriving DecidableEq

namespace ReconciliationFinding

def kind : ReconciliationFinding → String
  | .missing _ _ => "missing"
  | .duplicate _ _ => "duplicate"
  | .orphan _ _ => "orphan"
  | .record_id_changed _ _ _ => "record_id_changed"

/-- `'subjectKey' in finding ? finding.subjectKey ?? '' : finding.providerRecordId`. -/
def sortKey : ReconciliationFinding → String
  | .missing subjectKey _ | .duplicate subjectKey _ | .record_id_changed subjectKey _ _ =>
    subjectKey
  | .orphan providerRecordId subjectKey => subjectKey.getD providerRecordId

def linkKey : ReconciliationFinding → Option String
  | .missing subjectKey _ | .duplicate subjectKey _ | .record_id_changed subjectKey _ _ =>
    some subjectKey
  | .orphan _ _ => none

def orphanId : ReconciliationFinding → Option String
  | .orphan providerRecordId _ => some providerRecordId
  | .missing _ _ | .duplicate _ _ | .record_id_changed _ _ _ => none

end ReconciliationFinding

abbrev ProviderBySubject :=
  KeyedMap (Prod.fst : String × List ReconciliationProviderRecord → String)

/-- `providerBySubject.get(subjectKey) ?? []`. -/
def ProviderBySubject.rows (providerBySubject : ProviderBySubject) (subjectKey : String) :
    List ReconciliationProviderRecord :=
  ((providerBySubject.get subjectKey).map Prod.snd).getD []

/-- One turn of the loop over the provider records. -/
def ProviderBySubject.add (providerBySubject : ProviderBySubject)
    (record : ReconciliationProviderRecord) : ProviderBySubject :=
  match record.subject with
  | none => providerBySubject
  | some subjectKey =>
    providerBySubject.set (subjectKey, providerBySubject.rows subjectKey ++ [record])

def providerBySubject (providerRecords : List ReconciliationProviderRecord) : ProviderBySubject :=
  providerRecords.foldl ProviderBySubject.add .empty

/-- What is found of a link, from the records of its subject. -/
def linkFinding (records : List ReconciliationProviderRecord) (link : ReconciliationLink) :
    Option ReconciliationFinding :=
  match records with
  | [] => some (.missing link.subjectKey link.recordLinkId)
  | [record] =>
    if record.providerRecordId ≠ link.providerRecordId then
      some (.record_id_changed link.subjectKey link.providerRecordId record.providerRecordId)
    else none
  | _ :: _ :: _ =>
    some (.duplicate link.subjectKey ((records.map (·.providerRecordId)).sortByKey codeUnits))

def orphanFinding (links : List ReconciliationLink) (record : ReconciliationProviderRecord) :
    Option ReconciliationFinding :=
  match record.subject with
  | none => some (.orphan record.providerRecordId none)
  | some subjectKey =>
    if subjectKey ∈ links.map (·.subjectKey) then none
    else some (.orphan record.providerRecordId (some subjectKey))

def compareFindings (host : LocaleHost D) :
    ReconciliationFinding → ReconciliationFinding → Ordering :=
  compareLex (fun left right => host.localeCompare left.sortKey right.sortKey)
    fun left right => host.localeCompare left.kind right.kind

def assessAirtableRecordInventory (host : LocaleHost D) (links : List ReconciliationLink)
    (providerRecords : List ReconciliationProviderRecord) :
    Except String (List ReconciliationFinding) := do
  require (links.map (·.subjectKey)).Nodup "airtable_reconciliation_link_duplicate"
  let ofLinks := links.filterMap fun link =>
    linkFinding ((providerBySubject providerRecords).rows link.subjectKey) link
  let ofRecords := providerRecords.filterMap (orphanFinding links)
  return (ofLinks ++ ofRecords).sortByComparison (compareFindings host)

def recordsOf (providerRecords : List ReconciliationProviderRecord) (subjectKey : String) :
    List ReconciliationProviderRecord :=
  providerRecords.filter fun record => record.subject = some subjectKey

theorem rows_foldl_add (subjectKey : String) :
    ∀ (records : List ReconciliationProviderRecord) (groups : ProviderBySubject),
      (records.foldl ProviderBySubject.add groups).rows subjectKey =
        groups.rows subjectKey ++ recordsOf records subjectKey
  | [], groups => (List.append_nil _).symm
  | record :: records, groups => by
    have hadd : (groups.add record).rows subjectKey =
        groups.rows subjectKey ++ if record.subject = some subjectKey then [record] else [] := by
      unfold ProviderBySubject.add
      cases hsubject : record.subject with
      | none => simp
      | some key =>
        simp only [ProviderBySubject.rows, KeyedMap.get_set, Option.some.injEq]
        by_cases hkey : key = subjectKey
        · subst hkey
          simp
        · simp [hkey]
    rw [List.foldl_cons, rows_foldl_add subjectKey records, hadd, List.append_assoc]
    simp only [recordsOf, List.filter_cons]
    by_cases hsubject : record.subject = some subjectKey <;> simp [hsubject]

theorem rows_providerBySubject (providerRecords : List ReconciliationProviderRecord)
    (subjectKey : String) :
    (providerBySubject providerRecords).rows subjectKey = recordsOf providerRecords subjectKey :=
  rows_foldl_add subjectKey providerRecords .empty

theorem mem_recordsOf {providerRecords : List ReconciliationProviderRecord} {subjectKey : String}
    {record : ReconciliationProviderRecord} :
    record ∈ recordsOf providerRecords subjectKey ↔
      record ∈ providerRecords ∧ record.subject = some subjectKey := by
  simp [recordsOf]

example : ((providerBySubject [⟨"r1", some "a"⟩, ⟨"r2", none⟩, ⟨"r3", some "a"⟩]).rows "a").map
    (·.providerRecordId) = ["r1", "r3"] := by decide +kernel

/-! ## What is found -/

theorem filter_filterMap_of_tag {α β κ : Type} [DecidableEq κ] {key : α → κ} {f : α → Option β}
    {tag : β → Option κ} (htag : ∀ a b, f a = some b → tag b = some (key a)) :
    ∀ {l : List α}, (l.map key).Nodup → ∀ {a : α}, a ∈ l →
      ((l.filterMap f).filter fun b => tag b = some (key a)) = (f a).toList
  | x :: l, hnodup, a, ha => by
    obtain ⟨hx, hl⟩ := List.nodup_cons.mp hnodup
    have hmade : ∀ b, f x = some b → (tag b = some (key a) ↔ key x = key a) := fun b hb => by
      rw [htag x b hb, Option.some.injEq]
    rcases List.mem_cons.mp ha with rfl | ha
    · have hrest : ((l.filterMap f).filter fun b => tag b = some (key a)) = [] := by
        rw [List.filter_eq_nil_iff]
        intro b hb
        obtain ⟨y, hy, hyb⟩ := List.mem_filterMap.mp hb
        rw [htag y b hyb, decide_eq_true_eq, Option.some.injEq]
        exact fun heq => hx (heq ▸ List.mem_map_of_mem hy)
      cases hf : f a with
      | none => rw [List.filterMap_cons_none hf, hrest]; rfl
      | some b =>
        rw [List.filterMap_cons_some hf, List.filter_cons_of_pos (by simp [htag a b hf]), hrest]
        rfl
    · have hne : key x ≠ key a := fun heq => hx (heq ▸ List.mem_map_of_mem ha)
      have ih := filter_filterMap_of_tag htag hl ha
      cases hf : f x with
      | none => rw [List.filterMap_cons_none hf, ih]
      | some b =>
        rw [List.filterMap_cons_some hf, List.filter_cons_of_neg (by simp [hmade b hf, hne]), ih]

theorem linkKey_of_linkFinding {records : List ReconciliationProviderRecord}
    {link : ReconciliationLink} {finding : ReconciliationFinding}
    (h : linkFinding records link = some finding) :
    finding.linkKey = some link.subjectKey ∧ finding.orphanId = none := by
  unfold linkFinding at h
  split at h
  · cases h; exact ⟨rfl, rfl⟩
  · split at h
    · cases h; exact ⟨rfl, rfl⟩
    · cases h
  · cases h; exact ⟨rfl, rfl⟩

theorem orphanId_of_orphanFinding {links : List ReconciliationLink}
    {record : ReconciliationProviderRecord} {finding : ReconciliationFinding}
    (h : orphanFinding links record = some finding) :
    finding.orphanId = some record.providerRecordId ∧ finding.linkKey = none := by
  unfold orphanFinding at h
  split at h
  · cases h; exact ⟨rfl, rfl⟩
  · split at h
    · cases h
    · cases h; exact ⟨rfl, rfl⟩

theorem orphanFinding_eq_none_iff {links : List ReconciliationLink}
    {record : ReconciliationProviderRecord} :
    orphanFinding links record = none ↔
      ∃ link ∈ links, record.subject = some link.subjectKey := by
  unfold orphanFinding
  cases record.subject with
  | none => simp
  | some subjectKey =>
    simp only [ite_eq_left_iff, reduceCtorEq, imp_false, not_not, List.mem_map, Option.some.injEq]
    exact exists_congr fun link => and_congr_right fun _ => eq_comm

theorem linkFinding_eq_none_iff {records : List ReconciliationProviderRecord}
    {link : ReconciliationLink} :
    linkFinding records link = none ↔
      ∃ record, records = [record] ∧ record.providerRecordId = link.providerRecordId := by
  match records with
  | [] => simp [linkFinding]
  | [record] => simp [linkFinding]
  | _ :: _ :: _ => simp [linkFinding]

variable {host : LocaleHost D} {links : List ReconciliationLink}
  {providerRecords : List ReconciliationProviderRecord} {findings : List ReconciliationFinding}

/-- The findings before they are sorted, those of the links first. -/
def unsortedFindings (links : List ReconciliationLink)
    (providerRecords : List ReconciliationProviderRecord) : List ReconciliationFinding :=
  (links.filterMap fun link => linkFinding (recordsOf providerRecords link.subjectKey) link) ++
    providerRecords.filterMap (orphanFinding links)

theorem assess_eq_ok :
    assessAirtableRecordInventory host links providerRecords = .ok findings ↔
      (links.map (·.subjectKey)).Nodup ∧
        (unsortedFindings links providerRecords).sortByComparison (compareFindings host) =
          findings := by
  simp only [assessAirtableRecordInventory, bind_eq_ok, require_eq_ok, pure_eq_ok, exists_const,
    rows_providerBySubject, unsortedFindings]

theorem perm_of_assess
    (h : assessAirtableRecordInventory host links providerRecords = .ok findings) :
    findings.Perm (unsortedFindings links providerRecords) := by
  obtain ⟨-, rfl⟩ := assess_eq_ok.mp h
  exact List.perm_sortByComparison _ _

theorem filter_of_perm_of_length_le_one {α : Type} {as bs : List α} (h : as.Perm bs)
    (hlength : bs.length ≤ 1) : as = bs := by
  match bs, hlength with
  | [], _ => exact h.eq_nil
  | [b], _ => exact List.perm_singleton.mp h

theorem findings_of_link
    (h : assessAirtableRecordInventory host links providerRecords = .ok findings)
    {link : ReconciliationLink} (hlink : link ∈ links) :
    (findings.filter fun finding => finding.linkKey = some link.subjectKey) =
      (linkFinding (recordsOf providerRecords link.subjectKey) link).toList := by
  refine filter_of_perm_of_length_le_one (((perm_of_assess h).filter _).trans ?_) ?_
  · rw [unsortedFindings, List.filter_append, filter_filterMap_of_tag
      (fun _ _ hfinding => (linkKey_of_linkFinding hfinding).1) (assess_eq_ok.mp h).1 hlink]
    have horphans : (providerRecords.filterMap (orphanFinding links)).filter
        (fun finding => finding.linkKey = some link.subjectKey) = [] := by
      rw [List.filter_eq_nil_iff]
      intro finding hfinding
      obtain ⟨record, -, hrecord⟩ := List.mem_filterMap.mp hfinding
      simp [(orphanId_of_orphanFinding hrecord).2]
    rw [horphans, List.append_nil]
  · cases linkFinding (recordsOf providerRecords link.subjectKey) link <;> simp

theorem findings_of_record
    (h : assessAirtableRecordInventory host links providerRecords = .ok findings)
    (hids : (providerRecords.map (·.providerRecordId)).Nodup)
    {record : ReconciliationProviderRecord} (hrecord : record ∈ providerRecords) :
    (findings.filter fun finding => finding.orphanId = some record.providerRecordId) =
      (orphanFinding links record).toList := by
  refine filter_of_perm_of_length_le_one (((perm_of_assess h).filter _).trans ?_) ?_
  · rw [unsortedFindings, List.filter_append, filter_filterMap_of_tag
      (fun _ _ hfinding => (orphanId_of_orphanFinding hfinding).1) hids hrecord]
    have hlinks : (links.filterMap fun link =>
          linkFinding (recordsOf providerRecords link.subjectKey) link).filter
        (fun finding => finding.orphanId = some record.providerRecordId) = [] := by
      rw [List.filter_eq_nil_iff]
      intro finding hfinding
      obtain ⟨link, -, hlink⟩ := List.mem_filterMap.mp hfinding
      simp [(linkKey_of_linkFinding hlink).2]
    rw [hlinks, List.nil_append]
  · cases orphanFinding links record <;> simp

theorem mem_findings_iff
    (h : assessAirtableRecordInventory host links providerRecords = .ok findings)
    {link : ReconciliationLink} (hlink : link ∈ links) {finding : ReconciliationFinding}
    (hkey : finding.linkKey = some link.subjectKey) :
    finding ∈ findings ↔
      linkFinding (recordsOf providerRecords link.subjectKey) link = some finding := by
  have hmem : finding ∈ findings ↔
      finding ∈ findings.filter fun finding => finding.linkKey = some link.subjectKey := by
    rw [List.mem_filter, decide_eq_true hkey, and_iff_left rfl]
  rw [hmem, findings_of_link h hlink, Option.mem_toList]

example : linkFinding [⟨"r5", some "b"⟩, ⟨"r4", some "b"⟩] ⟨"l2", "b", "r4"⟩ =
    some (.duplicate "b" ["r4", "r5"]) := by decide +kernel

/-- Carrying a subject is a bijection from the records to the links, and goes from every record to
the link of that record. -/
def StandOneToOne (links : List ReconciliationLink)
    (providerRecords : List ReconciliationProviderRecord) : Prop :=
  Set.BijOn (·.subject) {record | record ∈ providerRecords}
      {subject | ∃ link ∈ links, subject = some link.subjectKey} ∧
    ∀ record ∈ providerRecords, ∀ link ∈ links, record.subject = some link.subjectKey →
      record.providerRecordId = link.providerRecordId

theorem recordsOf_eq_singleton (hids : (providerRecords.map (·.providerRecordId)).Nodup)
    (hinj : Set.InjOn (·.subject) {record | record ∈ providerRecords})
    {record : ReconciliationProviderRecord} (hrecord : record ∈ providerRecords)
    {subjectKey : String} (hsubject : record.subject = some subjectKey) :
    recordsOf providerRecords subjectKey = [record] := by
  have hnodup : (recordsOf providerRecords subjectKey).Nodup :=
    (hids.of_map _).sublist List.filter_sublist
  refine List.perm_singleton.mp ((List.perm_ext_iff_of_nodup hnodup (List.nodup_singleton _)).mpr
    fun other => ?_)
  rw [mem_recordsOf, List.mem_singleton]
  constructor
  · rintro ⟨hother, heq⟩
    exact hinj hother hrecord (heq.trans hsubject.symm)
  · rintro rfl
    exact ⟨hrecord, hsubject⟩

theorem findings_eq_nil_iff (hids : (providerRecords.map (·.providerRecordId)).Nodup)
    (h : assessAirtableRecordInventory host links providerRecords = .ok findings) :
    findings = [] ↔ StandOneToOne links providerRecords := by
  have hempty : findings = [] ↔
      (∀ link ∈ links, linkFinding (recordsOf providerRecords link.subjectKey) link = none) ∧
        ∀ record ∈ providerRecords, orphanFinding links record = none := by
    rw [← List.filterMap_eq_nil_iff, ← List.filterMap_eq_nil_iff, ← List.append_eq_nil_iff,
      ← unsortedFindings]
    exact ⟨fun hnil => (hnil ▸ perm_of_assess h).nil_eq.symm,
      fun hnil => List.perm_nil.mp (hnil ▸ perm_of_assess h)⟩
  rw [hempty]
  constructor
  · rintro ⟨hlinks, hrecords⟩
    have hone : ∀ link ∈ links, ∃ record, recordsOf providerRecords link.subjectKey = [record] ∧
        record.providerRecordId = link.providerRecordId :=
      fun link hlink => linkFinding_eq_none_iff.mp (hlinks link hlink)
    have hlinked : ∀ record ∈ providerRecords,
        ∃ link ∈ links, record.subject = some link.subjectKey :=
      fun record hrecord => orphanFinding_eq_none_iff.mp (hrecords record hrecord)
    refine ⟨⟨fun record hrecord => hlinked record hrecord, fun a ha b hb hab => ?_, ?_⟩, ?_⟩
    · obtain ⟨link, hlink, hsubject⟩ := hlinked a ha
      obtain ⟨record, hrecord, -⟩ := hone link hlink
      have hmem : ∀ c ∈ providerRecords, c.subject = some link.subjectKey → c = record :=
        fun c hc hcs => List.mem_singleton.mp (hrecord ▸ mem_recordsOf.mpr ⟨hc, hcs⟩)
      rw [hmem a ha hsubject, hmem b hb (hab.symm.trans hsubject)]
    · rintro _ ⟨link, hlink, rfl⟩
      obtain ⟨record, hrecord, -⟩ := hone link hlink
      obtain ⟨hmem, hsubject⟩ := mem_recordsOf.mp (hrecord ▸ List.mem_singleton.mpr rfl)
      exact ⟨record, hmem, hsubject⟩
    · intro record hrecord link hlink hsubject
      obtain ⟨only, honly, hid⟩ := hone link hlink
      have hmem := mem_recordsOf.mpr ⟨hrecord, hsubject⟩
      rw [honly] at hmem
      rw [List.mem_singleton.mp hmem, hid]
  · rintro ⟨⟨hmaps, hinj, hsurj⟩, hsame⟩
    refine ⟨fun link hlink => linkFinding_eq_none_iff.mpr ?_,
      fun record hrecord => orphanFinding_eq_none_iff.mpr (hmaps hrecord)⟩
    obtain ⟨record, hrecord, hsubject⟩ := hsurj ⟨link, hlink, rfl⟩
    exact ⟨record, recordsOf_eq_singleton hids hinj hrecord hsubject,
      hsame record hrecord link hlink hsubject⟩

/-! ## Other orders -/

theorem linkFinding_of_perm {as bs : List ReconciliationProviderRecord} (h : as.Perm bs)
    (link : ReconciliationLink) : linkFinding as link = linkFinding bs link := by
  have hsorted : (as.map (·.providerRecordId)).sortByKey codeUnits =
      (bs.map (·.providerRecordId)).sortByKey codeUnits := by
    refine List.Perm.eq_of_pairwise
      (fun a b _ _ hab hba => codeUnits_injective (le_antisymm hab hba))
      (List.pairwise_sortByKey codeUnits _) (List.pairwise_sortByKey codeUnits _) ?_
    exact ((List.perm_sortByKey codeUnits _).trans (h.map _)).trans
      (List.perm_sortByKey codeUnits _).symm
  match as, bs, h with
  | [], bs, h => rw [h.nil_eq]
  | [a], bs, h => rw [List.perm_singleton.mp h.symm]
  | a :: a' :: as, [], h => exact absurd h.eq_nil (by simp)
  | a :: a' :: as, [b], h => exact absurd h.length_eq (by simp)
  | a :: a' :: as, b :: b' :: bs, h => simp only [linkFinding, hsorted]

theorem orphanFinding_of_perm {links' : List ReconciliationLink} (h : links'.Perm links)
    (record : ReconciliationProviderRecord) :
    orphanFinding links' record = orphanFinding links record := by
  simp only [orphanFinding, (h.map (·.subjectKey)).mem_iff]

instance [Std.TransCmp host.localeCompare] : Std.TransCmp (compareFindings host) := by
  have hcomap : ∀ text : ReconciliationFinding → String,
      Std.TransCmp fun left right => host.localeCompare (text left) (text right) := fun text =>
    { eq_swap := Std.OrientedCmp.eq_swap
      isLE_trans := Std.TransCmp.isLE_trans }
  have hkey := hcomap (·.sortKey)
  have hkind := hcomap (·.kind)
  exact inferInstanceAs (Std.TransCmp (compareLex _ _))

theorem assess_of_perm [Std.TransCmp host.localeCompare]
    (h : assessAirtableRecordInventory host links providerRecords = .ok findings)
    {links' : List ReconciliationLink} {providerRecords' : List ReconciliationProviderRecord}
    (hlinks : links'.Perm links) (hrecords : providerRecords'.Perm providerRecords) :
    ∃ findings', assessAirtableRecordInventory host links' providerRecords' = .ok findings' ∧
      findings'.Perm findings ∧
      List.Forall₂ (fun a b => compareFindings host a b = .eq) findings' findings := by
  obtain ⟨hkeys, hfindings⟩ := assess_eq_ok.mp h
  have hrecordsOf : ∀ subjectKey, (recordsOf providerRecords' subjectKey).Perm
      (recordsOf providerRecords subjectKey) := fun subjectKey => hrecords.filter _
  have hperm : (unsortedFindings links' providerRecords').Perm
      (unsortedFindings links providerRecords) := by
    have horphan : orphanFinding links' = orphanFinding links :=
      funext (orphanFinding_of_perm hlinks)
    rw [unsortedFindings, unsortedFindings, horphan]
    simp only [linkFinding_of_perm (hrecordsOf _)]
    exact (hlinks.filterMap _).append (hrecords.filterMap _)
  refine ⟨_, assess_eq_ok.mpr ⟨(hlinks.map _).nodup_iff.mpr hkeys, rfl⟩, ?_, ?_⟩
  · exact (((List.perm_sortByComparison _ _).trans hperm).trans (perm_of_assess h).symm)
  · rw [← hfindings]
    exact List.forall₂_eq_sortByComparison hperm

/-- An inventory is assessed exactly. Nothing is found when and only when carrying a subject is a
bijection from the records to the links that keeps the linked records. A link has at most one
finding, which says whether it has no record, several, or another one, a record whose subject is
not linked has exactly one, and there are no others. In another order of the links and of the
records the findings are the same, up to the order of those that compare equal. -/
theorem assessAirtableRecordInventory_exact (host : LocaleHost D)
    (hcollation : Std.TransCmp host.localeCompare) (links : List ReconciliationLink)
    (providerRecords : List ReconciliationProviderRecord)
    (hlinks : (links.map (·.subjectKey)).Nodup)
    (hids : (providerRecords.map (·.providerRecordId)).Nodup) :
    ∃ findings, assessAirtableRecordInventory host links providerRecords = .ok findings ∧
      (findings = [] ↔ StandOneToOne links providerRecords) ∧
      (∀ link ∈ links,
        (findings.filter fun finding => finding.linkKey = some link.subjectKey).length ≤ 1 ∧
        ((∃ recordLinkId, .missing link.subjectKey recordLinkId ∈ findings) ↔
          recordsOf providerRecords link.subjectKey = []) ∧
        ((∃ recordIds, .duplicate link.subjectKey recordIds ∈ findings) ↔
          2 ≤ (recordsOf providerRecords link.subjectKey).length) ∧
        ∀ expected actual, .record_id_changed link.subjectKey expected actual ∈ findings ↔
          expected = link.providerRecordId ∧ actual ≠ expected ∧
            ∃ record, recordsOf providerRecords link.subjectKey = [record] ∧
              record.providerRecordId = actual) ∧
      (∀ record ∈ providerRecords,
        (findings.filter fun finding =>
            finding.orphanId = some record.providerRecordId).length =
          if ∃ link ∈ links, record.subject = some link.subjectKey then 0 else 1) ∧
      (∀ finding ∈ findings, (∃ link ∈ links, finding.linkKey = some link.subjectKey) ∨
        ∃ record ∈ providerRecords, finding.orphanId = some record.providerRecordId) ∧
      ∀ links' providerRecords', links'.Perm links → providerRecords'.Perm providerRecords →
        ∃ findings', assessAirtableRecordInventory host links' providerRecords' = .ok findings' ∧
          findings'.Perm findings ∧
          List.Forall₂ (fun a b => compareFindings host a b = .eq) findings' findings := by
  obtain ⟨findings, h⟩ : ∃ findings,
      assessAirtableRecordInventory host links providerRecords = .ok findings :=
    ⟨_, assess_eq_ok.mpr ⟨hlinks, rfl⟩⟩
  refine ⟨findings, h, findings_eq_nil_iff hids h, fun link hlink => ?_, fun record hrecord => ?_,
    fun finding hfinding => ?_, fun _ _ hl hr => assess_of_perm h hl hr⟩
  · have hmem : ∀ finding : ReconciliationFinding, finding.linkKey = some link.subjectKey → _ :=
      fun _ hkey => mem_findings_iff h hlink hkey
    refine ⟨?_, ?_, ?_, fun expected actual => ?_⟩
    · rw [findings_of_link h hlink]
      cases linkFinding (recordsOf providerRecords link.subjectKey) link <;> simp
    · simp only [hmem (.missing _ _) rfl]
      match hrecords : recordsOf providerRecords link.subjectKey with
      | [] => simp [linkFinding]
      | [record] => simp [linkFinding]
      | _ :: _ :: _ => simp [linkFinding]
    · simp only [hmem (.duplicate _ _) rfl]
      match hrecords : recordsOf providerRecords link.subjectKey with
      | [] => simp [linkFinding]
      | [record] => simp [linkFinding]
      | _ :: _ :: _ => simp [linkFinding]
    · rw [hmem (.record_id_changed _ _ _) rfl]
      match hrecords : recordsOf providerRecords link.subjectKey with
      | [] => simp [linkFinding]
      | [record] =>
        simp only [linkFinding, Option.ite_none_right_eq_some, Option.some.injEq,
          ReconciliationFinding.record_id_changed.injEq, true_and, List.cons.injEq, and_true,
          exists_eq_left']
        constructor
        · rintro ⟨hne, rfl, rfl⟩
          exact ⟨rfl, hne, rfl⟩
        · rintro ⟨rfl, hne, rfl⟩
          exact ⟨hne, rfl, rfl⟩
      | _ :: _ :: _ => simp [linkFinding]
  · rw [findings_of_record h hids hrecord]
    split
    · rename_i hlinked
      rw [orphanFinding_eq_none_iff.mpr hlinked]
      rfl
    · rename_i hunlinked
      obtain ⟨finding, hfinding⟩ := Option.ne_none_iff_exists'.mp
        (mt orphanFinding_eq_none_iff.mp hunlinked)
      rw [hfinding]
      rfl
  · rcases List.mem_append.mp ((perm_of_assess h).mem_iff.mp hfinding) with hmem | hmem
    · obtain ⟨link, hlink, hmade⟩ := List.mem_filterMap.mp hmem
      exact .inl ⟨link, hlink, (linkKey_of_linkFinding hmade).1⟩
    · obtain ⟨record, hrecord, hmade⟩ := List.mem_filterMap.mp hmem
      exact .inr ⟨record, hrecord, (orphanId_of_orphanFinding hmade).1⟩

/-- A link whose record was replaced, one with two records, one with none, and a record of an
unknown subject. -/
theorem assessAirtableRecordInventory_exact_four_findings :
    ∃ findings, assessAirtableRecordInventory plainLocale
        [⟨"l1", "a", "r1"⟩, ⟨"l2", "b", "r2"⟩, ⟨"l3", "c", "r3"⟩]
        [⟨"r4", some "a"⟩, ⟨"r5", some "b"⟩, ⟨"r6", some "b"⟩, ⟨"r7", some "z"⟩] = .ok findings ∧
      findings.length = 4 ∧ ¬ StandOneToOne
        [⟨"l1", "a", "r1"⟩, ⟨"l2", "b", "r2"⟩, ⟨"l3", "c", "r3"⟩]
        [⟨"r4", some "a"⟩, ⟨"r5", some "b"⟩, ⟨"r6", some "b"⟩, ⟨"r7", some "z"⟩] := by
  have hcollation : Std.TransCmp plainLocale.localeCompare :=
    inferInstanceAs (Std.TransOrd String)
  obtain ⟨findings, h, hnil, -⟩ := assessAirtableRecordInventory_exact plainLocale hcollation
    [⟨"l1", "a", "r1"⟩, ⟨"l2", "b", "r2"⟩, ⟨"l3", "c", "r3"⟩]
    [⟨"r4", some "a"⟩, ⟨"r5", some "b"⟩, ⟨"r6", some "b"⟩, ⟨"r7", some "z"⟩]
    (by decide) (by decide)
  have hlength : findings.length = 4 := by
    rw [(perm_of_assess h).length_eq]
    decide
  exact ⟨findings, h, hlength, fun hstand => by simp [hnil.mpr hstand] at hlength⟩

example : assessAirtableRecordInventory plainLocale [⟨"l2", "b", "r2"⟩, ⟨"l1", "a", "r1"⟩]
      [⟨"r7", some "z"⟩, ⟨"r4", some "a"⟩] =
    .ok [.record_id_changed "a" "r1" "r4", .missing "b" "l2", .orphan "r7" (some "z")] := by
  decide +kernel

end JooEvents
