import JooEvents.Communications.Review
import JooEvents.Lib.Firsts

/-!
# Composite audiences

The groups of an audience are joined by mailbox : the first member of a mailbox stands for it,
excluded as soon as one of its members is (`merged_foldlM`). So a mailbox is written to at most
once, never past an exclusion, and whatever the order of the groups.

The joined members are not counted again, and a member without an address is never joined. That
the members stay within the bound of a single source, and name no subject twice, holds exactly
when the groups do not overlap in such ways (`composite_mailsOnce_iff`).
-/

namespace JooEvents

open Fallible Keyed

variable {D : Type} {host : Host D} {toLocaleLowerCase : String → String}

def OrganizerMemberState.isEligible : OrganizerMemberState D → Bool
  | .eligible _ _ => true
  | .excluded _ _ _ => false

/-! ## Joining -/

variable {first member joined : OrganizerResolvedAudienceMember host}
variable {union union' members members' : List (OrganizerResolvedAudienceMember host)}

theorem joinMember_eq_ok [DecidableEq D] (toLocaleLowerCase : String → String)
    (h : joinMember first member = .ok joined) :
    joined.candidate = first.candidate ∧
      joined.mailbox toLocaleLowerCase = first.mailbox toLocaleLowerCase ∧
      (joined.state.isEligible = true ↔
        first.state.isEligible = true ∧ member.state.isEligible = true) := by
  unfold joinMember at h
  split at h
  · rename_i address policy reasonCode _ _ hfirst hmember
    simp only [bind_eq_ok, pure_eq_ok] at h
    obtain ⟨evidence, -, rfl⟩ := h
    simp [OrganizerResolvedAudienceMember.mailbox, OrganizerMemberState.address,
      OrganizerMemberState.isEligible, hfirst, hmember]
  · rename_i hnot
    cases h
    refine ⟨rfl, rfl, ⟨fun hfirst => ⟨hfirst, ?_⟩, And.left⟩⟩
    cases hstate : first.state with
    | excluded reasonCode address policy =>
      rw [hstate] at hfirst
      cases hfirst
    | eligible address policy =>
      cases hother : member.state with
      | eligible _ _ => rfl
      | excluded reasonCode _ _ => exact (hnot _ _ _ _ _ hstate hother).elim

theorem addMember_cases [DecidableEq D]
    (h : addMember toLocaleLowerCase members member = .ok members') :
    ((member.mailbox toLocaleLowerCase = none ∨ ∀ other ∈ members,
        other.mailbox toLocaleLowerCase ≠ member.mailbox toLocaleLowerCase) ∧
      members' = members ++ [member]) ∨
    ∃ before first after joined mailbox, member.mailbox toLocaleLowerCase = some mailbox ∧
      first.mailbox toLocaleLowerCase = some mailbox ∧
      (∀ other ∈ before, other.mailbox toLocaleLowerCase ≠ some mailbox) ∧
      joinMember first member = .ok joined ∧ members = before ++ first :: after ∧
      members' = before ++ joined :: after := by
  unfold addMember at h
  split at h
  · rename_i hnone
    exact .inl ⟨.inl hnone, (Except.ok.inj h).symm⟩
  · rename_i mailbox hmailbox
    dsimp only at h
    split at h
    · rename_i hnew
      rw [hmailbox]
      exact .inl ⟨.inr fun other hother => by simpa using List.find?_eq_none.mp hnew other hother,
        (Except.ok.inj h).symm⟩
    · rename_i first hfirst
      obtain ⟨hsame, before, after, rfl, hbefore⟩ := List.find?_eq_some_iff_append.mp hfirst
      cases hjoined : joinMember first member with
      | error e =>
        rw [hjoined] at h
        cases h
      | ok joined =>
        rw [hjoined] at h
        have hother : ∀ other ∈ before, other.mailbox toLocaleLowerCase ≠ some mailbox :=
          fun other hother => by simpa using hbefore other hother
        have hidx : (before ++ first :: after).findIdx (fun other =>
            decide (other.mailbox toLocaleLowerCase = some mailbox)) = before.length := by
          rw [List.findIdx_append, List.findIdx_eq_length_of_false (by simpa using hother),
            if_neg (lt_irrefl _), List.findIdx_cons, hsame, cond_true, Nat.zero_add]
        refine .inr ⟨before, first, after, joined, mailbox, hmailbox, of_decide_eq_true hsame,
          hother, hjoined, rfl, ?_⟩
        rw [← Except.ok.inj h, hidx]
        simp

/-- The members are those of the union, joined by mailbox. -/
structure Merged (toLocaleLowerCase : String → String)
    (union members : List (OrganizerResolvedAudienceMember host)) : Prop where
  firsts : members.map (fun member => (member.candidate, member.mailbox toLocaleLowerCase)) =
    (firstsBy (fun member => member.mailbox toLocaleLowerCase) union).map fun member =>
      (member.candidate, member.mailbox toLocaleLowerCase)
  eligible_iff : ∀ member ∈ members, ∀ mailbox, member.mailbox toLocaleLowerCase = some mailbox →
    (member.state.isEligible = true ↔ ∀ other ∈ union,
      other.mailbox toLocaleLowerCase = some mailbox → other.state.isEligible = true)
  whole : ∀ member ∈ union, member.mailbox toLocaleLowerCase = none → member ∈ members

namespace Merged

theorem nil : Merged toLocaleLowerCase ([] : List (OrganizerResolvedAudienceMember host)) [] :=
  ⟨rfl, fun _ hmem => (List.not_mem_nil hmem).elim, fun _ hmem => (List.not_mem_nil hmem).elim⟩

variable (h : Merged toLocaleLowerCase union members)

include h

theorem candidates : members.map (·.candidate) =
    (firstsBy (fun member => member.mailbox toLocaleLowerCase) union).map (·.candidate) := by
  simpa [List.map_map, Function.comp_def] using congrArg (List.map Prod.fst) h.firsts

theorem mailboxes : members.filterMap (fun member => member.mailbox toLocaleLowerCase) =
    (firstsBy (fun member => member.mailbox toLocaleLowerCase) union).filterMap fun member =>
      member.mailbox toLocaleLowerCase := by
  simpa [List.filterMap_map, Function.comp_def] using congrArg (List.filterMap Prod.snd) h.firsts

theorem nodup_mailboxes :
    (members.filterMap fun member => member.mailbox toLocaleLowerCase).Nodup := by
  rw [h.mailboxes]
  exact nodup_firstsBy_keys union

theorem mem_mailboxes {mailbox : String} :
    (∃ member ∈ members, member.mailbox toLocaleLowerCase = some mailbox) ↔
      ∃ member ∈ union, member.mailbox toLocaleLowerCase = some mailbox := by
  rw [← List.mem_filterMap, ← List.mem_filterMap, h.mailboxes, mem_filterMap_firstsBy]

theorem length : members.length =
    (firstsBy (fun member => member.mailbox toLocaleLowerCase) union).length := by
  rw [← List.length_map (·.candidate), h.candidates, List.length_map]

theorem candidate_eq (hmember : member ∈ members) {mailbox : String}
    (hmailbox : member.mailbox toLocaleLowerCase = some mailbox) :
    (union.find? fun other => other.mailbox toLocaleLowerCase = some mailbox).map (·.candidate) =
      some member.candidate := by
  have hmem : (member.candidate, some mailbox) ∈
      (firstsBy (fun member => member.mailbox toLocaleLowerCase) union).map fun member =>
        (member.candidate, member.mailbox toLocaleLowerCase) := by
    rw [← h.firsts]
    exact List.mem_map.mpr ⟨member, hmember, by rw [hmailbox]⟩
  obtain ⟨kept, hkept, heq⟩ := List.mem_map.mp hmem
  obtain ⟨hcandidate, hkey⟩ := Prod.mk.inj heq
  rw [← find?_firstsBy]
  cases hfound : (firstsBy (fun member => member.mailbox toLocaleLowerCase) union).find?
      fun other => other.mailbox toLocaleLowerCase = some mailbox with
  | none => exact absurd (decide_eq_true hkey) (List.find?_eq_none.mp hfound kept hkept)
  | some found =>
    have hsame : found = kept := eq_of_filterMap_eq (nodup_firstsBy_keys union)
      (List.mem_of_find?_eq_some hfound) hkept (by simpa using List.find?_some hfound) hkey
    rw [hsame, Option.map_some, hcandidate]

theorem isNew_union (hnew : member.mailbox toLocaleLowerCase = none ∨ ∀ other ∈ members,
      other.mailbox toLocaleLowerCase ≠ member.mailbox toLocaleLowerCase) :
    member.mailbox toLocaleLowerCase = none ∨ ∀ other ∈ union,
      other.mailbox toLocaleLowerCase ≠ member.mailbox toLocaleLowerCase := by
  cases hmailbox : member.mailbox toLocaleLowerCase with
  | none => exact .inl rfl
  | some mailbox =>
    rw [hmailbox] at hnew
    refine .inr fun other hother hsame => ?_
    obtain ⟨found, hfound, hkey⟩ := h.mem_mailboxes.mpr ⟨other, hother, hsame⟩
    exact hnew.elim nofun fun hnew => hnew found hfound hkey

theorem append (hnew : member.mailbox toLocaleLowerCase = none ∨ ∀ other ∈ members,
      other.mailbox toLocaleLowerCase ≠ member.mailbox toLocaleLowerCase) :
    Merged toLocaleLowerCase (union ++ [member]) (members ++ [member]) where
  firsts := by
    rw [firstsBy_append_singleton, if_pos (h.isNew_union hnew), List.map_append, List.map_append,
      h.firsts]
  eligible_iff other hother mailbox hmailbox := by
    rw [List.forall_mem_append, List.forall_mem_singleton]
    rcases List.mem_append.mp hother with hold | hlast
    · rw [h.eligible_iff other hold mailbox hmailbox]
      refine ⟨fun hall => ⟨hall, fun hkey => ?_⟩, And.left⟩
      rw [hkey] at hnew
      exact hnew.elim nofun fun hnew => absurd hmailbox (hnew other hold)
    · obtain rfl := List.mem_singleton.mp hlast
      refine ⟨fun heligible => ⟨fun u hu hkey => ?_, fun _ => heligible⟩,
        fun hall => hall.2 hmailbox⟩
      have hfresh := h.isNew_union hnew
      rw [hmailbox] at hfresh
      exact hfresh.elim nofun fun hfresh => absurd hkey (hfresh u hu)
  whole u hu hnone := by
    rcases List.mem_append.mp hu with hu | hu
    · exact List.mem_append_left _ (h.whole u hu hnone)
    · exact List.mem_append_right _ hu

end Merged

theorem Merged.join [DecidableEq D]
    {before after : List (OrganizerResolvedAudienceMember host)} {mailbox : String}
    (h : Merged toLocaleLowerCase union (before ++ first :: after))
    (hmailbox : member.mailbox toLocaleLowerCase = some mailbox)
    (hfirst : first.mailbox toLocaleLowerCase = some mailbox)
    (hbefore : ∀ other ∈ before, other.mailbox toLocaleLowerCase ≠ some mailbox)
    (hjoin : joinMember first member = .ok joined) :
    Merged toLocaleLowerCase (union ++ [member]) (before ++ joined :: after) := by
  obtain ⟨hcandidate, hkept, heligible⟩ := joinMember_eq_ok toLocaleLowerCase hjoin
  have hafter : ∀ other ∈ after, other.mailbox toLocaleLowerCase ≠ some mailbox := by
    intro other hother hkey
    have hnodup := h.nodup_mailboxes
    rw [List.filterMap_append, List.filterMap_cons_some hfirst] at hnodup
    exact (List.nodup_cons.mp (List.nodup_append'.mp hnodup).2.1).1
      (List.mem_filterMap.mpr ⟨other, hother, hkey⟩)
  have hold : ¬ (member.mailbox toLocaleLowerCase = none ∨ ∀ other ∈ union,
      other.mailbox toLocaleLowerCase ≠ member.mailbox toLocaleLowerCase) := by
    obtain ⟨u, hu, hkey⟩ := h.mem_mailboxes.mp ⟨first, by simp, hfirst⟩
    rintro (hnone | hnew)
    · rw [hmailbox] at hnone
      cases hnone
    · exact hnew u hu (hkey.trans hmailbox.symm)
  refine ⟨?_, ?_, ?_⟩
  · rw [firstsBy_append_singleton, if_neg hold, ← h.firsts, List.map_append, List.map_append,
      List.map_cons, List.map_cons, hcandidate, hkept]
  · intro other hother other_mailbox hother_mailbox
    rw [List.forall_mem_append, List.forall_mem_singleton, hmailbox]
    have hrest : other ∈ before ++ first :: after → some mailbox ≠ some other_mailbox →
        (other.state.isEligible = true ↔ (∀ u ∈ union,
          u.mailbox toLocaleLowerCase = some other_mailbox → u.state.isEligible = true) ∧
          (some mailbox = some other_mailbox → member.state.isEligible = true)) := by
      intro hmem hne
      rw [h.eligible_iff other hmem other_mailbox hother_mailbox]
      exact ⟨fun hall => ⟨hall, fun heq => absurd heq hne⟩, And.left⟩
    rcases List.mem_append.mp hother with hmem | hmem
    · exact hrest (by simp [hmem]) fun heq => hbefore other hmem (heq ▸ hother_mailbox)
    rcases List.mem_cons.mp hmem with rfl | hmem
    · have heq : mailbox = other_mailbox := by
        rw [hkept, hfirst] at hother_mailbox
        exact Option.some.inj hother_mailbox
      subst heq
      rw [heligible, h.eligible_iff first (by simp) mailbox hfirst]
      simp
    · exact hrest (by simp [hmem]) fun heq => hafter other hmem (heq ▸ hother_mailbox)
  · intro u hu hnone
    have hne : u ≠ first := by
      rintro rfl
      rw [hfirst] at hnone
      cases hnone
    rcases List.mem_append.mp hu with hu | hu
    · have hmem := h.whole u hu hnone
      simp only [List.mem_append, List.mem_cons, hne, false_or] at hmem ⊢
      exact hmem.imp_right .inr
    · rw [List.mem_singleton.mp hu, hmailbox] at hnone
      cases hnone

theorem Merged.step [DecidableEq D] (h : Merged toLocaleLowerCase union members)
    (hadd : addMember toLocaleLowerCase members member = .ok members') :
    Merged toLocaleLowerCase (union ++ [member]) members' := by
  rcases addMember_cases hadd with ⟨hnew, rfl⟩ |
    ⟨before, first, after, joined, mailbox, hmailbox, hfirst, hbefore, hjoin, rfl, rfl⟩
  · exact h.append hnew
  · exact h.join hmailbox hfirst hbefore hjoin

theorem Merged.foldlM [DecidableEq D] {members : List (OrganizerResolvedAudienceMember host)}
    (h : Merged toLocaleLowerCase union members) :
    ∀ {rest members' : List (OrganizerResolvedAudienceMember host)},
      rest.foldlM (addMember toLocaleLowerCase) members = .ok members' →
        Merged toLocaleLowerCase (union ++ rest) members' := by
  intro rest
  induction rest generalizing union members with
  | nil =>
    intro members' hfold
    rw [List.foldlM_nil, pure_eq_ok] at hfold
    rwa [List.append_nil, ← hfold]
  | cons member rest ih =>
    intro members' hfold
    rw [List.foldlM_cons, bind_eq_ok] at hfold
    obtain ⟨next, hadd, hfold⟩ := hfold
    have hmerged := ih (h.step hadd) hfold
    rwa [List.append_assoc, List.singleton_append] at hmerged

/-- The address of a member, as mailboxes are told. -/
def OrganizerResolvedAudienceMember.normalizedAddress (toLocaleLowerCase : String → String)
    (member : OrganizerResolvedAudienceMember host) : Option String :=
  member.state.address.map fun address =>
    toLocaleLowerCase (trimText address.classifiedValue.value.val)

theorem mailbox_eq (hlower : ∀ s, toLocaleLowerCase s = "" → s = "") :
    (fun member : OrganizerResolvedAudienceMember host => member.mailbox toLocaleLowerCase) =
      fun member => member.normalizedAddress toLocaleLowerCase := by
  funext member
  rw [OrganizerResolvedAudienceMember.mailbox, OrganizerResolvedAudienceMember.normalizedAddress]
  cases haddress : member.state.address with
  | none => rfl
  | some address =>
    rw [Option.map_some, Option.filter_some, if_pos (decide_eq_true ?_)]
    intro hempty
    have hemail := address.classifiedValue.value.property.1
    have hgraphic : ∀ c ∈ address.classifiedValue.value.val.toList, isGraphicChar c = true := by
      intro c hc
      rw [isEmail, Bool.and_eq_true] at hemail
      exact isGraphicChar_of_isEmailChar (List.all_eq_true.mp hemail.1 c hc)
    have hvalue := hlower _ hempty
    rw [trimText, trimChars_of_graphic hgraphic, String.ofList_toList] at hvalue
    rw [hvalue] at hemail
    exact absurd hemail (by decide)

section

variable (toLocaleLowerCase : String → String) (scope : OrganizerAudienceScope) (asOf : Instant)
variable (source : OrganizerAudienceSourcePort host)
variable (addressPolicy : OrganizerAddressPolicyPort host)

/-- The members of one group, if it can be resolved. -/
def membersOfGroup [DecidableEq D] (audience : OrganizerCommunicationAudienceDraft host)
    (group : OrganizerAudienceGroup host) (n : ℕ) : List (OrganizerResolvedAudienceMember host) :=
  match resolveAtomicAudience toLocaleLowerCase scope asOf source addressPolicy n
      { audience with source := .atomic group.source } with
  | .ok resolved => resolved.members
  | .error _ => []

def groupMembers [DecidableEq D] (audience : OrganizerCommunicationAudienceDraft host)
    (groups : List (OrganizerAudienceGroup host)) : List (OrganizerResolvedAudienceMember host) :=
  groups.zipIdx.flatMap fun (group, n) =>
    membersOfGroup toLocaleLowerCase scope asOf source addressPolicy audience group n

end

/-- The ports, with the groups numbered otherwise. -/
def OrganizerAudienceSourcePort.renumber (source : OrganizerAudienceSourcePort host) (σ : ℕ → ℕ) :
    OrganizerAudienceSourcePort host :=
  ⟨fun group => source.resolveCurrentSnapshot (σ group)⟩

def OrganizerAddressPolicyPort.renumber (addressPolicy : OrganizerAddressPolicyPort host)
    (σ : ℕ → ℕ) : OrganizerAddressPolicyPort host :=
  ⟨fun group => addressPolicy.resolveEmail (σ group)⟩

section

variable {scope : OrganizerAudienceScope} {asOf : Instant}
variable {source : OrganizerAudienceSourcePort host}
variable {addressPolicy : OrganizerAddressPolicyPort host}
variable {audience : OrganizerCommunicationAudienceDraft host}

theorem merged_of_resolve [DecidableEq D] {groups : {groups : List (OrganizerAudienceGroup host) //
      2 ≤ groups.length ∧ groups.length ≤ 20}} (hgroups : audience.source = .composite groups)
    {resolved : OrganizerResolvedAudienceSnapshot host}
    (h : resolveOrganizerAudience toLocaleLowerCase scope asOf source addressPolicy audience =
      .ok resolved) :
    Merged toLocaleLowerCase
      (groupMembers toLocaleLowerCase scope asOf source addressPolicy audience groups.val)
      resolved.members := by
  unfold resolveOrganizerAudience at h
  rw [hgroups] at h
  simp only [bind_eq_ok, pure_eq_ok] at h
  obtain ⟨resolvedGroups, hresolved, members, hmembers, versions, -, rfl⟩ := h
  have hunion := map_eq_of_forall₂ (g := fun resolved => resolved.members) (f := fun group =>
      membersOfGroup toLocaleLowerCase scope asOf source addressPolicy audience group.1 group.2)
    (fun group resolved hok => by rw [membersOfGroup, hok]) (forall₂_of_mapM_eq_ok hresolved)
  rw [groupMembers, List.flatMap_def, ← hunion, ← List.flatMap_def]
  exact Merged.nil.foldlM hmembers

theorem mem_groupMembers_renumber [DecidableEq D] {groups groups' : List (OrganizerAudienceGroup host)}
    (σ : Equiv.Perm ℕ) (hgroups : ∀ n, groups'[n]? = groups[σ n]?)
    {member : OrganizerResolvedAudienceMember host} :
    member ∈ groupMembers toLocaleLowerCase scope asOf (source.renumber σ)
        (addressPolicy.renumber σ) audience groups' ↔
      member ∈ groupMembers toLocaleLowerCase scope asOf source addressPolicy audience groups := by
  have hgroup : ∀ group n, membersOfGroup toLocaleLowerCase scope asOf (source.renumber σ)
      (addressPolicy.renumber σ) audience group n =
        membersOfGroup toLocaleLowerCase scope asOf source addressPolicy audience group (σ n) :=
    fun _ _ => rfl
  simp only [groupMembers, List.mem_flatMap, Prod.exists, List.mk_mem_zipIdx_iff_getElem?, hgroups,
    hgroup]
  constructor
  · rintro ⟨group, n, hn, hmember⟩
    exact ⟨group, σ n, hn, hmember⟩
  · rintro ⟨group, n, hn, hmember⟩
    exact ⟨group, σ.symm n, by rwa [σ.apply_symm_apply], by rwa [σ.apply_symm_apply]⟩

/-! ## What is written to -/

/-- The members write to the mailboxes of the union once, and never past an exclusion; all of the
union is there, no subject twice, and no more than a single source may have. -/
structure MailsOnce (toLocaleLowerCase : String → String)
    (union members : List (OrganizerResolvedAudienceMember host)) : Prop where
  once : ∀ member ∈ union, ∀ address, member.normalizedAddress toLocaleLowerCase = some address →
    (members.filterMap fun member => member.normalizedAddress toLocaleLowerCase).count address = 1
  eligible_iff : ∀ member ∈ members, ∀ address,
    member.normalizedAddress toLocaleLowerCase = some address →
      (member.state.isEligible = true ↔ ∀ other ∈ union,
        other.normalizedAddress toLocaleLowerCase = some address → other.state.isEligible = true)
  first : ∀ member ∈ members, ∀ address,
    member.normalizedAddress toLocaleLowerCase = some address →
      (union.find? fun other => other.normalizedAddress toLocaleLowerCase = some address).map
        (·.candidate) = some member.candidate
  represented : ∀ member ∈ union, member.normalizedAddress toLocaleLowerCase = none →
    member ∈ members
  distinct : (members.map (·.candidate.subjectRefId)).Nodup
  bounded : members.length ≤ 10000

/-- No subject is kept at two places, without an address or first with it, and what is kept is
within the bound. -/
def GroupsApart (toLocaleLowerCase : String → String)
    (union : List (OrganizerResolvedAudienceMember host)) : Prop :=
  (∀ i j (hi : i < union.length) (hj : j < union.length), i < j →
    IsFirstBy (·.normalizedAddress toLocaleLowerCase) union i union[i] →
    IsFirstBy (·.normalizedAddress toLocaleLowerCase) union j union[j] →
      union[i].candidate.subjectRefId ≠ union[j].candidate.subjectRefId) ∧
  union.countP (fun member => member.normalizedAddress toLocaleLowerCase = none) +
    (union.filterMap fun member => member.normalizedAddress toLocaleLowerCase).toFinset.card ≤ 10000

/-- The addresses of the members that are eligible, or of those that are not. -/
def addressesWhere (toLocaleLowerCase : String → String) (eligible : Bool)
    (members : List (OrganizerResolvedAudienceMember host)) : Set String :=
  {address | ∃ member ∈ members, member.normalizedAddress toLocaleLowerCase = some address ∧
    member.state.isEligible = eligible}

theorem Merged.mailsOnce_iff (hlower : ∀ s, toLocaleLowerCase s = "" → s = "")
    (h : Merged toLocaleLowerCase union members) :
    MailsOnce toLocaleLowerCase union members ↔ GroupsApart toLocaleLowerCase union := by
  have hmailbox : ∀ member : OrganizerResolvedAudienceMember host,
      member.mailbox toLocaleLowerCase = member.normalizedAddress toLocaleLowerCase :=
    congrFun (mailbox_eq hlower)
  have hsubjects : members.map (·.candidate.subjectRefId) =
      (firstsBy (·.normalizedAddress toLocaleLowerCase) union).map (·.candidate.subjectRefId) := by
    have hmap := congrArg (List.map (·.subjectRefId)) h.candidates
    simpa [List.map_map, Function.comp_def, hmailbox] using hmap
  have hlength : members.length =
      (firstsBy (·.normalizedAddress toLocaleLowerCase) union).length := by
    simpa [hmailbox] using h.length
  rw [GroupsApart, ← length_firstsBy, ← hlength]
  constructor
  · intro honce
    exact ⟨nodup_map_firstsBy_iff.mp (hsubjects ▸ honce.distinct), honce.bounded⟩
  rintro ⟨hapart, hbounded⟩
  refine ⟨?_, ?_, ?_, ?_, hsubjects ▸ nodup_map_firstsBy_iff.mpr hapart, hbounded⟩
  · intro member hmember address haddress
    have hnodup := h.nodup_mailboxes
    rw [mailbox_eq hlower] at hnodup
    refine List.count_eq_one_of_mem hnodup ?_
    obtain ⟨found, hfound, hkey⟩ :=
      h.mem_mailboxes.mpr ⟨member, hmember, (hmailbox member).trans haddress⟩
    exact List.mem_filterMap.mpr ⟨found, hfound, (hmailbox found).symm.trans hkey⟩
  · intro member hmember address haddress
    simpa only [hmailbox] using
      h.eligible_iff member hmember address ((hmailbox member).trans haddress)
  · intro member hmember address haddress
    simpa only [hmailbox] using h.candidate_eq hmember ((hmailbox member).trans haddress)
  · intro member hmember hnone
    exact h.whole member hmember ((hmailbox member).trans hnone)

theorem Merged.addressesWhere_eq (hlower : ∀ s, toLocaleLowerCase s = "" → s = "")
    (h : Merged toLocaleLowerCase union members) (h' : Merged toLocaleLowerCase union' members')
    (hsame : ∀ member, member ∈ union' ↔ member ∈ union) (eligible : Bool) :
    addressesWhere toLocaleLowerCase eligible members' =
      addressesWhere toLocaleLowerCase eligible members := by
  have hmem : ∀ {union members : List (OrganizerResolvedAudienceMember host)},
      Merged toLocaleLowerCase union members → ∀ address,
        address ∈ addressesWhere toLocaleLowerCase eligible members ↔
          (∃ member ∈ union, member.mailbox toLocaleLowerCase = some address) ∧
            ((∀ other ∈ union, other.mailbox toLocaleLowerCase = some address →
              other.state.isEligible = true) ↔ eligible = true) := by
    intro union members h address
    rw [← h.mem_mailboxes]
    simp only [addressesWhere, Set.mem_ofPred_eq, ← congrFun (mailbox_eq hlower)]
    constructor
    · rintro ⟨member, hmember, hkey, heligible⟩
      refine ⟨⟨member, hmember, hkey⟩, ?_⟩
      rw [← h.eligible_iff member hmember address hkey, heligible]
    · rintro ⟨⟨member, hmember, hkey⟩, hiff⟩
      rw [← h.eligible_iff member hmember address hkey, Bool.coe_iff_coe] at hiff
      exact ⟨member, hmember, hkey, hiff⟩
  ext address
  simp only [hmem h, hmem h', hsame]

/-- A composite audience writes to each mailbox once and whatever the order of its groups,
exactly when the groups are apart. -/
theorem composite_mailsOnce_iff [DecidableEq D] (hlower : ∀ s, toLocaleLowerCase s = "" → s = "")
    {groups : {groups : List (OrganizerAudienceGroup host) //
      2 ≤ groups.length ∧ groups.length ≤ 20}} (hgroups : audience.source = .composite groups)
    {resolved : OrganizerResolvedAudienceSnapshot host}
    (h : resolveOrganizerAudience toLocaleLowerCase scope asOf source addressPolicy audience =
      .ok resolved) :
    (MailsOnce toLocaleLowerCase
        (groupMembers toLocaleLowerCase scope asOf source addressPolicy audience groups.val)
        resolved.members ∧
      ∀ (σ : Equiv.Perm ℕ) (groups' : {groups : List (OrganizerAudienceGroup host) //
          2 ≤ groups.length ∧ groups.length ≤ 20})
        (resolved' : OrganizerResolvedAudienceSnapshot host),
        (∀ n, groups'.val[n]? = groups.val[σ n]?) →
        resolveOrganizerAudience toLocaleLowerCase scope asOf (source.renumber σ)
            (addressPolicy.renumber σ) { audience with source := .composite groups' } =
          .ok resolved' →
        ∀ eligible, addressesWhere toLocaleLowerCase eligible resolved'.members =
          addressesWhere toLocaleLowerCase eligible resolved.members) ↔
      GroupsApart toLocaleLowerCase
        (groupMembers toLocaleLowerCase scope asOf source addressPolicy audience groups.val) := by
  have hmerged := merged_of_resolve hgroups h
  rw [hmerged.mailsOnce_iff hlower, and_iff_left_iff_imp]
  intro _ σ groups' resolved' hσ h' eligible
  exact hmerged.addressesWhere_eq hlower (merged_of_resolve rfl h')
    (fun member => mem_groupMembers_renumber σ hσ) eligible

end

/-! ## Two groups of one person -/

namespace CompositeExample

open ReviewExample

theorem isContactList : (1 ≤ [candidate.contactRefId].length ∧ [candidate.contactRefId].length ≤ 10000) ∧
    [candidate.contactRefId].Pairwise (· < ·) :=
  ⟨by decide, List.pairwise_singleton _ _⟩

def group (label : String) (h : canonicalSingleLine SymbolicDigest.host 200 label = true) :
    OrganizerAudienceGroup SymbolicDigest.host :=
  { label := ⟨label, h⟩
    source := .explicitContacts
      ⟨[candidate.contactRefId], isContactList⟩ }

def groups : {groups : List (OrganizerAudienceGroup SymbolicDigest.host) //
    2 ≤ groups.length ∧ groups.length ≤ 20} :=
  ⟨[group "Speakers" (by decide), group "Volunteers" (by decide)], by decide, by decide⟩

def audience : OrganizerCommunicationAudienceDraft SymbolicDigest.host :=
  { purposeRevision, source := .composite groups }

def source : OrganizerAudienceSourcePort SymbolicDigest.host :=
  ⟨fun _ _ audience => .ok
    { source := audience.source, candidates := [candidate], sourceVersions := [] }⟩

def noAddress : OrganizerAddressPolicyPort SymbolicDigest.host :=
  ⟨fun _ _ _ _ _ => .ok (.noEligibleAddress evidence)⟩

def allowed : OrganizerAddressPolicyPort SymbolicDigest.host :=
  ⟨fun _ _ _ _ _ => .ok (.evaluated
    { selectionPolicy := reference, address
      purposeBasis := { state := .allowed, evidence }
      consent := { state := .notRequired, evidence }
      suppression := { state := .clear, evidence }
      doNotContact := { state := .clear, evidence } })⟩

def resolve (addressPolicy : OrganizerAddressPolicyPort SymbolicDigest.host) :
    Except OrganizerAudienceResolutionErrorCode
      (OrganizerResolvedAudienceSnapshot SymbolicDigest.host) :=
  resolveOrganizerAudience String.toLower { workspaceId := .ofNat 1, eventId := .ofNat 2 }
    (.yearStart 2026) source addressPolicy audience

theorem toLower_eq_empty (s : String) (h : s.toLower = "") : s = "" := by
  have hlist : s.toList.map Char.toLower = [] := by
    rw [← String.toList_map]
    exact congrArg String.toList h
  exact String.toList_inj.mp (List.map_eq_nil_iff.mp hlist)

theorem resolve_noAddress :
    (resolve noAddress).map (fun resolved => resolved.members.map (·.candidate.subjectRefId)) =
      .ok [candidate.subjectRefId, candidate.subjectRefId] := by
  decide +kernel

theorem resolve_allowed :
    (resolve allowed).map (fun resolved => resolved.members.map (·.candidate.subjectRefId)) =
      .ok [candidate.subjectRefId] := by
  decide +kernel

/-- The members of the groups, before they are merged. -/
def listed (addressPolicy : OrganizerAddressPolicyPort SymbolicDigest.host) :
    List (OrganizerResolvedAudienceMember SymbolicDigest.host) :=
  groupMembers String.toLower { workspaceId := .ofNat 1, eventId := .ofNat 2 } (.yearStart 2026)
    source addressPolicy audience groups.val

theorem firsts_allowed :
    (firstsBy (·.normalizedAddress String.toLower) (listed allowed)).map
        (·.candidate.subjectRefId) = [candidate.subjectRefId] := by
  decide +kernel

theorem groupsApart_allowed : GroupsApart String.toLower (listed allowed) := by
  have hlength := congrArg List.length firsts_allowed
  rw [List.length_map] at hlength
  have hnodup : ((firstsBy (·.normalizedAddress String.toLower) (listed allowed)).map
      (·.candidate.subjectRefId)).Nodup := by
    rw [firsts_allowed]
    exact List.nodup_singleton _
  refine ⟨nodup_map_firstsBy_iff.mp hnodup, ?_⟩
  rw [← length_firstsBy, hlength]
  decide

end CompositeExample

open CompositeExample ReviewExample in
/-- A person without an address is listed once for each group. -/
theorem subject_listed_twice :
    ∃ resolved, resolve noAddress = .ok resolved ∧
      resolved.members.map (·.candidate.subjectRefId) =
        [candidate.subjectRefId, candidate.subjectRefId] ∧
      ¬ (resolved.members.map (·.candidate.subjectRefId)).Nodup := by
  obtain ⟨resolved, hresolved, hsubjects⟩ := map_eq_ok.mp resolve_noAddress
  exact ⟨resolved, hresolved, hsubjects, by rw [hsubjects]; simp⟩

open CompositeExample ReviewExample in
/-- A person with one address is in two groups, and is written to once whatever their order. -/
theorem composite_mailsOnce_iff_of_one_mailbox :
    ∃ resolved, resolve allowed = .ok resolved ∧
      resolved.members.map (·.candidate.subjectRefId) = [candidate.subjectRefId] ∧
      MailsOnce String.toLower (listed allowed) resolved.members ∧
      ∀ (σ : Equiv.Perm ℕ) (groups' : {groups : List (OrganizerAudienceGroup _) //
          2 ≤ groups.length ∧ groups.length ≤ 20})
        (resolved' : OrganizerResolvedAudienceSnapshot SymbolicDigest.host),
        (∀ n, groups'.val[n]? = groups.val[σ n]?) →
        resolveOrganizerAudience String.toLower { workspaceId := .ofNat 1, eventId := .ofNat 2 }
            (.yearStart 2026) (source.renumber σ) (allowed.renumber σ)
            { audience with source := .composite groups' } = .ok resolved' →
        ∀ eligible, addressesWhere String.toLower eligible resolved'.members =
          addressesWhere String.toLower eligible resolved.members := by
  obtain ⟨resolved, hresolved, hsubjects⟩ := map_eq_ok.mp resolve_allowed
  exact ⟨resolved, hresolved, hsubjects,
    (composite_mailsOnce_iff toLower_eq_empty rfl hresolved).mpr groupsApart_allowed⟩

end JooEvents
