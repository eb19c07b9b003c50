import JooEvents.Communications.Pages

/-!
# What an organizer reviews

What a review is to bind : the identity of a preview fixes its rows, the rows are the members of
the audience one by one, and the pages show them all. It does so exactly when the render ports
report the same merge fallbacks, and no masked address is too long to be shown
(`preview_identity_binds_iff`).
-/

namespace JooEvents

open Fallible Keyed

variable {D : Type} {host : Host D} {toLocaleLowerCase : String → String}

section

variable (toLocaleLowerCase : String → String)
variable (input : OrganizerPrepareMessageBatchPreviewInput host)

/-- The merge fallbacks that the render port reports, member by member. -/
def reportedFallbackKeys [DecidableEq D] :
    Except OrganizerPreviewError (List (List OrganizerStableKey)) := do
  let audienceSpecId ← orRefuse (input.opaqueTokens.issueAudienceSpecId input.scope input.draft
    input.previewGeneration) (.preview .opaqueIdentityInvalid)
  let resolved ← resolveDraftAudience toLocaleLowerCase input
  resolved.members.zipIdx.mapM fun member =>
    memberFallbackKeys input audienceSpecId member.1 member.2

/-- Every address of the audience has a masked form that can be shown. -/
def MasksFit [DecidableEq D] : Prop :=
  ∀ resolved, resolveDraftAudience toLocaleLowerCase input = .ok resolved →
    ∀ member ∈ resolved.members, ∀ address ∈ member.state.address,
      textLength (maskEmail address.classifiedValue.value.val) ≤ 320

/-- The preview shows its audience : a row for each member in order, counted, and all of them on
the pages of every filter, disclosure and sequence of limits. -/
structure ShowsAudience [DecidableEq D] (opaqueTokens : OrganizerPreviewOpaqueTokenCodec host)
    (preview : OrganizerPreparedMessageBatchPreview host) : Prop where
  rows : ∃ resolved, resolveDraftAudience toLocaleLowerCase input = .ok resolved ∧
    List.Forall₂ (fun member row => row.candidate = member.candidate ∧
      row.address = member.state.address ∧ row.evidence = member.evidence)
      resolved.members preview.rows
  distinct : (preview.rows.map (·.recipientResolutionId)).Nodup
  counts : preview.summary.counts.includedCount + preview.summary.counts.excludedCount +
    preview.summary.counts.blockedCount = preview.rows.length
  pages : ∀ filter disclosure limits, ∃ projected fuel pages,
    (preview.filtered filter).mapM (projectOrganizerPreviewRecipientRow disclosure) =
        .ok projected ∧
      followRecipientPages (recipientPage preview disclosure opaqueTokens filter) fuel limits none =
        .ok (some pages) ∧
      pages.flatMap (·.rows) = projected

end

variable {input input₁ input₂ : OrganizerPrepareMessageBatchPreviewInput host}
variable {preview preview₁ preview₂ : OrganizerPreparedMessageBatchPreview host}

theorem row_state_cases (row : OrganizerPreparedPreviewRow host) :
    (row.isIncluded = true ∧ row.isExcluded = false ∧ row.isBlocked = false) ∨
      (row.isIncluded = false ∧ row.isExcluded = true ∧ row.isBlocked = false) ∨
      (row.isIncluded = false ∧ row.isExcluded = false ∧ row.isBlocked = true) := by
  simp only [OrganizerPreparedPreviewRow.isIncluded, OrganizerPreparedPreviewRow.isExcluded,
    OrganizerPreparedPreviewRow.isBlocked]
  cases row.state with
  | included releaseId releaseDigest render => exact .inl ⟨rfl, rfl, rfl⟩
  | excluded reasonCode => exact .inr (.inl ⟨rfl, rfl, rfl⟩)
  | blocked reasonCode => exact .inr (.inr ⟨rfl, rfl, rfl⟩)

theorem previewCounts_sum (rows : List (OrganizerPreparedPreviewRow host)) :
    (previewCounts rows).includedCount + (previewCounts rows).excludedCount +
      (previewCounts rows).blockedCount = rows.length := by
  induction rows with
  | nil => rfl
  | cons row rows ih =>
    simp only [previewCounts] at ih ⊢
    rcases row_state_cases row with ⟨h, h', h''⟩ | ⟨h, h', h''⟩ | ⟨h, h', h''⟩ <;>
    · simp only [List.filter_cons, h, h', h'', if_true, Bool.false_eq_true, if_false,
        List.length_cons]
      omega

theorem reportedFallbackKeys_of_prepare [DecidableEq D]
    (h : prepareOrganizerMessageBatchPreview toLocaleLowerCase input = .ok preview) :
    reportedFallbackKeys toLocaleLowerCase input =
      .ok (preview.rows.map (·.mergeFallbackFieldKeys)) := by
  obtain ⟨audienceSpecId, resolved, hprepared⟩ := prepared_of_prepare h
  rw [reportedFallbackKeys, orRefuse_eq_ok.mpr hprepared.audienceSpec, ok_bind,
    hprepared.resolution, ok_bind]
  exact mapM_eq_ok_of_forall₂ (List.forall₂_map_right_iff.mpr
    (hprepared.rows.imp fun _ _ hrow => hrow.fallbackKeys))

theorem fits_of_masksFit [DecidableEq D]
    (h : prepareOrganizerMessageBatchPreview toLocaleLowerCase input = .ok preview) :
    MasksFit toLocaleLowerCase input ↔ ∀ row ∈ preview.rows, row.MaskFits := by
  obtain ⟨audienceSpecId, resolved, hprepared⟩ := prepared_of_prepare h
  have hmembers := hprepared.members
  constructor
  · intro hfits row hrow address haddress
    obtain ⟨member, hmember, -, hsame, -⟩ := exists_left_of_forall₂ hmembers hrow
    exact hfits resolved hprepared.resolution member hmember address (hsame ▸ haddress)
  · intro hfits found hfound member hmember address haddress
    obtain rfl := Except.ok.inj (hprepared.resolution.symm.trans hfound)
    obtain ⟨row, hrow, -, hsame, -⟩ := exists_left_of_forall₂ hmembers.flip hmember
    exact hfits row hrow address (hsame ▸ haddress)

theorem showsAudience_iff [DecidableEq D] {opaqueTokens : OrganizerPreviewOpaqueTokenCodec host}
    (hcodec : opaqueTokens.ReadsBack)
    (h : prepareOrganizerMessageBatchPreview toLocaleLowerCase input = .ok preview) :
    ShowsAudience toLocaleLowerCase input opaqueTokens preview ↔
      MasksFit toLocaleLowerCase input := by
  obtain ⟨audienceSpecId, resolved, hprepared⟩ := prepared_of_prepare h
  rw [fits_of_masksFit h]
  constructor
  · intro hshows row hrow
    obtain ⟨projected, -, -, hprojected, -⟩ :=
      hshows.pages { state := none, reasonCode := none } .masked fun _ => none
    have hfiltered : row ∈ preview.filtered { state := none, reasonCode := none } :=
      List.mem_filter.mpr ⟨hrow, decide_eq_true ⟨nofun, nofun⟩⟩
    obtain ⟨shown, -, hshown⟩ :=
      exists_left_of_forall₂ (forall₂_of_mapM_eq_ok hprojected).flip hfiltered
    exact fits_of_project hshown
  · intro hfits
    refine ⟨⟨resolved, hprepared.resolution, hprepared.members⟩, hprepared.distinct, ?_, ?_⟩
    · rw [hprepared.summary]
      exact previewCounts_sum preview.rows
    · intro filter disclosure limits
      have hshown : ∀ row ∈ preview.filtered filter, ∃ shown,
          projectOrganizerPreviewRecipientRow disclosure row = .ok shown := by
        intro row hrow
        have hmem := (List.mem_filter.mp hrow).1
        obtain ⟨_, -, hmember⟩ := exists_left_of_forall₂ hprepared.rows hmem
        exact project_of_fits hmember.canonicalKeys (hfits row hmem) disclosure
      obtain ⟨projected, hprojected⟩ := (exists_mapM_eq_ok_iff fun row => Iff.rfl).mpr hshown
      have hbounded : preview.rows.length ≤ maxSafeInteger := hprepared.bounded.trans (by decide)
      have hstart : pageOffset opaqueTokens (bindingDigest preview disclosure filter) none =
          .ok 0 := rfl
      have hfuel : projected.length < 0 + (projected.length + 1) := by omega
      obtain ⟨pages, hpages, hrows⟩ := follow_eq_ok hcodec hprepared.distinct hbounded hprojected
        hstart (Nat.zero_le _) hfuel
      exact ⟨projected, _, pages, hprojected, hpages, hrows⟩

theorem OrganizerMessagePreviewIdentity.eq_of_same {a b : OrganizerMessagePreviewIdentity D}
    (h : host.Same a b) : a = b := by
  have h := Iff.mp Host.canonicalize_record_iff h
  simp only [List.map_cons, List.map_nil, List.cons.injEq, canonicalize_toJson_eq_iff,
    Host.same_iff_eq, Json.canonicalize_digest, Json.digest.injEq, and_true] at h
  obtain ⟨hspec, hdraft, hversion, hgeneration, hprofile, hprofileVersion, hdigest⟩ := h
  exact OrganizerMessagePreviewIdentity.ext hspec hdraft hversion hgeneration hprofile
    hprofileVersion hdigest

theorem identity_of_isCurrent [DecidableEq D]
    (h : prepareOrganizerMessageBatchPreview toLocaleLowerCase input₂ = .ok preview₂)
    (hcurrent : isOrganizerMessageBatchPreviewCurrent toLocaleLowerCase input₂ preview₁ = true) :
    preview₁.summary.identity = preview₂.summary.identity := by
  rw [isOrganizerMessageBatchPreviewCurrent, h] at hcurrent
  exact (OrganizerMessagePreviewIdentity.eq_of_same (of_decide_eq_true hcurrent).1).symm

/-- Two previews have the same rows, and show the same of them. -/
def SameRows (preview₁ preview₂ : OrganizerPreparedMessageBatchPreview host) : Prop :=
  preview₁.rows = preview₂.rows ∧ ∀ disclosure,
    preview₁.rows.map (projectOrganizerPreviewRecipientRow disclosure) =
      preview₂.rows.map (projectOrganizerPreviewRecipientRow disclosure)

/-- Of two previews of one identity, where the references of addresses determine their values
and output digests the renders : they have the same rows and show their audience exactly when the
ports report the same merge fallbacks and the masked addresses can be shown. -/
theorem preview_identity_binds_iff [DecidableEq D] (hcf : host.CollisionFree)
    (hmac : KeyedHash D) (profile : OrganizerPreviewDigestProfile)
    (h₁ : prepareOrganizerMessageBatchPreview toLocaleLowerCase input₁ = .ok preview₁)
    (h₂ : prepareOrganizerMessageBatchPreview toLocaleLowerCase input₂ = .ok preview₂)
    (haddress : ∀ a ∈ preview₁.rows, ∀ b ∈ preview₂.rows, ∀ x ∈ a.address, ∀ y ∈ b.address,
      x.classifiedValue.Agree y.classifiedValue)
    (hrender : ∀ a ∈ preview₁.rows, ∀ b ∈ preview₂.rows, ∀ x ∈ a.state.render,
      ∀ y ∈ b.state.render, x.outputDigestSha256 = y.outputDigestSha256 → x = y)
    (hidentity : preview₁.summary.identity = preview₂.summary.identity ∨
      isOrganizerMessageBatchPreviewCurrent toLocaleLowerCase input₂ preview₁ = true) :
    (SameRows preview₁ preview₂ ∧ ShowsAudience toLocaleLowerCase input₁
        (createHmacOrganizerPreviewOpaqueTokenCodec hmac profile host) preview₁) ↔
      reportedFallbackKeys toLocaleLowerCase input₁ =
          reportedFallbackKeys toLocaleLowerCase input₂ ∧
        MasksFit toLocaleLowerCase input₁ := by
  have hsame : preview₁.summary.identity = preview₂.summary.identity :=
    hidentity.elim id (identity_of_isCurrent h₂)
  obtain ⟨audienceSpecId₁, resolved₁, hprepared₁⟩ := prepared_of_prepare h₁
  obtain ⟨audienceSpecId₂, resolved₂, hprepared₂⟩ := prepared_of_prepare h₂
  have hrows := rows_of_identity hcf hprepared₁ hprepared₂ haddress hrender hsame
  rw [showsAudience_iff (readsBack_createHmac hmac profile) h₁, reportedFallbackKeys_of_prepare h₁,
    reportedFallbackKeys_of_prepare h₂, Except.ok.injEq, ← rows_eq_iff hrows]
  exact and_congr_left fun _ => ⟨fun h => h.1, fun h => ⟨h, fun disclosure => by rw [h]⟩⟩

/-! ## One recipient -/

namespace ReviewExample

def evidence : OrganizerAudienceEvidenceRef SymbolicDigest :=
  { evidenceRefId := ⟨"e", by decide⟩, evidenceVersion := .one
    evidenceDigestSha256 := .null }

def reference : OrganizerDefinitionRef SymbolicDigest :=
  { reference := { key := ⟨"mail.renderer", by decide⟩, version := .one }
    definitionDigestSha256 := .null }

def candidate : OrganizerAudienceCandidate SymbolicDigest.host :=
  { subjectRefId := ⟨"subject-1", by decide⟩, subjectVersion := .one
    personRefId := ⟨"person-1", by decide⟩, contactRefId := ⟨"contact-1", by decide⟩
    safeLabel := ⟨"Ada", by decide⟩, membershipEvidence := evidence }

def address : OrganizerClassifiedEmailAddress SymbolicDigest :=
  { addressRefId := ⟨"address-1", by decide⟩, addressVersion := .one
    contactRefId := candidate.contactRefId, lifecycle := .active, lifecycleEvidence := evidence
    lookupFingerprint := { profile := ⟨"lookup", by decide⟩, version := .one, keyedValue := .null }
    classifiedValue :=
      { payloadRefId := ⟨"payload-1", by decide⟩, payloadRefVersion := .one
        value := ⟨"ada@example.test", by decide⟩ } }

def purposeRevision : OrganizerCommunicationPurposeRevisionRef SymbolicDigest :=
  { purposeId := ⟨"purpose-1", by decide⟩, purposeKey := ⟨"purpose", by decide⟩
    revisionId := ⟨"revision-1", by decide⟩, revisionNumber := .one, digestSha256 := .null }

def hmac : KeyedHash SymbolicDigest := fun _ => ⟨String.ofList (List.replicate 64 'a'), by decide⟩

def profile : OrganizerPreviewDigestProfile := { key := ⟨"preview", by decide⟩, version := .one }

def opaqueTokens : OrganizerPreviewOpaqueTokenCodec SymbolicDigest.host where
  issueAudienceSpecId _ _ _ := some ⟨"a", by decide⟩
  issueRecipientResolutionId _ _ _ _ _ _ := some ⟨"rr1_0123456789abcdef", by decide⟩
  issueReleaseId _ _ _ := some ⟨"r", by decide⟩
  issueCursor _ _ := none
  readCursor _ _ := none

/-- A preparation for the candidate, whose mail cannot be rendered without the fields. -/
def preparation (asOf : Instant) (fallbackKeys : List OrganizerStableKey) :
    OrganizerPrepareMessageBatchPreviewInput SymbolicDigest.host :=
  { scope := { workspaceId := .ofNat 1, eventId := .ofNat 2 }
    draft :=
      { draftId := ⟨"draft-1", by decide⟩, version := .one, purposeRevision
        templateRevision := none
        audience := { purposeRevision, source := .atomic (.explicitContacts
          ⟨[candidate.contactRefId], by decide, List.pairwise_singleton _ _⟩) } }
    previewGeneration := .one, digestProfile := profile, renderer := reference
    mergeRegistry := reference, asOf
    source := ⟨fun _ _ audience => .ok
      { source := audience.source, candidates := [candidate], sourceVersions := [] }⟩
    addressPolicy := ⟨fun _ _ _ _ _ => .ok (.evaluated
      { selectionPolicy := reference, address
        purposeBasis := { state := .allowed, evidence }
        consent := { state := .notRequired, evidence }
        suppression := { state := .clear, evidence }
        doNotContact := { state := .clear, evidence } })⟩
    opaqueTokens
    render := ⟨fun _ => .ok
      { outcome := .blocked ⟨"merge.required", by decide⟩, mergeFallbackFieldKeys := fallbackKeys }⟩ }

def key : OrganizerStableKey := ⟨"person.name", by decide⟩

/-- The addresses and the renders of what is prepared. -/
def shown (asOf : Instant) (fallbackKeys : List OrganizerStableKey) :
    Except OrganizerPreviewError (List (Option (OrganizerClassifiedEmailAddress SymbolicDigest)) ×
      List (Option (OrganizerServerRenderedEmail SymbolicDigest))) :=
  (prepareOrganizerMessageBatchPreview id (preparation asOf fallbackKeys)).map fun preview =>
    (preview.rows.map (·.address), preview.rows.map (·.state.render))

theorem prepares {asOf : Instant} {fallbackKeys : List OrganizerStableKey}
    (h : shown asOf fallbackKeys = .ok ([some address], [none])) :
    ∃ preview, prepareOrganizerMessageBatchPreview id (preparation asOf fallbackKeys) = .ok preview ∧
      preview.rows.length = 1 ∧ (∀ row ∈ preview.rows, row.address = some address) ∧
      ∀ row ∈ preview.rows, row.state.render = none := by
  obtain ⟨preview, hpreview, hshown⟩ := map_eq_ok.mp h
  obtain ⟨haddresses, hrenders⟩ := Prod.mk.inj hshown
  refine ⟨preview, hpreview, ?_, fun row hrow => ?_, fun row hrow => ?_⟩
  · have hlength := congrArg List.length haddresses
    rwa [List.length_map] at hlength
  · exact List.mem_singleton.mp (haddresses ▸ List.mem_map_of_mem hrow)
  · exact List.mem_singleton.mp (hrenders ▸ List.mem_map_of_mem hrow)

theorem shown_empty (asOf : Instant) : shown asOf [] = .ok ([some address], [none]) := rfl

theorem shown_key (asOf : Instant) : shown asOf [key] = .ok ([some address], [none]) := rfl

theorem same_identity (asOf asOf' : Instant) :
    (prepareOrganizerMessageBatchPreview id (preparation asOf [])).map (·.summary.identity) =
      (prepareOrganizerMessageBatchPreview id (preparation asOf' [key])).map (·.summary.identity) :=
  rfl

theorem fallbackKeys_empty (asOf : Instant) :
    reportedFallbackKeys id (preparation asOf []) = .ok [[]] := rfl

theorem fallbackKeys_key (asOf : Instant) :
    reportedFallbackKeys id (preparation asOf [key]) = .ok [[key]] := rfl

theorem agree {preview₁ preview₂ : OrganizerPreparedMessageBatchPreview SymbolicDigest.host}
    (h₁ : ∀ row ∈ preview₁.rows, row.address = some address)
    (h₂ : ∀ row ∈ preview₂.rows, row.address = some address) :
    ∀ a ∈ preview₁.rows, ∀ b ∈ preview₂.rows, ∀ x ∈ a.address, ∀ y ∈ b.address,
      x.classifiedValue.Agree y.classifiedValue := by
  intro a ha b hb x hx y hy _ _
  rw [h₁ a ha] at hx
  rw [h₂ b hb] at hy
  rw [← Option.some.inj hx, ← Option.some.inj hy]

theorem renders_agree
    {preview₁ preview₂ : OrganizerPreparedMessageBatchPreview SymbolicDigest.host}
    (h₁ : ∀ row ∈ preview₁.rows, row.state.render = none) :
    ∀ a ∈ preview₁.rows, ∀ b ∈ preview₂.rows, ∀ x ∈ a.state.render, ∀ y ∈ b.state.render,
      x.outputDigestSha256 = y.outputDigestSha256 → x = y := by
  intro a ha b hb x hx
  rw [h₁ a ha] at hx
  cases hx

end ReviewExample

open ReviewExample in
/-- The merge fallbacks of a row change without a change of the identity. -/
theorem fallbacks_change_unnoticed :
    ∃ preview₁ preview₂,
      prepareOrganizerMessageBatchPreview id (preparation (.yearStart 2026) []) = .ok preview₁ ∧
      prepareOrganizerMessageBatchPreview id (preparation (.yearStart 2026) [key]) = .ok preview₂ ∧
      (∀ a ∈ preview₁.rows, ∀ b ∈ preview₂.rows, ∀ x ∈ a.address, ∀ y ∈ b.address,
        x.classifiedValue.Agree y.classifiedValue) ∧
      (∀ a ∈ preview₁.rows, ∀ b ∈ preview₂.rows, ∀ x ∈ a.state.render, ∀ y ∈ b.state.render,
        x.outputDigestSha256 = y.outputDigestSha256 → x = y) ∧
      preview₁.summary.identity = preview₂.summary.identity ∧
      preview₁.rows.map (·.mergeFallbackFieldKeys) ≠
        preview₂.rows.map (·.mergeFallbackFieldKeys) ∧
      ¬ SameRows preview₁ preview₂ := by
  obtain ⟨preview₁, h₁, -, haddress₁, hrender₁⟩ := prepares (shown_empty (.yearStart 2026))
  obtain ⟨preview₂, h₂, -, haddress₂, -⟩ := prepares (shown_key (.yearStart 2026))
  have hidentity := same_identity (.yearStart 2026) (.yearStart 2026)
  rw [h₁, h₂] at hidentity
  have hkeys₁ := Except.ok.inj
    ((reportedFallbackKeys_of_prepare h₁).symm.trans (fallbackKeys_empty (.yearStart 2026)))
  have hkeys₂ := Except.ok.inj
    ((reportedFallbackKeys_of_prepare h₂).symm.trans (fallbackKeys_key (.yearStart 2026)))
  have hkeys : preview₁.rows.map (·.mergeFallbackFieldKeys) ≠
      preview₂.rows.map (·.mergeFallbackFieldKeys) := by
    rw [hkeys₁, hkeys₂]
    decide
  exact ⟨preview₁, preview₂, h₁, h₂, agree haddress₁ haddress₂, renders_agree hrender₁,
    Except.ok.inj hidentity, hkeys, fun h => hkeys (by rw [h.1])⟩

open ReviewExample in
/-- Two previews a year apart, with the same merge fallback, are of one identity. They have the same
row and show it. -/
theorem preview_identity_binds_a_year_later :
    ∃ preview₁ preview₂,
      prepareOrganizerMessageBatchPreview id (preparation (.yearStart 2026) [key]) = .ok preview₁ ∧
      prepareOrganizerMessageBatchPreview id (preparation (.yearStart 2027) [key]) = .ok preview₂ ∧
      preview₁.summary.identity = preview₂.summary.identity ∧ preview₁.rows.length = 1 ∧
      SameRows preview₁ preview₂ ∧
      ShowsAudience id (preparation (.yearStart 2026) [key])
        (createHmacOrganizerPreviewOpaqueTokenCodec hmac profile SymbolicDigest.host) preview₁ := by
  obtain ⟨preview₁, h₁, hlength, haddress₁, hrender₁⟩ := prepares (shown_key (.yearStart 2026))
  obtain ⟨preview₂, h₂, -, haddress₂, -⟩ := prepares (shown_key (.yearStart 2027))
  have hidentity := (same_identity (.yearStart 2026) (.yearStart 2026)).symm.trans
    (same_identity (.yearStart 2026) (.yearStart 2027))
  rw [h₁, h₂] at hidentity
  have hsame := Except.ok.inj hidentity
  have hreported := (fallbackKeys_key (.yearStart 2026)).trans (fallbackKeys_key (.yearStart 2027)).symm
  have hfits : MasksFit id (preparation (.yearStart 2026) [key]) := by
    refine (fits_of_masksFit h₁).mpr fun row hrow found hfound => ?_
    obtain rfl := Option.some.inj ((haddress₁ row hrow).symm.trans hfound)
    decide
  have hbinds := (preview_identity_binds_iff SymbolicDigest.host_collisionFree hmac profile h₁ h₂
    (agree haddress₁ haddress₂) (renders_agree hrender₁) (.inl hsame)).mpr ⟨hreported, hfits⟩
  exact ⟨preview₁, preview₂, h₁, h₂, hsame, hlength, hbinds.1, hbinds.2⟩

end JooEvents
