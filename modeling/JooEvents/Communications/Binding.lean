import JooEvents.Communications.Preview
import JooEvents.Lib.Keyed

/-!
# What a preview identity binds

The rows of a preview follow the members of its audience (`preparedRows_of_prepare`). Two
previews of one identity have members of one redaction and rows of one release
(`evidence_of_identity`), so that their rows are the same up to the merge fallbacks
(`rows_eq_iff`) : those are in no digest.
-/

namespace JooEvents

open Fallible Keyed

variable {D : Type} {host : Host D} {toLocaleLowerCase : String → String}

/-! ## Rows of members -/

section

variable (input : OrganizerPrepareMessageBatchPreviewInput host) (audienceSpecId : OpaqueId)

/-- The merge fallbacks that the render port reports for a member. -/
def memberFallbackKeys (member : OrganizerResolvedAudienceMember host) (ordinal : ℕ) :
    Except OrganizerPreviewError (List OrganizerStableKey) :=
  match member.state with
  | .excluded _ _ _ => .ok []
  | .eligible address _ => do
    let recipientResolutionId ← memberResolutionId input audienceSpecId member ordinal
    let releaseId ← memberReleaseId input recipientResolutionId address
    let raw ← askRender input member recipientResolutionId releaseId
    pure (raw.mergeFallbackFieldKeys.sortByKey id)

/-- The row is the one of the member at the ordinal. -/
structure PreparedRow (member : OrganizerResolvedAudienceMember host × ℕ)
    (row : OrganizerPreparedPreviewRow host) : Prop where
  candidate : row.candidate = member.1.candidate
  address : row.address = member.1.state.address
  evidence : row.evidence = member.1.evidence
  fallbackKeys : memberFallbackKeys input audienceSpecId member.1 member.2 =
    .ok row.mergeFallbackFieldKeys
  canonicalKeys : row.mergeFallbackFieldKeys.length ≤ 100 ∧
    row.mergeFallbackFieldKeys.Pairwise (· < ·)

variable {input} {audienceSpecId}

theorem canonicalFallbackKeys_eq_ok {values result : List OrganizerStableKey}
    (h : canonicalFallbackKeys values = .ok result) :
    values.sortByKey id = result ∧ result.length ≤ 100 ∧ result.Pairwise (· < ·) := by
  simp only [canonicalFallbackKeys, bind_eq_ok, require_eq_ok, pure_eq_ok, exists_const] at h
  obtain ⟨hlength, hnodup, rfl⟩ := h
  have hperm := List.perm_sortByKey id values
  refine ⟨rfl, hperm.length_eq ▸ hlength, List.pairwise_lt_sortByKey ?_⟩
  simpa using hperm.nodup_iff.mp hnodup

theorem fallbackKeys_of_validate [DecidableEq D] {raw rendered : OrganizerPreviewRenderResult D}
    {recipientResolutionId : RecipientResolutionId} {releaseId : OpaqueId}
    (h : validateRenderedResult input raw recipientResolutionId releaseId = .ok rendered) :
    canonicalFallbackKeys raw.mergeFallbackFieldKeys = .ok rendered.mergeFallbackFieldKeys := by
  rw [validateRenderedResult, bind_eq_ok] at h
  obtain ⟨keys, hkeys, h⟩ := h
  split at h
  · rw [hkeys, ← pure_eq_ok.mp h]
  · simp only [bind_eq_ok, require_eq_ok, pure_eq_ok, exists_const] at h
    rw [hkeys, ← h.2]

theorem preparedRow_of_previewRow [DecidableEq D]
    {member : OrganizerResolvedAudienceMember host} {ordinal : ℕ}
    {recipientResolutionId : RecipientResolutionId} {seen seen' : List OpaqueId}
    {row : OrganizerPreparedPreviewRow host}
    (hid : memberResolutionId input audienceSpecId member ordinal = .ok recipientResolutionId)
    (h : previewRow input seen recipientResolutionId member = .ok (row, seen')) :
    PreparedRow input audienceSpecId (member, ordinal) row ∧
      row.recipientResolutionId = recipientResolutionId := by
  obtain ⟨candidate, evidence, policyEvidence, state⟩ := member
  cases state with
  | excluded reasonCode address policy =>
    obtain ⟨rfl, -⟩ := Prod.mk.inj (Except.ok.inj h)
    exact ⟨⟨rfl, rfl, rfl, rfl, Nat.zero_le _, .nil⟩, rfl⟩
  | eligible address policy =>
    simp only [previewRow, bind_eq_ok, require_eq_ok, pure_eq_ok, exists_const,
      Prod.mk.injEq] at h
    obtain ⟨releaseId, hrelease, -, raw, hraw, rendered, hrendered, rfl, -⟩ := h
    obtain ⟨hkeys, hcanonical⟩ := canonicalFallbackKeys_eq_ok (fallbackKeys_of_validate hrendered)
    refine ⟨⟨rfl, rfl, rfl, ?_, hcanonical⟩, rfl⟩
    dsimp only [memberFallbackKeys]
    rw [hid, ok_bind, hrelease, ok_bind, hraw, ok_bind, hkeys]
    rfl

theorem preparedRows_of_previewRows [DecidableEq D]
    {members : List (OrganizerResolvedAudienceMember host)}
    {ordinal : ℕ} {seenResolutionIds : List RecipientResolutionId} {seenReleaseIds : List OpaqueId}
    {rows : List (OrganizerPreparedPreviewRow host)}
    (h : previewRows input audienceSpecId ordinal seenResolutionIds seenReleaseIds members =
      .ok rows) :
    List.Forall₂ (PreparedRow input audienceSpecId) (members.zipIdx ordinal) rows ∧
      (rows.map (·.recipientResolutionId)).Nodup ∧
      ∀ row ∈ rows, row.recipientResolutionId ∉ seenResolutionIds := by
  induction members generalizing ordinal seenResolutionIds seenReleaseIds rows with
  | nil =>
    cases h
    exact ⟨.nil, List.nodup_nil, nofun⟩
  | cons member members ih =>
    simp only [previewRows, bind_eq_ok, require_eq_ok, pure_eq_ok, exists_const] at h
    obtain ⟨recipientResolutionId, hid, hnew, ⟨row, seen⟩, hrow, rows, hrows, rfl⟩ := h
    obtain ⟨hprepared, hrowId⟩ := preparedRow_of_previewRow hid hrow
    obtain ⟨hrest, hnodup, hseen⟩ := ih hrows
    refine ⟨.cons hprepared hrest, ?_, ?_⟩
    · refine List.nodup_cons.mpr ⟨fun hmem => ?_, hnodup⟩
      obtain ⟨other, hother, heq⟩ := List.mem_map.mp hmem
      exact hseen other hother (by simp [heq, hrowId])
    · refine List.forall_mem_cons.mpr ⟨hrowId ▸ hnew, fun other hother hmem => ?_⟩
      exact hseen other hother (List.mem_cons_of_mem _ hmem)

end

/-- What a successful preparation computed on its way. -/
structure Prepared [DecidableEq D] (toLocaleLowerCase : String → String)
    (input : OrganizerPrepareMessageBatchPreviewInput host)
    (preview : OrganizerPreparedMessageBatchPreview host) (audienceSpecId : OpaqueId)
    (resolved : OrganizerResolvedAudienceSnapshot host) : Prop where
  audienceSpec : input.opaqueTokens.issueAudienceSpecId input.scope input.draft
    input.previewGeneration = some audienceSpecId
  resolution : resolveDraftAudience toLocaleLowerCase input = .ok resolved
  rows : List.Forall₂ (PreparedRow input audienceSpecId) resolved.members.zipIdx preview.rows
  distinct : (preview.rows.map (·.recipientResolutionId)).Nodup
  summary : preview.summary = previewSummary input audienceSpecId resolved preview.rows
  bounded : preview.rows.length ≤ 10000

variable {input : OrganizerPrepareMessageBatchPreviewInput host}
variable {preview : OrganizerPreparedMessageBatchPreview host}

theorem prepared_of_prepare [DecidableEq D]
    (h : prepareOrganizerMessageBatchPreview toLocaleLowerCase input = .ok preview) :
    ∃ audienceSpecId resolved, Prepared toLocaleLowerCase input preview audienceSpecId resolved := by
  simp only [prepareOrganizerMessageBatchPreview, bind_eq_ok, require_eq_ok, orRefuse_eq_ok,
    pure_eq_ok, exists_const] at h
  obtain ⟨-, audienceSpecId, hspec, resolved, hresolved, rows, hrows, summary, hsummary, rfl⟩ := h
  obtain ⟨hprepared, hdistinct, -⟩ := preparedRows_of_previewRows hrows
  simp only [OrganizerMessagePreviewSummary.parse, bind_eq_ok, require_eq_ok, pure_eq_ok,
    exists_const] at hsummary
  obtain ⟨⟨hcount, -⟩, -, -, -, rfl⟩ := hsummary
  exact ⟨audienceSpecId, resolved, hspec, hresolved, hprepared, hdistinct, rfl, hcount⟩

/-! ## Two previews -/

theorem releaseJson_eq {a b : OrganizerPreparedPreviewRow host}
    (h : (releaseJson a).canonicalize host.nfc = (releaseJson b).canonicalize host.nfc)
    (hrender : ∀ x ∈ a.state.render, ∀ y ∈ b.state.render,
      x.outputDigestSha256 = y.outputDigestSha256 → x = y) :
    a.recipientResolutionId = b.recipientResolutionId ∧ a.state = b.state := by
  obtain ⟨id, _, _, _, _, state⟩ := a
  obtain ⟨id', _, _, _, _, state'⟩ := b
  have hascii : host.nfc "excluded" ≠ host.nfc "blocked" := by
    rw [host.nfc_ascii _ (by decide), host.nfc_ascii _ (by decide)]
    decide
  cases state with
  | included releaseId releaseDigest render =>
    cases state' with
    | included releaseId' releaseDigest' render' =>
      have h := Iff.mp Host.canonicalize_record_iff h
      simp only [List.map_cons, List.map_nil, List.cons.injEq, canonicalize_toJson_eq_iff,
        Host.same_iff_eq, Json.canonicalize_digest, Json.digest.injEq, and_true] at h
      obtain ⟨hid, hrelease, hdigest, houtput, -⟩ := h
      have hsame : render = render' := hrender render rfl render' rfl houtput
      exact ⟨hid, by rw [hrelease, hdigest, hsame]⟩
    | excluded reasonCode => cases Host.lookup_canonicalize h "state"
    | blocked reasonCode => cases Host.lookup_canonicalize h "state"
  | excluded reasonCode =>
    cases state' with
    | included releaseId releaseDigest render => cases Host.lookup_canonicalize h "state"
    | excluded reasonCode' =>
      have h := Iff.mp Host.canonicalize_record_iff h
      simp only [List.map_cons, List.map_nil, List.cons.injEq, canonicalize_toJson_eq_iff,
        Host.same_iff_eq, and_true, true_and] at h
      exact ⟨h.1, by rw [h.2]⟩
    | blocked reasonCode' =>
      have hstate := Option.some.inj (Host.lookup_canonicalize h "state")
      simp only [Json.canonicalize_text, Json.text.injEq] at hstate
      exact absurd hstate hascii
  | blocked reasonCode =>
    cases state' with
    | included releaseId releaseDigest render => cases Host.lookup_canonicalize h "state"
    | excluded reasonCode' =>
      have hstate := Option.some.inj (Host.lookup_canonicalize h "state")
      simp only [Json.canonicalize_text, Json.text.injEq] at hstate
      exact absurd hstate.symm hascii
    | blocked reasonCode' =>
      have h := Iff.mp Host.canonicalize_record_iff h
      simp only [List.map_cons, List.map_nil, List.cons.injEq, canonicalize_toJson_eq_iff,
        Host.same_iff_eq, and_true, true_and] at h
      exact ⟨h.1, by rw [h.2]⟩

theorem forall₂_of_canonicalize_arr {α β : Type} {f : α → Json D} {g : β → Json D}
    {as : List α} {bs : List β}
    (h : (Json.arr (as.map f)).canonicalize host.nfc = (Json.arr (bs.map g)).canonicalize host.nfc) :
    List.Forall₂ (fun a b => (f a).canonicalize host.nfc = (g b).canonicalize host.nfc) as bs := by
  simp only [Json.canonicalize_arr, Json.arr.injEq, List.map_map] at h
  rw [← List.forall₂_eq_eq_eq, List.forall₂_map_left_iff, List.forall₂_map_right_iff] at h
  exact h

section

variable {input₁ input₂ : OrganizerPrepareMessageBatchPreviewInput host}
variable {preview₁ preview₂ : OrganizerPreparedMessageBatchPreview host}
variable {audienceSpecId₁ audienceSpecId₂ : OpaqueId}
variable {resolved₁ resolved₂ : OrganizerResolvedAudienceSnapshot host}

theorem evidence_of_identity [DecidableEq D] (hcf : host.CollisionFree)
    (h₁ : Prepared toLocaleLowerCase input₁ preview₁ audienceSpecId₁ resolved₁)
    (h₂ : Prepared toLocaleLowerCase input₂ preview₂ audienceSpecId₂ resolved₂)
    (h : preview₁.summary.identity = preview₂.summary.identity) :
    evidenceDigest resolved₁ preview₁.rows = evidenceDigest resolved₂ preview₂.rows := by
  have hdigest : previewDigest input₁ audienceSpecId₁ resolved₁ preview₁.rows =
      previewDigest input₂ audienceSpecId₂ resolved₂ preview₂.rows := by
    have hidentity := congrArg (·.previewDigestSha256) h
    rw [h₁.summary, h₂.summary] at hidentity
    exact hidentity
  have hevidence := Option.some.inj
    (Host.lookup_canonicalize (hcf hdigest) "evidenceDigestSha256")
  simpa using hevidence

theorem Prepared.members [DecidableEq D]
    (h : Prepared toLocaleLowerCase input preview audienceSpecId₁ resolved₁) :
    List.Forall₂ (fun member row => row.candidate = member.candidate ∧
      row.address = member.state.address ∧ row.evidence = member.evidence)
      resolved₁.members preview.rows := by
  rw [← List.zipIdx_map_fst 0 resolved₁.members, List.forall₂_map_left_iff]
  exact h.rows.imp fun member row hrow => ⟨hrow.candidate, hrow.address, hrow.evidence⟩

theorem rows_of_identity [DecidableEq D] (hcf : host.CollisionFree)
    (h₁ : Prepared toLocaleLowerCase input₁ preview₁ audienceSpecId₁ resolved₁)
    (h₂ : Prepared toLocaleLowerCase input₂ preview₂ audienceSpecId₂ resolved₂)
    (haddress : ∀ a ∈ preview₁.rows, ∀ b ∈ preview₂.rows, ∀ x ∈ a.address, ∀ y ∈ b.address,
      x.classifiedValue.Agree y.classifiedValue)
    (hrender : ∀ a ∈ preview₁.rows, ∀ b ∈ preview₂.rows, ∀ x ∈ a.state.render,
      ∀ y ∈ b.state.render, x.outputDigestSha256 = y.outputDigestSha256 → x = y)
    (h : preview₁.summary.identity = preview₂.summary.identity) :
    List.Forall₂ (fun a b => b = { a with mergeFallbackFieldKeys := b.mergeFallbackFieldKeys })
      preview₁.rows preview₂.rows := by
  have hevidence := fun k => Host.lookup_canonicalize (hcf (evidence_of_identity hcf h₁ h₂ h)) k
  have hmembers := forall₂_of_canonicalize_arr (Option.some.inj (hevidence "members"))
  have hreleases := forall₂_of_canonicalize_arr (Option.some.inj (hevidence "releases"))
  have hcandidates := forall₂_comp (forall₂_comp h₁.members.flip hmembers) h₂.members
  refine List.Forall₂.mp ?_ (forall₂_mem hcandidates) hreleases
  rintro a b ⟨ha, hb, m₂, ⟨m₁, ⟨hc₁, ha₁, he₁⟩, hredacted⟩, hc₂, ha₂, he₂⟩ hrelease
  obtain ⟨hid, hstate⟩ := releaseJson_eq hrelease (hrender a ha b hb)
  obtain ⟨hcandidate, haddress', hevidence'⟩ :=
    redactedMember_eq hredacted (ha₁ ▸ ha₂ ▸ haddress a ha b hb)
  refine OrganizerPreparedPreviewRow.ext hid.symm ?_ ?_ ?_ rfl hstate.symm
  · rw [hc₁, hc₂, hcandidate]
  · rw [ha₁, ha₂, haddress']
  · rw [he₁, he₂, hevidence']

theorem rows_eq_iff (h : List.Forall₂ (fun a b =>
      b = { a with mergeFallbackFieldKeys := b.mergeFallbackFieldKeys })
      preview₁.rows preview₂.rows) :
    preview₁.rows = preview₂.rows ↔
      preview₁.rows.map (·.mergeFallbackFieldKeys) =
        preview₂.rows.map (·.mergeFallbackFieldKeys) := by
  refine ⟨fun heq => heq ▸ rfl, fun heq => ?_⟩
  rw [← List.forall₂_eq_eq_eq, List.forall₂_map_left_iff, List.forall₂_map_right_iff] at heq
  rw [← List.forall₂_eq_eq_eq]
  refine List.Forall₂.mp (fun a b hab hkeys => ?_) h heq
  rw [hab, ← hkeys]

end

end JooEvents
