import JooEvents.Communications.Document

/-!
# Reviewed content

A rendered email carries what was reviewed and nothing else (`EmailSound`) : its markup reads as
the document of the template, every link goes to an origin that its field allows, and every
field that the template asks for has the value that was resolved, else the fallback it is bound
to, else nothing. The attachments are accepted exactly when they fill the slots of the template,
however they are ordered, if the slots are also in the order of `localeCompare`
(`renderSound_iff`) : the slots of a template are in the order of code units, and the attachments
are compared with them in the other.
-/

namespace JooEvents.Rendering

open Fallible Markup

/-! ## Merged values -/

section Merged

variable {host : MergeHost} {definitions : List OrganizerMergeFieldDefinition}

theorem nodup_map_append {α κ : Type} {key : α → κ} {as : List α} {a : α}
    (hnd : (as.map key).Nodup) (hnew : ∀ b ∈ as, key b ≠ key a) :
    ((as ++ [a]).map key).Nodup := by
  rw [List.map_append, List.map_singleton, List.nodup_append]
  refine ⟨hnd, List.nodup_singleton _, ?_⟩
  intro k hk k' hk'
  obtain ⟨b, hb, rfl⟩ := List.mem_map.mp hk
  rw [List.mem_singleton.mp hk']
  exact hnew b hb

theorem resolvedMap_eq_ok : ∀ {values result live : List OrganizerResolvedMergeValue},
    resolvedMap host definitions result values = .ok live → (result.map (·.fieldKey)).Nodup →
      live = result ++ values ∧ (live.map (·.fieldKey)).Nodup
  | [], result, live, h, hnd => by
    cases h
    exact ⟨(List.append_nil _).symm, hnd⟩
  | candidate :: values, result, live, h, hnd => by
    simp only [resolvedMap, bind_eq_ok, require_eq_ok, orRefuse_eq_ok, Unique.exists_iff] at h
    obtain ⟨-, definition, -, hnew, -, h⟩ := h
    obtain ⟨hlive, hlivend⟩ := resolvedMap_eq_ok h (nodup_map_append hnd hnew)
    exact ⟨by rw [hlive, List.append_assoc]; rfl, hlivend⟩

theorem fallbackMap_eq_ok : ∀ {values result fallbacks : List OrganizerFallbackMergeValue},
    fallbackMap host definitions result values = .ok fallbacks →
      (result.map (·.payloadRefId)).Nodup →
      fallbacks = result ++ values ∧ (fallbacks.map (·.payloadRefId)).Nodup
  | [], result, fallbacks, h, hnd => by
    cases h
    exact ⟨(List.append_nil _).symm, hnd⟩
  | candidate :: values, result, fallbacks, h, hnd => by
    simp only [fallbackMap, bind_eq_ok, require_eq_ok, orRefuse_eq_ok, Unique.exists_iff] at h
    obtain ⟨-, definition, -, ⟨-, hnew⟩, h⟩ := h
    obtain ⟨hfallbacks, hfallbacksnd⟩ := fallbackMap_eq_ok h (nodup_map_append hnd hnew)
    exact ⟨by rw [hfallbacks, List.append_assoc]; rfl, hfallbacksnd⟩

theorem nodup_of_canonicalBindings {bindings : List OrganizerMessageTemplateFieldBinding}
    {u : Unit} (h : canonicalBindings bindings = .ok u) : (bindings.map (·.fieldKey)).Nodup := by
  simp only [canonicalBindings, bind_eq_ok, require_eq_ok] at h
  obtain ⟨-, -, -, -, horder⟩ := h
  exact ((of_decide_eq_true horder).pairwise).imp ne_of_lt

variable (bindings : List OrganizerMessageTemplateFieldBinding)
  (resolvedValues : List OrganizerResolvedMergeValue)
  (fallbackValues : List OrganizerFallbackMergeValue)

/-- What a field contributes : its one resolved value, else the one fallback of its one binding,
else nothing. -/
inductive Contributes (fieldKey : List ℕ) : Option OrganizerMergeFieldValue → Prop
  | resolved {value : OrganizerMergeFieldValue} (hmem : ⟨fieldKey, value⟩ ∈ resolvedValues)
      (honly : ∀ entry ∈ resolvedValues, entry.fieldKey = fieldKey → entry.value = value) :
      Contributes fieldKey (some value)
  | fallback {binding : OrganizerMessageTemplateFieldBinding}
      {fallback : OrganizerFallbackMergeValue}
      (hnone : ∀ entry ∈ resolvedValues, entry.fieldKey ≠ fieldKey)
      (hbinding : binding ∈ bindings) (hkey : binding.fieldKey = fieldKey)
      (honlyBinding : ∀ other ∈ bindings, other.fieldKey = fieldKey → other = binding)
      (hbound : binding.fallback = .payloadRef fallback.payloadRefId fallback.payloadRefVersion)
      (hmem : fallback ∈ fallbackValues) (hfield : fallback.fieldKey = fieldKey)
      (honly : ∀ entry ∈ fallbackValues, entry.payloadRefId = fallback.payloadRefId →
        entry = fallback) :
      Contributes fieldKey (some fallback.value)
  | absent {binding : OrganizerMessageTemplateFieldBinding}
      (hnone : ∀ entry ∈ resolvedValues, entry.fieldKey ≠ fieldKey)
      (hbinding : binding ∈ bindings) (hkey : binding.fieldKey = fieldKey)
      (honlyBinding : ∀ other ∈ bindings, other.fieldKey = fieldKey → other = binding)
      (hbound : binding.fallback = .none) (hoptional : binding.requirement = .optional) :
      Contributes fieldKey none

variable {bindings resolvedValues fallbackValues}

theorem contributes_of_resolveField {fieldKey : List ℕ} {entry : CanonicalMergeValue}
    (hbindings : (bindings.map (·.fieldKey)).Nodup)
    (hlive : (resolvedValues.map (·.fieldKey)).Nodup)
    (hfallbacks : (fallbackValues.map (·.payloadRefId)).Nodup)
    (h : resolveField definitions bindings resolvedValues fallbackValues fieldKey = .ok entry) :
    entry.fieldKey = fieldKey ∧
      Contributes bindings resolvedValues fallbackValues fieldKey entry.value := by
  simp only [resolveField, bind_eq_ok, orRefuse_eq_ok] at h
  obtain ⟨-, -, binding, hbinding, h⟩ := h
  obtain ⟨hmember, hkey⟩ := Keyed.mem_of_find?_key hbinding
  have honlyBinding : ∀ other ∈ bindings, other.fieldKey = fieldKey → other = binding :=
    fun other hother hsame => Keyed.eq_of_key_eq hbindings hother hmember (hsame.trans hkey.symm)
  cases hfind : resolvedValues.find? fun entry => decide (entry.fieldKey = fieldKey) with
  | some resolved =>
    rw [hfind] at h
    cases h
    obtain ⟨hmem, rfl⟩ := Keyed.mem_of_find?_key hfind
    exact ⟨rfl, .resolved hmem fun other hother hsame =>
      congrArg _ (Keyed.eq_of_key_eq hlive hother hmem hsame)⟩
  | none =>
    rw [hfind] at h
    have hnone : ∀ entry ∈ resolvedValues, entry.fieldKey ≠ fieldKey := by
      simpa using hfind
    cases hbound : binding.fallback with
    | payloadRef payloadRefId payloadRefVersion =>
      simp only [hbound, bind_eq_ok, orRefuse_eq_ok, require_eq_ok, pure_eq_ok,
        Unique.exists_iff] at h
      obtain ⟨fallback, hfallback, ⟨rfl, hfield⟩, rfl⟩ := h
      obtain ⟨hmem, rfl⟩ := Keyed.mem_of_find?_key hfallback
      exact ⟨rfl, .fallback hnone hmember hkey honlyBinding hbound hmem hfield
        fun other hother hsame => Keyed.eq_of_key_eq hfallbacks hother hmem hsame⟩
    | none =>
      simp only [hbound, bind_eq_ok, require_eq_ok, pure_eq_ok, Unique.exists_iff] at h
      obtain ⟨hoptional, rfl⟩ := h
      exact ⟨rfl, .absent hnone hmember hkey honlyBinding hbound hoptional⟩

theorem mem_sortKeys {key : List ℕ} {keys : List (List ℕ)} : key ∈ sortKeys keys ↔ key ∈ keys :=
  List.mem_insertionSort _

theorem contributes_of_resolveOrganizerMergeFields {registry : OrganizerMergeRegistryRelease}
    {requestedFieldKeys : List (List ℕ)} {fields : OrganizerResolvedMergeFields}
    (h : resolveOrganizerMergeFields host registry bindings requestedFieldKeys resolvedValues
      fallbackValues = .ok fields) {fieldKey : List ℕ} (hkey : fieldKey ∈ requestedFieldKeys) :
    Contributes bindings resolvedValues fallbackValues fieldKey (fields.value? fieldKey) := by
  simp only [resolveOrganizerMergeFields, bind_eq_ok, require_eq_ok, orRefuse_eq_ok, pure_eq_ok,
    canonicalRequested, Unique.exists_iff] at h
  obtain ⟨identity, -, -, digest, -, -, hbindings, requested, ⟨-, rfl⟩, live, hlive, fallbacks,
    hfallbacks, entries, hentries, rfl⟩ := h
  obtain ⟨rfl, hlivend⟩ := resolvedMap_eq_ok hlive List.nodup_nil
  obtain ⟨rfl, hfallbacksnd⟩ := fallbackMap_eq_ok hfallbacks List.nodup_nil
  have hall := (forall₂_of_mapM_eq_ok hentries).imp fun key entry hentry =>
    contributes_of_resolveField (nodup_of_canonicalBindings hbindings) hlivend hfallbacksnd hentry
  have hkeys : entries.map (·.fieldKey) = ((sortKeys requestedFieldKeys).dedup).map id :=
    Keyed.map_eq_of_forall₂ (fun _ _ hentry => hentry.1) hall
  have hentriesnd : (entries.map (·.fieldKey)).Nodup := by
    rw [hkeys, List.map_id]
    exact List.nodup_dedup _
  obtain ⟨entry, hmem, hentryKey, hvalue⟩ := Keyed.exists_left_of_forall₂ hall.flip
    (List.mem_dedup.mpr (mem_sortKeys.mpr hkey))
  rw [OrganizerResolvedMergeFields.value?,
    (Keyed.find?_key_eq_some_iff hentriesnd).mpr ⟨hmem, hentryKey⟩]
  exact hvalue

end Merged

section Sound

variable (host : RenderHost)

/-- What the language does : ASCII is in its normal form, a URL that was written is read back, and
`localeCompare` orders texts, no two stable keys being equal in it. -/
structure LawfulRender : Prop where
  nfc_ascii : ∀ value, (∀ u ∈ value, u < 128) → host.nfc value = value
  reparse : ∀ value url, host.parseUrl value = some url → url.protocol = httpsProtocol →
    host.parseUrl url.href = some url
  compare_trans : Std.TransCmp host.localeCompare
  compare_eq : ∀ a b, isStableKey a = true → isStableKey b = true →
    host.localeCompare a b = .eq → a = b

/-- Where the link of a field goes : nowhere if the field has no value, else to a URL of an origin
that its definition allows. -/
inductive LinksTo (fields : OrganizerResolvedMergeFields)
    (mergeRegistry : OrganizerMergeRegistryRelease) (fieldKey : List ℕ) : Option (List ℕ) → Prop
  | nowhere (hnone : fields.value? fieldKey = none) : LinksTo fields mergeRegistry fieldKey none
  | url {value : List ℕ} {allowedHttpsOrigins : List (List ℕ)} {parsed : Url}
      (hvalue : fields.value? fieldKey = some (.url value))
      (hdefinition : ⟨fieldKey, .url allowedHttpsOrigins⟩ ∈ mergeRegistry.fields)
      (hvalueUrl : host.parseUrl value = some parsed)
      (hhref : host.parseUrl parsed.href = some parsed)
      (hhttps : parsed.protocol = httpsProtocol) (horigin : parsed.origin ∈ allowedHttpsOrigins) :
      LinksTo fields mergeRegistry fieldKey (some parsed.href)

variable {host} {fields : OrganizerResolvedMergeFields} {timezone : Option (List ℕ)}
  {mergeRegistry : OrganizerMergeRegistryRelease}

theorem linksTo_of_actionUrl (hlaw : LawfulRender host) {fieldKey : List ℕ}
    {href : Option (List ℕ)} (h : actionUrl host fields mergeRegistry fieldKey = .ok href) :
    LinksTo host fields mergeRegistry fieldKey href := by
  unfold actionUrl at h
  split at h
  · rename_i hnone
    cases h
    exact .nowhere hnone
  · rename_i value hvalue
    split at h
    · rename_i key origins hdefinition
      obtain ⟨hmem, rfl⟩ := Keyed.mem_of_find?_key hdefinition
      simp only [safeHttpsUrl, map_eq_ok, bind_eq_ok, orRefuse_eq_ok, require_eq_ok, pure_eq_ok,
        Unique.exists_iff] at h
      obtain ⟨-, ⟨parsed, hparsed, horigin, rfl⟩, rfl⟩ := h
      obtain ⟨hurl, hkind⟩ := Option.filter_eq_some_iff.mp hparsed
      have hhttps := (of_decide_eq_true hkind).1
      exact .url hvalue hmem hurl (hlaw.reparse _ _ hurl hhttps) hhttps horigin
    · cases h
  · cases h

theorem linksTo_of_renderComposedHtml (hlaw : LawfulRender host)
    {blocks : List OrganizerMessageComposedBlock} {html : List ℕ}
    (h : renderComposedHtml host fields timezone mergeRegistry blocks = .ok html)
    {label : List OrganizerMessageInlineNode} {fieldKey : List ℕ}
    (hblock : .actionLink label fieldKey ∈ blocks) :
    LinksTo host fields mergeRegistry fieldKey (linkOf host fields mergeRegistry fieldKey) := by
  simp only [renderComposedHtml, bind_eq_ok] at h
  obtain ⟨parts, hparts, -⟩ := h
  obtain ⟨part, -, hpart⟩ := Keyed.exists_left_of_forall₂ (forall₂_of_mapM_eq_ok hparts).flip hblock
  obtain ⟨href, hhref, -⟩ := bind_eq_ok.mp hpart
  rw [linkOf_eq hhref]
  exact linksTo_of_actionUrl hlaw hhref

/-! ## Attachments -/

theorem mapM_filter_eq_ok {α ε : Type} {p : α → Bool} {e : ε} {items : List (Option α)}
    {as : List α} : items.mapM (fun item => orRefuse (item.filter p) e) = .ok as ↔
      items = as.map some ∧ ∀ a ∈ as, p a = true := by
  constructor
  · intro h
    have hall := (forall₂_of_mapM_eq_ok h).imp fun item a hitem =>
      Option.filter_eq_some_iff.mp (orRefuse_eq_ok.mp hitem)
    refine ⟨?_, fun a ha => ?_⟩
    · rw [← List.forall₂_eq_eq_eq, List.forall₂_map_right_iff]
      exact hall.imp fun _ _ hitem => hitem.1
    · obtain ⟨item, -, hitem⟩ := Keyed.exists_left_of_forall₂ hall ha
      exact hitem.2
  · rintro ⟨rfl, hvalid⟩
    refine mapM_eq_ok_of_forall₂ (List.forall₂_map_left_iff.mpr (List.forall₂_same.mpr ?_))
    intro a ha
    rw [orRefuse_eq_ok, Option.filter_eq_some_iff]
    exact ⟨rfl, hvalid a ha⟩

variable (host) in
def sortAttachments (given : List OrganizerRenderedAttachment) :
    List OrganizerRenderedAttachment :=
  given.sortByComparison fun left right => host.localeCompare left.slotKey right.slotKey

theorem canonicalAttachments_eq_ok {value : Option (List (Option OrganizerRenderedAttachment))}
    {expectedSlots : List (List ℕ)} {attachments : List OrganizerRenderedAttachment} :
    canonicalAttachments host value expectedSlots = .ok attachments ↔
      ∃ given, value = some (given.map some) ∧ given.length ≤ 10 ∧
        (∀ a ∈ given, isRenderedAttachment host a = true) ∧
        (sortAttachments host given).map (·.slotKey) = expectedSlots ∧
        sortAttachments host given = attachments := by
  simp only [canonicalAttachments, bind_eq_ok, orRefuse_eq_ok, require_eq_ok, pure_eq_ok,
    mapM_filter_eq_ok, Unique.exists_iff]
  constructor
  · rintro ⟨items, hvalue, hlength, given, ⟨rfl, hvalid⟩, hslots, hsorted⟩
    exact ⟨given, hvalue, by simpa using hlength, hvalid, hslots, hsorted⟩
  · rintro ⟨given, hvalue, hlength, hvalid, hslots, hsorted⟩
    exact ⟨_, hvalue, by simpa using hlength, given, ⟨rfl, hvalid⟩, hslots, hsorted⟩

theorem sortAttachments_perm (given : List OrganizerRenderedAttachment) :
    (sortAttachments host given).Perm given :=
  List.perm_sortByComparison _ given

theorem LawfulRender.pairwise_sortAttachments (hlaw : LawfulRender host)
    (given : List OrganizerRenderedAttachment) :
    ((sortAttachments host given).map (·.slotKey)).Pairwise
      fun a b => host.localeCompare a b ≠ .gt := by
  have trans := hlaw.compare_trans
  have transSlots : Std.TransCmp fun left right : OrganizerRenderedAttachment =>
      host.localeCompare left.slotKey right.slotKey :=
    { eq_swap := trans.eq_swap, isLE_trans := trans.isLE_trans }
  rw [List.pairwise_map]
  exact List.pairwise_sortByComparison given

theorem LawfulRender.accepts_iff (hlaw : LawfulRender host) {expectedSlots : List (List ℕ)}
    (hlength : expectedSlots.length ≤ 10) (hkeys : ∀ slot ∈ expectedSlots, isStableKey slot = true)
    (horder : expectedSlots.Pairwise fun a b => host.localeCompare a b ≠ .gt)
    {given : List OrganizerRenderedAttachment}
    (hvalid : ∀ a ∈ given, isRenderedAttachment host a = true) :
    (∃ attachments,
      canonicalAttachments host (some (given.map some)) expectedSlots = .ok attachments) ↔
        (given.map (·.slotKey)).Perm expectedSlots := by
  simp only [canonicalAttachments_eq_ok]
  constructor
  · rintro ⟨-, given', hgiven, -, -, rfl, -⟩
    obtain rfl := (List.map_injective_iff.mpr (Option.some_injective _)) (Option.some.inj hgiven)
    exact ((sortAttachments_perm given).map _).symm
  · intro hperm
    have hsorted : ((sortAttachments host given).map (·.slotKey)).Perm expectedSlots :=
      ((sortAttachments_perm given).map _).trans hperm
    have trans := hlaw.compare_trans
    have hequal := List.forall₂_eq_of_perm hsorted (hlaw.pairwise_sortAttachments given) horder
    have hslots : (sortAttachments host given).map (·.slotKey) = expectedSlots := by
      rw [← List.forall₂_eq_eq_eq]
      refine (Keyed.forall₂_mem hequal).imp fun a b hab => ?_
      exact hlaw.compare_eq a b (hkeys a (hsorted.mem_iff.mp hab.1)) (hkeys b hab.2.1) hab.2.2
    refine ⟨_, given, rfl, ?_, hvalid, hslots, rfl⟩
    rw [← List.length_map, hperm.length_eq]
    exact hlength

def slotAttachment (slotKey : List ℕ) : OrganizerRenderedAttachment where
  slotKey := slotKey
  filename := [97]
  mediaType := [97]
  byteLength := 0
  contentSha256 := List.replicate 64 97
  disposition := .attachment
  contentId := none

theorem LawfulRender.isRenderedAttachment_slotAttachment (hlaw : LawfulRender host)
    {slotKey : List ℕ} (hkey : isStableKey slotKey = true) :
    isRenderedAttachment host (slotAttachment slotKey) = true := by
  have hnfc : host.nfc [97] = [97] := hlaw.nfc_ascii _ (by decide)
  have hline : ∀ maximum : ℕ, 1 ≤ maximum →
      canonicalSingleLine host.nfc maximum false [97] = true := by
    intro maximum hmaximum
    rw [canonicalSingleLine, normalizeSingleLine, hnfc, decide_eq_true (by simpa using hmaximum)]
    decide
  have hdigest : isDigestText (List.replicate 64 97) = true := by decide
  simp [isRenderedAttachment, slotAttachment, hkey, hline 512, hline 160, hdigest,
    maximumSafeInteger, -List.reduceReplicate]

theorem LawfulRender.pairwise_of_accepts (hlaw : LawfulRender host)
    {expectedSlots : List (List ℕ)} (hkeys : ∀ slot ∈ expectedSlots, isStableKey slot = true)
    (haccepts : ∀ given : List OrganizerRenderedAttachment,
      (∀ a ∈ given, isRenderedAttachment host a = true) →
        (given.map (·.slotKey)).Perm expectedSlots → ∃ attachments,
          canonicalAttachments host (some (given.map some)) expectedSlots = .ok attachments) :
    expectedSlots.Pairwise fun a b => host.localeCompare a b ≠ .gt := by
  obtain ⟨attachments, hattachments⟩ := haccepts (expectedSlots.map slotAttachment)
    (fun a ha => by
      obtain ⟨slot, hslot, rfl⟩ := List.mem_map.mp ha
      exact hlaw.isRenderedAttachment_slotAttachment (hkeys slot hslot))
    (by rw [List.map_map]; exact List.Perm.of_eq (List.map_id _))
  obtain ⟨given, -, -, -, hslots, -⟩ := canonicalAttachments_eq_ok.mp hattachments
  rw [← hslots]
  exact hlaw.pairwise_sortAttachments given

/-! ## Emails -/

section Email

variable (host) (input : RenderInput) (content : OrganizerEmailTemplateContent)
  (bindings : List OrganizerMessageTemplateFieldBinding)
  (blocks : List OrganizerMessageComposedBlock) (fields : OrganizerResolvedMergeFields)
  (email : OrganizerServerRenderedEmail)

/-- The email is of a template and of values for its fields. -/
structure IsTemplateEmail : Prop where
  contributes : ∀ fieldKey ∈ requestedFields content,
    Contributes bindings input.resolvedValues input.fallbackValues fieldKey
      (fields.value? fieldKey)
  links : ∀ label fieldKey, .actionLink label fieldKey ∈ blocks →
    LinksTo host fields input.mergeRegistry fieldKey
      (linkOf host fields input.mergeRegistry fieldKey)
  /-- No tag is left open at the end. -/
  ends : stateAfter .text email.sanitizedHtml = .text
  tokens : tokensOf email.sanitizedHtml =
    documentTokens (documentOf host fields input.timezone input.mergeRegistry blocks)
  texts : textUnits (tokensOf email.sanitizedHtml) =
    ((documentOf host fields input.timezone input.mergeRegistry blocks).flatMap
      DocumentBlock.texts).flatten
  derived : content.plainTextPolicy = .deriveV1 → email.plainText =
    documentText (documentOf host fields input.timezone input.mergeRegistry blocks)
  explicit : content.plainTextPolicy = .explicitV1 →
    ∃ nodes, content.explicitPlainText = some nodes ∧
      email.plainText = spansText (spansOf (mergedText host fields input.timezone) nodes)

/-- The email is of a text. -/
structure IsDirectEmail (text : List ℕ) : Prop where
  ends : stateAfter .text email.sanitizedHtml = .text
  tokens : tokensOf email.sanitizedHtml = directTokens text
  plain : email.plainText = text

/-- The slots that the attachments of a message are to fill. -/
def RenderInput.expectedSlots : List (List ℕ) :=
  match input.messageContent with
  | some ⟨_, .templateRevision _⟩ =>
    (((input.template.bind (·.content)).filter (isTemplateContent host)).map
      (·.attachmentSlotKeys)).getD []
  | _ => []

/-- What the body of an email is. -/
inductive BodySound : EmailMessageBody → Prop
  | direct {text : List ℕ} (hemail : IsDirectEmail email text) : BodySound (.plainText text)
  | template {ref : OrganizerMessageTemplateRevisionRef} {template : RenderTemplate}
      {content : OrganizerEmailTemplateContent}
      {bindings : List OrganizerMessageTemplateFieldBinding}
      {blocks : List OrganizerMessageComposedBlock} {fields : OrganizerResolvedMergeFields}
      (htemplate : input.template = some template) (hrevision : template.revision = some ref)
      (hcontent : template.content = some content)
      (hbindings : template.fieldBindings = some (bindings.map some))
      (hbody : content.body = .composed blocks)
      (hemail : IsTemplateEmail host input content bindings blocks fields email) :
      BodySound (.templateRevision ref)

/-- The email carries what was reviewed. -/
structure EmailSound : Prop where
  message : ∃ message, input.messageContent = some message ∧ email.subject = message.subject ∧
    BodySound host input email message.body
  attachments : ∃ given, input.attachments = some (given.map some) ∧
    email.attachments.Perm given ∧
      email.attachments.map (·.slotKey) = input.expectedSlots host

end Email

variable {input : RenderInput}

theorem renderTemplateBody_eq_ok {ref : OrganizerMessageTemplateRevisionRef} {body : RenderedBody}
    (h : renderTemplateBody host input ref = .ok body) :
    ∃ template content bindings blocks, input.template = some template ∧
      template.revision = some ref ∧ template.content = some content ∧
      isTemplateContent host content = true ∧
      template.fieldBindings = some (bindings.map some) ∧ content.body = .composed blocks ∧
      resolveOrganizerMergeFields host.toMergeHost input.mergeRegistry bindings
        (requestedFields content) input.resolvedValues input.fallbackValues = .ok body.fields ∧
      canonicalAttachments host input.attachments content.attachmentSlotKeys =
        .ok body.attachments ∧
      renderComposedHtml host body.fields input.timezone input.mergeRegistry blocks =
        .ok body.sanitizedHtml ∧
      templatePlainText host body.fields input.timezone input.mergeRegistry content blocks =
        .ok body.plainText := by
  simp only [renderTemplateBody, parseTemplate, bind_eq_ok, orRefuse_eq_ok, require_eq_ok,
    pure_eq_ok, mapM_filter_eq_ok, Option.filter_eq_some_iff, Unique.exists_iff] at h
  obtain ⟨template, htemplate, ⟨revision, content, bindings⟩, hparsed, hrevision, h⟩ := h
  obtain ⟨revision, ⟨hrevision', -⟩, content, ⟨hcontent, hvalid⟩, items, hitems, bindings,
    ⟨rfl, -⟩, heq⟩ := hparsed
  cases heq
  dsimp only at hrevision h
  subst hrevision
  cases hbody : content.body with
  | openCanvas inertSource parameterKeys complianceAnchors sanitizerContract =>
    rw [hbody] at h
    cases h
  | composed blocks =>
    rw [hbody] at h
    simp only [bind_eq_ok, mapError_eq_ok, pure_eq_ok] at h
    obtain ⟨fields, hfields, attachments, hattachments, html, hhtml, text, htext, rfl⟩ := h
    exact ⟨template, content, bindings, blocks, htemplate, hrevision', hcontent, hvalid, hitems,
      hbody, hfields, hattachments, hhtml, htext⟩

theorem isTemplateEmail_of_rendered (hlaw : LawfulRender host)
    {content : OrganizerEmailTemplateContent}
    {bindings : List OrganizerMessageTemplateFieldBinding}
    {blocks : List OrganizerMessageComposedBlock} {email : OrganizerServerRenderedEmail}
    (hvalid : isTemplateContent host content = true)
    (hfields : resolveOrganizerMergeFields host.toMergeHost input.mergeRegistry bindings
      (requestedFields content) input.resolvedValues input.fallbackValues = .ok fields)
    (hhtml : renderComposedHtml host fields input.timezone input.mergeRegistry blocks =
      .ok email.sanitizedHtml)
    (htext : templatePlainText host fields input.timezone input.mergeRegistry content blocks =
      .ok email.plainText) :
    IsTemplateEmail host input content bindings blocks fields email := by
  have hreads := reads_renderComposedHtml hhtml
  refine ⟨fun fieldKey hkey => contributes_of_resolveOrganizerMergeFields hfields hkey,
    fun label fieldKey hblock => linksTo_of_renderComposedHtml hlaw hhtml hblock,
    hreads.stateAfter_eq, hreads.tokensOf_eq, ?_, fun hpolicy => ?_, fun hpolicy => ?_⟩
  · rw [hreads.tokensOf_eq, textUnits_documentTokens]
  · rw [templatePlainText, hpolicy] at htext
    exact renderComposedText_eq_ok htext
  · rw [templatePlainText, hpolicy] at htext
    simp only [isTemplateContent, Bool.and_eq_true, decide_eq_true_eq] at hvalid
    obtain ⟨nodes, hnodes⟩ := Option.isSome_iff_exists.mp (hvalid.1.1.1.2.mp hpolicy)
    rw [hnodes] at htext
    exact ⟨nodes, hnodes, (Except.ok.inj htext).symm.trans (inlineText_eq nodes)⟩

theorem parseRenderedEmail_eq_some {email parsed : OrganizerServerRenderedEmail}
    (h : parseRenderedEmail host email = some parsed) :
    parsed.subject = email.subject ∧ parsed.sanitizedHtml = email.sanitizedHtml ∧
      parsed.plainText = email.plainText ∧ parsed.attachments = email.attachments := by
  simp only [parseRenderedEmail, Option.bind_eq_bind, Option.bind_eq_some_iff] at h
  obtain ⟨renderer, -, mergeRegistry, -, -, -, -, -, -, -, -, -, h⟩ := h
  cases h
  exact ⟨rfl, rfl, rfl, rfl⟩

theorem emailSound_of_rendered (hlaw : LawfulRender host) {email : OrganizerServerRenderedEmail}
    (h : renderOrganizerEmailV1 host input = .ok email) : EmailSound host input email := by
  simp only [renderOrganizerEmailV1, bind_eq_ok, orRefuse_eq_ok, require_eq_ok,
    Option.filter_eq_some_iff, Unique.exists_iff] at h
  obtain ⟨-, renderer, -, message, ⟨hmessage, -⟩, body, hbody, -, manifestDigest, -, inputDigest, -,
    outputDigest, -, hparsed⟩ := h
  obtain ⟨hsubject, hhtml, htext, hattachments⟩ := parseRenderedEmail_eq_some hparsed
  dsimp only at hsubject hhtml htext hattachments
  obtain ⟨subject, messageBody⟩ := message
  dsimp only at hbody
  cases messageBody with
  | plainText text =>
    simp only [renderBody, renderPlainBody, bind_eq_ok, require_eq_ok, pure_eq_ok,
      Unique.exists_iff] at hbody
    obtain ⟨-, attachments, hcanonical, rfl⟩ := hbody
    obtain ⟨given, hgiven, -, -, hslots, rfl⟩ := canonicalAttachments_eq_ok.mp hcanonical
    dsimp only at hhtml htext hattachments
    have hreads := reads_directHtml text
    have hdirect : IsDirectEmail email text := by
      constructor
      · rw [hhtml]
        exact hreads.stateAfter_eq
      · rw [hhtml]
        exact hreads.tokensOf_eq
      · exact htext
    refine ⟨⟨_, hmessage, hsubject, .direct hdirect⟩, given, hgiven, ?_, ?_⟩
    · rw [hattachments]
      exact sortAttachments_perm given
    · rw [hattachments, hslots, RenderInput.expectedSlots, hmessage]
  | templateRevision ref =>
    obtain ⟨template, content, bindings, blocks, htemplate, hrevision, hcontent, hvalid, hbindings,
      hcomposed, hfields, hcanonical, hbodyHtml, hbodyText⟩ := renderTemplateBody_eq_ok hbody
    obtain ⟨given, hgiven, -, -, hslots, hsorted⟩ := canonicalAttachments_eq_ok.mp hcanonical
    rw [← hhtml] at hbodyHtml
    rw [← htext] at hbodyText
    have hsound := BodySound.template htemplate hrevision hcontent hbindings hcomposed
      (isTemplateEmail_of_rendered hlaw hvalid hfields hbodyHtml hbodyText)
    refine ⟨⟨_, hmessage, hsubject, hsound⟩, given, hgiven, ?_, ?_⟩
    · rw [hattachments, ← hsorted]
      exact sortAttachments_perm given
    · rw [hattachments, ← hsorted, hslots, RenderInput.expectedSlots, hmessage, htemplate]
      simp [hcontent, Option.filter, hvalid]

theorem expectedSlots_valid (host : RenderHost) (input : RenderInput) :
    (input.expectedSlots host).length ≤ 10 ∧
      ∀ slot ∈ input.expectedSlots host, isStableKey slot = true := by
  unfold RenderInput.expectedSlots
  split
  · cases hcontent : (input.template.bind (·.content)).filter (isTemplateContent host) with
    | none => simp
    | some content =>
      have hvalid := (Option.filter_eq_some_iff.mp hcontent).2
      simp only [isTemplateContent, Bool.and_eq_true, decide_eq_true_eq, List.all_eq_true] at hvalid
      exact ⟨hvalid.1.1.2, hvalid.1.2⟩
  · simp

variable (host input) in
/-- What is rendered carries what was reviewed, and attachments are accepted exactly when they
fill the slots of the template. -/
structure RenderSound : Prop where
  rendered : ∀ email, renderOrganizerEmailV1 host input = .ok email → EmailSound host input email
  attached : ∀ given : List OrganizerRenderedAttachment,
    (∀ a ∈ given, isRenderedAttachment host a = true) →
      ((∃ attachments, canonicalAttachments host (some (given.map some))
        (input.expectedSlots host) = .ok attachments) ↔
          (given.map (·.slotKey)).Perm (input.expectedSlots host))

/-- A rendering keeps its promises exactly when the slots of the template, which are in the order
of code units, are in that of `localeCompare` too. -/
theorem renderSound_iff (hlaw : LawfulRender host) (input : RenderInput) :
    RenderSound host input ↔
      (input.expectedSlots host).Pairwise fun a b => host.localeCompare a b ≠ .gt := by
  obtain ⟨hlength, hkeys⟩ := expectedSlots_valid host input
  constructor
  · intro h
    exact hlaw.pairwise_of_accepts hkeys fun given hvalid hperm =>
      (h.attached given hvalid).mpr hperm
  · intro horder
    exact ⟨fun email hemail => emailSound_of_rendered hlaw hemail,
      fun given hvalid => hlaw.accepts_iff hlength hkeys horder hvalid⟩

end Sound

/-! ## An invitation -/

namespace RenderExample

/-- Where a unit of a key comes in the order of a locale : `_` before `-`, `.`, the digits and the
letters. -/
def weight (u : ℕ) : ℕ := if u = 95 then 0 else u + 1

theorem weight_injective : Function.Injective weight := by
  intro u v h
  unfold weight at h
  split_ifs at h with hu hv hv
  · exact hu.trans hv.symm
  · exact Nat.succ.inj h

/-- `localeCompare` of keys. -/
def compareKeys (a b : List ℕ) : Ordering := compare (a.map weight) (b.map weight)

def site : Url where
  protocol := httpsProtocol
  hostname := codeUnits "a.b"
  username := []
  password := []
  origin := codeUnits "https://a.b"
  href := codeUnits "https://a.b/"

/-- `new URL` of the site, with its path or without. -/
def parseUrl (value : List ℕ) : Option Url :=
  if value = site.origin ∨ value = site.href then some site else none

def digest : List ℕ := List.replicate 64 97

def host : RenderHost where
  nfc := id
  parseUrl := parseUrl
  isDate _ := false
  isInstant _ := false
  definitionDigest _ _ := some digest
  formatDate := id
  formatInstant value _ := value
  localeCompare := compareKeys
  digest _ := some digest

theorem lawful : LawfulRender host where
  nfc_ascii _ _ := rfl
  reparse value url h _ := by
    have hsite : site = url := by
      simp only [host, parseUrl] at h
      split_ifs at h
      exact Option.some.inj h
    subst hsite
    simp [host, parseUrl]
  compare_trans :=
    have trans : Std.TransCmp (compare : List ℕ → List ℕ → Ordering) := inferInstance
    { eq_swap := trans.eq_swap, isLE_trans := trans.isLE_trans }
  compare_eq a b _ _ h :=
    List.map_injective_iff.mpr weight_injective
      (Std.LawfulEqCmp.eq_of_compare (h : compare (a.map weight) (b.map weight) = .eq))

def reference : OrganizerCommunicationDefinitionRef := ⟨⟨codeUnits "r", 1⟩, digest⟩

def revision : OrganizerMessageTemplateRevisionRef := ⟨codeUnits "t", codeUnits "t", 1, digest⟩

def content (attachmentSlotKeys : List (List ℕ)) : OrganizerEmailTemplateContent where
  subject := []
  body := .composed
    [.paragraph [.text (codeUnits "Hi") (some .strong), .mergeField (codeUnits "name")],
      .actionLink [.text (codeUnits "Go") none] (codeUnits "link")]
  plainTextPolicy := .deriveV1
  explicitPlainText := none
  attachmentSlotKeys := attachmentSlotKeys

def input (attachmentSlotKeys : List (List ℕ)) : RenderInput where
  recipientResolutionId := codeUnits "rr1_aaaaaaaaaaaaaaaa"
  releaseId := codeUnits "r"
  releaseDigestSha256 := digest
  renderer := some reference
  mergeRegistry :=
    { identity := reference
      fields := [⟨codeUnits "link", .url [site.origin]⟩, ⟨codeUnits "name", .text⟩] }
  messageContent := some ⟨codeUnits "Hi", .templateRevision revision⟩
  template := some
    { revision := some revision
      content := some (content attachmentSlotKeys)
      fieldBindings := some
        [some ⟨codeUnits "link", .required, .payloadRef (codeUnits "p") 1⟩,
          some ⟨codeUnits "name", .required, .none⟩] }
  resolvedValues := [⟨codeUnits "name", .text (codeUnits "<b>")⟩]
  fallbackValues := [⟨codeUnits "p", 1, codeUnits "link", .url site.href⟩]
  attachments := some (attachmentSlotKeys.reverse.map fun slot => some (slotAttachment slot))
  timezone := none

end RenderExample

open RenderExample in
/-- With slots in the order of `localeCompare` an email is rendered, and carries what was
reviewed. -/
theorem renderSound_invitation :
    (renderOrganizerEmailV1 host (input [codeUnits "a", codeUnits "b"])).toBool = true ∧
      RenderSound host (input [codeUnits "a", codeUnits "b"]) :=
  ⟨by decide +kernel, (renderSound_iff lawful _).mpr (by decide +kernel)⟩

open RenderExample in
/-- Two attachments that fill their slots are turned down. -/
theorem not_renderSound_separators :
    ¬ RenderSound host (input [codeUnits "a-b", codeUnits "a_b"]) := by
  intro h
  have hslots : (input [codeUnits "a-b", codeUnits "a_b"]).expectedSlots host =
      [codeUnits "a-b", codeUnits "a_b"] := by decide +kernel
  obtain ⟨attachments, haccepted⟩ := (h.attached
    [slotAttachment (codeUnits "a-b"), slotAttachment (codeUnits "a_b")]
    (by decide +kernel)).mpr (by rw [hslots]; exact List.Perm.refl _)
  rw [hslots] at haccepted
  obtain ⟨given, hgiven, -, -, hsorted, -⟩ := canonicalAttachments_eq_ok.mp haccepted
  obtain rfl := (List.map_injective_iff.mpr (Option.some_injective _)) (Option.some.inj hgiven)
  exact absurd hsorted (by decide +kernel)

end JooEvents.Rendering
