import Mathlib.Data.Nat.Digits.Lemmas
import JooEvents.Communications.Binding
import JooEvents.Communications.Recipients

/-!
# Pages of recipients

The codec over a keyed hash reads back the cursors that it issues (`readsBack_createHmac`), so
that the pages of a list, followed by their cursors, have its rows in order
(`follow_eq_ok`). A row is projected unless its masked address is too long
(`project_eq_ok_iff`).
-/

namespace JooEvents

open Fallible Keyed

variable {D : Type} {host : Host D}

theorem splitAtLast_append {c : Char} {s t : List Char} (h : c ∉ t) :
    splitAtLast c (s ++ c :: t) = some (s, t) := by
  have hne : ∀ x ∈ t.reverse, decide (x ≠ c) = true := fun x hx =>
    decide_eq_true fun heq => h (heq ▸ List.mem_reverse.mp hx)
  have hreverse : (s ++ c :: t).reverse = t.reverse ++ c :: s.reverse := by simp
  rw [splitAtLast, hreverse, List.dropWhile_append_of_pos hne,
    List.takeWhile_append_of_pos hne, List.dropWhile_cons_of_neg (by simp),
    List.takeWhile_cons_of_neg (by simp)]
  simp

theorem eq_of_splitAtLast {c : Char} {s before after : List Char}
    (h : splitAtLast c s = some (before, after)) : s = before ++ c :: after := by
  unfold splitAtLast at h
  split at h
  · cases h
  · rename_i d rest hdrop
    obtain ⟨rfl, rfl⟩ := Prod.mk.inj (Option.some.inj h)
    have hd : d = c := by
      have hhead := List.head?_dropWhile_not (fun x => decide (x ≠ c)) s.reverse
      rw [hdrop] at hhead
      simpa using hhead
    have hsplit := List.takeWhile_append_dropWhile (p := fun x => decide (x ≠ c)) (l := s.reverse)
    rw [hdrop, hd] at hsplit
    have hreverse := congrArg List.reverse hsplit
    rw [List.reverse_reverse] at hreverse
    simpa using hreverse.symm

/-! ## Cursors -/

theorem radix36Value_radix36Char : ∀ n < 36, radix36Value (radix36Char n) = n := by
  decide

theorem radix36Char_digit : ∀ n < 36,
    (isDigitChar (radix36Char n) || isLowerChar (radix36Char n)) = true := by
  decide

theorem parseInt36_toString36 (n : ℕ) : parseInt36 (toString36 n) = n := by
  unfold toString36
  split
  · rename_i h
    rw [h]
    decide
  · have hvalues : (Nat.digits 36 n).map (radix36Value ∘ radix36Char) = Nat.digits 36 n := by
      refine (List.map_congr_left fun d hd => ?_).trans (List.map_id _)
      exact radix36Value_radix36Char d (Nat.digits_lt_base (by decide) hd)
    simp only [parseInt36, List.map_reverse, List.reverse_reverse, List.map_map, hvalues,
      Nat.ofDigits_digits]

theorem toString36_digits (n : ℕ) :
    (toString36 n).isEmpty = false ∧
      (toString36 n).all (fun c => isDigitChar c || isLowerChar c) = true := by
  unfold toString36
  split
  · decide
  · rename_i h
    refine ⟨?_, List.all_eq_true.mpr fun c hc => ?_⟩
    · simpa [Nat.digits_eq_nil_iff_eq_zero] using h
    · obtain ⟨d, hd, rfl⟩ := List.mem_map.mp hc
      exact radix36Char_digit d (Nat.digits_lt_base (by decide) (List.mem_reverse.mp hd))

theorem length_toString36 {n : ℕ} (h : n ≤ maxSafeInteger) : (toString36 n).length ≤ 11 := by
  unfold toString36
  split
  · decide
  · have hlt : n < 36 ^ 11 := h.trans_lt (by decide)
    rw [List.length_map, List.length_reverse]
    exact (Nat.digits_length_le_iff (by decide) n).mpr hlt

/-- The codec reads back the cursors it issues for offsets that are safe integers. -/
structure OrganizerPreviewOpaqueTokenCodec.ReadsBack
    (opaqueTokens : OrganizerPreviewOpaqueTokenCodec host) : Prop where
  cursor : ∀ bindingDigestSha256 offset, offset ≤ maxSafeInteger → ∃ cursor : OrganizerCursor,
    opaqueTokens.issueCursor bindingDigestSha256 offset = some cursor.val ∧
      opaqueTokens.readCursor bindingDigestSha256 cursor.val = some offset

section

variable (hmac : KeyedHash D) (profile : OrganizerPreviewDigestProfile)

theorem hmacTag_shape (space : String) (value : Json D) :
    (hmacTag hmac profile host space value).length = 40 ∧
      ∀ c ∈ hmacTag hmac profile host space value, isHexChar c = true := by
  obtain ⟨hlength, hhex⟩ := of_matchesShape_replicate (hmac ((Json.obj
    [("schemaVersion", toJson (1 : ℕ)), ("profile", toJson profile), ("namespace", .text space),
      ("value", value)]).canonicalize host.nfc)).property
  refine ⟨?_, fun c hc => hhex c (List.mem_of_mem_take hc)⟩
  rw [hmacTag, List.length_take, hlength]
  rfl

theorem isOpaqueChar_of_isHexChar {c : Char} (h : isHexChar c = true) : isOpaqueChar c = true := by
  simp only [isHexChar, isOpaqueChar, isLowerChar, Bool.or_eq_true, decide_eq_true_eq] at h ⊢
  rcases h with h | h
  · exact .inl (.inl (.inr h))
  · exact .inl (.inl (.inl ⟨h.1, by omega⟩))

theorem isOpaqueChar_of_digit {c : Char} (h : (isDigitChar c || isLowerChar c) = true) :
    isOpaqueChar c = true := by
  simp only [isOpaqueChar, Bool.or_eq_true] at h ⊢
  rcases h with h | h
  · exact .inl (.inl (.inr h))
  · exact .inl (.inl (.inl h))

theorem isHexChar_ne_underscore {c : Char} (h : isHexChar c = true) : c ≠ '_' := by
  rintro rfl
  exact absurd h (by decide)

theorem toList_cursor (digits tag : List Char) :
    ("cur1_" ++ String.ofList digits ++ "_" ++ String.ofList tag).toList =
      "cur1_".toList ++ (digits ++ '_' :: tag) := by
  simp only [String.toList_append, String.toList_ofList, List.append_assoc]
  rfl

theorem readsBack_createHmac [DecidableEq D] :
    (createHmacOrganizerPreviewOpaqueTokenCodec hmac profile host).ReadsBack where
  cursor binding offset hoffset := by
    obtain ⟨hlength, hhex⟩ := @hmacTag_shape D host hmac profile "preview-cursor"
      (.obj [("binding", .digest binding), ("offset", toJson offset)])
    obtain ⟨hne, hdigits⟩ := toString36_digits offset
    change (cursorTag hmac profile host binding offset).length = 40 at hlength
    change ∀ c ∈ cursorTag hmac profile host binding offset, isHexChar c = true at hhex
    have hlist := toList_cursor (toString36 offset) (cursorTag hmac profile host binding offset)
    have hcursor : isOpaqueKey "cur1_" 512 ("cur1_" ++ String.ofList (toString36 offset) ++ "_" ++
        String.ofList (cursorTag hmac profile host binding offset)) = true := by
      have hshort := length_toString36 hoffset
      simp only [isOpaqueKey, Bool.and_eq_true, decide_eq_true_eq, List.all_eq_true]
      rw [hlist]
      refine ⟨⟨rfl, fun c hc => ?_⟩, ?_⟩
      · replace hc : c ∈ toString36 offset ++ '_' :: cursorTag hmac profile host binding offset := hc
        rcases List.mem_append.mp hc with hc | hc
        · exact isOpaqueChar_of_digit (List.all_eq_true.mp hdigits c hc)
        · rcases List.mem_cons.mp hc with rfl | hc
          · decide
          · exact isOpaqueChar_of_isHexChar (hhex c hc)
      · have htotal : ("cur1_".toList ++ (toString36 offset ++
            '_' :: cursorTag hmac profile host binding offset)).length - "cur1_".length =
            (toString36 offset).length + 41 := by
          rw [List.length_append, List.length_append, List.length_cons, hlength]
          exact Nat.add_sub_cancel_left _ _
        omega
    have hmatch : matchCursor ("cur1_" ++ String.ofList (toString36 offset) ++ "_" ++
        String.ofList (cursorTag hmac profile host binding offset)) =
        some (toString36 offset, cursorTag hmac profile host binding offset) := by
      have htag : '_' ∉ cursorTag hmac profile host binding offset :=
        fun h => isHexChar_ne_underscore (hhex _ h) rfl
      have htake : ("cur1_".toList ++ (toString36 offset ++
          '_' :: cursorTag hmac profile host binding offset)).take 5 = "cur1_".toList := rfl
      rw [matchCursor, hlist, if_pos htake]
      have hdrop : ("cur1_".toList ++ (toString36 offset ++
          '_' :: cursorTag hmac profile host binding offset)).drop 5 =
          toString36 offset ++ '_' :: cursorTag hmac profile host binding offset := rfl
      rw [hdrop, splitAtLast_append htag, Option.filter_some, if_pos]
      simp [hne, hlength, List.all_eq_true.mpr hhex, hdigits]
    refine ⟨⟨_, hcursor⟩, if_pos hoffset, ?_⟩
    simp only [createHmacOrganizerPreviewOpaqueTokenCodec, hmatch, Option.bind_some,
      parseInt36_toString36]
    exact if_pos ⟨hoffset, trivial⟩

end

/-! ## Masked addresses -/

def isGraphicChar (c : Char) : Bool := decide (0x21 ≤ c.val.toNat ∧ c.val.toNat ≤ 0x7E)

theorem isWhiteSpace_of_graphic {c : Char} (h : isGraphicChar c = true) :
    isWhiteSpace c = false := by
  simp only [isGraphicChar, decide_eq_true_eq] at h
  simp only [isWhiteSpace, Bool.or_eq_false_iff, decide_eq_false_iff_not, List.contains_eq_mem,
    List.mem_cons, List.not_mem_nil, or_false, not_or]
  omega

theorem trimChars_of_graphic {s : List Char} (h : ∀ c ∈ s, isGraphicChar c = true) :
    trimChars s = s := by
  have hdrop : ∀ t : List Char, (∀ c ∈ t, isGraphicChar c = true) →
      t.dropWhile isWhiteSpace = t := by
    intro t ht
    cases t with
    | nil => rfl
    | cons c t =>
      exact List.dropWhile_cons_of_neg (by simp [isWhiteSpace_of_graphic (ht c (by simp))])
  rw [trimChars, hdrop s h, hdrop s.reverse fun c hc => h c (List.mem_reverse.mp hc),
    List.reverse_reverse]

theorem collapseChars_of_graphic {s : List Char} (h : ∀ c ∈ s, isGraphicChar c = true) :
    ∀ b, collapseChars b s = s := by
  induction s with
  | nil => exact fun _ => rfl
  | cons c s ih =>
    intro b
    have hc : isWhiteSpace c = false := isWhiteSpace_of_graphic (h c (by simp))
    simp only [collapseChars, hc, Bool.false_eq_true, if_false,
      ih (fun d hd => h d (by simp [hd]))]

theorem canonicalSingleLine_iff_of_graphic {maximum : ℕ} {s : String} (hne : s ≠ "")
    (h : ∀ c ∈ s.toList, isGraphicChar c = true) :
    canonicalSingleLine host maximum s = true ↔ textLength s ≤ maximum := by
  have hascii : isAscii s = true := by
    refine List.all_eq_true.mpr fun c hc => ?_
    have hgraphic := h c hc
    simp only [isGraphicChar, isAsciiChar, decide_eq_true_eq] at hgraphic ⊢
    omega
  have hnormal : normalizeSingleLine host s = s := by
    rw [normalizeSingleLine, host.nfc_ascii s hascii, trimText, trimChars_of_graphic h,
      String.ofList_toList, collapseWhiteSpace, collapseChars_of_graphic h, String.ofList_toList]
  have hcontrol : s.toList.any isLatin1Control = false := by
    refine List.any_eq_false.mpr fun c hc => ?_
    have hgraphic := h c hc
    simp only [isGraphicChar, decide_eq_true_eq] at hgraphic
    simp only [isLatin1Control, decide_eq_true_eq]
    omega
  simp [canonicalSingleLine, hne, hnormal, hcontrol]

theorem isGraphicChar_of_isEmailChar {c : Char} (h : (isEmailChar c || c = '@') = true) :
    isGraphicChar c = true := by
  simp only [isEmailChar, isAlphanumericChar, isLowerChar, isDigitChar, isOneOf, Bool.or_eq_true,
    decide_eq_true_eq, List.contains_eq_mem, List.mem_cons, List.not_mem_nil, or_false] at h
  simp only [isGraphicChar, decide_eq_true_eq]
  rcases h with (((h | h) | h) | h) | h
  · omega
  · omega
  · omega
  · rcases h with rfl | rfl | rfl | rfl | rfl <;> decide
  · subst h
    decide

theorem graphic_splitDomain {domain : List Char} (h : ∀ c ∈ domain, isGraphicChar c = true) :
    (∀ c ∈ (splitDomain domain).1, isGraphicChar c = true) ∧
      ∀ c ∈ (splitDomain domain).2, isGraphicChar c = true := by
  unfold splitDomain
  split
  · rename_i name suffix hsplit
    have hdomain := eq_of_splitAtLast hsplit
    rw [hdomain] at h
    split
    · exact ⟨hdomain ▸ h, nofun⟩
    · exact ⟨fun c hc => h c (List.mem_append_left _ hc), fun c hc => h c (List.mem_append_right _ hc)⟩
  · exact ⟨h, nofun⟩

theorem graphic_maskEmail {value : String} (h : ∀ c ∈ value.toList, isGraphicChar c = true) :
    maskEmail value ≠ "" ∧ ∀ c ∈ (maskEmail value).toList, isGraphicChar c = true := by
  have hplain : "***@***" ≠ "" ∧ ∀ c ∈ "***@***".toList, isGraphicChar c = true :=
    ⟨by decide, List.all_eq_true.mp (by decide)⟩
  unfold maskEmail
  split
  · exact hplain
  · rename_i mailbox domain hsplit
    split
    · exact hplain
    · have hvalue := eq_of_splitAtLast hsplit
      rw [hvalue] at h
      obtain ⟨hname, hsuffix⟩ := graphic_splitDomain fun c hc =>
        h c (List.mem_append_right _ (List.mem_cons_of_mem _ hc))
      have hstars : ∀ c ∈ "***@".toList ++ "***".toList, isGraphicChar c = true :=
        List.all_eq_true.mp (by decide)
      constructor
      · intro hempty
        have hlist := congrArg String.toList hempty
        simp at hlist
      · intro c hc
        simp only [String.toList_ofList, List.mem_append, or_assoc] at hc
        rcases hc with hc | hc | hc | hc | hc
        · exact h c (List.mem_append_left _ (List.mem_of_mem_take hc))
        · exact hstars c (List.mem_append_left _ hc)
        · exact hname c (List.mem_of_mem_take hc)
        · exact hstars c (List.mem_append_right _ hc)
        · exact hsuffix c hc

theorem canonicalSingleLine_maskEmail_iff {maximum : ℕ} (email : EmailAddress) :
    canonicalSingleLine host maximum (maskEmail email.val) = true ↔
      textLength (maskEmail email.val) ≤ maximum := by
  have hemail := email.property.1
  rw [isEmail, Bool.and_eq_true] at hemail
  obtain ⟨hne, hgraphic⟩ := graphic_maskEmail fun c hc =>
    isGraphicChar_of_isEmailChar (List.all_eq_true.mp hemail.1 c hc)
  exact canonicalSingleLine_iff_of_graphic hne hgraphic

/-- The masked address of the row is short enough to be shown. -/
def OrganizerPreparedPreviewRow.MaskFits (row : OrganizerPreparedPreviewRow host) : Prop :=
  ∀ address ∈ row.address, textLength (maskEmail address.classifiedValue.value.val) ≤ 320

section

variable {disclosure : OrganizerContactDisclosure} {row : OrganizerPreparedPreviewRow host}
variable {projected : OrganizerMessagePreviewRecipientRow host}

theorem id_of_project (h : projectOrganizerPreviewRecipientRow disclosure row = .ok projected) :
    projected.recipientResolutionId = row.recipientResolutionId := by
  simp only [projectOrganizerPreviewRecipientRow, bind_eq_ok, require_eq_ok, pure_eq_ok,
    exists_const] at h
  obtain ⟨-, -, rfl⟩ := h
  rfl

theorem project_of_fits (hkeys : row.mergeFallbackFieldKeys.length ≤ 100 ∧
      row.mergeFallbackFieldKeys.Pairwise (· < ·)) (hfits : row.MaskFits)
    (disclosure : OrganizerContactDisclosure) :
    ∃ projected, projectOrganizerPreviewRecipientRow disclosure row = .ok projected := by
  have hmasked : (channelProjection row.address disclosure).maskedValue.all
      (canonicalSingleLine host 320) = true := by
    unfold OrganizerPreparedPreviewRow.MaskFits at hfits
    cases haddress : row.address with
    | none => rfl
    | some address =>
      have hmask : canonicalSingleLine host 320 (maskEmail address.classifiedValue.value.val) =
          true := (canonicalSingleLine_maskEmail_iff _).mpr (hfits address haddress)
      cases disclosure with
      | masked => exact hmask
      | exactAuthorized => exact hmask
      | withheld => rfl
  rw [projectOrganizerPreviewRecipientRow, require_eq_ok (u := ()).mpr hmasked, ok_bind, require_eq_ok (u := ()).mpr hkeys]
  exact ⟨_, rfl⟩

theorem fits_of_project (h : projectOrganizerPreviewRecipientRow .masked row = .ok projected) :
    row.MaskFits := by
  simp only [projectOrganizerPreviewRecipientRow, bind_eq_ok, require_eq_ok, pure_eq_ok,
    exists_const] at h
  obtain ⟨hmasked, -⟩ := h
  intro address haddress
  rw [haddress] at hmasked
  exact (@canonicalSingleLine_maskEmail_iff D host _ address.classifiedValue.value).mp hmasked

end

/-! ## Following the cursors -/

/-- The pages of a list from a cursor on, each with a limit of its own, as long as there is
fuel for another page. -/
def followRecipientPages (list : Option OrganizerCursor → Option OrganizerRecipientLimit →
      Except OrganizerPreviewError (OrganizerMessagePreviewRecipientPage host)) :
    ℕ → (ℕ → Option OrganizerRecipientLimit) → Option OrganizerCursor →
      Except OrganizerPreviewError (Option (List (OrganizerMessagePreviewRecipientPage host)))
  | 0, _, _ => .ok none
  | fuel + 1, limits, cursor => do
    let page ← list cursor (limits 0)
    page.nextCursor.elim (.ok (some [page])) fun next =>
      (followRecipientPages list fuel (fun n => limits (n + 1)) (some next)).map
        (Option.map (page :: ·))

section

variable {snapshot : OrganizerPreparedMessageBatchPreview host}
variable {disclosure : OrganizerContactDisclosure}
variable {opaqueTokens : OrganizerPreviewOpaqueTokenCodec host}
variable {filter : OrganizerMessagePreviewRecipientFilter}
variable {projected : List (OrganizerMessagePreviewRecipientRow host)}

/-- The page of a filter at a cursor, of the snapshot as it is. -/
def recipientPage [DecidableEq D] (snapshot : OrganizerPreparedMessageBatchPreview host)
    (disclosure : OrganizerContactDisclosure)
    (opaqueTokens : OrganizerPreviewOpaqueTokenCodec host)
    (filter : OrganizerMessagePreviewRecipientFilter) (cursor : Option OrganizerCursor)
    (limit : Option OrganizerRecipientLimit) :
    Except OrganizerPreviewError (OrganizerMessagePreviewRecipientPage host) :=
  listOrganizerMessagePreviewRecipients snapshot disclosure opaqueTokens
    { identity := snapshot.summary.identity, filter, cursor, limit }

def pageLimit (limit : Option OrganizerRecipientLimit) : ℕ := (limit.map Subtype.val).getD 50

theorem pageLimit_bounds (limit : Option OrganizerRecipientLimit) :
    0 < pageLimit limit ∧ pageLimit limit ≤ 200 := by
  cases limit with
  | none => decide
  | some limit => exact limit.property

theorem OrganizerCursor.parse_val (cursor : OrganizerCursor) :
    OrganizerCursor.parse cursor.val = some cursor := dif_pos cursor.property

theorem nextPageCursor_eq_ok (hcodec : opaqueTokens.ReadsBack) {binding : D} {offset total : ℕ}
    (htotal : total ≤ maxSafeInteger) :
    ∃ next, nextPageCursor opaqueTokens binding offset total = .ok next ∧
      (next = none → total ≤ offset) ∧
      ∀ cursor ∈ next, offset < total ∧ pageOffset opaqueTokens binding (some cursor) = .ok offset := by
  unfold nextPageCursor
  split
  · rename_i hlt
    obtain ⟨cursor, hissue, hread⟩ := hcodec.cursor binding offset (hlt.le.trans htotal)
    refine ⟨some cursor, ?_, nofun, ?_⟩
    · rw [hissue, Option.bind_some, OrganizerCursor.parse_val]
      rfl
    · rintro _ ⟨⟩
      exact ⟨hlt, orRefuse_eq_ok.mpr hread⟩
  · rename_i hle
    exact ⟨none, rfl, fun _ => not_lt.mp hle, nofun⟩

theorem recipientPage_eq_ok [DecidableEq D] (hcodec : opaqueTokens.ReadsBack)
    (hdistinct : (snapshot.rows.map (·.recipientResolutionId)).Nodup)
    (hbounded : snapshot.rows.length ≤ maxSafeInteger)
    (hprojected : (snapshot.filtered filter).mapM (projectOrganizerPreviewRecipientRow disclosure) =
      .ok projected)
    {cursor : Option OrganizerCursor} {offset : ℕ} (limit : Option OrganizerRecipientLimit)
    (hcursor : pageOffset opaqueTokens (bindingDigest snapshot disclosure filter) cursor =
      .ok offset) (hoffset : offset ≤ projected.length) :
    ∃ page, recipientPage snapshot disclosure opaqueTokens filter cursor limit = .ok page ∧
      page.rows = (projected.drop offset).take (pageLimit limit) ∧
      (page.nextCursor = none → projected.length ≤ offset + page.rows.length) ∧
      ∀ next ∈ page.nextCursor, offset + page.rows.length < projected.length ∧
        pageOffset opaqueTokens (bindingDigest snapshot disclosure filter) (some next) =
          .ok (offset + page.rows.length) := by
  have hpairs := forall₂_of_mapM_eq_ok hprojected
  have hlength : (snapshot.filtered filter).length = projected.length := hpairs.length_eq
  have hslice : (((snapshot.filtered filter).drop offset).take (pageLimit limit)).mapM
      (projectOrganizerPreviewRecipientRow disclosure) =
      .ok ((projected.drop offset).take (pageLimit limit)) :=
    mapM_eq_ok_of_forall₂ (List.forall₂_take _ (List.forall₂_drop _ hpairs))
  have htotal : (snapshot.filtered filter).length ≤ maxSafeInteger :=
    (List.length_filter_le _ _).trans hbounded
  have hids : (((projected.drop offset).take (pageLimit limit)).map
      (·.recipientResolutionId)).Nodup := by
    have hall : projected.map (·.recipientResolutionId) =
        (snapshot.filtered filter).map (·.recipientResolutionId) :=
      map_eq_of_forall₂ (fun _ _ h => id_of_project h) hpairs
    have hnodup : (projected.map (·.recipientResolutionId)).Nodup :=
      hall ▸ hdistinct.sublist (List.filter_sublist.map _)
    exact hnodup.sublist (((List.take_sublist _ _).trans (List.drop_sublist _ _)).map _)
  have hshort : ((projected.drop offset).take (pageLimit limit)).length ≤ 200 :=
    (List.length_take_le _ _).trans (pageLimit_bounds limit).2
  obtain ⟨next, hnext, hnone, hsome⟩ := @nextPageCursor_eq_ok D host opaqueTokens hcodec
    (bindingDigest snapshot disclosure filter)
    (offset + ((projected.drop offset).take (pageLimit limit)).length) _ htotal
  rw [hlength] at hnone hsome
  refine ⟨
    { identity := snapshot.summary.identity
      rows := (projected.drop offset).take (pageLimit limit)
      nextCursor := next }, ?_, rfl, hnone, hsome⟩
  rw [recipientPage, listOrganizerMessagePreviewRecipients,
    require_eq_ok (u := ()).mpr (Host.Same.refl _ _), ok_bind]
  dsimp only
  rw [hcursor, ok_bind, require_eq_ok (u := ()).mpr (hlength ▸ hoffset), ok_bind]
  change ((((snapshot.filtered filter).drop offset).take (pageLimit limit)).mapM
    (projectOrganizerPreviewRecipientRow disclosure) >>= _) = _
  rw [hslice, ok_bind, hnext, ok_bind, require_eq_ok (u := ()).mpr ⟨hids, hshort⟩]
  rfl

theorem follow_eq_ok [DecidableEq D] (hcodec : opaqueTokens.ReadsBack)
    (hdistinct : (snapshot.rows.map (·.recipientResolutionId)).Nodup)
    (hbounded : snapshot.rows.length ≤ maxSafeInteger)
    (hprojected : (snapshot.filtered filter).mapM (projectOrganizerPreviewRecipientRow disclosure) =
      .ok projected) {fuel : ℕ} {limits : ℕ → Option OrganizerRecipientLimit}
    {cursor : Option OrganizerCursor} {offset : ℕ}
    (hcursor : pageOffset opaqueTokens (bindingDigest snapshot disclosure filter) cursor =
      .ok offset) (hoffset : offset ≤ projected.length) (hfuel : projected.length < offset + fuel) :
    ∃ pages, followRecipientPages (recipientPage snapshot disclosure opaqueTokens filter) fuel
        limits cursor = .ok (some pages) ∧
      pages.flatMap (·.rows) = projected.drop offset := by
  induction fuel generalizing limits cursor offset with
  | zero => omega
  | succ fuel ih =>
    obtain ⟨page, hpage, hrows, hnone, hsome⟩ := recipientPage_eq_ok hcodec hdistinct hbounded
      hprojected (limits 0) hcursor hoffset
    have hlimit := (pageLimit_bounds (limits 0)).1
    have hlength : page.rows.length = min (pageLimit (limits 0)) (projected.length - offset) := by
      rw [hrows, List.length_take, List.length_drop]
    rw [followRecipientPages, hpage, ok_bind]
    cases hnext : page.nextCursor with
    | none =>
      refine ⟨[page], rfl, ?_⟩
      have hend := hnone hnext
      rw [List.flatMap_singleton, hrows, List.take_of_length_le]
      rw [List.length_drop]
      omega
    | some next =>
      obtain ⟨hlt, hread⟩ := hsome next hnext
      obtain ⟨pages, hpages, hrest⟩ := @ih (fun n => limits (n + 1)) _ _ hread hlt.le
        (by omega)
      refine ⟨page :: pages, ?_, ?_⟩
      · rw [Option.elim_some, hpages]
        rfl
      · have hfull : page.rows.length = pageLimit (limits 0) := by omega
        rw [List.flatMap_cons, hrest, ← List.drop_drop, hfull, hrows, List.take_append_drop]

end

end JooEvents
