import JooEvents.Triage.Matching

/-!
# Laws of the search

A query may be spelled in other ways. What folds to the same characters may stand for each other,
and so may two runs of characters that break words; the fold is then the same in every text
(`Interchangeable.fold_eq`), and the query has the same tokens up to such spelling as long as white
space stays white space (`Respelled.sameTokens`).

By the fold a mark is dropped (`interchangeable_mark`), and the capital letters that have a line of
their own in it go with the small ones (`interchangeable_case`).

The break matters : a token that is broken by more than white space is still one term, of words
that stand together; and letters of other scripts fold to no letter, so that a query of them is no
filter at all (`separators_and_scripts_count`). The query is one that its schema has read : that it
is trimmed and of 200 characters at most is not part of the laws.
-/

namespace JooEvents

variable {nfkd toLocaleLowerCase : Char → List Char}

/-! ## Other spellings -/

/-- Two texts fold to the same characters, or both only break words. -/
def Interchangeable (nfkd toLocaleLowerCase : Char → List Char) (s t : List Char) : Prop :=
  foldedChars nfkd toLocaleLowerCase s = foldedChars nfkd toLocaleLowerCase t ∨
    AreBreaks nfkd toLocaleLowerCase s ∧ AreBreaks nfkd toLocaleLowerCase t

theorem Interchangeable.fold_eq {s t : List Char} (h : Interchangeable nfkd toLocaleLowerCase s t)
    (before after : List Char) :
    foldSubmissionTriageSearchText nfkd toLocaleLowerCase (before ++ s ++ after) =
      foldSubmissionTriageSearchText nfkd toLocaleLowerCase (before ++ t ++ after) := by
  simp only [fold_eq_spaced, foldedChars_append]
  rcases h with heq | ⟨⟨hs, hsbreak⟩, ht, htbreak⟩
  · rw [heq]
  · rw [spaced_append_breaks _ hs hsbreak, spaced_append_breaks _ ht htbreak]

theorem atomicFolds_notMark : ∀ fold ∈ atomicFolds, isCombiningMark fold.1 = false := by decide

theorem foldSearchChar_of_notMem {c : Char} (h : ∀ fold ∈ atomicFolds, fold.1 ≠ c) :
    foldSearchChar nfkd toLocaleLowerCase c =
      ((nfkd c).filter fun d => !isCombiningMark d).flatMap toLocaleLowerCase := by
  have hnone : (atomicFolds.find? fun fold => fold.1 = c) = none :=
    List.find?_eq_none.mpr fun fold hfold => by simpa using h fold hfold
  rw [foldSearchChar, hnone]
  rfl

/-- A mark that is normalized to marks is dropped. -/
theorem foldSearchChar_mark {mark : Char} (hmark : isCombiningMark mark = true)
    (hnfkd : ∀ d ∈ nfkd mark, isCombiningMark d = true) :
    foldSearchChar nfkd toLocaleLowerCase mark = [] := by
  have hatomic : ∀ fold ∈ atomicFolds, fold.1 ≠ mark := by
    rintro fold hfold rfl
    rw [atomicFolds_notMark fold hfold] at hmark
    cases hmark
  rw [foldSearchChar_of_notMem hatomic, List.filter_eq_nil_iff.mpr (by simpa using hnfkd)]
  rfl

/-- A letter stands for the same letter with a mark after it. -/
theorem interchangeable_mark (s : List Char) {mark : Char} (hmark : isCombiningMark mark = true)
    (hnfkd : ∀ d ∈ nfkd mark, isCombiningMark d = true) :
    Interchangeable nfkd toLocaleLowerCase s (s ++ [mark]) := by
  refine .inl ?_
  rw [foldedChars_append]
  simp [foldedChars, foldSearchChar_mark hmark hnfkd]

/-- The small and the capital letters of `ATOMIC_FOLDS`. -/
def atomicCases : List (Char × Char) :=
  [('ø', 'Ø'), ('ı', 'İ'), ('ł', 'Ł'), ('đ', 'Đ'), ('ð', 'Ð'), ('þ', 'Þ'), ('ß', 'ẞ'), ('æ', 'Æ'),
    ('œ', 'Œ'), ('ŋ', 'Ŋ'), ('ħ', 'Ħ'), ('ŧ', 'Ŧ')]

/-- A capital letter of the table stands for its small letter. -/
theorem interchangeable_case {letters : Char × Char} (h : letters ∈ atomicCases) :
    Interchangeable nfkd toLocaleLowerCase [letters.1] [letters.2] := by
  have hsame : ∀ letters ∈ atomicCases,
      ((atomicFolds.find? fun fold => fold.1 = letters.1).map Prod.snd).isSome = true ∧
        (atomicFolds.find? fun fold => fold.1 = letters.1).map Prod.snd =
          (atomicFolds.find? fun fold => fold.1 = letters.2).map Prod.snd := by decide
  obtain ⟨hsome, heq⟩ := hsame letters h
  obtain ⟨expanded, hsmall⟩ := Option.isSome_iff_exists.mp hsome
  refine .inl ?_
  rw [foldedChars, foldedChars, List.flatMap_singleton, List.flatMap_singleton, foldSearchChar,
    foldSearchChar, ← heq, hsmall]
  rfl

/-- The texts differ in one part at most, for an interchangeable one. -/
def SameText (nfkd toLocaleLowerCase : Char → List Char) (text text' : List Char) : Prop :=
  ∃ before s t after, Interchangeable nfkd toLocaleLowerCase s t ∧
    text = before ++ s ++ after ∧ text' = before ++ t ++ after

theorem SameText.refl (text : List Char) : SameText nfkd toLocaleLowerCase text text :=
  ⟨text, [], [], [], .inl rfl, by simp, by simp⟩

theorem SameText.append {text text' : List Char} (h : SameText nfkd toLocaleLowerCase text text')
    (more : List Char) : SameText nfkd toLocaleLowerCase (text ++ more) (text' ++ more) := by
  obtain ⟨before, s, t, after, hst, rfl, rfl⟩ := h
  exact ⟨before, s, t, after ++ more, hst, by simp, by simp⟩

theorem SameText.fold_eq {text text' : List Char} (h : SameText nfkd toLocaleLowerCase text text') :
    foldSubmissionTriageSearchText nfkd toLocaleLowerCase text =
      foldSubmissionTriageSearchText nfkd toLocaleLowerCase text' := by
  obtain ⟨before, s, t, after, hst, rfl, rfl⟩ := h
  exact hst.fold_eq before after

/-- Quoted or not, the tokens fold to the same text. -/
def SameToken (nfkd toLocaleLowerCase : Char → List Char) (token token' : SearchToken) : Prop :=
  token.phrase = token'.phrase ∧
    foldSubmissionTriageSearchText nfkd toLocaleLowerCase token.text =
      foldSubmissionTriageSearchText nfkd toLocaleLowerCase token'.text

/-- Queries of as many tokens, that are pairwise the same. -/
def SameTokens (nfkd toLocaleLowerCase : Char → List Char) (tokens tokens' : List SearchToken) :
    Prop :=
  List.Forall₂ (SameToken nfkd toLocaleLowerCase) tokens tokens'

theorem SameTokens.refl (tokens : List SearchToken) :
    SameTokens nfkd toLocaleLowerCase tokens tokens :=
  List.forall₂_same.mpr fun _ _ => ⟨rfl, rfl⟩

theorem SameTokens.trans {tokens tokens' tokens'' : List SearchToken}
    (h : SameTokens nfkd toLocaleLowerCase tokens tokens')
    (h' : SameTokens nfkd toLocaleLowerCase tokens' tokens'') :
    SameTokens nfkd toLocaleLowerCase tokens tokens'' := by
  induction h generalizing tokens'' with
  | nil => exact h'
  | cons hhead _ ih =>
    cases h' with
    | cons hhead' htail' =>
      exact .cons ⟨hhead.1.trans hhead'.1, hhead.2.trans hhead'.2⟩ (ih htail')

/-- Two states of reading, in tokens that began alike. -/
inductive SameScan (nfkd toLocaleLowerCase : Char → List Char) : SearchScan → SearchScan → Prop
  | outside : SameScan nfkd toLocaleLowerCase .outside .outside
  | bare {text text' : List Char} (h : SameText nfkd toLocaleLowerCase text text') :
      SameScan nfkd toLocaleLowerCase (.bare text) (.bare text')
  | quoted {text text' : List Char} (h : SameText nfkd toLocaleLowerCase text text') :
      SameScan nfkd toLocaleLowerCase (.quoted text) (.quoted text')

theorem SameScan.sameTokens :
    ∀ (cs : List Char) {scan scan' : SearchScan}, SameScan nfkd toLocaleLowerCase scan scan' →
      SameTokens nfkd toLocaleLowerCase (searchTokens scan cs) (searchTokens scan' cs)
  | cs, _, _, .outside => .refl _
  | [], _, _, .bare h => .cons ⟨rfl, h.fold_eq⟩ .nil
  | [], _, _, .quoted h => .cons ⟨rfl, h.fold_eq⟩ .nil
  | c :: cs, _, _, .bare h => by
    rw [searchTokens, searchTokens]
    split_ifs
    · exact .cons ⟨rfl, h.fold_eq⟩ (SameTokens.refl _)
    · exact SameScan.sameTokens cs (.bare (h.append [c]))
  | c :: cs, _, _, .quoted h => by
    rw [searchTokens, searchTokens]
    split_ifs
    · exact .cons ⟨rfl, h.fold_eq⟩ (SameTokens.refl _)
    · exact SameScan.sameTokens cs (.quoted (h.append [c]))

def IsWord (s : List Char) : Prop := s ≠ [] ∧ ∀ c ∈ s, isWhiteSpace c = false ∧ c ≠ '"'

def IsSpace (s : List Char) : Prop := s ≠ [] ∧ ∀ c ∈ s, isWhiteSpace c = true

theorem searchTokens_quoted_append :
    ∀ {cs : List Char}, (∀ c ∈ cs, c ≠ '"') → ∀ text rest,
      searchTokens (.quoted text) (cs ++ rest) = searchTokens (.quoted (text ++ cs)) rest
  | [], _, text, rest => by simp
  | c :: cs, h, text, rest => by
    rw [List.cons_append, searchTokens, if_neg (h c List.mem_cons_self),
      searchTokens_quoted_append (fun d hd => h d (List.mem_cons_of_mem c hd)), List.append_assoc]
    rfl

def SearchScan.afterWord : SearchScan → List Char → SearchScan
  | .outside, s => .bare s
  | .bare text, s => .bare (text ++ s)
  | .quoted text, s => .quoted (text ++ s)

theorem searchTokens_word {s : List Char} (hs : IsWord s) (scan : SearchScan) (rest : List Char) :
    searchTokens scan (s ++ rest) = searchTokens (scan.afterWord s) rest := by
  obtain ⟨hne, hchars⟩ := hs
  cases scan with
  | outside =>
    obtain ⟨c, cs, rfl⟩ := List.exists_cons_of_ne_nil hne
    obtain ⟨hspace, hquote⟩ := hchars c List.mem_cons_self
    rw [List.cons_append, searchTokens, if_neg hquote, if_neg (by simp [hspace]),
      searchTokens_bare fun d hd => (hchars d (List.mem_cons_of_mem c hd)).1]
    rfl
  | bare text => exact searchTokens_bare (fun c hc => (hchars c hc).1) text rest
  | quoted text => exact searchTokens_quoted_append (fun c hc => (hchars c hc).2) text rest

theorem searchTokens_outside_space :
    ∀ {s : List Char}, (∀ c ∈ s, isWhiteSpace c = true) → ∀ rest,
      searchTokens .outside (s ++ rest) = searchTokens .outside rest
  | [], _, _ => rfl
  | c :: cs, h, rest => by
    have hspace := h c List.mem_cons_self
    have hquote : c ≠ '"' := by
      rintro rfl
      exact absurd hspace (by decide)
    rw [List.cons_append, searchTokens, if_neg hquote, if_pos hspace,
      searchTokens_outside_space fun d hd => h d (List.mem_cons_of_mem c hd)]

/-! ## Other spellings of a query -/

/-- Where the reading is after one more character. -/
def SearchScan.next : SearchScan → Char → SearchScan
  | .outside, c =>
    if c = '"' then .quoted [] else if isWhiteSpace c then .outside else .bare [c]
  | .bare text, c => if isWhiteSpace c then .outside else .bare (text ++ [c])
  | .quoted text, c => if c = '"' then .outside else .quoted (text ++ [c])

theorem exists_searchTokens_append :
    ∀ (before : List Char) (scan : SearchScan), ∃ init, ∀ cs,
      searchTokens scan (before ++ cs) = init ++ searchTokens (before.foldl .next scan) cs
  | [], _ => ⟨[], fun _ => rfl⟩
  | c :: before, .outside => by
    obtain ⟨init, hinit⟩ := exists_searchTokens_append before (.next .outside c)
    refine ⟨init, fun cs => ?_⟩
    rw [List.foldl_cons, ← hinit, List.cons_append, searchTokens, SearchScan.next]
    split_ifs <;> rfl
  | c :: before, .bare text => by
    obtain ⟨init, hinit⟩ := exists_searchTokens_append before (.next (.bare text) c)
    refine ⟨if isWhiteSpace c then ⟨text, false⟩ :: init else init, fun cs => ?_⟩
    rw [List.foldl_cons, List.cons_append, searchTokens]
    rw [SearchScan.next] at hinit ⊢
    split_ifs at hinit ⊢ <;> simp [hinit]
  | c :: before, .quoted text => by
    obtain ⟨init, hinit⟩ := exists_searchTokens_append before (.next (.quoted text) c)
    refine ⟨if c = '"' then ⟨text, true⟩ :: init else init, fun cs => ?_⟩
    rw [List.foldl_cons, List.cons_append, searchTokens]
    rw [SearchScan.next] at hinit ⊢
    split_ifs at hinit ⊢ <;> simp [hinit]

/-- A query in another spelling : a part of a token for one that is interchangeable with it, white
space for white space, or, in a quoted text, whatever is interchangeable. -/
inductive Respelled (nfkd toLocaleLowerCase : Char → List Char) : List Char → List Char → Prop
  | word (before after : List Char) {s t : List Char} (hs : IsWord s) (ht : IsWord t)
      (h : Interchangeable nfkd toLocaleLowerCase s t) :
      Respelled nfkd toLocaleLowerCase (before ++ s ++ after) (before ++ t ++ after)
  | space (before after : List Char) {s t : List Char} (hs : IsSpace s) (ht : IsSpace t) :
      Respelled nfkd toLocaleLowerCase (before ++ s ++ after) (before ++ t ++ after)
  | quoted (before text after : List Char) {s t : List Char}
      (hin : before.foldl SearchScan.next .outside = SearchScan.quoted text) (hs : ∀ c ∈ s, c ≠ '"')
      (ht : ∀ c ∈ t, c ≠ '"') (h : Interchangeable nfkd toLocaleLowerCase s t) :
      Respelled nfkd toLocaleLowerCase (before ++ s ++ after) (before ++ t ++ after)
  | trans {cs ds es : List Char} (h : Respelled nfkd toLocaleLowerCase cs ds)
      (h' : Respelled nfkd toLocaleLowerCase ds es) : Respelled nfkd toLocaleLowerCase cs es

theorem sameTokens_append_left (before : List Char) {cs ds : List Char}
    (h : SameTokens nfkd toLocaleLowerCase (searchTokens (before.foldl .next .outside) cs)
      (searchTokens (before.foldl .next .outside) ds)) :
    SameTokens nfkd toLocaleLowerCase (searchTokens .outside (before ++ cs))
      (searchTokens .outside (before ++ ds)) := by
  obtain ⟨init, hinit⟩ := exists_searchTokens_append before .outside
  rw [hinit, hinit]
  exact List.rel_append (SameTokens.refl init) h

theorem sameTokens_word {s t : List Char} (hs : IsWord s) (ht : IsWord t)
    (h : Interchangeable nfkd toLocaleLowerCase s t) (after : List Char) (scan : SearchScan) :
    SameTokens nfkd toLocaleLowerCase (searchTokens scan (s ++ after))
      (searchTokens scan (t ++ after)) := by
  rw [searchTokens_word hs, searchTokens_word ht]
  refine SameScan.sameTokens after ?_
  cases scan with
  | outside => exact .bare ⟨[], s, t, [], h, by simp, by simp⟩
  | bare text => exact .bare ⟨text, s, t, [], h, by simp, by simp⟩
  | quoted text => exact .quoted ⟨text, s, t, [], h, by simp, by simp⟩

section

variable (hbreaks : SpacesBreak nfkd toLocaleLowerCase)

include hbreaks

theorem IsSpace.areBreaks {s : List Char} (hs : IsSpace s) :
    AreBreaks nfkd toLocaleLowerCase s := by
  obtain ⟨hne, hspace⟩ := hs
  have hchar : ∀ c ∈ s, foldSearchChar nfkd toLocaleLowerCase c ≠ [] ∧
      ∀ out ∈ foldSearchChar nfkd toLocaleLowerCase c, isFoldedChar out = false := by
    intro c hc
    simpa [AreBreaks, foldedChars] using hbreaks c (.inl (hspace c hc))
  constructor
  · obtain ⟨c, cs, rfl⟩ := List.exists_cons_of_ne_nil hne
    rw [foldedChars, List.flatMap_cons]
    exact List.append_ne_nil_of_left_ne_nil (hchar c List.mem_cons_self).1 _
  · intro out hout
    obtain ⟨c, hc, hout⟩ := List.mem_flatMap.mp hout
    exact (hchar c hc).2 out hout

theorem sameTokens_space {s t : List Char} (hs : IsSpace s) (ht : IsSpace t) (after : List Char)
    (scan : SearchScan) :
    SameTokens nfkd toLocaleLowerCase (searchTokens scan (s ++ after))
      (searchTokens scan (t ++ after)) := by
  have hread : ∀ {r : List Char}, IsSpace r → ∀ c ∈ r, c ≠ '"' := by
    rintro r hr c hc rfl
    exact absurd (hr.2 _ hc) (by decide)
  cases scan with
  | outside =>
    rw [searchTokens_outside_space hs.2, searchTokens_outside_space ht.2]
    exact .refl _
  | bare text =>
    have hends : ∀ {r : List Char}, IsSpace r → searchTokens (.bare text) (r ++ after) =
        ⟨text, false⟩ :: searchTokens .outside after := by
      intro r hr
      obtain ⟨c, cs, rfl⟩ := List.exists_cons_of_ne_nil hr.1
      rw [List.cons_append, searchTokens, if_pos (hr.2 c List.mem_cons_self),
        searchTokens_outside_space fun d hd => hr.2 d (List.mem_cons_of_mem c hd)]
    rw [hends hs, hends ht]
    exact .refl _
  | quoted text =>
    rw [searchTokens_quoted_append (hread hs), searchTokens_quoted_append (hread ht)]
    exact SameScan.sameTokens after (.quoted
      ⟨text, s, t, [], .inr ⟨hs.areBreaks hbreaks, ht.areBreaks hbreaks⟩, by simp, by simp⟩)

theorem Respelled.sameTokens {cs ds : List Char} (h : Respelled nfkd toLocaleLowerCase cs ds) :
    SameTokens nfkd toLocaleLowerCase (searchTokens .outside cs) (searchTokens .outside ds) := by
  induction h with
  | word before after hs ht h =>
    rw [List.append_assoc, List.append_assoc]
    exact sameTokens_append_left before (sameTokens_word hs ht h after _)
  | space before after hs ht =>
    rw [List.append_assoc, List.append_assoc]
    exact sameTokens_append_left before (sameTokens_space hbreaks hs ht after _)
  | quoted before text after hin hs ht h =>
    rw [List.append_assoc, List.append_assoc]
    refine sameTokens_append_left before ?_
    rw [hin, searchTokens_quoted_append hs, searchTokens_quoted_append ht]
    exact SameScan.sameTokens after (.quoted ⟨text, _, _, [], h, by simp, by simp⟩)
  | trans _ _ ih ih' => exact ih.trans ih'

end

theorem SameTokens.exists_of_mem {tokens tokens' : List SearchToken}
    (h : SameTokens nfkd toLocaleLowerCase tokens tokens') {token : SearchToken}
    (htoken : token ∈ tokens) :
    ∃ token' ∈ tokens', SameToken nfkd toLocaleLowerCase token token' := by
  induction h with
  | nil => cases htoken
  | cons hhead _ ih =>
    rcases List.mem_cons.mp htoken with rfl | htoken
    · exact ⟨_, List.mem_cons_self, hhead⟩
    · obtain ⟨token', htoken', hsame⟩ := ih htoken
      exact ⟨token', List.mem_cons_of_mem _ htoken', hsame⟩

theorem SameTokens.symm {tokens tokens' : List SearchToken}
    (h : SameTokens nfkd toLocaleLowerCase tokens tokens') :
    SameTokens nfkd toLocaleLowerCase tokens' tokens :=
  List.Forall₂.imp (fun _ _ h => ⟨h.1.symm, h.2.symm⟩) h.flip

theorem SameTokens.mem_terms {raw raw' : String} {term : SubmissionTriageSearchTerm}
    (h : SameTokens nfkd toLocaleLowerCase (searchTokens .outside raw.toList)
      (searchTokens .outside raw'.toList))
    (hterm : term ∈ (parseSubmissionTriageSearch nfkd toLocaleLowerCase raw).terms) :
    term ∈ (parseSubmissionTriageSearch nfkd toLocaleLowerCase raw').terms := by
  obtain ⟨hne, token, htoken, hfold, hphrase⟩ := mem_terms_iff.mp hterm
  obtain ⟨token', htoken', hsame⟩ := h.exists_of_mem htoken
  exact mem_terms_iff.mpr
    ⟨hne, token', htoken', hsame.2.symm.trans hfold, hsame.1.symm.trans hphrase⟩

theorem matchedRows_of_sameTokens {raw raw' : String}
    (h : SameTokens nfkd toLocaleLowerCase (searchTokens .outside raw.toList)
      (searchTokens .outside raw'.toList)) (rows : List SubmissionTriageProjection) :
    matchedRows nfkd toLocaleLowerCase rows raw' = matchedRows nfkd toLocaleLowerCase rows raw :=
  matchedRows_congr (fun _ => ⟨h.symm.mem_terms, h.mem_terms⟩) rows

theorem matchedRows_of_mem_iff {raw : String} {tokens : List SearchToken}
    (h : ∀ token, token ∈ tokens ↔ token ∈ searchTokens .outside raw.toList)
    (rows : List SubmissionTriageProjection) :
    matchedRows nfkd toLocaleLowerCase rows (String.ofList (renderTokens tokens)) =
      matchedRows nfkd toLocaleLowerCase rows raw := by
  have hread : searchTokens .outside (String.ofList (renderTokens tokens)).toList = tokens := by
    rw [String.toList_ofList]
    exact searchTokens_renderTokens fun token htoken =>
      isRead_of_mem raw.toList .outside trivial token ((h token).mp htoken)
  refine matchedRows_congr (fun term => ?_) rows
  simp only [mem_terms_iff, hread, h]

/-- What an organizer may rely on in a search. -/
structure SearchLaws (nfkd toLocaleLowerCase : Char → List Char) : Prop where
  /-- More terms narrow. -/
  narrows : ∀ (rows : List SubmissionTriageProjection) (raw raw' : String) (space : Char)
    (extra : List Char), isWhiteSpace space = true → raw'.toList = raw.toList ++ space :: extra →
      matchedRows nfkd toLocaleLowerCase rows raw' ⊆ matchedRows nfkd toLocaleLowerCase rows raw
  /-- Terms may come in any order and several times. -/
  unordered : ∀ (rows : List SubmissionTriageProjection) (raw : String)
    (tokens : List SearchToken),
      (∀ token, token ∈ tokens ↔ token ∈ searchTokens .outside raw.toList) →
        matchedRows nfkd toLocaleLowerCase rows (String.ofList (renderTokens tokens)) =
          matchedRows nfkd toLocaleLowerCase rows raw
  /-- Another spelling finds the same. -/
  respelled : ∀ (rows : List SubmissionTriageProjection) (raw raw' : String),
    Respelled nfkd toLocaleLowerCase raw.toList raw'.toList →
      matchedRows nfkd toLocaleLowerCase rows raw' = matchedRows nfkd toLocaleLowerCase rows raw
  /-- A quoted text finds no more than its words. -/
  quoted : ∀ (rows : List SubmissionTriageProjection) (raw raw' : String), '"' ∉ raw.toList →
    raw'.toList = '"' :: raw.toList ++ ['"'] →
      matchedRows nfkd toLocaleLowerCase rows raw' ⊆ matchedRows nfkd toLocaleLowerCase rows raw
  /-- A row is found by whole words of its own. -/
  ownWords : ∀ (rows : List SubmissionTriageProjection), ∀ row ∈ rows,
    ∀ field ∈ searchFields row, ∀ (before text after : List Char) (raw : String),
      field.text = before ++ text ++ after → EndsInBreak nfkd toLocaleLowerCase before →
        StartsInBreak nfkd toLocaleLowerCase after →
          foldSubmissionTriageSearchText nfkd toLocaleLowerCase text ≠ [] →
            raw.toList = '"' :: text ++ ['"'] →
              (matchSubmissionTriageProjection nfkd toLocaleLowerCase row
                  (parseSubmissionTriageSearch nfkd toLocaleLowerCase raw)).isSome = true ∧
                row ∈ matchedRows nfkd toLocaleLowerCase rows raw
  /-- What folds to a letter or digit filters. -/
  filters : ∀ (rows : List SubmissionTriageProjection) (query : SubmissionTriageListInput)
    (raw : String), query.search = some raw → ∀ c ∈ raw.toList,
      ∀ out ∈ foldSearchChar nfkd toLocaleLowerCase c, isFoldedChar out = true →
        ∃ outcome,
          (projectSubmissionTriageList nfkd toLocaleLowerCase rows query).search = some outcome

/-- The search obeys its laws if white space and quotes are no letters. -/
theorem triage_search_lawful (hbreaks : SpacesBreak nfkd toLocaleLowerCase) :
    SearchLaws nfkd toLocaleLowerCase where
  narrows rows raw raw' space extra hspace hraw :=
    matchedRows_append_subset hbreaks hspace extra hraw
  unordered rows raw tokens htokens := matchedRows_of_mem_iff htokens rows
  respelled rows raw raw' h := matchedRows_of_sameTokens (h.sameTokens hbreaks) rows
  quoted rows raw raw' hquote hraw := matchedRows_quoted_subset hbreaks hquote hraw
  ownWords rows row hrow field hfield before text after raw htext hbefore hafter hne hraw := by
    have hmatch := isSome_match_own_words hbreaks hfield htext hbefore hafter hne hraw
    exact ⟨hmatch, mem_matchedRows_iff.mpr ⟨hrow, (isSome_match_iff.mp hmatch).2⟩⟩
  filters rows query raw hsearch c hc out hout hfolded := by
    have hterms := terms_ne_nil hbreaks hc hout hfolded
    simp [projectSubmissionTriageList, hsearch, hterms]

namespace SearchExample

def plain (c : Char) : List Char := [c]

def lowered (c : Char) : List Char := [c.toLower]

def row : SubmissionTriageProjection :=
  { id := ⟨"00000000-0000-4000-8000-000000000001", by decide⟩
    title := some "Bar foo"
    abstract := none
    primaryParticipantName := none
    trackId := none
    formatId := none
    visibleTray := .inbox }

theorem areBreaks_of_all {value : List Char}
    (h : (!(foldedChars plain lowered value).isEmpty &&
      (foldedChars plain lowered value).all fun out => !isFoldedChar out) = true) :
    AreBreaks plain lowered value := by
  simpa [AreBreaks] using h

theorem spacesBreak : SpacesBreak plain lowered := by
  intro c hc
  have hvalue : c.toNat ∈ [0x9, 0xA, 0xB, 0xC, 0xD, 0x20, 0x22, 0xA0, 0x1680, 0x2000, 0x2001,
      0x2002, 0x2003, 0x2004, 0x2005, 0x2006, 0x2007, 0x2008, 0x2009, 0x200A, 0x2028, 0x2029,
      0x202F, 0x205F, 0x3000, 0xFEFF] := by
    rcases hc with hspace | rfl
    · simp only [isWhiteSpace, List.contains_eq_mem, List.mem_cons, List.not_mem_nil, or_false,
        Bool.or_eq_true, decide_eq_true_eq] at hspace ⊢
      have hval : c.val.toNat = c.toNat := rfl
      omega
    · decide
  have hall : ([0x9, 0xA, 0xB, 0xC, 0xD, 0x20, 0x22, 0xA0, 0x1680, 0x2000, 0x2001,
      0x2002, 0x2003, 0x2004, 0x2005, 0x2006, 0x2007, 0x2008, 0x2009, 0x200A, 0x2028, 0x2029,
      0x202F, 0x205F, 0x3000, 0xFEFF].all fun n =>
        !(foldedChars plain lowered [Char.ofNat n]).isEmpty &&
          (foldedChars plain lowered [Char.ofNat n]).all fun out => !isFoldedChar out) = true := by
    decide +kernel
  have hbreak := List.all_eq_true.mp hall c.toNat hvalue
  rw [Char.ofNat_toNat] at hbreak
  exact areBreaks_of_all hbreak

end SearchExample

open SearchExample in
/-- White space and quotes are no letters for these maps. -/
theorem triage_search_lawful_without_normalization : SearchLaws plain lowered :=
  triage_search_lawful spacesBreak

open SearchExample in
/-- A hyphen keeps the words of a term together where a space would not, and a word of Cyrillic
letters filters nothing. -/
theorem separators_and_scripts_count :
    AreBreaks plain lowered ['-'] ∧ AreBreaks plain lowered [' '] ∧
      matchedRows plain lowered [row] "foo bar" = [row] ∧
      matchedRows plain lowered [row] "foo-bar" = [] ∧
      (parseSubmissionTriageSearch plain lowered "привет").terms = [] ∧
      matchedRows plain lowered [row] "привет" = [row] :=
  ⟨areBreaks_of_all (by decide +kernel), areBreaks_of_all (by decide +kernel), by decide +kernel,
    by decide +kernel, by decide +kernel, by decide +kernel⟩

end JooEvents
