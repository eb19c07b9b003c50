import JooEvents.Triage.Search

/-!
# What a search finds

Terms combine : each of them has to hit, so that more of them only narrow
(`matchedRows_append_subset`), and their order does not count (`matchedRows_congr`). The tokens of a
query stand in it between white space and quotes (`standsIn_of_mem`), which break words, so that a
row is found by its own words (`isSome_match_own_words`).

A query can be made of tokens, and is read as these (`searchTokens_renderTokens`).
-/

namespace JooEvents

variable {nfkd toLocaleLowerCase : Char → List Char}

/-- What a text folds to, before its breaks are joined. -/
def foldedChars (nfkd toLocaleLowerCase : Char → List Char) (value : List Char) : List Char :=
  value.flatMap (foldSearchChar nfkd toLocaleLowerCase)

@[simp] theorem foldedChars_append (s t : List Char) :
    foldedChars nfkd toLocaleLowerCase (s ++ t) =
      foldedChars nfkd toLocaleLowerCase s ++ foldedChars nfkd toLocaleLowerCase t :=
  List.flatMap_append

theorem fold_eq_spaced (value : List Char) :
    foldSubmissionTriageSearchText nfkd toLocaleLowerCase value =
      spaced isFoldedChar ' ' (foldedChars nfkd toLocaleLowerCase value) := by
  rw [foldSubmissionTriageSearchText, spaced, foldedChars, List.foldl_flatMap]

/-- The characters fold to something, and to no letter or digit. -/
def AreBreaks (nfkd toLocaleLowerCase : Char → List Char) (value : List Char) : Prop :=
  foldedChars nfkd toLocaleLowerCase value ≠ [] ∧
    ∀ c ∈ foldedChars nfkd toLocaleLowerCase value, isFoldedChar c = false

def SpacesBreak (nfkd toLocaleLowerCase : Char → List Char) : Prop :=
  ∀ c, isWhiteSpace c = true ∨ c = '"' → AreBreaks nfkd toLocaleLowerCase [c]

def EndsInBreak (nfkd toLocaleLowerCase : Char → List Char) (before : List Char) : Prop :=
  before = [] ∨ ∃ init breaks, before = init ++ breaks ∧ AreBreaks nfkd toLocaleLowerCase breaks

def StartsInBreak (nfkd toLocaleLowerCase : Char → List Char) (after : List Char) : Prop :=
  after = [] ∨ ∃ breaks rest, after = breaks ++ rest ∧ AreBreaks nfkd toLocaleLowerCase breaks

theorem wholeIn_fold {before text after : List Char}
    (hbefore : EndsInBreak nfkd toLocaleLowerCase before)
    (hafter : StartsInBreak nfkd toLocaleLowerCase after)
    (hne : foldSubmissionTriageSearchText nfkd toLocaleLowerCase text ≠ []) :
    WholeIn ' ' (foldSubmissionTriageSearchText nfkd toLocaleLowerCase text)
      (foldSubmissionTriageSearchText nfkd toLocaleLowerCase (before ++ text ++ after)) := by
  rw [fold_eq_spaced] at hne
  rw [fold_eq_spaced, fold_eq_spaced, foldedChars_append, foldedChars_append]
  refine wholeIn_spaced ?_ ?_ hne
  · rcases hbefore with rfl | ⟨init, breaks, rfl, hsome, hbreaks⟩
    · exact .inl rfl
    · obtain ⟨front, last, hlast⟩ := (List.eq_nil_or_concat _).resolve_left hsome
      refine .inr ⟨foldedChars nfkd toLocaleLowerCase init ++ front, last, ?_,
        hbreaks last (by rw [hlast]; simp)⟩
      rw [foldedChars_append, hlast, List.concat_eq_append, List.append_assoc]
  · rcases hafter with rfl | ⟨breaks, rest, rfl, hsome, hbreaks⟩
    · exact .inl rfl
    · obtain ⟨first, back, hfirst⟩ := List.exists_cons_of_ne_nil hsome
      refine .inr ⟨first, back ++ foldedChars nfkd toLocaleLowerCase rest, ?_,
        hbreaks first (by rw [hfirst]; simp)⟩
      rw [foldedChars_append, hfirst, List.cons_append]

theorem fold_ne_nil_iff {text : List Char} :
    foldSubmissionTriageSearchText nfkd toLocaleLowerCase text ≠ [] ↔
      ∃ c ∈ text, ∃ out ∈ foldSearchChar nfkd toLocaleLowerCase c, isFoldedChar out = true := by
  rw [fold_eq_spaced, ne_eq, spaced_eq_nil_iff]
  simp only [foldedChars, List.mem_flatMap, forall_exists_index, and_imp, not_forall,
    Bool.not_eq_false, exists_prop]
  exact ⟨fun ⟨out, c, hc, hout, hfolded⟩ => ⟨c, hc, out, hout, hfolded⟩,
    fun ⟨c, hc, out, hout, hfolded⟩ => ⟨out, c, hc, hout, hfolded⟩⟩

/-! ## Tokens -/

def SearchScan.text : SearchScan → List Char
  | .outside => []
  | .bare text => text
  | .quoted text => text

/-- A text stands in a query between white space, quotes and its ends. -/
def StandsIn (text cs : List Char) : Prop :=
  ∃ before after, cs = before ++ text ++ after ∧
    (before = [] ∨ ∃ init c, before = init ++ [c] ∧ (isWhiteSpace c = true ∨ c = '"')) ∧
    (after = [] ∨ ∃ c rest, after = c :: rest ∧ (isWhiteSpace c = true ∨ c = '"'))

theorem StandsIn.after_break {text cs : List Char} (h : StandsIn text cs) (front : List Char)
    {c : Char} (hc : isWhiteSpace c = true ∨ c = '"') : StandsIn text (front ++ c :: cs) := by
  obtain ⟨before, after, rfl, hbefore, hafter⟩ := h
  refine ⟨front ++ c :: before, after, by simp, .inr ?_, hafter⟩
  rcases hbefore with rfl | ⟨init, d, rfl, hd⟩
  · exact ⟨front, c, rfl, hc⟩
  · exact ⟨front ++ c :: init, d, by simp, hd⟩

theorem StandsIn.before_break (text : List Char) {c : Char}
    (hc : isWhiteSpace c = true ∨ c = '"') (cs : List Char) : StandsIn text (text ++ c :: cs) :=
  ⟨[], c :: cs, by simp, .inl rfl, .inr ⟨c, cs, rfl, hc⟩⟩

theorem standsIn_of_mem :
    ∀ (cs : List Char) (scan : SearchScan) {token : SearchToken},
      token ∈ searchTokens scan cs → StandsIn token.text (scan.text ++ cs)
  | [], .bare text, token, h => by
    rw [List.mem_singleton.mp h]
    exact ⟨[], [], by simp [SearchScan.text], .inl rfl, .inl rfl⟩
  | [], .quoted text, token, h => by
    rw [List.mem_singleton.mp h]
    exact ⟨[], [], by simp [SearchScan.text], .inl rfl, .inl rfl⟩
  | c :: cs, .outside, token, h => by
    rw [searchTokens] at h
    split_ifs at h with hquote hspace
    · exact (standsIn_of_mem cs (.quoted []) h).after_break [] (.inr hquote)
    · exact (standsIn_of_mem cs .outside h).after_break [] (.inl hspace)
    · exact standsIn_of_mem cs (.bare [c]) h
  | c :: cs, .bare text, token, h => by
    rw [searchTokens] at h
    split_ifs at h with hspace
    · rcases List.mem_cons.mp h with rfl | h
      · exact .before_break text (.inl hspace) cs
      · exact (standsIn_of_mem cs .outside h).after_break text (.inl hspace)
    · simpa [SearchScan.text] using standsIn_of_mem cs (.bare (text ++ [c])) h
  | c :: cs, .quoted text, token, h => by
    rw [searchTokens] at h
    split_ifs at h with hquote
    · rcases List.mem_cons.mp h with rfl | h
      · exact .before_break text (.inr hquote) cs
      · exact (standsIn_of_mem cs .outside h).after_break text (.inr hquote)
    · simpa [SearchScan.text] using standsIn_of_mem cs (.quoted (text ++ [c])) h

theorem exists_token_of_mem {c : Char} (hspace : isWhiteSpace c = false) (hquote : c ≠ '"') :
    ∀ (cs : List Char) (scan : SearchScan), c ∈ scan.text ++ cs →
      ∃ token ∈ searchTokens scan cs, c ∈ token.text
  | [], .bare text, h =>
    ⟨⟨text, false⟩, List.mem_singleton_self _, by simpa [SearchScan.text] using h⟩
  | [], .quoted text, h =>
    ⟨⟨text, true⟩, List.mem_singleton_self _, by simpa [SearchScan.text] using h⟩
  | d :: cs, .outside, h => by
    rw [searchTokens]
    rcases List.mem_cons.mp h with rfl | h
    · rw [if_neg hquote, if_neg (by simp [hspace])]
      exact exists_token_of_mem hspace hquote cs (.bare [c]) (by simp [SearchScan.text])
    · split_ifs
      · exact exists_token_of_mem hspace hquote cs (.quoted []) h
      · exact exists_token_of_mem hspace hquote cs .outside h
      · exact exists_token_of_mem hspace hquote cs (.bare [d]) (List.mem_cons_of_mem d h)
  | d :: cs, .bare text, h => by
    rw [searchTokens]
    split_ifs with hd
    · rcases List.mem_append.mp h with h | h
      · exact ⟨_, List.mem_cons_self, h⟩
      · rcases List.mem_cons.mp h with rfl | h
        · rw [hspace] at hd
          cases hd
        · obtain ⟨token, htoken, hc⟩ := exists_token_of_mem hspace hquote cs .outside h
          exact ⟨token, List.mem_cons_of_mem _ htoken, hc⟩
    · exact exists_token_of_mem hspace hquote cs (.bare (text ++ [d]))
        (by simpa [SearchScan.text] using h)
  | d :: cs, .quoted text, h => by
    rw [searchTokens]
    split_ifs with hd
    · rcases List.mem_append.mp h with h | h
      · exact ⟨_, List.mem_cons_self, h⟩
      · rcases List.mem_cons.mp h with rfl | h
        · exact absurd hd hquote
        · obtain ⟨token, htoken, hc⟩ := exists_token_of_mem hspace hquote cs .outside h
          exact ⟨token, List.mem_cons_of_mem _ htoken, hc⟩
    · exact exists_token_of_mem hspace hquote cs (.quoted (text ++ [d]))
        (by simpa [SearchScan.text] using h)

theorem exists_quoted_token :
    ∀ (cs text : List Char), ∃ more later,
      searchTokens (.quoted text) cs = ⟨text ++ more, true⟩ :: later
  | [], text => ⟨[], [], by simp [searchTokens]⟩
  | c :: cs, text => by
    rw [searchTokens]
    split_ifs
    · exact ⟨[], searchTokens .outside cs, by simp⟩
    · obtain ⟨more, later, h⟩ := exists_quoted_token cs (text ++ [c])
      exact ⟨c :: more, later, by simpa using h⟩

/-- More after a white space adds tokens, and goes on with a quoted text that had not ended. -/
def ExtendsTokens (space : Char) (tokens tokens' : List SearchToken) : Prop :=
  (∃ later, tokens' = tokens ++ later) ∨ ∃ init text more later,
    tokens = init ++ [⟨text, true⟩] ∧ tokens' = init ++ ⟨text ++ space :: more, true⟩ :: later

theorem ExtendsTokens.cons {space : Char} {tokens tokens' : List SearchToken}
    (h : ExtendsTokens space tokens tokens') (token : SearchToken) :
    ExtendsTokens space (token :: tokens) (token :: tokens') := by
  rcases h with ⟨later, rfl⟩ | ⟨init, text, more, later, rfl, rfl⟩
  · exact .inl ⟨later, rfl⟩
  · exact .inr ⟨token :: init, text, more, later, rfl, rfl⟩

theorem extendsTokens_append {space : Char} (hspace : isWhiteSpace space = true)
    (rest : List Char) :
    ∀ (cs : List Char) (scan : SearchScan),
      ExtendsTokens space (searchTokens scan cs) (searchTokens scan (cs ++ space :: rest))
  | [], .outside => .inl ⟨_, rfl⟩
  | [], .bare text => .inl ⟨searchTokens .outside rest, by simp [searchTokens, hspace]⟩
  | [], .quoted text => by
    have hne : space ≠ '"' := by
      rintro rfl
      exact absurd hspace (by decide)
    obtain ⟨more, later, h⟩ := exists_quoted_token rest (text ++ [space])
    refine .inr ⟨[], text, more, later, rfl, ?_⟩
    rw [List.nil_append, searchTokens, if_neg hne, h, List.append_assoc]
    rfl
  | c :: cs, .outside => by
    rw [List.cons_append, searchTokens, searchTokens]
    split_ifs <;> exact extendsTokens_append hspace rest cs _
  | c :: cs, .bare text => by
    rw [List.cons_append, searchTokens, searchTokens]
    split_ifs
    · exact (extendsTokens_append hspace rest cs .outside).cons _
    · exact extendsTokens_append hspace rest cs _
  | c :: cs, .quoted text => by
    rw [List.cons_append, searchTokens, searchTokens]
    split_ifs
    · exact (extendsTokens_append hspace rest cs .outside).cons _
    · exact extendsTokens_append hspace rest cs _

theorem searchTokens_quoted :
    ∀ {cs : List Char}, '"' ∉ cs → ∀ text rest,
      searchTokens (.quoted text) (cs ++ '"' :: rest) =
        ⟨text ++ cs, true⟩ :: searchTokens .outside rest
  | [], _, text, rest => by simp [searchTokens]
  | c :: cs, h, text, rest => by
    rw [List.mem_cons, not_or] at h
    rw [List.cons_append, searchTokens, if_neg (Ne.symm h.1), searchTokens_quoted h.2,
      List.append_assoc]
    rfl

/-! ## Queries of tokens -/

def SearchToken.render (token : SearchToken) : List Char :=
  if token.phrase then '"' :: (token.text ++ ['"']) else token.text

/-- A query of the tokens, each followed by a space. -/
def renderTokens (tokens : List SearchToken) : List Char :=
  tokens.flatMap fun token => token.render ++ [' ']

/-- A quoted text has no quote, another begins with none and has no white space. -/
def SearchToken.IsRead (token : SearchToken) : Prop :=
  if token.phrase then '"' ∉ token.text
  else (∃ c cs, token.text = c :: cs ∧ c ≠ '"') ∧ ∀ c ∈ token.text, isWhiteSpace c = false

def SearchScan.IsRead : SearchScan → Prop
  | .outside => True
  | .bare text => SearchToken.IsRead ⟨text, false⟩
  | .quoted text => SearchToken.IsRead ⟨text, true⟩

theorem isRead_of_mem :
    ∀ (cs : List Char) (scan : SearchScan), scan.IsRead → ∀ token ∈ searchTokens scan cs,
      token.IsRead
  | [], .outside, _, token, h => by cases h
  | [], .bare text, hscan, token, h => by rwa [List.mem_singleton.mp h]
  | [], .quoted text, hscan, token, h => by rwa [List.mem_singleton.mp h]
  | c :: cs, .outside, _, token, h => by
    rw [searchTokens] at h
    split_ifs at h with hquote hspace
    · exact isRead_of_mem cs (.quoted []) (by simp [SearchScan.IsRead, SearchToken.IsRead]) token h
    · exact isRead_of_mem cs .outside trivial token h
    · refine isRead_of_mem cs (.bare [c]) ?_ token h
      simp [SearchScan.IsRead, SearchToken.IsRead, hquote, hspace]
  | c :: cs, .bare text, hscan, token, h => by
    rw [searchTokens] at h
    split_ifs at h with hspace
    · rcases List.mem_cons.mp h with rfl | h
      · exact hscan
      · exact isRead_of_mem cs .outside trivial token h
    · refine isRead_of_mem cs (.bare (text ++ [c])) ?_ token h
      obtain ⟨⟨d, ds, rfl, hquote⟩, hwords⟩ := hscan
      refine ⟨⟨d, ds ++ [c], rfl, hquote⟩, fun e he => ?_⟩
      rcases List.mem_append.mp he with he | he
      · exact hwords e he
      · rw [List.mem_singleton.mp he, ← Bool.not_eq_true]
        exact hspace
  | c :: cs, .quoted text, hscan, token, h => by
    rw [searchTokens] at h
    split_ifs at h with hquote
    · rcases List.mem_cons.mp h with rfl | h
      · exact hscan
      · exact isRead_of_mem cs .outside trivial token h
    · refine isRead_of_mem cs (.quoted (text ++ [c])) ?_ token h
      have htext : '"' ∉ text := hscan
      show '"' ∉ text ++ [c]
      simp [htext, Ne.symm hquote]

theorem searchTokens_bare :
    ∀ {cs : List Char}, (∀ c ∈ cs, isWhiteSpace c = false) → ∀ text rest,
      searchTokens (.bare text) (cs ++ rest) = searchTokens (.bare (text ++ cs)) rest
  | [], _, text, rest => by simp
  | c :: cs, h, text, rest => by
    rw [List.cons_append, searchTokens, if_neg (by simp [h c List.mem_cons_self]),
      searchTokens_bare (fun d hd => h d (List.mem_cons_of_mem c hd)), List.append_assoc]
    rfl

theorem searchTokens_render {token : SearchToken} (h : token.IsRead) (rest : List Char) :
    searchTokens .outside (token.render ++ ' ' :: rest) = token :: searchTokens .outside rest := by
  obtain ⟨text, phrase⟩ := token
  cases phrase with
  | true =>
    have hquote : '"' ∉ text := h
    have hspace : isWhiteSpace ' ' = true := by decide
    have hrender : SearchToken.render ⟨text, true⟩ ++ ' ' :: rest =
        '"' :: (text ++ '"' :: ' ' :: rest) := by simp [SearchToken.render]
    rw [hrender, searchTokens, if_pos rfl, searchTokens_quoted hquote, List.nil_append,
      searchTokens.eq_4, if_neg (by decide), if_pos hspace]
  | false =>
    obtain ⟨⟨c, cs, rfl, hquote⟩, hwords⟩ := h
    have hspace : isWhiteSpace ' ' = true := by decide
    have hrender : SearchToken.render ⟨c :: cs, false⟩ ++ ' ' :: rest =
        c :: (cs ++ ' ' :: rest) := by simp [SearchToken.render]
    rw [hrender, searchTokens, if_neg hquote, if_neg (by simp [hwords c List.mem_cons_self]),
      searchTokens_bare fun d hd => hwords d (List.mem_cons_of_mem c hd)]
    rw [searchTokens, if_pos hspace, List.singleton_append]

theorem searchTokens_renderTokens {tokens : List SearchToken} (h : ∀ token ∈ tokens, token.IsRead) :
    searchTokens .outside (renderTokens tokens) = tokens := by
  induction tokens with
  | nil => rfl
  | cons token tokens ih =>
    rw [renderTokens, List.flatMap_cons, List.append_assoc, List.singleton_append,
      searchTokens_render (h token List.mem_cons_self)]
    exact congrArg _ (ih fun token' htoken' => h token' (List.mem_cons_of_mem token htoken'))

theorem mem_terms_iff {raw : String} {term : SubmissionTriageSearchTerm} :
    term ∈ (parseSubmissionTriageSearch nfkd toLocaleLowerCase raw).terms ↔
      term.folded ≠ [] ∧ ∃ token ∈ searchTokens .outside raw.toList,
        foldSubmissionTriageSearchText nfkd toLocaleLowerCase token.text = term.folded ∧
          token.phrase = term.phrase := by
  have hfold : ∀ (tokens : List SearchToken) (terms : List SubmissionTriageSearchTerm),
      term ∈ tokens.foldl (addSearchTerm nfkd toLocaleLowerCase) terms ↔
        term ∈ terms ∨ term.folded ≠ [] ∧ ∃ token ∈ tokens,
          foldSubmissionTriageSearchText nfkd toLocaleLowerCase token.text = term.folded ∧
            token.phrase = term.phrase := by
    intro tokens
    induction tokens with
    | nil => simp
    | cons token tokens ih =>
      intro terms
      have hadd : term ∈ addSearchTerm nfkd toLocaleLowerCase terms token ↔
          term ∈ terms ∨ term.folded ≠ [] ∧
            foldSubmissionTriageSearchText nfkd toLocaleLowerCase token.text = term.folded ∧
              token.phrase = term.phrase := by
        obtain ⟨folded, phrase⟩ := term
        rw [addSearchTerm]
        split_ifs with hnil hseen
        · refine ⟨.inl, fun h => h.elim id fun ⟨hne, heq, _⟩ => absurd (heq.symm.trans hnil) hne⟩
        · refine ⟨.inl, fun h => h.elim id ?_⟩
          rintro ⟨-, rfl, rfl⟩
          exact hseen
        · rw [List.mem_append, List.mem_singleton, SubmissionTriageSearchTerm.mk.injEq]
          refine or_congr_right ⟨?_, fun ⟨_, h, h'⟩ => ⟨h.symm, h'.symm⟩⟩
          rintro ⟨rfl, rfl⟩
          exact ⟨hnil, rfl, rfl⟩
      rw [List.foldl_cons, ih, hadd, or_assoc]
      refine or_congr_right ?_
      rw [← and_or_left]
      simp
  rw [parseSubmissionTriageSearch, hfold]
  simp

/-! ## Hits -/

/-- A term stands in a folded text : a phrase as whole words. -/
def Hits (term : SubmissionTriageSearchTerm) (folded : List Char) : Prop :=
  if term.phrase then WholeIn ' ' term.folded folded else term.folded <:+: folded

theorem Hits.of_wholeIn {term : SubmissionTriageSearchTerm} {folded : List Char}
    (h : WholeIn ' ' term.folded folded) : Hits term folded := by
  rw [Hits]
  split_ifs
  · exact h
  · exact h.isInfix

theorem hitRanks_ne_nil_iff_exists {folded : List Char} {weight : ℕ}
    {term : SubmissionTriageSearchTerm} :
    hitRanks folded weight term ≠ [] ↔ ∃ start < folded.length,
      term.folded <+: folded.drop start ∧ (term.phrase = true →
        (start = 0 ∨ folded[start - 1]? = some ' ') ∧
          (start + term.folded.length = folded.length ∨
            folded[start + term.folded.length]? = some ' ')) := by
  rw [← List.length_pos_iff, List.length_pos_iff_exists_mem]
  simp only [hitRanks, List.mem_filterMap, List.mem_filter, List.mem_range,
    List.isPrefixOf_iff_prefix]
  constructor
  · rintro ⟨rank, start, ⟨hlt, hprefix⟩, hrank⟩
    split_ifs at hrank with hplaced
    all_goals
      refine ⟨start, hlt, hprefix, fun hphrase => ?_⟩
      simpa [hphrase] using hplaced
  · rintro ⟨start, hlt, hprefix, hplaced⟩
    have htest : (!term.phrase || (decide (start = 0 ∨ folded[start - 1]? = some ' ') &&
        decide (start + term.folded.length = folded.length ∨
          folded[start + term.folded.length]? = some ' '))) = true := by
      cases hphrase : term.phrase with
      | false => rfl
      | true => simpa [hphrase] using hplaced hphrase
    exact ⟨_, start, ⟨hlt, hprefix⟩, if_pos htest⟩

theorem hitRanks_ne_nil_iff {folded : List Char} {weight : ℕ} {term : SubmissionTriageSearchTerm}
    (hne : term.folded ≠ []) : hitRanks folded weight term ≠ [] ↔ Hits term folded := by
  rw [hitRanks_ne_nil_iff_exists, Hits]
  constructor
  · rintro ⟨start, hlt, ⟨rest, hrest⟩, hplaced⟩
    have hfolded : folded = folded.take start ++ term.folded ++ rest := by
      rw [List.append_assoc, hrest, List.take_append_drop]
    split_ifs with hphrase
    · obtain ⟨hstart, hfinish⟩ := hplaced hphrase
      refine ⟨folded.take start, rest, hfolded, ?_, ?_⟩
      · rcases hstart with rfl | hspace
        · exact .inl rfl
        · rcases Nat.eq_zero_or_pos start with rfl | hpos
          · exact .inl rfl
          · refine .inr ⟨folded.take (start - 1), ?_⟩
            have htake := List.take_add_one (l := folded) (i := start - 1)
            rwa [Nat.sub_add_cancel hpos, hspace] at htake
      · have hlength := congrArg List.length hrest
        rw [List.length_append, List.length_drop] at hlength
        rcases hfinish with hend | hspace
        · exact .inl (List.length_eq_zero_iff.mp (by omega))
        · rw [← List.getElem?_drop, ← hrest, List.getElem?_append_right le_rfl, Nat.sub_self]
            at hspace
          cases rest with
          | nil => cases hspace
          | cons c rest => exact .inr ⟨rest, by rw [Option.some.inj hspace]⟩
    · exact ⟨folded.take start, rest, hfolded.symm⟩
  · have hpos : 0 < term.folded.length := List.length_pos_iff.mpr hne
    intro h
    have hplace : ∀ pre post, folded = pre ++ term.folded ++ post → pre.length < folded.length ∧
        term.folded <+: folded.drop pre.length := by
      rintro pre post rfl
      refine ⟨by simp; omega, ?_⟩
      rw [List.append_assoc, List.drop_left]
      exact List.prefix_append _ _
    split_ifs at h with hphrase
    · obtain ⟨pre, post, heq, hpre, hpost⟩ := h
      refine ⟨pre.length, (hplace pre post heq).1, (hplace pre post heq).2, fun _ => ⟨?_, ?_⟩⟩
      · rcases hpre with rfl | ⟨front, rfl⟩
        · exact .inl rfl
        · refine .inr ?_
          rw [heq]
          simp
      · rcases hpost with rfl | ⟨back, rfl⟩
        · exact .inl (by rw [heq]; simp)
        · refine .inr ?_
          rw [heq]
          simp
    · obtain ⟨pre, post, heq⟩ := h
      exact ⟨pre.length, (hplace pre post heq.symm).1, (hplace pre post heq.symm).2,
        fun h => absurd h hphrase⟩

def HitsRow (nfkd toLocaleLowerCase : Char → List Char) (row : SubmissionTriageProjection)
    (term : SubmissionTriageSearchTerm) : Prop :=
  ∃ field ∈ searchFields row,
    Hits term (foldSubmissionTriageSearchText nfkd toLocaleLowerCase field.text)

theorem termRanks_ne_nil_iff {row : SubmissionTriageProjection}
    {term : SubmissionTriageSearchTerm} (hne : term.folded ≠ []) :
    termRanks nfkd toLocaleLowerCase row term ≠ [] ↔ HitsRow nfkd toLocaleLowerCase row term := by
  rw [termRanks, ne_eq, List.flatMap_eq_nil_iff]
  simp only [not_forall, exists_prop, HitsRow]
  exact exists_congr fun field => and_congr_right fun _ => hitRanks_ne_nil_iff hne

theorem isSome_match_iff {row : SubmissionTriageProjection} {raw : String} :
    (matchSubmissionTriageProjection nfkd toLocaleLowerCase row
        (parseSubmissionTriageSearch nfkd toLocaleLowerCase raw)).isSome = true ↔
      (parseSubmissionTriageSearch nfkd toLocaleLowerCase raw).terms ≠ [] ∧
        ∀ term ∈ (parseSubmissionTriageSearch nfkd toLocaleLowerCase raw).terms,
          HitsRow nfkd toLocaleLowerCase row term := by
  have hhits : (∀ term ∈ (parseSubmissionTriageSearch nfkd toLocaleLowerCase raw).terms,
      termRanks nfkd toLocaleLowerCase row term ≠ []) ↔
        ∀ term ∈ (parseSubmissionTriageSearch nfkd toLocaleLowerCase raw).terms,
          HitsRow nfkd toLocaleLowerCase row term :=
    forall₂_congr fun term hterm => termRanks_ne_nil_iff (mem_terms_iff.mp hterm).1
  rw [matchSubmissionTriageProjection]
  split_ifs with hnil hall
  · simp [hnil]
  · refine iff_of_true (List.isSome_min?_of_ne_nil fun hempty => ?_) ⟨hnil, hhits.mp hall⟩
    obtain ⟨term, hterm⟩ := List.exists_mem_of_ne_nil _ hnil
    exact hall term hterm (List.flatMap_eq_nil_iff.mp hempty term hterm)
  · exact iff_of_false (by simp) fun h => hall (hhits.mpr h.2)

/-! ## The rows of a search -/

variable {rows : List SubmissionTriageProjection} {row : SubmissionTriageProjection}
variable {raw raw' : String}

theorem mem_matchedRows_iff :
    row ∈ matchedRows nfkd toLocaleLowerCase rows raw ↔ row ∈ rows ∧
      ∀ term ∈ (parseSubmissionTriageSearch nfkd toLocaleLowerCase raw).terms,
        HitsRow nfkd toLocaleLowerCase row term := by
  rw [matchedRows]
  split_ifs with hnil
  · simp [hnil]
  · simp only [List.mem_map, List.mem_sortByKey, List.mem_filterMap, Option.map_eq_some_iff,
      Prod.exists, Prod.mk.injEq]
    constructor
    · rintro ⟨rank, _, ⟨found, hfound, rank', hmatch, -, rfl⟩, rfl⟩
      exact ⟨hfound, (isSome_match_iff.mp (Option.isSome_of_mem hmatch)).2⟩
    · rintro ⟨hrow, hhits⟩
      obtain ⟨rank, hmatch⟩ := Option.isSome_iff_exists.mp (isSome_match_iff.mpr ⟨hnil, hhits⟩)
      exact ⟨rank, row, ⟨row, hrow, rank, hmatch, rfl, rfl⟩, rfl⟩

theorem matchedRows_congr
    (h : ∀ term, term ∈ (parseSubmissionTriageSearch nfkd toLocaleLowerCase raw').terms ↔
      term ∈ (parseSubmissionTriageSearch nfkd toLocaleLowerCase raw).terms)
    (rows : List SubmissionTriageProjection) :
    matchedRows nfkd toLocaleLowerCase rows raw' = matchedRows nfkd toLocaleLowerCase rows raw := by
  have hnil : (parseSubmissionTriageSearch nfkd toLocaleLowerCase raw').terms = [] ↔
      (parseSubmissionTriageSearch nfkd toLocaleLowerCase raw).terms = [] := by
    simp only [List.eq_nil_iff_forall_not_mem, h]
  have hranks : ∀ row, ((parseSubmissionTriageSearch nfkd toLocaleLowerCase raw').terms.flatMap
      (termRanks nfkd toLocaleLowerCase row)).min? =
        ((parseSubmissionTriageSearch nfkd toLocaleLowerCase raw).terms.flatMap
          (termRanks nfkd toLocaleLowerCase row)).min? := by
    intro row
    ext rank
    simp only [List.min?_eq_some_iff, List.mem_flatMap, h]
  have hmatch : ∀ row, matchSubmissionTriageProjection nfkd toLocaleLowerCase row
      (parseSubmissionTriageSearch nfkd toLocaleLowerCase raw') =
        matchSubmissionTriageProjection nfkd toLocaleLowerCase row
          (parseSubmissionTriageSearch nfkd toLocaleLowerCase raw) := by
    intro row
    simp only [matchSubmissionTriageProjection, hnil, h, hranks row]
  simp only [matchedRows, hnil, hmatch]

theorem HitsRow.of_wholeIn {term : SubmissionTriageSearchTerm} (wide : SubmissionTriageSearchTerm)
    (h : WholeIn ' ' term.folded wide.folded) (hwide : wide.phrase = true)
    (hhits : HitsRow nfkd toLocaleLowerCase row wide) :
    HitsRow nfkd toLocaleLowerCase row term := by
  obtain ⟨field, hfield, hhit⟩ := hhits
  rw [Hits, if_pos hwide] at hhit
  exact ⟨field, hfield, .of_wholeIn (h.trans hhit)⟩

section

variable (hbreaks : SpacesBreak nfkd toLocaleLowerCase)

include hbreaks

theorem startsInBreak_cons {c : Char} (hc : isWhiteSpace c = true ∨ c = '"') (rest : List Char) :
    StartsInBreak nfkd toLocaleLowerCase (c :: rest) :=
  .inr ⟨[c], rest, rfl, hbreaks c hc⟩

theorem endsInBreak_append {c : Char} (hc : isWhiteSpace c = true ∨ c = '"') (init : List Char) :
    EndsInBreak nfkd toLocaleLowerCase (init ++ [c]) :=
  .inr ⟨init, [c], rfl, hbreaks c hc⟩

theorem wholeIn_of_standsIn {text cs : List Char} (h : StandsIn text cs)
    (hne : foldSubmissionTriageSearchText nfkd toLocaleLowerCase text ≠ []) :
    WholeIn ' ' (foldSubmissionTriageSearchText nfkd toLocaleLowerCase text)
      (foldSubmissionTriageSearchText nfkd toLocaleLowerCase cs) := by
  obtain ⟨before, after, rfl, hbefore, hafter⟩ := h
  refine wholeIn_fold ?_ ?_ hne
  · rcases hbefore with rfl | ⟨init, c, rfl, hc⟩
    · exact .inl rfl
    · exact endsInBreak_append hbreaks hc init
  · rcases hafter with rfl | ⟨c, rest, rfl, hc⟩
    · exact .inl rfl
    · exact startsInBreak_cons hbreaks hc rest

theorem matchedRows_append_subset {space : Char} (hspace : isWhiteSpace space = true)
    (extra : List Char) (hraw : raw'.toList = raw.toList ++ space :: extra) :
    matchedRows nfkd toLocaleLowerCase rows raw' ⊆ matchedRows nfkd toLocaleLowerCase rows raw := by
  intro row hrow
  obtain ⟨hmem, hhits⟩ := mem_matchedRows_iff.mp hrow
  refine mem_matchedRows_iff.mpr ⟨hmem, fun term hterm => ?_⟩
  obtain ⟨hne, token, htoken, hfold, hphrase⟩ := mem_terms_iff.mp hterm
  have hsame : token ∈ searchTokens .outside raw'.toList →
      HitsRow nfkd toLocaleLowerCase row term := fun htoken' =>
    hhits term (mem_terms_iff.mpr ⟨hne, token, htoken', hfold, hphrase⟩)
  rw [hraw] at hsame
  rcases extendsTokens_append hspace extra raw.toList .outside with
    ⟨later, hlater⟩ | ⟨init, text, more, later, hinit, hlater⟩
  · exact hsame (hlater ▸ List.mem_append_left _ htoken)
  · rw [hinit, List.mem_append, List.mem_singleton] at htoken
    rcases htoken with htoken | rfl
    · exact hsame (hlater ▸ List.mem_append_left _ htoken)
    · have hwhole : WholeIn ' ' term.folded
          (foldSubmissionTriageSearchText nfkd toLocaleLowerCase (text ++ space :: more)) := by
        rw [← hfold] at hne ⊢
        exact wholeIn_fold (.inl rfl : EndsInBreak nfkd toLocaleLowerCase [])
          (startsInBreak_cons hbreaks (.inl hspace) more) hne
      refine .of_wholeIn ⟨_, true⟩ hwhole rfl (hhits _ (mem_terms_iff.mpr
        ⟨hwhole.ne_nil hne, ⟨text ++ space :: more, true⟩, ?_, rfl, rfl⟩))
      rw [hraw, hlater]
      simp

theorem matchedRows_quoted_subset (hquote : '"' ∉ raw.toList)
    (hraw : raw'.toList = '"' :: raw.toList ++ ['"']) :
    matchedRows nfkd toLocaleLowerCase rows raw' ⊆ matchedRows nfkd toLocaleLowerCase rows raw := by
  intro row hrow
  obtain ⟨hmem, hhits⟩ := mem_matchedRows_iff.mp hrow
  refine mem_matchedRows_iff.mpr ⟨hmem, fun term hterm => ?_⟩
  obtain ⟨hne, token, htoken, hfold, -⟩ := mem_terms_iff.mp hterm
  have hwhole : WholeIn ' ' term.folded
      (foldSubmissionTriageSearchText nfkd toLocaleLowerCase raw.toList) := by
    rw [← hfold] at hne ⊢
    exact wholeIn_of_standsIn hbreaks (standsIn_of_mem raw.toList .outside htoken) hne
  refine .of_wholeIn ⟨_, true⟩ hwhole rfl (hhits _ (mem_terms_iff.mpr
    ⟨hwhole.ne_nil hne, ⟨raw.toList, true⟩, ?_, rfl, rfl⟩))
  rw [hraw, List.cons_append, searchTokens, if_pos rfl, searchTokens_quoted hquote]
  exact List.mem_cons_self

theorem terms_ne_nil {c out : Char} (hc : c ∈ raw.toList)
    (hout : out ∈ foldSearchChar nfkd toLocaleLowerCase c) (hfolded : isFoldedChar out = true) :
    (parseSubmissionTriageSearch nfkd toLocaleLowerCase raw).terms ≠ [] := by
  have hword : ¬ (isWhiteSpace c = true ∨ c = '"') := by
    intro hspace
    have hbreak := (hbreaks c hspace).2 out (by simpa [foldedChars] using hout)
    rw [hfolded] at hbreak
    cases hbreak
  rw [not_or, Bool.not_eq_true] at hword
  obtain ⟨token, htoken, hmem⟩ := exists_token_of_mem hword.1 hword.2 raw.toList .outside hc
  have hterm : ⟨_, token.phrase⟩ ∈ (parseSubmissionTriageSearch nfkd toLocaleLowerCase raw).terms :=
    mem_terms_iff.mpr
      ⟨fold_ne_nil_iff.mpr ⟨c, hmem, out, hout, hfolded⟩, token, htoken, rfl, rfl⟩
  exact List.ne_nil_of_mem hterm

theorem isSome_match_own_words {field : SearchField} (hfield : field ∈ searchFields row)
    {before text after : List Char} (htext : field.text = before ++ text ++ after)
    (hbefore : EndsInBreak nfkd toLocaleLowerCase before)
    (hafter : StartsInBreak nfkd toLocaleLowerCase after)
    (hne : foldSubmissionTriageSearchText nfkd toLocaleLowerCase text ≠ [])
    (hraw : raw.toList = '"' :: text ++ ['"']) :
    (matchSubmissionTriageProjection nfkd toLocaleLowerCase row
      (parseSubmissionTriageSearch nfkd toLocaleLowerCase raw)).isSome = true := by
  have hquery : foldSubmissionTriageSearchText nfkd toLocaleLowerCase raw.toList =
      foldSubmissionTriageSearchText nfkd toLocaleLowerCase text := by
    have hmark := hbreaks '"' (.inr rfl)
    rw [hraw, fold_eq_spaced, fold_eq_spaced, ← List.singleton_append, List.append_assoc,
      foldedChars_append, foldedChars_append]
    have hfront := @spaced_append_breaks _ isFoldedChar ' ' [] _ hmark.1 hmark.2
      (foldedChars nfkd toLocaleLowerCase text ++ foldedChars nfkd toLocaleLowerCase ['"'])
    have hback := @spaced_append_breaks _ isFoldedChar ' ' (foldedChars nfkd toLocaleLowerCase text) _
      hmark.1 hmark.2 []
    rw [List.append_nil, spaced_nil, joinSpaced_nil_right] at hback
    rw [List.nil_append, spaced_nil, joinSpaced_nil_left, hback] at hfront
    exact hfront
  refine isSome_match_iff.mpr ⟨?_, fun term hterm => ⟨field, hfield, ?_⟩⟩
  · obtain ⟨c, hc, out, hout, hfolded⟩ := fold_ne_nil_iff.mp hne
    exact terms_ne_nil hbreaks (by rw [hraw]; simp [hc]) hout hfolded
  · obtain ⟨hterm, token, htoken, hfold, -⟩ := mem_terms_iff.mp hterm
    rw [← hfold] at hterm
    have hwhole := wholeIn_of_standsIn hbreaks (standsIn_of_mem raw.toList .outside htoken) hterm
    rw [show SearchScan.text .outside ++ raw.toList = raw.toList from rfl, hquery, hfold] at hwhole
    rw [htext]
    exact .of_wholeIn (hwhole.trans (wholeIn_fold hbefore hafter hne))

end

end JooEvents
