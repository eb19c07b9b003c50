import JooEvents.Communications.Rendering

/-!
# What a rendered email says

The document that an email is of : its blocks with the texts that were merged, before they are
written as markup or as plain text. The markup of a template reads as the tags of its document
around the texts (`reads_renderComposedHtml`), so no text of a node, of a merged value or of a
fallback is read as markup, and the derived plain text has the same texts
(`renderComposedText_eq_ok`).
-/

namespace JooEvents.Rendering

open Fallible Markup

/-- A text with its emphasis. -/
structure Span where
  text : List ℕ
  emphasis : Option InlineEmphasis

inductive DocumentBlock where
  | paragraph (content : List Span)
  | heading (level : HeadingLevel) (content : List Span)
  | list (style : ListStyle) (items : List (List Span))
  | actionLink (label : List Span) (href : Option (List ℕ))
  | detailRows (rows : List (List Span × List Span))

def spansText (spans : List Span) : List ℕ := spans.flatMap (·.text)

/-- The tokens between the tags of an element without attributes. -/
def around (name : List ℕ) (content : List Token) : List Token :=
  .tag (Tag.plain false name) :: content ++ [.tag (Tag.plain true name)]

def Span.tokens (span : Span) : List Token :=
  match span.emphasis with
  | some .strong => around (codeUnits "strong") (span.text.map Token.char)
  | some .emphasis => around (codeUnits "em") (span.text.map Token.char)
  | _ => span.text.map Token.char

def spansTokens (spans : List Span) : List Token := spans.flatMap Span.tokens

def linkTag (href : List ℕ) : Tag := ⟨false, codeUnits "a", [(codeUnits "href", href)]⟩

def DocumentBlock.tokens : DocumentBlock → List Token
  | .paragraph content => around (codeUnits "p") (spansTokens content)
  | .heading level content => around level.tag (spansTokens content)
  | .list style items =>
    around style.tag (items.flatMap fun item => around (codeUnits "li") (spansTokens item))
  | .actionLink label none => around (codeUnits "p") (spansTokens label)
  | .actionLink label (some href) =>
    around (codeUnits "p")
      (.tag (linkTag href) :: spansTokens label ++ [.tag (Tag.plain true (codeUnits "a"))])
  | .detailRows rows =>
    around (codeUnits "dl") (rows.flatMap fun row =>
      around (codeUnits "dt") (spansTokens row.1) ++ around (codeUnits "dd") (spansTokens row.2))

def wrapperTag : Tag :=
  ⟨false, codeUnits "div", [(codeUnits "data-jooevents-email", codeUnits "v1")]⟩

def wrapped (content : List Token) : List Token :=
  .tag wrapperTag :: content ++ [.tag (Tag.plain true (codeUnits "div"))]

def documentTokens (blocks : List DocumentBlock) : List Token :=
  wrapped (blocks.flatMap DocumentBlock.tokens)

def DocumentBlock.texts : DocumentBlock → List (List ℕ)
  | .paragraph content => [spansText content]
  | .heading _ content => [spansText content]
  | .list _ items => items.map spansText
  | .actionLink label _ => [spansText label]
  | .detailRows rows => rows.flatMap fun row => [spansText row.1, spansText row.2]

/-- The lines of a block : its texts, with the number or the dash of an item, and a colon before
a link or a value. -/
def DocumentBlock.lines : DocumentBlock → List (List ℕ)
  | .paragraph content => [spansText content]
  | .heading _ content => [spansText content]
  | .list style items => items.mapIdx fun index item => itemLine style index (spansText item)
  | .actionLink label none => [spansText label]
  | .actionLink label (some href) => [spansText label ++ codeUnits ": " ++ href]
  | .detailRows rows => rows.map fun row => spansText row.1 ++ codeUnits ": " ++ spansText row.2

def documentText (blocks : List DocumentBlock) : List ℕ :=
  [0xA, 0xA].intercalate (blocks.flatMap DocumentBlock.lines)

def textUnits (tokens : List Token) : List ℕ := tokens.filterMap Token.unit?

@[simp]
theorem textUnits_append (tokens tokens' : List Token) :
    textUnits (tokens ++ tokens') = textUnits tokens ++ textUnits tokens' :=
  List.filterMap_append

@[simp]
theorem textUnits_tag (tag : Tag) (tokens : List Token) :
    textUnits (.tag tag :: tokens) = textUnits tokens := rfl

@[simp]
theorem textUnits_chars (us : List ℕ) : textUnits (us.map Token.char) = us := by
  rw [textUnits, List.filterMap_map]
  exact List.filterMap_some

@[simp]
theorem textUnits_nil : textUnits [] = [] := rfl

@[simp]
theorem textUnits_around (name : List ℕ) (content : List Token) :
    textUnits (around name content) = textUnits content := by
  simp [around]

theorem textUnits_flatMap {α : Type} (f : α → List Token) (as : List α) :
    textUnits (as.flatMap f) = as.flatMap fun a => textUnits (f a) := by
  rw [textUnits, List.filterMap_flatMap]
  rfl

@[simp]
theorem textUnits_spansTokens (spans : List Span) :
    textUnits (spansTokens spans) = spansText spans := by
  rw [spansTokens, textUnits_flatMap, spansText]
  congr 1
  funext span
  unfold Span.tokens
  split <;> simp

theorem textUnits_blockTokens (block : DocumentBlock) :
    textUnits block.tokens = block.texts.flatten := by
  cases block with
  | paragraph content => simp [DocumentBlock.tokens, DocumentBlock.texts]
  | heading level content => simp [DocumentBlock.tokens, DocumentBlock.texts]
  | list style items =>
    rw [DocumentBlock.tokens, DocumentBlock.texts, textUnits_around, textUnits_flatMap,
      List.flatMap_def]
    simp
  | actionLink label href =>
    cases href with
    | none => simp [DocumentBlock.tokens, DocumentBlock.texts]
    | some href => simp [DocumentBlock.tokens, DocumentBlock.texts]
  | detailRows rows =>
    rw [DocumentBlock.tokens, DocumentBlock.texts, textUnits_around, textUnits_flatMap]
    induction rows with
    | nil => rfl
    | cons row rows ih =>
      rw [List.flatMap_cons, List.flatMap_cons, List.flatten_append, ih]
      simp

theorem textUnits_documentTokens (blocks : List DocumentBlock) :
    textUnits (documentTokens blocks) = (blocks.flatMap DocumentBlock.texts).flatten := by
  rw [documentTokens, wrapped, List.cons_append, textUnits_tag, textUnits_append,
    textUnits_flatMap]
  induction blocks with
  | nil => rfl
  | cons block blocks ih =>
    rw [List.flatMap_cons, List.flatMap_cons, List.flatten_append, List.append_assoc, ih,
      textUnits_blockTokens]

/-- Inline nodes with the texts of their merged fields. -/
def spansOf (merged : List ℕ → List ℕ) (nodes : List OrganizerMessageInlineNode) : List Span :=
  nodes.map fun node =>
    match node with
    | .text value emphasis => ⟨value, emphasis⟩
    | .mergeField fieldKey => ⟨merged fieldKey, none⟩

/-- A block with the texts of its merged fields and where its link goes. -/
def documentBlock (merged : List ℕ → List ℕ) (linked : List ℕ → Option (List ℕ)) :
    OrganizerMessageComposedBlock → DocumentBlock
  | .paragraph content => .paragraph (spansOf merged content)
  | .heading level content => .heading level (spansOf merged content)
  | .list style items => .list style (items.map (spansOf merged))
  | .actionLink label hrefFieldKey => .actionLink (spansOf merged label) (linked hrefFieldKey)
  | .detailRows rows =>
    .detailRows (rows.map fun row => (spansOf merged row.label, spansOf merged row.value))

section Document

variable (host : RenderHost) (fields : OrganizerResolvedMergeFields) (timezone : Option (List ℕ))
  (mergeRegistry : OrganizerMergeRegistryRelease)

def linkOf (fieldKey : List ℕ) : Option (List ℕ) :=
  match actionUrl host fields mergeRegistry fieldKey with
  | .ok href => href
  | .error _ => none

def documentOf (blocks : List OrganizerMessageComposedBlock) : List DocumentBlock :=
  blocks.map (documentBlock (mergedText host fields timezone) (linkOf host fields mergeRegistry))

variable {host fields timezone mergeRegistry}

theorem linkOf_eq {fieldKey : List ℕ} {href : Option (List ℕ)}
    (h : actionUrl host fields mergeRegistry fieldKey = .ok href) :
    linkOf host fields mergeRegistry fieldKey = href := by
  rw [linkOf, h]

theorem inlineText_eq (nodes : List OrganizerMessageInlineNode) :
    inlineText host fields timezone nodes =
      spansText (spansOf (mergedText host fields timezone) nodes) := by
  rw [inlineText, spansText, spansOf, List.flatMap_map]
  congr 1
  funext node
  cases node <;> rfl

/-! ## Markup -/

theorem escapeHtml_eq_escape (value : List ℕ) : escapeHtml value = escape value := by
  have hunit : ∀ u : ℕ, escapeHtml [u] = escapeUnit u := by
    intro u
    by_cases hspecial : u ∈ [38, 60, 62, 34, 39]
    · have hall : ∀ u ∈ [38, 60, 62, 34, 39], escapeHtml [u] = escapeUnit u := by
        decide +kernel
      exact hall u hspecial
    · simp only [List.mem_cons, List.not_mem_nil, or_false, not_or] at hspecial
      obtain ⟨h38, h60, h62, h34, h39⟩ := hspecial
      have hnone : references.find? (fun reference => decide (reference.2 = u)) = none := by
        simp [references, ampersand, lt, gt, Mark.unit, Ne.symm h38, Ne.symm h60, Ne.symm h62,
          Ne.symm h34, Ne.symm h39]
      rw [escapeUnit, hnone]
      simp [escapeHtml, replaceAllUnits, h38, h60, h62, h34, h39]
  have happend : ∀ us vs : List ℕ, escapeHtml (us ++ vs) = escapeHtml us ++ escapeHtml vs := by
    intro us vs
    simp only [escapeHtml, replaceAllUnits, List.flatMap_append]
  induction value with
  | nil => rfl
  | cons u us ih =>
    rw [← List.singleton_append, happend, hunit, ih]
    rfl

theorem reads_escapeHtml (value : List ℕ) :
    Reads (escapeHtml value) (value.map Token.char) := by
  rw [escapeHtml_eq_escape]
  exact reads_escape value

theorem reads_inlineHtml (nodes : List OrganizerMessageInlineNode) :
    Reads (inlineHtml host fields timezone nodes)
      (spansTokens (spansOf (mergedText host fields timezone) nodes)) := by
  have hspans : spansTokens (spansOf (mergedText host fields timezone) nodes) =
      nodes.flatMap fun node =>
        spansTokens (spansOf (mergedText host fields timezone) [node]) := by
    rw [spansTokens, spansOf, List.flatMap_map]
    congr 1
    funext node
    simp [spansTokens, spansOf]
  rw [hspans, inlineHtml, List.flatMap_def]
  refine Reads.flatten_map fun node _ => ?_
  rw [spansTokens, spansOf, List.map_singleton, List.flatMap_singleton]
  cases node with
  | text value marked =>
    cases marked with
    | none => exact reads_escapeHtml value
    | some marked =>
      cases marked with
      | none => exact reads_escapeHtml value
      | strong => exact reads_element (by decide +kernel) (reads_escapeHtml value)
      | emphasis => exact reads_element (by decide +kernel) (reads_escapeHtml value)
  | mergeField fieldKey => exact reads_escapeHtml _

theorem isTagName_heading (level : HeadingLevel) : isTagName level.tag = true := by
  cases level <;> decide +kernel

theorem isTagName_list (style : ListStyle) : isTagName style.tag = true := by
  cases style <;> decide +kernel

example : isTagName (codeUnits "strong") = true ∧ isTagName (codeUnits "<p") = false := by
  decide +kernel

theorem reads_link {label href : List ℕ} {tokens : List Token} (h : Reads label tokens) :
    Reads
      (codeUnits "<a href=\"" ++ escapeHtml href ++ codeUnits "\">" ++ label ++ codeUnits "</a>")
      (.tag (linkTag href) :: tokens ++ [.tag (Tag.plain true (codeUnits "a"))]) := by
  have hopen : Reads (codeUnits "<a href=\"" ++ (escape href ++ [Mark.double.unit, gt]))
      [.tag (linkTag href)] :=
    @reads_quotedTag _ href (codeUnits "href") ⟨false, codeUnits "a", []⟩ (by decide +kernel)
  have hclose : Reads (codeUnits "</a>") [.tag (Tag.plain true (codeUnits "a"))] :=
    @reads_of_tag _ (Tag.plain true (codeUnits "a")) (by decide +kernel)
  have hmarks : codeUnits "\">" = [Mark.double.unit, gt] := by decide +kernel
  rw [escapeHtml_eq_escape, hmarks, List.append_assoc (codeUnits "<a href=\"")]
  exact (hopen.append h).append hclose

theorem reads_blockHtml {block : OrganizerMessageComposedBlock} {html : List ℕ}
    (h : blockHtml host fields timezone mergeRegistry block = .ok html) :
    Reads html (documentBlock (mergedText host fields timezone)
      (linkOf host fields mergeRegistry) block).tokens := by
  cases block with
  | paragraph content =>
    cases h
    exact reads_element (by decide +kernel) (reads_inlineHtml content)
  | heading level content =>
    cases h
    exact reads_element (isTagName_heading level) (reads_inlineHtml content)
  | list style items =>
    cases h
    rw [documentBlock, DocumentBlock.tokens, List.flatMap_map]
    exact reads_element (isTagName_list style) (Reads.flatten_map fun item _ =>
      reads_element (by decide +kernel) (reads_inlineHtml item))
  | actionLink label hrefFieldKey =>
    obtain ⟨href, hhref, h⟩ := bind_eq_ok.mp h
    rw [documentBlock, linkOf_eq hhref]
    cases href with
    | none =>
      cases h
      exact reads_element (by decide +kernel) (reads_inlineHtml label)
    | some href =>
      cases h
      exact reads_element (by decide +kernel) (reads_link (reads_inlineHtml label))
  | detailRows rows =>
    cases h
    rw [documentBlock, DocumentBlock.tokens, List.flatMap_map]
    exact reads_element (by decide +kernel) (Reads.flatten_map fun row _ =>
      (reads_element (by decide +kernel) (reads_inlineHtml row.label)).append
        (reads_element (by decide +kernel) (reads_inlineHtml row.value)))

theorem reads_emailOpenTag : Reads emailOpenTag [.tag wrapperTag] := by
  have hopen : Reads emailOpenTag [.tag wrapperTag.decoded] := reads_of_tag (by decide +kernel)
  rwa [show wrapperTag.decoded = wrapperTag by decide +kernel] at hopen

example : wrapperTag ≠ Tag.plain false (codeUnits "div") := by decide +kernel

theorem reads_wrapped {html : List ℕ} {tokens : List Token} (h : Reads html tokens) :
    Reads (emailOpenTag ++ html ++ codeUnits "</div>") (wrapped tokens) :=
  (reads_emailOpenTag.append h).append
    (@reads_of_tag _ (Tag.plain true (codeUnits "div")) (by decide +kernel))

theorem reads_renderComposedHtml {blocks : List OrganizerMessageComposedBlock} {html : List ℕ}
    (h : renderComposedHtml host fields timezone mergeRegistry blocks = .ok html) :
    Reads html (documentTokens (documentOf host fields timezone mergeRegistry blocks)) := by
  simp only [renderComposedHtml, bind_eq_ok, pure_eq_ok] at h
  obtain ⟨parts, hparts, rfl⟩ := h
  rw [documentTokens, documentOf, List.flatMap_map]
  exact reads_wrapped (Reads.flatten
    ((forall₂_of_mapM_eq_ok hparts).imp fun _ _ hblock => reads_blockHtml hblock))

/-- The tokens of a text whose line breaks are written as `<br>`. -/
def brokenTokens (text : List ℕ) : List Token :=
  text.flatMap fun u => if u = 0xA then [.tag (Tag.plain false (codeUnits "br"))] else [.char u]

theorem reads_broken (text : List ℕ) :
    Reads (replaceAllUnits 0xA (codeUnits "<br>") (escapeHtml text)) (brokenTokens text) := by
  have hunits : replaceAllUnits 0xA (codeUnits "<br>") (escapeHtml text) =
      (text.map fun u => replaceAllUnits 0xA (codeUnits "<br>") (escapeUnit u)).flatten := by
    rw [escapeHtml_eq_escape, escape, replaceAllUnits, List.flatMap_assoc, List.flatMap_def]
    rfl
  rw [hunits]
  refine Reads.flatten_map fun u _ => ?_
  by_cases hbreak : u = 0xA
  · rw [hbreak, if_pos rfl]
    exact @reads_of_tag _ (Tag.plain false (codeUnits "br")) (by decide +kernel)
  · rw [if_neg hbreak]
    -- A written unit has a line break only if it is one.
    have hsame : replaceAllUnits 0xA (codeUnits "<br>") (escapeUnit u) = escapeUnit u := by
      rw [replaceAllUnits, List.flatMap_congr (g := fun v => [v])]
      · exact List.flatMap_singleton' _
      · intro v hv
        refine if_neg fun hv' => hbreak ?_
        unfold escapeUnit at hv
        split at hv
        · rename_i reference hfind
          have hnames : ∀ reference ∈ references, 0xA ∉ ampersand :: reference.1 := by decide
          exact absurd (hv' ▸ hv) (hnames reference (List.mem_of_find?_eq_some hfind))
        · exact (List.mem_singleton.mp hv).symm.trans hv'
    rw [hsame]
    simpa [escape] using reads_escape [u]

def directTokens (text : List ℕ) : List Token :=
  wrapped (if text = [] then [] else around (codeUnits "p") (brokenTokens text))

theorem reads_directHtml (text : List ℕ) : Reads (directHtml text) (directTokens text) := by
  unfold directHtml directTokens
  split
  · have hempty := reads_wrapped Reads.nil
    rwa [List.append_nil] at hempty
  · exact reads_wrapped (reads_element (by decide +kernel) (reads_broken text))

theorem blockLines_eq_ok {block : OrganizerMessageComposedBlock} {lines : List (List ℕ)}
    (h : blockLines host fields timezone mergeRegistry block = .ok lines) :
    lines = (documentBlock (mergedText host fields timezone)
      (linkOf host fields mergeRegistry) block).lines := by
  cases block with
  | paragraph content =>
    cases h
    rw [inlineText_eq]
    rfl
  | heading level content =>
    cases h
    rw [inlineText_eq]
    rfl
  | list style items =>
    cases h
    rw [documentBlock, DocumentBlock.lines, List.mapIdx_eq_iff]
    intro i
    rw [List.getElem?_mapIdx, List.getElem?_map, Option.map_map]
    simp only [inlineText_eq]
    rfl
  | actionLink label hrefFieldKey =>
    obtain ⟨href, hhref, h⟩ := bind_eq_ok.mp h
    rw [documentBlock, linkOf_eq hhref]
    cases href with
    | none =>
      cases h
      rw [inlineText_eq]
      rfl
    | some href =>
      cases h
      rw [inlineText_eq]
      rfl
  | detailRows rows =>
    cases h
    rw [documentBlock, DocumentBlock.lines, List.map_map]
    simp only [inlineText_eq]
    rfl

theorem renderComposedText_eq_ok {blocks : List OrganizerMessageComposedBlock} {text : List ℕ}
    (h : renderComposedText host fields timezone mergeRegistry blocks = .ok text) :
    text = documentText (documentOf host fields timezone mergeRegistry blocks) := by
  simp only [renderComposedText, bind_eq_ok, pure_eq_ok] at h
  obtain ⟨lines, hlines, rfl⟩ := h
  have hall : lines = blocks.map fun block => (documentBlock (mergedText host fields timezone)
      (linkOf host fields mergeRegistry) block).lines := by
    rw [← List.forall₂_eq_eq_eq, List.forall₂_map_right_iff]
    exact (forall₂_of_mapM_eq_ok hlines).flip.imp fun _ _ hblock => blockLines_eq_ok hblock
  rw [documentText, documentOf, List.flatMap_map, hall, List.flatMap_def]

end Document

end JooEvents.Rendering
