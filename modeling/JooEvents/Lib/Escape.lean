import JooEvents.Lib.Markup
import Mathlib.Data.List.Forall2

/-!
# Escaped text in markup

What stands in markup with `&`, `<`, `>`, `"` and `'` written as references. Escaped text has
no unit that ends it : the machine reads it as text, or inside a value between marks, whatever
it escapes. Reading markup with its references (`tokensOf`) gives the text back
(`reads_escape`), and what is put together of parts that read as tokens reads as the tokens
of the parts (`Reads.append`, `reads_element`).
-/

namespace Markup

/-- `&`. -/
def ampersand : ℕ := 38

/-- The names of the references, after `&`, with what they stand for : `amp;`, `lt;`, `gt;`,
`quot;` and `#39;`. -/
def references : List (List ℕ × ℕ) :=
  [([97, 109, 112, 59], ampersand), ([108, 116, 59], lt), ([103, 116, 59], gt),
    ([113, 117, 111, 116, 59], Mark.double.unit), ([35, 51, 57, 59], Mark.single.unit)]

/-- A unit as it is written in text. -/
def escapeUnit (u : ℕ) : List ℕ :=
  match references.find? fun reference => reference.2 = u with
  | some reference => ampersand :: reference.1
  | none => [u]

/-- Text as it is written. -/
def escape (us : List ℕ) : List ℕ := us.flatMap escapeUnit

/-- No written unit is `<`, `>` or a mark. -/
theorem not_mem_escape {u : ℕ} (hu : u = lt ∨ u = gt ∨ isMark u = true) (us : List ℕ) :
    u ∉ escape us := by
  intro hmem
  obtain ⟨v, -, hv⟩ := List.mem_flatMap.mp hmem
  unfold escapeUnit at hv
  cases hfind : references.find? fun reference => reference.2 = v with
  | some reference =>
    rw [hfind] at hv
    have hnames : ∀ reference ∈ references, ∀ w ∈ ampersand :: reference.1,
        w ≠ lt ∧ w ≠ gt ∧ isMark w = false := by decide
    have hother := hnames reference (List.mem_of_find?_eq_some hfind) u hv
    rcases hu with hlt | hgt | hmark
    · exact hother.1 hlt
    · exact hother.2.1 hgt
    · exact absurd hmark (by simp [hother.2.2])
  | none =>
    rw [hfind] at hv
    obtain rfl := List.mem_singleton.mp hv
    have hnone := List.find?_eq_none.mp hfind
    have hlisted : u ∈ references.map (·.2) := by
      rcases hu with rfl | rfl | hmark
      · decide
      · decide
      · simp only [isMark, Bool.or_eq_true, beq_iff_eq] at hmark
        rcases hmark with rfl | rfl
        · decide
        · decide
    obtain ⟨reference, hreference, rfl⟩ := List.mem_map.mp hlisted
    exact hnone reference hreference (by simp)

/-! ## Reading -/

/-- A reference at the beginning of tokens : what it stands for, and its length after `&`. -/
def referenceAt (tokens : List Token) : Option (ℕ × ℕ) :=
  references.findSome? fun reference =>
    if (reference.1.map Token.char).isPrefixOf tokens then
      some (reference.2, reference.1.length) else none

/-- Read the references of a text, after so many tokens that belong to one. -/
def decodeAfter : ℕ → List Token → List Token
  | _, [] => []
  | n + 1, _ :: tokens => decodeAfter n tokens
  | 0, .tag tag :: tokens => .tag tag :: decodeAfter 0 tokens
  | 0, .char u :: tokens =>
    if u = ampersand then
      match referenceAt tokens with
      | some (v, n) => .char v :: decodeAfter n tokens
      | none => .char u :: decodeAfter 0 tokens
    else .char u :: decodeAfter 0 tokens

def Token.unit? : Token → Option ℕ
  | .char u => some u
  | .tag _ => none

/-- What written text says. -/
def unescape (us : List ℕ) : List ℕ := (decodeAfter 0 (us.map Token.char)).filterMap Token.unit?

/-- The tag with the references in its values read. -/
def Tag.decoded (tag : Tag) : Tag :=
  { tag with attributes := tag.attributes.map fun pair => (pair.1, unescape pair.2) }

def Token.decoded : Token → Token
  | .char u => .char u
  | .tag read => .tag read.decoded

/-- Tokens with their references read. -/
def decode (tokens : List Token) : List Token := (decodeAfter 0 tokens).map Token.decoded

/-- What markup says. -/
def tokensOf (us : List ℕ) : List Token := decode (run .text us).2

theorem decodeAfter_length : ∀ (us tokens : List Token),
    decodeAfter us.length (us ++ tokens) = decodeAfter 0 tokens
  | [], _ => rfl
  | _ :: us, tokens => decodeAfter_length us tokens

theorem decodeAfter_escapeUnit (u : ℕ) (tokens : List Token) :
    decodeAfter 0 ((escapeUnit u).map Token.char ++ tokens) = .char u :: decodeAfter 0 tokens := by
  unfold escapeUnit
  cases hfind : references.find? fun reference => reference.2 = u with
  | some reference =>
    have hunit : reference.2 = u := by simpa using List.find?_some hfind
    have hreference : ∀ reference ∈ references,
        referenceAt (reference.1.map Token.char ++ tokens) =
          some (reference.2, (reference.1.map Token.char).length) := by
      simp [references, referenceAt]
    dsimp only
    rw [List.map_cons, List.cons_append, decodeAfter, if_pos rfl,
      hreference reference (List.mem_of_find?_eq_some hfind)]
    dsimp only
    rw [decodeAfter_length, hunit]
  | none =>
    have hne : u ≠ ampersand := by
      intro hu
      exact List.find?_eq_none.mp hfind ([97, 109, 112, 59], ampersand) (by decide) (by simp [hu])
    dsimp only
    rw [List.map_singleton, List.singleton_append, decodeAfter, if_neg hne]

theorem decodeAfter_escape : ∀ (us : List ℕ) (tokens : List Token),
    decodeAfter 0 ((escape us).map Token.char ++ tokens) =
      us.map Token.char ++ decodeAfter 0 tokens
  | [], _ => rfl
  | u :: us, tokens => by
    rw [escape, List.flatMap_cons, List.map_append, List.append_assoc, decodeAfter_escapeUnit,
      ← escape, decodeAfter_escape us tokens]
    rfl

/-- What was escaped is read back. -/
theorem unescape_escape (us : List ℕ) : unescape (escape us) = us := by
  have hall := decodeAfter_escape us []
  rw [List.append_nil] at hall
  rw [unescape, hall, List.filterMap_append, List.filterMap_map]
  simp [decodeAfter, Function.comp_def, Token.unit?]

/-- The units read as the tokens, wherever text is. -/
structure Reads (us : List ℕ) (tokens : List Token) : Prop where
  stateAfter_eq : stateAfter .text us = .text
  decode_eq : ∀ rest, decode ((run .text us).2 ++ rest) = tokens ++ decode rest

theorem Reads.tokensOf_eq {us : List ℕ} {tokens : List Token} (h : Reads us tokens) :
    tokensOf us = tokens := by
  have hall := h.decode_eq []
  rwa [List.append_nil, show decode [] = [] from rfl, List.append_nil] at hall

theorem Reads.nil : Reads [] [] := ⟨rfl, fun _ => rfl⟩

theorem Reads.append {us vs : List ℕ} {tokens tokens' : List Token} (h : Reads us tokens)
    (h' : Reads vs tokens') : Reads (us ++ vs) (tokens ++ tokens') := by
  have hstate : (run .text us).1 = .text := h.stateAfter_eq
  constructor
  · rw [stateAfter_append, h.stateAfter_eq, h'.stateAfter_eq]
  · intro rest
    rw [run_append, hstate, List.append_assoc, h.decode_eq, h'.decode_eq, List.append_assoc]

section Flatten

variable {α : Type} {tokens : α → List Token}

/-- Parts one after the other. -/
theorem Reads.flatten {as : List α} {parts : List (List ℕ)}
    (h : List.Forall₂ (fun a us => Reads us (tokens a)) as parts) :
    Reads parts.flatten (as.flatMap tokens) := by
  induction h with
  | nil => exact Reads.nil
  | cons hpart _ ih => exact hpart.append ih

theorem Reads.flatten_map {write : α → List ℕ} {as : List α}
    (h : ∀ a ∈ as, Reads (write a) (tokens a)) : Reads (as.map write).flatten (as.flatMap tokens) :=
  Reads.flatten (List.forall₂_map_right_iff.mpr (List.forall₂_same.mpr h))

end Flatten

/-- Text that has no `<` is text. -/
theorem run_text : ∀ {us : List ℕ}, lt ∉ us → run .text us = (.text, us.map Token.char)
  | [], _ => rfl
  | u :: us, h => by
    rw [List.mem_cons, not_or] at h
    have hu : u ≠ lt := fun hu => h.1 hu.symm
    rw [run, step, if_neg hu]
    dsimp only
    rw [run_text h.2]
    rfl

/-- Escaped text reads as what it escapes. -/
theorem reads_escape (us : List ℕ) : Reads (escape us) (us.map Token.char) := by
  have hrun := run_text (not_mem_escape (.inl rfl) us)
  refine ⟨by rw [stateAfter, hrun], fun rest => ?_⟩
  rw [hrun, decode, decodeAfter_escape, List.map_append, List.map_map]
  rfl

/-- A part that is one tag. -/
theorem reads_of_tag {us : List ℕ} {tag : Tag} (h : run .text us = (.text, [.tag tag])) :
    Reads us [.tag tag.decoded] := by
  refine ⟨by rw [stateAfter, h], fun rest => ?_⟩
  rw [h]
  rfl

/-! ## Tags -/

/-- The name of a tag : a letter, then letters and digits, in lower case. -/
def isTagName (name : List ℕ) : Bool :=
  name != [] && (name.head?.any isLetter) &&
    name.all fun u => decide (97 ≤ u ∧ u ≤ 122 ∨ 48 ≤ u ∧ u ≤ 57)

/-- A tag without attributes. -/
def Tag.plain (closing : Bool) (name : List ℕ) : Tag := ⟨closing, name, []⟩

/-- `<name>content</name>`. -/
def element (name content : List ℕ) : List ℕ :=
  (lt :: name ++ [gt]) ++ content ++ (lt :: slash :: name ++ [gt])

theorem run_tagName {closing : Bool} : ∀ {us name : List ℕ},
    (∀ u ∈ us, 97 ≤ u ∧ u ≤ 122 ∨ 48 ≤ u ∧ u ≤ 57) →
      run (.tagName closing name) (us ++ [gt]) =
        (.text, [.tag (Tag.plain closing (name ++ us))])
  | [], name, _ => by
    rw [List.append_nil]
    rfl
  | u :: us, name, h => by
    rw [List.forall_mem_cons] at h
    have hspace : (isSpace u || u == slash) = false := by
      simp only [isSpace, slash, Bool.or_eq_false_iff, List.contains_eq_mem, beq_eq_false_iff_ne,
        decide_eq_false_iff_not, List.mem_cons, List.not_mem_nil, or_false]
      omega
    have hgt : u ≠ gt := by
      unfold gt
      omega
    have hlower : lower u = u := by
      unfold lower
      split_ifs
      · omega
      · rfl
    rw [List.cons_append, run, step, if_neg (by simp [hspace]), if_neg hgt, hlower]
    dsimp only
    rw [run_tagName h.2, List.append_assoc]
    rfl

theorem run_openTag {name : List ℕ} (h : isTagName name = true) :
    run .text (lt :: name ++ [gt]) = (.text, [.tag (Tag.plain false name)]) := by
  simp only [isTagName, Bool.and_eq_true, List.all_eq_true, decide_eq_true_eq] at h
  obtain ⟨⟨hne, hhead⟩, hall⟩ := h
  cases name with
  | nil => cases hne
  | cons u us =>
    rw [List.forall_mem_cons] at hall
    have hletter : isLetter u = true := by simpa using hhead
    have hunits : u ≠ bang ∧ u ≠ slash := by
      unfold bang slash
      omega
    have hlower : lower u = u := by
      unfold lower
      split_ifs
      · omega
      · rfl
    rw [List.cons_append, List.cons_append, run, step, if_pos rfl]
    dsimp only
    rw [run, step, if_neg hunits.1, if_neg hunits.2, if_pos hletter, hlower]
    dsimp only
    rw [run_tagName hall.2]
    rfl

theorem run_closeTag {name : List ℕ} (h : isTagName name = true) :
    run .text (lt :: slash :: name ++ [gt]) = (.text, [.tag (Tag.plain true name)]) := by
  simp only [isTagName, Bool.and_eq_true, List.all_eq_true, decide_eq_true_eq] at h
  obtain ⟨⟨hne, hhead⟩, hall⟩ := h
  cases name with
  | nil => cases hne
  | cons u us =>
    rw [List.forall_mem_cons] at hall
    have hletter : isLetter u = true := by simpa using hhead
    have hlower : lower u = u := by
      unfold lower
      split_ifs
      · omega
      · rfl
    rw [List.cons_append, List.cons_append, List.cons_append, run, step, if_pos rfl]
    dsimp only
    rw [run, step, if_neg (by decide), if_pos rfl]
    dsimp only
    rw [run, step, if_pos hletter, hlower]
    dsimp only
    rw [run_tagName hall.2]
    rfl

/-- An element reads as its tags around what its content reads as. -/
theorem reads_element {name content : List ℕ} {tokens : List Token} (h : isTagName name = true)
    (hcontent : Reads content tokens) : Reads (element name content)
      (.tag (Tag.plain false name) :: tokens ++ [.tag (Tag.plain true name)]) :=
  ((reads_of_tag (run_openTag h)).append hcontent).append (reads_of_tag (run_closeTag h))

/-- A value between marks ends at its mark. -/
theorem run_quoted {mark : Mark} {tag : Tag} {name : List ℕ} :
    ∀ {us value : List ℕ}, mark.unit ∉ us → run (.quoted mark tag name value) (us ++ [mark.unit]) =
      (.beforeName (tag.attribute name (value ++ us)), [])
  | [], value, _ => by
    rw [List.nil_append, run, step, if_pos rfl, List.append_nil]
    rfl
  | u :: us, value, h => by
    rw [List.mem_cons, not_or] at h
    have hu : u ≠ mark.unit := fun hu => h.1 hu.symm
    rw [List.cons_append, run, step, if_neg hu]
    dsimp only
    rw [run_quoted h.2, List.append_assoc]
    rfl

/-- A tag whose last value is written between marks. -/
theorem reads_quotedTag {before us name : List ℕ} {tag : Tag}
    (h : run .text before = (.quoted .double tag name [], [])) :
    Reads (before ++ (escape us ++ [Mark.double.unit, gt]))
      [.tag { tag.decoded with attributes := tag.decoded.attributes ++ [(name, us)] }] := by
  have hquoted : run (.quoted .double tag name []) (escape us ++ [Mark.double.unit]) =
      (.beforeName (tag.attribute name ([] ++ escape us)), []) :=
    run_quoted (not_mem_escape (.inr (.inr rfl)) us)
  have hrun : run .text (before ++ (escape us ++ [Mark.double.unit, gt])) =
      (.text, [.tag (tag.attribute name (escape us))]) := by
    rw [run_append, h, show [Mark.double.unit, gt] = [Mark.double.unit] ++ [gt] from rfl,
      ← List.append_assoc, run_append, hquoted]
    rfl
  have hreads := reads_of_tag hrun
  rwa [show (tag.attribute name (escape us)).decoded =
      { tag.decoded with attributes := tag.decoded.attributes ++ [(name, us)] } by
    rw [Tag.decoded, Tag.attribute, Tag.decoded, List.map_append, List.map_singleton,
      unescape_escape]] at hreads

end Markup
