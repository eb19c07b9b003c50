import Mathlib.Data.List.Basic

/-!
# Markup

The tokenizer of HTML, on code points or code units : what is text and what is a tag with
its attributes, comments and declarations being neither. It is a machine that is fed one
unit at a time (`step`, `run`), so what a prefix of a document leaves open is the state
after it (`stateAfter`). The content of elements such as `style` is read like any other.
-/

namespace Markup

/-- A tag, its names in lower case. -/
structure Tag where
  closing : Bool
  name : List ℕ
  attributes : List (List ℕ × List ℕ)
  deriving DecidableEq

/-- The tag with one more attribute. -/
def Tag.attribute (tag : Tag) (name value : List ℕ) : Tag :=
  { tag with attributes := tag.attributes ++ [(name, value)] }

inductive Token where
  | char (u : ℕ)
  | tag (tag : Tag)
  deriving DecidableEq

/-- What a value stands between. -/
inductive Mark where
  | double
  | single
  deriving DecidableEq

/-- `"` or `'`. -/
def Mark.unit : Mark → ℕ
  | .double => 34
  | .single => 39

inductive State where
  | text
  /-- After `<`. -/
  | tagOpen
  /-- After `</`. -/
  | endTagOpen
  | tagName (closing : Bool) (name : List ℕ)
  | beforeName (tag : Tag)
  | inName (tag : Tag) (name : List ℕ)
  | afterName (tag : Tag) (name : List ℕ)
  | beforeValue (tag : Tag) (name : List ℕ)
  | quoted (mark : Mark) (tag : Tag) (name value : List ℕ)
  | unquoted (tag : Tag) (name value : List ℕ)
  /-- A comment that only `>` ends. -/
  | bogus
  /-- After `<!`. -/
  | declaration
  | declarationDash
  | commentStart
  | commentStartDash
  | comment
  | commentEndDash
  | commentEnd
  | commentEndBang
  deriving DecidableEq

/-- `A` to `Z` and `a` to `z`. -/
def isLetter (u : ℕ) : Bool := decide (65 ≤ u ∧ u ≤ 90 ∨ 97 ≤ u ∧ u ≤ 122)

def isSpace (u : ℕ) : Bool := [9, 10, 12, 13, 32].contains u

/-- The unit in lower case. -/
def lower (u : ℕ) : ℕ := if 65 ≤ u ∧ u ≤ 90 then u + 32 else u

/-- `<`. -/
def lt : ℕ := 60

/-- `>`. -/
def gt : ℕ := 62

/-- `/`. -/
def slash : ℕ := 47

/-- `!`. -/
def bang : ℕ := 33

/-- `-`. -/
def dash : ℕ := 45

/-- `=`. -/
def equals : ℕ := 61

/-- `"` and `'`. -/
def isMark (u : ℕ) : Bool := u == Mark.double.unit || u == Mark.single.unit

/-! ## The machine -/

/-- Read a unit : the next state, and the tokens that are complete. -/
def step : State → ℕ → State × List Token
  | .text, u => if u = lt then (.tagOpen, []) else (.text, [.char u])
  | .tagOpen, u =>
    if u = bang then (.declaration, [])
    else if u = slash then (.endTagOpen, [])
    else if isLetter u then (.tagName false [lower u], [])
    else if u = 63 then (.bogus, [])
    else if u = lt then (.tagOpen, [.char lt])
    else (.text, [.char lt, .char u])
  | .endTagOpen, u =>
    if isLetter u then (.tagName true [lower u], [])
    else if u = gt then (.text, [])
    else (.bogus, [])
  | .tagName closing name, u =>
    if isSpace u || u == slash then (.beforeName ⟨closing, name, []⟩, [])
    else if u = gt then (.text, [.tag ⟨closing, name, []⟩])
    else (.tagName closing (name ++ [lower u]), [])
  | .beforeName tag, u =>
    if isSpace u || u == slash then (.beforeName tag, [])
    else if u = gt then (.text, [.tag tag])
    else (.inName tag [lower u], [])
  | .inName tag name, u =>
    if isSpace u then (.afterName tag name, [])
    else if u = slash then (.beforeName (tag.attribute name []), [])
    else if u = gt then (.text, [.tag (tag.attribute name [])])
    else if u = equals then (.beforeValue tag name, [])
    else (.inName tag (name ++ [lower u]), [])
  | .afterName tag name, u =>
    if isSpace u then (.afterName tag name, [])
    else if u = slash then (.beforeName (tag.attribute name []), [])
    else if u = equals then (.beforeValue tag name, [])
    else if u = gt then (.text, [.tag (tag.attribute name [])])
    else (.inName (tag.attribute name []) [lower u], [])
  | .beforeValue tag name, u =>
    if isSpace u then (.beforeValue tag name, [])
    else if u = Mark.double.unit then (.quoted .double tag name [], [])
    else if u = Mark.single.unit then (.quoted .single tag name [], [])
    else if u = gt then (.text, [.tag (tag.attribute name [])])
    else (.unquoted tag name [u], [])
  | .quoted mark tag name value, u =>
    if u = mark.unit then (.beforeName (tag.attribute name value), [])
    else (.quoted mark tag name (value ++ [u]), [])
  | .unquoted tag name value, u =>
    if isSpace u then (.beforeName (tag.attribute name value), [])
    else if u = gt then (.text, [.tag (tag.attribute name value)])
    else (.unquoted tag name (value ++ [u]), [])
  | .bogus, u => (if u = gt then .text else .bogus, [])
  | .declaration, u =>
    (if u = dash then .declarationDash else if u = gt then .text else .bogus, [])
  | .declarationDash, u =>
    (if u = dash then .commentStart else if u = gt then .text else .bogus, [])
  | .commentStart, u =>
    (if u = dash then .commentStartDash else if u = gt then .text else .comment, [])
  | .commentStartDash, u =>
    (if u = dash then .commentEnd else if u = gt then .text else .comment, [])
  | .comment, u => (if u = dash then .commentEndDash else .comment, [])
  | .commentEndDash, u => (if u = dash then .commentEnd else .comment, [])
  | .commentEnd, u =>
    (if u = gt then .text else if u = bang then .commentEndBang
      else if u = dash then .commentEnd else .comment, [])
  | .commentEndBang, u =>
    (if u = dash then .commentEndDash else if u = gt then .text else .comment, [])

/-- Read units. -/
def run : State → List ℕ → State × List Token
  | s, [] => (s, [])
  | s, u :: us =>
    let next := step s u
    let rest := run next.1 us
    (rest.1, next.2 ++ rest.2)

/-- The state after units. -/
def stateAfter (s : State) (us : List ℕ) : State := (run s us).1

theorem run_append : ∀ (s : State) (us vs : List ℕ),
    run s (us ++ vs) =
      ((run (run s us).1 vs).1, (run s us).2 ++ (run (run s us).1 vs).2)
  | s, [], vs => by simp [run]
  | s, u :: us, vs => by simp [run, run_append (step s u).1 us vs]

@[simp] theorem stateAfter_nil (s : State) : stateAfter s [] = s := rfl

@[simp] theorem stateAfter_cons (s : State) (u : ℕ) (us : List ℕ) :
    stateAfter s (u :: us) = stateAfter (step s u).1 us := rfl

theorem stateAfter_append (s : State) (us vs : List ℕ) :
    stateAfter s (us ++ vs) = stateAfter (stateAfter s us) vs := by
  rw [stateAfter, run_append]
  rfl

/-- The state is between the `<` and the `>` of a tag. -/
def State.inTag : State → Bool
  | .tagOpen => true
  | .endTagOpen => true
  | .tagName _ _ => true
  | .beforeName _ => true
  | .inName _ _ => true
  | .afterName _ _ => true
  | .beforeValue _ _ => true
  | .quoted _ _ _ _ => true
  | .unquoted _ _ _ => true
  | _ => false

/-- The state is in a value between marks. -/
def State.isQuoted : State → Bool
  | .quoted _ _ _ _ => true
  | _ => false

theorem State.inTag_of_isQuoted {s : State} (h : s.isQuoted = true) : s.inTag = true := by
  cases s <;> first | rfl | cases h

/-- A tag ends at `>` unless it stands in a value between marks. -/
theorem isQuoted_of_inTag_step_gt {s : State} (h : (step s gt).1.inTag = true) :
    (step s gt).1.isQuoted = true := by
  cases s with
  | quoted mark tag name value => cases mark <;> rfl
  | _ => exact absurd h (by simp [step, gt, isSpace, isLetter, lt, bang, slash, dash, equals,
      Mark.unit, State.inTag])

/-- Only a mark opens or closes a value between marks. -/
theorem isQuoted_step {s : State} {u : ℕ} (h : isMark u = false) :
    (step s u).1.isQuoted = s.isQuoted := by
  simp only [isMark, Bool.or_eq_false_iff, beq_eq_false_iff_ne] at h
  cases s with
  | quoted mark tag name value =>
    have hmark : u ≠ mark.unit := by
      cases mark
      · exact h.1
      · exact h.2
    rw [step, if_neg hmark]
    rfl
  | beforeValue tag name =>
    rw [step, if_neg h.1, if_neg h.2]
    split_ifs <;> rfl
  | _ =>
    simp only [step]
    split_ifs <;> rfl

theorem isQuoted_stateAfter : ∀ {us : List ℕ} {s : State}, (∀ u ∈ us, isMark u = false) →
    (stateAfter s us).isQuoted = s.isQuoted
  | [], _, _ => rfl
  | u :: us, s, h => by
    rw [List.forall_mem_cons] at h
    rw [stateAfter_cons, isQuoted_stateAfter h.2, isQuoted_step h.1]

end Markup
