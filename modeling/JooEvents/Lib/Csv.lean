import Mathlib.Data.List.Basic

/-!
# Comma-separated values

The format of RFC 4180 : a file is a list of records, each ended by CRLF, a record a list of
fields with commas between them. A field is written as it is, or between quotes where it contains
a comma, a quote or a line break, and then every quote in it is doubled.

`read` reads a file character by character. What it reads from a file of records that are not
empty are their fields (`read_writeFile`), whatever characters they contain.
-/

namespace Csv

/-- The characters that a field can have between quotes only. -/
def isSpecial (c : Char) : Bool := c = '"' ∨ c = ',' ∨ c = '\n' ∨ c = '\r'

/-- A field with its quotes doubled. -/
def doubleQuotes (field : List Char) : List Char :=
  field.flatMap fun c => if c = '"' then ['"', '"'] else [c]

/-- A field as it is written. -/
def writeField (field : List Char) : List Char :=
  if field.any isSpecial then '"' :: (doubleQuotes field ++ ['"']) else field

/-- The fields of a record with commas between them. -/
def writeRecord (fields : List (List Char)) : List Char :=
  [','].intercalate (fields.map writeField)

/-- The records of a file, each with its line break. -/
def writeFile (records : List (List (List Char))) : List Char :=
  records.flatMap fun fields => writeRecord fields ++ ['\r', '\n']

theorem writeFile_cons (fields : List (List Char)) (records : List (List (List Char))) :
    writeFile (fields :: records) = writeRecord fields ++ '\r' :: '\n' :: writeFile records := by
  rw [writeFile, List.flatMap_cons, List.append_assoc]
  rfl

/-! ## Reading -/

/-- Where a reader is. -/
inductive Place where
  /-- At the start of a field. -/
  | start
  /-- In a field that is written as it is. -/
  | plain
  /-- Between the quotes of a field. -/
  | quoted
  /-- After a quote that was not the first one of a field. -/
  | closed
  /-- After the CR at the end of a record. -/
  | ended
  deriving DecidableEq

/-- Read the records of a file, from a place in it with what was read of the field and of the
record. The line break of the last record may be left out. -/
def read : Place → List Char → List (List Char) → List Char → Option (List (List (List Char)))
  | .start, _, [], [] => some []
  | .start, field, record, [] => some [record ++ [field]]
  | .plain, field, record, [] => some [record ++ [field]]
  | .closed, field, record, [] => some [record ++ [field]]
  | .quoted, _, _, [] => none
  | .ended, _, _, [] => none
  | .quoted, field, record, c :: s =>
    if c = '"' then read .closed field record s else read .quoted (field ++ [c]) record s
  | .ended, _, record, c :: s =>
    if c = '\n' then (read .start [] [] s).map (record :: ·) else none
  | place, field, record, c :: s =>
    if c = ',' then read .start [] (record ++ [field]) s
    else if c = '\r' then read .ended [] (record ++ [field]) s
    else if c = '"' then
      -- a quote opens a field, or it is the second one of a doubled quote
      match place with
      | .start => read .quoted [] record s
      | .closed => read .quoted (field ++ ['"']) record s
      | _ => none
    else if c = '\n' ∨ place = .closed then none
    else read .plain (field ++ [c]) record s

/-- The places where a field can end. -/
def Place.EndsField (place : Place) : Prop := place = .start ∨ place = .plain ∨ place = .closed

theorem read_comma {place : Place} (h : place.EndsField) (field : List Char)
    (record : List (List Char)) (s : List Char) :
    read place field record (',' :: s) = read .start [] (record ++ [field]) s := by
  rcases h with rfl | rfl | rfl <;> rw [read, if_pos rfl] <;> simp

theorem read_lineBreak {place : Place} (h : place.EndsField) (field : List Char)
    (record : List (List Char)) (s : List Char) :
    read place field record ('\r' :: '\n' :: s) =
      (read .start [] [] s).map ((record ++ [field]) :: ·) := by
  rcases h with rfl | rfl | rfl <;>
    rw [read, if_neg (by decide), if_pos rfl, read, if_pos rfl] <;> simp

/-- What is between quotes is read up to the last of them. -/
theorem read_doubleQuotes (text field : List Char) (record : List (List Char)) (s : List Char) :
    read .quoted field record (doubleQuotes text ++ '"' :: s) =
      read .closed (field ++ text) record s := by
  induction text generalizing field with
  | nil => rw [doubleQuotes, List.flatMap_nil, List.nil_append, read, if_pos rfl, List.append_nil]
  | cons c text ih =>
    rw [doubleQuotes, List.flatMap_cons, ← doubleQuotes]
    by_cases hc : c = '"'
    · rw [if_pos hc, List.append_assoc, List.cons_append, List.singleton_append, read, if_pos rfl,
        read, if_neg (by decide), if_neg (by decide), if_pos rfl]
      rw [ih, hc, List.append_assoc, List.singleton_append]
    · rw [if_neg hc, List.cons_append, List.nil_append, List.cons_append, read, if_neg hc, ih,
        List.append_assoc, List.singleton_append]

/-- Characters that are not special are read as they are. -/
theorem read_plain {text : List Char} (h : text.any isSpecial = false) (field : List Char)
    (record : List (List Char)) (s : List Char) :
    read .plain field record (text ++ s) = read .plain (field ++ text) record s := by
  induction text generalizing field with
  | nil => rw [List.nil_append, List.append_nil]
  | cons c text ih =>
    simp only [List.any_cons, Bool.or_eq_false_iff, isSpecial, decide_eq_false_iff_not,
      not_or] at h
    obtain ⟨⟨hquote, hcomma, hlf, hcr⟩, htext⟩ := h
    rw [List.cons_append, read, if_neg hcomma, if_neg hcr, if_neg hquote,
      if_neg (by simp [hlf]), ih (by simpa [isSpecial] using htext), List.append_assoc,
      List.singleton_append]
    all_goals simp

/-- A field is read as what was written, and the reader is where it can end. -/
theorem exists_read_writeField (text : List Char) (record : List (List Char)) :
    ∃ place : Place, place.EndsField ∧ ∀ s,
      read .start [] record (writeField text ++ s) = read place text record s := by
  unfold writeField
  split_ifs with hspecial
  · refine ⟨.closed, .inr (.inr rfl), fun s => ?_⟩
    rw [List.cons_append, List.append_assoc, List.singleton_append, read, if_neg (by decide),
      if_neg (by decide), if_pos rfl]
    exact read_doubleQuotes text [] record s
  · cases text with
    | nil => exact ⟨.start, .inl rfl, fun _ => rfl⟩
    | cons c text =>
      refine ⟨.plain, .inr (.inl rfl), fun s => ?_⟩
      rw [Bool.not_eq_true] at hspecial
      have hfirst : read .start [] record (c :: (text ++ s)) =
          read .plain [c] record (text ++ s) := by
        simp only [List.any_cons, Bool.or_eq_false_iff, isSpecial, decide_eq_false_iff_not,
          not_or] at hspecial
        obtain ⟨⟨hquote, hcomma, hlf, hcr⟩, -⟩ := hspecial
        rw [read, if_neg hcomma, if_neg hcr, if_neg hquote, if_neg (by simp [hlf])]
        all_goals simp
      rw [List.any_cons, Bool.or_eq_false_iff] at hspecial
      rw [List.cons_append, hfirst, read_plain hspecial.2, List.singleton_append]

/-- A record is read as the fields that were written. -/
theorem read_writeRecord (field : List Char) (fields record : List (List Char)) (s : List Char) :
    read .start [] record (writeRecord (field :: fields) ++ '\r' :: '\n' :: s) =
      (read .start [] [] s).map ((record ++ field :: fields) :: ·) := by
  induction fields generalizing field record with
  | nil =>
    obtain ⟨place, hplace, hread⟩ := exists_read_writeField field record
    rw [writeRecord, List.map_singleton, List.intercalate_singleton, hread,
      read_lineBreak hplace]
  | cons next fields ih =>
    obtain ⟨place, hplace, hread⟩ := exists_read_writeField field record
    rw [writeRecord, List.map_cons, List.map_cons, List.intercalate_cons_cons, ← List.map_cons,
      ← writeRecord, List.append_assoc, List.append_assoc, hread, List.singleton_append,
      read_comma hplace, ih, List.append_assoc, List.singleton_append]

/-- What is read from a file are the records that were written. -/
theorem read_writeFile {records : List (List (List Char))} (h : ∀ fields ∈ records, fields ≠ []) :
    read .start [] [] (writeFile records) = some records := by
  induction records with
  | nil => rfl
  | cons fields records ih =>
    obtain ⟨hfields, hrecords⟩ := List.forall_mem_cons.mp h
    obtain ⟨field, fields, rfl⟩ := List.exists_cons_of_ne_nil hfields
    rw [writeFile_cons, read_writeRecord, ih hrecords, Option.map_some, List.nil_append]

end Csv
