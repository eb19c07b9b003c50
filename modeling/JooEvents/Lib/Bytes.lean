import Mathlib.Data.List.Basic
import Mathlib.Data.Nat.Notation
import Mathlib.Algebra.GroupWithZero.Nat

/-!
# Byte formats

Numbers are written in a fixed number of bytes, the lowest first (`littleEndian`), and a binary
format is a sequence of numbers and of runs of bytes. A `Reader` takes values off the front of a
list of bytes : `number` reads back what `littleEndian` wrote, up to what does not fit
(`run_number`), and `bytes` reads back a run (`run_bytes`).

`codePoints` reads UTF-16 code units, a surrogate on its own as U+FFFD, and `utf8` writes UTF-8.
-/

namespace Bytes

/-- A number in `width` bytes, the lowest first. -/
def littleEndian : ℕ → ℕ → List UInt8
  | 0, _ => []
  | width + 1, n => UInt8.ofNat n :: littleEndian width (n / 256)

/-- The number that bytes write, the lowest first. -/
def ofLittleEndian : List UInt8 → ℕ
  | [] => 0
  | byte :: bytes => byte.toNat + 256 * ofLittleEndian bytes

@[simp] theorem length_littleEndian :
    ∀ width n : ℕ, (littleEndian width n).length = width
  | 0, _ => rfl
  | width + 1, n => by rw [littleEndian, List.length_cons, length_littleEndian width]

theorem ofLittleEndian_littleEndian :
    ∀ width n : ℕ, ofLittleEndian (littleEndian width n) = n % 256 ^ width
  | 0, n => by rw [littleEndian, ofLittleEndian, Nat.pow_zero, Nat.mod_one]
  | width + 1, n => by
    rw [littleEndian, ofLittleEndian, ofLittleEndian_littleEndian width, Nat.pow_succ', Nat.mod_mul,
      UInt8.toNat_ofNat']

/-! ## Readers -/

/-- What is read off the front of bytes, or nothing where they are not of the format. -/
abbrev Reader (α : Type) := StateT (List UInt8) Option α

/-- Read a run of bytes. -/
def bytes (n : ℕ) : Reader (List UInt8) := fun input =>
  if n ≤ input.length then some (input.take n, input.drop n) else none

/-- Read a number of `width` bytes. -/
def number (width : ℕ) : Reader ℕ := do
  let run ← bytes width
  return ofLittleEndian run

/-- Read numbers of the given widths. -/
def numbers : List ℕ → Reader (List ℕ)
  | [] => return []
  | width :: widths => do
    let n ← number width
    let ns ← numbers widths
    return n :: ns

/-- Numbers with their widths, one after the other. -/
def fields (values : List (ℕ × ℕ)) : List UInt8 :=
  values.flatMap fun value => littleEndian value.1 value.2

/-- Read a number of values. -/
def many {α : Type} (reader : Reader α) : ℕ → Reader (List α)
  | 0 => return []
  | n + 1 => do
    let a ← reader
    let as ← many reader n
    return a :: as

theorem run_bytes (run rest : List UInt8) :
    (bytes run.length).run (run ++ rest) = some (run, rest) := by
  simp [bytes, StateT.run]

theorem run_bytes_of_length {n : ℕ} {run : List UInt8} (h : run.length = n) (rest : List UInt8) :
    (bytes n).run (run ++ rest) = some (run, rest) :=
  h ▸ run_bytes run rest

@[simp] theorem run_bytes_zero (rest : List UInt8) : (bytes 0).run rest = some ([], rest) :=
  run_bytes [] rest

@[simp] theorem run_number (width n : ℕ) (rest : List UInt8) :
    (number width).run (littleEndian width n ++ rest) = some (n % 256 ^ width, rest) := by
  simp [number, run_bytes_of_length (length_littleEndian width n), ofLittleEndian_littleEndian]

theorem length_fields (values : List (ℕ × ℕ)) :
    (fields values).length = (values.map Prod.fst).sum := by
  induction values with
  | nil => rfl
  | cons value values ih =>
    rw [fields, List.flatMap_cons, List.length_append, length_littleEndian, List.map_cons,
      List.sum_cons]
    exact congrArg (value.1 + ·) ih

/-- Fields are read back where the numbers fit into their widths. -/
theorem run_numbers : ∀ {values : List (ℕ × ℕ)}, (∀ value ∈ values, value.2 < 256 ^ value.1) →
    ∀ rest, (numbers (values.map Prod.fst)).run (fields values ++ rest) =
      some (values.map Prod.snd, rest)
  | [], _, _ => rfl
  | (width, n) :: values, h, rest => by
    have hn : n % 256 ^ width = n := Nat.mod_eq_of_lt (h (width, n) List.mem_cons_self)
    have ih := run_numbers (fun value hvalue => h value (List.mem_cons_of_mem _ hvalue)) rest
    rw [List.map_cons, numbers, fields, List.flatMap_cons, List.append_assoc, StateT.run_bind,
      run_number, hn, Option.bind_eq_bind, Option.bind_some, StateT.run_bind]
    change ((numbers (values.map Prod.fst)).run (fields values ++ rest)).bind _ = _
    rw [ih]
    rfl

/-- Values written one after the other are read one after the other. -/
theorem run_many {α β : Type} {reader : Reader α} {write : β → List UInt8} {value : β → α}
    {written : List β} (h : ∀ b ∈ written, ∀ rest,
      reader.run (write b ++ rest) = some (value b, rest)) (rest : List UInt8) :
    (many reader written.length).run (written.flatMap write ++ rest) =
      some (written.map value, rest) := by
  induction written with
  | nil => rfl
  | cons b written ih =>
    rw [List.length_cons, many, List.flatMap_cons, List.append_assoc, StateT.run_bind,
      h b List.mem_cons_self, Option.bind_eq_bind, Option.bind_some, StateT.run_bind,
      ih fun c hc => h c (List.mem_cons_of_mem _ hc)]
    rfl

/-- Code units that begin a surrogate pair. -/
def isHighSurrogate (unit : UInt16) : Bool := decide (0xD800 ≤ unit.toNat ∧ unit.toNat < 0xDC00)

/-- Code units that end a surrogate pair. -/
def isLowSurrogate (unit : UInt16) : Bool := decide (0xDC00 ≤ unit.toNat ∧ unit.toNat < 0xE000)

/-- The UTF-16 code units of a character : itself, or a surrogate pair. -/
def charUnits (c : Char) : List UInt16 :=
  if c.toNat < 0x10000 then [UInt16.ofNat c.toNat]
  else [UInt16.ofNat (0xD800 + (c.toNat - 0x10000) / 0x400),
    UInt16.ofNat (0xDC00 + (c.toNat - 0x10000) % 0x400)]

/-- The UTF-16 code units of characters. -/
def codeUnits (chars : List Char) : List UInt16 := chars.flatMap charUnits

/-- The characters of UTF-16 code units, U+FFFD for a surrogate that is not part of a pair. -/
def codePoints : List UInt16 → List Char
  | [] => []
  | high :: low :: units =>
    if isHighSurrogate high then
      if isLowSurrogate low then
        Char.ofNat (0x10000 + (high.toNat - 0xD800) * 0x400 + (low.toNat - 0xDC00)) ::
          codePoints units
      else Char.ofNat 0xFFFD :: codePoints (low :: units)
    else if isLowSurrogate high then Char.ofNat 0xFFFD :: codePoints (low :: units)
    else Char.ofNat high.toNat :: codePoints (low :: units)
  | [unit] =>
    if isHighSurrogate unit || isLowSurrogate unit then [Char.ofNat 0xFFFD]
    else [Char.ofNat unit.toNat]

/-- The bytes of characters in UTF-8. -/
def utf8 (chars : List Char) : List UInt8 := chars.flatMap String.utf8EncodeChar

/-- The characters that bytes encode in UTF-8. -/
def ofUtf8 (bytes : List UInt8) : Option (List Char) :=
  (ByteArray.utf8Decode? ⟨bytes.toArray⟩).map Array.toList

theorem ofUtf8_utf8 (chars : List Char) : ofUtf8 (utf8 chars) = some chars := by
  have h : (⟨(utf8 chars).toArray⟩ : ByteArray) = chars.utf8Encode := by
    rw [List.utf8Encode, utf8]
    exact ByteArray.ext (Array.toList_inj.mp List.toList_data_toByteArray.symm)
  rw [ofUtf8, h, List.utf8Decode?_utf8Encode, Option.map_some]

end Bytes
