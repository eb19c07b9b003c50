import JooEvents.Lib.Bytes
import JooEvents.Lib.KeyedMap
import JooEvents.Lib.SortedKeys
import Mathlib.Data.List.Lex
import Mathlib.Data.List.Perm.Basic
import Mathlib.Logic.Function.Iterate
import Mathlib.Order.Fin.Basic

/-!
# Deterministic archives

`deterministicZip` writes the files of an export package into a ZIP archive, in the order of
their names and without compression. An archive holds a local header and the data for each
file, a directory with a header for each file that says where the local one is, and a record
that says where the directory is.

`readArchive` reads an archive the way the format asks for : the record at the end first, then
as many headers of the directory as it says, then the local header each of them points at. What
it reads from an archive are the files that were written (`deterministicZip_read`), where the
names are well-formed strings : the encoder of UTF-8 writes U+FFFD for a lone surrogate.

The checksum is computed with the 32-bit operators of the language, on numbers that are negative
between two shifts. It is the CRC-32 of the data (`crc32_eq_checksum`).
-/

namespace JooEvents.ProgramExport

open Bytes

/-- `a ^ b`. -/
def bitXor (a b : ℤ) : ℤ := (BitVec.ofInt 32 a ^^^ BitVec.ofInt 32 b).toInt

/-- `a & b`. -/
def bitAnd (a b : ℤ) : ℤ := (BitVec.ofInt 32 a &&& BitVec.ofInt 32 b).toInt

/-- `a >>> n`. -/
def shiftRight (a : ℤ) (n : ℕ) : ℤ := (BitVec.ofInt 32 a >>> n).toNat

/-- A number as an element of a `Uint8Array`. -/
def toUint8 (a : ℤ) : UInt8 := ⟨BitVec.ofInt 8 a⟩

@[simp] theorem ofInt_bitXor (a b : ℤ) :
    BitVec.ofInt 32 (bitXor a b) = BitVec.ofInt 32 a ^^^ BitVec.ofInt 32 b :=
  BitVec.ofInt_toInt

@[simp] theorem ofInt_bitAnd (a b : ℤ) :
    BitVec.ofInt 32 (bitAnd a b) = BitVec.ofInt 32 a &&& BitVec.ofInt 32 b :=
  BitVec.ofInt_toInt

@[simp] theorem ofInt_shiftRight (a : ℤ) (n : ℕ) :
    BitVec.ofInt 32 (shiftRight a n) = BitVec.ofInt 32 a >>> n := by
  rw [shiftRight, BitVec.ofInt_natCast, BitVec.ofNat_toNat, BitVec.setWidth_eq]

/-- One bit of `crc32`. -/
def crc32Bit (crc : ℤ) : ℤ := bitXor (shiftRight crc 1) (bitAnd 0xedb88320 (-(bitAnd crc 1)))

/-- One byte of `crc32`. -/
def crc32Byte (crc : ℤ) (byte : UInt8) : ℤ := crc32Bit^[8] (bitXor crc byte.toNat)

def crc32 (data : List UInt8) : ℤ :=
  shiftRight (bitXor (data.foldl crc32Byte 0xffffffff) 0xffffffff) 0

/-- One bit of CRC-32, with the polynomial reflected. -/
def checksumBit (state : BitVec 32) : BitVec 32 :=
  if state.getLsbD 0 then (state >>> 1) ^^^ 0xEDB88320#32 else state >>> 1

def checksumByte (state : BitVec 32) (byte : UInt8) : BitVec 32 :=
  checksumBit^[8] (state ^^^ byte.toBitVec.setWidth 32)

def checksum (data : List UInt8) : BitVec 32 :=
  ~~~(data.foldl checksumByte (BitVec.allOnes 32))

-- the check value of CRC-32, for the digits from 1 to 9
example : checksum [49, 50, 51, 52, 53, 54, 55, 56, 57] = 0xCBF43926#32 := by decide +kernel

theorem neg_and_one (x : BitVec 32) :
    -(x &&& 1#32) = if x.getLsbD 0 then BitVec.allOnes 32 else 0#32 := by
  rw [BitVec.and_one_eq_setWidth_ofBool_getLsbD]
  cases x.getLsbD 0 <;> rfl

theorem ofInt_crc32Bit (crc : ℤ) :
    BitVec.ofInt 32 (crc32Bit crc) = checksumBit (BitVec.ofInt 32 crc) := by
  have hmask : BitVec.ofInt 32 (-(bitAnd crc 1)) = -(BitVec.ofInt 32 crc &&& 1#32) := by
    rw [BitVec.ofInt_neg, ofInt_bitAnd]
    rfl
  rw [crc32Bit, ofInt_bitXor, ofInt_shiftRight, ofInt_bitAnd, hmask, neg_and_one, checksumBit]
  split
  · rw [BitVec.and_allOnes]
    rfl
  · rw [BitVec.and_zero, BitVec.xor_zero]

theorem ofInt_crc32Byte (crc : ℤ) (byte : UInt8) :
    BitVec.ofInt 32 (crc32Byte crc byte) = checksumByte (BitVec.ofInt 32 crc) byte := by
  have hbits : Function.Semiconj (BitVec.ofInt 32) crc32Bit checksumBit := ofInt_crc32Bit
  have hbyte : BitVec.ofInt 32 (byte.toNat : ℤ) = byte.toBitVec.setWidth 32 := by
    rw [BitVec.ofInt_natCast, ← BitVec.ofNat_toNat]
    rfl
  rw [crc32Byte, checksumByte, (hbits.iterate_right 8).eq, ofInt_bitXor, hbyte]

theorem ofInt_foldl_crc32Byte (data : List UInt8) (crc : ℤ) :
    BitVec.ofInt 32 (data.foldl crc32Byte crc) =
      data.foldl checksumByte (BitVec.ofInt 32 crc) := by
  induction data generalizing crc with
  | nil => rfl
  | cons byte data ih => rw [List.foldl_cons, List.foldl_cons, ih, ofInt_crc32Byte]

theorem crc32_eq_checksum (data : List UInt8) : crc32 data = (checksum data).toNat := by
  have hones : BitVec.ofInt 32 0xffffffff = BitVec.allOnes 32 := by decide
  rw [crc32, shiftRight, BitVec.ushiftRight_zero, ofInt_bitXor, ofInt_foldl_crc32Byte, checksum,
    hones, BitVec.xor_allOnes]

/-- A string of the language : UTF-16 code units, also where they are not well formed. -/
abbrev Name := List UInt16

/-- `String.prototype.isWellFormed` : the string has no lone surrogate. -/
def Name.IsWellFormed (name : Name) : Prop := Bytes.codeUnits (codePoints name) = name

instance (name : Name) : Decidable name.IsWellFormed := inferInstanceAs (Decidable (_ = _))

/-- `new TextEncoder().encode`. -/
def encode (name : Name) : List UInt8 := utf8 (codePoints name)

def u16 (value : ℤ) : List UInt8 :=
  [toUint8 (bitAnd value 255), toUint8 (bitAnd (shiftRight value 8) 255)]

def u32 (value : ℤ) : List UInt8 :=
  [toUint8 (bitAnd value 255), toUint8 (bitAnd (shiftRight value 8) 255),
    toUint8 (bitAnd (shiftRight value 16) 255), toUint8 (bitAnd (shiftRight value 24) 255)]

def concat (parts : List (List UInt8)) : List UInt8 := parts.flatten

abbrev File := Name × List UInt8

/-- `Record<string, Uint8Array>`. -/
abbrev Files := KeyedMap (Prod.fst : File → Name)

/-- The local header of a file, its name and its data. -/
def localEntry (file : File) : List UInt8 :=
  let (name, data) := file
  let nameBytes := encode name
  let crc := crc32 data
  concat [u32 0x04034b50, u16 20, u16 0x0800, u16 0, u16 0, u16 0x21, u32 crc, u32 data.length,
    u32 data.length, u16 nameBytes.length, u16 0, nameBytes, data]

/-- The header of a file in the directory, for the offset of its local header. -/
def centralEntry (offset : ℕ) (file : File) : List UInt8 :=
  let (name, data) := file
  let nameBytes := encode name
  let crc := crc32 data
  concat [u32 0x02014b50, u16 20, u16 20, u16 0x0800, u16 0, u16 0, u16 0x21, u32 crc,
    u32 data.length, u32 data.length, u16 nameBytes.length, u16 0, u16 0, u16 0, u16 0, u32 0,
    u32 offset, nameBytes]

/-- The record at the end, for the number of files, the size of the directory and its offset. -/
def endEntry (count size offset : ℕ) : List UInt8 :=
  concat [u32 0x06054b50, u16 0, u16 0, u16 count, u16 count, u32 size, u32 offset, u16 0]

/-- What the loop of `deterministicZip` has written. -/
structure ZipParts where
  localParts : List (List UInt8)
  centralParts : List (List UInt8)
  offset : ℕ

def ZipParts.push (parts : ZipParts) (file : File) : ZipParts :=
  let entry := localEntry file
  { localParts := parts.localParts ++ [entry]
    centralParts := parts.centralParts ++ [centralEntry parts.offset file]
    offset := parts.offset + entry.length }

/-- `Object.keys(files).sort()`, with the data. -/
def sortedFiles (files : Files) : List File :=
  files.values.sortByKey fun file => file.1.map UInt16.toNat

def deterministicZip (files : Files) : List UInt8 :=
  let parts := (sortedFiles files).foldl ZipParts.push ⟨[], [], 0⟩
  let central := concat parts.centralParts
  let count := parts.centralParts.length
  concat (parts.localParts ++ [central, endEntry count central.length parts.offset])

/-- What a header says of a file. -/
structure Header where
  crc : ℕ
  compressedSize : ℕ
  size : ℕ
  name : List UInt8

def readLocalHeader : Reader Header := do
  let [0x04034b50, _version, _flags, 0, _time, _date, crc, compressedSize, size, nameLength,
      extraLength] ← numbers [4, 2, 2, 2, 2, 2, 4, 4, 4, 2, 2] | failure
  let name ← bytes nameLength
  let _extra ← bytes extraLength
  return { crc, compressedSize, size, name }

/-- Read a header of the directory, with the offset of the local header. -/
def readCentralHeader : Reader (ℕ × Header) := do
  let [0x02014b50, _madeBy, _version, _flags, 0, _time, _date, crc, compressedSize, size,
      nameLength, extraLength, commentLength, _disk, _internal, _external, offset] ←
    numbers [4, 2, 2, 2, 2, 2, 2, 4, 4, 4, 2, 2, 2, 2, 2, 4, 4] | failure
  let name ← bytes nameLength
  let _extra ← bytes extraLength
  let _comment ← bytes commentLength
  return (offset, { crc, compressedSize, size, name })

/-- What the record at the end says. -/
structure EndRecord where
  count : ℕ
  size : ℕ
  offset : ℕ

def readEndRecord : Reader EndRecord := do
  let [0x06054b50, _disk, _directoryDisk, _countHere, count, size, offset, commentLength] ←
    numbers [4, 2, 2, 2, 2, 4, 4, 2] | failure
  let _comment ← bytes commentLength
  return { count, size, offset }

/-- The record at a position, where it reaches to the end of the archive. -/
def endRecordAt (archive : List UInt8) (position : ℕ) : Option EndRecord := do
  let (record, rest) ← readEndRecord.run (archive.drop position)
  if rest = [] then return record else none

/-- The last record that reaches to the end of the archive. -/
def findEndRecord (archive : List UInt8) : Option EndRecord :=
  (List.range (archive.length - 21)).reverse.findSome? (endRecordAt archive)

/-- A file as it is read : its header in the directory, its local header and its data. -/
structure ReadFile where
  central : Header
  loc : Header
  data : List UInt8

def followHeader (archive : List UInt8) (entry : ℕ × Header) : Option ReadFile := do
  let (loc, rest) ← readLocalHeader.run (archive.drop entry.1)
  let (data, _) ← (bytes entry.2.compressedSize).run rest
  return { central := entry.2, loc, data }

def readArchive (archive : List UInt8) : Option (List ReadFile) := do
  let record ← findEndRecord archive
  let (entries, _) ← (many readCentralHeader record.count).run (archive.drop record.offset)
  entries.mapM (followHeader archive)

def ReadFile.name (file : ReadFile) : Option Name := (ofUtf8 file.central.name).map Bytes.codeUnits

theorem toUint8_bitAnd (a : ℤ) :
    toUint8 (bitAnd a 255) = UInt8.ofNat (BitVec.ofInt 32 a).toNat := by
  have h : BitVec.ofInt 8 (bitAnd a 255) = BitVec.ofNat 8 (BitVec.ofInt 32 a).toNat := by
    rw [bitAnd, ← BitVec.signExtend, BitVec.signExtend_eq_setWidth_of_le _ (by decide)]
    refine BitVec.eq_of_toNat_eq ?_
    have hmask : (BitVec.ofInt 32 255).toNat = 2 ^ 8 - 1 := by decide
    rw [BitVec.toNat_setWidth, BitVec.toNat_and, BitVec.toNat_ofNat, hmask,
      Nat.and_two_pow_sub_one_eq_mod, Nat.mod_mod]
  rw [toUint8, h]
  rfl

theorem toNat_ofInt_natCast (n : ℕ) : (BitVec.ofInt 32 (n : ℤ)).toNat = n % 2 ^ 32 := by
  rw [BitVec.ofInt_natCast, BitVec.toNat_ofNat]

theorem toNat_shiftRight (n k : ℕ) :
    (BitVec.ofInt 32 (shiftRight (n : ℤ) k)).toNat = n % 2 ^ 32 / 2 ^ k := by
  rw [ofInt_shiftRight, BitVec.toNat_ushiftRight, toNat_ofInt_natCast, Nat.shiftRight_eq_div_pow]

theorem ofNat_congr {m n : ℕ} (h : m % 256 = n % 256) : UInt8.ofNat m = UInt8.ofNat n :=
  UInt8.toNat_inj.mp (by rw [UInt8.toNat_ofNat', UInt8.toNat_ofNat', h])

theorem u16_natCast (n : ℕ) : u16 n = littleEndian 2 n := by
  simp only [u16, toUint8_bitAnd, toNat_ofInt_natCast, toNat_shiftRight, littleEndian,
    List.cons.injEq, and_true]
  exact ⟨ofNat_congr (by omega), ofNat_congr (by omega)⟩

theorem u32_natCast (n : ℕ) : u32 n = littleEndian 4 n := by
  simp only [u32, toUint8_bitAnd, toNat_ofInt_natCast, toNat_shiftRight, littleEndian,
    List.cons.injEq, and_true]
  exact ⟨ofNat_congr (by omega), ofNat_congr (by omega), ofNat_congr (by omega),
    ofNat_congr (by omega)⟩

/-! ## Headers -/

def header (file : File) : Header :=
  { crc := (checksum file.2).toNat, compressedSize := file.2.length, size := file.2.length
    name := encode file.1 }

/-- The sizes of a file fit into its headers. -/
structure Fits (file : File) : Prop where
  name : (encode file.1).length < 2 ^ 16
  data : file.2.length < 2 ^ 32

def localFields (file : File) : List (ℕ × ℕ) :=
  [(4, 0x04034b50), (2, 20), (2, 0x0800), (2, 0), (2, 0), (2, 0x21), (4, (header file).crc),
    (4, file.2.length), (4, file.2.length), (2, (encode file.1).length), (2, 0)]

def centralFields (offset : ℕ) (file : File) : List (ℕ × ℕ) :=
  [(4, 0x02014b50), (2, 20), (2, 20), (2, 0x0800), (2, 0), (2, 0), (2, 0x21),
    (4, (header file).crc), (4, file.2.length), (4, file.2.length), (2, (encode file.1).length),
    (2, 0), (2, 0), (2, 0), (2, 0), (4, 0), (4, offset)]

def endFields (count size offset : ℕ) : List (ℕ × ℕ) :=
  [(4, 0x06054b50), (2, 0), (2, 0), (2, count), (2, count), (4, size), (4, offset), (2, 0)]

theorem localEntry_eq (file : File) :
    localEntry file = fields (localFields file) ++ (encode file.1 ++ file.2) := by
  simp [← u16_natCast, ← u32_natCast, fields, localFields, localEntry, concat, header,
    crc32_eq_checksum]

theorem centralEntry_eq (offset : ℕ) (file : File) :
    centralEntry offset file = fields (centralFields offset file) ++ encode file.1 := by
  simp [← u16_natCast, ← u32_natCast, fields, centralFields, centralEntry, concat, header,
    crc32_eq_checksum]

theorem endEntry_eq (count size offset : ℕ) :
    endEntry count size offset = fields (endFields count size offset) := by
  simp [← u16_natCast, ← u32_natCast, fields, endFields, endEntry, concat]

theorem run_localEntry {file : File} (h : Fits file) (rest : List UInt8) :
    readLocalHeader.run (localEntry file ++ rest) = some (header file, file.2 ++ rest) := by
  have hfits : ∀ field ∈ localFields file, field.2 < 256 ^ field.1 := by
    simp only [localFields, List.forall_mem_cons, List.not_mem_nil, false_implies, implies_true,
      and_true]
    exact ⟨by decide, by decide, by decide, by decide, by decide, by decide,
      (checksum file.2).isLt, h.data, h.data, h.name, by decide⟩
  have hnumbers := run_numbers hfits (encode file.1 ++ (file.2 ++ rest))
  simp only [localFields, List.map_cons, List.map_nil] at hnumbers
  rw [localEntry_eq, List.append_assoc, List.append_assoc, readLocalHeader, StateT.run_bind,
    localFields, hnumbers]
  simp only [Option.bind_eq_bind, Option.bind_some, StateT.run_bind, run_bytes, run_bytes_zero]
  rfl

theorem run_centralEntry {offset : ℕ} {file : File} (h : Fits file) (hoffset : offset < 2 ^ 32)
    (rest : List UInt8) :
    readCentralHeader.run (centralEntry offset file ++ rest) =
      some ((offset, header file), rest) := by
  have hfits : ∀ field ∈ centralFields offset file, field.2 < 256 ^ field.1 := by
    simp only [centralFields, List.forall_mem_cons, List.not_mem_nil, false_implies, implies_true,
      and_true]
    exact ⟨by decide, by decide, by decide, by decide, by decide, by decide, by decide,
      (checksum file.2).isLt, h.data, h.data, h.name, by decide, by decide, by decide, by decide,
      by decide, hoffset⟩
  have hnumbers := run_numbers hfits (encode file.1 ++ rest)
  simp only [centralFields, List.map_cons, List.map_nil] at hnumbers
  rw [centralEntry_eq, List.append_assoc, readCentralHeader, StateT.run_bind, centralFields,
    hnumbers]
  simp only [Option.bind_eq_bind, Option.bind_some, StateT.run_bind, run_bytes, run_bytes_zero]
  rfl

theorem findEndRecord_append {count size offset : ℕ} (hcount : count < 2 ^ 16)
    (hsize : size < 2 ^ 32) (hoffset : offset < 2 ^ 32) (front : List UInt8) :
    findEndRecord (front ++ endEntry count size offset) = some { count, size, offset } := by
  have hfits : ∀ field ∈ endFields count size offset, field.2 < 256 ^ field.1 := by
    simp only [endFields, List.forall_mem_cons, List.not_mem_nil, false_implies, implies_true,
      and_true]
    exact ⟨by decide, by decide, by decide, hcount, hcount, hsize, hoffset, by decide⟩
  have hnumbers := run_numbers hfits []
  simp only [endFields, List.map_cons, List.map_nil, List.append_nil] at hnumbers
  have hrecord : endRecordAt (front ++ endEntry count size offset) front.length =
      some { count, size, offset } := by
    rw [endRecordAt, List.drop_left, endEntry_eq, endFields, readEndRecord, StateT.run_bind,
      hnumbers]
    simp only [Option.bind_eq_bind, Option.bind_some, StateT.run_bind, run_bytes_zero]
    rfl
  -- the search starts at the last position where the record can stand
  have hpositions : (front ++ endEntry count size offset).length - 21 = front.length + 1 := by
    rw [List.length_append, endEntry_eq, length_fields]
    simp only [endFields, List.map_cons, List.map_nil, List.sum_cons, List.sum_nil]
    omega
  rw [findEndRecord, hpositions, List.range_succ, List.reverse_append, List.reverse_singleton,
    List.singleton_append, List.findSome?_cons, hrecord]

/-- Files with the offsets of their local headers, from an offset on. -/
def withOffsets : ℕ → List File → List (ℕ × File)
  | _, [] => []
  | offset, file :: files => (offset, file) :: withOffsets (offset + (localEntry file).length) files

theorem map_snd_withOffsets : ∀ (offset : ℕ) (files : List File),
    (withOffsets offset files).map Prod.snd = files
  | _, [] => rfl
  | _, file :: files => congrArg (file :: ·) (map_snd_withOffsets _ files)

theorem foldl_push (files : List File) (parts : ZipParts) :
    files.foldl ZipParts.push parts =
      { localParts := parts.localParts ++ files.map localEntry
        centralParts := parts.centralParts ++
          (withOffsets parts.offset files).map fun entry => centralEntry entry.1 entry.2
        offset := parts.offset + (files.flatMap localEntry).length } := by
  induction files generalizing parts with
  | nil => simp [withOffsets]
  | cons file files ih =>
    rw [List.foldl_cons, ih]
    simp [ZipParts.push, withOffsets, Nat.add_assoc]

def localPart (files : Files) : List UInt8 := (sortedFiles files).flatMap localEntry

def centralPart (files : Files) : List UInt8 :=
  (withOffsets 0 (sortedFiles files)).flatMap fun entry => centralEntry entry.1 entry.2

theorem deterministicZip_eq (files : Files) :
    deterministicZip files = localPart files ++ (centralPart files ++
      endEntry (sortedFiles files).length (centralPart files).length
        (localPart files).length) := by
  have hlength : (withOffsets 0 (sortedFiles files)).length = (sortedFiles files).length := by
    rw [← List.length_map, map_snd_withOffsets]
  rw [deterministicZip, foldl_push]
  simp [concat, localPart, centralPart, List.flatMap_def, hlength]

theorem drop_of_mem_withOffsets {entry : ℕ × File} :
    ∀ {files : List File} {front : List UInt8}, entry ∈ withOffsets front.length files →
      ∀ tail, ∃ rest, (front ++ (files.flatMap localEntry ++ tail)).drop entry.1 =
        localEntry entry.2 ++ rest
  | [], _, h, _ => absurd h List.not_mem_nil
  | file :: files, front, h, tail => by
    rcases List.mem_cons.mp h with rfl | h
    · refine ⟨files.flatMap localEntry ++ tail, ?_⟩
      rw [List.drop_left, List.flatMap_cons, List.append_assoc]
    · rw [← List.length_append] at h
      obtain ⟨rest, hrest⟩ := drop_of_mem_withOffsets h tail
      refine ⟨rest, ?_⟩
      rw [← hrest, List.flatMap_cons, List.append_assoc, List.append_assoc]

theorem le_of_mem_withOffsets {entry : ℕ × File} :
    ∀ {files : List File} {offset : ℕ}, entry ∈ withOffsets offset files →
      entry.1 + (localEntry entry.2).length ≤ offset + (files.flatMap localEntry).length
  | [], _, h => absurd h List.not_mem_nil
  | file :: files, _, h => by
    rw [List.flatMap_cons, List.length_append]
    rcases List.mem_cons.mp h with rfl | h
    · simp only
      omega
    · have := le_of_mem_withOffsets h
      omega

/-! ## Reading back -/

def readBack (file : File) : ReadFile :=
  { central := header file, loc := header file, data := file.2 }

theorem mapM_eq_some {α β γ : Type} {f : β → Option γ} {g : α → β} {h : α → γ} :
    ∀ {as : List α}, (∀ a ∈ as, f (g a) = some (h a)) → (as.map g).mapM f = some (as.map h)
  | [], _ => rfl
  | a :: as, hf => by
    rw [List.map_cons, List.mapM_cons, hf a List.mem_cons_self,
      mapM_eq_some fun b hb => hf b (List.mem_cons_of_mem _ hb)]
    rfl

theorem perm_sortedFiles (files : Files) : (sortedFiles files).Perm files.values :=
  List.perm_sortByKey _ _

theorem fits_of_mem_withOffsets {files : Files} {entry : ℕ × File}
    (hname : ∀ file ∈ files.values, (encode file.1).length < 2 ^ 16)
    (hsize : (localPart files).length < 2 ^ 32)
    (hentry : entry ∈ withOffsets 0 (sortedFiles files)) : Fits entry.2 ∧ entry.1 < 2 ^ 32 := by
  have hle := le_of_mem_withOffsets hentry
  have hmem : entry.2 ∈ sortedFiles files := by
    rw [← map_snd_withOffsets 0 (sortedFiles files)]
    exact List.mem_map_of_mem hentry
  have hdata : entry.2.2.length ≤ (localEntry entry.2).length := by
    rw [localEntry_eq, List.length_append, List.length_append]
    omega
  rw [localPart] at hsize
  exact ⟨⟨hname _ ((perm_sortedFiles files).mem_iff.mp hmem), by omega⟩, by omega⟩

theorem length_withOffsets (offset : ℕ) (files : List File) :
    (withOffsets offset files).length = files.length := by
  rw [← List.length_map, map_snd_withOffsets]

theorem run_centralPart {files : Files}
    (hfits : ∀ entry ∈ withOffsets 0 (sortedFiles files), Fits entry.2 ∧ entry.1 < 2 ^ 32)
    (rest : List UInt8) :
    (many readCentralHeader (sortedFiles files).length).run (centralPart files ++ rest) =
      some ((withOffsets 0 (sortedFiles files)).map fun entry => (entry.1, header entry.2),
        rest) := by
  rw [← length_withOffsets 0 (sortedFiles files)]
  exact run_many
    (fun entry hentry => run_centralEntry (hfits entry hentry).1 (hfits entry hentry).2) rest

theorem followHeader_of_mem {files : Files} {entry : ℕ × File}
    (hentry : entry ∈ withOffsets 0 (sortedFiles files)) (hfits : Fits entry.2)
    (tail : List UInt8) :
    followHeader (localPart files ++ tail) (entry.1, header entry.2) = some (readBack entry.2) := by
  obtain ⟨rest, hrest⟩ := @drop_of_mem_withOffsets entry _ [] hentry tail
  change (localPart files ++ tail).drop entry.1 = _ at hrest
  simp only [followHeader, hrest, run_localEntry hfits, Option.bind_eq_bind, Option.bind_some,
    header, run_bytes]
  rfl

theorem readArchive_deterministicZip (files : Files)
    (hname : ∀ file ∈ files.values, (encode file.1).length < 2 ^ 16)
    (hcount : files.values.length < 2 ^ 16) (hsize : (deterministicZip files).length < 2 ^ 32) :
    readArchive (deterministicZip files) = some ((sortedFiles files).map readBack) := by
  rw [deterministicZip_eq] at hsize ⊢
  simp only [List.length_append] at hsize
  have hlocal : (localPart files).length < 2 ^ 32 := by omega
  have hcentral : (centralPart files).length < 2 ^ 32 := by omega
  have hfits := fun entry => @fits_of_mem_withOffsets files entry hname hlocal
  rw [← (perm_sortedFiles files).length_eq] at hcount
  have hrecord := findEndRecord_append hcount hcentral hlocal (localPart files ++ centralPart files)
  rw [List.append_assoc] at hrecord
  rw [readArchive, hrecord, Option.bind_eq_bind, Option.bind_some, List.drop_left,
    run_centralPart hfits, Option.bind_eq_bind, Option.bind_some]
  refine (mapM_eq_some fun entry hentry =>
    followHeader_of_mem hentry (hfits entry hentry).1 _).trans ?_
  have hmap := congrArg (List.map readBack) (map_snd_withOffsets 0 (sortedFiles files))
  rw [List.map_map] at hmap
  exact congrArg some hmap

/-- What was read are the files that were written, each once, and both headers of a file say the
length of its data and their checksum. -/
structure ReadsBack (files : Files) (read : List ReadFile) : Prop where
  files : (read.map fun file => (file.name, file.data)).Perm
    (files.values.map fun file => (some file.1, file.2))
  nodup : (read.map ReadFile.name).Nodup
  headers : ∀ file ∈ read, ∀ said ∈ [file.central, file.loc], said.size = file.data.length ∧
    said.compressedSize = file.data.length ∧ said.crc = (checksum file.data).toNat

theorem name_readBack {file : File} (h : file.1.IsWellFormed) :
    (readBack file).name = some file.1 := by
  have hdecode : ofUtf8 (encode file.1) = some (codePoints file.1) := ofUtf8_utf8 _
  change (ofUtf8 (encode file.1)).map Bytes.codeUnits = some file.1
  rw [hdecode, Option.map_some]
  exact congrArg some h

theorem ReadsBack.of_wellFormed {files : Files}
    (hname : ∀ file ∈ files.values, file.1.IsWellFormed) :
    ReadsBack files ((sortedFiles files).map readBack) := by
  have hperm : (((sortedFiles files).map readBack).map fun file => (file.name, file.data)).Perm
      (files.values.map fun file => (some file.1, file.2)) := by
    rw [List.map_map]
    refine ((perm_sortedFiles files).map _).trans (List.Perm.of_eq (List.map_congr_left ?_))
    exact fun file hfile => Prod.ext (name_readBack (hname file hfile)) rfl
  refine ⟨hperm, ?_, ?_⟩
  · have hnames : (((sortedFiles files).map readBack).map ReadFile.name).Perm
        ((files.values.map Prod.fst).map some) := by
      have h := hperm.map Prod.fst
      simp only [List.map_map] at h ⊢
      exact h
    exact hnames.nodup_iff.mpr (files.nodup.map (Option.some_injective _))
  · intro file hfile said hsaid
    obtain ⟨file, -, rfl⟩ := List.mem_map.mp hfile
    have hheader : said = header file := by simpa [readBack] using hsaid
    subst hheader
    exact ⟨rfl, rfl, rfl⟩

theorem deterministicZip_congr {files files' : Files} (h : files.Agree files') :
    deterministicZip files = deterministicZip files' := by
  have hkeys : (files.values.map fun file : File => file.1.map UInt16.toNat).Nodup := by
    have hmap : (files.values.map fun file : File => file.1.map UInt16.toNat) =
        (files.values.map Prod.fst).map (List.map UInt16.toNat) := by
      rw [List.map_map]
      rfl
    exact hmap ▸ files.nodup.map (List.map_injective_iff.mpr fun _ _ => UInt16.toNat_inj.mp)
  have hsorted : sortedFiles files = sortedFiles files' := List.sortByKey_eq_of_perm hkeys h.perm
  rw [deterministicZip, hsorted, deterministicZip]

/-- An archive of files with well-formed names is read back, and it does not depend on the order
of the files. -/
theorem deterministicZip_read (files : Files)
    (hwell : ∀ file ∈ files.values, file.1.IsWellFormed)
    (hname : ∀ file ∈ files.values, (encode file.1).length < 2 ^ 16)
    (hcount : files.values.length < 2 ^ 16) (hsize : (deterministicZip files).length < 2 ^ 32) :
    (∃ read, readArchive (deterministicZip files) = some read ∧ ReadsBack files read) ∧
      ∀ files', files.Agree files' → deterministicZip files = deterministicZip files' :=
  ⟨⟨_, readArchive_deterministicZip files hname hcount hsize, ReadsBack.of_wellFormed hwell⟩,
    fun _ => deterministicZip_congr⟩

/-- Two files : the name of the first one is a letter and a character outside the first plane. -/
def twoFiles : Files :=
  ⟨[([0x62, 0xD83D, 0xDE00], [104, 105]), ([0x61], [])], by decide⟩

theorem deterministicZip_read_twoFiles :
    (∃ read, readArchive (deterministicZip twoFiles) = some read ∧ ReadsBack twoFiles read) ∧
      deterministicZip twoFiles =
        deterministicZip ⟨[([0x61], []), ([0x62, 0xD83D, 0xDE00], [104, 105])], by decide⟩ := by
  have h := deterministicZip_read twoFiles (by decide) (by decide) (by decide) (by decide +kernel)
  refine ⟨h.1, h.2 _ fun k => ?_⟩
  simp only [KeyedMap.get, twoFiles, List.find?_cons]
  by_cases hk : k = [0x61]
  · subst hk
    decide
  · simp [Ne.symm hk]

def loneSurrogate : Files := ⟨[([0xD800], [])], by decide⟩

/-- The name of a file is not read back where it is a lone surrogate. -/
theorem deterministicZip_lone_surrogate :
    ¬ ∀ files : Files, (∀ file ∈ files.values, (encode file.1).length < 2 ^ 16) →
      files.values.length < 2 ^ 16 → (deterministicZip files).length < 2 ^ 32 →
        (∃ read, readArchive (deterministicZip files) = some read ∧ ReadsBack files read) ∧
          ∀ files', files.Agree files' → deterministicZip files = deterministicZip files' := by
  intro h
  have hfits : ∀ file ∈ loneSurrogate.values, (encode file.1).length < 2 ^ 16 := by decide
  have hsize : (deterministicZip loneSurrogate).length < 2 ^ 32 := by decide +kernel
  obtain ⟨⟨read, hread, hback⟩, -⟩ := h loneSurrogate hfits (by decide) hsize
  rw [readArchive_deterministicZip loneSurrogate hfits (by decide) hsize, Option.some_inj] at hread
  subst hread
  -- the name that is read is U+FFFD
  have hname : (readBack ([0xD800], [])).name = some [0xFFFD] := by
    change (ofUtf8 (utf8 (codePoints [0xD800]))).map Bytes.codeUnits = _
    rw [ofUtf8_utf8]
    decide
  have hmem := hback.files.mem_iff (a := (some [0xD800], ([] : List UInt8)))
  simp [loneSurrogate, sortedFiles, List.sortByKey, hname] at hmem

end JooEvents.ProgramExport
