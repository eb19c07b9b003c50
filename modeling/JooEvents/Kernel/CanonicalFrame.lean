import JooEvents.Kernel.Ids
import JooEvents.Lib.Fallible
import JooEvents.Lib.Frames

/-!
# Canonical frames

A frame holds texts in UTF-8 behind their lengths (`encodeCanonicalFrame`). It is written into a
buffer whose length is worked out first, which is the length of what is written
(`encodeCanonicalFrame_eq_ok`). A frame is read back from the front of any bytes
(`run_readFrame`), so frames of different inputs differ and none begins another
(`encodeCanonicalFrame_prefix_free`).
-/

namespace JooEvents

open Fallible

/-! ## Encoding -/

/-- `CanonicalFrameInput`. The namespace is called `nameSpace`. -/
structure CanonicalFrameInput where
  nameSpace : String
  profileKey : String
  profileVersion : ℤ
  kind : String
  fields : List String
  deriving DecidableEq

/-- What is thrown : a `TypeError` or a `RangeError`. -/
inductive CanonicalFrameError where
  | type (message : String)
  | range (message : String)
  deriving DecidableEq

/-- `MAGIC` : JECF. -/
def frameMagic : List UInt8 := [0x4a, 0x45, 0x43, 0x46]

/-- `FORMAT_VERSION`. -/
def frameFormatVersion : UInt8 := 1

/-- `UINT32_BYTES`. -/
def uint32Bytes : ℕ := 4

/-- `0xffff_ffff`. -/
def uint32Max : ℕ := 0xffffffff

/-- `encoder.encode(text)`. -/
def encodeText (text : String) : List UInt8 := Bytes.utf8 text.toList

def requireNonEmpty (value name : String) : Except CanonicalFrameError Unit :=
  require (value ≠ "") (.type (name ++ " must not be empty"))

def CanonicalFrameInput.texts (input : CanonicalFrameInput) : List String :=
  [input.nameSpace, input.profileKey, toString input.profileVersion, input.kind] ++ input.fields

def writeUint32 (output : List UInt8) (offset value : ℕ) :
    Except CanonicalFrameError (List UInt8) :=
  orRefuse (Bytes.store output offset (Bytes.bigEndian uint32Bytes value))
    (.range "Out of bounds access")

/-- `output.set(bytes, offset)`. -/
def setBytes (output : List UInt8) (bytes : List UInt8) (offset : ℕ) :
    Except CanonicalFrameError (List UInt8) :=
  orRefuse (Bytes.store output offset bytes) (.range "offset is out of bounds")

/-- One turn of the loop that works out the length. -/
def addSegmentLength (byteLength : ℕ) (segment : List UInt8) : Except CanonicalFrameError ℕ := do
  require (segment.length ≤ uint32Max) (.range "canonical frame segment is too large")
  let byteLength := byteLength + (uint32Bytes + segment.length)
  require (byteLength ≤ maxSafeInteger ∧ byteLength ≤ uint32Max)
    (.range "canonical frame is too large")
  return byteLength

/-- One turn of the loop that writes the segments. -/
def writeSegment (state : List UInt8 × ℕ) (segment : List UInt8) :
    Except CanonicalFrameError (List UInt8 × ℕ) := do
  let output ← writeUint32 state.1 state.2 segment.length
  let offset := state.2 + uint32Bytes
  let output ← setBytes output segment offset
  return (output, offset + segment.length)

def frameLength (segments : List (List UInt8)) : Except CanonicalFrameError ℕ :=
  segments.foldlM addSegmentLength (frameMagic.length + 1 + uint32Bytes)

/-- The segments written into a buffer of the given length. -/
def writeFrame (byteLength : ℕ) (segments : List (List UInt8)) :
    Except CanonicalFrameError (List UInt8) := do
  let output := List.replicate byteLength 0
  let output ← setBytes output frameMagic 0
  let output := output.set frameMagic.length frameFormatVersion
  let offset := frameMagic.length + 1
  let output ← writeUint32 output offset segments.length
  let offset := offset + uint32Bytes
  let (output, _) ← segments.foldlM writeSegment (output, offset)
  return output

def encodeCanonicalFrame (input : CanonicalFrameInput) :
    Except CanonicalFrameError (List UInt8) := do
  requireNonEmpty input.nameSpace "namespace"
  requireNonEmpty input.profileKey "profileKey"
  requireNonEmpty input.kind "kind"
  require (input.profileVersion.natAbs ≤ maxSafeInteger ∧ 0 < input.profileVersion)
    (.type "profileVersion must be a positive safe integer")
  let segments := input.texts.map encodeText
  require (segments.length ≤ uint32Max) (.range "too many canonical frame segments")
  let byteLength ← frameLength segments
  writeFrame byteLength segments

/-! ## What is written -/

/-- How many bytes segments take behind their lengths. -/
def segmentsLength (segments : List (List UInt8)) : ℕ :=
  (segments.map fun segment => uint32Bytes + segment.length).sum

/-- The bytes of a frame, one part after the other. -/
def frameBytes (segments : List (List UInt8)) : List UInt8 :=
  frameMagic ++ [frameFormatVersion] ++ Bytes.bigEndian uint32Bytes segments.length ++
    segments.flatMap (Bytes.segment uint32Bytes)

theorem length_flatMap_segment (segments : List (List UInt8)) :
    (segments.flatMap (Bytes.segment uint32Bytes)).length = segmentsLength segments := by
  rw [List.length_flatMap, segmentsLength]
  refine congrArg List.sum (List.map_congr_left fun segment _ => ?_)
  rw [Bytes.segment, List.length_append, Bytes.length_bigEndian]

theorem length_frameBytes (segments : List (List UInt8)) :
    (frameBytes segments).length =
      frameMagic.length + 1 + uint32Bytes + segmentsLength segments := by
  rw [frameBytes, List.length_append, List.length_append, List.length_append,
    Bytes.length_bigEndian, length_flatMap_segment]
  rfl

theorem foldlM_addSegmentLength :
    ∀ {segments : List (List UInt8)} {start byteLength : ℕ},
      segments.foldlM addSegmentLength start = .ok byteLength →
        byteLength = start + segmentsLength segments ∧
          ∀ segment ∈ segments, segment.length ≤ uint32Max
  | [], start, byteLength, h => by
    obtain rfl := pure_eq_ok.mp h
    simp [segmentsLength]
  | segment :: segments, start, byteLength, h => by
    rw [List.foldlM_cons, bind_eq_ok] at h
    obtain ⟨next, hnext, hrest⟩ := h
    simp only [addSegmentLength, bind_eq_ok, require_eq_ok, pure_eq_ok, exists_const] at hnext
    obtain ⟨hfits, -, rfl⟩ := hnext
    obtain ⟨hlength, hall⟩ := foldlM_addSegmentLength hrest
    refine ⟨?_, List.forall_mem_cons.mpr ⟨hfits, hall⟩⟩
    rw [hlength, segmentsLength, segmentsLength, List.map_cons, List.sum_cons, Nat.add_assoc]

theorem foldlM_writeSegment :
    ∀ {segments : List (List UInt8)} {written rest : List UInt8} {offset : ℕ},
      offset = written.length → rest.length = segmentsLength segments →
        segments.foldlM writeSegment (written ++ rest, offset) =
          .ok (written ++ segments.flatMap (Bytes.segment uint32Bytes),
            offset + segmentsLength segments)
  | [], written, rest, offset, _, hrest => by
    rw [List.length_eq_zero_iff.mp hrest]
    rfl
  | segment :: segments, written, rest, offset, hoffset, hrest => by
    have hsum : segmentsLength (segment :: segments) =
        uint32Bytes + segment.length + segmentsLength segments := by
      rw [segmentsLength, segmentsLength, List.map_cons, List.sum_cons]
    rw [hsum] at hrest
    have hprefix := Bytes.store_append written rest
      (Bytes.bigEndian uint32Bytes segment.length) hoffset (by
        rw [Bytes.length_bigEndian]
        omega)
    have hsegment := Bytes.store_append (written ++ Bytes.bigEndian uint32Bytes segment.length)
      (rest.drop uint32Bytes) segment
      (show offset + uint32Bytes = _ by rw [List.length_append, Bytes.length_bigEndian, hoffset])
      (by rw [List.length_drop]; omega)
    rw [Bytes.length_bigEndian] at hprefix
    have hstep : writeSegment (written ++ rest, offset) segment =
        .ok ((written ++ Bytes.bigEndian uint32Bytes segment.length ++ segment) ++
          (rest.drop uint32Bytes).drop segment.length,
          offset + uint32Bytes + segment.length) := by
      simp only [writeSegment, writeUint32, setBytes, hprefix, hsegment, orRefuse_some, ok_bind]
      rfl
    rw [List.foldlM_cons, hstep, ok_bind, foldlM_writeSegment]
    · rw [hsum, List.flatMap_cons, Bytes.segment, List.append_assoc, List.append_assoc,
        List.append_assoc, Nat.add_assoc, Nat.add_assoc, Nat.add_assoc]
    · rw [List.length_append, List.length_append, Bytes.length_bigEndian, hoffset]
    · rw [List.length_drop, List.length_drop]
      omega

theorem writeFrame_eq (segments : List (List UInt8)) :
    writeFrame (frameMagic.length + 1 + uint32Bytes + segmentsLength segments) segments =
      .ok (frameBytes segments) := by
  let rest : List UInt8 := List.replicate (segmentsLength segments) 0
  have hmagic : setBytes (List.replicate
        (frameMagic.length + 1 + uint32Bytes + segmentsLength segments) 0) frameMagic 0 =
      .ok (frameMagic ++ (List.replicate 5 0 ++ rest)) := by
    have hstore := Bytes.store_append [] (List.replicate 9 0 ++ rest) frameMagic
      (show 0 = ([] : List UInt8).length from rfl) (by simp [frameMagic])
    rw [List.replicate_add, setBytes]
    exact congrArg (orRefuse · _) hstore
  have hversion : (frameMagic ++ (List.replicate 5 0 ++ rest)).set frameMagic.length
      frameFormatVersion = (frameMagic ++ [frameFormatVersion]) ++ (List.replicate 4 0 ++ rest) :=
    rfl
  have hcount : writeUint32 ((frameMagic ++ [frameFormatVersion]) ++ (List.replicate 4 0 ++ rest))
      (frameMagic.length + 1) segments.length =
      .ok ((frameMagic ++ [frameFormatVersion] ++
        Bytes.bigEndian uint32Bytes segments.length) ++ rest) := by
    have hstore := Bytes.store_append (frameMagic ++ [frameFormatVersion])
      (List.replicate 4 0 ++ rest) (Bytes.bigEndian uint32Bytes segments.length)
      (show frameMagic.length + 1 = _ from rfl) (by simp [uint32Bytes])
    rw [Bytes.length_bigEndian] at hstore
    exact congrArg (orRefuse · _) hstore
  have hsegments : segments.foldlM writeSegment
      ((frameMagic ++ [frameFormatVersion] ++ Bytes.bigEndian uint32Bytes segments.length) ++ rest,
        frameMagic.length + 1 + uint32Bytes) =
      .ok (frameBytes segments, frameMagic.length + 1 + uint32Bytes + segmentsLength segments) := by
    refine foldlM_writeSegment ?_ (List.length_replicate ..)
    rw [List.length_append, Bytes.length_bigEndian]
    rfl
  simp only [writeFrame, hmagic, ok_bind, hversion, hcount, hsegments]
  rfl

theorem encodeCanonicalFrame_eq_ok {input : CanonicalFrameInput} {output : List UInt8} :
    encodeCanonicalFrame input = .ok output ↔
      (input.nameSpace ≠ "" ∧ input.profileKey ≠ "" ∧ input.kind ≠ "") ∧
        (input.profileVersion.natAbs ≤ maxSafeInteger ∧ 0 < input.profileVersion) ∧
        (input.texts.map encodeText).length ≤ uint32Max ∧
        (∃ byteLength, frameLength (input.texts.map encodeText) = .ok byteLength) ∧
        output = frameBytes (input.texts.map encodeText) := by
  have hwrite : ∀ {byteLength : ℕ}, frameLength (input.texts.map encodeText) = .ok byteLength →
      (writeFrame byteLength (input.texts.map encodeText) = .ok output ↔
        output = frameBytes (input.texts.map encodeText)) := by
    intro byteLength h
    obtain ⟨rfl, -⟩ := foldlM_addSegmentLength h
    rw [writeFrame_eq, Except.ok.injEq, eq_comm]
  simp only [encodeCanonicalFrame, requireNonEmpty, bind_eq_ok, require_eq_ok, exists_const]
  constructor
  · rintro ⟨hspace, hkey, hkind, hversion, hcount, byteLength, hlength, houtput⟩
    exact ⟨⟨hspace, hkey, hkind⟩, hversion, hcount, ⟨byteLength, hlength⟩,
      (hwrite hlength).mp houtput⟩
  · rintro ⟨⟨hspace, hkey, hkind⟩, hversion, hcount, ⟨byteLength, hlength⟩, houtput⟩
    exact ⟨hspace, hkey, hkind, hversion, hcount, byteLength, hlength,
      (hwrite hlength).mpr houtput⟩

def readProfileVersion (text : String) : ℤ := (Nat.ofDigitChars 10 text.toList 0 : ℕ)

def decodeText (segment : List UInt8) : Option String :=
  (Bytes.ofUtf8 segment).map String.ofList

def frameInput : List String → Option CanonicalFrameInput
  | nameSpace :: profileKey :: profileVersion :: kind :: fields =>
    some { nameSpace, profileKey, profileVersion := readProfileVersion profileVersion, kind
           fields }
  | _ => none

/-- Read a frame : the magic, the version, and the texts behind their number and lengths. -/
def readFrame : Bytes.Reader CanonicalFrameInput := do
  Bytes.expect (frameMagic ++ [frameFormatVersion])
  let count ← Bytes.bigEndianNumber uint32Bytes
  let segments ← Bytes.many (Bytes.readSegment uint32Bytes) count
  match (segments.mapM decodeText).bind frameInput with
  | some input => return input
  | none => failure

def decodeCanonicalFrame (output : List UInt8) : Option CanonicalFrameInput :=
  match readFrame.run output with
  | some (input, []) => some input
  | _ => none

theorem decodeText_encodeText (text : String) : decodeText (encodeText text) = some text := by
  rw [decodeText, encodeText, Bytes.ofUtf8_utf8, Option.map_some, String.ofList_toList]

theorem mapM_decodeText (texts : List String) :
    (texts.map encodeText).mapM decodeText = some texts := by
  induction texts with
  | nil => rfl
  | cons text texts ih =>
    rw [List.map_cons, List.mapM_cons, decodeText_encodeText, ih]
    rfl

theorem readProfileVersion_toString {n : ℤ} (h : 0 < n) : readProfileVersion (toString n) = n := by
  obtain ⟨m, rfl⟩ := Int.eq_ofNat_of_zero_le h.le
  change readProfileVersion (Nat.repr m) = m
  rw [readProfileVersion, Nat.repr_eq_ofList_toDigits, String.toList_ofList,
    Nat.ofDigitChars_ten_toDigits]

theorem frameInput_texts {input : CanonicalFrameInput} (h : 0 < input.profileVersion) :
    frameInput input.texts = some input := by
  simp only [CanonicalFrameInput.texts, List.cons_append, List.nil_append, frameInput,
    readProfileVersion_toString h]

theorem run_readFrame {input : CanonicalFrameInput} {output : List UInt8}
    (h : encodeCanonicalFrame input = .ok output) (rest : List UInt8) :
    readFrame.run (output ++ rest) = some (input, rest) := by
  obtain ⟨-, ⟨-, hversion⟩, hcount, ⟨byteLength, hlength⟩, rfl⟩ := encodeCanonicalFrame_eq_ok.mp h
  obtain ⟨-, hsegments⟩ := foldlM_addSegmentLength hlength
  have hmany : (Bytes.many (Bytes.readSegment uint32Bytes) (input.texts.map encodeText).length).run
      ((input.texts.map encodeText).flatMap (Bytes.segment uint32Bytes) ++ rest) =
        some (input.texts.map encodeText, rest) := by
    have hread : ∀ segment ∈ input.texts.map encodeText, ∀ rest,
        (Bytes.readSegment uint32Bytes).run (Bytes.segment uint32Bytes segment ++ rest) =
          some (id segment, rest) := fun segment hsegment rest =>
      Bytes.run_readSegment (Nat.lt_of_le_of_lt (hsegments segment hsegment) (by decide)) rest
    have hrun := Bytes.run_many hread rest
    rwa [List.map_id] at hrun
  rw [readFrame, frameBytes, List.append_assoc, List.append_assoc, List.append_assoc,
    ← List.append_assoc frameMagic, StateT.run_bind, Bytes.run_expect, Option.bind_eq_bind,
    Option.bind_some, StateT.run_bind,
    Bytes.run_bigEndianNumber (Nat.lt_of_le_of_lt hcount (by decide)), Option.bind_eq_bind,
    Option.bind_some, StateT.run_bind, hmany, Option.bind_eq_bind, Option.bind_some]
  simp only [mapM_decodeText, Option.bind_some, frameInput_texts hversion]
  rfl

/-- Frames have the length that was worked out for them, and their numbers fit into their bytes. A
frame is decoded to its input, so equal frames are of equal inputs, and no frame is a proper prefix
of another. -/
theorem encodeCanonicalFrame_prefix_free :
    (∀ input output, encodeCanonicalFrame input = .ok output →
      frameLength (input.texts.map encodeText) = .ok output.length ∧
      input.texts.length < 2 ^ 32 ∧
      (∀ text ∈ input.texts, (encodeText text).length < 2 ^ 32) ∧
      decodeCanonicalFrame output = some input) ∧
    (∀ a b output, encodeCanonicalFrame a = .ok output → encodeCanonicalFrame b = .ok output →
      a.nameSpace = b.nameSpace ∧ a.profileKey = b.profileKey ∧
        a.profileVersion = b.profileVersion ∧ a.kind = b.kind ∧ a.fields = b.fields) ∧
    ∀ a b output output', encodeCanonicalFrame a = .ok output →
      encodeCanonicalFrame b = .ok output' → output <+: output' → output = output' := by
  refine ⟨fun input output h => ?_, fun a b output ha hb => ?_,
    fun a b output output' ha hb hab => ?_⟩
  · obtain ⟨-, -, hcount, ⟨byteLength, hlength⟩, rfl⟩ := encodeCanonicalFrame_eq_ok.mp h
    obtain ⟨rfl, hsegments⟩ := foldlM_addSegmentLength hlength
    refine ⟨?_, ?_, fun text htext => ?_, ?_⟩
    · rw [hlength, length_frameBytes]
    · rw [List.length_map] at hcount
      exact Nat.lt_of_le_of_lt hcount (by decide)
    · exact Nat.lt_of_le_of_lt (hsegments _ (List.mem_map_of_mem htext)) (by decide)
    · have hread := run_readFrame h []
      rw [List.append_nil] at hread
      rw [decodeCanonicalFrame, hread]
  · have hread := (run_readFrame ha []).symm.trans (run_readFrame hb [])
    obtain rfl := congrArg Prod.fst (Option.some.inj hread)
    exact ⟨rfl, rfl, rfl, rfl, rfl⟩
  · obtain ⟨rest, rfl⟩ := hab
    -- reading the shorter frame leaves the rest, reading the longer one leaves nothing
    have hread := run_readFrame hb []
    rw [List.append_nil, run_readFrame ha rest] at hread
    obtain ⟨-, rfl⟩ := Prod.mk.inj (Option.some.inj hread)
    exact (List.append_nil output).symm

def FrameExample.input (fields : List String) : CanonicalFrameInput :=
  { nameSpace := "n", profileKey := "p", profileVersion := 12, kind := "k", fields }

theorem FrameExample.bytes_eq : encodeCanonicalFrame (input ["", "é"]) =
    .ok [0x4a, 0x45, 0x43, 0x46, 1, 0, 0, 0, 6, 0, 0, 0, 1, 110, 0, 0, 0, 1, 112, 0, 0, 0, 2, 49,
      50, 0, 0, 0, 1, 107, 0, 0, 0, 0, 0, 0, 0, 2, 0xc3, 0xa9] := by
  decide +kernel

open FrameExample in
/-- The two fields of a frame in both orders : the frames are as long, each is decoded to its input,
and neither is a prefix of the other. -/
theorem encodeCanonicalFrame_prefix_free_two_orders :
    ∃ a b, encodeCanonicalFrame (input ["", "é"]) = .ok a ∧
      encodeCanonicalFrame (input ["é", ""]) = .ok b ∧ a.length = 40 ∧ b.length = 40 ∧
      decodeCanonicalFrame a = some (input ["", "é"]) ∧
      decodeCanonicalFrame b = some (input ["é", ""]) ∧ ¬ a <+: b ∧ ¬ b <+: a := by
  obtain ⟨hframe, hinput, hprefix⟩ := encodeCanonicalFrame_prefix_free
  obtain ⟨b, hb⟩ := exists_of_toBool (x := encodeCanonicalFrame (input ["é", ""])) (by decide +kernel)
  have hne : ∀ output, encodeCanonicalFrame (input ["", "é"]) = .ok output →
      encodeCanonicalFrame (input ["é", ""]) ≠ .ok output := fun output ha hb =>
    absurd (hinput _ _ output ha hb).2.2.2.2 (by decide)
  refine ⟨_, b, bytes_eq, hb, rfl, ?_, (hframe _ _ bytes_eq).2.2.2, (hframe _ _ hb).2.2.2,
    fun h => ?_, fun h => ?_⟩
  · have hlength : frameLength ((input ["é", ""]).texts.map encodeText) = .ok 40 := by decide +kernel
    exact Except.ok.inj ((hframe _ _ hb).1.symm.trans hlength)
  · obtain rfl := hprefix _ _ _ _ bytes_eq hb h
    exact hne _ bytes_eq hb
  · obtain rfl := hprefix _ _ _ _ hb bytes_eq h
    exact hne _ bytes_eq hb

end JooEvents
