import Mathlib.Data.Nat.Bitwise
import GstIceoryx2.Foundations.RecordLayout
import GstIceoryx2.Video.Header

/-!
# The header in memory

The header travels as the bytes of its structure. Rust lays it out with `repr(C)`, and
Python mirrors it by a list of ctypes fields; both place the same fields at the same
offsets, in 104 bytes that are all taken by fields.

So a header has one representation, of which no byte is left open, and any 104 bytes
that another process put there are the representation of one header
(`header_wire`). Whether it marks the end of the stream is the lowest bit of the byte at
offset 36.
-/

set_option autoImplicit false

namespace GstIceoryx2.Video

open Foundations

namespace VideoFrameHeader

/-! ## The Rust structure -/

/-- The fields, as `repr(C)` finds them. -/
def fields : List Field :=
  [Codec.word64.field "pts",
   Codec.word64.field "dts",
   Codec.word64.field "duration",
   Codec.word64.field "offset",
   Codec.word64.field "flags",
   Codec.word32.field "width",
   Codec.word32.field "height",
   Codec.word32.field "n_planes",
   Codec.word32.field "aux_size",
   (Codec.word32.array maxPlanes).field "stride",
   (Codec.word32.array maxPlanes).field "plane_offsets",
   (Codec.byte.array formatLen).field "format"]

/-- `HEADER_SIZE`. -/
def headerSize : Nat :=
  recordSize fields

/-- `HEADER_ALIGN`. -/
def headerAlign : Nat :=
  recordAlign fields

/-- `field_offsets`. -/
def fieldOffsets : List (String × Nat) :=
  (fields.map Field.name).zip (offsets fields)

/-- The fields of a header, in memory. -/
def fieldValues (header : VideoFrameHeader) : List (List UInt8) :=
  [Codec.word64.encode header.pts,
   Codec.word64.encode header.dts,
   Codec.word64.encode header.duration,
   Codec.word64.encode header.offset,
   Codec.word64.encode header.flags,
   Codec.word32.encode header.width,
   Codec.word32.encode header.height,
   Codec.word32.encode header.nPlanes,
   Codec.word32.encode header.auxSize,
   (Codec.word32.array maxPlanes).encode header.stride,
   (Codec.word32.array maxPlanes).encode header.planeOffsets,
   (Codec.byte.array formatLen).encode header.format]

/-- The memory is the header. -/
def Represents (header : VideoFrameHeader) (memory : List UInt8) : Prop :=
  Holds fields header.fieldValues memory

/-- The header as bytes. -/
def toBytes (header : VideoFrameHeader) : List UInt8 :=
  header.fieldValues.flatten

/-- The header that a memory is. -/
def ofBytes (memory : List UInt8) : VideoFrameHeader :=
  let part := fun index => (fieldsAt fields memory).getD index []
  { pts := Codec.word64.decode (part 0)
    dts := Codec.word64.decode (part 1)
    duration := Codec.word64.decode (part 2)
    offset := Codec.word64.decode (part 3)
    flags := Codec.word64.decode (part 4)
    width := Codec.word32.decode (part 5)
    height := Codec.word32.decode (part 6)
    nPlanes := Codec.word32.decode (part 7)
    auxSize := Codec.word32.decode (part 8)
    stride := (Codec.word32.array maxPlanes).decode (part 9)
    planeOffsets := (Codec.word32.array maxPlanes).decode (part 10)
    format := (Codec.byte.array formatLen).decode (part 11) }

/-! ## The Python mirror -/

/-- The ctypes of the fields. -/
inductive CType where
  | uint64
  | uint32
  | char
  | array (element : CType) (count : Nat)

/-- `ctypes.sizeof`. -/
def CType.sizeof : CType → Nat
  | uint64 => 8
  | uint32 => 4
  | char => 1
  | array element count => count * element.sizeof

/-- `ctypes.alignment`. -/
def CType.alignment : CType → Nat
  | uint64 => 8
  | uint32 => 4
  | char => 1
  | array element _ => element.alignment

/-- `_fields_`. -/
def mirroredFields : List (String × CType) :=
  [("pts", .uint64),
   ("dts", .uint64),
   ("duration", .uint64),
   ("offset", .uint64),
   ("flags", .uint64),
   ("width", .uint32),
   ("height", .uint32),
   ("n_planes", .uint32),
   ("aux_size", .uint32),
   ("stride", .array .uint32 maxPlanes),
   ("plane_offsets", .array .uint32 maxPlanes),
   ("format", .array .char formatLen)]

/-- The fields of a ctypes structure. -/
def ctypesFields (mirrored : List (String × CType)) : List Field :=
  mirrored.map fun named => ⟨named.1, named.2.sizeof, named.2.alignment⟩

/-! ## No padding -/

theorem unpadded_fields : Unpadded fields := by decide

theorem map_length_fieldValues (header : VideoFrameHeader) :
    header.fieldValues.map List.length = sizes fields := by
  simp only [fieldValues, List.map_cons, List.map_nil, Codec.length_encode]
  rfl

theorem represents_iff {header : VideoFrameHeader} {memory : List UInt8} :
    header.Represents memory ↔ memory = header.toBytes :=
  holds_iff unpadded_fields header.map_length_fieldValues

/-- **A header is read back.** -/
theorem ofBytes_toBytes (header : VideoFrameHeader) : ofBytes header.toBytes = header := by
  have placed : fieldsAt fields header.toBytes = header.fieldValues :=
    (represents_iff.mpr rfl).placed
  simp only [ofBytes, placed, fieldValues, List.getD_cons_zero, List.getD_cons_succ,
    Codec.decode_encode]

/-- What stands at a field has its size. -/
theorem length_fieldsAt {memory : List UInt8} (sized : memory.length = headerSize) :
    (fieldsAt fields memory).map List.length = sizes fields := by
  rw [fieldsAt_of_unpadded unpadded_fields]
  exact List.map_splitLengths_length _ _ (sized.trans unpadded_fields).ge

/-- **Bytes are written back.** -/
theorem toBytes_ofBytes {memory : List UInt8} (sized : memory.length = headerSize) :
    (ofBytes memory).toBytes = memory := by
  have whole : (fieldsAt fields memory).flatten = memory := by
    rw [fieldsAt_of_unpadded unpadded_fields, List.flatten_splitLengths]
    exact (sized.trans unpadded_fields).le
  have lengths := length_fieldsAt sized
  generalize found : fieldsAt fields memory = parts at whole lengths
  match parts, lengths with
  | [pts, dts, duration, offset, flags, width, height, nPlanes, auxSize, stride, planeOffsets,
      format], lengths =>
      simp only [sizes, fields, Codec.field, List.map_cons, List.map_nil, List.cons.injEq,
        and_true] at lengths
      obtain ⟨first, second, third, fourth, fifth, sixth, seventh, eighth, ninth, tenth, eleventh,
        last⟩ := lengths
      refine Eq.trans (congrArg List.flatten ?_) whole
      simp only [fieldValues, ofBytes, found, List.getD_cons_zero, List.getD_cons_succ]
      simp (disch := assumption) only [Codec.encode_decode]

/-! ## The end of the stream -/

theorem isEos_iff_toNat (header : VideoFrameHeader) :
    header.isEos = true ↔ header.flags.toNat / 2 ^ 32 % 2 = 1 := by
  have bit : (header.flags &&& headerFlagEos).toNat =
      (header.flags.toNat.testBit 32).toNat * 2 ^ 32 := by
    rw [UInt64.toNat_and, ← Nat.and_two_pow]
    rfl
  rw [isEos, bne_iff_ne, ne_eq, ← UInt64.toNat_inj, bit, Nat.testBit_eq_decide_div_mod_eq]
  simp

/-- **The sentinel is one bit of the memory.** -/
theorem isEos_iff_of_represents {header : VideoFrameHeader} {memory : List UInt8}
    (holds : header.Represents memory) :
    header.isEos = true ↔ (memory.getD 36 0).toNat % 2 = 1 := by
  rw [represents_iff.mp holds, isEos_iff_toNat]
  have byte : header.toBytes.getD 36 0 =
      UInt8.ofNat (header.flags.toNat / 256 / 256 / 256 / 256) := rfl
  rw [byte, UInt8.toNat_ofNat']
  omega

/-! ## The wire format -/

/-- **The header on the wire.** The fields stand at the offsets of the contract, in 104
bytes with alignment 8, in Rust and in Python. Every header has one representation,
every 104 bytes are the representation of one header, and one bit of them says whether
it is the end of the stream. -/
theorem header_wire :
    fieldOffsets =
        [("pts", 0), ("dts", 8), ("duration", 16), ("offset", 24), ("flags", 32), ("width", 40),
         ("height", 44), ("n_planes", 48), ("aux_size", 52), ("stride", 56),
         ("plane_offsets", 72), ("format", 88)] ∧
      headerSize = 104 ∧ headerAlign = 8 ∧ ctypesFields mirroredFields = fields ∧
      (∀ header : VideoFrameHeader, ∃! memory, header.Represents memory) ∧
      (∀ memory : Vector UInt8 headerSize,
        ∃! header : VideoFrameHeader, header.Represents memory.toList) ∧
      ∀ (header : VideoFrameHeader) (memory : List UInt8), header.Represents memory →
        (header.isEos = true ↔ (memory.getD 36 0).toNat % 2 = 1) := by
  refine ⟨by decide, by decide, by decide, by decide, fun header => ?_, fun memory => ?_,
    fun header memory holds => isEos_iff_of_represents holds⟩
  · exact ⟨header.toBytes, represents_iff.mpr rfl, fun other holds => represents_iff.mp holds⟩
  · have sized : memory.toList.length = headerSize := memory.length_toList
    refine ⟨ofBytes memory.toList, represents_iff.mpr (toBytes_ofBytes sized).symm, ?_⟩
    intro other holds
    rw [represents_iff.mp holds, ofBytes_toBytes]

end VideoFrameHeader

end GstIceoryx2.Video
