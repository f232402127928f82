import Mathlib.Data.List.TakeWhile
import GstIceoryx2.Foundations.Utf8

/-!
# The frame header

Every sample carries a fixed header next to its payload: the buffer's timing and
flags, the geometry of up to four planes, the size of the aux blob at the end of
the payload, and the format as a null-padded name. Timestamps are nanoseconds
and the largest 64-bit value stands for none.

The format name is written truncated and terminated (`setFormat`) and read back
up to the first NUL (`formatName`), with the empty name for bytes that are not
UTF-8. Writing and then reading returns every name that fits the field and has
no NUL in it (`formatName_setFormat`).
-/

set_option autoImplicit false

namespace GstIceoryx2.Video

open Foundations

/-! ## The wire structure -/

/-- `GST_VIDEO_MAX_PLANES`. -/
def maxPlanes : Nat := 4

theorem maxPlanes_pos : 0 < maxPlanes := by decide

/-- Length of the null-padded format field. -/
def formatLen : Nat := 16

/-- The flag that marks an end-of-stream sample. Buffer flags are the low 32
bits. -/
def headerFlagEos : UInt64 := (1 : UInt64) <<< 32

/-- The metadata published with a payload. -/
structure VideoFrameHeader where
  pts : UInt64
  dts : UInt64
  duration : UInt64
  offset : UInt64
  flags : UInt64
  width : UInt32
  height : UInt32
  nPlanes : UInt32
  auxSize : UInt32
  stride : Vector UInt32 maxPlanes
  planeOffsets : Vector UInt32 maxPlanes
  format : Vector UInt8 formatLen
  deriving DecidableEq

namespace VideoFrameHeader

/-- The header with every field zero. -/
def zeroed : VideoFrameHeader where
  pts := 0
  dts := 0
  duration := 0
  offset := 0
  flags := 0
  width := 0
  height := 0
  nPlanes := 0
  auxSize := 0
  stride := Vector.replicate maxPlanes 0
  planeOffsets := Vector.replicate maxPlanes 0
  format := Vector.replicate formatLen 0

/-- Whether the sample is the end-of-stream sentinel. -/
def isEos (header : VideoFrameHeader) : Bool :=
  header.flags &&& headerFlagEos != 0

/-! ## The format name -/

/-- A name in the format field: at most fifteen bytes of it, then NULs. -/
def paddedFormat (name : String) : Vector UInt8 formatLen :=
  let bytes := (asBytes name).take (formatLen - 1)
  ⟨(bytes ++ List.replicate (formatLen - bytes.length) 0).toArray, by
    have short : bytes.length ≤ formatLen - 1 := List.length_take_le _ _
    simp only [List.size_toArray, List.length_append, List.length_replicate]
    omega⟩

/-- Write a format name into the field. -/
def setFormat (header : VideoFrameHeader) (name : String) : VideoFrameHeader :=
  { header with format := paddedFormat name }

/-- The bytes of the format field up to the first NUL, or all of them. -/
def formatBytes (header : VideoFrameHeader) : List UInt8 :=
  header.format.toList.take ((header.format.toList.findIdx? (· == 0)).getD formatLen)

/-- Read the format name back. Bytes that are not UTF-8 read as the empty name. -/
def formatName (header : VideoFrameHeader) : String :=
  (fromUtf8 header.formatBytes).getD ""

/-- The terminated prefix is what stands before the first NUL. -/
theorem formatBytes_eq_takeWhile (header : VideoFrameHeader) :
    header.formatBytes = header.format.toList.takeWhile (· != 0) := by
  have general : ∀ bytes : List UInt8, ∀ default, bytes.length ≤ default →
      bytes.take ((bytes.findIdx? (· == 0)).getD default) = bytes.takeWhile (· != 0) := by
    intro bytes
    induction bytes with
    | nil => intro default _; simp
    | cons byte bytes ih =>
        intro default enough
        rw [List.findIdx?_cons, List.takeWhile_cons]
        by_cases terminator : byte = 0
        · simp [terminator]
        · have rest := ih (default - 1) (by simp only [List.length_cons] at enough; omega)
          obtain ⟨count, rfl⟩ : ∃ count, default = count + 1 :=
            Nat.exists_eq_succ_of_ne_zero (by simp only [List.length_cons] at enough; omega)
          cases found : bytes.findIdx? (· == 0) with
          | none => simpa [found, terminator] using rest
          | some index => simpa [found, terminator] using rest
  exact general _ _ (by simp)

theorem formatName_eq_of_formatBytes {header : VideoFrameHeader} {name : String}
    (bytes : header.formatBytes = asBytes name) : header.formatName = name := by
  rw [formatName, bytes, fromUtf8_asBytes, Option.getD_some]

/-- **The field of a name is terminated.** -/
theorem exists_paddedFormat_eq (name : String) :
    ∃ rest, (paddedFormat name).toList =
      (asBytes name).take (formatLen - 1) ++ 0 :: List.replicate rest 0 := by
  have few : ((asBytes name).take (formatLen - 1)).length < formatLen :=
    Nat.lt_of_le_of_lt (List.length_take_le _ _) (Nat.lt_succ_self _)
  have shown : (paddedFormat name).toList = (asBytes name).take (formatLen - 1) ++
      List.replicate (formatLen - ((asBytes name).take (formatLen - 1)).length) 0 := rfl
  obtain ⟨rest, padding⟩ := Nat.exists_eq_succ_of_ne_zero (Nat.sub_ne_zero_of_lt few)
  refine ⟨rest, ?_⟩
  rw [shown, padding, List.replicate_succ]

/-- **What is read back of a name without NUL is what the field keeps of it.** -/
theorem formatBytes_setFormat (header : VideoFrameHeader) {name : String}
    (noNul : 0 ∉ asBytes name) :
    (header.setFormat name).formatBytes = (asBytes name).take (formatLen - 1) := by
  obtain ⟨rest, shown⟩ := exists_paddedFormat_eq name
  rw [formatBytes_eq_takeWhile, setFormat, shown, List.takeWhile_append_of_pos]
  · simp
  · intro byte member
    exact bne_iff_ne.mpr fun nul => noNul (nul ▸ List.mem_of_mem_take member)

/-- **A name that fits the field and has no NUL is read back.** -/
theorem formatName_setFormat (header : VideoFrameHeader) {name : String}
    (short : (asBytes name).length < formatLen) (noNul : 0 ∉ asBytes name) :
    (header.setFormat name).formatName = name := by
  apply formatName_eq_of_formatBytes
  rw [formatBytes_setFormat header noNul]
  exact List.take_of_length_le (Nat.le_sub_one_of_lt short)

end VideoFrameHeader

end GstIceoryx2.Video
