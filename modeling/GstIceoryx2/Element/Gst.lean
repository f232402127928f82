import GstIceoryx2.Video.Validate

/-!
# What the elements use of GStreamer

GStreamer is not part of the repository, so what the two elements call is a
parameter: caps and their text, the layout caps stand for, the formats and flags
it knows, and which metas it attaches. Only data that the elements read or write
is here. A timestamp is never the largest 64-bit value, which the header uses for
none, and a set of flags has only bits that are known; both are in the types.
-/

set_option autoImplicit false

namespace GstIceoryx2.Element

open Foundations Video

/-! ## Values -/

/-- The header's value for no timestamp. -/
def noTime : UInt64 := UInt64.ofNat (2 ^ 64 - 1)

/-- A timestamp in nanoseconds. -/
structure ClockTime where
  nseconds : UInt64
  isTime : nseconds ≠ noTime
  deriving DecidableEq

/-- A video format, as its name is looked up. -/
inductive VideoFormat where
  | unknown
  | encoded
  | raw (name : String)
  deriving DecidableEq

/-- The name of a format. -/
def VideoFormat.toStr : VideoFormat → String
  | unknown => "UNKNOWN"
  | encoded => "ENCODED"
  | raw name => name

/-- The layout of a frame. Strides are signed, offsets are sizes. -/
structure VideoInfo where
  format : VideoFormat
  width : UInt32
  height : UInt32
  nPlanes : UInt32
  stride : List Int32
  offset : List Nat
  size : Nat
  deriving DecidableEq

/-- The layout attached to a buffer. -/
structure VideoMeta where
  format : VideoFormat
  width : UInt32
  height : UInt32
  offset : List Nat
  stride : List Int32
  deriving DecidableEq

/-- The metas a buffer carries: the layout, or one that may be serialised. -/
inductive BufferMeta where
  | videoMeta
  | other (serialized : Option (List UInt8))
  deriving DecidableEq

/-! ## The library -/

/-- The functions of GStreamer that the elements call. -/
structure Gst where
  Caps : Type
  capsDecEq : DecidableEq Caps
  /-- The text of caps. -/
  capsToString : Caps → String
  /-- The caps a text stands for. -/
  parseCaps : String → Option Caps
  /-- The layout caps stand for. -/
  videoInfo : Caps → Option VideoInfo
  /-- The format with a name. -/
  videoFormat : String → VideoFormat
  /-- Caps for a format and size. -/
  buildCaps : VideoFormat → UInt32 → UInt32 → Option Caps
  /-- The bits that are buffer flags. -/
  knownFlags : UInt32
  /-- The flags of a new buffer once memory is appended to it. -/
  appendedFlags : UInt32
  /-- Whether a layout is attached to a buffer of a size. -/
  attachesVideoMeta : VideoMeta → Nat → Bool
  /-- Whether a serialised meta can be attached. -/
  deserializesMeta : List UInt8 → Bool

instance (gst : Gst) : DecidableEq gst.Caps := gst.capsDecEq

/-- What the elements rely on: the formats they support are known by their names,
and caps built for a format and size stand for them. -/
structure Gst.Documented (gst : Gst) : Prop where
  formats : ∀ name ∈ supportedFormats, gst.videoFormat name = .raw name
  built : ∀ format width height caps, gst.buildCaps format width height = some caps →
    ∃ info, gst.videoInfo caps = some info ∧
      info.format = format ∧ info.width = width ∧ info.height = height

variable {gst : Gst}

/-- A set of buffer flags, as `buffer.flags()` returns it: that call has dropped the bits of
the buffer that are no flags, so they are not part of a `Buffer` here. -/
structure BufferFlags (gst : Gst) where
  bits : UInt32
  known : bits &&& gst.knownFlags = bits

/-- Drop the bits that are no flags. -/
def BufferFlags.fromBitsTruncate (bits : UInt32) : BufferFlags gst where
  bits := bits &&& gst.knownFlags
  known := by rw [UInt32.and_assoc, UInt32.and_self]

/-- Dropping unknown bits changes nothing in a set of flags. -/
theorem BufferFlags.fromBitsTruncate_bits (flags : BufferFlags gst) :
    BufferFlags.fromBitsTruncate flags.bits = flags := by
  obtain ⟨bits, known⟩ := flags
  simp only [fromBitsTruncate, known]

/-- What a buffer carries besides its memory. -/
structure Buffer (gst : Gst) where
  pts : Option ClockTime
  dts : Option ClockTime
  duration : Option ClockTime
  offset : UInt64
  flags : BufferFlags gst
  metas : List BufferMeta

/-! ## A library for concrete runs -/

/-- Two caps: one pixel, and high definition. -/
inductive TwoCaps where
  | onePixel
  | highDefinition
  deriving DecidableEq

namespace TwoCaps

def toText : TwoCaps → String
  | onePixel => "video/x-raw, format=(string)BGR, width=(int)1, height=(int)1"
  | highDefinition => "video/x-raw, format=(string)BGR, width=(int)1920, height=(int)1080"

def info : TwoCaps → VideoInfo
  | onePixel => ⟨.raw "BGR", 1, 1, 1, [4], [0], 4⟩
  | highDefinition => ⟨.raw "BGR", 1920, 1080, 1, [5760], [0], 6220800⟩

end TwoCaps

/-- A library that knows the raw formats of the elements and two caps. -/
def twoCapsGst : Gst where
  Caps := TwoCaps
  capsDecEq := inferInstance
  capsToString := TwoCaps.toText
  parseCaps := fun text => [TwoCaps.onePixel, .highDefinition].find? (·.toText = text)
  videoInfo := fun caps => some caps.info
  videoFormat := fun name => if name ∈ supportedFormats then .raw name else .unknown
  buildCaps := fun format width height =>
    [TwoCaps.onePixel, .highDefinition].find? fun caps =>
      caps.info.format = format ∧ caps.info.width = width ∧ caps.info.height = height
  knownFlags := 0x1FFF0
  appendedFlags := 0x4000
  attachesVideoMeta := fun layout size =>
    layout.offset.length = layout.stride.length ∧ layout.offset.all (· < size)
  deserializesMeta := fun blob => blob ≠ []

theorem twoCapsGst_documented : twoCapsGst.Documented where
  formats := by decide
  built := by
    intro format width height caps built
    have same := List.find?_some built
    exact ⟨caps.info, rfl, by simpa using same⟩

/-- A buffer with no timing, flags or metas. -/
def plainBuffer (gst : Gst) : Buffer gst where
  pts := none
  dts := none
  duration := none
  offset := 0
  flags := .fromBitsTruncate 0
  metas := []

end GstIceoryx2.Element
