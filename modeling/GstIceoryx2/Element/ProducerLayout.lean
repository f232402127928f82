import GstIceoryx2.Element.RoundTrip

/-!
# The layout of the producer

The planes of a buffer lie where its video meta says, or where the caps say when it
has none. The sink writes the layout of the caps into the header of every buffer and
keeps video metas out of the blob, because the header carries the layout; the source
attaches the layout of the header.

So what a receiver is told is the layout of the caps, and it is the buffer's own
exactly when the buffer has no video meta or one with the same offsets and strides
(`layout_survives_iff`).
-/

set_option autoImplicit false

namespace GstIceoryx2.Element

open Foundations Video

variable {gst : Gst}

/-- Where the planes of a buffer are, and how far apart their rows. -/
structure PlaneLayout where
  offset : List Nat
  stride : List Int32
  deriving DecidableEq

/-- A buffer with the video meta it carries, if it carries one. -/
structure ProducedBuffer (gst : Gst) where
  buffer : Buffer gst
  videoMeta : Option VideoMeta
  carried : videoMeta.isSome = true ↔ .videoMeta ∈ buffer.metas

/-- The layout the caps give. -/
def VideoInfo.planeLayout (info : VideoInfo) : PlaneLayout where
  offset := info.offset
  stride := info.stride

/-- The layout a video meta gives. -/
def VideoMeta.planeLayout (layout : VideoMeta) : PlaneLayout where
  offset := layout.offset
  stride := layout.stride

/-- How a buffer is actually laid out. -/
def ProducedBuffer.planeLayout (produced : ProducedBuffer gst) (info : VideoInfo) : PlaneLayout :=
  match produced.videoMeta with
  | some layout => layout.planeLayout
  | none => info.planeLayout

/-- The layout of the planes that a header declares. -/
def headerLayout (header : VideoFrameHeader) : PlaneLayout where
  offset := (header.planeOffsets.toList.take header.nPlanes.toNat).map UInt32.toNat
  stride := (header.stride.toList.take header.nPlanes.toNat).map UInt32.toInt32

/-- The header that is published and the video meta that the source attaches both
give a layout. -/
structure Told (frame : VideoFrame) (delivered : Source.Delivered gst) (layout : PlaneLayout) :
    Prop where
  header : headerLayout frame.header = layout
  attached : delivered.videoMeta.map VideoMeta.planeLayout = some layout

/-! ## What a receiver is told -/

/-- The source reads the planes that a header declares. -/
theorem planeLayout_layoutMeta {header : VideoFrameHeader} (some : 0 < header.nPlanes.toNat)
    (few : header.nPlanes.toNat ≤ maxPlanes) (format : VideoFormat) :
    (Source.layoutMeta (.fromHeader header) format).planeLayout = headerLayout header := by
  have planes : max 1 (min header.nPlanes.toNat maxPlanes) = header.nPlanes.toNat := by
    rw [Nat.min_eq_left few, Nat.max_eq_right some]
  simp only [Source.layoutMeta, Source.CapsInfo.fromHeader, planes]
  rfl

section Told

variable {caps : gst.Caps} {format : String} {width height : UInt32}
  (default : DefaultCaps gst caps format width height) (buffer : Buffer gst)
  (pixels aux : List UInt8)

include default

/-- The header declares the layout of the caps. -/
theorem headerLayout_defaultFrame :
    headerLayout (Sink.defaultFrame format width height buffer pixels aux).header =
      (defaultLayout format width height).planeLayout := by
  obtain ⟨heights, -, few, some, count, -, -⟩ :=
    Sink.layout_counts width height default.supported
  have layout := Sink.layoutMeta_defaultFrame default.supported default.someRow default.small
    buffer pixels aux
  rw [← planeLayout_layoutMeta (count ▸ some) (count ▸ Nat.le_trans few (by decide))
    (.raw format), layout]
  rfl

end Told

/-- **The layout of a buffer is what receivers are told exactly when it is that of
the caps**: the buffer has no video meta, or one with the same offsets and strides.
A buffer that is laid out so is assumed to hold its planes, and the library to
attach the layout to pixels that hold it. -/
theorem layout_survives_iff (documented : gst.Documented) {caps : gst.Caps} {format : String}
    {width height : UInt32} (default : DefaultCaps gst caps format width height)
    (attaches : ∀ size, (defaultLayout format width height).size ≤ size →
      gst.attachesVideoMeta
        { format := .raw format, width := width, height := height
          offset := (defaultLayout format width height).offset
          stride := (defaultLayout format width height).stride } size = true)
    (produced : ProducedBuffer gst) (path : RenderPath) (pixels : List UInt8)
    (sized : path ≠ .copy → pixels.length = (defaultLayout format width height).size)
    (holds : produced.planeLayout (defaultLayout format width height) =
        (defaultLayout format width height).planeLayout →
      (defaultLayout format width height).size ≤ pixels.length)
    (short : (path.auxRegion caps produced.buffer).length < 2 ^ 32) :
    ∃ frame,
      Sink.sentFrame ⟨some (Sink.capsInfo (defaultLayout format width height)), some caps⟩
        produced.buffer (path.registered pixels) (pixels.map some) = some frame ∧
      (Told frame (Source.deliveredBuffer gst frame)
          (produced.planeLayout (defaultLayout format width height)) ↔
        ∀ layout, produced.videoMeta = some layout →
          layout.planeLayout = (defaultLayout format width height).planeLayout) := by
  have sent := Sink.sentFrame_of_path (Sink.capsInfo (defaultLayout format width height)) caps path
    produced.buffer sized
  have own : produced.planeLayout (defaultLayout format width height) =
      (defaultLayout format width height).planeLayout ↔
        ∀ layout, produced.videoMeta = some layout →
          layout.planeLayout = (defaultLayout format width height).planeLayout := by
    unfold ProducedBuffer.planeLayout
    cases produced.videoMeta with
    | none => simp
    | some layout => simp
  have header := headerLayout_defaultFrame default produced.buffer pixels
    (path.auxRegion caps produced.buffer)
  refine ⟨_, sent, Iff.trans ?_ own⟩
  constructor
  · intro told
    exact told.header.symm.trans header
  · intro same
    have attached := Source.videoMeta_deliveredBuffer produced.buffer documented default short
      (attaches _ (holds same))
    refine ⟨header.trans same.symm, ?_⟩
    rw [attached, same]
    rfl

/-! ## A buffer with wider rows -/

/-- A buffer of one pixel with a video meta of the given stride. -/
def strideBuffer (stride : Int32) : ProducedBuffer twoCapsGst where
  buffer := { plainBuffer twoCapsGst with metas := [.videoMeta] }
  videoMeta := some ⟨.raw "BGR", 1, 1, [0], [stride]⟩
  carried := by simp

/-- The layout of one pixel is attached to any pixels that hold it. -/
theorem onePixel_attaches (size : Nat) (holds : (defaultLayout "BGR" 1 1).size ≤ size) :
    twoCapsGst.attachesVideoMeta
      { format := .raw "BGR", width := 1, height := 1
        offset := (defaultLayout "BGR" 1 1).offset
        stride := (defaultLayout "BGR" 1 1).stride } size = true := by
  have some : 0 < size := Nat.lt_of_lt_of_le (by decide) holds
  simp [twoCapsGst, defaultLayout, defaultPlanes, some]

theorem layout_survives_iff_onePixel :
    ∃ frame, @Sink.sentFrame twoCapsGst ⟨some (Sink.capsInfo (defaultLayout "BGR" 1 1)),
        some .onePixel⟩ (strideBuffer 4).buffer none ([1, 2, 3, 4].map some) = some frame ∧
      Told frame (Source.deliveredBuffer twoCapsGst frame) ⟨[0], [4]⟩ := by
  obtain ⟨frame, sent, told⟩ := layout_survives_iff twoCapsGst_documented
    Source.onePixel_defaultCaps onePixel_attaches (strideBuffer 4) .copy [1, 2, 3, 4]
    (fun other => absurd rfl other) (fun _ => by decide) (by decide)
  refine ⟨frame, sent, told.mpr ?_⟩
  rintro layout ⟨⟩
  decide

/-- **A row of eight bytes is published as one of four.** -/
theorem layout_lost :
    ∃ frame, @Sink.sentFrame twoCapsGst ⟨some (Sink.capsInfo (defaultLayout "BGR" 1 1)),
        some .onePixel⟩ (strideBuffer 8).buffer none
          ([1, 2, 3, 0, 0, 0, 0, 0].map some) = some frame ∧
      (strideBuffer 8).planeLayout (defaultLayout "BGR" 1 1) = ⟨[0], [8]⟩ ∧
      headerLayout frame.header = ⟨[0], [4]⟩ ∧
      ¬ Told frame (Source.deliveredBuffer twoCapsGst frame)
        ((strideBuffer 8).planeLayout (defaultLayout "BGR" 1 1)) := by
  refine ⟨_, rfl, rfl, by decide, ?_⟩
  intro told
  exact absurd told.header (by decide)

end GstIceoryx2.Element
