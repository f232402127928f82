import Mathlib.Tactic.Ring
import GstIceoryx2.Video.Frame
import GstIceoryx2.Video.PackedView

/-!
# Publishing a frame from the SDK

The SDK publishes pixels with a header made from the parameters of a frame. It
loans a slice of the pixels' length, fills it, sends it and notifies, and any of
the calls into the transport can fail.

The header has one stride. Unless it is given, it is the pixels' length divided
by the height, which is the stride of a packed frame: such a frame is received as
it was published, passes the validator and shows its pixels, unless it is one of those
without a column that the array library refuses (`publishFrame_roundTrips_iff`). For a
frame of several planes it is the stride of
none of them, and the other planes have no stride and no offset at all
(`frameHeader_misdescribes`).
-/

set_option autoImplicit false

namespace GstIceoryx2.Video

open Foundations

/-! ## Parameters -/

/-- The parameters of a frame. Without a stride it is that of packed pixels. -/
structure FrameParams where
  width : UInt32
  height : UInt32
  format : String
  nPlanes : UInt32
  stride0 : Option UInt32
  offset : UInt64
  pts : UInt64
  deriving DecidableEq

/-- A packed frame of no size. -/
def FrameParams.default : FrameParams where
  width := 0
  height := 0
  format := "BGR"
  nPlanes := 1
  stride0 := none
  offset := 0
  pts := 0

/-! ## Publishing -/

/-- An error of the SDK: the operation that failed, and the cause. -/
structure Error where
  context : String
  message : String
  deriving DecidableEq

/-- The error as it is reported. -/
def Error.display (error : Error) : String :=
  s!"{error.context}: {error.message}"

/-- The calls into the transport that fail, and why. -/
structure Faults where
  loan : Option String
  send : Option String
  notify : Option String

/-- Nothing fails. -/
def Faults.none : Faults where
  loan := .none
  send := .none
  notify := .none

/-- What a call puts on the ring, and how it returns. -/
structure Published (ε : Type) where
  frame : Option VideoFrame
  result : Except ε Unit

/-- The header of a frame with a number of bytes of pixels. -/
def frameHeader (n : Nat) (params : FrameParams) : VideoFrameHeader :=
  let header : VideoFrameHeader := {
    pts := params.pts
    dts := 0xFFFFFFFFFFFFFFFF
    duration := 0xFFFFFFFFFFFFFFFF
    offset := params.offset
    flags := 0
    width := params.width
    height := params.height
    nPlanes := params.nPlanes
    auxSize := 0
    stride := (Vector.replicate maxPlanes 0).set 0
      (params.stride0.getD
        (UInt32.ofNat (if params.height > 0 then n / params.height.toNat else n)))
      maxPlanes_pos
    planeOffsets := Vector.replicate maxPlanes 0
    format := Vector.replicate formatLen 0 }
  header.setFormat params.format

/-- Loan a slice, fill it, send it and notify. The loan is as long as the pixels, which
fill it. -/
def publishFrame (faults : Faults) (pixels : List UInt8) (params : FrameParams) :
    Published Error :=
  match faults.loan with
  | some cause => ⟨none, .error ⟨"loan slice", cause⟩⟩
  | none =>
      match faults.send with
      | some cause => ⟨none, .error ⟨"send sample", cause⟩⟩
      | none =>
          let frame : VideoFrame := ⟨frameHeader pixels.length params, pixels⟩
          match faults.notify with
          | some cause => ⟨some frame, .error ⟨"notify", cause⟩⟩
          | none => ⟨some frame, .ok ()⟩

/-- What is on the ring is the pixels behind their header. -/
theorem eq_of_published {faults : Faults} {pixels : List UInt8} {params : FrameParams}
    {frame : VideoFrame} (published : (publishFrame faults pixels params).frame = some frame) :
    frame = ⟨frameHeader pixels.length params, pixels⟩ := by
  unfold publishFrame at published
  split at published
  · cases published
  · split at published
    · cases published
    · split at published
      · cases published
        rfl
      · cases published
        rfl

/-! ## Packed frames -/

section Packed

variable {n : Nat} {params : FrameParams}

theorem formatName_frameHeader (short : (asBytes params.format).length < formatLen)
    (noNul : 0 ∉ asBytes params.format) : (frameHeader n params).formatName = params.format :=
  VideoFrameHeader.formatName_setFormat _ short noNul

/-- The derived stride, cut to a word. -/
theorem strideAt_zero_frameHeader (derived : params.stride0 = none)
    (someRow : 0 < params.height.toNat) :
    (frameHeader n params).strideAt 0 = n / params.height.toNat % 2 ^ 32 := by
  have rows : params.height > 0 := UInt32.lt_iff_toNat_lt.mpr someRow
  have stride : (frameHeader n params).stride[0]? =
      some (UInt32.ofNat (n / params.height.toNat)) := by
    simp only [frameHeader, VideoFrameHeader.setFormat, derived, Option.getD_none, if_pos rows]
    rfl
  rw [VideoFrameHeader.strideAt, stride, Option.getD_some]
  exact UInt32.toNat_ofNat'

theorem strideAt_succ_frameHeader (n : Nat) (params : FrameParams) (plane : Nat) :
    (frameHeader n params).strideAt (plane + 1) = 0 := by
  have stride : ((frameHeader n params).stride[plane + 1]?.getD 0) = 0 := by
    simp only [frameHeader, VideoFrameHeader.setFormat]
    rw [Vector.getElem?_set_ne _ (by omega), Vector.getElem?_replicate]
    split <;> rfl
  rw [VideoFrameHeader.strideAt, stride]
  rfl

theorem offsetAt_frameHeader (n : Nat) (params : FrameParams) (plane : Nat) :
    (frameHeader n params).offsetAt plane = 0 := by
  have offset : ((frameHeader n params).planeOffsets[plane]?.getD 0) = 0 := by
    simp only [frameHeader, VideoFrameHeader.setFormat]
    rw [Vector.getElem?_replicate]
    split <;> rfl
  rw [VideoFrameHeader.offsetAt, offset]
  rfl

/-- The formats of three interleaved channels. -/
def IsPacked3 (format : String) : Prop :=
  format = "BGR" ∨ format = "RGB"

theorem IsPacked3.formatName (packed : IsPacked3 params.format) :
    (frameHeader n params).formatName = params.format := by
  apply formatName_frameHeader
  · rcases packed with bgr | rgb
    · rw [bgr]
      decide
    · rw [rgb]
      decide
  · rcases packed with bgr | rgb
    · rw [bgr]
      decide
    · rw [rgb]
      decide

theorem IsPacked3.formatChannels {format : String} (packed : IsPacked3 format) :
    formatChannels format = some 3 := by
  rcases packed with rfl | rfl
  · decide
  · decide

/-- A packed frame has one plane. -/
theorem IsPacked3.planes (packed : IsPacked3 params.format) :
    (frameHeader n params).planes =
      [⟨0, (frameHeader n params).strideAt 0, params.height.toNat, 3 * params.width.toNat⟩] := by
  have either : params.format = "BGR" ∨ params.format = "RGB" := packed
  have heights : planeHeights (frameHeader n params).formatName (frameHeader n params).height =
      some [params.height] := by
    rw [packed.formatName, planeHeights, if_pos either]
    rfl
  have lengths : rowLengths (frameHeader n params).formatName (frameHeader n params).width =
      [3 * params.width.toNat] := by
    rw [packed.formatName, rowLengths, if_pos either]
    rfl
  rw [planes_of_heights heights, lengths, planesFrom, planesFrom_nil, offsetAt_frameHeader]

variable {pixels : List UInt8}

/-- The row stride of packed pixels is that of the header. A stride of zero is that of
a frame without columns. -/
theorem rowStride_frameHeader (derived : params.stride0 = none)
    (someRow : 0 < params.height.toNat)
    (room : params.height.toNat * params.width.toNat * 3 ≤ n)
    (word : n / params.height.toNat < 2 ^ 32) :
    rowStride (frameHeader n params) 3 = n / params.height.toNat := by
  have stride : (frameHeader n params).strideAt 0 = n / params.height.toNat :=
    (strideAt_zero_frameHeader derived someRow).trans (Nat.mod_eq_of_lt word)
  have row : params.width.toNat * 3 ≤ n / params.height.toNat := by
    rw [Nat.le_div_iff_mul_le someRow]
    calc params.width.toNat * 3 * params.height.toNat
        = params.height.toNat * params.width.toNat * 3 := by ring
      _ ≤ n := room
  have width : (frameHeader n params).width.toNat = params.width.toNat := rfl
  rw [rowStride, stride0, stride, width]
  split_ifs with some
  · rfl
  · omega

/-- Packed pixels fit their view. -/
theorem viewFits_frameHeader (derived : params.stride0 = none)
    (someRow : 0 < params.height.toNat)
    (room : params.height.toNat * params.width.toNat * 3 ≤ pixels.length)
    (word : pixels.length / params.height.toNat < 2 ^ 32) :
    ViewFits (frameHeader pixels.length params) 3 pixels := by
  have stride := rowStride_frameHeader derived someRow room word
  constructor
  · rw [stride, Nat.le_div_iff_mul_le someRow]
    calc params.width.toNat * 3 * params.height.toNat
        = params.height.toNat * params.width.toNat * 3 := by ring
      _ ≤ pixels.length := room
  · rw [stride]
    exact Nat.div_mul_le_self _ _

/-- Rows whose stride is a word are addressed by 64 bits. -/
theorem length_lt_of_stride {rows : UInt32} (someRow : 0 < rows.toNat)
    (word : n / rows.toNat < 2 ^ 32) : n < 2 ^ 64 := by
  have height := rows.toNat_lt
  have split := Nat.div_add_mod n rows.toNat
  have rest := Nat.mod_lt n someRow
  have whole : rows.toNat * (n / rows.toNat) ≤ rows.toNat * (2 ^ 32 - 1) :=
    Nat.mul_le_mul_left _ (by omega)
  omega

/-- The validator accepts the header of packed pixels. -/
theorem IsPacked3.accepted (packed : IsPacked3 params.format) (onePlane : params.nPlanes = 1)
    (derived : params.stride0 = none) (someRow : 0 < params.height.toNat)
    (word : n / params.height.toNat < 2 ^ 32) :
    validateGeometry .bits64 (frameHeader n params) n = .ok () := by
  refine (validateGeometry_eq_ok_iff (length_lt_of_stride someRow word)).mpr ⟨?_, ?_, ?_⟩
  · rw [packed.formatName]
    rcases packed with bgr | rgb
    · rw [bgr]
      decide
    · rw [rgb]
      decide
  · rw [packed.planes]
    change 1 = params.nPlanes.toNat
    rw [onePlane]
    rfl
  · intro plane member
    rw [packed.planes] at member
    rw [List.mem_singleton.mp member, StridedPlane.extent,
      strideAt_zero_frameHeader derived someRow, Nat.mod_eq_of_lt word, Nat.zero_add]
    exact Nat.div_mul_le_self _ _

/-- All that is published is pixels. -/
theorem regions_frameHeader (pixels : List UInt8) (params : FrameParams) :
    (⟨frameHeader pixels.length params, pixels⟩ : VideoFrame).pixels = pixels ∧
      (⟨frameHeader pixels.length params, pixels⟩ : VideoFrame).aux = [] := by
  have regions : (⟨frameHeader pixels.length params, pixels ++ []⟩ : VideoFrame).pixels = pixels ∧
      (⟨frameHeader pixels.length params, pixels ++ []⟩ : VideoFrame).aux = [] :=
    split_of_append rfl
  rwa [List.append_nil] at regions

end Packed

/-- A frame is received as it was published: it has the pixels, no blob and no sentinel,
the size, the timing and the format of the parameters, it passes the validator, and its
view shows the pixels row by row. -/
structure RoundTrips (ndarray : Ndarray) (pixels : List UInt8) (params : FrameParams)
    (frame : VideoFrame) : Prop where
  pixelRegion : frame.pixels = pixels
  auxRegion : frame.aux = []
  live : frame.isEos = false
  width : frame.header.width = params.width
  height : frame.header.height = params.height
  pts : frame.header.pts = params.pts
  offset : frame.header.offset = params.offset
  format : frame.header.formatName = params.format
  accepted : validateGeometry .bits64 frame.header frame.pixelSize = .ok ()
  shown : ∃ view, headerPixelsToNdarrayView ndarray .bits64 frame.header frame.pixels = .ok view ∧
    (view.height = params.height.toNat ∧ view.width = params.width.toNat ∧ view.channels = 3) ∧
    ∀ y x c, y < params.height.toNat → x < params.width.toNat → c < 3 →
      y * (pixels.length / params.height.toNat) + 3 * x + c < pixels.length ∧
        view.get? y x c = pixels[y * (pixels.length / params.height.toNat) + 3 * x + c]?

/-- When no call into the transport fails, `publish_frame` succeeds and publishes a frame;
and every frame that it publishes, whatever fails behind it, is received as it was. -/
def PublishRoundTrips (ndarray : Ndarray) (pixels : List UInt8) (params : FrameParams) : Prop :=
  (∃ frame, publishFrame .none pixels params = ⟨some frame, .ok ()⟩) ∧
    ∀ faults frame, (publishFrame faults pixels params).frame = some frame →
      RoundTrips ndarray pixels params frame

section RoundTrip

variable {ndarray : Ndarray} (pixels : List UInt8) (params : FrameParams)

/-- **The view of a packed frame is made exactly when the frame has a column, or a row as
long as two channels.** -/
theorem ndarrayView_frameHeader_iff (checks : ndarray.Checks) (packed : IsPacked3 params.format)
    (derived : params.stride0 = none) (someRow : 0 < params.height.toNat)
    (room : params.height.toNat * params.width.toNat * 3 ≤ pixels.length)
    (word : pixels.length / params.height.toNat < 2 ^ 32) {view : StridedView UInt8} :
    headerPixelsToNdarrayView ndarray .bits64 (frameHeader pixels.length params) pixels =
        .ok view ↔
      (0 < params.width.toNat ∨ 2 ≤ pixels.length / params.height.toNat) ∧
        view = packedView (frameHeader pixels.length params) 3 pixels := by
  have name : (frameHeader pixels.length params).formatName = params.format := packed.formatName
  have taken : ShapeTaken (frameHeader pixels.length params) 3 ↔
      0 < params.width.toNat ∨ 2 ≤ pixels.length / params.height.toNat := by
    rw [ShapeTaken, rowStride_frameHeader derived someRow room word]
    exact and_iff_right someRow
  rw [headerPixelsToNdarrayView_eq_ok_iff_of_checks checks (length_lt_of_stride someRow word),
    name, packed.formatChannels]
  constructor
  · rintro ⟨_, ⟨⟩, -, shape, shown⟩
    exact ⟨taken.mp shape, shown⟩
  · rintro ⟨column, shown⟩
    exact ⟨3, rfl, viewFits_frameHeader derived someRow room word, taken.mpr column, shown⟩

/-- **A packed frame is received as it was published exactly when it has a column, or a row
as long as two channels.** For every frame of three interleaved channels with at least one
row, whose pixels hold its rows and whose derived stride is a word. What can fail is only
the view: the array library refuses some without a column. -/
theorem publishFrame_roundTrips_iff (checks : ndarray.Checks) (packed : IsPacked3 params.format)
    (onePlane : params.nPlanes = 1) (derived : params.stride0 = none)
    (someRow : 0 < params.height.toNat)
    (room : params.height.toNat * params.width.toNat * 3 ≤ pixels.length)
    (word : pixels.length / params.height.toNat < 2 ^ 32) :
    PublishRoundTrips ndarray pixels params ↔
      0 < params.width.toNat ∨ 2 ≤ pixels.length / params.height.toNat := by
  obtain ⟨pixelRegion, auxRegion⟩ := regions_frameHeader pixels params
  have view : ∀ view, headerPixelsToNdarrayView ndarray .bits64 (frameHeader pixels.length params)
      pixels = .ok view ↔ _ := fun _ =>
    ndarrayView_frameHeader_iff pixels params checks packed derived someRow room word
  constructor
  · rintro ⟨-, roundTrips⟩
    obtain ⟨shown, made, -⟩ := (roundTrips .none _ rfl).shown
    rw [pixelRegion] at made
    exact ((view _).mp made).1
  · intro column
    refine ⟨⟨_, rfl⟩, fun faults frame published => ?_⟩
    obtain rfl := eq_of_published published
    have size : (⟨frameHeader pixels.length params, pixels⟩ : VideoFrame).pixelSize =
        pixels.length := Nat.sub_zero _
    have live : ((0 : UInt64) &&& headerFlagEos != 0) = false := by decide
    refine ⟨pixelRegion, auxRegion, live, rfl, rfl, rfl, rfl, packed.formatName, ?_, ?_⟩
    · rw [size]
      exact packed.accepted onePlane derived someRow word
    · rw [pixelRegion]
      refine ⟨_, (view _).mpr ⟨column, rfl⟩, ⟨rfl, rfl, rfl⟩, ?_⟩
      intro y x c inRows inRow inPixel
      have fits := viewFits_frameHeader derived someRow room word
      have element := fits.packedView_get? inRows inRow inPixel
      rw [rowStride_frameHeader derived someRow room word, Nat.mul_comm x 3] at element
      exact element

end RoundTrip

/-- Two rows of one pixel, and a byte that is in no row. -/
def onePixelRows : FrameParams :=
  { FrameParams.default with width := 1, height := 2, pts := 40 }

/-- It is published, and received with the last channel of its second row. -/
theorem publishFrame_roundTrips_iff_onePixel :
    ∃ frame view, publishFrame .none [1, 2, 3, 4, 5, 6, 7] onePixelRows = ⟨some frame, .ok ()⟩ ∧
      headerPixelsToNdarrayView sliceNdarray .bits64 frame.header frame.pixels = .ok view ∧
      view.get? 1 0 2 = some 6 := by
  obtain ⟨⟨frame, published⟩, roundTrips⟩ :=
    (publishFrame_roundTrips_iff [1, 2, 3, 4, 5, 6, 7] onePixelRows sliceNdarray_checks
      (.inl rfl) rfl rfl (by decide) (by decide) (by decide)).mpr (.inl (by decide))
  obtain ⟨view, made, -, elements⟩ := (roundTrips .none frame (by rw [published])).shown
  exact ⟨frame, view, published, made,
    (elements 1 0 2 (by decide) (by decide) (by decide)).2⟩

/-- A row without a pixel. -/
def emptyRow : FrameParams :=
  { FrameParams.default with height := 1 }

/-- **A row without a pixel is published, and its view is refused**, also when a byte is in
no pixel. -/
theorem emptyRow_not_shown :
    (emptyRow.format = "BGR" ∧ emptyRow.nPlanes = 1 ∧ emptyRow.stride0 = none ∧
      emptyRow.height = 1 ∧ emptyRow.width = 0) ∧
    ¬ PublishRoundTrips sliceNdarray [] emptyRow ∧
      ¬ PublishRoundTrips sliceNdarray [7] emptyRow := by
  refine ⟨⟨rfl, rfl, rfl, rfl, rfl⟩, ?_, ?_⟩
  · rintro ⟨-, roundTrips⟩
    obtain ⟨view, made, -⟩ := (roundTrips .none _ rfl).shown
    have refused : headerPixelsToNdarrayView sliceNdarray .bits64 (frameHeader 0 emptyRow) [] =
        .error (.shape "ShapeError/OutOfBounds: out of bounds indexing") := by decide
    cases refused.symm.trans made
  · rintro ⟨-, roundTrips⟩
    obtain ⟨view, made, -⟩ := (roundTrips .none _ rfl).shown
    have refused : headerPixelsToNdarrayView sliceNdarray .bits64 (frameHeader 1 emptyRow) [7] =
        .error (.shape "ShapeError/OutOfBounds: out of bounds indexing") := by decide
    cases refused.symm.trans made

/-! ## Planar frames -/

/-- The header describes planes that are tightly packed in a payload: each has the
stride of its own rows, and their rooms are in the payload and apart. -/
structure DescribesPlanes (header : VideoFrameHeader) (size : Nat) : Prop where
  strides : ∀ plane ∈ header.planes, plane.stride = plane.rowLength
  inside : ∀ plane ∈ header.planes, plane.extent ≤ size
  apart : header.planes.Pairwise fun first second =>
    first.extent ≤ second.offset ∨ second.extent ≤ first.offset

instance (header : VideoFrameHeader) (size : Nat) : Decidable (DescribesPlanes header size) :=
  decidable_of_iff ((∀ plane ∈ header.planes, plane.stride = plane.rowLength) ∧
    (∀ plane ∈ header.planes, plane.extent ≤ size) ∧
    header.planes.Pairwise fun first second =>
      first.extent ≤ second.offset ∨ second.extent ≤ first.offset)
    ⟨fun ⟨strides, inside, apart⟩ => ⟨strides, inside, apart⟩,
      fun ⟨strides, inside, apart⟩ => ⟨strides, inside, apart⟩⟩

/-- Four luma bytes and two of chroma, with a stride and an offset for each plane. -/
example : DescribesPlanes ({ VideoFrameHeader.zeroed with
    width := 2, height := 2, nPlanes := 3, stride := #v[2, 1, 1, 0],
    planeOffsets := #v[0, 4, 5, 0] }.setFormat "I420") 6 := by decide

/-- The planar formats with their planes. -/
def IsPlanar (params : FrameParams) : Prop :=
  params.format = "I420" ∧ params.nPlanes = 3 ∨ params.format = "NV12" ∧ params.nPlanes = 2

section Planar

variable {n : Nat} {params : FrameParams}

theorem IsPlanar.formatName (planar : IsPlanar params) :
    (frameHeader n params).formatName = params.format := by
  rcases planar with ⟨i420, -⟩ | ⟨nv12, -⟩
  · apply formatName_frameHeader
    · rw [i420]
      decide
    · rw [i420]
      decide
  · apply formatName_frameHeader
    · rw [nv12]
      decide
    · rw [nv12]
      decide

/-- A planar frame has a plane of luma rows at the one stride, and chroma planes without
a stride, all at the start of the payload. -/
theorem IsPlanar.planes (planar : IsPlanar params) :
    ∃ first others, (frameHeader n params).planes =
        ⟨0, (frameHeader n params).strideAt 0, params.height.toNat, params.width.toNat⟩ ::
          first :: others ∧
      others.length + 2 = params.nPlanes.toNat ∧
      ∀ plane ∈ first :: others, plane.offset = 0 ∧ plane.stride = 0 ∧
        params.width.toNat ≤ 2 * plane.rowLength := by
  have name : (frameHeader n params).formatName = params.format := planar.formatName
  have chroma : ∀ rows rowLength, params.width.toNat ≤ 2 * rowLength →
      ∀ plane : StridedPlane, plane = ⟨0, 0, rows, rowLength⟩ →
        plane.offset = 0 ∧ plane.stride = 0 ∧ params.width.toNat ≤ 2 * plane.rowLength := by
    rintro rows rowLength wide _ rfl
    exact ⟨rfl, rfl, wide⟩
  have noStride : ∀ plane, 0 < plane → (frameHeader n params).strideAt plane = 0 := by
    intro plane pos
    obtain ⟨before, rfl⟩ := Nat.exists_eq_succ_of_ne_zero (Nat.ne_of_gt pos)
    exact strideAt_succ_frameHeader n params before
  rcases planar with ⟨i420, three⟩ | ⟨nv12, two⟩
  · have heights : planeHeights (frameHeader n params).formatName (frameHeader n params).height =
        some [params.height, divCeil params.height 2, divCeil params.height 2] := by
      rw [name, i420]
      rfl
    have lengths : rowLengths (frameHeader n params).formatName (frameHeader n params).width =
        [params.width.toNat, (params.width.toNat + 1) / 2, (params.width.toNat + 1) / 2] := by
      rw [name, i420]
      rfl
    refine ⟨⟨0, 0, (divCeil params.height 2).toNat, (params.width.toNat + 1) / 2⟩,
      [⟨0, 0, (divCeil params.height 2).toNat, (params.width.toNat + 1) / 2⟩], ?_, ?_, ?_⟩
    · rw [planes_of_heights heights, lengths, planesFrom, planesFrom, planesFrom, planesFrom_nil,
        offsetAt_frameHeader, offsetAt_frameHeader, offsetAt_frameHeader,
        noStride (0 + 1) (by omega), noStride (0 + 1 + 1) (by omega)]
    · rw [three]
      rfl
    · intro plane member
      apply chroma (divCeil params.height 2).toNat ((params.width.toNat + 1) / 2) (by omega)
      simpa using member
  · have heights : planeHeights (frameHeader n params).formatName (frameHeader n params).height =
        some [params.height, divCeil params.height 2] := by
      rw [name, nv12]
      rfl
    have lengths : rowLengths (frameHeader n params).formatName (frameHeader n params).width =
        [params.width.toNat, 2 * ((params.width.toNat + 1) / 2)] := by
      rw [name, nv12]
      rfl
    refine ⟨⟨0, 0, (divCeil params.height 2).toNat, 2 * ((params.width.toNat + 1) / 2)⟩, [],
      ?_, ?_, ?_⟩
    · rw [planes_of_heights heights, lengths, planesFrom, planesFrom, planesFrom_nil,
        offsetAt_frameHeader, offsetAt_frameHeader, noStride (0 + 1) (by omega)]
    · rw [two]
      rfl
    · intro plane member
      apply chroma (divCeil params.height 2).toNat (2 * ((params.width.toNat + 1) / 2)) (by omega)
      simpa using member

/-- A planar frame of pixels that are tightly packed, of an even size. -/
structure TightPlanar (n : Nat) (params : FrameParams) : Prop where
  planar : IsPlanar params
  derived : params.stride0 = none
  evenWidth : params.width.toNat % 2 = 0
  evenHeight : params.height.toNat % 2 = 0
  someWidth : 2 ≤ params.width.toNat
  someHeight : 2 ≤ params.height.toNat
  tight : n = params.width.toNat * params.height.toNat * 3 / 2

/-- The one stride is that of three halves of a row. -/
theorem TightPlanar.div_height (tight : TightPlanar n params) :
    n / params.height.toNat = 3 * (params.width.toNat / 2) := by
  obtain ⟨half, width⟩ : ∃ half, params.width.toNat = 2 * half :=
    ⟨params.width.toNat / 2, by have := tight.evenWidth; omega⟩
  have rows := tight.someHeight
  have bytes : params.width.toNat * params.height.toNat * 3 =
      2 * (params.height.toNat * (3 * half)) := by
    rw [width]
    ring
  rw [tight.tight, bytes, Nat.mul_div_cancel_left _ (by decide : 0 < 2),
    Nat.mul_div_cancel_left _ (by omega : 0 < params.height.toNat), width,
    Nat.mul_div_cancel_left _ (by decide : 0 < 2)]

/-- **The header of a planar frame misdescribes it.** No plane has the stride of its own
rows, and the planes all start at the start of the payload. -/
theorem frameHeader_misdescribes (tight : TightPlanar n params) :
    (∀ plane ∈ (frameHeader n params).planes, plane.stride ≠ plane.rowLength) ∧
      (∀ plane ∈ (frameHeader n params).planes, plane.offset = 0) ∧
      ¬ DescribesPlanes (frameHeader n params) n := by
  obtain ⟨first, others, planes, -, chroma⟩ : ∃ first others,
      (frameHeader n params).planes = _ :: first :: others ∧ _ := tight.planar.planes
  have someRow : 0 < params.height.toNat := Nat.lt_of_lt_of_le (by decide) tight.someHeight
  have strides : ∀ plane ∈ (frameHeader n params).planes, plane.stride ≠ plane.rowLength := by
    rw [planes]
    intro plane member
    have wide := tight.someWidth
    have word := params.width.toNat_lt
    rcases List.mem_cons.mp member with rfl | later
    · have stride : (frameHeader n params).strideAt 0 = n / params.height.toNat % 2 ^ 32 :=
        strideAt_zero_frameHeader tight.derived someRow
      have even := tight.evenWidth
      change (frameHeader n params).strideAt 0 ≠ params.width.toNat
      rw [stride, tight.div_height]
      omega
    · obtain ⟨-, stride, row⟩ := chroma plane later
      omega
  refine ⟨strides, ?_, ?_⟩
  · rw [planes]
    intro plane member
    rcases List.mem_cons.mp member with rfl | later
    · rfl
    · exact (chroma plane later).1
  · intro describes
    have second : first ∈ (frameHeader n params).planes := by
      rw [planes]
      exact .tail _ (.head _)
    exact strides first second (describes.strides first second)

/-- **The validator accepts it all the same.** The luma rows fill the pixels, and a plane
without a stride has no extent. -/
theorem frameHeader_planar_accepted (tight : TightPlanar n params) (addressable : n < 2 ^ 64) :
    validateGeometry .bits64 (frameHeader n params) n = .ok () := by
  obtain ⟨first, others, planes, count, chroma⟩ : ∃ first others,
      (frameHeader n params).planes = _ :: first :: others ∧ _ := tight.planar.planes
  have someRow : 0 < params.height.toNat := Nat.lt_of_lt_of_le (by decide) tight.someHeight
  have stride : (frameHeader n params).strideAt 0 = n / params.height.toNat % 2 ^ 32 :=
    strideAt_zero_frameHeader tight.derived someRow
  refine (validateGeometry_eq_ok_iff addressable).mpr ⟨?_, ?_, ?_⟩
  · rw [tight.planar.formatName]
    rcases tight.planar with ⟨i420, -⟩ | ⟨nv12, -⟩
    · rw [i420]
      decide
    · rw [nv12]
      decide
  · rw [planes]
    exact count
  · rw [planes]
    intro plane member
    rcases List.mem_cons.mp member with rfl | later
    · change 0 + (frameHeader n params).strideAt 0 * params.height.toNat ≤ n
      rw [stride, Nat.zero_add]
      calc n / params.height.toNat % 2 ^ 32 * params.height.toNat
          ≤ n / params.height.toNat * params.height.toNat :=
            Nat.mul_le_mul_right _ (Nat.mod_le _ _)
        _ ≤ n := Nat.div_mul_le_self _ _
    · obtain ⟨offset, stride, -⟩ := chroma plane later
      rw [StridedPlane.extent, offset, stride, Nat.zero_mul]
      exact Nat.zero_le _

end Planar

end GstIceoryx2.Video
