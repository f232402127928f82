import Mathlib.Data.List.GetD
import GstIceoryx2.Element.RenderPaths
import GstIceoryx2.Element.Source

/-!
# From the sink to the source

A buffer rendered under negotiated caps is received as a buffer with the same
pixels, timing and layout. The layout is the default one of a supported format:
rows rounded up to four bytes, an even number of luma rows for subsampled chroma,
and planes back to back. Odd sizes are included: the rows the validator counts
for a chroma plane are the rounded-up rows of the layout.

The buffer's flags come back together with those that GStreamer itself sets when
memory is appended to the received buffer (`source_inverts_sink`).
-/

set_option autoImplicit false

namespace GstIceoryx2.Element

open Foundations Video

variable {gst : Gst}

/-! ## The default layout -/

def roundUp2 (n : Nat) : Nat := (n + 1) / 2 * 2

def roundUp4 (n : Nat) : Nat := (n + 3) / 4 * 4

/-- The strides, offsets and size of a supported format. -/
def defaultPlanes (format : String) (width height : Nat) : List Nat × List Nat × Nat :=
  let rows := roundUp2 height
  if format = "I420" then
    let luma := roundUp4 width
    let chroma := roundUp4 (roundUp2 width / 2)
    let v := luma * rows + chroma * (rows / 2)
    ([luma, chroma, chroma], [0, luma * rows, v], v + chroma * (rows / 2))
  else if format = "NV12" then
    let luma := roundUp4 width
    ([luma, luma], [0, luma * rows], luma * rows + luma * (rows / 2))
  else
    let packed := roundUp4 (width * 3)
    ([packed], [0], packed * height)

/-- The default layout of a supported format. -/
def defaultLayout (format : String) (width height : UInt32) : VideoInfo :=
  let planes := defaultPlanes format width.toNat height.toNat
  { format := .raw format
    width := width
    height := height
    nPlanes := UInt32.ofNat planes.1.length
    stride := planes.1.map Int32.ofNat
    offset := planes.2.1
    size := planes.2.2 }

/-! ### The planes of the layout -/

/-- The three shapes of a supported format. -/
theorem supported_cases {format : String} (supported : format ∈ supportedFormats) :
    (format = "BGR" ∨ format = "RGB") ∨ format = "I420" ∨ format = "NV12" := by
  simpa [supportedFormats, or_assoc] using supported

/-- Half of the rounded-up rows are the rows of a chroma plane. -/
theorem roundUp2_div_two (n : Nat) : roundUp2 n / 2 = (n + 1) / 2 := by
  rw [roundUp2, Nat.mul_div_cancel _ (Nat.zero_lt_two)]

theorem le_roundUp2 (n : Nat) : n ≤ roundUp2 n := by
  rw [roundUp2]
  omega

/-- The layout and the validator count the same planes. -/
theorem length_defaultPlanes {format : String} (supported : format ∈ supportedFormats)
    (width height : UInt32) :
    ∃ heights, planeHeights format height = some heights ∧
      (defaultPlanes format width.toNat height.toNat).1.length = heights.length ∧
      (defaultPlanes format width.toNat height.toNat).2.1.length = heights.length := by
  rcases supported_cases supported with (rfl | rfl) | rfl | rfl <;>
    exact ⟨_, rfl, rfl, rfl⟩

/-- **Every plane of the default layout is inside the frame**, with the rows the
validator counts. -/
theorem defaultPlanes_fits {format : String} (supported : format ∈ supportedFormats)
    (width height : UInt32) {heights : List UInt32}
    (known : planeHeights format height = some heights) (plane : Nat) :
    (defaultPlanes format width.toNat height.toNat).2.1.getD plane 0 +
        (defaultPlanes format width.toNat height.toNat).1.getD plane 0 *
          (heights.getD plane 0).toNat ≤
      (defaultPlanes format width.toNat height.toNat).2.2 := by
  have chroma : (divCeil height 2).toNat = roundUp2 height.toNat / 2 := by
    rw [toNat_divCeil_two, roundUp2_div_two]
  have luma : ∀ stride, stride * height.toNat ≤ stride * roundUp2 height.toNat :=
    fun stride => Nat.mul_le_mul_left stride (le_roundUp2 _)
  rcases supported_cases supported with packed | rfl | rfl
  · have one : defaultPlanes format width.toNat height.toNat =
        ([roundUp4 (width.toNat * 3)], [0], roundUp4 (width.toNat * 3) * height.toNat) := by
      rcases packed with rfl | rfl <;> rfl
    have rows : heights = [height] := by
      simp only [planeHeights, packed, if_true, Option.some.injEq] at known
      exact known.symm
    subst rows
    rw [one]
    match plane with
    | 0 => simp
    | _ + 1 => simp
  · cases known
    match plane with
    | 0 =>
        have := luma (roundUp4 width.toNat)
        simp only [defaultPlanes, String.reduceEq, if_true, if_false, List.getD_cons_zero]
        omega
    | 1 => simp [defaultPlanes, chroma]
    | 2 => simp [defaultPlanes, chroma]
    | _ + 3 => simp [defaultPlanes]
  · cases known
    match plane with
    | 0 =>
        have := luma (roundUp4 width.toNat)
        simp only [defaultPlanes, String.reduceEq, if_true, if_false, List.getD_cons_zero]
        omega
    | 1 => simp [defaultPlanes, chroma]
    | _ + 2 => simp [defaultPlanes]

/-- Every plane of a frame with a row has a row. -/
theorem rows_pos {format : String} {height : UInt32} (someRow : height ≠ 0)
    {heights : List UInt32} (known : planeHeights format height = some heights) :
    ∀ rows ∈ heights, 0 < rows.toNat := by
  have luma : 0 < height.toNat := Nat.pos_of_ne_zero fun zero => someRow (UInt32.toNat_inj.mp zero)
  have chroma : 0 < (divCeil height 2).toNat := by
    rw [toNat_divCeil_two]
    omega
  unfold planeHeights at known
  split_ifs at known <;> cases known <;> simp [luma, chroma]

/-- The strides and offsets of the layout are within its size. -/
theorem defaultPlanes_le_size {format : String} (supported : format ∈ supportedFormats)
    (width : UInt32) {height : UInt32} (someRow : height ≠ 0) (plane : Nat) :
    (defaultPlanes format width.toNat height.toNat).2.1.getD plane 0 ≤
        (defaultPlanes format width.toNat height.toNat).2.2 ∧
      (defaultPlanes format width.toNat height.toNat).1.getD plane 0 ≤
        (defaultPlanes format width.toNat height.toNat).2.2 := by
  obtain ⟨heights, known, strides, -⟩ := length_defaultPlanes supported width height
  have fits := defaultPlanes_fits supported width height known plane
  refine ⟨Nat.le_trans (Nat.le_add_right _ _) fits, ?_⟩
  by_cases inside : plane < heights.length
  · have rows : 0 < (heights.getD plane 0).toNat := by
      rw [List.getD_eq_getElem _ _ inside]
      exact rows_pos someRow known _ (List.getElem_mem inside)
    exact Nat.le_trans (Nat.le_mul_of_pos_right _ rows) (Nat.le_trans (Nat.le_add_left _ _) fits)
  · rw [List.getD_eq_default _ _ (by omega)]
    exact Nat.zero_le _

/-! ## The cached layout -/

namespace Sink

theorem getElem?_planeArray {α : Type} {nPlanes : UInt32} {entries : List α} (cast : α → UInt32)
    (count : nPlanes.toNat = entries.length) (few : entries.length ≤ maxPlanes) {plane : Nat}
    (inside : plane < entries.length) :
    (planeArray nPlanes entries cast)[plane]? = some (cast entries[plane]) := by
  have bound : plane < maxPlanes := Nat.lt_of_lt_of_le inside few
  have counted : plane < min nPlanes.toNat maxPlanes := by
    rw [count]
    exact Nat.lt_min.mpr ⟨inside, bound⟩
  rw [Vector.getElem?_eq_getElem bound, planeArray, Vector.getElem_ofFn]
  simp only [if_pos counted, List.getElem?_eq_getElem inside, Option.map_some, Option.getD_some]

/-- The planes there are, read back. -/
theorem take_planeArray {α : Type} {nPlanes : UInt32} {entries : List α} (cast : α → UInt32)
    (count : nPlanes.toNat = entries.length) (few : entries.length ≤ maxPlanes) :
    (planeArray nPlanes entries cast).toList.take nPlanes.toNat = entries.map cast := by
  apply List.ext_getElem
  · simp only [List.length_take, Vector.length_toList, List.length_map, count]
    exact Nat.min_eq_left few
  · intro plane _ inside
    rw [List.length_map] at inside
    have entry := getElem?_planeArray cast count few inside
    have bound : plane < maxPlanes := Nat.lt_of_lt_of_le inside few
    rw [Vector.getElem?_eq_getElem bound, Option.some.injEq] at entry
    rw [List.getElem_take, List.getElem_map, Vector.getElem_toList, entry]

/-- Buffer flags are never the end-of-stream flag. -/
theorem frameWithAux_isEos (info : CapsInfo) (buffer : Buffer gst) (pixels aux : List UInt8) :
    (frameWithAux info buffer pixels aux).isEos = false := by
  have disjoint : buffer.flags.bits.toUInt64 &&& headerFlagEos = 0 := by
    apply UInt64.toNat_inj.mp
    rw [UInt64.toNat_and, UInt32.toNat_toUInt64]
    apply Nat.eq_of_testBit_eq
    intro position
    have eos : headerFlagEos.toNat = 2 ^ 32 := by decide
    rw [Nat.testBit_and, eos, Nat.testBit_two_pow]
    by_cases high : 32 = position
    · subst high
      have low := Nat.testBit_lt_two_pow buffer.flags.bits.toNat_lt
      simp [low]
    · simp [high]
  have flags : (frameWithAux info buffer pixels aux).header.flags =
      buffer.flags.bits.toUInt64 := rfl
  simp only [VideoFrame.isEos, VideoFrameHeader.isEos, flags, disjoint, bne_self_eq_false]

section DefaultLayout

variable {format : String} (width height : UInt32)

/-- A frame with the default layout. -/
abbrev defaultFrame (format : String) (width height : UInt32) (buffer : Buffer gst)
    (pixels aux : List UInt8) : VideoFrame :=
  frameWithAux (capsInfo (defaultLayout format width height)) buffer pixels aux

/-- The names of the supported formats fit the header's field. -/
theorem formatName_defaultFrame (supported : format ∈ supportedFormats) (buffer : Buffer gst)
    (pixels aux : List UInt8) :
    (defaultFrame format width height buffer pixels aux).header.formatName = format := by
  have fits : ∀ name ∈ supportedFormats, (asBytes name).length < formatLen ∧
      0 ∉ asBytes name := by decide
  obtain ⟨short, noNul⟩ := fits format supported
  exact VideoFrameHeader.formatName_setFormat VideoFrameHeader.zeroed short noNul

/-- The planes of the layout are those of the validator, and are counted. -/
theorem layout_counts (supported : format ∈ supportedFormats) :
    ∃ heights, planeHeights format height = some heights ∧ heights.length ≤ 3 ∧
      0 < heights.length ∧
      (defaultLayout format width height).nPlanes.toNat = heights.length ∧
      (defaultLayout format width height).stride.length = heights.length ∧
      (defaultLayout format width height).offset.length = heights.length := by
  obtain ⟨heights, known, strides, offsets⟩ := length_defaultPlanes supported width height
  obtain ⟨-, some, few⟩ := length_planeHeights width known
  refine ⟨heights, known, few, some, ?_, ?_, offsets⟩
  · simp only [defaultLayout, strides]
    exact UInt32.toNat_ofNat_of_lt (Nat.lt_of_le_of_lt few (by decide))
  · simp only [defaultLayout, List.length_map, strides]

variable {width height} (supported : format ∈ supportedFormats) (someRow : height ≠ 0)
  (small : (defaultLayout format width height).size < 2 ^ 31)
  (buffer : Buffer gst) (pixels aux : List UInt8)

include supported someRow small

/-- The header's strides and offsets are the layout's. -/
theorem header_planes {plane : Nat}
    (inside : plane < (defaultLayout format width height).stride.length) :
    (defaultFrame format width height buffer pixels aux).header.offsetAt plane =
        (defaultPlanes format width.toNat height.toNat).2.1.getD plane 0 ∧
      (defaultFrame format width height buffer pixels aux).header.strideAt plane =
        (defaultPlanes format width.toNat height.toNat).1.getD plane 0 := by
  obtain ⟨heights, -, few, -, count, strides, offsets⟩ := layout_counts width height supported
  obtain ⟨offsetLe, strideLe⟩ := defaultPlanes_le_size supported width someRow plane
  have few' : heights.length ≤ maxPlanes := Nat.le_trans few (by decide)
  have word : (defaultPlanes format width.toNat height.toNat).2.2 < 2 ^ 32 :=
    Nat.lt_trans small (by decide)
  constructor
  · have inside' : plane < (defaultLayout format width height).offset.length := by omega
    have found := getElem?_planeArray UInt32.ofNat (count.trans offsets.symm)
      (offsets ▸ few') inside'
    have entry : (defaultLayout format width height).offset[plane] =
        (defaultPlanes format width.toNat height.toNat).2.1.getD plane 0 :=
      (List.getD_eq_getElem _ _ inside').symm
    change ((planeArray (defaultLayout format width height).nPlanes
      (defaultLayout format width height).offset UInt32.ofNat)[plane]?.getD 0).toNat = _
    rw [found, entry]
    exact UInt32.toNat_ofNat_of_lt (Nat.lt_of_le_of_lt offsetLe word)
  · have inside' : plane < (defaultPlanes format width.toNat height.toNat).1.length := by
      simpa [defaultLayout] using inside
    have found := getElem?_planeArray Int32.toUInt32 (count.trans strides.symm)
      (strides ▸ few') inside
    have entry : (defaultLayout format width height).stride[plane] =
        Int32.ofNat ((defaultPlanes format width.toNat height.toNat).1.getD plane 0) := by
      rw [List.getD_eq_getElem _ _ inside']
      simp only [defaultLayout, List.getElem_map]
    change ((planeArray (defaultLayout format width height).nPlanes
      (defaultLayout format width height).stride Int32.toUInt32)[plane]?.getD 0).toNat = _
    rw [found, entry]
    exact UInt32.toNat_ofNat_of_lt (Nat.lt_of_le_of_lt strideLe word)

/-- **The validator accepts every default layout**, odd sizes included. -/
theorem accepted_defaultFrame :
    validateGeometry .bits64 (defaultFrame format width height buffer pixels aux).header
      (defaultLayout format width height).size = .ok () := by
  obtain ⟨heights, known, few, -, count, strides, -⟩ := layout_counts width height supported
  have named := formatName_defaultFrame width height supported buffer pixels aux
  have known' : planeHeights (defaultFrame format width height buffer pixels aux).header.formatName
      (defaultFrame format width height buffer pixels aux).header.height = some heights := by
    rw [named]
    exact known
  have planes := planes_of_heights known'
  have same := (length_planeHeights
    (defaultFrame format width height buffer pixels aux).header.width known').1
  have word : (defaultLayout format width height).size < WordSize.limit .bits64 :=
    Nat.lt_trans small (by decide)
  rw [validateGeometry_eq_ok_iff word]
  refine ⟨by rwa [named], ?_, ?_⟩
  · rw [planes, length_planesFrom same]
    exact count.symm
  · rw [planes]
    intro entry member
    obtain ⟨plane, inside, extent⟩ := exists_of_mem_planesFrom member
    obtain ⟨offsetAt, strideAt⟩ := header_planes supported someRow small buffer pixels aux
      (strides ▸ inside)
    rw [extent, Nat.zero_add, offsetAt, strideAt]
    exact defaultPlanes_fits supported width height known plane

/-- The offsets and strides that are cut to 32 bits are read back. -/
theorem layoutMeta_defaultFrame :
    Source.layoutMeta (.fromHeader (defaultFrame format width height buffer pixels aux).header)
        (.raw format) =
      { format := .raw format, width := width, height := height
        offset := (defaultLayout format width height).offset
        stride := (defaultLayout format width height).stride } := by
  obtain ⟨heights, -, few, some, count, strides, offsets⟩ := layout_counts width height supported
  have few' : heights.length ≤ maxPlanes := Nat.le_trans few (by decide)
  have planes : max 1 (min (defaultLayout format width height).nPlanes.toNat maxPlanes) =
      (defaultLayout format width height).nPlanes.toNat := by
    rw [count, Nat.min_eq_left few', Nat.max_eq_right some]
  have takenOffsets := take_planeArray UInt32.ofNat (count.trans offsets.symm) (offsets ▸ few')
  have takenStrides := take_planeArray Int32.toUInt32 (count.trans strides.symm) (strides ▸ few')
  have offsetsBack : ((defaultLayout format width height).offset.map UInt32.ofNat).map
      UInt32.toNat = (defaultLayout format width height).offset := by
    refine List.ext_getElem (by simp only [List.length_map]) fun plane _ inside => ?_
    have le := (defaultPlanes_le_size supported width someRow plane).1
    have entry : (defaultLayout format width height).offset[plane] =
        (defaultPlanes format width.toNat height.toNat).2.1.getD plane 0 :=
      (List.getD_eq_getElem _ _ inside).symm
    rw [List.getElem_map, List.getElem_map, entry]
    exact UInt32.toNat_ofNat_of_lt (Nat.lt_of_le_of_lt le (Nat.lt_trans small (by decide)))
  have stridesBack : ((defaultLayout format width height).stride.map Int32.toUInt32).map
      UInt32.toInt32 = (defaultLayout format width height).stride := by
    rw [List.map_map]
    exact List.map_id'' Int32.toInt32_toUInt32 _
  change Source.layoutMeta
    { format := _, width := width, height := height,
      nPlanes := (defaultLayout format width height).nPlanes,
      stride := planeArray (defaultLayout format width height).nPlanes
        (defaultLayout format width height).stride Int32.toUInt32,
      planeOffsets := planeArray (defaultLayout format width height).nPlanes
        (defaultLayout format width height).offset UInt32.ofNat } _ = _
  simp only [Source.layoutMeta, planes, takenOffsets, takenStrides, offsetsBack, stridesBack]

end DefaultLayout

end Sink

/-! ## What is received -/

/-- Caps with the default layout of a supported format and size, whose text is
read back, and for which the library builds caps and attaches the layout. -/
structure DefaultCaps (gst : Gst) (caps : gst.Caps) (format : String) (width height : UInt32) :
    Prop where
  supported : format ∈ supportedFormats
  someRow : height ≠ 0
  laidOut : gst.videoInfo caps = some (defaultLayout format width height)
  small : (defaultLayout format width height).size < 2 ^ 31
  parses : gst.parseCaps (gst.capsToString caps) = some caps
  builds : (gst.buildCaps (.raw format) width height).isSome
  attaches : gst.attachesVideoMeta
    { format := .raw format, width := width, height := height
      offset := (defaultLayout format width height).offset
      stride := (defaultLayout format width height).stride }
    (defaultLayout format width height).size = true

/-- How a buffer is rendered: copied, or from a loan with a reserve. -/
inductive RenderPath where
  | copy
  | zeroCopy (reserve : List MemByte)

namespace RenderPath

/-- The registered loan, with the pixels that were written to it. -/
def registered (path : RenderPath) (pixels : List UInt8) : Option (List MemByte) :=
  match path with
  | copy => none
  | zeroCopy reserve => some (pixels.map some ++ reserve)

/-- What is behind the pixels. -/
def auxRegion (path : RenderPath) (caps : gst.Caps) (buffer : Buffer gst) : List UInt8 :=
  match path with
  | copy => Sink.auxBlob (some caps) buffer none
  | zeroCopy reserve => Sink.filledReserve caps buffer reserve.length

/-- The caps travel as text, when they have one and there is room for it. -/
def Carries (path : RenderPath) (caps : gst.Caps) : Prop :=
  gst.capsToString caps ≠ "" ∧
    match path with
    | copy => True
    | zeroCopy reserve => Sink.capsRoom caps ≤ reserve.length

end RenderPath

namespace Sink

theorem setCaps_eq_ok (before : State gst) {caps : gst.Caps} {format : String}
    {width height : UInt32} (default : DefaultCaps gst caps format width height) :
    setCaps before caps =
      .ok ⟨some (capsInfo (defaultLayout format width height)), some caps⟩ := by
  rw [setCaps, default.laidOut]

/-- Both paths send the pixels with the path's aux region behind them. -/
theorem sentFrame_of_path (info : CapsInfo) (caps : gst.Caps) (path : RenderPath)
    (buffer : Buffer gst) {pixels : List UInt8} (sized : path ≠ .copy → pixels.length = info.size) :
    sentFrame ⟨some info, some caps⟩ buffer (path.registered pixels) (pixels.map some) =
      some (frameWithAux info buffer pixels (path.auxRegion caps buffer)) := by
  cases path with
  | copy => exact sentFrame_copy info caps buffer pixels
  | zeroCopy reserve => exact sentFrame_zeroCopy caps buffer reserve _ (sized (by simp))

end Sink

namespace Source

theorem optClock_nsecondsOrNone (time : Option ClockTime) :
    optClock (Sink.nsecondsOrNone time) = time := by
  cases time with
  | none => exact dif_neg fun isTime => isTime rfl
  | some time => exact dif_pos time.isTime

section Received

variable {caps : gst.Caps} {format : String} {width height : UInt32} {path : RenderPath}
  (buffer : Buffer gst)

/-- The text of caps that travel is parsed from the region behind the pixels. -/
theorem caps_parseAux_auxRegion (carries : path.Carries caps)
    (short : (path.auxRegion caps buffer).length < 2 ^ 32) :
    (Video.parseAux (path.auxRegion caps buffer)).caps = some (gst.capsToString caps) := by
  obtain ⟨named, roomy⟩ := carries
  cases path with
  | copy =>
      have room := Sink.capsRoom_le_length_buildAux caps (Sink.serializedMetas buffer) none
      have capsShort : (asBytes (gst.capsToString caps)).length < 2 ^ 32 := by
        simp only [RenderPath.auxRegion, Sink.auxBlob, Sink.capsRoom] at short room
        omega
      have parsed := caps_parseAux_buildAux_append (Sink.serializedMetas buffer) none capsShort []
      rw [List.append_nil, if_neg named] at parsed
      exact parsed
  | zeroCopy reserve =>
      have capsShort : (asBytes (gst.capsToString caps)).length < 2 ^ 32 := by
        simp only [RenderPath.auxRegion, Sink.length_filledReserve, Sink.capsRoom] at short roomy
        omega
      have parsed := caps_parseAux_buildAux_append (Sink.serializedMetas buffer)
        (some reserve.length) capsShort
        (List.replicate
          (reserve.length - (Sink.tailBlob (some caps) buffer reserve.length).length) 0)
      rw [if_neg named, ← Sink.tailBlob_of_capsRoom_le roomy] at parsed
      exact parsed

/-- **The negotiated caps are chosen when they travelled**, and some caps are
chosen in any case. -/
theorem chosenCaps_defaultFrame (documented : gst.Documented)
    (default : DefaultCaps gst caps format width height) (pixels : List UInt8)
    (short : (path.auxRegion caps buffer).length < 2 ^ 32) :
    (path.Carries caps → chosenCaps gst (Sink.defaultFrame format width height buffer pixels
        (path.auxRegion caps buffer)) = some caps) ∧
      ∃ chosen, chosenCaps gst (Sink.defaultFrame format width height buffer pixels
        (path.auxRegion caps buffer)) = some chosen := by
  have aux := (Sink.frameWithAux_split (Sink.capsInfo (defaultLayout format width height)) buffer
    pixels short).2
  constructor
  · intro carries
    have parsed : (auxOf gst (Sink.defaultFrame format width height buffer pixels
        (path.auxRegion caps buffer))).caps = some caps := by
      rw [auxOf_eq, aux]
      simp only [parseAux, caps_parseAux_auxRegion buffer carries short, Option.bind_some,
        default.parses]
    simp only [chosenCaps, parsed]
  · have named := Sink.formatName_defaultFrame width height default.supported buffer pixels
      (path.auxRegion caps buffer)
    obtain ⟨built, builds⟩ := Option.isSome_iff_exists.mp default.builds
    unfold chosenCaps
    split
    · exact ⟨_, rfl⟩
    · refine ⟨built, ?_⟩
      simp only [CapsInfo.toCaps, CapsInfo.videoFormat, CapsInfo.fromHeader, named,
        documented.formats _ default.supported]
      exact builds

/-- What the source delivers for a rendered buffer: its pixels, timing and layout,
and its flags with those of appended memory. -/
structure Restores (format : String) (width height : UInt32) (buffer : Buffer gst)
    (pixels : List UInt8) (delivered : Delivered gst) : Prop where
  pixels : delivered.pixels = pixels
  pts : delivered.pts = buffer.pts
  dts : delivered.dts = buffer.dts
  duration : delivered.duration = buffer.duration
  offset : delivered.offset = buffer.offset
  flags : delivered.flags = gst.appendedFlags ||| buffer.flags.bits
  videoMeta : delivered.videoMeta = some
    { format := .raw format, width := width, height := height
      offset := (defaultLayout format width height).offset
      stride := (defaultLayout format width height).stride }

/-- The layout of the caps is attached to pixels that hold it. -/
theorem videoMeta_deliveredBuffer (documented : gst.Documented)
    (default : DefaultCaps gst caps format width height) {pixels aux : List UInt8}
    (short : aux.length < 2 ^ 32)
    (attaches : gst.attachesVideoMeta
      { format := .raw format, width := width, height := height
        offset := (defaultLayout format width height).offset
        stride := (defaultLayout format width height).stride } pixels.length = true) :
    (deliveredBuffer gst (Sink.defaultFrame format width height buffer pixels aux)).videoMeta = some
      { format := .raw format, width := width, height := height
        offset := (defaultLayout format width height).offset
        stride := (defaultLayout format width height).stride } := by
  have named := Sink.formatName_defaultFrame width height default.supported buffer pixels aux
  have layout := Sink.layoutMeta_defaultFrame default.supported default.someRow default.small
    buffer pixels aux
  have split := (Sink.frameWithAux_split (Sink.capsInfo (defaultLayout format width height))
    buffer pixels short).1
  have known : (CapsInfo.fromHeader (Sink.defaultFrame format width height buffer pixels
      aux).header).videoFormat gst = .raw format := by
    rw [CapsInfo.videoFormat, CapsInfo.fromHeader, named]
    exact documented.formats _ default.supported
  change attachLayout gst (.fromHeader _) (VideoFrame.pixels _).length = _
  simp only [attachLayout, split, known, layout, attaches, if_true]

/-- **The delivered buffer restores the rendered one.** -/
theorem restores_deliveredBuffer (documented : gst.Documented)
    (default : DefaultCaps gst caps format width height)
    {pixels : List UInt8} (sized : pixels.length = (defaultLayout format width height).size)
    {aux : List UInt8} (short : aux.length < 2 ^ 32) :
    Restores format width height buffer pixels
      (deliveredBuffer gst (Sink.defaultFrame format width height buffer pixels aux)) where
  pixels := (Sink.frameWithAux_split _ buffer pixels short).1
  pts := optClock_nsecondsOrNone buffer.pts
  dts := optClock_nsecondsOrNone buffer.dts
  duration := optClock_nsecondsOrNone buffer.duration
  offset := rfl
  flags := by
    change gst.appendedFlags ||| (BufferFlags.fromBitsTruncate
      buffer.flags.bits.toUInt64.toUInt32 : BufferFlags gst).bits = _
    rw [UInt32.toUInt32_toUInt64, BufferFlags.fromBitsTruncate_bits]
  videoMeta := by
    refine videoMeta_deliveredBuffer buffer documented default short ?_
    rw [sized]
    exact default.attaches

end Received

/-- The source after earlier samples. -/
def afterSamples (downstream : gst.Caps → Bool) (frames : List VideoFrame) : State gst :=
  frames.foldl (fun source frame => (takeSample downstream source frame).1) (.started gst)

/-- When downstream takes all caps, the remembered caps are in force. -/
theorem inForce_afterSamples {downstream : gst.Caps → Bool}
    (takes : ∀ caps, downstream caps = true) (frames : List VideoFrame) :
    (afterSamples downstream frames).inForce = (afterSamples downstream frames).lastCaps := by
  have kept : ∀ (source : State gst) (frame : VideoFrame), source.inForce = source.lastCaps →
      (takeSample downstream source frame).1.inForce =
        (takeSample downstream source frame).1.lastCaps := by
    intro source frame settled
    cases live : frame.isEos with
    | true => rwa [takeSample_of_sentinel downstream source live]
    | false =>
        cases accepted : validateGeometry .bits64 frame.header frame.pixelSize with
        | error why => rwa [takeSample_of_rejected downstream source live accepted]
        | ok _ =>
            cases chosen : chosenCaps gst frame with
            | none => rwa [takeSample_of_no_caps downstream source live accepted chosen]
            | some caps =>
                rw [takeSample_of_accepted downstream source live accepted chosen,
                  if_pos (takes caps)]
                split_ifs
                · exact settled
                · rfl
  unfold afterSamples
  induction frames using List.reverseRecOn with
  | nil => rfl
  | append_singleton frames frame ih =>
      rw [List.foldl_append]
      exact kept _ frame ih

/-- **The source inverts the sink.** Once caps with a default layout are
negotiated, every buffer that is rendered, by either path, is received: its
sample is no sentinel, its geometry is accepted, and the buffer delivered for it
has the same pixels, timing, layout and flags, with the flags that appending its
memory sets. When the caps travelled as text they are the ones in force. This
holds after any earlier samples. -/
theorem takeSample_sentFrame (documented : gst.Documented) {caps : gst.Caps} {format : String}
    {width height : UInt32} (default : DefaultCaps gst caps format width height)
    {before sink : Sink.State gst} (negotiated : Sink.setCaps before caps = .ok sink)
    (path : RenderPath) (buffer : Buffer gst) (pixels : List UInt8)
    (sized : pixels.length = (defaultLayout format width height).size)
    (short : (path.auxRegion caps buffer).length < 2 ^ 32) (downstream : gst.Caps → Bool)
    (takes : ∀ caps, downstream caps = true) (earlier : List VideoFrame) :
    ∃ frame next delivered,
      Sink.sentFrame sink buffer (path.registered pixels) (pixels.map some) = some frame ∧
      frame.isEos = false ∧
      validateGeometry .bits64 frame.header frame.pixelSize = .ok () ∧
      takeSample downstream (afterSamples downstream earlier) frame =
        (next, .delivered delivered) ∧
      Restores format width height buffer pixels delivered ∧
      (path.Carries caps → next.inForce = some caps) := by
  rw [Sink.setCaps_eq_ok before default] at negotiated
  cases negotiated
  have live := Sink.frameWithAux_isEos (Sink.capsInfo (defaultLayout format width height)) buffer
    pixels (path.auxRegion caps buffer)
  have split := (Sink.frameWithAux_split (Sink.capsInfo (defaultLayout format width height)) buffer
    pixels short).1
  have accepted := Sink.accepted_defaultFrame default.supported default.someRow default.small
    buffer pixels (path.auxRegion caps buffer)
  rw [← sized, ← split, VideoFrame.length_pixels] at accepted
  have restores := restores_deliveredBuffer buffer documented default sized short
  obtain ⟨travelled, chosen, some⟩ := chosenCaps_defaultFrame buffer documented default pixels short
  have settled := inForce_afterSamples takes earlier
  have taken := takeSample_of_accepted downstream (afterSamples downstream earlier) live accepted
    some
  rw [if_pos (takes chosen)] at taken
  have sent := Sink.sentFrame_of_path (Sink.capsInfo (defaultLayout format width height)) caps path
    buffer fun _ => sized
  by_cases remembered : (afterSamples downstream earlier).lastCaps = Option.some chosen
  · rw [if_pos remembered] at taken
    refine ⟨_, _, _, sent, live, accepted, taken, restores, fun carries => ?_⟩
    have same := (travelled carries).symm.trans some
    rw [settled, remembered, same]
  · rw [if_neg remembered] at taken
    refine ⟨_, _, _, sent, live, accepted, taken, restores, fun carries => ?_⟩
    exact ((travelled carries).symm.trans some).symm

theorem onePixel_defaultCaps :
    DefaultCaps twoCapsGst (TwoCaps.onePixel : twoCapsGst.Caps) "BGR" 1 1 where
  supported := by decide
  someRow := by decide
  laidOut := rfl
  small := by decide
  parses := by decide
  builds := by decide
  attaches := by decide

theorem takeSample_sentFrame_onePixel :
    ∃ frame next delivered,
      Sink.sentFrame ⟨some (Sink.capsInfo (defaultLayout "BGR" 1 1)), some TwoCaps.onePixel⟩
        (plainBuffer twoCapsGst) none ([1, 2, 3, 4].map some) = some frame ∧
      takeSample (fun _ => true) (.started twoCapsGst) frame = (next, .delivered delivered) ∧
      delivered.pixels = [1, 2, 3, 4] ∧ next.inForce = some TwoCaps.onePixel := by
  obtain ⟨frame, next, delivered, sent, -, -, taken, restores, inForce⟩ :=
    takeSample_sentFrame twoCapsGst_documented onePixel_defaultCaps
      (Sink.setCaps_eq_ok (.started _) onePixel_defaultCaps) .copy
      (plainBuffer twoCapsGst) [1, 2, 3, 4] (by decide) (by decide) (fun _ => true)
      (fun _ => rfl) []
  exact ⟨frame, next, delivered, sent, taken, restores.pixels,
    inForce ⟨by decide, trivial⟩⟩

/-- A buffer without flags comes back with the flag of appended memory. -/
theorem takeSample_sentFrame_addsFlag :
    ∃ frame next delivered,
      Sink.sentFrame ⟨some (Sink.capsInfo (defaultLayout "BGR" 1 1)), some TwoCaps.onePixel⟩
        (plainBuffer twoCapsGst) none ([1, 2, 3, 4].map some) = some frame ∧
      takeSample (fun _ => true) (.started twoCapsGst) frame = (next, .delivered delivered) ∧
      (plainBuffer twoCapsGst).flags.bits = 0 ∧ delivered.flags = 0x4000 :=
  ⟨_, _, _, rfl, rfl, rfl, rfl⟩

end Source

end GstIceoryx2.Element
