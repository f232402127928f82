import GstIceoryx2.Element.CapsAgreement
import GstIceoryx2.Element.Receivers
import GstIceoryx2.Element.WireSamples
import GstIceoryx2.Python.PackedView
import GstIceoryx2.Python.Publish

/-!
# Elements and packages on one service

The elements and the packages of both languages publish on the same services and
receive from them, so a frame of one has to be understood by the others.

A frame of a package is delivered by the source exactly when the header that the
package made fits its pixels, there are caps for it and downstream takes them
(`packaged_delivered_iff`). The buffer has the timing of its parameters, under the caps
that are built for it. In the other direction a rendered buffer of a packed format is
shown by both packages row by row, padding left out, and one of a planar format by
neither (`rendered_shown_iff`).

The layout that is attached to a delivered buffer has signed strides. It stays inside
the buffer all the same (`attached_layout_inside`). The views of the packages leave the
declared offset out, and they agree with the layout exactly when the plane is where they
look for it (`shown_as_declared_iff`).
-/

set_option autoImplicit false

namespace GstIceoryx2.Element

open Foundations Video

variable {gst : Gst}

/-! ## Frames of the packages -/

/-- What a publisher of a language puts on the ring. -/
def publishedFrame (language : Language) (faults : Faults) (pixels : List UInt8)
    (params : FrameParams) : Option VideoFrame :=
  match language with
  | .rust => (Video.publishFrame faults pixels params).frame
  | .python => (Python.publishFrame faults pixels params).frame

/-- The distance of the rows of a frame with a number of bytes of pixels. -/
def rowStep (n : Nat) (params : FrameParams) : UInt32 :=
  params.stride0.getD (UInt32.ofNat (if params.height > 0 then n / params.height.toNat else n))

/-- The header fits the pixels: the frame has the planes of its format, and its rows are
in the pixels. -/
structure FitsPixels (n : Nat) (params : FrameParams) : Prop where
  planes : ∃ heights, planeHeights params.format params.height = some heights ∧
    heights.length = params.nPlanes.toNat
  rows : (rowStep n params).toNat * params.height.toNat ≤ n

/-- A buffer with the pixels, and the timing of the parameters. -/
structure CarriesParams (pixels : List UInt8) (params : FrameParams)
    (delivered : Source.Delivered gst) : Prop where
  pixels : delivered.pixels = pixels
  pts : delivered.pts = Source.optClock params.pts
  dts : delivered.dts = none
  duration : delivered.duration = none
  offset : delivered.offset = params.offset
  flags : delivered.flags = gst.appendedFlags
  metas : delivered.metas = []

section Packaged

variable {language : Language} {faults : Faults} {pixels : List UInt8} {params : FrameParams}
  {frame : VideoFrame} {n : Nat}

/-- Both languages put the same on the ring. -/
theorem eq_of_publishedFrame (noNul : 0 ∉ asBytes params.format)
    (short : (asBytes params.format).length < formatLen)
    (published : publishedFrame language faults pixels params = some frame) :
    frame = ⟨frameHeader pixels.length params, pixels⟩ := by
  cases language with
  | rust => exact eq_of_published published
  | python =>
      exact Python.eq_of_header_of_published (Python.frameHeader_of_short noNul short) published

/-- The rows that are stepped over by a derived stride are in the pixels. -/
theorem derived_rows (derived : params.stride0 = none) :
    (rowStep n params).toNat * params.height.toNat ≤ n := by
  by_cases someRow : params.height > 0
  · rw [rowStep, derived, Option.getD_none, if_pos someRow, UInt32.toNat_ofNat']
    exact Nat.le_trans (Nat.mul_le_mul_right _ (Nat.mod_le _ _)) (Nat.div_mul_le_self _ _)
  · have noRow : params.height.toNat = 0 := by
      rw [gt_iff_lt, UInt32.lt_iff_toNat_lt] at someRow
      exact Nat.eq_zero_of_not_pos someRow
    rw [noRow, Nat.mul_zero]
    exact Nat.zero_le _

theorem strideAt_frameHeader (n : Nat) (params : FrameParams) :
    (frameHeader n params).strideAt 0 = (rowStep n params).toNat := rfl

/-- The first plane has all rows. -/
theorem exists_planeHeights_cons {format : String} {height : UInt32} {heights : List UInt32}
    (known : planeHeights format height = some heights) :
    ∃ others, heights = height :: others := by
  unfold planeHeights at known
  split_ifs at known
  · cases known
    exact ⟨_, rfl⟩
  · cases known
    exact ⟨_, rfl⟩
  · cases known
    exact ⟨_, rfl⟩

/-- **The validator accepts the header of a package exactly when it fits the pixels.** The
planes behind the first one have no stride and no offset. -/
theorem accepted_frameHeader_iff (noNul : 0 ∉ asBytes params.format)
    (short : (asBytes params.format).length < formatLen) (addressable : n < 2 ^ 64) :
    validateGeometry .bits64 (frameHeader n params) n = .ok () ↔ FitsPixels n params := by
  have name : (frameHeader n params).formatName = params.format :=
    formatName_frameHeader short noNul
  have known_iff : ∀ heights, planeHeights (frameHeader n params).formatName
      (frameHeader n params).height = some heights ↔
        planeHeights params.format params.height = some heights := by
    intro heights
    rw [name]
    rfl
  rw [validateGeometry_eq_ok_iff addressable]
  constructor
  · intro declared
    obtain ⟨heights, known⟩ := Option.isSome_iff_exists.mp
      ((planeHeights_isSome_iff params.height).mpr (name ▸ declared.known))
    obtain ⟨same, -, -⟩ := length_planeHeights (frameHeader n params).width
      ((known_iff heights).mpr known)
    have planes := planes_of_heights ((known_iff heights).mpr known)
    refine ⟨⟨heights, known, ?_⟩, ?_⟩
    · rw [← length_planesFrom same, ← planes]
      exact declared.count
    · obtain ⟨others, rfl⟩ := exists_planeHeights_cons known
      obtain ⟨rowLength, lengths, split⟩ := List.exists_cons_of_length_eq_add_one same.symm
      have first := declared.fits
        ⟨(frameHeader n params).offsetAt 0, (frameHeader n params).strideAt 0,
          params.height.toNat, rowLength⟩
        (by rw [planes, split, planesFrom]; exact List.mem_cons_self)
      rw [StridedPlane.extent, offsetAt_frameHeader, Nat.zero_add, strideAt_frameHeader] at first
      exact first
  · rintro ⟨⟨heights, known, count⟩, rows⟩
    obtain ⟨same, -, -⟩ := length_planeHeights (frameHeader n params).width
      ((known_iff heights).mpr known)
    have planes := planes_of_heights ((known_iff heights).mpr known)
    refine ⟨?_, ?_, ?_⟩
    · rw [name, ← planeHeights_isSome_iff params.height, known]
      rfl
    · rw [planes, length_planesFrom same]
      exact count
    · intro plane member
      rw [planes] at member
      obtain ⟨position, inside, extent⟩ := exists_of_mem_planesFrom member
      rw [extent, offsetAt_frameHeader, Nat.zero_add, Nat.zero_add]
      cases position with
      | zero =>
          obtain ⟨others, rfl⟩ := exists_planeHeights_cons known
          rw [strideAt_frameHeader]
          exact rows
      | succ position =>
          rw [strideAt_succ_frameHeader, Nat.zero_mul]
          exact Nat.zero_le _

theorem pixelSize_frameHeader (pixels : List UInt8) (params : FrameParams) :
    (⟨frameHeader pixels.length params, pixels⟩ : VideoFrame).pixelSize = pixels.length :=
  Nat.sub_zero _

/-- A frame of a package is no sentinel. -/
theorem isEos_frameHeader (pixels : List UInt8) (params : FrameParams) :
    (⟨frameHeader pixels.length params, pixels⟩ : VideoFrame).isEos = false := by
  change ((0 : UInt64) &&& headerFlagEos != 0) = false
  decide

/-- No caps travel with a frame of a package: they are built. -/
theorem chosenCaps_frameHeader (documented : gst.Documented)
    (name : (frameHeader pixels.length params).formatName = params.format)
    (supported : params.format ∈ supportedFormats) :
    Source.chosenCaps gst ⟨frameHeader pixels.length params, pixels⟩ =
      gst.buildCaps (.raw params.format) params.width params.height := by
  have none : (Source.auxOf gst ⟨frameHeader pixels.length params, pixels⟩).caps = none := by
    rw [Source.auxOf_eq, (regions_frameHeader pixels params).2]
    rfl
  simp only [Source.chosenCaps, none, Source.CapsInfo.toCaps, Source.CapsInfo.videoFormat,
    Source.CapsInfo.fromHeader, name, documented.formats _ supported]
  rfl

theorem carriesParams_deliveredBuffer (gst : Gst) (pixels : List UInt8) (params : FrameParams) :
    CarriesParams pixels params
      (Source.deliveredBuffer gst ⟨frameHeader pixels.length params, pixels⟩) where
  pixels := (regions_frameHeader pixels params).1
  pts := rfl
  dts := Source.optClock_nsecondsOrNone none
  duration := Source.optClock_nsecondsOrNone none
  offset := rfl
  flags := by
    change gst.appendedFlags ||| ((0 : UInt64).toUInt32 &&& gst.knownFlags) = _
    simp
  metas := by
    change List.filter _ (Source.auxOf gst _).metas = []
    rw [Source.auxOf_eq, (regions_frameHeader pixels params).2]
    rfl

end Packaged

/-- **A frame of a package is delivered exactly when its header fits its pixels, there are
caps for it, and downstream takes them.** Caps that are those of the sample before are not
offered again. For a frame of either language, of any format name that fits the header,
and after any earlier samples: what is delivered has the pixels, the time stamp and the
offset of the parameters, and, when downstream takes all caps, is delivered under the caps
for its format and size. -/
theorem packaged_delivered_iff (documented : gst.Documented) (language : Language)
    (faults : Faults) (pixels : List UInt8) (params : FrameParams) {frame : VideoFrame}
    (noNul : 0 ∉ asBytes params.format) (short : (asBytes params.format).length < formatLen)
    (addressable : pixels.length < 2 ^ 64)
    (published : publishedFrame language faults pixels params = some frame)
    (downstream : gst.Caps → Bool) (earlier : List VideoFrame) :
    ((∃ next delivered, Source.takeSample downstream (Source.afterSamples downstream earlier)
          frame = (next, .delivered delivered)) ↔
        FitsPixels pixels.length params ∧
          ∃ caps, gst.buildCaps (.raw params.format) params.width params.height = some caps ∧
            ((Source.afterSamples downstream earlier).lastCaps = some caps ∨
              downstream caps = true)) ∧
      ∀ next delivered, Source.takeSample downstream (Source.afterSamples downstream earlier)
          frame = (next, .delivered delivered) →
        CarriesParams pixels params delivered ∧
          ∃ caps, gst.buildCaps (.raw params.format) params.width params.height = some caps ∧
            ((∀ offered, downstream offered = true) → next.inForce = some caps) := by
  obtain rfl := eq_of_publishedFrame noNul short published
  have name : (frameHeader pixels.length params).formatName = params.format :=
    formatName_frameHeader short noNul
  have accepted_iff := accepted_frameHeader_iff noNul short addressable
  have caps_of_accepted : validateGeometry .bits64 (frameHeader pixels.length params)
      pixels.length = .ok () →
        Source.chosenCaps gst ⟨frameHeader pixels.length params, pixels⟩ =
          gst.buildCaps (.raw params.format) params.width params.height :=
    fun accepted => chosenCaps_frameHeader documented name (name ▸ supported_of_accepted accepted)
  constructor
  · constructor
    · rintro ⟨next, delivered, taken⟩
      obtain ⟨-, accepted, -, caps, chosen, either⟩ := Source.takeSample_eq_delivered_iff.mp taken
      rw [pixelSize_frameHeader] at accepted
      rw [caps_of_accepted accepted] at chosen
      refine ⟨accepted_iff.mp accepted, caps, chosen, ?_⟩
      rcases either with ⟨remembered, -⟩ | ⟨-, takes, -⟩
      · exact .inl remembered
      · exact .inr takes
    · rintro ⟨fits, caps, builds, either⟩
      have accepted := accepted_iff.mpr fits
      rw [← caps_of_accepted accepted] at builds
      have taken := Source.takeSample_of_accepted downstream
        (Source.afterSamples downstream earlier) (isEos_frameHeader pixels params) accepted builds
      rw [taken]
      split_ifs with remembered takes
      · exact ⟨_, _, rfl⟩
      · exact ⟨_, _, rfl⟩
      · exact absurd either (not_or.mpr ⟨remembered, takes⟩)
  · intro next delivered taken
    obtain ⟨-, accepted, rfl, caps, chosen, either⟩ :=
      Source.takeSample_eq_delivered_iff.mp taken
    rw [pixelSize_frameHeader] at accepted
    rw [caps_of_accepted accepted] at chosen
    refine ⟨carriesParams_deliveredBuffer gst pixels params, caps, chosen, fun takes => ?_⟩
    rcases either with ⟨remembered, rfl⟩ | ⟨-, -, rfl⟩
    · exact (Source.inForce_afterSamples takes earlier).trans remembered
    · rfl

/-- One pixel with a byte of padding, from Python. -/
theorem packaged_delivered_iff_onePixel :
    ∃ next delivered, Source.takeSample (fun _ => true) (.started twoCapsGst)
        ⟨frameHeader 4 { FrameParams.default with width := 1, height := 1, pts := 40 },
          [1, 2, 3, 4]⟩ = (next, .delivered delivered) ∧
      delivered.pixels = [1, 2, 3, 4] ∧ next.inForce = some TwoCaps.onePixel := by
  obtain ⟨delivers, carries⟩ := packaged_delivered_iff twoCapsGst_documented .python .none
    [1, 2, 3, 4] { FrameParams.default with width := 1, height := 1, pts := 40 } (by decide)
    (by decide) (by decide) rfl (fun _ => true) []
  have same : twoCapsGst.buildCaps (.raw "BGR") 1 1 = some TwoCaps.onePixel := rfl
  obtain ⟨next, delivered, taken⟩ := delivers.mpr
    ⟨⟨⟨[1], by decide, by decide⟩, derived_rows rfl⟩, TwoCaps.onePixel, same, .inr rfl⟩
  obtain ⟨params, caps, built, inForce⟩ := carries next delivered taken
  exact ⟨next, delivered, taken, params.pixels,
    (inForce fun _ => rfl).trans (built.symm.trans same)⟩

/-! ## Frames of the sink -/

section Rendered

variable {caps : gst.Caps} {format : String} {width height : UInt32}

/-- A supported format has three channels when it is packed, and no view otherwise. -/
theorem formatChannels_supported (supported : format ∈ supportedFormats) (channels : Nat) :
    formatChannels format = some channels ↔ IsPacked3 format ∧ channels = 3 := by
  rcases supported_cases supported with packed | rfl | rfl
  · rw [IsPacked3.formatChannels packed, Option.some.injEq]
    exact ⟨fun same => ⟨packed, same.symm⟩, fun both => both.2.symm⟩
  · have none : formatChannels "I420" = none := by decide
    rw [none]
    exact iff_of_false nofun fun both => absurd both.1 (by unfold IsPacked3; decide)
  · have none : formatChannels "NV12" = none := by decide
    rw [none]
    exact iff_of_false nofun fun both => absurd both.1 (by unfold IsPacked3; decide)

/-- The default layout of a packed format has one plane of padded rows. -/
theorem defaultPlanes_packed (packed : IsPacked3 format) (width height : Nat) :
    defaultPlanes format width height =
      ([roundUp4 (width * 3)], [0], roundUp4 (width * 3) * height) := by
  rcases packed with rfl | rfl
  · rfl
  · rfl

theorem le_roundUp4 (n : Nat) : n ≤ roundUp4 n := by
  rw [roundUp4]
  omega

/-- The rows of a rendered frame of a packed format are their padded length apart. -/
theorem rowStride_defaultFrame (packed : IsPacked3 format)
    (default : DefaultCaps gst caps format width height) (buffer : Buffer gst)
    (pixels aux : List UInt8) :
    rowStride (Sink.defaultFrame format width height buffer pixels aux).header 3 =
      roundUp4 (width.toNat * 3) := by
  have planes := defaultPlanes_packed packed width.toNat height.toNat
  have counted : 0 < (defaultLayout format width height).stride.length := by
    simp only [defaultLayout, planes, List.map_cons, List.length_cons]
    exact Nat.succ_pos _
  have stride := (Sink.header_planes default.supported default.someRow default.small buffer pixels
    aux counted).2
  rw [planes, List.getD_cons_zero] at stride
  have columns : (Sink.defaultFrame format width height buffer pixels aux).header.width = width :=
    rfl
  rw [rowStride, stride0, stride, columns]
  split_ifs with padded
  · rfl
  · have whole := le_roundUp4 (width.toNat * 3)
    omega

theorem viewFits_defaultFrame (packed : IsPacked3 format)
    (default : DefaultCaps gst caps format width height) (buffer : Buffer gst)
    {pixels : List UInt8} (sized : pixels.length = (defaultLayout format width height).size)
    (aux : List UInt8) :
    ViewFits (Sink.defaultFrame format width height buffer pixels aux).header 3 pixels := by
  have stride := rowStride_defaultFrame packed default buffer pixels aux
  constructor
  · rw [stride]
    exact le_roundUp4 _
  · rw [stride, sized]
    simp only [defaultLayout, defaultPlanes_packed packed]
    exact Nat.le_refl _

/-- Both languages split the pixels off a rendered frame. -/
theorem regions_defaultFrame (buffer : Buffer gst) (pixels : List UInt8) {aux : List UInt8}
    (short : aux.length < 2 ^ 32) :
    (Sink.defaultFrame format width height buffer pixels aux).pixels = pixels ∧
      (Python.VideoFrame.init
        (Sink.defaultFrame format width height buffer pixels aux)).pixels.contents = pixels := by
  obtain ⟨region, -⟩ := Sink.frameWithAux_split
    (Sink.capsInfo (defaultLayout format width height)) buffer pixels short
  refine ⟨region, ?_⟩
  have declared : (UInt32.ofNat aux.length).toNat = aux.length := UInt32.toNat_ofNat_of_lt short
  have holds : (UInt32.ofNat aux.length).toNat ≤ (pixels ++ aux).length := by
    rw [declared, List.length_append]
    exact Nat.le_add_left _ _
  rw [(Python.VideoFrame.regions_init holds).2.1]
  exact region

/-- A rendered frame has the view of its three channels, or none. -/
theorem shown_defaultFrame_iff (default : DefaultCaps gst caps format width height)
    (buffer : Buffer gst) {pixels : List UInt8}
    (sized : pixels.length = (defaultLayout format width height).size) (aux : List UInt8)
    (view : StridedView UInt8) :
    let header := (Sink.defaultFrame format width height buffer pixels aux).header
    (∃ channels, formatChannels header.formatName = some channels ∧
        ViewFits header channels pixels ∧ view = packedView header channels pixels) ↔
      IsPacked3 format ∧ view = packedView header 3 pixels := by
  intro header
  have name : header.formatName = format :=
    Sink.formatName_defaultFrame width height default.supported buffer pixels aux
  rw [name]
  constructor
  · rintro ⟨channels, known, -, rfl⟩
    obtain ⟨packed, rfl⟩ := (formatChannels_supported default.supported channels).mp known
    exact ⟨packed, rfl⟩
  · rintro ⟨packed, rfl⟩
    exact ⟨3, packed.formatChannels, viewFits_defaultFrame packed default buffer sized _, rfl⟩

/-- An element of the view of a rendered frame. -/
theorem packedView_defaultFrame_get? (packed : IsPacked3 format)
    (default : DefaultCaps gst caps format width height) (buffer : Buffer gst)
    {pixels : List UInt8} (sized : pixels.length = (defaultLayout format width height).size)
    (aux : List UInt8) {y x c : Nat} (inRows : y < height.toNat) (inRow : x < width.toNat)
    (inPixel : c < 3) :
    y * roundUp4 (width.toNat * 3) + x * 3 + c < pixels.length ∧
      (packedView (Sink.defaultFrame format width height buffer pixels aux).header 3 pixels).get?
          y x c = pixels[y * roundUp4 (width.toNat * 3) + x * 3 + c]? := by
  have element := (viewFits_defaultFrame packed default buffer sized aux).packedView_get?
    inRows inRow inPixel
  rwa [rowStride_defaultFrame packed default] at element

end Rendered

/-- What is made exactly of one view under a condition is made exactly when that holds. -/
theorem exists_view_iff {made : StridedView UInt8 → Prop} {condition : Prop}
    {shown : StridedView UInt8} (only : ∀ view, made view ↔ condition ∧ view = shown) :
    (∃ view, made view) ↔ condition := by
  simp only [only, exists_and_left, exists_eq, and_true]

/-- **A rendered buffer is shown by both packages exactly when its format is packed**, given
that it has a pixel, which Python does not ask. Once caps with a default layout are
negotiated, and by either path: what is shown has the size of the caps, and every element
is the byte of the buffer at its row, pixel and channel, where the rows are padded to four
bytes. -/
theorem rendered_shown_iff (ndarray : Ndarray) (numpy : Python.Numpy)
    (fromShape : ndarray.ShowsPixels) (asStrided : numpy.Documented) {caps : gst.Caps}
    {format : String} {width height : UInt32}
    (default : DefaultCaps gst caps format width height) {before sink : Sink.State gst}
    (negotiated : Sink.setCaps before caps = .ok sink) (path : RenderPath) (buffer : Buffer gst)
    (pixels : List UInt8) (sized : pixels.length = (defaultLayout format width height).size)
    (short : (path.auxRegion caps buffer).length < 2 ^ 32) :
    ∃ frame, Sink.sentFrame sink buffer (path.registered pixels) (pixels.map some) = some frame ∧
      (0 < width.toNat →
        ((∃ view, headerPixelsToNdarrayView ndarray .bits64 frame.header frame.pixels =
          .ok view) ↔ IsPacked3 format)) ∧
      ((∃ view, Python.headerPixelsToNumpyView numpy frame.header
          (Python.VideoFrame.init frame).pixels.contents = .ok view) ↔ IsPacked3 format) ∧
      ∀ view,
        (headerPixelsToNdarrayView ndarray .bits64 frame.header frame.pixels = .ok view ∨
          Python.headerPixelsToNumpyView numpy frame.header
            (Python.VideoFrame.init frame).pixels.contents = .ok view) →
        (view.height = height.toNat ∧ view.width = width.toNat ∧ view.channels = 3) ∧
        ∀ y x c, y < height.toNat → x < width.toNat → c < 3 →
          y * roundUp4 (width.toNat * 3) + x * 3 + c < pixels.length ∧
            view.get? y x c = pixels[y * roundUp4 (width.toNat * 3) + x * 3 + c]? := by
  rw [Sink.setCaps_eq_ok before default] at negotiated
  cases negotiated
  have sent := Sink.sentFrame_of_path (Sink.capsInfo (defaultLayout format width height)) caps path
    buffer fun _ => sized
  obtain ⟨region, pythonRegion⟩ := regions_defaultFrame buffer pixels short
  have addressable : pixels.length < 2 ^ 64 := by
    rw [sized]
    exact Nat.lt_trans default.small (by decide)
  have someRow : 0 < height.toNat :=
    Nat.pos_of_ne_zero fun flat => default.someRow (UInt32.toNat_inj.mp flat)
  have shown := shown_defaultFrame_iff default buffer sized (path.auxRegion caps buffer)
  have python := fun view =>
    (Python.headerPixelsToNumpyView_eq_ok_iff asStrided).trans (shown view)
  refine ⟨_, sent, ?_, ?_, ?_⟩
  · intro someColumn
    rw [region]
    exact exists_view_iff fun view =>
      (headerPixelsToNdarrayView_eq_ok_iff_of_pixel fromShape someRow someColumn
        addressable).trans (shown view)
  · rw [pythonRegion]
    exact exists_view_iff python
  · intro view made
    rw [region, pythonRegion, python] at made
    have either : IsPacked3 format ∧ view = _ :=
      made.elim (fun rust => (shown view).mp (packedView_of_ok addressable rust)) id
    obtain ⟨packed, rfl⟩ := either
    exact ⟨⟨rfl, rfl, rfl⟩, fun _ _ _ inRows inRow inPixel =>
      packedView_defaultFrame_get? packed default buffer sized _ inRows inRow inPixel⟩

/-- One pixel with a byte of padding, from a loan with a small reserve. -/
theorem rendered_shown_iff_onePixel :
    ∃ frame view, Sink.sentFrame ⟨some (Sink.capsInfo (defaultLayout "BGR" 1 1)),
          some TwoCaps.onePixel⟩ (plainBuffer twoCapsGst)
          (some ([1, 2, 3, 4].map some ++ [none, none])) ([1, 2, 3, 4].map some) = some frame ∧
      headerPixelsToNdarrayView sliceNdarray .bits64 frame.header frame.pixels = .ok view ∧
      view.get? 0 0 2 = some 3 := by
  obtain ⟨frame, sent, rust, -, shown⟩ := rendered_shown_iff sliceNdarray
    Python.checkingNumpy sliceNdarray_checks.showsPixels Python.checkingNumpy_documented
    Source.onePixel_defaultCaps
    (Sink.setCaps_eq_ok (.started _) Source.onePixel_defaultCaps)
    (.zeroCopy [none, none]) (plainBuffer twoCapsGst) [1, 2, 3, 4] (by decide) (by decide)
  obtain ⟨view, made⟩ := (rust (by decide)).mpr (.inl rfl)
  exact ⟨frame, view, sent, made,
    ((shown view (.inl made)).2 0 0 2 (by decide) (by decide) (by decide)).2⟩

/-! ## The attached layout -/

theorem toInt_toInt32 {n : UInt32} (small : n.toNat < 2 ^ 31) : n.toInt32.toInt = n.toNat :=
  BitVec.toInt_eq_toNat_of_lt (by change 2 * n.toNat < 2 ^ 32; omega)

/-- An entry of a cut array. -/
theorem getD_map_take {α : Type} (entries : Vector UInt32 maxPlanes) (cast : UInt32 → α)
    (fallback : α) {count plane : Nat} (inside : plane < count) (few : count ≤ maxPlanes) :
    ((entries.toList.take count).map cast).getD plane fallback =
      cast (entries[plane]?.getD 0) := by
  have bound : plane < maxPlanes := Nat.lt_of_lt_of_le inside few
  have taken : plane < ((entries.toList.take count).map cast).length := by
    rw [List.length_map, List.length_take, Vector.length_toList]
    exact Nat.lt_min.mpr ⟨inside, bound⟩
  rw [List.getD_eq_getElem _ _ taken, Vector.getElem?_eq_getElem bound, Option.getD_some,
    List.getElem_map, List.getElem_take, Vector.getElem_toList]

/-- The room of every plane of a declared layout is in the pixels. -/
theorem extent_le_of_declared {header : VideoFrameHeader} {pixelSize plane : Nat}
    (declared : header.Declared pixelSize) {heights : List UInt32}
    (known : planeHeights header.formatName header.height = some heights)
    (inside : plane < heights.length) :
    header.offsetAt plane + header.strideAt plane * (heights.getD plane 0).toNat ≤ pixelSize := by
  obtain ⟨same, -, -⟩ := length_planeHeights header.width known
  obtain ⟨entry, member, extent⟩ := exists_mem_planesFrom header 0 same inside
  have fits := declared.fits entry (by rw [planes_of_heights known]; exact member)
  rwa [extent, Nat.zero_add] at fits

/-- The layout that is attached to an accepted sample: the planes of its format, as the
header has them. -/
theorem layoutMeta_of_accepted {header : VideoFrameHeader} {pixelSize : Nat}
    (representable : pixelSize < 2 ^ 64)
    (accepted : validateGeometry .bits64 header pixelSize = .ok ()) {heights : List UInt32}
    (known : planeHeights header.formatName header.height = some heights) (format : VideoFormat) :
    let layout := Source.layoutMeta (.fromHeader header) format
    layout.offset.length = heights.length ∧ layout.stride.length = heights.length ∧
      ∀ plane < heights.length,
        layout.offset.getD plane 0 = header.offsetAt plane ∧
          (layout.stride.getD plane 0).toInt =
            (header.stride[plane]?.getD 0).toInt32.toInt := by
  have declared := (validateGeometry_eq_ok_iff representable).mp accepted
  obtain ⟨same, some, few⟩ := length_planeHeights header.width known
  have count : header.nPlanes.toNat = heights.length := by
    rw [← declared.count, planes_of_heights known, length_planesFrom same]
  have few' : heights.length ≤ maxPlanes := Nat.le_trans few (by decide)
  have clamped : max 1 (min header.nPlanes.toNat maxPlanes) = heights.length := by
    rw [count, Nat.min_eq_left few', Nat.max_eq_right some]
  simp only [Source.layoutMeta, Source.CapsInfo.fromHeader, clamped, List.length_map,
    List.length_take, Vector.length_toList, Nat.min_eq_left few', true_and]
  intro plane inside
  rw [getD_map_take _ _ _ inside few', getD_map_take _ _ _ inside few']
  exact ⟨rfl, rfl⟩

/-- A layout that is attached for a supported format is that of the header. -/
theorem eq_layoutMeta_of_attached (documented : gst.Documented) {header : VideoFrameHeader}
    (supported : header.formatName ∈ supportedFormats) {size : Nat} {layout : VideoMeta}
    (attached : Source.attachLayout gst (.fromHeader header) size = some layout) :
    layout = Source.layoutMeta (.fromHeader header) (.raw header.formatName) := by
  have format : (Source.CapsInfo.fromHeader header).videoFormat gst = .raw header.formatName :=
    documented.formats _ supported
  simp only [Source.attachLayout, format] at attached
  split_ifs at attached
  exact (Option.some.inj attached).symm

/-- The rows of a plane whose room is in the pixels end in them, and are not further apart
than there are bytes. -/
theorem row_of_extent {offset stride rows row size : Nat} (inRows : row < rows)
    (fits : offset + stride * rows ≤ size) :
    stride ≤ size ∧ offset + (row + 1) * stride ≤ size := by
  have whole : (row + 1) * stride ≤ stride * rows := by
    rw [Nat.mul_comm]
    exact Nat.mul_le_mul_left _ inRows
  have one : stride ≤ (row + 1) * stride := Nat.le_mul_of_pos_left _ (Nat.succ_pos _)
  omega

/-- **The attached layout stays inside the buffer.** When a layout is attached to a
delivered buffer of less than 2 GiB, it has the planes of the format, and every row of a
plane starts at its offset or after it and ends, one stride on, inside the buffer. So no
stride of a plane with rows was turned negative. -/
theorem attached_layout_inside (documented : gst.Documented) {downstream : gst.Caps → Bool}
    {state next : Source.State gst} {frame : VideoFrame} {delivered : Source.Delivered gst}
    (taken : Source.takeSample downstream state frame = (next, .delivered delivered))
    {layout : VideoMeta} (attached : delivered.videoMeta = some layout)
    (small : delivered.pixels.length < 2 ^ 31) :
    (layout.format = .raw frame.header.formatName ∧ layout.width = frame.header.width ∧
        layout.height = frame.header.height) ∧
      ∃ heights, planeHeights frame.header.formatName layout.height = some heights ∧
        layout.offset.length = heights.length ∧ layout.stride.length = heights.length ∧
        ∀ plane < heights.length, ∀ row < (heights.getD plane 0).toNat,
          0 ≤ (layout.stride.getD plane 0).toInt ∧
            (layout.offset.getD plane 0 : Int) + (row + 1) * (layout.stride.getD plane 0).toInt ≤
              delivered.pixels.length := by
  obtain ⟨-, accepted, rfl, -⟩ := Source.takeSample_eq_delivered_iff.mp taken
  have supported := supported_of_accepted accepted
  have size : frame.pixels.length = frame.pixelSize := frame.length_pixels
  change frame.pixels.length < 2 ^ 31 at small
  have representable : frame.pixelSize < 2 ^ 64 := Nat.lt_trans (size ▸ small) (by decide)
  have declared := (validateGeometry_eq_ok_iff representable).mp accepted
  obtain ⟨heights, known⟩ := Option.isSome_iff_exists.mp
    ((planeHeights_isSome_iff frame.header.height).mpr supported)
  obtain ⟨offsets, strides, entries⟩ := layoutMeta_of_accepted representable accepted known
    (.raw frame.header.formatName)
  obtain rfl := eq_layoutMeta_of_attached documented supported attached
  refine ⟨⟨rfl, rfl, rfl⟩, heights, known, offsets, strides, ?_⟩
  intro plane inside row inRows
  obtain ⟨offset, stride⟩ := entries plane inside
  change _ ∧ _ ≤ (frame.pixels.length : Int)
  obtain ⟨strideInside, rowInside⟩ :=
    row_of_extent inRows (extent_le_of_declared declared known inside)
  have strideSmall : frame.header.strideAt plane < 2 ^ 31 := by omega
  rw [offset, stride, size, toInt_toInt32 strideSmall]
  exact ⟨Int.natCast_nonneg _, by exact_mod_cast rowInside⟩

/-- One pixel with a byte of padding. -/
theorem attached_layout_inside_onePixel :
    ∃ next delivered layout, Source.takeSample (fun _ => true) (.started twoCapsGst)
        ⟨onePixelHeader 4, [1, 2, 3, 4]⟩ = (next, .delivered delivered) ∧
      delivered.videoMeta = some layout ∧
      (layout.offset.getD 0 0 : Int) + (0 + 1) * (layout.stride.getD 0 0).toInt ≤ 4 := by
  have taken : Source.takeSample (fun _ => true) (.started twoCapsGst)
      ⟨onePixelHeader 4, [1, 2, 3, 4]⟩ = (_, .delivered _) := rfl
  obtain ⟨-, heights, known, -, -, inside⟩ :=
    attached_layout_inside twoCapsGst_documented taken rfl (by decide)
  have one : heights = [1] := Option.some.inj (known.symm.trans (by decide))
  subst one
  exact ⟨_, _, _, taken, rfl, (inside 0 (by decide) 0 (by decide)).2⟩

/-! ## Views and the declared plane -/

/-- A reader shows every payload of a length as the header declares its first plane: from
the offset, by the stride. -/
def ShowsDeclared {ε : Type} (reads : List UInt8 → Except ε (StridedView UInt8))
    (header : VideoFrameHeader) (channels n : Nat) : Prop :=
  ∀ pixels, pixels.length = n → ∃ view, reads pixels = .ok view ∧
    ∀ y x c, y < header.height.toNat → x < header.width.toNat → c < channels →
      view.get? y x c =
        pixels[header.offsetAt 0 + y * header.strideAt 0 + x * channels + c]?

/-- The first plane is where the views look for it: at the start of the pixels, with a
stride if there is a second row. -/
def DeclaredAtStart (header : VideoFrameHeader) : Prop :=
  header.offsetAt 0 = 0 ∧ (header.strideAt 0 ≠ 0 ∨ header.height.toNat = 1)

section Declared

variable {header : VideoFrameHeader} {channels n : Nat} {pixels : List UInt8}

/-- The element of a view of a plane at the start is the declared one. -/
theorem packedView_declared (atStart : DeclaredAtStart header)
    (fits : ViewFits header channels pixels) {y x c : Nat} (inRows : y < header.height.toNat)
    (inRow : x < header.width.toNat) (inPixel : c < channels) :
    (packedView header channels pixels).get? y x c =
      pixels[header.offsetAt 0 + y * header.strideAt 0 + x * channels + c]? := by
  obtain ⟨offset, stride⟩ := atStart
  rw [(fits.packedView_get? inRows inRow inPixel).2, offset, Nat.zero_add]
  rcases stride with padded | single
  · rw [rowStride, stride0, if_pos padded]
  · obtain rfl : y = 0 := by omega
    rw [Nat.zero_mul, Nat.zero_mul]

/-- The payload that tells its first byte from all others. -/
def firstMarked (n : Nat) : List UInt8 := 1 :: List.replicate (n - 1) 0

theorem length_firstMarked (someByte : 0 < n) : (firstMarked n).length = n := by
  rw [firstMarked, List.length_cons, List.length_replicate]
  omega

theorem firstMarked_eq_iff {index : Nat} : (firstMarked n)[index]? = some 1 ↔ index = 0 := by
  cases index with
  | zero => simp [firstMarked]
  | succ index =>
      simp only [firstMarked, List.getElem?_cons_succ, List.getElem?_replicate]
      split_ifs <;> simp

/-- A plane that every payload shows as declared is at the start. -/
theorem declaredAtStart_of_shown (someChannel : 0 < channels)
    (someRow : 0 < header.height.toNat) (someColumn : 0 < header.width.toNat)
    (fits : ViewFits header channels (firstMarked n))
    (shown : ∀ y x c, y < header.height.toNat → x < header.width.toNat → c < channels →
      (packedView header channels (firstMarked n)).get? y x c =
        (firstMarked n)[header.offsetAt 0 + y * header.strideAt 0 + x * channels + c]?) :
    DeclaredAtStart header := by
  have offset : header.offsetAt 0 = 0 := by
    have first := shown 0 0 0 someRow someColumn someChannel
    rw [(fits.packedView_get? someRow someColumn someChannel).2] at first
    simp only [Nat.zero_mul, Nat.add_zero] at first
    exact firstMarked_eq_iff.mp (first.symm.trans (firstMarked_eq_iff.mpr rfl))
  refine ⟨offset, ?_⟩
  by_contra neither
  obtain ⟨unpadded, several⟩ := not_or.mp neither
  have noStride : header.strideAt 0 = 0 := not_not.mp unpadded
  have second : 1 < header.height.toNat := by omega
  have below := shown 1 0 0 second someColumn someChannel
  rw [(fits.packedView_get? second someColumn someChannel).2, offset, noStride] at below
  simp only [Nat.zero_mul, Nat.one_mul, Nat.add_zero] at below
  have short := firstMarked_eq_iff.mp (below.trans (firstMarked_eq_iff.mpr rfl))
  have row := fits.row
  rw [short] at row
  exact absurd (Nat.mul_pos someColumn someChannel) (Nat.not_lt_of_le row)

/-- Room for the view: a row fits its distance to the next, and all rows fit. -/
def RoomForView (header : VideoFrameHeader) (channels n : Nat) : Prop :=
  header.width.toNat * channels ≤ rowStride header channels ∧
    rowStride header channels * header.height.toNat ≤ n

theorem viewFits_iff (sized : pixels.length = n) :
    ViewFits header channels pixels ↔ RoomForView header channels n := by
  subst sized
  constructor
  · intro fits
    exact ⟨fits.row, fits.rows⟩
  · rintro ⟨row, rows⟩
    exact ⟨row, rows⟩

/-- A reader that also asks something of the header. -/
theorem showsDeclared_iff {ε : Type} (reads : List UInt8 → Except ε (StridedView UInt8))
    (taken : Prop) (someChannel : 0 < channels)
    (made : ∀ pixels view, pixels.length = n → (reads pixels = .ok view ↔
      ViewFits header channels pixels ∧ taken ∧ view = packedView header channels pixels)) :
    ShowsDeclared reads header channels n ↔ RoomForView header channels n ∧ taken ∧
      (header.width.toNat = 0 ∨ header.height.toNat = 0 ∨ DeclaredAtStart header) := by
  constructor
  · intro shows
    have zeros : (List.replicate n (0 : UInt8)).length = n := List.length_replicate
    obtain ⟨view, reading, -⟩ := shows _ zeros
    obtain ⟨fits, takes, -⟩ := (made _ view zeros).mp reading
    have room := (viewFits_iff zeros).mp fits
    refine ⟨room, takes, ?_⟩
    rcases Nat.eq_zero_or_pos header.width.toNat with narrow | someColumn
    · exact .inl narrow
    rcases Nat.eq_zero_or_pos header.height.toNat with flat | someRow
    · exact .inr (.inl flat)
    have someByte : 0 < n := Nat.lt_of_lt_of_le
      (Nat.mul_pos (Nat.lt_of_lt_of_le (Nat.mul_pos someColumn someChannel) room.1) someRow) room.2
    have sized := length_firstMarked someByte
    obtain ⟨view, reading, shown⟩ := shows (firstMarked n) sized
    obtain ⟨fits, -, rfl⟩ := (made _ view sized).mp reading
    exact .inr (.inr (declaredAtStart_of_shown someChannel someRow someColumn fits shown))
  · rintro ⟨room, takes, either⟩ pixels sized
    have fits := (viewFits_iff sized).mpr room
    refine ⟨_, (made pixels _ sized).mpr ⟨fits, takes, rfl⟩, ?_⟩
    intro y x c inRows inRow inPixel
    rcases either with narrow | flat | atStart
    · exact absurd inRow (by omega)
    · exact absurd inRows (by omega)
    · exact packedView_declared atStart fits inRows inRow inPixel

/-- The format decides the channels. -/
theorem exists_packed_iff (packed : formatChannels header.formatName = some channels)
    {holds : Nat → Prop} :
    (∃ others, formatChannels header.formatName = some others ∧ holds others) ↔
      holds channels := by
  rw [packed]
  constructor
  · rintro ⟨_, ⟨⟩, held⟩
    exact held
  · exact fun held => ⟨channels, rfl, held⟩

end Declared

/-- **The packages show a frame as its header declares it exactly when its plane is at the
start.** For every header of a packed format and every number of bytes of pixels, each
language shows all payloads of that length as the first plane of the header declares
them, and so as a layout attached to a delivered buffer does, exactly when there is room
for the view and either the frame has no pixel, or the plane has no offset and has a
stride unless it is a single row. In Rust the array library must take the shape, too. The
validator asks for none of it. -/
theorem shown_as_declared_iff (ndarray : Ndarray) (numpy : Python.Numpy)
    (fromShape : ndarray.Checks) (asStrided : numpy.Documented) {header : VideoFrameHeader}
    {channels n : Nat} (packed : formatChannels header.formatName = some channels)
    (addressable : n < 2 ^ 64) :
    (ShowsDeclared (headerPixelsToNdarrayView ndarray .bits64 header) header channels n ↔
        RoomForView header channels n ∧ ShapeTaken header channels ∧
          (header.width.toNat = 0 ∨ header.height.toNat = 0 ∨ DeclaredAtStart header)) ∧
      (ShowsDeclared (Python.headerPixelsToNumpyView numpy header) header channels n ↔
        RoomForView header channels n ∧
          (header.width.toNat = 0 ∨ header.height.toNat = 0 ∨ DeclaredAtStart header)) := by
  constructor
  · refine showsDeclared_iff _ _ (formatChannels_pos packed) fun pixels view sized => ?_
    rw [headerPixelsToNdarrayView_eq_ok_iff_of_checks fromShape (sized ▸ addressable)]
    exact exists_packed_iff packed
  · have made : ∀ pixels view, pixels.length = n →
        (Python.headerPixelsToNumpyView numpy header pixels = .ok view ↔
          ViewFits header channels pixels ∧ True ∧ view = packedView header channels pixels) := by
      intro pixels view _
      rw [Python.headerPixelsToNumpyView_eq_ok_iff asStrided, true_and]
      exact exists_packed_iff packed
    have only := showsDeclared_iff (Python.headerPixelsToNumpyView numpy header) True
      (formatChannels_pos packed) made
    rwa [true_and] at only

/-- A pixel behind a byte of something else. -/
def shiftedHeader : VideoFrameHeader :=
  { onePixelHeader 3 with planeOffsets := #v[1, 0, 0, 0] }

/-- The validator accepts it, and no package shows it as declared. -/
theorem shown_as_declared_iff_shifted :
    validateGeometry .bits64 shiftedHeader 4 = .ok () ∧
      ¬ ShowsDeclared (headerPixelsToNdarrayView sliceNdarray .bits64 shiftedHeader)
        shiftedHeader 3 4 ∧
      ¬ ShowsDeclared (Python.headerPixelsToNumpyView Python.checkingNumpy shiftedHeader)
        shiftedHeader 3 4 := by
  have packed : formatChannels shiftedHeader.formatName = some 3 := by decide
  obtain ⟨rust, python⟩ := shown_as_declared_iff sliceNdarray Python.checkingNumpy
    sliceNdarray_checks Python.checkingNumpy_documented packed (show 4 < 2 ^ 64 from by decide)
  have apart : ¬ (shiftedHeader.width.toNat = 0 ∨ shiftedHeader.height.toNat = 0 ∨
      DeclaredAtStart shiftedHeader) := by
    rintro (narrow | flat | atStart)
    · exact absurd narrow (by decide)
    · exact absurd flat (by decide)
    · exact absurd atStart.1 (by decide)
  exact ⟨by decide, fun shows => apart (rust.mp shows).2.2,
    fun shows => apart (python.mp shows).2⟩

end GstIceoryx2.Element
