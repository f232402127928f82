import GstIceoryx2.Foundations.StridedView
import GstIceoryx2.Video.Validate

/-!
# Views of packed pixels

A frame of a packed format is shown without a copy, as an array of rows, pixels
and channels that borrows the payload. The rows are `stride[0]` apart, or as far
as a row is long when the header leaves that stride zero, so padding is skipped
and never copied.

The array is made by a library that checks that its shape and strides stay
inside the slice. It is given a slice of the room the rows take, so for a frame with a
pixel the checks that come first decide: the view is made exactly when the format is
packed, a row fits its stride, and the rows fit the pixels
(`headerPixelsToNdarrayView_eq_ok_iff_of_pixel`).

A frame without a pixel is another matter. The library compares the slice with the
last index (`Ndarray.Checks`), and the channels of a row that has no pixel can lead
behind it. `Ndarray.Documented` is the assumption that it looks at nothing but the
indices there are, under which the checks decide for every frame.
-/

set_option autoImplicit false

namespace GstIceoryx2.Video

open Foundations

/-! ## Packed formats -/

/-- The formats of one plane with interleaved channels, and their number. -/
def packedFormats : List (String × Nat) := [("BGR", 3), ("RGB", 3), ("BGRA", 4), ("RGBA", 4)]

/-- The channels of a packed format. -/
def formatChannels (format : String) : Option Nat :=
  (packedFormats.find? fun entry => entry.1 = format).map Prod.snd

/-- A pixel has three channels or four. -/
theorem formatChannels_bounds {format : String} {channels : Nat}
    (packed : formatChannels format = some channels) : 3 ≤ channels ∧ channels ≤ 4 := by
  obtain ⟨entry, found, rfl⟩ := Option.map_eq_some_iff.mp packed
  have member := List.mem_of_find?_eq_some found
  simp only [packedFormats, List.mem_cons, List.not_mem_nil, or_false] at member
  rcases member with rfl | rfl | rfl | rfl <;> decide

theorem formatChannels_pos {format : String} {channels : Nat}
    (packed : formatChannels format = some channels) : 0 < channels :=
  Nat.lt_of_lt_of_le (by decide) (formatChannels_bounds packed).1

/-! ## The array library -/

/-- The array library. It refuses a shape with strides over a slice, or shows the
slice by them. -/
structure Ndarray where
  refuses : StridedView UInt8 → Option String

/-- A view of a frame: dense rows, of the sizes that a header can have. -/
structure FrameView (view : StridedView UInt8) : Prop where
  rows : view.Rows
  height : view.height < 2 ^ 32
  width : view.width < 2 ^ 32
  channels : view.channels ≤ 4

/-- A view of a frame is made exactly when its last index fits the slice. So the library
checks: an axis of length zero counts like one of length one. -/
def Ndarray.Checks (ndarray : Ndarray) : Prop :=
  ∀ view, FrameView view → (ndarray.refuses view = none ↔ view.FitsSlice)

/-- A view of a frame with a pixel is made exactly when every index it addresses is in
the slice. -/
def Ndarray.ShowsPixels (ndarray : Ndarray) : Prop :=
  ∀ view, FrameView view → ¬ view.Empty → (ndarray.refuses view = none ↔ view.Inside)

/-- Every view, also an empty one, is made exactly when every index it addresses is in
the slice. The library refuses some empty ones: this is for what is stated under the
assumption that it does not. -/
def Ndarray.Documented (ndarray : Ndarray) : Prop :=
  ∀ view, ndarray.refuses view = none ↔ view.Inside

theorem Ndarray.Checks.showsPixels {ndarray : Ndarray} (checks : ndarray.Checks) :
    ndarray.ShowsPixels := by
  intro view ofFrame some
  rw [checks view ofFrame, StridedView.fitsSlice_iff_inside some]

/-- `ArrayView3::from_shape`. -/
def Ndarray.fromShape (ndarray : Ndarray) (view : StridedView UInt8) :
    Except String (StridedView UInt8) :=
  match ndarray.refuses view with
  | none => .ok view
  | some message => .error message

theorem Ndarray.fromShape_eq_ok_iff {ndarray : Ndarray} {view shown : StridedView UInt8} :
    ndarray.fromShape view = .ok shown ↔ ndarray.refuses view = none ∧ view = shown := by
  unfold Ndarray.fromShape
  cases ndarray.refuses view with
  | none => simp only [Except.ok.injEq, true_and]
  | some message => exact iff_of_false nofun fun taken => nomatch taken.1

/-- A library that compares the last index with the slice. -/
def sliceNdarray : Ndarray where
  refuses view :=
    if view.FitsSlice then none else some "ShapeError/OutOfBounds: out of bounds indexing"

theorem sliceNdarray_checks : sliceNdarray.Checks := by
  intro view _
  simp only [sliceNdarray, ite_eq_left_iff, reduceCtorEq, imp_false, not_not]

/-- A library that looks at every index there is. -/
def checkingNdarray : Ndarray where
  refuses view :=
    if ∀ y < view.height, ∀ x < view.width, ∀ c < view.channels, view.index y x c < view.data.length
    then none
    else some "ShapeError/OutOfBounds: out of bounds indexing"

theorem checkingNdarray_documented : checkingNdarray.Documented := by
  intro view
  simp only [checkingNdarray, ite_eq_left_iff, reduceCtorEq, imp_false, not_not]
  constructor
  · intro inside y x c has
    exact inside y has.1 x has.2.1 c has.2.2
  · intro inside y inRows x inRow c inPixel
    exact inside y x c ⟨inRows, inRow, inPixel⟩

/-! ## The view -/

/-- A product that is not checked. It panics when overflows are checked for, and wraps
otherwise; on 64 bits the products of two words do neither. -/
def WordSize.wrappingMul (word : WordSize) (a b : Nat) : Nat :=
  a * b % word.limit

/-- Why there is no view. -/
inductive ViewError where
  | notPacked (format : String)
  | strideShort (stride0 rowBytes : Nat)
  | extentOverflow
  | tooSmall (pixels width height stride0 : Nat)
  | shape (message : String)
  deriving DecidableEq

/-- The reason as it is reported, given how a name is quoted. -/
def ViewError.message (quoted : String → String) : ViewError → String
  | notPacked format => s!"non-packed/unsupported format {quoted format}"
  | strideShort stride0 rowBytes => s!"stride[0] {stride0} < row bytes {rowBytes}"
  | extentOverflow => "extent overflow"
  | tooSmall pixels width height stride0 =>
      s!"pixels {pixels} too small for {width}x{height} stride {stride0}"
  | shape message => message

/-- The distance of the rows: the stride of the header, or the length of a row. -/
def stride0 (header : VideoFrameHeader) (rowBytes : Nat) : Nat :=
  if header.strideAt 0 ≠ 0 then header.strideAt 0 else rowBytes

/-- Show packed pixels as an array. -/
def headerPixelsToNdarrayView (ndarray : Ndarray) (word : WordSize) (header : VideoFrameHeader)
    (pixels : List UInt8) : Except ViewError (StridedView UInt8) :=
  let format := header.formatName
  match formatChannels format with
  | none => .error (.notPacked format)
  | some channels =>
      let width := header.width.toNat
      let height := header.height.toNat
      let rowBytes := word.wrappingMul width channels
      let stride0 := stride0 header rowBytes
      if stride0 < rowBytes then .error (.strideShort stride0 rowBytes)
      else
        match word.checkedMul stride0 height with
        | none => .error .extentOverflow
        | some needed =>
            if needed > pixels.length then .error (.tooSmall pixels.length width height stride0)
            else
              (ndarray.fromShape
                ⟨height, width, channels, stride0, channels, 1, pixels.take needed⟩).mapError .shape

/-! ## What is shown -/

/-- The distance of the rows of a packed frame. -/
def rowStride (header : VideoFrameHeader) (channels : Nat) : Nat :=
  stride0 header (header.width.toNat * channels)

/-- A row fits its stride, and the rows fit the pixels. -/
structure ViewFits (header : VideoFrameHeader) (channels : Nat) (pixels : List UInt8) : Prop where
  row : header.width.toNat * channels ≤ rowStride header channels
  rows : rowStride header channels * header.height.toNat ≤ pixels.length

instance (header : VideoFrameHeader) (channels : Nat) (pixels : List UInt8) :
    Decidable (ViewFits header channels pixels) :=
  decidable_of_iff (header.width.toNat * channels ≤ rowStride header channels ∧
    rowStride header channels * header.height.toNat ≤ pixels.length)
    ⟨fun ⟨row, rows⟩ => ⟨row, rows⟩, fun ⟨row, rows⟩ => ⟨row, rows⟩⟩

/-- The view of a packed frame: its room, by its shape and strides. -/
def packedView (header : VideoFrameHeader) (channels : Nat) (pixels : List UInt8) :
    StridedView UInt8 where
  height := header.height.toNat
  width := header.width.toNat
  channels := channels
  rowStride := rowStride header channels
  columnStride := channels
  channelStride := 1
  data := pixels.take (rowStride header channels * header.height.toNat)

section PackedView

variable {header : VideoFrameHeader} {channels : Nat} {pixels : List UInt8}

theorem ViewFits.packedView_rows (fits : ViewFits header channels pixels) :
    (packedView header channels pixels).Rows where
  columns := rfl
  channels := rfl
  covered := fits.row

theorem ViewFits.packedView_inside (fits : ViewFits header channels pixels) :
    (packedView header channels pixels).Inside := by
  apply StridedView.inside_of_rows fits.packedView_rows
  rw [packedView, List.length_take, Nat.min_eq_left fits.rows]

/-- **Every element of the shape is the byte of the pixels at its row, pixel and
channel.** -/
theorem ViewFits.packedView_get? (fits : ViewFits header channels pixels) {y x c : Nat}
    (inRows : y < header.height.toNat) (inRow : x < header.width.toNat) (inPixel : c < channels) :
    y * rowStride header channels + x * channels + c < pixels.length ∧
      (packedView header channels pixels).get? y x c =
        pixels[y * rowStride header channels + x * channels + c]? := by
  have has : (packedView header channels pixels).Has y x c := ⟨inRows, inRow, inPixel⟩
  have index : (packedView header channels pixels).index y x c =
      y * rowStride header channels + x * channels + c := by
    rw [StridedView.index, packedView, Nat.mul_one]
  have within := fits.packedView_rows.index_lt has
  rw [index] at within
  refine ⟨Nat.lt_of_lt_of_le within fits.rows, ?_⟩
  rw [StridedView.get?, if_pos has, index]
  exact List.getElem?_take_of_lt within

/-- The bytes of a row of a packed frame are a word. -/
def RowFits (word : WordSize) (header : VideoFrameHeader) : Prop :=
  ∀ channels, formatChannels header.formatName = some channels →
    header.width.toNat * channels < word.limit

theorem RowFits.wrappingMul_width {word : WordSize} (fits : RowFits word header)
    (packed : formatChannels header.formatName = some channels) :
    word.wrappingMul header.width.toNat channels = header.width.toNat * channels :=
  Nat.mod_eq_of_lt (fits channels packed)

/-- On 64 bits a row always is one. -/
theorem rowFits_bits64 (header : VideoFrameHeader) : RowFits .bits64 header := by
  intro channels packed
  have width := header.width.toNat_lt
  have product : header.width.toNat * channels ≤ header.width.toNat * 4 :=
    Nat.mul_le_mul_left _ (formatChannels_bounds packed).2
  simp only [WordSize.limit]
  omega

theorem WordSize.checkedMul_eq_some_iff {word : WordSize} {a b product : Nat} :
    word.checkedMul a b = some product ↔ a * b = product ∧ product < word.limit := by
  unfold WordSize.checkedMul
  split_ifs with fits
  · rw [Option.some.injEq]
    exact ⟨fun same => ⟨same, same ▸ fits⟩, fun same => same.1⟩
  · refine iff_of_false nofun ?_
    rintro ⟨rfl, fits'⟩
    exact fits fits'

/-- **A frame of a packed format whose row is a word has a view exactly when a row fits its
stride, the rows fit the pixels, and the array library takes the view of the room.** -/
theorem headerPixelsToNdarrayView_eq_ok_iff_of_rowFits {ndarray : Ndarray} {word : WordSize}
    (fits : RowFits word header) (addressable : pixels.length < word.limit)
    {view : StridedView UInt8} :
    headerPixelsToNdarrayView ndarray word header pixels = .ok view ↔
      ∃ channels, formatChannels header.formatName = some channels ∧
        ViewFits header channels pixels ∧
          ndarray.fromShape (packedView header channels pixels) = .ok view := by
  simp only [headerPixelsToNdarrayView]
  cases packed : formatChannels header.formatName with
  | none =>
      refine iff_of_false nofun ?_
      rintro ⟨_, ⟨⟩, _⟩
  | some channels =>
      have stride : stride0 header (header.width.toNat * channels) = rowStride header channels :=
        rfl
      simp only [Option.some.injEq, exists_eq_left', fits.wrappingMul_width packed, stride]
      by_cases short : rowStride header channels < header.width.toNat * channels
      · rw [if_pos short]
        exact iff_of_false nofun fun shown => absurd shown.1.row (Nat.not_le_of_lt short)
      rw [if_neg short]
      by_cases room : rowStride header channels * header.height.toNat ≤ pixels.length
      · have fits : ViewFits header channels pixels := ⟨Nat.le_of_not_lt short, room⟩
        have needed := WordSize.checkedMul_eq_some_iff.mpr
          ⟨rfl, Nat.lt_of_le_of_lt room addressable⟩
        simp only [needed, if_neg (Nat.not_lt_of_le room)]
        change (ndarray.fromShape (packedView header channels pixels)).mapError _ = .ok view ↔ _
        rw [and_iff_right fits]
        cases ndarray.fromShape (packedView header channels pixels) with
        | error message => exact iff_of_false nofun nofun
        | ok shown => simp only [Except.mapError, Except.ok.injEq]
      · refine iff_of_false (fun made => ?_) fun shown => room shown.1.rows
        cases product : word.checkedMul (rowStride header channels) header.height.toNat with
        | none =>
            rw [product] at made
            cases made
        | some needed =>
            obtain ⟨same, -⟩ := WordSize.checkedMul_eq_some_iff.mp product
            simp only [product, ← same, if_pos (Nat.lt_of_not_le room)] at made
            cases made

theorem ViewFits.frameView (packed : formatChannels header.formatName = some channels)
    (fits : ViewFits header channels pixels) : FrameView (packedView header channels pixels) where
  rows := fits.packedView_rows
  height := header.height.toNat_lt
  width := header.width.toNat_lt
  channels := (formatChannels_bounds packed).2

/-- A frame with a pixel has an element. -/
theorem packedView_not_empty (pixels : List UInt8)
    (packed : formatChannels header.formatName = some channels)
    (someRow : 0 < header.height.toNat) (someColumn : 0 < header.width.toNat) :
    ¬ (packedView header channels pixels).Empty := by
  have someChannel := formatChannels_pos packed
  rintro (noRow | noColumn | noChannel)
  · exact Nat.ne_of_gt someRow noRow
  · exact Nat.ne_of_gt someColumn noColumn
  · exact Nat.ne_of_gt someChannel noChannel

/-- **On 64 bits a frame has a view exactly when its format is packed, a row fits its
stride, the rows fit the pixels, and the array library takes the view. The view is then
that of the room.** -/
theorem headerPixelsToNdarrayView_eq_ok_iff_of_taken {ndarray : Ndarray} {taken : Nat → Prop}
    (takes : ∀ channels, formatChannels header.formatName = some channels →
      ViewFits header channels pixels →
        (ndarray.refuses (packedView header channels pixels) = none ↔ taken channels))
    {view : StridedView UInt8} (addressable : pixels.length < 2 ^ 64) :
    headerPixelsToNdarrayView ndarray .bits64 header pixels = .ok view ↔
      ∃ channels, formatChannels header.formatName = some channels ∧
        ViewFits header channels pixels ∧ taken channels ∧
          view = packedView header channels pixels := by
  rw [headerPixelsToNdarrayView_eq_ok_iff_of_rowFits (rowFits_bits64 header) addressable]
  refine exists_congr fun channels => and_congr_right fun packed => and_congr_right fun fits => ?_
  rw [Ndarray.fromShape_eq_ok_iff, takes channels packed fits, eq_comm (a := view)]

/-- Whatever the library refuses, a view that is made is that of the room. -/
theorem packedView_of_ok {ndarray : Ndarray} {view : StridedView UInt8}
    (addressable : pixels.length < 2 ^ 64)
    (made : headerPixelsToNdarrayView ndarray .bits64 header pixels = .ok view) :
    ∃ channels, formatChannels header.formatName = some channels ∧
      ViewFits header channels pixels ∧ view = packedView header channels pixels := by
  obtain ⟨channels, packed, fits, -, shown⟩ :=
    (headerPixelsToNdarrayView_eq_ok_iff_of_taken (fun _ _ _ => Iff.rfl) addressable).mp made
  exact ⟨channels, packed, fits, shown⟩

/-- Under the assumption on every view, the checks decide. -/
theorem headerPixelsToNdarrayView_eq_ok_iff {ndarray : Ndarray} (documented : ndarray.Documented)
    {view : StridedView UInt8} (addressable : pixels.length < 2 ^ 64) :
    headerPixelsToNdarrayView ndarray .bits64 header pixels = .ok view ↔
      ∃ channels, formatChannels header.formatName = some channels ∧
        ViewFits header channels pixels ∧ view = packedView header channels pixels := by
  have takes : ∀ channels, formatChannels header.formatName = some channels →
      ViewFits header channels pixels →
        (ndarray.refuses (packedView header channels pixels) = none ↔ True) := by
    intro channels _ fits
    exact iff_true_intro ((documented _).mpr fits.packedView_inside)
  simpa only [true_and] using headerPixelsToNdarrayView_eq_ok_iff_of_taken takes addressable

/-- **A frame with a pixel has a view exactly when its format is packed, a row fits its
stride, and the rows fit the pixels.** -/
theorem headerPixelsToNdarrayView_eq_ok_iff_of_pixel {ndarray : Ndarray}
    (shows : ndarray.ShowsPixels) (someRow : 0 < header.height.toNat)
    (someColumn : 0 < header.width.toNat) {view : StridedView UInt8}
    (addressable : pixels.length < 2 ^ 64) :
    headerPixelsToNdarrayView ndarray .bits64 header pixels = .ok view ↔
      ∃ channels, formatChannels header.formatName = some channels ∧
        ViewFits header channels pixels ∧ view = packedView header channels pixels := by
  have takes : ∀ channels, formatChannels header.formatName = some channels →
      ViewFits header channels pixels →
        (ndarray.refuses (packedView header channels pixels) = none ↔ True) := by
    intro channels packed fits
    have some := packedView_not_empty pixels packed someRow someColumn
    exact iff_true_intro ((shows _ (fits.frameView packed) some).mpr fits.packedView_inside)
  simpa only [true_and] using headerPixelsToNdarrayView_eq_ok_iff_of_taken takes addressable

/-- What the library asks of a packed frame beyond that: it has a row, and a pixel in it or
room for the channels of one but for the last. -/
def ShapeTaken (header : VideoFrameHeader) (channels : Nat) : Prop :=
  0 < header.height.toNat ∧ (0 < header.width.toNat ∨ channels - 1 ≤ rowStride header channels)

theorem ViewFits.fitsSlice_iff (packed : formatChannels header.formatName = some channels)
    (fits : ViewFits header channels pixels) :
    (packedView header channels pixels).FitsSlice ↔ ShapeTaken header channels := by
  have length : (packedView header channels pixels).data.length =
      rowStride header channels * header.height.toNat := by
    rw [packedView, List.length_take, Nat.min_eq_left fits.rows]
  have last : (packedView header channels pixels).lastIndex =
      (header.height.toNat - 1) * rowStride header channels +
        (header.width.toNat - 1) * channels + (channels - 1) := by
    simp only [StridedView.lastIndex, StridedView.index, packedView, Nat.mul_one]
  rcases Nat.eq_zero_or_pos header.height.toNat with flat | someRow
  · have several := (formatChannels_bounds packed).1
    rw [StridedView.FitsSlice, if_pos (.inl flat), length, last, ShapeTaken, flat, Nat.mul_zero]
    exact iff_of_false (by omega) (by omega)
  rcases Nat.eq_zero_or_pos header.width.toNat with narrow | someColumn
  · -- The last index is in the last row, as far in it as the channels lead.
    rw [StridedView.FitsSlice, if_pos (.inr (.inl narrow)), length, last, ShapeTaken, narrow,
      Nat.zero_sub, Nat.zero_mul, Nat.add_zero, and_iff_right someRow,
      or_iff_right (Nat.lt_irrefl 0)]
    obtain ⟨before, rows⟩ := Nat.exists_eq_succ_of_ne_zero (Nat.ne_of_gt someRow)
    rw [rows, Nat.succ_sub_one, Nat.mul_succ, Nat.mul_comm before]
    exact Nat.add_le_add_iff_left
  · have some := packedView_not_empty pixels packed someRow someColumn
    exact iff_of_true ((StridedView.fitsSlice_iff_inside some).mpr fits.packedView_inside)
      ⟨someRow, .inl someColumn⟩

/-- **With the library's own rule, the library's condition on the shape is added.** -/
theorem headerPixelsToNdarrayView_eq_ok_iff_of_checks {ndarray : Ndarray}
    (checks : ndarray.Checks) {view : StridedView UInt8} (addressable : pixels.length < 2 ^ 64) :
    headerPixelsToNdarrayView ndarray .bits64 header pixels = .ok view ↔
      ∃ channels, formatChannels header.formatName = some channels ∧
        ViewFits header channels pixels ∧ ShapeTaken header channels ∧
          view = packedView header channels pixels := by
  refine headerPixelsToNdarrayView_eq_ok_iff_of_taken (fun channels packed fits => ?_) addressable
  rw [checks _ (fits.frameView packed), fits.fitsSlice_iff packed]

end PackedView

end GstIceoryx2.Video
