import GstIceoryx2.Python.Validate
import GstIceoryx2.Video.PackedView

/-!
# The Python view of packed pixels

The Python package shows packed pixels as an array as well. Its sizes are unbounded,
so no extent overflows. It asks for a flat view of as many bytes as the rows take,
which raises an exception for a payload that is too short, and gives that view a
shape and strides, which checks nothing.

The guards of the two languages differ and accept the same frames. On those both
show the same view, and every element of its shape is the byte of the pixels at its
row, pixel and channel (`packedView_parity`).
-/

set_option autoImplicit false

namespace GstIceoryx2.Python

open Foundations Video

/-! ## The array library -/

/-- The array library: a flat view of the first bytes of a buffer, and a view of an
array by a shape and strides. Either can raise an exception. -/
structure Numpy where
  frombuffer : List UInt8 → Nat → Except String (List UInt8)
  asStrided : StridedView UInt8 → Except String (StridedView UInt8)

/-- A flat view takes as many bytes as are asked for, and is refused when there are
fewer. A view whose indices are all in the array is the one asked for. -/
structure Numpy.Documented (numpy : Numpy) : Prop where
  taken : ∀ buffer count, count ≤ buffer.length →
    numpy.frombuffer buffer count = .ok (buffer.take count)
  short : ∀ buffer count, buffer.length < count →
    ∃ raised, numpy.frombuffer buffer count = .error raised
  strided : ∀ view, view.Inside → numpy.asStrided view = .ok view

/-! ## The view -/

/-- The exceptions that showing pixels raises. -/
inductive ViewRaised where
  | unicodeDecodeError (bytes : List UInt8)
  | notImplementedError (format : String)
  | valueError (stride0 rowBytes : Nat)
  | numpy (raised : String)
  deriving DecidableEq

/-- The text of an exception of the package's own, given how a name is quoted. -/
def ViewRaised.message (quoted : String → String) : ViewRaised → Option String
  | notImplementedError format => some
      s!"non-packed/unsupported format {quoted format}; supported: ['BGR', 'BGRA', 'RGB', 'RGBA']"
  | valueError stride0 rowBytes => some s!"stride[0] {stride0} < row bytes {rowBytes}"
  | unicodeDecodeError _ => none
  | numpy _ => none

/-- `PACKED_FORMATS`. -/
def packedFormats : List (String × Nat) := [("BGR", 3), ("RGB", 3), ("BGRA", 4), ("RGBA", 4)]

/-- `format_channels`. -/
def formatChannels (formatName : String) : Option Nat :=
  packedFormats.lookup formatName

/-- `header_pixels_to_numpy_view`. -/
def headerPixelsToNumpyView (numpy : Numpy) (header : VideoFrameHeader) (pixels : List UInt8) :
    Except ViewRaised (StridedView UInt8) :=
  match formatName header with
  | .error (.unicodeDecodeError bytes) => .error (.unicodeDecodeError bytes)
  | .ok name =>
      match formatChannels name with
      | none => .error (.notImplementedError name)
      | some channels =>
          let width := header.width.toNat
          let height := header.height.toNat
          let rowBytes := width * channels
          let stride0 := if header.strideAt 0 ≠ 0 then header.strideAt 0 else rowBytes
          if stride0 < rowBytes then .error (.valueError stride0 rowBytes)
          else
            let needed := stride0 * height
            match numpy.frombuffer pixels needed with
            | .error raised => .error (.numpy raised)
            | .ok flat =>
                (numpy.asStrided ⟨height, width, channels, stride0, channels, 1, flat⟩).mapError
                  .numpy

/-! ## Parity -/

/-- Looking a name up finds the first entry with it. -/
theorem lookup_eq_map_find? (entries : List (String × Nat)) (name : String) :
    entries.lookup name = (entries.find? fun entry => entry.1 = name).map Prod.snd := by
  induction entries with
  | nil => rfl
  | cons entry entries ih =>
      rw [List.lookup_cons, List.find?_cons]
      by_cases same : entry.1 = name
      · simp [same]
      · have other : (name == entry.1) = false := beq_eq_false_iff_ne.mpr (Ne.symm same)
        simp [same, other, ih]

/-- The tables of the two languages are one. -/
theorem formatChannels_eq (name : String) : formatChannels name = Video.formatChannels name :=
  lookup_eq_map_find? packedFormats name

/-- A name that is not decoded is no packed format. -/
theorem formatChannels_of_raised {header : VideoFrameHeader} {raised : Raised}
    (undecoded : formatName header = .error raised) :
    Video.formatChannels header.formatName = none := by
  have empty : header.formatName = "" := by
    cases decoded : fromUtf8 header.formatBytes with
    | none => rw [VideoFrameHeader.formatName, decoded, Option.getD_none]
    | some text =>
        rw [formatName_eq_ok decoded] at undecoded
        cases undecoded
  rw [empty]
  decide

theorem formatName_of_ok {header : VideoFrameHeader} {name : String}
    (decoded : formatName header = .ok name) : header.formatName = name := by
  cases bytes : fromUtf8 header.formatBytes with
  | none =>
      simp only [formatName, takeWhile_charArray, bytes] at decoded
      cases decoded
  | some text =>
      rw [formatName_eq_ok bytes] at decoded
      exact Except.ok.inj decoded

/-- **A frame has a view in Python exactly when its format is packed, a row fits its
stride, and the rows fit the pixels. The view is then that of the room.** -/
theorem headerPixelsToNumpyView_eq_ok_iff {numpy : Numpy} (documented : numpy.Documented)
    {header : VideoFrameHeader} {pixels : List UInt8} {view : StridedView UInt8} :
    headerPixelsToNumpyView numpy header pixels = .ok view ↔
      ∃ channels, Video.formatChannels header.formatName = some channels ∧
        ViewFits header channels pixels ∧ view = packedView header channels pixels := by
  simp only [headerPixelsToNumpyView]
  cases decoded : formatName header with
  | error raised =>
      obtain ⟨bytes⟩ := raised
      refine iff_of_false nofun ?_
      rintro ⟨_, packed, _⟩
      rw [formatChannels_of_raised decoded] at packed
      cases packed
  | ok name =>
      obtain rfl := formatName_of_ok decoded
      simp only [formatChannels_eq]
      cases packed : Video.formatChannels header.formatName with
      | none =>
          refine iff_of_false nofun ?_
          rintro ⟨_, ⟨⟩, _⟩
      | some channels =>
          have stride : (if header.strideAt 0 ≠ 0 then header.strideAt 0
              else header.width.toNat * channels) = rowStride header channels := rfl
          simp only [Option.some.injEq, exists_eq_left', stride]
          by_cases short : rowStride header channels < header.width.toNat * channels
          · rw [if_pos short]
            exact iff_of_false nofun fun shown => absurd shown.1.row (Nat.not_le_of_lt short)
          rw [if_neg short]
          by_cases room : rowStride header channels * header.height.toNat ≤ pixels.length
          · have fits : ViewFits header channels pixels := ⟨Nat.le_of_not_lt short, room⟩
            rw [documented.taken pixels _ room]
            change (numpy.asStrided (packedView header channels pixels)).mapError _ = .ok view ↔ _
            rw [documented.strided _ fits.packedView_inside, Except.mapError, Except.ok.injEq]
            exact ⟨fun same => ⟨fits, same.symm⟩, fun same => same.2.symm⟩
          · obtain ⟨raised, refused⟩ := documented.short pixels _ (Nat.lt_of_not_le room)
            rw [refused]
            exact iff_of_false nofun fun shown => room shown.1.rows

/-- **The views of the two languages.** For every header and every pixels that 64
bits address, each language shows the frame exactly when its format is packed, a row
fits its stride and the rows fit the pixels. What either shows then has the frame's
height, width and channels, and every element of it is the byte of the pixels at its
row, pixel and channel, which is there. -/
theorem packedView_parity (ndarray : Ndarray) (numpy : Numpy) (fromShape : ndarray.Documented)
    (asStrided : numpy.Documented) (header : VideoFrameHeader) (pixels : List UInt8)
    (addressable : pixels.length < 2 ^ 64) :
    ((∃ view, headerPixelsToNdarrayView ndarray .bits64 header pixels = .ok view) ↔
        ∃ channels, Video.formatChannels header.formatName = some channels ∧
          ViewFits header channels pixels) ∧
      ((∃ view, headerPixelsToNumpyView numpy header pixels = .ok view) ↔
        ∃ channels, Video.formatChannels header.formatName = some channels ∧
          ViewFits header channels pixels) ∧
      ∀ channels view, Video.formatChannels header.formatName = some channels →
        (headerPixelsToNdarrayView ndarray .bits64 header pixels = .ok view ∨
          headerPixelsToNumpyView numpy header pixels = .ok view) →
        (view.height = header.height.toNat ∧ view.width = header.width.toNat ∧
          view.channels = channels) ∧
        ∀ y x c, y < header.height.toNat → x < header.width.toNat → c < channels →
          y * rowStride header channels + x * channels + c < pixels.length ∧
            view.get? y x c = pixels[y * rowStride header channels + x * channels + c]? := by
  have rust : ∀ view, headerPixelsToNdarrayView ndarray .bits64 header pixels = .ok view ↔ _ :=
    fun _ => headerPixelsToNdarrayView_eq_ok_iff fromShape addressable
  have python : ∀ view, headerPixelsToNumpyView numpy header pixels = .ok view ↔ _ :=
    fun _ => headerPixelsToNumpyView_eq_ok_iff asStrided
  have exists_iff : (∃ view channels, Video.formatChannels header.formatName = some channels ∧
      ViewFits header channels pixels ∧ view = packedView header channels pixels) ↔
      ∃ channels, Video.formatChannels header.formatName = some channels ∧
        ViewFits header channels pixels := by
    constructor
    · rintro ⟨_, channels, packed, fits, -⟩
      exact ⟨channels, packed, fits⟩
    · rintro ⟨channels, packed, fits⟩
      exact ⟨_, channels, packed, fits, rfl⟩
  refine ⟨(exists_congr rust).trans exists_iff, (exists_congr python).trans exists_iff, ?_⟩
  intro channels view packed shown
  rw [rust, python, or_self] at shown
  obtain ⟨other, packed', fits, rfl⟩ := shown
  obtain rfl := Option.some.inj (packed.symm.trans packed')
  refine ⟨⟨rfl, rfl, rfl⟩, ?_⟩
  intro y x c inRows inRow inPixel
  exact fits.packedView_get? inRows inRow inPixel

/-- A library that does as it is documented. -/
def checkingNumpy : Numpy where
  frombuffer buffer count :=
    if count ≤ buffer.length then .ok (buffer.take count)
    else .error "buffer is smaller than requested size"
  asStrided view := .ok view

theorem checkingNumpy_documented : checkingNumpy.Documented where
  taken _ _ fits := if_pos fits
  short _ _ short := ⟨_, if_neg (Nat.not_le_of_lt short)⟩
  strided _ _ := rfl

/-- A row of two pixels with two bytes of padding, and one more. -/
def paddedHeader : VideoFrameHeader :=
  { VideoFrameHeader.zeroed with
    width := 2, height := 2, nPlanes := 1, stride := #v[8, 0, 0, 0] }.setFormat "BGR"

theorem packedView_parity_padded :
    ∃ view, headerPixelsToNdarrayView checkingNdarray .bits64 paddedHeader
        [1, 2, 3, 4, 5, 6, 0, 0, 7, 8, 9, 10, 11, 12, 0, 0] = .ok view ∧
      view.get? 1 1 2 = some 12 := by
  obtain ⟨rust, -, shown⟩ := packedView_parity checkingNdarray checkingNumpy
    checkingNdarray_documented checkingNumpy_documented paddedHeader
    [1, 2, 3, 4, 5, 6, 0, 0, 7, 8, 9, 10, 11, 12, 0, 0] (by decide)
  obtain ⟨view, made⟩ := rust.mpr ⟨3, by decide, by decide⟩
  obtain ⟨-, elements⟩ := shown 3 view (by decide) (.inl made)
  exact ⟨view, made, (elements 1 1 2 (by decide) (by decide) (by decide)).2.trans (by decide)⟩

end GstIceoryx2.Python
