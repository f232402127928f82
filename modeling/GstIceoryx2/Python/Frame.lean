import GstIceoryx2.Python.Codec
import GstIceoryx2.Element.RoundTrip

/-!
# The Python frame

A received frame in Python is a view of the sample: its header, and a memoryview of
the payload. The pixel size is a difference of integers and is negative when the
header declares a blob longer than the payload; the regions are slices, which count
a negative index from the end.

The aux region is a memoryview as well, and the parser of the package cannot read
that. So every frame of the sink whose blob is there in full, on either path, makes
`parse_aux` raise an exception (`parseAux_sentFrame_raises`).
-/

set_option autoImplicit false

namespace GstIceoryx2.Python

open Foundations Video Element

variable {gst : Gst}

/-- `VideoFrame`: the header, the length of the payload, and a view of it. -/
structure VideoFrame where
  header : VideoFrameHeader
  n : Nat
  mv : Buffer

namespace VideoFrame

/-- `VideoFrame.__init__`. -/
def init (sample : Video.VideoFrame) : VideoFrame where
  header := sample.header
  n := sample.payload.length
  mv := ⟨.memoryview, sample.payload⟩

variable (frame : VideoFrame)

/-- `pixel_size`. -/
def pixelSize : Int :=
  frame.n - frame.header.auxSize.toNat

/-- `pixels`. -/
def pixels : Buffer :=
  frame.mv.part (sliceTo frame.mv.contents frame.pixelSize)

/-- `aux`. -/
def aux : Buffer :=
  frame.mv.part (sliceFrom frame.mv.contents frame.pixelSize)

/-- `parse_aux`. -/
def parseAux : Except BufferError ParsedAux :=
  Python.parseAux frame.aux

/-- The regions of a payload that holds the declared blob are those of Rust. -/
theorem regions_init {sample : Video.VideoFrame}
    (holds : sample.header.auxSize.toNat ≤ sample.payload.length) :
    (init sample).pixelSize = sample.pixelSize ∧
      (init sample).pixels = ⟨.memoryview, sample.pixels⟩ ∧
      (init sample).aux = ⟨.memoryview, sample.aux⟩ := by
  have size : (init sample).pixelSize = sample.pixelSize := by
    rw [pixelSize, Video.VideoFrame.pixelSize, Int.ofNat_sub holds]
    rfl
  have cut : sliceIndex sample.payload.length (init sample).pixelSize = sample.pixelSize := by
    rw [size]
    exact sliceIndex_natCast (Nat.sub_le _ _)
  refine ⟨size, ?_, ?_⟩
  · exact congrArg (Buffer.mk .memoryview) (congrArg (sample.payload.take ·) cut)
  · exact congrArg (Buffer.mk .memoryview) (congrArg (sample.payload.drop ·) cut)

end VideoFrame

/-! ## Blobs of the sink -/

/-- The whole blob is behind the pixels: it is copied, or the reserve has room for
it. Its size is a word. -/
def HoldsBlob (path : RenderPath) (caps : gst.Caps) (buffer : Element.Buffer gst) : Prop :=
  Sink.BlobShort caps buffer ∧
    match path with
    | .copy => True
    | .zeroCopy reserve => reserve.length < 2 ^ 32 ∧
        (Sink.auxBlob (some caps) buffer none).length ≤ reserve.length

section SentFrames

variable {caps : gst.Caps} {buffer : Element.Buffer gst} {path : RenderPath}

theorem length_auxBlob (caps : gst.Caps) (buffer : Element.Buffer gst) :
    (Sink.auxBlob (some caps) buffer none).length =
      Sink.capsRoom caps + ((Sink.serializedMetas buffer).map entrySize).sum := by
  rw [Sink.auxBlob, length_buildAux, keptMetas_none]
  rfl

/-- What is behind the pixels starts with a blob of the caps and all metas. -/
theorem exists_auxRegion_eq (holds : HoldsBlob path caps buffer) :
    ∃ limit rest, path.auxRegion caps buffer =
        buildAux (gst.capsToString caps) (Sink.serializedMetas buffer) limit ++ rest ∧
      keptMetas (gst.capsToString caps) (Sink.serializedMetas buffer) limit =
        Sink.serializedMetas buffer := by
  obtain ⟨-, room⟩ := holds
  cases path with
  | copy => exact ⟨none, [], (List.append_nil _).symm, keptMetas_none _ _⟩
  | zeroCopy reserve =>
      obtain ⟨-, whole⟩ := room
      rw [length_auxBlob] at whole
      have roomy := Nat.le_trans (Nat.le_add_right _ _) whole
      refine ⟨some reserve.length, List.replicate
        (reserve.length - (Sink.tailBlob (some caps) buffer reserve.length).length) 0, ?_, ?_⟩
      · rw [RenderPath.auxRegion, Sink.filledReserve, Sink.tailBlob_of_capsRoom_le roomy]
      · refine (longestWithin_keptMetas _ _ _).eq_of_within entrySize ?_
        rintro _ ⟨⟩
        exact whole

theorem length_auxRegion_lt (holds : HoldsBlob path caps buffer) :
    (path.auxRegion caps buffer).length < 2 ^ 32 := by
  obtain ⟨short, room⟩ := holds
  cases path with
  | copy =>
      rw [RenderPath.auxRegion, length_auxBlob]
      exact short
  | zeroCopy reserve =>
      rw [RenderPath.auxRegion, Sink.length_filledReserve]
      exact room.1

/-- **The Python frame cannot parse what the sink wrote.** For every buffer that is
rendered, by either path, with its caps and all of its metas in the blob, the Rust
frame returns them and the Python frame raises an exception. -/
theorem parseAux_sentFrame_raises (info : Sink.CapsInfo) (pixels : List UInt8)
    (sized : path ≠ .copy → pixels.length = info.size) (named : gst.capsToString caps ≠ "")
    (holds : HoldsBlob path caps buffer) :
    ∃ frame, Sink.sentFrame ⟨some info, some caps⟩ buffer (path.registered pixels)
        (pixels.map some) = some frame ∧
      (VideoFrame.init frame).parseAux = .error (.attributeError "decode") ∧
      frame.parsedAux = ⟨some (gst.capsToString caps), Sink.serializedMetas buffer⟩ := by
  have sent := Sink.sentFrame_of_path info caps path buffer sized
  have small := length_auxRegion_lt holds
  obtain ⟨limit, rest, region, kept⟩ := exists_auxRegion_eq holds
  have split := (Sink.frameWithAux_split info buffer pixels small).2
  obtain ⟨capsShort, metasShort, few⟩ := Sink.lengths_of_blobShort holds.1
  have declared : (Sink.frameWithAux info buffer pixels
      (path.auxRegion caps buffer)).header.auxSize.toNat = (path.auxRegion caps buffer).length :=
    UInt32.toNat_ofNat_of_lt small
  refine ⟨_, sent, ?_, ?_⟩
  · have viewed := (VideoFrame.regions_init (Nat.le_trans (Nat.le_of_eq declared)
      (List.length_append ▸ Nat.le_add_left _ _))).2.2
    rw [VideoFrame.parseAux, viewed, split, region, buildAux_eq, List.append_assoc]
    exact parseAux_memoryview (takeRecord_record_append capsShort _)
  · rw [Video.VideoFrame.parsedAux, split, region,
      parseAux_buildAux_append limit capsShort metasShort few, if_neg named, kept]

end SentFrames

theorem parseAux_sentFrame_raises_onePixel :
    ∃ frame, @Sink.sentFrame twoCapsGst ⟨some (Sink.capsInfo TwoCaps.onePixel.info),
        some .onePixel⟩ (plainBuffer twoCapsGst) none ([1, 2, 3, 4].map some) = some frame ∧
      (VideoFrame.init frame).parseAux = .error (.attributeError "decode") := by
  have holds : HoldsBlob .copy (TwoCaps.onePixel : twoCapsGst.Caps) (plainBuffer twoCapsGst) :=
    ⟨by unfold Sink.BlobShort; decide, trivial⟩
  obtain ⟨frame, sent, raises, -⟩ := parseAux_sentFrame_raises
    (Sink.capsInfo TwoCaps.onePixel.info) [1, 2, 3, 4] (fun other => absurd rfl other) (by decide)
    holds
  exact ⟨frame, sent, raises⟩

/-- The caps of a frame of one pixel are in its blob, and the Python frame returns
neither caps nor metas. -/
theorem parseAux_sentFrame_no_result :
    ∃ frame, @Sink.sentFrame twoCapsGst ⟨some (Sink.capsInfo TwoCaps.onePixel.info),
        some .onePixel⟩ (plainBuffer twoCapsGst) none ([1, 2, 3, 4].map some) = some frame ∧
      frame.parsedAux.caps = some TwoCaps.onePixel.toText ∧
      ¬ ∃ parsed, (VideoFrame.init frame).parseAux = .ok parsed := by
  refine ⟨_, rfl, by decide, ?_⟩
  rintro ⟨parsed, returned⟩
  cases returned

end GstIceoryx2.Python
