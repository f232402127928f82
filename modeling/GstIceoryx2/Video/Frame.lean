import GstIceoryx2.Video.Header
import GstIceoryx2.Video.AuxBlob

/-!
# Frames

A frame is a header and a payload: the pixels, and behind them the aux blob. The
header says how long the blob is, and a receiver splits the payload by it. A
header can declare more than the payload holds, and then there are no pixels.
-/

set_option autoImplicit false

namespace GstIceoryx2.Video

/-- A sample as it is sent and received. -/
structure VideoFrame where
  header : VideoFrameHeader
  payload : List UInt8
  deriving DecidableEq

namespace VideoFrame

variable (frame : VideoFrame)

/-- The length of the pixel region. -/
def pixelSize : Nat :=
  frame.payload.length - frame.header.auxSize.toNat

/-- The pixel region. -/
def pixels : List UInt8 :=
  frame.payload.take frame.pixelSize

/-- The aux blob with the slack behind it. -/
def aux : List UInt8 :=
  frame.payload.drop frame.pixelSize

/-- The contents of the aux blob. -/
def parsedAux : ParsedAux :=
  parseAux frame.aux

/-- Whether the frame is the end-of-stream sentinel. -/
def isEos : Bool :=
  frame.header.isEos

/-- **The split loses nothing.** -/
theorem pixels_append_aux : frame.pixels ++ frame.aux = frame.payload :=
  List.take_append_drop _ _

theorem length_pixels : frame.pixels.length = frame.pixelSize :=
  List.length_take_of_le (Nat.sub_le _ _)

end VideoFrame

/-- **A payload written as pixels and an aux blob of the declared size is split
there.** -/
theorem split_of_append {header : VideoFrameHeader} {pixels aux : List UInt8}
    (declared : header.auxSize.toNat = aux.length) :
    (⟨header, pixels ++ aux⟩ : VideoFrame).pixels = pixels ∧
      (⟨header, pixels ++ aux⟩ : VideoFrame).aux = aux := by
  have size : (⟨header, pixels ++ aux⟩ : VideoFrame).pixelSize = pixels.length := by
    simp only [VideoFrame.pixelSize, declared, List.length_append]
    omega
  simp only [VideoFrame.pixels, VideoFrame.aux, size, List.take_left, List.drop_left, and_self]

end GstIceoryx2.Video
