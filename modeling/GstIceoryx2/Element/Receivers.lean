import GstIceoryx2.Python.Frame
import GstIceoryx2.Python.Validate
import GstIceoryx2.Transport.HandOver

/-!
# The receivers

A sample is received by the source, by the Rust SDK or by the Python SDK. All three
split its payload by the size of the blob in its header, which nobody has checked.
Rust and the source stop at zero; in Python the pixel size becomes negative and the
slices count from the end. So the three splits are the same exactly when the
declared blob is no longer than the payload (`splits_agree_iff`).

The source validates the geometry of a sample before it delivers it
(`accepted_of_delivered`). The SDK hands a sample over as it found it, so what it
hands over in a run is validated exactly when every sample it finds passes anyway
(`handedOver_accepted_iff`).
-/

set_option autoImplicit false

namespace GstIceoryx2.Element

open Foundations Video

variable {gst : Gst}

/-! ## The split of a payload -/

/-- A pixel size and the two regions. -/
structure Split where
  pixelSize : Int
  pixels : List UInt8
  aux : List UInt8
  deriving DecidableEq

/-- The split of the Rust SDK. -/
def rustSplit (sample : VideoFrame) : Split where
  pixelSize := sample.pixelSize
  pixels := sample.pixels
  aux := sample.aux

/-- The split of the Python SDK. -/
def pythonSplit (sample : VideoFrame) : Split where
  pixelSize := (Python.VideoFrame.init sample).pixelSize
  pixels := (Python.VideoFrame.init sample).pixels.contents
  aux := (Python.VideoFrame.init sample).aux.contents

/-- The split of the source, whose blob is cut to the payload. -/
def sourceSplit (sample : VideoFrame) : Split :=
  let pixelSize := sample.payload.length - Source.auxSizeOf sample
  { pixelSize := pixelSize
    pixels := sample.payload.take pixelSize
    aux := sample.payload.drop pixelSize }

/-- The source delivers the pixels of its split, and parses the rest. -/
theorem sourceSplit_delivered (sample : VideoFrame) :
    (Source.deliveredBuffer gst sample).pixels = (sourceSplit sample).pixels ∧
      Source.auxOf gst sample = Source.parseAux gst (sourceSplit sample).aux := by
  simp only [sourceSplit, Source.pixelSize_eq]
  exact ⟨rfl, Source.auxOf_eq gst sample⟩

theorem sourceSplit_eq (sample : VideoFrame) : sourceSplit sample = rustSplit sample := by
  simp only [sourceSplit, Source.pixelSize_eq]
  rfl

/-- **The three receivers split a payload into the same regions, at the length that
the blob leaves, exactly when the declared blob is no longer than the payload.** -/
theorem splits_agree_iff (sample : VideoFrame) :
    (pythonSplit sample = rustSplit sample ∧ sourceSplit sample = rustSplit sample ∧
      (rustSplit sample).pixelSize =
        max ((sample.payload.length : Int) - sample.header.auxSize.toNat) 0 ∧
      (rustSplit sample).pixels ++ (rustSplit sample).aux = sample.payload) ↔
      sample.header.auxSize.toNat ≤ sample.payload.length := by
  have size : (rustSplit sample).pixelSize =
      max ((sample.payload.length : Int) - sample.header.auxSize.toNat) 0 := by
    simp only [rustSplit, VideoFrame.pixelSize]
    omega
  constructor
  · rintro ⟨same, -⟩
    have negative : (Python.VideoFrame.init sample).pixelSize = sample.pixelSize :=
      congrArg Split.pixelSize same
    simp only [Python.VideoFrame.pixelSize, Python.VideoFrame.init, VideoFrame.pixelSize]
      at negative
    omega
  · intro holds
    obtain ⟨pixelSize, pixels, aux⟩ := Python.VideoFrame.regions_init holds
    refine ⟨?_, sourceSplit_eq sample, size, sample.pixels_append_aux⟩
    simp only [pythonSplit, pixelSize, pixels, aux, rustSplit]

/-- A header that declares two bytes more than there are. -/
def overlongSample : VideoFrame where
  header := { onePixelHeader 4 with auxSize := 6 }
  payload := [1, 2, 3, 4]

/-- **A blob that is declared longer than the payload leaves no pixels in Rust, and
two of four bytes in Python.** -/
theorem splits_disagree :
    rustSplit overlongSample = ⟨0, [], [1, 2, 3, 4]⟩ ∧
      pythonSplit overlongSample = ⟨-2, [1, 2], [3, 4]⟩ := by
  exact ⟨by decide, by decide⟩

/-! ## The check before a sample is handed over -/

/-- The languages of the SDK. -/
inductive Language where
  | rust
  | python

/-- The validator of a language accepts a sample against its pixel region. -/
def Accepted : Language → VideoFrame → Prop
  | .rust, sample => validateGeometry .bits64 sample.header sample.pixelSize = .ok ()
  | .python, sample =>
      Python.validateGeometry sample.header (Python.VideoFrame.init sample).pixelSize = .ok none

/-- A sample that is no sentinel is accepted. -/
def AcceptedFrame (language : Language) (sample : VideoFrame) : Prop :=
  sample.isEos = false → Accepted language sample

/-- What the source delivers is accepted. -/
theorem accepted_of_delivered {downstream : gst.Caps → Bool} {state next : Source.State gst}
    {sample : VideoFrame} {buffer : Source.Delivered gst}
    (delivered : Source.takeSample downstream state sample = (next, .delivered buffer)) :
    Accepted .rust sample :=
  (Source.takeSample_eq_delivered_iff.mp delivered).2.1

section HandedOver

open Transport

variable {Publisher : Type} [DecidableEq Publisher] {state : Transport.State Publisher VideoFrame}
variable {events : List (Event Publisher VideoFrame)}

/-- **The SDK hands over only accepted frames in exactly the runs where every frame
that one of its calls finds queued is accepted anyway.** -/
theorem handedOver_accepted_iff (language : Language)
    (run : Run State.step unguarded State.started events state) :
    state.AllHandedOver (AcceptedFrame language) ↔
      Run State.step (State.FindsOnly (AcceptedFrame language)) State.started events state :=
  State.handedOver_iff (AcceptedFrame language) run

end HandedOver

/-- A sample whose one plane is longer than its payload. -/
def overrunSample : VideoFrame where
  header := onePixelHeader 5
  payload := [1, 2, 3, 4]

/-- A sample is sent, and a call of the SDK finds it. -/
def receivedEvents (sample : VideoFrame) (request : Transport.Request VideoFrame) :
    List (Transport.Event Unit VideoFrame) :=
  [.publisher () (.start (.renderZeroCopy sample)), .publisher () (.send 0),
    .publisher () (.notify false), .subscriber (.call request),
    .subscriber (.receive (some ()))]

/-- A run in which the one frame that is found is accepted. -/
theorem handedOver_accepted_iff_onePixel :
    ∃ state, state.returns = [⟨.receive, .frame ⟨onePixelHeader 4, [1, 2, 3, 4]⟩, .notWaited,
        false⟩] ∧
      Run Transport.State.step (Transport.State.FindsOnly (AcceptedFrame .rust))
        Transport.State.started (receivedEvents ⟨onePixelHeader 4, [1, 2, 3, 4]⟩ .receive)
        state := by
  refine ⟨_, rfl, (handedOver_accepted_iff .rust (execute_eq_some_iff.mp rfl)).mp ?_⟩
  intro result returned frame handed
  obtain rfl := List.mem_singleton.mp returned
  cases handed
  intro _
  exact (by decide : validateGeometry .bits64 (onePixelHeader 4) 4 = .ok ())

/-- A call hands over the sample, which neither validator accepts. -/
def HandsOverOverrun (request : Transport.Request VideoFrame) : Prop :=
  ∃ state, Run Transport.State.step unguarded Transport.State.started
      (receivedEvents overrunSample request) state ∧
    ¬ state.AllHandedOver (AcceptedFrame .rust) ∧ ¬ state.AllHandedOver (AcceptedFrame .python)

theorem handsOverOverrun_of_returned {request : Transport.Request VideoFrame}
    {state : Transport.State Unit VideoFrame}
    (run : Run Transport.State.step unguarded Transport.State.started
      (receivedEvents overrunSample request) state)
    (returned : ∃ result ∈ state.returns, result.reply = .frame overrunSample) :
    HandsOverOverrun request := by
  obtain ⟨result, member, handed⟩ := returned
  refine ⟨state, run, ?_, ?_⟩
  · intro all
    exact absurd (all result member _ handed (by decide)) (by unfold Accepted; decide)
  · intro all
    exact absurd (all result member _ handed (by decide)) (by unfold Accepted; decide)

/-- **Every call of the SDK hands over a sample that the source drops.** -/
theorem handedOver_overrun :
    HandsOverOverrun .receive ∧ HandsOverOverrun (.receiveBlocking none) ∧
      HandsOverOverrun (.pyReceiveBlocking none) := by
  refine ⟨?_, ?_, ?_⟩
  all_goals
    exact handsOverOverrun_of_returned (execute_eq_some_iff.mp rfl)
      ⟨_, List.mem_singleton_self _, rfl⟩

end GstIceoryx2.Element
