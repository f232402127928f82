import GstIceoryx2.Video.Frame
import GstIceoryx2.Element.Gst

/-!
# The source

The source takes a sample, splits its payload, validates its geometry, chooses
the caps for it and delivers a buffer. Caps come from the aux blob when it has
any that parse, and are built from the header otherwise. They are negotiated
when they differ from the last ones chosen, and are in force from then on.

The last caps are remembered before they are negotiated, so a refusal leaves
them remembered and not in force.
-/

set_option autoImplicit false

namespace GstIceoryx2.Element.Source

open Foundations Video

variable {gst : Gst}

/-! ## The layout of a header -/

/-- The layout recovered from a header. -/
structure CapsInfo where
  format : String
  width : UInt32
  height : UInt32
  nPlanes : UInt32
  stride : Vector UInt32 maxPlanes
  planeOffsets : Vector UInt32 maxPlanes
  deriving DecidableEq

namespace CapsInfo

def fromHeader (header : VideoFrameHeader) : CapsInfo where
  format := header.formatName
  width := header.width
  height := header.height
  nPlanes := header.nPlanes
  stride := header.stride
  planeOffsets := header.planeOffsets

def videoFormat (gst : Gst) (info : CapsInfo) : VideoFormat :=
  gst.videoFormat info.format

/-- Caps for the layout, when its format is known. -/
def toCaps (gst : Gst) (info : CapsInfo) : Option gst.Caps :=
  match info.videoFormat gst with
  | .unknown => none
  | .encoded => none
  | .raw name => gst.buildCaps (.raw name) info.width info.height

end CapsInfo

/-! ## The aux blob -/

/-- The contents of an aux blob, with its caps parsed. -/
structure ParsedAux (gst : Gst) where
  caps : Option gst.Caps
  metas : List (List UInt8)

/-- Parse an aux blob. Caps that do not parse are dropped. -/
def parseAux (gst : Gst) (aux : List UInt8) : ParsedAux gst :=
  let parsed := Video.parseAux aux
  { caps := parsed.caps.bind gst.parseCaps, metas := parsed.metas }

/-! ## Buffers -/

/-- A delivered buffer. -/
structure Delivered (gst : Gst) where
  pixels : List UInt8
  pts : Option ClockTime
  dts : Option ClockTime
  duration : Option ClockTime
  offset : UInt64
  flags : UInt32
  videoMeta : Option VideoMeta
  metas : List (List UInt8)
  deriving DecidableEq

/-- A timestamp from the header. -/
def optClock (ns : UInt64) : Option ClockTime :=
  if isTime : ns ≠ noTime then some ⟨ns, isTime⟩ else none

/-- The layout to attach: as many planes as declared, but at least one and at most
four. -/
def layoutMeta (info : CapsInfo) (format : VideoFormat) : VideoMeta :=
  let n := max 1 (min info.nPlanes.toNat maxPlanes)
  { format := format
    width := info.width
    height := info.height
    offset := (info.planeOffsets.toList.take n).map UInt32.toNat
    stride := (info.stride.toList.take n).map UInt32.toInt32 }

/-- Attach the layout, when the format is known and the library takes it. -/
def attachLayout (gst : Gst) (info : CapsInfo) (size : Nat) : Option VideoMeta :=
  match info.videoFormat gst with
  | .unknown => none
  | .encoded => none
  | .raw name =>
      let layout := layoutMeta info (.raw name)
      if gst.attachesVideoMeta layout size then some layout else none

/-- Wrap the pixels in a buffer and map the header onto it. Appending the memory
leaves flags of its own, and the header's are added to them. -/
def buildBuffer (gst : Gst) (pixels : List UInt8) (header : VideoFrameHeader) (info : CapsInfo)
    (metas : List (List UInt8)) : Delivered gst where
  pixels := pixels
  pts := optClock header.pts
  dts := optClock header.dts
  duration := optClock header.duration
  offset := header.offset
  flags := gst.appendedFlags |||
    (BufferFlags.fromBitsTruncate header.flags.toUInt32 : BufferFlags gst).bits
  videoMeta := attachLayout gst info pixels.length
  metas := metas.filter gst.deserializesMeta

/-! ## Taking a sample -/

/-- What the source remembers, and the caps that are in force downstream. -/
structure State (gst : Gst) where
  lastCaps : Option gst.Caps
  framesReceived : UInt64
  inForce : Option gst.Caps

/-- Before any sample. -/
def State.started (gst : Gst) : State gst where
  lastCaps := none
  framesReceived := 0
  inForce := none

/-- What becomes of a sample. -/
inductive Outcome (gst : Gst) where
  | eos
  | dropped (why : GeometryError)
  | notNegotiated
  | delivered (buffer : Delivered gst)

/-- The size of the blob, cut to the payload. -/
def auxSizeOf (frame : VideoFrame) : Nat :=
  min frame.header.auxSize.toNat frame.payload.length

/-- What is behind the pixels, parsed when the header declares a blob. -/
def auxOf (gst : Gst) (frame : VideoFrame) : ParsedAux gst :=
  let pixelSize := frame.payload.length - auxSizeOf frame
  if auxSizeOf frame > 0 then parseAux gst (frame.payload.drop pixelSize)
  else { caps := none, metas := [] }

/-- The publisher's caps, or caps built from the header when none travelled. -/
def chosenCaps (gst : Gst) (frame : VideoFrame) : Option gst.Caps :=
  match (auxOf gst frame).caps with
  | some caps => some caps
  | none => (CapsInfo.fromHeader frame.header).toCaps gst

/-- Negotiate caps that changed, and wrap the payload. -/
def deliver (downstream : gst.Caps → Bool) (state : State gst) (pixels : List UInt8)
    (header : VideoFrameHeader) (info : CapsInfo) (caps : gst.Caps) (capsChanged : Bool)
    (metas : List (List UInt8)) : State gst × Outcome gst :=
  let buffer := buildBuffer gst pixels header info metas
  if capsChanged then
    if downstream caps then ({ state with inForce := some caps }, .delivered buffer)
    else (state, .notNegotiated)
  else
    (state, .delivered buffer)

/-- Take one sample, as `create` does with each until it returns. -/
def takeSample (downstream : gst.Caps → Bool) (state : State gst) (frame : VideoFrame) :
    State gst × Outcome gst :=
  let header := frame.header
  if header.isEos then (state, .eos)
  else
    let pixelSize := frame.payload.length - auxSizeOf frame
    match validateGeometry .bits64 header pixelSize with
    | .error why => (state, .dropped why)
    | .ok () =>
        let state := { state with framesReceived := state.framesReceived + 1 }
        match chosenCaps gst frame with
        | none => (state, .notNegotiated)
        | some caps =>
            let capsChanged := state.lastCaps != some caps
            let state := if capsChanged then { state with lastCaps := some caps } else state
            deliver downstream state (frame.payload.take pixelSize) header
              (CapsInfo.fromHeader header) caps capsChanged (auxOf gst frame).metas

/-! ## What a step does -/

theorem pixelSize_eq (frame : VideoFrame) :
    frame.payload.length - auxSizeOf frame = frame.pixelSize := by
  rw [auxSizeOf, VideoFrame.pixelSize]
  omega

/-- The blob is what a receiver splits off. -/
theorem auxOf_eq (gst : Gst) (frame : VideoFrame) :
    auxOf gst frame = parseAux gst frame.aux := by
  have none : auxSizeOf frame = 0 → frame.aux = [] := by
    intro empty
    rw [VideoFrame.aux, ← pixelSize_eq, empty, Nat.sub_zero, List.drop_length]
  unfold auxOf
  split
  · rw [pixelSize_eq, VideoFrame.aux]
  · rw [none (by omega)]
    rfl

/-- What the source delivers for a sample it accepts. -/
def deliveredBuffer (gst : Gst) (frame : VideoFrame) : Delivered gst :=
  buildBuffer gst frame.pixels frame.header (CapsInfo.fromHeader frame.header)
    (auxOf gst frame).metas

theorem takeSample_of_sentinel (downstream : gst.Caps → Bool) (state : State gst)
    {frame : VideoFrame} (sentinel : frame.isEos = true) :
    takeSample downstream state frame = (state, .eos) := by
  rw [VideoFrame.isEos] at sentinel
  simp only [takeSample, sentinel, if_true]

theorem not_isEos_header {frame : VideoFrame} (live : frame.isEos = false) :
    ¬ frame.header.isEos = true := by
  rw [← VideoFrame.isEos, live]
  exact Bool.false_ne_true

/-- A sample with a rejected geometry changes nothing. -/
theorem takeSample_of_rejected (downstream : gst.Caps → Bool) (state : State gst)
    {frame : VideoFrame} {why : GeometryError} (live : frame.isEos = false)
    (rejected : validateGeometry .bits64 frame.header frame.pixelSize = .error why) :
    takeSample downstream state frame = (state, .dropped why) := by
  simp only [takeSample, pixelSize_eq, if_neg (not_isEos_header live), rejected]

theorem takeSample_of_no_caps (downstream : gst.Caps → Bool) (state : State gst)
    {frame : VideoFrame} (live : frame.isEos = false)
    (accepted : validateGeometry .bits64 frame.header frame.pixelSize = .ok ())
    (none : chosenCaps gst frame = none) :
    takeSample downstream state frame =
      ({ state with framesReceived := state.framesReceived + 1 }, .notNegotiated) := by
  simp only [takeSample, pixelSize_eq, if_neg (not_isEos_header live), accepted, none]

/-- **What becomes of a sample with an accepted geometry and caps.** Remembered
caps are not negotiated again, and caps that are refused are remembered. -/
theorem takeSample_of_accepted (downstream : gst.Caps → Bool) (state : State gst)
    {frame : VideoFrame} {caps : gst.Caps} (live : frame.isEos = false)
    (accepted : validateGeometry .bits64 frame.header frame.pixelSize = .ok ())
    (chosen : chosenCaps gst frame = some caps) :
    takeSample downstream state frame =
      if state.lastCaps = some caps then
        ({ state with framesReceived := state.framesReceived + 1 },
          .delivered (deliveredBuffer gst frame))
      else if downstream caps = true then
        ({ lastCaps := some caps, framesReceived := state.framesReceived + 1,
           inForce := some caps }, .delivered (deliveredBuffer gst frame))
      else
        ({ state with lastCaps := some caps, framesReceived := state.framesReceived + 1 },
          .notNegotiated) := by
  simp only [takeSample, pixelSize_eq, if_neg (not_isEos_header live), accepted, chosen, deliver]
  by_cases remembered : state.lastCaps = some caps
  · simp only [remembered, bne_self_eq_false, if_true, Bool.false_eq_true, if_false]
    rfl
  · have changed : (state.lastCaps != some caps) = true := bne_iff_ne.mpr remembered
    simp only [changed, remembered, if_true, if_false]
    rfl

/-- **A delivery is of a sample that is no sentinel, has an accepted geometry and
caps, and either finds its caps remembered or negotiates them.** -/
theorem takeSample_eq_delivered_iff {downstream : gst.Caps → Bool} {state next : State gst}
    {frame : VideoFrame} {buffer : Delivered gst} :
    takeSample downstream state frame = (next, .delivered buffer) ↔
      frame.isEos = false ∧
        validateGeometry .bits64 frame.header frame.pixelSize = .ok () ∧
        buffer = deliveredBuffer gst frame ∧
        ∃ caps, chosenCaps gst frame = some caps ∧
          ((state.lastCaps = some caps ∧
              next = { state with framesReceived := state.framesReceived + 1 }) ∨
            (state.lastCaps ≠ some caps ∧ downstream caps = true ∧
              next = { lastCaps := some caps, framesReceived := state.framesReceived + 1,
                       inForce := some caps })) := by
  constructor
  · intro delivered
    have live : frame.isEos = false := by
      by_contra sentinel
      rw [takeSample_of_sentinel downstream state (eq_true_of_ne_false sentinel)] at delivered
      cases delivered
    cases accepted : validateGeometry .bits64 frame.header frame.pixelSize with
    | error why =>
        rw [takeSample_of_rejected downstream state live accepted] at delivered
        cases delivered
    | ok _ =>
        cases chosen : chosenCaps gst frame with
        | none =>
            rw [takeSample_of_no_caps downstream state live accepted chosen] at delivered
            cases delivered
        | some caps =>
            rw [takeSample_of_accepted downstream state live accepted chosen] at delivered
            split_ifs at delivered with remembered taken
            · cases delivered
              exact ⟨live, rfl, rfl, caps, rfl, .inl ⟨remembered, rfl⟩⟩
            · cases delivered
              exact ⟨live, rfl, rfl, caps, rfl, .inr ⟨remembered, taken, rfl⟩⟩
            · cases delivered
  · rintro ⟨live, accepted, rfl, caps, chosen, ⟨remembered, rfl⟩ | ⟨changed, taken, rfl⟩⟩
    · rw [takeSample_of_accepted downstream state live accepted chosen, if_pos remembered]
    · rw [takeSample_of_accepted downstream state live accepted chosen, if_neg changed,
        if_pos taken]

end GstIceoryx2.Element.Source
