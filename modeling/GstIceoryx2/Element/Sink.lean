import GstIceoryx2.Video.Frame
import GstIceoryx2.Element.Gst

/-!
# The sink

The sink caches the negotiated layout and publishes every rendered buffer. A
buffer whose loan is in the registry already holds its pixels in shared memory:
the aux blob is written behind them, the slack of the reserve is zeroed, and the
loan is sent. Any other buffer is copied into a loan of its own, of just the size
of the pixels and the blob.

A loan is memory that may not be written yet. Sending it asserts that all of it
is, which is undefined when it is not (`Loan.assumeInit`).
-/

set_option autoImplicit false

namespace GstIceoryx2.Element

open Foundations Video

variable {gst : Gst}

/-! ## Loaned memory -/

/-- A byte of a loan, `none` before it is written. -/
abbrev MemByte := Option UInt8

/-- Copy bytes over a region, as far as both reach. -/
def copyInto : List MemByte → List MemByte → List MemByte
  | _ :: region, byte :: bytes => byte :: copyInto region bytes
  | region, _ => region

/-- The bytes of a region that is written throughout. -/
def initialised : List MemByte → Option (List UInt8)
  | [] => some []
  | none :: _ => none
  | some byte :: region => (initialised region).map (byte :: ·)

/-- A header and a payload that may not be written yet. -/
structure Loan where
  header : VideoFrameHeader
  payload : List MemByte
  deriving DecidableEq

/-- The sample to send, when the whole payload is written. -/
def Loan.assumeInit (loan : Loan) : Option VideoFrame :=
  (initialised loan.payload).map fun bytes => ⟨loan.header, bytes⟩

/-- Bytes that fit replace the front of the region. -/
theorem copyInto_eq_append {region bytes : List MemByte} (fits : bytes.length ≤ region.length) :
    copyInto region bytes = bytes ++ region.drop bytes.length := by
  induction region generalizing bytes with
  | nil =>
      rw [List.length_eq_zero_iff.mp (Nat.le_zero.mp fits)]
      rfl
  | cons byte region ih =>
      cases bytes with
      | nil => rfl
      | cons head bytes =>
          simp only [copyInto, List.length_cons, List.cons_append, List.drop_succ_cons,
            ih (Nat.le_of_succ_le_succ fits)]

theorem initialised_eq_some_iff {region : List MemByte} {bytes : List UInt8} :
    initialised region = some bytes ↔ region = bytes.map some := by
  induction region generalizing bytes with
  | nil => cases bytes <;> simp [initialised]
  | cons byte region ih =>
      cases byte with
      | none => cases bytes <;> simp [initialised]
      | some byte =>
          cases bytes with
          | nil => simp [initialised]
          | cons head bytes =>
              simp only [initialised, Option.map_eq_some_iff, ih, List.cons.injEq, List.map_cons,
                Option.some.injEq]
              constructor
              · rintro ⟨rest, written, rfl, rfl⟩
                exact ⟨rfl, written⟩
              · rintro ⟨rfl, written⟩
                exact ⟨bytes, written, rfl, rfl⟩

/-- Bytes that fill the region replace it. -/
theorem copyInto_of_length_eq {region bytes : List MemByte} (fills : bytes.length = region.length) :
    copyInto region bytes = bytes := by
  rw [copyInto_eq_append (Nat.le_of_eq fills), fills, List.drop_length, List.append_nil]

/-- A loan is sent as the bytes written to it. -/
theorem Loan.assumeInit_map_some (header : VideoFrameHeader) (bytes : List UInt8) :
    (⟨header, bytes.map some⟩ : Loan).assumeInit = some ⟨header, bytes⟩ := by
  rw [Loan.assumeInit, initialised_eq_some_iff.mpr rfl]
  rfl

/-- What is sent was written. -/
theorem Loan.payload_of_assumeInit {loan : Loan} {frame : VideoFrame}
    (sent : loan.assumeInit = some frame) : loan.payload = frame.payload.map some := by
  obtain ⟨bytes, written, rfl⟩ := Option.map_eq_some_iff.mp sent
  exact initialised_eq_some_iff.mp written

namespace Sink

/-! ## The cached layout -/

/-- The negotiated layout, copied into every header. -/
structure CapsInfo where
  format : String
  width : UInt32
  height : UInt32
  nPlanes : UInt32
  stride : Vector UInt32 maxPlanes
  planeOffsets : Vector UInt32 maxPlanes
  size : Nat
  deriving DecidableEq

/-- What the sink remembers of the negotiated caps. -/
structure State (gst : Gst) where
  caps : Option CapsInfo
  capsFull : Option gst.Caps

/-- Before any caps. -/
def State.started (gst : Gst) : State gst where
  caps := none
  capsFull := none

/-- The entries of the planes there are, and zero for the others. -/
def planeArray {α : Type} (nPlanes : UInt32) (entries : List α) (cast : α → UInt32) :
    Vector UInt32 maxPlanes :=
  Vector.ofFn fun plane =>
    if plane.val < min nPlanes.toNat maxPlanes then
      (entries[plane.val]?.map cast).getD 0
    else
      0

/-- The layout to cache. Strides and offsets are cut to 32 bits. -/
def capsInfo (info : VideoInfo) : CapsInfo where
  format := info.format.toStr
  width := info.width
  height := info.height
  nPlanes := info.nPlanes
  stride := planeArray info.nPlanes info.stride Int32.toUInt32
  planeOffsets := planeArray info.nPlanes info.offset UInt32.ofNat
  size := info.size

/-- Negotiate caps. Caps without a layout are refused, and change nothing. -/
def setCaps (state : State gst) (caps : gst.Caps) : Except Unit (State gst) :=
  match gst.videoInfo caps with
  | none => .error ()
  | some info => .ok { state with caps := some (capsInfo info), capsFull := some caps }

/-! ## The header and the aux blob -/

/-- A timestamp as the header has it. -/
def nsecondsOrNone (time : Option ClockTime) : UInt64 :=
  match time with
  | some time => time.nseconds
  | none => noTime

/-- The header for a buffer, still without a blob. -/
def buildHeader (buffer : Buffer gst) (caps : CapsInfo) : VideoFrameHeader :=
  let header : VideoFrameHeader := {
    pts := nsecondsOrNone buffer.pts
    dts := nsecondsOrNone buffer.dts
    duration := nsecondsOrNone buffer.duration
    offset := buffer.offset
    flags := buffer.flags.bits.toUInt64
    width := caps.width
    height := caps.height
    nPlanes := caps.nPlanes
    auxSize := 0
    stride := caps.stride
    planeOffsets := caps.planeOffsets
    format := Vector.replicate formatLen 0 }
  header.setFormat caps.format

/-- The metas of a buffer that can be serialised, but not its layout. -/
def serializedMetas (buffer : Buffer gst) : List (List UInt8) :=
  buffer.metas.filterMap fun
    | .videoMeta => none
    | .other serialized => serialized

/-- The aux blob, or none when no caps are known. -/
def auxBlob (caps : Option gst.Caps) (buffer : Buffer gst) (limit : Option Nat) : List UInt8 :=
  match caps with
  | some caps => buildAux (gst.capsToString caps) (serializedMetas buffer) limit
  | none => []

/-- The smallest blob there is: no caps and no metas. -/
def auxMinBytes : Nat := 8

/-! ## The two render paths -/

/-- The blob for a reserved tail: none when the tail is too small for any, or for
the caps. -/
def tailBlob (caps : Option gst.Caps) (buffer : Buffer gst) (tail : Nat) : List UInt8 :=
  if tail ≥ auxMinBytes then
    let blob := auxBlob caps buffer (some tail)
    if blob.length ≤ tail then blob else []
  else
    []

/-- Write the blob into the tail and zeros into the slack behind it. -/
def fillTail (region : List MemByte) (blob : List UInt8) : List MemByte :=
  let written := copyInto region (blob.map some)
  written.take blob.length ++ (written.drop blob.length).map fun _ => some 0

/-- The zero-copy path: the loan already holds the pixels. -/
def renderZeroCopy (caps : CapsInfo) (capsFull : Option gst.Caps) (buffer : Buffer gst)
    (payload : List MemByte) : Loan :=
  let total := payload.length
  let pixelSize := min caps.size total
  let tail := total - pixelSize
  { header := { buildHeader buffer caps with auxSize := UInt32.ofNat tail }
    payload := payload.take pixelSize ++
      fillTail (payload.drop pixelSize) (tailBlob capsFull buffer tail) }

/-- The copy path: a fresh loan for the mapped pixels and the whole blob. -/
def renderCopy (caps : CapsInfo) (capsFull : Option gst.Caps) (buffer : Buffer gst)
    (src : List MemByte) : Loan :=
  let blob := auxBlob capsFull buffer none
  let payload : List MemByte := List.replicate (src.length + blob.length) none
  { header := { buildHeader buffer caps with auxSize := UInt32.ofNat blob.length }
    payload := copyInto (payload.take src.length) src ++
      copyInto (payload.drop src.length) (blob.map some) }

/-- Render a buffer: its registered loan is sent, or else its mapped pixels are
copied. Without caps nothing is rendered. -/
def render (state : State gst) (buffer : Buffer gst) (registered : Option (List MemByte))
    (src : List MemByte) : Except Unit Loan :=
  match state.caps with
  | none => .error ()
  | some caps =>
      match registered with
      | some payload => .ok (renderZeroCopy caps state.capsFull buffer payload)
      | none => .ok (renderCopy caps state.capsFull buffer src)

/-- The end-of-stream sentinel. -/
def eosFrame : VideoFrame where
  header := { VideoFrameHeader.zeroed with flags := headerFlagEos }
  payload := [0]

/-! ## What the paths write -/

theorem length_tailBlob_le (caps : Option gst.Caps) (buffer : Buffer gst) (tail : Nat) :
    (tailBlob caps buffer tail).length ≤ tail := by
  simp only [tailBlob]
  split_ifs with roomy fits
  · exact fits
  · exact Nat.zero_le _
  · exact Nat.zero_le _

/-- A filled tail is the blob and zeros, whatever was there. -/
theorem fillTail_eq {region : List MemByte} {blob : List UInt8}
    (fits : blob.length ≤ region.length) :
    fillTail region blob =
      (blob ++ List.replicate (region.length - blob.length) 0).map some := by
  have written := copyInto_eq_append
    (by rwa [List.length_map] : (blob.map some : List MemByte).length ≤ region.length)
  rw [List.length_map] at written
  have front : (blob.map some : List MemByte).length = blob.length := List.length_map ..
  simp only [fillTail, written, List.map_append, List.map_replicate]
  rw [← front, List.take_left, List.drop_left, List.map_const', List.length_drop, front]

/-- **A pool buffer is sent as its pixels, the blob for its reserve and zeros,
whatever the reserve held.** -/
theorem renderZeroCopy_eq {caps : CapsInfo} {pixels : List UInt8}
    (sized : pixels.length = caps.size) (capsFull : Option gst.Caps) (buffer : Buffer gst)
    (reserve : List MemByte) :
    (renderZeroCopy caps capsFull buffer (pixels.map some ++ reserve)).assumeInit =
      some {
        header := { buildHeader buffer caps with auxSize := UInt32.ofNat reserve.length }
        payload := pixels ++ (tailBlob capsFull buffer reserve.length ++
          List.replicate
            (reserve.length - (tailBlob capsFull buffer reserve.length).length) 0) } := by
  have front : (pixels.map some : List MemByte).length = caps.size := by
    rw [List.length_map, sized]
  have total : (pixels.map some ++ reserve).length = caps.size + reserve.length := by
    rw [List.length_append, front]
  have pixelSize : min caps.size (caps.size + reserve.length) = caps.size :=
    Nat.min_eq_left (Nat.le_add_right _ _)
  have fits := length_tailBlob_le capsFull buffer reserve.length
  simp only [renderZeroCopy, total, pixelSize, Nat.add_sub_cancel_left]
  rw [← front, List.take_left, List.drop_left, fillTail_eq fits, ← List.map_append,
    Loan.assumeInit_map_some]

/-- **A copied buffer is sent as its pixels and the whole blob.** -/
theorem renderCopy_eq (caps : CapsInfo) (capsFull : Option gst.Caps) (buffer : Buffer gst)
    (pixels : List UInt8) :
    (renderCopy caps capsFull buffer (pixels.map some)).assumeInit =
      some {
        header := { buildHeader buffer caps with
          auxSize := UInt32.ofNat (auxBlob capsFull buffer none).length }
        payload := pixels ++ auxBlob capsFull buffer none } := by
  have front : (pixels.map some : List MemByte).length = pixels.length := List.length_map ..
  simp only [renderCopy, front]
  rw [copyInto_of_length_eq, copyInto_of_length_eq, ← List.map_append, Loan.assumeInit_map_some]
  · simp
  · simp

end Sink

end GstIceoryx2.Element
