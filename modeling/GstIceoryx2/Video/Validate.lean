import GstIceoryx2.Foundations.StridedPlane
import GstIceoryx2.Video.Header

/-!
# Validation of received geometry

A received header is untrusted: any process on the service can publish one. The
validator knows the number of rows of every plane of the supported formats, and
accepts a header when its plane count is that of its format and the declared
extent `offset + stride * rows` of every plane is inside the payload
(`validateGeometry_eq_ok_iff`). Extents are computed with checked arithmetic in
the receiver's word size, and an overflow is an error of its own.

A reader of the layout addresses the bytes of every row, and their number comes
from the width, which the validator does not look at. What an accepted header
guarantees about a reader is therefore bounded by how far a row overhangs its
stride (`validateGeometry_reader_inside_iff`).
-/

set_option autoImplicit false

namespace GstIceoryx2.Video

open Foundations

/-! ## Word sizes and checked arithmetic -/

/-- The word sizes of the targets. -/
inductive WordSize where
  | bits32
  | bits64
  deriving DecidableEq

namespace WordSize

/-- The number of values of a `usize`. A `u32` always is one. -/
def limit : WordSize → Nat
  | bits32 => 2 ^ 32
  | bits64 => 2 ^ 64

def checkedMul (word : WordSize) (a b : Nat) : Option Nat :=
  if a * b < word.limit then some (a * b) else none

def checkedAdd (word : WordSize) (a b : Nat) : Option Nat :=
  if a + b < word.limit then some (a + b) else none

end WordSize

/-- `u32::div_ceil`. -/
def divCeil (n d : UInt32) : UInt32 :=
  if n % d > 0 then n / d + 1 else n / d

theorem toNat_divCeil_two (n : UInt32) : (divCeil n 2).toNat = (n.toNat + 1) / 2 := by
  have bound := n.toNat_lt
  unfold divCeil
  split
  · rename_i odd
    have odd' : n.toNat % 2 > 0 := UInt32.lt_iff_toNat_lt.mp odd
    rw [UInt32.toNat_add, UInt32.toNat_div]
    simp only [UInt32.reduceToNat]
    omega
  · rename_i even
    have even' : ¬ n.toNat % 2 > 0 := fun odd => even (UInt32.lt_iff_toNat_lt.mpr odd)
    rw [UInt32.toNat_div]
    simp only [UInt32.reduceToNat]
    omega

/-! ## Formats -/

/-- The formats both ends accept, in order of preference. -/
def supportedFormats : List String := ["BGR", "RGB", "I420", "NV12"]

/-- The rows of every plane of a supported format. -/
def planeHeights (format : String) (height : UInt32) : Option (List UInt32) :=
  let chroma := divCeil height 2
  if format = "BGR" ∨ format = "RGB" then some [height]
  else if format = "I420" then some [height, chroma, chroma]
  else if format = "NV12" then some [height, chroma]
  else none

/-- The bytes a reader reads in every row of every plane of a supported format. -/
def rowLengths (format : String) (width : UInt32) : List Nat :=
  let chroma := (width.toNat + 1) / 2
  if format = "BGR" ∨ format = "RGB" then [3 * width.toNat]
  else if format = "I420" then [width.toNat, chroma, chroma]
  else if format = "NV12" then [width.toNat, 2 * chroma]
  else []

/-- **The validator knows exactly the supported formats.** -/
theorem planeHeights_isSome_iff {format : String} (height : UInt32) :
    (planeHeights format height).isSome ↔ format ∈ supportedFormats := by
  unfold planeHeights supportedFormats
  simp only [List.mem_cons, List.not_mem_nil, or_false]
  split_ifs <;> simp only [Option.isSome_some, Option.isSome_none, Bool.false_eq_true] <;> tauto

theorem length_planeHeights {format : String} {height : UInt32} (width : UInt32)
    {heights : List UInt32}
    (known : planeHeights format height = some heights) :
    heights.length = (rowLengths format width).length ∧ 0 < heights.length ∧
      heights.length ≤ 3 := by
  unfold planeHeights at known
  unfold rowLengths
  split_ifs at known ⊢ <;> cases known <;> simp

/-! ## The validator -/

/-- Why a header is rejected. The size of the pixel region is signed, since Python computes
it by a subtraction. -/
inductive GeometryError where
  | planesOutOfRange (nPlanes : Nat)
  | unsupportedFormat (format : String)
  | planeCount (nPlanes expected : Nat) (format : String)
  | extentOverflow (plane : Nat)
  | extentExceeds (plane extent : Nat) (pixelSize : Int)
  deriving DecidableEq

/-- The reason as the validator reports it, given how a name is quoted. -/
def GeometryError.message (quoted : String → String) : GeometryError → String
  | planesOutOfRange nPlanes => s!"n_planes {nPlanes} out of range 1..={maxPlanes}"
  | unsupportedFormat format => s!"unsupported format {quoted format}"
  | planeCount nPlanes expected format =>
      s!"n_planes {nPlanes} != {expected} expected for {quoted format}"
  | extentOverflow plane => s!"plane {plane} extent overflow"
  | extentExceeds plane extent pixelSize =>
      s!"plane {plane} extent {extent} exceeds payload {pixelSize}"

namespace VideoFrameHeader

/-- A plane's offset. No plane of a known format has an index out of range. -/
def offsetAt (header : VideoFrameHeader) (plane : Nat) : Nat :=
  (header.planeOffsets[plane]?.getD 0).toNat

/-- A plane's stride. -/
def strideAt (header : VideoFrameHeader) (plane : Nat) : Nat :=
  (header.stride[plane]?.getD 0).toNat

end VideoFrameHeader

/-- The end of the room declared for a plane, when it is a word. -/
def checkedExtent (word : WordSize) (off stride rows : Nat) : Option Nat :=
  (word.checkedMul stride rows).bind fun span => word.checkedAdd off span

/-- The loop of the validator over the planes from a given one on. -/
def checkPlanes (word : WordSize) (header : VideoFrameHeader) (pixelSize : Nat) :
    Nat → List UInt32 → Except GeometryError Unit
  | _, [] => .ok ()
  | plane, rows :: heights =>
      match checkedExtent word (header.offsetAt plane) (header.strideAt plane) rows.toNat with
      | none => .error (.extentOverflow plane)
      | some extent =>
          if extent > pixelSize then .error (.extentExceeds plane extent pixelSize)
          else checkPlanes word header pixelSize (plane + 1) heights

/-- Reject a header whose declared planes would reach past the payload, or whose
plane count is impossible. -/
def validateGeometry (word : WordSize) (header : VideoFrameHeader) (pixelSize : Nat) :
    Except GeometryError Unit :=
  let n := header.nPlanes.toNat
  if n = 0 ∨ n > maxPlanes then .error (.planesOutOfRange n)
  else
    let format := header.formatName
    match planeHeights format header.height with
    | none => .error (.unsupportedFormat format)
    | some heights =>
        if heights.length ≠ n then .error (.planeCount n heights.length format)
        else checkPlanes word header pixelSize 0 heights

/-! ## What a reader reads -/

/-- The planes as a reader of the layout reads them, from a given one on. -/
def planesFrom (header : VideoFrameHeader) : Nat → List UInt32 → List Nat → List StridedPlane
  | plane, rows :: heights, rowLength :: lengths =>
      { offset := header.offsetAt plane, stride := header.strideAt plane,
        rows := rows.toNat, rowLength := rowLength } ::
        planesFrom header (plane + 1) heights lengths
  | _, _, _ => []

@[simp] theorem planesFrom_nil (header : VideoFrameHeader) (plane : Nat) (lengths : List Nat) :
    planesFrom header plane [] lengths = [] := by
  rw [planesFrom]
  intro rows heights rowLength lengths' none
  cases none

namespace VideoFrameHeader

/-- The planes a reader of the header's layout reads. -/
def planes (header : VideoFrameHeader) : List StridedPlane :=
  planesFrom header 0 ((planeHeights header.formatName header.height).getD [])
    (rowLengths header.formatName header.width)

/-- Every byte a reader addresses is in the payload. -/
def ReaderInside (header : VideoFrameHeader) (pixelSize : Nat) : Prop :=
  ∀ plane ∈ header.planes, plane.Inside pixelSize

/-- The plane count is the format's, and every plane's declared extent is in the
payload. -/
structure Declared (header : VideoFrameHeader) (pixelSize : Nat) : Prop where
  known : header.formatName ∈ supportedFormats
  count : header.planes.length = header.nPlanes.toNat
  fits : ∀ plane ∈ header.planes, plane.extent ≤ pixelSize

end VideoFrameHeader

theorem length_planesFrom {header : VideoFrameHeader} {plane : Nat} {heights : List UInt32}
    {lengths : List Nat} (same : heights.length = lengths.length) :
    (planesFrom header plane heights lengths).length = heights.length := by
  induction heights generalizing plane lengths with
  | nil => rfl
  | cons rows heights ih =>
      cases lengths with
      | nil => cases same
      | cons rowLength lengths =>
          simp only [planesFrom, List.length_cons, ih (Nat.succ.inj same)]

/-- An entry is the plane of its position. -/
theorem exists_of_mem_planesFrom {header : VideoFrameHeader} {plane : Nat}
    {heights : List UInt32} {lengths : List Nat} {entry : StridedPlane}
    (member : entry ∈ planesFrom header plane heights lengths) :
    ∃ position, position < heights.length ∧ entry.extent =
      header.offsetAt (plane + position) +
        header.strideAt (plane + position) * (heights.getD position 0).toNat := by
  induction heights generalizing plane lengths with
  | nil => cases member
  | cons rows heights ih =>
      cases lengths with
      | nil => cases member
      | cons rowLength lengths =>
          rcases List.mem_cons.mp member with rfl | later
          · exact ⟨0, Nat.succ_pos _, rfl⟩
          · obtain ⟨position, inside, extent⟩ := ih later
            refine ⟨position + 1, Nat.succ_lt_succ inside, ?_⟩
            rw [extent, List.getD_cons_succ, Nat.add_right_comm, Nat.add_assoc]

/-- Every position has an entry. -/
theorem exists_mem_planesFrom (header : VideoFrameHeader) (plane : Nat) {position : Nat}
    {heights : List UInt32} {lengths : List Nat} (same : heights.length = lengths.length)
    (inside : position < heights.length) :
    ∃ entry ∈ planesFrom header plane heights lengths, entry.extent =
      header.offsetAt (plane + position) +
        header.strideAt (plane + position) * (heights.getD position 0).toNat := by
  induction heights generalizing plane position lengths with
  | nil => cases inside
  | cons rows heights ih =>
      cases lengths with
      | nil => cases same
      | cons rowLength lengths =>
          cases position with
          | zero => exact ⟨_, List.mem_cons_self, rfl⟩
          | succ position =>
              obtain ⟨entry, member, extent⟩ := ih (plane + 1) (Nat.succ.inj same)
                (Nat.lt_of_succ_lt_succ inside)
              refine ⟨entry, List.mem_cons_of_mem _ member, ?_⟩
              rw [extent, List.getD_cons_succ, Nat.add_right_comm, Nat.add_assoc]

theorem planes_of_heights {header : VideoFrameHeader} {heights : List UInt32}
    (known : planeHeights header.formatName header.height = some heights) :
    header.planes =
      planesFrom header 0 heights (rowLengths header.formatName header.width) := by
  rw [VideoFrameHeader.planes, known, Option.getD_some]

/-- A declared layout has one to three planes. -/
theorem VideoFrameHeader.Declared.count_range {header : VideoFrameHeader} {pixelSize : Nat}
    (declared : header.Declared pixelSize) :
    0 < header.nPlanes.toNat ∧ header.nPlanes.toNat ≤ 3 := by
  obtain ⟨heights, known⟩ := Option.isSome_iff_exists.mp
    ((planeHeights_isSome_iff header.height).mpr declared.known)
  obtain ⟨same, some, few⟩ := length_planeHeights header.width known
  rw [← declared.count, planes_of_heights known, length_planesFrom same]
  exact ⟨some, few⟩

/-! ## What the validator accepts -/

theorem checkedExtent_eq_some_iff {word : WordSize} {off stride rows extent : Nat} :
    checkedExtent word off stride rows = some extent ↔
      extent = off + stride * rows ∧ extent < word.limit := by
  simp only [checkedExtent, WordSize.checkedMul, WordSize.checkedAdd]
  split_ifs with span
  · simp only [Option.bind_some]
    split_ifs <;> simp <;> omega
  · simp only [Option.bind_none, reduceCtorEq, false_iff, not_and]
    omega

/-- The loop accepts the planes whose extents are in the payload. -/
theorem checkPlanes_eq_ok_iff {word : WordSize} {header : VideoFrameHeader} {pixelSize : Nat}
    (representable : pixelSize < word.limit) {plane : Nat} {heights : List UInt32}
    {lengths : List Nat} (same : heights.length = lengths.length) :
    checkPlanes word header pixelSize plane heights = .ok () ↔
      ∀ entry ∈ planesFrom header plane heights lengths, entry.extent ≤ pixelSize := by
  induction heights generalizing plane lengths with
  | nil => simp [checkPlanes, planesFrom]
  | cons rows heights ih =>
      cases lengths with
      | nil => cases same
      | cons rowLength lengths =>
          have rest : checkPlanes word header pixelSize (plane + 1) heights = .ok () ↔ _ :=
            ih (Nat.succ.inj same)
          simp only [checkPlanes, planesFrom, List.forall_mem_cons, StridedPlane.extent]
          cases checked : checkedExtent word (header.offsetAt plane) (header.strideAt plane)
              rows.toNat with
          | none =>
              have overflow : ¬ header.offsetAt plane + header.strideAt plane * rows.toNat <
                  word.limit := by
                intro small
                rw [checkedExtent_eq_some_iff.mpr ⟨rfl, small⟩] at checked
                cases checked
              simp only [reduceCtorEq, false_iff, not_and]
              omega
          | some extent =>
              obtain ⟨rfl, -⟩ := checkedExtent_eq_some_iff.mp checked
              simp only
              split_ifs with exceeds
              · simp only [false_iff, not_and]
                omega
              · rw [rest]
                exact (and_iff_right (Nat.le_of_not_lt exceeds)).symm

/-- **The validator accepts exactly the headers whose plane count is the
format's and whose declared extents are in the payload.** -/
theorem validateGeometry_eq_ok_iff {word : WordSize} {header : VideoFrameHeader} {pixelSize : Nat}
    (representable : pixelSize < word.limit) :
    validateGeometry word header pixelSize = .ok () ↔ header.Declared pixelSize := by
  have shape : header.Declared pixelSize ↔ header.formatName ∈ supportedFormats ∧
      header.planes.length = header.nPlanes.toNat ∧
        ∀ plane ∈ header.planes, plane.extent ≤ pixelSize :=
    ⟨fun declared => ⟨declared.known, declared.count, declared.fits⟩,
      fun ⟨known, count, fits⟩ => ⟨known, count, fits⟩⟩
  rw [shape]
  cases known : planeHeights header.formatName header.height with
  | none =>
      have unsupported : header.formatName ∉ supportedFormats := by
        rw [← planeHeights_isSome_iff header.height, known]
        exact Bool.false_ne_true
      simp only [validateGeometry, known, unsupported, false_and, iff_false]
      split <;> exact fun accepted => by cases accepted
  | some heights =>
      obtain ⟨same, some, few⟩ := length_planeHeights header.width known
      have supported : header.formatName ∈ supportedFormats := by
        rw [← planeHeights_isSome_iff header.height, known]
        rfl
      simp only [validateGeometry, known, supported, true_and, planes_of_heights known,
        length_planesFrom same]
      split_ifs with range mismatch
      · simp only [false_iff, not_and, maxPlanes] at range ⊢
        omega
      · simp only [false_iff, not_and]
        exact fun equal => absurd equal mismatch
      · rw [checkPlanes_eq_ok_iff representable same]
        exact (and_iff_right (not_not.mp mismatch)).symm

/-- An accepted header names a supported format, whatever the payload. -/
theorem supported_of_accepted {word : WordSize} {header : VideoFrameHeader} {pixelSize : Nat}
    (accepted : validateGeometry word header pixelSize = .ok ()) :
    header.formatName ∈ supportedFormats := by
  rw [← planeHeights_isSome_iff header.height]
  cases known : planeHeights header.formatName header.height with
  | some heights => rfl
  | none =>
      simp only [validateGeometry, known] at accepted
      split at accepted <;> cases accepted

/-! ## What acceptance says about a reader -/

/-- **A reader of an accepted header whose strides cover their rows stays inside
the payload.** -/
theorem readerInside_of_covered {word : WordSize} {header : VideoFrameHeader} {pixelSize : Nat}
    (representable : pixelSize < word.limit)
    (accepted : validateGeometry word header pixelSize = .ok ())
    (covered : ∀ plane ∈ header.planes, plane.rowLength ≤ plane.stride) :
    header.ReaderInside pixelSize := by
  have declared := (validateGeometry_eq_ok_iff representable).mp accepted
  intro plane member
  exact plane.inside_of_extent (declared.fits plane member) (covered plane member)

/-- **Acceptance keeps a reader inside the payload exactly when no declared
plane has a row that overhangs its stride by more than the bytes left behind the
plane's extent.** -/
theorem validateGeometry_reader_inside_iff (word : WordSize) (header : VideoFrameHeader)
    (pixelSize : Nat) (representable : pixelSize < word.limit) :
    (validateGeometry word header pixelSize = .ok () → header.ReaderInside pixelSize) ↔
      (header.Declared pixelSize → ∀ plane ∈ header.planes,
        plane.Empty ∨ plane.rowLength ≤ plane.stride + (pixelSize - plane.extent)) := by
  rw [validateGeometry_eq_ok_iff representable]
  refine imp_congr_right fun declared => forall₂_congr fun plane member => ?_
  exact plane.inside_iff_overhang (declared.fits plane member)

/-- A one-pixel frame with the given stride. Its row is three bytes. -/
def onePixelHeader (stride : UInt32) : VideoFrameHeader :=
  { VideoFrameHeader.zeroed with
    width := 1, height := 1, nPlanes := 1, stride := #v[stride, 0, 0, 0] }.setFormat "BGR"

theorem validateGeometry_reader_inside_iff_padded :
    validateGeometry .bits64 (onePixelHeader 4) 4 = .ok () ∧
      (onePixelHeader 4).ReaderInside 4 :=
  have accepted : validateGeometry .bits64 (onePixelHeader 4) 4 = .ok () := by decide
  ⟨accepted, (validateGeometry_reader_inside_iff .bits64 (onePixelHeader 4) 4 (by decide)).mpr
    (fun _ => by decide) accepted⟩

/-- A payload of one byte is accepted, and its reader reads three. -/
theorem validateGeometry_accepts_overhang :
    validateGeometry .bits64 (onePixelHeader 1) 1 = .ok () ∧
      ¬ (onePixelHeader 1).ReaderInside 1 := by
  refine ⟨by decide, fun inside => ?_⟩
  have second := inside ⟨0, 1, 1, 3⟩ (by decide) 0 (by decide) 1 (by decide)
  exact absurd second (by decide)

end GstIceoryx2.Video
