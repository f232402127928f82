import GstIceoryx2.Video.Validate

/-!
# The Python validator

The Python package mirrors the header and its validator. Sizes are unbounded
integers, so no extent overflows, and the format name is decoded strictly: bytes
that are not UTF-8 raise an exception where the Rust reader falls back to the
empty name.

When the name decodes, the mirror accepts what the Rust validator accepts
(`validateGeometry_eq_none_iff`). The plane count is checked before the name is
decoded, so the two agree without an exception exactly when the count is out of
range or the name is UTF-8 (`validateGeometry_agrees_iff`).
-/

set_option autoImplicit false

namespace GstIceoryx2.Python

open Foundations Video

/-- The exceptions a header's methods raise. -/
inductive Raised where
  | unicodeDecodeError (bytes : List UInt8)
  deriving DecidableEq

/-- A character array field reads as its bytes up to the first NUL. -/
def charArray (header : VideoFrameHeader) : List UInt8 :=
  header.format.toList.takeWhile (· != 0)

/-- `VideoFrameHeader.format_name`: what stands before the first NUL, decoded
strictly. -/
def formatName (header : VideoFrameHeader) : Except Raised String :=
  let bytes := (charArray header).takeWhile (· != 0)
  match fromUtf8 bytes with
  | some text => .ok text
  | none => .error (.unicodeDecodeError bytes)

/-- The rows of every plane of a supported format. -/
def planeHeights (formatName : String) (height : Nat) : Option (List Nat) :=
  let chroma := (height + 1) / 2
  if formatName = "BGR" ∨ formatName = "RGB" then some [height]
  else if formatName = "I420" then some [height, chroma, chroma]
  else if formatName = "NV12" then some [height, chroma]
  else none

/-- The loop of the validator over the planes from a given one on. -/
def checkPlanes (header : VideoFrameHeader) (pixelSize : Int) :
    Nat → List Nat → Option GeometryError
  | _, [] => none
  | plane, rows :: heights =>
      let extent := header.offsetAt plane + header.strideAt plane * rows
      if extent > pixelSize then some (.extentExceeds plane extent pixelSize)
      else checkPlanes header pixelSize (plane + 1) heights

/-- `validate_geometry`: no reason for a sound frame, or the reason to drop it. -/
def validateGeometry (header : VideoFrameHeader) (pixelSize : Int) :
    Except Raised (Option GeometryError) :=
  let n := header.nPlanes.toNat
  if n = 0 ∨ n > maxPlanes then .ok (some (.planesOutOfRange n))
  else
    match formatName header with
    | .error raised => .error raised
    | .ok name =>
        match planeHeights name header.height.toNat with
        | none => .ok (some (.unsupportedFormat name))
        | some heights =>
            if heights.length ≠ n then .ok (some (.planeCount n heights.length name))
            else .ok (checkPlanes header pixelSize 0 heights)

/-! ## The two readings of a header -/

/-- Both readers decode the same bytes. -/
theorem takeWhile_charArray (header : VideoFrameHeader) :
    (charArray header).takeWhile (· != 0) = header.formatBytes := by
  rw [header.formatBytes_eq_takeWhile, charArray, List.takeWhile_idem]

theorem formatName_eq_ok {header : VideoFrameHeader} {text : String}
    (decoded : fromUtf8 header.formatBytes = some text) :
    formatName header = .ok header.formatName := by
  simp only [formatName, takeWhile_charArray, decoded, VideoFrameHeader.formatName,
    Option.getD_some]

/-- The two plane tables are one. -/
theorem planeHeights_eq_map (name : String) (height : UInt32) :
    planeHeights name height.toNat =
      (Video.planeHeights name height).map (List.map UInt32.toNat) := by
  unfold planeHeights Video.planeHeights
  split_ifs <;> simp [toNat_divCeil_two]

theorem checkPlanes_eq_none_iff {header : VideoFrameHeader} {pixelSize plane : Nat}
    {heights : List UInt32} {lengths : List Nat} (same : heights.length = lengths.length) :
    checkPlanes header pixelSize plane (heights.map UInt32.toNat) = none ↔
      ∀ entry ∈ planesFrom header plane heights lengths, entry.extent ≤ pixelSize := by
  induction heights generalizing plane lengths with
  | nil => simp [checkPlanes, planesFrom]
  | cons rows heights ih =>
      cases lengths with
      | nil => cases same
      | cons rowLength lengths =>
          have rest : checkPlanes header pixelSize (plane + 1) (heights.map UInt32.toNat) = none ↔
              _ := ih (Nat.succ.inj same)
          simp only [List.map_cons, checkPlanes, planesFrom, List.forall_mem_cons]
          rw [← rest, StridedPlane.extent]
          split_ifs with exceeds
          · simp only [false_iff, not_and]
            omega
          · exact (and_iff_right (Int.ofNat_le.mp (Int.not_lt.mp exceeds))).symm

theorem outOfRange_not_declared {header : VideoFrameHeader} {pixelSize : Nat}
    (range : header.nPlanes.toNat = 0 ∨ header.nPlanes.toNat > maxPlanes) :
    ¬ header.Declared pixelSize := by
  intro declared
  have := declared.count_range
  simp only [maxPlanes] at range
  omega

/-- **When the name decodes, the mirror accepts exactly what the Rust validator
accepts.** -/
theorem validateGeometry_eq_none_iff {header : VideoFrameHeader} {pixelSize : Nat} {text : String}
    (decoded : fromUtf8 header.formatBytes = some text) :
    validateGeometry header pixelSize = .ok none ↔ header.Declared pixelSize := by
  simp only [validateGeometry, formatName_eq_ok decoded, planeHeights_eq_map]
  cases known : Video.planeHeights header.formatName header.height with
  | none =>
      have unsupported : ¬ header.Declared pixelSize := by
        intro declared
        have some := (planeHeights_isSome_iff header.height).mpr declared.known
        rw [known] at some
        cases some
      simp only [Option.map_none, unsupported, iff_false]
      split <;> exact fun accepted => by cases accepted
  | some heights =>
      have supported : header.formatName ∈ supportedFormats := by
        rw [← planeHeights_isSome_iff header.height, known]
        rfl
      have same := (length_planeHeights header.width known).1
      have count : header.planes.length = heights.length := by
        rw [planes_of_heights known, length_planesFrom same]
      simp only [Option.map_some, List.length_map]
      split_ifs with range mismatch
      · refine iff_of_false (fun accepted => by cases accepted) fun declared => ?_
        exact outOfRange_not_declared range declared
      · refine iff_of_false (fun accepted => by cases accepted) fun declared => ?_
        exact mismatch (count.symm.trans declared.count)
      · rw [Except.ok.injEq, checkPlanes_eq_none_iff same, ← planes_of_heights known]
        exact ⟨fun fits => ⟨supported, count.trans (not_not.mp mismatch), fits⟩,
          fun declared => declared.fits⟩

/-! ## Agreement -/

/-- An exception comes from a plane count in range and a name that is not UTF-8,
and then the Rust validator rejects the header. -/
theorem validateGeometry_eq_error_iff (header : VideoFrameHeader) (pixelSize : Nat) :
    (∃ raised, validateGeometry header pixelSize = .error raised) ↔
      ¬ (header.nPlanes = 0 ∨ maxPlanes < header.nPlanes.toNat ∨
        (fromUtf8 header.formatBytes).isSome) := by
  have zero : header.nPlanes = 0 ↔ header.nPlanes.toNat = 0 := UInt32.toNat_inj.symm
  rw [zero, ← or_assoc, not_or]
  unfold validateGeometry
  by_cases range : header.nPlanes.toNat = 0 ∨ header.nPlanes.toNat > maxPlanes
  · simp [range]
  · cases decoded : fromUtf8 header.formatBytes with
    | none => simp [range, formatName, takeWhile_charArray, decoded]
    | some text =>
        simp only [range, formatName_eq_ok decoded, if_false]
        refine iff_of_false ?_ fun undecoded => undecoded.2 rfl
        rintro ⟨raised, failed⟩
        split at failed
        · cases failed
        · split at failed <;> cases failed

/-- **The mirror raises nothing and accepts exactly what the Rust validator
accepts exactly when the plane count is out of range or the bytes of the format
name are UTF-8.** -/
theorem validateGeometry_agrees_iff (header : VideoFrameHeader) (pixelSize : Nat)
    (representable : pixelSize < WordSize.limit .bits64) :
    ((∀ raised, validateGeometry header pixelSize ≠ .error raised) ∧
      (validateGeometry header pixelSize = .ok none ↔
        Video.validateGeometry .bits64 header pixelSize = .ok ())) ↔
      (header.nPlanes = 0 ∨ maxPlanes < header.nPlanes.toNat ∨
        (fromUtf8 header.formatBytes).isSome) := by
  have raises := validateGeometry_eq_error_iff header pixelSize
  constructor
  · rintro ⟨silent, -⟩
    by_contra undecoded
    obtain ⟨raised, failed⟩ := raises.mpr undecoded
    exact silent raised failed
  · intro readable
    refine ⟨fun raised failed => raises.mp ⟨raised, failed⟩ readable, ?_⟩
    rw [validateGeometry_eq_ok_iff representable]
    by_cases range : header.nPlanes.toNat = 0 ∨ header.nPlanes.toNat > maxPlanes
    · refine iff_of_false (fun accepted => ?_) (outOfRange_not_declared range)
      simp only [validateGeometry, range, if_true] at accepted
      cases accepted
    · have decoded : (fromUtf8 header.formatBytes).isSome := by
        rcases readable with none | many | decoded
        · exact absurd (.inl (UInt32.toNat_inj.mpr none)) range
        · exact absurd (.inr many) range
        · exact decoded
      obtain ⟨text, decoded⟩ := Option.isSome_iff_exists.mp decoded
      exact validateGeometry_eq_none_iff decoded

theorem validateGeometry_agrees_iff_onePixel :
    validateGeometry (onePixelHeader 4) 4 = .ok none :=
  ((validateGeometry_agrees_iff (onePixelHeader 4) 4 (by decide)).mpr (by decide)).2.mpr
    (by decide)

/-- One plane, and a format field that starts with a byte no UTF-8 text has. -/
def undecodableHeader : VideoFrameHeader :=
  { onePixelHeader 4 with format := Vector.replicate formatLen 255 }

/-- The mirror raises an exception on a header that the Rust validator rejects
without one. -/
theorem validateGeometry_raises :
    validateGeometry undecodableHeader 4 =
        .error (.unicodeDecodeError (List.replicate 16 255)) ∧
      Video.validateGeometry .bits64 undecodableHeader 4 =
        .error (.unsupportedFormat "") := by
  exact ⟨by decide, by decide⟩

end GstIceoryx2.Python
