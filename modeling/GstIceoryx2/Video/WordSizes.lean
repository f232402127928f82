import GstIceoryx2.Foundations.Machine
import GstIceoryx2.Video.AuxBlob
import GstIceoryx2.Video.PackedView

/-!
# Untrusted input on 32 bits and on 64

Three functions compute with what a stranger may have sent: the reader of the aux blob,
the validator of the geometry, and the view of packed pixels. Here they are run as a
build runs them, with the words of the target, with panics, and with or without checks
for overflows.

The validator checks all its sums and products. It runs clean on both targets and
accepts the same headers (`validateGeometry_clean`); where an extent is no word of 32 bits
it gives another reason (`validateGeometry_bits32`). The reader adds the lengths it finds
to its position without a check, and the view multiplies a width by the channels without
one. On 64 bits neither can overflow. On 32 bits the reader panics on every blob with a
length too large, however it is built (`parseAux_panics`), and the view panics, or goes on
with a row that is too short.

So the two targets agree exactly on the blobs whose lengths declare ends below
`2 ^ 32`, and on the headers with a row below `2 ^ 32` (`words_agree_iff`). A blob that was
written is one of those (`lengthsFit_written`). The array library is built for a target of
its own; what the two builds of it make of the frame's shape is part of the condition.
-/

set_option autoImplicit false

namespace GstIceoryx2.Video

open Foundations

/-- A build for a target. -/
def WordSize.build (word : WordSize) (overflowChecks : Bool) : Build where
  limit := word.limit
  overflowChecks := overflowChecks

namespace Machine

variable (build : Build)

/-! ## The functions as a build runs them -/

/-- `read_u32`. -/
def readU32 (buf : List UInt8) (pos : Nat) : Outcome (Option (UInt32 × Nat)) :=
  match build.checkedAdd pos 4 with
  | none => pure none
  | some stop =>
      if stop > buf.length then pure none
      else do
        let b₀ ← Outcome.index buf pos
        let b₁ ← Outcome.index buf (← build.add pos 1)
        let b₂ ← Outcome.index buf (← build.add pos 2)
        let b₃ ← Outcome.index buf (← build.add pos 3)
        pure (some (ofLeBytes b₀ b₁ b₂ b₃, stop))

/-- The loop of `parse_aux`. -/
def parseMetas (aux : List UInt8) : Nat → Nat → Outcome (List (List UInt8))
  | 0, _ => pure []
  | count + 1, pos => do
      match ← readU32 build aux pos with
      | none => pure []
      | some (len, pos) => do
          let stop ← build.add pos len.toNat
          if stop > aux.length then pure []
          else do
            let blob ← Outcome.slice aux pos (← build.add pos len.toNat)
            let pos ← build.add pos len.toNat
            let metas ← parseMetas aux count pos
            pure (blob :: metas)

/-- The count that `parse_aux` reads behind the caps, and its metas. -/
def parseCounted (aux : List UInt8) (caps : Option String) (pos : Nat) : Outcome ParsedAux := do
  match ← readU32 build aux pos with
  | none => pure { caps := caps, metas := [] }
  | some (nMetas, pos) => do
      let metas ← parseMetas build aux nMetas.toNat pos
      pure { caps := caps, metas := metas }

/-- `parse_aux`. -/
def parseAux (aux : List UInt8) : Outcome ParsedAux := do
  match ← readU32 build aux 0 with
  | none => pure .empty
  | some (capsLen, pos) => do
      let stop ← build.add pos capsLen.toNat
      if stop > aux.length then pure .empty
      else if capsLen.toNat > 0 then do
        let text ← Outcome.slice aux pos (← build.add pos capsLen.toNat)
        let pos ← build.add pos capsLen.toNat
        parseCounted build aux (fromUtf8 text) pos
      else
        parseCounted build aux none pos

/-- The loop of `validate_geometry`. -/
def checkPlanes (header : VideoFrameHeader) (pixelSize : Nat) :
    Nat → List UInt32 → Outcome (Except GeometryError Unit)
  | _, [] => pure (.ok ())
  | plane, rows :: heights => do
      let off ← Outcome.index header.planeOffsets.toList plane
      let stride ← Outcome.index header.stride.toList plane
      match (build.checkedMul stride.toNat rows.toNat).bind fun span =>
          build.checkedAdd off.toNat span with
      | none => pure (.error (.extentOverflow plane))
      | some extent =>
          if extent > pixelSize then pure (.error (.extentExceeds plane extent pixelSize))
          else checkPlanes header pixelSize (plane + 1) heights

/-- `validate_geometry`. -/
def validateGeometry (header : VideoFrameHeader) (pixelSize : Nat) :
    Outcome (Except GeometryError Unit) :=
  let n := header.nPlanes.toNat
  if n = 0 ∨ n > maxPlanes then pure (.error (.planesOutOfRange n))
  else
    let format := header.formatName
    match planeHeights format header.height with
    | none => pure (.error (.unsupportedFormat format))
    | some heights =>
        if heights.length ≠ n then pure (.error (.planeCount n heights.length format))
        else checkPlanes build header pixelSize 0 heights

/-- `header_pixels_to_ndarray_view`. -/
def headerPixelsToNdarrayView (ndarray : Ndarray) (header : VideoFrameHeader)
    (pixels : List UInt8) : Outcome (Except ViewError (StridedView UInt8)) :=
  let format := header.formatName
  match formatChannels format with
  | none => pure (.error (.notPacked format))
  | some channels => do
      let width := header.width.toNat
      let height := header.height.toNat
      let rowBytes ← build.mul width channels
      let declared ← Outcome.index header.stride.toList 0
      let stride0 := if declared.toNat ≠ 0 then declared.toNat else rowBytes
      if stride0 < rowBytes then pure (.error (.strideShort stride0 rowBytes))
      else
        match build.checkedMul stride0 height with
        | none => pure (.error .extentOverflow)
        | some needed =>
            if needed > pixels.length then
              pure (.error (.tooSmall pixels.length width height stride0))
            else do
              let data ← Outcome.slice pixels 0 needed
              pure ((ndarray.fromShape
                ⟨height, width, channels, stride0, channels, 1, data⟩).mapError .shape)

end Machine

/-! ## Lengths that are read -/

theorem declaredBelow_of_readU32 {aux : List UInt8} {pos : Nat} (noWord : readU32 aux pos = none)
    (limit start count : Nat) : DeclaredBelow limit start count (aux.drop pos) := by
  rw [readU32_eq_takeWord, Option.map_eq_none_iff] at noWord
  exact declaredBelow_of_takeWord noWord limit start count

/-- **The length at the cursor declares an end below the limit, and so do the ones behind
its bytes.** -/
theorem declaredBelow_drop_iff {aux : List UInt8} {limit count pos stop : Nat} {len : UInt32}
    (small : aux.length < 2 ^ 32) (read : readU32 aux pos = some (len, stop)) :
    DeclaredBelow limit pos (count + 1) (aux.drop pos) ↔
      stop + len.toNat < limit ∧ (stop + len.toNat ≤ aux.length →
        DeclaredBelow limit (stop + len.toNat) count (aux.drop (stop + len.toNat))) := by
  obtain ⟨rfl, inside, bytes⟩ := drop_of_readU32 read
  have short : (aux.drop (pos + 4)).length < 2 ^ 32 := by
    rw [List.length_drop]
    exact Nat.lt_of_le_of_lt (Nat.sub_le _ _) small
  rw [bytes, declaredBelow_succ_iff short, List.drop_drop, List.length_drop]
  have whole : len.toNat ≤ aux.length - (pos + 4) ↔ pos + 4 + len.toNat ≤ aux.length := by
    omega
  rw [whole]

/-- The lengths of a blob declare ends below the limit: that of the caps, and those of the
metas that are counted behind the caps. -/
structure LengthsFit (limit : Nat) (aux : List UInt8) : Prop where
  caps : DeclaredBelow limit 0 1 aux
  metas : ∀ (capsBytes : List UInt8) (nMetas : UInt32) (rest : List UInt8),
    aux = record capsBytes ++ (leBytes nMetas ++ rest) →
      DeclaredBelow limit (4 + capsBytes.length + 4) nMetas.toNat rest

/-- Without a first word there are no lengths. -/
theorem lengthsFit_of_readU32 {aux : List UInt8} (noWord : readU32 aux 0 = none) (limit : Nat) :
    LengthsFit limit aux where
  caps := declaredBelow_of_readU32 noWord limit 0 1
  metas := by
    rintro capsBytes nMetas rest rfl
    rw [readU32_eq_takeWord, List.drop_zero, record, List.append_assoc,
      takeWord_leBytes_append] at noWord
    cases noWord

/-- On 64 bits the lengths of a blob below `2 ^ 32` bytes always fit. -/
theorem lengthsFit_bits64 {aux : List UInt8} (small : aux.length < 2 ^ 32) :
    LengthsFit WordSize.bits64.limit aux where
  caps := by
    apply declaredBelow_of_room
    simp only [WordSize.limit]
    omega
  metas := by
    rintro capsBytes nMetas rest rfl
    rw [List.length_append, length_record, List.length_append, length_leBytes] at small
    apply declaredBelow_of_room
    simp only [WordSize.limit]
    omega

/-- **The lengths of a blob that was written fit, whatever is behind it.** -/
theorem lengthsFit_written {caps : String} {metas : List (List UInt8)} {limit : Option Nat}
    {behind : List UInt8} (small : (buildAux caps metas limit ++ behind).length < 2 ^ 32) :
    LengthsFit (2 ^ 32) (buildAux caps metas limit ++ behind) := by
  rw [buildAux_eq, List.append_assoc, List.append_assoc] at small ⊢
  have size := small
  rw [List.length_append, length_record, List.length_append, length_leBytes,
    List.length_append] at size
  have capsShort : (asBytes caps).length < 2 ^ 32 := by omega
  constructor
  · have capsLen : (UInt32.ofNat (asBytes caps).length).toNat = (asBytes caps).length :=
      UInt32.toNat_ofNat_of_lt capsShort
    rw [record, List.append_assoc]
    refine (declaredBelow_succ_iff ?_).mpr ⟨?_, fun _ => declaredBelow_zero _ _ _⟩
    · rw [List.length_append, List.length_append, length_leBytes, List.length_append]
      omega
    · omega
  · intro capsBytes nMetas rest same
    have capsShort' : capsBytes.length < 2 ^ 32 := by
      rw [same, List.length_append, length_record] at small
      omega
    have taken := takeRecord_record_append capsShort' (leBytes nMetas ++ rest)
    rw [← same, takeRecord_record_append capsShort] at taken
    obtain ⟨rfl, counted⟩ := Prod.mk.inj (Option.some.inj taken)
    have word := takeWord_leBytes_append nMetas rest
    rw [← counted, takeWord_leBytes_append] at word
    obtain ⟨rfl, rfl⟩ := Prod.mk.inj (Option.some.inj word)
    have entries : ((keptMetas caps metas limit).map entrySize).sum < 2 ^ 32 := by
      have records : _ = ((keptMetas caps metas limit).map entrySize).sum :=
        length_flatMap_record (keptMetas caps metas limit)
      omega
    have count : (UInt32.ofNat (keptMetas caps metas limit).length).toNat =
        (keptMetas caps metas limit).length :=
      UInt32.toNat_ofNat_of_lt (lengths_lt_of_sum_lt entries).2
    rw [count]
    apply declaredBelow_flatMap_record
    · rw [List.length_append]
      omega
    · omega

/-- The metas that are counted at a position declare ends below the limit. -/
def CountedBelow (limit : Nat) (aux : List UInt8) (pos : Nat) : Prop :=
  ∀ nMetas stop, readU32 aux pos = some (nMetas, stop) →
    DeclaredBelow limit stop nMetas.toNat (aux.drop stop)

/-- **The lengths at the cursor of the reader.** -/
theorem lengthsFit_iff {aux : List UInt8} {limit pos : Nat} {capsLen : UInt32}
    (small : aux.length < 2 ^ 32) (read : readU32 aux 0 = some (capsLen, pos)) :
    LengthsFit limit aux ↔
      pos + capsLen.toNat < limit ∧ (pos + capsLen.toNat ≤ aux.length →
        CountedBelow limit aux (pos + capsLen.toNat)) := by
  have first : DeclaredBelow limit 0 1 aux ↔ pos + capsLen.toNat < limit ∧ _ :=
    declaredBelow_drop_iff small read
  obtain ⟨rfl, -, bytes⟩ := drop_of_readU32 read
  rw [List.drop_zero] at bytes
  constructor
  · intro fit
    refine ⟨(first.mp fit.caps).1, ?_⟩
    intro whole nMetas stop count
    obtain ⟨rfl, -, behind⟩ := drop_of_readU32 count
    have taken := takeRecord_drop aux 0
    simp only [List.drop_zero, read, if_neg (Nat.not_lt_of_le whole)] at taken
    have size : (slice aux (0 + 4) capsLen.toNat).length = capsLen.toNat := by
      rw [slice, List.length_take, List.length_drop]
      omega
    have declared := fit.metas (slice aux (0 + 4) capsLen.toNat) nMetas _
      (by rw [← behind]; exact (eq_record_of_takeRecord taken).1)
    rw [size] at declared
    rwa [Nat.zero_add]
  · rintro ⟨here, later⟩
    refine ⟨first.mpr ⟨here, fun _ => declaredBelow_zero _ _ _⟩, ?_⟩
    intro capsBytes nMetas rest same
    have word := takeWord_leBytes_append capsLen (aux.drop (0 + 4))
    rw [← bytes, same, record, List.append_assoc, takeWord_leBytes_append] at word
    obtain ⟨rfl, -⟩ := Prod.mk.inj (Option.some.inj word)
    have size : aux.length = 4 + capsBytes.length + (4 + rest.length) := by
      rw [same, List.length_append, length_record, List.length_append, length_leBytes]
    have fits : capsBytes.length < 2 ^ 32 := by omega
    have short : (UInt32.ofNat capsBytes.length).toNat = capsBytes.length :=
      UInt32.toNat_ofNat_of_lt fits
    have behind : aux.drop (4 + capsBytes.length) = leBytes nMetas ++ rest := by
      rw [same, ← length_record, List.drop_left]
    obtain ⟨count, tail⟩ := readU32_of_drop behind
    have declared := later (by omega) nMetas (4 + capsBytes.length + 4)
      (by rw [short, Nat.zero_add]; exact count)
    rwa [tail] at declared

namespace Machine

variable {build : Build}

/-! ## The reader -/

theorem readU32_eq {buf : List UInt8} (small : buf.length < build.limit) (pos : Nat) :
    readU32 build buf pos = .clean (Video.readU32 buf pos) := by
  rw [readU32, Build.checkedAdd, Video.readU32]
  by_cases whole : pos + 4 ≤ buf.length
  · have index : ∀ offset (inside : offset < 4), Outcome.index buf (pos + offset) =
        .clean buf[pos + offset] := by
      intro offset inside
      exact Outcome.index_of_lt (by omega)
    have place : ∀ offset, offset < 4 → build.add pos offset = .clean (pos + offset) := by
      intro offset inside
      exact Build.add_of_lt (by omega)
    rw [if_pos (Nat.lt_of_le_of_lt whole small), dif_pos whole]
    simp only [if_neg (Nat.not_lt_of_le whole)]
    rw [Outcome.index_of_lt (by omega), place 1 (by decide), place 2 (by decide),
      place 3 (by decide)]
    simp only [Outcome.clean_bind, index 1 (by decide), index 2 (by decide), index 3 (by decide)]
    rfl
  · rw [dif_neg whole]
    by_cases fits : pos + 4 < build.limit
    · simp only [if_pos fits, if_pos (Nat.lt_of_not_le whole), Outcome.pure_eq_clean]
    · simp only [if_neg fits, Outcome.pure_eq_clean]

section Reader

variable {aux : List UInt8} (small : aux.length < 2 ^ 32) (words : 2 ^ 32 ≤ build.limit)

include small words

/-- The loop runs clean over lengths that declare ends below the limit. -/
theorem parseMetas_eq {count pos : Nat}
    (declared : DeclaredBelow build.limit pos count (aux.drop pos)) :
    parseMetas build aux count pos = .clean (Video.parseMetas aux count pos) := by
  have fits : aux.length < build.limit := Nat.lt_of_lt_of_le small words
  induction count generalizing pos with
  | zero => rfl
  | succ count ih =>
      rw [parseMetas, readU32_eq fits, Outcome.clean_bind, Video.parseMetas]
      cases read : Video.readU32 aux pos with
      | none => rfl
      | some found =>
          obtain ⟨len, stop⟩ := found
          obtain ⟨here, later⟩ := (declaredBelow_drop_iff small read).mp declared
          simp only [Build.add_of_lt here, Outcome.clean_bind]
          by_cases beyond : stop + len.toNat > aux.length
          · simp only [if_pos beyond, Outcome.pure_eq_clean]
          · have inside := Nat.le_of_not_lt beyond
            simp only [if_neg beyond, Outcome.slice_of_le (Nat.le_add_right _ _) inside,
              Outcome.clean_bind, ih (later inside), Nat.add_sub_cancel_left,
              Outcome.pure_eq_clean, slice]

/-- The loop panics where one does not. -/
theorem parseMetas_panics {count pos : Nat}
    (undeclared : ¬ DeclaredBelow build.limit pos count (aux.drop pos)) :
    ∃ why, parseMetas build aux count pos = .panicked why := by
  have fits : aux.length < build.limit := Nat.lt_of_lt_of_le small words
  induction count generalizing pos with
  | zero => exact absurd (declaredBelow_zero _ _ _) undeclared
  | succ count ih =>
      rw [parseMetas, readU32_eq fits, Outcome.clean_bind]
      cases read : Video.readU32 aux pos with
      | none => exact absurd (declaredBelow_of_readU32 read _ _ _) undeclared
      | some found =>
          obtain ⟨len, stop⟩ := found
          have inside := (drop_of_readU32 read).2.1
          have lenFits : len.toNat < build.limit := Nat.lt_of_lt_of_le len.toNat_lt words
          have stopFits : stop < build.limit := Nat.lt_of_le_of_lt inside fits
          rw [declaredBelow_drop_iff small read] at undeclared
          by_cases here : stop + len.toNat < build.limit
          · obtain ⟨whole, later⟩ := Classical.not_imp.mp (not_and.mp undeclared here)
            obtain ⟨why, stops⟩ := ih later
            refine ⟨why, ?_⟩
            simp only [Build.add_of_lt here, Outcome.clean_bind, if_neg (Nat.not_lt_of_le whole),
              Outcome.slice_of_le (Nat.le_add_right _ _) whole, stops, Outcome.panicked_bind]
          · apply Build.guarded_add_panics here stopFits lenFits inside
            exact Build.slice_add_panics here stopFits lenFits _

theorem parseCounted_eq {pos : Nat} (declared : CountedBelow build.limit aux pos)
    (caps : Option String) :
    parseCounted build aux caps pos =
      .clean (match Video.readU32 aux pos with
        | none => { caps := caps, metas := [] }
        | some (nMetas, pos) =>
            { caps := caps, metas := Video.parseMetas aux nMetas.toNat pos }) := by
  have fits : aux.length < build.limit := Nat.lt_of_lt_of_le small words
  rw [parseCounted, readU32_eq fits, Outcome.clean_bind]
  cases read : Video.readU32 aux pos with
  | none => rfl
  | some found =>
      obtain ⟨nMetas, stop⟩ := found
      simp only [parseMetas_eq small words (declared nMetas stop read), Outcome.clean_bind,
        Outcome.pure_eq_clean]

theorem parseCounted_panics {pos : Nat} (undeclared : ¬ CountedBelow build.limit aux pos)
    (caps : Option String) : ∃ why, parseCounted build aux caps pos = .panicked why := by
  have fits : aux.length < build.limit := Nat.lt_of_lt_of_le small words
  obtain ⟨nMetas, stop, read, undeclared⟩ : ∃ nMetas stop,
      Video.readU32 aux pos = some (nMetas, stop) ∧
        ¬ DeclaredBelow build.limit stop nMetas.toNat (aux.drop stop) := by
    simpa only [CountedBelow, not_forall, exists_prop] using undeclared
  obtain ⟨why, stops⟩ := parseMetas_panics small words undeclared
  refine ⟨why, ?_⟩
  rw [parseCounted, readU32_eq fits, Outcome.clean_bind, read]
  simp only [stops, Outcome.panicked_bind]

/-- **The reader runs clean over a blob whose lengths fit.** -/
theorem parseAux_clean (fit : LengthsFit build.limit aux) :
    parseAux build aux = .clean (Video.parseAux aux) := by
  have fits : aux.length < build.limit := Nat.lt_of_lt_of_le small words
  rw [parseAux, readU32_eq fits, Outcome.clean_bind, Video.parseAux]
  cases read : Video.readU32 aux 0 with
  | none => rfl
  | some found =>
      obtain ⟨capsLen, pos⟩ := found
      obtain ⟨here, later⟩ := (lengthsFit_iff small read).mp fit
      simp only [Build.add_of_lt here, Outcome.clean_bind]
      by_cases beyond : pos + capsLen.toNat > aux.length
      · simp only [if_pos beyond, Outcome.pure_eq_clean]
      · have whole := Nat.le_of_not_lt beyond
        have counted := parseCounted_eq small words (later whole)
        simp only [if_neg beyond, Outcome.slice_of_le (Nat.le_add_right _ _) whole,
          Outcome.clean_bind, Nat.add_sub_cancel_left]
        by_cases caps : capsLen.toNat > 0
        · simp only [if_pos caps, counted]
          rfl
        · have behind : pos + capsLen.toNat = pos := by omega
          simp only [if_neg caps]
          rw [behind] at counted ⊢
          exact counted none

/-- **The reader panics on every other blob, however it is built.** -/
theorem parseAux_panics (unfit : ¬ LengthsFit build.limit aux) :
    ∃ why, parseAux build aux = .panicked why := by
  have fits : aux.length < build.limit := Nat.lt_of_lt_of_le small words
  rw [parseAux, readU32_eq fits, Outcome.clean_bind]
  cases read : Video.readU32 aux 0 with
  | none => exact absurd (lengthsFit_of_readU32 read _) unfit
  | some found =>
      obtain ⟨capsLen, pos⟩ := found
      have inside := (drop_of_readU32 read).2.1
      have lenFits : capsLen.toNat < build.limit := Nat.lt_of_lt_of_le capsLen.toNat_lt words
      have posFits : pos < build.limit := Nat.lt_of_le_of_lt inside fits
      rw [lengthsFit_iff small read] at unfit
      by_cases here : pos + capsLen.toNat < build.limit
      · obtain ⟨whole, uncounted⟩ := Classical.not_imp.mp (not_and.mp unfit here)
        have stops := parseCounted_panics small words uncounted
        simp only [Build.add_of_lt here, Outcome.clean_bind, if_neg (Nat.not_lt_of_le whole),
          Outcome.slice_of_le (Nat.le_add_right _ _) whole]
        by_cases caps : capsLen.toNat > 0
        · simp only [if_pos caps]
          exact stops _
        · have behind : pos + capsLen.toNat = pos := by omega
          simp only [if_neg caps]
          rw [behind] at stops
          exact stops none
      · have caps : capsLen.toNat > 0 := by omega
        apply Build.guarded_add_panics here posFits lenFits inside
        rw [if_pos caps]
        exact Build.slice_add_panics here posFits lenFits _

end Reader

/-! ## The validator -/

/-- A plane of the header is never out of range. -/
theorem index_toList (entries : Vector UInt32 maxPlanes) {plane : Nat}
    (inside : plane < maxPlanes) :
    Outcome.index entries.toList plane = .clean (entries[plane]?.getD 0) := by
  have room : plane < entries.toList.length := by
    rw [Vector.length_toList]
    exact inside
  rw [Outcome.index_of_lt room, Vector.getElem?_eq_getElem inside, Option.getD_some,
    Vector.getElem_toList]

theorem checkPlanes_clean (word : WordSize) (overflowChecks : Bool) (header : VideoFrameHeader)
    (pixelSize : Nat) {heights : List UInt32} {plane : Nat}
    (inside : plane + heights.length ≤ maxPlanes) :
    checkPlanes (word.build overflowChecks) header pixelSize plane heights =
      .clean (Video.checkPlanes word header pixelSize plane heights) := by
  induction heights generalizing plane with
  | nil => rfl
  | cons rows heights ih =>
      rw [List.length_cons] at inside
      have here : plane < maxPlanes := by omega
      rw [checkPlanes, index_toList _ here, index_toList _ here, Outcome.clean_bind,
        Outcome.clean_bind, Video.checkPlanes]
      change (match checkedExtent word (header.offsetAt plane) (header.strideAt plane) rows.toNat
        with | none => _ | some extent => _) = _
      cases checkedExtent word (header.offsetAt plane) (header.strideAt plane) rows.toNat with
      | none => rfl
      | some extent =>
          by_cases beyond : extent > pixelSize
          · simp only [if_pos beyond, Outcome.pure_eq_clean]
          · simp only [if_neg beyond]
            exact ih (by omega)

/-- **The validator runs clean on every target.** -/
theorem validateGeometry_clean (word : WordSize) (overflowChecks : Bool)
    (header : VideoFrameHeader) (pixelSize : Nat) :
    validateGeometry (word.build overflowChecks) header pixelSize =
      .clean (Video.validateGeometry word header pixelSize) := by
  simp only [validateGeometry, Video.validateGeometry]
  by_cases range : header.nPlanes.toNat = 0 ∨ header.nPlanes.toNat > maxPlanes
  · simp only [if_pos range]
    rfl
  · simp only [if_neg range]
    cases known : planeHeights header.formatName header.height with
    | none => rfl
    | some heights =>
        by_cases mismatch : heights.length ≠ header.nPlanes.toNat
        · simp only [if_pos mismatch]
          rfl
        · simp only [if_neg mismatch]
          have few := (length_planeHeights header.width known).2.2
          have inside : 0 + heights.length ≤ maxPlanes := by
            simp only [maxPlanes]
            omega
          exact checkPlanes_clean word overflowChecks header pixelSize inside

end Machine

/-- What the validator reports on 32 bits. An extent that is no word is none there. -/
def GeometryError.narrowed : GeometryError → GeometryError
  | extentExceeds plane extent pixelSize =>
      if extent < WordSize.bits32.limit then extentExceeds plane extent pixelSize
      else extentOverflow plane
  | planesOutOfRange nPlanes => planesOutOfRange nPlanes
  | unsupportedFormat format => unsupportedFormat format
  | planeCount nPlanes expected format => planeCount nPlanes expected format
  | extentOverflow plane => extentOverflow plane

/-- Extents of words are words on 64 bits. -/
theorem extent_lt (off stride rows : UInt32) :
    off.toNat + stride.toNat * rows.toNat < WordSize.bits64.limit := by
  have span : stride.toNat * rows.toNat ≤ (2 ^ 32 - 1) * (2 ^ 32 - 1) :=
    Nat.mul_le_mul (Nat.le_pred_of_lt stride.toNat_lt) (Nat.le_pred_of_lt rows.toNat_lt)
  have offset := off.toNat_lt
  simp only [WordSize.limit]
  omega

theorem checkPlanes_bits32 (header : VideoFrameHeader) {pixelSize : Nat}
    (representable : pixelSize < WordSize.bits32.limit) (plane : Nat) (heights : List UInt32) :
    checkPlanes .bits32 header pixelSize plane heights =
      (checkPlanes .bits64 header pixelSize plane heights).mapError GeometryError.narrowed := by
  induction heights generalizing plane with
  | nil => rfl
  | cons rows heights ih =>
      have wide : checkedExtent .bits64 (header.offsetAt plane) (header.strideAt plane)
          rows.toNat = some (header.offsetAt plane + header.strideAt plane * rows.toNat) :=
        checkedExtent_eq_some_iff.mpr ⟨rfl, extent_lt _ _ rows⟩
      simp only [checkPlanes, wide]
      by_cases word : header.offsetAt plane + header.strideAt plane * rows.toNat <
          WordSize.bits32.limit
      · rw [checkedExtent_eq_some_iff.mpr ⟨rfl, word⟩]
        by_cases beyond : header.offsetAt plane + header.strideAt plane * rows.toNat > pixelSize
        · simp only [if_pos beyond, Except.mapError, GeometryError.narrowed, if_pos word]
        · simp only [if_neg beyond]
          exact ih (plane + 1)
      · have narrow : checkedExtent .bits32 (header.offsetAt plane) (header.strideAt plane)
            rows.toNat = none := by
          rw [Option.eq_none_iff_forall_ne_some]
          intro extent checked
          obtain ⟨rfl, small⟩ := checkedExtent_eq_some_iff.mp checked
          exact word small
        have beyond : header.offsetAt plane + header.strideAt plane * rows.toNat > pixelSize :=
          Nat.lt_of_lt_of_le representable (Nat.le_of_not_lt word)
        simp only [narrow, if_pos beyond, Except.mapError, GeometryError.narrowed, if_neg word]

/-- **On 32 bits the validator decides as on 64, for another reason where an extent is no
word.** -/
theorem validateGeometry_bits32 (header : VideoFrameHeader) {pixelSize : Nat}
    (representable : pixelSize < WordSize.bits32.limit) :
    validateGeometry .bits32 header pixelSize =
      (validateGeometry .bits64 header pixelSize).mapError GeometryError.narrowed := by
  simp only [validateGeometry]
  by_cases range : header.nPlanes.toNat = 0 ∨ header.nPlanes.toNat > maxPlanes
  · simp only [if_pos range]
    rfl
  · simp only [if_neg range]
    cases planeHeights header.formatName header.height with
    | none => rfl
    | some heights =>
        by_cases mismatch : heights.length ≠ header.nPlanes.toNat
        · simp only [if_pos mismatch]
          rfl
        · simp only [if_neg mismatch]
          exact checkPlanes_bits32 header representable 0 heights

/-! ## The view -/

namespace Machine

/-- **A view runs clean when its row is a word.** -/
theorem headerPixelsToNdarrayView_clean (ndarray : Ndarray) {word : WordSize}
    (overflowChecks : Bool) {header : VideoFrameHeader} (fits : RowFits word header)
    (pixels : List UInt8) :
    headerPixelsToNdarrayView (word.build overflowChecks) ndarray header pixels =
      .clean (Video.headerPixelsToNdarrayView ndarray word header pixels) := by
  simp only [headerPixelsToNdarrayView, Video.headerPixelsToNdarrayView]
  cases packed : formatChannels header.formatName with
  | none => rfl
  | some channels =>
      have row : header.width.toNat * channels < (word.build overflowChecks).limit :=
        fits channels packed
      have product : word.wrappingMul header.width.toNat channels = header.width.toNat * channels :=
        Nat.mod_eq_of_lt row
      simp only [Build.mul_of_lt row, index_toList header.stride maxPlanes_pos,
        Outcome.clean_bind, product]
      change (if stride0 header (header.width.toNat * channels) < _ then _ else _) = _
      by_cases short : stride0 header (header.width.toNat * channels) <
          header.width.toNat * channels
      · simp only [if_pos short]
        rfl
      · simp only [if_neg short]
        change (match word.checkedMul (stride0 header (header.width.toNat * channels))
          header.height.toNat with | none => _ | some needed => _) = _
        cases word.checkedMul (stride0 header (header.width.toNat * channels))
            header.height.toNat with
        | none => rfl
        | some needed =>
            by_cases beyond : needed > pixels.length
            · simp only [if_pos beyond]
              rfl
            · simp only [if_neg beyond,
                Outcome.slice_of_le (Nat.zero_le _) (Nat.le_of_not_lt beyond),
                Outcome.clean_bind, List.drop_zero, Nat.sub_zero]
              rfl

/-- **It does not when its row is none.** -/
theorem headerPixelsToNdarrayView_not_clean (ndarray : Ndarray) (word : WordSize)
    (overflowChecks : Bool) {header : VideoFrameHeader} (overflows : ¬ RowFits word header)
    (pixels : List UInt8) (value : Except ViewError (StridedView UInt8)) :
    headerPixelsToNdarrayView (word.build overflowChecks) ndarray header pixels ≠ .clean value := by
  intro run
  obtain ⟨channels, packed, row⟩ : ∃ channels,
      formatChannels header.formatName = some channels ∧
        ¬ header.width.toNat * channels < word.limit := by
    simpa only [RowFits, not_forall, exists_prop] using overflows
  simp only [headerPixelsToNdarrayView, packed] at run
  obtain ⟨rowBytes, multiplied, -⟩ := Outcome.bind_eq_clean_iff.mp run
  exact Build.word_ne_clean row rowBytes multiplied

end Machine

theorem toOption_headerPixelsToNdarrayView_iff {ndarray : Ndarray} {word : WordSize}
    {header : VideoFrameHeader} {pixels : List UInt8} {view : StridedView UInt8}
    (row : RowFits word header) (addressable : pixels.length < word.limit) :
    (headerPixelsToNdarrayView ndarray word header pixels).toOption = some view ↔
      ∃ channels, formatChannels header.formatName = some channels ∧
        ViewFits header channels pixels ∧
          ndarray.refuses (packedView header channels pixels) = none ∧
            packedView header channels pixels = view := by
  have some_iff : (headerPixelsToNdarrayView ndarray word header pixels).toOption = some view ↔
      headerPixelsToNdarrayView ndarray word header pixels = .ok view := by
    cases headerPixelsToNdarrayView ndarray word header pixels with
    | error reason => exact iff_of_false nofun nofun
    | ok shown => simp only [Except.toOption, Option.some.injEq, Except.ok.injEq]
  rw [some_iff, headerPixelsToNdarrayView_eq_ok_iff_of_rowFits row addressable]
  simp only [Ndarray.fromShape_eq_ok_iff]

/-- Two builds of the array library decide alike about the frame. -/
def ShownAlike (narrow wide : Ndarray) (header : VideoFrameHeader) (pixels : List UInt8) : Prop :=
  ∀ channels, formatChannels header.formatName = some channels →
    ViewFits header channels pixels →
      (narrow.refuses (packedView header channels pixels) = none ↔
        wide.refuses (packedView header channels pixels) = none)

/-! ## The two targets -/

/-- Two runs are clean, and the same is read from them. -/
def SameOutcome {α β : Type} (reads : α → β) (narrow wide : Outcome α) : Prop :=
  ∃ value value', narrow = .clean value ∧ wide = .clean value' ∧ reads value = reads value'

theorem sameOutcome_clean_iff {α β : Type} {reads : α → β} {value value' : α} :
    SameOutcome reads (.clean value) (.clean value') ↔ reads value = reads value' := by
  constructor
  · rintro ⟨_, _, ⟨⟩, ⟨⟩, same⟩
    exact same
  · intro same
    exact ⟨value, value', rfl, rfl, same⟩

section Targets

variable (overflowChecks : Bool) {aux : List UInt8} {header : VideoFrameHeader}
  {pixels : List UInt8}

theorem sameOutcome_parseAux_iff (small : aux.length < 2 ^ 32) :
    SameOutcome id (Machine.parseAux (WordSize.bits32.build overflowChecks) aux)
        (Machine.parseAux (WordSize.bits64.build overflowChecks) aux) ↔
      LengthsFit (2 ^ 32) aux := by
  constructor
  · rintro ⟨value, value', narrow, -, -⟩
    by_contra unfit
    have narrowWords : 2 ^ 32 ≤ (WordSize.bits32.build overflowChecks).limit := Nat.le_refl _
    obtain ⟨why, stops⟩ := Machine.parseAux_panics small narrowWords unfit
    rw [stops] at narrow
    exact Outcome.panicked_ne_clean why value narrow
  · intro fit
    have wideWords : 2 ^ 32 ≤ (WordSize.bits64.build overflowChecks).limit :=
      Nat.pow_le_pow_right (by decide) (by decide)
    refine ⟨_, _, Machine.parseAux_clean small (Nat.le_refl _) fit,
      Machine.parseAux_clean small wideWords (lengthsFit_bits64 small), rfl⟩

theorem sameOutcome_validateGeometry (header : VideoFrameHeader) {pixelSize : Nat}
    (representable : pixelSize < 2 ^ 32) :
    SameOutcome Except.toOption
      (Machine.validateGeometry (WordSize.bits32.build overflowChecks) header pixelSize)
      (Machine.validateGeometry (WordSize.bits64.build overflowChecks) header pixelSize) := by
  refine ⟨_, _, Machine.validateGeometry_clean _ _ header pixelSize,
    Machine.validateGeometry_clean _ _ header pixelSize, ?_⟩
  rw [validateGeometry_bits32 header representable]
  cases validateGeometry .bits64 header pixelSize <;> rfl

theorem sameOutcome_headerPixelsToNdarrayView_iff {narrow wide : Ndarray}
    (representable : pixels.length < 2 ^ 32) :
    SameOutcome Except.toOption
        (Machine.headerPixelsToNdarrayView (WordSize.bits32.build overflowChecks) narrow header
          pixels)
        (Machine.headerPixelsToNdarrayView (WordSize.bits64.build overflowChecks) wide header
          pixels) ↔
      RowFits .bits32 header ∧ ShownAlike narrow wide header pixels := by
  have clean64 := Machine.headerPixelsToNdarrayView_clean wide overflowChecks
    (rowFits_bits64 header) pixels
  have addressable : pixels.length < WordSize.bits64.limit :=
    Nat.lt_of_lt_of_le representable (Nat.pow_le_pow_right (by decide) (by decide))
  by_cases row : RowFits .bits32 header
  · rw [Machine.headerPixelsToNdarrayView_clean narrow overflowChecks row, clean64,
      sameOutcome_clean_iff, and_iff_right row]
    constructor
    · intro same channels packed fits
      have taken := iff_of_eq (congrArg (· = some (packedView header channels pixels)) same)
      rw [toOption_headerPixelsToNdarrayView_iff row representable,
        toOption_headerPixelsToNdarrayView_iff (rowFits_bits64 header) addressable] at taken
      simpa only [packed, Option.some.injEq, exists_eq_left', fits, true_and, and_true] using taken
    · intro alike
      apply Option.ext
      intro view
      rw [toOption_headerPixelsToNdarrayView_iff row representable,
        toOption_headerPixelsToNdarrayView_iff (rowFits_bits64 header) addressable]
      refine exists_congr fun channels => and_congr_right fun packed =>
        and_congr_right fun fits => ?_
      rw [alike channels packed fits]
  · refine iff_of_false ?_ fun fits => row fits.1
    rintro ⟨value, value', run, -, -⟩
    exact Machine.headerPixelsToNdarrayView_not_clean narrow .bits32 overflowChecks row pixels
      value run

end Targets

/-- **The two targets neither panic nor lose a result, and agree.** They read the same
caps and metas from a blob, accept the same geometry, and show the same view. -/
structure WordsAgree (narrow wide : Ndarray) (overflowChecks : Bool) (aux : List UInt8)
    (header : VideoFrameHeader) (pixels : List UInt8) : Prop where
  blob : SameOutcome id
    (Machine.parseAux (WordSize.bits32.build overflowChecks) aux)
    (Machine.parseAux (WordSize.bits64.build overflowChecks) aux)
  geometry : SameOutcome Except.toOption
    (Machine.validateGeometry (WordSize.bits32.build overflowChecks) header pixels.length)
    (Machine.validateGeometry (WordSize.bits64.build overflowChecks) header pixels.length)
  view : SameOutcome Except.toOption
    (Machine.headerPixelsToNdarrayView (WordSize.bits32.build overflowChecks) narrow header pixels)
    (Machine.headerPixelsToNdarrayView (WordSize.bits64.build overflowChecks) wide header pixels)

/-- **The two targets agree exactly where the lengths of the blob and the row of the frame
are below `2 ^ 32`, and the array library decides alike.** -/
theorem words_agree_iff (narrow wide : Ndarray) (overflowChecks : Bool) (aux : List UInt8)
    (header : VideoFrameHeader) (pixels : List UInt8) (auxFits : aux.length < 2 ^ 32)
    (pixelsFit : pixels.length < 2 ^ 32) :
    WordsAgree narrow wide overflowChecks aux header pixels ↔
      LengthsFit (2 ^ 32) aux ∧ RowFits .bits32 header ∧
        ShownAlike narrow wide header pixels := by
  have blob := sameOutcome_parseAux_iff overflowChecks auxFits
  have geometry := sameOutcome_validateGeometry overflowChecks header pixelsFit
  have view : _ ↔ RowFits .bits32 header ∧ ShownAlike narrow wide header pixels :=
    sameOutcome_headerPixelsToNdarrayView_iff overflowChecks pixelsFit
  constructor
  · intro agree
    exact ⟨blob.mp agree.blob, view.mp agree.view⟩
  · intro fits
    exact ⟨blob.mpr fits.1, geometry, view.mpr fits.2⟩

theorem words_agree_iff_written :
    WordsAgree checkingNdarray checkingNdarray true (buildAux "ab" [[7, 7]] none ++ [0, 0])
      (onePixelHeader 4) [1, 2, 3, 4] := by
  refine (words_agree_iff checkingNdarray checkingNdarray true _ _ _ (by decide)
    (by decide)).mpr ⟨lengthsFit_written (by decide), ?_, fun _ _ _ => Iff.rfl⟩
  intro channels packed
  have few := (formatChannels_bounds packed).2
  have one : (onePixelHeader 4).width.toNat = 1 := rfl
  rw [one, Nat.one_mul]
  exact Nat.lt_of_le_of_lt few (by decide)

/-- A blob of four bytes whose caps are said to end at `2 ^ 32` stops a receiver on 32 bits.
On 64 bits it is empty. -/
theorem parseAux_bits32_panics :
    Machine.parseAux (WordSize.bits32.build true) [0xFC, 0xFF, 0xFF, 0xFF] =
        .panicked .overflow ∧
      Machine.parseAux (WordSize.bits32.build false) [0xFC, 0xFF, 0xFF, 0xFF] =
        .panicked (.sliceOrder 4 0) ∧
      Machine.parseAux (WordSize.bits64.build true) [0xFC, 0xFF, 0xFF, 0xFF] = .clean .empty ∧
      ¬ WordsAgree checkingNdarray checkingNdarray false [0xFC, 0xFF, 0xFF, 0xFF]
        (onePixelHeader 4) [1, 2, 3, 4] := by
  have stops : Machine.parseAux (WordSize.bits32.build false) [0xFC, 0xFF, 0xFF, 0xFF] =
      .panicked (.sliceOrder 4 0) := by decide
  refine ⟨by decide, stops, by decide, ?_⟩
  intro agree
  obtain ⟨value, value', narrow, -, -⟩ := agree.blob
  rw [stops] at narrow
  exact Outcome.panicked_ne_clean _ value narrow

end GstIceoryx2.Video
