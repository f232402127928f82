import GstIceoryx2.Element.Sink

/-!
# The two render paths

The same buffer can be sent as the loan it already is, with the blob in a tail
of fixed size, or copied into a loan that fits the blob exactly. A receiver that
splits the payload and parses the blob sees the same frame either way, up to what
the reserve has room for: all of the caps and the longest prefix of the metas
when the caps fit, and nothing of either when they do not
(`renderPaths_equivalent`).
-/

set_option autoImplicit false

namespace GstIceoryx2.Element.Sink

open Foundations Video

variable {gst : Gst}

/-- The frame a render sends, when all of its payload is written. -/
def sentFrame (state : State gst) (buffer : Buffer gst) (registered : Option (List MemByte))
    (src : List MemByte) : Option VideoFrame :=
  match render state buffer registered src with
  | .error _ => none
  | .ok loan => loan.assumeInit

/-! ## The blob in a reserved tail -/

/-- The room the caps take in a blob: two words and the text. -/
def capsRoom (caps : gst.Caps) : Nat :=
  8 + (asBytes (gst.capsToString caps)).length

theorem capsRoom_le_length_buildAux (caps : gst.Caps) (metas : List (List UInt8))
    (limit : Option Nat) :
    capsRoom caps ≤ (buildAux (gst.capsToString caps) metas limit).length := by
  rw [length_buildAux]
  exact Nat.le_add_right _ _

/-- A tail with room for the caps holds a blob bounded by it. -/
theorem tailBlob_of_capsRoom_le {caps : gst.Caps} {buffer : Buffer gst} {tail : Nat}
    (roomy : capsRoom caps ≤ tail) :
    tailBlob (some caps) buffer tail =
      buildAux (gst.capsToString caps) (serializedMetas buffer) (some tail) := by
  have size := length_buildAux_le (gst.capsToString caps) (serializedMetas buffer) tail
  have fits : (auxBlob (some caps) buffer (some tail)).length ≤ tail :=
    Nat.le_trans size (Nat.max_le.mpr ⟨Nat.le_refl _, roomy⟩)
  have enough : tail ≥ auxMinBytes := Nat.le_trans (Nat.le_add_right _ _) roomy
  simp only [tailBlob, if_pos enough, if_pos fits]
  rfl

/-- A tail without room for the caps holds no blob. -/
theorem tailBlob_of_not_capsRoom_le {caps : gst.Caps} {buffer : Buffer gst} {tail : Nat}
    (small : ¬ capsRoom caps ≤ tail) : tailBlob (some caps) buffer tail = [] := by
  have beyond : ¬ (auxBlob (some caps) buffer (some tail)).length ≤ tail :=
    fun fits => small (Nat.le_trans (capsRoom_le_length_buildAux caps _ _) fits)
  simp only [tailBlob, if_neg beyond, ite_self]

/-! ## What a receiver reads -/

section Received

variable {caps : gst.Caps} {buffer : Buffer gst}

/-- The caps and metas of a buffer take less room than a word counts. -/
def BlobShort (caps : gst.Caps) (buffer : Buffer gst) : Prop :=
  capsRoom caps + ((serializedMetas buffer).map entrySize).sum < 2 ^ 32

/-- Caps and metas that take less room than a word counts are shorter and fewer. -/
theorem lengths_of_blobShort (short : BlobShort caps buffer) :
    (asBytes (gst.capsToString caps)).length < 2 ^ 32 ∧
      (∀ blob ∈ serializedMetas buffer, blob.length < 2 ^ 32) ∧
      (serializedMetas buffer).length < 2 ^ 32 := by
  simp only [BlobShort, capsRoom] at short
  obtain ⟨metasShort, few⟩ := lengths_lt_of_sum_lt
    (by omega : ((serializedMetas buffer).map entrySize).sum < 2 ^ 32)
  exact ⟨by omega, metasShort, few⟩

/-- **A whole blob is parsed back.** -/
theorem parseAux_auxBlob (named : gst.capsToString caps ≠ "") (short : BlobShort caps buffer) :
    parseAux (auxBlob (some caps) buffer none) =
      { caps := some (gst.capsToString caps), metas := serializedMetas buffer } := by
  obtain ⟨capsShort, metasShort, few⟩ := lengths_of_blobShort short
  have parsed := parseAux_buildAux_append none capsShort metasShort few []
  rw [List.append_nil, keptMetas_none, if_neg named] at parsed
  exact parsed

/-- **A filled tail is parsed back as the caps and the metas that fit, or as
nothing.** -/
theorem parseAux_tailBlob (named : gst.capsToString caps ≠ "") (short : BlobShort caps buffer)
    (tail slack : Nat) :
    parseAux (tailBlob (some caps) buffer tail ++ List.replicate slack 0) =
      if capsRoom caps ≤ tail then
        { caps := some (gst.capsToString caps)
          metas := keptMetas (gst.capsToString caps) (serializedMetas buffer) (some tail) }
      else
        .empty := by
  obtain ⟨capsShort, metasShort, few⟩ := lengths_of_blobShort short
  split_ifs with roomy
  · rw [tailBlob_of_capsRoom_le roomy,
      parseAux_buildAux_append (some tail) capsShort metasShort few, if_neg named]
  · rw [tailBlob_of_not_capsRoom_le roomy, List.nil_append, parseAux_replicate_zero]

end Received

/-! ## What a path sends -/

/-- A buffer's header and pixels, with a blob behind them. -/
def frameWithAux (info : CapsInfo) (buffer : Buffer gst) (pixels aux : List UInt8) :
    VideoFrame where
  header := { buildHeader buffer info with auxSize := UInt32.ofNat aux.length }
  payload := pixels ++ aux

/-- A receiver splits off the blob that was put there. -/
theorem frameWithAux_split (info : CapsInfo) (buffer : Buffer gst) (pixels : List UInt8)
    {aux : List UInt8} (short : aux.length < 2 ^ 32) :
    (frameWithAux info buffer pixels aux).pixels = pixels ∧
      (frameWithAux info buffer pixels aux).aux = aux :=
  split_of_append (UInt32.toNat_ofNat_of_lt short)

/-- The reserve once it is filled: the blob for its size, and zeros. -/
def filledReserve (caps : gst.Caps) (buffer : Buffer gst) (tail : Nat) : List UInt8 :=
  tailBlob (some caps) buffer tail ++
    List.replicate (tail - (tailBlob (some caps) buffer tail).length) 0

@[simp] theorem length_filledReserve (caps : gst.Caps) (buffer : Buffer gst) (tail : Nat) :
    (filledReserve caps buffer tail).length = tail := by
  have fits := length_tailBlob_le (some caps) buffer tail
  rw [filledReserve, List.length_append, List.length_replicate, Nat.add_sub_cancel' fits]

theorem sentFrame_zeroCopy {info : CapsInfo} (caps : gst.Caps) (buffer : Buffer gst)
    {pixels : List UInt8} (reserve src : List MemByte) (sized : pixels.length = info.size) :
    sentFrame ⟨some info, some caps⟩ buffer (some (pixels.map some ++ reserve)) src =
      some (frameWithAux info buffer pixels (filledReserve caps buffer reserve.length)) := by
  rw [frameWithAux, length_filledReserve]
  exact renderZeroCopy_eq sized (some caps) buffer reserve

theorem sentFrame_copy (info : CapsInfo) (caps : gst.Caps) (buffer : Buffer gst)
    (pixels : List UInt8) :
    sentFrame ⟨some info, some caps⟩ buffer none (pixels.map some) =
      some (frameWithAux info buffer pixels (auxBlob (some caps) buffer none)) :=
  renderCopy_eq info (some caps) buffer pixels

/-! ## The paths agree -/

/-- **The two paths send the same frame up to the reserve.** For a buffer of the
current size, both send its pixels under the same header; the copied frame
carries the caps and all metas, and the other one the caps and the longest
prefix of the metas within the reserve, or neither when the reserve has no room
for the caps. Every byte of the reserve is written. -/
theorem renderPaths_equivalent (info : CapsInfo) (caps : gst.Caps) (buffer : Buffer gst)
    (pixels : List UInt8) (reserve : List MemByte) (sized : pixels.length = info.size)
    (named : gst.capsToString caps ≠ "") (short : BlobShort caps buffer)
    (reserveShort : reserve.length < 2 ^ 32) :
    ∃ zeroCopy copy : VideoFrame,
      sentFrame ⟨some info, some caps⟩ buffer (some (pixels.map some ++ reserve))
        (pixels.map some) = some zeroCopy ∧
      sentFrame ⟨some info, some caps⟩ buffer none (pixels.map some) = some copy ∧
      zeroCopy.pixels = pixels ∧ copy.pixels = pixels ∧
      { zeroCopy.header with auxSize := 0 } = { copy.header with auxSize := 0 } ∧
      copy.parsedAux = ⟨some (gst.capsToString caps), serializedMetas buffer⟩ ∧
      (capsRoom caps ≤ reserve.length →
        zeroCopy.parsedAux.caps = copy.parsedAux.caps ∧
          LongestWithin entrySize (some reserve.length) (capsRoom caps)
            copy.parsedAux.metas zeroCopy.parsedAux.metas) ∧
      (¬ capsRoom caps ≤ reserve.length → zeroCopy.parsedAux = .empty) ∧
      ∀ byte ∈ (renderZeroCopy info (some caps) buffer
        (pixels.map some ++ reserve)).payload.drop pixels.length, byte.isSome := by
  have sent := sentFrame_zeroCopy caps buffer reserve (pixels.map some) sized
  obtain ⟨zeroCopyPixels, zeroCopyAux⟩ := frameWithAux_split info buffer pixels
    (by rwa [length_filledReserve caps buffer reserve.length])
  obtain ⟨copyPixels, copyAux⟩ := frameWithAux_split info buffer pixels
    (by rw [auxBlob, length_buildAux, keptMetas_none]; exact short :
      (auxBlob (some caps) buffer none).length < 2 ^ 32)
  have copyParsed := parseAux_auxBlob named short
  rw [← copyAux, ← VideoFrame.parsedAux] at copyParsed
  have zeroCopyParsed := parseAux_tailBlob named short reserve.length
    (reserve.length - (tailBlob (some caps) buffer reserve.length).length)
  rw [← filledReserve, ← zeroCopyAux, ← VideoFrame.parsedAux] at zeroCopyParsed
  refine ⟨_, _, sent, sentFrame_copy info caps buffer pixels, zeroCopyPixels, copyPixels, rfl,
    copyParsed, fun roomy => ?_, fun small => ?_, ?_⟩
  · rw [copyParsed, zeroCopyParsed, if_pos roomy]
    exact ⟨rfl, longestWithin_keptMetas _ _ _⟩
  · rw [zeroCopyParsed, if_neg small]
  · rw [Loan.payload_of_assumeInit sent]
    intro byte member
    obtain ⟨written, -, rfl⟩ := List.mem_map.mp (List.mem_of_mem_drop member)
    rfl

theorem renderPaths_equivalent_onePixel :
    ∃ frame, @sentFrame twoCapsGst ⟨some (capsInfo TwoCaps.onePixel.info), some .onePixel⟩
        (plainBuffer twoCapsGst) (some ([1, 2, 3, 4].map some ++ List.replicate 80 none))
        ([1, 2, 3, 4].map some) = some frame ∧
      frame.pixels = [1, 2, 3, 4] ∧ frame.parsedAux.caps = some TwoCaps.onePixel.toText := by
  obtain ⟨zeroCopy, copy, sent, -, pixels, -, -, parsed, fitting, -⟩ :=
    renderPaths_equivalent (capsInfo TwoCaps.onePixel.info) (TwoCaps.onePixel : twoCapsGst.Caps)
      (plainBuffer twoCapsGst) [1, 2, 3, 4] (List.replicate 80 none) (by decide) (by decide)
      (by unfold BlobShort; decide) (by decide)
  refine ⟨zeroCopy, sent, pixels, ?_⟩
  rw [(fitting (by decide)).1, parsed]
  rfl

end GstIceoryx2.Element.Sink
