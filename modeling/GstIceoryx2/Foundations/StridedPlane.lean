import Mathlib.Data.List.Basic

/-!
# Strided planes in a byte buffer

A plane is a number of rows of equal length, the first at an offset and each
next one a stride further on. Two bounds are kept apart. The extent
`offset + stride * rows` is what a declared layout reserves. The last byte a
reader addresses is in the last row, at the row's length and not at the stride.

The bytes of a plane are inside a buffer exactly when the end of its last row is
(`inside_iff_lastRow`). When the extent is inside the buffer, the bytes are
inside exactly when a row overhangs its stride by no more than the room left
behind the extent (`inside_iff_overhang`), so it is enough that a row is no
longer than the stride (`inside_of_extent`).
-/

set_option autoImplicit false

namespace GstIceoryx2.Foundations

/-- Where a plane lies in a buffer, and how much of it a reader reads. -/
structure StridedPlane where
  offset : Nat
  stride : Nat
  rows : Nat
  rowLength : Nat
  deriving DecidableEq, Repr

namespace StridedPlane

variable (plane : StridedPlane)

/-- The address of a byte of a row. -/
def address (row byte : Nat) : Nat :=
  plane.offset + row * plane.stride + byte

/-- The end of the room a layout declares for the plane. -/
def extent : Nat :=
  plane.offset + plane.stride * plane.rows

/-- Every byte a reader addresses is inside a buffer of the given size. -/
def Inside (size : Nat) : Prop :=
  ∀ row, row < plane.rows → ∀ byte, byte < plane.rowLength → plane.address row byte < size

/-- A plane with no row, or with empty rows, has nothing to read. -/
def Empty : Prop := plane.rows = 0 ∨ plane.rowLength = 0

instance : Decidable plane.Empty := inferInstanceAs (Decidable (_ ∨ _))

/-- No address is beyond the last byte of the last row. -/
theorem address_le {row byte : Nat} (inRows : row < plane.rows) (inRow : byte < plane.rowLength) :
    plane.address row byte < plane.address (plane.rows - 1) plane.rowLength := by
  have rows : row * plane.stride ≤ (plane.rows - 1) * plane.stride :=
    Nat.mul_le_mul_right _ (Nat.le_sub_one_of_lt inRows)
  simp only [address]
  omega

/-- **The bytes of a plane are inside a buffer exactly when its last row is.** -/
theorem inside_iff_lastRow (size : Nat) :
    plane.Inside size ↔
      plane.Empty ∨ plane.address (plane.rows - 1) plane.rowLength ≤ size := by
  constructor
  · intro inside
    by_cases empty : plane.Empty
    · exact .inl empty
    · obtain ⟨someRow, someByte⟩ := not_or.mp empty
      have last := inside (plane.rows - 1) (by omega) (plane.rowLength - 1) (by omega)
      refine .inr ?_
      simp only [address] at last ⊢
      omega
  · rintro (empty | last) row inRows byte inRow
    · rcases empty with noRow | noByte
      · exact absurd inRows (by omega)
      · exact absurd inRow (by omega)
    · exact Nat.lt_of_lt_of_le (plane.address_le inRows inRow) last

/-- The extent ends one stride after the start of the last row. -/
theorem extent_eq_lastRow (someRow : plane.rows ≠ 0) :
    plane.extent = plane.address (plane.rows - 1) plane.stride := by
  obtain ⟨count, rows⟩ := Nat.exists_eq_succ_of_ne_zero someRow
  simp only [extent, address, rows, Nat.succ_sub_one, Nat.mul_comm plane.stride, Nat.succ_mul]
  omega

/-- **When the extent is inside the buffer, the bytes are inside exactly when a
row overhangs its stride by no more than the room behind the extent.** -/
theorem inside_iff_overhang {size : Nat} (declared : plane.extent ≤ size) :
    plane.Inside size ↔
      plane.Empty ∨ plane.rowLength ≤ plane.stride + (size - plane.extent) := by
  rw [inside_iff_lastRow]
  refine or_congr_right' fun nonempty => ?_
  have shape := plane.extent_eq_lastRow (not_or.mp nonempty).1
  rw [shape] at declared ⊢
  simp only [address] at declared ⊢
  omega

/-- Rows no longer than the stride stay inside the declared extent. -/
theorem inside_of_extent {size : Nat} (declared : plane.extent ≤ size)
    (covered : plane.rowLength ≤ plane.stride) : plane.Inside size :=
  (plane.inside_iff_overhang declared).mpr (.inr (Nat.le_trans covered (Nat.le_add_right ..)))

end StridedPlane

end GstIceoryx2.Foundations
