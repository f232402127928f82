import GstIceoryx2.Foundations.StridedPlane

/-!
# Strided views

A view shows a buffer as rows of pixels with channels, by a shape and a stride
for each axis. It holds no elements of its own: an element is the one of the
buffer at the index that the strides give.

A view is inside when every index it addresses is one of the buffer. A view whose
pixels lie densely in rows no longer than the row stride is inside when the room
of its rows is (`inside_of_rows`).

A library that does not look at every index compares the buffer with the last one.
That comes to the same for a view with an element (`fitsSlice_iff_inside`). An empty
view addresses nothing, and its last index, which is then no index of it, can still be
behind the buffer.
-/

set_option autoImplicit false

namespace GstIceoryx2.Foundations

variable {α : Type*}

/-- A buffer with the shape and the strides to show it by. -/
structure StridedView (α : Type*) where
  height : Nat
  width : Nat
  channels : Nat
  rowStride : Nat
  columnStride : Nat
  channelStride : Nat
  data : List α
  deriving DecidableEq

namespace StridedView

variable (view : StridedView α)

/-- The element is one of the shape. -/
def Has (y x c : Nat) : Prop :=
  y < view.height ∧ x < view.width ∧ c < view.channels

instance (y x c : Nat) : Decidable (view.Has y x c) := inferInstanceAs (Decidable (_ ∧ _))

/-- Where the buffer holds an element. -/
def index (y x c : Nat) : Nat :=
  y * view.rowStride + x * view.columnStride + c * view.channelStride

/-- Every element of the shape is in the buffer. -/
def Inside : Prop :=
  ∀ y x c, view.Has y x c → view.index y x c < view.data.length

/-- An axis has no element. -/
def Empty : Prop :=
  view.height = 0 ∨ view.width = 0 ∨ view.channels = 0

instance : Decidable view.Empty := inferInstanceAs (Decidable (_ ∨ _ ∨ _))

/-- How far the strides lead to the end of every axis. -/
def lastIndex : Nat :=
  view.index (view.height - 1) (view.width - 1) (view.channels - 1)

/-- The last index is in the buffer, or at its end when there is no element. -/
def FitsSlice : Prop :=
  if view.Empty then view.lastIndex ≤ view.data.length else view.lastIndex < view.data.length

instance : Decidable view.FitsSlice := by
  unfold FitsSlice
  infer_instance

/-- An element of the shape. -/
def get? (y x c : Nat) : Option α :=
  if view.Has y x c then view.data[view.index y x c]? else none

/-- The pixels lie densely in rows no longer than the row stride. -/
structure Rows : Prop where
  columns : view.columnStride = view.channels
  channels : view.channelStride = 1
  covered : view.width * view.channels ≤ view.rowStride

variable {view}

theorem Has.index_le_lastIndex {y x c : Nat} (has : view.Has y x c) :
    view.index y x c ≤ view.lastIndex := by
  obtain ⟨inRows, inRow, inPixel⟩ := has
  refine Nat.add_le_add (Nat.add_le_add ?_ ?_) ?_
  · exact Nat.mul_le_mul_right _ (Nat.le_sub_one_of_lt inRows)
  · exact Nat.mul_le_mul_right _ (Nat.le_sub_one_of_lt inRow)
  · exact Nat.mul_le_mul_right _ (Nat.le_sub_one_of_lt inPixel)

/-- **A view with an element fits the slice exactly when it is inside.** -/
theorem fitsSlice_iff_inside (someElement : ¬ view.Empty) : view.FitsSlice ↔ view.Inside := by
  rw [FitsSlice, if_neg someElement]
  constructor
  · intro fits y x c has
    exact Nat.lt_of_le_of_lt has.index_le_lastIndex fits
  · intro inside
    obtain ⟨someRow, someColumn, someChannel⟩ := by
      simpa only [Empty, not_or] using someElement
    exact inside _ _ _ ⟨Nat.sub_one_lt someRow, Nat.sub_one_lt someColumn,
      Nat.sub_one_lt someChannel⟩

/-- In dense rows an element lies in the row of its pixel. -/
theorem Rows.index_lt (rows : view.Rows) {y x c : Nat} (has : view.Has y x c) :
    view.index y x c < view.rowStride * view.height := by
  obtain ⟨inRows, inRow, inPixel⟩ := has
  let plane : StridedPlane := ⟨0, view.rowStride, view.height, view.width * view.channels⟩
  have extent : plane.extent ≤ view.rowStride * view.height := Nat.le_of_eq (Nat.zero_add _)
  have pixel : (x + 1) * view.channels ≤ view.width * view.channels :=
    Nat.mul_le_mul_right _ inRow
  have byte : x * view.channels + c < view.width * view.channels := by
    rw [Nat.succ_mul] at pixel
    omega
  have inside := plane.inside_of_extent extent rows.covered y inRows _ byte
  simp only [StridedPlane.address, plane] at inside
  rw [index, rows.columns, rows.channels, Nat.mul_one]
  omega

/-- **Dense rows are inside a buffer that has room for them.** -/
theorem inside_of_rows (rows : view.Rows)
    (room : view.rowStride * view.height ≤ view.data.length) : view.Inside := by
  intro y x c has
  exact Nat.lt_of_lt_of_le (rows.index_lt has) room

end StridedView

end GstIceoryx2.Foundations
