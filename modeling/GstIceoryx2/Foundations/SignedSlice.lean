import Mathlib.Data.List.Basic

/-!
# Slices with signed indices

The indices of a slice are integers. One that is negative counts from the end, and
all are cut to the list, so a slice is defined for any indices. An index from zero to
the length is the position where the part up to it and the part from it meet
(`sliceIndex_natCast`).
-/

set_option autoImplicit false

namespace GstIceoryx2.Foundations

/-- The position an index of a slice stands for. -/
def sliceIndex (length : Nat) (index : Int) : Nat :=
  if index < 0 then (index + length).toNat else min index.toNat length

theorem sliceIndex_natCast {position length : Nat} (within : position ≤ length) :
    sliceIndex length position = position := by
  rw [sliceIndex, if_neg (Int.not_lt.mpr (Int.natCast_nonneg position)), Int.toNat_natCast,
    Nat.min_eq_left within]

variable {Item : Type*} (items : List Item)

/-- `items[:stop]`. -/
def sliceTo (stop : Int) : List Item :=
  items.take (sliceIndex items.length stop)

/-- `items[start:]`. -/
def sliceFrom (start : Int) : List Item :=
  items.drop (sliceIndex items.length start)

/-- `items[start:stop]`. -/
def sliceBetween (start stop : Int) : List Item :=
  (items.take (sliceIndex items.length stop)).drop (sliceIndex items.length start)

theorem sliceBetween_natCast {start length : Nat} (within : start + length ≤ items.length) :
    sliceBetween items start ((start + length : Nat) : Int) = (items.drop start).take length := by
  rw [sliceBetween, sliceIndex_natCast within,
    sliceIndex_natCast (Nat.le_trans (Nat.le_add_right _ _) within), List.drop_take,
    Nat.add_sub_cancel_left]

end GstIceoryx2.Foundations
