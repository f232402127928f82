import GstIceoryx2.Foundations.LengthPrefixed
import GstIceoryx2.Video.Header

/-!
# The format field and long names

The field of the format holds fifteen bytes of a name and a terminator. A longer name
is cut after its fifteenth byte, whatever that byte belongs to, and what is left is read
back as text, or as the empty name when it is no text.

So a name is read back, or the longest of its prefixes that fits, exactly when it is not
cut inside a character (`readBack_iff`). A name that is cut inside one is not truncated
but emptied (`formatName_setFormat_of_cut`). The field itself is always the bytes that
were kept with NULs behind them, whatever it held before (`format_setFormat`).
-/

set_option autoImplicit false

namespace GstIceoryx2.Video

open Foundations

namespace VideoFrameHeader

/-! ## What is kept and what is read -/

/-- The bytes of a name that the field keeps. -/
def keptBytes (name : String) : List UInt8 :=
  (asBytes name).take (formatLen - 1)

/-- The name fits the field, or a character of it ends where it is cut. -/
def CutBetweenChars (name : String) : Prop :=
  (asBytes name).length < formatLen ∨
    ∃ front back, name = front ++ back ∧ (asBytes front).length = formatLen - 1

/-- A name is read back as its longest prefix of whole characters that fits the field,
which is the whole name when it fits; and the field is terminated, padded with NULs, and
independent of what it held. -/
structure ReadBack (name : String) (header : VideoFrameHeader) : Prop where
  longest : LongestWithin Char.utf8Size (some (formatLen - 1)) 0 name.toList
    (header.setFormat name).formatName.toList
  whole : (asBytes name).length < formatLen → (header.setFormat name).formatName = name
  padded : ∃ kept, 0 ∉ kept ∧ kept.length < formatLen ∧
    (header.setFormat name).format.toList = kept ++ List.replicate (formatLen - kept.length) 0
  independent : ∀ other : VideoFrameHeader,
    (other.setFormat name).format = (header.setFormat name).format

section

variable {name : String} (header : VideoFrameHeader)

theorem length_keptBytes_lt (name : String) : (keptBytes name).length < formatLen :=
  Nat.lt_of_le_of_lt (List.length_take_le _ _) (Nat.lt_succ_self _)

/-- **The field is the bytes that were kept, with NULs behind them.** -/
theorem format_setFormat (name : String) :
    (header.setFormat name).format.toList =
      keptBytes name ++ List.replicate (formatLen - (keptBytes name).length) 0 := rfl

theorem zero_notMem_keptBytes (noNul : 0 ∉ asBytes name) : 0 ∉ keptBytes name :=
  fun member => noNul (List.mem_of_mem_take member)

theorem formatName_setFormat_eq (noNul : 0 ∉ asBytes name) :
    (header.setFormat name).formatName = (fromUtf8 (keptBytes name)).getD "" := by
  rw [formatName, formatBytes_setFormat header noNul, keptBytes]

/-- **A name that is cut inside a character is emptied.** -/
theorem formatName_setFormat_of_cut (noNul : 0 ∉ asBytes name) (cut : ¬ CutBetweenChars name) :
    (header.setFormat name).formatName = "" := by
  obtain ⟨long, inside⟩ := not_or.mp cut
  have enough : formatLen - 1 ≤ (asBytes name).length :=
    Nat.le_trans (Nat.sub_le _ _) (Nat.le_of_not_lt long)
  rw [formatName_setFormat_eq header noNul]
  cases read : fromUtf8 (keptBytes name) with
  | none => rfl
  | some front =>
      obtain ⟨back, whole, size⟩ := (fromUtf8_take_eq_some_iff enough).mp read
      exact absurd ⟨front, back, whole, size⟩ inside

/-- A name that is cut between two characters is read back up to there. -/
theorem formatName_setFormat_append {front back : String} (noNul : 0 ∉ asBytes (front ++ back))
    (size : (asBytes front).length = formatLen - 1) :
    (header.setFormat (front ++ back)).formatName = front := by
  have enough : formatLen - 1 ≤ (asBytes (front ++ back)).length := by
    rw [length_asBytes_append, size]
    exact Nat.le_add_right _ _
  have read : fromUtf8 (keptBytes (front ++ back)) = some front :=
    (fromUtf8_take_eq_some_iff enough).mpr ⟨back, rfl, size⟩
  rw [formatName_setFormat_eq header noNul, read, Option.getD_some]

/-- What does not depend on the cut. -/
theorem padded_setFormat (noNul : 0 ∉ asBytes name) :
    ∃ kept, 0 ∉ kept ∧ kept.length < formatLen ∧
      (header.setFormat name).format.toList =
        kept ++ List.replicate (formatLen - kept.length) 0 :=
  ⟨keptBytes name, zero_notMem_keptBytes noNul, length_keptBytes_lt name,
    format_setFormat header name⟩

/-- A name that does not fit has a first character, which does. -/
theorem ne_empty_of_longest {shown : String} (long : formatLen ≤ (asBytes name).length)
    (longest : LongestWithin Char.utf8Size (some (formatLen - 1)) 0 name.toList shown.toList) :
    shown ≠ "" := by
  rintro rfl
  cases chars : name.toList with
  | nil =>
      rw [length_asBytes_eq_sum, chars] at long
      exact absurd long (by decide)
  | cons char chars' =>
      rw [chars] at longest
      have first := char.utf8Size_le_four
      apply longest.ne_nil
      · rw [Nat.zero_add]
        exact Nat.le_trans first (by decide)
      · exact String.toList_empty

/-- **A name is read back, or its longest prefix that fits, exactly when it is not cut
inside a character.** -/
theorem readBack_iff (header : VideoFrameHeader) (name : String) (noNul : 0 ∉ asBytes name) :
    ReadBack name header ↔ CutBetweenChars name := by
  constructor
  · intro readBack
    by_contra cut
    obtain ⟨long, -⟩ := not_or.mp cut
    apply ne_empty_of_longest (Nat.le_of_not_lt long) readBack.longest
    exact formatName_setFormat_of_cut header noNul cut
  · intro cut
    refine ⟨?_, ?_, padded_setFormat header noNul, fun other => rfl⟩
    · rcases cut with short | ⟨front, back, rfl, size⟩
      · rw [formatName_setFormat header short noNul]
        apply LongestWithin.refl
        rintro _ ⟨⟩
        rw [Nat.zero_add, ← length_asBytes_eq_sum]
        exact Nat.le_sub_one_of_lt short
      · rw [formatName_setFormat_append header noNul size]
        apply LongestWithin.of_eq
        · rw [String.toList_append]
          exact List.prefix_append _ _
        · rw [Nat.zero_add, ← length_asBytes_eq_sum, size]
        · intro char _
          exact char.utf8Size_pos
    · intro short
      exact formatName_setFormat header short noNul

end

/-- Seven characters of two bytes and one of one byte fill the field, and another one is
cut off whole. -/
theorem readBack_iff_between :
    ReadBack "éééééééxé" zeroed ∧ (zeroed.setFormat "éééééééxé").formatName = "éééééééx" := by
  have readBack : ReadBack "éééééééxé" zeroed :=
    (readBack_iff zeroed "éééééééxé" (by decide)).mpr
      (.inr ⟨"éééééééx", "é", by decide, by decide⟩)
  refine ⟨readBack, ?_⟩
  decide

/-- Eight characters of two bytes are cut inside the last one, and the name is empty. -/
theorem emptied_inside :
    (zeroed.setFormat "éééééééé").formatName = "" ∧ ¬ ReadBack "éééééééé" zeroed := by
  have empty : (zeroed.setFormat "éééééééé").formatName = "" := by decide
  refine ⟨empty, fun readBack => ?_⟩
  exact ne_empty_of_longest (by decide) readBack.longest empty

end VideoFrameHeader

end GstIceoryx2.Video
