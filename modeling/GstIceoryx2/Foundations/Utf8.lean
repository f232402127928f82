import Mathlib.Algebra.Ring.Nat
import Mathlib.Data.List.Basic

/-!
# Byte strings and UTF-8 text

Byte strings are lists of bytes, and text is `String`, whose bytes are valid
UTF-8 by construction. Reading text from bytes succeeds exactly on the encoding
of some text (`fromUtf8_eq_some_iff`), so reading undoes writing
(`fromUtf8_asBytes`) and two texts with one encoding are equal
(`asBytes_injective`).

Reading with replacements never fails: bytes that start no character are read as
one replacement character for each longest start of a character among them. It
reads valid text as it is (`fromUtf8Replacing_of_fromUtf8`), and nothing but the
empty string as the empty text (`fromUtf8Replacing_eq_empty_iff`).

The encoding of a text that is cut off after some bytes is read exactly when the cut
is between two characters (`fromUtf8_take_eq_some_iff`).
-/

set_option autoImplicit false

namespace GstIceoryx2.Foundations

/-- The UTF-8 bytes of a text. -/
def asBytes (text : String) : List UInt8 :=
  text.toByteArray.data.toList

/-- The text a byte string encodes, when it is valid UTF-8. -/
def fromUtf8 (bytes : List UInt8) : Option String :=
  String.fromUTF8? ⟨bytes.toArray⟩

theorem length_asBytes (text : String) : (asBytes text).length = text.utf8ByteSize := by
  rw [asBytes, Array.length_toList]
  exact String.size_toByteArray

theorem length_asBytes_append (first second : String) :
    (asBytes (first ++ second)).length = (asBytes first).length + (asBytes second).length := by
  simp only [length_asBytes, String.utf8ByteSize_append]

@[simp] theorem asBytes_empty : asBytes "" = [] := by
  simp [asBytes]

/-- **Reading succeeds exactly on the encoding of the text it returns.** -/
theorem fromUtf8_eq_some_iff {bytes : List UInt8} {text : String} :
    fromUtf8 bytes = some text ↔ asBytes text = bytes := by
  unfold fromUtf8 String.fromUTF8? asBytes
  constructor
  · intro decoded
    split at decoded
    · cases decoded
      simp [String.fromUTF8]
    · cases decoded
  · rintro rfl
    have same : (⟨text.toByteArray.data.toList.toArray⟩ : ByteArray) = text.toByteArray := by
      simp
    rw [same, dif_pos text.isValidUTF8]
    rfl

@[simp] theorem fromUtf8_asBytes (text : String) : fromUtf8 (asBytes text) = some text :=
  fromUtf8_eq_some_iff.mpr rfl

theorem asBytes_injective : Function.Injective asBytes := by
  intro first second same
  have decoded : fromUtf8 (asBytes first) = some second := fromUtf8_eq_some_iff.mpr same.symm
  rw [fromUtf8_asBytes] at decoded
  exact Option.some.inj decoded

theorem asBytes_eq_nil_iff {text : String} : asBytes text = [] ↔ text = "" := by
  constructor
  · intro empty
    exact asBytes_injective (empty.trans asBytes_empty.symm)
  · rintro rfl
    exact asBytes_empty

/-! ## Reading with replacements -/

/-- What may follow the first byte of a character: the least and the greatest byte
at each place. -/
def continuations (lead : UInt8) : List (UInt8 × UInt8) :=
  if lead < 0xC2 then []
  else if lead ≤ 0xDF then [(0x80, 0xBF)]
  else if lead = 0xE0 then [(0xA0, 0xBF), (0x80, 0xBF)]
  else if lead = 0xED then [(0x80, 0x9F), (0x80, 0xBF)]
  else if lead ≤ 0xEF then [(0x80, 0xBF), (0x80, 0xBF)]
  else if lead = 0xF0 then [(0x90, 0xBF), (0x80, 0xBF), (0x80, 0xBF)]
  else if lead ≤ 0xF3 then [(0x80, 0xBF), (0x80, 0xBF), (0x80, 0xBF)]
  else if lead = 0xF4 then [(0x80, 0x8F), (0x80, 0xBF), (0x80, 0xBF)]
  else []

/-- How many bytes continue a character. -/
def continued : List (UInt8 × UInt8) → List UInt8 → Nat
  | (least, greatest) :: bounds, byte :: bytes =>
      if least ≤ byte ∧ byte ≤ greatest then continued bounds bytes + 1 else 0
  | _, _ => 0

/-- The first character, when the bytes start with one. -/
def firstChar (bytes : List UInt8) : Option Char :=
  ByteArray.utf8DecodeChar? bytes.toByteArray 0

/-- Read at most so many characters and replacements. -/
def decodeReplacing : Nat → List UInt8 → List Char
  | 0, _ => []
  | _, [] => []
  | fuel + 1, lead :: bytes =>
      match firstChar (lead :: bytes) with
      | some char => char :: decodeReplacing fuel ((lead :: bytes).drop char.utf8Size)
      | none =>
          '\uFFFD' :: decodeReplacing fuel (bytes.drop (continued (continuations lead) bytes))

/-- Read text, with replacements for what is not UTF-8. There are no more
characters than bytes. -/
def fromUtf8Replacing (bytes : List UInt8) : String :=
  String.ofList (decodeReplacing bytes.length bytes)

theorem asBytes_ofList (chars : List Char) :
    asBytes (String.ofList chars) = chars.flatMap String.utf8EncodeChar := by
  rw [asBytes, String.toByteArray_ofList, List.utf8Encode, List.data_toByteArray]

theorem firstChar_append (char : Char) (bytes : List UInt8) :
    firstChar (String.utf8EncodeChar char ++ bytes) = some char := by
  rw [firstChar, List.toByteArray_append, ByteArray.utf8DecodeChar?_utf8EncodeChar_append]

/-- Characters are read back. -/
theorem decodeReplacing_flatMap (chars : List Char) (fuel : Nat)
    (enough : (chars.flatMap String.utf8EncodeChar).length ≤ fuel) :
    decodeReplacing fuel (chars.flatMap String.utf8EncodeChar) = chars := by
  induction chars generalizing fuel with
  | nil => cases fuel <;> rfl
  | cons char chars ih =>
      have size : (String.utf8EncodeChar char).length = char.utf8Size :=
        String.length_utf8EncodeChar char
      have first := firstChar_append char (chars.flatMap String.utf8EncodeChar)
      rw [List.flatMap_cons, List.length_append, size] at enough
      have some := char.utf8Size_pos
      obtain ⟨fuel, rfl⟩ : ∃ less, fuel = less + 1 := Nat.exists_eq_succ_of_ne_zero (by omega)
      have rest : (String.utf8EncodeChar char ++ chars.flatMap String.utf8EncodeChar).drop
          char.utf8Size = chars.flatMap String.utf8EncodeChar := by
        rw [← size, List.drop_left]
      rw [List.flatMap_cons]
      cases bytes : String.utf8EncodeChar char ++ chars.flatMap String.utf8EncodeChar with
      | nil => exact absurd (List.append_eq_nil_iff.mp bytes).1 String.utf8EncodeChar_ne_nil
      | cons lead tail =>
          rw [bytes] at first rest
          simp only [decodeReplacing, first, rest]
          rw [ih fuel (by omega)]

/-- **Valid text is read as it is.** -/
theorem fromUtf8Replacing_of_fromUtf8 {bytes : List UInt8} {text : String}
    (valid : fromUtf8 bytes = some text) : fromUtf8Replacing bytes = text := by
  have encoded := asBytes_ofList text.toList
  rw [String.ofList_toList, fromUtf8_eq_some_iff.mp valid] at encoded
  rw [fromUtf8Replacing, encoded, decodeReplacing_flatMap _ _ (Nat.le_refl _), String.ofList_toList]

/-- **Only no bytes are read as no text.** -/
theorem fromUtf8Replacing_eq_empty_iff {bytes : List UInt8} :
    fromUtf8Replacing bytes = "" ↔ bytes = [] := by
  constructor
  · intro empty
    cases bytes with
    | nil => rfl
    | cons lead bytes =>
        have chars : decodeReplacing (bytes.length + 1) (lead :: bytes) = [] := by
          simpa [fromUtf8Replacing] using empty
        unfold decodeReplacing at chars
        split at chars <;> cases chars
  · rintro rfl
    rfl

/-! ## Text that is cut -/

theorem asBytes_append (front back : String) :
    asBytes (front ++ back) = asBytes front ++ asBytes back := by
  simp only [asBytes, String.toByteArray_append, ByteArray.data_append, Array.toList_append]

/-- The bytes of a text are those of its characters. -/
theorem length_asBytes_eq_sum (text : String) :
    (asBytes text).length = (text.toList.map Char.utf8Size).sum := by
  have encoded := asBytes_ofList text.toList
  rw [String.ofList_toList] at encoded
  rw [encoded, List.length_flatMap]
  simp only [String.length_utf8EncodeChar]

/-- A text whose bytes start another one starts it with its characters. -/
theorem exists_append_of_asBytes_prefix {front text : String}
    (isPrefix : asBytes front <+: asBytes text) : ∃ back, text = front ++ back := by
  obtain ⟨behind, same⟩ := isPrefix
  have chars : front.toList <+: text.toList := by
    apply List.isPrefix_of_utf8Encode_append_eq_utf8Encode behind.toByteArray
    rw [String.utf8Encode_toList, String.utf8Encode_toList]
    apply ByteArray.ext
    apply Array.toList_inj.mp
    rw [ByteArray.data_append, Array.toList_append, List.data_toByteArray]
    exact same
  obtain ⟨rest, whole⟩ := chars
  refine ⟨String.ofList rest, ?_⟩
  rw [← String.toList_inj, String.toList_append, String.toList_ofList, whole]

/-- **A text that is cut after some bytes is read exactly when the cut is between two of
its characters, and then as the characters before it.** -/
theorem fromUtf8_take_eq_some_iff {text front : String} {count : Nat}
    (enough : count ≤ (asBytes text).length) :
    fromUtf8 ((asBytes text).take count) = some front ↔
      ∃ back, text = front ++ back ∧ (asBytes front).length = count := by
  rw [fromUtf8_eq_some_iff]
  constructor
  · intro taken
    obtain ⟨back, whole⟩ : ∃ back, text = front ++ back :=
      exists_append_of_asBytes_prefix (taken ▸ List.take_prefix count (asBytes text))
    refine ⟨back, whole, ?_⟩
    rw [taken, List.length_take, Nat.min_eq_left enough]
  · rintro ⟨back, rfl, size⟩
    rw [asBytes_append, ← size, List.take_left]

end GstIceoryx2.Foundations
