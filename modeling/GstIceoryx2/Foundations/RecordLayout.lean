import Mathlib.Data.List.SplitLengths
import GstIceoryx2.Foundations.LengthPrefixed

/-!
# Records in memory

A record is laid out by placing its fields one after another, each at the next offset
that its alignment divides, and rounding the size up to the largest alignment. What
lies between the fields is not part of the record.

A record is unpadded when nothing lies between them, that is, when its size is that of
its fields. Then the fields stand at the sums of the sizes before them
(`offsets_of_unpadded`), and a memory holds given fields exactly when it is
these fields in a row (`holds_iff`).

Values are written to fields and read from them by a codec. One that is exact reads back
what it wrote and writes back what it read, as the codecs for words and for arrays do.
-/

set_option autoImplicit false

namespace GstIceoryx2.Foundations

/-! ## Layout -/

/-- A field of a record. -/
structure Field where
  name : String
  size : Nat
  align : Nat
  deriving DecidableEq

/-- The next offset that the alignment divides. -/
def roundUp (offset align : Nat) : Nat :=
  offset + (align - offset % align) % align

/-- The offsets of fields that are placed from an offset on. -/
def offsetsFrom : Nat → List Field → List Nat
  | _, [] => []
  | offset, field :: fields =>
      roundUp offset field.align :: offsetsFrom (roundUp offset field.align + field.size) fields

/-- The end of fields that are placed from an offset on. -/
def endFrom : Nat → List Field → Nat
  | offset, [] => offset
  | offset, field :: fields => endFrom (roundUp offset field.align + field.size) fields

/-- The offsets of the fields of a record. -/
def offsets (fields : List Field) : List Nat :=
  offsetsFrom 0 fields

/-- The alignment of a record. -/
def recordAlign (fields : List Field) : Nat :=
  fields.foldr (fun field align => max field.align align) 1

/-- The size of a record. -/
def recordSize (fields : List Field) : Nat :=
  roundUp (endFrom 0 fields) (recordAlign fields)

/-- The sizes of the fields. -/
def sizes (fields : List Field) : List Nat :=
  fields.map Field.size

/-- Nothing lies between the fields, or behind them. -/
def Unpadded (fields : List Field) : Prop :=
  recordSize fields = (sizes fields).sum

instance (fields : List Field) : Decidable (Unpadded fields) :=
  inferInstanceAs (Decidable (_ = _))

/-- What stands at the fields. -/
def fieldsAt (fields : List Field) (memory : List UInt8) : List (List UInt8) :=
  List.zipWith (fun offset size => (memory.drop offset).take size) (offsets fields) (sizes fields)

/-- The memory is a record with the given fields. -/
structure Holds (fields : List Field) (values : List (List UInt8)) (memory : List UInt8) :
    Prop where
  sized : memory.length = recordSize fields
  placed : fieldsAt fields memory = values

/-! ## Records without padding -/

/-- The sums of the sizes before each. -/
def sumsFrom : Nat → List Nat → List Nat
  | _, [] => []
  | offset, size :: sizes => offset :: sumsFrom (offset + size) sizes

theorem le_roundUp (offset align : Nat) : offset ≤ roundUp offset align :=
  Nat.le_add_right _ _

theorem sum_le_endFrom (offset : Nat) (fields : List Field) :
    offset + (sizes fields).sum ≤ endFrom offset fields := by
  induction fields generalizing offset with
  | nil => exact Nat.le_refl _
  | cons field fields ih =>
      have rest := ih (roundUp offset field.align + field.size)
      have placed := le_roundUp offset field.align
      simp only [sizes, List.map_cons, List.sum_cons, endFrom] at rest ⊢
      omega

theorem offsetsFrom_of_end {offset : Nat} {fields : List Field}
    (last : endFrom offset fields = offset + (sizes fields).sum) :
    offsetsFrom offset fields = sumsFrom offset (sizes fields) := by
  induction fields generalizing offset with
  | nil => rfl
  | cons field fields ih =>
      have rest := sum_le_endFrom (roundUp offset field.align + field.size) fields
      have placed := le_roundUp offset field.align
      simp only [sizes, List.map_cons, List.sum_cons, endFrom] at last rest
      have here : roundUp offset field.align = offset := by omega
      rw [here] at last
      simp only [offsetsFrom, sizes, List.map_cons, sumsFrom, here]
      rw [ih (by simp only [sizes]; omega)]
      rfl

/-- **In a record without padding, each field stands at the sum of the sizes before
it.** -/
theorem offsets_of_unpadded {fields : List Field} (unpadded : Unpadded fields) :
    offsets fields = sumsFrom 0 (sizes fields) := by
  have whole := le_roundUp (endFrom 0 fields) (recordAlign fields)
  have least := sum_le_endFrom 0 fields
  simp only [Unpadded, recordSize] at unpadded
  exact offsetsFrom_of_end (by omega)

theorem zipWith_sumsFrom (offset : Nat) (sizes : List Nat) (memory : List UInt8) :
    List.zipWith (fun offset size => (memory.drop offset).take size) (sumsFrom offset sizes) sizes =
      sizes.splitLengths (memory.drop offset) := by
  induction sizes generalizing offset with
  | nil => rfl
  | cons size sizes ih =>
      rw [sumsFrom, List.zipWith_cons_cons, List.splitLengths_cons, ih, List.drop_drop]

/-- The fields split the memory. -/
theorem fieldsAt_of_unpadded {fields : List Field} (unpadded : Unpadded fields)
    (memory : List UInt8) : fieldsAt fields memory = (sizes fields).splitLengths memory := by
  rw [fieldsAt, offsets_of_unpadded unpadded, zipWith_sumsFrom, List.drop_zero]

/-- Parts in a row are split into the parts. -/
theorem splitLengths_flatten (parts : List (List UInt8)) :
    (parts.map List.length).splitLengths parts.flatten = parts := by
  induction parts with
  | nil => rfl
  | cons part parts ih =>
      rw [List.map_cons, List.flatten_cons, List.splitLengths_cons, List.take_left,
        List.drop_left, ih]

/-- **A memory holds the fields of a record without padding exactly when it is these
fields in a row.** -/
theorem holds_iff {fields : List Field} (unpadded : Unpadded fields) {values : List (List UInt8)}
    (sized : values.map List.length = sizes fields) {memory : List UInt8} :
    Holds fields values memory ↔ memory = values.flatten := by
  constructor
  · rintro ⟨whole, placed⟩
    rw [fieldsAt_of_unpadded unpadded] at placed
    rw [← placed, List.flatten_splitLengths]
    exact (whole.trans unpadded).le
  · rintro rfl
    constructor
    · rw [List.length_flatten, sized, unpadded]
    · rw [fieldsAt_of_unpadded unpadded, ← sized, splitLengths_flatten]

/-! ## Values -/

/-- How a value is kept in a field. -/
structure Codec (Value : Type) where
  size : Nat
  align : Nat
  encode : Value → List UInt8
  decode : List UInt8 → Value
  length_encode : ∀ value, (encode value).length = size
  decode_encode : ∀ value, decode (encode value) = value
  encode_decode : ∀ bytes, bytes.length = size → encode (decode bytes) = bytes

/-- The field for values. -/
def Codec.field {Value : Type} (codec : Codec Value) (name : String) : Field :=
  ⟨name, codec.size, codec.align⟩

/-! ## Words -/

/-- The lowest bytes of a number, least significant first. -/
def leDigits : Nat → Nat → List UInt8
  | 0, _ => []
  | count + 1, number => UInt8.ofNat number :: leDigits count (number / 256)

/-- The number with the given bytes. -/
def ofLeDigits : List UInt8 → Nat
  | [] => 0
  | byte :: bytes => byte.toNat + 256 * ofLeDigits bytes

@[simp] theorem length_leDigits (count number : Nat) : (leDigits count number).length = count := by
  induction count generalizing number with
  | zero => rfl
  | succ count ih => rw [leDigits, List.length_cons, ih]

theorem ofLeDigits_leDigits (count number : Nat) :
    ofLeDigits (leDigits count number) = number % 256 ^ count := by
  induction count generalizing number with
  | zero => rw [Nat.pow_zero, Nat.mod_one]; rfl
  | succ count ih =>
      have low := @Nat.mod_mul 256 (256 ^ count) number
      rw [← Nat.pow_succ'] at low
      rw [leDigits, ofLeDigits, ih, UInt8.toNat_ofNat', low]

theorem ofLeDigits_lt (bytes : List UInt8) : ofLeDigits bytes < 256 ^ bytes.length := by
  induction bytes with
  | nil => exact Nat.one_pos
  | cons byte bytes ih =>
      have bound := byte.toNat_lt
      rw [ofLeDigits, List.length_cons, Nat.pow_succ']
      omega

theorem leDigits_ofLeDigits (bytes : List UInt8) :
    leDigits bytes.length (ofLeDigits bytes) = bytes := by
  induction bytes with
  | nil => rfl
  | cons byte bytes ih =>
      have bound := byte.toNat_lt
      have low : UInt8.ofNat (byte.toNat + 256 * ofLeDigits bytes) = byte := by
        apply UInt8.toNat_inj.mp
        rw [UInt8.toNat_ofNat']
        omega
      have high : (byte.toNat + 256 * ofLeDigits bytes) / 256 = ofLeDigits bytes := by omega
      rw [List.length_cons, ofLeDigits, leDigits, low, high, ih]

/-- A byte. -/
def Codec.byte : Codec UInt8 where
  size := 1
  align := 1
  encode := fun byte => [byte]
  decode := fun bytes => bytes.headD 0
  length_encode := fun _ => rfl
  decode_encode := fun _ => rfl
  encode_decode := by
    intro bytes one
    obtain ⟨byte, rfl⟩ := List.length_eq_one_iff.mp one
    rfl

/-- A 32-bit word. -/
def Codec.word32 : Codec UInt32 where
  size := 4
  align := 4
  encode := fun word => leDigits 4 word.toNat
  decode := fun bytes => UInt32.ofNat (ofLeDigits bytes)
  length_encode := fun word => length_leDigits 4 word.toNat
  decode_encode := by
    intro word
    have bound : word.toNat < 256 ^ 4 := word.toNat_lt
    rw [ofLeDigits_leDigits, Nat.mod_eq_of_lt bound, UInt32.ofNat_toNat]
  encode_decode := by
    intro bytes four
    have bound := ofLeDigits_lt bytes
    rw [four] at bound
    have value : (UInt32.ofNat (ofLeDigits bytes)).toNat = ofLeDigits bytes :=
      UInt32.toNat_ofNat_of_lt bound
    rw [value, ← four, leDigits_ofLeDigits]

/-- A 64-bit word. -/
def Codec.word64 : Codec UInt64 where
  size := 8
  align := 8
  encode := fun word => leDigits 8 word.toNat
  decode := fun bytes => UInt64.ofNat (ofLeDigits bytes)
  length_encode := fun word => length_leDigits 8 word.toNat
  decode_encode := by
    intro word
    have bound : word.toNat < 256 ^ 8 := word.toNat_lt
    rw [ofLeDigits_leDigits, Nat.mod_eq_of_lt bound, UInt64.ofNat_toNat]
  encode_decode := by
    intro bytes eight
    have bound := ofLeDigits_lt bytes
    rw [eight] at bound
    have value : (UInt64.ofNat (ofLeDigits bytes)).toNat = ofLeDigits bytes :=
      UInt64.toNat_ofNat_of_lt bound
    rw [value, ← eight, leDigits_ofLeDigits]

/-! ## Arrays -/

section Array

variable {Value : Type} (codec : Codec Value) (count : Nat)

theorem map_length_encode (values : List Value) :
    (values.map codec.encode).map List.length = List.replicate values.length codec.size := by
  rw [List.map_map, List.eq_replicate_iff]
  refine ⟨List.length_map .., fun size member => ?_⟩
  obtain ⟨value, -, rfl⟩ := List.mem_map.mp member
  exact codec.length_encode value

/-- An array. Its elements stand in a row. -/
def Codec.array : Codec (Vector Value count) where
  size := count * codec.size
  align := codec.align
  encode := fun values => (values.toList.map codec.encode).flatten
  decode := fun bytes =>
    ⟨(((List.replicate count codec.size).splitLengths bytes).map codec.decode).toArray, by
      rw [List.size_toArray, List.length_map, List.length_splitLengths, List.length_replicate]⟩
  length_encode := by
    intro values
    rw [List.length_flatten, map_length_encode, List.sum_replicate, Vector.length_toList]
    rfl
  decode_encode := by
    intro values
    apply Vector.toList_inj.mp
    have parts := splitLengths_flatten (values.toList.map codec.encode)
    rw [map_length_encode, Vector.length_toList] at parts
    simp only [Vector.toList_mk, parts, List.map_map]
    refine (List.map_congr_left fun value _ => ?_).trans (List.map_id _)
    exact codec.decode_encode value
  encode_decode := by
    intro bytes whole
    have enough : (List.replicate count codec.size).sum = bytes.length := by
      rw [List.sum_replicate, whole]
      rfl
    simp only [Vector.toList_mk, List.map_map]
    have each : ∀ part ∈ (List.replicate count codec.size).splitLengths bytes,
        (codec.encode ∘ codec.decode) part = part := by
      intro part member
      apply codec.encode_decode
      have lengths := List.map_splitLengths_length bytes _ enough.le
      have length := List.mem_map_of_mem (f := List.length) member
      rw [lengths] at length
      exact List.eq_of_mem_replicate length
    rw [List.map_congr_left each, List.map_id', List.flatten_splitLengths _ _ enough.ge]

end Array

end GstIceoryx2.Foundations
