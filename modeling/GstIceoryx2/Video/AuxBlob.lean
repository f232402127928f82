import GstIceoryx2.Foundations.Utf8
import GstIceoryx2.Foundations.LengthPrefixed

/-!
# The aux blob

The tail of a payload carries what the fixed header cannot: the caps as text and
the serialised metas. The blob is the caps behind their length, the number of
metas, and every meta behind its length. The writer reserves the count and
patches it when it knows how many metas it kept under a limit; the reader moves
a cursor and stops at the first entry that is not there in full.

Both are connected to sequences of length-prefixed records: the writer writes
the records of the longest prefix of the metas within the limit
(`buildAux_eq`), and the reader takes a record, a count and that many records
(`parseAux_eq`). So reading undoes writing whatever follows the blob, and what
was read from arbitrary bytes survives being written and read again.
-/

set_option autoImplicit false

namespace GstIceoryx2.Video

open Foundations

/-! ## The writer -/

/-- Whether a size is over the limit. No limit is no bound. -/
def exceeds (limit : Option Nat) (size : Nat) : Bool :=
  match limit with
  | some limit => size > limit
  | none => false

/-- Append metas while they fit, counting them. -/
def appendMetas (limit : Option Nat) :
    List (List UInt8) → List UInt8 → UInt32 → List UInt8 × UInt32
  | [], out, nMetas => (out, nMetas)
  | blob :: metas, out, nMetas =>
      let entry := 4 + blob.length
      if exceeds limit (out.length + entry) then (out, nMetas)
      else
        appendMetas limit metas (out ++ leBytes (UInt32.ofNat blob.length) ++ blob) (nMetas + 1)

/-- Overwrite the four bytes at a position. -/
def patchU32 (out : List UInt8) (pos : Nat) (word : UInt32) : List UInt8 :=
  out.take pos ++ leBytes word ++ out.drop (pos + 4)

/-- The blob for a caps string and serialised metas. The caps are always
written; metas are dropped from the first one on that is over the limit. -/
def buildAux (caps : String) (metas : List (List UInt8)) (limit : Option Nat) : List UInt8 :=
  let capsBytes := asBytes caps
  let out := leBytes (UInt32.ofNat capsBytes.length) ++ capsBytes
  let nMetasPos := out.length
  let written := appendMetas limit metas (out ++ leBytes 0) 0
  patchU32 written.1 nMetasPos written.2

/-! ## The reader -/

/-- The contents of a blob. -/
structure ParsedAux where
  caps : Option String
  metas : List (List UInt8)
  deriving DecidableEq

namespace ParsedAux

/-- Nothing recovered. -/
def empty : ParsedAux where
  caps := none
  metas := []

end ParsedAux

/-- Read a word at a position and move past it. -/
def readU32 (buf : List UInt8) (pos : Nat) : Option (UInt32 × Nat) :=
  if inside : pos + 4 ≤ buf.length then
    some (ofLeBytes buf[pos] buf[pos + 1] buf[pos + 2] buf[pos + 3], pos + 4)
  else
    none

/-- The bytes from a position on. -/
def slice (buf : List UInt8) (pos len : Nat) : List UInt8 :=
  (buf.drop pos).take len

/-- The loop of the reader over the metas. -/
def parseMetas (aux : List UInt8) : Nat → Nat → List (List UInt8)
  | 0, _ => []
  | count + 1, pos =>
      match readU32 aux pos with
      | none => []
      | some (len, pos) =>
          if pos + len.toNat > aux.length then []
          else slice aux pos len.toNat :: parseMetas aux count (pos + len.toNat)

/-- Parse a blob, up to the first fault. Cursor positions are unbounded here: on
a 64-bit target they are far below the largest `usize`. -/
def parseAux (aux : List UInt8) : ParsedAux :=
  match readU32 aux 0 with
  | none => .empty
  | some (capsLen, pos) =>
      if pos + capsLen.toNat > aux.length then .empty
      else
        let caps := if capsLen.toNat > 0 then fromUtf8 (slice aux pos capsLen.toNat) else none
        match readU32 aux (pos + capsLen.toNat) with
        | none => { caps := caps, metas := [] }
        | some (nMetas, pos) => { caps := caps, metas := parseMetas aux nMetas.toNat pos }

/-! ## The writer writes records -/

/-- The room of a meta in a blob. -/
def entrySize (blob : List UInt8) : Nat := 4 + blob.length

/-- The metas the writer keeps. -/
def keptMetas (caps : String) (metas : List (List UInt8)) (limit : Option Nat) :
    List (List UInt8) :=
  fittingPrefix entrySize limit (8 + (asBytes caps).length) metas

theorem appendMetas_eq (limit : Option Nat) (metas : List (List UInt8)) (out : List UInt8)
    (nMetas : UInt32) :
    appendMetas limit metas out nMetas =
      (out ++ (fittingPrefix entrySize limit out.length metas).flatMap record,
        nMetas + UInt32.ofNat (fittingPrefix entrySize limit out.length metas).length) := by
  induction metas generalizing out nMetas with
  | nil => simp [appendMetas, fittingPrefix]
  | cons blob metas ih =>
      have written : out ++ leBytes (UInt32.ofNat blob.length) ++ blob = out ++ record blob := by
        rw [record, List.append_assoc]
      have size : (out ++ record blob).length = out.length + entrySize blob := by
        rw [List.length_append, length_record, entrySize]
      have count : ∀ kept : List (List UInt8), nMetas + 1 + UInt32.ofNat kept.length =
          nMetas + UInt32.ofNat (blob :: kept).length := by
        intro kept
        rw [List.length_cons, UInt32.ofNat_add, UInt32.add_comm (UInt32.ofNat kept.length),
          ← UInt32.add_assoc]
        rfl
      simp only [appendMetas, written, ih, size, count]
      cases limit with
      | none => simp [exceeds, fittingPrefix]
      | some limit =>
          by_cases beyond : out.length + entrySize blob > limit
          · have beyond' : out.length + (4 + blob.length) > limit := beyond
            simp [exceeds, fittingPrefix, beyond, beyond']
          · have fits' : ¬ out.length + (4 + blob.length) > limit := beyond
            simp [exceeds, fittingPrefix, beyond, fits']

theorem patchU32_append (front : List UInt8) (old new : UInt32) (back : List UInt8) :
    patchU32 (front ++ leBytes old ++ back) front.length new = front ++ leBytes new ++ back := by
  have skipped : (front ++ leBytes old ++ back).drop (front.length + 4) = back := by
    rw [← length_leBytes old, ← List.length_append, List.drop_left]
  rw [patchU32, skipped, List.append_assoc front, List.take_left]

/-- **The writer writes the caps, the count and the records of the kept metas.** -/
theorem buildAux_eq (caps : String) (metas : List (List UInt8)) (limit : Option Nat) :
    buildAux caps metas limit =
      record (asBytes caps) ++ (leBytes (UInt32.ofNat (keptMetas caps metas limit).length) ++
        (keptMetas caps metas limit).flatMap record) := by
  have head : leBytes (UInt32.ofNat (asBytes caps).length) ++ asBytes caps =
      record (asBytes caps) := rfl
  have used : (record (asBytes caps) ++ leBytes 0).length = 8 + (asBytes caps).length := by
    rw [List.length_append, length_record, length_leBytes]
    omega
  simp only [buildAux, head, appendMetas_eq, used, UInt32.zero_add, patchU32_append]
  rw [List.append_assoc]
  rfl

/-- The size of a blob. -/
theorem length_buildAux (caps : String) (metas : List (List UInt8)) (limit : Option Nat) :
    (buildAux caps metas limit).length =
      8 + (asBytes caps).length + ((keptMetas caps metas limit).map entrySize).sum := by
  have entries := length_flatMap_record (keptMetas caps metas limit)
  rw [buildAux_eq, List.length_append, List.length_append, length_record, length_leBytes, entries]
  change _ = 8 + (asBytes caps).length +
    ((keptMetas caps metas limit).map fun blob => 4 + blob.length).sum
  omega

/-! ## The reader takes records -/

theorem readU32_eq_takeWord (buf : List UInt8) (pos : Nat) :
    readU32 buf pos = (takeWord (buf.drop pos)).map fun taken => (taken.1, pos + 4) := by
  unfold readU32
  split
  · rename_i inside
    have bytes : buf.drop pos = buf[pos] :: buf[pos + 1] :: buf[pos + 2] :: buf[pos + 3] ::
        buf.drop (pos + 4) := by
      rw [List.drop_eq_getElem_cons (by omega), List.drop_eq_getElem_cons (by omega),
        List.drop_eq_getElem_cons (by omega), List.drop_eq_getElem_cons (by omega)]
    rw [bytes]
    rfl
  · rename_i outside
    rw [takeWord_eq_none_iff.mpr (by rw [List.length_drop]; omega)]
    rfl

/-- A word read at a position leaves what is behind it. -/
theorem rest_of_takeWord {buf rest : List UInt8} {pos : Nat} {word : UInt32}
    (taken : takeWord (buf.drop pos) = some (word, rest)) : rest = buf.drop (pos + 4) := by
  have bytes := eq_leBytes_of_takeWord taken
  rw [← List.drop_drop, bytes, ← length_leBytes word, List.drop_left]

/-- A word that is read stands at its position, and the cursor behind it. -/
theorem drop_of_readU32 {aux : List UInt8} {pos stop : Nat} {word : UInt32}
    (read : readU32 aux pos = some (word, stop)) :
    stop = pos + 4 ∧ stop ≤ aux.length ∧ aux.drop pos = leBytes word ++ aux.drop stop := by
  rw [readU32_eq_takeWord] at read
  obtain ⟨⟨word', rest⟩, taken, ⟨⟩⟩ := Option.map_eq_some_iff.mp read
  have bytes := eq_leBytes_of_takeWord taken
  have room := congrArg List.length bytes
  rw [List.length_drop, List.length_append, length_leBytes] at room
  refine ⟨rfl, by omega, ?_⟩
  rw [bytes, rest_of_takeWord taken]

theorem readU32_of_drop {aux rest : List UInt8} {pos : Nat} {word : UInt32}
    (bytes : aux.drop pos = leBytes word ++ rest) :
    readU32 aux pos = some (word, pos + 4) ∧ aux.drop (pos + 4) = rest := by
  have taken : takeWord (aux.drop pos) = some (word, rest) := by
    rw [bytes, takeWord_leBytes_append]
  refine ⟨?_, (rest_of_takeWord taken).symm⟩
  rw [readU32_eq_takeWord, taken, Option.map_some]

/-- A record at a position is a word that is read there and the bytes it counts. -/
theorem takeRecord_drop (aux : List UInt8) (pos : Nat) :
    takeRecord (aux.drop pos) =
      match readU32 aux pos with
      | none => none
      | some (len, pos) =>
          if pos + len.toNat > aux.length then none
          else some (slice aux pos len.toNat, aux.drop (pos + len.toNat)) := by
  rw [takeRecord, readU32_eq_takeWord]
  cases taken : takeWord (aux.drop pos) with
  | none => rfl
  | some found =>
      obtain ⟨len, rest⟩ := found
      have behind := rest_of_takeWord taken
      have room := congrArg List.length (eq_leBytes_of_takeWord taken)
      simp only [List.length_drop, List.length_append, length_leBytes] at room
      simp only [Option.map_some]
      by_cases whole : len.toNat ≤ rest.length
      · rw [if_pos whole, if_neg (by omega), slice, behind, List.drop_drop]
      · rw [if_neg whole, if_pos (by omega)]

/-- The cursor loop takes records from the position on. -/
theorem parseMetas_eq_takeRecords (aux : List UInt8) (count pos : Nat) :
    parseMetas aux count pos = takeRecords count (aux.drop pos) := by
  induction count generalizing pos with
  | zero => rfl
  | succ count ih =>
      rw [parseMetas, takeRecords, takeRecord_drop]
      cases readU32 aux pos with
      | none => rfl
      | some found =>
          obtain ⟨len, pos⟩ := found
          by_cases beyond : pos + len.toNat > aux.length
          · simp only [if_pos beyond]
          · simp only [if_neg beyond, ih]

/-- A count that is read at a position and its metas are a counted sequence. -/
theorem takeCounted_drop (aux : List UInt8) (pos : Nat) :
    takeCounted (aux.drop pos) =
      match readU32 aux pos with
      | none => []
      | some (nMetas, pos) => parseMetas aux nMetas.toNat pos := by
  rw [takeCounted, readU32_eq_takeWord]
  cases taken : takeWord (aux.drop pos) with
  | none => rfl
  | some found =>
      simp only [Option.map_some, parseMetas_eq_takeRecords, rest_of_takeWord taken]

/-- **The reader takes a record, a count and that many records.** -/
theorem parseAux_eq (aux : List UInt8) :
    parseAux aux =
      match takeRecord aux with
      | none => .empty
      | some (capsBytes, rest) =>
          { caps := if capsBytes = [] then none else fromUtf8 capsBytes
            metas := takeCounted rest } := by
  have first := takeRecord_drop aux 0
  rw [List.drop_zero] at first
  rw [parseAux, first]
  cases read : readU32 aux 0 with
  | none => rfl
  | some found =>
      obtain ⟨capsLen, pos⟩ := found
      by_cases beyond : pos + capsLen.toNat > aux.length
      · simp only [if_pos beyond]
      · have some_iff : slice aux pos capsLen.toNat = [] ↔ ¬ capsLen.toNat > 0 := by
          rw [← List.length_eq_zero_iff, slice, List.length_take, List.length_drop]
          omega
        simp only [if_neg beyond, some_iff, ite_not, takeCounted_drop]
        cases readU32 aux (pos + capsLen.toNat) <;> rfl

/-! ## Round trips -/

/-- The metas kept are the longest prefix of the metas within the limit. -/
theorem longestWithin_keptMetas (caps : String) (metas : List (List UInt8)) (limit : Option Nat) :
    LongestWithin entrySize limit (8 + (asBytes caps).length) metas
      (keptMetas caps metas limit) :=
  longestWithin_fittingPrefix entrySize limit _ metas

@[simp] theorem keptMetas_none (caps : String) (metas : List (List UInt8)) :
    keptMetas caps metas none = metas :=
  fittingPrefix_none entrySize _ metas

/-- A blob is no larger than its limit, or than the caps alone. -/
theorem length_buildAux_le (caps : String) (metas : List (List UInt8)) (limit : Nat) :
    (buildAux caps metas (some limit)).length ≤ max limit (8 + (asBytes caps).length) := by
  rw [length_buildAux]
  by_cases none : keptMetas caps metas (some limit) = []
  · rw [none]
    exact Nat.le_max_right _ _
  · have fits := (longestWithin_keptMetas caps metas (some limit)).fits none limit rfl
    exact Nat.le_trans fits (Nat.le_max_left _ _)

/-- **Reading undoes writing, whatever follows the blob.** -/
theorem parseAux_buildAux_append {caps : String} {metas : List (List UInt8)}
    (limit : Option Nat) (capsShort : (asBytes caps).length < 2 ^ 32)
    (metasShort : ∀ blob ∈ metas, blob.length < 2 ^ 32) (few : metas.length < 2 ^ 32)
    (rest : List UInt8) :
    parseAux (buildAux caps metas limit ++ rest) =
      { caps := if caps = "" then none else some caps
        metas := keptMetas caps metas limit } := by
  have kept := (longestWithin_keptMetas caps metas limit).isPrefix
  have entries := takeCounted_append
    (fun blob member => metasShort blob (kept.subset member))
    (Nat.lt_of_le_of_lt kept.length_le few) rest
  rw [buildAux_eq, List.append_assoc, parseAux_eq, takeRecord_record_append capsShort]
  simp only [List.append_assoc, entries, asBytes_eq_nil_iff, fromUtf8_asBytes]

/-- Caps are read back whatever the metas are. -/
theorem caps_parseAux_buildAux_append {caps : String} (metas : List (List UInt8))
    (limit : Option Nat) (capsShort : (asBytes caps).length < 2 ^ 32) (rest : List UInt8) :
    (parseAux (buildAux caps metas limit ++ rest)).caps =
      if caps = "" then none else some caps := by
  rw [buildAux_eq, List.append_assoc, parseAux_eq, takeRecord_record_append capsShort]
  simp only [asBytes_eq_nil_iff, fromUtf8_asBytes]

/-- Metas that take less room than a bound are shorter and fewer than it. -/
theorem lengths_lt_of_sum_lt {metas : List (List UInt8)} {bound : Nat}
    (small : (metas.map entrySize).sum < bound) :
    (∀ blob ∈ metas, blob.length < bound) ∧ metas.length < bound := by
  induction metas generalizing bound with
  | nil => exact ⟨fun _ member => absurd member List.not_mem_nil, small⟩
  | cons blob metas ih =>
      simp only [List.map_cons, List.sum_cons, entrySize] at small
      obtain ⟨shorter, fewer⟩ :=
        ih (Nat.lt_sub_of_add_lt (by omega : _ + (4 + blob.length) < bound))
      refine ⟨fun other member => ?_, ?_⟩
      · rcases List.mem_cons.mp member with rfl | later
        · omega
        · exact Nat.lt_of_lt_of_le (shorter other later) (Nat.sub_le _ _)
      · rw [List.length_cons]
        omega

/-- Zeros hold neither caps nor metas. -/
theorem parseAux_replicate_zero (count : Nat) : parseAux (List.replicate count 0) = .empty := by
  have split : ∀ {size : Nat}, 4 ≤ size →
      List.replicate size (0 : UInt8) = leBytes 0 ++ List.replicate (size - 4) 0 := by
    intro size enough
    have front : leBytes 0 = List.replicate 4 (0 : UInt8) := by decide
    rw [front, List.replicate_append_replicate, Nat.add_sub_cancel' enough]
  have noWord : ∀ {size : Nat}, ¬ 4 ≤ size → takeWord (List.replicate size (0 : UInt8)) = none := by
    intro size short
    rw [takeWord_eq_none_iff, List.length_replicate]
    omega
  have noMetas : ∀ size, takeCounted (List.replicate size 0) = [] := by
    intro size
    by_cases enough : 4 ≤ size
    · rw [split enough, takeCounted, takeWord_leBytes_append]
      rfl
    · rw [takeCounted, noWord enough]
  by_cases enough : 4 ≤ count
  · have noCaps : takeRecord (List.replicate count 0) =
        some ([], List.replicate (count - 4) 0) := by
      simp only [split enough, takeRecord, takeWord_leBytes_append, UInt32.toNat_zero,
        Nat.zero_le, if_true, List.take_zero, List.drop_zero]
    rw [parseAux_eq, noCaps]
    simp only [noMetas, if_true, ParsedAux.empty]
  · rw [parseAux_eq, takeRecord, noWord enough]

/-- What a blob can carry: caps that are not empty and lengths that are words. -/
structure ParsedAux.Encodable (parsed : ParsedAux) : Prop where
  nonempty : parsed.caps ≠ some ""
  capsShort : ∀ caps, parsed.caps = some caps → (asBytes caps).length < 2 ^ 32
  metasShort : ∀ blob ∈ parsed.metas, blob.length < 2 ^ 32
  few : parsed.metas.length < 2 ^ 32

/-- **What is read from any bytes can be written.** -/
theorem parseAux_encodable (aux : List UInt8) : (parseAux aux).Encodable := by
  rw [parseAux_eq]
  cases taken : takeRecord aux with
  | none => exact ⟨by simp [ParsedAux.empty], by simp [ParsedAux.empty],
      by simp [ParsedAux.empty], by simp [ParsedAux.empty]⟩
  | some found =>
      obtain ⟨capsBytes, rest⟩ := found
      have short := (eq_record_of_takeRecord taken).2
      have text : ∀ caps, (if capsBytes = [] then none else fromUtf8 capsBytes) = some caps →
          capsBytes ≠ [] ∧ asBytes caps = capsBytes := by
        intro caps read
        split_ifs at read with empty
        exact ⟨empty, fromUtf8_eq_some_iff.mp read⟩
      refine ⟨fun empty => ?_, fun caps read => ?_,
        fun blob member => length_lt_of_mem_takeCounted member, length_takeCounted_lt rest⟩
      · exact (text "" empty).1 ((text "" empty).2.symm.trans asBytes_empty)
      · rw [(text caps read).2]
        exact short

/-- **Writing what a blob can carry and reading it returns it.** -/
theorem parseAux_buildAux_of_encodable {parsed : ParsedAux} (encodable : parsed.Encodable) :
    parseAux (buildAux (parsed.caps.getD "") parsed.metas none) = parsed := by
  obtain ⟨caps, metas⟩ := parsed
  have capsShort : (asBytes (caps.getD "")).length < 2 ^ 32 := by
    cases caps with
    | none => simp
    | some text => exact encodable.capsShort text rfl
  have read := parseAux_buildAux_append none capsShort encodable.metasShort encodable.few []
  rw [List.append_nil, keptMetas_none] at read
  rw [read]
  cases caps with
  | none => rfl
  | some text =>
      have nonempty : text ≠ "" := fun empty => encodable.nonempty (by rw [empty])
      simp only [Option.getD_some, if_neg nonempty]

/-- **The codec round trip.** For caps, metas and a count whose lengths are
words, parsing a blob with any bytes behind it returns the caps and the longest
prefix of the metas within the limit; the blob is as long as what it carries and
no longer than the limit or the caps alone; and what is parsed from any bytes
survives being written without a limit and parsed again. -/
theorem parseAux_buildAux_roundTrip :
    (∀ (caps : String) (metas : List (List UInt8)) (limit : Option Nat) (rest : List UInt8),
      (asBytes caps).length < 2 ^ 32 → (∀ blob ∈ metas, blob.length < 2 ^ 32) →
      metas.length < 2 ^ 32 →
        ∃ kept, LongestWithin entrySize limit (8 + (asBytes caps).length) metas kept ∧
          (limit = none → kept = metas) ∧
          parseAux (buildAux caps metas limit ++ rest) =
            { caps := if caps = "" then none else some caps, metas := kept } ∧
          (buildAux caps metas limit).length =
            8 + (asBytes caps).length + (kept.map entrySize).sum ∧
          ∀ bound, limit = some bound →
            (buildAux caps metas limit).length ≤ max bound (8 + (asBytes caps).length)) ∧
    ∀ aux, parseAux (buildAux ((parseAux aux).caps.getD "") (parseAux aux).metas none) =
      parseAux aux := by
  refine ⟨fun caps metas limit rest capsShort metasShort few => ?_, fun aux => ?_⟩
  · refine ⟨keptMetas caps metas limit, longestWithin_keptMetas caps metas limit, ?_,
      parseAux_buildAux_append limit capsShort metasShort few rest,
      length_buildAux caps metas limit, ?_⟩
    · rintro rfl
      exact keptMetas_none caps metas
    · rintro bound rfl
      exact length_buildAux_le caps metas bound
  · exact parseAux_buildAux_of_encodable (parseAux_encodable aux)

theorem parseAux_buildAux_roundTrip_limited :
    (buildAux "ab" [[7, 7], [8]] (some 17)).length = 16 ∧
      parseAux (buildAux "ab" [[7, 7], [8]] (some 17) ++ [0, 0, 9]) = ⟨some "ab", [[7, 7]]⟩ := by
  obtain ⟨kept, -, -, read, size, -⟩ := parseAux_buildAux_roundTrip.1 "ab" [[7, 7], [8]] (some 17)
    [0, 0, 9] (by decide) (by decide) (by decide)
  have blobs : kept = [[7, 7]] :=
    congrArg ParsedAux.metas (read.symm.trans (by decide :
      parseAux (buildAux "ab" [[7, 7], [8]] (some 17) ++ [0, 0, 9]) = ⟨some "ab", [[7, 7]]⟩))
  subst blobs
  exact ⟨size, read⟩

/-! ## Caps longer than a word counts -/

/-- Caps whose length is a multiple of `2 ^ 32` are written with length zero, and
no caps are read back. -/
theorem parseAux_buildAux_caps_eq_none {caps : String} (metas : List (List UInt8))
    (limit : Option Nat) (rest : List UInt8) (wraps : (asBytes caps).length % 2 ^ 32 = 0) :
    (parseAux (buildAux caps metas limit ++ rest)).caps = none := by
  have zero : UInt32.ofNat (asBytes caps).length = 0 := by
    apply UInt32.toNat_inj.mp
    rw [UInt32.toNat_ofNat', wraps]
    rfl
  rw [buildAux_eq, record, zero, parseAux_eq]
  simp only [List.append_assoc, takeRecord, takeWord_leBytes_append, UInt32.toNat_zero,
    Nat.zero_le, if_true, List.take_zero]

theorem length_asBytes_replicate (count : Nat) :
    (asBytes (String.ofList (List.replicate count 'a'))).length = count := by
  induction count with
  | zero => rfl
  | succ count ih =>
      have one : (asBytes (String.ofList ['a'])).length = 1 := by decide
      rw [List.replicate_succ, ← List.singleton_append, String.ofList_append,
        length_asBytes_append, ih, one, Nat.add_comm]

/-- A caps string of `2 ^ 32` bytes is lost. -/
theorem parseAux_buildAux_loses_huge_caps :
    ∃ caps : String, caps = String.ofList (List.replicate (2 ^ 32) 'a') ∧ caps ≠ "" ∧
      (parseAux (buildAux caps [] none ++ [])).caps = none := by
  have size := length_asBytes_replicate (2 ^ 32)
  refine ⟨_, rfl, fun empty => ?_, ?_⟩
  swap
  · exact parseAux_buildAux_caps_eq_none [] none [] (by rw [size, Nat.mod_self])
  rw [asBytes_eq_nil_iff.mpr empty] at size
  exact absurd size (by decide)

end GstIceoryx2.Video
