import GstIceoryx2.Python.Codec

/-!
# The Python builder

The Python package also mirrors the writer of aux blobs. A length or a count that is no
32-bit word is cut in Rust, and cannot be packed in Python.

So the mirror raises an exception exactly for the blobs that cannot be read back, and
otherwise writes what Rust writes: then both parsers read the caps and the longest
prefix of the metas within the limit, whatever follows the blob
(`aux_crosses_languages`).
-/

set_option autoImplicit false

namespace GstIceoryx2.Python.AuxBuilder

open Foundations Video

/-! ## The builder -/

/-- `struct.pack("<I", number)`. -/
def pack (number : Nat) : Except BufferError (List UInt8) :=
  if number < 2 ^ 32 then .ok (leBytes (UInt32.ofNat number)) else .error .structError

/-- The loop of the builder over the metas. -/
def appendMetas (limit : Option Nat) :
    List (List UInt8) → List UInt8 → Nat → Except BufferError (List UInt8 × Nat)
  | [], out, nMetas => .ok (out, nMetas)
  | blob :: metas, out, nMetas =>
      let entry := 4 + blob.length
      if exceeds limit (out.length + entry) then .ok (out, nMetas)
      else
        match pack blob.length with
        | .error raised => .error raised
        | .ok word => appendMetas limit metas (out ++ word ++ blob) (nMetas + 1)

/-- `build_aux`. -/
def buildAux (caps : String) (metas : List (List UInt8)) (limit : Option Nat) :
    Except BufferError (List UInt8) :=
  let capsBytes := asBytes caps
  match pack capsBytes.length with
  | .error raised => .error raised
  | .ok word =>
      let out := word ++ capsBytes
      let nMetasPos := out.length
      match pack 0 with
      | .error raised => .error raised
      | .ok zero =>
          match appendMetas limit metas (out ++ zero) 0 with
          | .error raised => .error raised
          | .ok (out, nMetas) =>
              match pack nMetas with
              | .error raised => .error raised
              | .ok count => .ok (out.take nMetasPos ++ count ++ out.drop (nMetasPos + 4))

/-! ## What it packs -/

/-- The lengths of the caps and of the metas that are kept are words, and so is their
number. -/
structure Packable (caps : String) (kept : List (List UInt8)) : Prop where
  capsShort : (asBytes caps).length < 2 ^ 32
  metasShort : ∀ blob ∈ kept, blob.length < 2 ^ 32
  few : kept.length < 2 ^ 32

theorem pack_of_lt {number : Nat} (word : number < 2 ^ 32) :
    pack number = .ok (leBytes (UInt32.ofNat number)) :=
  if_pos word

theorem pack_of_not_lt {number : Nat} (long : ¬ number < 2 ^ 32) :
    pack number = .error .structError :=
  if_neg long

/-- A meta is kept when it is not over the limit, and then the ones behind it may be. -/
theorem fittingPrefix_cons (limit : Option Nat) (used : Nat) (blob : List UInt8)
    (metas : List (List UInt8)) :
    fittingPrefix entrySize limit used (blob :: metas) =
      if exceeds limit (used + (4 + blob.length)) then []
      else blob :: fittingPrefix entrySize limit (used + (4 + blob.length)) metas := by
  cases limit with
  | none => rfl
  | some limit =>
      by_cases beyond : used + (4 + blob.length) > limit
      · simp [fittingPrefix, exceeds, entrySize, beyond]
      · simp [fittingPrefix, exceeds, entrySize, beyond]

section Loop

variable {limit : Option Nat} {metas : List (List UInt8)} {out : List UInt8}

theorem append_record (out blob : List UInt8) :
    out ++ leBytes (UInt32.ofNat blob.length) ++ blob = out ++ record blob ∧
      (out ++ record blob).length = out.length + (4 + blob.length) := by
  rw [record, List.append_assoc, ← record, List.length_append, length_record]
  exact ⟨rfl, rfl⟩

/-- The loop writes the records of the metas that it keeps. -/
theorem appendMetas_of_short (nMetas : Nat)
    (short : ∀ blob ∈ fittingPrefix entrySize limit out.length metas, blob.length < 2 ^ 32) :
    appendMetas limit metas out nMetas =
      .ok (out ++ (fittingPrefix entrySize limit out.length metas).flatMap record,
        nMetas + (fittingPrefix entrySize limit out.length metas).length) := by
  induction metas generalizing out nMetas with
  | nil => simp [appendMetas, fittingPrefix]
  | cons blob metas ih =>
      obtain ⟨written, size⟩ := append_record out blob
      rw [fittingPrefix_cons] at short ⊢
      rw [appendMetas]
      by_cases beyond : exceeds limit (out.length + (4 + blob.length)) = true
      · simp [beyond]
      · simp only [beyond, Bool.false_eq_true, if_false, List.forall_mem_cons] at short ⊢
        rw [pack_of_lt short.1]
        dsimp only
        rw [written, ih (nMetas + 1) (by rw [size]; exact short.2), size, List.flatMap_cons,
          List.length_cons, List.append_assoc, Nat.add_right_comm, Nat.add_assoc nMetas]

/-- The loop fails at a meta that it keeps and that is too long. -/
theorem appendMetas_of_long (nMetas : Nat)
    (long : ¬ ∀ blob ∈ fittingPrefix entrySize limit out.length metas, blob.length < 2 ^ 32) :
    appendMetas limit metas out nMetas = .error .structError := by
  induction metas generalizing out nMetas with
  | nil => exact absurd (fun _ => nofun) long
  | cons blob metas ih =>
      obtain ⟨written, size⟩ := append_record out blob
      rw [fittingPrefix_cons] at long
      rw [appendMetas]
      by_cases beyond : exceeds limit (out.length + (4 + blob.length)) = true
      · rw [if_pos beyond] at long
        exact absurd (fun _ => nofun) long
      · simp only [beyond, Bool.false_eq_true, if_false, List.forall_mem_cons] at long ⊢
        by_cases word : blob.length < 2 ^ 32
        · rw [pack_of_lt word]
          dsimp only
          rw [written]
          exact ih (nMetas + 1) (by rw [size]; exact fun rest => long ⟨word, rest⟩)
        · rw [pack_of_not_lt word]

end Loop

section Build

variable {caps : String} {metas : List (List UInt8)} {limit : Option Nat}

theorem length_head (caps : String) :
    (record (asBytes caps) ++ leBytes 0).length = 8 + (asBytes caps).length := by
  rw [List.length_append, length_record, length_leBytes]
  omega

/-- The caps and the loop, when the caps are short. -/
theorem buildAux_of_capsShort (capsShort : (asBytes caps).length < 2 ^ 32) :
    buildAux caps metas limit =
      match appendMetas limit metas (record (asBytes caps) ++ leBytes 0) 0 with
      | .error raised => .error raised
      | .ok (out, nMetas) =>
          match pack nMetas with
          | .error raised => .error raised
          | .ok count =>
              .ok (out.take (record (asBytes caps)).length ++ count ++
                out.drop ((record (asBytes caps)).length + 4)) := by
  have zero : pack 0 = .ok (leBytes 0) := rfl
  simp only [buildAux, pack_of_lt capsShort, zero]
  rfl

/-- **What can be packed is written as Rust writes it.** -/
theorem buildAux_of_packable (packable : Packable caps (keptMetas caps metas limit)) :
    buildAux caps metas limit = .ok (Video.buildAux caps metas limit) := by
  have loop : appendMetas limit metas (record (asBytes caps) ++ leBytes 0) 0 = _ :=
    appendMetas_of_short 0 (by rw [length_head]; exact packable.metasShort)
  rw [length_head, Nat.zero_add] at loop
  rw [buildAux_of_capsShort packable.capsShort, loop, Video.buildAux_eq]
  dsimp only
  rw [← keptMetas, pack_of_lt packable.few]
  dsimp only
  have patched := patchU32_append (record (asBytes caps)) 0
    (UInt32.ofNat (keptMetas caps metas limit).length)
    ((keptMetas caps metas limit).flatMap record)
  rw [patchU32] at patched
  rw [patched, List.append_assoc]

/-- **What cannot be packed is not written.** -/
theorem buildAux_of_not_packable (unpackable : ¬ Packable caps (keptMetas caps metas limit)) :
    buildAux caps metas limit = .error .structError := by
  by_cases capsShort : (asBytes caps).length < 2 ^ 32
  · rw [buildAux_of_capsShort capsShort]
    by_cases metasShort : ∀ blob ∈ keptMetas caps metas limit, blob.length < 2 ^ 32
    · rw [appendMetas_of_short 0 (by rw [length_head]; exact metasShort)]
      rw [length_head, Nat.zero_add, ← keptMetas]
      dsimp only
      rw [pack_of_not_lt fun few => unpackable ⟨capsShort, metasShort, few⟩]
    · rw [appendMetas_of_long 0 (by rw [length_head]; exact metasShort)]
  · simp only [buildAux, pack_of_not_lt capsShort]

end Build

/-! ## Between the languages -/

/-- What a blob is read back as. -/
def readBack (caps : String) (metas : List (List UInt8)) (limit : Option Nat) :
    Video.ParsedAux where
  caps := orNone caps
  metas := keptMetas caps metas limit

/-- The metas that are kept are kept again. -/
theorem buildAux_kept (caps : String) (metas : List (List UInt8)) (limit : Option Nat) :
    Video.buildAux caps metas limit = Video.buildAux caps (keptMetas caps metas limit) none := by
  rw [Video.buildAux_eq, Video.buildAux_eq, keptMetas_none]

theorem takeRecord_buildAux {caps : String} (metas : List (List UInt8)) (limit : Option Nat)
    (capsShort : (asBytes caps).length < 2 ^ 32) (rest : List UInt8) :
    ∃ counted, takeRecord (Video.buildAux caps metas limit ++ rest) =
      some (asBytes caps, counted) := by
  rw [Video.buildAux_eq, List.append_assoc]
  exact ⟨_, takeRecord_record_append capsShort _⟩

/-- **A blob crosses the languages, or is not written in Python.** When the lengths and the
number of the metas that are kept are words, both builders write one blob, and both
parsers read the caps and these metas from it, whatever follows. When one of them is
not, Python raises an exception, and what Rust writes is read back as something
else. -/
theorem aux_crosses_languages (caps : String) (metas : List (List UInt8)) (limit : Option Nat)
    (rest : List UInt8) :
    LongestWithin entrySize limit (8 + (asBytes caps).length) metas
        (keptMetas caps metas limit) ∧
      (Packable caps (keptMetas caps metas limit) →
        buildAux caps metas limit = .ok (Video.buildAux caps metas limit) ∧
          Video.parseAux (Video.buildAux caps metas limit ++ rest) = readBack caps metas limit ∧
          parseAux ⟨.bytes, Video.buildAux caps metas limit ++ rest⟩ =
            .ok ⟨orNone caps, (keptMetas caps metas limit).map (Buffer.mk .bytes)⟩) ∧
      (¬ Packable caps (keptMetas caps metas limit) →
        buildAux caps metas limit = .error .structError ∧
          Video.parseAux (Video.buildAux caps metas limit ++ rest) ≠
            readBack caps metas limit) := by
  refine ⟨longestWithin_keptMetas caps metas limit, fun packable => ?_, fun unpackable => ?_⟩
  · have read : Video.parseAux (Video.buildAux caps metas limit ++ rest) =
        readBack caps metas limit := by
      rw [buildAux_kept, parseAux_buildAux_append none packable.capsShort packable.metasShort
        packable.few, keptMetas_none]
      rfl
    refine ⟨buildAux_of_packable packable, read, ?_⟩
    obtain ⟨counted, taken⟩ := takeRecord_buildAux metas limit packable.capsShort rest
    obtain ⟨parsed, ok, same, found⟩ :=
      (parseAux_agrees_iff (Video.buildAux caps metas limit ++ rest)).mpr (by
        rintro _ _ taken'
        cases taken.symm.trans taken'
        rw [fromUtf8_asBytes]
        rfl)
    rw [read] at same found
    rw [ok]
    exact congrArg Except.ok (by cases parsed; cases same; cases found; rfl)
  · refine ⟨buildAux_of_not_packable unpackable, fun read => unpackable ?_⟩
    have encodable := parseAux_encodable (Video.buildAux caps metas limit ++ rest)
    rw [read] at encodable
    refine ⟨?_, encodable.metasShort, encodable.few⟩
    by_cases empty : caps = ""
    · rw [empty, asBytes_empty]
      decide
    · exact encodable.capsShort caps (if_neg empty)

end GstIceoryx2.Python.AuxBuilder
