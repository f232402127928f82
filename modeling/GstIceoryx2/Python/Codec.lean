import GstIceoryx2.Foundations.SignedSlice
import GstIceoryx2.Video.AuxBlob

/-!
# The Python parser

The Python package mirrors the parser of aux blobs. It reads from any buffer that
has slices and can be unpacked, and decodes the caps with replacements where the
Rust parser gives no caps for bytes that are not UTF-8. Only bytes can be decoded:
a memoryview has no such method.

On bytes the mirror never raises an exception and finds the metas that the Rust
parser finds. The caps are the same exactly when those of a whole record are UTF-8
(`parseAux_agrees_iff`). On a memoryview it raises an exception for every blob
whose caps are there in full (`parseAux_memoryview`).
-/

set_option autoImplicit false

namespace GstIceoryx2.Python

open Foundations Video

/-! ## Buffers -/

/-- The types of buffers. -/
inductive BufferType where
  | bytes
  | memoryview
  deriving DecidableEq

/-- A buffer of bytes. -/
structure Buffer where
  type : BufferType
  contents : List UInt8
  deriving DecidableEq

/-- The exceptions that using a buffer raises. -/
inductive BufferError where
  | attributeError (name : String)
  | structError
  deriving DecidableEq

namespace Buffer

variable (buffer : Buffer)

/-- `len(buffer)`. -/
def len : Nat :=
  buffer.contents.length

/-- `buffer[start:stop]`, of the same type. -/
def slice (start stop : Nat) : Buffer :=
  { buffer with contents := sliceBetween buffer.contents start stop }

/-- `buffer.decode(errors="replace")`, which only bytes have. -/
def decode : Except BufferError String :=
  match buffer.type with
  | .bytes => .ok (fromUtf8Replacing buffer.contents)
  | .memoryview => .error (.attributeError "decode")

/-- `struct.unpack_from("<I", buffer, pos)`. -/
def unpackFrom (pos : Nat) : Except BufferError Nat :=
  if inside : pos + 4 ≤ buffer.contents.length then
    .ok (ofLeBytes buffer.contents[pos] buffer.contents[pos + 1] buffer.contents[pos + 2]
      buffer.contents[pos + 3]).toNat
  else
    .error .structError

end Buffer

/-! ## The parser -/

/-- The contents of a blob. The metas are slices of the buffer. -/
structure ParsedAux where
  caps : Option String
  metas : List Buffer
  deriving DecidableEq

/-- `text or None`. -/
def orNone (text : String) : Option String :=
  if text = "" then none else some text

/-- The loop of the parser over the metas. -/
def parseMetas (aux : Buffer) : Nat → Nat → Except BufferError (List Buffer)
  | 0, _ => .ok []
  | count + 1, pos =>
      if pos + 4 > aux.len then .ok []
      else
        match aux.unpackFrom pos with
        | .error raised => .error raised
        | .ok mlen =>
            let pos := pos + 4
            if pos + mlen > aux.len then .ok []
            else
              match parseMetas aux count (pos + mlen) with
              | .error raised => .error raised
              | .ok metas => .ok (aux.slice pos (pos + mlen) :: metas)

/-- `parse_aux`. -/
def parseAux (aux : Buffer) : Except BufferError ParsedAux :=
  if aux.len < 4 then .ok ⟨none, []⟩
  else
    match aux.unpackFrom 0 with
    | .error raised => .error raised
    | .ok capsLen =>
        let pos := 4
        if pos + capsLen > aux.len then .ok ⟨none, []⟩
        else
          match (aux.slice pos (pos + capsLen)).decode with
          | .error raised => .error raised
          | .ok text =>
              let caps := orNone text
              let pos := pos + capsLen
              if pos + 4 > aux.len then .ok ⟨caps, []⟩
              else
                match aux.unpackFrom pos with
                | .error raised => .error raised
                | .ok nMetas =>
                    match parseMetas aux nMetas (pos + 4) with
                    | .error raised => .error raised
                    | .ok metas => .ok ⟨caps, metas⟩

/-! ## The mirror takes records -/

/-- A part of a buffer, of the same type. -/
def Buffer.part (aux : Buffer) (bytes : List UInt8) : Buffer :=
  ⟨aux.type, bytes⟩

/-- The two readers of words are one. -/
theorem readU32_eq_none_iff {aux : Buffer} {pos : Nat} :
    readU32 aux.contents pos = none ↔ pos + 4 > aux.len := by
  unfold readU32 Buffer.len
  split_ifs with inside <;> simp [inside]
  omega

theorem unpackFrom_of_readU32 {aux : Buffer} {pos next : Nat} {word : UInt32}
    (read : readU32 aux.contents pos = some (word, next)) :
    aux.unpackFrom pos = .ok word.toNat ∧ next = pos + 4 ∧ ¬ pos + 4 > aux.len := by
  unfold readU32 at read
  split_ifs at read with inside
  cases read
  exact ⟨dif_pos inside, rfl, Nat.not_lt.mpr inside⟩

/-- A slice that the buffer has is the one the Rust parser takes. -/
theorem slice_eq_part {aux : Buffer} {pos len : Nat} (whole : ¬ pos + len > aux.len) :
    aux.slice pos (pos + len) = aux.part (Video.slice aux.contents pos len) := by
  rw [Buffer.slice, Buffer.part, Video.slice,
    sliceBetween_natCast aux.contents (Nat.le_of_not_lt whole)]

theorem parseMetas_eq_ok (aux : Buffer) (count pos : Nat) :
    parseMetas aux count pos = .ok ((Video.parseMetas aux.contents count pos).map aux.part) := by
  induction count generalizing pos with
  | zero => rfl
  | succ count ih =>
      rw [parseMetas, Video.parseMetas]
      cases read : readU32 aux.contents pos with
      | none => rw [if_pos (readU32_eq_none_iff.mp read)]; rfl
      | some found =>
          obtain ⟨mlen, next⟩ := found
          obtain ⟨unpacked, rfl, inside⟩ := unpackFrom_of_readU32 read
          simp only [if_neg inside, unpacked, ih]
          by_cases beyond : pos + 4 + mlen.toNat > aux.len
          · have beyond' : pos + 4 + mlen.toNat > aux.contents.length := beyond
            simp only [if_pos beyond, if_pos beyond', List.map_nil]
          · have within' : ¬ pos + 4 + mlen.toNat > aux.contents.length := beyond
            simp only [if_neg beyond, if_neg within', List.map_cons, slice_eq_part beyond]

/-- **The mirror takes a record, decodes it, and takes the counted records behind
it.** -/
theorem parseAux_eq (aux : Buffer) :
    parseAux aux =
      match takeRecord aux.contents with
      | none => .ok ⟨none, []⟩
      | some (capsBytes, rest) =>
          match (aux.part capsBytes).decode with
          | .error raised => .error raised
          | .ok text => .ok ⟨orNone text, (takeCounted rest).map aux.part⟩ := by
  have first := takeRecord_drop aux.contents 0
  rw [List.drop_zero] at first
  rw [parseAux, first]
  cases read : readU32 aux.contents 0 with
  | none => rw [if_pos (readU32_eq_none_iff.mp read)]
  | some found =>
      obtain ⟨capsLen, next⟩ := found
      obtain ⟨unpacked, rfl, inside⟩ := unpackFrom_of_readU32 read
      rw [if_neg inside, unpacked]
      by_cases beyond : 4 + capsLen.toNat > aux.len
      · have beyond' : 0 + 4 + capsLen.toNat > aux.contents.length := by
          rwa [Nat.zero_add]
        simp only [if_pos beyond, if_pos beyond']
      · have within' : ¬ 0 + 4 + capsLen.toNat > aux.contents.length := by
          rwa [Nat.zero_add]
        simp only [if_neg beyond, if_neg within', Nat.zero_add, slice_eq_part beyond,
          takeCounted_drop]
        cases (aux.part (Video.slice aux.contents 4 capsLen.toNat)).decode with
        | error raised => rfl
        | ok text =>
            cases counted : readU32 aux.contents (4 + capsLen.toNat) with
            | none =>
                simp only [if_pos (readU32_eq_none_iff.mp counted), List.map_nil]
            | some found =>
                obtain ⟨nMetas, next⟩ := found
                obtain ⟨unpacked', rfl, inside'⟩ := unpackFrom_of_readU32 counted
                simp only [if_neg inside', unpacked', parseMetas_eq_ok]

/-! ## On bytes -/

section Bytes

variable (aux : List UInt8)

/-- The parser never raises on bytes, and finds the metas that the Rust parser
finds. -/
theorem parseAux_bytes :
    ∃ parsed, parseAux ⟨.bytes, aux⟩ = .ok parsed ∧
      parsed.metas = (Video.parseAux aux).metas.map (Buffer.mk .bytes) ∧
      parsed.caps = match takeRecord aux with
        | none => none
        | some (capsBytes, _) => orNone (fromUtf8Replacing capsBytes) := by
  rw [parseAux_eq, Video.parseAux_eq]
  cases taken : takeRecord aux with
  | none => exact ⟨_, rfl, rfl, rfl⟩
  | some found => exact ⟨_, rfl, rfl, rfl⟩

/-- Replacing is reading as text or as nothing exactly on text. -/
theorem orNone_fromUtf8Replacing_iff (capsBytes : List UInt8) :
    orNone (fromUtf8Replacing capsBytes) =
        (if capsBytes = [] then none else fromUtf8 capsBytes) ↔
      (fromUtf8 capsBytes).isSome := by
  cases read : fromUtf8 capsBytes with
  | some text =>
      have empty_iff : text = "" ↔ capsBytes = [] := by
        rw [← fromUtf8_eq_some_iff.mp read, asBytes_eq_nil_iff]
      simp only [orNone, fromUtf8Replacing_of_fromUtf8 read, empty_iff, Option.isSome_some]
  | none =>
      have some : capsBytes ≠ [] := by
        rintro rfl
        exact absurd (read.symm.trans (fromUtf8_asBytes "")) (by simp)
      have replaced : fromUtf8Replacing capsBytes ≠ "" := fun empty =>
        some (fromUtf8Replacing_eq_empty_iff.mp empty)
      simp only [orNone, if_neg replaced, if_neg some, Option.isSome_none, Bool.false_eq_true,
        reduceCtorEq]

/-- **The two parsers return the same caps and metas exactly when the caps of a
whole record are UTF-8.** -/
theorem parseAux_agrees_iff :
    (∃ parsed, parseAux ⟨.bytes, aux⟩ = .ok parsed ∧
      parsed.caps = (Video.parseAux aux).caps ∧
      parsed.metas = (Video.parseAux aux).metas.map (Buffer.mk .bytes)) ↔
      ∀ capsBytes rest, takeRecord aux = some (capsBytes, rest) → (fromUtf8 capsBytes).isSome := by
  obtain ⟨parsed, ok, metas, caps⟩ := parseAux_bytes aux
  have same : parsed.caps = (Video.parseAux aux).caps ↔
      ∀ capsBytes rest, takeRecord aux = some (capsBytes, rest) →
        (fromUtf8 capsBytes).isSome := by
    rw [caps, Video.parseAux_eq]
    cases taken : takeRecord aux with
    | none => simp [ParsedAux.empty]
    | some found =>
        obtain ⟨capsBytes, rest⟩ := found
        refine (orNone_fromUtf8Replacing_iff capsBytes).trans ?_
        constructor
        · rintro valid _ _ ⟨⟩
          exact valid
        · intro valid
          exact valid capsBytes rest rfl
  constructor
  · rintro ⟨parsed', ok', agrees, -⟩
    obtain rfl := Except.ok.inj (ok.symm.trans ok')
    exact same.mp agrees
  · intro valid
    exact ⟨parsed, ok, same.mpr valid, metas⟩

end Bytes

/-- Caps of one byte that no UTF-8 text has are a replacement character in Python
and no caps in Rust. -/
theorem parseAux_disagrees :
    parseAux ⟨.bytes, [1, 0, 0, 0, 0xFF]⟩ = .ok ⟨some "\uFFFD", []⟩ ∧
      Video.parseAux [1, 0, 0, 0, 0xFF] = ⟨none, []⟩ ∧
      ¬ ∃ parsed, parseAux ⟨.bytes, [1, 0, 0, 0, 0xFF]⟩ = .ok parsed ∧
        parsed.caps = (Video.parseAux [1, 0, 0, 0, 0xFF]).caps ∧
        parsed.metas = (Video.parseAux [1, 0, 0, 0, 0xFF]).metas.map (Buffer.mk .bytes) := by
  refine ⟨rfl, rfl, ?_⟩
  rintro ⟨parsed, ⟨⟩, caps, -⟩
  cases caps

/-! ## On a memoryview -/

/-- **A memoryview of a blob whose caps are there in full is not parsed.** -/
theorem parseAux_memoryview {aux capsBytes rest : List UInt8}
    (taken : takeRecord aux = some (capsBytes, rest)) :
    parseAux ⟨.memoryview, aux⟩ = .error (.attributeError "decode") := by
  rw [parseAux_eq, taken]
  rfl

end GstIceoryx2.Python
