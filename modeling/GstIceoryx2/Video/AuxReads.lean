import GstIceoryx2.Video.AuxBlob

/-!
# What the reader of the aux blob touches

The reader of a blob is run with a trace: the ends it computes and compares with
the length of the blob, the spans of bytes it reads, and the rounds of its loop.
The lengths and the count come from the blob itself, so they can be anything up
to the largest word. Every span still lies inside the blob, no end is as much as
`2 ^ 32` beyond it, and every round but the last consumes at least four bytes.

What is read stands in the blob as it was written: the caps behind their length,
the count, and the metas behind theirs, one after the other. A cut blob yields
the same caps or none, and the first of the metas (`parseAux_bestEffort`).
-/

set_option autoImplicit false

namespace GstIceoryx2.Video

open Foundations

/-! ## The reader with its trace -/

/-- Bytes that are read. -/
structure Span where
  start : Nat
  len : Nat
  deriving DecidableEq

/-- What a run of the reader does: the ends it computes, the spans it reads, and the
rounds of its loop. -/
structure Trace where
  ends : List Nat
  reads : List Span
  rounds : Nat
  deriving DecidableEq

namespace Trace

def nothing : Trace where
  ends := []
  reads := []
  rounds := 0

/-- One run after another. -/
def followedBy (first second : Trace) : Trace where
  ends := first.ends ++ second.ends
  reads := first.reads ++ second.reads
  rounds := first.rounds + second.rounds

/-- An end is computed. -/
def reaching (position : Nat) : Trace where
  ends := [position]
  reads := []
  rounds := 0

/-- A span is read. -/
def reading (start len : Nat) : Trace where
  ends := []
  reads := [⟨start, len⟩]
  rounds := 0

/-- A round of the loop. -/
def round : Trace where
  ends := []
  reads := []
  rounds := 1

end Trace

/-- `readU32`, with its trace. -/
def tracedU32 (buf : List UInt8) (pos : Nat) : Option (UInt32 × Nat) × Trace :=
  if pos + 4 ≤ buf.length then
    (readU32 buf pos, (Trace.reaching (pos + 4)).followedBy (.reading pos 4))
  else
    (none, .reaching (pos + 4))

/-- The caps at a position, with the trace. No caps are not read. -/
def tracedCaps (aux : List UInt8) (pos capsLen : Nat) : Option String × Trace :=
  if capsLen > 0 then (fromUtf8 (slice aux pos capsLen), .reading pos capsLen)
  else (none, .nothing)

/-- `parseMetas`, with its trace. -/
def tracedMetas (aux : List UInt8) : Nat → Nat → List (List UInt8) × Trace
  | 0, _ => ([], .nothing)
  | count + 1, pos =>
      let word := tracedU32 aux pos
      match word.1 with
      | none => ([], Trace.round.followedBy word.2)
      | some (len, pos) =>
          let read := (Trace.round.followedBy word.2).followedBy (.reaching (pos + len.toNat))
          if pos + len.toNat > aux.length then ([], read)
          else
            let rest := tracedMetas aux count (pos + len.toNat)
            (slice aux pos len.toNat :: rest.1,
              (read.followedBy (.reading pos len.toNat)).followedBy rest.2)

/-- `parseAux`, with its trace. -/
def tracedAux (aux : List UInt8) : ParsedAux × Trace :=
  let word := tracedU32 aux 0
  match word.1 with
  | none => (.empty, word.2)
  | some (capsLen, pos) =>
      let read := word.2.followedBy (.reaching (pos + capsLen.toNat))
      if pos + capsLen.toNat > aux.length then (.empty, read)
      else
        let caps := tracedCaps aux pos capsLen.toNat
        let word := tracedU32 aux (pos + capsLen.toNat)
        let read := (read.followedBy caps.2).followedBy word.2
        match word.1 with
        | none => ({ caps := caps.1, metas := [] }, read)
        | some (nMetas, pos) =>
            let metas := tracedMetas aux nMetas.toNat pos
            ({ caps := caps.1, metas := metas.1 }, read.followedBy metas.2)

/-! ## The trace is of the reader -/

@[simp] theorem tracedU32_fst (buf : List UInt8) (pos : Nat) :
    (tracedU32 buf pos).1 = readU32 buf pos := by
  unfold tracedU32
  split
  · rfl
  · rename_i outside
    rw [readU32, dif_neg outside]

@[simp] theorem tracedCaps_fst (aux : List UInt8) (pos capsLen : Nat) :
    (tracedCaps aux pos capsLen).1 =
      if capsLen > 0 then fromUtf8 (slice aux pos capsLen) else none := by
  unfold tracedCaps
  split <;> rfl

@[simp] theorem tracedMetas_fst (aux : List UInt8) (count pos : Nat) :
    (tracedMetas aux count pos).1 = parseMetas aux count pos := by
  induction count generalizing pos with
  | zero => rfl
  | succ count ih =>
      simp only [tracedMetas, parseMetas, tracedU32_fst]
      cases readU32 aux pos with
      | none => rfl
      | some found =>
          simp only
          split_ifs
          · rfl
          · rw [ih]

/-- **Tracing does not change what is parsed.** -/
theorem tracedAux_fst (aux : List UInt8) : (tracedAux aux).1 = parseAux aux := by
  simp only [tracedAux, parseAux, tracedU32_fst]
  cases readU32 aux 0 with
  | none => rfl
  | some found =>
      simp only [tracedCaps_fst]
      split
      · rfl
      · cases readU32 aux (found.2 + found.1.toNat) with
        | none => rfl
        | some _ => simp only [tracedMetas_fst]

/-! ## Reads and rounds -/

@[simp] theorem Trace.followedBy_rounds (first second : Trace) :
    (first.followedBy second).rounds = first.rounds + second.rounds := rfl

@[simp] theorem Trace.reaching_rounds (position : Nat) : (reaching position).rounds = 0 := rfl

@[simp] theorem Trace.reading_rounds (start len : Nat) : (reading start len).rounds = 0 := rfl

@[simp] theorem tracedU32_rounds (buf : List UInt8) (pos : Nat) :
    (tracedU32 buf pos).2.rounds = 0 := by
  unfold tracedU32
  split <;> rfl

@[simp] theorem tracedCaps_rounds (aux : List UInt8) (pos capsLen : Nat) :
    (tracedCaps aux pos capsLen).2.rounds = 0 := by
  unfold tracedCaps
  split <;> rfl

/-- Every span read is inside, and no end is computed far beyond it. -/
structure Trace.Inside (aux : List UInt8) (trace : Trace) : Prop where
  reads : ∀ span ∈ trace.reads, span.start + span.len ≤ aux.length
  ends : ∀ position ∈ trace.ends, position < aux.length + 2 ^ 32

namespace Trace.Inside

variable {aux : List UInt8} {first second : Trace}

theorem nothing : Trace.nothing.Inside aux := ⟨by rintro _ ⟨⟩, by rintro _ ⟨⟩⟩

theorem round : Trace.round.Inside aux := ⟨by rintro _ ⟨⟩, by rintro _ ⟨⟩⟩

theorem reaching {position : Nat} (near : position < aux.length + 2 ^ 32) :
    (Trace.reaching position).Inside aux := by
  refine ⟨by rintro _ ⟨⟩, fun other member => ?_⟩
  rwa [List.mem_singleton.mp member]

theorem reading {start len : Nat} (inside : start + len ≤ aux.length) :
    (Trace.reading start len).Inside aux := by
  refine ⟨fun other member => ?_, by rintro _ ⟨⟩⟩
  rwa [List.mem_singleton.mp member]

theorem followedBy (before : first.Inside aux) (after : second.Inside aux) :
    (first.followedBy second).Inside aux where
  reads span member := (List.mem_append.mp member).elim (before.reads span) (after.reads span)
  ends position member :=
    (List.mem_append.mp member).elim (before.ends position) (after.ends position)

theorem tracedU32 {pos : Nat} (inside : pos ≤ aux.length) :
    (Video.tracedU32 aux pos).2.Inside aux := by
  unfold Video.tracedU32
  split_ifs with room
  · exact (reaching (by omega)).followedBy (reading room)
  · exact reaching (by omega)

theorem tracedCaps {pos capsLen : Nat} (inside : pos + capsLen ≤ aux.length) :
    (Video.tracedCaps aux pos capsLen).2.Inside aux := by
  unfold Video.tracedCaps
  split
  · exact reading inside
  · exact nothing

end Trace.Inside

/-- The loop reads inside the blob, and a round that goes on consumes a word. -/
theorem tracedMetas_inside (aux : List UInt8) (count : Nat) {pos : Nat}
    (inside : pos ≤ aux.length) :
    (tracedMetas aux count pos).2.Inside aux ∧
      4 * (tracedMetas aux count pos).2.rounds ≤ aux.length - pos + 4 := by
  induction count generalizing pos with
  | zero => exact ⟨.nothing, Nat.zero_le _⟩
  | succ count ih =>
      have word := Trace.Inside.round.followedBy (Trace.Inside.tracedU32 inside)
      have oneRound : Trace.round.rounds = 1 := rfl
      simp only [tracedMetas, tracedU32_fst]
      cases read : readU32 aux pos with
      | none =>
          refine ⟨word, ?_⟩
          simp only [Trace.followedBy_rounds, oneRound, tracedU32_rounds]
          omega
      | some found =>
          obtain ⟨len, next⟩ := found
          obtain ⟨rfl, within, -⟩ := drop_of_readU32 read
          have bound := len.toNat_lt
          have near : pos + 4 + len.toNat < aux.length + 2 ^ 32 := by omega
          have reached := word.followedBy (.reaching near)
          simp only
          split_ifs with beyond
          · refine ⟨reached, ?_⟩
            simp only [Trace.followedBy_rounds, oneRound, tracedU32_rounds, Trace.reaching_rounds]
            omega
          · have room : pos + 4 + len.toNat ≤ aux.length := Nat.le_of_not_lt beyond
            obtain ⟨rest, rounds⟩ := ih room
            refine ⟨(reached.followedBy (.reading room)).followedBy rest, ?_⟩
            simp only [Trace.followedBy_rounds, oneRound, tracedU32_rounds, Trace.reaching_rounds,
              Trace.reading_rounds]
            omega

/-- **The reader reads inside the blob, and takes no more rounds than the blob has
words, and one.** -/
theorem tracedAux_inside (aux : List UInt8) :
    (tracedAux aux).2.Inside aux ∧ (tracedAux aux).2.rounds ≤ aux.length / 4 + 1 := by
  have first : (tracedU32 aux 0).2.Inside aux := .tracedU32 (Nat.zero_le _)
  simp only [tracedAux, tracedU32_fst]
  cases read : readU32 aux 0 with
  | none =>
      refine ⟨first, ?_⟩
      simp only [tracedU32_rounds, Nat.zero_le]
  | some found =>
      obtain ⟨capsLen, start⟩ := found
      obtain ⟨rfl, within, -⟩ := drop_of_readU32 read
      have bound := capsLen.toNat_lt
      have near : 0 + 4 + capsLen.toNat < aux.length + 2 ^ 32 := by omega
      have reached := first.followedBy (.reaching near)
      simp only
      split
      · refine ⟨reached, ?_⟩
        simp only [Trace.followedBy_rounds, tracedU32_rounds, Trace.reaching_rounds, Nat.add_zero,
          Nat.zero_le]
      · rename_i fits
        have room : 0 + 4 + capsLen.toNat ≤ aux.length := Nat.le_of_not_lt fits
        have counted := (reached.followedBy (.tracedCaps room)).followedBy (.tracedU32 room)
        cases readCount : readU32 aux (0 + 4 + capsLen.toNat) with
        | none =>
            refine ⟨counted, ?_⟩
            simp only [Trace.followedBy_rounds, tracedU32_rounds, Trace.reaching_rounds,
              tracedCaps_rounds, Nat.add_zero, Nat.zero_le]
        | some found =>
            obtain ⟨nMetas, start⟩ := found
            obtain ⟨rfl, within, -⟩ := drop_of_readU32 readCount
            obtain ⟨metas, rounds⟩ := tracedMetas_inside aux nMetas.toNat within
            refine ⟨counted.followedBy metas, ?_⟩
            simp only [Trace.followedBy_rounds, tracedU32_rounds, Trace.reaching_rounds,
              tracedCaps_rounds]
            omega

/-! ## What is read and what a cut loses -/

/-- The contents stand in the blob: the caps behind their length, and behind them a
count and the metas, each behind its length and directly after the one before. -/
def StandsIn (aux : List UInt8) (parsed : ParsedAux) : Prop :=
  parsed = .empty ∨
    ∃ capsBytes rest, aux = record capsBytes ++ rest ∧ capsBytes.length < 2 ^ 32 ∧
      (∀ caps, parsed.caps = some caps → asBytes caps = capsBytes) ∧
      (parsed.metas = [] ∨
        ∃ nMetas behind, rest = leBytes nMetas ++ (parsed.metas.flatMap record ++ behind) ∧
          parsed.metas.length ≤ nMetas.toNat) ∧
      ∀ blob ∈ parsed.metas, blob.length < 2 ^ 32

theorem parseAux_standsIn (aux : List UInt8) : StandsIn aux (parseAux aux) := by
  rw [parseAux_eq]
  cases taken : takeRecord aux with
  | none => exact .inl rfl
  | some found =>
      obtain ⟨capsBytes, rest⟩ := found
      obtain ⟨same, short⟩ := eq_record_of_takeRecord taken
      refine .inr ⟨capsBytes, rest, same, short, fun caps read => ?_, ?_, fun blob member => ?_⟩
      · simp only at read
        split_ifs at read with empty
        exact fromUtf8_eq_some_iff.mp read
      · by_cases none : takeCounted rest = []
        · exact .inl none
        · exact .inr (exists_eq_count_of_takeCounted_ne_nil none)
      · exact length_lt_of_mem_takeCounted member

/-- A cut blob yields the caps or none, and the first of the metas. -/
theorem parseAux_take (aux : List UInt8) (cut : Nat) :
    (parseAux (aux.take cut)).metas <+: (parseAux aux).metas ∧
      ((parseAux (aux.take cut)).caps = none ∨
        (parseAux (aux.take cut)).caps = (parseAux aux).caps) := by
  rw [parseAux_eq, parseAux_eq]
  cases taken : takeRecord (aux.take cut) with
  | none => exact ⟨List.nil_prefix, .inl rfl⟩
  | some found =>
      obtain ⟨capsBytes, rest⟩ := found
      obtain ⟨rest', whole, shorter⟩ := takeRecord_of_prefix (List.take_prefix cut aux) taken
      rw [whole]
      exact ⟨takeCounted_isPrefix shorter, .inr rfl⟩

/-- **Best-effort parsing of any bytes.** The reader reads inside the blob, computes
no end that is `2 ^ 32` beyond it, and takes at most one round more than the blob has
words; what it returns stands in the blob in order, each part directly behind its
length; and whatever is cut off, what is left yields the same caps or none, and the
first of the metas. -/
theorem parseAux_bestEffort (aux : List UInt8) :
    (tracedAux aux).1 = parseAux aux ∧
      (∀ span ∈ (tracedAux aux).2.reads, span.start + span.len ≤ aux.length) ∧
      (∀ position ∈ (tracedAux aux).2.ends, position < aux.length + 2 ^ 32) ∧
      (tracedAux aux).2.rounds ≤ aux.length / 4 + 1 ∧
      StandsIn aux (parseAux aux) ∧
      ∀ cut, (parseAux (aux.take cut)).metas <+: (parseAux aux).metas ∧
        ((parseAux (aux.take cut)).caps = none ∨
          (parseAux (aux.take cut)).caps = (parseAux aux).caps) := by
  obtain ⟨inside, rounds⟩ := tracedAux_inside aux
  exact ⟨tracedAux_fst aux, inside.reads, inside.ends, rounds, parseAux_standsIn aux,
    parseAux_take aux⟩

/-- A count of `2 ^ 32 - 1` over one meta: two rounds, the second of which finds no
length. -/
example : (tracedAux (record [] ++ leBytes 0xFFFFFFFF ++ record [7])).2.rounds = 2 := by decide

end GstIceoryx2.Video
