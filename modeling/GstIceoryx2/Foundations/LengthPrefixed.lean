import Mathlib.Algebra.Ring.Nat
import Mathlib.Data.List.Infix
import Mathlib.Algebra.BigOperators.Group.List.Basic

/-!
# Length-prefixed records

A record is a byte string behind its own length, a little-endian 32-bit word. A
sequence of records is read back by taking one record after another, as many as
a count allows and for as long as a whole record is left.

Reading a record undoes writing it, whatever follows (`takeRecord_record_append`),
and every record read is the record written for it (`eq_record_of_takeRecord`). A
word holds lengths below `2 ^ 32`, so the first statement has that bound as a
hypothesis and the second gives it as a conclusion.

A reader adds every length to its position before it knows whether the record is
there. `DeclaredBelow` says that these sums stay below a limit, whatever the bytes are.

The last section is about a writer with a budget: it keeps items while they fit,
and what it keeps is the longest prefix that fits (`longestWithin_fittingPrefix`).
-/

set_option autoImplicit false

namespace GstIceoryx2.Foundations

/-! ## Little-endian words -/

/-- The four bytes of a word, least significant first. -/
def leBytes (word : UInt32) : List UInt8 :=
  [UInt8.ofNat word.toNat, UInt8.ofNat (word.toNat / 2 ^ 8),
    UInt8.ofNat (word.toNat / 2 ^ 16), UInt8.ofNat (word.toNat / 2 ^ 24)]

/-- The word with the given bytes, least significant first. -/
def ofLeBytes (b₀ b₁ b₂ b₃ : UInt8) : UInt32 :=
  UInt32.ofNat (b₀.toNat + b₁.toNat * 2 ^ 8 + b₂.toNat * 2 ^ 16 + b₃.toNat * 2 ^ 24)

@[simp] theorem length_leBytes (word : UInt32) : (leBytes word).length = 4 := rfl

theorem ofLeBytes_leBytes (word : UInt32) :
    ofLeBytes (UInt8.ofNat word.toNat) (UInt8.ofNat (word.toNat / 2 ^ 8))
      (UInt8.ofNat (word.toNat / 2 ^ 16)) (UInt8.ofNat (word.toNat / 2 ^ 24)) = word := by
  apply UInt32.toNat_inj.mp
  have bound := word.toNat_lt
  simp only [ofLeBytes, UInt32.toNat_ofNat', UInt8.toNat_ofNat']
  omega

theorem leBytes_ofLeBytes (b₀ b₁ b₂ b₃ : UInt8) :
    leBytes (ofLeBytes b₀ b₁ b₂ b₃) = [b₀, b₁, b₂, b₃] := by
  have h₀ := b₀.toNat_lt
  have h₁ := b₁.toNat_lt
  have h₂ := b₂.toNat_lt
  have h₃ := b₃.toNat_lt
  have value : (ofLeBytes b₀ b₁ b₂ b₃).toNat =
      b₀.toNat + b₁.toNat * 2 ^ 8 + b₂.toNat * 2 ^ 16 + b₃.toNat * 2 ^ 24 := by
    simp only [ofLeBytes, UInt32.toNat_ofNat']
    omega
  have byte : ∀ (n : Nat) (b : UInt8), n % 2 ^ 8 = b.toNat → UInt8.ofNat n = b := by
    intro n b same
    apply UInt8.toNat_inj.mp
    rw [UInt8.toNat_ofNat', same]
  simp only [leBytes, value]
  rw [byte _ b₀ (by omega), byte _ b₁ (by omega), byte _ b₂ (by omega), byte _ b₃ (by omega)]

/-- Take a word from the front of a byte string. -/
def takeWord : List UInt8 → Option (UInt32 × List UInt8)
  | b₀ :: b₁ :: b₂ :: b₃ :: rest => some (ofLeBytes b₀ b₁ b₂ b₃, rest)
  | _ => none

@[simp] theorem takeWord_leBytes_append (word : UInt32) (rest : List UInt8) :
    takeWord (leBytes word ++ rest) = some (word, rest) := by
  simp only [leBytes, List.cons_append, List.nil_append, takeWord, ofLeBytes_leBytes]

theorem eq_leBytes_of_takeWord {bytes rest : List UInt8} {word : UInt32}
    (taken : takeWord bytes = some (word, rest)) : bytes = leBytes word ++ rest := by
  unfold takeWord at taken
  split at taken
  · cases taken
    rw [leBytes_ofLeBytes]
    rfl
  · cases taken

theorem takeWord_eq_none_iff {bytes : List UInt8} :
    takeWord bytes = none ↔ bytes.length < 4 := by
  match bytes with
  | [] | [_] | [_, _] | [_, _, _] => simp [takeWord]
  | _ :: _ :: _ :: _ :: _ => simp [takeWord]

/-! ## Records -/

/-- A byte string behind its length. -/
def record (payload : List UInt8) : List UInt8 :=
  leBytes (UInt32.ofNat payload.length) ++ payload

@[simp] theorem length_record (payload : List UInt8) :
    (record payload).length = 4 + payload.length := by
  simp [record]

theorem length_flatMap_record (payloads : List (List UInt8)) :
    (payloads.flatMap record).length =
      (payloads.map fun payload => 4 + payload.length).sum := by
  rw [List.length_flatMap]
  simp only [length_record]

/-- Take a record from the front of a byte string, when it is there in full. -/
def takeRecord (bytes : List UInt8) : Option (List UInt8 × List UInt8) :=
  match takeWord bytes with
  | none => none
  | some (length, rest) =>
      if length.toNat ≤ rest.length then
        some (rest.take length.toNat, rest.drop length.toNat)
      else
        none

/-- **A record is read back whatever follows it.** -/
theorem takeRecord_record_append {payload : List UInt8} (short : payload.length < 2 ^ 32)
    (rest : List UInt8) : takeRecord (record payload ++ rest) = some (payload, rest) := by
  have length : (UInt32.ofNat payload.length).toNat = payload.length :=
    UInt32.toNat_ofNat_of_lt short
  simp only [takeRecord, record, List.append_assoc, takeWord_leBytes_append, length]
  rw [if_pos (by simp), List.take_left, List.drop_left]

/-- **Every record read is the record written for its payload.** -/
theorem eq_record_of_takeRecord {bytes payload rest : List UInt8}
    (taken : takeRecord bytes = some (payload, rest)) :
    bytes = record payload ++ rest ∧ payload.length < 2 ^ 32 := by
  unfold takeRecord at taken
  split at taken
  · cases taken
  · rename_i length tail word
    split at taken
    · rename_i enough
      cases taken
      have size : (tail.take length.toNat).length = length.toNat := by
        rw [List.length_take, Nat.min_eq_left enough]
      refine ⟨?_, by rw [size]; exact length.toNat_lt⟩
      rw [record, size, UInt32.ofNat_toNat, List.append_assoc, List.take_append_drop]
      exact eq_leBytes_of_takeWord word
    · cases taken

/-- Take at most `count` records, stopping where no whole record is left. -/
def takeRecords : Nat → List UInt8 → List (List UInt8)
  | 0, _ => []
  | count + 1, bytes =>
      match takeRecord bytes with
      | none => []
      | some (payload, rest) => payload :: takeRecords count rest

/-- **A sequence of records is read back by its own count, whatever follows.** -/
theorem takeRecords_flatMap_record {payloads : List (List UInt8)}
    (short : ∀ payload ∈ payloads, payload.length < 2 ^ 32) (rest : List UInt8) :
    takeRecords payloads.length (payloads.flatMap record ++ rest) = payloads := by
  induction payloads with
  | nil => rfl
  | cons payload payloads ih =>
      have head := takeRecord_record_append (short payload (List.mem_cons_self ..))
        (payloads.flatMap record ++ rest)
      have tail := ih fun other member => short other (List.mem_cons_of_mem _ member)
      simp only [List.length_cons, List.flatMap_cons, List.append_assoc, takeRecords, head, tail]

theorem length_takeRecords_le (count : Nat) (bytes : List UInt8) :
    (takeRecords count bytes).length ≤ count := by
  induction count generalizing bytes with
  | zero => exact Nat.le_refl _
  | succ count ih =>
      unfold takeRecords
      split
      · exact Nat.zero_le _
      · exact Nat.succ_le_succ (ih _)

theorem length_lt_of_mem_takeRecords {count : Nat} {bytes payload : List UInt8}
    (member : payload ∈ takeRecords count bytes) : payload.length < 2 ^ 32 := by
  induction count generalizing bytes with
  | zero => cases member
  | succ count ih =>
      unfold takeRecords at member
      split at member
      · cases member
      · rename_i taken
        rcases List.mem_cons.mp member with rfl | later
        · exact (eq_record_of_takeRecord taken).2
        · exact ih later

/-- Take a word and at most that many records. -/
def takeCounted (bytes : List UInt8) : List (List UInt8) :=
  match takeWord bytes with
  | none => []
  | some (count, rest) => takeRecords count.toNat rest

/-- **A counted sequence of records is read back whatever follows.** -/
theorem takeCounted_append {payloads : List (List UInt8)}
    (short : ∀ payload ∈ payloads, payload.length < 2 ^ 32) (few : payloads.length < 2 ^ 32)
    (rest : List UInt8) :
    takeCounted (leBytes (UInt32.ofNat payloads.length) ++ (payloads.flatMap record ++ rest)) =
      payloads := by
  have count : (UInt32.ofNat payloads.length).toNat = payloads.length :=
    UInt32.toNat_ofNat_of_lt few
  simp only [takeCounted, takeWord_leBytes_append, count]
  exact takeRecords_flatMap_record short rest

theorem length_takeCounted_lt (bytes : List UInt8) : (takeCounted bytes).length < 2 ^ 32 := by
  unfold takeCounted
  split
  · exact Nat.two_pow_pos 32
  · rename_i count rest _
    exact Nat.lt_of_le_of_lt (length_takeRecords_le _ _) count.toNat_lt

theorem length_lt_of_mem_takeCounted {bytes payload : List UInt8}
    (member : payload ∈ takeCounted bytes) : payload.length < 2 ^ 32 := by
  unfold takeCounted at member
  split at member
  · cases member
  · exact length_lt_of_mem_takeRecords member

/-! ## What is left behind, and what a cut loses -/

/-- The records taken stand at the front, one behind the other. -/
theorem exists_eq_flatMap_takeRecords (count : Nat) (bytes : List UInt8) :
    ∃ behind, bytes = (takeRecords count bytes).flatMap record ++ behind := by
  induction count generalizing bytes with
  | zero => exact ⟨bytes, rfl⟩
  | succ count ih =>
      unfold takeRecords
      split
      · exact ⟨bytes, rfl⟩
      · rename_i payload rest taken
        obtain ⟨behind, same⟩ := ih rest
        refine ⟨behind, ?_⟩
        rw [List.flatMap_cons, List.append_assoc, ← same]
        exact (eq_record_of_takeRecord taken).1

/-- Counted records stand behind a count that is no less than their number. -/
theorem exists_eq_count_of_takeCounted_ne_nil {bytes : List UInt8} (some : takeCounted bytes ≠ []) :
    ∃ count behind, bytes = leBytes count ++ ((takeCounted bytes).flatMap record ++ behind) ∧
      (takeCounted bytes).length ≤ count.toNat := by
  unfold takeCounted at some ⊢
  cases taken : takeWord bytes with
  | none =>
      rw [taken] at some
      exact absurd rfl some
  | some found =>
      obtain ⟨count, rest⟩ := found
      obtain ⟨behind, same⟩ := exists_eq_flatMap_takeRecords count.toNat rest
      refine ⟨count, behind, ?_, length_takeRecords_le _ _⟩
      rw [← same]
      exact eq_leBytes_of_takeWord taken

theorem takeWord_of_prefix {short long rest : List UInt8} {word : UInt32}
    (isPrefix : short <+: long) (taken : takeWord short = some (word, rest)) :
    ∃ rest', takeWord long = some (word, rest') ∧ rest <+: rest' := by
  obtain ⟨behind, rfl⟩ := isPrefix
  refine ⟨rest ++ behind, ?_, List.prefix_append _ _⟩
  rw [eq_leBytes_of_takeWord taken, List.append_assoc, takeWord_leBytes_append]

theorem takeRecord_of_prefix {short long payload rest : List UInt8}
    (isPrefix : short <+: long) (taken : takeRecord short = some (payload, rest)) :
    ∃ rest', takeRecord long = some (payload, rest') ∧ rest <+: rest' := by
  obtain ⟨behind, rfl⟩ := isPrefix
  obtain ⟨same, fits⟩ := eq_record_of_takeRecord taken
  refine ⟨rest ++ behind, ?_, List.prefix_append _ _⟩
  rw [same, List.append_assoc, takeRecord_record_append fits]

/-- **A cut loses records from its end only.** -/
theorem takeRecords_isPrefix (count : Nat) {short long : List UInt8} (isPrefix : short <+: long) :
    takeRecords count short <+: takeRecords count long := by
  induction count generalizing short long with
  | zero => exact List.prefix_refl _
  | succ count ih =>
      cases taken : takeRecord short with
      | none =>
          simp only [takeRecords, taken]
          exact List.nil_prefix
      | some found =>
          obtain ⟨payload, rest⟩ := found
          obtain ⟨rest', taken', shorter⟩ := takeRecord_of_prefix isPrefix taken
          simp only [takeRecords, taken, taken']
          exact List.cons_prefix_cons.mpr ⟨rfl, ih shorter⟩

theorem takeCounted_isPrefix {short long : List UInt8} (isPrefix : short <+: long) :
    takeCounted short <+: takeCounted long := by
  cases taken : takeWord short with
  | none =>
      simp only [takeCounted, taken]
      exact List.nil_prefix
  | some found =>
      obtain ⟨count, rest⟩ := found
      obtain ⟨rest', taken', shorter⟩ := takeWord_of_prefix isPrefix taken
      simp only [takeCounted, taken, taken']
      exact takeRecords_isPrefix count.toNat shorter

/-! ## The ends that lengths declare -/

/-- Every length that a reader of at most `count` records can come to declares an end
below the limit. The reader starts at a position, and a length stands behind the records
that were read. -/
def DeclaredBelow (limit start count : Nat) (bytes : List UInt8) : Prop :=
  ∀ (payloads : List (List UInt8)) (length : UInt32) (rest : List UInt8),
    payloads.length < count → bytes = payloads.flatMap record ++ (leBytes length ++ rest) →
      start + (payloads.flatMap record).length + 4 + length.toNat < limit

theorem declaredBelow_zero (limit start : Nat) (bytes : List UInt8) :
    DeclaredBelow limit start 0 bytes := by
  intro payloads length rest few
  exact absurd few (Nat.not_lt_zero _)

/-- Lengths stand inside the bytes, so that no end reaches a limit a word above them. -/
theorem declaredBelow_of_room {limit start : Nat} {bytes : List UInt8}
    (room : start + bytes.length + 2 ^ 32 ≤ limit) (count : Nat) :
    DeclaredBelow limit start count bytes := by
  rintro payloads length rest - rfl
  have word := length.toNat_lt
  rw [List.length_append, List.length_append, length_leBytes] at room
  omega

/-- Where there is no word, there is no length. -/
theorem declaredBelow_of_takeWord {bytes : List UInt8} (noWord : takeWord bytes = none)
    (limit start count : Nat) : DeclaredBelow limit start count bytes := by
  rintro payloads length rest - rfl
  cases payloads with
  | nil =>
      rw [List.flatMap_nil, List.nil_append, takeWord_leBytes_append] at noWord
      cases noWord
  | cons payload payloads =>
      rw [List.flatMap_cons, record, List.append_assoc, List.append_assoc,
        takeWord_leBytes_append] at noWord
      cases noWord

/-- **The first length declares an end below the limit, and so do the ones behind its
record, if that is there.** -/
theorem declaredBelow_succ_iff {limit start count : Nat} {length : UInt32} {rest : List UInt8}
    (small : rest.length < 2 ^ 32) :
    DeclaredBelow limit start (count + 1) (leBytes length ++ rest) ↔
      start + 4 + length.toNat < limit ∧ (length.toNat ≤ rest.length →
        DeclaredBelow limit (start + 4 + length.toNat) count (rest.drop length.toNat)) := by
  constructor
  · intro declared
    refine ⟨?_, ?_⟩
    · exact declared [] length rest (Nat.succ_pos _) rfl
    · intro whole payloads other rest' few same
      have size : (rest.take length.toNat).length = length.toNat := by
        rw [List.length_take, Nat.min_eq_left whole]
      have written : record (rest.take length.toNat) =
          leBytes length ++ rest.take length.toNat := by
        rw [record, size, UInt32.ofNat_toNat]
      have below := declared (rest.take length.toNat :: payloads) other rest'
        (Nat.succ_lt_succ few) (by
          rw [List.flatMap_cons, written, List.append_assoc, List.append_assoc, ← same,
            List.take_append_drop])
      rw [List.flatMap_cons, List.length_append, length_record, size] at below
      omega
  · rintro ⟨here, later⟩ payloads other rest' few same
    have word := takeWord_leBytes_append length rest
    cases payloads with
    | nil =>
        rw [same, List.flatMap_nil, List.nil_append, takeWord_leBytes_append] at word
        cases word
        exact here
    | cons payload payloads =>
        rw [same, List.flatMap_cons, record, List.append_assoc, List.append_assoc,
          takeWord_leBytes_append] at word
        cases word
        rw [List.length_append] at small
        have size : (UInt32.ofNat payload.length).toNat = payload.length :=
          UInt32.toNat_ofNat_of_lt (Nat.lt_of_le_of_lt (Nat.le_add_right _ _) small)
        rw [size, List.length_append, List.drop_left] at later
        have below := later (Nat.le_add_right _ _) payloads other rest'
          (Nat.lt_of_succ_lt_succ few) rfl
        rw [List.flatMap_cons, List.length_append, length_record]
        omega

/-- The lengths of records that are there declare ends that are there. -/
theorem declaredBelow_flatMap_record {limit start : Nat} {payloads : List (List UInt8)}
    {behind : List UInt8} (small : (payloads.flatMap record ++ behind).length < 2 ^ 32)
    (room : start + (payloads.flatMap record).length < limit) :
    DeclaredBelow limit start payloads.length (payloads.flatMap record ++ behind) := by
  induction payloads generalizing start with
  | nil => exact declaredBelow_zero _ _ _
  | cons payload payloads ih =>
      rw [List.flatMap_cons, List.append_assoc, List.length_append, length_record] at small
      rw [List.flatMap_cons, List.length_append, length_record] at room
      have fits : payload.length < 2 ^ 32 := by omega
      have size : (UInt32.ofNat payload.length).toNat = payload.length :=
        UInt32.toNat_ofNat_of_lt fits
      rw [List.flatMap_cons, record, List.append_assoc, List.append_assoc, List.length_cons]
      refine (declaredBelow_succ_iff ?_).mpr ⟨?_, ?_⟩
      · rw [List.length_append]
        omega
      · omega
      · intro _
        rw [size, List.drop_left]
        exact ih (by omega) (by omega)

/-! ## The longest prefix within a budget -/

section Budget

variable {Item : Type*} (cost : Item → Nat)

/-- A total is within a budget. No budget is no bound. -/
def Within (budget : Option Nat) (total : Nat) : Prop :=
  ∀ limit, budget = some limit → total ≤ limit

/-- Keep items while the running total stays within the budget. -/
def fittingPrefix (budget : Option Nat) : Nat → List Item → List Item
  | _, [] => []
  | used, item :: items =>
      match budget with
      | some limit =>
          if used + cost item > limit then []
          else item :: fittingPrefix (some limit) (used + cost item) items
      | none => item :: fittingPrefix none (used + cost item) items

@[simp] theorem fittingPrefix_none (used : Nat) (items : List Item) :
    fittingPrefix cost none used items = items := by
  induction items generalizing used with
  | nil => rfl
  | cons item items ih => rw [fittingPrefix, ih]

/-- The kept items are the longest prefix whose total, on top of what was used,
is within the budget. When even the empty prefix is over the budget, nothing is
kept. -/
structure LongestWithin (budget : Option Nat) (used : Nat) (items kept : List Item) : Prop where
  isPrefix : kept <+: items
  fits : kept ≠ [] → Within budget (used + (kept.map cost).sum)
  longest : ∀ other, other <+: items → kept.length < other.length →
    ¬ Within budget (used + (other.map cost).sum)

/-- Nothing is kept when the first item is over the budget: every other prefix costs
more. -/
theorem LongestWithin.nil_of_beyond {limit used : Nat} {item : Item} {items : List Item}
    (beyond : used + cost item > limit) :
    LongestWithin cost (some limit) used (item :: items) [] := by
  refine ⟨List.nil_prefix, fun some => absurd rfl some, ?_⟩
  intro other isPrefix longer within
  obtain ⟨rest, rfl⟩ : ∃ rest, other = item :: rest := by
    cases other with
    | nil => exact absurd longer (Nat.lt_irrefl _)
    | cons head rest => exact ⟨rest, by rw [(List.cons_prefix_cons.mp isPrefix).1]⟩
  have total := within limit rfl
  simp only [List.map_cons, List.sum_cons] at total
  omega

/-- A first item within the budget is kept, and the totals of the rest are those of
the whole. -/
theorem LongestWithin.cons {budget : Option Nat} {used : Nat} {item : Item}
    {items kept : List Item} (here : Within budget (used + cost item))
    (rest : LongestWithin cost budget (used + cost item) items kept) :
    LongestWithin cost budget used (item :: items) (item :: kept) := by
  have shift : ∀ rest : List Item, used + ((item :: rest).map cost).sum =
      used + cost item + (rest.map cost).sum := by
    intro rest
    simp only [List.map_cons, List.sum_cons]
    omega
  refine ⟨List.cons_prefix_cons.mpr ⟨rfl, rest.isPrefix⟩, fun _ => ?_, ?_⟩
  · rw [shift]
    by_cases empty : kept = []
    · simpa [empty] using here
    · exact rest.fits empty
  · intro other isPrefix longer
    cases other with
    | nil => exact absurd longer (Nat.not_lt_zero _)
    | cons head tail =>
        obtain ⟨rfl, within⟩ := List.cons_prefix_cons.mp isPrefix
        rw [shift]
        exact rest.longest tail within (Nat.lt_of_succ_lt_succ longer)

/-- **A writer that stops at the first item over the budget keeps the longest
prefix within it.** -/
theorem longestWithin_fittingPrefix (budget : Option Nat) (used : Nat) (items : List Item) :
    LongestWithin cost budget used items (fittingPrefix cost budget used items) := by
  induction items generalizing used with
  | nil =>
      refine ⟨List.prefix_refl _, fun some => absurd rfl some, ?_⟩
      intro other isPrefix longer
      rw [List.prefix_nil.mp isPrefix] at longer
      exact absurd longer (Nat.lt_irrefl _)
  | cons item items ih =>
      cases budget with
      | none => exact .cons cost (fun _ bounded => by cases bounded) (ih _)
      | some limit =>
          simp only [fittingPrefix]
          split
          · rename_i beyond
            exact .nil_of_beyond cost beyond
          · rename_i within
            refine .cons cost ?_ (ih _)
            rintro _ ⟨⟩
            exact Nat.le_of_not_lt within

/-- A budget for all of the items keeps them all. -/
theorem LongestWithin.eq_of_within {budget : Option Nat} {used : Nat} {items kept : List Item}
    (longest : LongestWithin cost budget used items kept)
    (enough : Within budget (used + (items.map cost).sum)) : kept = items := by
  refine longest.isPrefix.eq_of_length_le (Nat.le_of_not_lt fun shorter => ?_)
  exact longest.longest items (List.prefix_refl _) shorter enough

/-- Items that are all within the budget are the longest prefix of themselves. -/
theorem LongestWithin.refl {budget : Option Nat} {used : Nat} {items : List Item}
    (enough : Within budget (used + (items.map cost).sum)) :
    LongestWithin cost budget used items items := by
  refine ⟨List.prefix_refl _, fun _ => enough, ?_⟩
  intro other isPrefix longer
  exact absurd isPrefix.length_le (Nat.not_le_of_lt longer)

/-- A prefix that uses the budget up is the longest one, when no item is free. -/
theorem LongestWithin.of_eq {limit used : Nat} {items kept : List Item}
    (isPrefix : kept <+: items) (full : used + (kept.map cost).sum = limit)
    (noneFree : ∀ item ∈ items, 0 < cost item) :
    LongestWithin cost (some limit) used items kept := by
  refine ⟨isPrefix, fun _ => ?_, ?_⟩
  · rintro _ ⟨⟩
    exact Nat.le_of_eq full
  · intro other otherPrefix longer within
    obtain ⟨more, rfl⟩ :=
      List.prefix_of_prefix_length_le isPrefix otherPrefix (Nat.le_of_lt longer)
    have total := within limit rfl
    cases more with
    | nil =>
        rw [List.append_nil] at longer
        exact absurd longer (Nat.lt_irrefl _)
    | cons item more =>
        have member : item ∈ items :=
          otherPrefix.subset (List.mem_append_right _ (List.mem_cons_self ..))
        have costs := noneFree item member
        simp only [List.map_append, List.sum_append, List.map_cons, List.sum_cons] at total
        omega

/-- A first item within the budget is kept. -/
theorem LongestWithin.ne_nil {limit used : Nat} {item : Item} {items kept : List Item}
    (longest : LongestWithin cost (some limit) used (item :: items) kept)
    (fits : used + cost item ≤ limit) : kept ≠ [] := by
  rintro rfl
  apply longest.longest [item] (List.cons_prefix_cons.mpr ⟨rfl, List.nil_prefix⟩)
  · exact Nat.zero_lt_one
  · rintro _ ⟨⟩
    simpa using fits

end Budget

end GstIceoryx2.Foundations
