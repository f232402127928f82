import Mathlib.Logic.Function.Basic
import GstIceoryx2.Element.RenderPaths

/-!
# The buffer pool

Every buffer the pool hands out is a fresh loan of the publisher. The registry
keeps the loan under the address of its payload until the sink takes it; the
buffer itself holds no more than that address and the length upstream may write.
Rendering a buffer takes whatever loan is registered at its address and sends it,
or else copies the memory at that address into another loan. Dropping a buffer
removes whatever loan is registered at its address.

An address is loaned out again as soon as no outstanding loan and no sample that
is still held by a subscriber lies there. A buffer that is kept after its render
can therefore outlive the loan its address stood for.

The loan and the buffer of one acquisition share its number. What a buffer was
made for, what upstream last wrote at each place of it, who consumed a loan and what
was published are recorded next to the state of the code.
-/

set_option autoImplicit false

namespace GstIceoryx2.Element.Pool

open Foundations Video

variable {gst : Gst}

/-! ## Memory -/

/-- The address of a payload. -/
abbrev Ptr := Nat

/-- The bytes from the start of a payload. -/
def contents (cells : Nat → MemByte) (len : Nat) : List MemByte :=
  (List.range len).map cells

/-- Write bytes into a payload, from an offset on. -/
def overwrite (cells : Nat → MemByte) (offset : Nat) (bytes : List MemByte) : Nat → MemByte :=
  fun place => if place < offset then cells place else bytes[place - offset]?.getD (cells place)

@[simp] theorem length_contents (cells : Nat → MemByte) (len : Nat) :
    (contents cells len).length = len := by
  rw [contents, List.length_map, List.length_range]

theorem take_contents (cells : Nat → MemByte) {short len : Nat} (within : short ≤ len) :
    (contents cells len).take short = contents cells short := by
  rw [contents, contents, ← List.map_take, List.take_range, Nat.min_eq_left within]

theorem contents_eq_contents_iff {cells cells' : Nat → MemByte} {len : Nat} :
    contents cells len = contents cells' len ↔ ∀ place < len, cells place = cells' place := by
  simp only [contents, List.map_inj_left, List.mem_range]

/-- Contents that are bytes are bytes at every place. -/
theorem exists_byte_of_contents {cells : Nat → MemByte} {len : Nat} {bytes : List UInt8}
    (whole : contents cells len = bytes.map some) {place : Nat} (inside : place < len) :
    ∃ byte, cells place = some byte := by
  have there : cells place ∈ contents cells len :=
    List.mem_map_of_mem (List.mem_range.mpr inside)
  rw [whole] at there
  obtain ⟨byte, -, same⟩ := List.mem_map.mp there
  exact ⟨byte, same.symm⟩

/-- A write leaves a place as it was, or what is there afterwards is of the write. -/
theorem overwrite_cases (offset : Nat) (bytes : List MemByte) (place : Nat) :
    (∀ cells, overwrite cells offset bytes place = cells place) ∨
      ∃ byte, ∀ cells, overwrite cells offset bytes place = byte := by
  by_cases before : place < offset
  · exact .inl fun cells => if_pos before
  · simp only [overwrite, if_neg before]
    cases bytes[place - offset]? with
    | none => exact .inl fun cells => rfl
    | some byte => exact .inr ⟨byte, fun cells => rfl⟩

/-- What is read back is what was written. -/
theorem contents_overwrite (cells : Nat → MemByte) {bytes : List MemByte} {len : Nat}
    (within : len ≤ bytes.length) : contents (overwrite cells 0 bytes) len = bytes.take len := by
  apply List.ext_getElem
  · rw [length_contents, List.length_take, Nat.min_eq_left within]
  · intro place inside _
    rw [length_contents] at inside
    have written : place < bytes.length := Nat.lt_of_lt_of_le inside within
    simp only [contents, overwrite, List.getElem_map, List.getElem_range, Nat.not_lt_zero,
      if_false, Nat.sub_zero, List.getElem?_eq_getElem written, Option.getD_some,
      List.getElem_take]

/-! ## The state -/

/-- A loan that awaits its send. -/
structure SendSample where
  loan : Nat
  len : Nat

/-- The memory of a pool buffer: the address of a loan, and the length exposed. -/
structure LoanHandle where
  ptr : Ptr
  len : Nat

/-- A live pool buffer, whether it has been rendered, and what upstream last wrote at
each place. -/
structure PoolBuffer where
  handle : LoanHandle
  rendered : Bool
  written : Nat → MemByte

/-- How a loan is consumed: its render sends it, or fails to, or a drop returns it. -/
inductive Fate where
  | sent
  | refused
  | dropped

/-- A consumed loan and the buffer whose render or drop consumed it. -/
structure Consumption where
  loan : Nat
  buffer : Nat
  fate : Fate

/-- A sample that is sent and not yet released. -/
structure InFlight where
  ptr : Ptr
  loan : Loan

/-- A sample that a render published, with what upstream had last written. -/
structure Published (gst : Gst) where
  buffer : Nat
  described : Buffer gst
  written : Nat → MemByte
  loan : Loan

/-- The negotiated caps, and the bytes loaned behind the pixels. -/
structure Session (gst : Gst) where
  info : Sink.CapsInfo
  caps : gst.Caps
  auxReserve : Nat

/-- The sink and its pool. `lastLoan` is the acquisition an address was last
loaned for, and none when the last loan there was of another kind. -/
structure State (gst : Gst) where
  acquired : Nat
  memory : Ptr → Nat → MemByte
  lastLoan : Ptr → Option Nat
  registry : Ptr → Option SendSample
  buffers : Nat → Option PoolBuffer
  inFlight : List InFlight
  consumed : List Consumption
  published : List (Published gst)

/-- What can happen. A loan, for a buffer or for a copy, is given an address, upstream
writes any part of what it is exposed, and `other` is a sample the publisher sends for
no buffer of the pool. -/
inductive Event (gst : Gst) where
  | acquire (ptr : Ptr)
  | write (buffer offset : Nat) (bytes : List UInt8)
  | render (buffer : Nat) (described : Buffer gst) (copy : Ptr) (sends : Bool)
  | drop (buffer : Nat)
  | release (ptr : Ptr)
  | other (ptr : Ptr) (loan : Loan)

namespace State

/-- Nothing acquired yet. -/
def started : State gst where
  acquired := 0
  memory := fun _ _ => none
  lastLoan := fun _ => none
  registry := fun _ => none
  buffers := fun _ => none
  inFlight := []
  consumed := []
  published := []

/-- No outstanding loan and no unreleased sample lies there. -/
def Free (state : State gst) (ptr : Ptr) : Prop :=
  state.registry ptr = none ∧ ∀ sample ∈ state.inFlight, sample.ptr ≠ ptr

instance (state : State gst) (ptr : Ptr) : Decidable (state.Free ptr) :=
  inferInstanceAs (Decidable (_ = none ∧ _))

/-- The first bytes at an address. -/
def read (state : State gst) (ptr : Ptr) (len : Nat) : List MemByte :=
  contents (state.memory ptr) len

/-- Write bytes at an address, from an offset on. -/
def store (state : State gst) (ptr : Ptr) (offset : Nat) (bytes : List MemByte) : State gst :=
  { state with
    memory := Function.update state.memory ptr (overwrite (state.memory ptr) offset bytes) }

/-- A send puts the sample into flight. One that fails does nothing. -/
def deliver (state : State gst) (sends : Bool) (ptr : Ptr) (sample : Published gst) : State gst :=
  if sends then
    { state with
      inFlight := state.inFlight ++ [⟨ptr, sample.loan⟩]
      published := state.published ++ [sample] }
  else
    state

/-! ## The operations -/

/-- `acquire_buffer`: a fresh loan, registered at its address. -/
def acquire (session : Session gst) (state : State gst) (ptr : Ptr) : State gst :=
  { state with
    acquired := state.acquired + 1
    lastLoan := Function.update state.lastLoan ptr (some state.acquired)
    registry := Function.update state.registry ptr
      (some ⟨state.acquired, session.info.size + session.auxReserve⟩)
    buffers := Function.update state.buffers state.acquired
      (some ⟨⟨ptr, session.info.size⟩, false, fun _ => none⟩) }

/-- Upstream writes through its mapping. -/
def write (state : State gst) (buffer : Nat) (pooled : PoolBuffer) (offset : Nat)
    (bytes : List UInt8) : State gst :=
  { state.store pooled.handle.ptr offset (bytes.map some) with
    buffers := Function.update state.buffers buffer
      (some { pooled with written := overwrite pooled.written offset (bytes.map some) }) }

/-- `render` with a loan registered at the address of the buffer: that loan is sent. -/
def renderTaken (session : Session gst) (state : State gst) (buffer : Nat) (pooled : PoolBuffer)
    (sample : SendSample) (described : Buffer gst) (sends : Bool) : State gst :=
  let ptr := pooled.handle.ptr
  let loan := Sink.renderZeroCopy session.info (some session.caps) described
    (state.read ptr sample.len)
  ({ state.store ptr 0 loan.payload with
      registry := Function.update state.registry ptr none
      buffers := Function.update state.buffers buffer (some { pooled with rendered := true })
      consumed := state.consumed ++ [⟨sample.loan, buffer, if sends then .sent else .refused⟩] } :
    State gst).deliver sends ptr ⟨buffer, described, pooled.written, loan⟩

/-- `render` with no loan registered there: the memory is copied into another loan. -/
def renderCopied (session : Session gst) (state : State gst) (buffer : Nat) (pooled : PoolBuffer)
    (described : Buffer gst) (copy : Ptr) (sends : Bool) : State gst :=
  let loan := Sink.renderCopy session.info (some session.caps) described
    (state.read pooled.handle.ptr pooled.handle.len)
  ({ state.store copy 0 loan.payload with
      lastLoan := Function.update state.lastLoan copy none
      buffers := Function.update state.buffers buffer (some { pooled with rendered := true }) } :
    State gst).deliver sends copy ⟨buffer, described, pooled.written, loan⟩

/-- `LoanHandle::drop`: whatever loan is registered at the address is returned. -/
def drop (state : State gst) (buffer : Nat) (pooled : PoolBuffer) : State gst :=
  { state with
    registry := Function.update state.registry pooled.handle.ptr none
    buffers := Function.update state.buffers buffer none
    consumed := state.consumed ++ (state.registry pooled.handle.ptr).toList.map fun sample =>
      ⟨sample.loan, buffer, .dropped⟩ }

/-- The last subscriber releases a sample. -/
def release (state : State gst) (ptr : Ptr) : State gst :=
  { state with inFlight := state.inFlight.filter fun sample => sample.ptr ≠ ptr }

/-- The publisher sends another sample: a copy of a buffer from elsewhere, or the
end-of-stream sentinel. -/
def other (state : State gst) (ptr : Ptr) (loan : Loan) : State gst :=
  { state.store ptr 0 loan.payload with
    lastLoan := Function.update state.lastLoan ptr none
    inFlight := state.inFlight ++ [⟨ptr, loan⟩] }

/-- The system takes a step. Buffers are used while they live, written within what
they expose, and loans are made at free addresses. -/
def step (session : Session gst) (state : State gst) : Event gst → Option (State gst)
  | .acquire ptr => if state.Free ptr then some (state.acquire session ptr) else none
  | .write buffer offset bytes =>
      match state.buffers buffer with
      | some pooled =>
          if offset + bytes.length ≤ pooled.handle.len then
            some (state.write buffer pooled offset bytes)
          else
            none
      | none => none
  | .render buffer described copy sends =>
      match state.buffers buffer with
      | some pooled =>
          match state.registry pooled.handle.ptr with
          | some sample =>
              some (state.renderTaken session buffer pooled sample described sends)
          | none =>
              if state.Free copy then
                some (state.renderCopied session buffer pooled described copy sends)
              else
                none
      | none => none
  | .drop buffer =>
      match state.buffers buffer with
      | some pooled => some (state.drop buffer pooled)
      | none => none
  | .release ptr => some (state.release ptr)
  | .other ptr loan => if state.Free ptr then some (state.other ptr loan) else none

/-- A loan that is registered does not lie at a free address. -/
theorem Free.ne_of_registered {state : State gst} {ptr other : Ptr} (free : state.Free ptr)
    {sample : SendSample} (registered : state.registry other = some sample) : other ≠ ptr := by
  rintro rfl
  exact absurd (free.1.symm.trans registered) (by simp)

/-! ## Fields -/

section Fields

variable (state : State gst)

theorem read_store_self (ptr : Ptr) {bytes : List MemByte} {len : Nat}
    (within : len ≤ bytes.length) : (state.store ptr 0 bytes).read ptr len = bytes.take len := by
  simp only [read, store, Function.update_self]
  exact contents_overwrite _ within

theorem read_store_of_ne {ptr other : Ptr} (apart : other ≠ ptr) (offset : Nat)
    (bytes : List MemByte) (len : Nat) :
    (state.store ptr offset bytes).read other len = state.read other len := by
  simp only [read, store, Function.update_of_ne apart]

variable (sends : Bool) (ptr : Ptr) (sample : Published gst)

@[simp] theorem read_deliver (other : Ptr) (len : Nat) :
    (state.deliver sends ptr sample).read other len = state.read other len := by
  cases sends <;> rfl

@[simp] theorem deliver_lastLoan : (state.deliver sends ptr sample).lastLoan = state.lastLoan := by
  cases sends <;> rfl

@[simp] theorem deliver_registry : (state.deliver sends ptr sample).registry = state.registry := by
  cases sends <;> rfl

@[simp] theorem deliver_buffers : (state.deliver sends ptr sample).buffers = state.buffers := by
  cases sends <;> rfl

variable {state sends ptr sample}

theorem mem_published_deliver {published : Published gst}
    (member : published ∈ (state.deliver sends ptr sample).published) :
    published ∈ state.published ∨ published = sample := by
  cases sends with
  | false => exact .inl member
  | true =>
      rcases List.mem_append.mp member with earlier | last
      · exact .inl earlier
      · exact .inr (List.mem_singleton.mp last)

end Fields

/-! ## What a step can do -/

/-- The steps there are, and where they lead. -/
inductive Stepped (session : Session gst) (state : State gst) : Event gst → State gst → Prop where
  | acquire (ptr : Ptr) (free : state.Free ptr) :
      Stepped session state (.acquire ptr) (state.acquire session ptr)
  | write {buffer offset : Nat} {pooled : PoolBuffer} {bytes : List UInt8}
      (live : state.buffers buffer = some pooled)
      (within : offset + bytes.length ≤ pooled.handle.len) :
      Stepped session state (.write buffer offset bytes) (state.write buffer pooled offset bytes)
  | renderTaken {buffer : Nat} {pooled : PoolBuffer} {sample : SendSample}
      (described : Buffer gst) (copy : Ptr) (sends : Bool)
      (live : state.buffers buffer = some pooled)
      (registered : state.registry pooled.handle.ptr = some sample) :
      Stepped session state (.render buffer described copy sends)
        (state.renderTaken session buffer pooled sample described sends)
  | renderCopied {buffer : Nat} {pooled : PoolBuffer} (described : Buffer gst) (copy : Ptr)
      (sends : Bool) (live : state.buffers buffer = some pooled)
      (unregistered : state.registry pooled.handle.ptr = none) (free : state.Free copy) :
      Stepped session state (.render buffer described copy sends)
        (state.renderCopied session buffer pooled described copy sends)
  | drop {buffer : Nat} {pooled : PoolBuffer} (live : state.buffers buffer = some pooled) :
      Stepped session state (.drop buffer) (state.drop buffer pooled)
  | release (ptr : Ptr) : Stepped session state (.release ptr) (state.release ptr)
  | other (ptr : Ptr) (loan : Loan) (free : state.Free ptr) :
      Stepped session state (.other ptr loan) (state.other ptr loan)

theorem stepped_of_step {session : Session gst} {state next : State gst} {event : Event gst}
    (taken : step session state event = some next) : Stepped session state event next := by
  cases event with
  | acquire ptr =>
      simp only [step] at taken
      split_ifs at taken with free
      cases taken
      exact .acquire ptr free
  | write buffer offset bytes =>
      simp only [step] at taken
      split at taken
      · rename_i live
        split_ifs at taken with within
        cases taken
        exact .write live within
      · cases taken
  | render buffer described copy sends =>
      simp only [step] at taken
      split at taken
      · rename_i live
        split at taken
        · rename_i registered
          cases taken
          exact .renderTaken described copy sends live registered
        · rename_i unregistered
          split_ifs at taken with free
          cases taken
          exact .renderCopied described copy sends live unregistered free
      · cases taken
  | drop buffer =>
      simp only [step] at taken
      split at taken
      · rename_i live
        cases taken
        exact .drop live
      · cases taken
  | release ptr =>
      cases taken
      exact .release ptr
  | other ptr loan =>
      simp only [step] at taken
      split_ifs at taken with free
      cases taken
      exact .other ptr loan free

end State

end GstIceoryx2.Element.Pool
