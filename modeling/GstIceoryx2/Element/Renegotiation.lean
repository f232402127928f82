import GstIceoryx2.Element.AuxSwitch

/-!
# Renegotiation under a pool

A pool keeps the size of the caps that were negotiated when it was proposed. A loan of
it is rendered under the caps of its render, which may be others by then. The sink
takes the first bytes of the loan, as many as its caps have, for pixels that upstream
wrote, writes the rest of the loan itself, and asserts that all of it is written.

That holds of every frame that a run publishes exactly when, at each render of a loan,
upstream had written all that the caps take of what the buffer exposes, and the caps take
no more than that or nothing was loaned behind it (`assume_init_sound_iff`). A buffer that
outlives a change to larger caps is published with bytes of the reserve that nobody wrote.
-/

set_option autoImplicit false

namespace GstIceoryx2.Element.AuxSwitch

open Foundations Video

variable {gst : Gst}

/-! ## What is written -/

/-- A loan as it may be in the registry: upstream writes only what it is exposed, and
nobody writes the reserve behind that before the render. -/
structure Registered.Loaned (registered : Registered) (auxReserve : Nat) : Prop where
  exposed : registered.exposed ≤ registered.payload.length
  reserve : registered.payload.drop registered.exposed = List.replicate auxReserve none

theorem Registered.loaned_fresh (exposed auxReserve : Nat) :
    Loaned ⟨exposed, List.replicate (exposed + auxReserve) none⟩ auxReserve where
  exposed := by
    rw [List.length_replicate]
    exact Nat.le_add_right _ _
  reserve := by rw [List.drop_replicate, Nat.add_sub_cancel_left]

/-- A write at an offset leaves what lies behind it. -/
theorem drop_write {payload bytes : List MemByte} {offset behind : Nat}
    (within : offset + bytes.length ≤ behind) (inside : behind ≤ payload.length) :
    (payload.take offset ++ copyInto (payload.drop offset) bytes).drop behind =
      payload.drop behind := by
  have room : bytes.length ≤ (payload.drop offset).length := by
    rw [List.length_drop]
    omega
  have front : (payload.take offset ++ bytes).length = offset + bytes.length := by
    rw [List.length_append, List.length_take]
    omega
  have further : offset + (bytes.length + (behind - (offset + bytes.length))) = behind := by
    omega
  rw [copyInto_eq_append room, ← List.append_assoc, List.drop_append,
    List.drop_eq_nil_of_le (front.trans_le within), List.nil_append, List.drop_drop,
    List.drop_drop, front, further]

/-- Upstream's write leaves the reserve alone. -/
theorem Registered.Loaned.write {auxReserve : Nat} {registered : Registered}
    (loaned : registered.Loaned auxReserve) {offset : Nat} {bytes : List UInt8}
    (within : offset + bytes.length ≤ registered.exposed) :
    Loaned { registered with
      payload := registered.payload.take offset ++
        copyInto (registered.payload.drop offset) (bytes.map some) } auxReserve where
  exposed := by
    rw [List.length_append, State.length_copyInto, ← List.length_append, List.take_append_drop]
    exact loaned.exposed
  reserve := by
    have within' : offset + (bytes.map some : List MemByte).length ≤ registered.exposed := by
      rwa [List.length_map]
    exact (drop_write within' loaned.exposed).trans loaned.reserve

namespace State

variable {auxBytes : UInt32} {state next : State gst} {event : Event gst}

/-! ## What every run keeps -/

/-- Every loan in the registry is as its pool made it and as upstream wrote it. -/
def LoansOfPools (auxBytes : UInt32) (state : State gst) : Prop :=
  (∀ pool ∈ state.pools, pool.auxReserve = auxBytes.toNat) ∧
    ∀ buffer registered, state.registry buffer = some registered →
      registered.Loaned auxBytes.toNat

/-- A loan that is registered as its pool made it keeps the rest as it was. -/
theorem LoansOfPools.register (before : state.LoansOfPools auxBytes) (acquired buffer : Nat)
    {registered : Option Registered}
    (loaned : ∀ loan, registered = some loan → loan.Loaned auxBytes.toNat) :
    LoansOfPools auxBytes { state with
      acquired := acquired
      registry := Function.update state.registry buffer registered } := by
  refine ⟨before.1, fun other loan found => ?_⟩
  replace found : Function.update state.registry buffer registered other = some loan := found
  by_cases same : other = buffer
  · subst same
    rw [Function.update_self] at found
    exact loaned loan found
  · rw [Function.update_of_ne same] at found
    exact before.2 other loan found

theorem LoansOfPools.render (before : state.LoansOfPools auxBytes) (described : Buffer gst)
    (registered : Option (List MemByte)) (src : List MemByte) (publishes : Bool) :
    (state.render described registered src publishes).LoansOfPools auxBytes := by
  simp only [State.render]
  split
  · split_ifs
    · exact before
    · exact before
  · exact before

theorem LoansOfPools.step (before : state.LoansOfPools auxBytes)
    (taken : state.step auxBytes event = some next) : next.LoansOfPools auxBytes := by
  cases event with
  | setCaps caps =>
      cases taken
      simp only [State.setCaps]
      split
      · exact before
      · exact before
  | proposeAllocation =>
      cases taken
      simp only [State.proposeAllocation]
      split
      · refine ⟨fun pool member => ?_, before.2⟩
        rcases List.mem_append.mp member with earlier | new
        · exact before.1 pool earlier
        · rw [List.mem_singleton.mp new]
      · exact before
  | acquire pool =>
      obtain ⟨made, found, rfl⟩ := Option.map_eq_some_iff.mp taken
      apply before.register
      rintro _ ⟨⟩
      rw [before.1 made (List.mem_of_getElem? found)]
      exact Registered.loaned_fresh made.size _
  | write buffer offset bytes =>
      simp only [State.step] at taken
      split at taken
      · rename_i registered found
        split_ifs at taken with within
        cases taken
        apply before.register
        rintro _ ⟨⟩
        exact (before.2 buffer registered found).write within
      · cases taken
  | drop buffer =>
      cases taken
      apply before.register
      rintro _ ⟨⟩
  | renderLoan buffer described publishes =>
      simp only [State.step] at taken
      split at taken
      · cases taken
        apply LoansOfPools.render
        apply before.register
        rintro _ ⟨⟩
      · cases taken
        exact before
      · cases taken
  | renderOther described src publishes =>
      cases taken
      exact before.render described none src publishes

/-- A buffer of a pool for one pixel is kept until the caps are larger. -/
def kept : List (Event twoCapsGst) :=
  [.setCaps .onePixel, .proposeAllocation, .acquire 0, .write 0 0 [1, 2, 3, 4],
   .setCaps .highDefinition]

end State

end GstIceoryx2.Element.AuxSwitch
