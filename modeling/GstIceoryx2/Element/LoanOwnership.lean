import GstIceoryx2.Foundations.Ledger
import GstIceoryx2.Foundations.Runs
import GstIceoryx2.Element.Pool

/-!
# Who consumes a loan

The pool and the sink keep a ledger: acquiring a buffer issues its loan under an
address, and rendering or dropping a buffer settles it, taking whatever loan is
registered at its address (`ledgerStep_of_stepped`). Nothing else touches the
registry.

Every loan is to be consumed once, by the buffer it was made for. A buffer that
was rendered and is still alive names an address that may be loaned out again, and
rendering or dropping it then takes the later loan. Ownership is linear in exactly
the runs where that does not happen (`linearOwnership_iff`).
-/

set_option autoImplicit false

namespace GstIceoryx2.Element.Pool

open Foundations Video

variable {gst : Gst}

/-- A pool buffer as a holder: its address, and whether it has been rendered. -/
def PoolBuffer.holder (pooled : PoolBuffer) : Holder Ptr :=
  ⟨pooled.handle.ptr, pooled.rendered⟩

/-- A consumption as a settlement. -/
def Consumption.settlement (consumption : Consumption) : Settlement :=
  ⟨consumption.loan, consumption.buffer⟩

namespace State

/-- The ledger of loans. -/
def ledger (state : State gst) : Ledger Ptr where
  issued := state.acquired
  registry := Option.map SendSample.loan ∘ state.registry
  holders := Option.map PoolBuffer.holder ∘ state.buffers
  settlements := state.consumed.map Consumption.settlement

theorem ledger_holders {state : State gst} {buffer : Nat} {pooled : PoolBuffer}
    (live : state.buffers buffer = some pooled) :
    state.ledger.holders buffer = some pooled.holder :=
  congrArg (Option.map PoolBuffer.holder) live

/-! ## What the operations do to the ledger -/

section Operations

variable (session : Session gst) (state : State gst)

theorem ledger_deliver (sends : Bool) (ptr : Ptr) (sample : Published gst) :
    (state.deliver sends ptr sample).ledger = state.ledger := by
  cases sends <;> rfl

theorem ledger_acquire (ptr : Ptr) :
    (state.acquire session ptr).ledger = state.ledger.issue ptr := by
  simp only [ledger, acquire, Ledger.issue, Function.comp_update]
  rfl

variable {state} {buffer : Nat} {pooled : PoolBuffer} (live : state.buffers buffer = some pooled)
include live

theorem ledger_write (offset : Nat) (bytes : List UInt8) :
    (state.write buffer pooled offset bytes).ledger = state.ledger := by
  have same : Option.map PoolBuffer.holder ∘ Function.update state.buffers buffer
      (some { pooled with written := overwrite pooled.written offset (bytes.map some) }) =
        state.ledger.holders := by
    rw [Function.comp_update]
    exact Function.update_eq_self_iff.mpr (ledger_holders live).symm
  simp only [write, store]
  rw [ledger, same]
  rfl

omit live in
theorem ledger_renderTaken {sample : SendSample}
    (registered : state.registry pooled.handle.ptr = some sample) (described : Buffer gst)
    (sends : Bool) :
    (state.renderTaken session buffer pooled sample described sends).ledger =
      state.ledger.settle buffer pooled.holder true := by
  rw [renderTaken, ledger_deliver]
  simp only [ledger, store, Ledger.settle, Function.comp_update, List.map_append, PoolBuffer.holder,
    Function.comp_apply, registered]
  rfl

omit live in
theorem ledger_renderCopied (unregistered : state.registry pooled.handle.ptr = none)
    (described : Buffer gst) (copy : Ptr) (sends : Bool) :
    (state.renderCopied session buffer pooled described copy sends).ledger =
      state.ledger.settle buffer pooled.holder true := by
  have same : Function.update (Option.map SendSample.loan ∘ state.registry) pooled.handle.ptr none =
      Option.map SendSample.loan ∘ state.registry := by
    refine Function.update_eq_self_iff.mpr ?_
    rw [Function.comp_apply, unregistered]
    rfl
  rw [renderCopied, ledger_deliver]
  simp only [ledger, store, Ledger.settle, Function.comp_update, PoolBuffer.holder, same,
    Function.comp_apply, unregistered, Option.map_none, Option.toList_none, List.map_nil,
    List.append_nil]
  rfl

omit live in
theorem ledger_drop :
    (state.drop buffer pooled).ledger = state.ledger.settle buffer pooled.holder false := by
  simp only [ledger, drop, Ledger.settle, Function.comp_update, PoolBuffer.holder, List.map_append]
  cases registered : state.registry pooled.handle.ptr with
  | none => simp [registered]
  | some sample => simp [registered, Consumption.settlement]

end Operations

/-- **Every step of the sink and its pool is a step of the ledger.** -/
theorem ledgerStep_of_stepped {session : Session gst} {state next : State gst} {event : Event gst}
    (taken : Stepped session state event next) : Ledger.Step state.ledger next.ledger := by
  cases taken with
  | acquire ptr free =>
      rw [ledger_acquire]
      exact .issue (congrArg (Option.map SendSample.loan) free.1)
  | write live within =>
      rw [ledger_write live]
      exact .idle
  | renderTaken described copy sends live registered =>
      rw [ledger_renderTaken session registered]
      exact .settle true (ledger_holders live)
  | renderCopied described copy sends live unregistered free =>
      rw [ledger_renderCopied session unregistered]
      exact .settle true (ledger_holders live)
  | drop live =>
      rw [ledger_drop]
      exact .settle false (ledger_holders live)
  | release ptr => exact .idle
  | other ptr loan free => exact .idle

/-! ## Linear ownership of loans -/

/-- Every loan is consumed at most once, and only by the buffer it was made for;
one that is not consumed waits for its buffer, which is alive and not yet
rendered; and every such buffer has its own loan in the registry. -/
structure LinearOwnership (state : State gst) : Prop where
  own : ∀ consumption ∈ state.consumed, consumption.buffer = consumption.loan
  once : (state.consumed.map Consumption.loan).Nodup
  all : ∀ loan < state.acquired, (∃ consumption ∈ state.consumed, consumption.loan = loan) ∨
    ∃ pooled, state.buffers loan = some pooled ∧ pooled.rendered = false
  kept : ∀ buffer pooled, state.buffers buffer = some pooled → pooled.rendered = false →
    ∃ sample, state.registry pooled.handle.ptr = some sample ∧ sample.loan = buffer

/-- **Ownership of loans is linear when the ledger is.** The rest is bookkeeping. -/
theorem linearOwnership_iff_linear {state : State gst} (accounted : state.ledger.Accounted) :
    state.LinearOwnership ↔ state.ledger.Linear := by
  constructor
  · intro linear settlement taken
    obtain ⟨consumption, consumed, rfl⟩ := List.mem_map.mp taken
    exact linear.own consumption consumed
  · intro linear
    refine ⟨?_, ?_, ?_, ?_⟩
    · intro consumption consumed
      exact linear _ (List.mem_map_of_mem consumed)
    · have once := accounted.once
      rwa [ledger, List.map_map] at once
    · intro loan issued
      rcases accounted.all loan issued with ⟨ptr, registered⟩ | ⟨settlement, taken, rfl⟩
      · obtain ⟨pooled, live, held⟩ :=
          Option.map_eq_some_iff.mp (accounted.registered ptr loan registered)
        exact .inr ⟨pooled, live, congrArg Holder.settled held⟩
      · obtain ⟨consumption, consumed, rfl⟩ := List.mem_map.mp taken
        exact .inl ⟨consumption, consumed, rfl⟩
    · intro buffer pooled live waiting
      exact Option.map_eq_some_iff.mp (linear.kept accounted (ledger_holders live) waiting)

/-! ## Whole runs -/

/-- A buffer that has been rendered is rendered again or dropped only while no loan
is registered at its address. -/
def LeavesLaterLoans (state : State gst) : Event gst → Prop
  | .render buffer _ _ _ => ∀ pooled, state.buffers buffer = some pooled →
      pooled.rendered = true → state.registry pooled.handle.ptr = none
  | .drop buffer => ∀ pooled, state.buffers buffer = some pooled →
      pooled.rendered = true → state.registry pooled.handle.ptr = none
  | _ => True

/-- **A step keeps ownership linear exactly when it leaves later loans alone.** -/
theorem linear_stepped_iff {session : Session gst} {state next : State gst} {event : Event gst}
    (accounted : state.ledger.Accounted) (linear : state.ledger.Linear)
    (taken : Stepped session state event next) :
    next.ledger.Linear ↔ state.LeavesLaterLoans event := by
  have clear : ∀ {buffer : Nat} {pooled : PoolBuffer}, state.buffers buffer = some pooled →
      ((pooled.holder.settled = true → state.ledger.registry pooled.holder.key = none) ↔
        ∀ pooled', state.buffers buffer = some pooled' →
          pooled'.rendered = true → state.registry pooled'.handle.ptr = none) := by
    intro buffer pooled live
    constructor
    · intro clear pooled' live'
      obtain rfl := Option.some.inj (live.symm.trans live')
      exact fun rendered => Option.map_eq_none_iff.mp (clear rendered)
    · intro clear rendered
      exact Option.map_eq_none_iff.mpr (clear pooled live rendered)
  cases taken with
  | acquire ptr free =>
      rw [ledger_acquire]
      exact ⟨fun _ => trivial, fun _ => linear⟩
  | write live within =>
      rw [ledger_write live]
      exact ⟨fun _ => trivial, fun _ => linear⟩
  | renderTaken described copy sends live registered =>
      rw [ledger_renderTaken session registered,
        Ledger.linear_settle_iff accounted linear (ledger_holders live)]
      exact clear live
  | renderCopied described copy sends live unregistered free =>
      rw [ledger_renderCopied session unregistered,
        Ledger.linear_settle_iff accounted linear (ledger_holders live)]
      exact clear live
  | drop live =>
      rw [ledger_drop, Ledger.linear_settle_iff accounted linear (ledger_holders live)]
      exact clear live
  | release ptr => exact ⟨fun _ => trivial, fun _ => linear⟩
  | other ptr loan free => exact ⟨fun _ => trivial, fun _ => linear⟩

section Runs

variable {session : Session gst} {state : State gst} {events : List (Event gst)}

theorem accounted_of_run {guard : State gst → Event gst → Prop}
    (run : Run (step session) guard started events state) : state.ledger.Accounted := by
  refine run.invariant (fun state => state.ledger.Accounted) Ledger.accounted_empty ?_
  intro before event after accounted _ taken
  exact accounted.step (ledgerStep_of_stepped (stepped_of_step taken))

/-- **Ownership of loans is linear in exactly the runs in which no rendered buffer
is rendered again or dropped while a later loan is registered at its address.** -/
theorem linearOwnership_iff (run : Run (step session) unguarded started events state) :
    state.LinearOwnership ↔ Run (step session) LeavesLaterLoans started events state := by
  rw [linearOwnership_iff_linear (accounted_of_run run)]
  refine Run.iff_guarded (fun state => state.ledger.Linear) ?_ ?_ ?_ run
  · intro settlement taken
    cases taken
  · intro before event after taken linear
    exact linear.of_step (ledgerStep_of_stepped (stepped_of_step taken))
  · intro events before event after run linear taken
    exact linear_stepped_iff (accounted_of_run run) linear (stepped_of_step taken)

end Runs

/-! ## A kept buffer -/

/-- Four pixel bytes, and a reserve for the caps. -/
def onePixelSession : Session twoCapsGst where
  info := Sink.capsInfo TwoCaps.onePixel.info
  caps := TwoCaps.onePixel
  auxReserve := 80

/-- A buffer that is rendered and dropped consumes its own loan. -/
theorem linearOwnership_iff_rendered :
    ∃ state, state.consumed.map Consumption.settlement = [⟨0, 0⟩] ∧
      (state.LinearOwnership ↔
        Run (step onePixelSession) LeavesLaterLoans started
          [.acquire 0, .write 0 0 [1, 2, 3, 4], .render 0 (plainBuffer twoCapsGst) 1 true, .drop 0]
          state) :=
  ⟨_, rfl, linearOwnership_iff (execute_eq_some_iff.mp rfl)⟩

/-- **A buffer kept beyond its render returns the loan of another.** Its sample is
released, its address is loaned out again, and dropping it removes that loan from
the registry while the buffer it was made for is alive and not rendered. -/
theorem linearOwnership_lost :
    ∃ state, Run (step onePixelSession) unguarded started
        [.acquire 0, .write 0 0 [1, 2, 3, 4], .render 0 (plainBuffer twoCapsGst) 1 true, .release 0,
          .acquire 0, .drop 0] state ∧
      state.registry 0 = none ∧ ¬ state.LinearOwnership := by
  refine ⟨_, execute_eq_some_iff.mp rfl, rfl, ?_⟩
  intro linear
  exact absurd (linear.own ⟨1, 0, .dropped⟩ (List.mem_cons_of_mem _ (List.mem_singleton_self _)))
    (by decide)

end State

end GstIceoryx2.Element.Pool
