import GstIceoryx2.Foundations.Runs
import GstIceoryx2.Element.Publishing

/-!
# The connected subscribers and their signals

Before every frame the sink polls how many subscribers are connected, remembers the
count, and emits a signal when it differs from the count remembered before. A listener
that only sees the signals should know the count, which is also a property of the
element.

The remembered count is written in two places. A poll writes what it observed and
emits the signal of the change. A start writes zero, and emits nothing. Every write is
recorded here with the signal that it emitted.

The signals tell the count in every state of a run, with a signal for every rise and
every fall, exactly when every start that succeeds finds the count at zero
(`signals_tell_count_iff`). A render never breaks it, however often it polls
(`Reconstructed.trackAndAwaitConnection`). A second start behind a subscriber does
(`restart_forgets_subscriber`).
-/

set_option autoImplicit false

namespace GstIceoryx2.Element.Clients

open Foundations

/-! ## Signals -/

/-- The signals of the sink, which carry the new count. -/
inductive Signal where
  | connected (count : UInt32)
  | disconnected (count : UInt32)
  deriving DecidableEq

namespace Signal

/-- The count that a signal carries. -/
def count : Signal → UInt32
  | connected count => count
  | disconnected count => count

end Signal

/-- What a listener takes for the count. -/
def lastCount (signals : List Signal) : UInt32 :=
  match signals.getLast? with
  | none => 0
  | some signal => signal.count

/-- `emit_client_changes`: the signal of a change. -/
def emitClientChanges (prev now : UInt64) : Option Signal :=
  if prev < now then
    some (.connected now.toUInt32)
  else if now < prev then
    some (.disconnected now.toUInt32)
  else
    none

/-- A write of the remembered count, with the signal that was emitted for it. -/
structure Write where
  prev : UInt64
  now : UInt64
  emitted : Option Signal

/-- A rise is signalled as one and a fall is signalled as one, and nothing else is. -/
structure Write.Signalled (write : Write) : Prop where
  connected : (∃ count, write.emitted = some (.connected count)) ↔ write.prev < write.now
  disconnected : (∃ count, write.emitted = some (.disconnected count)) ↔ write.now < write.prev

/-! ## The state -/

/-- What the sink keeps between frames, and the writes of the count so far. -/
structure State where
  started : Bool
  unlocked : Bool
  clients : UInt64
  writes : List Write

/-- One turn of the polling loop: whether `unlock` was called since the last turn, and how
many subscribers the service counts. -/
structure Poll where
  unlock : Bool
  subscribers : UInt64

/-- The operations. A render has one entry for every turn of its loop, and the setting that
it reads first. -/
inductive Event where
  | start (opened : Bool)
  | stop
  | unlock
  | unlockStop
  | render (waitForConnection : Bool) (polls : List Poll)

namespace State

/-- The element before its first start. -/
def created : State where
  started := false
  unlocked := false
  clients := 0
  writes := []

/-- The signals so far. -/
def signals (state : State) : List Signal :=
  state.writes.filterMap (·.emitted)

/-- The property `num-clients`. -/
def numClients (state : State) : UInt32 :=
  state.clients.toUInt32

/-- Write the count, and record the signal that goes with it. -/
def store (state : State) (now : UInt64) (emitted : Option Signal) : State :=
  { state with
    clients := now
    writes := state.writes ++ [⟨state.clients, now, emitted⟩] }

/-- `start`. When the service does not open, nothing is written. -/
def start (state : State) (opened : Bool) : State :=
  if opened then
    { state.store 0 none with unlocked := false, started := true }
  else
    state

/-- `poll_clients`. -/
def pollClients (state : State) (subscribers : UInt64) : UInt64 :=
  if state.started then subscribers else 0

/-- Remember what was polled, and emit the signal of the change. -/
def observe (state : State) (now : UInt64) : State :=
  state.store now (emitClientChanges state.clients now)

/-- `track_and_await_connection`. It is not back yet when the turns are used up. -/
def trackAndAwaitConnection (wait : Bool) (state : State) :
    List Poll → Option (Except Publishing.FlowError Unit × State)
  | [] => none
  | poll :: polls =>
      let state := { state with unlocked := state.unlocked || poll.unlock }
      if state.unlocked then
        some (.error .flushing, state)
      else
        let now := state.pollClients poll.subscribers
        let next := state.observe now
        if 1 ≤ now || !wait then
          some (.ok (), next)
        else
          trackAndAwaitConnection wait next polls

/-- The sink takes an operation. -/
def step (state : State) : Event → Option State
  | .start opened => some (state.start opened)
  | .stop => some { state with started := false }
  | .unlock => some { state with unlocked := true }
  | .unlockStop => some { state with unlocked := false }
  | .render wait polls => (state.trackAndAwaitConnection wait polls).map Prod.snd

/-! ## The property -/

/-- The signals tell the count, and there is one for every rise and every fall. -/
structure Reconstructed (state : State) : Prop where
  count : state.numClients = lastCount state.signals
  changes : ∀ write ∈ state.writes, write.Signalled

/-- A start that succeeds finds the count at zero. -/
def StartsAtZero (state : State) : Event → Prop
  | .start opened => opened = true → state.clients = 0
  | _ => True

end State

/-! ## What one write does -/

/-- The signal that `emit_client_changes` picks is the one of the change. -/
theorem signalled_emitClientChanges (prev now : UInt64) :
    Write.Signalled ⟨prev, now, emitClientChanges prev now⟩ := by
  unfold emitClientChanges
  split_ifs with rises falls
  · exact ⟨iff_of_true ⟨_, rfl⟩ rises, iff_of_false nofun (UInt64.lt_asymm rises)⟩
  · exact ⟨iff_of_false nofun rises, iff_of_true ⟨_, rfl⟩ falls⟩
  · exact ⟨iff_of_false nofun rises, iff_of_false nofun falls⟩

/-- A write without a signal is right exactly when it changes nothing. -/
theorem signalled_none_iff (prev now : UInt64) :
    Write.Signalled ⟨prev, now, none⟩ ↔ prev = now := by
  constructor
  · intro signalled
    have rises : ¬ prev < now := fun rises => nomatch signalled.connected.mpr rises
    have falls : ¬ now < prev := fun falls => nomatch signalled.disconnected.mpr falls
    exact UInt64.le_antisymm (UInt64.not_lt.mp falls) (UInt64.not_lt.mp rises)
  · rintro rfl
    exact ⟨iff_of_false nofun (UInt64.lt_irrefl _), iff_of_false nofun (UInt64.lt_irrefl _)⟩

theorem lastCount_concat (signals : List Signal) (signal : Signal) :
    lastCount (signals ++ [signal]) = signal.count := by
  rw [lastCount, List.getLast?_concat]

namespace State

variable {state next : State}

theorem signals_store_none (state : State) (now : UInt64) :
    (state.store now none).signals = state.signals := by
  simp only [signals, store, List.filterMap_append, List.filterMap_cons_none,
    List.filterMap_nil, List.append_nil]

theorem signals_store_some (state : State) (now : UInt64) (signal : Signal) :
    (state.store now (some signal)).signals = state.signals ++ [signal] := by
  simp only [signals, store, List.filterMap_append, List.filterMap_cons, List.filterMap_nil]

/-- All writes are signalled after one more exactly when that one is. -/
theorem forall_store_iff (changes : ∀ write ∈ state.writes, write.Signalled) (now : UInt64)
    (emitted : Option Signal) :
    (∀ write ∈ (state.store now emitted).writes, write.Signalled) ↔
      Write.Signalled ⟨state.clients, now, emitted⟩ := by
  simp only [store, List.forall_mem_append, List.forall_mem_singleton]
  exact and_iff_right changes

namespace Reconstructed

theorem created : State.created.Reconstructed where
  count := rfl
  changes := nofun

/-- **A poll keeps the count reconstructed, whatever it observes.** -/
theorem observe (before : state.Reconstructed) (now : UInt64) :
    (state.observe now).Reconstructed where
  count := by
    change now.toUInt32 = lastCount (state.store now _).signals
    unfold emitClientChanges
    split_ifs with rises falls
    · rw [signals_store_some, lastCount_concat]
      rfl
    · rw [signals_store_some, lastCount_concat]
      rfl
    · have same : state.clients = now :=
        UInt64.le_antisymm (UInt64.not_lt.mp falls) (UInt64.not_lt.mp rises)
      rw [signals_store_none, ← same]
      exact before.count
  changes := (forall_store_iff before.changes now _).mpr (signalled_emitClientChanges _ now)

theorem setUnlocked (before : state.Reconstructed) (unlocked : Bool) :
    { state with unlocked := unlocked }.Reconstructed :=
  ⟨before.count, before.changes⟩

/-- **A render keeps the count reconstructed, however often it polls.** -/
theorem trackAndAwaitConnection {wait : Bool} {polls : List Poll}
    {result : Except Publishing.FlowError Unit} (before : state.Reconstructed)
    (returned : state.trackAndAwaitConnection wait polls = some (result, next)) :
    next.Reconstructed := by
  induction polls generalizing state with
  | nil => cases returned
  | cons poll polls ih =>
      have unlocked := before.setUnlocked (state.unlocked || poll.unlock)
      simp only [State.trackAndAwaitConnection] at returned
      split_ifs at returned
      · cases returned
        exact unlocked
      · cases returned
        exact unlocked.observe _
      · exact ih (unlocked.observe _) returned

/-- **A start keeps the count reconstructed exactly when it finds it at zero.** -/
theorem start_iff (before : state.Reconstructed) (opened : Bool) :
    (state.start opened).Reconstructed ↔ state.StartsAtZero (.start opened) := by
  cases opened with
  | false => exact iff_of_true before nofun
  | true =>
      constructor
      · intro after _
        have signalled := (forall_store_iff before.changes 0 none).mp after.changes
        exact (signalled_none_iff _ _).mp signalled
      · intro zero
        refine ⟨?_, ?_⟩
        · change (0 : UInt64).toUInt32 = lastCount (state.store 0 none).signals
          rw [signals_store_none, ← before.count, numClients, zero rfl]
        · exact (forall_store_iff before.changes 0 none).mpr
            ((signalled_none_iff _ _).mpr (zero rfl))

/-- **A step keeps the count reconstructed exactly when it is no start at another
count.** -/
theorem step_iff {event : Event} (before : state.Reconstructed)
    (taken : state.step event = some next) :
    next.Reconstructed ↔ state.StartsAtZero event := by
  cases event with
  | start opened =>
      cases taken
      exact before.start_iff opened
  | stop =>
      cases taken
      exact iff_of_true ⟨before.count, before.changes⟩ trivial
  | unlock =>
      cases taken
      exact iff_of_true (before.setUnlocked true) trivial
  | unlockStop =>
      cases taken
      exact iff_of_true (before.setUnlocked false) trivial
  | render wait polls =>
      obtain ⟨⟨result, after⟩, returned, rfl⟩ := Option.map_eq_some_iff.mp taken
      exact iff_of_true (before.trackAndAwaitConnection returned) trivial

end Reconstructed

end State

/-! ## Runs -/

section Runs

open State

variable {finish : State} {events : List Event}

/-- **The signals tell the count in every state of a run, with one for every rise and
every fall, exactly when every start that succeeds finds the count at zero.** -/
theorem signals_tell_count_iff (run : Run step unguarded created events finish) :
    Throughout step created State.Reconstructed events ↔
      Run step StartsAtZero created events finish := by
  apply Run.throughout_iff_guarded State.Reconstructed Reconstructed.created _ run
  intro _ state event next _ before taken
  exact before.step_iff taken

/-- A subscriber comes, and a second one, and one of them goes while a frame waits. -/
def oneSession : List Event :=
  [.start true, .render false [⟨false, 1⟩], .render true [⟨false, 0⟩, ⟨false, 2⟩], .stop]

/-- In one session the signals tell the count. -/
theorem signals_tell_count_iff_oneSession :
    ∃ finish, Run step unguarded created oneSession finish ∧
      finish.signals = [.connected 1, .disconnected 0, .connected 2] ∧
      Throughout step created State.Reconstructed oneSession := by
  have run : Run step unguarded created oneSession _ := execute_eq_some_iff.mp rfl
  refine ⟨_, run, rfl, (signals_tell_count_iff run).mpr ?_⟩
  unfold oneSession
  refine .cons ?_ rfl (.cons ?_ rfl (.cons ?_ rfl (.cons ?_ rfl .nil)))
  · intro _
    rfl
  · trivial
  · trivial
  · trivial

/-- A subscriber is connected when the sink is stopped and started again. -/
def restarted : List Event :=
  [.start true, .render false [⟨false, 1⟩], .stop, .start true]

/-- The second start forgets the subscriber without a signal. -/
theorem restart_forgets_subscriber :
    ∃ finish, Run step unguarded created restarted finish ∧
      finish.numClients = 0 ∧ finish.signals = [.connected 1] ∧
      ¬ Throughout step created State.Reconstructed restarted := by
  have run : Run step unguarded created restarted _ := execute_eq_some_iff.mp rfl
  refine ⟨_, run, rfl, rfl, ?_⟩
  intro throughout
  have told := (throughout restarted _ (List.prefix_refl _) run).count
  exact absurd told (by decide)

end Runs

end GstIceoryx2.Element.Clients
