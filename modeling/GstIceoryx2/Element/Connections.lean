import GstIceoryx2.Element.Clients

/-!
# Waiting for a connection

With `wait-for-connection` a render polls the subscribers of its service until it counts
one, and sends its frame after that. Subscribers come and go in between, and the element
is stopped, started and flushed, so the one that was counted may be gone when the frame is
sent.

A loop of polls is taken apart into its turns (`trackAndAwaitConnection_eq_turns`), and the
turns, the sends and the subscribers are interleaved in every order. A frame that was waited
for is sent to nobody only when the last subscriber left between its poll and its send
(`lost_only_after_leave`). The first subscriber of the service gets every frame that is
rendered, as long as it stays and every render waits (`first_misses_nothing`).

The end of a stream does not wait. Its sentinel goes to whoever is connected when it comes,
which may be nobody.
-/

set_option autoImplicit false

namespace GstIceoryx2.Element.Connections

open Foundations Clients

/-! ## One turn of the loop -/

/-- One turn of `track_and_await_connection`: how it returns, when it does. -/
def turn (wait : Bool) (sink : Clients.State) (subscribers : UInt64) :
    Option (Except Publishing.FlowError Unit) × Clients.State :=
  if sink.unlocked then
    (some (.error .flushing), sink)
  else
    let now := sink.pollClients subscribers
    if 1 ≤ now || !wait then
      (some (.ok ()), sink.observe now)
    else
      (none, sink.observe now)

/-- Turns one after another, until one returns. -/
def turns (wait : Bool) (sink : Clients.State) :
    List Poll → Option (Except Publishing.FlowError Unit × Clients.State)
  | [] => none
  | poll :: polls =>
      match turn wait { sink with unlocked := sink.unlocked || poll.unlock } poll.subscribers with
      | (some result, next) => some (result, next)
      | (none, next) => turns wait next polls

/-- **The loop is its turns.** -/
theorem trackAndAwaitConnection_eq_turns (wait : Bool) (sink : Clients.State)
    (polls : List Poll) : sink.trackAndAwaitConnection wait polls = turns wait sink polls := by
  induction polls generalizing sink with
  | nil => rfl
  | cons poll polls ih =>
      simp only [State.trackAndAwaitConnection, turns, turn]
      split_ifs
      · rfl
      · rfl
      · exact ih _

/-- A turn that counts nobody does not return from a wait. -/
theorem pos_of_turn {sink next : Clients.State} {subscribers : UInt64}
    (returned : turn true sink subscribers = (some (.ok ()), next)) : subscribers ≠ 0 := by
  rintro rfl
  have none : sink.pollClients 0 = 0 := by
    rw [State.pollClients, ite_self]
  rw [turn, none] at returned
  split_ifs at returned with unlocked
  · cases returned
  · cases returned

/-! ## The sink and the subscribers -/

/-- What a render is at: nothing, the loop of its wait, or past it with its frame still to be
sent. Whether the service was left by its last subscriber since then is recorded. -/
inductive Phase (Frame : Type) where
  | idle
  | waiting (frame : Frame) (wait : Bool)
  | cleared (frame : Frame) (waited emptied : Bool)

/-- A frame that was sent, and the subscribers it was sent to. -/
structure Sent (Subscriber Frame : Type) where
  frame : Frame
  waited : Bool
  emptied : Bool
  receivers : List Subscriber

/-- The sink with its render, the subscribers of its service, the frames that were sent, and
the subscribers that each sentinel was sent to. -/
structure State (Subscriber Frame : Type) where
  sink : Clients.State
  phase : Phase Frame
  connected : List Subscriber
  first : Option Subscriber
  sent : List (Sent Subscriber Frame)
  sentinels : List (List Subscriber)

/-- What can happen. A render reads `wait-for-connection` when it begins, polls turn by turn,
and sends its frame or fails. An end of stream `publishes` its sentinel at once, unless there
is no publisher yet or its loan or its send fails. -/
inductive Event (Subscriber Frame : Type) where
  | start (opened : Bool)
  | stop
  | unlock
  | unlockStop
  | render (frame : Frame) (wait : Bool)
  | poll
  | send
  | fail
  | eos (publishes : Bool)
  | connect (who : Subscriber)
  | disconnect (who : Subscriber)

variable {Subscriber Frame : Type} [DecidableEq Subscriber]

/-- The phase when a subscriber has left. -/
def Phase.afterLeave (phase : Phase Frame) (rest : List Subscriber) : Phase Frame :=
  match phase with
  | idle => idle
  | waiting frame wait => waiting frame wait
  | cleared frame waited emptied => cleared frame waited (emptied || rest.isEmpty)

omit [DecidableEq Subscriber] in
theorem Phase.waiting_of_afterLeave {phase : Phase Frame} {rest : List Subscriber} {frame : Frame}
    {wait : Bool} (after : phase.afterLeave rest = .waiting frame wait) :
    phase = .waiting frame wait := by
  cases phase with
  | idle => cases after
  | waiting _ _ => exact after
  | cleared _ _ _ => cases after

omit [DecidableEq Subscriber] in
theorem Phase.cleared_of_afterLeave {phase : Phase Frame} {rest : List Subscriber} {frame : Frame}
    {waited emptied : Bool} (after : phase.afterLeave rest = .cleared frame waited emptied) :
    ∃ before, phase = .cleared frame waited before ∧ emptied = (before || rest.isEmpty) := by
  cases phase with
  | idle => cases after
  | waiting _ _ => cases after
  | cleared _ _ before =>
      cases after
      exact ⟨before, rfl, rfl⟩

namespace State

/-- Nothing is started, and nobody is connected. -/
def created : State Subscriber Frame where
  sink := .created
  phase := .idle
  connected := []
  first := none
  sent := []
  sentinels := []

/-- The poll of the render that waits. -/
def poll (state : State Subscriber Frame) (frame : Frame) (wait : Bool) :
    State Subscriber Frame :=
  match turn wait state.sink (UInt64.ofNat state.connected.length) with
  | (none, next) => { state with sink := next }
  | (some (.ok ()), next) => { state with sink := next, phase := .cleared frame wait false }
  | (some (.error _), next) => { state with sink := next, phase := .idle }

/-- Something happens. -/
def step (state : State Subscriber Frame) :
    Event Subscriber Frame → Option (State Subscriber Frame)
  | .start opened => some { state with sink := state.sink.start opened }
  | .stop => some { state with sink := { state.sink with started := false } }
  | .unlock => some { state with sink := { state.sink with unlocked := true } }
  | .unlockStop => some { state with sink := { state.sink with unlocked := false } }
  | .render frame wait =>
      match state.phase with
      | .idle => some { state with phase := .waiting frame wait }
      | _ => none
  | .poll =>
      match state.phase with
      | .waiting frame wait => some (state.poll frame wait)
      | _ => none
  | .send =>
      match state.phase with
      | .cleared frame waited emptied => some { state with
          phase := .idle
          sent := state.sent ++ [⟨frame, waited, emptied, state.connected⟩] }
      | _ => none
  | .fail =>
      match state.phase with
      | .cleared .. => some { state with phase := .idle }
      | _ => none
  | .eos publishes =>
      match state.phase with
      | .idle =>
          if publishes && state.sink.started then
            some { state with sentinels := state.sentinels ++ [state.connected] }
          else
            some state
      | _ => none
  | .connect who =>
      if who ∈ state.connected then none
      else some { state with
        connected := state.connected ++ [who]
        first := state.first <|> some who }
  | .disconnect who =>
      if who ∈ state.connected then
        let rest := state.connected.filter (· ≠ who)
        some { state with connected := rest, phase := state.phase.afterLeave rest }
      else none

/-- The frames that a subscriber was sent. -/
def received (state : State Subscriber Frame) (who : Subscriber) : List Frame :=
  (state.sent.filter (who ∈ ·.receivers)).map (·.frame)

/-- A sent frame without receivers was not waited for, or the last subscriber left in
between. A frame that is still to be sent will be no exception. -/
structure Excused (state : State Subscriber Frame) : Prop where
  sent : ∀ sent ∈ state.sent, sent.receivers = [] → sent.waited = false ∨ sent.emptied = true
  cleared : ∀ frame waited emptied, state.phase = .cleared frame waited emptied →
    state.connected = [] → waited = false ∨ emptied = true

/-- Every render waits, and the first subscriber stays. -/
def FirstStays (state : State Subscriber Frame) : Event Subscriber Frame → Prop
  | .render _ wait => wait = true
  | .disconnect who => state.first ≠ some who
  | _ => True

instance (state : State Subscriber Frame) (event : Event Subscriber Frame) :
    Decidable (state.FirstStays event) := by
  cases event <;> unfold FirstStays <;> infer_instance

/-! ## What a step does -/

variable {state next : State Subscriber Frame}

omit [DecidableEq Subscriber] in
/-- **A poll goes on, gives up, or is past the loop, and then somebody was counted if the
render waits.** -/
theorem poll_spec (state : State Subscriber Frame) {frame : Frame} {wait : Bool}
    (waiting : state.phase = .waiting frame wait) :
    ∃ sink phase, state.poll frame wait = { state with sink := sink, phase := phase } ∧
      (phase = .waiting frame wait ∨ phase = .idle ∨
        phase = .cleared frame wait false ∧ (wait = true → state.connected ≠ [])) := by
  unfold poll
  split
  · rename_i sink _
    exact ⟨sink, state.phase, rfl, .inl waiting⟩
  · rename_i sink returned
    refine ⟨sink, _, rfl, .inr (.inr ⟨rfl, ?_⟩)⟩
    rintro rfl nobody
    rw [nobody] at returned
    exact pos_of_turn returned rfl
  · rename_i sink _
    exact ⟨sink, _, rfl, .inr (.inl rfl)⟩

/-- What a step can do. -/
inductive Stepped (state : State Subscriber Frame) :
    Event Subscriber Frame → State Subscriber Frame → Prop where
  | sink {event : Event Subscriber Frame} (sink : Clients.State) :
      Stepped state event { state with sink := sink }
  | render (frame : Frame) (wait : Bool) :
      Stepped state (.render frame wait) { state with phase := .waiting frame wait }
  | polled {frame : Frame} {wait : Bool} (waiting : state.phase = .waiting frame wait)
      (sink : Clients.State) {phase : Phase Frame}
      (phases : phase = .waiting frame wait ∨ phase = .idle ∨
        phase = .cleared frame wait false ∧ (wait = true → state.connected ≠ [])) :
      Stepped state .poll { state with sink := sink, phase := phase }
  | send {frame : Frame} {waited emptied : Bool}
      (cleared : state.phase = .cleared frame waited emptied) :
      Stepped state .send { state with
        phase := .idle
        sent := state.sent ++ [⟨frame, waited, emptied, state.connected⟩] }
  | fail : Stepped state .fail { state with phase := .idle }
  | eos (publishes : Bool) (sentinels : List (List Subscriber)) :
      Stepped state (.eos publishes) { state with sentinels := sentinels }
  | connect (who : Subscriber) :
      Stepped state (.connect who) { state with
        connected := state.connected ++ [who]
        first := state.first <|> some who }
  | disconnect {who : Subscriber} (connected : who ∈ state.connected) :
      Stepped state (.disconnect who) { state with
        connected := state.connected.filter (· ≠ who)
        phase := state.phase.afterLeave (state.connected.filter (· ≠ who)) }

theorem stepped_of_step {event : Event Subscriber Frame} (taken : state.step event = some next) :
    Stepped state event next := by
  cases event with
  | start opened =>
      cases taken
      exact .sink _
  | stop =>
      cases taken
      exact .sink _
  | unlock =>
      cases taken
      exact .sink _
  | unlockStop =>
      cases taken
      exact .sink _
  | render frame wait =>
      simp only [State.step] at taken
      split at taken
      · cases taken
        exact .render frame wait
      · cases taken
  | poll =>
      simp only [State.step] at taken
      split at taken
      · rename_i frame wait waiting
        cases taken
        obtain ⟨sink, phase, polled, phases⟩ := state.poll_spec waiting
        rw [polled]
        exact .polled waiting sink phases
      · cases taken
  | send =>
      simp only [State.step] at taken
      split at taken
      · rename_i cleared
        cases taken
        exact .send cleared
      · cases taken
  | fail =>
      simp only [State.step] at taken
      split at taken
      · cases taken
        exact .fail
      · cases taken
  | eos publishes =>
      simp only [State.step] at taken
      split at taken
      · split at taken
        · cases taken
          exact .eos publishes _
        · cases taken
          exact .eos publishes state.sentinels
      · cases taken
  | connect who =>
      simp only [State.step] at taken
      split_ifs at taken
      cases taken
      exact .connect who
  | disconnect who =>
      simp only [State.step] at taken
      split_ifs at taken with connected
      cases taken
      exact .disconnect connected

omit [DecidableEq Subscriber] in
theorem Excused.created : (State.created : State Subscriber Frame).Excused where
  sent := nofun
  cleared := nofun

omit [DecidableEq Subscriber] in
/-- The sink and its phase change, and a frame that is past the loop is excused. -/
theorem Excused.setPhase (before : state.Excused) (sink : Clients.State) {phase : Phase Frame}
    (cleared : ∀ frame waited emptied, phase = .cleared frame waited emptied →
      state.connected = [] → waited = false ∨ emptied = true) :
    { state with sink := sink, phase := phase }.Excused :=
  ⟨before.sent, cleared⟩

theorem Excused.step (before : state.Excused) {event : Event Subscriber Frame}
    (taken : state.step event = some next) : next.Excused := by
  cases stepped_of_step taken with
  | sink sink => exact before.setPhase sink before.cleared
  | render frame wait => exact before.setPhase _ nofun
  | polled waiting sink phases =>
      refine before.setPhase sink ?_
      rintro frame waited emptied rfl nobody
      rcases phases with on | idle | ⟨past, counted⟩
      · cases on
      · cases idle
      · cases past
        exact .inl (Bool.eq_false_iff.mpr fun waits => counted waits nobody)
  | @send frame waited emptied cleared =>
      refine ⟨fun sent member nobody => ?_, nofun⟩
      rcases List.mem_append.mp member with earlier | new
      · exact before.sent sent earlier nobody
      · rw [List.mem_singleton.mp new] at nobody ⊢
        exact before.cleared frame waited emptied cleared nobody
  | fail => exact before.setPhase _ nofun
  | eos publishes sentinels => exact ⟨before.sent, before.cleared⟩
  | connect who => exact ⟨before.sent, fun _ _ _ _ nobody => absurd nobody (by simp)⟩
  | @disconnect who connected =>
      refine ⟨before.sent, fun frame waited emptied cleared nobody => .inr ?_⟩
      obtain ⟨earlier, -, rfl⟩ := Phase.cleared_of_afterLeave cleared
      have empty : (state.connected.filter (· ≠ who)).isEmpty = true :=
        List.isEmpty_iff.mpr nobody
      rw [empty, Bool.or_true]

/-- **A frame that was waited for is sent to nobody only when the last subscriber left after
its poll.** In every order of turns, sends, failures, stops, starts and flushes, and of
subscribers that come and go. -/
theorem lost_only_after_leave {events : List (Event Subscriber Frame)}
    {finish : State Subscriber Frame} (run : Run step unguarded created events finish) :
    ∀ sent ∈ finish.sent, sent.receivers = [] → sent.waited = false ∨ sent.emptied = true := by
  have excused : finish.Excused := by
    apply run.invariant Excused Excused.created
    intro state event next before _ taken
    exact before.step taken
  exact excused.sent

/-- The only subscriber leaves between the poll and the send. -/
def leftInBetween : List (Event Nat Nat) :=
  [.start true, .connect 0, .render 7 true, .poll, .disconnect 0, .send]

theorem lost_only_after_leave_leftInBetween :
    ∃ finish : State Nat Nat, Run step unguarded created leftInBetween finish ∧
      ∃ sent ∈ finish.sent, sent.receivers = [] ∧ sent.waited = true ∧ sent.emptied = true := by
  have run : Run step unguarded (created : State Nat Nat) leftInBetween _ :=
    execute_eq_some_iff.mp rfl
  refine ⟨_, run, _, List.mem_singleton_self _, rfl, rfl, ?_⟩
  exact (lost_only_after_leave run _ (List.mem_singleton_self _) rfl).resolve_left nofun

/-! ## The first subscriber -/

/-- The first subscriber is connected and was sent everything, and without one nothing was
sent nor will be before one comes. -/
structure FirstServed (state : State Subscriber Frame) : Prop where
  sent : ∀ sent ∈ state.sent, ∃ who, state.first = some who ∧ who ∈ sent.receivers
  present : ∀ who, state.first = some who → who ∈ state.connected
  nobody : state.first = none → state.connected = []
  waits : ∀ frame wait, state.phase = .waiting frame wait → wait = true
  cleared : ∀ frame waited emptied, state.phase = .cleared frame waited emptied →
    ∃ who, state.first = some who

omit [DecidableEq Subscriber] in
theorem FirstServed.created : (State.created : State Subscriber Frame).FirstServed where
  sent := nofun
  present := nofun
  nobody := fun _ => rfl
  waits := nofun
  cleared := nofun

omit [DecidableEq Subscriber] in
theorem FirstServed.setPhase (before : state.FirstServed) (sink : Clients.State)
    {phase : Phase Frame} (waits : ∀ frame wait, phase = .waiting frame wait → wait = true)
    (cleared : ∀ frame waited emptied, phase = .cleared frame waited emptied →
      ∃ who, state.first = some who) :
    { state with sink := sink, phase := phase }.FirstServed :=
  ⟨before.sent, before.present, before.nobody, waits, cleared⟩

omit [DecidableEq Subscriber] in
/-- A subscriber comes. When it is the first one, nothing was sent yet. -/
theorem FirstServed.connect (before : state.FirstServed) (who : Subscriber) :
    { state with
      connected := state.connected ++ [who]
      first := state.first <|> some who }.FirstServed := by
  cases first : state.first with
  | none =>
      have nothing : state.sent = [] := by
        refine List.eq_nil_iff_forall_not_mem.mpr fun sent member => ?_
        obtain ⟨_, found, -⟩ := before.sent sent member
        cases found.symm.trans first
      refine ⟨?_, ?_, nofun, before.waits, fun _ _ _ _ => ⟨who, rfl⟩⟩
      · intro sent member
        rw [nothing] at member
        cases member
      · rintro _ ⟨⟩
        exact List.mem_append_right _ (List.mem_singleton_self _)
  | some other =>
      refine ⟨?_, ?_, nofun, before.waits, fun _ _ _ _ => ⟨other, rfl⟩⟩
      · intro sent member
        obtain ⟨found, same, received⟩ := before.sent sent member
        obtain rfl := Option.some.inj (first.symm.trans same)
        exact ⟨other, rfl, received⟩
      · rintro _ ⟨⟩
        exact List.mem_append_left _ (before.present other first)

/-- Another subscriber than the first one leaves. -/
theorem FirstServed.disconnect (before : state.FirstServed) {who : Subscriber}
    (connected : who ∈ state.connected) (stays : state.first ≠ some who) :
    { state with
      connected := state.connected.filter (· ≠ who)
      phase := state.phase.afterLeave (state.connected.filter (· ≠ who)) }.FirstServed := by
  refine ⟨before.sent, ?_, ?_, ?_, ?_⟩
  · intro first found
    refine List.mem_filter.mpr ⟨before.present first found, decide_eq_true ?_⟩
    rintro rfl
    exact stays found
  · intro none
    rw [before.nobody none] at connected
    cases connected
  · intro frame wait waiting
    exact before.waits frame wait (Phase.waiting_of_afterLeave waiting)
  · intro frame waited emptied cleared
    obtain ⟨earlier, same, -⟩ := Phase.cleared_of_afterLeave cleared
    exact before.cleared frame waited earlier same

theorem FirstServed.step (before : state.FirstServed) {event : Event Subscriber Frame}
    (stays : state.FirstStays event) (taken : state.step event = some next) :
    next.FirstServed := by
  cases stepped_of_step taken with
  | sink sink => exact before.setPhase sink before.waits before.cleared
  | render frame wait =>
      refine before.setPhase _ ?_ nofun
      rintro _ _ ⟨⟩
      exact stays
  | @polled frame wait waiting sink phase phases =>
      have waits := before.waits frame wait waiting
      rcases phases with rfl | rfl | ⟨rfl, counted⟩
      · exact before.setPhase sink (waiting ▸ before.waits) nofun
      · exact before.setPhase sink nofun nofun
      · refine before.setPhase sink nofun fun _ _ _ _ => ?_
        exact Option.ne_none_iff_exists'.mp fun none => counted waits (before.nobody none)
  | @send frame waited emptied cleared =>
      refine ⟨fun sent member => ?_, before.present, before.nobody, nofun, nofun⟩
      rcases List.mem_append.mp member with earlier | new
      · exact before.sent sent earlier
      · rw [List.mem_singleton.mp new]
        obtain ⟨who, first⟩ := before.cleared frame waited emptied cleared
        exact ⟨who, first, before.present who first⟩
  | fail => exact before.setPhase _ nofun nofun
  | eos publishes sentinels =>
      exact ⟨before.sent, before.present, before.nobody, before.waits, before.cleared⟩
  | connect who => exact before.connect who
  | disconnect connected => exact before.disconnect connected stays

/-- **The first subscriber misses no frame.** When every render waits and the first subscriber
of the service stays, it is sent every frame that is rendered, in order, whatever the others
do; and no frame is sent before it comes. -/
theorem first_misses_nothing {events : List (Event Subscriber Frame)}
    {finish : State Subscriber Frame} (run : Run step FirstStays created events finish) :
    (∀ who, finish.first = some who → finish.received who = finish.sent.map (·.frame)) ∧
      (finish.first = none → finish.sent = []) := by
  have served : finish.FirstServed := by
    apply run.invariant FirstServed FirstServed.created
    intro state event next before stays taken
    exact before.step stays taken
  constructor
  · intro who first
    have all : finish.sent.filter (who ∈ ·.receivers) = finish.sent := by
      refine List.filter_eq_self.mpr fun sent member => decide_eq_true ?_
      obtain ⟨found, same, received⟩ := served.sent sent member
      obtain rfl := Option.some.inj (first.symm.trans same)
      exact received
    rw [received, all]
  · intro none
    refine List.eq_nil_iff_forall_not_mem.mpr fun sent member => ?_
    obtain ⟨who, found, -⟩ := served.sent sent member
    cases found.symm.trans none

/-- An end of stream goes to nobody, a frame waits for the first subscriber, and another one
comes and goes. -/
def comesAndGoes : List (Event Nat Nat) :=
  [.start true, .eos true, .render 7 true, .poll, .connect 0, .poll, .send, .connect 1,
    .render 8 true, .poll, .disconnect 1, .send]

theorem first_misses_nothing_comesAndGoes :
    ∃ finish : State Nat Nat, Run step FirstStays created comesAndGoes finish ∧
      finish.sentinels = [[]] ∧ finish.received 0 = [7, 8] := by
  have run : Run step FirstStays (created : State Nat Nat) comesAndGoes _ :=
    execute_eq_some_iff.mp rfl
  exact ⟨_, run, rfl, (first_misses_nothing run).1 0 rfl⟩

end State

end GstIceoryx2.Element.Connections
