import GstIceoryx2.Element.LoanWaits

/-!
# A lossless stream

A sample needs a loan, and then room in the ring of the consumer. A publisher has a
limit of loans: the buffers of the pool that are not rendered yet have one each, and a
sample that is being sent keeps its own. A full ring fails no loan; a send waits until
the consumer has made room.

A lossless sink waits for a loan instead of dropping a frame, in the pool when upstream
acquires a buffer and in the copy path, and frames come through whichever it was. The end
of the stream is announced by a sentinel that needs a loan too, and there the sink does
not wait: when the loan fails it logs a warning, and the stream has ended without a
sentinel.

So the consumer can receive the accepted frames and then the sentinel, in every state of a
run, exactly when a loan is free whenever the end of the stream is announced
(`State.canReceiveAll_iff`). Everything else may find no loan, and the sentinel itself may
find the ring full.

The sink has its publisher, the consumer is connected and alone, and nothing is flushed.
Of the transport it is assumed that a sample sent is queued in order, that a loan fails
while the limit is reached, and that there is room for one sample at least. What the
consumer still borrows takes no loan and no room.
-/

set_option autoImplicit false

namespace GstIceoryx2.Element.Lossless

open Foundations LoanWaits

/-- What travels on the ring. -/
inductive Sample (Frame : Type) where
  | frame (frame : Frame)
  | eos
  deriving DecidableEq

/-- The frame of a sample that is not the sentinel. -/
def Sample.frames {Frame : Type} : Sample Frame → List Frame
  | .frame rendered => [rendered]
  | .eos => []

/-- The loans that buffers of the pool have, the frame for which the copy path waits, the
sample whose send waits, what is queued, and what has come of it all. -/
structure State (Frame : Type) where
  maxLoans : Nat
  bufferSize : Nat
  held : Nat
  rendering : Option Frame
  sending : Option (Sample Frame)
  ring : List (Sample Frame)
  received : List (Sample Frame)
  accepted : List Frame
  ended : Bool

/-- A step of upstream, of the sink, of its publisher or of the consumer. -/
inductive Event (Frame : Type) where
  | acquire
  | freeBuffer
  | renderLoaned (frame : Frame)
  | renderCopied (frame : Frame)
  | attempt
  | eos
  | deliver
  | receive

namespace State

variable {Frame : Type}

/-- Nothing sent, with a limit of loans and a ring. -/
def started (maxLoans bufferSize : Nat) : State Frame where
  maxLoans := maxLoans
  bufferSize := bufferSize
  held := 0
  rendering := none
  sending := none
  ring := []
  received := []
  accepted := []
  ended := false

/-- A loan succeeds: fewer are outstanding than the publisher may have. -/
def loanFree (state : State Frame) : Bool :=
  state.held + state.sending.toList.length < state.maxLoans

/-- The ring takes another sample. A size of zero is raised to one. -/
def roomy (state : State Frame) : Bool :=
  state.ring.length < max 1 state.bufferSize

/-- The streaming thread can take the next buffer or event. -/
def ready (state : State Frame) : Bool :=
  state.rendering.isNone && state.sending.isNone && !state.ended

/-- The sentinel is sent if a loan for it succeeds at once. -/
def publishEos (state : State Frame) : Option (State Frame) :=
  if state.loanFree then some { state with sending := some .eos }
  else none

/-- The end of the stream. That the sentinel was not sent is only logged. -/
def event (state : State Frame) : State Frame :=
  { state.publishEos.getD state with ended := true }

/-- The copy path asks for a loan. -/
def attempt (state : State Frame) (frame : Frame) : State Frame :=
  if state.loanFree then
    { state with rendering := none, sending := some (.frame frame) }
  else
    match Routine.render.loanFailed true false with
    | .sleep => state
    | .giveUp _ => { state with rendering := none }

/-- The sample is queued, its loan is gone, and its frame is accepted. -/
def deliver (state : State Frame) (sample : Sample Frame) : State Frame :=
  { state with
    sending := none
    ring := state.ring ++ [sample]
    accepted := state.accepted ++ sample.frames }

/-- Take a step. An acquire that finds no loan holds none, whether it sleeps or not, and
a send waits while the ring is full. -/
def step (state : State Frame) : Event Frame → Option (State Frame)
  | .acquire =>
      if state.loanFree then some { state with held := state.held + 1 }
      else some state
  | .freeBuffer =>
      if 0 < state.held then some { state with held := state.held - 1 }
      else none
  | .renderLoaned frame =>
      if state.ready && 0 < state.held then
        some { state with held := state.held - 1, sending := some (.frame frame) }
      else
        none
  | .renderCopied frame =>
      if state.ready then some { state with rendering := some frame }
      else none
  | .attempt =>
      match state.rendering with
      | some frame => some (state.attempt frame)
      | none => none
  | .eos =>
      if state.ready then some state.event
      else none
  | .deliver =>
      match state.sending with
      | some sample =>
          if state.roomy then some (state.deliver sample)
          else none
      | none => none
  | .receive =>
      match state.ring with
      | sample :: ring =>
          some { state with ring := ring, received := state.received ++ [sample] }
      | [] => none

/-- What the consumer should receive: the accepted frames in order, and then the
sentinel if the stream has ended. -/
def stream (state : State Frame) : List (Sample Frame) :=
  state.accepted.map .frame ++ if state.ended then [.eos] else []

/-- Steps in which the consumer receives, or what is being sent is queued. -/
def Receives (_ : State Frame) (event : Event Frame) : Prop :=
  event = .receive ∨ event = .deliver

/-- The consumer can receive the stream, and nothing is left to send or to receive. -/
def CanReceiveAll (state : State Frame) : Prop :=
  ∃ events finish, Run step Receives state events finish ∧ finish.sending = none ∧
    finish.ring = [] ∧ finish.received = finish.stream

/-! ## What a step can do -/

variable {state next finish : State Frame} {events : List (Event Frame)}

/-- The streaming thread is free, and the stream has not ended. -/
theorem ready_iff :
    state.ready = true ↔
      state.rendering = none ∧ state.sending = none ∧ state.ended = false := by
  simp [ready, and_assoc]

/-- A failed loan leaves the copy path where it is. -/
theorem attempt_of_taken {frame : Frame} (taken : state.loanFree = false) :
    state.attempt frame = state := by
  rw [attempt, taken, if_neg Bool.false_ne_true, Routine.loanFailed_lossless]

theorem attempt_of_loanFree {frame : Frame} (free : state.loanFree = true) :
    state.attempt frame = { state with rendering := none, sending := some (.frame frame) } := by
  rw [attempt, if_pos free]

/-- The steps there are, and where they lead. -/
inductive Stepped (state : State Frame) : Event Frame → State Frame → Prop where
  | acquire : Stepped state .acquire { state with held := state.held + 1 }
  | acquireFails : Stepped state .acquire state
  | freeBuffer : Stepped state .freeBuffer { state with held := state.held - 1 }
  | renderLoaned (frame : Frame) (idle : state.rendering = none) (clear : state.sending = none)
      (live : state.ended = false) :
      Stepped state (.renderLoaned frame)
        { state with held := state.held - 1, sending := some (.frame frame) }
  | renderCopied (frame : Frame) (clear : state.sending = none) (live : state.ended = false) :
      Stepped state (.renderCopied frame) { state with rendering := some frame }
  | copy {frame : Frame} (renders : state.rendering = some frame) :
      Stepped state .attempt { state with rendering := none, sending := some (.frame frame) }
  | copyWaits : Stepped state .attempt state
  | eos (idle : state.rendering = none) (clear : state.sending = none)
      (live : state.ended = false) : Stepped state .eos state.event
  | deliver {sample : Sample Frame} (sends : state.sending = some sample) :
      Stepped state .deliver (state.deliver sample)
  | receive {sample : Sample Frame} {ring : List (Sample Frame)}
      (queued : state.ring = sample :: ring) :
      Stepped state .receive
        { state with ring := ring, received := state.received ++ [sample] }

theorem stepped_of_step {event : Event Frame} (taken : state.step event = some next) :
    Stepped state event next := by
  cases event with
  | acquire =>
      simp only [step] at taken
      split at taken
      · cases taken
        exact .acquire
      · cases taken
        exact .acquireFails
  | freeBuffer =>
      simp only [step] at taken
      split at taken
      · cases taken
        exact .freeBuffer
      · cases taken
  | renderLoaned frame =>
      simp only [step] at taken
      split at taken
      · rename_i takes
        cases taken
        obtain ⟨idle, clear, live⟩ := ready_iff.mp (Bool.and_eq_true_iff.mp takes).1
        exact .renderLoaned frame idle clear live
      · cases taken
  | renderCopied frame =>
      simp only [step] at taken
      split at taken
      · rename_i takes
        cases taken
        obtain ⟨-, clear, live⟩ := ready_iff.mp takes
        exact .renderCopied frame clear live
      · cases taken
  | attempt =>
      simp only [step] at taken
      split at taken
      · rename_i renders
        cases taken
        rcases state.loanFree.eq_false_or_eq_true with free | full
        · rw [attempt_of_loanFree free]
          exact .copy renders
        · rw [attempt_of_taken full]
          exact .copyWaits
      · cases taken
  | eos =>
      simp only [step] at taken
      split at taken
      · rename_i takes
        cases taken
        obtain ⟨idle, clear, live⟩ := ready_iff.mp takes
        exact .eos idle clear live
      · cases taken
  | deliver =>
      simp only [step] at taken
      split at taken
      · rename_i sends
        split at taken
        · cases taken
          exact .deliver sends
        · cases taken
      · cases taken
  | receive =>
      simp only [step] at taken
      split at taken
      · rename_i queued
        cases taken
        exact .receive queued
      · cases taken

/-! ## What the consumer can receive -/

/-- What was sent or is being sent, wherever it is. -/
def sent (state : State Frame) : List (Sample Frame) :=
  state.received ++ state.ring ++ state.sending.toList

/-- The frames that are accepted once what is being sent is queued. -/
def offered (state : State Frame) : List Frame :=
  state.accepted ++ state.sending.toList.flatMap Sample.frames

/-- What is due to be sent. -/
def due (state : State Frame) : List (Sample Frame) :=
  state.offered.map .frame ++ if state.ended then [.eos] else []

theorem sent_deliver {sample : Sample Frame} (sends : state.sending = some sample) :
    (state.deliver sample).sent = state.sent := by
  simp [sent, deliver, sends]

theorem due_deliver {sample : Sample Frame} (sends : state.sending = some sample) :
    (state.deliver sample).due = state.due := by
  have same : (state.deliver sample).offered = state.offered := by
    simp [offered, deliver, sends]
  rw [due, due, same]
  rfl

/-- When nothing is being sent, what is due is the stream. -/
theorem due_of_clear (clear : state.sending = none) : state.due = state.stream := by
  simp [due, offered, stream, clear]

/-- Receiving and queueing move samples, and change no order. -/
theorem conserved_of_receives (run : Run step Receives state events finish) :
    finish.sent = state.sent ∧ finish.due = state.due := by
  refine run.invariant (fun after => after.sent = state.sent ∧ after.due = state.due)
    ⟨rfl, rfl⟩ ?_
  rintro before event after ⟨sent, due⟩ (rfl | rfl) taken
  · cases stepped_of_step taken with
    | receive queued =>
        refine ⟨Eq.trans ?_ sent, due⟩
        simp [State.sent, queued]
  · cases stepped_of_step taken with
    | deliver sends => exact ⟨(sent_deliver sends).trans sent, (due_deliver sends).trans due⟩

/-- The ring can be drained, whatever is being sent. -/
theorem drains (state : State Frame) :
    ∃ events finish, Run step Receives state events finish ∧ finish.ring = [] ∧
      finish.sending = state.sending := by
  generalize waiting : state.ring = samples
  induction samples generalizing state with
  | nil => exact ⟨[], state, .nil, waiting, rfl⟩
  | cons sample samples ih =>
      obtain ⟨events, finish, run, drained, sending⟩ := ih { state with
        ring := samples
        received := state.received ++ [sample] } rfl
      have taken : state.step .receive = some { state with
          ring := samples
          received := state.received ++ [sample] } := by
        simp only [step, waiting]
      exact ⟨.receive :: events, finish, .cons (.inl rfl) taken run, drained, sending⟩

/-- What is being sent goes through once the consumer has drained the ring. -/
theorem settles (state : State Frame) :
    ∃ events finish, Run step Receives state events finish ∧ finish.ring = [] ∧
      finish.sending = none := by
  obtain ⟨events, drained, run, empty, sending⟩ := state.drains
  cases sends : drained.sending with
  | none => exact ⟨events, drained, run, empty, sends⟩
  | some sample =>
      have room : drained.roomy = true := by
        rw [roomy, empty]
        exact decide_eq_true (Nat.lt_of_lt_of_le Nat.zero_lt_one (Nat.le_max_left _ _))
      have taken : drained.step .deliver = some (drained.deliver sample) := by
        simp only [step, sends, room, if_true]
      obtain ⟨more, finish, rest, empty', clear⟩ := (drained.deliver sample).drains
      exact ⟨_, finish, run.append (.cons (.inr rfl) taken rest), empty', clear⟩

/-- **What can be received is what was sent.** -/
theorem canReceiveAll_iff_sent : state.CanReceiveAll ↔ state.sent = state.due := by
  constructor
  · rintro ⟨events, finish, run, clear, drained, received⟩
    obtain ⟨sent, due⟩ := conserved_of_receives run
    rw [← sent, ← due, due_of_clear clear, ← received]
    simp [State.sent, clear, drained]
  · intro settled
    obtain ⟨events, finish, run, drained, clear⟩ := state.settles
    obtain ⟨sent, due⟩ := conserved_of_receives run
    refine ⟨events, finish, run, clear, drained, ?_⟩
    rw [← due_of_clear clear, due, ← settled, ← sent]
    simp [State.sent, clear, drained]

/-! ## What a step sends -/

/-- While the copy path waits nothing is being sent, and the stream has not ended. -/
def Streaming (state : State Frame) : Prop :=
  state.rendering ≠ none → state.sending = none ∧ state.ended = false

/-- A loan is free when the end of the stream is announced. -/
def EosFindsLoan (state : State Frame) (event : Event Frame) : Prop :=
  event = .eos → state.loanFree = true

/-- The end of the stream sends the sentinel if a loan is free, and makes it due in any
case. -/
theorem event_eq (clear : state.sending = none) (live : state.ended = false) :
    state.event.sent = state.sent ++ (if state.loanFree then [.eos] else []) ∧
      state.event.due = state.due ++ [.eos] ∧ state.event.rendering = state.rendering := by
  unfold event publishEos
  split
  · simp [sent, due, offered, Sample.frames, clear, live]
  · simp [sent, due, offered, clear, live]

/-- A step that sends what is due to be sent, or nothing when nothing is. -/
theorem settled {event : Event Frame} (other : event ≠ .eos) (more : List (Sample Frame))
    (moved : next.sent = state.sent ++ more) (owed : next.due = state.due ++ more) :
    ∃ sent due, next.sent = state.sent ++ sent ∧ next.due = state.due ++ due ∧
      (sent = due ↔ state.EosFindsLoan event) :=
  ⟨more, more, moved, owed, iff_of_true rfl fun same => absurd same other⟩

/-- **A step sends what it makes due, unless it announces the end of the stream and finds
no loan.** -/
theorem step_sends {event : Event Frame} (streaming : state.Streaming)
    (taken : Stepped state event next) :
    ∃ sent due, next.sent = state.sent ++ sent ∧ next.due = state.due ++ due ∧
      (sent = due ↔ state.EosFindsLoan event) := by
  cases taken with
  | renderLoaned frame idle clear live =>
      refine settled nofun [.frame frame] ?_ ?_
      · simp [sent, clear]
      · simp [due, offered, Sample.frames, clear, live]
  | @copy frame renders =>
      obtain ⟨clear, live⟩ := streaming (by rw [renders]; exact nofun)
      refine settled nofun [.frame frame] ?_ ?_
      · simp [sent, clear]
      · simp [due, offered, Sample.frames, clear, live]
  | eos idle clear live =>
      obtain ⟨moved, owed, -⟩ := event_eq clear live
      refine ⟨_, _, moved, owed, ?_⟩
      rcases state.loanFree.eq_false_or_eq_true with free | full
      · simp [EosFindsLoan, free]
      · simp [EosFindsLoan, full]
  | deliver sends =>
      refine settled nofun [] ?_ ?_
      · rw [sent_deliver sends, List.append_nil]
      · rw [due_deliver sends, List.append_nil]
  | receive queued =>
      refine settled nofun [] ?_ (List.append_nil _).symm
      simp [sent, queued]
  | _ => exact settled nofun [] (List.append_nil _).symm (List.append_nil _).symm

theorem Streaming.stepped {event : Event Frame} (streaming : state.Streaming)
    (taken : Stepped state event next) : next.Streaming := by
  cases taken with
  | renderLoaned frame idle clear live => exact fun again => absurd idle again
  | renderCopied frame clear live => exact fun _ => ⟨clear, live⟩
  | copy renders => exact fun again => absurd rfl again
  | eos idle clear live => exact fun again => absurd ((event_eq clear live).2.2.trans idle) again
  | deliver sends => exact fun renders => ⟨rfl, (streaming renders).2⟩
  | _ => exact streaming

theorem streaming_of_run {guard : State Frame → Event Frame → Prop} {maxLoans bufferSize : Nat}
    (run : Run step guard (started maxLoans bufferSize) events state) : state.Streaming := by
  refine run.invariant Streaming (fun renders => absurd rfl renders) ?_
  intro before event after streaming _ taken
  exact streaming.stepped (stepped_of_step taken)

/-! ## Whole runs -/

/-- **The consumer can receive the accepted frames and the sentinel throughout a run
exactly when a loan is free in that run when the end of the stream is announced.** -/
theorem canReceiveAll_iff {maxLoans bufferSize : Nat}
    (run : Run step unguarded (started maxLoans bufferSize) events state) :
    Throughout step (started maxLoans bufferSize) CanReceiveAll events ↔
      Run step EosFindsLoan (started maxLoans bufferSize) events state := by
  refine run.throughout_iff_guarded CanReceiveAll ?_ ?_
  · exact canReceiveAll_iff_sent.mpr rfl
  · intro events before event after earlier complete taken
    obtain ⟨sent, due, moved, owed, settled⟩ :=
      step_sends (streaming_of_run earlier) (stepped_of_step taken)
    rw [← settled, canReceiveAll_iff_sent, moved, owed, canReceiveAll_iff_sent.mp complete,
      List.append_cancel_left_eq]

/-- A frame is copied into a ring for one, and the end of the stream is announced. -/
def fullRing : List (Event Unit) :=
  [.renderCopied (), .attempt, .deliver, .eos]

/-- The sentinel waits for the frame before it to be received, and is not dropped. -/
theorem canReceiveAll_iff_fullRing :
    Throughout step (started 2 1) CanReceiveAll fullRing := by
  have run : Run step unguarded (started 2 1) fullRing _ := execute_eq_some_iff.mp rfl
  have other : ∀ {state : State Unit} {event : Event Unit}, event ≠ .eos →
      state.EosFindsLoan event := fun differs same => absurd same differs
  refine (canReceiveAll_iff run).mpr ?_
  exact .cons (other nofun) rfl (.cons (other nofun) rfl (.cons (other nofun) rfl
    (.cons (fun _ => rfl) rfl .nil)))

/-- **The sentinel is dropped when buffers of the pool hold all loans, and it does not come
when they are freed.** Two loans is what a publisher has unless it is told otherwise. -/
theorem sentinel_dropped :
    ∃ state, Run step unguarded (started 2 1 : State Unit)
        [.renderCopied (), .attempt, .deliver, .acquire, .acquire, .eos, .receive, .freeBuffer,
          .freeBuffer] state ∧
      state.loanFree = true ∧ state.ended = true ∧ state.ring = [] ∧
      state.received = [.frame ()] ∧ ¬ state.CanReceiveAll := by
  refine ⟨_, execute_eq_some_iff.mp rfl, rfl, rfl, rfl, rfl, ?_⟩
  intro complete
  cases canReceiveAll_iff_sent.mp complete

end State

end GstIceoryx2.Element.Lossless
