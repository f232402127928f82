import Mathlib.Logic.Function.Basic
import GstIceoryx2.Foundations.Lanes
import GstIceoryx2.Foundations.Runs

/-!
# The ring and the event

Frames travel on a ring and wake-ups on an event next to it. A publisher sends a
frame and then notifies. A subscriber looks at the ring and, when it is empty,
parks on its listener until a notification or a timeout ends the wait. The two
channels are consumed at different rates: a frame can be taken without its
notification, and one notification can stand for several frames.

Here any number of publishers run their routines and one subscriber answers one
call after another, in any interleaving. The subscriber has a queue for the
connection to each publisher. A queue is first in, first out, and a full one may
evict its oldest frames; which queue a look takes from is not determined, so that
frames of different publishers can overtake each other. A loan, a send, a look and a
wait may fail.

Three things are assumed. Notifying always succeeds. A look is one step, and finds a
frame when any is queued. A notification stays pending until a wait consumes it,
notifications may coalesce while one is pending, and a wait with a notification
pending does not time out.
-/

set_option autoImplicit false

namespace GstIceoryx2.Transport

open Foundations

/-! ## Publishers -/

/-- An operation of a publishing routine. -/
inductive PublishOp (Frame : Type) where
  | loan
  | send (frame : Frame)
  | notify
  deriving DecidableEq

/-- The routines that publish a frame. -/
inductive Routine (Frame : Type) where
  | publishFrame (frame : Frame)
  | renderZeroCopy (frame : Frame)
  | renderCopy (frame : Frame)
  | publishEos (frame : Frame)

/-- What a routine does, in order. The zero-copy path has its loan already. An
element is not stopped while it renders, so the copy path finds its notifier. -/
def Routine.ops {Frame : Type} : Routine Frame → List (PublishOp Frame)
  | publishFrame frame => [.loan, .send frame, .notify]
  | renderZeroCopy frame => [.send frame, .notify]
  | renderCopy frame => [.loan, .send frame, .notify]
  | publishEos frame => [.loan, .send frame, .notify]

/-! ## The subscriber -/

/-- How the ring answers. -/
inductive Answer (Frame : Type) where
  | frame (frame : Frame)
  | empty
  | failed

/-- How a call returns. -/
inductive Reply (Frame : Type) where
  | frame (frame : Frame)
  | noFrame
  | failed
  | flushing
  | taken (frame : Frame)

/-- The code of a call: look at the unlock flag, at the ring, or park on the
listener; the wait says whether it succeeded. `again` starts the call over. -/
inductive Code (Frame : Type) where
  | ret (reply : Reply Frame)
  | again
  | poll (next : Bool → Code Frame)
  | receive (next : Answer Frame → Code Frame)
  | wait (timeout : Option Nat) (next : Bool → Code Frame)

/-- One code comes right after another when a call goes on. -/
inductive Code.Follows {Frame : Type} : Code Frame → Code Frame → Prop where
  | polled (next : Bool → Code Frame) (unlocked : Bool) : Follows (.poll next) (next unlocked)
  | answered (next : Answer Frame → Code Frame) (answer : Answer Frame) :
      Follows (.receive next) (next answer)
  | waited (timeout : Option Nat) (next : Bool → Code Frame) (succeeded : Bool) :
      Follows (.wait timeout next) (next succeeded)

section Calls

variable {Frame : Type}

/-- `VideoFrameSubscriber::receive`: the next queued frame, if any. -/
def receive : Code Frame :=
  .receive fun
    | .frame frame => .ret (.frame frame)
    | .empty => .ret .noFrame
    | .failed => .ret .failed

/-- `VideoFrameSubscriber::receive_blocking`: a queued frame, or else what is
there after one wait. -/
def receiveBlocking (blockMs : Option Nat) : Code Frame :=
  .receive fun
    | .frame frame => .ret (.frame frame)
    | .failed => .ret .failed
    | .empty => .wait blockMs fun succeeded => if succeeded then receive else .ret .failed

/-- The Python `receive_blocking`, where a failure is an exception. -/
def pyReceiveBlocking (blockMs : Option Nat) : Code Frame :=
  .receive fun
    | .frame frame => .ret (.frame frame)
    | .failed => .ret .failed
    | .empty => .wait blockMs fun
        | false => .ret .failed
        | true => .receive fun
            | .frame frame => .ret (.frame frame)
            | .empty => .ret .noFrame
            | .failed => .ret .failed

/-- How long the source waits before it looks at the unlock flag again. -/
def waitTimeout : Nat := 100

/-- The loop of the source: take frames until `create` returns for one. A frame
it does not return for is dropped, and a failed wait is ignored. -/
def create (returns : Frame → Bool) : Code Frame :=
  .poll fun unlocked =>
    if unlocked then .ret .flushing
    else
      .receive fun
        | .frame frame => if returns frame then .ret (.taken frame) else .again
        | .empty => .wait (some waitTimeout) fun _ => .again
        | .failed => .ret .failed

end Calls

/-- What a subscriber is asked. -/
inductive Request (Frame : Type) where
  | receive
  | receiveBlocking (blockMs : Option Nat)
  | pyReceiveBlocking (blockMs : Option Nat)
  | create (returns : Frame → Bool)

/-- The code that answers a request. -/
def Request.code {Frame : Type} : Request Frame → Code Frame
  | receive => Transport.receive
  | receiveBlocking blockMs => Transport.receiveBlocking blockMs
  | pyReceiveBlocking blockMs => Transport.pyReceiveBlocking blockMs
  | create returns => Transport.create returns

/-- How the last wait of a call ended. -/
inductive Ended where
  | notWaited
  | woken
  | timedOut
  | failed
  deriving DecidableEq

/-- A call in progress. `quiet` records that the ring has been empty ever since
the call parked. -/
structure Call (Frame : Type) where
  request : Request Frame
  code : Code Frame
  parked : Bool
  ended : Ended
  quiet : Bool

/-- A call that returned. -/
structure Return (Frame : Type) where
  request : Request Frame
  reply : Reply Frame
  ended : Ended
  quiet : Bool

/-! ## The system -/

/-- The queued frames in the order of sending, each with the publisher whose
connection it is queued on, the pending notifications, what every publisher has still
to do, the call in progress and the calls that returned. -/
structure State (Publisher Frame : Type) where
  ring : List (Publisher × Frame)
  pending : Nat
  publishers : Publisher → List (PublishOp Frame)
  call : Option (Call Frame)
  returns : List (Return Frame)

/-- A step of a publisher. -/
inductive PublisherAct (Frame : Type) where
  | start (routine : Routine Frame)
  | loan
  | send (evicted : Nat)
  | notify (coalesced : Bool)
  | fail

/-- A step of the subscriber. A look finds nothing, or takes from a connection. -/
inductive SubscriberAct (Publisher Frame : Type) where
  | call (request : Request Frame)
  | poll (unlocked : Bool)
  | receive (connection : Option Publisher)
  | receiveFails
  | park
  | wake
  | timeout
  | waitFails

/-- A step of the system. -/
inductive Event (Publisher Frame : Type) where
  | publisher (publisher : Publisher) (act : PublisherAct Frame)
  | subscriber (act : SubscriberAct Publisher Frame)

namespace State

variable {Publisher Frame : Type}

/-- Nothing sent, nothing asked. -/
def started : State Publisher Frame where
  ring := []
  pending := 0
  publishers := fun _ => []
  call := none
  returns := []

/-- A publisher goes on with what it has still to do. -/
def proceed [DecidableEq Publisher] (state : State Publisher Frame) (publisher : Publisher)
    (ops : List (PublishOp Frame)) : State Publisher Frame :=
  { state with publishers := Function.update state.publishers publisher ops }

/-- A frame is queued on the connection to its publisher, and the oldest ones there may
be evicted. -/
def enqueue [DecidableEq Publisher] (state : State Publisher Frame) (publisher : Publisher)
    (frame : Frame) (evicted : Nat) : State Publisher Frame :=
  { state with
    ring := popMany publisher evicted (state.ring ++ [(publisher, frame)])
    call := state.call.map fun call => { call with quiet := false } }

/-- A publisher takes a step. Notifying always succeeds. -/
def publisherStep [DecidableEq Publisher] (state : State Publisher Frame) (publisher : Publisher) :
    PublisherAct Frame → Option (State Publisher Frame)
  | .start routine =>
      match state.publishers publisher with
      | [] => some (state.proceed publisher routine.ops)
      | _ => none
  | .loan =>
      match state.publishers publisher with
      | .loan :: ops => some (state.proceed publisher ops)
      | _ => none
  | .send evicted =>
      match state.publishers publisher with
      | .send frame :: ops =>
          if evicted ≤ (lane publisher state.ring).length then
            some ((state.enqueue publisher frame evicted).proceed publisher ops)
          else
            none
      | _ => none
  | .notify coalesced =>
      match state.publishers publisher with
      | .notify :: ops =>
          if coalesced then
            if 0 < state.pending then some (state.proceed publisher ops) else none
          else
            some { state.proceed publisher ops with pending := state.pending + 1 }
      | _ => none
  | .fail =>
      match state.publishers publisher with
      | .loan :: _ => some (state.proceed publisher [])
      | .send _ :: _ => some (state.proceed publisher [])
      | _ => none

/-- A call goes on with the given code: it returns, starts over, or stands there. -/
def resume (state : State Publisher Frame) (call : Call Frame) :
    Code Frame → State Publisher Frame
  | .ret reply =>
      { state with
        call := none
        returns := state.returns ++ [⟨call.request, reply, call.ended, call.quiet⟩] }
  | .again => { state with call := some { call with code := call.request.code } }
  | code => { state with call := some { call with code := code } }

/-- The subscriber takes a step. -/
def subscriberStep [DecidableEq Publisher] (state : State Publisher Frame) :
    SubscriberAct Publisher Frame → Option (State Publisher Frame)
  | .call request =>
      match state.call with
      | none => some { state with call := some ⟨request, request.code, false, .notWaited, false⟩ }
      | some _ => none
  | .poll unlocked =>
      match state.call with
      | some call =>
          match call.code with
          | .poll next => some (state.resume call (next unlocked))
          | _ => none
      | none => none
  | .receive none =>
      match state.call with
      | some call =>
          match call.code, state.ring with
          | .receive next, [] => some (state.resume call (next .empty))
          | _, _ => none
      | none => none
  | .receive (some publisher) =>
      match state.call with
      | some call =>
          match call.code, lane publisher state.ring with
          | .receive next, frame :: _ =>
              some (({ state with ring := pop publisher state.ring } :
                State Publisher Frame).resume call (next (.frame frame)))
          | _, _ => none
      | none => none
  | .receiveFails =>
      match state.call with
      | some call =>
          match call.code with
          | .receive next => some (state.resume call (next .failed))
          | _ => none
      | none => none
  | .park =>
      match state.call with
      | some call =>
          match call.code, call.parked with
          | .wait _ _, false =>
              some { state with
                call := some { call with parked := true, quiet := state.ring.isEmpty } }
          | _, _ => none
      | none => none
  | .wake =>
      match state.call with
      | some call =>
          match call.code, call.parked with
          | .wait _ next, true =>
              if 0 < state.pending then
                some (({ state with pending := state.pending - 1 } : State Publisher Frame).resume
                  { call with parked := false, ended := .woken } (next true))
              else
                none
          | _, _ => none
      | none => none
  | .timeout =>
      match state.call with
      | some call =>
          match call.code, call.parked with
          | .wait (some _) next, true =>
              if state.pending = 0 then
                some (state.resume { call with parked := false, ended := .timedOut } (next true))
              else
                none
          | _, _ => none
      | none => none
  | .waitFails =>
      match state.call with
      | some call =>
          match call.code, call.parked with
          | .wait _ next, true =>
              some (state.resume { call with parked := false, ended := .failed } (next false))
          | _, _ => none
      | none => none

/-- The system takes a step. -/
def step [DecidableEq Publisher] (state : State Publisher Frame) :
    Event Publisher Frame → Option (State Publisher Frame)
  | .publisher publisher act => state.publisherStep publisher act
  | .subscriber act => state.subscriberStep act

/-! ## Going on -/

section Resume

variable {state : State Publisher Frame} {call : Call Frame} {code : Code Frame}

@[simp] theorem ring_resume : (state.resume call code).ring = state.ring := by
  cases code <;> rfl

@[simp] theorem pending_resume : (state.resume call code).pending = state.pending := by
  cases code <;> rfl

@[simp] theorem publishers_resume : (state.resume call code).publishers = state.publishers := by
  cases code <;> rfl

/-- A call that goes on starts over, or stands at the code it was given. -/
theorem call_resume {after : Call Frame} (current : (state.resume call code).call = some after) :
    code = .again ∧ after = { call with code := call.request.code } ∨
      (∀ reply, code ≠ .ret reply) ∧ after = { call with code := code } := by
  cases code with
  | ret reply => cases current
  | again =>
      cases current
      exact .inl ⟨rfl, rfl⟩
  | poll go =>
      cases current
      exact .inr ⟨by simp, rfl⟩
  | receive go =>
      cases current
      exact .inr ⟨by simp, rfl⟩
  | wait timeout go =>
      cases current
      exact .inr ⟨by simp, rfl⟩

/-- A call is recorded when it returns. -/
theorem mem_returns_resume {result : Return Frame}
    (returned : result ∈ (state.resume call code).returns) :
    result ∈ state.returns ∨
      ∃ reply, code = .ret reply ∧ result = ⟨call.request, reply, call.ended, call.quiet⟩ := by
  cases code with
  | ret reply =>
      rcases List.mem_append.mp returned with earlier | last
      · exact .inl earlier
      · exact .inr ⟨reply, rfl, List.mem_singleton.mp last⟩
  | again => exact .inl returned
  | poll go => exact .inl returned
  | receive go => exact .inl returned
  | wait timeout go => exact .inl returned

end Resume

/-! ## What a step can do -/

section Inversion

variable {state next : State Publisher Frame}

/-- The steps a publisher can take, and where they lead. -/
inductive PublisherStepped [DecidableEq Publisher] (state : State Publisher Frame)
    (publisher : Publisher) : State Publisher Frame → Prop where
  | start (routine : Routine Frame) (idle : state.publishers publisher = []) :
      PublisherStepped state publisher (state.proceed publisher routine.ops)
  | loan {ops : List (PublishOp Frame)} (due : state.publishers publisher = .loan :: ops) :
      PublisherStepped state publisher (state.proceed publisher ops)
  | send {frame : Frame} {ops : List (PublishOp Frame)} {evicted : Nat}
      (due : state.publishers publisher = .send frame :: ops)
      (older : evicted ≤ (lane publisher state.ring).length) :
      PublisherStepped state publisher
        ((state.enqueue publisher frame evicted).proceed publisher ops)
  | notify {ops : List (PublishOp Frame)} (due : state.publishers publisher = .notify :: ops) :
      PublisherStepped state publisher
        { state.proceed publisher ops with pending := state.pending + 1 }
  | coalesce {ops : List (PublishOp Frame)} (due : state.publishers publisher = .notify :: ops)
      (pending : 0 < state.pending) :
      PublisherStepped state publisher (state.proceed publisher ops)
  | fail {op : PublishOp Frame} {ops : List (PublishOp Frame)}
      (due : state.publishers publisher = op :: ops) (fallible : op ≠ .notify) :
      PublisherStepped state publisher (state.proceed publisher [])

/-- The steps the subscriber can take, and where they lead. -/
inductive SubscriberStepped [DecidableEq Publisher] (state : State Publisher Frame) :
    SubscriberAct Publisher Frame → State Publisher Frame → Prop where
  | call (request : Request Frame) (idle : state.call = none) :
      SubscriberStepped state (.call request)
        { state with call := some ⟨request, request.code, false, .notWaited, false⟩ }
  | poll {call : Call Frame} {go : Bool → Code Frame} (unlocked : Bool)
      (current : state.call = some call) (stands : call.code = .poll go) :
      SubscriberStepped state (.poll unlocked) (state.resume call (go unlocked))
  | receiveEmpty {call : Call Frame} {go : Answer Frame → Code Frame}
      (current : state.call = some call) (stands : call.code = .receive go)
      (empty : state.ring = []) :
      SubscriberStepped state (.receive none) (state.resume call (go .empty))
  | receiveFrame {call : Call Frame} {go : Answer Frame → Code Frame} {publisher : Publisher}
      {frame : Frame} {rest : List Frame} (current : state.call = some call)
      (stands : call.code = .receive go) (queued : lane publisher state.ring = frame :: rest) :
      SubscriberStepped state (.receive (some publisher))
        (({ state with ring := pop publisher state.ring } : State Publisher Frame).resume call
          (go (.frame frame)))
  | receiveFails {call : Call Frame} {go : Answer Frame → Code Frame}
      (current : state.call = some call) (stands : call.code = .receive go) :
      SubscriberStepped state .receiveFails (state.resume call (go .failed))
  | park {call : Call Frame} {timeout : Option Nat} {go : Bool → Code Frame}
      (current : state.call = some call) (stands : call.code = .wait timeout go) :
      SubscriberStepped state .park
        { state with call := some { call with parked := true, quiet := state.ring.isEmpty } }
  | wake {call : Call Frame} {timeout : Option Nat} {go : Bool → Code Frame}
      (current : state.call = some call) (stands : call.code = .wait timeout go)
      (parked : call.parked = true) (pending : 0 < state.pending) :
      SubscriberStepped state .wake
        (({ state with pending := state.pending - 1 } : State Publisher Frame).resume
          { call with parked := false, ended := .woken } (go true))
  | timeout {call : Call Frame} {ms : Nat} {go : Bool → Code Frame}
      (current : state.call = some call) (stands : call.code = .wait (some ms) go)
      (parked : call.parked = true) (none_pending : state.pending = 0) :
      SubscriberStepped state .timeout
        (state.resume { call with parked := false, ended := .timedOut } (go true))
  | waitFails {call : Call Frame} {timeout : Option Nat} {go : Bool → Code Frame}
      (current : state.call = some call) (stands : call.code = .wait timeout go)
      (parked : call.parked = true) :
      SubscriberStepped state .waitFails
        (state.resume { call with parked := false, ended := .failed } (go false))

theorem publisherStepped_of_step [DecidableEq Publisher] {publisher : Publisher}
    {act : PublisherAct Frame} (taken : state.publisherStep publisher act = some next) :
    PublisherStepped state publisher next := by
  cases act with
  | start routine =>
      simp only [publisherStep] at taken
      split at taken
      · rename_i idle
        cases taken
        exact .start routine idle
      · cases taken
  | loan =>
      simp only [publisherStep] at taken
      split at taken
      · rename_i due
        cases taken
        exact .loan due
      · cases taken
  | send evicted =>
      simp only [publisherStep] at taken
      split at taken
      · rename_i due
        split_ifs at taken with older
        cases taken
        exact .send due older
      · cases taken
  | notify coalesced =>
      simp only [publisherStep] at taken
      split at taken
      · rename_i due
        split_ifs at taken with coalesces pending
        · cases taken
          exact .coalesce due pending
        · cases taken
          exact .notify due
      · cases taken
  | fail =>
      simp only [publisherStep] at taken
      split at taken
      · rename_i due
        cases taken
        exact .fail due (by simp)
      · rename_i due
        cases taken
        exact .fail due (by simp)
      · cases taken

theorem subscriberStepped_of_step [DecidableEq Publisher] {act : SubscriberAct Publisher Frame}
    (taken : state.subscriberStep act = some next) : SubscriberStepped state act next := by
  cases act with
  | call request =>
      simp only [subscriberStep] at taken
      split at taken
      · rename_i idle
        cases taken
        exact .call request idle
      · cases taken
  | poll unlocked =>
      simp only [subscriberStep] at taken
      split at taken
      · rename_i current
        split at taken
        · rename_i stands
          cases taken
          exact .poll unlocked current stands
        · cases taken
      · cases taken
  | receive connection =>
      cases connection with
      | none =>
          simp only [subscriberStep] at taken
          split at taken
          · rename_i current
            split at taken
            · rename_i stands empty
              cases taken
              exact .receiveEmpty current stands empty
            · cases taken
          · cases taken
      | some publisher =>
          simp only [subscriberStep] at taken
          split at taken
          · rename_i current
            split at taken
            · rename_i stands queued
              cases taken
              exact .receiveFrame current stands queued
            · cases taken
          · cases taken
  | receiveFails =>
      simp only [subscriberStep] at taken
      split at taken
      · rename_i current
        split at taken
        · rename_i stands
          cases taken
          exact .receiveFails current stands
        · cases taken
      · cases taken
  | park =>
      simp only [subscriberStep] at taken
      split at taken
      · rename_i current
        split at taken
        · rename_i stands _
          cases taken
          exact .park current stands
        · cases taken
      · cases taken
  | wake =>
      simp only [subscriberStep] at taken
      split at taken
      · rename_i current
        split at taken
        · rename_i stands parked
          split_ifs at taken with pending
          cases taken
          exact .wake current stands parked pending
        · cases taken
      · cases taken
  | timeout =>
      simp only [subscriberStep] at taken
      split at taken
      · rename_i current
        split at taken
        · rename_i stands parked
          split_ifs at taken with pending
          cases taken
          exact .timeout current stands parked pending
        · cases taken
      · cases taken
  | waitFails =>
      simp only [subscriberStep] at taken
      split at taken
      · rename_i current
        split at taken
        · rename_i stands parked
          cases taken
          exact .waitFails current stands parked
        · cases taken
      · cases taken

/-- What is queued on a connection after a send. -/
theorem lane_enqueue_self [DecidableEq Publisher] (publisher : Publisher) (frame : Frame)
    (evicted : Nat) :
    lane publisher (state.enqueue publisher frame evicted).ring =
      (lane publisher state.ring ++ [frame]).drop evicted := by
  rw [enqueue, lane_popMany_self, lane_append, lane_cons_self, lane_nil]

theorem ring_enqueue_ne_nil [DecidableEq Publisher] {publisher : Publisher} (frame : Frame)
    {evicted : Nat} (older : evicted ≤ (lane publisher state.ring).length) :
    (state.enqueue publisher frame evicted).ring ≠ [] := by
  intro empty
  have own : lane publisher (state.enqueue publisher frame evicted).ring = _ :=
    lane_enqueue_self publisher frame evicted
  rw [empty, lane_nil] at own
  have none_left := List.drop_eq_nil_iff.mp own.symm
  rw [List.length_append] at none_left
  exact absurd none_left (Nat.not_le_of_lt (Nat.lt_succ_of_le older))

/-- A step of a publisher leaves the call where it stands, and an empty ring was
empty before. -/
theorem call_publisherStepped [DecidableEq Publisher] {publisher : Publisher}
    (taken : PublisherStepped state publisher next) {call : Call Frame}
    (current : next.call = some call) :
    ∃ before, state.call = some before ∧ before.request = call.request ∧
      before.code = call.code ∧ before.parked = call.parked ∧ before.ended = call.ended ∧
      (next.ring = [] → state.ring = [] ∧ before.quiet = call.quiet) := by
  have same : ∃ before, some call = some before ∧ before.request = call.request ∧
      before.code = call.code ∧ before.parked = call.parked ∧ before.ended = call.ended ∧
      (state.ring = [] → state.ring = [] ∧ before.quiet = call.quiet) :=
    ⟨call, rfl, rfl, rfl, rfl, rfl, fun empty => ⟨empty, rfl⟩⟩
  cases taken with
  | start routine idle => exact current ▸ same
  | loan due => exact current ▸ same
  | send due older =>
      obtain ⟨before, current', rfl⟩ := Option.map_eq_some_iff.mp current
      exact ⟨before, current', rfl, rfl, rfl, rfl,
        fun empty => absurd empty (ring_enqueue_ne_nil _ older)⟩
  | notify due => exact current ▸ same
  | coalesce due pending => exact current ▸ same
  | fail due fallible => exact current ▸ same

/-- A step of a publisher returns from no call. -/
theorem returns_publisherStepped [DecidableEq Publisher] {publisher : Publisher}
    (taken : PublisherStepped state publisher next) : next.returns = state.returns := by
  cases taken <;> rfl

end Inversion

/-! ## What holds of the code of a call -/

section Codes

variable {holds : Request Frame → Code Frame → Prop} {state next : State Publisher Frame}

/-- The code of the call in progress has a property. -/
def CallHolds (holds : Request Frame → Code Frame → Prop) (state : State Publisher Frame) : Prop :=
  ∀ call, state.call = some call → holds call.request call.code

theorem CallHolds.at_code (before : state.CallHolds holds) {call : Call Frame}
    (current : state.call = some call) {code : Code Frame} (stands : call.code = code) :
    holds call.request code :=
  stands ▸ before call current

/-- A property that a code passes on to what follows it, unless that returns, and
that the code of its request has when it starts over. -/
structure PassedOn (holds : Request Frame → Code Frame → Prop) : Prop where
  follows : ∀ {request code after}, holds request code → Code.Follows code after →
    holds request after ∨ ∃ reply, after = .ret reply
  again : ∀ {request code}, holds request code → holds request request.code

theorem callHolds_resume (passed : PassedOn holds) {call : Call Frame} {before code : Code Frame}
    (held : holds call.request before) (follows : Code.Follows before code) :
    (state.resume call code).CallHolds holds := by
  intro after current
  rcases call_resume current with ⟨-, rfl⟩ | ⟨stays, rfl⟩
  · exact passed.again held
  · rcases passed.follows held follows with goes | ⟨reply, returns⟩
    · exact goes
    · exact absurd returns (stays reply)

theorem CallHolds.publisherStepped [DecidableEq Publisher] (before : state.CallHolds holds)
    {publisher : Publisher} (taken : PublisherStepped state publisher next) :
    next.CallHolds holds := by
  intro call current
  obtain ⟨earlier, current', request, code, -⟩ := call_publisherStepped taken current
  rw [← request, ← code]
  exact before earlier current'

theorem CallHolds.subscriberStepped [DecidableEq Publisher] (passed : PassedOn holds)
    (before : state.CallHolds holds) {act : SubscriberAct Publisher Frame}
    (called : ∀ request, act = .call request → holds request request.code)
    (taken : SubscriberStepped state act next) : next.CallHolds holds := by
  cases taken with
  | call request idle =>
      rintro _ ⟨⟩
      exact called request rfl
  | poll unlocked current stands =>
      exact callHolds_resume passed (before.at_code current stands) (.polled _ _)
  | receiveEmpty current stands empty =>
      exact callHolds_resume passed (before.at_code current stands) (.answered _ _)
  | receiveFrame current stands queued =>
      exact callHolds_resume passed (before.at_code current stands) (.answered _ _)
  | receiveFails current stands =>
      exact callHolds_resume passed (before.at_code current stands) (.answered _ _)
  | @park call _ _ current stands =>
      rintro _ ⟨⟩
      exact before call current
  | wake current stands parked pending =>
      exact callHolds_resume passed (before.at_code current stands) (.waited _ _ _)
  | timeout current stands parked nonePending =>
      exact callHolds_resume passed (before.at_code current stands) (.waited _ _ _)
  | waitFails current stands parked =>
      exact callHolds_resume passed (before.at_code current stands) (.waited _ _ _)

/-- **The code of the call in progress keeps a property that is passed on, when the
code of every request that is asked has it.** -/
theorem CallHolds.step [DecidableEq Publisher] (passed : PassedOn holds)
    (before : state.CallHolds holds) {event : Event Publisher Frame}
    (called : ∀ request, event = .subscriber (.call request) → holds request request.code)
    (taken : state.step event = some next) : next.CallHolds holds := by
  cases event with
  | publisher publisher act => exact before.publisherStepped (publisherStepped_of_step taken)
  | subscriber act =>
      refine before.subscriberStepped passed ?_ (subscriberStepped_of_step taken)
      rintro request rfl
      exact called request rfl

end Codes

end State

end GstIceoryx2.Transport
