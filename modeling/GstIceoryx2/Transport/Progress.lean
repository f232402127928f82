import GstIceoryx2.Transport.HandOver
import GstIceoryx2.Transport.Wakeup

/-!
# No call is stuck behind a frame

That no wake-up is lost is about the states a subscriber may be found in. Here is
what it is for: whenever a frame is queued and a call of the SDK is in progress,
wherever it stands, at most four steps lead to its return with the oldest frame of any
publisher that has one queued (`queued_call_returns`). No publisher has to begin
anything new for it. A call that has found the ring empty parks, a notification is
there or is made by a publisher that has sent, the call wakes, and it looks again. This
rests on the notifications, which always succeed here: a publisher whose notification
fails leaves a call parked in front of its frame.
-/

set_option autoImplicit false

namespace GstIceoryx2.Transport

open Foundations

variable {Publisher Frame : Type}

/-- A frame that is found is returned at once, and whoever is woken looks again. -/
def LooksAgain : Code Frame → Prop
  | .ret _ => True
  | .again => False
  | .poll _ => False
  | .receive next =>
      (∀ frame, next (.frame frame) = .ret (.frame frame)) ∧ LooksAgain (next .empty) ∧
        LooksAgain (next .failed)
  | .wait _ next => (∃ go, next true = .receive go) ∧ ∀ succeeded, LooksAgain (next succeeded)

theorem looksAgain_receive : LooksAgain (receive : Code Frame) :=
  ⟨fun _ => rfl, trivial, trivial⟩

theorem looksAgain_receiveBlocking (blockMs : Option Nat) :
    LooksAgain (receiveBlocking blockMs : Code Frame) := by
  refine ⟨fun _ => rfl, ⟨⟨_, rfl⟩, ?_⟩, trivial⟩
  intro succeeded
  cases succeeded with
  | false => trivial
  | true => exact looksAgain_receive

theorem looksAgain_pyReceiveBlocking (blockMs : Option Nat) :
    LooksAgain (pyReceiveBlocking blockMs : Code Frame) := by
  refine ⟨fun _ => rfl, ⟨⟨_, rfl⟩, ?_⟩, trivial⟩
  intro succeeded
  cases succeeded with
  | false => trivial
  | true => exact ⟨fun _ => rfl, trivial, trivial⟩

/-- **Every call of the SDK starts at a look, and looks again when it is woken.** -/
theorem looksAgain_code {request : Request Frame} (sdk : request.isSdk = true) :
    LooksAgain request.code ∧ ∀ reply, request.code ≠ .ret reply := by
  cases request with
  | receive => exact ⟨looksAgain_receive, nofun⟩
  | receiveBlocking blockMs => exact ⟨looksAgain_receiveBlocking blockMs, nofun⟩
  | pyReceiveBlocking blockMs => exact ⟨looksAgain_pyReceiveBlocking blockMs, nofun⟩
  | create returns => cases sdk

/-- The code of a call of the SDK in progress. -/
def OnTheWay (request : Request Frame) (code : Code Frame) : Prop :=
  request.isSdk = true → LooksAgain code ∧ ∀ reply, code ≠ .ret reply

theorem looksAgain_follows {code after : Code Frame} (looks : LooksAgain code)
    (follows : Code.Follows code after) : LooksAgain after := by
  cases follows with
  | polled next unlocked => cases looks
  | answered next answer =>
      cases answer with
      | frame frame =>
          rw [looks.1 frame]
          trivial
      | empty => exact looks.2.1
      | failed => exact looks.2.2
  | waited timeout next succeeded => exact looks.2 succeeded

namespace State

theorem passedOn_onTheWay : PassedOn (OnTheWay : Request Frame → Code Frame → Prop) where
  follows := by
    intro request code after onTheWay follows
    by_cases returns : ∃ reply, after = .ret reply
    · exact .inr returns
    · refine .inl fun sdk => ⟨looksAgain_follows (onTheWay sdk).1 follows, ?_⟩
      intro reply same
      exact returns ⟨reply, same⟩
  again := fun {_ _} _ sdk => looksAgain_code sdk

/-- The subscriber takes its steps, and publishers notify of what they have sent. -/
def Winding (_ : State Publisher Frame) : Event Publisher Frame → Prop
  | .subscriber _ => True
  | .publisher _ (.notify _) => True
  | .publisher _ _ => False

section Progress

variable [DecidableEq Publisher] {state : State Publisher Frame} {call : Call Frame}
variable {publisher : Publisher} {frame : Frame} {others : List Frame}

/-- The call has returned with the frame. -/
def ReturnedWith (state : State Publisher Frame) (request : Request Frame) (frame : Frame)
    (finish : State Publisher Frame) : Prop :=
  finish.call = none ∧ ∃ result, finish.returns = state.returns ++ [result] ∧
    result.request = request ∧ result.reply = .frame frame

/-- A look that takes from a connection returns with its oldest frame. -/
theorem returns_of_receive {go : Answer Frame → Code Frame} (current : state.call = some call)
    (stands : call.code = .receive go) (found : go (.frame frame) = .ret (.frame frame))
    (queued : lane publisher state.ring = frame :: others) :
    ∃ finish, Run step Winding state [.subscriber (.receive (some publisher))] finish ∧
      state.ReturnedWith call.request frame finish := by
  have taken : state.step (.subscriber (.receive (some publisher))) =
      some (({ state with ring := pop publisher state.ring } : State Publisher Frame).resume call
        (.ret (.frame frame))) := by
    simp only [step, subscriberStep, current, stands, queued, found]
  exact ⟨_, .cons trivial taken .nil, rfl, _, rfl, rfl, rfl⟩

/-- A parked call with a notification pending wakes and returns. -/
theorem returns_of_pending {timeout : Option Nat} {go : Bool → Code Frame}
    {look : Answer Frame → Code Frame} (current : state.call = some call)
    (stands : call.code = .wait timeout go) (parked : call.parked = true)
    (again : go true = .receive look) (found : look (.frame frame) = .ret (.frame frame))
    (pending : 0 < state.pending) (queued : lane publisher state.ring = frame :: others) :
    ∃ finish, Run step Winding state
        [.subscriber .wake, .subscriber (.receive (some publisher))] finish ∧
      state.ReturnedWith call.request frame finish := by
  have taken : state.step (.subscriber .wake) =
      some (({ state with pending := state.pending - 1 } : State Publisher Frame).resume
        { call with parked := false, ended := .woken } (.receive look)) := by
    simp only [step, subscriberStep, current, stands, parked, if_pos pending, again]
  have woken : (({ state with pending := state.pending - 1 } : State Publisher Frame).resume
      { call with parked := false, ended := .woken } (.receive look)).call =
        some { call with parked := false, ended := .woken, code := .receive look } := rfl
  obtain ⟨finish, run, returned⟩ := returns_of_receive woken rfl found queued
  exact ⟨finish, .cons trivial taken run, returned⟩

/-- A parked call behind a noticed frame returns: a notification is pending, or whoever
sent is about to notify. -/
theorem returns_of_parked {timeout : Option Nat} {go : Bool → Code Frame}
    {look : Answer Frame → Code Frame} (current : state.call = some call)
    (stands : call.code = .wait timeout go) (parked : call.parked = true)
    (again : go true = .receive look) (found : look (.frame frame) = .ret (.frame frame))
    (noticed : state.Noticed) (queued : lane publisher state.ring = frame :: others) :
    ∃ rest finish, rest.length ≤ 3 ∧ Run step Winding state rest finish ∧
      state.ReturnedWith call.request frame finish := by
  rcases noticed (ne_nil_of_lane queued) with pending | ⟨sender, ops, mid⟩
  · obtain ⟨finish, run, returned⟩ :=
      returns_of_pending current stands parked again found pending queued
    exact ⟨_, finish, Nat.le_succ _, run, returned⟩
  · have taken : state.step (.publisher sender (.notify false)) =
        some { state.proceed sender ops with pending := state.pending + 1 } := by
      simp only [step, publisherStep, mid, Bool.false_eq_true, if_false]
    have kept : ({ state.proceed sender ops with pending := state.pending + 1 } :
        State Publisher Frame).call = some call := current
    obtain ⟨finish, run, returned⟩ :=
      returns_of_pending kept stands parked again found (Nat.succ_pos _) queued
    exact ⟨.publisher sender (.notify false) :: _, finish, Nat.le_refl _,
      .cons trivial taken run, returned⟩

theorem onTheWay_of_run {events : List (Event Publisher Frame)}
    (run : Run step unguarded started events state) : state.CallHolds OnTheWay := by
  refine run.invariant (CallHolds OnTheWay) nofun ?_
  intro before event after held _ taken
  exact held.step passedOn_onTheWay (fun _ _ => looksAgain_code) taken

/-- **No call is stuck behind a frame.** In every reachable state with a call of the SDK
in progress, and for every publisher with a queued frame, the call returns with the oldest
frame of that publisher after at most four steps, which are its own or the notification of
a publisher that has sent. -/
theorem queued_call_returns {events : List (Event Publisher Frame)}
    (run : Run step unguarded started events state)
    (queued : lane publisher state.ring = frame :: others)
    (current : state.call = some call) (sdk : call.request.isSdk = true) :
    ∃ rest finish, rest.length ≤ 4 ∧ Run step Winding state rest finish ∧
      state.ReturnedWith call.request frame finish := by
  obtain ⟨looks, stays⟩ := onTheWay_of_run run call current sdk
  have attentive := attentive_of_run run
  cases stands : call.code with
  | ret reply => exact absurd stands (stays reply)
  | again =>
      rw [stands] at looks
      cases looks
  | poll go =>
      rw [stands] at looks
      cases looks
  | receive go =>
      rw [stands] at looks
      obtain ⟨finish, run, returned⟩ := returns_of_receive current stands (looks.1 frame) queued
      exact ⟨_, finish, by simp, run, returned⟩
  | wait timeout go =>
      rw [stands] at looks
      obtain ⟨⟨look, again⟩, goes⟩ := looks
      have found : look (.frame frame) = .ret (.frame frame) := by
        have after := goes true
        rw [again] at after
        exact after.1 frame
      obtain ⟨looked, disciplined, announced⟩ := attentive.at_code current stands
      have noticed := announced disciplined.1
      cases parked : call.parked with
      | true =>
          obtain ⟨rest, finish, short, run, returned⟩ :=
            returns_of_parked current stands parked again found noticed queued
          exact ⟨rest, finish, Nat.le_succ_of_le short, run, returned⟩
      | false =>
          have taken : state.step (.subscriber .park) = some { state with
              call := some { call with parked := true, quiet := state.ring.isEmpty } } := by
            simp only [step, subscriberStep, current, stands, parked]
          have parks : ({ state with
              call := some { call with parked := true, quiet := state.ring.isEmpty } } :
                State Publisher Frame).call =
              some { call with parked := true, quiet := state.ring.isEmpty } := rfl
          obtain ⟨rest, finish, short, run, returned⟩ :=
            returns_of_parked parks stands rfl again found noticed queued
          exact ⟨.subscriber .park :: rest, finish, Nat.succ_le_succ short,
            .cons trivial taken run, returned⟩

/-- A call parks on an empty ring, and two frames are sent to it. -/
def parkedBehindTwo : List (Event Bool Nat) :=
  [.subscriber (.call (.receiveBlocking none)), .subscriber (.receive none), .subscriber .park,
    .publisher true (.start (.renderZeroCopy 7)), .publisher true (.send 0),
    .publisher false (.start (.renderZeroCopy 8)), .publisher false (.send 0)]

/-- It can return with the frame that was sent last. -/
theorem queued_call_returns_parked :
    ∃ (state : State Bool Nat) (finish : State Bool Nat) (rest : List (Event Bool Nat)),
      Run step unguarded started parkedBehindTwo state ∧ rest.length ≤ 4 ∧
      Run step Winding state rest finish ∧
      state.ReturnedWith (.receiveBlocking none) 8 finish := by
  have run : Run step unguarded started parkedBehindTwo
      ((execute step unguarded started parkedBehindTwo).getD started) :=
    execute_eq_some_iff.mp rfl
  have queued : lane false ((execute step unguarded started parkedBehindTwo).getD started).ring =
      [8] := rfl
  obtain ⟨rest, finish, short, rests, returned⟩ := queued_call_returns run queued rfl rfl
  exact ⟨_, finish, rest, run, short, rests, returned⟩

end Progress

end State

end GstIceoryx2.Transport
