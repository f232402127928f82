import GstIceoryx2.Transport.Channel

/-!
# What a subscriber hands over

The calls of an SDK subscriber return the frame they find, whatever it is; the
source looks at it first, and returns for it or goes on. Here is what follows for
any property that frames should have: the frames that are handed over in a run all
have it exactly when, whenever a call of the SDK takes from a connection, the oldest
frame there has it (`handedOver_iff`). There is no other way to keep it, because these
calls look at nothing but whether there is a frame.
-/

set_option autoImplicit false

namespace GstIceoryx2.Transport

open Foundations

variable {Publisher Frame : Type}

/-- The calls of an SDK subscriber, which are all but the source's. -/
def Request.isSdk : Request Frame → Bool
  | .create _ => false
  | _ => true

/-- A frame that is found is returned at once by a call of the SDK, and is handed
over by no other call. -/
def HandsOver (sdk : Bool) : Code Frame → Prop
  | .ret reply => ∀ frame, reply ≠ .frame frame
  | .again => True
  | .poll next => ∀ unlocked, HandsOver sdk (next unlocked)
  | .receive next =>
      (∀ frame, if sdk then next (.frame frame) = .ret (.frame frame)
        else HandsOver sdk (next (.frame frame))) ∧
      HandsOver sdk (next .empty) ∧ HandsOver sdk (next .failed)
  | .wait _ next => ∀ succeeded, HandsOver sdk (next succeeded)

theorem handsOver_receive : HandsOver true (receive : Code Frame) := by
  refine ⟨fun frame => rfl, ?_, ?_⟩
  · intro frame other
    cases other
  · intro frame other
    cases other

theorem handsOver_receiveBlocking (blockMs : Option Nat) :
    HandsOver true (receiveBlocking blockMs : Code Frame) := by
  refine ⟨fun frame => rfl, ?_, ?_⟩
  · intro succeeded
    cases succeeded with
    | false =>
        intro frame other
        cases other
    | true => exact handsOver_receive
  · intro frame other
    cases other

theorem handsOver_pyReceiveBlocking (blockMs : Option Nat) :
    HandsOver true (pyReceiveBlocking blockMs : Code Frame) := by
  refine ⟨fun frame => rfl, ?_, ?_⟩
  · intro succeeded
    cases succeeded with
    | false =>
        intro frame other
        cases other
    | true =>
        refine ⟨fun frame => rfl, ?_, ?_⟩
        · intro frame other
          cases other
        · intro frame other
          cases other
  · intro frame other
    cases other

theorem handsOver_create (returns : Frame → Bool) : HandsOver false (create returns) := by
  intro unlocked
  cases unlocked with
  | true =>
      intro frame other
      cases other
  | false =>
      refine ⟨?_, fun succeeded => trivial, ?_⟩
      · intro found
        rw [if_neg Bool.false_ne_true]
        cases returned : returns found with
        | false => simp only [returned, Bool.false_eq_true, if_false, HandsOver]
        | true => simp [returned, HandsOver]
      · intro frame other
        cases other

/-- **Every call hands over what it finds or nothing.** -/
theorem handsOver_code (request : Request Frame) : HandsOver request.isSdk request.code := by
  cases request with
  | receive => exact handsOver_receive
  | receiveBlocking blockMs => exact handsOver_receiveBlocking blockMs
  | pyReceiveBlocking blockMs => exact handsOver_pyReceiveBlocking blockMs
  | create returns => exact handsOver_create returns

namespace State

/-- Every frame that was handed over so far has the property. -/
def AllHandedOver (accepts : Frame → Prop) (state : State Publisher Frame) : Prop :=
  ∀ result ∈ state.returns, ∀ frame, result.reply = .frame frame → accepts frame

/-- The oldest frame of a connection has the property when a call of the SDK takes from
there. -/
def FindsOnly [DecidableEq Publisher] (accepts : Frame → Prop) (state : State Publisher Frame)
    (event : Event Publisher Frame) : Prop :=
  ∀ publisher, event = .subscriber (.receive (some publisher)) →
    ∀ call frame rest, state.call = some call → call.request.isSdk = true →
      lane publisher state.ring = frame :: rest → accepts frame

/-- The call in progress hands over what it finds or nothing. -/
def Answering (state : State Publisher Frame) : Prop :=
  ∀ call, state.call = some call → HandsOver call.request.isSdk call.code

section Steps

variable {accepts : Frame → Prop} {state next : State Publisher Frame} {call : Call Frame}

/-- A call that goes on hands over a frame exactly when it returns it. -/
theorem allHandedOver_resume_iff (before : state.AllHandedOver accepts) (code : Code Frame) :
    (state.resume call code).AllHandedOver accepts ↔
      ∀ frame, code = .ret (.frame frame) → accepts frame := by
  constructor
  · rintro after frame rfl
    exact after _ (List.mem_append_right _ (List.mem_singleton_self _)) frame rfl
  · intro found result returned frame handed
    rcases mem_returns_resume returned with earlier | ⟨reply, rfl, rfl⟩
    · exact before result earlier frame handed
    · exact found frame (congrArg Code.ret handed)

/-- A code that hands over nothing yet keeps the frames that were. -/
theorem allHandedOver_resume (before : state.AllHandedOver accepts) {sdk : Bool}
    {code : Code Frame} (hands : HandsOver sdk code) :
    (state.resume call code).AllHandedOver accepts := by
  refine (allHandedOver_resume_iff before code).mpr ?_
  rintro frame rfl
  exact absurd rfl (hands frame)

theorem Answering.at_code (answering : state.Answering) (current : state.call = some call)
    {code : Code Frame} (stands : call.code = code) : HandsOver call.request.isSdk code :=
  stands ▸ answering call current

/-- A frame that is found is returned, or handed over by no later step. -/
theorem handsOver_found {sdk : Bool} {go : Answer Frame → Code Frame}
    (hands : HandsOver sdk (.receive go)) (frame : Frame) :
    sdk = true ∧ go (.frame frame) = .ret (.frame frame) ∨
      sdk = false ∧ HandsOver sdk (go (.frame frame)) := by
  have found := hands.1 frame
  cases sdk with
  | true => exact .inl ⟨rfl, found⟩
  | false => exact .inr ⟨rfl, found⟩

theorem passedOn_handsOver :
    PassedOn fun (request : Request Frame) code => HandsOver request.isSdk code where
  follows := by
    intro request code after hands follows
    cases follows with
    | polled next unlocked => exact .inl (hands unlocked)
    | answered next answer =>
        cases answer with
        | frame frame =>
            rcases handsOver_found hands frame with ⟨-, returned⟩ | ⟨-, hands⟩
            · exact .inr ⟨_, returned⟩
            · exact .inl hands
        | empty => exact .inl hands.2.1
        | failed => exact .inl hands.2.2
    | waited timeout next succeeded => exact .inl (hands succeeded)
  again := fun {request} _ _ => handsOver_code request

/-- Only a look that takes from a connection finds anything. -/
theorem findsOnly_of_ne_receive [DecidableEq Publisher] {act : SubscriberAct Publisher Frame}
    (other : ∀ publisher, act ≠ .receive (some publisher)) :
    state.FindsOnly accepts (.subscriber act) := by
  intro publisher same
  cases same
  exact absurd rfl (other publisher)

theorem findsOnly_receive_iff [DecidableEq Publisher] {publisher : Publisher} {frame : Frame}
    {rest : List Frame} (current : state.call = some call)
    (queued : lane publisher state.ring = frame :: rest) :
    state.FindsOnly accepts (.subscriber (.receive (some publisher))) ↔
      (call.request.isSdk = true → accepts frame) := by
  constructor
  · intro finds sdk
    exact finds publisher rfl call frame rest current sdk queued
  · rintro found _ ⟨⟩ call' frame' rest' current' sdk queued'
    obtain rfl := Option.some.inj (current.symm.trans current')
    obtain ⟨rfl, rfl⟩ := List.cons.inj (queued.symm.trans queued')
    exact found sdk

/-- What is found is handed over by a call of the SDK, and by no other. -/
theorem returned_iff_isSdk {sdk : Bool} {go : Answer Frame → Code Frame}
    (hands : HandsOver sdk (.receive go)) (frame : Frame) :
    (∀ other, go (.frame frame) = .ret (.frame other) → accepts other) ↔
      (sdk = true → accepts frame) := by
  rcases handsOver_found hands frame with ⟨isSdk, returned⟩ | ⟨notSdk, hands⟩
  · constructor
    · intro found _
      exact found frame returned
    · rintro found other handed
      cases returned.symm.trans handed
      exact found isSdk
  · constructor
    · intro _ isSdk
      exact absurd (notSdk.symm.trans isSdk) Bool.false_ne_true
    · intro _ other handed
      rw [handed] at hands
      exact absurd rfl (hands other)

/-- **A step of the subscriber keeps the property exactly when a call of the SDK
finds it.** -/
theorem allHandedOver_subscriberStepped_iff [DecidableEq Publisher]
    (answering : state.Answering) (before : state.AllHandedOver accepts)
    {act : SubscriberAct Publisher Frame}
    (taken : SubscriberStepped state act next) :
    next.AllHandedOver accepts ↔ state.FindsOnly accepts (.subscriber act) := by
  cases taken with
  | call request idle => exact iff_of_true before (findsOnly_of_ne_receive nofun)
  | poll unlocked current stands =>
      exact iff_of_true (allHandedOver_resume before (answering.at_code current stands unlocked))
        (findsOnly_of_ne_receive nofun)
  | receiveEmpty current stands empty =>
      exact iff_of_true (allHandedOver_resume before (answering.at_code current stands).2.1)
        (findsOnly_of_ne_receive nofun)
  | @receiveFrame call go publisher frame rest current stands queued =>
      have kept : ({ state with ring := pop publisher state.ring } :
          State Publisher Frame).AllHandedOver accepts := before
      rw [findsOnly_receive_iff current queued, allHandedOver_resume_iff kept]
      exact returned_iff_isSdk (answering.at_code current stands) frame
  | receiveFails current stands =>
      exact iff_of_true (allHandedOver_resume before (answering.at_code current stands).2.2)
        (findsOnly_of_ne_receive nofun)
  | park current stands => exact iff_of_true before (findsOnly_of_ne_receive nofun)
  | @wake call _ _ current stands parked pending =>
      have kept : ({ state with pending := state.pending - 1 } :
          State Publisher Frame).AllHandedOver accepts := before
      exact iff_of_true (allHandedOver_resume kept (answering.at_code current stands true))
        (findsOnly_of_ne_receive nofun)
  | timeout current stands parked nonePending =>
      exact iff_of_true (allHandedOver_resume before (answering.at_code current stands true))
        (findsOnly_of_ne_receive nofun)
  | waitFails current stands parked =>
      exact iff_of_true (allHandedOver_resume before (answering.at_code current stands false))
        (findsOnly_of_ne_receive nofun)

end Steps

/-! ## Whole runs -/

section Runs

variable [DecidableEq Publisher] {state : State Publisher Frame}
variable {events : List (Event Publisher Frame)}

theorem answering_of_run {guard : State Publisher Frame → Event Publisher Frame → Prop}
    (run : Run step guard started events state) : state.Answering := by
  refine run.invariant Answering ?_ ?_
  · intro call current
    cases current
  · intro before event after answering _ taken
    exact CallHolds.step passedOn_handsOver answering (fun request _ => handsOver_code request)
      taken

/-- A call that returned stays so. -/
theorem returns_of_step {next : State Publisher Frame} {event : Event Publisher Frame}
    (taken : step state event = some next) {result : Return Frame}
    (returned : result ∈ state.returns) : result ∈ next.returns := by
  have resumed : ∀ {before : State Publisher Frame} {call : Call Frame} {code : Code Frame},
      result ∈ before.returns → result ∈ (before.resume call code).returns := by
    intro before call code earlier
    cases code with
    | ret reply => exact List.mem_append_left _ earlier
    | again => exact earlier
    | poll go => exact earlier
    | receive go => exact earlier
    | wait timeout go => exact earlier
  cases event with
  | publisher publisher act =>
      rw [returns_publisherStepped (publisherStepped_of_step taken)]
      exact returned
  | subscriber act =>
      have stepped : SubscriberStepped state act next := subscriberStepped_of_step taken
      cases stepped with
      | call request idle => exact returned
      | park current stands => exact returned
      | poll unlocked current stands => exact resumed returned
      | receiveEmpty current stands empty => exact resumed returned
      | receiveFrame current stands queued => exact resumed returned
      | receiveFails current stands => exact resumed returned
      | wake current stands parked pending => exact resumed returned
      | timeout current stands parked nonePending => exact resumed returned
      | waitFails current stands parked => exact resumed returned

/-- **All frames that are handed over in a run have a property exactly when every
look of a call of the SDK finds one that has it.** -/
theorem handedOver_iff (accepts : Frame → Prop) (run : Run step unguarded started events state) :
    state.AllHandedOver accepts ↔ Run step (FindsOnly accepts) started events state := by
  refine Run.iff_guarded (AllHandedOver accepts) ?_ ?_ ?_ run
  · intro result returned
    cases returned
  · intro before event after taken handed result returned
    exact handed result (returns_of_step taken returned)
  · intro events before event after run handed taken
    cases event with
    | publisher publisher act =>
        have same := returns_publisherStepped (publisherStepped_of_step taken)
        refine iff_of_true ?_ (fun _ same => by cases same)
        intro result returned
        exact handed result (same ▸ returned)
    | subscriber act =>
        exact allHandedOver_subscriberStepped_iff (answering_of_run run) handed
          (subscriberStepped_of_step taken)

end Runs

end State

end GstIceoryx2.Transport
