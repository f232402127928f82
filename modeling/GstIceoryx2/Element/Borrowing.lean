import GstIceoryx2.Transport.HandOver
import GstIceoryx2.Element.Source

/-!
# Borrowed samples

The source wraps a sample in the buffer it delivers, without a copy, and so it
borrows the sample until downstream frees the buffer, whenever and in whichever
order that is. A subscriber may borrow only so many samples. When it holds them all
and another is queued, its receive fails, and `create` turns any failed receive into
a flow error, which ends the stream.

That the receive fails then is assumed of the library, and so is which of the borrowed
samples are counted: all those of the subscriber, or those from the connection that the
receive comes to. An account says so (`Account`), and the results hold for each.

A failed receive is the only thing that makes `create` fail (`failsByLooking_create`).
So a run of the source has no failed `create` exactly when fewer buffers than may be
borrowed are held, of those that count, whenever it comes to a queued sample
(`State.neverFailed_iff`). Nothing makes it wait for a buffer to be freed.

The source is the subscriber of the channel, and all that it does there is a run of
the channel (`State.channel_run`).
-/

set_option autoImplicit false

/-! ## Which calls fail -/

namespace GstIceoryx2.Transport

variable {Publisher Frame : Type}

/-- A call fails when a look at the ring fails, and for no other reason. -/
def FailsByLooking : Code Frame → Prop
  | .ret reply => reply ≠ .failed
  | .again => True
  | .poll next => ∀ unlocked, FailsByLooking (next unlocked)
  | .receive next =>
      (∀ frame, FailsByLooking (next (.frame frame))) ∧ FailsByLooking (next .empty) ∧
        next .failed = .ret .failed
  | .wait _ next => ∀ succeeded, FailsByLooking (next succeeded)

/-- **The loop of the source fails only with a look at the ring.** A failed wait
starts it over. -/
theorem failsByLooking_create (returns : Frame → Bool) : FailsByLooking (create returns) := by
  intro unlocked
  cases unlocked with
  | true => exact fun same => by cases same
  | false =>
      refine ⟨?_, fun succeeded => trivial, rfl⟩
      intro frame
      dsimp only
      split_ifs
      · exact fun same => by cases same
      · trivial

/-- The call is of the source, and fails only with a look. -/
def Creating (returns : Frame → Bool) (request : Request Frame) (code : Code Frame) : Prop :=
  request = .create returns ∧ FailsByLooking code

theorem creating_create (returns : Frame → Bool) :
    Creating returns (.create returns) (Request.create returns).code :=
  ⟨rfl, failsByLooking_create returns⟩

namespace State

theorem passedOn_creating (returns : Frame → Bool) : PassedOn (Creating returns) where
  follows := by
    rintro request code after ⟨rfl, fails⟩ follows
    cases follows with
    | polled next unlocked => exact .inl ⟨rfl, fails unlocked⟩
    | answered next answer =>
        cases answer with
        | frame frame => exact .inl ⟨rfl, fails.1 frame⟩
        | empty => exact .inl ⟨rfl, fails.2.1⟩
        | failed => exact .inr ⟨.failed, fails.2.2⟩
    | waited timeout next succeeded => exact .inl ⟨rfl, fails succeeded⟩
  again := by
    rintro request code ⟨rfl, -⟩
    exact creating_create returns

/-- No call has failed. -/
def NeverFailed (state : State Publisher Frame) : Prop :=
  ∀ result ∈ state.returns, result.reply ≠ .failed

variable {returns : Frame → Bool} {state next : State Publisher Frame}

theorem neverFailed_resume (before : state.NeverFailed) {call : Call Frame} {code : Code Frame}
    (fails : FailsByLooking code) : (state.resume call code).NeverFailed := by
  intro result returned
  rcases mem_returns_resume returned with earlier | ⟨reply, rfl, rfl⟩
  · exact before result earlier
  · exact fails

/-- **No step makes a call of the source fail but a failed look.** -/
theorem neverFailed_of_step [DecidableEq Publisher] (creating : state.CallHolds (Creating returns))
    (before : state.NeverFailed) {event : Event Publisher Frame}
    (taken : state.step event = some next) (looks : event ≠ .subscriber .receiveFails) :
    next.NeverFailed := by
  cases event with
  | publisher publisher act =>
      intro result returned
      rw [returns_publisherStepped (publisherStepped_of_step taken)] at returned
      exact before result returned
  | subscriber act =>
      have stepped : SubscriberStepped state act next := subscriberStepped_of_step taken
      cases stepped with
      | call request idle => exact before
      | park current stands => exact before
      | poll unlocked current stands =>
          exact neverFailed_resume before ((creating.at_code current stands).2 unlocked)
      | receiveEmpty current stands empty =>
          exact neverFailed_resume before (creating.at_code current stands).2.2.1
      | receiveFrame current stands queued =>
          apply neverFailed_resume
          · exact before
          · exact (creating.at_code current stands).2.1 _
      | receiveFails current stands => exact absurd rfl looks
      | wake current stands parked pending =>
          apply neverFailed_resume
          · exact before
          · exact (creating.at_code current stands).2 true
      | timeout current stands parked nonePending =>
          exact neverFailed_resume before ((creating.at_code current stands).2 true)
      | waitFails current stands parked =>
          exact neverFailed_resume before ((creating.at_code current stands).2 false)

/-- A failed look makes a call of the source fail. -/
theorem not_neverFailed_of_receiveFails [DecidableEq Publisher]
    (creating : state.CallHolds (Creating returns))
    (taken : state.step (.subscriber .receiveFails) = some next) : ¬ next.NeverFailed := by
  have stepped : SubscriberStepped state .receiveFails next := subscriberStepped_of_step taken
  cases stepped with
  | receiveFails current stands =>
      intro after
      rw [(creating.at_code current stands).2.2.2] at after
      exact after _ (List.mem_append_right _ (List.mem_singleton_self _)) rfl

end State

end GstIceoryx2.Transport

/-! ## The source and the buffers downstream holds -/

namespace GstIceoryx2.Element.Borrowing

open Foundations Video Transport

variable {Publisher : Type} {gst : Gst}

/-- `create` returns for every sample but those it drops for their geometry. -/
def returnsFor (frame : VideoFrame) : Bool :=
  frame.isEos ||
    match validateGeometry .bits64 frame.header frame.pixelSize with
    | .ok _ => true
    | .error _ => false

/-- The buffer that is delivered, if any. It holds its sample. -/
def delivered : Source.Outcome gst → List (Source.Delivered gst)
  | .delivered buffer => [buffer]
  | _ => []

/-- Which borrowed samples count when a receive comes to a connection: those from the
connections that it says so of. -/
abbrev Account (Publisher : Type) := Publisher → Publisher → Bool

/-- Every borrowed sample of the subscriber counts. -/
def Account.ofSubscriber : Account Publisher := fun _ _ => true

/-- The samples from the same connection count. -/
def Account.ofConnection [DecidableEq Publisher] : Account Publisher :=
  fun publisher other => publisher = other

/-- The channel, the source, and the delivered buffers that are not freed yet, each with
the publisher of its sample. -/
structure State (Publisher : Type) (gst : Gst) where
  channel : Transport.State Publisher VideoFrame
  source : Source.State gst
  held : List (Publisher × Source.Delivered gst)

/-- A step of a publisher, of `create` or of downstream, which takes caps as it
likes each time a sample is received. -/
inductive Event (Publisher : Type) (gst : Gst) where
  | publisher (publisher : Publisher) (act : PublisherAct VideoFrame)
  | create
  | poll (unlocked : Bool)
  | receive (connection : Option Publisher) (downstream : gst.Caps → Bool)
  | park
  | wake
  | timeout
  | waitFails
  | free (index : Nat)

/-- **`create` goes on to the next sample exactly when it drops this one.** -/
theorem returnsFor_eq_false_iff (downstream : gst.Caps → Bool) (state : Source.State gst)
    {frame : VideoFrame} :
    returnsFor frame = false ↔
      ∃ why, (Source.takeSample downstream state frame).2 = .dropped why := by
  rcases frame.isEos.eq_false_or_eq_true with sentinel | live
  · rw [Source.takeSample_of_sentinel downstream state sentinel]
    simp [returnsFor, sentinel]
  · cases accepted : validateGeometry .bits64 frame.header frame.pixelSize with
    | error why =>
        rw [Source.takeSample_of_rejected downstream state live accepted]
        simp [returnsFor, live, accepted]
    | ok _ =>
        have returns : returnsFor frame = true := by simp [returnsFor, accepted]
        cases chosen : Source.chosenCaps gst frame with
        | none =>
            rw [Source.takeSample_of_no_caps downstream state live accepted chosen]
            simp [returns]
        | some caps =>
            rw [Source.takeSample_of_accepted downstream state live accepted chosen]
            split_ifs
            all_goals simp [returns]

namespace State

/-- Before any sample. -/
def started : State Publisher gst where
  channel := .started
  source := .started gst
  held := []

section Step

variable [DecidableEq Publisher]

/-- A step of the channel. -/
def onChannel (state : State Publisher gst) (event : Transport.Event Publisher VideoFrame) :
    Option (State Publisher gst) :=
  (state.channel.step event).map fun channel => { state with channel := channel }

/-- The buffers that count when a receive comes to a connection. -/
def borrowed (account : Account Publisher) (state : State Publisher gst) (publisher : Publisher) :
    Nat :=
  state.held.countP (account publisher ·.1)

/-- The source looks at the ring. A look that comes to a queued sample fails when as many
are held as may be borrowed. -/
def receive (account : Account Publisher) (borrowedMax : Nat) (state : State Publisher gst)
    (downstream : gst.Caps → Bool) : Option Publisher → Option (State Publisher gst)
  | none => state.onChannel (.subscriber (.receive none))
  | some publisher =>
      match lane publisher state.channel.ring with
      | [] => none
      | frame :: _ =>
          if state.borrowed account publisher < borrowedMax then
            let taken := Source.takeSample downstream state.source frame
            ({ state with
                source := taken.1
                held := state.held ++ (delivered taken.2).map (publisher, ·) } :
              State Publisher gst).onChannel (.subscriber (.receive (some publisher)))
          else
            state.onChannel (.subscriber .receiveFails)

/-- Take a step. -/
def step (account : Account Publisher) (borrowedMax : Nat) (state : State Publisher gst) :
    Event Publisher gst → Option (State Publisher gst)
  | .publisher publisher act => state.onChannel (.publisher publisher act)
  | .create => state.onChannel (.subscriber (.call (.create returnsFor)))
  | .poll unlocked => state.onChannel (.subscriber (.poll unlocked))
  | .receive connection downstream => state.receive account borrowedMax downstream connection
  | .park => state.onChannel (.subscriber .park)
  | .wake => state.onChannel (.subscriber .wake)
  | .timeout => state.onChannel (.subscriber .timeout)
  | .waitFails => state.onChannel (.subscriber .waitFails)
  | .free index =>
      if index < state.held.length then some { state with held := state.held.eraseIdx index }
      else none

end Step

/-- The channel's part of a step. -/
def channelEvent (account : Account Publisher) (borrowedMax : Nat) (state : State Publisher gst) :
    Event Publisher gst → Option (Transport.Event Publisher VideoFrame)
  | .publisher publisher act => some (.publisher publisher act)
  | .create => some (.subscriber (.call (.create returnsFor)))
  | .poll unlocked => some (.subscriber (.poll unlocked))
  | .receive none _ => some (.subscriber (.receive none))
  | .receive (some publisher) _ =>
      if state.borrowed account publisher < borrowedMax then
        some (.subscriber (.receive (some publisher)))
      else
        some (.subscriber .receiveFails)
  | .park => some (.subscriber .park)
  | .wake => some (.subscriber .wake)
  | .timeout => some (.subscriber .timeout)
  | .waitFails => some (.subscriber .waitFails)
  | .free _ => none

/-- A further sample may be borrowed whenever the source comes to a queued one. -/
def MayBorrow (account : Account Publisher) (borrowedMax : Nat) (state : State Publisher gst)
    (event : Event Publisher gst) : Prop :=
  ∀ publisher downstream, event = .receive (some publisher) downstream →
    state.borrowed account publisher < borrowedMax

/-- No `create` has failed. -/
def NeverFailed (state : State Publisher gst) : Prop :=
  state.channel.NeverFailed

/-! ## What a step does to the channel -/

section Steps

variable [DecidableEq Publisher] {account : Account Publisher} {borrowedMax : Nat}
variable {state next : State Publisher gst} {event : Event Publisher gst}

theorem onChannel_eq_some {act : Transport.Event Publisher VideoFrame}
    (taken : state.onChannel act = some next) : state.channel.step act = some next.channel := by
  obtain ⟨channel, stepped, rfl⟩ := Option.map_eq_some_iff.mp taken
  exact stepped

/-- **A step is one of the channel, or leaves it alone.** -/
theorem channel_step (taken : state.step account borrowedMax event = some next) :
    match state.channelEvent account borrowedMax event with
    | some act => state.channel.step act = some next.channel
    | none => next.channel = state.channel := by
  cases event with
  | free index =>
      simp only [step] at taken
      split at taken
      · cases taken
        rfl
      · cases taken
  | receive connection downstream =>
      cases connection with
      | none => exact onChannel_eq_some taken
      | some publisher =>
          simp only [step, receive] at taken
          simp only [channelEvent]
          split at taken
          · cases taken
          · split at taken
            · rename_i fewer
              have stepped := onChannel_eq_some taken
              rwa [if_pos fewer]
            · rename_i all
              rw [if_neg all]
              exact onChannel_eq_some taken
  | _ => exact onChannel_eq_some taken

theorem step_of_channelEvent {act : Transport.Event Publisher VideoFrame}
    (taken : state.step account borrowedMax event = some next)
    (acts : state.channelEvent account borrowedMax event = some act) :
    state.channel.step act = some next.channel := by
  have stepped := channel_step taken
  rwa [acts] at stepped

theorem channel_of_channelEvent (taken : state.step account borrowedMax event = some next)
    (idle : state.channelEvent account borrowedMax event = none) :
    next.channel = state.channel := by
  have stepped := channel_step taken
  rwa [idle] at stepped

omit [DecidableEq Publisher] in
/-- The source is asked for nothing but its own loop. -/
theorem channelEvent_call {request : Request VideoFrame}
    (acts : state.channelEvent account borrowedMax event = some (.subscriber (.call request))) :
    request = .create returnsFor := by
  cases event with
  | create =>
      cases acts
      rfl
  | receive connection downstream =>
      cases connection with
      | none => cases acts
      | some publisher =>
          simp only [channelEvent] at acts
          split at acts
          · cases acts
          · cases acts
  | _ => cases acts

omit [DecidableEq Publisher] in
/-- **A look fails exactly when no further sample may be borrowed for it.** -/
theorem mayBorrow_iff :
    state.MayBorrow account borrowedMax event ↔
      state.channelEvent account borrowedMax event ≠ some (.subscriber .receiveFails) := by
  cases event with
  | receive connection downstream =>
      cases connection with
      | none => exact iff_of_true nofun nofun
      | some publisher =>
          simp only [channelEvent]
          constructor
          · intro may
            rw [if_pos (may publisher downstream rfl)]
            simp
          · rintro looks _ _ ⟨⟩
            by_contra neither
            exact looks (if_neg neither)
  | _ => exact iff_of_true nofun nofun

/-- The call in progress is a `create` of the source. -/
def Creates (state : State Publisher gst) : Prop :=
  state.channel.CallHolds (Creating returnsFor)

theorem Creates.step (creates : state.Creates)
    (taken : state.step account borrowedMax event = some next) : next.Creates := by
  unfold Creates
  cases acts : state.channelEvent account borrowedMax event with
  | none => exact channel_of_channelEvent taken acts ▸ creates
  | some act =>
      refine Transport.State.CallHolds.step (Transport.State.passedOn_creating _) creates ?_
        (step_of_channelEvent taken acts)
      rintro request rfl
      obtain rfl := channelEvent_call acts
      exact creating_create returnsFor

/-- **No `create` fails in a step exactly when a further sample may be borrowed.** -/
theorem neverFailed_step_iff (creates : state.Creates) (before : state.NeverFailed)
    (taken : state.step account borrowedMax event = some next) :
    next.NeverFailed ↔ state.MayBorrow account borrowedMax event := by
  rw [mayBorrow_iff]
  unfold NeverFailed
  cases acts : state.channelEvent account borrowedMax event with
  | none =>
      rw [channel_of_channelEvent taken acts]
      exact iff_of_true before nofun
  | some act =>
      have stepped := step_of_channelEvent taken acts
      constructor
      · rintro after ⟨⟩
        exact Transport.State.not_neverFailed_of_receiveFails creates stepped after
      · intro looks
        exact Transport.State.neverFailed_of_step creates before stepped
          fun same => looks (congrArg some same)

end Steps

/-! ## Whole runs -/

section Runs

variable [DecidableEq Publisher] {account : Account Publisher} {borrowedMax : Nat}
variable {state : State Publisher gst} {events : List (Event Publisher gst)}
variable {guard : State Publisher gst → Event Publisher gst → Prop}

/-- **What the source does in a run is a run of the channel.** -/
theorem channel_run (run : Run (step account borrowedMax) guard started events state) :
    ∃ acts, Run Transport.State.step unguarded Transport.State.started acts state.channel := by
  induction run with
  | nil => exact ⟨[], .nil⟩
  | @snoc middle finish events event _ _ taken ih =>
      obtain ⟨earlier, reached⟩ := ih
      cases acts : middle.channelEvent account borrowedMax event with
      | none => exact ⟨earlier, channel_of_channelEvent taken acts ▸ reached⟩
      | some act =>
          exact ⟨earlier ++ [act], .snoc reached trivial (step_of_channelEvent taken acts)⟩

theorem creates_of_run (run : Run (step account borrowedMax) guard started events state) :
    state.Creates := by
  refine run.invariant Creates ?_ fun _ _ _ creates _ taken => creates.step taken
  intro call current
  cases current

/-- **No `create` fails in a run exactly when a further sample may be borrowed
whenever the source comes to a queued one**, whichever of the held samples count. -/
theorem neverFailed_iff (run : Run (step account borrowedMax) unguarded started events state) :
    state.NeverFailed ↔
      Run (step account borrowedMax) (MayBorrow account borrowedMax) started events state := by
  refine run.iff_guarded NeverFailed ?_ ?_ ?_
  · intro result returned
    cases returned
  · intro before event after taken never result returned
    cases acts : before.channelEvent account borrowedMax event with
    | none => exact never result (channel_of_channelEvent taken acts ▸ returned)
    | some act =>
        exact never result
          (Transport.State.returns_of_step (step_of_channelEvent taken acts) returned)
  · intro events before event after earlier never taken
    exact neverFailed_step_iff (creates_of_run earlier) never taken

end Runs

/-- A sample is sent, and `create` looks for it. -/
def oneCreate : List (Event Unit twoCapsGst) :=
  [.publisher () (.start (.renderZeroCopy ⟨onePixelHeader 4, [1, 2, 3, 4]⟩)),
    .publisher () (.send 0), .publisher () (.notify false), .create, .poll false,
    .receive (some ()) fun _ => true]

/-- The second sample is received when the first buffer is free again. -/
theorem neverFailed_iff_freed :
    ∃ state,
      Run (step .ofSubscriber 1) unguarded started (oneCreate ++ [.free 0] ++ oneCreate) state ∧
      state.held.length = 1 ∧ state.channel.returns.length = 2 ∧
      Run (step .ofSubscriber 1) (MayBorrow .ofSubscriber 1) started
        (oneCreate ++ [.free 0] ++ oneCreate) state := by
  refine ⟨_, execute_eq_some_iff.mp rfl, rfl, rfl, ?_⟩
  refine (neverFailed_iff (execute_eq_some_iff.mp rfl)).mp ?_
  intro result returned
  rcases List.mem_pair.mp returned with rfl | rfl
  · exact nofun
  · exact nofun

/-- **With one sample to borrow, the second `create` fails while downstream holds the
first buffer**, in either account. -/
theorem create_fails_while_held :
    (∃ state, Run (step .ofSubscriber 1) unguarded started (oneCreate ++ oneCreate) state ∧
      state.held.length = 1 ∧ ¬ state.NeverFailed) ∧
    ∃ state, Run (step .ofConnection 1) unguarded started (oneCreate ++ oneCreate) state ∧
      state.held.length = 1 ∧ ¬ state.NeverFailed := by
  refine ⟨⟨_, execute_eq_some_iff.mp rfl, rfl, ?_⟩, ⟨_, execute_eq_some_iff.mp rfl, rfl, ?_⟩⟩
  all_goals
    intro never
    exact never _ (List.mem_cons_of_mem _ (List.mem_singleton_self _)) rfl

end State

end GstIceoryx2.Element.Borrowing
