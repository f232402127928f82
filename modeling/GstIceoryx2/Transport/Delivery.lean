import GstIceoryx2.Foundations.Traces
import GstIceoryx2.Transport.HandOver

/-!
# What becomes of every frame

A frame that a publisher sends is queued on the connection to it. It leaves the
queue at the front: a call of the subscriber finds it, or a later frame of the same
publisher evicts it. A call that finds a frame returns it, unless it is the source's
and the source drops the frame.

In every interleaving, for each publisher, the frames that left its queue, and behind
them those still there, are exactly the frames that it sent, in that order; and the
frames that the calls returned are exactly those that a call found and did not drop
(`frames_conserved`). No frame is returned twice, and none is lost between the queue
and the caller. So a caller gets the frames of each publisher in the order in which
that publisher began to publish them, each at most once (`returned_in_order`).
-/

set_option autoImplicit false

namespace GstIceoryx2.Transport

open Foundations

variable {Publisher Frame : Type}

/-! ## What is recorded -/

/-- The frame that a routine publishes. -/
def Routine.frame : Routine Frame → Frame
  | publishFrame frame => frame
  | renderZeroCopy frame => frame
  | renderCopy frame => frame
  | publishEos frame => frame

/-- The frame of an operation that sends one. -/
def PublishOp.sent : PublishOp Frame → Option Frame
  | send frame => some frame
  | _ => none

/-- The frame that a call returns. -/
def Reply.found : Reply Frame → Option Frame
  | .frame found => some found
  | .taken found => some found
  | _ => none

/-- The call returns the frame when it finds it. Only the source drops any. -/
def Request.keeps : Request Frame → Frame → Bool
  | create returns => returns
  | _ => fun _ => true

/-- A frame that left its queue, and the request whose call found it, if one did. -/
structure Departure (Frame : Type) where
  frame : Frame
  foundBy : Option (Request Frame)

/-- The frame, when it was found by a call that keeps it. -/
def Departure.kept (departure : Departure Frame) : Option Frame :=
  departure.foundBy.bind fun request =>
    if request.keeps departure.frame then some departure.frame else none

namespace State

/-- The frames that calls returned, in the order of their returns. -/
def returned (state : State Publisher Frame) : List Frame :=
  state.returns.filterMap (·.reply.found)

/-- What an event begins to publish. -/
def begins (_ : State Publisher Frame) : Event Publisher Frame → List (Publisher × Frame)
  | .publisher publisher (.start routine) => [(publisher, routine.frame)]
  | _ => []

/-- What an event sends. -/
def sends (state : State Publisher Frame) : Event Publisher Frame → List (Publisher × Frame)
  | .publisher publisher (.send _) =>
      match state.publishers publisher with
      | .send frame :: _ => [(publisher, frame)]
      | _ => []
  | _ => []

/-- What leaves a queue by an event, and whose it is. -/
def departs [DecidableEq Publisher] (state : State Publisher Frame) :
    Event Publisher Frame → List (Publisher × Departure Frame)
  | .publisher publisher (.send evicted) =>
      match state.publishers publisher with
      | .send frame :: _ =>
          ((lane publisher state.ring ++ [frame]).take evicted).map
            fun frame => (publisher, ⟨frame, none⟩)
      | _ => []
  | .subscriber (.receive (some publisher)) =>
      match state.call, lane publisher state.ring with
      | some call, frame :: _ => [(publisher, ⟨frame, some call.request⟩)]
      | _, _ => []
  | _ => []

end State

/-! ## What a call does with a frame -/

/-- A frame that is found is returned when it is kept, and nothing else is returned. -/
def Settles (keeps : Frame → Bool) : Code Frame → Prop
  | .ret reply => reply.found = none
  | .again => True
  | .poll next => ∀ unlocked, Settles keeps (next unlocked)
  | .receive next =>
      (∀ frame, if keeps frame then
          ∃ reply, next (.frame frame) = .ret reply ∧ reply.found = some frame
        else Settles keeps (next (.frame frame))) ∧
      Settles keeps (next .empty) ∧ Settles keeps (next .failed)
  | .wait _ next => ∀ succeeded, Settles keeps (next succeeded)

theorem settles_receive : Settles (fun _ => true) (receive : Code Frame) :=
  ⟨fun _ => ⟨_, rfl, rfl⟩, rfl, rfl⟩

theorem settles_receiveBlocking (blockMs : Option Nat) :
    Settles (fun _ => true) (receiveBlocking blockMs : Code Frame) := by
  refine ⟨fun _ => ⟨_, rfl, rfl⟩, ?_, rfl⟩
  intro succeeded
  cases succeeded with
  | false => exact rfl
  | true => exact settles_receive

theorem settles_pyReceiveBlocking (blockMs : Option Nat) :
    Settles (fun _ => true) (pyReceiveBlocking blockMs : Code Frame) := by
  refine ⟨fun _ => ⟨_, rfl, rfl⟩, ?_, rfl⟩
  intro succeeded
  cases succeeded with
  | false => exact rfl
  | true => exact ⟨fun _ => ⟨_, rfl, rfl⟩, rfl, rfl⟩

theorem settles_create (returns : Frame → Bool) : Settles returns (create returns) := by
  intro unlocked
  cases unlocked with
  | true => exact rfl
  | false =>
      refine ⟨?_, fun _ => trivial, rfl⟩
      intro frame
      cases kept : returns frame with
      | true => simp [kept, Reply.found]
      | false => simp [kept, Settles]

/-- **Every call returns what it finds and keeps, and nothing else.** -/
theorem settles_code (request : Request Frame) : Settles request.keeps request.code := by
  cases request with
  | receive => exact settles_receive
  | receiveBlocking blockMs => exact settles_receiveBlocking blockMs
  | pyReceiveBlocking blockMs => exact settles_pyReceiveBlocking blockMs
  | create returns => exact settles_create returns

/-- A frame that is found is kept and returned, or dropped. -/
theorem settles_found {keeps : Frame → Bool} {go : Answer Frame → Code Frame}
    (settles : Settles keeps (.receive go)) (frame : Frame) :
    (keeps frame = true ∧ ∃ reply, go (.frame frame) = .ret reply ∧ reply.found = some frame) ∨
      (keeps frame = false ∧ Settles keeps (go (.frame frame))) := by
  have found := settles.1 frame
  cases kept : keeps frame with
  | true =>
      rw [kept, if_pos rfl] at found
      exact .inl ⟨rfl, found⟩
  | false =>
      rw [kept, if_neg Bool.false_ne_true] at found
      exact .inr ⟨rfl, found⟩

namespace State

/-- The call in progress returns what it finds and keeps, and nothing else. -/
def Settling (state : State Publisher Frame) : Prop :=
  state.CallHolds fun request code => Settles request.keeps code

theorem passedOn_settles :
    PassedOn fun (request : Request Frame) code => Settles request.keeps code where
  follows := by
    intro request code after settles follows
    cases follows with
    | polled next unlocked => exact .inl (settles unlocked)
    | answered next answer =>
        cases answer with
        | frame frame =>
            rcases settles_found settles frame with ⟨-, reply, returned, -⟩ | ⟨-, goes⟩
            · exact .inr ⟨reply, returned⟩
            · exact .inl goes
        | empty => exact .inl settles.2.1
        | failed => exact .inl settles.2.2
    | waited timeout next succeeded => exact .inl (settles succeeded)
  again := fun {request} _ _ => settles_code request

section Steps

variable {state next : State Publisher Frame} {call : Call Frame}

/-- A call that goes on with code that found nothing returns no frame. -/
theorem returned_resume_of_settles {keeps : Frame → Bool} {code : Code Frame}
    (settles : Settles keeps code) : (state.resume call code).returned = state.returned := by
  cases code with
  | ret reply =>
      have nothing : reply.found = none := settles
      simp only [resume, returned, List.filterMap_append, List.filterMap_cons, nothing,
        List.filterMap_nil, List.append_nil]
  | again => rfl
  | poll go => rfl
  | receive go => rfl
  | wait timeout go => rfl

theorem returned_resume_of_found {reply : Reply Frame} {frame : Frame}
    (found : reply.found = some frame) :
    (state.resume call (.ret reply)).returned = state.returned ++ [frame] := by
  simp only [resume, returned, List.filterMap_append, List.filterMap_cons, found,
    List.filterMap_nil]

/-! ## One step -/

/-- A frame that was found by a call that keeps it is returned by it. -/
theorem returned_resume_of_receive {go : Answer Frame → Code Frame} {frame : Frame}
    (settles : Settles call.request.keeps (.receive go)) :
    (state.resume call (go (.frame frame))).returned =
      state.returned ++ (Departure.mk frame (some call.request)).kept.toList := by
  rcases settles_found settles frame with ⟨kept, reply, returns, found⟩ | ⟨dropped, goes⟩
  · rw [returns, returned_resume_of_found found]
    simp only [Departure.kept, Option.bind_some, kept, if_true, Option.toList_some]
  · rw [returned_resume_of_settles goes]
    simp only [Departure.kept, Option.bind_some, dropped, Bool.false_eq_true, if_false,
      Option.toList_none, List.append_nil]

variable [DecidableEq Publisher]

/-- What one step does to the frames: what a publisher sends enters its queue behind
what is there, what leaves a queue leaves it at the front, and a call returns what it
found and keeps. -/
structure Moves (state : State Publisher Frame) (event : Event Publisher Frame)
    (next : State Publisher Frame) : Prop where
  ring : ∀ publisher, lane publisher state.ring ++ lane publisher (state.sends event) =
    (lane publisher (state.departs event)).map Departure.frame ++ lane publisher next.ring
  returned : next.returned = state.returned ++ (state.departs event).filterMap (·.2.kept)

/-- A step that neither sends nor finds anything. -/
theorem moves_of_silent {event : Event Publisher Frame} (sends : state.sends event = [])
    (departs : state.departs event = []) (ring : next.ring = state.ring)
    (returned : next.returned = state.returned) : state.Moves event next where
  ring := by
    intro publisher
    rw [sends, departs, ring, lane_nil, lane_nil, List.map_nil, List.append_nil, List.nil_append]
  returned := by rw [departs, List.filterMap_nil, List.append_nil, returned]

/-- **What a step of the subscriber does to the frames.** -/
theorem moves_subscriberStepped (settling : state.Settling) {act : SubscriberAct Publisher Frame}
    (taken : SubscriberStepped state act next) : state.Moves (.subscriber act) next := by
  cases taken with
  | call request idle => exact moves_of_silent rfl rfl rfl rfl
  | park current stands => exact moves_of_silent rfl rfl rfl rfl
  | poll unlocked current stands =>
      exact moves_of_silent rfl rfl ring_resume
        (returned_resume_of_settles (settling.at_code current stands unlocked))
  | receiveEmpty current stands empty =>
      exact moves_of_silent rfl rfl ring_resume
        (returned_resume_of_settles (settling.at_code current stands).2.1)
  | @receiveFrame call go publisher frame rest current stands queued =>
      have departs : state.departs (.subscriber (.receive (some publisher))) =
          [(publisher, ⟨frame, some call.request⟩)] := by
        simp only [State.departs, current, queued]
      refine ⟨fun other => ?_, ?_⟩
      · rw [departs, ring_resume]
        simp only [State.sends, lane_nil, List.append_nil]
        by_cases apart : other = publisher
        · subst apart
          rw [lane_cons_self, lane_nil, lane_pop_self, queued]
          rfl
        · rw [lane_cons_of_ne (Ne.symm apart), lane_nil, lane_pop_of_ne apart]
          rfl
      · rw [departs, returned_resume_of_receive (settling.at_code current stands)]
        simp only [List.filterMap_cons, List.filterMap_nil]
        cases (Departure.mk frame (some call.request)).kept <;> rfl
  | receiveFails current stands =>
      exact moves_of_silent rfl rfl ring_resume
        (returned_resume_of_settles (settling.at_code current stands).2.2)
  | wake current stands parked pending =>
      refine moves_of_silent rfl rfl ?_ ?_
      · rw [ring_resume]
      · exact returned_resume_of_settles (settling.at_code current stands true)
  | timeout current stands parked nonePending =>
      exact moves_of_silent rfl rfl ring_resume
        (returned_resume_of_settles (settling.at_code current stands true))
  | waitFails current stands parked =>
      exact moves_of_silent rfl rfl ring_resume
        (returned_resume_of_settles (settling.at_code current stands false))

end Steps

section Publish

variable [DecidableEq Publisher] {state next : State Publisher Frame} {publisher : Publisher}

/-- The frames that a publisher has begun to publish and not sent. -/
def due (state : State Publisher Frame) (publisher : Publisher) : List Frame :=
  (state.publishers publisher).filterMap PublishOp.sent

theorem due_proceed (state : State Publisher Frame) (publisher : Publisher)
    (ops : List (PublishOp Frame)) :
    (state.proceed publisher ops).due publisher = ops.filterMap PublishOp.sent := by
  simp only [due, proceed, Function.update_self]

/-- What a step of a publisher does: it moves frames, and only what was begun is sent. -/
structure Publishes (state : State Publisher Frame) (publisher : Publisher)
    (act : PublisherAct Frame) (next : State Publisher Frame) : Prop where
  moves : state.Moves (.publisher publisher act) next
  due : ((state.sends (.publisher publisher act)).map Prod.snd ++ next.due publisher).Sublist
    (state.due publisher ++ (state.begins (.publisher publisher act)).map Prod.snd)

/-- A step that neither begins nor sends anything. -/
theorem publishes_of_silent {act : PublisherAct Frame} (ops : List (PublishOp Frame))
    (sends : state.sends (.publisher publisher act) = [])
    (departs : state.departs (.publisher publisher act) = [])
    (due : (ops.filterMap PublishOp.sent).Sublist (state.due publisher))
    (ring : next.ring = state.ring) (returns : next.returns = state.returns)
    (proceeds : next.publishers publisher = ops) : Publishes state publisher act next where
  moves := moves_of_silent sends departs ring (by rw [returned, returned, returns])
  due := by
    rw [sends, List.map_nil, List.nil_append, State.due, proceeds]
    exact due.trans (List.sublist_append_left _ _)

/-- A sent frame enters its own queue, and what is evicted leaves it unreturned. -/
theorem moves_of_send {frame : Frame} {ops : List (PublishOp Frame)} {evicted : Nat}
    (due : state.publishers publisher = .send frame :: ops) :
    state.Moves (.publisher publisher (.send evicted))
      ((state.enqueue publisher frame evicted).proceed publisher ops) := by
  have departs : state.departs (.publisher publisher (.send evicted)) =
      ((lane publisher state.ring ++ [frame]).take evicted).map
        fun frame => (publisher, ⟨frame, none⟩) := by
    simp only [State.departs, due]
  have sends : state.sends (.publisher publisher (.send evicted)) = [(publisher, frame)] := by
    simp only [State.sends, due]
  have labelled : ∀ item ∈ state.departs (.publisher publisher (.send evicted)),
      item.1 = publisher := by
    intro item member
    rw [departs] at member
    obtain ⟨frame, -, rfl⟩ := List.mem_map.mp member
    rfl
  have unreturned : (state.departs (.publisher publisher (.send evicted))).filterMap (·.2.kept) =
      [] := by
    rw [departs, List.filterMap_map]
    exact List.filterMap_eq_nil_iff.mpr fun _ _ => rfl
  refine ⟨fun other => ?_, by rw [unreturned, List.append_nil]; rfl⟩
  rw [sends, lane_of_labelled labelled other]
  by_cases apart : publisher = other
  · subst apart
    rw [if_pos rfl, departs, List.map_map, List.map_map, lane_cons_self, lane_nil]
    refine .trans (List.take_append_drop evicted _).symm ?_
    exact congrArg₂ (· ++ ·) (List.map_id _).symm (lane_enqueue_self publisher frame evicted).symm
  · rw [if_neg apart, List.map_nil, lane_cons_of_ne apart, lane_nil, List.append_nil,
      List.nil_append]
    refine .trans ?_ (lane_popMany_of_ne (Ne.symm apart) evicted _).symm
    rw [lane_append, lane_cons_of_ne apart, lane_nil, List.append_nil]

/-- **What a step of a publisher does to the frames.** -/
theorem publishes_of_step {act : PublisherAct Frame}
    (taken : state.publisherStep publisher act = some next) :
    Publishes state publisher act next := by
  cases act with
  | start routine =>
      simp only [publisherStep] at taken
      split at taken
      · cases taken
        refine ⟨moves_of_silent rfl rfl rfl rfl, ?_⟩
        rw [due_proceed]
        cases routine <;> exact List.sublist_append_right _ _
      · cases taken
  | loan =>
      simp only [publisherStep] at taken
      split at taken
      · rename_i ops due
        cases taken
        refine publishes_of_silent ops rfl rfl ?_ rfl rfl (Function.update_self ..)
        rw [State.due, due]
        exact List.Sublist.refl _
      · cases taken
  | send evicted =>
      simp only [publisherStep] at taken
      split at taken
      · rename_i frame ops due
        split_ifs at taken with older
        cases taken
        refine ⟨moves_of_send due, ?_⟩
        rw [due_proceed, State.due, due]
        simp only [State.sends, due]
        exact List.sublist_append_left _ _
      · cases taken
  | notify coalesced =>
      simp only [publisherStep] at taken
      split at taken
      · rename_i ops due
        have kept : (ops.filterMap PublishOp.sent).Sublist (state.due publisher) := by
          rw [State.due, due]
          exact List.Sublist.refl _
        split_ifs at taken
        · cases taken
          exact publishes_of_silent ops rfl rfl kept rfl rfl (Function.update_self ..)
        · cases taken
          exact publishes_of_silent ops rfl rfl kept rfl rfl (Function.update_self ..)
      · cases taken
  | fail =>
      simp only [publisherStep] at taken
      split at taken
      · cases taken
        exact publishes_of_silent [] rfl rfl (List.nil_sublist _) rfl rfl (Function.update_self ..)
      · cases taken
        exact publishes_of_silent [] rfl rfl (List.nil_sublist _) rfl rfl (Function.update_self ..)
      · cases taken

end Publish

/-! ## Whole runs -/

section Runs

variable [DecidableEq Publisher] {state : State Publisher Frame}
variable {events : List (Event Publisher Frame)}

theorem settling_of_run {guard : State Publisher Frame → Event Publisher Frame → Prop}
    (run : Run step guard started events state) : state.Settling := by
  refine run.invariant Settling nofun ?_
  intro before event after settling _ taken
  exact CallHolds.step passedOn_settles settling (fun request _ => settles_code request) taken

/-- **One step moves frames and loses none.** -/
theorem moves_of_step {next : State Publisher Frame} {event : Event Publisher Frame}
    (settling : state.Settling) (taken : state.step event = some next) :
    state.Moves event next := by
  cases event with
  | publisher publisher act => exact (publishes_of_step taken).moves
  | subscriber act => exact moves_subscriberStepped settling (subscriberStepped_of_step taken)

/-- **Frames are conserved.** In every interleaving and for each publisher, the frames
that left its queue and behind them those in it are the frames that it sent, in order;
and the calls have returned exactly the frames that they found and kept, in order. -/
theorem frames_conserved (run : Run step unguarded started events state) :
    (∀ publisher,
      (lane publisher (emitted step departs started events)).map Departure.frame ++
          lane publisher state.ring =
        lane publisher (emitted step sends started events)) ∧
      state.returned = (emitted step departs started events).filterMap (·.2.kept) := by
  induction run with
  | nil => exact ⟨fun _ => rfl, rfl⟩
  | @snoc middle finish events event earlier _ taken ih =>
      have moves := moves_of_step (settling_of_run earlier) taken
      obtain ⟨conserved, found⟩ := ih
      rw [earlier.emitted_snoc, earlier.emitted_snoc, List.filterMap_append]
      refine ⟨fun publisher => ?_, by rw [moves.returned, found]⟩
      rw [lane_append, lane_append, List.map_append, List.append_assoc, ← moves.ring,
        ← List.append_assoc, conserved]

/-- Two publishers send three frames, the third evicts the first, and a call finds the
third before the second. -/
def twoPublishers : List (Event Bool Nat) :=
  [.publisher true (.start (.publishFrame 1)), .publisher true .loan, .publisher true (.send 0),
    .publisher false (.start (.renderZeroCopy 2)), .publisher false (.send 0),
    .publisher true (.notify false), .publisher false (.notify true),
    .publisher true (.start (.renderZeroCopy 3)), .publisher true (.send 1),
    .subscriber (.call .receive), .subscriber (.receive (some true))]

theorem frames_conserved_twoPublishers :
    ∃ state : State Bool Nat, state.ring = [(false, 2)] ∧ state.returned = [3] ∧
      (∀ publisher,
        (lane publisher (emitted step departs started twoPublishers)).map Departure.frame ++
            lane publisher state.ring =
          lane publisher (emitted step sends started twoPublishers)) ∧
      state.returned = (emitted step departs started twoPublishers).filterMap (·.2.kept) := by
  have run : Run step unguarded (started : State Bool Nat) twoPublishers _ :=
    execute_eq_some_iff.mp rfl
  obtain ⟨conserved, found⟩ := frames_conserved run
  exact ⟨_, rfl, rfl, conserved, found⟩

/-! ### The frames of one publisher -/

/-- The frames of one publisher. -/
def ofPublisher (publisher : Publisher) (frames : List (Publisher × Frame)) :
    List (Publisher × Frame) :=
  frames.filter (·.1 = publisher)

omit [DecidableEq Publisher] in
theorem label_of_begins {publisher : Publisher} {act : PublisherAct Frame} :
    ∀ entry ∈ state.begins (.publisher publisher act), entry.1 = publisher := by
  cases act with
  | start routine =>
      intro entry member
      rw [List.mem_singleton.mp member]
  | _ => exact nofun

omit [DecidableEq Publisher] in
theorem label_of_sends {publisher : Publisher} {act : PublisherAct Frame} :
    ∀ entry ∈ state.sends (.publisher publisher act), entry.1 = publisher := by
  cases act with
  | send evicted =>
      intro entry member
      simp only [State.sends] at member
      split at member
      · rw [List.mem_singleton.mp member]
      · cases member
  | _ => exact nofun

/-- A step of one publisher leaves what another has still to do. -/
theorem due_of_other {next : State Publisher Frame} {publisher other : Publisher}
    (apart : other ≠ publisher) (taken : PublisherStepped state publisher next) :
    next.due other = state.due other := by
  have same : next.publishers other = state.publishers other := by
    cases taken <;> exact Function.update_of_ne apart _ _
  rw [due, due, same]

/-- **What a step sends for a publisher was begun by it and not sent before.** -/
theorem own_of_step {next : State Publisher Frame} {event : Event Publisher Frame}
    (taken : state.step event = some next) (publisher : Publisher) :
    (lane publisher (state.sends event) ++ next.due publisher).Sublist
      (state.due publisher ++ lane publisher (state.begins event)) := by
  cases event with
  | publisher actor act =>
      rw [lane_of_labelled label_of_sends, lane_of_labelled label_of_begins]
      split_ifs with same
      · subst same
        exact (publishes_of_step taken).due
      · rw [List.nil_append, List.append_nil,
          due_of_other (Ne.symm same) (publisherStepped_of_step taken)]
  | subscriber act =>
      have same : next.publishers = state.publishers := by
        cases subscriberStepped_of_step taken <;> first | rfl | exact publishers_resume
      have kept : next.due publisher = state.due publisher := by rw [due, due, same]
      rw [kept]
      exact List.sublist_append_left _ _

/-- What a publisher sent, and behind it what it has still to send, it began in that
order. -/
theorem own_of_run (run : Run step unguarded started events state) (publisher : Publisher) :
    (lane publisher (emitted step sends started events) ++ state.due publisher).Sublist
      (lane publisher (emitted step begins started events)) := by
  induction run with
  | nil => exact List.Sublist.refl _
  | @snoc middle finish events event earlier _ taken ih =>
      rw [earlier.emitted_snoc, earlier.emitted_snoc, lane_append, lane_append, List.append_assoc]
      refine ((own_of_step taken publisher).append_left _).trans ?_
      rw [← List.append_assoc]
      exact ih.append_right _

omit [DecidableEq Publisher] in
/-- What is kept of a departure is its frame. -/
theorem frame_of_kept {departure : Departure Frame} {frame : Frame}
    (kept : departure.kept = some frame) : departure.frame = frame := by
  obtain ⟨request, -, returns⟩ := Option.bind_eq_some_iff.mp kept
  split_ifs at returns
  exact Option.some.inj returns

/-- What is kept of the departures are frames that departed. -/
theorem kept_sublist (departures : List (Departure Frame)) :
    (departures.filterMap Departure.kept).Sublist (departures.map Departure.frame) := by
  induction departures with
  | nil => exact .slnil
  | cons departure departures ih =>
      cases kept : departure.kept with
      | none =>
          rw [List.filterMap_cons_none kept]
          exact ih.cons departure.frame
      | some frame =>
          rw [List.filterMap_cons_some kept, List.map_cons, frame_of_kept kept]
          exact ih.cons_cons frame

/-- **The calls return the frames of every publisher in the order in which it began to
publish them, each at most once.** The frames that were returned can be told apart by
their publishers so that this holds, whatever else is sent in between. -/
theorem returned_in_order (run : Run step unguarded started events state) :
    ∃ labelled : List (Publisher × Frame), labelled.map Prod.snd = state.returned ∧
      ∀ publisher, ((ofPublisher publisher labelled).map Prod.snd).Sublist
        ((ofPublisher publisher (emitted step begins started events)).map Prod.snd) := by
  obtain ⟨conserved, found⟩ := frames_conserved run
  refine ⟨mapLanes Departure.kept (emitted step departs started events), ?_, fun publisher => ?_⟩
  · rw [map_snd_mapLanes, found]
  · have sent : (lane publisher
        (mapLanes Departure.kept (emitted step departs started events))).Sublist
          (lane publisher (emitted step sends started events)) := by
      rw [lane_mapLanes, ← conserved publisher]
      exact (kept_sublist _).trans (List.sublist_append_left _ _)
    exact sent.trans ((List.sublist_append_left _ _).trans (own_of_run run publisher))

theorem returned_in_order_twoPublishers :
    ∃ (state : State Bool Nat) (labelled : List (Bool × Nat)),
      Run step unguarded started twoPublishers state ∧ labelled.map Prod.snd = [3] ∧
      ∀ publisher, ((ofPublisher publisher labelled).map Prod.snd).Sublist
        ((ofPublisher publisher (emitted step begins started twoPublishers)).map Prod.snd) := by
  have run : Run step unguarded (started : State Bool Nat) twoPublishers _ :=
    execute_eq_some_iff.mp rfl
  obtain ⟨labelled, same, ordered⟩ := returned_in_order run
  exact ⟨_, labelled, run, same, ordered⟩

end Runs

end State

end GstIceoryx2.Transport
