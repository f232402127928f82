import GstIceoryx2.Transport.Delivery
import GstIceoryx2.Transport.Wakeup

/-!
# The loop of the source comes to its end

`create` takes frames in a loop until it returns for one, and looks at the unlock flag
before each. What it is waiting for is not in its hands: frames that it drops may come
before the one it returns for, from any connection, and publishers go on publishing all
the while.

When the source is not unlocked and a frame is queued that it returns for, the call
returns with the first such frame of some publisher, after at most two steps for each
frame that it drops and four more (`create_reaches_frame`). When it is unlocked, the
call returns after at most four steps, wherever it stood and however fast frames arrive
(`unlocked_create_ends`). Until then the call can always take its next step, since a
wait of the loop ends by itself.
-/

set_option autoImplicit false

namespace GstIceoryx2.Transport

open Foundations

variable {Publisher Frame : Type}

/-! ## Where a call stands -/

/-- The wait of the loop. -/
def createWait : Code Frame := .wait (some waitTimeout) fun _ => .again

/-- A turn of the loop that is not unlocked. -/
def createLook (returns : Frame → Bool) : Code Frame :=
  .receive fun
    | .frame frame => if returns frame then .ret (.taken frame) else .again
    | .empty => createWait
    | .failed => .ret .failed

theorem create_eq (returns : Frame → Bool) :
    create returns = .poll fun unlocked =>
      if unlocked then .ret .flushing else createLook returns := rfl

/-- The places in the loop. -/
inductive Place where
  | polls
  | looks
  | waits
  | parked
  deriving DecidableEq

/-- What the call has still to do at a place. -/
def Place.code (returns : Frame → Bool) : Place → Code Frame
  | polls => create returns
  | looks => createLook returns
  | waits => createWait
  | parked => createWait

/-- The call is parked on the listener. -/
def Place.isParked : Place → Bool
  | parked => true
  | _ => false

/-- The steps from a place to the end of the next look. -/
def Place.toLook : Place → Nat
  | looks => 1
  | polls => 2
  | parked => 3
  | waits => 4

/-- The steps from a place to the end of the next poll, when the next look finds
nothing. -/
def Place.toPoll : Place → Nat
  | polls => 1
  | parked => 2
  | waits => 3
  | looks => 4

theorem Place.toLook_bounds (place : Place) : 0 < place.toLook ∧ place.toLook ≤ 4 := by
  cases place <;> decide

theorem Place.toPoll_bounds (place : Place) : 0 < place.toPoll ∧ place.toPoll ≤ 4 := by
  cases place <;> decide

/-- A call of the loop is at a place in it, or about to start over. -/
def InLoop (request : Request Frame) (code : Code Frame) : Prop :=
  ∀ returns, request = .create returns →
    code = create returns ∨ code = createLook returns ∨ code = createWait ∨ code = .again

theorem inLoop_code (request : Request Frame) : InLoop request request.code := by
  rintro returns rfl
  exact .inl rfl

theorem code_ne_again (request : Request Frame) : request.code ≠ .again := by
  cases request <;> nofun

namespace State

theorem passedOn_inLoop : PassedOn (InLoop : Request Frame → Code Frame → Prop) where
  follows := by
    intro request code after inside follows
    by_cases ended : ∃ reply, after = .ret reply
    · exact .inr ended
    · refine .inl ?_
      intro returns asked
      rcases inside returns asked with stands | stands | stands | stands
      · rw [stands, create_eq] at follows
        cases follows with
        | polled _ unlocked =>
            cases unlocked with
            | true => exact absurd ⟨_, rfl⟩ ended
            | false => exact .inr (.inl rfl)
      · rw [stands] at follows
        cases follows with
        | answered _ answer =>
            cases answer with
            | frame frame =>
                dsimp only at ended ⊢
                split_ifs at ended ⊢
                · exact absurd ⟨_, rfl⟩ ended
                · exact .inr (.inr (.inr rfl))
            | empty => exact .inr (.inr (.inl rfl))
            | failed => exact absurd ⟨_, rfl⟩ ended
      · rw [stands] at follows
        cases follows with
        | waited _ _ succeeded => exact .inr (.inr (.inr rfl))
      · rw [stands] at follows
        cases follows
  again := fun {request _} _ => inLoop_code request

/-- The call in progress is one of the loop, and stands at a place in it. -/
def Inside (returns : Frame → Bool) (place : Place) (state : State Publisher Frame) : Prop :=
  ∃ call, state.call = some call ∧ call.request = .create returns ∧
    call.code = place.code returns ∧ call.parked = place.isParked

section Reach

variable {state next : State Publisher Frame}

/-- No call stands at the end of a turn: it has started over. -/
theorem resume_ne_again {call after : Call Frame} {code : Code Frame}
    (current : (state.resume call code).call = some after) : after.code ≠ .again := by
  cases code with
  | ret reply => cases current
  | again =>
      cases current
      exact code_ne_again call.request
  | poll go => cases current; nofun
  | receive go => cases current; nofun
  | wait timeout go => cases current; nofun

theorem ne_again_of_step [DecidableEq Publisher] {event : Event Publisher Frame}
    (before : state.CallHolds fun _ code => code ≠ .again) (taken : state.step event = some next) :
    next.CallHolds fun _ code => code ≠ .again := by
  cases event with
  | publisher publisher act => exact before.publisherStepped (publisherStepped_of_step taken)
  | subscriber act =>
      intro after current
      cases subscriberStepped_of_step taken with
      | call request idle =>
          cases current
          exact code_ne_again request
      | @park call _ _ current' _ =>
          cases current
          exact before call current'
      | poll unlocked _ _ => exact resume_ne_again current
      | receiveEmpty _ _ _ => exact resume_ne_again current
      | receiveFrame _ _ _ => exact resume_ne_again current
      | receiveFails _ _ => exact resume_ne_again current
      | wake _ _ _ _ => exact resume_ne_again current
      | timeout _ _ _ _ => exact resume_ne_again current
      | waitFails _ _ _ => exact resume_ne_again current

/-- A call of the loop in a reachable state stands at a place in it. -/
theorem inside_of_run [DecidableEq Publisher] {events : List (Event Publisher Frame)}
    (run : Run step unguarded started events state) {call : Call Frame}
    (current : state.call = some call) {returns : Frame → Bool}
    (asked : call.request = .create returns) : ∃ place, state.Inside returns place := by
  have inLoop : state.CallHolds InLoop := by
    refine run.invariant (CallHolds InLoop) nofun ?_
    intro before event after held _ taken
    exact held.step passedOn_inLoop (fun request _ => inLoop_code request) taken
  have goesOn : state.CallHolds fun _ code => code ≠ .again := by
    refine run.invariant (CallHolds fun _ code => code ≠ .again) nofun ?_
    intro before event after held _ taken
    exact ne_again_of_step held taken
  have unparked : (∀ timeout go, call.code ≠ .wait timeout go) → call.parked = false := by
    intro elsewhere
    refine Bool.eq_false_iff.mpr fun parked => ?_
    obtain ⟨timeout, go, waits⟩ := (attentive_of_run run).parks call current parked
    exact elsewhere timeout go waits
  rcases inLoop call current returns asked with stands | stands | stands | stands
  · exact ⟨.polls, call, current, asked, stands, unparked (by rw [stands]; nofun)⟩
  · exact ⟨.looks, call, current, asked, stands, unparked (by rw [stands]; nofun)⟩
  · cases parked : call.parked with
    | false => exact ⟨.waits, call, current, asked, stands, parked⟩
    | true => exact ⟨.parked, call, current, asked, stands, parked⟩
  · exact absurd stands (goesOn call current)

end Reach

/-! ## One step of the loop -/

/-- The call goes on at a place. -/
structure GoesOn (returns : Frame → Bool) (place : Place) (state next : State Publisher Frame) :
    Prop where
  inside : next.Inside returns place
  returns : next.returns = state.returns

/-- The call has returned. -/
def EndsWith (returns : Frame → Bool) (reply : Reply Frame) (state next : State Publisher Frame) :
    Prop :=
  ∃ result, next.returns = state.returns ++ [result] ∧ result.request = .create returns ∧
    result.reply = reply

/-- What a step of the subscriber does to a call of the loop, from its place. -/
inductive LoopStepped [DecidableEq Publisher] (returns : Frame → Bool)
    (state next : State Publisher Frame) : Place → SubscriberAct Publisher Frame → Prop where
  | flushes (ended : state.EndsWith returns .flushing next) :
      LoopStepped returns state next .polls (.poll true)
  | goesOn (on : state.GoesOn returns .looks next) (ring : next.ring = state.ring) :
      LoopStepped returns state next .polls (.poll false)
  | takes {publisher : Publisher} {frame : Frame} {rest : List Frame}
      (queued : lane publisher state.ring = frame :: rest) (kept : returns frame = true)
      (ended : state.EndsWith returns (.taken frame) next) :
      LoopStepped returns state next .looks (.receive (some publisher))
  | drops {publisher : Publisher} {frame : Frame} {rest : List Frame}
      (queued : lane publisher state.ring = frame :: rest) (dropped : returns frame = false)
      (on : state.GoesOn returns .polls next) (ring : next.ring = pop publisher state.ring) :
      LoopStepped returns state next .looks (.receive (some publisher))
  | misses (empty : state.ring = []) (on : state.GoesOn returns .waits next) :
      LoopStepped returns state next .looks (.receive none)
  | fails (ended : state.EndsWith returns .failed next) :
      LoopStepped returns state next .looks .receiveFails
  | parks (on : state.GoesOn returns .parked next) (ring : next.ring = state.ring) :
      LoopStepped returns state next .waits .park
  | wakes {act : SubscriberAct Publisher Frame} (on : state.GoesOn returns .polls next)
      (ring : next.ring = state.ring) : LoopStepped returns state next .parked act

section Loop

variable {returns : Frame → Bool} {state next : State Publisher Frame} {call : Call Frame}

/-- A call that starts over. -/
theorem inside_again (call : Call Frame) (asked : call.request = .create returns)
    (unparked : call.parked = false) : (state.resume call .again).Inside returns .polls :=
  ⟨_, rfl, asked, by rw [asked]; rfl, unparked⟩

theorem endsWith_ret (asked : call.request = .create returns) (reply : Reply Frame) :
    state.EndsWith returns reply (state.resume call (.ret reply)) :=
  ⟨_, rfl, asked, rfl⟩

/-- **What a step does to a call of the loop.** -/
theorem loopStepped_of_step [DecidableEq Publisher] {place : Place}
    (inside : state.Inside returns place) {act : SubscriberAct Publisher Frame}
    (taken : state.subscriberStep act = some next) :
    LoopStepped returns state next place act := by
  obtain ⟨call, current, asked, stands, parked⟩ := inside
  cases place with
  | polls =>
      have stands : call.code = .poll _ := stands.trans (create_eq returns)
      cases act with
      | poll unlocked =>
          simp only [subscriberStep, current, stands, Option.some.injEq] at taken
          subst taken
          cases unlocked with
          | true => exact .flushes (endsWith_ret asked .flushing)
          | false => exact .goesOn ⟨⟨_, rfl, asked, rfl, parked⟩, rfl⟩ rfl
      | receive connection => cases connection <;> simp [subscriberStep, current, stands] at taken
      | call | receiveFails | park | wake | timeout | waitFails =>
          simp [subscriberStep, current, stands] at taken
  | looks =>
      have stands : call.code = .receive _ := stands
      cases act with
      | receive connection =>
          cases subscriberStepped_of_step taken with
          | receiveEmpty current' stands' empty =>
              obtain rfl := Option.some.inj (current.symm.trans current')
              obtain rfl := Code.receive.inj (stands.symm.trans stands')
              exact .misses empty ⟨⟨_, rfl, asked, rfl, parked⟩, rfl⟩
          | @receiveFrame _ _ publisher frame _ current' stands' queued =>
              obtain rfl := Option.some.inj (current.symm.trans current')
              obtain rfl := Code.receive.inj (stands.symm.trans stands')
              cases kept : returns frame with
              | true =>
                  dsimp only
                  rw [kept, if_pos rfl]
                  exact .takes queued kept ⟨_, rfl, asked, rfl⟩
              | false =>
                  dsimp only
                  rw [kept, if_neg Bool.false_ne_true]
                  exact .drops queued kept ⟨inside_again _ asked parked, rfl⟩ ring_resume
      | receiveFails =>
          simp only [subscriberStep, current, stands, Option.some.injEq] at taken
          subst taken
          exact .fails (endsWith_ret asked .failed)
      | call | poll | park | wake | timeout | waitFails =>
          simp [subscriberStep, current, stands] at taken
  | waits =>
      have stands : call.code = .wait _ _ := stands
      have unparked : call.parked = false := parked
      cases act with
      | park =>
          simp only [subscriberStep, current, stands, unparked, Option.some.injEq] at taken
          subst taken
          exact .parks ⟨⟨_, rfl, asked, rfl, rfl⟩, rfl⟩ rfl
      | receive connection => cases connection <;> simp [subscriberStep, current, stands] at taken
      | call | poll | receiveFails | wake | timeout | waitFails =>
          simp [subscriberStep, current, stands, unparked] at taken
  | parked =>
      have stands : call.code = .wait _ _ := stands
      have parked : call.parked = true := parked
      cases act with
      | wake =>
          simp only [subscriberStep, current, stands, parked] at taken
          split_ifs at taken with pending
          cases taken
          exact .wakes ⟨inside_again _ asked rfl, rfl⟩ rfl
      | timeout =>
          simp only [subscriberStep, current, stands, parked] at taken
          split_ifs at taken with quiet
          cases taken
          exact .wakes ⟨inside_again _ asked rfl, rfl⟩ rfl
      | waitFails =>
          simp only [subscriberStep, current, stands, parked, Option.some.injEq] at taken
          subst taken
          exact .wakes ⟨inside_again _ asked rfl, rfl⟩ rfl
      | receive connection => cases connection <;> simp [subscriberStep, current, stands] at taken
      | call | poll | receiveFails | park =>
          simp [subscriberStep, current, stands, parked] at taken

/-- The steps that a call of the loop is taken by when nothing fails. -/
def Orderly (unlocked : Bool) : SubscriberAct Publisher Frame → Prop
  | .poll answer => answer = unlocked
  | .receive _ | .park | .wake | .timeout => True
  | .call _ | .receiveFails | .waitFails => False

/-- **The call can always take a step**, and a look at the unlock flag may answer
anything. A parked call is woken, or its wait times out. -/
theorem exists_step [DecidableEq Publisher] {place : Place} (inside : state.Inside returns place)
    (unlocked : Bool) :
    ∃ act after, Orderly unlocked act ∧ state.subscriberStep act = some after := by
  obtain ⟨call, current, asked, stands, parked⟩ := inside
  cases place with
  | polls =>
      have stands : call.code = .poll _ := stands.trans (create_eq returns)
      refine ⟨.poll unlocked, ?_⟩
      simp [Orderly, subscriberStep, current, stands]
  | looks =>
      have stands : call.code = .receive _ := stands
      by_cases empty : state.ring = []
      · refine ⟨.receive none, ?_⟩
        simp [Orderly, subscriberStep, current, stands, empty]
      · obtain ⟨publisher, frame, rest, queued⟩ := exists_lane_of_ne_nil empty
        refine ⟨.receive (some publisher), ?_⟩
        simp [Orderly, subscriberStep, current, stands, queued]
  | waits =>
      have stands : call.code = .wait _ _ := stands
      have unparked : call.parked = false := parked
      refine ⟨.park, ?_⟩
      simp [Orderly, subscriberStep, current, stands, unparked]
  | parked =>
      have stands : call.code = .wait _ _ := stands
      have parked : call.parked = true := parked
      by_cases pending : 0 < state.pending
      · refine ⟨.wake, ?_⟩
        simp [Orderly, subscriberStep, current, stands, parked, pending]
      · have quiet : state.pending = 0 := Nat.eq_zero_of_not_pos pending
        refine ⟨.timeout, ?_⟩
        simp [Orderly, subscriberStep, current, stands, parked, quiet]

end Loop

/-! ## Steps of the others -/

section Others

variable [DecidableEq Publisher] {returns : Frame → Bool} {state next : State Publisher Frame}
  {publisher : Publisher}

/-- A publisher leaves a call at its place. -/
theorem goesOn_of_publisherStepped {place : Place} (inside : state.Inside returns place)
    (taken : PublisherStepped state publisher next) : state.GoesOn returns place next := by
  refine ⟨?_, returns_publisherStepped taken⟩
  obtain ⟨call, current, rest⟩ := inside
  cases taken with
  | start routine idle => exact ⟨call, current, rest⟩
  | loan due => exact ⟨call, current, rest⟩
  | send due older =>
      exact ⟨{ call with quiet := false }, Option.map_eq_some_iff.mpr ⟨call, current, rfl⟩, rest⟩
  | notify due => exact ⟨call, current, rest⟩
  | coalesce due pending => exact ⟨call, current, rest⟩
  | fail due fallible => exact ⟨call, current, rest⟩

omit [DecidableEq Publisher] in
theorem returns_resume (state : State Publisher Frame) (call : Call Frame) (code : Code Frame) :
    state.returns <+: (state.resume call code).returns := by
  cases code with
  | ret reply => exact List.prefix_append _ _
  | again | poll | receive | wait => exact List.prefix_rfl

/-- What returned stays. -/
theorem returns_prefix_of_step {event : Event Publisher Frame}
    (taken : state.step event = some next) : state.returns <+: next.returns := by
  cases event with
  | publisher publisher act =>
      exact (returns_publisherStepped (publisherStepped_of_step taken)) ▸ List.prefix_rfl
  | subscriber act =>
      cases subscriberStepped_of_step taken with
      | call request idle => exact List.prefix_rfl
      | park current stands => exact List.prefix_rfl
      | poll unlocked current stands => exact returns_resume _ _ _
      | receiveEmpty current stands empty => exact returns_resume _ _ _
      | @receiveFrame _ _ publisher _ _ current stands queued =>
          exact returns_resume { state with ring := pop publisher state.ring } _ _
      | receiveFails current stands => exact returns_resume _ _ _
      | wake current stands parked pending =>
          exact returns_resume { state with pending := state.pending - 1 } _ _
      | timeout current stands parked quiet => exact returns_resume _ _ _
      | waitFails current stands parked => exact returns_resume _ _ _

/-- A publisher that evicts nothing leaves what is queued where it is. -/
theorem lane_of_publisherStep {act : PublisherAct Frame}
    (evicts : ∀ evicted, act = .send evicted → evicted = 0)
    (taken : state.publisherStep publisher act = some next) (other : Publisher) :
    lane other state.ring ++ lane other (state.sends (.publisher publisher act)) =
      lane other next.ring := by
  have departs : state.departs (.publisher publisher act) = [] := by
    cases act with
    | send evicted =>
        obtain rfl := evicts evicted rfl
        simp only [State.departs]
        split <;> rfl
    | start | loan | notify | fail => rfl
  have moved := (publishes_of_step taken).moves.ring other
  rwa [departs, lane_nil, List.map_nil, List.nil_append] at moved

end Others

/-! ## Whole runs -/

/-- The source is not unlocked, receiving does not fail and no frame is evicted. -/
def Undisturbed (_ : State Publisher Frame) : Event Publisher Frame → Prop
  | .subscriber (.poll unlocked) => unlocked = false
  | .subscriber .receiveFails => False
  | .publisher _ (.send evicted) => evicted = 0
  | _ => True

instance (state : State Publisher Frame) (event : Event Publisher Frame) :
    Decidable (Undisturbed state event) :=
  match event with
  | .subscriber (.poll unlocked) => inferInstanceAs (Decidable (unlocked = false))
  | .subscriber .receiveFails => isFalse not_false
  | .subscriber (.call _) | .subscriber (.receive _) | .subscriber .park | .subscriber .wake
  | .subscriber .timeout | .subscriber .waitFails => isTrue trivial
  | .publisher _ (.send evicted) => inferInstanceAs (Decidable (evicted = 0))
  | .publisher _ (.start _) | .publisher _ .loan | .publisher _ (.notify _)
  | .publisher _ .fail => isTrue trivial

/-- The source is unlocked. -/
def Unlocked (_ : State Publisher Frame) : Event Publisher Frame → Prop
  | .subscriber (.poll unlocked) => unlocked = true
  | _ => True

instance (state : State Publisher Frame) (event : Event Publisher Frame) :
    Decidable (Unlocked state event) :=
  match event with
  | .subscriber (.poll unlocked) => inferInstanceAs (Decidable (unlocked = true))
  | .subscriber .receiveFails | .subscriber (.call _) | .subscriber (.receive _) | .subscriber .park
  | .subscriber .wake | .subscriber .timeout | .subscriber .waitFails => isTrue trivial
  | .publisher _ _ => isTrue trivial

theorem undisturbed_of_orderly {state : State Publisher Frame} {act : SubscriberAct Publisher Frame}
    (orderly : Orderly false act) : Undisturbed state (.subscriber act) := by
  cases act with
  | poll answer => exact orderly
  | call | receiveFails | waitFails => cases orderly
  | receive | park | wake | timeout => trivial

theorem unlocked_of_orderly {state : State Publisher Frame} {act : SubscriberAct Publisher Frame}
    (orderly : Orderly true act) : Unlocked state (.subscriber act) := by
  cases act with
  | poll answer => exact orderly
  | call | receiveFails | waitFails => cases orderly
  | receive | park | wake | timeout => trivial

/-- The step is the subscriber's. -/
def isOwn : Event Publisher Frame → Bool
  | .subscriber _ => true
  | .publisher _ _ => false

/-- After what had returned before, the call has returned with one of the replies. -/
def HasReturned (returns : Frame → Bool) (replies : Reply Frame → Prop)
    (before : List (Return Frame)) (state : State Publisher Frame) : Prop :=
  ∃ result, before ++ [result] <+: state.returns ∧ result.request = .create returns ∧
    replies result.reply

/-- The call returned with the first frame of a publisher, among those that arrived, that
it returns for. -/
def FirstOf [DecidableEq Publisher] (returns : Frame → Bool) (arrived : List (Publisher × Frame))
    (reply : Reply Frame) : Prop :=
  ∃ publisher frame, (lane publisher arrived).find? returns = some frame ∧ reply = .taken frame

/-- Nothing has returned since, what left the queues of what arrived was dropped, and the
call took at most two steps for each frame that it dropped, and the rest of four. -/
def Sifting [DecidableEq Publisher] (returns : Frame → Bool) (arrived : List (Publisher × Frame))
    (before : List (Return Frame)) (steps : Nat) (state : State Publisher Frame) : Prop :=
  ∃ (place : Place) (dropped : List (Publisher × Frame)), state.Inside returns place ∧
    state.returns = before ∧
    (∀ publisher, lane publisher arrived = lane publisher dropped ++ lane publisher state.ring) ∧
    (∀ entry ∈ dropped, returns entry.2 = false) ∧
    steps + place.toLook ≤ 2 * dropped.length + 4

/-- Nothing has returned since, and the call is a number of its steps away from the
unlock flag. -/
def PollsAway (returns : Frame → Bool) (before : List (Return Frame))
    (state : State Publisher Frame) (count : Nat) : Prop :=
  ∃ place, state.Inside returns place ∧ state.returns = before ∧ count = place.toPoll

section Ends

variable {returns : Frame → Bool} {state next : State Publisher Frame} {frame : Frame}
  {before : List (Return Frame)} {count : Nat} {replies : Reply Frame → Prop}

theorem hasReturned_of_endsWith {reply : Reply Frame} (since : state.returns = before)
    (ended : state.EndsWith returns reply next) (replied : replies reply) :
    next.HasReturned returns replies before := by
  subst since
  obtain ⟨result, last, asked, rfl⟩ := ended
  exact ⟨result, last ▸ List.prefix_rfl, asked, replied⟩

theorem HasReturned.step [DecidableEq Publisher] {event : Event Publisher Frame}
    (returned : state.HasReturned returns replies before) (taken : state.step event = some next) :
    next.HasReturned returns replies before := by
  obtain ⟨result, first, rest⟩ := returned
  exact ⟨result, first.trans (returns_prefix_of_step taken), rest⟩

theorem HasReturned.mono {others : Reply Frame → Prop}
    (returned : state.HasReturned returns replies before)
    (weaker : ∀ reply, replies reply → others reply) : state.HasReturned returns others before := by
  obtain ⟨result, first, asked, replied⟩ := returned
  exact ⟨result, first, asked, weaker _ replied⟩

/-- A first frame stays the first when more arrive. -/
theorem FirstOf.append [DecidableEq Publisher] {arrived : List (Publisher × Frame)}
    {reply : Reply Frame} (first : FirstOf returns arrived reply)
    (more : List (Publisher × Frame)) : FirstOf returns (arrived ++ more) reply := by
  obtain ⟨publisher, frame, found, replied⟩ := first
  refine ⟨publisher, frame, ?_, replied⟩
  rw [lane_append, List.find?_append, found, Option.some_or]

/-- What was dropped and what is queued are what arrived. -/
theorem perm_of_sifted [DecidableEq Publisher] {arrived dropped ring : List (Publisher × Frame)}
    (lanes : ∀ publisher, lane publisher arrived = lane publisher dropped ++ lane publisher ring) :
    arrived.Perm (dropped ++ ring) :=
  perm_of_lanes fun publisher => (lanes publisher).trans lane_append.symm

/-- The oldest frame of a queue comes behind dropped ones. -/
theorem firstOf_of_queued [DecidableEq Publisher] {arrived dropped ring : List (Publisher × Frame)}
    (lanes : ∀ publisher, lane publisher arrived = lane publisher dropped ++ lane publisher ring)
    (drops : ∀ entry ∈ dropped, returns entry.2 = false) {publisher : Publisher}
    {rest : List Frame} (queued : lane publisher ring = frame :: rest)
    (kept : returns frame = true) : FirstOf returns arrived (.taken frame) := by
  refine ⟨publisher, frame, ?_, rfl⟩
  have passed : (lane publisher dropped).find? returns = none := by
    refine List.find?_eq_none.mpr fun frame member => ?_
    exact Bool.eq_false_iff.mp (drops (publisher, frame) (mem_lane_iff.mp member))
  rw [lanes, queued, List.find?_append, passed, Option.none_or, List.find?_cons_of_pos kept]

/-- **One step of the search**: the call returns with a first frame, or goes on having
dropped one more, and publishers only add to what arrived. -/
theorem Sifting.step [DecidableEq Publisher] {arrived : List (Publisher × Frame)} {steps : Nat}
    {event : Event Publisher Frame} (sifting : state.Sifting returns arrived before steps)
    (wanted : ∃ entry ∈ arrived, returns entry.2 = true) (met : Undisturbed state event)
    (taken : state.step event = some next) :
    next.HasReturned returns (FirstOf returns (arrived ++ state.sends event)) before ∨
      next.Sifting returns (arrived ++ state.sends event) before
        (steps + (isOwn event).toNat) := by
  obtain ⟨place, dropped, inside, since, lanes, drops, bound⟩ := sifting
  cases event with
  | publisher publisher act =>
      have on := goesOn_of_publisherStepped inside (publisherStepped_of_step taken)
      refine .inr ⟨place, dropped, on.inside, on.returns.trans since, fun other => ?_, drops, bound⟩
      rw [lane_append, lanes, List.append_assoc]
      exact congrArg _ (lane_of_publisherStep (by rintro evicted rfl; exact met) taken other)
  | subscriber act =>
      rw [show state.sends (.subscriber act) = [] from rfl, List.append_nil]
      have stays : ∀ {after : Place}, state.GoesOn returns after next → next.ring = state.ring →
          after.toLook + 1 = place.toLook → next.Sifting returns arrived before (steps + 1) := by
        intro after on ring less
        exact ⟨after, dropped, on.inside, on.returns.trans since, ring ▸ lanes, drops, by omega⟩
      cases loopStepped_of_step inside taken with
      | flushes ended => cases met
      | goesOn on ring => exact .inr (stays on ring rfl)
      | takes queued kept ended =>
          exact .inl (hasReturned_of_endsWith since ended
            (firstOf_of_queued lanes drops queued kept))
      | @drops publisher frame rest queued drop on ring =>
          refine .inr ⟨.polls, dropped ++ [(publisher, frame)], on.inside, on.returns.trans since,
            fun other => ?_, ?_, ?_⟩
          · rw [lanes, ring, lane_append, List.append_assoc]
            by_cases apart : other = publisher
            · subst apart
              rw [lane_cons_self, lane_nil, lane_pop_self, queued, List.singleton_append,
                List.tail_cons]
            · rw [lane_cons_of_ne (Ne.symm apart), lane_nil, lane_pop_of_ne apart, List.nil_append]
          · intro entry member
            rcases List.mem_append.mp member with earlier | last
            · exact drops entry earlier
            · rw [List.mem_singleton.mp last]
              exact drop
          · simp only [isOwn, Place.toLook, List.length_append, List.length_singleton,
              Bool.toNat_true] at bound ⊢
            omega
      | misses empty on =>
          obtain ⟨entry, member, kept⟩ := wanted
          have held := (perm_of_sifted lanes).mem_iff.mp member
          rw [empty, List.append_nil] at held
          exact absurd kept (Bool.eq_false_iff.mp (drops entry held))
      | fails ended => cases met
      | parks on ring => exact .inr (stays on ring rfl)
      | wakes on ring => exact .inr (stays on ring rfl)

/-- **One step towards the unlock flag.** -/
theorem PollsAway.step [DecidableEq Publisher] {event : Event Publisher Frame}
    (away : state.PollsAway returns before count) (met : Unlocked state event)
    (taken : state.step event = some next) :
    next.HasReturned returns (fun reply => reply = .flushing ∨ reply = .failed ∨
        ∃ frame, returns frame = true ∧ reply = .taken frame) before ∨
      ∃ fewer, next.PollsAway returns before fewer ∧ fewer + (isOwn event).toNat ≤ count := by
  obtain ⟨place, inside, since, rfl⟩ := away
  cases event with
  | publisher publisher act =>
      have on := goesOn_of_publisherStepped inside (publisherStepped_of_step taken)
      exact .inr ⟨_, ⟨place, on.inside, on.returns.trans since, rfl⟩, Nat.le_refl _⟩
  | subscriber act =>
      have goes : ∀ {after : Place}, state.GoesOn returns after next →
          after.toPoll + 1 ≤ place.toPoll →
          ∃ fewer, next.PollsAway returns before fewer ∧ fewer + 1 ≤ place.toPoll := by
        intro after on less
        exact ⟨_, ⟨after, on.inside, on.returns.trans since, rfl⟩, less⟩
      cases loopStepped_of_step inside taken with
      | flushes ended => exact .inl (hasReturned_of_endsWith since ended (.inl rfl))
      | goesOn on ring => cases met
      | takes found keeps ended =>
          exact .inl (hasReturned_of_endsWith since ended (.inr (.inr ⟨_, keeps, rfl⟩)))
      | drops found drop on => exact .inr (goes on (by decide))
      | misses empty on => exact .inr (goes on (by decide))
      | fails ended => exact .inl (hasReturned_of_endsWith since ended (.inr (.inl rfl)))
      | parks on ring => exact .inr (goes on (by decide))
      | wakes on ring => exact .inr (goes on (by decide))

end Ends

section Runs

variable [DecidableEq Publisher] {events later : List (Event Publisher Frame)}
  {state finish : State Publisher Frame} {call : Call Frame} {returns : Frame → Bool}

/-- A search goes on through a run until the call returns. -/
theorem sifting_of_run {before : List (Return Frame)}
    (initial : state.Sifting returns state.ring before 0)
    (wanted : ∃ entry ∈ state.ring, returns entry.2 = true)
    (goes : Run step Undisturbed state later finish) :
    finish.HasReturned returns (FirstOf returns (state.ring ++ emitted step sends state later))
        before ∨
      finish.Sifting returns (state.ring ++ emitted step sends state later) before
        (later.countP isOwn) := by
  induction goes with
  | nil =>
      rw [emitted, List.append_nil]
      exact .inr initial
  | @snoc middle finish later event earlier met taken ih =>
      rw [earlier.emitted_snoc, ← List.append_assoc, List.countP_append, List.countP_singleton]
      have counted : (if isOwn event = true then 1 else 0) = (isOwn event).toNat := by
        cases isOwn event <;> rfl
      rw [counted]
      rcases ih with returned | sifting
      · exact .inl ((returned.step taken).mono fun reply first => first.append _)
      · refine sifting.step ?_ met taken
        obtain ⟨entry, member, kept⟩ := wanted
        exact ⟨entry, List.mem_append_left _ member, kept⟩

/-- **The loop reaches a frame.** In every reachable state with a call of the loop in
progress and a queued frame that it returns for, and in every run from there that is not
unlocked, does not fail and evicts nothing, whatever publishers do and whichever
connection a look takes from, the call has returned with the first frame that it returns
for of some publisher. Or it has taken less than two steps for each frame, queued or sent
since, that it does not return for, and four more, and can take another one. -/
theorem create_reaches_frame (run : Run step unguarded started events state)
    (current : state.call = some call) (asked : call.request = .create returns)
    (wanted : ∃ entry ∈ state.ring, returns entry.2 = true)
    (goes : Run step Undisturbed state later finish) :
    finish.HasReturned returns (FirstOf returns (state.ring ++ emitted step sends state later))
        state.returns ∨
      finish.returns = state.returns ∧
        later.countP isOwn <
          2 * (state.ring ++ emitted step sends state later).countP (!returns ·.2) + 4 ∧
        ∃ act next, Undisturbed finish (.subscriber act) ∧
          finish.step (.subscriber act) = some next := by
  obtain ⟨place, inside⟩ := inside_of_run run current asked
  have initial : state.Sifting returns state.ring state.returns 0 :=
    ⟨place, [], inside, rfl, fun _ => rfl, nofun, by have := place.toLook_bounds; simp; omega⟩
  rcases sifting_of_run initial wanted goes with returned | sifting
  · exact .inl returned
  · obtain ⟨after, dropped, inside, since, lanes, drops, bound⟩ := sifting
    obtain ⟨act, next, possible, taken⟩ := exists_step inside false
    refine .inr ⟨since, ?_, act, next, undisturbed_of_orderly possible, taken⟩
    have all : dropped.countP (!returns ·.2) = dropped.length :=
      List.countP_eq_length.mpr fun entry member => by rw [drops entry member]; rfl
    have few : dropped.length ≤
        (state.ring ++ emitted step sends state later).countP (!returns ·.2) := by
      rw [(perm_of_sifted lanes).countP_eq, List.countP_append, all]
      exact Nat.le_add_right _ _
    have here := after.toLook_bounds
    omega

/-- Two publishers send, and a call of the loop is asked for the second frame. -/
def secondAsked : List (Event Bool Nat) :=
  [.publisher true (.start (.renderZeroCopy 1)), .publisher true (.send 0),
    .publisher false (.start (.renderZeroCopy 2)), .publisher false (.send 0),
    .subscriber (.call (.create fun frame => decide (frame = 2)))]

/-- The first frame is dropped, and the second one is returned for while its publisher
notifies. -/
theorem create_reaches_frame_second :
    ∃ state finish : State Bool Nat, Run step unguarded started secondAsked state ∧
      Run step Undisturbed state
        [.subscriber (.poll false), .subscriber (.receive (some true)),
          .publisher false (.notify false), .subscriber (.poll false),
          .subscriber (.receive (some false))] finish ∧
      finish.HasReturned (fun frame => decide (frame = 2))
        (FirstOf (fun frame => decide (frame = 2)) [(true, 1), (false, 2)]) state.returns := by
  have run : Run step unguarded started secondAsked
      ((execute step unguarded started secondAsked).getD started) := execute_eq_some_iff.mp rfl
  have wanted : ∃ entry ∈ ((execute step unguarded started secondAsked).getD started).ring,
      decide (entry.2 = 2) = true := ⟨(false, 2), by decide, rfl⟩
  have goes : Run step Undisturbed ((execute step unguarded started secondAsked).getD started)
      [.subscriber (.poll false), .subscriber (.receive (some true)),
        .publisher false (.notify false), .subscriber (.poll false),
        .subscriber (.receive (some false))] _ := execute_eq_some_iff.mp rfl
  have ends := create_reaches_frame run rfl rfl wanted goes
  exact ⟨_, _, run, goes, ends.resolve_right fun still => absurd still.1 nofun⟩

/-- **An unlocked call of the loop ends.** In every reachable state with a call of the
loop in progress, and in every run from there in which the source is unlocked, whatever
publishers do, the call has returned or it has taken less than four steps, and can take
another one. -/
theorem unlocked_create_ends (run : Run step unguarded started events state)
    (current : state.call = some call) (asked : call.request = .create returns)
    (goes : Run step Unlocked state later finish) :
    finish.HasReturned returns (fun reply => reply = .flushing ∨ reply = .failed ∨
        ∃ frame, returns frame = true ∧ reply = .taken frame) state.returns ∨
      finish.returns = state.returns ∧ later.countP isOwn < 4 ∧
        ∃ act next, Unlocked finish (.subscriber act) ∧
          finish.step (.subscriber act) = some next := by
  obtain ⟨place, inside⟩ := inside_of_run run current asked
  rcases goes.countdown (PollsAway returns state.returns) _ isOwn ⟨place, inside, rfl, rfl⟩
      (fun _ _ _ returned _ taken => returned.step taken)
      (fun _ _ _ _ away met taken => away.step met taken) with returned | ⟨fewer, away, bound⟩
  · exact .inl returned
  · obtain ⟨after, inside, since, rfl⟩ := away
    obtain ⟨act, next, possible, taken⟩ := exists_step inside true
    refine .inr ⟨since, ?_, act, next, unlocked_of_orderly possible, taken⟩
    have here := after.toPoll_bounds
    have there := place.toPoll_bounds
    omega

/-- A call of the loop is asked and parks on the empty ring. -/
def parkedLoop : List (Event Bool Nat) :=
  [.subscriber (.call (.create fun _ => true)), .subscriber (.poll false),
    .subscriber (.receive none), .subscriber .park]

theorem unlocked_create_ends_parked :
    ∃ state finish : State Bool Nat, Run step unguarded started parkedLoop state ∧
      Run step Unlocked state [.subscriber .timeout, .subscriber (.poll true)] finish ∧
      finish.HasReturned (fun _ => true) (fun reply => reply = .flushing ∨ reply = .failed ∨
        ∃ frame, true = true ∧ reply = .taken frame) state.returns := by
  have run : Run step unguarded started parkedLoop
      ((execute step unguarded started parkedLoop).getD started) := execute_eq_some_iff.mp rfl
  have goes : Run step Unlocked ((execute step unguarded started parkedLoop).getD started)
      [.subscriber .timeout, .subscriber (.poll true)] _ := execute_eq_some_iff.mp rfl
  have ends := unlocked_create_ends run rfl rfl goes
  exact ⟨_, _, run, goes, ends.resolve_right fun still => absurd still.1 nofun⟩

end Runs

end State

end GstIceoryx2.Transport
