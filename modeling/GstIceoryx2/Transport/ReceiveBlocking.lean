import GstIceoryx2.Transport.Wakeup

/-!
# When a blocking receive returns nothing

`receive_blocking` looks at the ring, waits once, and looks once more. It is to
return nothing only when its timeout elapsed on an empty ring, and never without
a timeout. But a notification outlives the frame it announced when that frame is
taken by a look that found it before any wait: the next wait then ends at once,
on an empty ring, and the call returns nothing (`receiveBlocking_undocumented`).

The law holds in every run where a notification that ends the wait of a blocking
receive finds a frame in the ring (`returns_documented`), and no weaker condition
on that step will do: a wait that is ended on an empty ring can return nothing in
the very next step (`undocumented_of_stale_wake`).
-/

set_option autoImplicit false

namespace GstIceoryx2.Transport

open Foundations

variable {Publisher Frame : Type}

/-! ## The law -/

/-- The timeout of a blocking receive, in either language. -/
def Request.blockMs : Request Frame → Option (Option Nat)
  | .receiveBlocking blockMs => some blockMs
  | .pyReceiveBlocking blockMs => some blockMs
  | _ => none

/-- A blocking receive returns nothing only when it has a timeout, the timeout
elapsed, and the ring was empty for all of it. -/
def Return.Documented (result : Return Frame) : Prop :=
  ∀ blockMs, result.request.blockMs = some blockMs → result.reply = .noFrame →
    ∃ ms, blockMs = some ms ∧ result.ended = .timedOut ∧ result.quiet = true

/-- The two languages run the same code. -/
theorem pyReceiveBlocking_eq (blockMs : Option Nat) :
    (pyReceiveBlocking blockMs : Code Frame) = receiveBlocking blockMs := by
  simp only [pyReceiveBlocking, receiveBlocking]
  congr 1
  funext answer
  cases answer with
  | frame frame => rfl
  | failed => rfl
  | empty =>
      dsimp only
      congr 1
      funext succeeded
      cases succeeded with
      | false => rfl
      | true =>
          simp only [receive, if_true]

theorem Request.code_of_blockMs {request : Request Frame} {blockMs : Option Nat}
    (blocking : request.blockMs = some blockMs) :
    request.code = Transport.receiveBlocking blockMs := by
  cases request with
  | receive => cases blocking
  | receiveBlocking blockMs' =>
      cases blocking
      rfl
  | pyReceiveBlocking blockMs' =>
      cases blocking
      exact pyReceiveBlocking_eq blockMs
  | create returns => cases blocking

namespace State

/-! ## The stages of a blocking receive -/

/-- What a blocking receive does after its wait. -/
def afterWait (succeeded : Bool) : Code Frame :=
  if succeeded then receive else .ret .failed

/-- Where a blocking receive stands, and what is known there: while it is parked,
an empty ring has been empty ever since, and when it looks again, an empty ring
means that the timeout elapsed. -/
inductive Stage (ring : List (Publisher × Frame)) (blockMs : Option Nat) (call : Call Frame) :
    Prop where
  | looking (stands : call.code = receiveBlocking blockMs) (running : call.parked = false)
  | waiting (stands : call.code = .wait blockMs afterWait)
      (quiet : call.parked = true → ring = [] → call.quiet = true)
  | lookingAgain (stands : call.code = receive) (running : call.parked = false)
      (elapsed : ring = [] →
        ∃ ms, blockMs = some ms ∧ call.ended = .timedOut ∧ call.quiet = true)

/-- What holds in every state: blocking receives go through their stages, and those
that returned obey the law. -/
structure Lawful (state : State Publisher Frame) : Prop where
  documented : ∀ result ∈ state.returns, result.Documented
  staged : ∀ call blockMs, state.call = some call → call.request.blockMs = some blockMs →
    Stage state.ring blockMs call

theorem lawful_started : (started : State Publisher Frame).Lawful where
  documented := fun _ returned => absurd returned (List.not_mem_nil)
  staged := by
    intro call blockMs current
    cases current

/-! ## What a step does to the stages -/

section Steps

variable {state next : State Publisher Frame} {call : Call Frame}

theorem Lawful.publisherStepped [DecidableEq Publisher] (lawful : state.Lawful)
    {publisher : Publisher} (taken : PublisherStepped state publisher next) : next.Lawful where
  documented := by
    rw [returns_publisherStepped taken]
    exact lawful.documented
  staged := by
    intro call blockMs current blocking
    obtain ⟨before, current', request, code, parked, ended, ring⟩ :=
      call_publisherStepped taken current
    rw [← request] at blocking
    cases lawful.staged before blockMs current' blocking with
    | looking stands running => exact .looking (code ▸ stands) (parked ▸ running)
    | waiting stands quiet =>
        refine .waiting (code ▸ stands) ?_
        intro parks empty
        obtain ⟨empty', same⟩ := ring empty
        rw [← same]
        exact quiet (parked.trans parks) empty'
    | lookingAgain stands running elapsed =>
        refine .lookingAgain (code ▸ stands) (parked ▸ running) ?_
        intro empty
        obtain ⟨empty', same⟩ := ring empty
        rw [← same, ← ended]
        exact elapsed empty'

/-- A call in a stage has not returned, and does not start over. -/
theorem Stage.stands {ring : List (Publisher × Frame)} {blockMs : Option Nat}
    (stage : Stage ring blockMs call) :
    (∀ reply, call.code ≠ .ret reply) ∧ call.code ≠ .again := by
  cases stage with
  | looking stands running => simp [stands, receiveBlocking]
  | waiting stands quiet => simp [stands]
  | lookingAgain stands running elapsed => simp [stands, receive]

/-- A call goes on lawfully: when it returns it obeys the law, and otherwise it
enters a stage. -/
theorem lawful_resume (documented : ∀ result ∈ state.returns, result.Documented) {code : Code Frame}
    (goes : ∀ blockMs, call.request.blockMs = some blockMs →
      (∃ reply, code = .ret reply ∧
        (reply = .noFrame → ∃ ms, blockMs = some ms ∧ call.ended = .timedOut ∧ call.quiet = true)) ∨
      Stage state.ring blockMs { call with code := code }) :
    (state.resume call code).Lawful where
  documented := by
    intro result returned
    rcases mem_returns_resume returned with earlier | ⟨reply, rfl, rfl⟩
    · exact documented result earlier
    · intro blockMs blocking nothing
      rcases goes blockMs blocking with ⟨reply', returns, law⟩ | stage
      · obtain rfl := Code.ret.inj returns
        exact law nothing
      · exact absurd rfl (stage.stands.1 reply)
  staged := by
    intro after blockMs current blocking
    rw [ring_resume]
    rcases call_resume current with ⟨rfl, rfl⟩ | ⟨stays, rfl⟩
    · rcases goes blockMs blocking with ⟨reply, returns, -⟩ | stage
      · cases returns
      · exact absurd rfl stage.stands.2
    · rcases goes blockMs blocking with ⟨reply, returns, -⟩ | stage
      · exact absurd returns (stays reply)
      · exact stage

/-- A blocking receive that looks at the ring does so before its wait or after. -/
theorem Stage.of_receive {ring : List (Publisher × Frame)} {blockMs : Option Nat}
    {go : Answer Frame → Code Frame} (stage : Stage ring blockMs call)
    (stands : call.code = .receive go) :
    Code.receive go = receiveBlocking blockMs ∧ call.parked = false ∨
      Code.receive go = receive ∧ call.parked = false ∧
        (ring = [] → ∃ ms, blockMs = some ms ∧ call.ended = .timedOut ∧ call.quiet = true) := by
  cases stage with
  | looking stands' running => exact .inl ⟨stands.symm.trans stands', running⟩
  | waiting stands' quiet => exact absurd (stands.symm.trans stands') (by simp)
  | lookingAgain stands' running elapsed =>
      exact .inr ⟨stands.symm.trans stands', running, elapsed⟩

/-- A blocking receive that waits does so with its own timeout. -/
theorem Stage.of_wait {ring : List (Publisher × Frame)} {blockMs timeout : Option Nat}
    {go : Bool → Code Frame}
    (stage : Stage ring blockMs call) (stands : call.code = .wait timeout go) :
    timeout = blockMs ∧ go = afterWait ∧
      (call.parked = true → ring = [] → call.quiet = true) := by
  cases stage with
  | looking stands' running => exact absurd (stands.symm.trans stands') (by simp [receiveBlocking])
  | waiting stands' quiet =>
      obtain ⟨rfl, rfl⟩ := Code.wait.inj (stands.symm.trans stands')
      exact ⟨rfl, rfl, quiet⟩
  | lookingAgain stands' running elapsed =>
      exact absurd (stands.symm.trans stands') (by simp [receive])

/-- Whatever answer but an empty ring a blocking receive is given, it returns it. -/
theorem Stage.answered {ring : List (Publisher × Frame)} {blockMs : Option Nat}
    {go : Answer Frame → Code Frame} (stage : Stage ring blockMs call)
    (stands : call.code = .receive go) (answer : Answer Frame) (answered : answer ≠ .empty) :
    ∃ reply, go answer = .ret reply ∧ reply ≠ .noFrame := by
  rcases stage.of_receive stands with ⟨first, -⟩ | ⟨again, -, -⟩
  · obtain rfl := Code.receive.inj first
    cases answer with
    | frame frame => exact ⟨.frame frame, rfl, by simp⟩
    | empty => exact absurd rfl answered
    | failed => exact ⟨.failed, rfl, by simp⟩
  · obtain rfl := Code.receive.inj again
    cases answer with
    | frame frame => exact ⟨.frame frame, rfl, by simp⟩
    | empty => exact absurd rfl answered
    | failed => exact ⟨.failed, rfl, by simp⟩

/-- A lawful call goes on from the stage it is in. -/
theorem Lawful.resume (lawful : state.Lawful) (current : state.call = some call)
    {later : State Publisher Frame} {call' : Call Frame} {code : Code Frame}
    (goes : ∀ blockMs, call.request.blockMs = some blockMs → Stage state.ring blockMs call →
      (∃ reply, code = .ret reply ∧ (reply = .noFrame →
        ∃ ms, blockMs = some ms ∧ call'.ended = .timedOut ∧ call'.quiet = true)) ∨
      Stage later.ring blockMs { call' with code := code })
    (returns : later.returns = state.returns := by rfl)
    (request : call'.request = call.request := by rfl) : (later.resume call' code).Lawful := by
  refine lawful_resume (returns ▸ lawful.documented) ?_
  intro blockMs blocking
  rw [request] at blocking
  exact goes blockMs blocking (lawful.staged _ blockMs current blocking)

/-- The notification that ends the wait of a blocking receive finds a frame in the
ring. -/
def WakesToFrame (state : State Publisher Frame) (event : Event Publisher Frame) : Prop :=
  event = .subscriber .wake →
    ∀ call, state.call = some call → call.request.blockMs ≠ none → state.ring ≠ []

/-- **The subscriber stays lawful when a notification wakes it to a frame.** -/
theorem Lawful.subscriberStepped [DecidableEq Publisher] (lawful : state.Lawful)
    {act : SubscriberAct Publisher Frame} (met : state.WakesToFrame (.subscriber act))
    (taken : SubscriberStepped state act next) : next.Lawful := by
  cases taken with
  | call request idle =>
      refine ⟨lawful.documented, ?_⟩
      rintro _ blockMs ⟨⟩ blocking
      exact .looking (Request.code_of_blockMs blocking) rfl
  | poll unlocked current stands =>
      refine lawful.resume current ?_
      intro blockMs _ stage
      cases stage with
      | looking stands' running =>
          exact absurd (stands.symm.trans stands') (by simp [receiveBlocking])
      | waiting stands' quiet => exact absurd (stands.symm.trans stands') (by simp)
      | lookingAgain stands' running elapsed =>
          exact absurd (stands.symm.trans stands') (by simp [receive])
  | receiveEmpty current stands empty =>
      refine lawful.resume current ?_
      intro blockMs _ stage
      rcases stage.of_receive stands with ⟨first, running⟩ | ⟨again, running, elapsed⟩
      · obtain rfl := Code.receive.inj first
        refine .inr (.waiting rfl ?_)
        intro parked
        exact absurd (running.symm.trans parked) Bool.false_ne_true
      · obtain rfl := Code.receive.inj again
        exact .inl ⟨.noFrame, rfl, fun _ => elapsed empty⟩
  | receiveFrame current stands queued =>
      refine lawful.resume current ?_
      intro blockMs _ stage
      obtain ⟨reply, returns, some_frame⟩ := stage.answered stands (.frame _) (by simp)
      exact .inl ⟨reply, returns, fun nothing => absurd nothing some_frame⟩
  | receiveFails current stands =>
      refine lawful.resume current ?_
      intro blockMs _ stage
      obtain ⟨reply, returns, some_frame⟩ := stage.answered stands .failed (by simp)
      exact .inl ⟨reply, returns, fun nothing => absurd nothing some_frame⟩
  | park current stands =>
      refine ⟨lawful.documented, ?_⟩
      rintro _ blockMs ⟨⟩ blocking
      obtain ⟨rfl, rfl, -⟩ := (lawful.staged _ blockMs current blocking).of_wait stands
      refine .waiting stands ?_
      intro _ empty
      exact List.isEmpty_iff.mpr empty
  | wake current stands parked pending =>
      refine lawful.resume current ?_
      intro blockMs blocking stage
      obtain ⟨rfl, rfl, -⟩ := stage.of_wait stands
      refine .inr (.lookingAgain rfl rfl ?_)
      intro empty
      refine absurd empty (met rfl _ current ?_)
      intro unblocking
      cases blocking.symm.trans unblocking
  | timeout current stands parked nonePending =>
      refine lawful.resume current ?_
      intro blockMs _ stage
      obtain ⟨rfl, rfl, quiet⟩ := stage.of_wait stands
      refine .inr (.lookingAgain rfl rfl ?_)
      intro empty
      exact ⟨_, rfl, rfl, quiet parked empty⟩
  | waitFails current stands parked =>
      refine lawful.resume current ?_
      intro blockMs _ stage
      obtain ⟨rfl, rfl, -⟩ := stage.of_wait stands
      refine .inl ⟨.failed, rfl, ?_⟩
      intro nothing
      cases nothing

end Steps

/-! ## Whole runs -/

section Runs

variable [DecidableEq Publisher] {state : State Publisher Frame}
variable {events : List (Event Publisher Frame)}

theorem lawful_of_run (run : Run step WakesToFrame started events state) : state.Lawful := by
  refine run.invariant Lawful lawful_started ?_
  intro before event after lawful met taken
  cases event with
  | publisher publisher act => exact lawful.publisherStepped (publisherStepped_of_step taken)
  | subscriber act => exact lawful.subscriberStepped met (subscriberStepped_of_step taken)

/-- **A blocking receive returns nothing only for the documented reason, in every
run where no notification ends its wait on an empty ring.** -/
theorem returns_documented (run : Run step WakesToFrame started events state) :
    ∀ result ∈ state.returns, result.Documented :=
  (lawful_of_run run).documented

/-- A frame that is sent to a parked subscriber is what its wait ends on. -/
theorem returns_documented_woken :
    ∃ state : State Unit Nat, ∃ result ∈ state.returns,
      result.request = .receiveBlocking none ∧ result.reply = .frame 7 ∧ result.Documented := by
  have run : ∃ state : State Unit Nat, Run step WakesToFrame started
      [.subscriber (.call (.receiveBlocking none)), .subscriber (.receive none),
        .subscriber .park, .publisher () (.start (.renderZeroCopy 7)), .publisher () (.send 0),
        .publisher () (.notify false), .subscriber .wake,
        .subscriber (.receive (some ()))] state ∧
      state.returns = [⟨.receiveBlocking none, .frame 7, .woken, false⟩] := by
    have other : ∀ {state : State Unit Nat} {event : Event Unit Nat}, event ≠ .subscriber .wake →
        state.WakesToFrame event := fun differs woken => absurd woken differs
    exact ⟨_, .cons (other (by simp)) rfl (.cons (other (by simp)) rfl (.cons (other (by simp)) rfl
      (.cons (other (by simp)) rfl (.cons (other (by simp)) rfl (.cons (other (by simp)) rfl
        (.cons (fun _ _ _ _ => List.cons_ne_nil _ _) rfl (.cons (other (by simp)) rfl .nil))))))),
      rfl⟩
  obtain ⟨state, run, returned⟩ := run
  refine ⟨state, ⟨.receiveBlocking none, .frame 7, .woken, false⟩, ?_, rfl, rfl,
    returns_documented run _ ?_⟩
  · rw [returned]
    exact List.mem_singleton_self _
  · rw [returned]
    exact List.mem_singleton_self _

/-- A blocking receive that looks again at an empty ring, though its timeout did not
elapse, returns nothing. -/
theorem undocumented_of_look {call : Call Frame} {blockMs : Option Nat}
    (current : state.call = some call) (stands : call.code = receive)
    (blocking : call.request.blockMs = some blockMs) (early : call.ended ≠ .timedOut)
    (empty : state.ring = []) :
    ∃ final, step state (.subscriber (.receive none)) = some final ∧
      ∃ result ∈ final.returns, ¬ result.Documented := by
  have looks : state.subscriberStep (.receive none) = some (state.resume call (.ret .noFrame)) := by
    simp only [subscriberStep, current, stands, receive, empty]
  refine ⟨_, looks, ⟨call.request, .noFrame, call.ended, call.quiet⟩, ?_, ?_⟩
  · exact List.mem_append_right _ (List.mem_singleton_self _)
  · intro documented
    obtain ⟨ms, -, elapsed, -⟩ := documented blockMs blocking rfl
    exact early elapsed

/-- **The condition cannot be weakened at that step.** When a notification ends the
wait of a blocking receive on an empty ring, the call can return nothing in the
next step, against the law. -/
theorem undocumented_of_stale_wake (run : Run step WakesToFrame started events state)
    {woken : State Publisher Frame} (wakes : step state (.subscriber .wake) = some woken)
    (stale : ¬ state.WakesToFrame (.subscriber .wake)) :
    ∃ final, step woken (.subscriber (.receive none)) = some final ∧
      ∃ result ∈ final.returns, ¬ result.Documented := by
  simp only [WakesToFrame, forall_const, not_forall, not_not] at stale
  obtain ⟨call, current, blocking, empty⟩ := stale
  obtain ⟨blockMs, blocking⟩ := Option.ne_none_iff_exists'.mp blocking
  have stepped : SubscriberStepped state .wake woken := subscriberStepped_of_step wakes
  cases stepped with
  | wake current' stands parked pending =>
      obtain rfl := Option.some.inj (current.symm.trans current')
      obtain ⟨rfl, rfl, -⟩ := ((lawful_of_run run).staged _ _ current blocking).of_wait stands
      exact undocumented_of_look rfl rfl blocking (by simp) empty

/-- A frame taken without its notification leaves a wake-up behind, and a blocking
receive without a timeout returns nothing for it. -/
theorem receiveBlocking_undocumented :
    ∃ state : State Unit Nat, Run step unguarded started
      [.publisher () (.start (.publishFrame 7)), .publisher () .loan, .publisher () (.send 0),
        .publisher () (.notify false), .subscriber (.call .receive),
        .subscriber (.receive (some ())), .subscriber (.call (.receiveBlocking none)),
        .subscriber (.receive none), .subscriber .park, .subscriber .wake,
        .subscriber (.receive none)] state ∧
      ∃ result ∈ state.returns, result.request = .receiveBlocking none ∧
        result.reply = .noFrame ∧ ¬ result.Documented := by
  refine ⟨_, execute_eq_some_iff.mp rfl, ⟨.receiveBlocking none, .noFrame, .woken, true⟩, ?_, rfl,
    rfl, ?_⟩
  · exact List.mem_cons_of_mem _ (List.mem_singleton_self _)
  · intro documented
    obtain ⟨ms, timed, -⟩ := documented none rfl rfl
    cases timed

end Runs

end State

end GstIceoryx2.Transport
