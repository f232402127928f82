import GstIceoryx2.Foundations.Runs

/-!
# Waiting for a loan

A loan fails while no slot is free. In lossless mode the pool and the copy path of
the sink then sleep and try again, until a flush raises a flag that both look at
after every failed attempt. They share the flag and differ in what they return
when they find it raised: the copy path says that it is flushing, the pool gives
the error of a sink that does not wait at all.

Any number of calls run here, in any interleaving with each other and with the
flush, which raises the flag and lowers it again. The flag is not lowered while
the sink renders. No such promise covers the pool, whose calls run in threads of
their own, and which can therefore miss a flush and go back to sleep.

A flushed wait should end after at most one more attempt, and with the flushing
error if that fails (`Call.EndsByFlush`). The copy path always does
(`State.render_endsByFlush`). All waits do in exactly the runs where no flushed
wait of the pool looks at the flag again (`State.endsByFlush_iff`).
-/

set_option autoImplicit false

namespace GstIceoryx2.Element.LoanWaits

open Foundations

/-! ## What follows a failed loan -/

/-- The routines that wait for a loan: the pool's, and the copy path of the sink. -/
inductive Routine where
  | allocBuffer
  | render
  deriving DecidableEq

/-- The flow errors that a failed loan can give. -/
inductive FlowError where
  | error
  | flushing
  deriving DecidableEq

/-- A routine tries again later or gives up. -/
inductive Reaction where
  | sleep
  | giveUp (result : FlowError)
  deriving DecidableEq

/-- What a routine does about a failed loan, by its mode and the flag. -/
def Routine.loanFailed (lossless unlocked : Bool) : Routine → Reaction
  | allocBuffer =>
      if lossless && !unlocked then .sleep
      else .giveUp .error
  | render =>
      if lossless && !unlocked then .sleep
      else if lossless then .giveUp .flushing
      else .giveUp .error

/-- While nothing is flushed, a lossless routine sleeps. -/
theorem Routine.loanFailed_lossless (routine : Routine) :
    routine.loanFailed true false = .sleep := by
  cases routine with
  | allocBuffer => rfl
  | render => rfl

/-! ## Calls -/

/-- Where a call stands. It looks at the flag after an attempt failed. -/
inductive Phase where
  | attempting
  | polling
  | sleeping
  | loaned
  | gaveUp (result : FlowError)
  deriving DecidableEq

/-- A call of a routine. `flushed` records that a flush began during its wait,
`attempts` how often it has tried since, and `sleptAgain` whether it has gone to
sleep since. -/
structure Call where
  routine : Routine
  lossless : Bool
  phase : Phase
  failures : Nat
  flushed : Bool
  attempts : Nat
  sleptAgain : Bool
  deriving DecidableEq

namespace Call

/-- A call before its first attempt. -/
def begin (routine : Routine) (lossless : Bool) : Call where
  routine := routine
  lossless := lossless
  phase := .attempting
  failures := 0
  flushed := false
  attempts := 0
  sleptAgain := false

def returned (call : Call) : Bool :=
  match call.phase with
  | .loaned => true
  | .gaveUp _ => true
  | _ => false

/-- A lossless call waits from its first failed attempt until it returns. -/
def waiting (call : Call) : Bool :=
  call.lossless && (0 < call.failures && !call.returned)

/-- The call asks for a loan. -/
def attempt (found : Bool) (call : Call) : Option Call :=
  match call.phase with
  | .attempting =>
      some { call with
        phase := if found then .loaned else .polling
        failures := if found then call.failures else call.failures + 1
        attempts := if call.flushed then call.attempts + 1 else call.attempts }
  | _ => none

/-- The call looks at the flag. -/
def poll (unlocked : Bool) (call : Call) : Option Call :=
  match call.phase with
  | .polling =>
      match call.routine.loanFailed call.lossless unlocked with
      | .sleep =>
          some { call with
            phase := .sleeping, sleptAgain := call.sleptAgain || call.flushed }
      | .giveUp result => some { call with phase := .gaveUp result }
  | _ => none

/-- The call has slept long enough. -/
def wake (call : Call) : Option Call :=
  match call.phase with
  | .sleeping => some { call with phase := .attempting }
  | _ => none

/-- A flush begins. -/
def unlock (call : Call) : Call :=
  { call with flushed := call.flushed || call.waiting }

/-- A flushed wait makes at most one more attempt, does not sleep again, and gives
up with no other error than the flushing one. -/
def EndsByFlush (call : Call) : Prop :=
  call.flushed = true → call.attempts ≤ 1 ∧ call.sleptAgain = false ∧
    ∀ result, call.phase = .gaveUp result → result = .flushing

end Call

/-! ## The system -/

/-- The flag and the calls, in the order in which they began. -/
structure State where
  unlocked : Bool
  calls : List Call

/-- A step of a call, or of the flush. -/
inductive Event where
  | begin (routine : Routine) (lossless : Bool)
  | attempt (index : Nat) (found : Bool)
  | poll (index : Nat)
  | wake (index : Nat)
  | unlock
  | unlockStop

namespace State

/-- No calls, and nothing flushed. -/
def started : State where
  unlocked := false
  calls := []

/-- The sink is rendering. -/
def rendering (state : State) : Bool :=
  state.calls.any fun call => call.routine = .render && !call.returned

/-- One call takes a step. -/
def advance (state : State) (index : Nat) (act : Call → Option Call) : Option State :=
  match state.calls[index]? with
  | none => none
  | some call =>
      match act call with
      | none => none
      | some after => some { state with calls := state.calls.set index after }

/-- Take a step. -/
def step (state : State) : Event → Option State
  | .begin routine lossless =>
      some { state with calls := state.calls ++ [Call.begin routine lossless] }
  | .attempt index found => state.advance index (Call.attempt found)
  | .poll index => state.advance index (Call.poll state.unlocked)
  | .wake index => state.advance index Call.wake
  | .unlock => some { unlocked := true, calls := state.calls.map Call.unlock }
  | .unlockStop => if state.rendering then none else some { state with unlocked := false }

end State

/-! ## What a flush does to a call -/

/-- What a call and the flag have to do with each other. Only a lossless wait is
flushed, it has not tried again before it wakes, the flag stays up for the sink,
and the wait ends by the flush. -/
structure Call.Sound (unlocked : Bool) (call : Call) : Prop where
  unflushed : call.flushed = false → call.attempts = 0 ∧ call.sleptAgain = false
  lossless : call.flushed = true → call.lossless = true
  untried : call.flushed = true → call.phase = .attempting ∨ call.phase = .sleeping →
    call.attempts = 0
  raised : call.flushed = true → call.routine = .render → call.returned = false →
    unlocked = true
  ends : call.EndsByFlush

namespace Call

variable {unlocked : Bool} {call after : Call}

theorem endsByFlush_of_unflushed (unflushed : call.flushed = false) : call.EndsByFlush := by
  intro flushed
  exact absurd (unflushed.symm.trans flushed) Bool.false_ne_true

/-- A call that no flush has reached is sound. -/
theorem Sound.of_unflushed (unflushed : call.flushed = false)
    (fresh : call.attempts = 0 ∧ call.sleptAgain = false) : call.Sound unlocked := by
  have never : ∀ {claim : Prop}, call.flushed = true → claim := fun flushed =>
    absurd (unflushed.symm.trans flushed) Bool.false_ne_true
  exact ⟨fun _ => fresh, never, never, never, endsByFlush_of_unflushed unflushed⟩

theorem attempt_eq_some {found : Bool} (taken : call.attempt found = some after) :
    call.phase = .attempting ∧ after = { call with
      phase := if found then .loaned else .polling
      failures := if found then call.failures else call.failures + 1
      attempts := if call.flushed then call.attempts + 1 else call.attempts } := by
  unfold attempt at taken
  split at taken
  · cases taken
    exact ⟨by assumption, rfl⟩
  · cases taken

theorem poll_eq_some (taken : call.poll unlocked = some after) :
    call.phase = .polling ∧
      ((call.routine.loanFailed call.lossless unlocked = .sleep ∧ after = { call with
          phase := .sleeping
          sleptAgain := call.sleptAgain || call.flushed }) ∨
        ∃ result, call.routine.loanFailed call.lossless unlocked = .giveUp result ∧
          after = { call with phase := .gaveUp result }) := by
  unfold poll at taken
  split at taken
  · split at taken
    · cases taken
      exact ⟨by assumption, .inl ⟨by assumption, rfl⟩⟩
    · cases taken
      exact ⟨by assumption, .inr ⟨_, by assumption, rfl⟩⟩
  · cases taken

theorem wake_eq_some (taken : call.wake = some after) :
    call.phase = .sleeping ∧ after = { call with phase := .attempting } := by
  unfold wake at taken
  split at taken
  · cases taken
    exact ⟨by assumption, rfl⟩
  · cases taken

/-- The one attempt that is left to a flushed wait. -/
theorem Sound.attempt {found : Bool} (sound : call.Sound unlocked)
    (taken : call.attempt found = some after) : after.Sound unlocked := by
  obtain ⟨phase, rfl⟩ := attempt_eq_some taken
  rcases call.flushed.eq_false_or_eq_true with flushed | unflushed
  · have tried := sound.untried flushed (.inl phase)
    refine ⟨?_, sound.lossless, ?_, ?_, ?_⟩
    · intro unflushed
      exact absurd (unflushed.symm.trans flushed) Bool.false_ne_true
    · intro _ stands
      cases found with
      | true => simp at stands
      | false => simp at stands
    · intro _ render _
      exact sound.raised flushed render (by simp [returned, phase])
    · intro _
      refine ⟨?_, (sound.ends flushed).2.1, ?_⟩
      · simp [flushed, tried]
      · intro result gaveUp
        cases found with
        | true => cases gaveUp
        | false => cases gaveUp
  · refine .of_unflushed unflushed ?_
    simpa [unflushed] using sound.unflushed unflushed

/-- A flushed wait of the sink gives up, since the flag stays up for it. -/
theorem Sound.poll (sound : call.Sound unlocked)
    (sink : call.flushed = true → call.routine = .render)
    (taken : call.poll unlocked = some after) : after.Sound unlocked := by
  obtain ⟨phase, outcome⟩ := poll_eq_some taken
  rcases call.flushed.eq_false_or_eq_true with flushed | unflushed
  · have render := sink flushed
    have raised := sound.raised flushed render (by simp [returned, phase])
    have reaction : call.routine.loanFailed call.lossless unlocked = .giveUp .flushing := by
      rw [render, sound.lossless flushed, raised]
      rfl
    rcases outcome with ⟨slept, -⟩ | ⟨result, gaveUp, rfl⟩
    · cases reaction.symm.trans slept
    · cases reaction.symm.trans gaveUp
      have ends := sound.ends flushed
      refine ⟨?_, sound.lossless, ?_, fun _ _ _ => raised, ?_⟩
      · intro unflushed
        exact absurd (unflushed.symm.trans flushed) Bool.false_ne_true
      · intro _ stands
        simp at stands
      · intro _
        refine ⟨ends.1, ends.2.1, ?_⟩
        rintro _ ⟨⟩
        rfl
  · rcases outcome with ⟨-, rfl⟩ | ⟨result, -, rfl⟩
    · refine .of_unflushed unflushed ?_
      simpa [unflushed] using sound.unflushed unflushed
    · exact .of_unflushed unflushed (sound.unflushed unflushed)

/-- **A flushed wait of the pool that looks at the flag does what a flush should
prevent, whether the flag is still up or not.** -/
theorem not_endsByFlush_of_poll (lossless : call.lossless = true)
    (flushed : call.flushed = true) (pool : call.routine = .allocBuffer)
    (taken : call.poll unlocked = some after) : ¬ after.EndsByFlush := by
  intro ends
  obtain ⟨-, ⟨-, rfl⟩ | ⟨result, gaveUp, rfl⟩⟩ := poll_eq_some taken
  · have rested := (ends flushed).2.1
    simp [flushed] at rested
  · have flushing := (ends flushed).2.2 result rfl
    rw [pool, lossless, flushing] at gaveUp
    cases unlocked with
    | false => cases gaveUp
    | true => cases gaveUp

theorem Sound.wake (sound : call.Sound unlocked) (taken : call.wake = some after) :
    after.Sound unlocked := by
  obtain ⟨phase, rfl⟩ := wake_eq_some taken
  refine ⟨sound.unflushed, sound.lossless, ?_, ?_, ?_⟩
  · intro flushed _
    exact sound.untried flushed (.inr phase)
  · intro flushed render _
    exact sound.raised flushed render (by simp [returned, phase])
  · intro flushed
    obtain ⟨attempts, rested, -⟩ := sound.ends flushed
    exact ⟨attempts, rested, fun _ gaveUp => by cases gaveUp⟩

/-- A flush that begins finds a wait with nothing tried since. -/
theorem Sound.unlock (sound : call.Sound unlocked) : call.unlock.Sound true := by
  rcases call.flushed.eq_false_or_eq_true with flushed | unflushed
  · have same : call.unlock = call := by
      rw [Call.unlock, flushed, Bool.true_or, ← flushed]
    rw [same]
    exact ⟨sound.unflushed, sound.lossless, sound.untried, fun _ _ _ => rfl, sound.ends⟩
  · obtain ⟨untried, rested⟩ := sound.unflushed unflushed
    rcases call.waiting.eq_false_or_eq_true with waits | idle
    · simp only [waiting, Bool.and_eq_true, Bool.not_eq_true'] at waits
      obtain ⟨lossless, -, standing⟩ := waits
      refine ⟨fun _ => ⟨untried, rested⟩, fun _ => lossless, fun _ _ => untried,
        fun _ _ _ => rfl, ?_⟩
      intro _
      refine ⟨untried ▸ Nat.zero_le 1, rested, ?_⟩
      intro result gaveUp
      have phase : call.phase = .gaveUp result := gaveUp
      simp [returned, phase] at standing
    · refine .of_unflushed ?_ ⟨untried, rested⟩
      simp [Call.unlock, unflushed, idle]

/-- The flag can be lowered while the sink does not render. -/
theorem Sound.unlockStop (sound : call.Sound unlocked)
    (idle : call.routine = .render → call.returned = true) : call.Sound false := by
  refine ⟨sound.unflushed, sound.lossless, sound.untried, ?_, sound.ends⟩
  intro _ render standing
  exact absurd (standing.symm.trans (idle render)) Bool.false_ne_true

theorem sound_begin (routine : Routine) (lossless : Bool) :
    (begin routine lossless).Sound unlocked :=
  .of_unflushed rfl ⟨rfl, rfl⟩

theorem attempt_routine {found : Bool} (taken : call.attempt found = some after) :
    after.routine = call.routine := by
  obtain ⟨-, rfl⟩ := attempt_eq_some taken
  rfl

theorem poll_routine (taken : call.poll unlocked = some after) :
    after.routine = call.routine := by
  obtain ⟨-, ⟨-, rfl⟩ | ⟨_, -, rfl⟩⟩ := poll_eq_some taken
  · rfl
  · rfl

theorem wake_routine (taken : call.wake = some after) : after.routine = call.routine := by
  obtain ⟨-, rfl⟩ := wake_eq_some taken
  rfl

end Call

/-! ## Whole runs -/

namespace State

/-- The calls of the routines in scope are sound. -/
def Sound (scope : Routine → Prop) (state : State) : Prop :=
  ∀ call ∈ state.calls, scope call.routine → call.Sound state.unlocked

/-- Among the flushed waits in scope, only those of the sink look at the flag. -/
def OnlySinkPolls (scope : Routine → Prop) (state : State) (event : Event) : Prop :=
  ∀ index call, event = .poll index → state.calls[index]? = some call → scope call.routine →
    call.flushed = true → call.routine = .render

/-- Every wait ends by the flush. -/
def EndsByFlush (state : State) : Prop :=
  ∀ call ∈ state.calls, call.EndsByFlush

variable {scope : Routine → Prop} {state next : State} {events : List Event} {event : Event}

theorem advance_eq_some {index : Nat} {act : Call → Option Call}
    (taken : state.advance index act = some next) :
    ∃ call after, state.calls[index]? = some call ∧ act call = some after ∧
      next = { state with calls := state.calls.set index after } := by
  unfold advance at taken
  split at taken
  · cases taken
  · split at taken
    · cases taken
    · cases taken
      exact ⟨_, _, by assumption, by assumption, rfl⟩

/-- A step of one call leaves the others as they were. -/
theorem Sound.advance {index : Nat} {act : Call → Option Call} (sound : state.Sound scope)
    (taken : state.advance index act = some next)
    (routine : ∀ {call after}, act call = some after → after.routine = call.routine)
    (kept : ∀ {call after}, state.calls[index]? = some call → scope call.routine →
      call.Sound state.unlocked → act call = some after → after.Sound state.unlocked) :
    next.Sound scope := by
  obtain ⟨call, after, found, acted, rfl⟩ := advance_eq_some taken
  intro other member inScope
  rcases List.mem_or_eq_of_mem_set member with earlier | rfl
  · exact sound other earlier inScope
  · rw [routine acted] at inScope
    exact kept found inScope (sound call (List.mem_of_getElem? found) inScope) acted

theorem not_rendering (idle : ¬ state.rendering = true) {call : Call}
    (member : call ∈ state.calls) (render : call.routine = .render) : call.returned = true := by
  by_contra standing
  refine idle (List.any_eq_true.mpr ⟨call, member, ?_⟩)
  simpa [render] using standing

/-- **A step keeps the calls in scope sound, when no flushed wait of the pool among
them looks at the flag.** -/
theorem Sound.step (sound : state.Sound scope) (only : state.OnlySinkPolls scope event)
    (taken : state.step event = some next) : next.Sound scope := by
  cases event with
  | begin routine lossless =>
      cases taken
      intro call member inScope
      rcases List.mem_append.mp member with earlier | fresh
      · exact sound call earlier inScope
      · obtain rfl := List.mem_singleton.mp fresh
        exact Call.sound_begin routine lossless
  | attempt index found =>
      exact sound.advance taken Call.attempt_routine fun _ _ before acted =>
        before.attempt acted
  | poll index =>
      exact sound.advance taken Call.poll_routine fun found inScope before acted =>
        before.poll (only index _ rfl found inScope) acted
  | wake index =>
      exact sound.advance taken Call.wake_routine fun _ _ before acted => before.wake acted
  | unlock =>
      cases taken
      intro after member inScope
      obtain ⟨call, earlier, rfl⟩ := List.mem_map.mp member
      exact (sound call earlier inScope).unlock
  | unlockStop =>
      simp only [State.step] at taken
      split at taken
      · cases taken
      · rename_i idle
        cases taken
        intro call member inScope
        exact (sound call member inScope).unlockStop (not_rendering idle member)

theorem sound_of_run (run : Run step (OnlySinkPolls scope) started events state) :
    state.Sound scope := by
  refine run.invariant (Sound scope) ?_ ?_
  · intro call member
    cases member
  · intro before event after sound only taken
    exact sound.step only taken

/-- **In every run, every wait of the sink ends by the flush.** -/
theorem render_endsByFlush (run : Run step unguarded started events state) :
    ∀ call ∈ state.calls, call.routine = .render → call.EndsByFlush := by
  have sound : state.Sound (· = .render) := by
    refine run.invariant (Sound (· = .render)) ?_ ?_
    · intro call member
      cases member
    · intro before event after sound _ taken
      exact sound.step (fun _ _ _ _ render _ => render) taken
  intro call member render
  exact (sound call member render).ends

/-- **Every wait ends by the flush throughout a run exactly when, in that run, no
flushed wait of the pool looks at the flag again.** -/
theorem endsByFlush_iff (run : Run step unguarded started events state) :
    Throughout step started EndsByFlush events ↔
      Run step (OnlySinkPolls fun _ => True) started events state := by
  refine run.throughout_iff_guarded EndsByFlush ?_ ?_
  · intro call member
    cases member
  · intro events before event after earlier _ taken
    have sound : before.Sound fun _ => True := sound_of_run earlier
    constructor
    · rintro ends index call rfl found - flushed
      obtain ⟨call', acted, found', polled, rfl⟩ := advance_eq_some taken
      obtain rfl := Option.some.inj (found.symm.trans found')
      have lossless := (sound call (List.mem_of_getElem? found) trivial).lossless flushed
      have present : acted ∈ before.calls.set index acted :=
        List.mem_set (List.getElem?_eq_some_iff.mp found).1 acted
      cases routine : call.routine with
      | render => rfl
      | allocBuffer =>
          exact absurd (ends acted present)
            (Call.not_endsByFlush_of_poll lossless flushed routine polled)
    · intro only call member
      exact (sound.step only taken call member trivial).ends

/-- A lossless call fails once and goes to sleep, and a flush begins. -/
def flushedAsleep (routine : Routine) : List Event :=
  [.begin routine true, .attempt 0 false, .poll 0, .unlock]

/-- A wait of the pool that finds a slot after the flush began. -/
theorem endsByFlush_iff_slotFound :
    Throughout step started EndsByFlush
      (flushedAsleep .allocBuffer ++ [.wake 0, .attempt 0 true]) := by
  have run : Run step unguarded started
      (flushedAsleep .allocBuffer ++ [.wake 0, .attempt 0 true])
      ⟨true, [⟨.allocBuffer, true, .loaned, 1, true, 1, false⟩]⟩ :=
    execute_eq_some_iff.mp rfl
  have other : ∀ {state : State} {event : Event}, (∀ index, event ≠ .poll index) →
      state.OnlySinkPolls (fun _ => True) event :=
    fun differs index _ same => absurd same (differs index)
  refine (endsByFlush_iff run).mpr ?_
  refine .cons (other nofun) rfl (.cons (other nofun) rfl (.cons ?_ rfl (.cons (other nofun) rfl
    (.cons (other nofun) rfl (.cons (other nofun) rfl .nil)))))
  rintro _ _ ⟨⟩ ⟨⟩ - ⟨⟩

/-- **A wait of the pool that a flush reaches in its sleep gives up with the error
of a sink that does not wait, while the sink's would say that it is flushing. When
the flag is lowered before the pool looks, it sleeps again.** -/
theorem allocBuffer_misses_flush :
    (∃ state, Run step unguarded started
        (flushedAsleep .allocBuffer ++ [.wake 0, .attempt 0 false, .poll 0]) state ∧
      state.calls.map Call.phase = [.gaveUp .error] ∧ ¬ state.EndsByFlush) ∧
    (∃ state, Run step unguarded started
        (flushedAsleep .render ++ [.wake 0, .attempt 0 false, .poll 0]) state ∧
      state.calls.map Call.phase = [.gaveUp .flushing]) ∧
    (∃ state, Run step unguarded started
        (flushedAsleep .allocBuffer ++ [.unlockStop, .wake 0, .attempt 0 false, .poll 0]) state ∧
      state.calls.map Call.phase = [.sleeping] ∧ ¬ state.EndsByFlush) := by
  refine ⟨⟨_, execute_eq_some_iff.mp rfl, rfl, ?_⟩, ⟨_, execute_eq_some_iff.mp rfl, rfl⟩,
    ⟨_, execute_eq_some_iff.mp rfl, rfl, ?_⟩⟩
  · intro ends
    cases (ends _ (List.mem_singleton_self _) rfl).2.2 _ rfl
  · intro ends
    cases (ends _ (List.mem_singleton_self _) rfl).2.1

end State

end GstIceoryx2.Element.LoanWaits
