import GstIceoryx2.Foundations.Runs
import GstIceoryx2.Element.LoanWaits
import GstIceoryx2.Element.Sink

/-!
# The pool and the loans of its publisher

The sink proposes a pool without a limit on its buffers. Every buffer of the pool is
a loan of the publisher, from its acquisition until it is sent or dropped, and a
publisher grants only so many loans at a time. How many is configured where the
publisher is made, and the sink leaves it at what it is.

Here any number of buffers are acquired, rendered and dropped, in any interleaving
with the loans that copies and sentinels take, without the lossless mode. An acquisition
should not fail for the one reason that earlier buffers are not rendered yet, as long as
the proposal allows another buffer. That holds of a run exactly when every acquisition
that could have a loan finds fewer loans outstanding than the publisher grants
(`pool_unlimited_iff`). For every number the publisher grants there is a run where it does
not (`exists_refused`).
-/

set_option autoImplicit false

namespace GstIceoryx2.Element.PoolLimit

open Foundations

/-! ## The proposal and the loans -/

/-- The parameters of a proposed pool. -/
structure PoolConfig where
  size : UInt32
  minBuffers : Nat
  maxBuffers : Nat

/-- What `propose_allocation` proposes for the negotiated layout. -/
def proposedConfig (info : Sink.CapsInfo) : PoolConfig where
  size := UInt32.ofNat info.size
  minBuffers := 0
  maxBuffers := 0

/-- Another buffer is allowed. A maximum of zero is none. -/
def PoolConfig.Allows (config : PoolConfig) (buffers : Nat) : Prop :=
  config.maxBuffers = 0 ∨ buffers < config.maxBuffers

/-- The publisher grants a loan while fewer than its maximum are outstanding, if it has
the memory. -/
def grants (maxLoaned outstanding : Nat) (available : Bool) : Bool :=
  outstanding < maxLoaned && available

/-! ## The state -/

/-- An acquisition: the buffers of the pool that were not rendered yet, whether the
publisher would have granted a loan without them, and what the pool did about a loan that
failed. -/
structure Attempt where
  buffers : Nat
  grantedAlone : Bool
  failed : Option LoanWaits.Reaction

/-- The loans that are registered for buffers, the other loans that are outstanding, and
the acquisitions so far. -/
structure State where
  acquired : Nat
  registry : List Nat
  others : Nat
  attempts : List Attempt

/-- What can happen. A render takes a loan out of the registry and sends it in a later
step; a copy or a sentinel takes a loan of its own and sends it in a later step. -/
inductive Event where
  | acquire (available unlocked : Bool)
  | takeForRender (buffer : Nat)
  | drop (buffer : Nat)
  | loanOther (available : Bool)
  | finishOther

namespace State

/-- Nothing acquired. -/
def started : State where
  acquired := 0
  registry := []
  others := 0
  attempts := []

/-- The loans of the publisher that are not sent or dropped. -/
def outstanding (state : State) : Nat :=
  state.registry.length + state.others

/-- `acquire_buffer`, without the lossless mode. -/
def acquire (maxLoaned : Nat) (state : State) (available unlocked : Bool) : State :=
  if grants maxLoaned state.outstanding available then
    { state with
      acquired := state.acquired + 1
      registry := state.registry ++ [state.acquired]
      attempts := state.attempts ++
        [⟨state.registry.length, grants maxLoaned state.others available, none⟩] }
  else
    { state with
      attempts := state.attempts ++
        [⟨state.registry.length, grants maxLoaned state.others available,
          some (LoanWaits.Routine.allocBuffer.loanFailed false unlocked)⟩] }

/-- The system takes a step. -/
def step (maxLoaned : Nat) (state : State) : Event → Option State
  | .acquire available unlocked => some (state.acquire maxLoaned available unlocked)
  | .takeForRender buffer =>
      if buffer ∈ state.registry then
        some { state with registry := state.registry.erase buffer, others := state.others + 1 }
      else
        none
  | .drop buffer => some { state with registry := state.registry.erase buffer }
  | .loanOther available =>
      if grants maxLoaned state.outstanding available then
        some { state with others := state.others + 1 }
      else
        some state
  | .finishOther =>
      if 0 < state.others then some { state with others := state.others - 1 } else none

/-! ## The property -/

/-- No acquisition failed with an error that the proposal allowed and the publisher would
have granted without the buffers that were not rendered yet. -/
def Unlimited (config : PoolConfig) (state : State) : Prop :=
  ∀ attempt ∈ state.attempts, config.Allows attempt.buffers → attempt.grantedAlone = true →
    attempt.failed ≠ some (.giveUp .error)

/-- An acquisition that could have a loan finds fewer outstanding than the publisher
grants. -/
def FindsRoom (maxLoaned : Nat) (state : State) : Event → Prop
  | .acquire available _ =>
      available = true → state.others < maxLoaned → state.outstanding < maxLoaned
  | _ => True

section Steps

variable {maxLoaned : Nat} {config : PoolConfig} {state next : State} {event : Event}

theorem grants_eq_true_iff {outstanding : Nat} {available : Bool} :
    grants maxLoaned outstanding available = true ↔ outstanding < maxLoaned ∧ available = true := by
  simp only [grants, Bool.and_eq_true, decide_eq_true_eq]

/-- Without the lossless mode a loan that fails is an error. -/
theorem loanFailed_allocBuffer (unlocked : Bool) :
    LoanWaits.Routine.allocBuffer.loanFailed false unlocked = .giveUp .error := by
  cases unlocked with
  | false => rfl
  | true => rfl

/-- An acquisition adds an attempt, which fails when no loan is granted. -/
theorem acquire_attempts (state : State) (available unlocked : Bool) :
    ∃ failed, (state.acquire maxLoaned available unlocked).attempts = state.attempts ++
        [⟨state.registry.length, grants maxLoaned state.others available, failed⟩] ∧
      (failed = some (.giveUp .error) ↔
        ¬ grants maxLoaned state.outstanding available = true) := by
  unfold acquire
  split
  · rename_i granted
    exact ⟨none, rfl, iff_of_false nofun (not_not.mpr granted)⟩
  · rename_i refused
    rw [loanFailed_allocBuffer]
    exact ⟨_, rfl, iff_of_true rfl refused⟩

/-- Only an acquisition adds to the attempts. -/
theorem attempts_of_step (taken : state.step maxLoaned event = some next) :
    (∃ available unlocked, event = .acquire available unlocked ∧
        next = state.acquire maxLoaned available unlocked) ∨
      next.attempts = state.attempts ∧
        ∀ available unlocked, event ≠ .acquire available unlocked := by
  cases event with
  | acquire available unlocked =>
      cases taken
      exact .inl ⟨available, unlocked, rfl, rfl⟩
  | takeForRender buffer =>
      simp only [step] at taken
      split_ifs at taken
      cases taken
      exact .inr ⟨rfl, nofun⟩
  | drop buffer =>
      cases taken
      exact .inr ⟨rfl, nofun⟩
  | loanOther available =>
      simp only [step] at taken
      split_ifs at taken
      · cases taken
        exact .inr ⟨rfl, nofun⟩
      · cases taken
        exact .inr ⟨rfl, nofun⟩
  | finishOther =>
      simp only [step] at taken
      split_ifs at taken
      cases taken
      exact .inr ⟨rfl, nofun⟩

theorem findsRoom_of_not_acquire
    (others : ∀ available unlocked, event ≠ .acquire available unlocked) :
    state.FindsRoom maxLoaned event := by
  cases event with
  | acquire available unlocked => exact absurd rfl (others available unlocked)
  | takeForRender _ => trivial
  | drop _ => trivial
  | loanOther _ => trivial
  | finishOther => trivial

theorem unlimited_of_step (taken : state.step maxLoaned event = some next)
    (after : next.Unlimited config) : state.Unlimited config := by
  rcases attempts_of_step taken with ⟨available, unlocked, rfl, rfl⟩ | ⟨same, -⟩
  · obtain ⟨failed, attempts, -⟩ : ∃ failed,
        (state.acquire maxLoaned available unlocked).attempts = _ ∧ _ :=
      acquire_attempts state available unlocked
    intro attempt member
    apply after attempt
    rw [attempts]
    exact List.mem_append_left _ member
  · rw [Unlimited, same] at after
    exact after

/-- **An acquisition keeps the pool unlimited exactly when it finds room.** -/
theorem unlimited_step_iff (allows : ∀ buffers, config.Allows buffers)
    (before : state.Unlimited config) (taken : state.step maxLoaned event = some next) :
    next.Unlimited config ↔ state.FindsRoom maxLoaned event := by
  rcases attempts_of_step taken with ⟨available, unlocked, rfl, rfl⟩ | ⟨same, others⟩
  · obtain ⟨failed, attempts, fails⟩ : ∃ failed,
        (state.acquire maxLoaned available unlocked).attempts = _ ∧ _ :=
      acquire_attempts state available unlocked
    rw [Unlimited, attempts, List.forall_mem_append, List.forall_mem_singleton]
    refine (and_iff_right before).trans ?_
    simp only [allows, ne_eq, fails, not_not, grants_eq_true_iff, FindsRoom, true_implies]
    constructor
    · intro granted loaned room
      exact (granted ⟨room, loaned⟩).1
    · rintro room ⟨alone, loaned⟩
      exact ⟨room loaned alone, loaned⟩
  · rw [Unlimited, same]
    exact iff_of_true before (findsRoom_of_not_acquire others)

end Steps

end State

/-! ## Runs -/

section Runs

open State

variable {finish : State} {events : List Event}

/-- **The pool honours the unlimited allocation it proposes exactly when every acquisition
that could have a loan finds fewer loans outstanding than the publisher grants.** -/
theorem pool_unlimited_iff (maxLoaned : Nat) (info : Sink.CapsInfo)
    (run : Run (step maxLoaned) unguarded started events finish) :
    finish.Unlimited (proposedConfig info) ↔
      Run (step maxLoaned) (FindsRoom maxLoaned) started events finish := by
  apply Run.iff_guarded (State.Unlimited (proposedConfig info)) _ _ _ run
  · intro attempt member
    cases member
  · intro state event next taken after
    exact unlimited_of_step taken after
  · intro _ state event next _ before taken
    exact unlimited_step_iff (fun _ => .inl rfl) before taken

/-- So many acquisitions, with memory for every loan and nothing rendered. -/
def acquisitions (count : Nat) : List Event :=
  List.replicate count (.acquire true false)

/-- As long as the publisher grants loans, every acquisition registers one. -/
theorem acquisitions_granted {maxLoaned count : Nat} (room : count ≤ maxLoaned) :
    ∃ state, Run (step maxLoaned) unguarded started (acquisitions count) state ∧
      state.registry.length = count ∧ state.others = 0 := by
  induction count with
  | zero => exact ⟨started, .nil, rfl, rfl⟩
  | succ count ih =>
      obtain ⟨state, run, held, others⟩ := ih (by omega)
      have granted : grants maxLoaned state.outstanding true = true := by
        rw [grants_eq_true_iff, State.outstanding, held, others]
        exact ⟨room, rfl⟩
      refine ⟨state.acquire maxLoaned true false, ?_, ?_, ?_⟩
      · rw [acquisitions, List.replicate_succ']
        exact .snoc run trivial rfl
      · rw [State.acquire, if_pos granted, List.length_append, held, List.length_singleton]
      · rw [State.acquire, if_pos granted, others]

/-- **However many loans the publisher grants, a pool of which nothing is rendered is
refused one more buffer in the end.** -/
theorem exists_refused {maxLoaned : Nat} (some_granted : 0 < maxLoaned) (info : Sink.CapsInfo) :
    ∃ finish, Run (step maxLoaned) unguarded started (acquisitions (maxLoaned + 1)) finish ∧
      ¬ finish.Unlimited (proposedConfig info) := by
  obtain ⟨state, run, held, others⟩ := acquisitions_granted (le_refl maxLoaned)
  refine ⟨state.acquire maxLoaned true false, ?_, ?_⟩
  · rw [acquisitions, List.replicate_succ']
    exact .snoc run trivial rfl
  · intro unlimited
    obtain ⟨failed, attempts, fails⟩ : ∃ failed,
        (state.acquire maxLoaned true false).attempts = _ ∧ _ :=
      acquire_attempts state true false
    rw [State.Unlimited, attempts] at unlimited
    apply unlimited _ (List.mem_append_right _ (.head _)) (.inl rfl)
    · rw [grants_eq_true_iff, others]
      exact ⟨some_granted, rfl⟩
    · rw [fails, grants_eq_true_iff, State.outstanding, held, others]
      omega

/-- The layout of one pixel, with a byte of padding. -/
def onePixel : Sink.CapsInfo where
  format := "BGR"
  width := 1
  height := 1
  nPlanes := 1
  stride := #v[4, 0, 0, 0]
  planeOffsets := #v[0, 0, 0, 0]
  size := 4

/-- A buffer is acquired, taken for its render, and sent, and another one follows. -/
def oneInFlight : List Event :=
  [.acquire true false, .takeForRender 0, .finishOther, .acquire true false]

/-- With one buffer in flight two loans are enough. -/
theorem pool_unlimited_iff_oneInFlight :
    ∃ finish, Run (step 2) unguarded started oneInFlight finish ∧ finish.attempts.length = 2 ∧
      finish.Unlimited (proposedConfig onePixel) := by
  have run : Run (step 2) unguarded started oneInFlight _ := execute_eq_some_iff.mp rfl
  refine ⟨_, run, rfl, (pool_unlimited_iff 2 _ run).mpr ?_⟩
  unfold oneInFlight
  refine .cons ?_ rfl (.cons ?_ rfl (.cons ?_ rfl (.cons ?_ rfl .nil)))
  · intro _ _
    exact Nat.zero_lt_succ 1
  · trivial
  · trivial
  · intro _ _
    exact Nat.zero_lt_succ 1

/-- A publisher with two loans refuses the third buffer of a pool without a limit, and the
only reason is that the first two are not rendered. -/
theorem third_buffer_refused :
    ∃ finish, Run (step 2) unguarded started (acquisitions 3) finish ∧
      finish.attempts.getLast? = some ⟨2, true, some (.giveUp .error)⟩ ∧
      ¬ finish.Unlimited (proposedConfig onePixel) := by
  have run : Run (step 2) unguarded started (acquisitions 3) _ := execute_eq_some_iff.mp rfl
  refine ⟨_, run, rfl, ?_⟩
  intro unlimited
  exact unlimited ⟨2, true, some (.giveUp .error)⟩ (.tail _ (.tail _ (.head _))) (.inl rfl) rfl rfl

end Runs

end GstIceoryx2.Element.PoolLimit
