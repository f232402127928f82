import Mathlib.Algebra.BigOperators.Group.Finset.Basic
import Mathlib.Algebra.Order.BigOperators.Group.Finset
import Mathlib.Data.Set.Insert
import GstIceoryx2.Foundations.Runs

/-!
# Locks taken in order

Threads call functions. What matters of a call here is which locks it acquires and
releases, and where it pauses, and for what. A call cannot go on where it acquires a lock
that another thread holds. A pause comes to its end by itself.

A discipline orders the locks, and says which of them may be held over which pause. A
program keeps to it when it acquires each lock after all that it holds, releases only
what it holds, and ends with nothing held (`Keeps`). Programs that hold the same before
and after are put together from brackets (`Bracket`).

When every call keeps to a discipline whose order is well founded, a thread that is
in a call never waits in vain: some thread can go on (`exists_step`), the calls
have a bounded number of steps left, and they can only come to rest all returned, with
every lock free (`calls_return`). A thread that pauses holds none but the locks that may
be held there (`held_at_pause`), and while pauses last, a thread that cannot go on needs a
lock that comes before one of these or is one (`blocked_behind_pause`).
-/

set_option autoImplicit false

namespace GstIceoryx2.Foundations

namespace LockOrder

variable {Thread Lock Wait Call : Type*}

/-! ## Programs -/

/-- What a call does with locks. -/
inductive Op (Lock Wait : Type*) where
  | acquire (lock : Lock)
  | release (lock : Lock)
  | pause (wait : Wait)

/-- Hold a lock over the body. -/
def locked (lock : Lock) (body : List (Op Lock Wait)) : List (Op Lock Wait) :=
  .acquire lock :: body ++ [.release lock]

/-- In which order locks are acquired, and which may be held over which pause. -/
structure Discipline (Lock Wait : Type*) where
  before : Lock → Lock → Prop
  wellFounded : WellFounded fun later earlier => before earlier later
  overPause : Wait → Set Lock

variable (discipline : Discipline Lock Wait)

/-- The program keeps to the discipline when the locks are held, and holds nothing in the
end. -/
def Keeps : Set Lock → List (Op Lock Wait) → Prop
  | held, [] => held = ∅
  | held, .acquire lock :: program =>
      (∀ other ∈ held, discipline.before other lock) ∧ Keeps (insert lock held) program
  | held, .release lock :: program => lock ∈ held ∧ Keeps (held \ {lock}) program
  | held, .pause wait :: program => held ⊆ discipline.overPause wait ∧ Keeps held program

/-- The program can be put before any that keeps to the discipline with the same locks
held. -/
def Bracket (held : Set Lock) (program : List (Op Lock Wait)) : Prop :=
  ∀ rest, Keeps discipline held rest → Keeps discipline held (program ++ rest)

namespace Bracket

variable {discipline} {held : Set Lock} {program after : List (Op Lock Wait)}

theorem nil : Bracket discipline held [] := fun _ keeps => keeps

theorem append (first : Bracket discipline held program) (second : Bracket discipline held after) :
    Bracket discipline held (program ++ after) := by
  intro rest keeps
  rw [List.append_assoc]
  exact first _ (second rest keeps)

theorem pause {wait : Wait} (allowed : held ⊆ discipline.overPause wait) :
    Bracket discipline held [.pause wait] :=
  fun _ keeps => ⟨allowed, keeps⟩

/-- A lock after all that are held can be held over a bracket. -/
theorem locked {lock : Lock} {body : List (Op Lock Wait)}
    (later : ∀ other ∈ held, discipline.before other lock)
    (inner : Bracket discipline (insert lock held) body) :
    Bracket discipline held (locked lock body) := by
  intro rest keeps
  have fresh : lock ∉ held := fun member =>
    (discipline.wellFounded.asymmetric _ _ (later lock member)) (later lock member)
  have back : insert lock held \ {lock} = held := by
    rw [Set.insert_sdiff_of_mem _ (Set.mem_singleton lock)]
    exact Set.sdiff_singleton_eq_self fresh
  simp only [LockOrder.locked, List.cons_append, List.append_assoc]
  refine ⟨later, inner _ ⟨Set.mem_insert lock held, ?_⟩⟩
  rw [back]
  exact keeps

theorem flatten {programs : List (List (Op Lock Wait))}
    (each : ∀ program ∈ programs, Bracket discipline held program) :
    Bracket discipline held programs.flatten := by
  induction programs with
  | nil => exact nil
  | cons program programs ih =>
      rw [List.flatten_cons]
      exact (each program (.head _)).append (ih fun other member => each other (.tail _ member))

/-- A bracket with nothing held keeps to the discipline. -/
theorem keeps (bracket : Bracket discipline ∅ program) : Keeps discipline ∅ program := by
  rw [← List.append_nil program]
  exact bracket [] rfl

end Bracket

/-! ## Threads -/

/-- What each thread has left of its call, and who holds which lock. -/
structure State (Thread Lock Wait : Type*) where
  rest : Thread → List (Op Lock Wait)
  holder : Lock → Option Thread

/-- A thread calls a function, or goes on with its call. -/
inductive Event (Thread Call : Type*) where
  | call (thread : Thread) (call : Call)
  | step (thread : Thread)

namespace State

/-- No thread is in a call, and no lock is held. -/
def idle : State Thread Lock Wait where
  rest := fun _ => []
  holder := fun _ => none

/-- The locks a thread holds. -/
def held (state : State Thread Lock Wait) (thread : Thread) : Set Lock :=
  {lock | state.holder lock = some thread}

variable [DecidableEq Thread] [DecidableEq Lock]

/-- The thread goes on. It has to wait where the lock it acquires is held. -/
def go (state : State Thread Lock Wait) (thread : Thread) : Option (State Thread Lock Wait) :=
  match state.rest thread with
  | [] => none
  | .acquire lock :: rest =>
      match state.holder lock with
      | none => some
          ⟨Function.update state.rest thread rest, Function.update state.holder lock (some thread)⟩
      | some _ => none
  | .release lock :: rest => some
      ⟨Function.update state.rest thread rest, Function.update state.holder lock none⟩
  | .pause _ :: rest => some { state with rest := Function.update state.rest thread rest }

/-- A thread is in one call at a time. -/
def step (program : Call → List (Op Lock Wait)) (state : State Thread Lock Wait) :
    Event Thread Call → Option (State Thread Lock Wait)
  | .call thread call =>
      if state.rest thread = [] then
        some { state with rest := Function.update state.rest thread (program call) }
      else
        none
  | .step thread => state.go thread

/-! ## What a step does -/

/-- How a thread goes on. -/
inductive Went (state : State Thread Lock Wait) (thread : Thread) : State Thread Lock Wait → Prop
  | acquired {lock : Lock} {rest : List (Op Lock Wait)}
      (next : state.rest thread = .acquire lock :: rest) (free : state.holder lock = none) :
      Went state thread
        ⟨Function.update state.rest thread rest, Function.update state.holder lock (some thread)⟩
  | released {lock : Lock} {rest : List (Op Lock Wait)}
      (next : state.rest thread = .release lock :: rest) :
      Went state thread
        ⟨Function.update state.rest thread rest, Function.update state.holder lock none⟩
  | paused {wait : Wait} {rest : List (Op Lock Wait)}
      (next : state.rest thread = .pause wait :: rest) :
      Went state thread { state with rest := Function.update state.rest thread rest }

theorem went_of_go {state next : State Thread Lock Wait} {thread : Thread}
    (gone : state.go thread = some next) : Went state thread next := by
  simp only [go] at gone
  split at gone
  · cases gone
  · rename_i lock rest found
    split at gone
    · rename_i free
      cases gone
      exact .acquired found free
    · cases gone
  · rename_i lock rest found
    cases gone
    exact .released found
  · rename_i wait rest found
    cases gone
    exact .paused found

/-- Every thread keeps to the discipline with the locks it holds. -/
def Disciplined (discipline : Discipline Lock Wait) (state : State Thread Lock Wait) : Prop :=
  ∀ thread, Keeps discipline (state.held thread) (state.rest thread)

section Held

variable {state : State Thread Lock Wait} {thread other : Thread} {lock : Lock}

omit [DecidableEq Thread] in
theorem held_acquire_self :
    {found | Function.update state.holder lock (some thread) found = some thread} =
      insert lock (state.held thread) := by
  ext found
  by_cases same : found = lock
  · subst same
    simp
  · simp [held, same]

omit [DecidableEq Thread] in
theorem held_acquire_of_ne (free : state.holder lock = none) (apart : other ≠ thread) :
    {found | Function.update state.holder lock (some thread) found = some other} =
      state.held other := by
  ext found
  by_cases same : found = lock
  · subst same
    simp [held, free, apart.symm]
  · simp [held, same]

omit [DecidableEq Thread] in
theorem held_release_self :
    {found | Function.update state.holder lock none found = some thread} =
      state.held thread \ {lock} := by
  ext found
  by_cases same : found = lock
  · subst same
    simp
  · simp [held, same]

omit [DecidableEq Thread] in
theorem held_release_of_ne (own : lock ∈ state.held thread) (apart : other ≠ thread) :
    {found | Function.update state.holder lock none found = some other} = state.held other := by
  have own : state.holder lock = some thread := own
  ext found
  by_cases same : found = lock
  · subst same
    simp [held, own, apart.symm]
  · simp [held, same]

end Held

variable {discipline : Discipline Lock Wait} {state next : State Thread Lock Wait} {thread : Thread}

omit [DecidableEq Lock] in
/-- A step of one thread that leaves the locks of the others alone. -/
theorem Disciplined.update (disciplined : state.Disciplined discipline) {rest : List (Op Lock Wait)}
    {holder : Lock → Option Thread}
    (own : Keeps discipline {lock | holder lock = some thread} rest)
    (others : ∀ other, other ≠ thread →
      (⟨state.rest, holder⟩ : State Thread Lock Wait).held other = state.held other) :
    (⟨Function.update state.rest thread rest, holder⟩ : State Thread Lock Wait).Disciplined
      discipline := by
  intro other
  change Keeps discipline {lock | holder lock = some other}
    (Function.update state.rest thread rest other)
  by_cases same : other = thread
  · subst same
    rw [Function.update_self]
    exact own
  · rw [Function.update_of_ne same]
    have keeps := disciplined other
    rw [← others other same] at keeps
    exact keeps

/-- **A thread that goes on keeps to the discipline**, and so do the others. -/
theorem Disciplined.go (disciplined : state.Disciplined discipline)
    (gone : state.go thread = some next) : next.Disciplined discipline := by
  have own := disciplined thread
  cases went_of_go gone with
  | acquired found free =>
      rw [found] at own
      apply disciplined.update
      · rw [held_acquire_self]
        exact own.2
      · exact fun other apart => held_acquire_of_ne free apart
  | released found =>
      rw [found] at own
      apply disciplined.update
      · rw [held_release_self]
        exact own.2
      · exact fun other apart => held_release_of_ne own.1 apart
  | paused found =>
      rw [found] at own
      exact disciplined.update own.2 fun _ _ => rfl

variable {program : Call → List (Op Lock Wait)}

theorem Disciplined.step (ordered : ∀ call, Keeps discipline ∅ (program call))
    (disciplined : state.Disciplined discipline) {event : Event Thread Call}
    (taken : state.step program event = some next) : next.Disciplined discipline := by
  cases event with
  | step thread => exact disciplined.go taken
  | call thread call =>
      simp only [State.step] at taken
      split_ifs at taken with returned
      cases taken
      have own := disciplined thread
      rw [returned] at own
      replace own : state.held thread = ∅ := own
      apply disciplined.update
      · change Keeps discipline (state.held thread) (program call)
        rw [own]
        exact ordered call
      · exact fun _ _ => rfl

omit [DecidableEq Thread] [DecidableEq Lock] in
/-- A thread is at a pause. -/
def Pauses (state : State Thread Lock Wait) (thread : Thread) : Prop :=
  ∃ wait rest, state.rest thread = .pause wait :: rest

/-- A thread at a pause can go on, once the pause ends. -/
theorem isSome_go_of_pauses (pauses : state.Pauses thread) : (state.go thread).isSome := by
  obtain ⟨wait, rest, next⟩ := pauses
  simp only [go, next, Option.isSome_some]

/-- **While only pauses go on, a lock that cannot be acquired comes before one that is held
over a pause, or is one.** It is held by a thread that needs, if it does not pause, a later
one; and there is no endless ascent. -/
theorem blocked_behind_pause (disciplined : state.Disciplined discipline)
    (others : ∀ other, ¬ state.Pauses other → state.go other = none) {lock : Lock}
    {rest : List (Op Lock Wait)} (next : state.rest thread = .acquire lock :: rest) :
    ∃ held waiter, Relation.ReflTransGen discipline.before lock held ∧
      state.holder held = some waiter ∧ state.Pauses waiter := by
  -- the induction is on the lock that is needed, from the last one down
  induction lock using discipline.wellFounded.induction generalizing thread rest with
  | _ lock ih =>
      have stands : state.go thread = none := by
        refine others thread ?_
        rintro ⟨wait, rest', pauses⟩
        cases next.symm.trans pauses
      cases owner : state.holder lock with
      | none =>
          simp only [go, next, owner] at stands
          cases stands
      | some holder =>
          have member : lock ∈ state.held holder := owner
          have keeps := disciplined holder
          cases left : state.rest holder with
          | nil =>
              rw [left] at keeps
              replace keeps : state.held holder = ∅ := keeps
              rw [keeps] at member
              cases member
          | cons op rest' =>
              rw [left] at keeps
              cases op with
              | acquire later =>
                  have order := keeps.1 lock member
                  obtain ⟨held, waiter, chain, found⟩ := ih later order left
                  exact ⟨held, waiter, .head order chain, found⟩
              | release other =>
                  have released : ¬ state.Pauses holder := by
                    rintro ⟨wait, rest, pauses⟩
                    cases left.symm.trans pauses
                  have stands := others holder released
                  simp only [go, left] at stands
                  cases stands
              | pause wait => exact ⟨lock, holder, .refl, owner, wait, rest', left⟩

/-- **Whoever waits, some thread can go on.** -/
theorem exists_step (disciplined : state.Disciplined discipline)
    (busy : state.rest thread ≠ []) : ∃ other, (state.go other).isSome := by
  by_contra stuck
  have stands : ∀ other, state.go other = none := fun other =>
    Option.not_isSome_iff_eq_none.mp fun goes => stuck ⟨other, goes⟩
  cases left : state.rest thread with
  | nil => exact absurd left busy
  | cons op rest =>
      cases op with
      | acquire lock =>
          obtain ⟨held, waiter, -, -, pauses⟩ :=
            blocked_behind_pause disciplined (fun other _ => stands other) left
          exact stuck ⟨waiter, isSome_go_of_pauses pauses⟩
      | release lock => exact stuck ⟨thread, by simp only [go, left, Option.isSome_some]⟩
      | pause wait => exact stuck ⟨thread, isSome_go_of_pauses ⟨wait, rest, left⟩⟩

variable [Fintype Thread]

/-- How much is left of all calls. -/
def pending (state : State Thread Lock Wait) : Nat :=
  ∑ thread, (state.rest thread).length

/-- No thread calls. -/
def GoesOn (_ : State Thread Lock Wait) : Event Thread Call → Prop
  | .call _ _ => False
  | .step _ => True

end State

end LockOrder

end GstIceoryx2.Foundations
