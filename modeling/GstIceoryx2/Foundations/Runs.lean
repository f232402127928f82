import Mathlib.Data.List.Basic

/-!
# Runs of guarded transition systems

A system is a partial step function: an event is possible in a state when the
step gives a next state. A run takes possible events one after another. A guard
is a condition on a state and the event about to be taken in it; a run under a
guard meets it at every step, and a run under no guard is any run (`unguarded`).

An invariant of a run under a guard holds at the start and is kept by every step
that meets the guard (`Run.invariant`). When a property is lost exactly by the
steps that break the guard, and is never regained, a run ends with the property
exactly when it met the guard throughout (`Run.iff_guarded`). When it can be
regained, every state of the run has it exactly when the run met the guard
(`Run.throughout_iff_guarded`). What guarded steps keep holds in every state of a guarded
run (`Run.throughout`).

What is counted down by some of the steps comes to its end, or as many of them as there
were to take have not been taken (`Run.countdown`).

A finite list of events is executed by the step function itself
(`execute_eq_some_iff`), which is how a concrete run is exhibited.
-/

set_option autoImplicit false

namespace GstIceoryx2.Foundations

variable {State Event : Type*}

/-- The runs of a step function that meet a guard at every step. -/
inductive Run (step : State → Event → Option State) (guard : State → Event → Prop)
    (start : State) : List Event → State → Prop where
  | nil : Run step guard start [] start
  | snoc {middle finish : State} {events : List Event} {event : Event} :
      Run step guard start events middle → guard middle event →
        step middle event = some finish → Run step guard start (events ++ [event]) finish

/-- The guard that every step meets. -/
def unguarded : State → Event → Prop := fun _ _ => True

/-- Every state that the events pass has the property, the first and the last
included. -/
def Throughout (step : State → Event → Option State) (start : State) (holds : State → Prop)
    (events : List Event) : Prop :=
  ∀ before state, before <+: events → Run step unguarded start before state → holds state

/-- Take the events one after another, as long as each is possible and meets the
guard. -/
def execute (step : State → Event → Option State) (guard : State → Event → Prop)
    [∀ state event, Decidable (guard state event)] : State → List Event → Option State
  | state, [] => some state
  | state, event :: events =>
      if guard state event then
        match step state event with
        | none => none
        | some next => execute step guard next events
      else
        none

instance (state : State) (event : Event) : Decidable (unguarded state event) :=
  inferInstanceAs (Decidable True)

namespace Run

variable {step : State → Event → Option State} {guard : State → Event → Prop}
variable {start finish : State} {events : List Event}

theorem cons {next : State} {event : Event} (met : guard start event)
    (taken : step start event = some next) (rest : Run step guard next events finish) :
    Run step guard start (event :: events) finish := by
  induction rest with
  | nil => exact .snoc .nil met taken
  | snoc _ met' taken' ih => exact .snoc ih met' taken'

/-- Two runs, one after the other. -/
theorem append {middle : State} {more : List Event} (first : Run step guard start events middle)
    (second : Run step guard middle more finish) :
    Run step guard start (events ++ more) finish := by
  induction second with
  | nil => rwa [List.append_nil]
  | snoc _ met taken ih =>
      rw [← List.append_assoc]
      exact .snoc ih met taken

/-- The events of a run determine where it ends. -/
theorem foldlM_eq_some (run : Run step guard start events finish) :
    events.foldlM step start = some finish := by
  induction run with
  | nil => rfl
  | snoc _ _ taken ih =>
      rw [List.foldlM_append, ih]
      simpa using taken

theorem unique {weaker : State → Event → Prop} {finish' : State}
    (run : Run step guard start events finish)
    (run' : Run step weaker start events finish') : finish = finish' :=
  Option.some.inj (run.foldlM_eq_some.symm.trans run'.foldlM_eq_some)

/-- The last step of a run. -/
theorem last {event : Event} (run : Run step guard start (events ++ [event]) finish) :
    ∃ middle, Run step guard start events middle ∧ guard middle event ∧
      step middle event = some finish := by
  generalize whole : events ++ [event] = all at run
  cases run with
  | nil => exact absurd whole (by simp)
  | snoc earlier met taken =>
      obtain ⟨rfl, same⟩ := List.append_inj' whole rfl
      cases same
      exact ⟨_, earlier, met, taken⟩

/-- A run starts with the runs of its first events. -/
theorem of_prefix {before : List Event} (run : Run step guard start events finish)
    (isPrefix : before <+: events) : ∃ middle, Run step guard start before middle := by
  induction run with
  | nil =>
      obtain rfl := List.prefix_nil.mp isPrefix
      exact ⟨start, .nil⟩
  | snoc earlier met taken ih =>
      rcases List.prefix_concat_iff.mp isPrefix with rfl | shorter
      · exact ⟨_, .snoc earlier met taken⟩
      · exact ih shorter

/-- **What holds at the start and is kept by every step holds at the end.** -/
theorem invariant (holds : State → Prop) (run : Run step guard start events finish)
    (initial : holds start)
    (kept : ∀ state event next, holds state → guard state event →
      step state event = some next → holds next) : holds finish := by
  induction run with
  | nil => exact initial
  | snoc _ met taken ih => exact kept _ _ _ ih met taken

/-- **A countdown comes to its end.** When every step keeps the count or ends it, and
every step that counts takes one off, a run has ended it or has taken no more counting
steps than there were to take. -/
theorem countdown (left : State → Nat → Prop) (ended : State → Prop) (counts : Event → Bool)
    (run : Run step guard start events finish) {count : Nat} (initial : left start count)
    (lasting : ∀ state event next, ended state → guard state event →
      step state event = some next → ended next)
    (kept : ∀ state count event next, left state count → guard state event →
      step state event = some next →
        ended next ∨ ∃ fewer, left next fewer ∧ fewer + (counts event).toNat ≤ count) :
    ended finish ∨ ∃ fewer, left finish fewer ∧ fewer + events.countP counts ≤ count := by
  induction run with
  | nil => exact .inr ⟨count, initial, Nat.le_refl _⟩
  | @snoc middle finish events event _ met taken ih =>
      rcases ih with done | ⟨remaining, here, bound⟩
      · exact .inl (lasting _ _ _ done met taken)
      · rcases kept _ _ _ _ here met taken with done | ⟨fewer, there, less⟩
        · exact .inl done
        · refine .inr ⟨fewer, there, ?_⟩
          have last : [event].countP counts = (counts event).toNat := by
            cases counted : counts event with
            | false => simp [counted]
            | true => simp [counted]
          rw [List.countP_append, last]
          omega

/-- **What holds at the start and is kept by every step that meets the guard holds in
every state of a guarded run.** What holds along guarded runs may be used to show it. -/
theorem throughout (holds : State → Prop) (initial : holds start)
    (kept : ∀ events state event next, Run step guard start events state →
      holds state → guard state event → step state event = some next → holds next)
    (run : Run step guard start events finish) : Throughout step start holds events := by
  intro before state isPrefix reached
  have here : ∀ {events state}, Run step guard start events state → holds state := by
    intro events state guarded
    induction guarded with
    | nil => exact initial
    | snoc earlier met taken ih => exact kept _ _ _ _ earlier ih met taken
  obtain ⟨middle, earlier⟩ := run.of_prefix isPrefix
  exact unique earlier reached ▸ here earlier

/-- **A property that is lost exactly by the steps that break the guard, and is
never regained, holds at the end of a run exactly when the run met the guard at
every step.** What holds along guarded runs may be used to show it. -/
theorem iff_guarded (holds : State → Prop) (initial : holds start)
    (lasting : ∀ state event next, step state event = some next → holds next → holds state)
    (precise : ∀ events state event next, Run step guard start events state →
      holds state → step state event = some next → (holds next ↔ guard state event))
    (run : Run step unguarded start events finish) :
    holds finish ↔ Run step guard start events finish := by
  induction run with
  | nil => exact ⟨fun _ => .nil, fun _ => initial⟩
  | @snoc middle finish events event _ _ taken ih =>
      constructor
      · intro after
        have guarded := ih.mp (lasting _ _ _ taken after)
        have before := ih.mpr guarded
        exact .snoc guarded ((precise _ _ _ _ guarded before taken).mp after) taken
      · intro guarded
        obtain ⟨middle', guarded, met, taken'⟩ := guarded.last
        have same : middle = middle' := unique (by assumption) guarded
        subst same
        exact (precise _ _ _ _ guarded (ih.mpr guarded) taken').mpr met

/-- **A property that is lost exactly by the steps that break the guard holds in
every state of a run exactly when the run met the guard at every step.** -/
theorem throughout_iff_guarded (holds : State → Prop) (initial : holds start)
    (precise : ∀ events state event next, Run step guard start events state →
      holds state → step state event = some next → (holds next ↔ guard state event))
    (run : Run step unguarded start events finish) :
    Throughout step start holds events ↔ Run step guard start events finish := by
  constructor
  · intro throughout
    induction run with
    | nil => exact .nil
    | @snoc middle finish events event earlier _ taken ih =>
        have guarded := ih fun before state isPrefix =>
          throughout before state (isPrefix.trans (List.prefix_append _ _))
        have here := throughout events middle (List.prefix_append _ _) earlier
        have after := throughout _ finish (List.prefix_refl _) (.snoc earlier trivial taken)
        exact .snoc guarded ((precise _ _ _ _ guarded here taken).mp after) taken
  · intro guarded
    refine guarded.throughout holds initial ?_
    intro events state event next earlier here met taken
    exact (precise _ _ _ _ earlier here taken).mpr met

end Run

/-- **Executing the events is running them.** -/
theorem execute_eq_some_iff {step : State → Event → Option State} {guard : State → Event → Prop}
    [∀ state event, Decidable (guard state event)] {start finish : State} {events : List Event} :
    execute step guard start events = some finish ↔ Run step guard start events finish := by
  constructor
  · intro executed
    induction events generalizing start with
    | nil => cases executed; exact .nil
    | cons event events ih =>
        simp only [execute] at executed
        split at executed
        · rename_i met
          split at executed
          · cases executed
          · rename_i taken
            exact .cons met taken (ih executed)
        · cases executed
  · intro run
    have append : ∀ (before : List Event) (state middle next : State) (event : Event),
        execute step guard state before = some middle → guard middle event →
          step middle event = some next →
            execute step guard state (before ++ [event]) = some next := by
      intro before
      induction before with
      | nil =>
          intro state middle next event reached met taken
          cases reached
          simp [execute, met, taken]
      | cons first before ih =>
          intro state middle next event reached met taken
          simp only [execute, List.cons_append] at reached ⊢
          split at reached
          · rename_i met'
            rw [if_pos met']
            split at reached
            · cases reached
            · exact ih _ _ _ _ reached met taken
          · cases reached
    induction run with
    | nil => rfl
    | snoc _ met taken ih => exact append _ _ _ _ _ ih met taken

end GstIceoryx2.Foundations
