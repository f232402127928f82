import Mathlib.Data.List.Destutter
import GstIceoryx2.Foundations.Runs

/-!
# What a run emits

A step of a system may have a visible effect: a message that is sent, a value that
is taken, a call that is made. What a step emits is read off the state and the
event, and what a run emits is that of its steps, one after another (`emitted`). What
holds between the state and what was emitted so far is shown step by step, since the
last step emits last (`Run.emitted_snoc`).

What is announced only when it changes is a list without its repetitions, and whether
one more value is announced is decided by the last one (`destutter_concat`).
-/

set_option autoImplicit false

namespace GstIceoryx2.Foundations

variable {State Event Out : Type*}

/-- What the events emit when they are taken from a state, in order. -/
def emitted (step : State → Event → Option State) (emits : State → Event → List Out) :
    State → List Event → List Out
  | _, [] => []
  | state, event :: events =>
      emits state event ++
        match step state event with
        | none => []
        | some next => emitted step emits next events

namespace Run

variable {step : State → Event → Option State} {guard : State → Event → Prop}
variable {emits : State → Event → List Out}
variable {start finish : State} {events : List Event}

theorem emitted_foldlM {event : Event} (reached : events.foldlM step start = some finish) :
    emitted step emits start (events ++ [event]) =
      emitted step emits start events ++ emits finish event := by
  induction events generalizing start with
  | nil =>
      cases reached
      simp only [List.nil_append, emitted]
      split <;> rw [List.append_nil]
  | cons first events ih =>
      obtain ⟨middle, taken, rest⟩ := Option.bind_eq_some_iff.mp reached
      simp only [List.cons_append, emitted, taken]
      rw [ih rest, List.append_assoc]

/-- The last step of a run emits last. -/
theorem emitted_snoc (run : Run step guard start events finish) (event : Event) :
    emitted step emits start (events ++ [event]) =
      emitted step emits start events ++ emits finish event :=
  emitted_foldlM run.foldlM_eq_some

end Run

/-! ## Repetitions -/

theorem destutter'_concat {Value : Type*} [DecidableEq Value] (first : Value)
    (values : List Value) (value : Value) :
    (values ++ [value]).destutter' (· ≠ ·) first =
      values.destutter' (· ≠ ·) first ++
        if (first :: values).getLast? = some value then [] else [value] := by
  induction values generalizing first with
  | nil =>
      simp only [List.nil_append, List.destutter'_singleton, List.destutter'_nil,
        List.getLast?_singleton, Option.some.injEq, ne_eq, ite_not]
      split <;> rfl
  | cons second values ih =>
      rw [List.getLast?_cons_cons, List.cons_append]
      by_cases same : first = second
      · subst same
        rw [List.destutter'_cons_neg _ (not_not.mpr rfl),
          List.destutter'_cons_neg _ (not_not.mpr rfl), ih]
      · rw [List.destutter'_cons_pos _ same, List.destutter'_cons_pos _ same, ih,
          List.cons_append]

/-- **One more value is announced when it is not the last one.** -/
theorem destutter_concat {Value : Type*} [DecidableEq Value] (values : List Value)
    (value : Value) :
    (values ++ [value]).destutter (· ≠ ·) =
      values.destutter (· ≠ ·) ++ if values.getLast? = some value then [] else [value] := by
  cases values with
  | nil => rfl
  | cons first values => exact destutter'_concat first values value

end GstIceoryx2.Foundations
