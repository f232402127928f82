import Mathlib.Data.List.Forall2
import GstIceoryx2.Foundations.Lanes
import GstIceoryx2.Foundations.Runs

/-!
# Simulation between two systems

A system refines another when every step of it is matched by a step of the other
from related states to related states. Then every run of it is matched by a run of
the other over the same events (`Run.simulated`). The first system may only be
matched under a guard.

Two queues are related entry by entry, and stay so when related entries are put
behind them. Queues that are kept side by side stay so when entries are put and taken
on the same lanes (`forall₂_push`, `forall₂_pop`), and are related lane by lane
(`forall₂_lane`).
-/

set_option autoImplicit false

namespace GstIceoryx2.Foundations

variable {State Abstract Event : Type*}

/-- **Runs of a system are matched by runs of a system that simulates it.** -/
theorem Run.simulated {step : State → Event → Option State}
    {guard : State → Event → Prop} {abstract : Abstract → Event → Option Abstract}
    {start finish : State} {initial : Abstract} {events : List Event}
    (related : State → Abstract → Prop) (run : Run step guard start events finish)
    (starts : related start initial)
    (matched : ∀ state shadow event next, related state shadow → guard state event →
      step state event = some next →
        ∃ nextShadow, abstract shadow event = some nextShadow ∧ related next nextShadow) :
    ∃ shadow, Run abstract unguarded initial events shadow ∧ related finish shadow := by
  induction run with
  | nil => exact ⟨initial, .nil, starts⟩
  | snoc _ met taken ih =>
      obtain ⟨shadow, shadowed, before⟩ := ih
      obtain ⟨next, taken', after⟩ := matched _ _ _ _ before met taken
      exact ⟨next, .snoc shadowed trivial taken', after⟩

/-! ## Queues -/

/-- Related queues stay so when related entries are put behind them. -/
theorem forall₂_concat {Entry Shadow : Type*} {related : Entry → Shadow → Prop}
    {entries : List Entry} {shadows : List Shadow} {entry : Entry} {shadow : Shadow}
    (before : List.Forall₂ related entries shadows)
    (last : related entry shadow) :
    List.Forall₂ related (entries ++ [entry]) (shadows ++ [shadow]) :=
  List.rel_append before (.cons last .nil)

section Lanes

variable {Label Entry Shadow : Type} {related : Entry → Shadow → Prop}

/-- Entries of the same lane that are related. -/
def Alongside (related : Entry → Shadow → Prop) (entry : Label × Entry)
    (shadow : Label × Shadow) : Prop :=
  entry.1 = shadow.1 ∧ related entry.2 shadow.2

variable [DecidableEq Label] {entries : List (Label × Entry)} {shadows : List (Label × Shadow)}

theorem forall₂_pop (label : Label) (before : List.Forall₂ (Alongside related) entries shadows) :
    List.Forall₂ (Alongside related) (pop label entries) (pop label shadows) := by
  induction before with
  | nil => exact .nil
  | @cons entry shadow entries shadows first rest ih =>
      obtain ⟨other, entry⟩ := entry
      obtain ⟨_, shadow⟩ := shadow
      obtain ⟨rfl, pair⟩ := first
      dsimp only at pair ⊢
      by_cases same : other = label
      · subst same
        rw [pop_cons_self, pop_cons_self]
        exact rest
      · rw [pop_cons_of_ne same, pop_cons_of_ne same]
        exact .cons ⟨rfl, pair⟩ ih

theorem forall₂_push (label : Label) (evicted : Nat) {entry : Entry} {shadow : Shadow}
    (before : List.Forall₂ (Alongside related) entries shadows) (last : related entry shadow) :
    List.Forall₂ (Alongside related) (push label evicted entry entries)
      (push label evicted shadow shadows) := by
  refine forall₂_concat ?_ ⟨rfl, last⟩
  induction evicted generalizing entries shadows with
  | zero => exact before
  | succ evicted ih => exact ih (forall₂_pop label before)

/-- **Queues that are related side by side are related lane by lane.** -/
theorem forall₂_lane (label : Label) (before : List.Forall₂ (Alongside related) entries shadows) :
    List.Forall₂ related (lane label entries) (lane label shadows) := by
  induction before with
  | nil => exact .nil
  | @cons entry shadow entries shadows first rest ih =>
      obtain ⟨other, entry⟩ := entry
      obtain ⟨_, shadow⟩ := shadow
      obtain ⟨rfl, pair⟩ := first
      dsimp only at pair ⊢
      by_cases same : other = label
      · subst same
        rw [lane_cons_self, lane_cons_self]
        exact .cons pair ih
      · rw [lane_cons_of_ne same, lane_cons_of_ne same]
        exact ih

end Lanes

end GstIceoryx2.Foundations
