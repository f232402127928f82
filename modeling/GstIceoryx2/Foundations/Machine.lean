import Mathlib.Data.List.Basic

/-!
# Machine words and panics

A build computes with words below a limit. A sum or a product that is no word stops a
build that checks for overflows, and loses its high part in one that does not. An index
or a slice that is out of range stops every build.

What a computation comes to is an outcome: a panic, or a value with a note whether
anything on the way to it was lost. A value is clean when nothing was. Outcomes are
composed as a monad, and a composition is clean exactly when its parts are
(`Outcome.bind_eq_clean_iff`). A sum that is lost is below its first part
(`Build.add_of_not_lt`), which is why a slice up to it stops every build
(`Build.slice_add_panics`), also behind a comparison with the length
(`Build.guarded_add_panics`).
-/

set_option autoImplicit false

namespace GstIceoryx2.Foundations

/-! ## Outcomes -/

/-- Why a computation stops. -/
inductive Panic where
  | overflow
  | indexOutOfRange (position length : Nat)
  | sliceOrder (start stop : Nat)
  | sliceOutOfRange (stop length : Nat)
  deriving DecidableEq

/-- A panic, or a value and whether a result was lost on the way. -/
inductive Outcome (α : Type) where
  | panicked (why : Panic)
  | returned (value : α) (wrapped : Bool)
  deriving DecidableEq

namespace Outcome

variable {α β : Type}

/-- A value for which nothing was lost. -/
def clean (value : α) : Outcome α :=
  .returned value false

/-- Go on with a value. -/
def andThen (outcome : Outcome α) (next : α → Outcome β) : Outcome β :=
  match outcome with
  | .panicked why => .panicked why
  | .returned value wrapped =>
      match next value with
      | .panicked why => .panicked why
      | .returned value' wrapped' => .returned value' (wrapped || wrapped')

instance : Monad Outcome where
  pure := clean
  bind := andThen

@[simp] theorem pure_eq_clean (value : α) : (pure value : Outcome α) = clean value := rfl

theorem returned_bind (value : α) (wrapped : Bool) (next : α → Outcome β) :
    (returned value wrapped >>= next) =
      match next value with
      | .panicked why => .panicked why
      | .returned value' wrapped' => .returned value' (wrapped || wrapped') := rfl

@[simp] theorem clean_bind (value : α) (next : α → Outcome β) :
    (clean value >>= next) = next value := by
  rw [clean, returned_bind]
  cases next value with
  | panicked why => rfl
  | returned value' wrapped => rfl

@[simp] theorem panicked_bind (why : Panic) (next : α → Outcome β) :
    ((panicked why : Outcome α) >>= next) = panicked why := rfl

theorem returned_bind_of_panicked {value : α} {next : α → Outcome β} {why : Panic}
    (stops : next value = panicked why) (wrapped : Bool) :
    (returned value wrapped >>= next) = panicked why := by
  rw [returned_bind, stops]

theorem panicked_ne_clean (why : Panic) (value : α) : panicked why ≠ clean value := nofun

/-- **A composition is clean exactly when its parts are.** -/
theorem bind_eq_clean_iff {outcome : Outcome α} {next : α → Outcome β} {value : β} :
    (outcome >>= next) = clean value ↔
      ∃ middle, outcome = clean middle ∧ next middle = clean value := by
  constructor
  · intro composed
    cases outcome with
    | panicked why => cases composed
    | returned middle wrapped =>
        rw [returned_bind] at composed
        cases after : next middle with
        | panicked why =>
            rw [after] at composed
            cases composed
        | returned value' wrapped' =>
            rw [after] at composed
            obtain ⟨rfl, lost⟩ : value' = value ∧ (wrapped || wrapped') = false :=
              Outcome.returned.inj composed
            obtain ⟨rfl, rfl⟩ := Bool.or_eq_false_iff.mp lost
            exact ⟨middle, rfl, after⟩
  · rintro ⟨middle, rfl, after⟩
    rw [clean_bind, after]

end Outcome

/-! ## Words -/

/-- How a program is built: the number of words, and whether overflows are checked for. -/
structure Build where
  limit : Nat
  overflowChecks : Bool

namespace Build

variable (build : Build)

/-- The word for an exact result. -/
def word (exact : Nat) : Outcome Nat :=
  if exact < build.limit then .clean exact
  else if build.overflowChecks then .panicked .overflow
  else .returned (exact % build.limit) true

def add (a b : Nat) : Outcome Nat :=
  build.word (a + b)

def mul (a b : Nat) : Outcome Nat :=
  build.word (a * b)

def checkedAdd (a b : Nat) : Option Nat :=
  if a + b < build.limit then some (a + b) else none

def checkedMul (a b : Nat) : Option Nat :=
  if a * b < build.limit then some (a * b) else none

variable {build}

theorem word_of_lt {exact : Nat} (fits : exact < build.limit) :
    build.word exact = .clean exact := if_pos fits

theorem add_of_lt {a b : Nat} (fits : a + b < build.limit) :
    build.add a b = .clean (a + b) := word_of_lt fits

theorem mul_of_lt {a b : Nat} (fits : a * b < build.limit) :
    build.mul a b = .clean (a * b) := word_of_lt fits

/-- A result that is no word is never clean. -/
theorem word_ne_clean {exact : Nat} (overflows : ¬ exact < build.limit) (value : Nat) :
    build.word exact ≠ .clean value := by
  rw [word, if_neg overflows]
  cases build.overflowChecks with
  | true => nofun
  | false => nofun

/-- **A sum of words that is no word stops the build, or is below its first part.** -/
theorem add_of_not_lt {a b : Nat} (overflows : ¬ a + b < build.limit) (left : a < build.limit)
    (right : b < build.limit) :
    build.add a b = .panicked .overflow ∨
      ∃ lost < a, build.add a b = .returned lost true := by
  rw [add, word, if_neg overflows]
  cases build.overflowChecks with
  | true => exact .inl rfl
  | false =>
      refine .inr ⟨(a + b) % build.limit, ?_, rfl⟩
      rw [Nat.mod_eq_sub_mod (Nat.le_of_not_lt overflows),
        Nat.mod_eq_of_lt (by omega)]
      omega

end Build

/-! ## Indices and slices -/

namespace Outcome

variable {α : Type} (items : List α)

/-- `items[position]`. -/
def index (position : Nat) : Outcome α :=
  match items[position]? with
  | some item => clean item
  | none => panicked (.indexOutOfRange position items.length)

/-- `&items[start..stop]`. -/
def slice (start stop : Nat) : Outcome (List α) :=
  if start > stop then panicked (.sliceOrder start stop)
  else if stop > items.length then panicked (.sliceOutOfRange stop items.length)
  else clean ((items.drop start).take (stop - start))

variable {items}

theorem index_of_lt {position : Nat} (inside : position < items.length) :
    index items position = clean items[position] := by
  rw [index, List.getElem?_eq_getElem inside]

theorem slice_of_le {start stop : Nat} (ordered : start ≤ stop) (inside : stop ≤ items.length) :
    slice items start stop = clean ((items.drop start).take (stop - start)) := by
  rw [slice, if_neg (Nat.not_lt_of_le ordered), if_neg (Nat.not_lt_of_le inside)]

/-- A slice that ends before it starts stops the build. -/
theorem slice_of_lt {start stop : Nat} (before : stop < start) :
    slice items start stop = panicked (.sliceOrder start stop) := if_pos before

end Outcome

section OverflowingSlice

variable {α β : Type} {build : Build} {items : List α} {start count : Nat}

/-- **A slice up to a sum that is no word stops every build.** -/
theorem Build.slice_add_panics (overflows : ¬ start + count < build.limit)
    (left : start < build.limit) (right : count < build.limit) (next : List α → Outcome β) :
    ∃ why, (build.add start count >>= fun stop => Outcome.slice items start stop >>= next) =
      .panicked why := by
  rcases Build.add_of_not_lt overflows left right with checked | ⟨lost, before, wrapped⟩
  · refine ⟨.overflow, ?_⟩
    rw [checked, Outcome.panicked_bind]
  · refine ⟨.sliceOrder start lost, ?_⟩
    rw [wrapped]
    apply Outcome.returned_bind_of_panicked
    rw [Outcome.slice_of_lt before, Outcome.panicked_bind]

/-- **Comparing such a sum with the length does not help: what is left of it is below the
length.** -/
theorem Build.guarded_add_panics (overflows : ¬ start + count < build.limit)
    (left : start < build.limit) (right : count < build.limit) (inside : start ≤ items.length)
    (short : Outcome β) {behind : Outcome β} (stops : ∃ why, behind = .panicked why) :
    ∃ why, (build.add start count >>= fun stop =>
      if stop > items.length then short else behind) = .panicked why := by
  obtain ⟨why, stops⟩ := stops
  rcases Build.add_of_not_lt overflows left right with checked | ⟨lost, before, wrapped⟩
  · refine ⟨.overflow, ?_⟩
    rw [checked, Outcome.panicked_bind]
  · refine ⟨why, ?_⟩
    rw [wrapped]
    apply Outcome.returned_bind_of_panicked
    rw [if_neg (by omega), stops]

end OverflowingSlice

end GstIceoryx2.Foundations
