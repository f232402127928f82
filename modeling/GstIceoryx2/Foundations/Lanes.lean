import Mathlib.Data.List.Perm.Basic

/-!
# Queues side by side

Several queues are kept in one list, in the order in which their entries arrived, and
each entry says which queue it is in. Every queue is first in, first out, but nothing
says whose entry is taken next: a queue is its lane (`lane`), and only the oldest entry
of a lane can be taken (`pop`).

Taking an entry shortens its own lane and leaves all others (`lane_pop_self`,
`lane_pop_of_ne`). An entry is put behind its own lane, whose oldest entries may be evicted
for it (`lane_push_self`, `lane_push_of_ne`). Two lists with the same lanes have the same entries
(`perm_of_lanes`).
-/

set_option autoImplicit false

namespace GstIceoryx2.Foundations

variable {Label Entry : Type} [DecidableEq Label]

/-- The entries of one queue, oldest first. -/
def lane (label : Label) (entries : List (Label × Entry)) : List Entry :=
  (entries.filter (·.1 = label)).map Prod.snd

/-- The entries without the oldest one of a queue. -/
def pop (label : Label) (entries : List (Label × Entry)) : List (Label × Entry) :=
  entries.eraseP (·.1 = label)

/-- The entries without the oldest ones of a queue. -/
def popMany (label : Label) : Nat → List (Label × Entry) → List (Label × Entry)
  | 0, entries => entries
  | count + 1, entries => popMany label count (pop label entries)

/-- The entries with one more, for which the oldest ones of its queue may be evicted. -/
def push (label : Label) (evicted : Nat) (entry : Entry) (entries : List (Label × Entry)) :
    List (Label × Entry) :=
  popMany label evicted entries ++ [(label, entry)]

section Lanes

variable {label other : Label} {entry : Entry} {entries front back : List (Label × Entry)}

@[simp] theorem lane_nil : lane label ([] : List (Label × Entry)) = [] := rfl

@[simp] theorem lane_append : lane label (front ++ back) = lane label front ++ lane label back := by
  rw [lane, List.filter_append, List.map_append, ← lane, ← lane]

@[simp] theorem lane_cons_self :
    lane label ((label, entry) :: entries) = entry :: lane label entries := by
  rw [lane, List.filter_cons_of_pos (by simp), List.map_cons, ← lane]

theorem lane_cons_of_ne (apart : other ≠ label) :
    lane label ((other, entry) :: entries) = lane label entries := by
  rw [lane, List.filter_cons_of_neg (by simpa using apart), ← lane]

/-- Entries that are all in one queue are its lane, and no other's. -/
theorem lane_of_labelled (labelled : ∀ item ∈ entries, item.1 = label) (other : Label) :
    lane other entries = if label = other then entries.map Prod.snd else [] := by
  rw [lane]
  split_ifs with same
  · rw [List.filter_eq_self.mpr]
    intro item member
    exact decide_eq_true ((labelled item member).trans same)
  · rw [List.filter_eq_nil_iff.mpr, List.map_nil]
    intro item member own
    exact same ((labelled item member).symm.trans (of_decide_eq_true own))

theorem mem_lane_iff : entry ∈ lane label entries ↔ (label, entry) ∈ entries := by
  simp [lane]

/-- Some lane has an entry when there is any. -/
theorem exists_lane_of_ne_nil (queued : entries ≠ []) :
    ∃ label entry rest, lane label entries = entry :: rest := by
  obtain ⟨⟨label, entry⟩, entries, rfl⟩ := List.exists_cons_of_ne_nil queued
  exact ⟨label, entry, lane label entries, lane_cons_self⟩

theorem ne_nil_of_lane {rest : List Entry} (queued : lane label entries = entry :: rest) :
    entries ≠ [] := by
  rintro rfl
  cases queued

/-- Every entry is replaced or dropped, and stays in its queue. -/
def mapLanes {Image : Type} (image : Entry → Option Image) (entries : List (Label × Entry)) :
    List (Label × Image) :=
  entries.filterMap fun item => (image item.2).map (item.1, ·)

omit [DecidableEq Label] in
theorem map_snd_mapLanes {Image : Type} (image : Entry → Option Image)
    (entries : List (Label × Entry)) :
    (mapLanes image entries).map Prod.snd = entries.filterMap (image ·.2) := by
  rw [mapLanes, List.map_filterMap]
  congr 1
  funext item
  cases image item.2 <;> rfl

theorem lane_mapLanes {Image : Type} (image : Entry → Option Image) (label : Label)
    (entries : List (Label × Entry)) :
    lane label (mapLanes image entries) = (lane label entries).filterMap image := by
  induction entries with
  | nil => rfl
  | cons item entries ih =>
      obtain ⟨other, entry⟩ := item
      rw [mapLanes] at ih ⊢
      by_cases apart : other = label
      · subst apart
        rw [lane_cons_self]
        cases kept : image entry with
        | none => rw [List.filterMap_cons_none (by simp [kept]), List.filterMap_cons_none kept, ih]
        | some result =>
            rw [List.filterMap_cons_some (by simp [kept]; rfl), List.filterMap_cons_some kept,
              lane_cons_self, ih]
      · rw [lane_cons_of_ne apart]
        cases kept : image entry with
        | none => rw [List.filterMap_cons_none (by simp [kept]), ih]
        | some result =>
            rw [List.filterMap_cons_some (by simp [kept]; rfl), lane_cons_of_ne apart, ih]

end Lanes

/-! ## Taking entries -/

section Pop

variable {label other : Label} {entry : Entry} {entries : List (Label × Entry)}

@[simp] theorem pop_cons_self : pop label ((label, entry) :: entries) = entries :=
  List.eraseP_cons_of_pos (by simp)

theorem pop_cons_of_ne (apart : other ≠ label) :
    pop label ((other, entry) :: entries) = (other, entry) :: pop label entries :=
  List.eraseP_cons_of_neg (by simpa using apart)

/-- **Taking an entry shortens its own lane.** -/
@[simp] theorem lane_pop_self (label : Label) (entries : List (Label × Entry)) :
    lane label (pop label entries) = (lane label entries).tail := by
  induction entries with
  | nil => rfl
  | cons item entries ih =>
      obtain ⟨other, entry⟩ := item
      by_cases apart : other = label
      · subst apart
        rw [pop_cons_self, lane_cons_self, List.tail_cons]
      · rw [pop_cons_of_ne apart, lane_cons_of_ne apart, lane_cons_of_ne apart, ih]

/-- **Taking an entry leaves all other lanes.** -/
theorem lane_pop_of_ne (apart : other ≠ label) (entries : List (Label × Entry)) :
    lane other (pop label entries) = lane other entries := by
  induction entries with
  | nil => rfl
  | cons item entries ih =>
      obtain ⟨own, entry⟩ := item
      by_cases same : own = label
      · subst same
        rw [pop_cons_self, lane_cons_of_ne (Ne.symm apart)]
      · rw [pop_cons_of_ne same]
        by_cases here : own = other
        · subst here
          rw [lane_cons_self, lane_cons_self, ih]
        · rw [lane_cons_of_ne here, lane_cons_of_ne here, ih]

/-- What is taken is the oldest entry of its lane, and nothing else goes. -/
theorem perm_pop {rest : List Entry} (queued : lane label entries = entry :: rest) :
    entries.Perm ((label, entry) :: pop label entries) := by
  induction entries with
  | nil => cases queued
  | cons item entries ih =>
      obtain ⟨other, first⟩ := item
      by_cases apart : other = label
      · subst apart
        rw [lane_cons_self] at queued
        obtain rfl := (List.cons.inj queued).1
        rw [pop_cons_self]
      · rw [lane_cons_of_ne apart] at queued
        rw [pop_cons_of_ne apart]
        exact ((ih queued).cons _).trans (List.Perm.swap _ _ _)

theorem lane_popMany_self (label : Label) (count : Nat) (entries : List (Label × Entry)) :
    lane label (popMany label count entries) = (lane label entries).drop count := by
  induction count generalizing entries with
  | zero => rfl
  | succ count ih => rw [popMany, ih, lane_pop_self, List.drop_tail]

theorem lane_popMany_of_ne (apart : other ≠ label) (count : Nat)
    (entries : List (Label × Entry)) :
    lane other (popMany label count entries) = lane other entries := by
  induction count generalizing entries with
  | zero => rfl
  | succ count ih => rw [popMany, ih, lane_pop_of_ne apart]

theorem lane_push_self (label : Label) (evicted : Nat) (entry : Entry)
    (entries : List (Label × Entry)) :
    lane label (push label evicted entry entries) =
      (lane label entries).drop evicted ++ [entry] := by
  rw [push, lane_append, lane_popMany_self, lane_cons_self, lane_nil]

theorem lane_push_of_ne (apart : other ≠ label) (evicted : Nat) (entry : Entry)
    (entries : List (Label × Entry)) :
    lane other (push label evicted entry entries) = lane other entries := by
  rw [push, lane_append, lane_popMany_of_ne apart, lane_cons_of_ne (Ne.symm apart), lane_nil,
    List.append_nil]

/-- **Lists with the same lanes have the same entries.** -/
theorem perm_of_lanes {left right : List (Label × Entry)}
    (same : ∀ label, lane label left = lane label right) : left.Perm right := by
  induction left generalizing right with
  | nil =>
      cases right with
      | nil => exact .nil
      | cons item right =>
          obtain ⟨label, entry⟩ := item
          have own := same label
          rw [lane_nil, lane_cons_self] at own
          cases own
  | cons item left ih =>
      obtain ⟨label, entry⟩ := item
      have own : lane label right = entry :: lane label left := by
        rw [← same label, lane_cons_self]
      refine .trans (.cons _ (ih fun other => ?_)) (perm_pop own).symm
      by_cases apart : other = label
      · subst apart
        rw [lane_pop_self, own, List.tail_cons]
      · rw [lane_pop_of_ne apart, ← same other, lane_cons_of_ne (Ne.symm apart)]

end Pop

end GstIceoryx2.Foundations
