import GstIceoryx2.Element.CapsAgreement

/-!
# Buffers under their own caps

The source remembers the last caps it chose, so as to negotiate only when they
change. It remembers them before it negotiates. When downstream refuses, the
source keeps them, and the next frame with the same caps is delivered without
being negotiated: under whatever caps are in force, or under none.

Here a run of the source records each buffer that is delivered, with the caps of
its own frame and the caps in force, and each negotiation that is refused, with
what the source remembers after it. Every buffer is delivered under its own caps
and every refused caps are forgotten exactly when no negotiation of the run is
refused; and the buffers alone are right exactly when every frame whose caps are
remembered finds them in force (`own_caps_iff`).
-/

set_option autoImplicit false

namespace GstIceoryx2.Element.Source

open Foundations Video

variable {gst : Gst}

/-! ## What a run records -/

/-- A buffer that was delivered: the caps chosen for its frame, and the caps of the
last negotiation that went through. -/
structure Push (gst : Gst) where
  own : Option gst.Caps
  inForce : Option gst.Caps

/-- A negotiation that was refused: its caps, and what the source remembers after. -/
structure Refusal (gst : Gst) where
  caps : gst.Caps
  lastCaps : Option gst.Caps

/-- The source, its buffers and its refusals. -/
structure Negotiating (gst : Gst) where
  source : State gst
  pushes : List (Push gst)
  refusals : List (Refusal gst)

namespace Negotiating

/-- Before any frame. -/
def started (gst : Gst) : Negotiating gst where
  source := .started gst
  pushes := []
  refusals := []

/-- The buffers with what becomes of a frame. -/
def pushed (pushes : List (Push gst)) (push : Push gst) : Outcome gst → List (Push gst)
  | .delivered _ => pushes ++ [push]
  | _ => pushes

/-- The refusals with what becomes of a frame. A frame without caps is not
negotiated at all. -/
def refused (refusals : List (Refusal gst)) (own lastCaps : Option gst.Caps) :
    Outcome gst → List (Refusal gst)
  | .notNegotiated =>
      match own with
      | some caps => refusals ++ [⟨caps, lastCaps⟩]
      | none => refusals
  | _ => refusals

/-- Take the frame that arrives. -/
def step (session : Negotiating gst) (arrival : Arrival gst) : Option (Negotiating gst) :=
  let own := chosenCaps gst arrival.frame
  let taken := takeSample arrival.downstream session.source arrival.frame
  some {
    source := taken.1
    pushes := pushed session.pushes ⟨own, taken.1.inForce⟩ taken.2
    refusals := refused session.refusals own taken.1.lastCaps taken.2 }

/-- Every buffer was delivered under the caps of its own frame. -/
def PushedUnderOwnCaps (session : Negotiating gst) : Prop :=
  ∀ push ∈ session.pushes, ∃ caps, push.own = some caps ∧ push.inForce = some caps

/-- After every refusal the next frame with the same caps negotiates again. -/
def RefusedForgotten (session : Negotiating gst) : Prop :=
  ∀ refusal ∈ session.refusals, refusal.lastCaps ≠ some refusal.caps

/-! ## What a step does -/

/-- The frame is no sentinel, its geometry is accepted, and these are its caps. -/
structure Offers (gst : Gst) (frame : VideoFrame) (caps : gst.Caps) : Prop where
  live : frame.isEos = false
  accepted : validateGeometry .bits64 frame.header frame.pixelSize = .ok ()
  chosen : chosenCaps gst frame = some caps

/-- What a step can do: pass over a frame, deliver it under remembered caps, or
negotiate its caps, which are granted or refused. -/
inductive Stepped (session : Negotiating gst) (arrival : Arrival gst) : Negotiating gst → Prop
  | passed {source : State gst} (noCaps : ∀ caps, ¬ Offers gst arrival.frame caps)
      (lastCaps : source.lastCaps = session.source.lastCaps)
      (inForce : source.inForce = session.source.inForce) :
      Stepped session arrival { session with source := source }
  | remembered {source : State gst} {caps : gst.Caps} (offers : Offers gst arrival.frame caps)
      (remembers : session.source.lastCaps = some caps)
      (lastCaps : source.lastCaps = session.source.lastCaps)
      (inForce : source.inForce = session.source.inForce) :
      Stepped session arrival
        { session with source := source, pushes := session.pushes ++ [⟨some caps, source.inForce⟩] }
  | granted {source : State gst} {caps : gst.Caps} (offers : Offers gst arrival.frame caps)
      (changed : session.source.lastCaps ≠ some caps) (takes : arrival.downstream caps = true)
      (lastCaps : source.lastCaps = some caps) (inForce : source.inForce = some caps) :
      Stepped session arrival
        { session with source := source, pushes := session.pushes ++ [⟨some caps, some caps⟩] }
  | refused {source : State gst} {caps : gst.Caps} (offers : Offers gst arrival.frame caps)
      (changed : session.source.lastCaps ≠ some caps) (refuses : arrival.downstream caps = false)
      (lastCaps : source.lastCaps = some caps)
      (inForce : source.inForce = session.source.inForce) :
      Stepped session arrival
        { session with source := source, refusals := session.refusals ++ [⟨caps, some caps⟩] }

theorem stepped_of_step {session next : Negotiating gst} {arrival : Arrival gst}
    (taken : session.step arrival = some next) : Stepped session arrival next := by
  cases taken
  by_cases live : arrival.frame.isEos = false
  · cases accepted : validateGeometry .bits64 arrival.frame.header arrival.frame.pixelSize with
    | error why =>
        rw [takeSample_of_rejected arrival.downstream session.source live accepted]
        apply Stepped.passed
        · intro caps offers
          cases accepted.symm.trans offers.accepted
        · rfl
        · rfl
    | ok _ =>
        cases chosen : chosenCaps gst arrival.frame with
        | none =>
            rw [takeSample_of_no_caps arrival.downstream session.source live accepted chosen]
            apply Stepped.passed
            · intro caps offers
              cases chosen.symm.trans offers.chosen
            · rfl
            · rfl
        | some caps =>
            have offers : Offers gst arrival.frame caps := ⟨live, accepted, chosen⟩
            rw [takeSample_of_accepted arrival.downstream session.source live accepted chosen]
            split_ifs with remembers takes
            · exact .remembered offers remembers rfl rfl
            · exact .granted offers remembers takes rfl rfl
            · exact .refused offers remembers (eq_false_of_ne_true takes) rfl rfl
  · rw [takeSample_of_sentinel arrival.downstream session.source (eq_true_of_ne_false live)]
    apply Stepped.passed
    · intro caps offers
      exact live offers.live
    · rfl
    · rfl

theorem Offers.unique {frame : VideoFrame} {caps caps' : gst.Caps}
    (offers : Offers gst frame caps) (offers' : Offers gst frame caps') : caps = caps' :=
  Option.some.inj (offers.chosen.symm.trans offers'.chosen)

/-! ## What every run keeps -/

/-- What is refused is remembered; and as long as nothing is refused, what is
remembered is in force. -/
structure Remembers (session : Negotiating gst) : Prop where
  refusals : ∀ refusal ∈ session.refusals, refusal.lastCaps = some refusal.caps
  inForce : session.refusals = [] → session.source.inForce = session.source.lastCaps

theorem Remembers.of_stepped {session next : Negotiating gst} {arrival : Arrival gst}
    (remembers : session.Remembers) (stepped : Stepped session arrival next) :
    next.Remembers := by
  cases stepped with
  | passed _ lastCaps inForce =>
      refine ⟨remembers.refusals, fun empty => ?_⟩
      rw [inForce, lastCaps]
      exact remembers.inForce empty
  | remembered _ _ lastCaps inForce =>
      refine ⟨remembers.refusals, fun empty => ?_⟩
      rw [inForce, lastCaps]
      exact remembers.inForce empty
  | granted _ _ _ lastCaps inForce =>
      exact ⟨remembers.refusals, fun _ => inForce.trans lastCaps.symm⟩
  | refused _ _ _ _ _ =>
      constructor
      · intro refusal member
        rcases List.mem_append.mp member with earlier | new
        · exact remembers.refusals refusal earlier
        · cases List.mem_singleton.mp new
          rfl
      · intro empty
        cases List.append_eq_nil_iff.mp empty with
        | intro _ new => cases new

theorem remembers_of_run {guard : Negotiating gst → Arrival gst → Prop}
    {arrivals : List (Arrival gst)} {finish : Negotiating gst}
    (run : Run step guard (started gst) arrivals finish) : finish.Remembers := by
  apply run.invariant Remembers
  · exact ⟨by rintro _ ⟨⟩, fun _ => rfl⟩
  · intro _ _ _ remembers _ taken
    exact remembers.of_stepped (stepped_of_step taken)

/-- Forgetting every refusal comes down to having none. -/
theorem Remembers.refusedForgotten_iff {session : Negotiating gst}
    (remembers : session.Remembers) : session.RefusedForgotten ↔ session.refusals = [] := by
  constructor
  · intro forgotten
    apply List.eq_nil_iff_forall_not_mem.mpr
    intro refusal member
    exact forgotten refusal member (remembers.refusals refusal member)
  · intro empty refusal member
    rw [empty] at member
    cases member

/-! ## The two conditions -/

/-- Downstream takes the caps, if the source negotiates them. -/
def Granted (session : Negotiating gst) (arrival : Arrival gst) : Prop :=
  ∀ caps, Offers gst arrival.frame caps → session.source.lastCaps ≠ some caps →
    arrival.downstream caps = true

/-- The caps of the frame are in force, if the source remembers them. -/
def RememberedInForce (session : Negotiating gst) (arrival : Arrival gst) : Prop :=
  ∀ caps, Offers gst arrival.frame caps → session.source.lastCaps = some caps →
    session.source.inForce = some caps

theorem pushedUnderOwnCaps_snoc_iff {source : State gst} {pushes : List (Push gst)}
    {refusals : List (Refusal gst)} {caps : gst.Caps} {inForce : Option gst.Caps}
    (before : ∀ push ∈ pushes, ∃ caps, push.own = some caps ∧ push.inForce = some caps) :
    PushedUnderOwnCaps ⟨source, pushes ++ [⟨some caps, inForce⟩], refusals⟩ ↔
      inForce = some caps := by
  simp only [PushedUnderOwnCaps, List.forall_mem_append, List.forall_mem_singleton]
  refine (and_iff_right before).trans ?_
  constructor
  · rintro ⟨_, ⟨⟩, under⟩
    exact under
  · intro under
    exact ⟨caps, rfl, under⟩

theorem pushedUnderOwnCaps_of_stepped {session next : Negotiating gst} {arrival : Arrival gst}
    (stepped : Stepped session arrival next) (after : next.PushedUnderOwnCaps) :
    session.PushedUnderOwnCaps := by
  cases stepped with
  | passed _ _ _ => exact after
  | remembered _ _ _ _ => exact fun push member => after push (List.mem_append_left _ member)
  | granted _ _ _ _ _ => exact fun push member => after push (List.mem_append_left _ member)
  | refused _ _ _ _ _ => exact after

theorem refusedForgotten_of_stepped {session next : Negotiating gst} {arrival : Arrival gst}
    (stepped : Stepped session arrival next) (after : next.RefusedForgotten) :
    session.RefusedForgotten := by
  cases stepped with
  | passed _ _ _ => exact after
  | remembered _ _ _ _ => exact after
  | granted _ _ _ _ _ => exact after
  | refused _ _ _ _ _ =>
      exact fun refusal member => after refusal (List.mem_append_left _ member)

/-- **A step delivers under the frame's own caps exactly when remembered caps are in
force.** Caps that are negotiated are in force from then on. -/
theorem pushedUnderOwnCaps_step_iff {session next : Negotiating gst} {arrival : Arrival gst}
    (before : session.PushedUnderOwnCaps) (stepped : Stepped session arrival next) :
    next.PushedUnderOwnCaps ↔ session.RememberedInForce arrival := by
  cases stepped with
  | passed noCaps _ _ =>
      exact iff_of_true before fun caps offers => absurd offers (noCaps caps)
  | @remembered source caps offers remembers _ inForce =>
      rw [pushedUnderOwnCaps_snoc_iff before, inForce]
      constructor
      · intro under caps' offers' _
        rw [under, offers.unique offers']
      · intro guarded
        exact guarded caps offers remembers
  | @granted _ caps offers changed _ _ _ =>
      rw [pushedUnderOwnCaps_snoc_iff before]
      refine iff_of_true rfl fun caps' offers' remembers => ?_
      exact absurd (offers.unique offers' ▸ remembers) changed
  | @refused _ caps offers changed _ _ _ =>
      refine iff_of_true before fun caps' offers' remembers => ?_
      exact absurd (offers.unique offers' ▸ remembers) changed

/-- **A step keeps buffers under their own caps and refused caps forgotten exactly
when nothing it negotiates is refused.** As long as nothing was refused, remembered
caps are in force. -/
theorem own_caps_step_iff {session next : Negotiating gst} {arrival : Arrival gst}
    (remembers : session.Remembers) (pushes : session.PushedUnderOwnCaps)
    (forgotten : session.RefusedForgotten) (stepped : Stepped session arrival next) :
    next.PushedUnderOwnCaps ∧ next.RefusedForgotten ↔ session.Granted arrival := by
  have inForce := remembers.inForce (remembers.refusedForgotten_iff.mp forgotten)
  have guarded : session.RememberedInForce arrival := fun caps _ same => inForce.trans same
  have pushes' := (pushedUnderOwnCaps_step_iff pushes stepped).mpr guarded
  have kept := (remembers.of_stepped stepped).refusedForgotten_iff
  rw [remembers.refusedForgotten_iff] at forgotten
  simp only [pushes', true_and]
  rw [kept]
  cases stepped with
  | passed noCaps _ _ =>
      exact iff_of_true forgotten fun caps offers => absurd offers (noCaps caps)
  | @remembered _ caps offers same _ _ =>
      refine iff_of_true forgotten fun caps' offers' changed => ?_
      exact absurd (offers.unique offers' ▸ same) changed
  | @granted _ caps offers _ takes _ _ =>
      refine iff_of_true forgotten fun caps' offers' _ => ?_
      exact offers.unique offers' ▸ takes
  | @refused _ caps offers changed refuses _ _ =>
      refine iff_of_false (by simp) fun granted => ?_
      exact absurd (granted caps offers changed) (ne_true_of_eq_false refuses)

/-! ## Runs -/

/-- **In a run of the source, every buffer is delivered under its own caps and
every refused caps are forgotten exactly when no negotiation is refused; and every
buffer is delivered under its own caps exactly when every frame whose caps are
remembered finds them in force.** -/
theorem own_caps_iff {arrivals : List (Arrival gst)} {finish : Negotiating gst}
    (run : Run step unguarded (started gst) arrivals finish) :
    (finish.PushedUnderOwnCaps ∧ finish.RefusedForgotten ↔
        Run step Granted (started gst) arrivals finish) ∧
      (finish.PushedUnderOwnCaps ↔
        Run step RememberedInForce (started gst) arrivals finish) := by
  have noPushes : PushedUnderOwnCaps (started gst) := by rintro _ ⟨⟩
  have noRefusals : RefusedForgotten (started gst) := by rintro _ ⟨⟩
  constructor
  · refine Run.iff_guarded (fun session => session.PushedUnderOwnCaps ∧ session.RefusedForgotten)
      ⟨noPushes, noRefusals⟩ ?_ ?_ run
    · intro _ _ _ taken after
      have stepped := stepped_of_step taken
      exact ⟨pushedUnderOwnCaps_of_stepped stepped after.1,
        refusedForgotten_of_stepped stepped after.2⟩
    · intro _ _ _ _ guarded before taken
      exact own_caps_step_iff (remembers_of_run guarded) before.1 before.2 (stepped_of_step taken)
  · refine Run.iff_guarded PushedUnderOwnCaps noPushes ?_ ?_ run
    · intro _ _ _ taken after
      exact pushedUnderOwnCaps_of_stepped (stepped_of_step taken) after
    · intro _ _ _ _ _ before taken
      exact pushedUnderOwnCaps_step_iff before (stepped_of_step taken)

/-- A frame of one pixel arrives twice; downstream takes its caps, or not. -/
def twice (first second : Bool) : List (Arrival twoCapsGst) :=
  [{ frame := Session.frameWithCaps TwoCaps.onePixel.toText, downstream := fun _ => first },
   { frame := Session.frameWithCaps TwoCaps.onePixel.toText, downstream := fun _ => second }]

theorem own_caps_iff_onePixel :
    ∃ finish, Run step unguarded (started twoCapsGst) (twice true true) finish ∧
      finish.pushes.length = 2 ∧ finish.PushedUnderOwnCaps ∧ finish.RefusedForgotten := by
  refine ⟨_, execute_eq_some_iff.mp rfl, rfl, ?_⟩
  refine (own_caps_iff (execute_eq_some_iff.mp rfl)).1.mpr (.cons ?_ rfl (.cons ?_ rfl .nil))
  · exact fun _ _ _ => rfl
  · exact fun _ _ _ => rfl

/-- The caps of both frames are refused, and the second frame is delivered under no
caps at all: its caps are remembered from the first. -/
theorem pushed_without_caps :
    ∃ finish, Run step unguarded (started twoCapsGst) (twice false false) finish ∧
      finish.pushes = [⟨some TwoCaps.onePixel, none⟩] ∧
      ¬ finish.PushedUnderOwnCaps ∧ ¬ finish.RefusedForgotten := by
  refine ⟨_, execute_eq_some_iff.mp rfl, rfl, ?_, ?_⟩
  · intro pushes
    obtain ⟨_, ⟨⟩, ⟨⟩⟩ := pushes ⟨some TwoCaps.onePixel, none⟩ (.head _)
  · intro forgotten
    exact forgotten ⟨TwoCaps.onePixel, some TwoCaps.onePixel⟩ (.head _) rfl

end Negotiating

end GstIceoryx2.Element.Source
