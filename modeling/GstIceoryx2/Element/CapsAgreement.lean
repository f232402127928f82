import GstIceoryx2.Foundations.Runs
import GstIceoryx2.Video.Validate
import GstIceoryx2.Element.Source

/-!
# Negotiated caps and validated geometry

A received sample describes its frame twice: in the fixed header, which is
validated, and in the caps of the aux blob, which the source prefers and does not
compare with the header. Here every run of the source is followed with the caps
that are in force at each delivery.

The caps built from a header describe it, so what can go wrong is of two kinds:
caps of an aux blob that describe another frame are negotiated, or caps that are
remembered are not negotiated again while other caps, or none, are in force. The
deliveries of a run all agree exactly when none of its steps is of either kind
(`deliveries_agree_iff`).
-/

set_option autoImplicit false

namespace GstIceoryx2.Element.Source

open Foundations Video

variable {gst : Gst}

/-! ## Runs of the source -/

/-- The caps stand for the format and size of the header. -/
def Describes (caps : gst.Caps) (header : VideoFrameHeader) : Prop :=
  ∃ info, gst.videoInfo caps = some info ∧ info.format = .raw header.formatName ∧
    info.width = header.width ∧ info.height = header.height

/-- A delivery: the header of the sample, and the caps in force for the buffer. -/
structure Delivery (gst : Gst) where
  header : VideoFrameHeader
  inForce : Option gst.Caps

/-- The caps in force describe the header. -/
def Delivery.Agrees (delivery : Delivery gst) : Prop :=
  ∃ caps, delivery.inForce = some caps ∧ Describes caps delivery.header

/-- A sample that arrives, and which caps downstream takes at that moment. -/
structure Arrival (gst : Gst) where
  frame : VideoFrame
  downstream : gst.Caps → Bool

/-- The source, and what it has delivered. -/
structure Session (gst : Gst) where
  source : State gst
  deliveries : List (Delivery gst)

namespace Session

/-- Before any sample. -/
def started (gst : Gst) : Session gst where
  source := .started gst
  deliveries := []

/-- The deliveries with what becomes of a sample. -/
def record (deliveries : List (Delivery gst)) (header : VideoFrameHeader)
    (inForce : Option gst.Caps) : Outcome gst → List (Delivery gst)
  | .delivered _ => deliveries ++ [⟨header, inForce⟩]
  | _ => deliveries

/-- Take the sample that arrives. -/
def step (session : Session gst) (arrival : Arrival gst) : Option (Session gst) :=
  let taken := takeSample arrival.downstream session.source arrival.frame
  some {
    source := taken.1
    deliveries := record session.deliveries arrival.frame.header taken.1.inForce taken.2 }

/-- Every delivery so far was under caps that describe its header. -/
def Agreed (session : Session gst) : Prop :=
  ∀ delivery ∈ session.deliveries, delivery.Agrees

/-- A step that keeps the agreement: when the sample is accepted and its caps are
remembered, the caps in force describe its header, and when they are negotiated
and come from the aux blob, they describe it themselves. -/
def CapsSafe (session : Session gst) (arrival : Arrival gst) : Prop :=
  arrival.frame.isEos = false →
    validateGeometry .bits64 arrival.frame.header arrival.frame.pixelSize = .ok () →
      ∀ caps, chosenCaps gst arrival.frame = some caps →
        (session.source.lastCaps = some caps →
          ∃ inForce, session.source.inForce = some inForce ∧
            Describes inForce arrival.frame.header) ∧
        (session.source.lastCaps ≠ some caps → arrival.downstream caps = true →
          (auxOf gst arrival.frame).caps = some caps → Describes caps arrival.frame.header)

end Session

/-! ## What is chosen for a sample -/

/-- Caps built from an accepted header describe it. -/
theorem describes_of_built (documented : gst.Documented) {frame : VideoFrame} {caps : gst.Caps}
    (supported : frame.header.formatName ∈ supportedFormats)
    (none : (auxOf gst frame).caps = none) (chosen : chosenCaps gst frame = some caps) :
    Describes caps frame.header := by
  simp only [chosenCaps, none, CapsInfo.toCaps, CapsInfo.videoFormat, CapsInfo.fromHeader,
    documented.formats _ supported] at chosen
  exact documented.built _ _ _ _ chosen

/-- Negotiated caps describe the header exactly when the caps of the aux blob do,
if there are any. -/
theorem describes_chosen_iff (documented : gst.Documented) {frame : VideoFrame} {caps : gst.Caps}
    (supported : frame.header.formatName ∈ supportedFormats)
    (chosen : chosenCaps gst frame = some caps) :
    Describes caps frame.header ↔
      ((auxOf gst frame).caps = some caps → Describes caps frame.header) := by
  refine ⟨fun described _ => described, fun whenSent => ?_⟩
  cases sent : (auxOf gst frame).caps with
  | none => exact describes_of_built documented supported sent chosen
  | some other =>
      have same : other = caps := by
        simp only [chosenCaps, sent] at chosen
        exact Option.some.inj chosen
      exact whenSent (by rw [sent, same])

namespace Session

/-! ## Steps and runs -/

theorem agreed_snoc_iff {source : State gst} {deliveries : List (Delivery gst)}
    {delivery : Delivery gst} (before : ∀ other ∈ deliveries, other.Agrees) :
    Agreed ⟨source, deliveries ++ [delivery]⟩ ↔ delivery.Agrees := by
  simp only [Agreed, List.forall_mem_append, List.forall_mem_singleton]
  exact and_iff_right before

/-- A delivery is never taken back. -/
theorem agreed_of_step {session next : Session gst} {arrival : Arrival gst}
    (taken : session.step arrival = some next) (after : next.Agreed) : session.Agreed := by
  cases taken
  intro delivery member
  apply after delivery
  simp only [record]
  split
  · exact List.mem_append_left _ member
  · exact member

/-- **A step keeps the agreement exactly when it is safe.** -/
theorem agreed_step_iff (documented : gst.Documented) {session next : Session gst}
    {arrival : Arrival gst} (before : session.Agreed)
    (taken : session.step arrival = some next) :
    next.Agreed ↔ session.CapsSafe arrival := by
  cases taken
  by_cases live : arrival.frame.isEos = false
  · cases accepted : validateGeometry .bits64 arrival.frame.header arrival.frame.pixelSize with
    | error why =>
        have dropped := takeSample_of_rejected arrival.downstream session.source live accepted
        simp only [dropped, record]
        exact iff_of_true before fun _ ok => by rw [accepted] at ok; cases ok
    | ok _ =>
        cases chosen : chosenCaps gst arrival.frame with
        | none =>
            have refused :=
              takeSample_of_no_caps arrival.downstream session.source live accepted chosen
            simp only [refused, record]
            exact iff_of_true before fun _ _ caps some => by rw [chosen] at some; cases some
        | some caps =>
            have supported := supported_of_accepted accepted
            have safe : session.CapsSafe arrival ↔ _ :=
              ⟨fun safe => safe live accepted caps chosen, fun safe _ _ other same => by
                rw [chosen] at same
                cases same
                exact safe⟩
            rw [safe, takeSample_of_accepted arrival.downstream session.source live accepted chosen]
            split_ifs with remembered negotiated
            · rw [record, agreed_snoc_iff before]
              exact ⟨fun agrees => ⟨fun _ => agrees, fun changed => absurd remembered changed⟩,
                fun safe => safe.1 remembered⟩
            · rw [record, agreed_snoc_iff before]
              have negotiatedAgrees : (⟨arrival.frame.header, some caps⟩ : Delivery gst).Agrees ↔
                  Describes caps arrival.frame.header :=
                ⟨fun ⟨_, same, describes⟩ => Option.some.inj same ▸ describes,
                  fun describes => ⟨caps, rfl, describes⟩⟩
              refine negotiatedAgrees.trans ?_
              refine (describes_chosen_iff documented supported chosen).trans ?_
              exact ⟨fun sent => ⟨fun same => absurd same remembered, fun _ _ => sent⟩,
                fun safe => safe.2 remembered negotiated⟩
            · exact iff_of_true before
                ⟨fun same => absurd same remembered, fun _ taken => absurd taken negotiated⟩
  · have sentinel := takeSample_of_sentinel arrival.downstream session.source
      (eq_true_of_ne_false live)
    simp only [sentinel, record]
    exact iff_of_true before fun same => absurd same live

/-- **Every delivery of a run is under caps that describe its header exactly when
every step of the run is safe.** -/
theorem deliveries_agree_iff (documented : gst.Documented) {arrivals : List (Arrival gst)}
    {finish : Session gst} (run : Run step unguarded (started gst) arrivals finish) :
    finish.Agreed ↔ Run step CapsSafe (started gst) arrivals finish := by
  refine Run.iff_guarded Session.Agreed ?_ (fun _ _ _ => agreed_of_step) ?_ run
  · intro delivery member
    cases member
  · intro _ _ _ _ _ before taken
    exact agreed_step_iff documented before taken

/-- A one-pixel frame, with caps of the given text behind its pixels. -/
def frameWithCaps (text : String) : VideoFrame :=
  let blob := buildAux text [] none
  { header := { onePixelHeader 4 with auxSize := UInt32.ofNat blob.length }
    payload := [0, 0, 0, 0] ++ blob }

/-- One sample arrives, and downstream takes any caps. -/
def oneArrival (text : String) : List (Arrival twoCapsGst) :=
  [{ frame := frameWithCaps text, downstream := fun _ => true }]

theorem deliveries_agree_iff_onePixel :
    ∃ finish, Run step unguarded (started twoCapsGst) (oneArrival TwoCaps.onePixel.toText) finish ∧
      finish.Agreed := by
  refine ⟨_, execute_eq_some_iff.mp rfl, ?_⟩
  refine (deliveries_agree_iff twoCapsGst_documented (execute_eq_some_iff.mp rfl)).mpr
    (.cons (fun _ _ caps chosen => ?_) rfl .nil)
  refine ⟨fun remembered => absurd remembered (Option.some_ne_none caps).symm, fun _ _ _ => ?_⟩
  cases (show some TwoCaps.onePixel = some caps from chosen)
  exact ⟨TwoCaps.onePixel.info, rfl, by decide, rfl, rfl⟩

/-- A frame of one pixel is delivered under caps of high definition. -/
theorem deliveries_disagree :
    ∃ finish, Run step unguarded (started twoCapsGst)
        (oneArrival TwoCaps.highDefinition.toText) finish ∧
      finish.deliveries.length = 1 ∧ ¬ finish.Agreed := by
  refine ⟨_, execute_eq_some_iff.mp rfl, rfl, fun agreed => ?_⟩
  obtain ⟨caps, inForce, info, known, -, width, -⟩ := agreed _ (List.mem_singleton_self _)
  cases inForce
  cases known
  exact absurd width (by decide)

end Session

end GstIceoryx2.Element.Source
