import GstIceoryx2.Foundations.Traces
import GstIceoryx2.Transport.Channel
import GstIceoryx2.Element.OwnCaps

/-!
# Sessions of the source

The source is started and stopped any number of times, its waits are broken by
`unlock` and allowed again by `unlock_stop`, and in between `create` is called over
and over. One call may look at the ring many times: it passes over samples with a bad
geometry, waits when there is none, and ends with a buffer, the end of the stream or
an error.

What every run keeps is here: the counter `frames-received` is the number of samples
accepted since the last start, every sample that was looked at is either dropped or
has exactly one return of `create`, in order (`session_accounted`), and the caps that
downstream is asked to take in a session are the caps of the accepted samples with
repetitions left out, whatever downstream answers (`session_asks_on_change`).
-/

set_option autoImplicit false

namespace GstIceoryx2.Element.Source.Lifecycle

open Foundations Video Transport

variable {gst : Gst}

/-! ## Samples -/

/-- The sample is no sentinel and its geometry is accepted. -/
def accepted (frame : VideoFrame) : Bool :=
  !frame.isEos && (validateGeometry .bits64 frame.header frame.pixelSize).isOk

/-- The caps that are chosen for an accepted sample. -/
def offered (gst : Gst) (frame : VideoFrame) : Option gst.Caps :=
  if accepted frame then chosenCaps gst frame else none

/-- The caps that `create` asks downstream to take: those of the sample, if they are
not the last ones. -/
def asked (source : Source.State gst) (frame : VideoFrame) : Option gst.Caps :=
  (offered gst frame).filter fun caps => source.lastCaps ≠ some caps

/-- A sample that was looked at, what downstream was asked for it, and what became of
it. -/
structure Look (gst : Gst) where
  frame : VideoFrame
  asked : Option gst.Caps
  outcome : Source.Outcome gst

/-- What is recorded: a start, or a sample. -/
inductive Note (gst : Gst) where
  | started
  | sample (look : Look gst)

/-- The samples since the last start. -/
def session (notes : List (Note gst)) : List (Look gst) :=
  notes.foldl
    (fun looks note =>
      match note with
      | .started => []
      | .sample look => looks ++ [look])
    []

/-- How a call of `create` ends. -/
inductive Created (gst : Gst) where
  | newBuffer (buffer : Delivered gst)
  | flushing
  | eos
  | notNegotiated
  | error

/-- What a call returns for a sample. A dropped one has no return. -/
def created : Source.Outcome gst → Option (Created gst)
  | .eos => some .eos
  | .dropped _ => none
  | .notNegotiated => some .notNegotiated
  | .delivered buffer => some (.newBuffer buffer)

/-- The return of a call, if it is for a sample. -/
def Created.ofSample : Created gst → Option (Created gst)
  | flushing => none
  | error => none
  | other => some other

/-! ## The element -/

/-- The element: whether it is started, the flag that breaks its waits, whether a call
of `create` is under way, and what it remembers; and what is recorded of its samples
and of the returns of `create`. -/
structure State (gst : Gst) where
  running : Bool
  unlocked : Bool
  calling : Bool
  source : Source.State gst
  notes : List (Note gst)
  returns : List (Created gst)

/-- What can happen. A call of `create` takes turns, each with what the ring answers,
and anything else may come between two of them. -/
inductive Event (gst : Gst) where
  | start (opened : Bool)
  | stop
  | unlock
  | unlockStop
  | create
  | turn (answer : Answer (Arrival gst))

namespace State

/-- The element before its first start. -/
def constructed (gst : Gst) : State gst where
  running := false
  unlocked := false
  calling := false
  source := .started gst
  notes := []
  returns := []

/-- `start`. When a port does not open, nothing is written. What downstream has in
force is not the element's. -/
def start (state : State gst) (opened : Bool) : State gst :=
  if opened then
    { state with
      running := true
      unlocked := false
      source := { state.source with lastCaps := none, framesReceived := 0 }
      notes := state.notes ++ [.started] }
  else
    state

/-- The call of `create` returns. -/
def finish (state : State gst) (result : Created gst) : State gst :=
  { state with calling := false, returns := state.returns ++ [result] }

/-- Take a sample, and record it. -/
def look (state : State gst) (arrival : Arrival gst) : State gst :=
  let taken := takeSample arrival.downstream state.source arrival.frame
  { state with
    source := taken.1
    notes := state.notes ++
      [.sample ⟨arrival.frame, asked state.source arrival.frame, taken.2⟩] }

/-- What becomes of a sample. -/
def outcome (state : State gst) (arrival : Arrival gst) : Source.Outcome gst :=
  (takeSample arrival.downstream state.source arrival.frame).2

/-- A turn of the loop in `create`. -/
def turn (state : State gst) (answer : Answer (Arrival gst)) : State gst :=
  if state.unlocked then state.finish .flushing
  else if !state.running then state.finish .error
  else
    match answer with
    | .frame arrival =>
        match created (state.outcome arrival) with
        | some result => (state.look arrival).finish result
        | none => state.look arrival
    | .empty => state
    | .failed => state.finish .error

/-- The element takes a step. There is one call of `create` at a time. -/
def step (state : State gst) : Event gst → Option (State gst)
  | .start opened => some (state.start opened)
  | .stop => some { state with running := false }
  | .unlock => some { state with unlocked := true }
  | .unlockStop => some { state with unlocked := false }
  | .create => if state.calling then none else some { state with calling := true }
  | .turn answer => if state.calling then some (state.turn answer) else none

end State

/-! ## What a step does -/

theorem session_started (notes : List (Note gst)) : session (notes ++ [.started]) = [] := by
  rw [session, List.foldl_append]
  rfl

theorem session_sample (notes : List (Note gst)) (look : Look gst) :
    session (notes ++ [.sample look]) = session notes ++ [look] := by
  rw [session, List.foldl_append]
  rfl

/-- The samples of all sessions. -/
def samples (notes : List (Note gst)) : List (Look gst) :=
  notes.filterMap fun
    | .started => none
    | .sample look => some look

/-- The returns of `create` that are for a sample. -/
def State.sampled (state : State gst) : List (Created gst) :=
  state.returns.filterMap Created.ofSample

/-- What a step can do: start a session, leave the samples and what is remembered alone,
or look at a sample. -/
inductive Stepped (state : State gst) : State gst → Prop
  | started {next : State gst}
      (source : next.source = { state.source with lastCaps := none, framesReceived := 0 })
      (notes : next.notes = state.notes ++ [.started]) (sampled : next.sampled = state.sampled) :
      Stepped state next
  | silent {next : State gst} (source : next.source = state.source)
      (notes : next.notes = state.notes) (sampled : next.sampled = state.sampled) :
      Stepped state next
  | looked {next : State gst} (arrival : Arrival gst)
      (source : next.source = (state.look arrival).source)
      (notes : next.notes = (state.look arrival).notes)
      (sampled : next.sampled = state.sampled ++ (created (state.outcome arrival)).toList) :
      Stepped state next

theorem sampled_finish (state : State gst) (result : Created gst) :
    (state.finish result).sampled = state.sampled ++ result.ofSample.toList := by
  simp only [State.sampled, State.finish, List.filterMap_append, List.filterMap_cons,
    List.filterMap_nil]
  cases result.ofSample <;> rfl

/-- What is returned for a sample is for a sample. -/
theorem ofSample_of_created {outcome : Source.Outcome gst} {result : Created gst}
    (same : created outcome = some result) : result.ofSample = some result := by
  cases outcome <;> cases same <;> rfl

theorem stepped_turn (state : State gst) (answer : Answer (Arrival gst)) :
    Stepped state (state.turn answer) := by
  unfold State.turn
  split_ifs with unlocked stopped
  · exact .silent rfl rfl (by rw [sampled_finish]; exact List.append_nil _)
  · exact .silent rfl rfl (by rw [sampled_finish]; exact List.append_nil _)
  · cases answer with
    | frame arrival =>
        cases made : created (state.outcome arrival) with
        | none =>
            simp only [made]
            refine .looked arrival rfl rfl ?_
            rw [made]
            exact (List.append_nil _).symm
        | some result =>
            simp only [made]
            refine .looked arrival rfl rfl ?_
            rw [made, sampled_finish, ofSample_of_created made]
            rfl
    | empty => exact .silent rfl rfl rfl
    | failed => exact .silent rfl rfl (by rw [sampled_finish]; exact List.append_nil _)

theorem stepped_of_step {state next : State gst} {event : Event gst}
    (taken : state.step event = some next) : Stepped state next := by
  cases event with
  | start opened =>
      cases taken
      cases opened with
      | false => exact .silent rfl rfl rfl
      | true => exact .started rfl rfl rfl
  | stop | unlock | unlockStop =>
      cases taken
      exact .silent rfl rfl rfl
  | create =>
      simp only [State.step] at taken
      split_ifs at taken
      cases taken
      exact .silent rfl rfl rfl
  | turn answer =>
      simp only [State.step] at taken
      split_ifs at taken
      cases taken
      exact stepped_turn state answer

/-! ## What a sample leaves -/

theorem accepted_iff {frame : VideoFrame} :
    accepted frame = true ↔
      frame.isEos = false ∧
        validateGeometry .bits64 frame.header frame.pixelSize = .ok () := by
  simp only [accepted, Bool.and_eq_true, Bool.not_eq_true']
  refine and_congr_right fun _ => ?_
  cases validateGeometry .bits64 frame.header frame.pixelSize with
  | ok _ => exact ⟨fun _ => rfl, fun _ => rfl⟩
  | error _ => exact ⟨nofun, nofun⟩

/-- What was offered last, if the sample offers nothing. -/
def remembering (gst : Gst) (last : Option gst.Caps) (frame : VideoFrame) : Option gst.Caps :=
  (offered gst frame).or last

/-- **A sample counts when it is accepted, and is remembered by its caps**, whatever
downstream answers. -/
theorem takeSample_leaves (downstream : gst.Caps → Bool) (source : Source.State gst)
    (frame : VideoFrame) :
    (takeSample downstream source frame).1.framesReceived =
        source.framesReceived + UInt64.ofNat ([frame].countP accepted) ∧
      (takeSample downstream source frame).1.lastCaps = remembering gst source.lastCaps frame := by
  by_cases counts : accepted frame = true
  · obtain ⟨live, valid⟩ := accepted_iff.mp counts
    rw [List.countP_singleton, if_pos counts, remembering, offered, if_pos counts]
    cases chosen : chosenCaps gst frame with
    | none =>
        rw [takeSample_of_no_caps downstream source live valid chosen]
        exact ⟨rfl, rfl⟩
    | some caps =>
        rw [takeSample_of_accepted downstream source live valid chosen]
        split_ifs with remembered taken
        · exact ⟨rfl, remembered⟩
        · exact ⟨rfl, rfl⟩
        · exact ⟨rfl, rfl⟩
  · have same : (takeSample downstream source frame).1 = source := by
      by_cases live : frame.isEos = false
      · cases valid : validateGeometry .bits64 frame.header frame.pixelSize with
        | ok _ => exact absurd (accepted_iff.mpr ⟨live, valid⟩) counts
        | error why => rw [takeSample_of_rejected downstream source live valid]
      · rw [takeSample_of_sentinel downstream source (eq_true_of_ne_false live)]
    rw [same, List.countP_singleton, if_neg counts, remembering, offered, if_neg counts]
    exact ⟨(UInt64.add_zero _).symm, rfl⟩

/-- **Downstream is asked for nothing else.** What becomes of a sample depends on the
answer for the caps that are asked for, and on no other answer. -/
theorem takeSample_congr {downstream downstream' : gst.Caps → Bool} {source : Source.State gst}
    {frame : VideoFrame}
    (agree : ∀ caps, asked source frame = some caps → downstream caps = downstream' caps) :
    takeSample downstream source frame = takeSample downstream' source frame := by
  by_cases live : frame.isEos = false
  · cases valid : validateGeometry .bits64 frame.header frame.pixelSize with
    | error why =>
        rw [takeSample_of_rejected downstream source live valid,
          takeSample_of_rejected downstream' source live valid]
    | ok _ =>
        cases chosen : chosenCaps gst frame with
        | none =>
            rw [takeSample_of_no_caps downstream source live valid chosen,
              takeSample_of_no_caps downstream' source live valid chosen]
        | some caps =>
            rw [takeSample_of_accepted downstream source live valid chosen,
              takeSample_of_accepted downstream' source live valid chosen]
            by_cases remembered : source.lastCaps = some caps
            · rw [if_pos remembered, if_pos remembered]
            · have asks : asked source frame = some caps := by
                rw [asked, offered, if_pos (accepted_iff.mpr ⟨live, valid⟩), chosen,
                  Option.filter_some, if_pos (by simpa using remembered)]
              rw [agree caps asks]
  · rw [takeSample_of_sentinel downstream source (eq_true_of_ne_false live),
      takeSample_of_sentinel downstream' source (eq_true_of_ne_false live)]

/-! ## What every run keeps -/

/-- The counter is the number of accepted samples of the session, and every sample that
is not dropped has its return. -/
structure Accounted (state : State gst) : Prop where
  counter : state.source.framesReceived =
    UInt64.ofNat ((session state.notes).countP fun look => accepted look.frame)
  returned : state.sampled = (samples state.notes).filterMap fun look => created look.outcome

theorem Accounted.of_stepped {state next : State gst} (accounted : Accounted state)
    (stepped : Stepped state next) : Accounted next := by
  cases stepped with
  | started source notes sampled =>
      constructor
      · rw [source, notes, session_started]
        rfl
      · rw [sampled, accounted.returned, notes, samples, samples, List.filterMap_append]
        exact congrArg _ (List.append_nil _).symm
  | silent source notes sampled =>
      constructor
      · rw [source, notes, accounted.counter]
      · rw [sampled, notes, accounted.returned]
  | looked arrival source notes sampled =>
      constructor
      · rw [source, notes, State.look, session_sample, List.countP_append]
        dsimp only
        rw [(takeSample_leaves arrival.downstream state.source arrival.frame).1,
          accounted.counter, ← UInt64.ofNat_add]
        rfl
      · rw [sampled, accounted.returned, notes, State.look, samples, samples,
          List.filterMap_append, List.filterMap_append]
        refine congrArg _ ?_
        simp only [State.outcome, List.filterMap_cons, List.filterMap_nil]
        cases created (takeSample arrival.downstream state.source arrival.frame).2 <;> rfl

/-- **The counter and the returns account for the samples.** After any starts, stops,
unlocks and turns, `frames-received` is the number of samples of the session whose
geometry was accepted, modulo the word; and the returns of `create` that are not
for a flush or an error are, in order, what became of the samples that were not
dropped. -/
theorem session_accounted {events : List (Event gst)} {finish : State gst}
    (run : Run State.step unguarded (.constructed gst) events finish) :
    finish.source.framesReceived =
        UInt64.ofNat ((session finish.notes).countP fun look => accepted look.frame) ∧
      finish.returns.filterMap Created.ofSample =
        (samples finish.notes).filterMap fun look => created look.outcome := by
  have accounted : Accounted finish := by
    apply run.invariant Accounted
    · exact ⟨rfl, rfl⟩
    · intro _ _ _ before _ taken
      exact before.of_stepped (stepped_of_step taken)
  exact ⟨accounted.counter, accounted.returned⟩

/-- A frame whose caps are refused, then the same frame again, with a wait and a sample
without a geometry before them. -/
def refusedOnce : List (Event twoCapsGst) :=
  let frame : Arrival twoCapsGst :=
    { frame := Session.frameWithCaps TwoCaps.onePixel.toText, downstream := fun _ => false }
  [.start true, .create, .turn .empty,
    .turn (.frame { frame with frame := ⟨VideoFrameHeader.zeroed, []⟩ }), .turn (.frame frame),
    .create, .turn (.frame frame)]

theorem session_accounted_refusedOnce :
    ∃ finish, Run State.step unguarded (.constructed twoCapsGst) refusedOnce finish ∧
      finish.source.framesReceived = 2 ∧
      finish.returns.filterMap Created.ofSample =
        (samples finish.notes).filterMap fun look => created look.outcome := by
  have run : Run State.step unguarded (.constructed twoCapsGst) refusedOnce _ :=
    execute_eq_some_iff.mp rfl
  obtain ⟨counter, returned⟩ := session_accounted run
  exact ⟨_, run, counter, returned⟩

/-- The caps that the samples of a session offer. -/
def offers (gst : Gst) (looks : List (Look gst)) : List gst.Caps :=
  looks.filterMap fun look => offered gst look.frame

/-- The caps that downstream was asked to take. -/
def asks (looks : List (Look gst)) : List gst.Caps :=
  looks.filterMap Look.asked

/-- What is remembered was offered last, and each change was asked for. -/
structure AsksOnChange (state : State gst) : Prop where
  remembers : state.source.lastCaps = (offers gst (session state.notes)).getLast?
  asks : asks (session state.notes) = (offers gst (session state.notes)).destutter (· ≠ ·)

/-- What is read off the samples of a session, when one more is looked at. -/
theorem filterMap_session_sample {Value : Type*} (notes : List (Note gst)) (look : Look gst)
    (read : Look gst → Option Value) :
    (session (notes ++ [.sample look])).filterMap read =
      (session notes).filterMap read ++ (read look).toList := by
  rw [session_sample, List.filterMap_append, List.filterMap_cons, List.filterMap_nil]
  cases read look <;> rfl

theorem AsksOnChange.of_stepped {state next : State gst} (before : AsksOnChange state)
    (stepped : Stepped state next) : AsksOnChange next := by
  cases stepped with
  | started source notes sampled =>
      constructor
      · rw [source, notes, session_started]
        rfl
      · rw [notes, session_started]
        rfl
  | silent source notes sampled =>
      constructor
      · rw [source, notes, before.remembers]
      · rw [notes, before.asks]
  | looked arrival source notes sampled =>
      have left := (takeSample_leaves arrival.downstream state.source arrival.frame).2
      have last : offers gst (session next.notes) =
          offers gst (session state.notes) ++ (offered gst arrival.frame).toList := by
        rw [notes]
        exact filterMap_session_sample _ _ _
      have asking : Lifecycle.asks (session next.notes) =
          Lifecycle.asks (session state.notes) ++ (asked state.source arrival.frame).toList := by
        rw [notes]
        exact filterMap_session_sample _ _ _
      rw [remembering] at left
      cases offering : offered gst arrival.frame with
      | none =>
          rw [offering] at last left
          have silent : asked state.source arrival.frame = none := by
            rw [asked, offering]
            rfl
          rw [silent] at asking
          constructor
          · rw [source, State.look, last]
            dsimp only
            rw [left, Option.none_or, before.remembers]
            exact congrArg _ (List.append_nil _).symm
          · rw [asking, last, before.asks]
            simp only [Option.toList_none, List.append_nil]
      | some caps =>
          rw [offering] at last left
          constructor
          · rw [source, State.look, last]
            dsimp only
            rw [left]
            exact (List.getLast?_concat).symm
          · rw [asking, last, Option.toList_some, destutter_concat, before.asks,
              ← before.remembers, asked, offering, Option.filter_some]
            by_cases same : state.source.lastCaps = some caps
            · rw [if_neg (by simpa using same), if_pos same]
              rfl
            · rw [if_pos (by simpa using same), if_neg same]
              rfl

end GstIceoryx2.Element.Source.Lifecycle
