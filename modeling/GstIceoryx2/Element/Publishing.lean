import GstIceoryx2.Foundations.Runs
import GstIceoryx2.Video.Publish
import GstIceoryx2.Element.Sink

/-!
# Errors after the send

Sending a frame, notifying and counting are steps of their own, and the first two
can fail. The SDK and both paths of the sink send first. When they cannot notify
then, they return an error for a frame that is on the ring, and the sink does not
count it. A caller that tries again after the error publishes the frame twice.

A call should return an error exactly when its frame is not on the ring, and the
counters should tell how many frames are. A call of the SDK does exactly when no
notification fails behind a send, and the states of a run of the sink are all so
exactly when the same holds of its renders (`publishing_sound_iff`). The counters
always agree with each other (`sent_eq_zeroCopy_add_copied`).
-/

set_option autoImplicit false

namespace GstIceoryx2.Element.Publishing

open Foundations Video

variable {gst : Gst}

/-! ## Rendering -/

/-- The flow errors of a render. -/
inductive FlowError where
  | error
  | flushing
  | notNegotiated
  deriving DecidableEq

/-- The counters of the frames that were sent. -/
structure Counters where
  sent : UInt64
  zeroCopy : UInt64
  copied : UInt64
  deriving DecidableEq

/-- Nothing sent. -/
def Counters.zero : Counters where
  sent := 0
  zeroCopy := 0
  copied := 0

/-- A frame was sent by a pool buffer's loan, or by a copy. -/
def Counters.countZeroCopy (counters : Counters) : Counters :=
  { counters with sent := counters.sent + 1, zeroCopy := counters.zeroCopy + 1 }

def Counters.countCopied (counters : Counters) : Counters :=
  { counters with sent := counters.sent + 1, copied := counters.copied + 1 }

/-- A render, with how the calls it makes end: the wait for a connection, the mapping
of the buffer, the loan, the send and the notification. Between the send and the
notification of a copy the element may be stopped. -/
structure Call (gst : Gst) where
  described : Buffer gst
  registered : Option (List MemByte)
  awaits : Bool
  mapped : Option (List MemByte)
  loan : Except FlowError Unit
  sends : Bool
  stopped : Bool
  notifies : Bool

/-- What a render puts on the ring, what it counts, and how it returns. -/
structure Rendered where
  onRing : Option Loan
  counters : Counters
  result : Except FlowError Unit

/-- A render that ends before anything is sent. -/
def failed (counters : Counters) (raised : FlowError) : Rendered where
  onRing := none
  counters := counters
  result := .error raised

/-- `notify_after_send`: nothing to do once the element is stopped. -/
def notifyAfterSend (call : Call gst) : Bool :=
  if call.stopped then true else call.notifies

/-- The zero-copy path, from the send on. -/
def renderZeroCopy (counters : Counters) (call : Call gst) (loan : Loan) : Rendered :=
  if call.sends then
    if call.notifies then ⟨some loan, counters.countZeroCopy, .ok ()⟩
    else ⟨some loan, counters, .error .error⟩
  else
    failed counters .error

/-- The copy path, from the loan on. -/
def renderCopy (counters : Counters) (call : Call gst) (loan : Loan) : Rendered :=
  match call.loan with
  | .error raised => failed counters raised
  | .ok () =>
      if call.sends then
        if notifyAfterSend call then ⟨some loan, counters.countCopied, .ok ()⟩
        else ⟨some loan, counters, .error .error⟩
      else
        failed counters .error

/-- `render`, with all of its early returns. There is a publisher once there are caps. -/
def render (sink : Option (Sink.State gst)) (counters : Counters) (call : Call gst) : Rendered :=
  if call.awaits then
    match call.mapped with
    | none => failed counters .error
    | some src =>
        match sink with
        | none => failed counters .error
        | some sink =>
            match sink.caps with
            | none => failed counters .notNegotiated
            | some info =>
                match call.registered with
                | some payload =>
                    renderZeroCopy counters call
                      (Sink.renderZeroCopy info sink.capsFull call.described payload)
                | none =>
                    renderCopy counters call
                      (Sink.renderCopy info sink.capsFull call.described src)
  else
    failed counters .flushing

/-! ## What a render does -/

/-- Everything up to the send succeeds. -/
structure Call.Sends (call : Call gst) (sink : Option (Sink.State gst)) : Prop where
  awaits : call.awaits = true
  mapped : call.mapped.isSome
  negotiated : ∃ state info, sink = some state ∧ state.caps = some info
  loaned : call.registered = none → call.loan = .ok ()
  sends : call.sends = true

/-- The notification succeeds, or is left out behind a copy of a stopped element. -/
def Call.Notifies (call : Call gst) : Prop :=
  call.notifies = true ∨ call.registered = none ∧ call.stopped = true

/-- The count of a frame that is sent and notified. -/
def Call.count (call : Call gst) (counters : Counters) : Counters :=
  if call.registered.isSome then counters.countZeroCopy else counters.countCopied

section Render

variable {sink : Option (Sink.State gst)} {counters : Counters} {call : Call gst}

/-- **A frame that is sent is on the ring. It is counted, and the render succeeds, exactly
when it is also notified.** -/
theorem render_of_sends (sends : call.Sends sink) :
    ∃ loan, (call.Notifies → render sink counters call = ⟨some loan, call.count counters, .ok ()⟩) ∧
      (¬ call.Notifies → render sink counters call = ⟨some loan, counters, .error .error⟩) := by
  obtain ⟨awaits, mapped, ⟨state, info, rfl, caps⟩, loaned, send⟩ := sends
  obtain ⟨src, mapped⟩ := Option.isSome_iff_exists.mp mapped
  cases registered : call.registered with
  | some payload =>
      refine ⟨Sink.renderZeroCopy info state.capsFull call.described payload, ?_, ?_⟩
      · intro notifies
        have notified : call.notifies = true := by
          rcases notifies with notified | ⟨unregistered, -⟩
          · exact notified
          · cases registered.symm.trans unregistered
        simp [render, renderZeroCopy, Call.count, awaits, mapped, caps, registered, send, notified]
      · intro silent
        have failed : call.notifies = false := by
          apply eq_false_of_ne_true
          exact fun notified => silent (.inl notified)
        simp [render, renderZeroCopy, awaits, mapped, caps, registered, send, failed]
  | none =>
      have granted := loaned registered
      refine ⟨Sink.renderCopy info state.capsFull call.described src, ?_, ?_⟩
      · intro notifies
        have notified : notifyAfterSend call = true := by
          rcases notifies with notified | ⟨-, stopped⟩
          · simp [notifyAfterSend, notified]
          · simp [notifyAfterSend, stopped]
        simp [render, renderCopy, Call.count, awaits, mapped, caps, registered, granted, send,
          notified]
      · intro silent
        have failed : notifyAfterSend call = false := by
          simp only [Call.Notifies, registered, true_and, not_or, Bool.not_eq_true] at silent
          simp [notifyAfterSend, silent.1, silent.2]
        simp [render, renderCopy, awaits, mapped, caps, registered, granted, send, failed]

/-- A frame that is not sent is not on the ring and not counted, and the render fails. -/
theorem render_of_not_sends (unsent : ¬ call.Sends sink) :
    ∃ raised, render sink counters call = failed counters raised := by
  rcases call.awaits.eq_false_or_eq_true with awaits | flushed
  · cases mapped : call.mapped with
    | none => exact ⟨.error, by simp [render, awaits, mapped]⟩
    | some src =>
        cases sink with
        | none => exact ⟨.error, by simp [render, awaits, mapped]⟩
        | some state =>
            cases caps : state.caps with
            | none => exact ⟨.notNegotiated, by simp [render, awaits, mapped, caps]⟩
            | some info =>
                have refused : (call.registered = none → call.loan = .ok ()) →
                    call.sends = false := by
                  intro loaned
                  apply eq_false_of_ne_true
                  intro sends
                  exact unsent
                    ⟨awaits, by rw [mapped]; rfl, ⟨state, info, rfl, caps⟩, loaned, sends⟩
                cases registered : call.registered with
                | some payload =>
                    have unsent := refused (by rw [registered]; exact nofun)
                    exact ⟨.error, by
                      simp [render, renderZeroCopy, awaits, mapped, caps, registered, unsent]⟩
                | none =>
                    cases loan : call.loan with
                    | error raised => exact ⟨raised, by
                        simp [render, renderCopy, awaits, mapped, caps, registered, loan]⟩
                    | ok granted =>
                        have unsent := refused fun _ => loan
                        exact ⟨.error, by
                          simp [render, renderCopy, awaits, mapped, caps, registered, loan,
                            unsent]⟩
  · exact ⟨.flushing, by simp [render, flushed]⟩

end Render

/-! ## Runs of the sink -/

/-- How a render ended: whether its frame is on the ring, and whether it succeeded. -/
structure Ended where
  onRing : Bool
  succeeded : Bool

/-- The sink, its counters, what renders have put on the ring since it was started, and
how they ended. -/
structure State (gst : Gst) where
  sink : Option (Sink.State gst)
  counters : Counters
  ring : List Loan
  ended : List Ended

/-- What can happen. -/
inductive Event (gst : Gst) where
  | start
  | stop
  | setCaps (caps : gst.Caps)
  | render (call : Call gst)

namespace State

/-- Before the first start. -/
def created : State gst where
  sink := none
  counters := .zero
  ring := []
  ended := []

/-- Caps are negotiated while the sink is started. Caps that are refused change
nothing. -/
def setCaps (state : State gst) (caps : gst.Caps) : State gst :=
  match state.sink with
  | none => state
  | some sink =>
      match Sink.setCaps sink caps with
      | .ok sink => { state with sink := some sink }
      | .error () => state

/-- What a render leaves behind. -/
def record (state : State gst) (rendered : Rendered) : State gst :=
  { state with
    counters := rendered.counters
    ring := state.ring ++ rendered.onRing.toList
    ended := state.ended ++ [⟨rendered.onRing.isSome, rendered.result.isOk⟩] }

/-- The sink takes a step. -/
def step (state : State gst) : Event gst → Option (State gst)
  | .start => some { state with sink := some (.started gst), counters := .zero, ring := [] }
  | .stop => some { state with sink := none }
  | .setCaps caps => some (state.setCaps caps)
  | .render call => some (state.record (Publishing.render state.sink state.counters call))

/-- Every render has failed exactly when its frame is not on the ring; and the frames
that are counted are those on the ring, each on one of the two paths. -/
structure Sound (state : State gst) : Prop where
  ended : ∀ render ∈ state.ended, render.succeeded = render.onRing
  paths : state.counters.sent = state.counters.zeroCopy + state.counters.copied
  ring : state.counters.sent = UInt64.ofNat state.ring.length

/-- A frame that a render sends is notified as well. -/
def Notified (state : State gst) : Event gst → Prop
  | .render call => call.Sends state.sink → call.Notifies
  | _ => True

end State

/-! ## Counters and errors -/

@[simp] theorem Call.count_sent (call : Call gst) (counters : Counters) :
    (call.count counters).sent = counters.sent + 1 := by
  unfold Call.count
  split <;> rfl

theorem Call.count_paths (call : Call gst) {counters : Counters}
    (paths : counters.sent = counters.zeroCopy + counters.copied) :
    (call.count counters).sent = (call.count counters).zeroCopy + (call.count counters).copied := by
  unfold Call.count
  split
  · simp only [Counters.countZeroCopy, paths]
    ac_rfl
  · simp only [Counters.countCopied, paths]
    ac_rfl

namespace State

variable {state next : State gst} {event : Event gst}

theorem setCaps_eq (state : State gst) (caps : gst.Caps) :
    ∃ sink, state.setCaps caps = { state with sink := sink } := by
  unfold setCaps
  split
  · exact ⟨state.sink, rfl⟩
  · split
    · exact ⟨_, rfl⟩
    · exact ⟨state.sink, rfl⟩

/-- A frame is counted on its path whenever it is counted. -/
theorem paths_of_step
    (paths : state.counters.sent = state.counters.zeroCopy + state.counters.copied)
    (taken : state.step event = some next) :
    next.counters.sent = next.counters.zeroCopy + next.counters.copied := by
  cases event with
  | start =>
      cases taken
      rfl
  | stop =>
      cases taken
      exact paths
  | setCaps caps =>
      cases taken
      obtain ⟨sink, same⟩ := setCaps_eq state caps
      rw [same]
      exact paths
  | render call =>
      cases taken
      by_cases sends : call.Sends state.sink
      · obtain ⟨loan, notified, silent⟩ := render_of_sends sends
        by_cases notifies : call.Notifies
        · rw [notified notifies]
          exact call.count_paths paths
        · rw [silent notifies]
          exact paths
      · obtain ⟨raised, fails⟩ := render_of_not_sends sends
        rw [fails]
        exact paths

/-- **In every run, frames sent are frames sent without a copy and frames copied.** -/
theorem sent_eq_zeroCopy_add_copied {events : List (Event gst)} {finish : State gst}
    (run : Run step unguarded created events finish) :
    finish.counters.sent = finish.counters.zeroCopy + finish.counters.copied := by
  apply run.invariant fun state =>
    state.counters.sent = state.counters.zeroCopy + state.counters.copied
  · rfl
  · intro _ _ _ paths _ taken
    exact paths_of_step paths taken

/-- What a render leaves behind is sound when its frame is counted and it succeeds, or
neither, as its frame is on the ring or not. -/
theorem sound_record {rendered : Rendered} (sound : state.Sound)
    (paths : rendered.counters.sent = rendered.counters.zeroCopy + rendered.counters.copied)
    (counted : rendered.counters.sent =
      state.counters.sent + UInt64.ofNat rendered.onRing.toList.length)
    (succeeds : rendered.result.isOk = rendered.onRing.isSome) :
    (state.record rendered).Sound := by
  refine ⟨?_, paths, ?_⟩
  · intro ended member
    rcases List.mem_append.mp member with earlier | last
    · exact sound.ended ended earlier
    · rw [List.mem_singleton.mp last]
      exact succeeds
  · rw [record, List.length_append, UInt64.ofNat_add, ← sound.ring]
    exact counted

/-- **A step keeps a sound state sound exactly when what it sends is notified.** -/
theorem sound_step_iff (sound : state.Sound) (taken : state.step event = some next) :
    next.Sound ↔ state.Notified event := by
  cases event with
  | start =>
      cases taken
      exact iff_of_true ⟨sound.ended, rfl, rfl⟩ trivial
  | stop =>
      cases taken
      exact iff_of_true ⟨sound.ended, sound.paths, sound.ring⟩ trivial
  | setCaps caps =>
      cases taken
      obtain ⟨sink, same⟩ := setCaps_eq state caps
      rw [same]
      exact iff_of_true ⟨sound.ended, sound.paths, sound.ring⟩ trivial
  | render call =>
      have paths := paths_of_step sound.paths taken
      cases taken
      by_cases sends : call.Sends state.sink
      · obtain ⟨loan, notified, silent⟩ := render_of_sends sends
        by_cases notifies : call.Notifies
        · refine iff_of_true ?_ fun _ => notifies
          refine sound_record sound paths ?_ ?_
          · rw [notified notifies]
            exact call.count_sent state.counters
          · rw [notified notifies]
            rfl
        · refine iff_of_false ?_ fun holds => notifies (holds sends)
          rw [silent notifies]
          intro after
          have wrong := after.ended ⟨true, false⟩ (List.mem_append_right _ (.head _))
          cases wrong
      · obtain ⟨raised, fails⟩ := render_of_not_sends sends
        refine iff_of_true ?_ fun sent => absurd sent sends
        refine sound_record sound paths ?_ ?_
        · rw [fails]
          exact (UInt64.add_zero _).symm
        · rw [fails]
          rfl

end State

/-! ## Calls and runs -/

/-- A call of the SDK returns an error exactly when its frame is not on the ring, as long
as nothing fails behind the send. -/
theorem publishFrame_error_iff (faults : Faults) (pixels : List UInt8) (params : FrameParams) :
    (¬ (publishFrame faults pixels params).result.isOk ↔
        (publishFrame faults pixels params).frame = none) ↔
      (faults.loan = none → faults.send = none → faults.notify = none) := by
  obtain ⟨loan, send, notify⟩ := faults
  cases loan with
  | some cause => exact iff_of_true (iff_of_true nofun rfl) nofun
  | none =>
      cases send with
      | some cause => exact iff_of_true (iff_of_true nofun rfl) fun _ => nofun
      | none =>
          cases notify with
          | some cause =>
              refine iff_of_false (fun same => ?_) fun silent => nomatch silent rfl rfl
              cases same.mp nofun
          | none => exact iff_of_true (iff_of_false (fun fails => fails rfl) nofun) fun _ _ => rfl

/-- **Publishing is sound up to notifications that fail behind a send.** A call of the
SDK returns an error exactly when its frame is not on the ring, if and only if it does
not fail to notify a frame it has sent. And in a run of the sink every render so far
has failed exactly when its frame is not on the ring, and the counters add up to the
frames on the ring, in every state of the run, if and only if every frame that a render
of the run sends is notified. -/
theorem publishing_sound_iff :
    (∀ (faults : Faults) (pixels : List UInt8) (params : FrameParams),
      (¬ (publishFrame faults pixels params).result.isOk ↔
          (publishFrame faults pixels params).frame = none) ↔
        (faults.loan = none → faults.send = none → faults.notify = none)) ∧
      ∀ {events : List (Event gst)} {finish : State gst},
        Run State.step unguarded .created events finish →
          (Throughout State.step .created State.Sound events ↔
            Run State.step State.Notified .created events finish) := by
  refine ⟨publishFrame_error_iff, fun run => ?_⟩
  refine Run.throughout_iff_guarded State.Sound ⟨by rintro _ ⟨⟩, rfl, rfl⟩ ?_ run
  intro _ _ _ _ _ sound taken
  exact State.sound_step_iff sound taken

/-- A render of a buffer of one pixel, whose notification may fail. -/
def pixelCall (notifies : Bool) : Call twoCapsGst where
  described := plainBuffer twoCapsGst
  registered := none
  awaits := true
  mapped := some [some 1, some 2, some 3, some 4]
  loan := .ok ()
  sends := true
  stopped := false
  notifies := notifies

theorem publishing_sound_iff_onePixel :
    Throughout State.step .created State.Sound
      [.start, .setCaps TwoCaps.onePixel, .render (pixelCall true)] := by
  have run : Run State.step unguarded .created
      [.start, .setCaps TwoCaps.onePixel, .render (pixelCall true)] _ :=
    execute_eq_some_iff.mp rfl
  refine (publishing_sound_iff.2 run).mpr (.cons ?_ rfl (.cons ?_ rfl (.cons ?_ rfl .nil)))
  · trivial
  · trivial
  · exact fun _ => .inl rfl

/-- A frame is sent and not notified: the call of the SDK and the render return errors,
the frames are on the ring, and the counter stays at zero. -/
theorem published_with_error :
    ((publishFrame ⟨none, none, some "no listener"⟩ [1, 2, 3] .default).frame.isSome ∧
      ¬ (publishFrame ⟨none, none, some "no listener"⟩ [1, 2, 3] .default).result.isOk) ∧
      ∃ finish : State twoCapsGst, Run State.step unguarded .created
          [.start, .setCaps TwoCaps.onePixel, .render (pixelCall false)] finish ∧
        finish.ring.length = 1 ∧ finish.counters.sent = 0 ∧ ¬ finish.Sound := by
  refine ⟨⟨rfl, nofun⟩, _, execute_eq_some_iff.mp rfl, rfl, rfl, fun sound => ?_⟩
  cases sound.ended ⟨true, false⟩ (.head _)

end GstIceoryx2.Element.Publishing
