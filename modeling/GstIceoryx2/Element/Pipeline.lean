import GstIceoryx2.Foundations.Simulation
import GstIceoryx2.Element.RoundTrip

/-!
# The sink, the ring and the source as a pipe

Seen from outside, the two elements are a pipe. Caps are negotiated at one end, and
buffers and the end of the stream go in; at the other end the same buffers come out,
in order, each under the caps that it was put in under, and the end of the stream
where it was announced. What does not go in is refused, and what is in the pipe may be
evicted by what follows it; nothing else is lost. That is the abstract system here
(`Pipe`).

The elements have none of this. The sink writes samples: a header, pixels and a blob
with the caps as text. Loans and sends fail, and a ring that overflows drops its oldest
samples. The source rebuilds a buffer from each sample it receives, and keeps the caps it
last chose; receiving fails too. Other processes may put samples of their own on the ring,
with anything in them, each on a connection of its own, and the source takes from the
connections in any order. Every run of the elements is nevertheless a run of the pipe
(`pipeline_refines_pipe`): renegotiation, the path of every render, samples of others
and the pace of the source make no difference to the sink's own buffers.

The source is connected all along, and downstream takes all caps.
-/

set_option autoImplicit false

namespace GstIceoryx2.Element

open Foundations Video

variable {gst : Gst}

/-- The metas that travel with a buffer: all of them, or as many as fit the reserve. -/
def RenderPath.metas (path : RenderPath) (caps : gst.Caps) (buffer : Buffer gst) :
    List (List UInt8) :=
  match path with
  | copy => Sink.serializedMetas buffer
  | zeroCopy reserve =>
      if Sink.capsRoom caps ≤ reserve.length then
        keptMetas (gst.capsToString caps) (Sink.serializedMetas buffer) (some reserve.length)
      else
        []

/-- The reserve is counted by a word. -/
def RenderPath.Short (path : RenderPath) : Prop :=
  match path with
  | copy => True
  | zeroCopy reserve => reserve.length < 2 ^ 32

/-- **What is behind the pixels is counted by a word, and the metas that travel are
parsed back from it.** -/
theorem parsed_auxRegion {path : RenderPath} {caps : gst.Caps} {buffer : Buffer gst}
    (named : gst.capsToString caps ≠ "") (blobShort : Sink.BlobShort caps buffer)
    (short : path.Short) :
    (path.auxRegion caps buffer).length < 2 ^ 32 ∧
      (Video.parseAux (path.auxRegion caps buffer)).metas = path.metas caps buffer := by
  cases path with
  | copy =>
      constructor
      · rw [RenderPath.auxRegion, Sink.auxBlob, length_buildAux, keptMetas_none]
        exact blobShort
      · rw [RenderPath.auxRegion, Sink.parseAux_auxBlob named blobShort]
        rfl
  | zeroCopy reserve =>
      constructor
      · rw [RenderPath.auxRegion, Sink.length_filledReserve]
        exact short
      · rw [RenderPath.auxRegion, Sink.filledReserve,
          Sink.parseAux_tailBlob named blobShort]
        simp only [RenderPath.metas]
        split_ifs
        · rfl
        · rfl

namespace Pipeline

/-! ## The elements -/

/-- A buffer that is rendered, with its pixels, and the path its render takes. -/
structure Rendering (gst : Gst) where
  path : RenderPath
  buffer : Buffer gst
  pixels : List UInt8

/-- What becomes of a sample: its loan or its send fails, or it is queued, and the oldest
ones of its connection may be evicted for it. -/
inductive Fate where
  | refused
  | queued (evicted : Nat)

/-- How many samples of its connection are evicted for a sample, at most. -/
def Fate.evicted : Fate → Nat
  | refused => 0
  | queued evicted => evicted

/-- What can happen: caps are negotiated, a buffer or the end of the stream reaches the
sink, another process sends a sample, or the source takes one from a connection, which is
the sink's or that of another process, or fails to. -/
inductive Event (gst : Gst) (Process : Type) where
  | setCaps (caps : gst.Caps)
  | render (rendering : Rendering gst) (fate : Fate)
  | eos (fate : Fate)
  | foreign (process : Process) (frame : VideoFrame) (evicted : Nat)
  | create (connection : Option Process)
  | createFails

/-- How many samples an event evicts, at most. -/
def Event.evicted {Process : Type} : Event gst Process → Nat
  | .render _ fate => fate.evicted
  | .eos fate => fate.evicted
  | .foreign _ _ evicted => evicted
  | _ => 0

/-- How `create` ended, and the caps in force then. -/
structure Output (gst : Gst) where
  outcome : Source.Outcome gst
  inForce : Option gst.Caps

/-- The sink, the samples on the connections, the source, and what it made of the samples
it took. -/
structure State (gst : Gst) (Process : Type) where
  sink : Sink.State gst
  ring : List (Option Process × VideoFrame)
  source : Source.State gst
  outputs : List (Option Process × Output gst)

variable {Process : Type}

namespace State

/-- Before any caps. -/
def started (gst : Gst) (Process : Type) : State gst Process where
  sink := .started gst
  ring := []
  source := .started gst
  outputs := []

/-- The sentinel, if there is a publisher. It is created with the first caps. -/
def publishEos (state : State gst Process) : Option VideoFrame :=
  state.sink.caps.map fun _ => Sink.eosFrame

variable [DecidableEq Process]

/-- What the sink made, if anything, is sent on its connection. -/
def enqueue (state : State gst Process) (made : Option VideoFrame) (fate : Fate) :
    State gst Process :=
  match made, fate with
  | some frame, .queued evicted => { state with ring := push none evicted frame state.ring }
  | _, _ => state

/-- The elements take a step. Downstream takes all caps. -/
def step (state : State gst Process) : Event gst Process → Option (State gst Process)
  | .setCaps caps =>
      match Sink.setCaps state.sink caps with
      | .ok sink => some { state with sink := sink }
      | .error () => some state
  | .render rendering fate =>
      some (state.enqueue (Sink.sentFrame state.sink rendering.buffer
        (rendering.path.registered rendering.pixels) (rendering.pixels.map some)) fate)
  | .eos fate => some (state.enqueue state.publishEos fate)
  | .foreign process frame evicted =>
      some { state with ring := push (some process) evicted frame state.ring }
  | .create connection =>
      match lane connection state.ring with
      | [] => none
      | frame :: _ =>
          let taken := Source.takeSample (fun _ => true) state.source frame
          some { state with
            ring := pop connection state.ring
            source := taken.1
            outputs := state.outputs ++ [(connection, ⟨taken.2, taken.1.inForce⟩)] }
  | .createFails => some state

end State

/-! ## The pipe -/

/-- What goes through the pipe. -/
inductive Message (gst : Gst) where
  | frame (caps : gst.Caps) (rendering : Rendering gst)
  | eos
  | foreign

/-- The caps that are negotiated, what went into the pipe, what is in it, and what came
out. -/
structure Pipe (gst : Gst) (Process : Type) where
  negotiated : Option gst.Caps
  entered : List (Option Process × Message gst)
  queue : List (Option Process × Message gst)
  output : List (Option Process × Message gst)

namespace Pipe

/-- An empty pipe. -/
def started (gst : Gst) (Process : Type) : Pipe gst Process where
  negotiated := none
  entered := []
  queue := []
  output := []

variable [DecidableEq Process]

/-- A message goes in, and the oldest ones of its connection may be evicted. -/
def put (pipe : Pipe gst Process) (connection : Option Process) (message : Message gst)
    (evicted : Nat) : Pipe gst Process :=
  { pipe with
    entered := pipe.entered ++ [(connection, message)]
    queue := push connection evicted message pipe.queue }

/-- A message of the sink goes in, once there are caps, unless it is refused. -/
def offer (pipe : Pipe gst Process) (message : gst.Caps → Message gst) (fate : Fate) :
    Pipe gst Process :=
  match pipe.negotiated, fate with
  | some caps, .queued evicted => pipe.put none (message caps) evicted
  | _, _ => pipe

/-- The pipe takes a step. Caps without a layout are not negotiated. -/
def step (pipe : Pipe gst Process) : Event gst Process → Option (Pipe gst Process)
  | .setCaps caps =>
      match gst.videoInfo caps with
      | some _ => some { pipe with negotiated := some caps }
      | none => some pipe
  | .render rendering fate => some (pipe.offer (fun caps => .frame caps rendering) fate)
  | .eos fate => some (pipe.offer (fun _ => .eos) fate)
  | .foreign process _ evicted => some (pipe.put (some process) .foreign evicted)
  | .create connection =>
      match lane connection pipe.queue with
      | [] => none
      | message :: _ => some { pipe with
          queue := pop connection pipe.queue
          output := pipe.output ++ [(connection, message)] }
  | .createFails => some pipe

/-! ## What the pipe passes on -/

section Passes

variable {pipe next : Pipe gst Process} {event : Event gst Process}

/-- What came out on a connection, and what is still to come. -/
def passed (pipe : Pipe gst Process) (connection : Option Process) : List (Message gst) :=
  lane connection pipe.output ++ lane connection pipe.queue

/-- What a step does on a connection: some of what is in the pipe is evicted from the
front, and what goes in is behind it. -/
def Moves (pipe next : Pipe gst Process) (connection : Option Process) (evicted : Nat) : Prop :=
  ∃ gone new, gone ≤ evicted ∧ lane connection next.entered = lane connection pipe.entered ++ new ∧
    next.passed connection =
      lane connection pipe.output ++ (lane connection pipe.queue).drop gone ++ new

theorem moves_refl (pipe : Pipe gst Process) (connection : Option Process) (evicted : Nat) :
    pipe.Moves pipe connection evicted := by
  refine ⟨0, [], Nat.zero_le _, (List.append_nil _).symm, ?_⟩
  rw [List.drop_zero, List.append_nil, passed]

theorem moves_put (pipe : Pipe gst Process) (own : Option Process) (message : Message gst)
    (evicted : Nat) (connection : Option Process) :
    pipe.Moves (pipe.put own message evicted) connection evicted := by
  by_cases same : connection = own
  · subst same
    refine ⟨evicted, [message], Nat.le_refl _, ?_, ?_⟩
    · rw [put, lane_append, lane_cons_self, lane_nil]
    · rw [put, passed, lane_push_self, List.append_assoc]
  · refine ⟨0, [], Nat.zero_le _, ?_, ?_⟩
    · rw [put, lane_append, lane_cons_of_ne (Ne.symm same), lane_nil]
    · rw [put, passed, lane_push_of_ne same, List.drop_zero, List.append_nil]

theorem moves_offer (pipe : Pipe gst Process) (message : gst.Caps → Message gst) (fate : Fate)
    (connection : Option Process) :
    pipe.Moves (pipe.offer message fate) connection fate.evicted := by
  unfold offer
  split
  · exact pipe.moves_put _ _ _ connection
  · exact pipe.moves_refl connection _

/-- **A step evicts from the front of a connection, and takes from there.** -/
theorem moves_step (taken : pipe.step event = some next) (connection : Option Process) :
    pipe.Moves next connection event.evicted := by
  cases event with
  | setCaps caps =>
      simp only [step] at taken
      split at taken
      · cases taken
        exact pipe.moves_refl connection _
      · cases taken
        exact pipe.moves_refl connection _
  | render rendering fate =>
      cases taken
      exact pipe.moves_offer _ fate connection
  | eos fate =>
      cases taken
      exact pipe.moves_offer _ fate connection
  | foreign process frame evicted =>
      cases taken
      exact pipe.moves_put _ _ _ connection
  | create own =>
      simp only [step] at taken
      split at taken
      · cases taken
      · rename_i message rest queued
        cases taken
        refine ⟨0, [], Nat.zero_le _, (List.append_nil _).symm, ?_⟩
        rw [List.drop_zero, List.append_nil, passed, lane_append]
        by_cases same : connection = own
        · subst same
          rw [lane_cons_self, lane_nil, lane_pop_self, queued, List.tail_cons, List.append_assoc,
            List.singleton_append]
        · rw [lane_cons_of_ne (Ne.symm same), lane_nil, lane_pop_of_ne same, List.append_nil]
  | createFails =>
      cases taken
      exact pipe.moves_refl connection _

/-- **A pipe passes on what went in, in the order of each connection**, less what was
evicted. -/
theorem passes {events : List (Event gst Process)}
    (run : Run step unguarded (started gst Process) events pipe) (connection : Option Process) :
    (pipe.passed connection).Sublist (lane connection pipe.entered) ∧
      ((∀ event ∈ events, event.evicted = 0) →
        pipe.passed connection = lane connection pipe.entered) := by
  induction run with
  | nil => exact ⟨.refl _, fun _ => rfl⟩
  | @snoc before after events event _ _ taken ih =>
      obtain ⟨gone, new, bound, entered, passed⟩ := moves_step taken connection
      rw [entered, passed]
      constructor
      · refine List.Sublist.append_right (.trans ?_ ih.1) _
        exact List.Sublist.append_left (List.drop_sublist _ _) _
      · intro none
        have kept : gone = 0 := by
          have here := none event (List.mem_append_right _ (.head _))
          omega
        rw [kept, List.drop_zero, ← ih.2 fun other member =>
          none other (List.mem_append_left _ member)]
        rfl

end Passes

end Pipe

/-! ## How they correspond -/

/-- Caps with the default layout of a supported format, and a text. -/
def Standard (caps : gst.Caps) (format : String) (width height : UInt32) : Prop :=
  DefaultCaps gst caps format width height ∧ gst.capsToString caps ≠ ""

/-- The buffer has the pixels of the layout, and its aux region is counted by a word. -/
structure Rendering.Fits (rendering : Rendering gst) (caps : gst.Caps) (size : Nat) : Prop where
  sized : rendering.pixels.length = size
  blobShort : Sink.BlobShort caps rendering.buffer
  reserveShort : rendering.path.Short

/-- A sample on the ring stands for a message. -/
inductive Carries : VideoFrame → Message gst → Prop where
  | frame {caps : gst.Caps} {format : String} {width height : UInt32} {rendering : Rendering gst}
      (standard : Standard caps format width height)
      (fits : rendering.Fits caps (defaultLayout format width height).size) :
      Carries (Sink.defaultFrame format width height rendering.buffer rendering.pixels
        (rendering.path.auxRegion caps rendering.buffer)) (.frame caps rendering)
  | eos : Carries Sink.eosFrame .eos
  | foreign (frame : VideoFrame) : Carries frame .foreign

/-- What the source made of a sample is what should come out for the message: the buffer
restored, with the metas that travelled and that can be attached, under its own caps if
they travelled. -/
inductive Delivers : Output gst → Message gst → Prop where
  | frame {caps : gst.Caps} {format : String} {width height : UInt32} {rendering : Rendering gst}
      {delivered : Source.Delivered gst} {inForce : gst.Caps}
      (standard : Standard caps format width height)
      (restores : Source.Restores format width height rendering.buffer rendering.pixels delivered)
      (metas : delivered.metas =
        (rendering.path.metas caps rendering.buffer).filter gst.deserializesMeta)
      (own : rendering.path.Carries caps → inForce = caps) :
      Delivers ⟨.delivered delivered, some inForce⟩ (.frame caps rendering)
  | eos (inForce : Option gst.Caps) : Delivers ⟨.eos, inForce⟩ .eos
  | foreign (output : Output gst) : Delivers output .foreign

/-- What the sink remembers of the negotiated caps. -/
inductive Remembers : Sink.State gst → Option gst.Caps → Prop where
  | none : Remembers (.started gst) none
  | some {caps : gst.Caps} {format : String} {width height : UInt32}
      (standard : Standard caps format width height) :
      Remembers ⟨some (Sink.capsInfo (defaultLayout format width height)), some caps⟩ (some caps)

/-- The elements are in a state that stands for the pipe's. -/
structure Related (state : State gst Process) (pipe : Pipe gst Process) : Prop where
  remembers : Remembers state.sink pipe.negotiated
  carries : List.Forall₂ (Alongside Carries) state.ring pipe.queue
  earlier : ∃ frames, state.source = Source.afterSamples (fun _ => true) frames
  delivers : List.Forall₂ (Alongside Delivers) state.outputs pipe.output

/-- Caps that have a layout have a default one, and a buffer fits the caps it is rendered
under. -/
def Fits (state : State gst Process) : Event gst Process → Prop
  | .setCaps caps => ∀ info, gst.videoInfo caps = some info →
      ∃ format width height, Standard caps format width height
  | .render rendering _ => ∀ info caps, state.sink.caps = some info →
      state.sink.capsFull = some caps → rendering.Fits caps info.size
  | _ => True

/-! ## One sample -/

theorem isEos_eosFrame : Sink.eosFrame.isEos = true := by decide

/-- **A sample of the sink is delivered as its message says**, after any earlier samples. -/
theorem delivers_takeSample (documented : gst.Documented) {source : Source.State gst}
    (earlier : ∃ frames, source = Source.afterSamples (fun _ => true) frames)
    {frame : VideoFrame} {message : Message gst} (carries : Carries frame message) :
    Delivers ⟨(Source.takeSample (fun _ => true) source frame).2,
      (Source.takeSample (fun _ => true) source frame).1.inForce⟩ message := by
  obtain ⟨frames, rfl⟩ := earlier
  have settled := Source.inForce_afterSamples (fun caps : gst.Caps => rfl) frames
  cases carries with
  | eos =>
      rw [Source.takeSample_of_sentinel _ _ isEos_eosFrame]
      exact .eos _
  | foreign frame => exact .foreign _
  | @frame caps format width height rendering standard fits =>
      obtain ⟨default, named⟩ := standard
      obtain ⟨short, metas⟩ := parsed_auxRegion named fits.blobShort fits.reserveShort
      have live := Sink.frameWithAux_isEos (Sink.capsInfo (defaultLayout format width height))
        rendering.buffer rendering.pixels (rendering.path.auxRegion caps rendering.buffer)
      obtain ⟨split, aux⟩ := Sink.frameWithAux_split
        (Sink.capsInfo (defaultLayout format width height)) rendering.buffer rendering.pixels short
      have accepted := Sink.accepted_defaultFrame default.supported default.someRow default.small
        rendering.buffer rendering.pixels (rendering.path.auxRegion caps rendering.buffer)
      rw [← fits.sized, ← split, VideoFrame.length_pixels] at accepted
      obtain ⟨travelled, chosen, some⟩ := Source.chosenCaps_defaultFrame rendering.buffer documented
        default rendering.pixels short
      have restores := Source.restores_deliveredBuffer rendering.buffer documented default
        fits.sized short
      have attached : (Source.deliveredBuffer gst (Sink.defaultFrame format width height
          rendering.buffer rendering.pixels
          (rendering.path.auxRegion caps rendering.buffer))).metas =
          (rendering.path.metas caps rendering.buffer).filter gst.deserializesMeta := by
        refine congrArg (List.filter gst.deserializesMeta) ?_
        rw [Source.auxOf_eq, Source.parseAux, aux, metas]
      have own : rendering.path.Carries caps → chosen = caps := fun carries =>
        Option.some.inj (some.symm.trans (travelled carries))
      rw [Source.takeSample_of_accepted _ _ live accepted some]
      by_cases remembered :
          (Source.afterSamples (fun _ => true) frames).lastCaps = Option.some chosen
      · rw [if_pos remembered]
        dsimp only
        rw [settled, remembered]
        exact .frame ⟨default, named⟩ restores attached own
      · rw [if_neg remembered, if_pos rfl]
        exact .frame ⟨default, named⟩ restores attached own

/-! ## One step -/

section Steps

variable {state next : State gst Process} {pipe : Pipe gst Process}

theorem related_started : Related (.started gst Process) (.started gst Process) where
  remembers := .none
  carries := .nil
  earlier := ⟨[], rfl⟩
  delivers := .nil

variable [DecidableEq Process]

/-- Negotiation is matched. -/
theorem related_setCaps (related : Related state pipe) {caps : gst.Caps}
    (fits : Fits state (.setCaps caps)) (taken : state.step (.setCaps caps) = some next) :
    ∃ shadow, pipe.step (.setCaps caps) = some shadow ∧ Related next shadow := by
  cases laidOut : gst.videoInfo caps with
  | none =>
      simp only [State.step, Sink.setCaps, laidOut] at taken
      cases taken
      refine ⟨pipe, ?_, related⟩
      simp only [Pipe.step, laidOut]
  | some info =>
      simp only [State.step, Sink.setCaps, laidOut] at taken
      cases taken
      obtain ⟨format, width, height, standard⟩ := fits info laidOut
      have same : info = defaultLayout format width height :=
        Option.some.inj (laidOut.symm.trans standard.1.laidOut)
      subst same
      refine ⟨{ pipe with negotiated := some caps }, ?_, .some standard, related.carries,
        related.earlier, related.delivers⟩
      simp only [Pipe.step, laidOut]

/-- What the sink sends is matched, when it carries the message. -/
theorem related_enqueue (related : Related state pipe) {made : Option VideoFrame}
    {message : gst.Caps → Message gst}
    (unmade : pipe.negotiated = none → made = none)
    (carries : ∀ caps, pipe.negotiated = some caps →
      ∃ frame, made = some frame ∧ Carries frame (message caps)) (fate : Fate) :
    Related (state.enqueue made fate) (pipe.offer message fate) := by
  cases negotiated : pipe.negotiated with
  | none =>
      simp only [unmade negotiated, State.enqueue, Pipe.offer, negotiated]
      exact related
  | some caps =>
      obtain ⟨frame, rfl, carried⟩ := carries caps negotiated
      cases fate with
      | refused =>
          simp only [State.enqueue, Pipe.offer, negotiated]
          exact related
      | queued evicted =>
          have remembers := related.remembers
          rw [negotiated] at remembers
          simp only [State.enqueue, Pipe.offer, negotiated, Pipe.put]
          exact ⟨remembers, forall₂_push none evicted related.carries carried,
            related.earlier, related.delivers⟩

/-- A render is matched, by either path. -/
theorem related_render (related : Related state pipe) {rendering : Rendering gst} {fate : Fate}
    (fits : Fits state (.render rendering fate)) :
    Related (state.enqueue (Sink.sentFrame state.sink rendering.buffer
        (rendering.path.registered rendering.pixels) (rendering.pixels.map some)) fate)
      (pipe.offer (fun caps => .frame caps rendering) fate) := by
  have remembers := related.remembers
  generalize sink : state.sink = remembered at remembers
  generalize negotiated : pipe.negotiated = caps at remembers
  cases remembers with
  | none =>
      refine related_enqueue related (fun _ => rfl) ?_ fate
      intro caps some
      cases negotiated.symm.trans some
  | @some caps format width height standard =>
      have fitting := fits (Sink.capsInfo (defaultLayout format width height)) caps
        (congrArg Sink.State.caps sink) (congrArg Sink.State.capsFull sink)
      have sent := Sink.sentFrame_of_path (Sink.capsInfo (defaultLayout format width height)) caps
        rendering.path rendering.buffer fun _ => fitting.sized
      refine related_enqueue related ?_ ?_ fate
      · intro none
        cases negotiated.symm.trans none
      · intro other some
        obtain rfl := Option.some.inj (negotiated.symm.trans some)
        exact ⟨_, sent, .frame standard fitting⟩

/-- The end of the stream is matched. -/
theorem related_eos (related : Related state pipe) (fate : Fate) :
    Related (state.enqueue state.publishEos fate) (pipe.offer (fun _ => .eos) fate) := by
  have remembers := related.remembers
  rw [State.publishEos]
  generalize state.sink = remembered at remembers ⊢
  generalize negotiated : pipe.negotiated = caps at remembers
  cases remembers with
  | none =>
      refine related_enqueue related (fun _ => rfl) ?_ fate
      intro caps some
      cases negotiated.symm.trans some
  | some standard =>
      refine related_enqueue related ?_ ?_ fate
      · intro none
        cases negotiated.symm.trans none
      · intro _ _
        exact ⟨_, rfl, .eos⟩

/-- A sample that the source takes is matched by the message of its connection. -/
theorem related_create (documented : gst.Documented) (related : Related state pipe)
    {connection : Option Process} (taken : state.step (.create connection) = some next) :
    ∃ shadow, pipe.step (.create connection) = some shadow ∧ Related next shadow := by
  have lanes := forall₂_lane connection related.carries
  simp only [State.step] at taken
  split at taken
  · cases taken
  · rename_i frame rest queued
    rw [queued] at lanes
    cases taken
    obtain ⟨message, queue, carries, -, message_queued⟩ := List.forall₂_cons_left_iff.mp lanes
    obtain ⟨frames, same⟩ := related.earlier
    refine ⟨{ pipe with
      queue := pop connection pipe.queue
      output := pipe.output ++ [(connection, message)] }, ?_, related.remembers,
        forall₂_pop connection related.carries, ⟨frames ++ [frame], ?_⟩, ?_⟩
    · simp only [Pipe.step, message_queued]
    · simp only [Source.afterSamples, List.foldl_append, List.foldl_cons,
        List.foldl_nil] at same ⊢
      rw [← same]
    · exact forall₂_concat related.delivers
        ⟨rfl, delivers_takeSample documented ⟨frames, same⟩ carries⟩

/-- **Every step of the elements is a step of the pipe.** -/
theorem related_step (documented : gst.Documented) (related : Related state pipe)
    {event : Event gst Process} (fits : Fits state event) (taken : state.step event = some next) :
    ∃ shadow, pipe.step event = some shadow ∧ Related next shadow := by
  cases event with
  | setCaps caps => exact related_setCaps related fits taken
  | render rendering fate =>
      cases taken
      exact ⟨_, rfl, related_render related fits⟩
  | eos fate =>
      cases taken
      exact ⟨_, rfl, related_eos related fate⟩
  | foreign process frame evicted =>
      cases taken
      refine ⟨_, rfl, related.remembers, ?_, related.earlier, related.delivers⟩
      exact forall₂_push _ evicted related.carries (.foreign frame)
  | create connection => exact related_create documented related taken
  | createFails =>
      cases taken
      exact ⟨pipe, rfl, related⟩

end Steps

/-! ## Whole runs -/

/-- **The elements are a pipe.** In every run in which caps with a layout have a default
one and buffers fit the caps they are rendered under, the sink, the ring and the source
pass on what a pipe passes on in the same run: each buffer that comes out is restored, with
the metas that travelled and under its own caps if they did, and the end of the stream comes
out as such, whatever fails and whatever samples other processes send in between. On every
connection what comes out and what is queued is what went in, in order, less what was
evicted; and nothing less when nothing was. -/
theorem pipeline_refines_pipe [DecidableEq Process] (documented : gst.Documented)
    {events : List (Event gst Process)} {finish : State gst Process}
    (run : Run State.step Fits (.started gst Process) events finish) :
    ∃ pipe, Run Pipe.step unguarded (.started gst Process) events pipe ∧
      List.Forall₂ (Alongside Delivers) finish.outputs pipe.output ∧
      List.Forall₂ (Alongside Carries) finish.ring pipe.queue ∧
      ∀ connection, (pipe.passed connection).Sublist (lane connection pipe.entered) ∧
        ((∀ event ∈ events, event.evicted = 0) →
          pipe.passed connection = lane connection pipe.entered) := by
  obtain ⟨pipe, shadowed, related⟩ := run.simulated Related related_started
    fun _ _ _ _ related fits taken => related_step documented related fits taken
  exact ⟨pipe, shadowed, related.delivers, related.carries, Pipe.passes shadowed⟩

/-- One pixel. -/
def onePixel : Rendering twoCapsGst where
  path := .copy
  buffer := plainBuffer twoCapsGst
  pixels := [1, 2, 3, 4]

/-- A frame of one pixel is evicted by the next one, which the end of the stream follows. A
sample of another process is received first. -/
def oneFrame : List (Event twoCapsGst Nat) :=
  [.setCaps TwoCaps.onePixel, .render onePixel (.queued 0), .render onePixel (.queued 1),
    .render onePixel .refused, .eos (.queued 0), .foreign 7 ⟨VideoFrameHeader.zeroed, [9]⟩ 0,
    .create (some 7), .createFails, .create none, .create none]

theorem pipeline_refines_pipe_oneFrame :
    ∃ (finish : State twoCapsGst Nat) (pipe : Pipe twoCapsGst Nat),
      Run Pipe.step unguarded (.started twoCapsGst Nat) oneFrame pipe ∧
      pipe.output =
        [(some 7, .foreign), (none, .frame TwoCaps.onePixel onePixel), (none, .eos)] ∧
      List.Forall₂ (Alongside Delivers) finish.outputs pipe.output := by
  have standard : ∀ caps : twoCapsGst.Caps, caps = TwoCaps.onePixel → Standard caps "BGR" 1 1 := by
    rintro _ rfl
    exact ⟨Source.onePixel_defaultCaps, by decide⟩
  have fitting : onePixel.Fits TwoCaps.onePixel 4 :=
    ⟨rfl, by unfold Sink.BlobShort; decide, trivial⟩
  have fits : ∀ {state : State twoCapsGst Nat} {fate : Fate},
      state.sink = ⟨some (Sink.capsInfo TwoCaps.onePixel.info), some TwoCaps.onePixel⟩ →
        Fits state (.render onePixel fate) := by
    intro state fate sink info caps known full
    rw [sink] at known full
    cases known
    cases full
    exact fitting
  have run : ∃ finish, Run State.step Fits (.started twoCapsGst Nat) oneFrame finish := by
    refine ⟨_, .cons ?_ rfl (.cons (fits rfl) rfl (.cons (fits rfl) rfl (.cons (fits rfl) rfl
      (.cons trivial rfl (.cons trivial rfl (.cons trivial rfl (.cons trivial rfl
        (.cons trivial rfl (.cons trivial rfl .nil)))))))))⟩
    intro _ _
    exact ⟨"BGR", 1, 1, standard _ rfl⟩
  obtain ⟨finish, run⟩ := run
  obtain ⟨pipe, shadowed, delivers, -⟩ := pipeline_refines_pipe twoCapsGst_documented run
  have output : Run Pipe.step unguarded (.started twoCapsGst Nat) oneFrame _ :=
    execute_eq_some_iff.mp rfl
  obtain rfl := output.unique shadowed
  exact ⟨finish, _, shadowed, rfl, delivers⟩

end Pipeline

end GstIceoryx2.Element
