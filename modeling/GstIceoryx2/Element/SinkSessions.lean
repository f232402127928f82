import GstIceoryx2.Foundations.Runs
import GstIceoryx2.Element.Publishing

/-!
# Sessions of the sink

A sink is started and stopped, and caps are negotiated in between. What it keeps of a
session is written in one place: the first caps create the publisher, and every
negotiation overwrites the caps, with and without their layout, and the length of the
longest slice. Rendering, proposing a pool and announcing the end of the stream
read these fields one by one, and each has a branch for a field that is missing.

In every state the fields are those of the negotiations of the session
(`session_negotiated`): the publisher is for the first, the caps are of the last, and the
longest slice is over all. So they are all there or all missing, a render never lacks a
publisher when it has caps, and the end of the stream is announced in a started
element exactly when some caps were negotiated.
-/

set_option autoImplicit false

namespace GstIceoryx2.Element.Sink.Lifecycle

open Foundations Video

variable {gst : Gst}

/-! ## The state -/

/-- The settings that `set_caps` and `propose_allocation` read. -/
structure Settings where
  maxBytes : UInt32
  auxBytes : UInt32
  lossless : Bool

/-- A publisher, by the length of the slices that it was created for. -/
structure Publisher where
  initialMaxSliceLen : Nat

/-- What a started element keeps. -/
structure Live (gst : Gst) where
  publisher : Option Publisher
  maxSliceLen : Nat
  caps : Option CapsInfo
  capsFull : Option gst.Caps

/-- A negotiation that went through, with the settings at the time. -/
structure Negotiation (gst : Gst) where
  caps : gst.Caps
  info : VideoInfo
  settings : Settings

/-- The element, and the negotiations since its last start. -/
structure State (gst : Gst) where
  settings : Settings
  live : Option (Live gst)
  session : List (Negotiation gst)

/-- What can happen. The publisher is `created` or not, when it has to be. -/
inductive Event (gst : Gst) where
  | setProperty (settings : Settings)
  | start (opened : Bool)
  | stop
  | setCaps (caps : gst.Caps) (created : Bool)

/-! ## The operations -/

/-- The length of the slices for caps: what a loan of a pool takes, or more if so
configured. -/
def needed (size : Nat) (settings : Settings) : Nat :=
  max (max (size + settings.auxBytes.toNat) settings.maxBytes.toNat) 1

/-- The publisher, which is created when there is none yet. -/
def ensurePublisher (publisher : Option Publisher) (needed : Nat) (created : Bool) :
    Option Publisher :=
  match publisher with
  | some publisher => some publisher
  | none => if created then some ⟨needed⟩ else none

namespace State

/-- Before the first start. -/
def constructed (gst : Gst) (settings : Settings) : State gst where
  settings := settings
  live := none
  session := []

/-- `start`. When the service does not open, nothing is written. -/
def start (state : State gst) (opened : Bool) : State gst :=
  if opened then
    { state with
      live := some ⟨none, 0, none, none⟩
      session := [] }
  else
    state

/-- `set_caps`. It fails for caps without a layout, before a start, and when a publisher is not
created. -/
def setCaps (state : State gst) (caps : gst.Caps) (created : Bool) : Except Unit (State gst) :=
  match gst.videoInfo caps with
  | none => .error ()
  | some info =>
      match state.live with
      | none => .error ()
      | some live =>
          let needed := needed info.size state.settings
          match ensurePublisher live.publisher needed created with
          | none => .error ()
          | some publisher => .ok { state with
              live := some {
                publisher := some publisher
                maxSliceLen := max needed live.maxSliceLen
                caps := some (capsInfo info)
                capsFull := some caps }
              session := state.session ++ [⟨caps, info, state.settings⟩] }

/-- The element takes a step. A negotiation that fails changes nothing. -/
def step (state : State gst) : Event gst → Option (State gst)
  | .setProperty settings => some { state with settings := settings }
  | .start opened => some (state.start opened)
  | .stop => some { state with live := none, session := [] }
  | .setCaps caps created =>
      match state.setCaps caps created with
      | .ok next => some next
      | .error () => some state

/-! ## What reads the fields -/

/-- What a copy is rendered with: the caps, and then the publisher. -/
def copyPublisher (state : State gst) : Except Publishing.FlowError Publisher :=
  match state.live with
  | none => .error .error
  | some live =>
      match live.caps with
      | none => .error .notNegotiated
      | some _ =>
          match live.publisher with
          | none => .error .error
          | some publisher => .ok publisher

/-- The publisher for the sentinel, if one is sent. -/
def eosPublisher (state : State gst) : Option Publisher :=
  state.live.bind Live.publisher

/-- A pool that is proposed: what it loans, and the size in its configuration. -/
structure Proposal where
  publisher : Publisher
  size : Nat
  auxReserve : Nat
  lossless : Bool
  configured : UInt32

/-- `propose_allocation`. -/
def proposeAllocation (state : State gst) : Option Proposal :=
  match state.live with
  | none => none
  | some live =>
      match live.publisher, live.caps with
      | some publisher, some caps =>
          some ⟨publisher, caps.size, state.settings.auxBytes.toNat, state.settings.lossless,
            UInt32.ofNat caps.size⟩
      | _, _ => none

end State

/-! ## What a session leaves -/

/-- The length of the slices for a negotiation. -/
def Negotiation.needed (negotiation : Negotiation gst) : Nat :=
  Lifecycle.needed negotiation.info.size negotiation.settings

/-- What the negotiations of a session leave. -/
def leaves (session : List (Negotiation gst)) : Live gst where
  publisher := session.head?.map fun first => ⟨first.needed⟩
  maxSliceLen := (session.map Negotiation.needed).foldr max 0
  caps := session.getLast?.map fun last => capsInfo last.info
  capsFull := session.getLast?.map Negotiation.caps

/-- The caps of every negotiation have their layout, and a started element keeps what its
session leaves. -/
structure Coherent (state : State gst) : Prop where
  laidOut : ∀ negotiation ∈ state.session, gst.videoInfo negotiation.caps = some negotiation.info
  live : ∀ live, state.live = some live → live = leaves state.session

theorem foldr_max_concat (lengths : List Nat) (length : Nat) :
    (lengths ++ [length]).foldr max 0 = max length (lengths.foldr max 0) := by
  induction lengths with
  | nil => rfl
  | cons first lengths ih =>
      rw [List.cons_append, List.foldr_cons, ih, List.foldr_cons, Nat.max_left_comm]

/-- One more negotiation creates the publisher if it is the first. -/
theorem leaves_concat (session : List (Negotiation gst)) (negotiation : Negotiation gst)
    {created : Bool} {publisher : Publisher}
    (ensured : ensurePublisher (leaves session).publisher negotiation.needed created =
      some publisher) :
    leaves (session ++ [negotiation]) =
      { publisher := some publisher
        maxSliceLen := max negotiation.needed (leaves session).maxSliceLen
        caps := some (capsInfo negotiation.info)
        capsFull := some negotiation.caps } := by
  have first : (leaves (session ++ [negotiation])).publisher = some publisher := by
    cases session with
    | nil =>
        simp only [leaves, List.head?_nil, Option.map_none, ensurePublisher] at ensured
        split_ifs at ensured
        exact ensured
    | cons first session => exact ensured
  have last : (session ++ [negotiation]).getLast? = some negotiation := List.getLast?_concat
  have longest : (leaves (session ++ [negotiation])).maxSliceLen =
      max negotiation.needed (leaves session).maxSliceLen := by
    simp only [leaves, List.map_append, List.map_cons, List.map_nil]
    exact foldr_max_concat _ _
  rw [← first, ← longest]
  simp only [leaves, last, Option.map_some]

variable {state next : State gst}

theorem Coherent.setCaps (coherent : Coherent state) {caps : gst.Caps} {created : Bool}
    (negotiated : state.setCaps caps created = .ok next) : Coherent next := by
  simp only [State.setCaps] at negotiated
  split at negotiated
  · cases negotiated
  · rename_i info laidOut
    split at negotiated
    · cases negotiated
    · rename_i live started
      split at negotiated
      · cases negotiated
      · rename_i publisher ensured
        cases negotiated
        obtain rfl := coherent.live live started
        constructor
        · intro negotiation member
          rcases List.mem_append.mp member with earlier | new
          · exact coherent.laidOut negotiation earlier
          · rw [List.mem_singleton.mp new]
            exact laidOut
        · rintro _ ⟨⟩
          exact (leaves_concat state.session ⟨caps, info, state.settings⟩ ensured).symm

theorem Coherent.step (coherent : Coherent state) {event : Event gst}
    (taken : state.step event = some next) : Coherent next := by
  cases event with
  | setProperty settings =>
      cases taken
      exact ⟨coherent.laidOut, coherent.live⟩
  | start opened =>
      cases taken
      cases opened with
      | false => exact coherent
      | true =>
          refine ⟨nofun, ?_⟩
          rintro _ ⟨⟩
          rfl
  | stop =>
      cases taken
      exact ⟨nofun, nofun⟩
  | setCaps caps created =>
      simp only [State.step] at taken
      split at taken
      · rename_i negotiated
        cases taken
        exact coherent.setCaps negotiated
      · cases taken
        exact coherent

/-! ## Runs -/

/-- **A started element keeps what its session leaves.** After any starts, stops, changes of
the settings and negotiations: the publisher was created for the first negotiation
of the session, the caps are those of the last, with their layout, and the longest slice is
over all. A render has a publisher once there are caps, and is not negotiated before; a
pool is proposed for the caps of the last negotiation, and never before one; and the
end of the stream is announced exactly behind one. -/
theorem session_negotiated {settings : Settings} {events : List (Event gst)} {finish : State gst}
    (run : Run State.step unguarded (.constructed gst settings) events finish) :
    (∀ negotiation ∈ finish.session, gst.videoInfo negotiation.caps = some negotiation.info) ∧
      ∀ live, finish.live = some live →
        live = leaves finish.session ∧
          finish.copyPublisher =
            (match finish.session.head? with
            | none => .error .notNegotiated
            | some first => .ok ⟨first.needed⟩) ∧
          finish.eosPublisher = finish.session.head?.map (fun first => ⟨first.needed⟩) ∧
          finish.proposeAllocation.map State.Proposal.size =
            finish.session.getLast?.map (fun last => last.info.size) := by
  have coherent : Coherent finish := by
    apply run.invariant Coherent
    · exact ⟨nofun, nofun⟩
    · intro _ _ _ before _ taken
      exact before.step taken
  refine ⟨coherent.laidOut, fun live started => ?_⟩
  obtain rfl := coherent.live live started
  refine ⟨rfl, ?_⟩
  rw [State.copyPublisher, State.eosPublisher, State.proposeAllocation, started]
  cases finish.session with
  | nil => exact ⟨rfl, rfl, rfl⟩
  | cons first rest =>
      obtain ⟨last, latest⟩ := Option.ne_none_iff_exists'.mp
        (List.getLast?_eq_none_iff.not.mpr (List.cons_ne_nil first rest))
      simp only [leaves, latest, List.head?_cons, Option.map_some, Option.bind_some, true_and]
      rfl

/-- Caps are negotiated, refused, and negotiated again, in the second session. -/
def renegotiated : List (Event twoCapsGst) :=
  [.start true, .setCaps .highDefinition true, .stop, .start true, .setCaps .onePixel false,
    .setCaps .onePixel true, .setProperty ⟨0, 8, false⟩, .setCaps .highDefinition false]

theorem session_negotiated_renegotiated :
    ∃ finish, Run State.step unguarded (.constructed twoCapsGst ⟨0, 4096, false⟩) renegotiated
        finish ∧
      finish.session.map Negotiation.caps = [TwoCaps.onePixel, TwoCaps.highDefinition] ∧
      finish.eosPublisher = some ⟨4100⟩ := by
  have run : Run State.step unguarded (.constructed twoCapsGst ⟨0, 4096, false⟩) renegotiated _ :=
    execute_eq_some_iff.mp rfl
  obtain ⟨-, kept⟩ := session_negotiated run
  obtain ⟨-, -, announced, -⟩ := kept _ rfl
  exact ⟨_, run, rfl, announced⟩

end GstIceoryx2.Element.Sink.Lifecycle
