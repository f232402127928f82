import Mathlib.Logic.Function.Basic
import GstIceoryx2.Foundations.Runs
import GstIceoryx2.Element.RenderPaths

/-!
# Turning the aux blob off

The setting `aux-bytes` is how many bytes a pool loans behind the pixels. It
reaches the sink by that route only: the pool is made with the size of the caps
that are negotiated when its allocation is proposed, and a registered loan is
sent with whatever lies behind the size of the caps that are negotiated when it
is rendered. A buffer that is copied gets the whole blob, whatever the setting.

Here a run negotiates caps, proposes pools, acquires, writes and drops their
buffers, and renders them or buffers from elsewhere, with `aux-bytes` fixed.
When it is zero, every published frame is its pixels and nothing more exactly
when each is a loan of a pool that exposed no more than the caps at its render
(`published_pixelsOnly_iff`). Frames that are copied are never so.
-/

set_option autoImplicit false

namespace GstIceoryx2.Element.AuxSwitch

open Foundations Video

variable {gst : Gst}

/-! ## The state -/

/-- A pool: the bytes a buffer exposes, and the bytes loaned behind them. -/
structure Pool where
  size : Nat
  auxReserve : Nat

/-- A registered loan, and how much of it upstream may write. -/
structure Registered where
  exposed : Nat
  payload : List MemByte

/-- A sample that a render published, and its pixels as the render has them. -/
structure Sent where
  pixels : List MemByte
  loan : Loan

/-- The sink, its pools and their loans, and what was published. -/
structure State (gst : Gst) where
  sink : Sink.State gst
  pools : List Pool
  acquired : Nat
  registry : Nat → Option Registered
  published : List Sent

/-- What can happen. Upstream writes any part of what it is exposed. A render of a
pool buffer takes the loan it is registered with; any other buffer is mapped and
copied. A render `publishes` unless its loan or its send fails. -/
inductive Event (gst : Gst) where
  | setCaps (caps : gst.Caps)
  | proposeAllocation
  | acquire (pool : Nat)
  | write (buffer offset : Nat) (bytes : List UInt8)
  | drop (buffer : Nat)
  | renderLoan (buffer : Nat) (described : Buffer gst) (publishes : Bool)
  | renderOther (described : Buffer gst) (src : List MemByte) (publishes : Bool)

/-- The header declares no blob, and the payload is the pixels. -/
def Sent.PixelsOnly (sent : Sent) : Prop :=
  sent.loan.header.auxSize = 0 ∧ sent.loan.payload = sent.pixels

/-- The pixels of a render: what lies within the size of the caps, or what is
mapped. -/
def renderedPixels (info : Sink.CapsInfo) (registered : Option (List MemByte))
    (src : List MemByte) : List MemByte :=
  match registered with
  | some payload => payload.take (min info.size payload.length)
  | none => src

namespace State

/-- Before any caps. -/
def started : State gst where
  sink := .started gst
  pools := []
  acquired := 0
  registry := fun _ => none
  published := []

/-! ## The operations -/

/-- Caps that are refused change nothing. -/
def setCaps (state : State gst) (caps : gst.Caps) : State gst :=
  match Sink.setCaps state.sink caps with
  | .ok sink => { state with sink := sink }
  | .error () => state

/-- A pool is proposed once there are caps. -/
def proposeAllocation (auxBytes : UInt32) (state : State gst) : State gst :=
  match state.sink.caps with
  | some info => { state with pools := state.pools ++ [⟨info.size, auxBytes.toNat⟩] }
  | none => state

/-- A fresh loan of a pool, not written yet. -/
def acquire (state : State gst) (pool : Pool) : State gst :=
  { state with
    acquired := state.acquired + 1
    registry := Function.update state.registry state.acquired
      (some ⟨pool.size, List.replicate (pool.size + pool.auxReserve) none⟩) }

/-- Upstream writes through its mapping. -/
def write (state : State gst) (buffer offset : Nat) (registered : Registered)
    (bytes : List UInt8) : State gst :=
  { state with
    registry := Function.update state.registry buffer
      (some { registered with
        payload := registered.payload.take offset ++
          copyInto (registered.payload.drop offset) (bytes.map some) }) }

/-- The loan of a buffer leaves the registry. -/
def unregister (state : State gst) (buffer : Nat) : State gst :=
  { state with registry := Function.update state.registry buffer none }

/-- `render`, with the loan that is registered for the buffer. Without caps nothing
is published. -/
def render (state : State gst) (described : Buffer gst) (registered : Option (List MemByte))
    (src : List MemByte) (publishes : Bool) : State gst :=
  match state.sink.caps, Sink.render state.sink described registered src with
  | some info, .ok loan =>
      if publishes then
        { state with
          published := state.published ++ [⟨renderedPixels info registered src, loan⟩] }
      else
        state
  | _, _ => state

/-- The system takes a step. -/
def step (auxBytes : UInt32) (state : State gst) : Event gst → Option (State gst)
  | .setCaps caps => some (state.setCaps caps)
  | .proposeAllocation => some (state.proposeAllocation auxBytes)
  | .acquire pool => (state.pools[pool]?).map state.acquire
  | .write buffer offset bytes =>
      match state.registry buffer with
      | some registered =>
          if offset + bytes.length ≤ registered.exposed then
            some (state.write buffer offset registered bytes)
          else
            none
      | none => none
  | .drop buffer => some (state.unregister buffer)
  | .renderLoan buffer described publishes =>
      match state.sink.caps, state.registry buffer with
      | some _, some registered =>
          some ((state.unregister buffer).render described (some registered.payload) [] publishes)
      | none, some _ => some state
      | _, none => none
  | .renderOther described src publishes => some (state.render described none src publishes)

/-! ## One frame -/

theorem length_fillTail (region : List MemByte) {blob : List UInt8}
    (fits : blob.length ≤ region.length) : (Sink.fillTail region blob).length = region.length := by
  rw [Sink.fillTail_eq fits, List.length_map, List.length_append, List.length_replicate]
  exact Nat.add_sub_cancel' fits

/-- **A loan is sent as its pixels only exactly when the caps cover all of it.** -/
theorem pixelsOnly_zeroCopy_iff (info : Sink.CapsInfo) (capsFull : Option gst.Caps)
    (described : Buffer gst) (payload src : List MemByte) :
    Sent.PixelsOnly ⟨renderedPixels info (some payload) src,
        Sink.renderZeroCopy info capsFull described payload⟩ ↔
      payload.length ≤ info.size := by
  constructor
  · rintro ⟨-, same⟩
    have fits := Sink.length_tailBlob_le capsFull described
      (payload.length - min info.size payload.length)
    have lengths := congrArg List.length same
    simp only [Sink.renderZeroCopy, renderedPixels, List.length_append] at lengths
    rw [length_fillTail _ (by rwa [List.length_drop]), List.length_drop] at lengths
    omega
  · intro covered
    have whole : min info.size payload.length = payload.length := Nat.min_eq_right covered
    have none : Sink.tailBlob capsFull described 0 = [] := rfl
    simp only [Sent.PixelsOnly, Sink.renderZeroCopy, renderedPixels, whole, Nat.sub_self, none]
    rw [List.drop_length, List.take_length]
    exact ⟨rfl, List.append_nil payload⟩

/-- **A copied buffer is never sent as its pixels only.** Its blob holds at least two
words. -/
theorem not_pixelsOnly_copy (info : Sink.CapsInfo) (caps : gst.Caps) (described : Buffer gst)
    (src : List MemByte) :
    ¬ Sent.PixelsOnly ⟨renderedPixels info none src,
        Sink.renderCopy info (some caps) described src⟩ := by
  rintro ⟨-, same⟩
  have room := Sink.capsRoom_le_length_buildAux caps (Sink.serializedMetas described) none
  have lengths := congrArg List.length same
  simp only [Sink.renderCopy, Sink.auxBlob, renderedPixels, List.length_append] at lengths
  rw [copyInto_of_length_eq (by simp), copyInto_of_length_eq (by simp), List.length_map] at lengths
  simp only [Sink.capsRoom] at room
  omega

/-! ## What every run keeps -/

/-- The sink has its full caps with their layout, every pool has the setting's
reserve, and every loan is what its buffer exposes with that reserve behind it. -/
structure Coherent (auxBytes : UInt32) (state : State gst) : Prop where
  capsFull : ∀ info, state.sink.caps = some info → ∃ caps, state.sink.capsFull = some caps
  pools : ∀ pool ∈ state.pools, pool.auxReserve = auxBytes.toNat
  loans : ∀ buffer registered, state.registry buffer = some registered →
    registered.payload.length = registered.exposed + auxBytes.toNat

theorem length_copyInto (region bytes : List MemByte) :
    (copyInto region bytes).length = region.length := by
  induction region generalizing bytes with
  | nil => cases bytes <;> rfl
  | cons byte region ih =>
      cases bytes with
      | nil => rfl
      | cons head bytes =>
          simp only [copyInto, List.length_cons, ih]

variable {auxBytes : UInt32} {state next : State gst} {event : Event gst}

theorem Coherent.setCaps (coherent : state.Coherent auxBytes) (caps : gst.Caps) :
    (state.setCaps caps).Coherent auxBytes := by
  simp only [State.setCaps, Sink.setCaps]
  cases gst.videoInfo caps with
  | none => exact coherent
  | some info => exact ⟨fun _ _ => ⟨caps, rfl⟩, coherent.pools, coherent.loans⟩

theorem Coherent.proposeAllocation (coherent : state.Coherent auxBytes) :
    (state.proposeAllocation auxBytes).Coherent auxBytes := by
  simp only [State.proposeAllocation]
  split
  · refine ⟨coherent.capsFull, fun pool member => ?_, coherent.loans⟩
    rcases List.mem_append.mp member with earlier | new
    · exact coherent.pools pool earlier
    · rw [List.mem_singleton.mp new]
  · exact coherent

/-- A loan that is registered with its reserve keeps the rest as it was. -/
theorem Coherent.register (coherent : state.Coherent auxBytes) (acquired buffer : Nat)
    {registered : Option Registered}
    (whole : ∀ loan, registered = some loan →
      loan.payload.length = loan.exposed + auxBytes.toNat) :
    Coherent auxBytes { state with
      acquired := acquired
      registry := Function.update state.registry buffer registered } := by
  refine ⟨coherent.capsFull, coherent.pools, fun other loan found => ?_⟩
  replace found : Function.update state.registry buffer registered other = some loan := found
  by_cases same : other = buffer
  · subst same
    rw [Function.update_self] at found
    exact whole loan found
  · rw [Function.update_of_ne same] at found
    exact coherent.loans other loan found

theorem Coherent.render (coherent : state.Coherent auxBytes) (described : Buffer gst)
    (registered : Option (List MemByte)) (src : List MemByte) (publishes : Bool) :
    (state.render described registered src publishes).Coherent auxBytes := by
  simp only [State.render]
  split
  · split_ifs
    · exact ⟨coherent.capsFull, coherent.pools, coherent.loans⟩
    · exact coherent
  · exact coherent

theorem Coherent.step (coherent : state.Coherent auxBytes)
    (taken : state.step auxBytes event = some next) : next.Coherent auxBytes := by
  cases event with
  | setCaps caps =>
      cases taken
      exact coherent.setCaps caps
  | proposeAllocation =>
      cases taken
      exact coherent.proposeAllocation
  | acquire pool =>
      obtain ⟨made, found, rfl⟩ := Option.map_eq_some_iff.mp taken
      apply coherent.register
      rintro _ ⟨⟩
      rw [List.length_replicate, coherent.pools made (List.mem_of_getElem? found)]
  | write buffer offset bytes =>
      simp only [State.step] at taken
      split at taken
      · rename_i registered found
        split_ifs at taken
        cases taken
        apply coherent.register
        rintro _ ⟨⟩
        rw [← coherent.loans buffer registered found, List.length_append, length_copyInto,
          ← List.length_append, List.take_append_drop]
      · cases taken
  | drop buffer =>
      cases taken
      apply coherent.register
      rintro _ ⟨⟩
  | renderLoan buffer described publishes =>
      simp only [State.step] at taken
      split at taken
      · cases taken
        apply Coherent.render
        apply coherent.register
        rintro _ ⟨⟩
      · cases taken
        exact coherent
      · cases taken
  | renderOther described src publishes =>
      cases taken
      exact coherent.render described none src publishes

theorem coherent_of_run {guard : State gst → Event gst → Prop} {events : List (Event gst)}
    {finish : State gst} (run : Run (step auxBytes) guard started events finish) :
    finish.Coherent auxBytes := by
  apply run.invariant (Coherent auxBytes)
  · exact ⟨fun _ => nofun, fun _ => nofun, fun _ _ => nofun⟩
  · intro _ _ _ coherent _ taken
    exact coherent.step taken

/-! ## What is published -/

/-- Every published frame is its pixels, and declares no blob. -/
def PublishesPixelsOnly (state : State gst) : Prop :=
  ∀ sent ∈ state.published, sent.PixelsOnly

/-- What the event publishes, if anything, is the loan of a pool buffer that exposes
no more than the caps have room for. -/
def Covered (state : State gst) : Event gst → Prop
  | .renderLoan buffer _ publishes =>
      publishes = true → ∀ registered info, state.registry buffer = some registered →
        state.sink.caps = some info → registered.exposed ≤ info.size
  | .renderOther _ _ publishes => publishes = true → state.sink.caps = none
  | _ => True

theorem published_setCaps (caps : gst.Caps) : (state.setCaps caps).published = state.published := by
  simp only [setCaps]
  split <;> rfl

theorem published_proposeAllocation :
    (state.proposeAllocation auxBytes).published = state.published := by
  simp only [proposeAllocation]
  split <;> rfl

/-- A render publishes what the sink makes of the buffer, if it has caps and nothing
fails. -/
theorem render_of_caps {info : Sink.CapsInfo} (known : state.sink.caps = some info)
    (described : Buffer gst) (registered : Option (List MemByte)) (src : List MemByte) :
    state.render described registered src true =
      { state with
        published := state.published ++ [⟨renderedPixels info registered src,
          match registered with
          | some payload => Sink.renderZeroCopy info state.sink.capsFull described payload
          | none => Sink.renderCopy info state.sink.capsFull described src⟩] } := by
  cases registered <;> simp only [render, Sink.render, known, if_true]

theorem render_of_not_publishes (described : Buffer gst) (registered : Option (List MemByte))
    (src : List MemByte) : state.render described registered src false = state := by
  simp only [render, Bool.false_eq_true, if_false]
  split <;> rfl

theorem render_of_no_caps (unknown : state.sink.caps = none) (described : Buffer gst)
    (registered : Option (List MemByte)) (src : List MemByte) (publishes : Bool) :
    state.render described registered src publishes = state := by
  simp only [render, unknown]

/-- What a step publishes: nothing, or a loan, or a copy. -/
inductive Publishes (state next : State gst) : Event gst → Prop
  | nothing {event : Event gst} (covered : state.Covered event)
      (same : next.published = state.published) : Publishes state next event
  | loan {buffer : Nat} {described : Buffer gst} {registered : Registered} {info : Sink.CapsInfo}
      (found : state.registry buffer = some registered) (known : state.sink.caps = some info)
      (sends : next.published = state.published ++
        [⟨renderedPixels info (some registered.payload) [],
          Sink.renderZeroCopy info state.sink.capsFull described registered.payload⟩]) :
      Publishes state next (.renderLoan buffer described true)
  | copy {described : Buffer gst} {src : List MemByte} {info : Sink.CapsInfo}
      (known : state.sink.caps = some info)
      (sends : next.published = state.published ++
        [⟨renderedPixels info none src, Sink.renderCopy info state.sink.capsFull described src⟩]) :
      Publishes state next (.renderOther described src true)

/-- A loan is published without its entry in the registry. -/
theorem publishes_renderLoan {buffer : Nat} {registered : Registered} {info : Sink.CapsInfo}
    (found : state.registry buffer = some registered) (known : state.sink.caps = some info)
    (described : Buffer gst) (publishes : Bool) :
    Publishes state
      ((state.unregister buffer).render described (some registered.payload) [] publishes)
      (.renderLoan buffer described publishes) := by
  have known' : (state.unregister buffer).sink.caps = some info := known
  cases publishes with
  | false =>
      rw [render_of_not_publishes]
      exact .nothing nofun rfl
  | true =>
      rw [render_of_caps known']
      exact .loan found known rfl

theorem publishes_renderOther (state : State gst) (described : Buffer gst) (src : List MemByte)
    (publishes : Bool) :
    Publishes state (state.render described none src publishes)
      (.renderOther described src publishes) := by
  cases publishes with
  | false =>
      rw [render_of_not_publishes]
      exact .nothing nofun rfl
  | true =>
      cases known : state.sink.caps with
      | none =>
          rw [render_of_no_caps known]
          exact .nothing (fun _ => known) rfl
      | some info =>
          rw [render_of_caps known]
          exact .copy known rfl

theorem publishes_of_step (taken : state.step auxBytes event = some next) :
    Publishes state next event := by
  cases event with
  | setCaps caps =>
      cases taken
      exact .nothing trivial (published_setCaps caps)
  | proposeAllocation =>
      cases taken
      exact .nothing trivial published_proposeAllocation
  | acquire pool =>
      obtain ⟨_, -, rfl⟩ := Option.map_eq_some_iff.mp taken
      exact .nothing trivial rfl
  | write buffer offset bytes =>
      simp only [step] at taken
      split at taken
      · split_ifs at taken
        cases taken
        exact .nothing trivial rfl
      · cases taken
  | drop buffer =>
      cases taken
      exact .nothing trivial rfl
  | renderLoan buffer described publishes =>
      simp only [step] at taken
      split at taken
      · rename_i info registered known found
        cases taken
        exact publishes_renderLoan found known described publishes
      · rename_i known _
        cases taken
        exact .nothing (fun _ _ info _ some => by cases known.symm.trans some) rfl
      · cases taken
  | renderOther described src publishes =>
      cases taken
      exact publishes_renderOther state described src publishes

theorem publishesPixelsOnly_snoc_iff {sent : Sent} (before : state.PublishesPixelsOnly)
    (sends : next.published = state.published ++ [sent]) :
    next.PublishesPixelsOnly ↔ sent.PixelsOnly := by
  rw [PublishesPixelsOnly, sends, List.forall_mem_append, List.forall_mem_singleton]
  exact and_iff_right before

/-- What was published stays published. -/
theorem publishesPixelsOnly_of_publishes (publishes : Publishes state next event)
    (after : next.PublishesPixelsOnly) : state.PublishesPixelsOnly := by
  intro sent member
  apply after sent
  cases publishes with
  | nothing _ same => rwa [same]
  | loan _ _ sends =>
      rw [sends]
      exact List.mem_append_left _ member
  | copy _ sends =>
      rw [sends]
      exact List.mem_append_left _ member

/-- **With `aux-bytes` zero, a step publishes pixels only exactly when it publishes a
loan of a pool that the caps cover, or nothing.** -/
theorem publishesPixelsOnly_step_iff (coherent : state.Coherent 0)
    (before : state.PublishesPixelsOnly) (publishes : Publishes state next event) :
    next.PublishesPixelsOnly ↔ state.Covered event := by
  cases publishes with
  | nothing covered same =>
      rw [PublishesPixelsOnly, same]
      exact iff_of_true before covered
  | @loan buffer _ registered info found known sends =>
      have size : registered.payload.length = registered.exposed :=
        coherent.loans buffer registered found
      rw [publishesPixelsOnly_snoc_iff before sends, pixelsOnly_zeroCopy_iff, size]
      constructor
      · rintro covered - other info' found' known'
        cases found.symm.trans found'
        cases known.symm.trans known'
        exact covered
      · intro covered
        exact covered rfl registered info found known
  | @copy described src info known sends =>
      obtain ⟨caps, full⟩ := coherent.capsFull info known
      rw [publishesPixelsOnly_snoc_iff before sends, full]
      refine iff_of_false (not_pixelsOnly_copy info caps described src) fun covered => ?_
      cases known.symm.trans (covered rfl)

/-! ## Runs -/

/-- **With `aux-bytes` zero throughout a run, every published frame is its pixels
only exactly when each is the loan of a pool buffer that exposes no more than the
caps at its render.** -/
theorem published_pixelsOnly_iff {events : List (Event gst)} {finish : State gst}
    (run : Run (step 0) unguarded started events finish) :
    finish.PublishesPixelsOnly ↔ Run (step 0) Covered started events finish := by
  refine Run.iff_guarded PublishesPixelsOnly ?_ ?_ ?_ run
  · rintro _ ⟨⟩
  · intro _ _ _ taken after
    exact publishesPixelsOnly_of_publishes (publishes_of_step taken) after
  · intro _ _ _ _ guarded before taken
    exact publishesPixelsOnly_step_iff (coherent_of_run guarded) before (publishes_of_step taken)

/-- A pool buffer of one pixel is acquired, written and rendered. -/
def pooledPixel : List (Event twoCapsGst) :=
  [.setCaps .onePixel, .proposeAllocation, .acquire 0, .write 0 0 [1, 2, 3, 4],
   .renderLoan 0 (plainBuffer twoCapsGst) true]

theorem published_pixelsOnly_iff_pooled :
    ∃ finish, Run (step 0) unguarded started pooledPixel finish ∧
      finish.published.length = 1 ∧ finish.PublishesPixelsOnly := by
  have run : Run (step 0) unguarded started pooledPixel _ := execute_eq_some_iff.mp rfl
  refine ⟨_, run, rfl, (published_pixelsOnly_iff run).mpr ?_⟩
  unfold pooledPixel
  refine .cons ?_ rfl (.cons ?_ rfl (.cons ?_ rfl (.cons ?_ rfl (.cons ?_ rfl .nil))))
  · trivial
  · trivial
  · trivial
  · trivial
  · rintro - registered info ⟨⟩ ⟨⟩
    exact Nat.le_refl _

/-- A buffer from elsewhere is published with its caps behind the pixel, although
`aux-bytes` is zero. -/
theorem copied_with_blob :
    ∃ finish, Run (step 0) unguarded started
        [.setCaps TwoCaps.onePixel,
         .renderOther (plainBuffer twoCapsGst) [some 1, some 2, some 3, some 4] true] finish ∧
      finish.published.map (·.loan.header.auxSize) = [68] ∧ ¬ finish.PublishesPixelsOnly := by
  refine ⟨_, execute_eq_some_iff.mp rfl, by decide, fun all => ?_⟩
  exact absurd (all _ (.head _)).1 (by decide)

end State

end GstIceoryx2.Element.AuxSwitch
