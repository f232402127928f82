import GstIceoryx2.Element.LoanOwnership

/-!
# Published samples

A sample belongs to its subscribers from its send until the last of them releases
it, and is to stay as it was sent until then. The sink writes only into loans that
are not sent yet, and loans lie where no unreleased sample does. A pool buffer
still maps the memory of its sample after its render, writable, for as long as
somebody keeps it.

All samples of a run stay as they were sent as long as no live buffer is written while
an unreleased sample lies at its address (`samples_intact`). Where one lies there,
every byte of it that the buffer exposes can be changed (`sample_changeable`).
-/

set_option autoImplicit false

namespace GstIceoryx2.Element.Pool

open Foundations Video

variable {gst : Gst}

namespace State

/-- Every unreleased sample is in memory as it was sent. -/
def SamplesIntact (state : State gst) : Prop :=
  ∀ sample ∈ state.inFlight,
    state.read sample.ptr sample.loan.payload.length = sample.loan.payload

/-- No loan that awaits its send lies where an unreleased sample does. -/
def LoansApart (state : State gst) : Prop :=
  ∀ ptr loan, state.registry ptr = some loan → ∀ sample ∈ state.inFlight, sample.ptr ≠ ptr

/-- No live buffer is written while an unreleased sample lies at its address. -/
def WritesApart (state : State gst) : Event gst → Prop
  | .write buffer _ _ => ∀ pooled, state.buffers buffer = some pooled →
      ∀ sample ∈ state.inFlight, sample.ptr ≠ pooled.handle.ptr
  | _ => True

section Steps

variable {session : Session gst} {state next : State gst} {event : Event gst}

theorem loansApart_started : (started : State gst).LoansApart := by
  intro ptr loan registered
  cases registered

/-- A sample that is delivered is apart from loans where no loan is registered. -/
theorem LoansApart.deliver (apart : state.LoansApart) {sends : Bool} {ptr : Ptr}
    {sample : Published gst} (unregistered : state.registry ptr = none) :
    (state.deliver sends ptr sample).LoansApart := by
  cases sends with
  | false => exact apart
  | true =>
      intro other loan registered flying member
      rcases List.mem_append.mp member with earlier | last
      · exact apart other loan registered flying earlier
      · obtain rfl := List.mem_singleton.mp last
        rintro rfl
        exact absurd (unregistered.symm.trans registered) (by simp)

/-- Removing a loan keeps the others apart. -/
theorem LoansApart.remove {ptr other : Ptr} {loan : SendSample} (apart : state.LoansApart)
    (registered : Function.update state.registry ptr none other = some loan) :
    ∀ sample ∈ state.inFlight, sample.ptr ≠ other := by
  rcases lookup_update registered with ⟨-, removed⟩ | ⟨-, before⟩
  · cases removed
  · exact apart other loan before

theorem LoansApart.stepped (apart : state.LoansApart)
    (taken : Stepped session state event next) : next.LoansApart := by
  cases taken with
  | acquire ptr free =>
      intro other loan registered
      rcases lookup_update registered with ⟨rfl, -⟩ | ⟨-, before⟩
      · exact free.2
      · exact apart other loan before
  | write live within => exact apart
  | renderTaken described copy sends live registered =>
      refine LoansApart.deliver ?_ (Function.update_self ..)
      intro other loan registered'
      exact apart.remove registered'
  | renderCopied described copy sends live unregistered free =>
      refine LoansApart.deliver ?_ free.1
      exact apart
  | drop live =>
      intro other loan registered
      exact apart.remove registered
  | release ptr =>
      intro other loan registered sample member
      exact apart other loan registered sample (List.mem_of_mem_filter member)
  | other ptr loan free =>
      intro other waiting registered sample member
      rcases List.mem_append.mp member with earlier | last
      · exact apart other waiting registered sample earlier
      · obtain rfl := List.mem_singleton.mp last
        exact (free.ne_of_registered registered).symm

/-! ## Samples stay as they were sent -/

theorem samplesIntact_started : (started : State gst).SamplesIntact := by
  intro sample member
  cases member

/-- Writing where no sample lies leaves them all. -/
theorem SamplesIntact.store (intact : state.SamplesIntact) {ptr : Ptr}
    (apart : ∀ sample ∈ state.inFlight, sample.ptr ≠ ptr) (offset : Nat)
    (bytes : List MemByte) : (state.store ptr offset bytes).SamplesIntact := by
  intro sample member
  rw [read_store_of_ne state (apart sample member)]
  exact intact sample member

/-- A sample that is delivered is in memory once it is written there. -/
theorem SamplesIntact.deliver (intact : state.SamplesIntact) {sends : Bool} {ptr : Ptr}
    {sample : Published gst}
    (written : state.read ptr sample.loan.payload.length = sample.loan.payload) :
    (state.deliver sends ptr sample).SamplesIntact := by
  cases sends with
  | false => exact intact
  | true =>
      intro flying member
      rcases List.mem_append.mp member with earlier | last
      · exact intact flying earlier
      · obtain rfl := List.mem_singleton.mp last
        exact written

theorem read_store_payload (ptr : Ptr) (payload : List MemByte) :
    (state.store ptr 0 payload).read ptr payload.length = payload := by
  rw [read_store_self state ptr (Nat.le_refl _), List.take_length]

/-- **A step that writes no buffer where a sample lies leaves all samples as they were
sent.** -/
theorem SamplesIntact.stepped (apart : state.LoansApart) (intact : state.SamplesIntact)
    (met : state.WritesApart event) (taken : Stepped session state event next) :
    next.SamplesIntact := by
  cases taken with
  | acquire ptr free => exact intact
  | write live within => exact intact.store (met _ live) _ _
  | renderTaken described copy sends live registered =>
      refine SamplesIntact.deliver ?_ (read_store_payload _ _)
      exact intact.store (apart _ _ registered) _ _
  | renderCopied described copy sends live unregistered free =>
      refine SamplesIntact.deliver ?_ (read_store_payload _ _)
      exact intact.store free.2 _ _
  | drop live => exact intact
  | release ptr =>
      intro sample member
      exact intact sample (List.mem_of_mem_filter member)
  | other ptr loan free =>
      intro sample member
      rcases List.mem_append.mp member with earlier | last
      · exact intact.store free.2 _ _ sample earlier
      · obtain rfl := List.mem_singleton.mp last
        exact read_store_payload ptr loan.payload

/-- Where a sample lies at the address of a live buffer, upstream can change every byte of
it that the buffer exposes. -/
theorem sample_changeable {buffer : Nat} {pooled : PoolBuffer}
    (live : state.buffers buffer = some pooled) {sample : InFlight}
    (member : sample ∈ state.inFlight) (same : sample.ptr = pooled.handle.ptr) {place : Nat}
    (exposed : place < pooled.handle.len) (inside : place < sample.loan.payload.length) :
    ∃ byte next, step session state (.write buffer place [byte]) = some next ∧
      ¬ next.SamplesIntact := by
  have other : ∃ byte : UInt8, some byte ≠ sample.loan.payload[place] := by
    by_cases zero : sample.loan.payload[place] = some 0
    · exact ⟨1, by rw [zero]; decide⟩
    · exact ⟨0, Ne.symm zero⟩
  obtain ⟨byte, differs⟩ := other
  refine ⟨byte, state.write buffer pooled place [byte], ?_, ?_⟩
  · simp only [step, live]
    exact if_pos exposed
  · intro intact
    have there := intact sample member
    rw [same] at there
    have here : sample.loan.payload[place]? = some (some byte) := by
      rw [← there]
      simp [read, contents, write, store, overwrite, inside]
    rw [List.getElem?_eq_getElem inside] at here
    exact differs (Option.some.inj here).symm

end Steps

/-! ## Whole runs -/

section Runs

variable {session : Session gst} {state : State gst} {events : List (Event gst)}

theorem loansApart_of_run {guard : State gst → Event gst → Prop}
    (run : Run (step session) guard started events state) : state.LoansApart := by
  refine run.invariant LoansApart loansApart_started ?_
  intro before event after apart _ taken
  exact apart.stepped (stepped_of_step taken)

/-- **Unreleased samples are in memory as they were sent in every state of a run in
which no live pool buffer is written while one of them lies at its address.** -/
theorem samples_intact (run : Run (step session) WritesApart started events state) :
    Throughout (step session) started SamplesIntact events := by
  refine run.throughout SamplesIntact samplesIntact_started ?_
  intro events before event after run intact met taken
  exact intact.stepped (loansApart_of_run run) met (stepped_of_step taken)

end Runs

/-! ## A buffer written after its render -/

/-- A buffer whose sample is released can be written again. -/
theorem samples_intact_released :
    Throughout (step onePixelSession) started SamplesIntact
      [.acquire 0, .write 0 0 [1, 2, 3, 4], .render 0 (plainBuffer twoCapsGst) 1 true, .release 0,
        .write 0 1 [5, 6]] := by
  refine samples_intact (.cons trivial rfl (.cons ?_ rfl (.cons trivial rfl
    (.cons trivial rfl (.cons ?_ rfl .nil)))))
  all_goals
    intro pooled live sample member
    exact absurd member List.not_mem_nil

/-- **A buffer that is kept and written after its render changes what the subscriber
reads.** -/
theorem samples_changed :
    ¬ Throughout (step onePixelSession) started SamplesIntact
      [.acquire 0, .write 0 0 [1, 2, 3, 4], .render 0 (plainBuffer twoCapsGst) 1 true,
        .write 0 0 [5]] := by
  intro throughout
  have intact := throughout _ _ (List.prefix_refl _) (execute_eq_some_iff.mp rfl)
  have first : some (some (5 : UInt8)) = some (some 1) :=
    congrArg List.head? (intact _ (List.mem_singleton_self _))
  exact absurd first (by decide)

end State

end GstIceoryx2.Element.Pool
