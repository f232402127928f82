import GstIceoryx2.Transport.Channel

/-!
# No wake-up is lost

A subscriber parks only after it looked at the ring and found it empty, so a
frame that is in the ring while it is parked was sent since. Whoever sends a frame
notifies next, and the notification stays pending until a wait consumes it; the
subscriber waits once for each look. So a frame behind a parked subscriber is
announced: a notification is pending, or the sender is just about to notify
(`no_lost_wakeup`).

The two halves are disciplines of code. A routine is `Announced` when each send is
followed by a notification, and the code of a call is `Disciplined` when each wait
comes right after an empty look.
-/

set_option autoImplicit false

namespace GstIceoryx2.Transport

open Foundations

variable {Publisher Frame : Type}

/-! ## Send, then notify -/

/-- Every send is followed at once by a notification. -/
def Announced : List (PublishOp Frame) → Prop
  | [] => True
  | .send _ :: ops => (∃ rest, ops = .notify :: rest) ∧ Announced ops
  | _ :: ops => Announced ops

theorem announced_ops (routine : Routine Frame) : Announced routine.ops := by
  cases routine with
  | publishFrame frame => exact ⟨⟨[], rfl⟩, trivial⟩
  | renderZeroCopy frame => exact ⟨⟨[], rfl⟩, trivial⟩
  | renderCopy frame => exact ⟨⟨[], rfl⟩, trivial⟩
  | publishEos frame => exact ⟨⟨[], rfl⟩, trivial⟩

theorem Announced.tail {op : PublishOp Frame} {ops : List (PublishOp Frame)}
    (announced : Announced (op :: ops)) : Announced ops := by
  cases op with
  | loan => exact announced
  | send frame => exact announced.2
  | notify => exact announced

/-! ## Look, then park -/

/-- A wait comes right after a look that found the ring empty; `looked` says that
such a look has just been taken. -/
def Disciplined : Bool → Code Frame → Prop
  | _, .ret _ => True
  | _, .again => True
  | _, .poll next => ∀ unlocked, Disciplined false (next unlocked)
  | _, .receive next =>
      (∀ frame, Disciplined false (next (.frame frame))) ∧ Disciplined true (next .empty) ∧
        Disciplined false (next .failed)
  | looked, .wait _ next => looked = true ∧ ∀ succeeded, Disciplined false (next succeeded)

theorem disciplined_receive (looked : Bool) : Disciplined looked (receive : Code Frame) :=
  ⟨fun _ => trivial, trivial, trivial⟩

theorem disciplined_receiveBlocking (blockMs : Option Nat) :
    Disciplined false (receiveBlocking blockMs : Code Frame) := by
  refine ⟨fun _ => trivial, ⟨rfl, ?_⟩, trivial⟩
  intro succeeded
  cases succeeded with
  | false => trivial
  | true => exact disciplined_receive false

theorem disciplined_pyReceiveBlocking (blockMs : Option Nat) :
    Disciplined false (pyReceiveBlocking blockMs : Code Frame) := by
  refine ⟨fun _ => trivial, ⟨rfl, ?_⟩, trivial⟩
  intro succeeded
  cases succeeded with
  | false => trivial
  | true => exact ⟨fun _ => trivial, trivial, trivial⟩

theorem disciplined_create (returns : Frame → Bool) : Disciplined false (create returns) := by
  intro unlocked
  cases unlocked with
  | true => trivial
  | false =>
      refine ⟨?_, ⟨rfl, fun _ => trivial⟩, trivial⟩
      intro frame
      dsimp only
      split_ifs
      · trivial
      · trivial

/-- **Every call parks only after it looked.** -/
theorem disciplined_code (request : Request Frame) : Disciplined false request.code := by
  cases request with
  | receive => exact disciplined_receive false
  | receiveBlocking blockMs => exact disciplined_receiveBlocking blockMs
  | pyReceiveBlocking blockMs => exact disciplined_pyReceiveBlocking blockMs
  | create returns => exact disciplined_create returns

namespace State

/-! ## Frames that are announced -/

/-- The publisher has sent and is about to notify. -/
def MidPublish (state : State Publisher Frame) (publisher : Publisher) : Prop :=
  ∃ ops, state.publishers publisher = .notify :: ops

/-- A frame in the ring is announced by a pending notification, or by one that is
about to be sent. -/
def Noticed (state : State Publisher Frame) : Prop :=
  state.ring ≠ [] → 0 < state.pending ∨ ∃ publisher, state.MidPublish publisher

/-- The subscriber is parked on its listener. -/
def Parked (state : State Publisher Frame) : Prop :=
  ∃ call, state.call = some call ∧ call.parked = true

/-- What holds in every state: the publishers notify after they send, only a wait
is parked, a call follows the discipline, and whenever it has just looked, frames
are announced. -/
structure Attentive (state : State Publisher Frame) : Prop where
  announced : ∀ publisher, Announced (state.publishers publisher)
  parks : ∀ call, state.call = some call → call.parked = true →
    ∃ timeout go, call.code = .wait timeout go
  attends : ∀ call, state.call = some call →
    ∃ looked, Disciplined looked call.code ∧ (looked = true → state.Noticed)

theorem attentive_started : (started : State Publisher Frame).Attentive where
  announced := fun _ => trivial
  parks := by
    intro call current
    cases current
  attends := by
    intro call current
    cases current

/-! ## The steps of a publisher -/

section Publish

variable [DecidableEq Publisher] {state next : State Publisher Frame} {publisher : Publisher}

theorem midPublish_proceed {ops : List (PublishOp Frame)} {other : Publisher}
    (mid : state.MidPublish other) (unsent : ¬ state.MidPublish publisher) :
    (state.proceed publisher ops).MidPublish other := by
  have apart : other ≠ publisher := by
    rintro rfl
    exact unsent mid
  obtain ⟨rest, due⟩ := mid
  refine ⟨rest, ?_⟩
  rw [← due]
  exact Function.update_of_ne apart _ _

/-- A publisher that was not about to notify takes no announcement away. -/
theorem Noticed.proceed (noticed : state.Noticed) (unsent : ¬ state.MidPublish publisher)
    (ops : List (PublishOp Frame)) : (state.proceed publisher ops).Noticed := by
  intro queued
  rcases noticed queued with pending | ⟨other, mid⟩
  · exact .inl pending
  · exact .inr ⟨other, midPublish_proceed mid unsent⟩

omit [DecidableEq Publisher] in
theorem not_midPublish {op : PublishOp Frame} {ops : List (PublishOp Frame)}
    (due : state.publishers publisher = op :: ops) (other : op ≠ .notify) :
    ¬ state.MidPublish publisher := by
  rintro ⟨rest, mid⟩
  rw [due] at mid
  exact other (List.cons.inj mid).1

/-- **Frames stay announced when a publisher takes a step.** A sender is then about
to notify, and after notifying a notification is pending. -/
theorem Noticed.publisherStepped (noticed : state.Noticed)
    (announced : Announced (state.publishers publisher))
    (taken : PublisherStepped state publisher next) : next.Noticed := by
  cases taken with
  | start routine idle =>
      refine noticed.proceed ?_ _
      rintro ⟨rest, mid⟩
      rw [idle] at mid
      cases mid
  | loan due => exact noticed.proceed (not_midPublish due (by simp)) _
  | send due older =>
      rw [due] at announced
      obtain ⟨⟨rest, rfl⟩, -⟩ := announced
      intro _
      exact .inr ⟨publisher, rest, Function.update_self ..⟩
  | notify due => exact fun _ => .inl (Nat.succ_pos _)
  | coalesce due pending => exact fun _ => .inl pending
  | fail due fallible => exact noticed.proceed (not_midPublish due fallible) _

theorem announced_publisherStepped (announced : ∀ other, Announced (state.publishers other))
    (taken : PublisherStepped state publisher next) (other : Publisher) :
    Announced (next.publishers other) := by
  have proceeds : ∀ ops : List (PublishOp Frame), Announced ops →
      Announced (Function.update state.publishers publisher ops other) := by
    intro ops announced'
    rcases eq_or_ne other publisher with rfl | apart
    · rwa [Function.update_self]
    · rw [Function.update_of_ne apart]
      exact announced other
  have rest : ∀ {op : PublishOp Frame} {ops : List (PublishOp Frame)},
      state.publishers publisher = op :: ops → Announced ops := by
    intro op ops due
    exact (due ▸ announced publisher : Announced (op :: ops)).tail
  cases taken with
  | start routine idle => exact proceeds _ (announced_ops routine)
  | loan due => exact proceeds _ (rest due)
  | send due older => exact proceeds _ (rest due)
  | notify due => exact proceeds _ (rest due)
  | coalesce due pending => exact proceeds _ (rest due)
  | fail due fallible => exact proceeds _ trivial

theorem Attentive.publisherStepped (attentive : state.Attentive)
    (taken : PublisherStepped state publisher next) : next.Attentive where
  announced := announced_publisherStepped attentive.announced taken
  parks := by
    intro call current
    obtain ⟨before, current', -, code, parked, -, -⟩ := call_publisherStepped taken current
    rw [← code, ← parked]
    exact attentive.parks before current'
  attends := by
    intro call current
    obtain ⟨before, current', -, code, -, -, -⟩ := call_publisherStepped taken current
    obtain ⟨looked, disciplined, noticed⟩ := attentive.attends before current'
    refine ⟨looked, code ▸ disciplined, ?_⟩
    intro looks
    exact (noticed looks).publisherStepped (attentive.announced publisher) taken

end Publish

/-! ## The steps of the subscriber -/

section Subscribe

variable {state next : State Publisher Frame} {call : Call Frame}

theorem noticed_resume {code : Code Frame} : (state.resume call code).Noticed ↔ state.Noticed := by
  simp only [Noticed, MidPublish, ring_resume, pending_resume, publishers_resume]

/-- A call that is not parked goes on attentively with disciplined code. -/
theorem attentive_resume (announced : ∀ publisher, Announced (state.publishers publisher))
    (running : call.parked = false) {looked : Bool} (noticed : looked = true → state.Noticed)
    {code : Code Frame} (disciplined : Disciplined looked code) :
    (state.resume call code).Attentive where
  announced := by
    intro publisher
    rw [publishers_resume]
    exact announced publisher
  parks := by
    intro after current parked
    rcases call_resume current with ⟨-, rfl⟩ | ⟨-, rfl⟩
    · exact absurd (running.symm.trans parked) Bool.false_ne_true
    · exact absurd (running.symm.trans parked) Bool.false_ne_true
  attends := by
    intro after current
    rcases call_resume current with ⟨-, rfl⟩ | ⟨-, rfl⟩
    · refine ⟨false, disciplined_code call.request, ?_⟩
      intro looks
      cases looks
    · exact ⟨looked, disciplined, fun looks => noticed_resume.mpr (noticed looks)⟩

theorem Attentive.at_code (attentive : state.Attentive) (current : state.call = some call)
    {code : Code Frame} (stands : call.code = code) :
    ∃ looked, Disciplined looked code ∧ (looked = true → state.Noticed) :=
  stands ▸ attentive.attends call current

/-- A call that stands at anything but a wait is not parked. -/
theorem Attentive.running (attentive : state.Attentive) (current : state.call = some call)
    (moves : ∀ timeout go, call.code ≠ .wait timeout go) : call.parked = false := by
  cases parked : call.parked with
  | false => rfl
  | true =>
      obtain ⟨timeout, go, stands⟩ := attentive.parks call current parked
      exact absurd stands (moves timeout go)

/-- **The subscriber stays attentive.** -/
theorem Attentive.subscriberStepped [DecidableEq Publisher] (attentive : state.Attentive)
    {act : SubscriberAct Publisher Frame} (taken : SubscriberStepped state act next) :
    next.Attentive := by
  have unlooked : ∀ {after : State Publisher Frame}, false = true → after.Noticed := by
    intro after looks
    cases looks
  cases taken with
  | call request idle =>
      refine ⟨attentive.announced, ?_, ?_⟩
      · rintro _ ⟨⟩ ⟨⟩
      · rintro _ ⟨⟩
        exact ⟨false, disciplined_code request, unlooked⟩
  | poll unlocked current stands =>
      obtain ⟨looked, disciplined, -⟩ := attentive.at_code current stands
      have running := attentive.running current (by simp [stands])
      exact attentive_resume attentive.announced running unlooked (disciplined unlocked)
  | receiveEmpty current stands empty =>
      obtain ⟨looked, disciplined, -⟩ := attentive.at_code current stands
      have running := attentive.running current (by simp [stands])
      exact attentive_resume attentive.announced running (fun _ queued => absurd empty queued)
        disciplined.2.1
  | receiveFrame current stands queued =>
      obtain ⟨looked, disciplined, -⟩ := attentive.at_code current stands
      have running := attentive.running current (by simp [stands])
      refine attentive_resume ?_ running unlooked (disciplined.1 _)
      exact attentive.announced
  | receiveFails current stands =>
      obtain ⟨looked, disciplined, -⟩ := attentive.at_code current stands
      have running := attentive.running current (by simp [stands])
      exact attentive_resume attentive.announced running unlooked disciplined.2.2
  | park current stands =>
      obtain ⟨looked, disciplined, noticed⟩ := attentive.attends _ current
      refine ⟨attentive.announced, ?_, ?_⟩
      · rintro _ ⟨⟩ -
        exact ⟨_, _, stands⟩
      · rintro _ ⟨⟩
        exact ⟨looked, disciplined, noticed⟩
  | wake current stands parked pending =>
      obtain ⟨looked, disciplined, -⟩ := attentive.at_code current stands
      refine attentive_resume ?_ ?_ unlooked (disciplined.2 true)
      · exact attentive.announced
      · rfl
  | timeout current stands parked nonePending =>
      obtain ⟨looked, disciplined, -⟩ := attentive.at_code current stands
      refine attentive_resume ?_ ?_ unlooked (disciplined.2 true)
      · exact attentive.announced
      · rfl
  | waitFails current stands parked =>
      obtain ⟨looked, disciplined, -⟩ := attentive.at_code current stands
      refine attentive_resume ?_ ?_ unlooked (disciplined.2 false)
      · exact attentive.announced
      · rfl

end Subscribe

/-! ## Whole runs -/

section Runs

variable [DecidableEq Publisher] {state : State Publisher Frame}
variable {events : List (Event Publisher Frame)}

theorem attentive_of_run (run : Run step unguarded started events state) : state.Attentive := by
  refine run.invariant Attentive attentive_started ?_
  intro before event after attentive _ taken
  cases event with
  | publisher publisher act => exact attentive.publisherStepped (publisherStepped_of_step taken)
  | subscriber act => exact attentive.subscriberStepped (subscriberStepped_of_step taken)

/-- **No wake-up is lost.** In every interleaving of any number of publishers with
one subscriber, when the subscriber is parked and a frame is in its ring, then a
notification is pending or a publisher has sent and not yet notified. -/
theorem no_lost_wakeup (run : Run step unguarded started events state) (parked : state.Parked)
    (queued : state.ring ≠ []) : 0 < state.pending ∨ ∃ publisher, state.MidPublish publisher := by
  have attentive := attentive_of_run run
  obtain ⟨call, current, parked⟩ := parked
  obtain ⟨timeout, go, stands⟩ := attentive.parks call current parked
  obtain ⟨looked, disciplined, noticed⟩ := attentive.at_code current stands
  exact noticed disciplined.1 queued

/-- A frame sent to a subscriber that parked in between. -/
theorem no_lost_wakeup_parked :
    ∃ state : State Bool Nat, state.Parked ∧ state.ring = [(true, 7)] ∧
      (0 < state.pending ∨ ∃ publisher, state.MidPublish publisher) := by
  have run : ∃ state, execute step unguarded (started : State Bool Nat)
      [.subscriber (.call (.receiveBlocking none)), .subscriber (.receive none),
        .publisher true (.start (.renderZeroCopy 7)), .publisher true (.send 0),
        .subscriber .park] = some state ∧ state.Parked ∧ state.ring = [(true, 7)] :=
    ⟨_, rfl, ⟨_, rfl, rfl⟩, rfl⟩
  obtain ⟨state, executed, parked, ring⟩ := run
  have queued : state.ring ≠ [] := by
    rw [ring]
    exact List.cons_ne_nil _ _
  exact ⟨state, parked, ring, no_lost_wakeup (execute_eq_some_iff.mp executed) parked queued⟩

end Runs

end State

end GstIceoryx2.Transport
