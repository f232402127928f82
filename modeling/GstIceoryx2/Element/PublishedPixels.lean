import GstIceoryx2.Element.LoanOwnership

/-!
# What render publishes

The memory of a pool buffer is an address. As long as that address has not been
loaned out again since the buffer was acquired, the bytes there are what upstream
last wrote into the buffer, at once or in parts, and rendering it publishes them on
either path (`published_faithful`). A buffer that is kept beyond its render loses its memory
when its sample is released and the address is given to another loan. Rendering it
again then publishes what the other buffer holds (`published_unfaithful`), and
writing it changes what the other one publishes.
-/

set_option autoImplicit false

namespace GstIceoryx2.Element.Pool

open Foundations Video

variable {gst : Gst}

/-- What was written is published: when upstream has written all it is exposed, the
sample is the buffer's header, the bytes upstream last wrote into it, and behind them
the filled reserve or the whole blob. -/
def Published.Faithful (session : Session gst) (sample : Published gst) : Prop :=
  ∀ bytes, contents sample.written session.info.size = bytes.map some →
    ∃ aux, sample.loan.assumeInit =
        some (Sink.frameWithAux session.info sample.described bytes aux) ∧
      (aux = Sink.filledReserve session.caps sample.described session.auxReserve ∨
        aux = Sink.auxBlob (some session.caps) sample.described none)

/-- The zero-copy path leaves the pixels as they are. -/
theorem take_renderZeroCopy (info : Sink.CapsInfo) (caps : Option gst.Caps) (described : Buffer gst)
    {payload : List MemByte} (within : info.size ≤ payload.length) :
    (Sink.renderZeroCopy info caps described payload).payload.take info.size =
      payload.take info.size := by
  have pixels : (payload.take (min info.size payload.length)).length = info.size := by
    rw [List.length_take, Nat.min_assoc, Nat.min_self, Nat.min_eq_left within]
  simp only [Sink.renderZeroCopy]
  rw [List.take_append_of_le_length (Nat.le_of_eq pixels.symm), Nat.min_eq_left within,
    List.take_take, Nat.min_self]

namespace State

/-! ## Whose memory it is -/

/-- The address of the buffer was last loaned for it. -/
def Current (state : State gst) (buffer : Nat) (pooled : PoolBuffer) : Prop :=
  state.lastLoan pooled.handle.ptr = some buffer

/-- What holds in every state of an undisturbed run: the registry knows the last
loan of an address, every buffer exposes the pixels, and the memory of a current
buffer is what upstream last wrote into it. -/
structure Coherent (session : Session gst) (state : State gst) : Prop where
  accounted : state.ledger.Accounted
  linear : state.ledger.Linear
  registered : ∀ ptr sample, state.registry ptr = some sample →
    state.lastLoan ptr = some sample.loan ∧
      sample.len = session.info.size + session.auxReserve
  exposed : ∀ buffer pooled, state.buffers buffer = some pooled →
    pooled.handle.len = session.info.size
  holds : ∀ buffer pooled, state.buffers buffer = some pooled → state.Current buffer pooled →
    ∀ place < session.info.size, ∀ byte, pooled.written place = some byte →
      state.memory pooled.handle.ptr place = some byte
  faithful : ∀ sample ∈ state.published, sample.Faithful session

/-- A rendered buffer is written or rendered again only while its address has not
been loaned out again, and dropped only while no loan is registered there. -/
def Undisturbed (state : State gst) : Event gst → Prop
  | .write buffer _ _ => ∀ pooled, state.buffers buffer = some pooled →
      pooled.rendered = true → state.Current buffer pooled
  | .render buffer _ _ _ => ∀ pooled, state.buffers buffer = some pooled →
      pooled.rendered = true → state.Current buffer pooled
  | .drop buffer => ∀ pooled, state.buffers buffer = some pooled →
      pooled.rendered = true → state.registry pooled.handle.ptr = none
  | _ => True

section Steps

variable {session : Session gst} {state next : State gst} {buffer : Nat} {pooled : PoolBuffer}

theorem coherent_started : (started : State gst).Coherent session where
  accounted := Ledger.accounted_empty
  linear := by
    intro settlement taken
    cases taken
  registered := by
    intro ptr sample registered
    cases registered
  exposed := by
    intro buffer pooled live
    cases live
  holds := by
    intro buffer pooled live
    cases live
  faithful := by
    intro sample published
    cases published

/-- A buffer that is not rendered yet is current. -/
theorem Coherent.current (coherent : state.Coherent session)
    (live : state.buffers buffer = some pooled)
    (kept : pooled.rendered = true → state.Current buffer pooled) :
    state.Current buffer pooled := by
  cases rendered : pooled.rendered with
  | true => exact kept rendered
  | false =>
      have own := coherent.linear.kept coherent.accounted (ledger_holders live) rendered
      obtain ⟨sample, registered, rfl⟩ := Option.map_eq_some_iff.mp own
      exact (coherent.registered _ _ registered).1

/-- Two current buffers do not share an address. -/
theorem Current.unique {buffer' : Nat} {pooled' : PoolBuffer}
    (current : state.Current buffer pooled) (current' : state.Current buffer' pooled')
    (same : pooled'.handle.ptr = pooled.handle.ptr) : buffer' = buffer := by
  unfold Current at current current'
  rw [same, current] at current'
  exact (Option.some.inj current').symm

/-- An undisturbed step leaves later loans alone. -/
theorem Coherent.leavesLaterLoans (coherent : state.Coherent session) {event : Event gst}
    (met : state.Undisturbed event) : state.LeavesLaterLoans event := by
  cases event with
  | render buffer described copy sends =>
      intro pooled live rendered
      cases registered : state.registry pooled.handle.ptr with
      | none => rfl
      | some sample =>
          -- The registered loan would be the buffer's own, which its render has consumed.
          have last := (coherent.registered _ _ registered).1
          rw [met pooled live rendered] at last
          have there := coherent.accounted.registered pooled.handle.ptr sample.loan
            (congrArg (Option.map SendSample.loan) registered)
          rw [← Option.some.inj last, ledger_holders live] at there
          exact absurd (rendered.symm.trans (congrArg Holder.settled (Option.some.inj there)))
            (by simp)
  | drop buffer => exact met
  | acquire ptr => trivial
  | write buffer offset bytes => trivial
  | release ptr => trivial
  | other ptr loan => trivial

variable {event : Event gst}

theorem Coherent.registered_stepped (coherent : state.Coherent session)
    (taken : Stepped session state event next) :
    ∀ ptr sample, next.registry ptr = some sample →
      next.lastLoan ptr = some sample.loan ∧
        sample.len = session.info.size + session.auxReserve := by
  intro ptr sample registered
  cases taken with
  | acquire _ free =>
      rcases lookup_update registered with ⟨rfl, new⟩ | ⟨apart, before⟩
      · obtain rfl := Option.some.inj new
        exact ⟨Function.update_self .., rfl⟩
      · simp only [acquire, Function.update_of_ne apart]
        exact coherent.registered ptr sample before
  | write live within => exact coherent.registered ptr sample registered
  | renderTaken described copy sends live registered' =>
      simp only [renderTaken, deliver_registry] at registered
      simp only [renderTaken, deliver_lastLoan]
      rcases lookup_update registered with ⟨-, removed⟩ | ⟨-, before⟩
      · cases removed
      · exact coherent.registered ptr sample before
  | renderCopied described copy sends live unregistered free =>
      simp only [renderCopied, deliver_registry] at registered
      simp only [renderCopied, deliver_lastLoan, store,
        Function.update_of_ne (free.ne_of_registered registered)]
      exact coherent.registered ptr sample registered
  | drop live =>
      rcases lookup_update registered with ⟨-, removed⟩ | ⟨-, before⟩
      · cases removed
      · exact coherent.registered ptr sample before
  | release _ => exact coherent.registered ptr sample registered
  | other _ loan free =>
      simp only [other, store, Function.update_of_ne (free.ne_of_registered registered)]
      exact coherent.registered ptr sample registered

/-- A buffer that is there after a step is new, or keeps its memory; what was
written into it changes when it is written. -/
theorem buffers_stepped (taken : Stepped session state event next)
    (live : next.buffers buffer = some pooled) :
    (buffer = state.acquired ∧ pooled.handle.len = session.info.size ∧
        pooled.written = fun _ => none) ∨
      ∃ before, state.buffers buffer = some before ∧ before.handle = pooled.handle ∧
        (before.written = pooled.written ∨ ∃ offset bytes, event = .write buffer offset bytes) := by
  cases taken with
  | acquire ptr free =>
      rcases lookup_update live with ⟨rfl, new⟩ | ⟨-, before⟩
      · rw [← Option.some.inj new]
        exact .inl ⟨rfl, rfl, rfl⟩
      · exact .inr ⟨pooled, before, rfl, .inl rfl⟩
  | write live' within =>
      rcases lookup_update live with ⟨rfl, same⟩ | ⟨-, before⟩
      · rw [← Option.some.inj same]
        exact .inr ⟨_, live', rfl, .inr ⟨_, _, rfl⟩⟩
      · exact .inr ⟨pooled, before, rfl, .inl rfl⟩
  | renderTaken described copy sends live' registered =>
      simp only [renderTaken, deliver_buffers] at live
      rcases lookup_update live with ⟨rfl, same⟩ | ⟨-, before⟩
      · rw [← Option.some.inj same]
        exact .inr ⟨_, live', rfl, .inl rfl⟩
      · exact .inr ⟨pooled, before, rfl, .inl rfl⟩
  | renderCopied described copy sends live' unregistered free =>
      simp only [renderCopied, deliver_buffers] at live
      rcases lookup_update live with ⟨rfl, same⟩ | ⟨-, before⟩
      · rw [← Option.some.inj same]
        exact .inr ⟨_, live', rfl, .inl rfl⟩
      · exact .inr ⟨pooled, before, rfl, .inl rfl⟩
  | drop live' =>
      rcases lookup_update live with ⟨-, removed⟩ | ⟨-, before⟩
      · cases removed
      · exact .inr ⟨pooled, before, rfl, .inl rfl⟩
  | release ptr => exact .inr ⟨pooled, live, rfl, .inl rfl⟩
  | other ptr loan free => exact .inr ⟨pooled, live, rfl, .inl rfl⟩

theorem Coherent.exposed_stepped (coherent : state.Coherent session)
    (taken : Stepped session state event next) :
    ∀ buffer pooled, next.buffers buffer = some pooled →
      pooled.handle.len = session.info.size := by
  intro buffer pooled live
  rcases buffers_stepped taken live with ⟨-, exposed, -⟩ | ⟨before, live', handle, -⟩
  · exact exposed
  · rw [← handle]
    exact coherent.exposed buffer before live'

/-- What is current after a step was current before, unless it is new. -/
theorem Current.of_stepped (taken : Stepped session state event next) {before : PoolBuffer}
    (older : buffer < state.acquired) (handle : before.handle = pooled.handle)
    (current : next.Current buffer pooled) :
    state.Current buffer before := by
  unfold Current at current ⊢
  rw [handle]
  cases taken with
  | acquire ptr free =>
      rcases lookup_update current with ⟨-, new⟩ | ⟨-, before⟩
      · exact absurd (Option.some.inj new) (Nat.ne_of_gt older)
      · exact before
  | write live within => exact current
  | renderTaken described copy sends live registered =>
      simp only [renderTaken, deliver_lastLoan] at current
      exact current
  | renderCopied described copy sends live unregistered free =>
      simp only [renderCopied, deliver_lastLoan] at current
      rcases lookup_update current with ⟨-, copied⟩ | ⟨-, before⟩
      · cases copied
      · exact before
  | drop live => exact current
  | release ptr => exact current
  | other ptr loan free =>
      rcases lookup_update current with ⟨-, copied⟩ | ⟨-, before⟩
      · cases copied
      · exact before

/-- **A step leaves the memory of a current buffer alone, unless it writes it.** -/
theorem Coherent.read_stepped (coherent : state.Coherent session) (met : state.Undisturbed event)
    (taken : Stepped session state event next) (current : state.Current buffer pooled)
    (stays : next.Current buffer pooled)
    (unwritten : ¬ ∃ offset bytes, event = .write buffer offset bytes) :
    next.read pooled.handle.ptr session.info.size =
      state.read pooled.handle.ptr session.info.size := by
  unfold Current at stays
  cases taken with
  | acquire ptr free => rfl
  | @write other offset pooled' bytes live within =>
      have apart : pooled.handle.ptr ≠ pooled'.handle.ptr := by
        intro same
        have one := (coherent.current live (met pooled' live)).unique current same
        exact unwritten ⟨offset, bytes, one ▸ rfl⟩
      exact read_store_of_ne state apart _ _ _
  | @renderTaken other pooled' sample described copy sends live registered =>
      simp only [renderTaken, read_deliver]
      by_cases same : pooled.handle.ptr = pooled'.handle.ptr
      · have roomy := (coherent.registered _ _ registered).2
        have within : session.info.size ≤ (state.read pooled'.handle.ptr sample.len).length := by
          rw [read, length_contents, roomy]
          exact Nat.le_add_right _ _
        have kept := take_renderZeroCopy session.info (some session.caps) described within
        have written := congrArg List.length kept
        rw [List.length_take, List.length_take, Nat.min_eq_left within] at written
        rw [same]
        refine (read_store_self state _ (by omega)).trans (kept.trans ?_)
        exact take_contents _ (roomy ▸ Nat.le_add_right _ _)
      · exact read_store_of_ne state same _ _ _
  | renderCopied described copy sends live unregistered free =>
      simp only [renderCopied, deliver_lastLoan] at stays
      simp only [renderCopied, read_deliver]
      rcases lookup_update stays with ⟨-, copied⟩ | ⟨apart, -⟩
      · cases copied
      · exact read_store_of_ne state apart _ _ _
  | drop live => rfl
  | release ptr => rfl
  | other ptr loan free =>
      rcases lookup_update stays with ⟨-, copied⟩ | ⟨apart, -⟩
      · cases copied
      · exact read_store_of_ne state apart _ _ _

/-- **What upstream wrote stays in the memory of a current buffer**, and a write puts the
same bytes on record as into the memory. -/
theorem Coherent.holds_stepped (coherent : state.Coherent session) (met : state.Undisturbed event)
    (taken : Stepped session state event next) :
    ∀ buffer pooled, next.buffers buffer = some pooled → next.Current buffer pooled →
      ∀ place < session.info.size, ∀ byte, pooled.written place = some byte →
        next.memory pooled.handle.ptr place = some byte := by
  intro buffer pooled live stays place inside byte written
  rcases buffers_stepped taken live with ⟨-, -, unwritten⟩ | ⟨before, live', handle, wrote⟩
  · rw [unwritten] at written
    cases written
  · have older := coherent.accounted.live _ _ (ledger_holders live')
    have current := Current.of_stepped taken older handle stays
    by_cases writes : ∃ offset bytes, event = .write buffer offset bytes
    · obtain ⟨offset, bytes, rfl⟩ := writes
      cases taken with
      | write live'' within =>
          obtain rfl := Option.some.inj (live''.symm.trans live')
          rcases lookup_update live with ⟨-, new⟩ | ⟨apart, -⟩
          · obtain rfl := Option.some.inj new
            simp only [write, store, Function.update_self] at written ⊢
            rcases overwrite_cases offset (bytes.map some) place with left | ⟨byte', there⟩
            · rw [left] at written ⊢
              exact coherent.holds buffer _ live' current place inside byte written
            · rw [there] at written ⊢
              exact written
          · exact absurd rfl apart
    · have same := wrote.resolve_right writes
      have current' : state.Current buffer pooled := by
        rwa [Current, ← handle]
      have kept := coherent.read_stepped met taken current' stays writes
      rw [contents_eq_contents_iff.mp kept place inside, ← handle]
      exact coherent.holds buffer before live' current place inside byte (same ▸ written)

/-- A current buffer that upstream has written as a whole holds what it wrote. -/
theorem Coherent.holds_whole (coherent : state.Coherent session)
    (live : state.buffers buffer = some pooled) (current : state.Current buffer pooled)
    {bytes : List UInt8} (whole : contents pooled.written session.info.size = bytes.map some) :
    state.read pooled.handle.ptr session.info.size = bytes.map some := by
  rw [← whole]
  refine contents_eq_contents_iff.mpr ?_
  intro place inside
  obtain ⟨byte, there⟩ := exists_byte_of_contents whole inside
  rw [there]
  exact coherent.holds buffer pooled live current place inside byte there

/-- What a registered loan holds: what upstream wrote, and the reserve. -/
theorem Coherent.read_registered (coherent : state.Coherent session)
    (live : state.buffers buffer = some pooled) (current : state.Current buffer pooled)
    {sample : SendSample} (registered : state.registry pooled.handle.ptr = some sample)
    {bytes : List UInt8} (written : contents pooled.written session.info.size = bytes.map some) :
    ∃ reserve, reserve.length = session.auxReserve ∧
      state.read pooled.handle.ptr sample.len = bytes.map some ++ reserve := by
  have len := (coherent.registered _ _ registered).2
  refine ⟨(state.read pooled.handle.ptr sample.len).drop session.info.size, ?_, ?_⟩
  · rw [List.length_drop, read, length_contents, len, Nat.add_sub_cancel_left]
  · have pixels : (state.read pooled.handle.ptr sample.len).take session.info.size =
        bytes.map some := by
      rw [← coherent.holds_whole live current written]
      exact take_contents _ (len ▸ Nat.le_add_right _ _)
    rw [← pixels, List.take_append_drop]

theorem length_of_written {bytes : List UInt8}
    (written : contents pooled.written session.info.size = bytes.map some) :
    bytes.length = session.info.size := by
  have held := congrArg List.length written
  rw [length_contents, List.length_map] at held
  exact held.symm

/-- **A render of a current buffer publishes what upstream last wrote into it.** -/
theorem Coherent.faithful_stepped (coherent : state.Coherent session)
    (met : state.Undisturbed event) (taken : Stepped session state event next) :
    ∀ sample ∈ next.published, sample.Faithful session := by
  intro sample published
  cases taken with
  | renderTaken described copy sends live registered =>
      rcases mem_published_deliver published with earlier | rfl
      · exact coherent.faithful sample earlier
      · intro bytes written
        have current := coherent.current live (met _ live)
        obtain ⟨reserve, len, held⟩ := coherent.read_registered live current registered written
        refine ⟨_, ?_, .inl rfl⟩
        rw [held, ← len]
        exact Sink.sentFrame_zeroCopy session.caps described reserve []
          (length_of_written written)
  | renderCopied described copy sends live unregistered free =>
      rcases mem_published_deliver published with earlier | rfl
      · exact coherent.faithful sample earlier
      · intro bytes written
        have current := coherent.current live (met _ live)
        refine ⟨_, ?_, .inr rfl⟩
        rw [coherent.exposed _ _ live, coherent.holds_whole live current written]
        exact Sink.sentFrame_copy session.info session.caps described bytes
  | acquire ptr free => exact coherent.faithful sample published
  | write live within => exact coherent.faithful sample published
  | drop live => exact coherent.faithful sample published
  | release ptr => exact coherent.faithful sample published
  | other ptr loan free => exact coherent.faithful sample published

/-- **An undisturbed step keeps the memory of current buffers theirs.** -/
theorem Coherent.stepped (coherent : state.Coherent session) (met : state.Undisturbed event)
    (taken : Stepped session state event next) : next.Coherent session where
  accounted := coherent.accounted.step (ledgerStep_of_stepped taken)
  linear := (linear_stepped_iff coherent.accounted coherent.linear taken).mpr
    (coherent.leavesLaterLoans met)
  registered := coherent.registered_stepped taken
  exposed := coherent.exposed_stepped taken
  holds := coherent.holds_stepped met taken
  faithful := coherent.faithful_stepped met taken

end Steps

/-! ## Whole runs -/

section Runs

variable {session : Session gst} {state : State gst} {events : List (Event gst)}

theorem coherent_of_run (run : Run (step session) Undisturbed started events state) :
    state.Coherent session := by
  refine run.invariant (fun state => state.Coherent session) coherent_started ?_
  intro before event after coherent met taken
  exact coherent.stepped met (stepped_of_step taken)

/-- **What render publishes is what upstream wrote, in every run in which no buffer
is written or rendered again after its render once its address is loaned out
again, or dropped then while the later loan is registered there.** -/
theorem published_faithful (run : Run (step session) Undisturbed started events state) :
    ∀ sample ∈ state.published, sample.Faithful session :=
  (coherent_of_run run).faithful

end Runs

/-! ## A buffer rendered again -/

/-- A buffer whose sample is released, and whose address is not loaned out again,
is copied as it was. -/
theorem published_faithful_again :
    ∃ state : State twoCapsGst, (state.published.map Published.buffer = [0, 0]) ∧
      ∀ sample ∈ state.published, sample.Faithful onePixelSession := by
  have run : ∃ state, Run (step onePixelSession) Undisturbed started
      [.acquire 0, .write 0 0 [1, 2, 3, 4], .render 0 (plainBuffer twoCapsGst) 1 true, .release 0,
        .render 0 (plainBuffer twoCapsGst) 1 true] state ∧
      state.published.map Published.buffer = [0, 0] := by
    refine ⟨_, .cons trivial rfl (.cons ?_ rfl (.cons ?_ rfl (.cons trivial rfl
      (.cons ?_ rfl .nil)))), rfl⟩
    all_goals
      intro pooled live _
      cases live
      rfl
  obtain ⟨state, run, published⟩ := run
  exact ⟨state, published, published_faithful run⟩

/-- **A buffer kept beyond its render publishes what another buffer holds.** Its
sample is released and its address loaned out again; the other buffer is written
and rendered, and rendering the first one again copies that. -/
theorem published_unfaithful :
    ∃ state, Run (step onePixelSession) unguarded started
        [.acquire 0, .write 0 0 [1, 2, 3, 4], .render 0 (plainBuffer twoCapsGst) 1 true, .release 0,
          .acquire 0, .write 1 0 [5, 6, 7, 8], .render 1 (plainBuffer twoCapsGst) 1 true,
          .render 0 (plainBuffer twoCapsGst) 1 true] state ∧
      ¬ ∀ sample ∈ state.published, sample.Faithful onePixelSession := by
  refine ⟨_, execute_eq_some_iff.mp rfl, ?_⟩
  intro faithful
  have last := faithful _
    (List.mem_cons_of_mem _ (List.mem_cons_of_mem _ (List.mem_singleton_self _)))
  obtain ⟨aux, sent, -⟩ := last [1, 2, 3, 4] rfl
  have first : some (some (5 : UInt8)) = some (some 1) :=
    congrArg List.head? (Loan.payload_of_assumeInit sent)
  exact absurd first (by decide)

end State

end GstIceoryx2.Element.Pool
