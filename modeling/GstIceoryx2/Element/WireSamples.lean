import GstIceoryx2.Element.Source

/-!
# Samples from the wire

Any process can publish on the service, so a sample may hold anything. The source
drops one whose geometry is rejected and goes on. For any other it needs caps: those
of the aux blob when their text parses, or caps built for the format and size of the
header. When there are none, or when downstream refuses them, `create` returns an
error, and the stream ends.

A sample that is not a sentinel is delivered or dropped exactly when its geometry is
rejected or there are caps for it that are remembered or taken downstream
(`takeSample_survived_iff`). A width of zero is enough for a failure: it passes the
validator, and no caps are built for it (`takeSample_width_zero`).
-/

set_option autoImplicit false

namespace GstIceoryx2.Element.Source

open Foundations Video

variable {gst : Gst}

/-- The caps there are for a sample: the text in its blob parses to them, or there
is no text that parses and they are built for its header. -/
inductive WireCaps (gst : Gst) (frame : VideoFrame) : gst.Caps → Prop where
  | sent {text : String} {caps : gst.Caps} (travelled : frame.parsedAux.caps = some text)
      (parses : gst.parseCaps text = some caps) : WireCaps gst frame caps
  | built {caps : gst.Caps}
      (none : ∀ text, frame.parsedAux.caps = some text → gst.parseCaps text = none)
      (builds : gst.buildCaps (.raw frame.header.formatName) frame.header.width
        frame.header.height = some caps) : WireCaps gst frame caps

/-- The sample is delivered, or it is dropped and `create` goes on with the next. -/
def Outcome.Survived : Outcome gst → Prop
  | .delivered _ => True
  | .dropped _ => True
  | _ => False

/-- A sample leaves a stream alive when its geometry is rejected, or there are caps
for it that are remembered or that downstream takes. -/
def Survivable (downstream : gst.Caps → Bool) (state : State gst) (frame : VideoFrame) : Prop :=
  (∃ why, validateGeometry .bits64 frame.header frame.pixelSize = .error why) ∨
    ∃ caps, WireCaps gst frame caps ∧ (state.lastCaps = some caps ∨ downstream caps = true)

theorem caps_auxOf (gst : Gst) (frame : VideoFrame) :
    (auxOf gst frame).caps = frame.parsedAux.caps.bind gst.parseCaps := by
  rw [auxOf_eq]
  rfl

/-- **The caps that are chosen for a sample of a supported format.** -/
theorem chosenCaps_eq_some_iff (documented : gst.Documented) {frame : VideoFrame}
    (supported : frame.header.formatName ∈ supportedFormats) {caps : gst.Caps} :
    chosenCaps gst frame = some caps ↔ WireCaps gst frame caps := by
  have known : (CapsInfo.fromHeader frame.header).toCaps gst =
      gst.buildCaps (.raw frame.header.formatName) frame.header.width frame.header.height := by
    simp only [CapsInfo.toCaps, CapsInfo.videoFormat, CapsInfo.fromHeader,
      documented.formats _ supported]
  unfold chosenCaps
  rw [caps_auxOf, known]
  cases travelled : frame.parsedAux.caps with
  | none =>
      constructor
      · intro builds
        refine .built ?_ builds
        intro text sent
        cases travelled.symm.trans sent
      · rintro (⟨sent, -⟩ | ⟨-, builds⟩)
        · cases travelled.symm.trans sent
        · exact builds
  | some text =>
      have same : ∀ {other}, frame.parsedAux.caps = some other → other = text := fun sent =>
        Option.some.inj (sent.symm.trans travelled)
      cases parses : gst.parseCaps text with
      | none =>
          simp only [Option.bind_some, parses]
          constructor
          · intro builds
            refine .built ?_ builds
            intro other sent
            rw [same sent, parses]
          · rintro (⟨sent, parses'⟩ | ⟨-, builds⟩)
            · rw [same sent, parses] at parses'
              cases parses'
            · exact builds
      | some parsed =>
          simp only [Option.bind_some, parses]
          constructor
          · rintro ⟨⟩
            exact .sent travelled parses
          · rintro (⟨sent, parses'⟩ | ⟨none, -⟩)
            · rw [same sent, parses] at parses'
              exact parses'
            · cases (none text travelled).symm.trans parses

/-- **A sample does not end the stream in exactly the cases that the source is
prepared for**: its geometry is rejected, or there are caps for it that are
remembered or taken downstream. -/
theorem takeSample_survived_iff (documented : gst.Documented) (downstream : gst.Caps → Bool)
    (state : State gst) {frame : VideoFrame} (live : frame.isEos = false) :
    (takeSample downstream state frame).2.Survived ↔ Survivable downstream state frame := by
  cases accepted : validateGeometry .bits64 frame.header frame.pixelSize with
  | error why =>
      rw [takeSample_of_rejected downstream state live accepted]
      exact iff_of_true trivial (.inl ⟨why, accepted⟩)
  | ok _ =>
      have notRejected : ¬ ∃ why,
          validateGeometry .bits64 frame.header frame.pixelSize = .error why := by
        rintro ⟨why, rejected⟩
        cases accepted.symm.trans rejected
      have wire : ∀ {caps}, chosenCaps gst frame = some caps ↔ WireCaps gst frame caps :=
        chosenCaps_eq_some_iff documented (supported_of_accepted accepted)
      rw [Survivable, or_iff_right notRejected]
      cases chosen : chosenCaps gst frame with
      | none =>
          rw [takeSample_of_no_caps downstream state live accepted chosen]
          refine iff_of_false (fun survived => survived) ?_
          rintro ⟨caps, there, -⟩
          cases chosen.symm.trans (wire.mpr there)
      | some caps =>
          rw [takeSample_of_accepted downstream state live accepted chosen]
          have only : (∃ caps, WireCaps gst frame caps ∧
              (state.lastCaps = some caps ∨ downstream caps = true)) ↔
                (state.lastCaps = some caps ∨ downstream caps = true) := by
            constructor
            · rintro ⟨other, there, taken⟩
              obtain rfl := Option.some.inj (chosen.symm.trans (wire.mpr there))
              exact taken
            · intro taken
              exact ⟨caps, wire.mp chosen, taken⟩
          rw [only]
          split_ifs with remembered taken
          · exact iff_of_true trivial (.inl remembered)
          · exact iff_of_true trivial (.inr taken)
          · exact iff_of_false (fun survived => survived) (by simp [remembered, taken])

/-- A sample that downstream takes caps for is delivered. -/
theorem takeSample_survived_iff_onePixel :
    (takeSample (fun _ => true) (.started twoCapsGst)
      ⟨onePixelHeader 4, [1, 2, 3, 4]⟩).2.Survived := by
  refine (takeSample_survived_iff twoCapsGst_documented _ _ (by decide)).mpr (.inr ?_)
  refine ⟨TwoCaps.onePixel, .built ?_ (by decide), .inr rfl⟩
  intro text travelled
  have none : (⟨onePixelHeader 4, [1, 2, 3, 4]⟩ : VideoFrame).parsedAux.caps = none := rfl
  cases none.symm.trans travelled

/-- One row without a pixel. -/
def widthZeroFrame : VideoFrame where
  header := { onePixelHeader 4 with width := 0 }
  payload := [1, 2, 3, 4]

/-- **A sample of width zero passes the validator and ends the stream.** -/
theorem takeSample_width_zero :
    widthZeroFrame.isEos = false ∧
      validateGeometry .bits64 widthZeroFrame.header widthZeroFrame.pixelSize = .ok () ∧
      (∀ downstream, (takeSample downstream (.started twoCapsGst) widthZeroFrame).2 =
        .notNegotiated) ∧
      ¬ ∀ downstream, (takeSample downstream (.started twoCapsGst) widthZeroFrame).2.Survived := by
  have ends : ∀ downstream, (takeSample downstream (.started twoCapsGst) widthZeroFrame).2 =
      .notNegotiated := fun downstream => rfl
  refine ⟨by decide, by decide, ends, ?_⟩
  intro survived
  have alive := survived fun _ => true
  rw [ends] at alive
  exact alive

end GstIceoryx2.Element.Source
