import GstIceoryx2.Video.Publish

/-!
# Publishing a frame from the Python package

The Python package mirrors the publisher of the SDK. It fills a structure of the
package `ctypes`, which cuts integers to the width of their field as the Rust casts
do. The format is another matter: a character array takes bytes that fill it without
a terminator, and refuses longer ones, where the Rust writer truncates.

So the two write the same frame, or both fail, exactly when the name of the format
leaves room for a terminator or nothing gets as far as the ring anyway
(`publishers_agree_iff`).
-/

set_option autoImplicit false

namespace GstIceoryx2.Python

open Foundations Video

/-! ## The character array -/

/-- What publishing raises: an exception of the transport, or bytes that are too long
for a character array. -/
inductive PublishRaised where
  | transport (cause : String)
  | valueError (size maximum : Nat)
  deriving DecidableEq

/-- The text of an exception. -/
def PublishRaised.message : PublishRaised → String
  | transport cause => cause
  | valueError size maximum => s!"bytes too long ({size}, maximum length {maximum})"

/-- Bytes behind which there are NULs up to the length of the field. -/
def paddedBytes (bytes : List UInt8) (fits : bytes.length ≤ formatLen) : Vector UInt8 formatLen :=
  ⟨(bytes ++ List.replicate (formatLen - bytes.length) 0).toArray, by
    simp only [List.size_toArray, List.length_append, List.length_replicate]
    omega⟩

/-- Assign bytes to a character array of zeros: they are cut at their first NUL, and
refused when they are longer than the array. -/
def assignFormat (value : List UInt8) : Except PublishRaised (Vector UInt8 formatLen) :=
  let bytes := value.takeWhile (· != 0)
  if fits : bytes.length ≤ formatLen then .ok (paddedBytes bytes fits)
  else .error (.valueError bytes.length formatLen)

/-! ## Publishing -/

/-- The header of a frame with a number of bytes of pixels. -/
def frameHeader (n : Nat) (params : FrameParams) : Except PublishRaised VideoFrameHeader :=
  let header : VideoFrameHeader := { VideoFrameHeader.zeroed with
    pts := params.pts
    dts := 0xFFFFFFFFFFFFFFFF
    duration := 0xFFFFFFFFFFFFFFFF
    offset := params.offset
    flags := 0
    width := params.width
    height := params.height
    nPlanes := params.nPlanes
    auxSize := 0
    stride := VideoFrameHeader.zeroed.stride.set 0
      (match params.stride0 with
        | some stride0 => stride0
        | none => UInt32.ofNat
            (if params.height.toNat ≠ 0 then n / params.height.toNat else n))
      maxPlanes_pos }
  match assignFormat (asBytes params.format) with
  | .error raised => .error raised
  | .ok format => .ok { header with format := format }

/-- `publish_frame`. The header is made after the loan, and before anything is sent. -/
def publishFrame (faults : Faults) (pixels : List UInt8) (params : FrameParams) :
    Published PublishRaised :=
  match faults.loan with
  | some cause => ⟨none, .error (.transport cause)⟩
  | none =>
      match frameHeader pixels.length params with
      | .error raised => ⟨none, .error raised⟩
      | .ok header =>
          match faults.send with
          | some cause => ⟨none, .error (.transport cause)⟩
          | none =>
              let frame : Video.VideoFrame := ⟨header, pixels⟩
              match faults.notify with
              | some cause => ⟨some frame, .error (.transport cause)⟩
              | none => ⟨some frame, .ok ()⟩

/-! ## The two headers -/

/-- The header before the format is written is that of Rust. -/
theorem frameHeader_eq (n : Nat) (params : FrameParams) :
    frameHeader n params =
      match assignFormat (asBytes params.format) with
      | .error raised => .error raised
      | .ok format => .ok { Video.frameHeader n params with format := format } := by
  have rows : params.height.toNat ≠ 0 ↔ params.height > 0 := by
    rw [← Nat.pos_iff_ne_zero, gt_iff_lt, UInt32.lt_iff_toNat_lt]
    rfl
  have stride : (match params.stride0 with
      | some stride0 => stride0
      | none => UInt32.ofNat (if params.height.toNat ≠ 0 then n / params.height.toNat else n)) =
      params.stride0.getD
        (UInt32.ofNat (if params.height > 0 then n / params.height.toNat else n)) := by
    cases params.stride0 with
    | some stride0 => rfl
    | none => simp only [rows, Option.getD_none]
  simp only [frameHeader, stride]
  rfl

/-- The Rust writer always leaves a terminator. -/
theorem zero_mem_paddedFormat (name : String) :
    0 ∈ (VideoFrameHeader.paddedFormat name).toList := by
  obtain ⟨rest, shown⟩ := VideoFrameHeader.exists_paddedFormat_eq name
  rw [shown]
  apply List.mem_append_right
  exact List.mem_cons_self

section Format

variable {name : String} (noNul : 0 ∉ asBytes name)
include noNul

theorem takeWhile_asBytes : (asBytes name).takeWhile (· != 0) = asBytes name := by
  rw [List.takeWhile_eq_self_iff]
  intro byte member
  exact bne_iff_ne.mpr fun nul => noNul (nul ▸ member)

/-- A name that leaves room for a terminator is written alike. -/
theorem assignFormat_of_short (short : (asBytes name).length < formatLen) :
    assignFormat (asBytes name) = .ok (VideoFrameHeader.paddedFormat name) := by
  have whole : (asBytes name).take (formatLen - 1) = asBytes name :=
    List.take_of_length_le (Nat.le_sub_one_of_lt short)
  have bytes := takeWhile_asBytes noNul
  simp only [assignFormat, bytes, dif_pos (Nat.le_of_lt short)]
  simp only [paddedBytes, VideoFrameHeader.paddedFormat, whole]

/-- A name that fills the array is written without a terminator. -/
theorem assignFormat_of_full (full : (asBytes name).length = formatLen) :
    ∃ format, assignFormat (asBytes name) = .ok format ∧
      format ≠ VideoFrameHeader.paddedFormat name := by
  have bytes := takeWhile_asBytes noNul
  refine ⟨paddedBytes (asBytes name) (Nat.le_of_eq full), ?_, fun same => ?_⟩
  · simp only [assignFormat, bytes, dif_pos (Nat.le_of_eq full)]
  · have terminated := zero_mem_paddedFormat name
    have filled : (paddedBytes (asBytes name) (Nat.le_of_eq full)).toList = asBytes name := by
      have noPadding : formatLen - (asBytes name).length = 0 := by omega
      simp only [paddedBytes, noPadding, List.replicate_zero, List.append_nil]
      rfl
    rw [← same, filled] at terminated
    exact noNul terminated

/-- A longer name is refused. -/
theorem assignFormat_of_long (long : formatLen < (asBytes name).length) :
    assignFormat (asBytes name) = .error (.valueError (asBytes name).length formatLen) := by
  have bytes := takeWhile_asBytes noNul
  simp only [assignFormat, bytes, dif_neg (Nat.not_le_of_lt long)]

end Format

theorem frameHeader_of_short {n : Nat} {params : FrameParams} (noNul : 0 ∉ asBytes params.format)
    (short : (asBytes params.format).length < formatLen) :
    frameHeader n params = .ok (Video.frameHeader n params) := by
  rw [frameHeader_eq, assignFormat_of_short noNul short]
  rfl

/-- With a header, what is published is decided by the transport. -/
theorem publishFrame_of_header {faults : Faults} {pixels : List UInt8} {params : FrameParams}
    {header : VideoFrameHeader} (made : frameHeader pixels.length params = .ok header)
    (loaned : faults.loan = none) (sent : faults.send = none) :
    (publishFrame faults pixels params).frame = some ⟨header, pixels⟩ ∧
      ((publishFrame faults pixels params).result.isOk ↔ faults.notify = none) := by
  obtain ⟨loan, send, notify⟩ := faults
  obtain rfl : loan = none := loaned
  obtain rfl : send = none := sent
  cases notify with
  | some cause => simp [publishFrame, made, Except.isOk, Except.toBool]
  | none => simp [publishFrame, made, Except.isOk, Except.toBool]

/-- Without a header, a slice or a send, nothing is published. -/
theorem publishFrame_of_failure {faults : Faults} {pixels : List UInt8} {params : FrameParams}
    (failed : (∃ raised, frameHeader pixels.length params = .error raised) ∨
      faults.loan.isSome ∨ faults.send.isSome) :
    (publishFrame faults pixels params).frame = none ∧
      ¬ (publishFrame faults pixels params).result.isOk := by
  obtain ⟨loan, send, notify⟩ := faults
  cases loan with
  | some cause => exact ⟨rfl, nofun⟩
  | none =>
      cases made : frameHeader pixels.length params with
      | error raised => simp [publishFrame, made, Except.isOk, Except.toBool]
      | ok header =>
          cases send with
          | some cause => simp [publishFrame, made, Except.isOk, Except.toBool]
          | none => simp [made] at failed

/-- What is published is the pixels behind the header. -/
theorem eq_of_header_of_published {faults : Faults} {pixels : List UInt8} {params : FrameParams}
    {header : VideoFrameHeader} {frame : Video.VideoFrame}
    (made : frameHeader pixels.length params = .ok header)
    (published : (publishFrame faults pixels params).frame = some frame) :
    frame = ⟨header, pixels⟩ := by
  by_cases failed : faults.loan.isSome ∨ faults.send.isSome
  · rw [(publishFrame_of_failure (.inr failed)).1] at published
    cases published
  · simp only [not_or, Option.not_isSome_iff_eq_none] at failed
    rw [(publishFrame_of_header made failed.1 failed.2).1] at published
    exact (Option.some.inj published).symm

/-! ## The same bytes -/

/-- The two put the same on the ring, and return alike. -/
def Agree {ε ε' : Type} (rust : Published ε) (python : Published ε') : Prop :=
  rust.frame = python.frame ∧ (rust.result.isOk ↔ python.result.isOk)

/-- With a slice that is loaned and sent, Rust publishes, and returns as it notified. -/
theorem rust_publishFrame {faults : Faults} (pixels : List UInt8) (params : FrameParams)
    (loaned : faults.loan = none) (sent : faults.send = none) :
    (Video.publishFrame faults pixels params).frame =
        some ⟨Video.frameHeader pixels.length params, pixels⟩ ∧
      ((Video.publishFrame faults pixels params).result.isOk ↔ faults.notify = none) := by
  obtain ⟨loan, send, notify⟩ := faults
  obtain rfl : loan = none := loaned
  obtain rfl : send = none := sent
  cases notify with
  | some cause => simp [Video.publishFrame, Except.isOk, Except.toBool]
  | none => simp [Video.publishFrame, Except.isOk, Except.toBool]

theorem rust_publishFrame_of_failure {faults : Faults} (pixels : List UInt8) (params : FrameParams)
    (failed : faults.loan.isSome ∨ faults.send.isSome) :
    (Video.publishFrame faults pixels params).frame = none ∧
      ¬ (Video.publishFrame faults pixels params).result.isOk := by
  obtain ⟨loan, send, notify⟩ := faults
  cases loan with
  | some cause => exact ⟨rfl, nofun⟩
  | none =>
      cases send with
      | some cause => exact ⟨rfl, nofun⟩
      | none => simp at failed

/-- **The two publishers write the same frame, or both fail, exactly when the name of
the format leaves room for a terminator, or no slice is loaned, or it is not sent.**
This is for every name without a NUL, and for any calls that fail. -/
theorem publishers_agree_iff (faults : Faults) (pixels : List UInt8) (params : FrameParams)
    (noNul : 0 ∉ asBytes params.format) :
    Agree (Video.publishFrame faults pixels params) (publishFrame faults pixels params) ↔
      (asBytes params.format).length < formatLen ∨ faults.loan.isSome ∨ faults.send.isSome := by
  by_cases failed : faults.loan.isSome ∨ faults.send.isSome
  · obtain ⟨rustFrame, rustFails⟩ := rust_publishFrame_of_failure pixels params failed
    obtain ⟨pythonFrame, pythonFails⟩ : (publishFrame faults pixels params).frame = none ∧ _ :=
      publishFrame_of_failure (.inr failed)
    exact iff_of_true ⟨rustFrame.trans pythonFrame.symm, iff_of_false rustFails pythonFails⟩
      (.inr failed)
  · have both := failed
    simp only [not_or, Option.not_isSome_iff_eq_none] at both
    obtain ⟨loaned, sent⟩ := both
    obtain ⟨rustFrame, rustReturns⟩ := rust_publishFrame pixels params loaned sent
    simp only [failed, or_false]
    rcases Nat.lt_trichotomy (asBytes params.format).length formatLen with short | full | long
    · obtain ⟨pythonFrame, pythonReturns⟩ :=
        publishFrame_of_header (frameHeader_of_short noNul short) loaned sent
      exact iff_of_true ⟨rustFrame.trans pythonFrame.symm, rustReturns.trans pythonReturns.symm⟩
        short
    · obtain ⟨format, assigned, differs⟩ := assignFormat_of_full noNul full
      have made : frameHeader pixels.length params =
          .ok { Video.frameHeader pixels.length params with format := format } := by
        rw [frameHeader_eq, assigned]
      obtain ⟨pythonFrame, -⟩ := publishFrame_of_header made loaned sent
      refine iff_of_false ?_ (Nat.not_lt_of_le (Nat.le_of_eq full.symm))
      rintro ⟨same, -⟩
      rw [rustFrame, pythonFrame] at same
      have headers := congrArg (fun frame : Video.VideoFrame => frame.header.format)
        (Option.some.inj same)
      exact differs headers.symm
    · have refused : frameHeader pixels.length params =
          .error (.valueError (asBytes params.format).length formatLen) := by
        rw [frameHeader_eq, assignFormat_of_long noNul long]
      obtain ⟨pythonFrame, -⟩ : (publishFrame faults pixels params).frame = none ∧ _ :=
        publishFrame_of_failure (.inl ⟨_, refused⟩)
      refine iff_of_false ?_ (Nat.not_lt_of_le (Nat.le_of_lt long))
      rintro ⟨same, -⟩
      rw [rustFrame, pythonFrame] at same
      cases same

/-- A name of five bytes. -/
theorem publishers_agree_iff_gray :
    Agree (Video.publishFrame .none [1, 2] { FrameParams.default with format := "GRAY8" })
      (publishFrame .none [1, 2] { FrameParams.default with format := "GRAY8" }) :=
  (publishers_agree_iff .none [1, 2] { FrameParams.default with format := "GRAY8" }
    (by decide)).mpr (.inl (by decide))

/-- A name of seventeen bytes: Rust publishes a frame, and Python raises an exception. -/
theorem publishers_disagree :
    ¬ Agree
      (Video.publishFrame .none [1, 2] { FrameParams.default with format := "A_GRAY_OF_17_BITS" })
      (publishFrame .none [1, 2] { FrameParams.default with format := "A_GRAY_OF_17_BITS" }) := by
  rintro ⟨same, -⟩
  cases same

/-! ## Planar frames -/

theorem planar_format {params : FrameParams} (planar : IsPlanar params) :
    0 ∉ asBytes params.format ∧ (asBytes params.format).length < formatLen := by
  rcases planar with ⟨i420, -⟩ | ⟨nv12, -⟩
  · rw [i420]
    decide
  · rw [nv12]
    decide

/-- **No planar frame is described by the header either language publishes.** For every
tightly packed planar frame of an even size, both publish it unless a call fails, and
whatever is published has a header in which no plane has the stride of its own rows and
all planes start at the start of the payload. -/
theorem planar_never_described {pixels : List UInt8} {params : FrameParams}
    (tight : TightPlanar pixels.length params) :
    (∃ frame, (Video.publishFrame .none pixels params).frame = some frame ∧
        (publishFrame .none pixels params).frame = some frame) ∧
      ∀ faults frame, ((Video.publishFrame faults pixels params).frame = some frame ∨
          (publishFrame faults pixels params).frame = some frame) →
        (∀ plane ∈ frame.header.planes, plane.stride ≠ plane.rowLength ∧ plane.offset = 0) ∧
          ¬ DescribesPlanes frame.header frame.payload.length := by
  obtain ⟨noNul, short⟩ := planar_format tight.planar
  have made : frameHeader pixels.length params = .ok (Video.frameHeader pixels.length params) :=
    frameHeader_of_short noNul short
  obtain ⟨strides, offsets, misdescribed⟩ := frameHeader_misdescribes tight
  constructor
  · exact ⟨_, (rust_publishFrame pixels params rfl rfl).1, (publishFrame_of_header made rfl rfl).1⟩
  · intro faults frame published
    have same : frame = ⟨Video.frameHeader pixels.length params, pixels⟩ := by
      rcases published with rust | python
      · exact eq_of_published rust
      · exact eq_of_header_of_published made python
    subst same
    exact ⟨fun plane member => ⟨strides plane member, offsets plane member⟩, misdescribed⟩

/-- Two luma rows of two pixels with one chroma pixel. -/
def smallI420 : FrameParams :=
  { FrameParams.default with width := 2, height := 2, format := "I420", nPlanes := 3 }

theorem smallI420_tight : TightPlanar 6 smallI420 where
  planar := .inl ⟨rfl, rfl⟩
  derived := rfl
  evenWidth := by decide
  evenHeight := by decide
  someWidth := by decide
  someHeight := by decide
  tight := by decide

theorem planar_never_described_small :
    ¬ DescribesPlanes (Video.frameHeader 6 smallI420) 6 := by
  have tight : TightPlanar ([1, 2, 3, 4, 5, 6] : List UInt8).length smallI420 := smallI420_tight
  exact ((planar_never_described tight).2 .none _ (.inl rfl)).2

/-- The frame is published with a stride of three for its luma rows of two bytes, and
nothing for its chroma. -/
theorem planar_published_misdescribed :
    (Video.publishFrame .none [1, 2, 3, 4, 5, 6] smallI420).frame =
        (publishFrame .none [1, 2, 3, 4, 5, 6] smallI420).frame ∧
      (Video.frameHeader 6 smallI420).stride.toList = [3, 0, 0, 0] ∧
      ¬ DescribesPlanes (Video.frameHeader 6 smallI420) 6 := by
  refine ⟨rfl, by decide, by decide⟩

end GstIceoryx2.Python
