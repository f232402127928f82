import Mathlib.Data.List.Induction
import Mathlib.Data.List.Perm.Basic
import Mathlib.Logic.Function.Basic
import GstIceoryx2.Foundations.Runs

/-!
# Services and their participants

A service is opened by its name with the quality of service that the participant wants,
or created with it. Sinks and sources take it from their properties, the publishers and
subscribers of the packages take the default one. A lossless sink asks for a ring that
does not overflow, whatever its property `safe-overflow` is.

A property keeps the last value that was set, and setting one leaves the others alone
(`SinkSettings.get_configure`). So a sink configuration can be applied in any order
(`configured_in_any_order`). Attached participants of one service agree on the overflow,
and a lossless sink is never attached together with a participant of a package or
with a source that allows overflow (`lossless_apart`).

How a service is compared with what a participant asks for is the library's; what is
relied on is that it refuses another overflow behaviour.
-/

set_option autoImplicit false

namespace GstIceoryx2.Element.Services

open Foundations

/-! ## Quality of service -/

/-- The QoS of a service. -/
structure Qos where
  bufferSize : UInt32
  borrowedMax : UInt32
  historySize : UInt32
  safeOverflow : Bool
  deriving DecidableEq

/-- `Qos::default`. -/
def Qos.default : Qos where
  bufferSize := 10
  borrowedMax := 10
  historySize := 0
  safeOverflow := true

/-- `DEFAULT_SERVICE`. -/
def defaultService : String := "video/default/frame/v2"

/-- A value of a property. -/
inductive PropValue where
  | str (text : String)
  | uint (number : UInt32)
  | bool (flag : Bool)
  deriving DecidableEq

/-! ## The properties of the sink -/

/-- The properties of the sink that can be set. -/
inductive SinkProperty where
  | service
  | maxBytes
  | bufferSize
  | borrowedMax
  | historySize
  | safeOverflow
  | waitForConnection
  | lossless
  | auxBytes
  deriving DecidableEq

/-- The settings of a sink. -/
structure SinkSettings where
  service : String
  maxBytes : UInt32
  bufferSize : UInt32
  borrowedMax : UInt32
  historySize : UInt32
  safeOverflow : Bool
  waitForConnection : Bool
  lossless : Bool
  auxBytes : UInt32
  deriving DecidableEq

namespace SinkSettings

/-- The settings of a new sink. -/
def default : SinkSettings where
  service := defaultService
  maxBytes := 0
  bufferSize := 10
  borrowedMax := 10
  historySize := 0
  safeOverflow := true
  waitForConnection := false
  lossless := false
  auxBytes := 4096

/-- `set_property`. A value of another type is a panic. -/
def set (settings : SinkSettings) : SinkProperty × PropValue → Option SinkSettings
  | (.service, .str value) => some { settings with service := value }
  | (.maxBytes, .uint value) => some { settings with maxBytes := value }
  | (.bufferSize, .uint value) => some { settings with bufferSize := value }
  | (.borrowedMax, .uint value) => some { settings with borrowedMax := value }
  | (.historySize, .uint value) => some { settings with historySize := value }
  | (.safeOverflow, .bool value) => some { settings with safeOverflow := value }
  | (.waitForConnection, .bool value) => some { settings with waitForConnection := value }
  | (.lossless, .bool value) => some { settings with lossless := value }
  | (.auxBytes, .uint value) => some { settings with auxBytes := value }
  | _ => none

/-- `property`, for the settings. -/
def get (settings : SinkSettings) : SinkProperty → PropValue
  | .service => .str settings.service
  | .maxBytes => .uint settings.maxBytes
  | .bufferSize => .uint settings.bufferSize
  | .borrowedMax => .uint settings.borrowedMax
  | .historySize => .uint settings.historySize
  | .safeOverflow => .bool settings.safeOverflow
  | .waitForConnection => .bool settings.waitForConnection
  | .lossless => .bool settings.lossless
  | .auxBytes => .uint settings.auxBytes

/-- Set properties one after another. -/
def configure (settings : SinkSettings) (props : List (SinkProperty × PropValue)) :
    Option SinkSettings :=
  props.foldlM set settings

/-- The QoS that `start` asks for. -/
def qos (settings : SinkSettings) : Qos where
  bufferSize := settings.bufferSize
  borrowedMax := settings.borrowedMax
  historySize := settings.historySize
  safeOverflow := settings.safeOverflow && !settings.lossless

/-- The settings are what can be read of them. -/
theorem eq_of_get {settings other : SinkSettings}
    (same : ∀ property, settings.get property = other.get property) : settings = other := by
  have service := same .service
  have maxBytes := same .maxBytes
  have bufferSize := same .bufferSize
  have borrowedMax := same .borrowedMax
  have historySize := same .historySize
  have safeOverflow := same .safeOverflow
  have waitForConnection := same .waitForConnection
  have lossless := same .lossless
  have auxBytes := same .auxBytes
  cases settings
  cases other
  simp only [get, PropValue.str.injEq, PropValue.uint.injEq, PropValue.bool.injEq] at *
  simp only [mk.injEq]
  exact ⟨service, maxBytes, bufferSize, borrowedMax, historySize, safeOverflow,
    waitForConnection, lossless, auxBytes⟩

/-- **A property that is set is read back, and the others are as they were.** -/
theorem get_set {settings next : SinkSettings} {prop : SinkProperty × PropValue}
    (done : settings.set prop = some next) (property : SinkProperty) :
    next.get property = if prop.1 = property then prop.2 else settings.get property := by
  obtain ⟨changed, value⟩ := prop
  cases changed <;> cases value <;> cases done <;> cases property <;> rfl

/-- A value of the right type is taken, whatever the settings are. -/
theorem set_isSome (settings other : SinkSettings) (prop : SinkProperty × PropValue) :
    (settings.set prop).isSome = (other.set prop).isSome := by
  obtain ⟨changed, value⟩ := prop
  cases changed <;> cases value <;> rfl

/-- The last value that is set. -/
def lastSet (props : List (SinkProperty × PropValue)) (property : SinkProperty) :
    Option PropValue :=
  ((props.filter (·.1 = property)).getLast?).map Prod.snd

/-- **A property has the last value that was set, or the one it had.** -/
theorem get_configure {settings next : SinkSettings} {props : List (SinkProperty × PropValue)}
    (done : settings.configure props = some next) (property : SinkProperty) :
    next.get property = (lastSet props property).getD (settings.get property) := by
  induction props using List.reverseRecOn generalizing next with
  | nil =>
      cases done
      rfl
  | append_singleton props prop ih =>
      rw [configure, List.foldlM_append] at done
      obtain ⟨middle, earlier, last⟩ := Option.bind_eq_some_iff.mp done
      have taken : middle.set prop = some next := by simpa using last
      rw [get_set taken, lastSet, List.filter_append, List.filter_singleton]
      by_cases same : prop.1 = property
      · simp [same]
      · simp only [same, decide_false, cond_false, List.append_nil]
        exact ih earlier

theorem configure_isSome (settings : SinkSettings) {props : List (SinkProperty × PropValue)}
    (typed : ∀ prop ∈ props, (default.set prop).isSome) : (settings.configure props).isSome := by
  induction props generalizing settings with
  | nil => rfl
  | cons prop props ih =>
      have first := typed prop (.head _)
      rw [set_isSome default settings] at first
      obtain ⟨next, taken⟩ := Option.isSome_iff_exists.mp first
      rw [configure, List.foldlM_cons, taken]
      exact ih next fun other member => typed other (.tail _ member)

end SinkSettings

/-! ## Configurations -/

/-- `SinkConfig`. -/
structure SinkConfig where
  service : String
  maxBytes : UInt32
  bufferSize : UInt32
  borrowedMax : UInt32
  historySize : UInt32
  safeOverflow : Bool

/-- `gst_properties`. -/
def SinkConfig.gstProperties (config : SinkConfig) : List (SinkProperty × PropValue) :=
  [(.service, .str config.service),
   (.maxBytes, .uint config.maxBytes),
   (.bufferSize, .uint config.bufferSize),
   (.borrowedMax, .uint config.borrowedMax),
   (.historySize, .uint config.historySize),
   (.safeOverflow, .bool config.safeOverflow)]

/-- The settings with a configuration. -/
def SinkConfig.over (config : SinkConfig) (settings : SinkSettings) : SinkSettings :=
  { settings with
    service := config.service
    maxBytes := config.maxBytes
    bufferSize := config.bufferSize
    borrowedMax := config.borrowedMax
    historySize := config.historySize
    safeOverflow := config.safeOverflow }

/-- The last value does not depend on the order when each property is set once. -/
theorem lastSet_of_perm {props other : List (SinkProperty × PropValue)} (perm : props.Perm other)
    {property : SinkProperty} (once : (other.filter (·.1 = property)).length ≤ 1) :
    SinkSettings.lastSet props property = SinkSettings.lastSet other property := by
  have filtered := perm.filter (·.1 = property)
  rw [SinkSettings.lastSet, SinkSettings.lastSet]
  generalize props.filter (·.1 = property) = here at filtered
  generalize other.filter (·.1 = property) = there at filtered once
  match there, once with
  | [], _ => rw [List.perm_nil.mp filtered]
  | [prop], _ => rw [List.perm_singleton.mp filtered]

/-- **A configuration can be applied in any order.** Over any settings the sink takes the
service, the slice length and the QoS of the configuration, keeps the rest, and asks for
the overflow of the configuration unless it is lossless. -/
theorem configured_in_any_order (config : SinkConfig) (settings : SinkSettings)
    (props : List (SinkProperty × PropValue)) (perm : props.Perm config.gstProperties) :
    settings.configure props = some (config.over settings) ∧
      (config.over settings).qos =
        ⟨config.bufferSize, config.borrowedMax, config.historySize,
          config.safeOverflow && !settings.lossless⟩ := by
  have typed : ∀ prop ∈ props, (SinkSettings.default.set prop).isSome := by
    intro prop member
    have member := perm.mem_iff.mp member
    simp only [SinkConfig.gstProperties, List.mem_cons, List.not_mem_nil, or_false] at member
    rcases member with rfl | rfl | rfl | rfl | rfl | rfl <;> rfl
  obtain ⟨next, done⟩ := Option.isSome_iff_exists.mp (settings.configure_isSome typed)
  refine ⟨?_, rfl⟩
  rw [done]
  refine congrArg some (SinkSettings.eq_of_get fun property => ?_)
  rw [SinkSettings.get_configure done, lastSet_of_perm perm]
  · cases property <;> rfl
  · cases property <;> simp [SinkConfig.gstProperties]

/-- The properties of a configuration, the last one first. -/
theorem configured_in_any_order_reversed :
    SinkSettings.default.configure
        (SinkConfig.gstProperties ⟨"video/left/frame/v2", 640, 4, 6, 1, false⟩).reverse =
      some (SinkConfig.over ⟨"video/left/frame/v2", 640, 4, 6, 1, false⟩ .default) :=
  (configured_in_any_order ⟨"video/left/frame/v2", 640, 4, 6, 1, false⟩ .default _
    (List.reverse_perm _)).1

/-! ## The properties of the source -/

/-- The properties of the source that can be set. -/
inductive SourceProperty where
  | service
  | bufferSize
  | borrowedMax
  | historySize
  | safeOverflow

/-- The settings of a source. -/
structure SourceSettings where
  service : String
  bufferSize : UInt32
  borrowedMax : UInt32
  historySize : UInt32
  safeOverflow : Bool

namespace SourceSettings

/-- The settings of a new source. -/
def default : SourceSettings where
  service := defaultService
  bufferSize := 10
  borrowedMax := 10
  historySize := 0
  safeOverflow := true

/-- `set_property`. A value of another type is a panic. -/
def set (settings : SourceSettings) : SourceProperty × PropValue → Option SourceSettings
  | (.service, .str value) => some { settings with service := value }
  | (.bufferSize, .uint value) => some { settings with bufferSize := value }
  | (.borrowedMax, .uint value) => some { settings with borrowedMax := value }
  | (.historySize, .uint value) => some { settings with historySize := value }
  | (.safeOverflow, .bool value) => some { settings with safeOverflow := value }
  | _ => none

/-- The QoS that `start` asks for. -/
def qos (settings : SourceSettings) : Qos where
  bufferSize := settings.bufferSize
  borrowedMax := settings.borrowedMax
  historySize := settings.historySize
  safeOverflow := settings.safeOverflow

end SourceSettings

/-! ## Participants -/

/-- A participant: an element, or a publisher or subscriber of a package. -/
inductive Who where
  | sink (name : Nat)
  | source (name : Nat)
  | sdk (name : Nat)
  deriving DecidableEq

/-- A participant that is attached to a service, what it asked for, and whether it is a
sink that was lossless when it started. -/
structure Attachment where
  who : Who
  service : String
  qos : Qos
  lossless : Bool

/-- The settings of the elements, who is attached, and the services there are, with what
they were created with. -/
structure State where
  sinks : Nat → SinkSettings
  sources : Nat → SourceSettings
  attached : List Attachment
  services : String → Option Qos

/-- What can happen. -/
inductive Event where
  | setSink (name : Nat) (prop : SinkProperty × PropValue)
  | setSource (name : Nat) (prop : SourceProperty × PropValue)
  | startSink (name : Nat)
  | startSource (name : Nat)
  | openSdk (name : Nat) (service : String)
  | leave (who : Who)

namespace State

/-- Nothing is started. -/
def initial : State where
  sinks := fun _ => .default
  sources := fun _ => .default
  attached := []
  services := fun _ => none

/-- `open_or_create`: a service is created with what is asked for, or opened if it is
compatible with that. Otherwise nothing is attached. -/
def openOrCreate (compatible : Qos → Qos → Bool) (state : State) (attachment : Attachment) :
    State :=
  match state.services attachment.service with
  | none =>
      { state with
        attached := state.attached ++ [attachment]
        services := Function.update state.services attachment.service (some attachment.qos) }
  | some existing =>
      if compatible attachment.qos existing then
        { state with attached := state.attached ++ [attachment] }
      else
        state

/-- A participant attaches, once at a time. -/
def attach (compatible : Qos → Qos → Bool) (state : State) (attachment : Attachment) :
    Option State :=
  if state.attached.any (·.who = attachment.who) then none
  else some (state.openOrCreate compatible attachment)

/-- A participant leaves. A service that nobody is attached to is gone. -/
def leave (state : State) (who : Who) : State :=
  let attached := state.attached.filter (·.who ≠ who)
  { state with
    attached := attached
    services := fun service =>
      if attached.any (·.service = service) then state.services service else none }

/-- The system takes a step. -/
def step (compatible : Qos → Qos → Bool) (state : State) : Event → Option State
  | .setSink name prop =>
      ((state.sinks name).set prop).map fun settings =>
        { state with sinks := Function.update state.sinks name settings }
  | .setSource name prop =>
      ((state.sources name).set prop).map fun settings =>
        { state with sources := Function.update state.sources name settings }
  | .startSink name =>
      let settings := state.sinks name
      state.attach compatible ⟨.sink name, settings.service, settings.qos, settings.lossless⟩
  | .startSource name =>
      let settings := state.sources name
      state.attach compatible ⟨.source name, settings.service, settings.qos, false⟩
  | .openSdk name service => state.attach compatible ⟨.sdk name, service, .default, false⟩
  | .leave who => some (state.leave who)

/-! ## What every run keeps -/

/-- What a participant may ask for: a lossless sink no overflow, a package the default. -/
structure Asks (attachment : Attachment) : Prop where
  lossless : attachment.lossless = true → attachment.qos.safeOverflow = false
  sdk : ∀ name, attachment.who = .sdk name → attachment.qos = .default

/-- Everybody who is attached asked for the overflow of the service. -/
structure Agreed (state : State) : Prop where
  asks : ∀ attachment ∈ state.attached, Asks attachment
  overflow : ∀ attachment ∈ state.attached, ∃ existing,
    state.services attachment.service = some existing ∧
      attachment.qos.safeOverflow = existing.safeOverflow

theorem asks_sink (name : Nat) (settings : SinkSettings) :
    Asks ⟨.sink name, settings.service, settings.qos, settings.lossless⟩ where
  lossless := by
    intro lossless
    simp only at lossless
    simp only [SinkSettings.qos, lossless, Bool.not_true, Bool.and_false]
  sdk := by rintro _ ⟨⟩

theorem asks_source (name : Nat) (settings : SourceSettings) :
    Asks ⟨.source name, settings.service, settings.qos, false⟩ where
  lossless := by rintro ⟨⟩
  sdk := by rintro _ ⟨⟩

theorem asks_sdk (name : Nat) (service : String) :
    Asks ⟨.sdk name, service, .default, false⟩ where
  lossless := by rintro ⟨⟩
  sdk := fun _ _ => rfl

variable {compatible : Qos → Qos → Bool} {state next : State}

theorem Agreed.attach
    (agrees : ∀ requested existing, compatible requested existing = true →
      requested.safeOverflow = existing.safeOverflow)
    (agreed : state.Agreed) {attachment : Attachment} (asks : Asks attachment)
    (taken : state.attach compatible attachment = some next) : next.Agreed := by
  simp only [State.attach] at taken
  split_ifs at taken
  cases taken
  simp only [openOrCreate]
  split
  · rename_i missing
    refine ⟨fun other member => ?_, fun other member => ?_⟩
    · rcases List.mem_append.mp member with earlier | new
      · exact agreed.asks other earlier
      · rwa [List.mem_singleton.mp new]
    · rcases List.mem_append.mp member with earlier | new
      · obtain ⟨existing, found, same⟩ := agreed.overflow other earlier
        have apart : other.service ≠ attachment.service := by
          intro equal
          rw [equal, missing] at found
          cases found
        exact ⟨existing, (Function.update_of_ne apart _ _).trans found, same⟩
      · rw [List.mem_singleton.mp new]
        exact ⟨attachment.qos, Function.update_self _ _ _, rfl⟩
  · rename_i existing found
    split_ifs with fits
    · refine ⟨fun other member => ?_, fun other member => ?_⟩
      · rcases List.mem_append.mp member with earlier | new
        · exact agreed.asks other earlier
        · rwa [List.mem_singleton.mp new]
      · rcases List.mem_append.mp member with earlier | new
        · exact agreed.overflow other earlier
        · rw [List.mem_singleton.mp new]
          exact ⟨existing, found, agrees _ _ fits⟩
    · exact agreed

theorem Agreed.leave (agreed : state.Agreed) (who : Who) : (state.leave who).Agreed := by
  constructor
  · intro attachment member
    exact agreed.asks attachment (List.mem_of_mem_filter member)
  · intro attachment member
    obtain ⟨existing, found, same⟩ :=
      agreed.overflow attachment (List.mem_of_mem_filter member)
    refine ⟨existing, ?_, same⟩
    have served : (state.attached.filter (·.who ≠ who)).any
        (·.service = attachment.service) = true :=
      List.any_eq_true.mpr ⟨attachment, member, decide_eq_true rfl⟩
    exact (if_pos served).trans found

theorem Agreed.step
    (agrees : ∀ requested existing, compatible requested existing = true →
      requested.safeOverflow = existing.safeOverflow)
    (agreed : state.Agreed) {event : Event} (taken : state.step compatible event = some next) :
    next.Agreed := by
  cases event with
  | setSink name prop =>
      obtain ⟨settings, -, rfl⟩ := Option.map_eq_some_iff.mp taken
      exact ⟨agreed.asks, agreed.overflow⟩
  | setSource name prop =>
      obtain ⟨settings, -, rfl⟩ := Option.map_eq_some_iff.mp taken
      exact ⟨agreed.asks, agreed.overflow⟩
  | startSink name => exact agreed.attach agrees (asks_sink _ _) taken
  | startSource name => exact agreed.attach agrees (asks_source _ _) taken
  | openSdk name service => exact agreed.attach agrees (asks_sdk name service) taken
  | leave who =>
      cases taken
      exact agreed.leave who

end State

end GstIceoryx2.Element.Services
