import AnalyzerBoot.Instant
import AnalyzerBoot.Profile

/-!
The record kept for each device that was found: where it is connected, what it offers, and its
current settings.
-/

set_option autoImplicit false

namespace AnalyzerBoot

inductive Status where
  -- Firmware was uploaded, or should have been; the device is yet to come back.
  | initializing
  -- Runs the analyzer firmware and is not opened.
  | inactive
  -- Opened, its interface claimed.
  | active
  deriving DecidableEq, Repr

def Status.text : Status → String
  | initializing => "initializing"
  | inactive => "inactive"
  | active => "active"

inductive ChannelKind where
  | logic
  | analog
  deriving DecidableEq, Repr

structure Channel where
  index : Nat
  kind : ChannelKind
  name : String
  deriving DecidableEq, Repr

structure ChannelGroup where
  name : String
  channels : List Nat
  deriving DecidableEq, Repr

def insertAscending (n : Nat) : List Nat → List Nat
  | [] => [n]
  | m :: rest =>
    if n < m then n :: m :: rest
    else if n = m then m :: rest
    else m :: insertAscending n rest

theorem mem_insertAscending {n x : Nat} {ns : List Nat} :
    x ∈ insertAscending n ns ↔ x = n ∨ x ∈ ns := by
  induction ns with
  | nil => simp [insertAscending]
  | cons m rest ih =>
    unfold insertAscending
    split
    · simp
    · split
      · next same => simp [same]
      · simp only [List.mem_cons, ih]
        exact or_left_comm

structure Location where
  busId : String
  address : UInt8
  deriving DecidableEq, Repr

def Location.isKnown (location : Location) : Bool :=
  location.address != Chip.unknownAddress

def Location.text (location : Location) : String :=
  Usb.locationText location.busId location.address

structure DeviceState where
  profile : Profile
  -- When firmware was last uploaded.
  uploadedAt : Option Instant
  samplerates : List Nat
  -- Zero until it is set or the device is opened.
  samplerate : Nat
  limitSamples : Nat
  captureRatio : Nat
  -- Indices of enabled channels, ascending.
  enabled : List Nat
  deriving DecidableEq, Repr

namespace DeviceState

def initial (profile : Profile) : DeviceState :=
  ⟨profile, none, profile.samplerates, 0, 0, 0, []⟩

/-- Notes an upload; an earlier instant than the one noted changes nothing. -/
def markUploaded (state : DeviceState) (instant : Instant) : DeviceState :=
  { state with uploadedAt := some (state.uploadedAt.elim instant (max · instant)) }

def setEnabled (state : DeviceState) (index : Nat) (enabled : Bool) : DeviceState :=
  { state with
    enabled := if enabled then insertAscending index state.enabled
      else state.enabled.filter (· != index) }

end DeviceState

structure Record where
  status : Status
  serialNumber : String
  -- The physical port.
  connectionId : String
  location : Location
  channels : List Channel
  groups : List ChannelGroup
  state : DeviceState
  deriving DecidableEq, Repr

namespace Profile

def logicChannel (index : Nat) : Channel :=
  ⟨index, .logic, "D" ++ toString index⟩

/-- Logic channels come first. -/
def channels (profile : Profile) : List Channel :=
  (List.range profile.logicChannels).map logicChannel ++
    (List.range profile.analogChannels).map fun j =>
      ⟨profile.logicChannels + j, .analog, "A" ++ toString j⟩

/-- Logic channels share a group, each analog channel has one of its own. -/
def groups (profile : Profile) : List ChannelGroup :=
  ⟨"Logic", List.range profile.logicChannels⟩ ::
    (List.range profile.analogChannels).map fun j =>
      ⟨"A" ++ toString j, [profile.logicChannels + j]⟩

end Profile

namespace Record

/-- A device that has just been found, with all of its channels enabled. -/
def new (profile : Profile) (serialNumber connectionId : String) (location : Location) :
    Record where
  status := .initializing
  serialNumber := serialNumber
  connectionId := connectionId
  location := location
  channels := profile.channels
  groups := profile.groups
  state := { DeviceState.initial profile with enabled := profile.channels.map Channel.index }

def profile (record : Record) : Profile :=
  record.state.profile

def withAddress (record : Record) (address : UInt8) : Record :=
  { record with location := { record.location with address := address } }

def markUploaded (record : Record) (instant : Instant) : Record :=
  { record with state := record.state.markUploaded instant }

/-- Forgets all settings, the upload and which channels are enabled. -/
def resetState (record : Record) : Record :=
  { record with state := .initial record.profile }

def changeState (record : Record) (change : DeviceState → DeviceState) : Record :=
  { record with state := change record.state }

/-- Turns a channel on or off, and answers whether there is one of that index. -/
def setChannelEnabled (index : Nat) (enabled : Bool) : StateM Record Bool := do
  if (← get).channels.length ≤ index then return false
  modify (·.changeState (·.setEnabled index enabled))
  return true

theorem setChannelEnabled_apply (index : Nat) (enabled : Bool) (record : Record) :
    setChannelEnabled index enabled record =
      if record.channels.length ≤ index then (false, record)
      else (true, record.changeState (·.setEnabled index enabled)) := by
  unfold setChannelEnabled
  simp only [bind, StateT.bind, get, getThe, MonadStateOf.get, StateT.get, pure]
  split <;> rfl

end Record

end AnalyzerBoot
