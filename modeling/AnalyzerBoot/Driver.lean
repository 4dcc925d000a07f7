import AnalyzerBoot.Config

/-!
Scanning for devices, opening one and closing it again. A device to which firmware was uploaded is
waited for when it is opened; whichever device is opened has to run the analyzer firmware on the
port of its record.
-/

set_option autoImplicit false

namespace AnalyzerBoot

/-- Where firmware comes from, which models are supported, and how devices are treated. -/
structure Driver where
  source : FirmwareSource
  profiles : List Profile := Profile.supported
  config : Config := {}

structure OpenDevice (η : Type) where
  handle : η
  interface : UInt8
  deriving DecidableEq, Repr

namespace Driver

variable {σ η : Type} [Usb.Bus σ η]

def scan (driver : Driver) (filter : Option Usb.Filter) : StateM (Host σ) (List Outcome) :=
  Discovery.discover driver.source driver.profiles (driver.config.discoverOptions filter)

/-- Whether an open device runs the analyzer firmware; one whose strings cannot be read does not. -/
def runsFirmware (handle : η) : StateM (Host σ) Bool := do
  match ← Host.onBus (Usb.Bus.readStrings handle : StateM σ (Except Usb.Error Usb.Strings)) with
  | .ok strings => return hasFirmware strings
  | .error _ => return false

/-- Opens the first candidate that runs the analyzer firmware. Others that could be opened are
closed again. -/
def openFirst : List Usb.Candidate → StateM (Host σ) (Option (η × UInt8))
  | [] => return none
  | candidate :: rest => do
    match ← Host.onBus (Usb.Bus.openDevice candidate : StateM σ (Except Usb.Error η)) with
    | .error _ => openFirst rest
    | .ok handle =>
      if ← runsFirmware handle then return some (handle, candidate.address)
      else
        Host.onBus (Usb.Bus.close handle)
        openFirst rest

/-- Opens the device on a port that runs the analyzer firmware, and says at which address it is. -/
def acquire (port : String) : StateM (Host σ) (Except BringupError (η × UInt8)) := do
  match ← Host.onBus (Usb.Bus.listDevices : StateM σ (Except Usb.Error (List Usb.Candidate))) with
  | .error error => return .error (.configurationFailed error.message)
  | .ok candidates =>
    match ← openFirst (candidates.filter (·.portPath == some port)) with
    | some found => return .ok found
    | none =>
      return .error (.configurationFailed ("no device running the firmware on port " ++ port))

def claimErrorText : Usb.Error → String
  | .busy _ => "Unable to claim USB interface. Another program or driver has already claimed it."
  | .disconnected => "Device has been disconnected."
  | error => "Unable to claim interface: " ++ error.message

/-- What opening makes of a record: the slowest sample rate unless one is set, and active. -/
def activate (record : Record) : Record :=
  { record with
    status := .active
    state := { record.state with
      samplerate := if record.state.samplerate = 0 then record.state.samplerates.headD 0
        else record.state.samplerate } }

/-- Claims the driver's interface on an acquired device; the device is closed if that fails. -/
def claim (driver : Driver) (record : Record) (handle : η) :
    StateM (Host σ) (Except BringupError (OpenDevice η) × Record) := do
  let interface := driver.config.usbInterface
  match ← Host.onBus (Usb.Bus.claimInterface handle interface) with
  | (.error error, handle) =>
    Host.onBus (Usb.Bus.close handle)
    return (.error (.configurationFailed (claimErrorText error)), record)
  | (.ok (), handle) =>
    let record := activate record
    Host.emit (.deviceOpened record.location.busId record.location.address)
    return (.ok ⟨handle, interface⟩, record)

/-- Opens the device of a record and claims its interface. The record gets the device's address as
soon as the device is acquired. -/
def openDevice (driver : Driver) (record : Record) :
    StateM (Host σ) (Except BringupError (OpenDevice η) × Record) := do
  let uploadedAt := record.state.uploadedAt
  let acquired ← Renumeration.wait uploadedAt driver.config.renumerationPolicy
    (acquire record.connectionId : StateM (Host σ) (Except BringupError (η × UInt8)))
  match acquired with
  | .error error => return (.error error, record)
  | .ok (handle, address) =>
    if let some instant := uploadedAt then
      Host.emit (.renumerated (← Host.elapsed instant).milliseconds address)
    claim driver (record.withAddress address) handle

/-- Releases the interface and closes the device, which happens even if releasing fails. -/
def closeDevice (record : Record) (device : OpenDevice η) :
    StateM (Host σ) (Except BringupError Unit × Record) := do
  let (released, handle) ← Host.onBus (Usb.Bus.releaseInterface device.handle device.interface)
  Host.onBus (Usb.Bus.close handle)
  Host.emit (.deviceClosed record.location.busId record.location.address)
  return (released.mapError fun error => .configurationFailed error.message,
    { record with status := .inactive })

end Driver

end AnalyzerBoot
