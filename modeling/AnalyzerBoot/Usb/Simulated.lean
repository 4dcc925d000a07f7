import AnalyzerBoot.Usb.Bus

/-!
A simulated bus. Devices are plugged in, at once or a number of listings later, and unplugged by
address; some can be made to fail. The bus keeps every call on a handle and every transfer it
accepted, in order.
-/

set_option autoImplicit false

namespace AnalyzerBoot.Usb

structure Device where
  candidate : Candidate
  strings : Strings
  failsOpen : Bool
  failsStrings : Bool
  deriving DecidableEq, Repr

inductive Call where
  | openDevice (address : UInt8)
  | readStrings (address : UInt8)
  | detachKernelDriver (interface : UInt8)
  | setConfiguration (configuration : UInt8)
  | claimInterface (interface : UInt8)
  | releaseInterface (interface : UInt8)
  | close (address : UInt8)
  deriving DecidableEq, Repr

structure SimulatedBus where
  devices : List Device := []
  -- Devices that appear after a number of further listings.
  pending : List (Nat × Device) := []
  calls : Array Call := #[]
  transfers : Array Transfer := #[]
  -- The number of accepted transfers at which the next one fails, once.
  failTransferAt : Option Nat := none
  failConfiguration : Bool := false
  -- Whether another program holds the interfaces.
  interfaceBusy : Bool := false
  openHandles : Nat := 0
  listCount : Nat := 0
  deriving DecidableEq

/-- An open simulated device, as it was when it was opened. -/
structure Handle where
  device : Device
  claimed : Option UInt8
  deriving DecidableEq, Repr

def Handle.address (handle : Handle) : UInt8 :=
  handle.device.candidate.address

namespace SimulatedBus

def defaultPort (busId : String) : String :=
  busId ++ "-1"

def add (device : Device) (bus : SimulatedBus) : SimulatedBus :=
  { bus with devices := bus.devices ++ [device] }

/-- Plugs in a device that misses a number of listings. -/
def addAfter (device : Device) (listings : Nat) (bus : SimulatedBus) : SimulatedBus :=
  { bus with pending := bus.pending ++ [(listings, device)] }

/-- Unplugs the devices at an address; those still pending stay. -/
def remove (address : UInt8) (bus : SimulatedBus) : SimulatedBus :=
  { bus with devices := bus.devices.filter (·.candidate.address != address) }

def record (call : Call) (bus : SimulatedBus) : SimulatedBus :=
  { bus with calls := bus.calls.push call }

/-- Counts a listing: pending devices whose time has come appear, the others come one closer. -/
def appear (bus : SimulatedBus) : SimulatedBus :=
  { bus with
    listCount := bus.listCount + 1
    devices := bus.devices ++ (bus.pending.filter (·.1 == 0)).map Prod.snd
    pending := (bus.pending.filter (·.1 != 0)).map fun (left, device) => (left - 1, device) }

def find? (bus : SimulatedBus) (candidate : Candidate) : Option Device :=
  bus.devices.find? fun device =>
    device.candidate.busId == candidate.busId && device.candidate.address == candidate.address

def listDevices : Request SimulatedBus (List Candidate) := fun bus =>
  let bus := bus.appear
  (.ok (bus.devices.map Device.candidate), bus)

def openDevice (candidate : Candidate) : Request SimulatedBus Handle := fun bus =>
  match bus.find? candidate with
  | none => (.error (.deviceNotFound candidate.vendorId candidate.productId), bus)
  | some device =>
    if device.failsOpen then (.error (.openFailed "Access denied"), bus)
    else
      (.ok ⟨device, none⟩,
        { bus.record (.openDevice candidate.address) with openHandles := bus.openHandles + 1 })

def close (handle : Handle) : StateM SimulatedBus Unit := fun bus =>
  ((), { bus.record (.close handle.address) with openHandles := bus.openHandles - 1 })

def readStrings (handle : Handle) : Request SimulatedBus Strings := fun bus =>
  (if handle.device.failsStrings then .error (.stringDescriptor 1 "Pipe error")
    else .ok handle.device.strings,
    bus.record (.readStrings handle.address))

def detachKernelDriver (_ : Handle) (interface : UInt8) : Request SimulatedBus Unit := fun bus =>
  (.ok (), bus.record (.detachKernelDriver interface))

def setConfiguration (_ : Handle) (configuration : UInt8) : Request SimulatedBus Unit := fun bus =>
  (if bus.failConfiguration then .error (.configurationFailed configuration "Resource busy")
    else .ok (),
    bus.record (.setConfiguration configuration))

def transferOut (_ : Handle) (transfer : Transfer) : Request SimulatedBus Nat := fun bus =>
  if bus.failTransferAt = some bus.transfers.size then
    (.error (.transferFailed "Pipe error"), { bus with failTransferAt := none })
  else (.ok transfer.data.length, { bus with transfers := bus.transfers.push transfer })

def claimInterface (handle : Handle) (interface : UInt8) :
    StateM SimulatedBus (Except Error Unit × Handle) := fun bus =>
  (if bus.interfaceBusy then (.error (.busy interface), handle)
    else (.ok (), { handle with claimed := some interface }),
    bus.record (.claimInterface interface))

/-- Gives up whatever interface is claimed; this fails if it is not the one named. -/
def releaseInterface (handle : Handle) (interface : UInt8) :
    StateM SimulatedBus (Except Error Unit × Handle) := fun bus =>
  ((if handle.claimed = some interface then .ok ()
      else .error (.claimFailed interface "interface is not claimed"),
    { handle with claimed := none }),
    bus.record (.releaseInterface interface))

instance : Bus SimulatedBus Handle where
  listDevices := listDevices
  openDevice := openDevice
  close := close
  readStrings := readStrings
  detachKernelDriver := detachKernelDriver
  setConfiguration := setConfiguration
  transferOut := transferOut
  claimInterface := claimInterface
  releaseInterface := releaseInterface

end SimulatedBus

end AnalyzerBoot.Usb
