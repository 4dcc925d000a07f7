import AnalyzerBoot.Usb.Candidate
import AnalyzerBoot.Word

/-!
The few requests that bringing up a device makes of a USB bus. A bus is a state together with an
implementation of these requests; open devices are known by handles.
-/

set_option autoImplicit false

namespace AnalyzerBoot.Usb

structure Transfer where
  request : UInt8
  value : UInt16
  index : UInt16
  data : Bytes
  -- Milliseconds.
  timeout : Nat
  deriving DecidableEq, Repr

/-- What a request to a bus of state `σ` does: it may fail, and the bus may change. -/
abbrev Request (σ α : Type) := ExceptT Error (StateM σ) α

/-- A bus of state `σ` whose open devices have handles `η`. -/
class Bus (σ : Type) (η : outParam Type) where
  listDevices : Request σ (List Candidate)
  openDevice : Candidate → Request σ η
  close : η → StateM σ Unit
  readStrings : η → Request σ Strings
  detachKernelDriver : η → (interface : UInt8) → Request σ Unit
  setConfiguration : η → (configuration : UInt8) → Request σ Unit
  -- Sends data to the device and says how many bytes it took.
  transferOut : η → Transfer → Request σ Nat
  -- Claims an interface; the handle may change even if this fails.
  claimInterface : η → (interface : UInt8) → StateM σ (Except Error Unit × η)
  releaseInterface : η → (interface : UInt8) → StateM σ (Except Error Unit × η)

end AnalyzerBoot.Usb
