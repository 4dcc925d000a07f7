import AnalyzerBoot.Upload.Transmission
import AnalyzerBoot.Usb.Filter

/-!
One walk over the bus. Devices that run the analyzer firmware are ready; boot loaders get the
firmware of their model and are left to renumerate. Every plausible device has an outcome of its
own, and a device that fails does not stop the walk.
-/

set_option autoImplicit false

namespace AnalyzerBoot

inductive SkipReason where
  | openFailed (reason : String)
  | stringsUnreadable (reason : String)
  | noPortPath
  | noProfile
  deriving DecidableEq, Repr

def SkipReason.text : SkipReason → String
  | openFailed reason => "failed to open: " ++ reason
  | stringsUnreadable reason => "failed to read strings: " ++ reason
  | noPortPath => "port path unavailable"
  | noProfile => "no matching profile"

inductive Outcome where
  -- Runs the analyzer firmware already.
  | ready (record : Record)
  -- Got its firmware and has to renumerate before use.
  | uploaded (record : Record)
  -- Did not get its firmware; the record is kept, since opening it may still work.
  | uploadFailed (record : Record) (error : BringupError)
  | skipped (candidate : Usb.Candidate) (reason : SkipReason)
  deriving DecidableEq, Repr

def Outcome.record? : Outcome → Option Record
  | ready record | uploaded record | uploadFailed record _ => some record
  | skipped _ _ => none

/-- Finds the firmware image of a name that has at most so many bytes. -/
abbrev FirmwareSource := (name : String) → (limit : Nat) → Except BringupError Bytes

structure DiscoverOptions where
  filter : Option Usb.Filter := none
  -- Selected before an upload.
  configuration : UInt8 := Chip.usbConfiguration
  -- Freed of its kernel driver before an upload.
  interface : UInt8 := Chip.usbInterface
  deriving DecidableEq, Repr

namespace Discovery

variable {σ η : Type} [Usb.Bus σ η]

def configurationError (error : Usb.Error) : BringupError :=
  .configurationFailed error.message

/-- Holds the processor in reset or lets it run, where the profile asks for that. -/
def switchReset (profile : Profile) (handle : η) (asserted : Bool) : Bringup σ Unit :=
  if profile.needsReset then Upload.setReset handle asserted else pure ()

def writeFirmware (source : FirmwareSource) (profile : Profile) (handle : η) :
    Bringup σ Unit := do
  switchReset profile handle true
  let format := profile.imageFormat
  let image ← source profile.firmware format.maxSize
  Host.emit (σ := σ) (.uploadStarted profile.firmware image.length)
  let _ ← Upload.uploadImage handle image format
  switchReset profile handle false

/-- Configures an open boot loader and sends the firmware of a profile to it. -/
def programDevice (source : FirmwareSource) (profile : Profile) (options : DiscoverOptions)
    (handle : η) : Bringup σ Unit := do
  Host.request configurationError (Usb.Bus.detachKernelDriver handle options.interface)
  Host.request configurationError (Usb.Bus.setConfiguration handle options.configuration)
  writeFirmware source profile handle

/-- Opens a boot loader, sends the firmware of a profile to it, and closes it in any case. -/
def uploadFirmware (source : FirmwareSource) (profile : Profile) (options : DiscoverOptions)
    (candidate : Usb.Candidate) : Bringup σ Unit := do
  let opened ← (Host.withDevice candidate fun handle : η =>
    (programDevice source profile options handle : StateM (Host σ) (Except BringupError Unit)) :
      StateM (Host σ) (Except Usb.Error (Except BringupError Unit)))
  match opened with
  | .error error => throw (.configurationFailed ("failed to open device: " ++ error.message))
  | .ok result => result

def skip (candidate : Usb.Candidate) (reason : SkipReason) : StateM (Host σ) Outcome := do
  Host.emit (.deviceSkipped candidate.vendorId candidate.productId reason.text)
  return .skipped candidate reason

/-- The strings of a device, or why they could not be had; the device is closed again. -/
def readStrings (candidate : Usb.Candidate) : StateM (Host σ) (Except SkipReason Usb.Strings) := do
  let opened ← Host.withDevice candidate fun handle : η =>
    Host.onBus (Usb.Bus.readStrings handle : StateM σ (Except Usb.Error Usb.Strings))
  match opened with
  | .error error => return .error (.openFailed error.message)
  | .ok (.error error) => return .error (.stringsUnreadable error.message)
  | .ok (.ok strings) => return .ok strings

/-- Sends firmware to the device of a new record, whose address is unknown until it comes back. -/
def bringUp (source : FirmwareSource) (options : DiscoverOptions) (candidate : Usb.Candidate)
    (record : Record) : StateM (Host σ) Outcome := do
  let record := record.withAddress Chip.unknownAddress
  let result ← (uploadFirmware source record.profile options candidate :
    StateM (Host σ) (Except BringupError Unit))
  match result with
  | .ok () => return .uploaded (record.markUploaded (← Host.now))
  | .error error => return .uploadFailed record error

/-- The record of a device that describes itself so, or why it gets none. -/
def identify (profiles : List Profile) (candidate : Usb.Candidate) (strings : Usb.Strings) :
    Except SkipReason Record :=
  match candidate.portPath with
  | none => .error .noPortPath
  | some port =>
    match findProfile? profiles candidate.vendorId candidate.productId strings with
    | none => .error .noProfile
    | some profile =>
      .ok (.new profile strings.serialNumber port ⟨candidate.busId, candidate.address⟩)

/-- Brings up a device by what its strings say, if they could be had and it needs that. -/
def attend (source : FirmwareSource) (profiles : List Profile) (options : DiscoverOptions)
    (candidate : Usb.Candidate) (found : Except SkipReason Usb.Strings) :
    StateM (Host σ) Outcome :=
  match found with
  | .error reason => skip candidate reason
  | .ok strings =>
    match identify profiles candidate strings with
    | .error reason => skip candidate reason
    | .ok record =>
      if hasFirmware strings then return .ready { record with status := .inactive }
      else bringUp source options candidate record

def probe (source : FirmwareSource) (profiles : List Profile) (options : DiscoverOptions)
    (candidate : Usb.Candidate) : StateM (Host σ) Outcome := do
  Host.emit (.deviceDiscovered candidate.vendorId candidate.productId candidate.busId
    candidate.address)
  attend source profiles options candidate (← readStrings candidate)

def isSelected (profiles : List Profile) (options : DiscoverOptions) (candidate : Usb.Candidate) :
    Bool :=
  options.filter.all (·.accepts candidate) &&
    isPlausible profiles candidate.vendorId candidate.productId

/-- One outcome for each selected device, in the order of the listing; none if the bus cannot be
listed. -/
def discover (source : FirmwareSource) (profiles : List Profile) (options : DiscoverOptions) :
    StateM (Host σ) (List Outcome) := do
  match ← Host.onBus (Usb.Bus.listDevices : StateM σ (Except Usb.Error (List Usb.Candidate))) with
  | .error _ => return []
  | .ok candidates =>
    (candidates.filter (isSelected profiles options)).mapM (probe source profiles options)

end Discovery

end AnalyzerBoot
