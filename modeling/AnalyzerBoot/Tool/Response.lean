import AnalyzerBoot.Config.File
import AnalyzerBoot.Driver
import AnalyzerBoot.ExitStatus
import AnalyzerBoot.Firmware.Directories
import AnalyzerBoot.Tool.Report
import AnalyzerBoot.Tool.Request

/-!
How the bring-up tool answers a request: with an exit status, a text to print, and possibly a
configuration to save. A configuration file that does not load fails any request.
-/

set_option autoImplicit false

namespace AnalyzerBoot.Tool

structure Response where
  status : ExitStatus
  output : String := ""
  -- A configuration to be written to a path.
  save : Option (Config × String) := none
  deriving DecidableEq, Repr

/-- Ends a run: it fails if there is something to be saved that cannot be. -/
def Response.conclude (response : Response) : StateM Files.Tree ExitStatus := do
  match response.save with
  | none => return response.status
  | some (config, path) =>
    match ← (config.save path).run with
    | .ok () => return response.status
    | .error _ => return .failure

/-- The configuration in effect: that of the file or the default one, with the directories of the
request in front of its own. -/
def Request.effectiveConfig (request : Request) (files : Files.View) :
    Except ConfigError Config := do
  let config ← match request.config with
    | some path => Config.load files path
    | none => pure {}
  return { config with firmwareDirs := request.firmwareDirs ++ config.firmwareDirs }

def inspectFile (files : Files.View) (path : String) (format : Image.Format) : Response :=
  match files path with
  | some (.file _ content) =>
    match Image.inspect content format with
    | .ok summary => ⟨.success, imageReport path summary, none⟩
    | .error _ => { status := .failure }
  | _ => { status := .failure }

variable {σ η : Type} [Usb.Bus σ η]

/-- Selects a sample rate on an open device, if one is given, and shows its settings. The device is
closed afterwards in any case, but only with its interface released if nothing failed before. -/
def showDevice (record : Record) (device : OpenDevice η) (samplerate : Option Nat) :
    StateM (Host σ) Response := do
  let (selected, record) := match samplerate with
    | some rate => (Setting.set .samplerate (.integer rate)).run record
    | none => (.ok (), record)
  match selected with
  | .error _ =>
    Host.onBus (Usb.Bus.close device.handle)
    return { status := .failure }
  | .ok () =>
    match ← (Driver.closeDevice record device : StateM (Host σ) _) with
    | (.ok (), _) => return ⟨.success, deviceReport record, none⟩
    | (.error _, _) => return ⟨.failure, deviceReport record, none⟩

def openAndShow (driver : Driver) (filter : Option Usb.Filter) (index : Nat)
    (samplerate : Option Nat) : StateM (Host σ) Response := do
  let outcomes ← driver.scan (σ := σ) (η := η) filter
  match (Inventory.absorb {} outcomes).1.get? index with
  | none => return { status := .failure }
  | some record =>
    match ← driver.openDevice (σ := σ) (η := η) record with
    | (.error _, _) => return { status := .failure }
    | (.ok device, record) => showDevice record device samplerate

def Command.perform (command : Command) (config : Config) (files : Files.View)
    (environment : Option String) : StateM (Host σ) Response := do
  let directories := Firmware.Directories.withDefaults config.firmwareDirs environment
  let driver : Driver := { source := directories.load files, config := config }
  match command with
  | .scan filter =>
    let outcomes ← driver.scan (σ := σ) (η := η) filter
    return ⟨.success, String.join (outcomes.map outcomeLine), none⟩
  | .openDevice filter index samplerate =>
    openAndShow (σ := σ) (η := η) driver filter index samplerate
  | .inspect path format => return inspectFile files path format
  | .info => return ⟨.success, supportReport, none⟩
  | .saveConfig path => return ⟨.success, "", some (config, path)⟩

def Request.perform (request : Request) (files : Files.View) (environment : Option String) :
    StateM (Host σ) Response :=
  match request.effectiveConfig files with
  | .ok config => request.command.perform (σ := σ) (η := η) config files environment
  | .error _ => return { status := .failure }

/-- The files that a run with these arguments may read, devices apart. -/
def filesRead (arguments : List String) : List String :=
  match program.read arguments with
  | .run name given => (given.value? "config").toList ++
    if name = "inspect" then given.operands else []
  | _ => []

def respond (arguments : List String) (files : Files.View) (environment : Option String) :
    StateM (Host σ) Response :=
  match program.read arguments with
  | .run name given =>
    match Request.of? name given with
    | some request => request.perform (σ := σ) (η := η) files environment
    | none => return { status := .refused }
  | .print text => return ⟨.success, text, none⟩
  | .refused => return { status := .refused }

end AnalyzerBoot.Tool
