import AnalyzerBoot.Arguments.Reader
import AnalyzerBoot.Image.Segment
import AnalyzerBoot.Usb.Filter

/-!
What the bring-up tool is asked to do, and the arguments that say so.
-/

set_option autoImplicit false

namespace AnalyzerBoot.Tool

open Arguments (Program Given Opt)

inductive Command where
  -- Finds devices and uploads firmware where needed.
  | scan (filter : Option Usb.Filter)
  -- Scans, opens one of the devices found, and shows its settings.
  | openDevice (filter : Option Usb.Filter) (index : Nat) (samplerate : Option Nat)
  -- Shows the segments of a firmware image.
  | inspect (path : String) (format : Image.Format)
  -- Shows the supported models and keys.
  | info
  -- Writes the configuration that is in effect.
  | saveConfig (path : String)
  deriving DecidableEq, Repr

structure Request where
  -- A configuration file.
  config : Option String
  -- Searched for firmware before the directories of the configuration file.
  firmwareDirs : List String
  command : Command
  deriving DecidableEq, Repr

/-- A number of 64 bits, possibly behind a plus sign. -/
def number? (text : String) : Option Nat :=
  Text.readBounded? (UInt64.size - 1) text.toList

def isPath (text : String) : Bool :=
  text ≠ ""

def filter? (text : String) : Option Usb.Filter :=
  (Usb.Filter.read text).toOption

def connOption (about : String) : Opt :=
  { name := "conn"
    meaning := .value "CONN" (fun text => (filter? text).isSome) false
    about := about }

def numberOption (name value about : String) : Opt :=
  { name := name
    meaning := .value value (fun text => (number? text).isSome) false
    about := about }

def commands : List Arguments.Command :=
  [{ name := "scan"
     about := "Find devices and upload firmware where needed"
     options := [connOption "Only this device: BUS.ADDRESS or VID.PID"] },
    { name := "open"
      about := "Scan, then open a device and show its settings"
      options :=
        [connOption "", numberOption "index" "INDEX" "Which scanned device to open [default: 0]",
          numberOption "samplerate" "SAMPLERATE" "Samplerate to select after opening, in Hz"] },
    { name := "inspect"
      about := "Show the section table of a firmware image"
      options :=
        [{ name := "fx2", meaning := .flag, about := "Treat the file as a raw FX2 image" }]
      operands := .one "FILE" isPath },
    { name := "info", about := "Print supported models and config keys" },
    { name := "save-config"
      about := "Write the effective configuration to a TOML file"
      operands := .one "PATH" isPath }]

def program : Program :=
  { name := "fx3kit"
    about := "FX2/FX3 logic analyzer bring-up tool"
    version := some "fx3kit-cli 0.1.0\n"
    options :=
      [{ name := "config"
         meaning := .value "CONFIG" isPath false
         about := "Driver configuration file (TOML)" },
        { name := "firmware-dir"
          meaning := .value "FIRMWARE_DIRS" isPath true
          about := "Extra firmware directory, searched first (repeatable)" },
        { name := "verbose"
          letter := some 'v'
          meaning := .flag
          about := "Enable verbose logging" }]
    commands := commands }

def commandOf? (name : String) (given : Given) : Option Command :=
  let filter := (given.value? "conn").bind filter?
  let operand := given.operands.head?
  match name with
  | "scan" => some (.scan filter)
  | "open" => some (.openDevice filter (((given.value? "index").bind number?).getD 0)
      ((given.value? "samplerate").bind number?))
  | "inspect" => operand.map fun path =>
    .inspect path (if given.has "fx2" then .simple else .segmented)
  | "info" => some .info
  | "save-config" => operand.map .saveConfig
  | _ => none

def Request.of? (name : String) (given : Given) : Option Request := do
  let command ← commandOf? name given
  return ⟨given.value? "config", given.values "firmware-dir", command⟩

end AnalyzerBoot.Tool
