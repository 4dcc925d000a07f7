/-!
The names under which a device's settings are read, changed and listed.
-/

set_option autoImplicit false

namespace AnalyzerBoot.Setting

inductive Key where
  -- Where the device is connected.
  | conn
  | limitSamples
  | samplerate
  | triggerMatch
  -- Percentage of a capture that lies before the trigger.
  | captureRatio
  | continuous
  | logicAnalyzer
  | scanOptions
  | deviceOptions
  deriving DecidableEq, Repr

namespace Key

def all : List Key :=
  [conn, limitSamples, samplerate, triggerMatch, captureRatio, continuous, logicAnalyzer,
    scanOptions, deviceOptions]

def name : Key → String
  | conn => "conn"
  | limitSamples => "limit_samples"
  | samplerate => "samplerate"
  | triggerMatch => "triggermatch"
  | captureRatio => "captureratio"
  | continuous => "continuous"
  | logicAnalyzer => "logic_analyzer"
  | scanOptions => "scan_options"
  | deviceOptions => "device_options"

/-- How a key appears inside a rejected value. -/
def label : Key → String
  | conn => "Conn"
  | limitSamples => "LimitSamples"
  | samplerate => "Samplerate"
  | triggerMatch => "TriggerMatch"
  | captureRatio => "CaptureRatio"
  | continuous => "Continuous"
  | logicAnalyzer => "LogicAnalyzer"
  | scanOptions => "ScanOptions"
  | deviceOptions => "DeviceOptions"

def ofName (name : String) : Except String Key :=
  match all.find? (·.name == name) with
  | some key => .ok key
  | none => .error ("unknown config key '" ++ name ++ "'")

end Key

end AnalyzerBoot.Setting
