import AnalyzerBoot.Error
import AnalyzerBoot.Record
import AnalyzerBoot.Setting.Value

/-!
Reading, changing and listing the settings of a device. A value is checked before it is written.
-/

set_option autoImplicit false

namespace AnalyzerBoot.Setting

def scanOptions : List Key := [.conn]

def driverOptions : List Key := [.logicAnalyzer]

def deviceOptions : List Access :=
  [⟨.continuous, false, false, false⟩,
    ⟨.limitSamples, true, true, false⟩,
    ⟨.conn, true, false, false⟩,
    ⟨.samplerate, true, true, true⟩,
    ⟨.triggerMatch, false, false, true⟩,
    ⟨.captureRatio, true, true, false⟩]

def triggers : List Trigger := [.zero, .one, .rising, .falling, .edge]

/-- The connection can be read once the device's address is known. -/
def get (record : Record) (key : Key) : Except BringupError Value :=
  match key with
  | .conn =>
    if record.location.isKnown then .ok (.text record.location.text) else .error .addressUnknown
  | .limitSamples => .ok (.integer record.state.limitSamples)
  | .samplerate => .ok (.integer record.state.samplerate)
  | .captureRatio => .ok (.integer record.state.captureRatio)
  | _ => .error (.unsupportedKey key)

def Value.toInteger (value : Value) (key : Key) : Except BringupError Nat :=
  match value with
  | .integer n => .ok n
  | _ => .error (.invalidValue key ("expected an integer, got " ++ value.label))

/-- Gives a setting of a record a value. -/
def set (key : Key) (value : Value) : ExceptT BringupError (StateM Record) Unit := do
  let write (change : DeviceState → DeviceState) := modify (Record.changeState · change)
  match key with
  | .samplerate =>
    let rate ← value.toInteger key
    let record ← getThe Record
    if rate ∉ record.state.samplerates then
      throw (.invalidValue key
        (toString rate ++ " Hz is not supported by " ++ record.profile.text))
    write ({ · with samplerate := rate })
  | .limitSamples =>
    let limit ← value.toInteger key
    write ({ · with limitSamples := limit })
  | .captureRatio =>
    let ratio ← value.toInteger key
    if 100 < ratio then throw (.invalidValue key (toString ratio ++ " is not a percentage"))
    write ({ · with captureRatio := ratio })
  | _ => throw (.unsupportedKey key)

/-- The values a setting can take, of one device or in general. -/
def list (key : Key) (record : Option Record) : Except BringupError Value :=
  match key, record with
  | .scanOptions, _ => .ok (.keys scanOptions)
  | .deviceOptions, none => .ok (.keys driverOptions)
  | .deviceOptions, some _ => .ok (.options deviceOptions)
  | .samplerate, some record => .ok (.samplerates record.state.samplerates)
  | .triggerMatch, _ => .ok (.triggers triggers)
  | _, _ => .error (.unsupportedKey key)

end AnalyzerBoot.Setting
