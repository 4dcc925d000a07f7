import AnalyzerBoot.Config
import AnalyzerBoot.Files.Tree
import AnalyzerBoot.Text.Utf8
import AnalyzerBoot.Toml.Writer

/-!
Configurations as TOML files. Entries that a file lacks have their defaults, and entries that mean
nothing here are passed over.
-/

set_option autoImplicit false

namespace AnalyzerBoot

inductive ConfigError where
  -- There is no file, or it holds no text.
  | unreadable
  -- The text is not TOML, or an entry has a value that it cannot have.
  | malformed
  -- A number is too large for the file.
  | unrepresentable
  -- The file cannot be made.
  | unwritable
  deriving DecidableEq, Repr

namespace Config

/-- The entries of a configuration, in the order in which they are written. -/
def toEntries (config : Config) : Toml.Entries :=
  [("firmware_dirs", .array (config.firmwareDirs.map .string)),
    ("usb_configuration", .integer config.usbConfiguration.toNat),
    ("usb_interface", .integer config.usbInterface.toNat),
    ("renum_settle_ms", .integer config.renumSettle),
    ("renum_poll_interval_ms", .integer config.renumPollInterval),
    ("max_renum_delay_ms", .integer config.maxRenumDelay)]

/-- A number from zero up to a bound, or the default where there is no entry. -/
def numberEntry (entries : Toml.Entries) (key : String) (bound default : Nat) : Option Nat :=
  match entries.lookup key with
  | none => some default
  | some (.integer value) => if 0 ≤ value ∧ value ≤ bound then some value.toNat else none
  | some _ => none

def textOf? : Toml.Value → Option String
  | .string value => some value
  | _ => none

/-- A list of texts, or none at all where there is no entry. -/
def textsEntry (entries : Toml.Entries) (key : String) (default : List String) :
    Option (List String) :=
  match entries.lookup key with
  | none => some default
  | some (.array items) => items.mapM textOf?
  | some _ => none

def ofEntries? (entries : Toml.Entries) : Option Config := do
  let base : Config := {}
  let firmwareDirs ← textsEntry entries "firmware_dirs" base.firmwareDirs
  let configuration ←
    numberEntry entries "usb_configuration" 255 base.usbConfiguration.toNat
  let interface ← numberEntry entries "usb_interface" 255 base.usbInterface.toNat
  let settle ← numberEntry entries "renum_settle_ms" (UInt64.size - 1) base.renumSettle
  let poll ← numberEntry entries "renum_poll_interval_ms" (UInt64.size - 1) base.renumPollInterval
  let delay ← numberEntry entries "max_renum_delay_ms" (UInt64.size - 1) base.maxRenumDelay
  return ⟨firmwareDirs, UInt8.ofNat configuration, UInt8.ofNat interface, settle, poll, delay⟩

def toToml? (config : Config) : Option String :=
  (Toml.write? config.toEntries).map String.ofList

def ofToml? (text : String) : Option Config := do
  ofEntries? (← Toml.read? text.toList)

def load (files : Files.View) (path : String) : Except ConfigError Config := do
  let some (.file _ content) := files path | .error .unreadable
  let some text := Text.ofUtf8? content | .error .unreadable
  let some config := ofToml? text | .error .malformed
  return config

/-- Writes a configuration to the file at a path. The file is opened once its text is known. -/
def save (config : Config) (path : String) : ExceptT ConfigError (StateM Files.Tree) Unit := do
  let some text := config.toToml? | throw .unrepresentable
  if !(← Files.Tree.write path (Text.toUtf8 text)) then throw .unwritable

end Config

end AnalyzerBoot
