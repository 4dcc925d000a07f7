import AnalyzerBoot.Image.Summary
import AnalyzerBoot.Inventory
import AnalyzerBoot.Setting.Device
import AnalyzerBoot.Text.Layout

/-!
What the bring-up tool prints.
-/

set_option autoImplicit false

namespace AnalyzerBoot.Tool

private def address (word : UInt32) : String :=
  "0x" ++ String.ofList (Text.hexFixed .upper 8 word.toNat)

private def bytes (width count : Nat) : String :=
  Text.padLeft width (toString count) ++ " bytes"

def segmentLine (segment : UInt32 × Nat) (index : Nat) : String :=
  "  [" ++ Text.padLeft 2 (toString index) ++ "] " ++ address segment.1 ++ " " ++
    bytes 7 segment.2 ++ "\n"

def checksumLine (summary : Image.Summary) : String :=
  match summary.stored with
  | none => ""
  | some stored =>
    "  checksum: stored " ++ address stored ++ ", computed " ++ address summary.computed ++ " (" ++
      (if summary.checksumMatches = some true then "ok" else "MISMATCH") ++ ")\n"

/-- The segments of the image in a file, what they add up to, and the checksum if there is one. -/
def imageReport (path : String) (summary : Image.Summary) : String :=
  path ++ " (" ++ bytes 0 summary.length ++ ")\n" ++
    String.join (summary.segments.mapIdx fun index segment => segmentLine segment index) ++
    "  payload: " ++ bytes 0 summary.payloadBytes ++ "\n" ++ checksumLine summary

def modelLine (profile : Profile) : String :=
  "  " ++ Usb.Filter.idDigits profile.vendorId ++ ":" ++
    Usb.Filter.idDigits profile.productId ++ " " ++
    Text.padRight 28 profile.text ++ " firmware " ++ profile.firmware ++ "\n"

/-- The values a key can have in general; keys that have none are left out. -/
def keyLine (key : Setting.Key) : String :=
  match Setting.list key none with
  | .ok value => key.name ++ ": " ++ value.toText ++ "\n"
  | .error _ => ""

def supportReport : String :=
  "Supported models:\n" ++ String.join (Profile.supported.map modelLine) ++
    String.join ([Setting.Key.scanOptions, .deviceOptions, .triggerMatch].map keyLine)

private def portText (record : Record) : String :=
  record.profile.vendor ++ " " ++ record.profile.model ++ " on " ++ record.connectionId ++ ": "

def outcomeLine : Outcome → String
  | .ready record => portText record ++ "ready\n"
  | .uploaded record => portText record ++ "firmware uploaded, renumerating\n"
  | .uploadFailed record error => portText record ++ "upload failed: " ++ error.message ++ "\n"
  | .skipped candidate reason => candidate.text ++ ": skipped (" ++ reason.text ++ ")\n"

private def row (name text : String) : String :=
  "  " ++ Text.padRight 14 name ++ " " ++ text ++ "\n"

def settingRow (record : Record) (key : Setting.Key) : String :=
  row key.name (match Setting.get record key with
    | .ok value => value.toText
    | .error error => "<" ++ error.message ++ ">")

/-- The settings of an open device, its sample rates and how many channels it has. -/
def deviceReport (record : Record) : String :=
  record.profile.vendor ++ " " ++ record.profile.model ++ " (" ++ record.status.text ++ ")\n" ++
    String.join ([Setting.Key.conn, .samplerate, .limitSamples, .captureRatio].map
      (settingRow record)) ++
    row "samplerates" (Setting.Value.samplerates record.state.samplerates).toText ++
    row "channels" (toString record.channels.length)

end AnalyzerBoot.Tool
