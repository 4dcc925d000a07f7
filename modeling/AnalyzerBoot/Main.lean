import AnalyzerBoot.Tool.Response
import AnalyzerBoot.Usb.Simulated

/-!
The bring-up tool as a program. There is no transport for real devices here, so the bus it works on
has none.
-/

set_option autoImplicit false

namespace AnalyzerBoot

def readEntry (path : String) : IO (Option (String × Files.Entry)) := do
  try
    let content ← IO.FS.readBinFile path
    return some (path, .ofContent content.data.toList)
  catch _ => return none

def writeConfig (config : Config) (path : String) : IO Bool := do
  let some text := config.toToml? | return false
  try
    IO.FS.writeFile path text
    return true
  catch _ => return false

/-- Answers the arguments of a run: prints, saves, and says how the run ended. -/
def runTool (arguments : List String) : IO ExitStatus := do
  let environment ← IO.getEnv Firmware.directoryVariable
  let entries ← (Tool.filesRead arguments).filterMapM readEntry
  let host : Host Usb.SimulatedBus := { bus := {} }
  let (response, _) :=
    Tool.respond (η := Usb.Handle) arguments (fun path => entries.lookup path) environment host
  IO.print response.output
  match response.save with
  | none => return response.status
  | some (config, path) =>
    return if ← writeConfig config path then response.status else .failure

end AnalyzerBoot

def main (arguments : List String) : IO UInt32 := do
  return (← AnalyzerBoot.runTool arguments).code
