import AnalyzerBoot.Setting.Key
import AnalyzerBoot.Text.Digits

/-!
Why bringing up a device, or reading or changing one of its settings, failed.
-/

set_option autoImplicit false

namespace AnalyzerBoot

inductive BringupError where
  | resourceNotFound (name : String)
  | resourceTooLarge (name : String) (size limit : Nat)
  | corruptImage (reason : String)
  | truncatedImage (unconsumed length : Nat)
  | addressOverflow (base : UInt32) (offset : Nat)
  | transferFailed (reason : String)
  | configurationFailed (reason : String)
  -- The device did not come back in time; the last attempt to reach it failed for this reason.
  | renumerationTimeout (waited : Nat) (lastError : String)
  | unsupportedKey (key : Setting.Key)
  | addressUnknown
  | invalidValue (key : Setting.Key) (reason : String)
  | io (reason : String)
  deriving DecidableEq, Repr

namespace BringupError

def message : BringupError → String
  | resourceNotFound name => "Firmware '" ++ name ++ "' not found in any firmware directory"
  | resourceTooLarge name size limit =>
    "Firmware '" ++ name ++ "' is too large: " ++ toString size ++ " bytes, maximum " ++
      toString limit
  | corruptImage reason => "Corrupt firmware image: " ++ reason
  | truncatedImage unconsumed length =>
    "Firmware image is truncated: " ++ toString unconsumed ++ " of " ++ toString length ++
      " bytes left unparsed"
  | addressOverflow base offset =>
    "Chunk address 0x" ++ String.ofList (Text.hexFixed .upper 8 base.toNat) ++ " + 0x" ++
      String.ofList (Text.hexMinimal .upper offset) ++ " exceeds 32 bits"
  | transferFailed reason => "Control transfer failed: " ++ reason
  | configurationFailed reason => "Device configuration failed: " ++ reason
  | renumerationTimeout waited lastError =>
    "Device failed to renumerate within " ++ toString waited ++ "ms: " ++ lastError
  | unsupportedKey key => "Unsupported config key: " ++ key.name
  | addressUnknown => "Device address not yet known, renumeration pending"
  | invalidValue key reason => "Invalid value for " ++ key.name ++ ": " ++ reason
  | io reason => "IO error: " ++ reason

end BringupError

end AnalyzerBoot
