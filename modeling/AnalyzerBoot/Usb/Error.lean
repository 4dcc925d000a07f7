import AnalyzerBoot.Text.Digits

/-!
Why a request to the USB bus or to an open device failed.
-/

set_option autoImplicit false

namespace AnalyzerBoot.Usb

inductive Error where
  | deviceNotFound (vendorId productId : UInt16)
  | enumerationFailed (reason : String)
  | openFailed (reason : String)
  | stringDescriptor (index : UInt8) (reason : String)
  | detachFailed (interface : UInt8) (reason : String)
  | configurationFailed (configuration : UInt8) (reason : String)
  | claimFailed (interface : UInt8) (reason : String)
  -- Another program or driver holds the interface.
  | busy (interface : UInt8)
  | transferFailed (reason : String)
  | disconnected
  | io (reason : String)
  deriving DecidableEq, Repr

def idText (id : UInt16) : String :=
  String.ofList (Text.hexFixed .upper 4 id.toNat)

def Error.message : Error → String
  | deviceNotFound vendorId productId =>
    "Device not found: VID=" ++ idText vendorId ++ " PID=" ++ idText productId
  | enumerationFailed reason => "Failed to enumerate devices: " ++ reason
  | openFailed reason => "Failed to open device: " ++ reason
  | stringDescriptor index reason =>
    "Failed to read string descriptor " ++ toString index.toNat ++ ": " ++ reason
  | detachFailed interface reason =>
    "Failed to detach kernel driver from interface " ++ toString interface.toNat ++ ": " ++ reason
  | configurationFailed configuration reason =>
    "Failed to set configuration " ++ toString configuration.toNat ++ ": " ++ reason
  | claimFailed interface reason =>
    "Failed to claim interface " ++ toString interface.toNat ++ ": " ++ reason
  | busy interface =>
    "Interface " ++ toString interface.toNat ++ " already claimed by another program or driver"
  | transferFailed reason => "Control transfer failed: " ++ reason
  | disconnected => "Device disconnected"
  | io reason => "IO error: " ++ reason

end AnalyzerBoot.Usb
