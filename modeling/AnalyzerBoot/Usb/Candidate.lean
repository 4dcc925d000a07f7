import AnalyzerBoot.Usb.Error

/-!
Devices as a listing of the bus shows them, and the texts they describe themselves with.
-/

set_option autoImplicit false

namespace AnalyzerBoot.Usb

structure Candidate where
  busId : String
  -- Changes every time the device renumerates.
  address : UInt8
  vendorId : UInt16
  productId : UInt16
  -- The physical port, which stays the same.
  portPath : Option String
  deriving DecidableEq, Repr

def locationText (busId : String) (address : UInt8) : String :=
  busId ++ "." ++ toString address.toNat

def Candidate.text (candidate : Candidate) : String :=
  idText candidate.vendorId ++ ":" ++ idText candidate.productId ++ " at " ++
    locationText candidate.busId candidate.address

/-- A text the device does not have reads as the empty text. -/
structure Strings where
  manufacturer : String
  product : String
  serialNumber : String
  deriving DecidableEq, Repr

end AnalyzerBoot.Usb
