import AnalyzerBoot.Address
import AnalyzerBoot.Usb.Candidate

/-!
What bringing up devices reports on its way, and the log lines that show it. Elapsed times are in
milliseconds.
-/

set_option autoImplicit false

namespace AnalyzerBoot

inductive Event where
  | deviceDiscovered (vendorId productId : UInt16) (busId : String) (address : UInt8)
  | deviceSkipped (vendorId productId : UInt16) (reason : String)
  | uploadStarted (firmware : String) (size : Nat)
  -- The device took one chunk.
  | chunkUploaded (address : UInt32) (length : Nat)
  | uploadComplete (bytes : Nat)
  | resetChanged (asserted : Bool)
  | waitingForRenumeration (elapsed : Nat)
  | renumerated (elapsed : Nat) (address : UInt8)
  | deviceOpened (busId : String) (address : UInt8)
  | deviceClosed (busId : String) (address : UInt8)
  deriving DecidableEq, Repr

end AnalyzerBoot
