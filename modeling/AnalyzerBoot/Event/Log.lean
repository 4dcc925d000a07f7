import AnalyzerBoot.Event.Basic

/-!
Events as log records: a level, a message, and fields for what a reader would search by.
-/

set_option autoImplicit false

namespace AnalyzerBoot.Log

inductive Level where
  | trace
  | debug
  | info
  | warn
  deriving DecidableEq, Repr

inductive Field where
  | text (value : String)
  | number (value : Nat)
  deriving DecidableEq, Repr

structure Entry where
  level : Level
  message : String
  fields : List (String × Field)
  deriving DecidableEq, Repr

private def idFields (vendorId productId : UInt16) : List (String × Field) :=
  [("vid", .text (Usb.idText vendorId)), ("pid", .text (Usb.idText productId))]

def ofEvent : Event → Entry
  | .deviceDiscovered vendorId productId busId address =>
    ⟨.debug, "Found candidate device on " ++ Usb.locationText busId address,
      idFields vendorId productId⟩
  | .deviceSkipped vendorId productId reason =>
    ⟨.warn, "Skipping device: " ++ reason, idFields vendorId productId⟩
  | .uploadStarted firmware size =>
    ⟨.info, "Uploading firmware '" ++ firmware ++ "'", [("size", .number size)]⟩
  | .chunkUploaded address length =>
    ⟨.trace, "Uploaded " ++ toString length ++ " bytes",
      [("address", .text (Address.wordText address))]⟩
  | .uploadComplete bytes => ⟨.info, "Firmware upload done", [("bytes", .number bytes)]⟩
  | .resetChanged asserted =>
    ⟨.info, "Setting CPU reset mode " ++ (if asserted then "on" else "off"), []⟩
  | .waitingForRenumeration elapsed => ⟨.trace, "Waited " ++ toString elapsed ++ "ms", []⟩
  | .renumerated elapsed address =>
    ⟨.info, "Device came back after " ++ toString elapsed ++ "ms",
      [("address", .number address.toNat)]⟩
  | .deviceOpened busId address =>
    ⟨.info, "Opened device on " ++ Usb.locationText busId address, []⟩
  | .deviceClosed busId address =>
    ⟨.info, "Closed device on " ++ Usb.locationText busId address, []⟩

end AnalyzerBoot.Log
