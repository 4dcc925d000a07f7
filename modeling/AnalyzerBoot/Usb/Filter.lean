import AnalyzerBoot.Usb.Candidate

/-!
Filters that restrict a scan to one device, written as a bus and an address in decimal or as a
vendor and a product in four hexadecimal digits each.
-/

set_option autoImplicit false

namespace AnalyzerBoot.Usb

inductive Filter where
  | location (busId : String) (address : UInt8)
  | ids (vendorId productId : UInt16)
  deriving DecidableEq, Repr

namespace Filter

/-- A bus that is a 32-bit number is known by that number, without leading zeros or plus sign;
other buses are known by their text. -/
def canonicalBus (busId : String) : String :=
  match Text.readBounded? (UInt32.size - 1) busId.toList with
  | some number => toString number
  | none => busId

def accepts (filter : Filter) (candidate : Candidate) : Bool :=
  match filter with
  | location busId address =>
    canonicalBus candidate.busId == busId && candidate.address == address
  | ids vendorId productId =>
    candidate.vendorId == vendorId && candidate.productId == productId

def splitDot (text : List Char) : Option (List Char × List Char) :=
  match text.dropWhile (· != '.') with
  | [] => none
  | _ :: right => some (text.takeWhile (· != '.'), right)

def isId (text : List Char) : Bool :=
  text.length == 4 && text.all Text.isHexDigit

/-- Reads a filter. Four hexadecimal digits on both sides are identifiers even if all of them are
decimal digits. -/
def read (text : String) : Except String Filter :=
  let malformed : Except String Filter :=
    .error ("invalid connection '" ++ text ++ "', expected BUS.ADDRESS or VID.PID")
  match splitDot text.toList with
  | none => malformed
  | some (left, right) =>
    if isId left && isId right then
      .ok (.ids (UInt16.ofNat (Text.hexValue left)) (UInt16.ofNat (Text.hexValue right)))
    else if Text.isDecimal left && Text.isDecimal right then
      match Text.readBounded? 255 right with
      | some address => .ok (.location (canonicalBus (String.ofList left)) (UInt8.ofNat address))
      | none => .error ("device address '" ++ String.ofList right ++ "' out of range")
    else malformed

def idDigits (id : UInt16) : String :=
  String.ofList (Text.hexFixed .lower 4 id.toNat)

def text : Filter → String
  | location busId address => locationText busId address
  | ids vendorId productId => idDigits vendorId ++ "." ++ idDigits productId

end Filter

end AnalyzerBoot.Usb
