import AnalyzerBoot.Image.Segment
import AnalyzerBoot.Usb.Candidate

/-!
Supported device models: how a model is recognised on the bus, which firmware it gets, and which
channels and sample rates it then offers.
-/

set_option autoImplicit false

namespace AnalyzerBoot

structure Capabilities where
  -- The SuperSpeed controller: segmented images, no reset around the upload, fast rates.
  fx3 : Bool := false
  bits16 : Bool := false
  bits24 : Bool := false
  bits32 : Bool := false
  -- One analog input beside the logic channels.
  analog : Bool := false
  deriving DecidableEq, Repr

namespace Capabilities

def none : Capabilities := {}

def union (a b : Capabilities) : Capabilities :=
  ⟨a.fx3 || b.fx3, a.bits16 || b.bits16, a.bits24 || b.bits24, a.bits32 || b.bits32,
    a.analog || b.analog⟩

/-- The capabilities as a number, one bit each. -/
def bits (caps : Capabilities) : UInt32 :=
  caps.fx3.toUInt32 + 2 * caps.bits16.toUInt32 + 4 * caps.bits24.toUInt32 +
    8 * caps.bits32.toUInt32 + 16 * caps.analog.toUInt32

/-- Whether the first has every capability of the second. -/
def contains (a b : Capabilities) : Bool :=
  a.union b == a

end Capabilities

structure Profile where
  vendorId : UInt16
  productId : UInt16
  vendor : String
  model : String
  version : Option String
  -- Name of the firmware image.
  firmware : String
  caps : Capabilities
  -- Required of the device where identifiers alone are ambiguous.
  manufacturer : Option String
  product : Option String
  deriving DecidableEq, Repr

def samplerates : List Nat :=
  [200000, 250000, 500000, 1000000, 2000000, 3000000, 4000000, 6000000, 8000000, 12000000,
    16000000, 24000000, 32000000, 48000000, 64000000, 96000000, 192000000]

/-- How many of the highest sample rates need the SuperSpeed controller. -/
def fastRateCount : Nat := 5

namespace Profile

def imageFormat (profile : Profile) : Image.Format :=
  if profile.caps.fx3 then .segmented else .simple

/-- Whether the processor is held in reset during the upload. -/
def needsReset (profile : Profile) : Bool :=
  !profile.caps.fx3

def samplerates (profile : Profile) : List Nat :=
  if profile.caps.fx3 then AnalyzerBoot.samplerates
  else AnalyzerBoot.samplerates.take (AnalyzerBoot.samplerates.length - fastRateCount)

def logicChannels (profile : Profile) : Nat :=
  if profile.caps.bits32 then 32
  else if profile.caps.bits24 then 24
  else if profile.caps.bits16 then 16
  else 8

def analogChannels (profile : Profile) : Nat :=
  if profile.caps.analog then 1 else 0

def isPlausible (profile : Profile) (vendorId productId : UInt16) : Bool :=
  profile.vendorId == vendorId && profile.productId == productId

/-- Whether the model has these identifiers and requires no other strings than these. -/
def accepts (profile : Profile) (vendorId productId : UInt16) (strings : Usb.Strings) : Bool :=
  profile.isPlausible vendorId productId &&
    profile.manufacturer.all (· == strings.manufacturer) &&
    profile.product.all (· == strings.product)

def text (profile : Profile) : String :=
  profile.vendor ++ " " ++ profile.model ++ profile.version.elim "" (" " ++ ·)

/-- Known models, the preferred one first. -/
def supported : List Profile :=
  [{ vendorId := Chip.cypressVendorId
     productId := Chip.fx3LoaderId
     vendor := "Cypress"
     model := "SuperSpeed Explorer Kit"
     version := none
     firmware := "fx3lafw-cypress-fx3.fw"
     caps := { fx3 := true, bits32 := true }
     manufacturer := none
     product := none }]

end Profile

def isPlausible (profiles : List Profile) (vendorId productId : UInt16) : Bool :=
  profiles.any (·.isPlausible vendorId productId)

def findProfile? (profiles : List Profile) (vendorId productId : UInt16)
    (strings : Usb.Strings) : Option Profile :=
  profiles.find? (·.accepts vendorId productId strings)

/-- Whether a device that describes itself so runs the analyzer firmware already. -/
def hasFirmware (strings : Usb.Strings) : Bool :=
  strings.manufacturer == Chip.firmwareManufacturer && strings.product == Chip.firmwareProduct

end AnalyzerBoot
