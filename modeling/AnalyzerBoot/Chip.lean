import AnalyzerBoot.Word

/-!
Fixed numbers of the two USB controllers and their boot loaders: identifiers, vendor requests,
image layout, size limits and timings. Times are in milliseconds.
-/

set_option autoImplicit false

namespace AnalyzerBoot.Chip

def cypressVendorId : UInt16 := 0x04B4
def fx3LoaderId : UInt16 := 0x00F3
def fx2LoaderId : UInt16 := 0x8613

def firmwareManufacturer : String := "sigrok"
def firmwareProduct : String := "fx3lafw"

/-- US English, the one language in which boot loaders describe themselves. -/
def languageUsEnglish : UInt16 := 0x0409

def usbConfiguration : UInt8 := 1
def usbInterface : UInt8 := 0

/-- Stands for the address of a device that has not come back from its boot loader yet. -/
def unknownAddress : UInt8 := 0xFF

/-- The vendor request that writes device memory. -/
def loadRequest : UInt8 := 0xA0
/-- The register whose bit 0 holds the high-speed controller's processor in reset. -/
def resetRegister : UInt16 := 0xE600

def chunkSize : Nat := 4096
def fx2MaxImageSize : Nat := 65536
def fx3MaxImageSize : Nat := 548864

/-- The letters `CY`. -/
def signature : Bytes := [0x43, 0x59]
/-- Marks an image that the loader writes to memory and starts. -/
def imageType : UInt8 := 0xB0
def imageHeaderSize : Nat := 4
def segmentHeaderSize : Nat := 8
def checksumSize : Nat := 4

def controlTimeout : Nat := 100
def descriptorTimeout : Nat := 500
/-- How long the old identity of a device takes to leave the bus. -/
def settleTime : Nat := 300
def pollInterval : Nat := 100
/-- How long after its upload a device may take to come back. -/
def maxDelay : Nat := 3000

end AnalyzerBoot.Chip
