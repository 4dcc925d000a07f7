import AnalyzerBoot.Chip

/-!
Firmware images as sequences of segments, each a payload with the address it is loaded at. A plain
image is one segment at address zero. A segmented image has a signature, its segments behind
headers of a word count and an address, and possibly a checksum.
-/

set_option autoImplicit false

namespace AnalyzerBoot

structure Segment where
  address : UInt32
  payload : Bytes
  deriving DecidableEq, Repr

namespace Image

inductive Format where
  -- A raw memory image for address zero.
  | simple
  -- Signature, segments with headers, checksum.
  | segmented
  deriving DecidableEq, Repr

/-- The largest image a boot loader of this format takes. -/
def Format.maxSize : Format → Nat
  | simple => Chip.fx2MaxImageSize
  | segmented => Chip.fx3MaxImageSize

/-- The signature of a segmented image, around a free control byte. -/
def header (control : UInt8) : Bytes :=
  Chip.signature ++ [control, Chip.imageType]

def encodeSegment (segment : Segment) : Bytes :=
  Word.toBytes (UInt32.ofNat (segment.payload.length / 4)) ++ Word.toBytes segment.address ++
    segment.payload

/-- The segmented image of some segments and possibly a checksum. -/
def encode (control : UInt8) (segments : List Segment) (checksum : Option UInt32) : Bytes :=
  header control ++ segments.flatMap encodeSegment ++ checksum.elim [] Word.toBytes

end Image

end AnalyzerBoot
