import AnalyzerBoot.Image.Reader

/-!
The table of segments of an image, with its stored checksum and the one its payloads have.
-/

set_option autoImplicit false

namespace AnalyzerBoot.Image

structure Summary where
  -- Load address and length of each segment.
  segments : List (UInt32 × Nat)
  stored : Option UInt32
  computed : UInt32
  -- Bytes in the whole image.
  length : Nat
  deriving DecidableEq, Repr

namespace Summary

def payloadBytes (summary : Summary) : Nat :=
  summary.segments.foldr (fun (_, length) rest => length + rest) 0

def checksumMatches (summary : Summary) : Option Bool :=
  summary.stored.map (· == summary.computed)

end Summary

/-- The sum of the payload words of all segments, modulo 2^32. -/
def checksum (segments : List Segment) : UInt32 :=
  segments.foldl (fun sum segment => Word.checksum sum segment.payload) 0

/-- Reads a whole image; an image that cannot be read to its end has no summary. -/
def inspect (image : Bytes) (format : Format) : Except BringupError Summary := do
  let (segments, stored) ← decode image format
  return {
    segments := segments.map fun segment => (segment.address, segment.payload.length)
    stored := stored
    computed := checksum segments
    length := image.length }

end AnalyzerBoot.Image
