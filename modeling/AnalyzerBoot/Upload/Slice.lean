import AnalyzerBoot.Upload.Chunk

/-!
Segments as rows of slices of one size, each known by its index. The last slice may be shorter; an
empty segment is one empty slice.
-/

set_option autoImplicit false

namespace AnalyzerBoot.Segment

def sliceCount (segment : Segment) (size : Nat) : Nat :=
  max 1 ((segment.payload.length + size - 1) / size)

/-- Where a slice is loaded, whether or not 32 bits hold it. -/
def sliceAddress (segment : Segment) (size index : Nat) : Nat :=
  segment.address.toNat + index * size

def slice (segment : Segment) (size index : Nat) : Upload.Chunk where
  address := .ofWord (UInt32.ofNat (segment.sliceAddress size index))
  data := (segment.payload.drop (index * size)).take size

/-- The slices in front of the first whose address does not fit 32 bits. -/
def slices (segment : Segment) (size : Nat) : List Upload.Chunk :=
  ((List.range (segment.sliceCount size)).takeWhile
    (segment.sliceAddress size · < UInt32.size)).map (segment.slice size)

/-- The first slice address that does not fit 32 bits. -/
def sliceOverflow? (segment : Segment) (size : Nat) : Option BringupError :=
  ((List.range (segment.sliceCount size)).find? (UInt32.size ≤ segment.sliceAddress size ·)).map
    fun index => .addressOverflow segment.address (index * size)

end AnalyzerBoot.Segment
