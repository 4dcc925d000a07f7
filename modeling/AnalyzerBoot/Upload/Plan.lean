import AnalyzerBoot.Image.Reader
import AnalyzerBoot.Upload.Slice
import AnalyzerBoot.Usb.Bus

/-!
The transfers that write an image, worked out before any is made: the slices of all segments in
order, up to the error that ends the image, if there is one.
-/

set_option autoImplicit false

namespace AnalyzerBoot.Upload

def writeTransfer (address : Address) (data : Bytes) : Usb.Transfer where
  request := Chip.loadRequest
  value := address.low
  index := address.high
  data := data
  timeout := Chip.controlTimeout

def Chunk.transfer (chunk : Chunk) : Usb.Transfer :=
  writeTransfer chunk.address chunk.data

/-- The write that holds the processor in reset or lets it run. -/
def resetTransfer (asserted : Bool) : Usb.Transfer :=
  writeTransfer ⟨Chip.resetRegister, 0⟩ [if asserted then 1 else 0]

def byteCount (row : List Usb.Transfer) : Nat :=
  row.foldr (·.data.length + ·) 0

@[simp] theorem byteCount_nil : byteCount [] = 0 := rfl

@[simp] theorem byteCount_cons (transfer : Usb.Transfer) (row : List Usb.Transfer) :
    byteCount (transfer :: row) = transfer.data.length + byteCount row := rfl

@[simp] theorem byteCount_append (front back : List Usb.Transfer) :
    byteCount (front ++ back) = byteCount front + byteCount back := by
  induction front with
  | nil => exact (Nat.zero_add _).symm
  | cons transfer rest ih =>
    rw [List.cons_append, byteCount_cons, ih, byteCount_cons, Nat.add_assoc]

/-- Transfers, and the error behind the last of them. -/
structure Plan where
  transfers : List Usb.Transfer
  error : Option BringupError
  deriving DecidableEq

namespace Plan

def ofSegment (segment : Segment) : Plan :=
  ⟨(segment.slices Chip.chunkSize).map Chunk.transfer, segment.sliceOverflow? Chip.chunkSize⟩

/-- Nothing is planned behind an error. -/
def append (first second : Plan) : Plan :=
  match first.error with
  | some _ => first
  | none => ⟨first.transfers ++ second.transfers, second.error⟩

/-- The plan of some segments in front of the end of their image. -/
def ofSegments (segments : List Segment) (error : Option BringupError) : Plan :=
  segments.foldr (fun segment rest => (ofSegment segment).append rest) ⟨[], error⟩

def ofImage (image : Bytes) (format : Image.Format) : Plan :=
  match Image.open? image format with
  | .error error => ⟨[], some error⟩
  | .ok reader =>
    let (segments, error, _) := reader.drain
    ofSegments segments error

end Plan

end AnalyzerBoot.Upload
