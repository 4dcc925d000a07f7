import AnalyzerBoot.Host
import AnalyzerBoot.Upload.Plan

/-!
Writing an image to an open device. Segments are sent as they are read, so an image that turns out
to be broken has its earlier segments sent already. The first transfer that fails ends the upload.
-/

set_option autoImplicit false

namespace AnalyzerBoot.Upload

variable {σ η : Type} [Usb.Bus σ η]

/-- Makes one transfer; how many bytes the device reports does not matter. -/
def send (handle : η) (transfer : Usb.Transfer) : Bringup σ Unit := do
  let _ ← Host.request (fun error => .transferFailed error.message)
    (Usb.Bus.transferOut handle transfer)

def uploadChunk (handle : η) (chunk : Chunk) : Bringup σ Unit := do
  send handle chunk.transfer
  Host.emit (σ := σ) (.chunkUploaded chunk.address.toWord chunk.data.length)

/-- Sends the chunks that are left of a segment and adds up their bytes. -/
def uploadChunks (handle : η) (chunker : Chunker) (sent : Nat) : Bringup σ Nat :=
  match _step : chunker.next with
  | (none, _) => return sent
  | (some (.error error), _) => throw error
  | (some (.ok chunk), after) => do
    uploadChunk handle chunk
    uploadChunks handle after (sent + chunk.data.length)
termination_by chunker.remaining
decreasing_by exact Chunker.next_remaining_lt _step

def uploadSegment (handle : η) (segment : Segment) : Bringup σ Nat :=
  uploadChunks handle (.ofSegment segment Chip.chunkSize) 0

/-- Sends the segments that are left of an image and adds up their bytes. -/
def uploadSegments (handle : η) (reader : Image.Reader) (sent : Nat) : Bringup σ Nat :=
  match _step : reader.next with
  | (none, _) => return sent
  | (some (.error error), _) => throw error
  | (some (.ok segment), after) => do
    let written ← uploadSegment handle segment
    uploadSegments handle after (sent + written)
termination_by reader.rest.length
decreasing_by exact Image.Reader.next_rest_lt _step

def uploadImage (handle : η) (image : Bytes) (format : Image.Format) : Bringup σ Nat := do
  let reader ← Image.open? image format
  let sent ← uploadSegments handle reader 0
  Host.emit (σ := σ) (.uploadComplete sent)
  return sent

/-- Holds the processor in reset or lets it run. -/
def setReset (handle : η) (asserted : Bool) : Bringup σ Unit := do
  Host.emit (σ := σ) (.resetChanged asserted)
  send handle (resetTransfer asserted)

end AnalyzerBoot.Upload
