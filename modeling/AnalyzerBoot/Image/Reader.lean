import AnalyzerBoot.Address
import AnalyzerBoot.Image.Segment

/-!
Reading an image segment by segment. A reader that has met the end of its image, or an error,
yields nothing more. Each segment it yields is taken off the front of what is left to read, which
is why reading ends.
-/

set_option autoImplicit false

namespace AnalyzerBoot.Image

/-- A position in an image, between two segments. -/
structure Reader where
  format : Format
  -- Bytes in the whole image.
  length : Nat
  -- What has not been read yet.
  rest : Bytes
  -- Bytes read so far, headers and checksum included.
  consumed : Nat
  -- The stored checksum, once it has been read.
  checksum : Option UInt32
  finished : Bool
  deriving DecidableEq, Repr

/-- What reading on yields: nothing, a segment, or the error that ends the image. -/
abbrev Item := Option (Except BringupError Segment)

private def byteText (byte : UInt8) : String :=
  String.ofList (Text.hexFixed .upper 2 byte.toNat)

/-- The image behind its signature, or why it has none. -/
def checkSignature (image : Bytes) : Except BringupError Bytes :=
  match image with
  | a :: b :: c :: d :: rest =>
    if [a, b] = Chip.signature ∧ d = Chip.imageType then .ok rest
    else .error (.corruptImage ("invalid signature " ++ byteText a ++ " " ++ byteText b ++ " " ++
      byteText c ++ " " ++ byteText d))
  | _ => .error (.corruptImage ("image is only " ++ toString image.length ++ " bytes long"))

/-- A reader in front of the first segment; a bad signature is found here. -/
def open? (image : Bytes) : Format → Except BringupError Reader
  | .simple => .ok ⟨.simple, image.length, image, 0, none, false⟩
  | .segmented =>
    (checkSignature image).map fun rest =>
      ⟨.segmented, image.length, rest, Chip.imageHeaderSize, none, false⟩

namespace Reader

/-- The end of reading; bytes that are still left make the image a truncated one. -/
def finish (reader : Reader) : Item × Reader :=
  (if reader.rest = [] then none
    else some (.error (.truncatedImage reader.rest.length reader.length)),
    { reader with finished := true })

/-- Exactly four bytes are the checksum. Otherwise a segment is a header of eight bytes and as many
payload words as it announces; a header that announces more than there is counts as read. -/
def nextSegment (reader : Reader) : Item × Reader :=
  match reader.rest with
  | [a, b, c, d] =>
    { reader with
      rest := []
      consumed := reader.consumed + Chip.checksumSize
      checksum := some (Word.ofBytes a b c d) }.finish
  | a :: b :: c :: d :: e :: f :: g :: h :: behind =>
    let length := 4 * (Word.ofBytes a b c d).toNat
    let consumed := reader.consumed + Chip.segmentHeaderSize
    let payload := behind.take length
    if payload.length = length then
      (some (.ok ⟨Word.ofBytes e f g h, payload⟩),
        { reader with rest := behind.drop length, consumed := consumed + length })
    else { reader with rest := behind, consumed := consumed }.finish
  | _ => reader.finish

def next (reader : Reader) : Item × Reader :=
  if reader.finished then (none, reader)
  else match reader.format with
    | .simple =>
      if reader.rest = [] then (none, { reader with finished := true })
      else
        (some (.ok ⟨0, reader.rest⟩),
          { reader with rest := [], consumed := reader.length, finished := true })
    | .segmented =>
      if reader.rest = [] then (none, { reader with finished := true })
      else reader.nextSegment

theorem finish_ne_ok (reader : Reader) (segment : Segment) :
    reader.finish.1 ≠ some (.ok segment) := by
  unfold finish
  split <;> simp

theorem nextSegment_rest_lt {reader after : Reader} {segment : Segment}
    (step : reader.nextSegment = (some (.ok segment), after)) :
    after.rest.length < reader.rest.length := by
  have notFinish : ∀ r : Reader, r.finish ≠ (some (.ok segment), after) :=
    fun r same => r.finish_ne_ok segment (congrArg Prod.fst same)
  unfold nextSegment at step
  split at step
  · exact absurd step (notFinish _)
  · next rest =>
    dsimp only at step
    split at step
    · obtain ⟨-, rfl⟩ := Prod.mk.inj step
      simp only [rest, List.length_drop, List.length_cons]
      omega
    · exact absurd step (notFinish _)
  · exact absurd step (notFinish _)

theorem next_rest_lt {reader after : Reader} {segment : Segment}
    (step : reader.next = (some (.ok segment), after)) :
    after.rest.length < reader.rest.length := by
  unfold next at step
  split at step
  · simp at step
  · split at step
    · split at step
      · simp at step
      · next notEmpty =>
        obtain ⟨-, rfl⟩ := Prod.mk.inj step
        simpa [List.length_pos_iff] using notEmpty
    · split at step
      · simp at step
      · exact nextSegment_rest_lt step

/-- All segments up to the end of the image or its error, and where reading stopped. -/
def drain (reader : Reader) : List Segment × Option BringupError × Reader :=
  match _step : reader.next with
  | (none, after) => ([], none, after)
  | (some (.error error), after) => ([], some error, after)
  | (some (.ok segment), after) =>
    let (segments, error, last) := after.drain
    (segment :: segments, error, last)
termination_by reader.rest.length
decreasing_by exact next_rest_lt _step

theorem drain_of_none {reader after : Reader} (step : reader.next = (none, after)) :
    reader.drain = ([], none, after) := by
  rw [drain]
  split <;> simp_all

theorem drain_of_error {reader after : Reader} {error : BringupError}
    (step : reader.next = (some (.error error), after)) :
    reader.drain = ([], some error, after) := by
  rw [drain]
  split <;> simp_all

theorem drain_of_segment {reader after : Reader} {segment : Segment}
    (step : reader.next = (some (.ok segment), after)) :
    reader.drain = (segment :: after.drain.1, after.drain.2) := by
  rw [drain]
  split <;> simp_all

end Reader

/-- All segments of an image and its stored checksum, if it can be read to its end. -/
def decode (image : Bytes) (format : Format) :
    Except BringupError (List Segment × Option UInt32) := do
  let reader ← open? image format
  match reader.drain with
  | (_, some error, _) => .error error
  | (segments, none, last) => .ok (segments, last.checksum)

theorem decode_of_open {image : Bytes} {format : Format} {reader : Reader}
    (opened : open? image format = .ok reader) :
    decode image format = match reader.drain with
      | (_, some error, _) => .error error
      | (segments, none, last) => .ok (segments, last.checksum) := by
  rw [decode, opened]
  rfl

end AnalyzerBoot.Image
