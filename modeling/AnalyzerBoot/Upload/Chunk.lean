import AnalyzerBoot.Address
import AnalyzerBoot.Image.Segment

/-!
Cutting a segment into pieces that fit one control transfer. An empty segment is one empty chunk:
writing it to the entry address is what starts the program.
-/

set_option autoImplicit false

namespace AnalyzerBoot.Upload

structure Chunk where
  address : Address
  data : Bytes
  deriving DecidableEq, Repr

/-- A position inside a segment, between two of its chunks. -/
structure Chunker where
  segment : Segment
  -- Most bytes in one chunk.
  size : Nat
  size_pos : 0 < size
  offset : Nat
  -- The payload from the offset on.
  rest : Bytes
  started : Bool

/-- Before the first chunk; a size of zero counts as one. -/
def Chunker.ofSegment (segment : Segment) (size : Nat) : Chunker :=
  ⟨segment, max size 1, by omega, 0, segment.payload, false⟩

namespace Chunker

def total (chunker : Chunker) : Nat :=
  max 1 ((chunker.segment.payload.length + chunker.size - 1) / chunker.size)

/-- The next chunk, or the overflow of its address, which ends the segment. -/
def next (chunker : Chunker) : Option (Except BringupError Chunk) × Chunker :=
  if chunker.started && chunker.rest.isEmpty then (none, chunker)
  else match Address.above chunker.segment.address chunker.offset with
    | .error error =>
      (some (.error error),
        { chunker with
          started := true
          offset := chunker.segment.payload.length
          rest := [] })
    | .ok address =>
      let data := chunker.rest.take chunker.size
      (some (.ok ⟨address, data⟩),
        { chunker with
          started := true
          offset := chunker.offset + data.length
          rest := chunker.rest.drop chunker.size })

/-- Chunks that may still come: one for each byte left, and one for a segment not begun. -/
def remaining (chunker : Chunker) : Nat :=
  chunker.rest.length + if chunker.started then 0 else 1

theorem next_remaining_lt {chunker after : Chunker} {chunk : Chunk}
    (step : chunker.next = (some (.ok chunk), after)) : after.remaining < chunker.remaining := by
  unfold next at step
  split at step
  · simp at step
  · next more =>
    split at step
    · simp at step
    · obtain ⟨-, rfl⟩ := Prod.mk.inj step
      have positive := chunker.size_pos
      cases begun : chunker.started <;> cases left : chunker.rest
      all_goals simp_all only [remaining]
      all_goals grind

/-- All chunks up to the end of the segment, and the overflow that ended it early. -/
def drain (chunker : Chunker) : List Chunk × Option BringupError :=
  match _step : chunker.next with
  | (none, _) => ([], none)
  | (some (.error error), _) => ([], some error)
  | (some (.ok chunk), after) =>
    let (chunks, error) := after.drain
    (chunk :: chunks, error)
termination_by chunker.remaining
decreasing_by exact next_remaining_lt _step

theorem drain_of_none {chunker after : Chunker} (step : chunker.next = (none, after)) :
    chunker.drain = ([], none) := by
  rw [drain]
  split <;> simp_all

theorem drain_of_error {chunker after : Chunker} {error : BringupError}
    (step : chunker.next = (some (.error error), after)) : chunker.drain = ([], some error) := by
  rw [drain]
  split <;> simp_all

theorem drain_of_chunk {chunker after : Chunker} {chunk : Chunk}
    (step : chunker.next = (some (.ok chunk), after)) :
    chunker.drain = (chunk :: after.drain.1, after.drain.2) := by
  rw [drain]
  split <;> simp_all

end Chunker

end AnalyzerBoot.Upload
