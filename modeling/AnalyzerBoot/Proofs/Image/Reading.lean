import AnalyzerBoot.Image.Summary

/-!
Reading an image comes down to two things: the segments in front of its end, and the error that the
end may be. Decoding and inspecting are determined by them.
-/

set_option autoImplicit false

namespace AnalyzerBoot

/-- What the table of an image says about a segment. -/
def Segment.entry (segment : Segment) : UInt32 × Nat :=
  (segment.address, segment.payload.length)

namespace Image

/-- The segments that can be read off an image, whether or not an error follows them. -/
def readable (image : Bytes) (format : Format) : List Segment :=
  match open? image format with
  | .error _ => []
  | .ok reader => reader.drain.1

/-- The error that keeps an image from being read to its end. -/
def fault? (image : Bytes) (format : Format) : Option BringupError :=
  match open? image format with
  | .error error => some error
  | .ok reader => reader.drain.2.1

theorem decode_eq (image : Bytes) (format : Format) :
    ∃ stored, decode image format = match fault? image format with
      | some error => .error error
      | none => .ok (readable image format, stored) := by
  unfold fault? readable
  cases opened : open? image format with
  | error error =>
    refine ⟨none, ?_⟩
    rw [decode, opened]
    rfl
  | ok reader =>
    rw [decode_of_open opened]
    dsimp only
    rcases reader.drain with ⟨segments, _ | error, last⟩
    · exact ⟨last.checksum, rfl⟩
    · exact ⟨none, rfl⟩

theorem inspect_eq (image : Bytes) (format : Format) :
    ∃ stored, inspect image format = match fault? image format with
      | some error => .error error
      | none => .ok
        { segments := (readable image format).map Segment.entry
          stored := stored
          computed := checksum (readable image format)
          length := image.length } := by
  obtain ⟨stored, decoded⟩ := decode_eq image format
  refine ⟨stored, ?_⟩
  rw [inspect, decoded]
  cases fault? image format <;> rfl

end Image

end AnalyzerBoot
