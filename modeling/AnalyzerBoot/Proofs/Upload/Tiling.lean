import AnalyzerBoot.Proofs.Steps
import AnalyzerBoot.Proofs.Upload.Loading
import Mathlib.Algebra.Order.Floor.Div

/-!
The chunks of a segment as pieces of one size, call by call. Where they begin and what they hold
follows from their index alone; the last may be shorter, and an empty segment has one empty piece.
-/

set_option autoImplicit false

namespace AnalyzerBoot

namespace Segment

variable {segment : Segment} {size index : Nat}

theorem sliceCount_eq_ceilDiv (segment : Segment) (size : Nat) :
    segment.sliceCount size = max 1 (segment.payload.length ⌈/⌉ size) := by
  rw [sliceCount, Nat.ceilDiv_eq_add_pred_div]

theorem isAddressable_iff :
    segment.IsAddressable size ↔
      segment.address.toNat + size * (segment.sliceCount size - 1) < UInt32.size := by
  rw [IsAddressable, sliceAddress, Nat.mul_comm]

theorem length_data_slice (inside : index + 1 < segment.sliceCount size) (positive : 0 < size) :
    (segment.slice size index).data.length = size := by
  have begins := ((lt_sliceCount positive).1 inside).resolve_left (Nat.succ_ne_zero index)
  rw [Nat.succ_mul] at begins
  rw [slice, List.length_take, List.length_drop]
  omega

/-- Only an empty segment has an empty slice. -/
theorem data_slice_eq_nil_iff (positive : 0 < size) (inside : index < segment.sliceCount size) :
    (segment.slice size index).data = [] ↔ segment.payload = [] := by
  rw [slice, List.take_eq_nil_iff, List.drop_eq_nil_iff, ← List.length_eq_zero_iff]
  rcases (lt_sliceCount positive).1 inside with rfl | begins
  · omega
  · omega

end Segment

namespace Upload.Chunker

/-- The chunker behind a number of calls. -/
abbrev after (chunker : Chunker) (calls : Nat) : Chunker :=
  Steps.state next chunker calls

/-- What is yielded behind a number of calls. -/
abbrev item (chunker : Chunker) (calls : Nat) : Option (Except BringupError Chunk) :=
  Steps.item next chunker calls

/-- The piece of a segment with a certain index, if pieces have a certain size. -/
structure IsPiece (segment : Segment) (size index : Nat) (chunk : Chunk) : Prop where
  address : chunk.address.toWord.toNat = segment.address.toNat + index * size
  data : chunk.data =
    segment.payload.extract (index * size) (min ((index + 1) * size) segment.payload.length)

/-- Chunks that come first, and are the first pieces of a segment. -/
def Begins (chunker : Chunker) (segment : Segment) (size : Nat) (chunks : List Chunk) : Prop :=
  ∀ index (inside : index < chunks.length),
    chunker.item index = some (.ok chunks[index]) ∧ IsPiece segment size index chunks[index]

/-- No call changes what is cut, or into what. -/
theorem next_keeps (chunker : Chunker) :
    chunker.next.2.segment = chunker.segment ∧ chunker.next.2.size = chunker.size := by
  unfold next
  split
  · exact ⟨rfl, rfl⟩
  · split <;> exact ⟨rfl, rfl⟩

theorem total_after (chunker : Chunker) (calls : Nat) :
    (chunker.after calls).total = chunker.total := by
  refine Steps.state_induction (fun later : Chunker => later.total = chunker.total) rfl ?_ calls
  intro before same
  obtain ⟨segment, size⟩ := before.next_keeps
  rw [← same, total, segment, size, total]

variable {segment : Segment} {size index calls : Nat}

theorem isPiece_slice (fits : segment.sliceAddress size index < UInt32.size) :
    IsPiece segment size index (segment.slice size index) where
  address := Segment.toNat_address_slice fits
  data := by
    rw [List.extract_eq_take_drop, Segment.slice, List.take_eq_take_iff, List.length_drop,
      Nat.succ_mul]
    omega

/-- A chunker is in front of each slice in turn, as long as they can be addressed. -/
theorem after_atSlice (positive : 0 < size) (within : calls ≤ segment.sliceCount size)
    (fits : ∀ earlier < calls, segment.sliceAddress size earlier < UInt32.size) :
    (atSlice segment positive 0).after calls = atSlice segment positive calls := by
  induction calls with
  | zero => rfl
  | succ calls ih =>
    have before := ih (Nat.le_of_succ_le within) fun earlier lower => fits earlier (by omega)
    rw [after, Steps.state_succ, ← after, before, next_at_slice positive within (fits calls _)]
    exact Nat.lt_succ_self calls

theorem begins_slices (positive : 0 < size) (within : calls ≤ segment.sliceCount size)
    (fits : ∀ earlier < calls, segment.sliceAddress size earlier < UInt32.size) :
    (atSlice segment positive 0).Begins segment size
      ((List.range calls).map (segment.slice size)) := by
  intro index inside
  rw [List.length_map, List.length_range] at inside
  have here := after_atSlice positive (Nat.le_trans (Nat.le_of_lt inside) within)
    fun earlier lower => fits earlier (Nat.lt_trans lower inside)
  rw [List.getElem_map, List.getElem_range]
  refine ⟨?_, isPiece_slice (fits index inside)⟩
  rw [item, Steps.item, ← after, here,
    next_at_slice positive (Nat.lt_of_lt_of_le inside within) (fits index inside)]

/-- An overflow is yielded once, and nothing behind it. -/
theorem item_at_overflow (positive : 0 < size) (inside : index < segment.sliceCount size)
    (fits : ∀ earlier < index, segment.sliceAddress size earlier < UInt32.size)
    (overflows : UInt32.size ≤ segment.sliceAddress size index) :
    (atSlice segment positive 0).item index =
        some (.error (.addressOverflow segment.address (index * size))) ∧
      ∀ later > index, (atSlice segment positive 0).item later = none := by
  obtain ⟨settled, step, still⟩ := next_at_overflow positive inside (Nat.not_lt.2 overflows)
  have here := after_atSlice positive (Nat.le_of_lt inside) fits
  have reached : (atSlice segment positive 0).after (index + 1) = settled := by
    rw [after, Steps.state_succ, ← after, here, step]
  refine ⟨?_, fun later behind => (Steps.behind_settled reached still behind).1⟩
  rw [item, Steps.item, ← after, here, step]

theorem countP_slices_isEmpty (positive : 0 < size) :
    ((List.range (segment.sliceCount size)).map (segment.slice size)).countP (·.data.isEmpty) =
      if segment.payload = [] then 1 else 0 := by
  split
  · next empty =>
    have single : segment.sliceCount size = 1 := by
      rw [Segment.sliceCount, empty]
      exact Nat.max_eq_left (Nat.div_le_of_le_mul (by rw [List.length_nil]; omega))
    rw [single]
    simp [Segment.slice, empty]
  · next content =>
    rw [List.countP_eq_zero]
    intro chunk member
    obtain ⟨index, inside, rfl⟩ := List.mem_map.1 member
    have full := mt (Segment.data_slice_eq_nil_iff positive (List.mem_range.1 inside)).1 content
    rwa [List.isEmpty_iff]

/-- A chunker tiles its segment. If the last piece can be addressed, all pieces are yielded in order
and make up the payload; if not, those that can be addressed are, and then the overflow of the next
one. Nothing comes behind that, and the number of pieces is known at any time. -/
theorem chunker_tiles_segment (segment : Segment) (size : Nat) :
    let chunker := ofSegment segment size
    let width := max size 1
    let total := max 1 (segment.payload.length ⌈/⌉ width)
    let base := segment.address.toNat
    (∀ calls, (chunker.after calls).total = total) ∧
    (base + width * (total - 1) < UInt32.size →
      ∃ chunks, chunks.length = total ∧ chunker.Begins segment width chunks ∧
        (∀ later ≥ total, chunker.item later = none) ∧
        (∀ index (inside : index < chunks.length),
          index + 1 < total → chunks[index].data.length = width) ∧
        chunks.flatMap Chunk.data = segment.payload ∧
        chunks.countP (·.data.isEmpty) = if segment.payload = [] then 1 else 0) ∧
    (UInt32.size ≤ base + width * (total - 1) →
      ∃ chunks, chunks.length < total ∧ chunker.Begins segment width chunks ∧
        (∀ index, index < chunks.length ↔ base + index * width < UInt32.size) ∧
        chunker.item chunks.length =
          some (.error (.addressOverflow segment.address (chunks.length * width))) ∧
        ∀ later > chunks.length, chunker.item later = none) := by
  obtain ⟨positive, start⟩ := ofSegment_eq_atSlice segment size
  rw [start]
  intro chunker width total base
  have count : segment.sliceCount width = total := segment.sliceCount_eq_ceilDiv width
  rw [← count, ← Segment.isAddressable_iff, ← Nat.not_lt, ← Segment.isAddressable_iff]
  refine ⟨chunker.total_after, fun addressable => ?_, fun overflows => ?_⟩
  · have fits : ∀ index < segment.sliceCount width,
        segment.sliceAddress width index < UInt32.size := fun _ inside => addressable.fits inside
    refine ⟨(List.range (segment.sliceCount width)).map (segment.slice width), by simp,
      begins_slices positive (Nat.le_refl _) fits, ?_, ?_,
      segment.flatMap_data_slices positive, countP_slices_isEmpty positive⟩
    · have reached := after_atSlice positive (Nat.le_refl _) fits
      have still := next_at_end positive (Nat.le_refl (segment.sliceCount width))
      exact fun later behind => (Steps.behind_settled reached still behind).1
    · intro index inside notLast
      rw [List.getElem_map, List.getElem_range]
      exact Segment.length_data_slice notLast positive
  · obtain ⟨first, -, past, fits⟩ := Segment.exists_sliceOverflow overflows
    have inside : first < segment.sliceCount width := by
      have last := Nat.sub_one_lt_of_lt (segment.sliceCount_pos width)
      exact Nat.lt_of_not_le fun beyond => overflows (fits _ (Nat.lt_of_lt_of_le last beyond))
    refine ⟨(List.range first).map (segment.slice width), by simpa using inside,
      begins_slices positive (Nat.le_of_lt inside) fits, fun index => ?_, ?_⟩
    · rw [List.length_map, List.length_range]
      refine ⟨fits index, fun below => ?_⟩
      have above : segment.sliceAddress width index < segment.sliceAddress width first :=
        Nat.lt_of_lt_of_le below past
      exact Nat.lt_of_mul_lt_mul_right (Nat.lt_of_add_lt_add_left above)
    · rw [List.length_map, List.length_range]
      exact item_at_overflow positive inside fits past

/-- An empty segment, and one that runs past the end of the addresses in its second piece. -/
theorem chunker_tiles_segment_to_last_address :
    let started := ofSegment ⟨0x40001000, []⟩ 0
    let chunker := ofSegment ⟨0xFFFFFFFC, [1, 2, 3, 4, 5, 6]⟩ 4
    (∃ chunk, started.item 0 = some (.ok chunk) ∧ chunk.data = [] ∧
      ∀ later ≥ 1, started.item later = none) ∧
    ∃ chunk, chunker.item 0 = some (.ok chunk) ∧ chunk.data = [1, 2, 3, 4] ∧
      chunker.item 1 = some (.error (.addressOverflow 0xFFFFFFFC 4)) ∧
      ∀ later > 1, chunker.item later = none := by
  constructor
  · obtain ⟨chunks, count, begins, nothing, -⟩ :=
      (chunker_tiles_segment ⟨0x40001000, []⟩ 0).2.1 (by decide)
    obtain ⟨chunk, rfl⟩ : ∃ chunk, chunks = [chunk] := List.length_eq_one_iff.1 count
    obtain ⟨first, piece⟩ := begins 0 Nat.one_pos
    exact ⟨chunk, first, piece.data, nothing⟩
  · obtain ⟨chunks, -, begins, addressed, overflow, nothing⟩ :=
      (chunker_tiles_segment ⟨0xFFFFFFFC, [1, 2, 3, 4, 5, 6]⟩ 4).2.2 (by decide)
    have some : 0 < chunks.length := (addressed 0).2 (by decide)
    have few : ¬ 1 < chunks.length := mt (addressed 1).1 (by decide)
    have count : chunks.length = 1 := by omega
    obtain ⟨chunk, rfl⟩ := List.length_eq_one_iff.1 count
    obtain ⟨first, piece⟩ := begins 0 some
    exact ⟨chunk, first, piece.data, overflow, nothing⟩

end Upload.Chunker

end AnalyzerBoot
