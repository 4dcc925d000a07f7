import AnalyzerBoot.Upload.Slice

/-!
A chunker goes through the slices of its segment: in front of each slice it is at a position that
the index of the slice determines, so what it yields altogether are the slices up to the first that
cannot be addressed.
-/

set_option autoImplicit false

namespace AnalyzerBoot

/-- The slices of a segment are the empty one of an empty segment and those that begin inside it. -/
theorem Segment.lt_sliceCount {segment : Segment} {size index : Nat} (positive : 0 < size) :
    index < segment.sliceCount size ↔ index = 0 ∨ index * size < segment.payload.length := by
  have quotient : index + 1 ≤ (segment.payload.length + size - 1) / size ↔
      (index + 1) * size ≤ segment.payload.length + size - 1 := Nat.le_div_iff_mul_le positive
  rw [Nat.succ_mul] at quotient
  rw [sliceCount]
  omega

theorem Segment.drop_of_sliceCount_le {segment : Segment} {size index : Nat} (positive : 0 < size)
    (past : segment.sliceCount size ≤ index) : segment.payload.drop (index * size) = [] := by
  have notInside := mt (Segment.lt_sliceCount positive).2 (Nat.not_lt.2 past)
  exact List.drop_eq_nil_of_le (by omega)

/-- From any slice on, slices hold what is left of the payload. -/
theorem Segment.flatMap_data_slice {segment : Segment} {size index left : Nat}
    (positive : 0 < size) (reaches : index + left = segment.sliceCount size) :
    ((List.range' index left).map (segment.slice size)).flatMap Upload.Chunk.data =
      segment.payload.drop (index * size) := by
  induction left generalizing index with
  | zero =>
    have past : segment.sliceCount size ≤ index := by omega
    rw [drop_of_sliceCount_le positive past]
    rfl
  | succ left ih =>
    rw [List.range'_succ, List.map_cons, List.flatMap_cons, ih (by omega), Nat.succ_mul,
      ← List.drop_drop]
    exact List.take_append_drop size _

theorem Segment.flatMap_data_slices (segment : Segment) {size : Nat} (positive : 0 < size) :
    ((List.range (segment.sliceCount size)).map (segment.slice size)).flatMap Upload.Chunk.data =
      segment.payload := by
  rw [List.range_eq_range', flatMap_data_slice positive (Nat.zero_add _), Nat.zero_mul,
    List.drop_zero]

theorem Segment.above_slice (segment : Segment) (size index : Nat) :
    Address.above segment.address (index * size) =
      if segment.sliceAddress size index < UInt32.size then .ok (segment.slice size index).address
      else .error (.addressOverflow segment.address (index * size)) :=
  Address.above_eq segment.address (index * size)

namespace Upload.Chunker

/-- The position in front of a slice. -/
def atSlice (segment : Segment) {size : Nat} (positive : 0 < size) (index : Nat) : Chunker :=
  ⟨segment, size, positive, min (index * size) segment.payload.length,
    segment.payload.drop (index * size), decide (0 < index)⟩

variable {segment : Segment} {size index : Nat}

theorem next_at_end (positive : 0 < size) (past : segment.sliceCount size ≤ index) :
    (atSlice segment positive index).next = (none, atSlice segment positive index) := by
  have started : 0 < index := Nat.lt_of_lt_of_le (Nat.le_max_left 1 _) past
  simp [next, atSlice, started, Segment.drop_of_sliceCount_le positive past]

/-- A slice begins where the ones in front of it end. -/
theorem offset_inside (positive : 0 < size) (inside : index < segment.sliceCount size) :
    min (index * size) segment.payload.length = index * size := by
  rcases (Segment.lt_sliceCount positive).1 inside with rfl | begins
  · rw [Nat.zero_mul, Nat.zero_min]
  · exact Nat.min_eq_left (Nat.le_of_lt begins)

theorem not_exhausted (positive : 0 < size) (inside : index < segment.sliceCount size) :
    ((atSlice segment positive index).started && (atSlice segment positive index).rest.isEmpty) =
      false := by
  rcases (Segment.lt_sliceCount positive).1 inside with rfl | begins
  · rfl
  · have left : segment.payload.drop (index * size) ≠ [] := by
      rw [Ne, List.drop_eq_nil_iff]
      omega
    simp [atSlice, left]

theorem next_at_slice (positive : 0 < size) (inside : index < segment.sliceCount size)
    (fits : segment.sliceAddress size index < UInt32.size) :
    (atSlice segment positive index).next =
      (some (.ok (segment.slice size index)), atSlice segment positive (index + 1)) := by
  have offset := offset_inside positive inside
  have target : Address.above segment.address (min (index * size) segment.payload.length) =
      .ok (segment.slice size index).address := by
    rw [offset, Segment.above_slice, if_pos fits]
  have advanced : min (index * size) segment.payload.length +
      ((segment.payload.drop (index * size)).take size).length =
      min ((index + 1) * size) segment.payload.length := by
    rw [List.length_take, List.length_drop, Nat.succ_mul]
    omega
  rw [next, if_neg (by simp [not_exhausted positive inside])]
  simp only [atSlice, target, advanced, List.drop_drop, ← Nat.succ_mul, Segment.slice]
  simp

/-- An overflow is the last that is yielded. -/
theorem next_at_overflow (positive : 0 < size) (inside : index < segment.sliceCount size)
    (overflows : ¬ segment.sliceAddress size index < UInt32.size) :
    ∃ after, (atSlice segment positive index).next =
        (some (.error (.addressOverflow segment.address (index * size))), after) ∧
      after.next = (none, after) := by
  have target : Address.above segment.address (min (index * size) segment.payload.length) =
      .error (.addressOverflow segment.address (index * size)) := by
    rw [offset_inside positive inside, Segment.above_slice, if_neg overflows]
  rw [next, if_neg (by simp [not_exhausted positive inside])]
  simp only [atSlice, target]
  exact ⟨_, rfl, rfl⟩

/-- From any slice on, a chunker yields the slices that are left up to the first overflow. -/
theorem drain_at_slice (positive : 0 < size) (left : Nat)
    (reaches : index + left = segment.sliceCount size) :
    (atSlice segment positive index).drain =
      (((List.range' index left).takeWhile
          (segment.sliceAddress size · < UInt32.size)).map (segment.slice size),
        ((List.range' index left).find? (UInt32.size ≤ segment.sliceAddress size ·)).map
          fun index => .addressOverflow segment.address (index * size)) := by
  induction left generalizing index with
  | zero => exact drain_of_none (next_at_end positive (by omega))
  | succ left ih =>
    by_cases fits : segment.sliceAddress size index < UInt32.size
    · have addressable : ¬ UInt32.size ≤ segment.sliceAddress size index := by omega
      have taken : (List.range' index (left + 1)).takeWhile
            (segment.sliceAddress size · < UInt32.size) =
          index :: (List.range' (index + 1) left).takeWhile _ :=
        List.takeWhile_cons_of_pos (decide_eq_true fits)
      have passed : (List.range' index (left + 1)).find?
            (UInt32.size ≤ segment.sliceAddress size ·) =
          (List.range' (index + 1) left).find? _ :=
        List.find?_cons_of_neg (mt of_decide_eq_true addressable)
      rw [drain_of_chunk (next_at_slice positive (by omega) fits), ih (by omega), taken, passed]
      rfl
    · have overflow : UInt32.size ≤ segment.sliceAddress size index := by omega
      have stopped : (List.range' index (left + 1)).takeWhile
          (segment.sliceAddress size · < UInt32.size) = [] :=
        List.takeWhile_cons_of_neg (mt of_decide_eq_true fits)
      have found : (List.range' index (left + 1)).find?
          (UInt32.size ≤ segment.sliceAddress size ·) = some index :=
        List.find?_cons_of_pos (decide_eq_true overflow)
      obtain ⟨after, step, -⟩ := next_at_overflow positive (by omega) fits
      rw [drain_of_error step, stopped, found]
      rfl

/-- A chunk size of zero counts as one. -/
theorem ofSegment_eq_atSlice (segment : Segment) (size : Nat) :
    ∃ positive : 0 < max size 1, ofSegment segment size = atSlice segment positive 0 :=
  ⟨by omega, by simp [ofSegment, atSlice]⟩

theorem drain_ofSegment (segment : Segment) (size : Nat) :
    (ofSegment segment size).drain =
      (segment.slices (max size 1), segment.sliceOverflow? (max size 1)) := by
  obtain ⟨positive, start⟩ := ofSegment_eq_atSlice segment size
  rw [start, drain_at_slice positive (segment.sliceCount (max size 1)) (Nat.zero_add _),
    Segment.slices, Segment.sliceOverflow?, List.range_eq_range']

end Upload.Chunker

end AnalyzerBoot
