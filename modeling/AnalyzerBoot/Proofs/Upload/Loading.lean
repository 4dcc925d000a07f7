import AnalyzerBoot.Proofs.Image.Grammar
import AnalyzerBoot.Proofs.Upload.Planning
import AnalyzerBoot.Upload.Memory

/-!
What an upload leaves in the memory of the device. The slices of a segment lie side by side, so it
does not matter to the memory how a segment was cut; and since segments are sent one after the
other, the whole upload leaves what writing the segments themselves would leave.
-/

set_option autoImplicit false

namespace AnalyzerBoot

namespace Segment

variable {segment : Segment} {size index : Nat}

theorem toNat_address_slice (fits : segment.sliceAddress size index < UInt32.size) :
    (segment.slice size index).address.toWord.toNat = segment.sliceAddress size index := by
  rw [slice, Address.toWord_ofWord, UInt32.toNat_ofNat_of_lt' fits]

theorem sliceAddress_zero (segment : Segment) (size : Nat) :
    segment.sliceAddress size 0 = segment.address.toNat := by
  rw [sliceAddress, Nat.zero_mul, Nat.add_zero]

theorem sliceAddress_succ (segment : Segment) (size index : Nat) :
    segment.sliceAddress size (index + 1) = segment.sliceAddress size index + size := by
  rw [sliceAddress, sliceAddress, Nat.succ_mul, Nat.add_assoc]

/-- From any slice on, storing slices writes what is left of the payload. -/
theorem foldl_store_slice (positive : 0 < size) (addressable : segment.IsAddressable size)
    {left : Nat} (reaches : index + left = segment.sliceCount size) (memory : Memory) :
    ((List.range' index left).map (segment.slice size)).foldl Memory.store memory =
      memory.write (segment.sliceAddress size index) (segment.payload.drop (index * size)) := by
  induction left generalizing index memory with
  | zero =>
    have past : segment.sliceCount size ≤ index := by omega
    rw [drop_of_sliceCount_le positive past, Memory.write_nil]
    rfl
  | succ left ih =>
    have fits := addressable.fits (show index < segment.sliceCount size by omega)
    rw [List.range'_succ, List.map_cons, List.foldl_cons, ih (by omega), Memory.store,
      toNat_address_slice fits, sliceAddress_succ, Nat.succ_mul, ← List.drop_drop]
    exact Memory.write_take_drop memory _ size _

theorem foldl_store_slices (positive : 0 < size) (addressable : segment.IsAddressable size)
    (memory : Memory) :
    (segment.slices size).foldl Memory.store memory =
      memory.write segment.address.toNat segment.payload := by
  rw [slices_of_isAddressable addressable, List.range_eq_range',
    foldl_store_slice positive addressable (Nat.zero_add _), sliceAddress_zero, Nat.zero_mul,
    List.drop_zero]

end Segment

namespace Upload

/-- A chunker that meets no overflow yields all of its segment, in whatever pieces. -/
theorem Chunker.foldl_store_drain {segment : Segment} {size : Nat}
    (whole : (Chunker.ofSegment segment size).drain.2 = none) (memory : Memory) :
    (Chunker.ofSegment segment size).drain.1.foldl Memory.store memory =
      memory.write segment.address.toNat segment.payload := by
  rw [drain_ofSegment] at whole ⊢
  have positive : 0 < max size 1 := by omega
  exact Segment.foldl_store_slices positive (Segment.sliceOverflow?_eq_none_iff.1 whole) memory

namespace Plan

theorem foldl_receive_ofSegment {segment : Segment}
    (addressable : segment.IsAddressable Chip.chunkSize) (memory : Memory) :
    (ofSegment segment).transfers.foldl Memory.receive memory =
      memory.write segment.address.toNat segment.payload := by
  rw [ofSegment, List.foldl_map]
  exact Segment.foldl_store_slices (by decide) addressable memory

theorem foldl_receive_ofSegments {segments : List Segment}
    (addressable : ∀ segment ∈ segments, segment.IsAddressable Chip.chunkSize)
    (error : Option BringupError) (memory : Memory) :
    (ofSegments segments error).transfers.foldl Memory.receive memory = memory.load segments := by
  rw [ofSegments_of_addressable addressable]
  induction segments generalizing memory with
  | nil => rfl
  | cons segment rest ih =>
    obtain ⟨first, others⟩ := List.forall_mem_cons.1 addressable
    rw [List.flatMap_cons, List.foldl_append, foldl_receive_ofSegment first, Memory.load_cons]
    exact ih others _

theorem ofImage_of_decode {image : Bytes} {format : Image.Format} {segments : List Segment}
    {checksum : Option UInt32} (read : Image.decode image format = .ok (segments, checksum)) :
    ofImage image format = ofSegments segments none := by
  obtain ⟨stored, decoded⟩ := Image.decode_eq image format
  rw [read] at decoded
  rw [ofImage_eq]
  cases fault : Image.fault? image format <;> rw [fault] at decoded <;> cases decoded
  rfl

end Plan

variable {σ η : Type} [Usb.Bus σ η] {handle : η}

/-- Sending an image chunk by chunk leaves the same memory as writing its segments one after the
other. Each address then has the byte of the last segment that covers it, or its own if none does.
For a single segment the size of the chunks does not matter either. -/
theorem upload_fills_memory (recipient : Usb.Recipient σ handle) (memory : Memory) :
    (∀ {image : Bytes} {format : Image.Format} {segments : List Segment}
        {checksum : Option UInt32},
      Image.decode image format = .ok (segments, checksum) →
      (∀ segment ∈ segments, (Chunker.ofSegment segment Chip.chunkSize).drain.2 = none) →
      ∀ host : Host σ, recipient.fault host.bus = none →
      ∃ sent,
        recipient.accepted ((uploadImage handle image format).run host).2.bus =
          recipient.accepted host.bus ++ sent ∧
        sent.foldl Memory.receive memory = memory.load segments ∧
        (∀ front segment back, segments = front ++ segment :: back →
          ∀ index (inside : index < segment.payload.length),
            (∀ later ∈ back, ¬ later.Covers (segment.address.toNat + index)) →
            memory.load segments (segment.address.toNat + index) = segment.payload[index]) ∧
        (∀ place, (∀ segment ∈ segments, ¬ segment.Covers place) →
          memory.load segments place = memory place)) ∧
    ∀ (segment : Segment) (size other : Nat),
      (Chunker.ofSegment segment size).drain.2 = none →
      (Chunker.ofSegment segment other).drain.2 = none →
      (Chunker.ofSegment segment size).drain.1.foldl Memory.store memory =
          (Chunker.ofSegment segment other).drain.1.foldl Memory.store memory ∧
        (Chunker.ofSegment segment size).drain.1.foldl Memory.store memory =
          memory.write segment.address.toNat segment.payload := by
  constructor
  · intro image format segments checksum read whole host faultless
    have addressable : ∀ segment ∈ segments, segment.IsAddressable Chip.chunkSize := by
      intro segment member
      have unhindered := whole segment member
      rw [Chunker.drain_ofSegment] at unhindered
      exact Segment.sliceOverflow?_eq_none_iff.1 unhindered
    refine ⟨_, (run_uploadImage_of_faultless recipient image format faultless).2, ?_, ?_, ?_⟩
    · rw [Plan.ofImage_of_decode read]
      exact Plan.foldl_receive_ofSegments addressable none memory
    · rintro front segment back rfl index inside uncovered
      exact Memory.load_of_last inside uncovered memory
    · intro place uncovered
      exact Memory.load_of_uncovered uncovered memory
  · intro segment size other whole wholeOther
    rw [Chunker.foldl_store_drain whole, Chunker.foldl_store_drain wholeOther]
    exact ⟨rfl, rfl⟩

/-- The second of two segments that overlap replaces the end of the first; and chunk sizes of zero
and three write the same. -/
theorem upload_fills_memory_of_overlap :
    let segments : List Segment := [⟨0x10, [1, 2, 3, 4]⟩, ⟨0x12, [5, 6, 7, 8]⟩]
    let handle : Usb.Handle := ⟨⟨⟨"1", 5, 0, 0, none⟩, ⟨"", "", ""⟩, false, false⟩, none⟩
    let run := (uploadImage handle (Image.encode 0 segments none) .segmented).run
      { bus := ({} : Usb.SimulatedBus) }
    let chunks := fun size => (Chunker.ofSegment ⟨0x10, [1, 2, 3, 4]⟩ size).drain
    Image.decode (Image.encode 0 segments none) .segmented = .ok (segments, none) ∧
    (∃ sent, run.2.bus.transfers.toList = sent ∧
      (List.range' 0x0F 8).map (sent.foldl Memory.receive fun _ => 9) = [9, 1, 2, 5, 6, 7, 8, 9]) ∧
    (chunks 0).2 = none ∧ (chunks 3).2 = none ∧
    (chunks 0).1.foldl Memory.store (fun _ => 9) = (chunks 3).1.foldl Memory.store (fun _ => 9) := by
  intro segments handle run chunks
  have encodable : ∀ segment ∈ segments, segment.IsEncodable := by
    intro segment member
    simp only [segments, List.mem_cons, List.not_mem_nil, or_false] at member
    rcases member with rfl | rfl <;> exact ⟨by decide, by decide⟩
  have read := (Image.decode_body encodable 0 _).1 _ (Image.trailer_stored none)
  have whole : ∀ segment ∈ segments, (Chunker.ofSegment segment Chip.chunkSize).drain.2 = none := by
    intro segment member
    simp only [segments, List.mem_cons, List.not_mem_nil, or_false] at member
    rcases member with rfl | rfl <;> (rw [Chunker.drain_ofSegment]; decide)
  have unhindered : ∀ size ∈ [0, 3], (chunks size).2 = none := by
    intro size member
    simp only [List.mem_cons, List.not_mem_nil, or_false] at member
    rcases member with rfl | rfl <;> (simp only [chunks, Chunker.drain_ofSegment]; decide)
  obtain ⟨sending, cutting⟩ :=
    upload_fills_memory (Usb.SimulatedBus.recipient handle) (fun _ => 9)
  obtain ⟨sent, accepted, filled, -⟩ := sending read whole { bus := {} } rfl
  have zero := unhindered 0 (by simp)
  have three := unhindered 3 (by simp)
  refine ⟨read, ⟨sent, accepted, ?_⟩, zero, three, (cutting _ 0 3 zero three).1⟩
  rw [filled]
  decide

end Upload

end AnalyzerBoot
