import AnalyzerBoot.Proofs.Image.Reading
import AnalyzerBoot.Proofs.Upload.Streaming
import Mathlib.Data.List.TakeWhile

/-!
What plans are made of. A segment is planned whole if its last slice can be addressed, and segments
are planned whole up to the first that is not; its overflow then stands in for whatever ends the
image. A device that takes every transfer takes the whole plan.
-/

set_option autoImplicit false

namespace AnalyzerBoot

namespace Segment

variable {segment : Segment} {size : Nat}

/-- Addresses of 32 bits reach up to the last slice. -/
def IsAddressable (segment : Segment) (size : Nat) : Prop :=
  segment.sliceAddress size (segment.sliceCount size - 1) < UInt32.size

theorem sliceCount_pos (segment : Segment) (size : Nat) : 0 < segment.sliceCount size :=
  Nat.le_max_left 1 _

theorem IsAddressable.fits (addressable : segment.IsAddressable size) {index : Nat}
    (inside : index < segment.sliceCount size) :
    segment.sliceAddress size index < UInt32.size := by
  apply Nat.lt_of_le_of_lt _ addressable
  apply Nat.add_le_add_left
  exact Nat.mul_le_mul_right size (Nat.le_sub_one_of_lt inside)

theorem slices_of_isAddressable (addressable : segment.IsAddressable size) :
    segment.slices size = (List.range (segment.sliceCount size)).map (segment.slice size) := by
  have all : ∀ index ∈ List.range (segment.sliceCount size),
      decide (segment.sliceAddress size index < UInt32.size) = true := by
    intro index member
    exact decide_eq_true (addressable.fits (List.mem_range.1 member))
  rw [slices, List.takeWhile_eq_self_iff.2 all]

theorem sliceOverflow?_eq_none_iff :
    segment.sliceOverflow? size = none ↔ segment.IsAddressable size := by
  rw [sliceOverflow?, Option.map_eq_none_iff, List.find?_eq_none]
  constructor
  · intro none
    have last : segment.sliceCount size - 1 < segment.sliceCount size :=
      Nat.sub_one_lt_of_lt (segment.sliceCount_pos size)
    exact Nat.lt_of_not_le (mt decide_eq_true (none _ (List.mem_range.2 last)))
  · intro addressable index member overflows
    have fits := addressable.fits (List.mem_range.1 member)
    exact Nat.not_le_of_lt fits (of_decide_eq_true overflows)

/-- A segment that is not planned whole ends at the first slice that cannot be addressed. -/
theorem exists_sliceOverflow (overflows : ¬ segment.IsAddressable size) :
    ∃ index, segment.sliceOverflow? size = some (.addressOverflow segment.address (index * size)) ∧
      UInt32.size ≤ segment.sliceAddress size index ∧
      ∀ earlier < index, segment.sliceAddress size earlier < UInt32.size := by
  rw [← sliceOverflow?_eq_none_iff] at overflows
  obtain ⟨error, found⟩ := Option.ne_none_iff_exists'.1 overflows
  obtain ⟨index, first, rfl⟩ := Option.map_eq_some_iff.1 found
  obtain ⟨past, -, earlier⟩ := List.find?_range_eq_some.1 first
  refine ⟨index, found, of_decide_eq_true past, ?_⟩
  intro other before
  exact Nat.lt_of_not_le (by simpa using earlier other before)

end Segment

namespace Upload

namespace Plan

theorem append_of_ended {first : Plan} {error : BringupError} (ended : first.error = some error)
    (second : Plan) : first.append second = first := by
  rw [append, ended]

theorem append_of_whole {first : Plan} (whole : first.error = none) (second : Plan) :
    first.append second = ⟨first.transfers ++ second.transfers, second.error⟩ := by
  rw [append, whole]

theorem ofSegments_cons (segment : Segment) (rest : List Segment) (error : Option BringupError) :
    ofSegments (segment :: rest) error = (ofSegment segment).append (ofSegments rest error) := rfl

theorem error_ofSegment (segment : Segment) :
    (ofSegment segment).error = segment.sliceOverflow? Chip.chunkSize := rfl

theorem ofSegments_of_addressable {segments : List Segment}
    (addressable : ∀ segment ∈ segments, segment.IsAddressable Chip.chunkSize)
    (error : Option BringupError) :
    ofSegments segments error =
      ⟨segments.flatMap fun segment => (ofSegment segment).transfers, error⟩ := by
  induction segments with
  | nil => rfl
  | cons segment rest ih =>
    obtain ⟨first, others⟩ := List.forall_mem_cons.1 addressable
    rw [ofSegments_cons, append_of_whole (Segment.sliceOverflow?_eq_none_iff.2 first), ih others]
    rfl

theorem error_ofSegments_eq_none_iff (segments : List Segment) (error : Option BringupError) :
    (ofSegments segments error).error = none ↔
      error = none ∧ ∀ segment ∈ segments, segment.IsAddressable Chip.chunkSize := by
  induction segments with
  | nil => simp [ofSegments]
  | cons segment rest ih =>
    rw [ofSegments_cons, List.forall_mem_cons]
    by_cases addressable : segment.IsAddressable Chip.chunkSize
    · rw [append_of_whole (Segment.sliceOverflow?_eq_none_iff.2 addressable), ih]
      simp only [addressable, true_and]
    · obtain ⟨index, overflow, -⟩ := Segment.exists_sliceOverflow addressable
      rw [append_of_ended overflow, error_ofSegment, overflow]
      simp [addressable]

theorem error_ofSegments_of_overflow {front : List Segment} {segment : Segment}
    (addressable : ∀ segment ∈ front, segment.IsAddressable Chip.chunkSize)
    (overflows : ¬ segment.IsAddressable Chip.chunkSize) (back : List Segment)
    (error : Option BringupError) :
    (ofSegments (front ++ segment :: back) error).error =
      segment.sliceOverflow? Chip.chunkSize := by
  induction front with
  | nil =>
    obtain ⟨index, overflow, -⟩ := Segment.exists_sliceOverflow overflows
    rw [List.nil_append, ofSegments_cons, append_of_ended overflow, error_ofSegment]
  | cons other rest ih =>
    obtain ⟨first, others⟩ := List.forall_mem_cons.1 addressable
    rw [List.cons_append, ofSegments_cons,
      append_of_whole (Segment.sliceOverflow?_eq_none_iff.2 first)]
    exact ih others

theorem outcome_none_eq_ok_iff (plan : Plan) (total : Nat) :
    plan.outcome none = .ok total ↔ plan.error = none ∧ total = byteCount plan.transfers := by
  unfold outcome failure
  cases plan.error <;> simp [eq_comm]

theorem outcome_none_of_ended {plan : Plan} {error : BringupError}
    (ended : plan.error = some error) : plan.outcome none = .error error := by
  rw [outcome, failure, ended]

theorem ofImage_eq (image : Bytes) (format : Image.Format) :
    ofImage image format =
      ofSegments (Image.readable image format) (Image.fault? image format) := by
  unfold ofImage Image.readable Image.fault?
  cases Image.open? image format <;> rfl

end Plan

variable {σ η : Type} [Usb.Bus σ η] {handle : η}

theorem run_uploadImage_of_faultless (recipient : Usb.Recipient σ handle) (image : Bytes)
    (format : Image.Format) {host : Host σ} (faultless : recipient.fault host.bus = none) :
    ((uploadImage handle image format).run host).1 =
        (Plan.ofImage image format).outcome none ∧
      recipient.accepted ((uploadImage handle image format).run host).2.bus =
        recipient.accepted host.bus ++ (Plan.ofImage image format).transfers := by
  obtain ⟨after, delivered, accepted⟩ :=
    recipient.deliver_eq (Plan.ofImage image format).transfers host.bus
  rw [faultless] at delivered accepted
  rw [run_uploadImage delivered]
  exact ⟨rfl, accepted⟩

end Upload

end AnalyzerBoot
