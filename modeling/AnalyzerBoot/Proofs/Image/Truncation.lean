import AnalyzerBoot.Proofs.Image.Grammar
import Mathlib.Order.Bounds.Defs

/-!
Segmented images that lost their end. A cut leaves the segments in front of it whole and, behind
them, a remnant: the front of the segment or of the checksum it went through. How long the remnant
is decides alone whether reading notices, and what it reports.
-/

set_option autoImplicit false

namespace AnalyzerBoot.Image

/-- Where the first segments of an image end. -/
def boundary (segments : List Segment) : (count : Nat) → Nat
  | 0 => Chip.imageHeaderSize
  | count + 1 => boundary segments count +
    segments[count]?.elim 0 fun segment => Chip.segmentHeaderSize + segment.payload.length

/-- An image of these segments that ends in a header without its payload. -/
def Dangles (image : Bytes) (segments : List Segment) : Prop :=
  ∃ control bytes, IsHeader bytes ∧
    image = header control ++ segments.flatMap encodeSegment ++ bytes

theorem boundary_succ {segments : List Segment} {count : Nat} {segment : Segment}
    (next : segments[count]? = some segment) :
    boundary segments (count + 1) = boundary segments count + (8 + segment.payload.length) := by
  rw [boundary, next]
  rfl

theorem length_encodeSegment (segment : Segment) :
    (encodeSegment segment).length = 8 + segment.payload.length := by
  simp only [encodeSegment, List.length_append, Word.length_toBytes]

/-- Eight bytes or more of an encoded segment are its header and a front of its payload. -/
theorem take_encodeSegment (segment : Segment) {length : Nat} (whole : 8 ≤ length) :
    (encodeSegment segment).take length =
      Word.toBytes (UInt32.ofNat (segment.payload.length / 4)) ++ Word.toBytes segment.address ++
        segment.payload.take (length - 8) := by
  rw [encodeSegment, List.take_append, List.take_of_length_le]
  · simp only [List.length_append, Word.length_toBytes]
  · simpa only [List.length_append, Word.length_toBytes] using whole

/-- Signature and segments reach up to their boundary. -/
theorem boundary_eq_length (segments : List Segment) (count : Nat) :
    boundary segments count = 4 + ((segments.take count).flatMap encodeSegment).length := by
  induction count with
  | zero => rfl
  | succ count ih =>
    cases next : segments[count]? with
    | none =>
      have past := List.getElem?_eq_none_iff.1 next
      rw [boundary, next, ih, List.take_of_length_le past,
        List.take_of_length_le (Nat.le_succ_of_le past)]
      rfl
    | some segment =>
      rw [boundary_succ next, ih, List.take_add_one, next, List.flatMap_append, List.length_append,
        Nat.add_assoc]
      simp [length_encodeSegment]

theorem boundary_le_boundary (segments : List Segment) {count other : Nat} (le : count ≤ other) :
    boundary segments count ≤ boundary segments other := by
  induction le with
  | refl => exact Nat.le_refl _
  | step _ ih =>
    apply Nat.le_trans ih
    rw [boundary]
    exact Nat.le_add_right _ _

/-- What a cut leaves behind the whole segments in front of it. -/
inductive Remnant (segments : List Segment) (count : Nat) (bytes : Bytes) : Prop where
  -- The cut goes through a segment or the gap in front of it.
  | segment {cut : Segment} (next : segments[count]? = some cut) (encodable : cut.IsEncodable)
      (shorter : bytes.length < 8 + cut.payload.length)
      (front : bytes = (encodeSegment cut).take bytes.length)
  -- All segments are in front of the cut; the checksum, if there was one, is not whole.
  | trailer (last : count = segments.length) (short : bytes.length < 4)

theorem exists_remnant {segments : List Segment}
    (encodable : ∀ segment ∈ segments, segment.IsEncodable) {trailer : Bytes}
    (short : trailer.length ≤ 4) {length : Nat}
    (proper : length < (segments.flatMap encodeSegment ++ trailer).length) :
    ∃ count bytes, Remnant segments count bytes ∧ count ≤ segments.length ∧
      (segments.flatMap encodeSegment ++ trailer).take length =
        (segments.take count).flatMap encodeSegment ++ bytes := by
  induction segments generalizing length with
  | nil =>
    refine ⟨0, trailer.take length, .trailer rfl ?_, Nat.le_refl 0, rfl⟩
    simp at proper ⊢
    omega
  | cons segment rest ih =>
    obtain ⟨first, others⟩ := List.forall_mem_cons.1 encodable
    rw [List.flatMap_cons, List.append_assoc] at proper ⊢
    by_cases inside : length < (encodeSegment segment).length
    · refine ⟨0, (encodeSegment segment).take length, ?_, Nat.zero_le _, ?_⟩
      · have size : ((encodeSegment segment).take length).length = length := by
          rw [List.length_take]
          omega
        rw [length_encodeSegment] at inside
        exact .segment rfl first (size.symm ▸ inside) (by rw [size])
      · exact List.take_append_of_le_length (Nat.le_of_lt inside)
    · have behind : length - (encodeSegment segment).length <
          (rest.flatMap encodeSegment ++ trailer).length := by
        rw [List.length_append] at proper
        omega
      obtain ⟨count, bytes, remnant, bound, taken⟩ := ih others behind
      refine ⟨count + 1, bytes, ?_, Nat.succ_le_succ bound, ?_⟩
      · cases remnant with
        | segment next encodable shorter front => exact .segment next encodable shorter front
        | trailer last short => exact .trailer (congrArg (· + 1) last) short
      · rw [List.take_append, List.take_of_length_le (Nat.le_of_not_lt inside), taken,
          List.take_succ_cons, List.flatMap_cons, List.append_assoc]

/-- The cut is in front of the next boundary. -/
theorem Remnant.isGreatest {segments : List Segment} {count : Nat} {bytes : Bytes}
    (remnant : Remnant segments count bytes) (bound : count ≤ segments.length) :
    IsGreatest
      {whole | whole ≤ segments.length ∧
        boundary segments whole ≤ boundary segments count + bytes.length} count := by
  refine ⟨⟨bound, Nat.le_add_right _ _⟩, ?_⟩
  rintro other ⟨within, fits⟩
  cases remnant with
  | trailer last => exact last ▸ within
  | segment next _ shorter =>
    apply Nat.le_of_not_lt
    intro beyond
    have later := boundary_le_boundary segments beyond
    rw [Nat.succ_eq_add_one, boundary_succ next] at later
    omega

/-- Nothing, a word count or a whole header in front of its payload pass for the end of an image. -/
theorem Remnant.trailer_of_mem {segments : List Segment} {count : Nat} {bytes : Bytes}
    (remnant : Remnant segments count bytes) (silent : bytes.length ∈ [0, 4, 8]) :
    ∃ checksum, Trailer checksum bytes ∧
      (bytes.length = 4 → ∃ cut word, segments[count]? = some cut ∧ checksum = some word ∧
        cut.payload.length = 4 * word.toNat) ∧
      (bytes.length ≠ 4 → checksum = none) := by
  cases remnant with
  | trailer last short =>
    have nothing : bytes = [] := by
      apply List.eq_nil_of_length_eq_zero
      simp only [List.mem_cons, List.not_mem_nil, or_false] at silent
      omega
    subst nothing
    exact ⟨none, .nothing, by simp, by simp⟩
  | @segment cut next encodable shorter front =>
    simp only [List.mem_cons, List.not_mem_nil, or_false] at silent
    rcases silent with zero | four | eight
    · obtain rfl := List.eq_nil_of_length_eq_zero zero
      exact ⟨none, .nothing, by simp, by simp⟩
    · rw [four] at front
      subst front
      exact ⟨_, .checksum _, fun _ => ⟨cut, _, next, rfl, encodable.wordCount.symm⟩, absurd four⟩
    · rw [eight] at front shorter
      subst front
      refine ⟨none, .dangling ⟨_, cut.address, ?_, rfl⟩, by simp [eight], fun _ => rfl⟩
      have words := encodable.wordCount
      apply UInt32.lt_iff_toNat_lt.2
      change 0 < (UInt32.ofNat (cut.payload.length / 4)).toNat
      omega

/-- Every other remnant is noticed, and its header, if there is one, counts as read. -/
theorem Remnant.break_of_not_mem {segments : List Segment} {count : Nat} {bytes : Bytes}
    (remnant : Remnant segments count bytes) (noticed : bytes.length ∉ [0, 4, 8]) :
    ∃ unread, Break bytes unread ∧
      unread.length = if bytes.length < 8 then bytes.length else bytes.length - 8 := by
  simp only [List.mem_cons, List.not_mem_nil, or_false, not_or] at noticed
  obtain ⟨notEmpty, notChecksum, notHeader⟩ := noticed
  by_cases few : bytes.length < 8
  · rw [if_pos few]
    exact ⟨bytes, .short few (mt (congrArg List.length) notEmpty) notChecksum, rfl⟩
  · rw [if_neg few]
    cases remnant with
    | trailer _ short => omega
    | @segment cut next encodable shorter front =>
      rw [take_encodeSegment cut (Nat.le_of_not_lt few)] at front
      have left : (cut.payload.take (bytes.length - 8)).length = bytes.length - 8 := by
        rw [List.length_take]
        omega
      generalize cut.payload.take (bytes.length - 8) = unread at front left
      refine ⟨unread, ?_, left⟩
      rw [front]
      apply Break.cut
      · intro nothing
        rw [nothing, List.length_nil] at left
        omega
      · rw [encodable.wordCount, left]
        omega

theorem open?_short {image : Bytes} (few : image.length < 4) :
    open? image .segmented =
      .error (.corruptImage ("image is only " ++ toString image.length ++ " bytes long")) := by
  match image with
  | [] | [a] | [a, b] | [a, b, c] => rfl
  | a :: b :: c :: d :: rest =>
    simp only [List.length_cons] at few
    omega

/-- A segmented image that is read to its end without a dangling header, and cut off somewhere. In
front of the signature's end nothing can be read. Behind it exactly the segments are read that are
whole. The loss of the rest goes unnoticed just where nothing, a word count or a header is left of
it; a word count is then taken for the checksum. -/
theorem cut_image_yields_whole_segments {image : Bytes} {segments : List Segment}
    {checksum : Option UInt32} (read : decode image .segmented = .ok (segments, checksum))
    (complete : ¬ Dangles image segments) {length : Nat} (proper : length < image.length) :
    (length < 4 → open? (image.take length) .segmented =
      .error (.corruptImage ("image is only " ++ toString length ++ " bytes long"))) ∧
    (4 ≤ length → ∃ reader count,
      open? (image.take length) .segmented = .ok reader ∧
      IsGreatest {whole | whole ≤ segments.length ∧ boundary segments whole ≤ length} count ∧
      reader.drain.1 = segments.take count ∧
      let left := length - boundary segments count
      (reader.drain.2.1 = none ↔ left ∈ [0, 4, 8]) ∧
      (left = 4 → ∃ cut word, segments[count]? = some cut ∧
        reader.drain.2.2.checksum = some word ∧ cut.payload.length = 4 * word.toNat) ∧
      (left ≠ 4 → reader.drain.2.2.checksum = none) ∧
      (left ∉ [0, 4, 8] → reader.drain.2.1 =
        some (.truncatedImage (if left < 8 then left else left - 8) length))) := by
  obtain ⟨encodable, control, trailer, ends, rfl⟩ := of_decode_segmented read
  have short : trailer.length ≤ 4 := by
    cases ends with
    | nothing => exact Nat.zero_le 4
    | checksum word => exact Nat.le_refl 4
    | dangling header => exact absurd ⟨control, trailer, header, rfl⟩ complete
  rw [List.append_assoc] at proper ⊢
  constructor
  · intro few
    have size := List.length_take_of_le (Nat.le_of_lt proper)
    rw [open?_short (by rw [size]; exact few), size]
  · intro signed
    have inside : length - 4 < (segments.flatMap encodeSegment ++ trailer).length := by
      rw [List.length_append] at proper
      change length < 4 + _ at proper
      omega
    obtain ⟨count, bytes, remnant, bound, taken⟩ := exists_remnant encodable short inside
    have kept : (header control ++ (segments.flatMap encodeSegment ++ trailer)).take length =
        header control ++ ((segments.take count).flatMap encodeSegment ++ bytes) := by
      have front : (header control).length ≤ length := signed
      rw [← taken, List.take_append, List.take_of_length_le front]
      rfl
    have size : (header control ++ ((segments.take count).flatMap encodeSegment ++ bytes)).length =
        length := by
      rw [← kept, List.length_take_of_le (Nat.le_of_lt proper)]
    have position : length = boundary segments count + bytes.length := by
      rw [boundary_eq_length, Nat.add_assoc, ← size, List.length_append, List.length_append]
      rfl
    have whole : ∀ segment ∈ segments.take count, segment.IsEncodable :=
      fun segment member => encodable segment (List.mem_of_mem_take member)
    have opened := open?_header control ((segments.take count).flatMap encodeSegment ++ bytes)
    rw [size, ← kept] at opened
    refine ⟨_, count, opened, ?_, ?_⟩
    · rw [position]
      exact remnant.isGreatest bound
    · have left : length - boundary segments count = bytes.length := by omega
      simp only [left]
      by_cases silent : bytes.length ∈ [0, 4, 8]
      · obtain ⟨found, ends, word, noWord⟩ := remnant.trailer_of_mem silent
        rw [Reader.drain_trailer whole ends]
        exact ⟨rfl, iff_of_true rfl silent, word, noWord, absurd silent⟩
      · obtain ⟨unread, broken, rest⟩ := remnant.break_of_not_mem silent
        have notChecksum : bytes.length ≠ 4 := fun four => silent (by simp [four])
        rw [Reader.drain_break whole broken, rest]
        exact ⟨rfl, iff_of_false (by simp) silent, fun four => absurd four notChecksum,
          fun _ => rfl, fun _ => rfl⟩

/-- A cut behind the word count of the second segment: that count passes for the checksum. -/
theorem cut_image_yields_whole_segments_at_word_count :
    let segments : List Segment := [⟨0x1000, [1, 0, 0, 0]⟩, ⟨0x2000, [2, 0, 0, 0, 3, 0, 0, 0]⟩]
    let image := encode 0x1C segments (some 6)
    decode image .segmented = .ok (segments, some 6) ∧ ¬ Dangles image segments ∧
      20 < image.length ∧ ∃ reader, open? (image.take 20) .segmented = .ok reader ∧
        reader.drain.1 = [⟨0x1000, [1, 0, 0, 0]⟩] ∧ reader.drain.2.1 = none ∧
        reader.drain.2.2.checksum = some 2 := by
  intro segments image
  have encodable : ∀ segment ∈ segments, segment.IsEncodable := by
    intro segment member
    simp only [segments, List.mem_cons, List.not_mem_nil, or_false] at member
    rcases member with rfl | rfl <;> exact ⟨by decide, by decide⟩
  have read := (decode_body encodable 0x1C _).1 _ (trailer_stored (some 6))
  have complete : ¬ Dangles image segments := by
    rintro ⟨control, bytes, ⟨_, _, _, rfl⟩, whole⟩
    have sizes : 36 = 40 := congrArg List.length whole
    contradiction
  have proper : 20 < image.length := by decide
  obtain ⟨reader, count, opened, ⟨⟨bound, fits⟩, greatest⟩, kept, silent, word, -⟩ :=
    (cut_image_yields_whole_segments read complete proper).2 (by decide)
  have one : count = 1 := by
    have atLeast : 1 ≤ count := greatest ⟨by decide, by decide⟩
    have notTwo : count ≠ 2 := by
      rintro rfl
      exact absurd fits (by decide)
    change count ≤ 2 at bound
    omega
  subst one
  obtain ⟨cut, words, next, stored, size⟩ := word rfl
  cases next
  have two : words = 2 := UInt32.toNat_inj.1 (Nat.eq_of_mul_eq_mul_left (by decide) size.symm)
  exact ⟨read, complete, proper, reader, opened, kept, silent.2 (by decide), two ▸ stored⟩

end AnalyzerBoot.Image
