import AnalyzerBoot.Image.Reader

/-!
The grammar of segmented images. Between two segments a reader has a further segment, a trailer or
a break in front of it, which the bytes that are left decide. Hence an image is read to its end
exactly if it consists of a signature, encoded segments and a trailer, and reading undoes encoding.
-/

set_option autoImplicit false

namespace AnalyzerBoot

/-- Fits behind a header: whole words, as many as 32 bits can count. -/
def Segment.IsEncodable (segment : Segment) : Prop :=
  4 ∣ segment.payload.length ∧ segment.payload.length / 4 < UInt32.size

/-- A header counts the words of such a segment as they are. -/
theorem Segment.IsEncodable.wordCount {segment : Segment} (encodable : segment.IsEncodable) :
    4 * (UInt32.ofNat (segment.payload.length / 4)).toNat = segment.payload.length := by
  obtain ⟨whole, bound⟩ := encodable
  rw [UInt32.toNat_ofNat_of_lt' bound]
  omega

namespace Image

/-- A header that announces payload. -/
def IsHeader (bytes : Bytes) : Prop :=
  ∃ count address : UInt32, 0 < count ∧ bytes = Word.toBytes count ++ Word.toBytes address

/-- What may stand behind the last segment, with the checksum it stores. A header without the
payload it announces is let pass if nothing follows it. -/
inductive Trailer : Option UInt32 → Bytes → Prop where
  | nothing : Trailer none []
  | checksum (word : UInt32) : Trailer (some word) (Word.toBytes word)
  | dangling {bytes : Bytes} (header : IsHeader bytes) : Trailer none bytes

/-- What ends an image with an error, and the part of it that stays unread. -/
inductive Break : Bytes → Bytes → Prop where
  | short {rest : Bytes} (few : rest.length < 8) (some : rest ≠ [])
    (notChecksum : rest.length ≠ 4) : Break rest rest
  | cut {count : UInt32} {behind : Bytes} (address : UInt32) (some : behind ≠ [])
    (missing : behind.length < 4 * count.toNat) :
    Break (Word.toBytes count ++ Word.toBytes address ++ behind) behind

theorem trailer_stored (checksum : Option UInt32) :
    Trailer checksum (checksum.elim [] Word.toBytes) := by
  cases checksum with
  | none => exact .nothing
  | some word => exact .checksum word

/-- Eight bytes or more begin with a segment, or with a header that announces too much. -/
theorem header_cases (count address : UInt32) (behind : Bytes) :
    (∃ (segment : Segment) (rest : Bytes), segment.IsEncodable ∧
      Word.toBytes count ++ Word.toBytes address ++ behind = encodeSegment segment ++ rest) ∨
    behind.length < 4 * count.toNat := by
  by_cases fits : 4 * count.toNat ≤ behind.length
  · refine .inl ⟨⟨address, behind.take (4 * count.toNat)⟩, behind.drop (4 * count.toNat), ?_, ?_⟩
    · have bound := count.toNat_lt_size
      simp only [Segment.IsEncodable, List.length_take, Nat.min_eq_left fits]
      omega
    · have words : 4 * count.toNat / 4 = count.toNat := by omega
      simp only [encodeSegment, List.length_take, Nat.min_eq_left fits, words, UInt32.ofNat_toNat,
        List.append_assoc, List.take_append_drop]
  · exact .inr (by omega)

/-- There is nothing else that a reader can have in front of it. -/
theorem front_cases (rest : Bytes) :
    (∃ (segment : Segment) (behind : Bytes), segment.IsEncodable ∧
      rest = encodeSegment segment ++ behind) ∨
    (∃ checksum, Trailer checksum rest) ∨ ∃ unread, Break rest unread := by
  match rest with
  | [] => exact .inr (.inl ⟨none, .nothing⟩)
  | [a, b, c, d] =>
    refine .inr (.inl ⟨some (Word.ofBytes a b c d), ?_⟩)
    rw [← Word.toBytes_ofBytes a b c d]
    exact .checksum _
  | a :: b :: c :: d :: e :: f :: g :: h :: behind =>
    have front : a :: b :: c :: d :: e :: f :: g :: h :: behind =
        Word.toBytes (Word.ofBytes a b c d) ++ Word.toBytes (Word.ofBytes e f g h) ++ behind := by
      rw [Word.toBytes_ofBytes, Word.toBytes_ofBytes]
      rfl
    rw [front]
    rcases header_cases (Word.ofBytes a b c d) (Word.ofBytes e f g h) behind with whole | missing
    · exact .inl whole
    · by_cases nothing : behind = []
      · subst nothing
        rw [List.length_nil] at missing
        refine .inr (.inl ⟨none, .dangling ⟨_, _, UInt32.lt_iff_toNat_lt.2 ?_, List.append_nil _⟩⟩)
        exact Nat.pos_of_mul_pos_left missing
      · exact .inr (.inr ⟨behind, .cut _ nothing missing⟩)
  | [a] | [a, b] | [a, b, c] | [a, b, c, d, e] | [a, b, c, d, e, f] | [a, b, c, d, e, f, g] =>
    exact .inr (.inr ⟨_, .short (by simp) (by simp) (by simp)⟩)

/-- What can be read off a body: encoded segments, then a trailer or a break. -/
theorem exists_segments (body : Bytes) :
    ∃ (segments : List Segment) (tail : Bytes), (∀ segment ∈ segments, segment.IsEncodable) ∧
      body = segments.flatMap encodeSegment ++ tail ∧
      ((∃ checksum, Trailer checksum tail) ∨ ∃ unread, Break tail unread) := by
  -- Every encoded segment is at least its header, so what is behind it is shorter.
  induction h : body.length using Nat.strongRecOn generalizing body with
  | ind length ih =>
    rcases front_cases body with ⟨segment, behind, encodable, rfl⟩ | ended
    · have shorter : behind.length < length := by
        simp only [← h, encodeSegment, List.length_append, Word.length_toBytes]
        omega
      obtain ⟨segments, tail, encodables, rfl, ended⟩ := ih _ shorter behind rfl
      refine ⟨segment :: segments, tail, ?_, ?_, ended⟩
      · exact List.forall_mem_cons.2 ⟨encodable, encodables⟩
      · rw [List.flatMap_cons, List.append_assoc]
    · exact ⟨[], body, by simp, rfl, ended⟩

namespace Reader

/-- A reader of a segmented image between two segments. -/
def between (length consumed : Nat) (rest : Bytes) : Reader :=
  ⟨.segmented, length, rest, consumed, none, false⟩

/-- A header decides alone what becomes of it. -/
theorem next_header (length consumed : Nat) (count address : UInt32) (behind : Bytes) :
    (between length consumed (Word.toBytes count ++ Word.toBytes address ++ behind)).next =
      if (behind.take (4 * count.toNat)).length = 4 * count.toNat then
        (some (.ok ⟨address, behind.take (4 * count.toNat)⟩),
          between length (consumed + 8 + 4 * count.toNat) (behind.drop (4 * count.toNat)))
      else (between length (consumed + 8) behind).finish := by
  simp only [between, next, nextSegment, Word.toBytes, List.cons_append, List.nil_append,
    Word.ofBytes_toBytes, Chip.segmentHeaderSize]
  rfl

theorem next_segment {segment : Segment} (encodable : segment.IsEncodable)
    (length consumed : Nat) (behind : Bytes) :
    (between length consumed (encodeSegment segment ++ behind)).next =
      (some (.ok segment), between length (consumed + 8 + segment.payload.length) behind) := by
  rw [encodeSegment, List.append_assoc, next_header, encodable.wordCount, List.take_left,
    List.drop_left, if_pos rfl]

theorem next_trailer {checksum : Option UInt32} {trailer : Bytes} (ends : Trailer checksum trailer)
    (length consumed : Nat) :
    (between length consumed trailer).next =
      (none, ⟨.segmented, length, [], consumed + trailer.length, checksum, true⟩) := by
  cases ends with
  | nothing => rfl
  | checksum word =>
    simp only [between, next, nextSegment, Word.toBytes, Word.ofBytes_toBytes]
    rfl
  | dangling header =>
    obtain ⟨count, address, announced, rfl⟩ := header
    have positive : 0 < count.toNat := UInt32.lt_iff_toNat_lt.1 announced
    have missing : ¬ 0 = 4 * count.toNat := by omega
    have front := next_header length consumed count address []
    rw [List.append_nil, List.take_nil, List.length_nil, if_neg missing] at front
    exact front

theorem next_break {rest unread : Bytes} (broken : Break rest unread) (length consumed : Nat) :
    (between length consumed rest).next = (some (.error (.truncatedImage unread.length length)),
      ⟨.segmented, length, unread, consumed + (rest.length - unread.length), none, true⟩) := by
  cases broken with
  | short few notEmpty notChecksum =>
    match rest with
    | [a] | [a, b] | [a, b, c] | [a, b, c, d, e] | [a, b, c, d, e, f] | [a, b, c, d, e, f, g] => rfl
    | [] => exact absurd rfl notEmpty
    | [a, b, c, d] => exact absurd rfl notChecksum
    | a :: b :: c :: d :: e :: f :: g :: h :: behind =>
      simp only [List.length_cons] at few
      omega
  | @cut count _ address notEmpty missing =>
    have short : ¬ (unread.take (4 * count.toNat)).length = 4 * count.toNat := by
      rw [List.length_take]
      omega
    rw [next_header, if_neg short, finish, List.length_append, Nat.add_sub_cancel]
    simp [between, notEmpty]

/-- Segments come off the front of a body one by one. -/
theorem drain_segments {segments : List Segment}
    (encodable : ∀ segment ∈ segments, segment.IsEncodable) (length consumed : Nat)
    (tail : Bytes) :
    (between length consumed (segments.flatMap encodeSegment ++ tail)).drain =
      (segments ++ (between length
          (consumed + (segments.flatMap encodeSegment).length) tail).drain.1,
        (between length (consumed + (segments.flatMap encodeSegment).length) tail).drain.2) := by
  induction segments generalizing consumed with
  | nil => rfl
  | cons segment rest ih =>
    obtain ⟨first, others⟩ := List.forall_mem_cons.1 encodable
    have position : consumed + 8 + segment.payload.length + (rest.flatMap encodeSegment).length =
        consumed + (encodeSegment segment ++ rest.flatMap encodeSegment).length := by
      simp only [encodeSegment, List.length_append, Word.length_toBytes]
      omega
    rw [List.flatMap_cons, List.append_assoc, drain_of_segment (next_segment first _ _ _),
      ih others, position, List.cons_append]

theorem drain_trailer {segments : List Segment}
    (encodable : ∀ segment ∈ segments, segment.IsEncodable) {checksum : Option UInt32}
    {trailer : Bytes} (ends : Trailer checksum trailer) (length consumed : Nat) :
    (between length consumed (segments.flatMap encodeSegment ++ trailer)).drain =
      (segments, none, ⟨.segmented, length, [],
        consumed + (segments.flatMap encodeSegment).length + trailer.length, checksum, true⟩) := by
  rw [drain_segments encodable, drain_of_none (next_trailer ends _ _), List.append_nil]

theorem drain_break {segments : List Segment}
    (encodable : ∀ segment ∈ segments, segment.IsEncodable) {rest unread : Bytes}
    (broken : Break rest unread) (length consumed : Nat) :
    (between length consumed (segments.flatMap encodeSegment ++ rest)).drain =
      (segments, some (.truncatedImage unread.length length), ⟨.segmented, length, unread,
        consumed + (segments.flatMap encodeSegment).length + (rest.length - unread.length), none,
        true⟩) := by
  rw [drain_segments encodable, drain_of_error (next_break broken _ _), List.append_nil]

end Reader

theorem open?_header (control : UInt8) (body : Bytes) :
    open? (header control ++ body) .segmented =
      .ok (Reader.between (header control ++ body).length 4 body) := rfl

/-- What reading makes of a body, by what stands behind its segments. -/
theorem decode_body {segments : List Segment}
    (encodable : ∀ segment ∈ segments, segment.IsEncodable) (control : UInt8) (tail : Bytes) :
    (∀ checksum, Trailer checksum tail →
      decode (header control ++ segments.flatMap encodeSegment ++ tail) .segmented =
        .ok (segments, checksum)) ∧
    (∀ unread, Break tail unread →
      decode (header control ++ segments.flatMap encodeSegment ++ tail) .segmented =
        .error (.truncatedImage unread.length
          (header control ++ segments.flatMap encodeSegment ++ tail).length)) := by
  rw [List.append_assoc]
  have opened := open?_header control (segments.flatMap encodeSegment ++ tail)
  constructor
  · intro checksum ends
    rw [decode_of_open opened, Reader.drain_trailer encodable ends]
  · intro unread broken
    rw [decode_of_open opened, Reader.drain_break encodable broken]

/-- An image whose signature is right is a header and a body. -/
theorem open?_segmented_ok {image : Bytes} {reader : Reader}
    (opened : open? image .segmented = .ok reader) :
    ∃ control body, image = header control ++ body := by
  match image with
  | a :: b :: c :: d :: body =>
    simp only [open?, checkSignature] at opened
    split at opened
    · next valid =>
      obtain ⟨signature, rfl⟩ := valid
      exact ⟨c, body, by rw [header, ← signature]; rfl⟩
    · cases opened
  | [] | [a] | [a, b] | [a, b, c] => cases opened

/-- Whatever is read to its end is what `decode_body` describes. -/
theorem of_decode_segmented {image : Bytes} {segments : List Segment} {checksum : Option UInt32}
    (read : decode image .segmented = .ok (segments, checksum)) :
    (∀ segment ∈ segments, segment.IsEncodable) ∧ ∃ control trailer, Trailer checksum trailer ∧
      image = header control ++ segments.flatMap encodeSegment ++ trailer := by
  cases opened : open? image .segmented with
  | error error =>
    rw [decode, opened] at read
    cases read
  | ok reader =>
    obtain ⟨control, body, rfl⟩ := open?_segmented_ok opened
    obtain ⟨found, tail, encodable, rfl, ended⟩ := exists_segments body
    rw [← List.append_assoc] at read ⊢
    rcases ended with ⟨stored, ends⟩ | ⟨unread, broken⟩
    · rw [(decode_body encodable control tail).1 stored ends] at read
      cases read
      exact ⟨encodable, control, tail, ends, rfl⟩
    · rw [(decode_body encodable control tail).2 unread broken] at read
      cases read

/-- Segmented images that are read to their end consist of the signature, encoded segments and a
trailer, and all that do are read so. Reading gives back what was encoded, and an image read without
a dangling header is the encoding of what was read. -/
theorem decode_segmented_iff (image : Bytes) (segments : List Segment) (checksum : Option UInt32) :
    (decode image .segmented = .ok (segments, checksum) ↔
      (∀ segment ∈ segments, segment.IsEncodable) ∧ ∃ control trailer, Trailer checksum trailer ∧
        image = header control ++ segments.flatMap encodeSegment ++ trailer) ∧
    ((∀ segment ∈ segments, segment.IsEncodable) → ∀ control,
      decode (encode control segments checksum) .segmented = .ok (segments, checksum)) ∧
    (decode image .segmented = .ok (segments, checksum) →
      (¬ ∃ control bytes, IsHeader bytes ∧
        image = header control ++ segments.flatMap encodeSegment ++ bytes) →
      ∃ control, image = encode control segments checksum) := by
  refine ⟨⟨of_decode_segmented, ?_⟩, ?_, ?_⟩
  · rintro ⟨encodable, control, trailer, ends, rfl⟩
    exact (decode_body encodable control trailer).1 checksum ends
  · intro encodable control
    exact (decode_body encodable control _).1 checksum (trailer_stored checksum)
  · intro read noHeader
    obtain ⟨-, control, trailer, ends, rfl⟩ := of_decode_segmented read
    cases ends with
    | nothing => exact ⟨control, rfl⟩
    | checksum word => exact ⟨control, rfl⟩
    | dangling header => exact absurd ⟨control, trailer, header, rfl⟩ noHeader

/-- Two segments, the latter empty, and their checksum. -/
theorem decode_segmented_iff_program :
    (∀ segment ∈ [(⟨0x1000, [1, 0, 0, 0]⟩ : Segment), ⟨0x1000, []⟩], segment.IsEncodable) ∧
      decode (encode 0x1C [⟨0x1000, [1, 0, 0, 0]⟩, ⟨0x1000, []⟩] (some 1)) .segmented =
        .ok ([⟨0x1000, [1, 0, 0, 0]⟩, ⟨0x1000, []⟩], some 1) := by
  have encodable : ∀ segment ∈ [(⟨0x1000, [1, 0, 0, 0]⟩ : Segment), ⟨0x1000, []⟩],
      segment.IsEncodable := by
    intro segment member
    simp only [List.mem_cons, List.not_mem_nil, or_false] at member
    rcases member with rfl | rfl <;> exact ⟨by decide, by decide⟩
  exact ⟨encodable, (decode_segmented_iff [] _ (some 1)).2.1 encodable 0x1C⟩

end Image

end AnalyzerBoot
