import AnalyzerBoot.Proofs.Image.Truncation
import AnalyzerBoot.Proofs.Steps

/-!
What a reader accounts for, call by call, on images of any quality. Its position splits the image
into what was read and what was not; up to the last complete segment it yields segments, then it
ends, and an error is all that can stand between the end and the length of the image.
-/

set_option autoImplicit false

namespace AnalyzerBoot.Image

/-- Complete segments behind the signature of an image, and what is left behind them. -/
structure IsRun (image : Bytes) (segments : List Segment) (tail : Bytes) : Prop where
  encodable : ∀ segment ∈ segments, segment.IsEncodable
  parts : ∃ control, image = header control ++ (segments.flatMap encodeSegment ++ tail)

def IsLongestRun (image : Bytes) (segments : List Segment) (tail : Bytes) : Prop :=
  IsRun image segments tail ∧
    ∀ others rest, IsRun image others rest → others.length ≤ segments.length

namespace Reader

/-- The reader behind a number of calls. -/
abbrev after (reader : Reader) (calls : Nat) : Reader :=
  Steps.state next reader calls

/-- What is yielded behind a number of calls. -/
abbrev item (reader : Reader) (calls : Nat) : Item :=
  Steps.item next reader calls

/-- A position in an image: what is left to read is the part of it behind what was read. -/
structure Stands (image : Bytes) (reader : Reader) : Prop where
  length : reader.length = image.length
  bounded : reader.consumed ≤ image.length
  rest : reader.rest = image.drop reader.consumed

/-- What a reader accounts for. -/
structure Accounts (image : Bytes) (reader : Reader) : Prop where
  stands (calls : Nat) : (reader.after calls).Stands image
  grows (calls : Nat) : (reader.after calls).consumed ≤ (reader.after (calls + 1)).consumed
  -- A segment is read where the reader stands, and all of it lies in the image.
  segment {calls : Nat} {segment : Segment} : reader.item calls = some (.ok segment) →
    segment.IsEncodable ∧ encodeSegment segment <+: image.drop (reader.after calls).consumed
  consumed {segments : List Segment} :
    (∀ count (_ : count < segments.length), reader.item count = some (.ok segments[count])) →
      (reader.after segments.length).consumed = boundary segments segments.length
  error {calls : Nat} {error : BringupError} : reader.item calls = some (.error error) →
    (∀ earlier < calls, ∃ segment, reader.item earlier = some (.ok segment)) ∧
    (∀ later > calls, reader.item later = none) ∧
    ∃ unconsumed, error = .truncatedImage unconsumed image.length ∧ 1 ≤ unconsumed ∧
      (reader.after (calls + 1)).consumed + unconsumed = image.length
  error_iff (unconsumed : Nat) :
    (∃ calls, reader.item calls = some (.error (.truncatedImage unconsumed image.length))) ↔
      ∃ segments tail unread, IsLongestRun image segments tail ∧ Break tail unread ∧
        unread.length = unconsumed
  whole : (∀ calls error, reader.item calls ≠ some (.error error)) →
    ∀ calls, reader.item calls = none → (reader.after (calls + 1)).consumed = image.length
  few {calls : Nat} : reader.item calls ≠ none → calls < (image.length - 4) / 8 + 1
  -- The checksum is the last word of the image.
  checksum {calls : Nat} {word : UInt32} :
    (reader.after calls).checksum = some word → Word.toBytes word <:+ image

theorem next_of_finished {reader : Reader} (finished : reader.finished = true) :
    reader.next = (none, reader) := by
  rw [next, if_pos finished]

section
variable (reader : Reader)

theorem nextSegment_yields_or_finishes :
    (∃ segment, reader.nextSegment.1 = some (.ok segment)) ∨
      reader.nextSegment.2.finished = true := by
  unfold nextSegment
  split
  · exact .inr rfl
  · dsimp only
    split
    · exact .inl ⟨_, rfl⟩
    · exact .inr rfl
  · exact .inr rfl

/-- A call that yields no segment is the last to change the reader. -/
theorem next_yields_or_finishes :
    (∃ segment, reader.next.1 = some (.ok segment)) ∨ reader.next.2.finished = true := by
  unfold next
  split
  · next finished => exact .inr finished
  · split
    · split
      · exact .inr rfl
      · exact .inl ⟨_, rfl⟩
    · split
      · exact .inr rfl
      · exact reader.nextSegment_yields_or_finishes

/-- Nothing is yielded and nothing changes behind an end, with or without an error. -/
theorem after_end {calls : Nat} (ended : ∀ segment, reader.item calls ≠ some (.ok segment))
    {later : Nat} (behind : calls < later) :
    reader.item later = none ∧ reader.after later = reader.after (calls + 1) := by
  have finished : (reader.after (calls + 1)).finished = true := by
    rw [after, Steps.state_succ]
    refine (reader.after calls).next_yields_or_finishes.resolve_left ?_
    rintro ⟨segment, yielded⟩
    exact ended segment yielded
  exact Steps.behind_settled rfl (next_of_finished finished) behind

theorem nextSegment_advances :
    ∃ piece, reader.rest = piece ++ reader.nextSegment.2.rest ∧
      reader.nextSegment.2.consumed = reader.consumed + piece.length ∧
      reader.nextSegment.2.length = reader.length := by
  unfold nextSegment
  split
  · next a b c d rest => exact ⟨[a, b, c, d], rest, rfl, rfl⟩
  · next a b c d e f g h behind rest =>
    dsimp only
    split
    · next whole =>
      refine ⟨[a, b, c, d, e, f, g, h] ++ behind.take (4 * (Word.ofBytes a b c d).toNat), ?_, ?_,
        rfl⟩
      · rw [rest, List.append_assoc, List.take_append_drop]
        rfl
      · rw [List.length_append, whole, ← Nat.add_assoc]
        rfl
    · exact ⟨[a, b, c, d, e, f, g, h], rest, rfl, rfl⟩
  · exact ⟨[], rfl, rfl, rfl⟩

end

section
variable {image : Bytes} {reader : Reader}

/-- Each call takes a piece off what is left, and counts it as consumed. -/
theorem Stands.next_advances (stands : reader.Stands image) :
    ∃ piece, reader.rest = piece ++ reader.next.2.rest ∧
      reader.next.2.consumed = reader.consumed + piece.length ∧
      reader.next.2.length = reader.length := by
  unfold next
  split
  · exact ⟨[], rfl, rfl, rfl⟩
  · split
    · split
      · exact ⟨[], rfl, rfl, rfl⟩
      · refine ⟨reader.rest, (List.append_nil _).symm, ?_, rfl⟩
        have bounded := stands.bounded
        rw [stands.rest, List.length_drop, ← stands.length]
        rw [← stands.length] at bounded
        exact (Nat.add_sub_of_le bounded).symm
    · split
      · exact ⟨[], rfl, rfl, rfl⟩
      · exact reader.nextSegment_advances

theorem Stands.next (stands : reader.Stands image) : reader.next.2.Stands image := by
  obtain ⟨piece, front, consumed, length⟩ := stands.next_advances
  have left : image.drop reader.consumed = piece ++ reader.next.2.rest := stands.rest ▸ front
  refine ⟨length.trans stands.length, ?_, ?_⟩
  · have size := congrArg List.length left
    rw [List.length_drop, List.length_append] at size
    have bounded := stands.bounded
    omega
  · rw [consumed, ← List.drop_drop, left, List.drop_left]

theorem Stands.after (stands : reader.Stands image) (calls : Nat) :
    (reader.after calls).Stands image :=
  Steps.state_induction (Reader.Stands image) stands (fun _ before => before.next) calls

theorem Stands.grows (stands : reader.Stands image) (calls : Nat) :
    (reader.after calls).consumed ≤ (reader.after (calls + 1)).consumed := by
  obtain ⟨piece, -, consumed, -⟩ := (stands.after calls).next_advances
  rw [Reader.after, Reader.after, Steps.state_succ, consumed]
  exact Nat.le_add_right _ _

end

theorem next_at_boundary {segments : List Segment}
    (encodable : ∀ segment ∈ segments, segment.IsEncodable) (length : Nat) (tail : Bytes)
    {count : Nat} (inside : count < segments.length) :
    (between length (boundary segments count)
        ((segments.drop count).flatMap encodeSegment ++ tail)).next =
      (some (.ok segments[count]), between length (boundary segments (count + 1))
        ((segments.drop (count + 1)).flatMap encodeSegment ++ tail)) := by
  rw [List.drop_eq_getElem_cons inside, List.flatMap_cons, List.append_assoc,
    next_segment (encodable _ (List.getElem_mem inside)),
    boundary_succ (List.getElem?_eq_getElem inside), Nat.add_assoc]

end Reader

/-- The reader that opening a segmented image makes. -/
def start (image : Bytes) : Reader :=
  .between image.length 4 (image.drop 4)

/-- A run behind which the image ends, with or without an error. -/
structure IsWholeRun (image : Bytes) (segments : List Segment) (tail : Bytes) : Prop
    extends IsRun image segments tail where
  ended : (∃ checksum, Trailer checksum tail) ∨ ∃ unread, Break tail unread

theorem exists_isWholeRun (control : UInt8) (body : Bytes) :
    ∃ segments tail, IsWholeRun (header control ++ body) segments tail := by
  obtain ⟨segments, tail, encodable, rfl, ended⟩ := exists_segments body
  exact ⟨segments, tail, ⟨encodable, control, rfl⟩, ended⟩

section
variable {image tail : Bytes} {segments : List Segment} {calls : Nat}

theorem IsRun.after_start (run : IsRun image segments tail) (within : calls ≤ segments.length) :
    (start image).after calls = .between image.length (boundary segments calls)
      ((segments.drop calls).flatMap encodeSegment ++ tail) := by
  induction calls with
  | zero =>
    obtain ⟨control, rfl⟩ := run.parts
    rfl
  | succ calls ih =>
    rw [Reader.after, Steps.state_succ, ← Reader.after, ih (Nat.le_of_succ_le within),
      Reader.next_at_boundary run.encodable _ _ within]

theorem IsRun.item_start (run : IsRun image segments tail) (inside : calls < segments.length) :
    (start image).item calls = some (.ok segments[calls]) := by
  rw [Reader.item, Steps.item, ← Reader.after, run.after_start (Nat.le_of_lt inside),
    Reader.next_at_boundary run.encodable _ _ inside]

/-- Behind the segments of a run the tail decides. -/
theorem IsRun.next_start (run : IsRun image segments tail) {item : Item} {after : Reader}
    (last : (Reader.between image.length (boundary segments segments.length) tail).next =
      (item, after)) :
    (start image).item segments.length = item ∧
      (start image).after (segments.length + 1) = after := by
  have here := run.after_start (Nat.le_refl _)
  rw [List.drop_length, List.flatMap_nil, List.nil_append] at here
  rw [Reader.item, Steps.item, Reader.after, Steps.state_succ, ← Reader.after, here, last]
  exact ⟨rfl, rfl⟩

theorem IsRun.signed (run : IsRun image segments tail) : 4 ≤ image.length := by
  obtain ⟨control, rfl⟩ := run.parts
  rw [List.length_append]
  exact Nat.le_add_right 4 _

theorem IsRun.stands (run : IsRun image segments tail) (calls : Nat) :
    ((start image).after calls).Stands image :=
  Reader.Stands.after ⟨rfl, run.signed, rfl⟩ calls

theorem IsWholeRun.ends (run : IsWholeRun image segments tail) (segment : Segment) :
    (start image).item segments.length ≠ some (.ok segment) := by
  rcases run.ended with ⟨checksum, ends⟩ | ⟨unread, broken⟩
  · rw [(run.next_start (Reader.next_trailer ends _ _)).1]
    nofun
  · rw [(run.next_start (Reader.next_break broken _ _)).1]
    nofun

theorem IsWholeRun.isLongestRun (run : IsWholeRun image segments tail) :
    IsLongestRun image segments tail := by
  refine ⟨run.toIsRun, fun others rest other => Nat.le_of_not_lt fun longer => ?_⟩
  exact run.ends _ (other.item_start longer)

/-- Behind the end that a whole run has, nothing is yielded. -/
theorem IsWholeRun.behind (run : IsWholeRun image segments tail)
    (behind : segments.length < calls) :
    (start image).item calls = none ∧
      (start image).after calls = (start image).after (segments.length + 1) :=
  (start image).after_end run.ends behind

/-- The items of an image: the segments of a whole run, and what its tail makes of the end. -/
theorem IsWholeRun.item_cases (run : IsWholeRun image segments tail) (calls : Nat) :
    (∃ inside : calls < segments.length, (start image).item calls = some (.ok segments[calls])) ∨
    calls = segments.length ∨
    segments.length < calls ∧ (start image).item calls = none := by
  rcases Nat.lt_trichotomy calls segments.length with inside | here | beyond
  · exact .inl ⟨inside, run.item_start inside⟩
  · exact .inr (.inl here)
  · exact .inr (.inr ⟨beyond, (run.behind beyond).1⟩)

theorem IsWholeRun.lt_of_segment (run : IsWholeRun image segments tail) {segment : Segment}
    (yielded : (start image).item calls = some (.ok segment)) :
    ∃ inside : calls < segments.length, segments[calls] = segment := by
  rcases run.item_cases calls with ⟨inside, here⟩ | rfl | ⟨-, nothing⟩
  · rw [here] at yielded
    cases yielded
    exact ⟨inside, rfl⟩
  · exact absurd yielded (run.ends segment)
  · rw [nothing] at yielded
    cases yielded

theorem IsWholeRun.eq_of_error (run : IsWholeRun image segments tail) {error : BringupError}
    (yielded : (start image).item calls = some (.error error)) : calls = segments.length := by
  rcases run.item_cases calls with ⟨inside, here⟩ | here | ⟨-, nothing⟩
  · rw [here] at yielded
    cases yielded
  · exact here
  · rw [nothing] at yielded
    cases yielded

/-- An error is yielded at the break that the tail is. -/
theorem IsWholeRun.break_of_error (run : IsWholeRun image segments tail) {error : BringupError}
    (yielded : (start image).item calls = some (.error error)) :
    calls = segments.length ∧ ∃ unread, Break tail unread ∧
      error = .truncatedImage unread.length image.length ∧
      ((start image).after (calls + 1)).rest = unread := by
  obtain rfl := run.eq_of_error yielded
  rcases run.ended with ⟨checksum, ends⟩ | ⟨unread, broken⟩
  · rw [(run.next_start (Reader.next_trailer ends _ _)).1] at yielded
    cases yielded
  · obtain ⟨here, after⟩ := run.next_start (Reader.next_break broken _ _)
    rw [here] at yielded
    cases yielded
    exact ⟨rfl, unread, broken, rfl, congrArg Reader.rest after⟩

theorem Break.unread_pos {unread : Bytes} (broken : Break tail unread) : 1 ≤ unread.length := by
  cases broken with
  | short _ notEmpty _ => exact List.length_pos_iff.2 notEmpty
  | cut _ notEmpty _ => exact List.length_pos_iff.2 notEmpty

/-- Each segment takes its header at least. -/
theorem le_boundary {count : Nat} (within : count ≤ segments.length) :
    4 + 8 * count ≤ boundary segments count := by
  induction count with
  | zero => exact Nat.le_refl 4
  | succ count ih =>
    rw [boundary_succ (List.getElem?_eq_getElem within)]
    have earlier := ih (Nat.le_of_succ_le within)
    omega

section
variable (run : IsWholeRun image segments tail)
include run

/-- Segments that were yielded are the first ones of a whole run. -/
theorem IsWholeRun.eq_take {others : List Segment}
    (yielded : ∀ count (_ : count < others.length),
      (start image).item count = some (.ok others[count])) :
    others.length ≤ segments.length ∧ others = segments.take others.length := by
  have within : others.length ≤ segments.length :=
    Nat.le_of_not_lt fun longer => run.ends _ (yielded _ longer)
  refine ⟨within, List.ext_getElem (List.length_take_of_le within).symm fun count here _ => ?_⟩
  obtain ⟨inside, same⟩ := run.lt_of_segment (yielded count here)
  rw [List.getElem_take, same]

theorem IsWholeRun.consumed {others : List Segment}
    (yielded : ∀ count (_ : count < others.length),
      (start image).item count = some (.ok others[count])) :
    ((start image).after others.length).consumed = boundary others others.length := by
  obtain ⟨within, first⟩ := run.eq_take yielded
  rw [run.after_start within]
  change boundary segments others.length = _
  rw [boundary_eq_length, ← first, boundary_eq_length, List.take_length]

theorem IsWholeRun.segment {segment : Segment}
    (yielded : (start image).item calls = some (.ok segment)) :
    segment.IsEncodable ∧
      encodeSegment segment <+: image.drop ((start image).after calls).consumed := by
  obtain ⟨inside, rfl⟩ := run.lt_of_segment yielded
  refine ⟨run.encodable _ (List.getElem_mem inside), ?_⟩
  rw [← (run.stands calls).rest, run.after_start (Nat.le_of_lt inside)]
  change _ <+: (segments.drop calls).flatMap encodeSegment ++ tail
  rw [List.drop_eq_getElem_cons inside, List.flatMap_cons, List.append_assoc]
  exact List.prefix_append _ _

/-- An error accounts for the bytes that were not consumed. -/
theorem IsWholeRun.error {error : BringupError}
    (yielded : (start image).item calls = some (.error error)) :
    ∃ unconsumed, error = .truncatedImage unconsumed image.length ∧ 1 ≤ unconsumed ∧
      ((start image).after (calls + 1)).consumed + unconsumed = image.length := by
  obtain ⟨-, unread, broken, rfl, rest⟩ := run.break_of_error yielded
  have stands := run.stands (calls + 1)
  refine ⟨unread.length, rfl, broken.unread_pos, ?_⟩
  rw [← rest, stands.rest, List.length_drop]
  exact Nat.add_sub_of_le stands.bounded

theorem IsWholeRun.whole
    (faultless : ∀ calls error, (start image).item calls ≠ some (.error error))
    (nothing : (start image).item calls = none) :
    ((start image).after (calls + 1)).consumed = image.length := by
  rcases run.ended with ⟨checksum, ends⟩ | ⟨unread, broken⟩
  · have last := (run.next_start (Reader.next_trailer ends _ _)).2
    have same : (start image).after (calls + 1) = (start image).after (segments.length + 1) := by
      rcases run.item_cases calls with ⟨inside, here⟩ | rfl | ⟨beyond, -⟩
      · rw [nothing] at here
        cases here
      · rfl
      · exact (run.behind (Nat.lt_succ_of_lt beyond)).2
    have stands := run.stands (calls + 1)
    have rest := stands.rest
    rw [same, last] at rest
    exact Nat.le_antisymm stands.bounded (same ▸ last ▸ List.drop_eq_nil_iff.1 rest.symm)
  · exact absurd (run.next_start (Reader.next_break broken _ _)).1 (faultless _ _)

theorem IsWholeRun.few (yields : (start image).item calls ≠ none) :
    calls < (image.length - 4) / 8 + 1 := by
  have within : calls ≤ segments.length :=
    Nat.le_of_not_lt fun beyond => yields (run.behind beyond).1
  have bounded := (run.stands segments.length).bounded
  rw [run.after_start (Nat.le_refl _)] at bounded
  have position : 4 + 8 * segments.length ≤ image.length :=
    Nat.le_trans (le_boundary (Nat.le_refl _)) bounded
  omega

theorem IsWholeRun.checksum {word : UInt32}
    (stored : ((start image).after calls).checksum = some word) : Word.toBytes word <:+ image := by
  rcases Nat.lt_or_ge segments.length calls with beyond | within
  · rw [(run.behind beyond).2] at stored
    rcases run.ended with ⟨checksum, ends⟩ | ⟨unread, broken⟩
    · rw [(run.next_start (Reader.next_trailer ends _ _)).2] at stored
      cases stored
      cases ends
      obtain ⟨control, parts⟩ := run.parts
      rw [parts, ← List.append_assoc]
      exact List.suffix_append _ _
    · rw [(run.next_start (Reader.next_break broken _ _)).2] at stored
      cases stored
  · rw [run.after_start within] at stored
    cases stored

/-- Images end with an error just where a break follows their longest run of segments. -/
theorem IsWholeRun.error_iff (unconsumed : Nat) :
    (∃ calls, (start image).item calls =
        some (.error (.truncatedImage unconsumed image.length))) ↔
      ∃ segments tail unread, IsLongestRun image segments tail ∧ Break tail unread ∧
        unread.length = unconsumed := by
  constructor
  · rintro ⟨calls, yielded⟩
    obtain ⟨-, unread, broken, same, -⟩ := run.break_of_error yielded
    cases same
    exact ⟨segments, tail, unread, run.isLongestRun, broken, rfl⟩
  · rintro ⟨others, rest, unread, ⟨other, -⟩, broken, rfl⟩
    exact ⟨others.length, (other.next_start (Reader.next_break broken _ _)).1⟩

end

end

/-- A reader of a segmented image accounts for each byte of it, whatever stands behind the
signature, and a reader of any image stays at its end. -/
theorem reading_accounts_for_image :
    (∀ (control : UInt8) (body : Bytes), let image := header control ++ body
      ∃ reader, open? image .segmented = .ok reader ∧ reader.Accounts image) ∧
    ∀ (reader : Reader) (calls : Nat), (∀ segment, reader.item calls ≠ some (.ok segment)) →
      ∀ later > calls, reader.item later = none ∧ reader.after later = reader.after (calls + 1) := by
  refine ⟨fun control body => ⟨start (header control ++ body), rfl, ?_⟩, ?_⟩
  · obtain ⟨segments, tail, run⟩ := exists_isWholeRun control body
    exact {
      stands := run.stands
      grows := (run.stands 0).grows
      segment := run.segment
      consumed := run.consumed
      error := fun yielded => by
        refine ⟨fun earlier before => ?_, fun later behind => ?_, run.error yielded⟩
        · obtain rfl := run.eq_of_error yielded
          exact ⟨_, run.item_start before⟩
        · exact ((start _).after_end (by rw [yielded]; nofun) behind).1
      error_iff := run.error_iff
      whole := fun faultless _ => run.whole faultless
      few := run.few
      checksum := run.checksum }
  · exact fun reader calls ended later behind => reader.after_end ended behind

/-- A header that announces four words in front of two, behind a segment of one. -/
theorem reading_accounts_for_image_of_cut_segment :
    let body := encodeSegment ⟨0x1000, [1, 0, 0, 0]⟩ ++
      (Word.toBytes 4 ++ Word.toBytes 0x2000 ++ [0, 0, 0, 0, 0, 0, 0, 0])
    ∃ reader, open? (header 0x1C ++ body) .segmented = .ok reader ∧
      reader.item 1 = some (.error (.truncatedImage 8 32)) ∧
      (reader.after 2).consumed + 8 = 32 ∧
      ∀ later > 1, reader.item later = none ∧ (reader.after (later + 1)).consumed = 24 := by
  intro body
  obtain ⟨reader, opened, accounts⟩ := reading_accounts_for_image.1 0x1C body
  obtain rfl : start (header 0x1C ++ body) = reader := Except.ok.inj opened
  have broken : (start (header 0x1C ++ body)).item 1 = some (.error (.truncatedImage 8 32)) := rfl
  obtain ⟨-, nothing, unconsumed, same, -, total⟩ := accounts.error broken
  cases same
  refine ⟨_, opened, broken, total, fun later behind => ⟨nothing later behind, ?_⟩⟩
  have still := reading_accounts_for_image.2 _ 1 (by rw [broken]; nofun) (later + 1)
    (Nat.lt_succ_of_lt behind)
  rw [still.2]
  exact Nat.add_right_cancel total

end AnalyzerBoot.Image
