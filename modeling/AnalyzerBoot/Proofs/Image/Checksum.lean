import AnalyzerBoot.Proofs.Image.Reading
import AnalyzerBoot.Proofs.Image.Truncation
import Mathlib.Algebra.BigOperators.Ring.List
import Mathlib.Algebra.Ring.Nat

/-!
Checksums over the words of all payloads. Where segments begin and end does not matter to the sum,
and the sum does not matter to where they do. So a change of one word, in a payload or of the
checksum itself, leaves the table of an image as it is and is noticed by its checksum.
-/

set_option autoImplicit false

namespace AnalyzerBoot

namespace Word

/-- The complete words of a byte string. -/
def words : Bytes → List UInt32
  | a :: b :: c :: d :: rest => ofBytes a b c d :: words rest
  | _ => []

/-- The sum of words as natural numbers. -/
def total (words : List UInt32) : Nat :=
  (words.map UInt32.toNat).sum

theorem checksum_eq_foldl (sum : UInt32) (bytes : Bytes) :
    checksum sum bytes = (words bytes).foldl (· + ·) sum := by
  induction sum, bytes using checksum.induct with
  | case1 sum a b c d rest ih => exact ih
  | case2 sum bytes short =>
    rw [checksum, words]
    · rfl
    · exact short
    · exact short

theorem words_append {first : Bytes} (whole : 4 ∣ first.length) (second : Bytes) :
    words (first ++ second) = words first ++ words second := by
  induction first using words.induct with
  | case1 a b c d rest ih =>
    have left : 4 ∣ rest.length := (Nat.dvd_add_left (Nat.dvd_refl 4)).1 whole
    exact congrArg (ofBytes a b c d :: ·) (ih left)
  | case2 first short =>
    match first with
    | [] => rfl
    | [_] | [_, _] | [_, _, _] => exact absurd whole (by simp)
    | a :: b :: c :: d :: rest => exact absurd rfl (short a b c d rest)

theorem words_toBytes_append (word : UInt32) (bytes : Bytes) :
    words (toBytes word ++ bytes) = word :: words bytes :=
  congrArg (· :: words bytes) (ofBytes_toBytes word)

theorem total_append_cons (front : List UInt32) (word : UInt32) (back : List UInt32) :
    total (front ++ word :: back) = total front + (word.toNat + total back) := by
  rw [total, List.map_append, List.map_cons, List.sum_append, List.sum_cons]
  rfl

theorem toNat_foldl_add (sum : UInt32) (words : List UInt32) :
    (words.foldl (· + ·) sum).toNat = (sum.toNat + total words) % UInt32.size := by
  induction words generalizing sum with
  | nil => exact (Nat.mod_eq_of_lt sum.toNat_lt_size).symm
  | cons word rest ih =>
    rw [List.foldl_cons, ih, UInt32.toNat_add, total, total, List.map_cons, List.sum_cons,
      Nat.mod_add_mod, Nat.add_assoc]

/-- A word anywhere in a byte string. -/
theorem exists_word {bytes : Bytes} {position : Nat} (inside : position + 4 ≤ bytes.length) :
    ∃ front word back, bytes = front ++ (toBytes word ++ back) ∧ front.length = position := by
  have size : (bytes.drop position).length = bytes.length - position := List.length_drop
  match rest : bytes.drop position with
  | a :: b :: c :: d :: back =>
    refine ⟨bytes.take position, ofBytes a b c d, back, ?_, List.length_take_of_le (by omega)⟩
    rw [toBytes_ofBytes]
    exact (rest ▸ List.take_append_drop position bytes).symm
  | [] | [_] | [_, _] | [_, _, _] =>
    rw [rest] at size
    simp only [List.length_cons, List.length_nil] at size
    omega

theorem take_drop_around (front : Bytes) (word : UInt32) (back : Bytes) :
    (front ++ (toBytes word ++ back)).take front.length = front ∧
      (front ++ (toBytes word ++ back)).drop (front.length + 4) = back := by
  rw [← List.drop_drop, List.drop_left]
  exact ⟨List.take_left, rfl⟩

end Word

namespace Image

section
variable {segments : List Segment}

theorem dvd_length_payloads (encodable : ∀ segment ∈ segments, segment.IsEncodable) :
    4 ∣ (segments.flatMap Segment.payload).length := by
  rw [List.length_flatMap]
  apply List.dvd_sum
  intro size member
  obtain ⟨segment, inside, rfl⟩ := List.mem_map.1 member
  exact (encodable segment inside).1

theorem foldl_checksum (encodable : ∀ segment ∈ segments, segment.IsEncodable) (sum : UInt32) :
    segments.foldl (fun sum segment => Word.checksum sum segment.payload) sum =
      (Word.words (segments.flatMap Segment.payload)).foldl (· + ·) sum := by
  induction segments generalizing sum with
  | nil => rfl
  | cons segment rest ih =>
    obtain ⟨first, others⟩ := List.forall_mem_cons.1 encodable
    rw [List.foldl_cons, ih others, Word.checksum_eq_foldl, ← List.foldl_append,
      ← Word.words_append first.1, List.flatMap_cons]

theorem toNat_checksum (encodable : ∀ segment ∈ segments, segment.IsEncodable) :
    (checksum segments).toNat =
      Word.total (Word.words (segments.flatMap Segment.payload)) % UInt32.size := by
  rw [checksum, foldl_checksum encodable, Word.toNat_foldl_add]
  exact congrArg (· % UInt32.size) (Nat.zero_add _)

/-- What inspecting makes of segments and a trailer. -/
theorem inspect_body (encodable : ∀ segment ∈ segments, segment.IsEncodable) (control : UInt8)
    {stored : Option UInt32} {trailer : Bytes} (ends : Trailer stored trailer) :
    inspect (header control ++ segments.flatMap encodeSegment ++ trailer) .segmented =
      .ok ⟨segments.map Segment.entry, stored, checksum segments,
        (header control ++ segments.flatMap encodeSegment ++ trailer).length⟩ := by
  rw [inspect, (decode_body encodable control trailer).1 stored ends]
  rfl

end

/-- What a summary says of an image that these segments and a trailer make up. -/
structure Summarizes (summary : Summary) (image : Bytes) (segments : List Segment) : Prop where
  encodable : ∀ segment ∈ segments, segment.IsEncodable
  parts : ∃ control trailer, Trailer summary.stored trailer ∧
    image = header control ++ segments.flatMap encodeSegment ++ trailer
  table : summary.segments = segments.map Segment.entry
  -- However the words are divided into segments.
  computed : summary.computed.toNat =
    Word.total (Word.words (segments.flatMap Segment.payload)) % UInt32.size

theorem exists_summarizes {image : Bytes} {summary : Summary}
    (inspected : inspect image .segmented = .ok summary) :
    ∃ segments, Summarizes summary image segments := by
  cases read : decode image .segmented with
  | error error =>
    rw [inspect, read] at inspected
    cases inspected
  | ok result =>
    obtain ⟨segments, stored⟩ := result
    obtain ⟨encodable, control, trailer, ends, rfl⟩ := of_decode_segmented read
    rw [inspect_body encodable control ends] at inspected
    cases inspected
    exact ⟨segments, encodable, ⟨control, trailer, ends, rfl⟩, rfl, toNat_checksum encodable⟩

/-- Segments one of whose payload words is left open. -/
structure Gap where
  earlier : List Segment
  address : UInt32
  -- What the payload holds in front of the word and behind it.
  before : Bytes
  behind : Bytes
  later : List Segment

namespace Gap

variable (gap : Gap)

def segment (word : UInt32) : Segment :=
  ⟨gap.address, gap.before ++ (Word.toBytes word ++ gap.behind)⟩

def fill (word : UInt32) : List Segment :=
  gap.earlier ++ gap.segment word :: gap.later

theorem length_payload (word : UInt32) :
    (gap.segment word).payload.length = gap.before.length + (4 + gap.behind.length) := by
  rw [segment, List.length_append, List.length_append, Word.length_toBytes]

theorem entries_fill (old new : UInt32) :
    (gap.fill old).map Segment.entry = (gap.fill new).map Segment.entry := by
  simp only [fill, List.map_append, List.map_cons, Segment.entry, length_payload]
  rfl

variable {gap} {old : UInt32}

theorem isEncodable_fill (encodable : ∀ segment ∈ gap.fill old, segment.IsEncodable)
    (new : UInt32) : ∀ segment ∈ gap.fill new, segment.IsEncodable := by
  simp only [fill, List.forall_mem_append, List.forall_mem_cons] at encodable ⊢
  refine ⟨encodable.1, ?_, encodable.2.2⟩
  have whole := encodable.2.1
  rw [Segment.IsEncodable, length_payload] at whole ⊢
  exact whole

/-- The word stands at one place of the image, whatever it is. -/
theorem exists_encode_fill (gap : Gap) (control : UInt8) :
    ∃ front back, front.length = boundary gap.earlier gap.earlier.length + 8 + gap.before.length ∧
      ∀ word trailer, header control ++ (gap.fill word).flatMap encodeSegment ++ trailer =
        front ++ (Word.toBytes word ++ (back ++ trailer)) := by
  let count := UInt32.ofNat ((gap.before.length + (4 + gap.behind.length)) / 4)
  refine ⟨header control ++ gap.earlier.flatMap encodeSegment ++
      (Word.toBytes count ++ Word.toBytes gap.address ++ gap.before),
    gap.behind ++ gap.later.flatMap encodeSegment, ?_, fun word trailer => ?_⟩
  · rw [boundary_eq_length, List.take_length]
    simp only [List.length_append, Word.length_toBytes]
    have signature : (header control).length = 4 := rfl
    omega
  · rw [fill, List.flatMap_append, List.flatMap_cons, encodeSegment, length_payload, segment]
    simp only [List.append_assoc, count]

/-- Sums of payload words tell what word stands in the gap. -/
theorem checksum_fill_inj (encodable : ∀ segment ∈ gap.fill old, segment.IsEncodable)
    (aligned : 4 ∣ gap.before.length) {new : UInt32}
    (same : checksum (gap.fill new) = checksum (gap.fill old)) : new = old := by
  have earlier : 4 ∣ (gap.earlier.flatMap Segment.payload ++ gap.before).length := by
    rw [List.length_append]
    exact Nat.dvd_add (dvd_length_payloads (List.forall_mem_append.1 encodable).1) aligned
  have words : ∀ word, Word.words ((gap.fill word).flatMap Segment.payload) =
      Word.words (gap.earlier.flatMap Segment.payload ++ gap.before) ++
        word :: Word.words (gap.behind ++ gap.later.flatMap Segment.payload) := by
    intro word
    rw [← Word.words_toBytes_append, ← Word.words_append earlier, fill, List.flatMap_append,
      List.flatMap_cons, segment]
    simp only [List.append_assoc]
  have sums := congrArg UInt32.toNat same
  rw [toNat_checksum (isEncodable_fill encodable new), toNat_checksum encodable, words, words,
    Word.total_append_cons, Word.total_append_cons] at sums
  apply UInt32.toNat_inj.1
  have newBound := new.toNat_lt_size
  have oldBound := old.toNat_lt_size
  rw [UInt32.size] at sums newBound oldBound
  omega

end Gap

/-- Where the words stand that a checksum is about, and its own behind the last segment. -/
inductive IsWordAt (segments : List Segment) : Nat → Prop where
  | payload {count index : Nat} {segment : Segment} (next : segments[count]? = some segment)
      (inside : 4 * index < segment.payload.length) :
      IsWordAt segments (boundary segments count + 8 + 4 * index)
  | checksum : IsWordAt segments (boundary segments segments.length)

/-- A change of no bytes but the four from a position on. -/
structure ChangesAt (image : Bytes) (position : Nat) (changed : Bytes) : Prop where
  length : changed.length = image.length
  front : changed.take position = image.take position
  back : changed.drop (position + 4) = image.drop (position + 4)
  altered : changed ≠ image

theorem ChangesAt.exists_word {front back changed : Bytes} {old : UInt32}
    (changes : ChangesAt (front ++ (Word.toBytes old ++ back)) front.length changed) :
    ∃ new ≠ old, changed = front ++ (Word.toBytes new ++ back) := by
  have inside : front.length + 4 ≤ changed.length := by
    rw [changes.length, List.length_append, List.length_append, Word.length_toBytes]
    omega
  obtain ⟨start, new, rest, rfl, begins⟩ := Word.exists_word inside
  obtain ⟨startKept, restKept⟩ := Word.take_drop_around start new rest
  obtain ⟨frontKept, backKept⟩ := Word.take_drop_around front old back
  rw [begins] at startKept restKept
  obtain rfl : start = front := startKept.symm.trans (changes.front.trans frontKept)
  obtain rfl : rest = back := restKept.symm.trans (changes.back.trans backKept)
  exact ⟨new, fun same => changes.altered (by rw [same]), rfl⟩

theorem exists_gap {segments : List Segment}
    (encodable : ∀ segment ∈ segments, segment.IsEncodable) {count index : Nat} {segment : Segment}
    (next : segments[count]? = some segment) (inside : 4 * index < segment.payload.length) :
    ∃ (gap : Gap) (word : UInt32), segments = gap.fill word ∧ gap.before.length = 4 * index ∧
      gap.earlier = segments.take count := by
  obtain ⟨within, rfl⟩ := List.getElem?_eq_some_iff.1 next
  obtain ⟨whole, -⟩ := encodable _ (List.getElem_mem within)
  obtain ⟨before, word, behind, payload, size⟩ :=
    Word.exists_word (show 4 * index + 4 ≤ segments[count].payload.length by omega)
  refine ⟨⟨segments.take count, segments[count].address, before, behind, segments.drop (count + 1)⟩,
    word, ?_, size, rfl⟩
  rw [Gap.fill, Gap.segment, ← payload, ← List.drop_eq_getElem_cons within,
    List.take_append_drop]

theorem stored_of_checksumMatches {summary : Summary}
    (agrees : summary.checksumMatches = some true) : summary.stored = some summary.computed := by
  obtain ⟨word, stored, same⟩ := Option.map_eq_some_iff.1 agrees
  rw [stored, eq_of_beq same]

/-- Another word in a payload, or another checksum, leaves the table and is noticed. -/
theorem Summarizes.detects {image changed : Bytes} {summary : Summary} {segments : List Segment}
    (summarizes : Summarizes summary image segments) (agrees : summary.checksumMatches = some true)
    {position : Nat} (here : IsWordAt segments position)
    (changes : ChangesAt image position changed) :
    ∃ after, inspect changed .segmented = .ok after ∧ after.segments = summary.segments ∧
      after.checksumMatches = some false := by
  obtain ⟨encodable, ⟨control, trailer, ends, rfl⟩, table, computed⟩ := summarizes
  rw [← toNat_checksum encodable, UInt32.toNat_inj] at computed
  rw [stored_of_checksumMatches agrees, computed] at ends
  rw [table]
  cases ends
  cases here with
  | @payload count index segment next inside =>
    obtain ⟨gap, old, rfl, size, earlier⟩ := exists_gap encodable next inside
    obtain ⟨front, back, length, parts⟩ := gap.exists_encode_fill control
    have position : boundary (gap.fill old) count + 8 + 4 * index = front.length := by
      rw [length, size, boundary_eq_length, boundary_eq_length, List.take_length, earlier]
    rw [parts, position] at changes
    obtain ⟨new, other, rfl⟩ := changes.exists_word
    rw [← parts]
    refine ⟨_, inspect_body (Gap.isEncodable_fill encodable new) control (.checksum _),
      gap.entries_fill new old, ?_⟩
    have noticed := mt (Gap.checksum_fill_inj encodable ⟨index, size⟩) other
    exact congrArg some (beq_eq_false_iff_ne.2 (Ne.symm noticed))
  | checksum =>
    have position : boundary segments segments.length =
        (header control ++ segments.flatMap encodeSegment).length := by
      rw [boundary_eq_length, List.take_length, List.length_append]
      rfl
    rw [position, ← List.append_nil (Word.toBytes _)] at changes
    obtain ⟨new, other, rfl⟩ := changes.exists_word
    rw [List.append_nil]
    exact ⟨_, inspect_body encodable control (.checksum new), rfl,
      congrArg some (beq_eq_false_iff_ne.2 other)⟩

/-- Plain images have no checksum. -/
theorem decode_simple (image : Bytes) :
    ∃ segments, decode image .simple = .ok (segments, none) := by
  rw [decode_of_open rfl]
  by_cases empty : image = []
  · subst empty
    rw [Reader.drain_of_none rfl]
    exact ⟨[], rfl⟩
  · have first : Reader.next ⟨.simple, image.length, image, 0, none, false⟩ =
        (some (.ok ⟨0, image⟩), ⟨.simple, image.length, [], image.length, none, true⟩) := by
      simp [Reader.next, empty]
    rw [Reader.drain_of_segment first, Reader.drain_of_none rfl]
    exact ⟨[⟨0, image⟩], rfl⟩

theorem format_of_checksumMatches {image : Bytes} {format : Format} {summary : Summary}
    (inspected : inspect image format = .ok summary)
    (agrees : summary.checksumMatches = some true) : format = .segmented := by
  cases format with
  | segmented => rfl
  | simple =>
    obtain ⟨segments, read⟩ := decode_simple image
    rw [inspect, read] at inspected
    cases inspected
    cases agrees

/-- The checksum of an image is the sum of its payload words, whatever segments they are in; an
image that stores this sum is found right, and every other word in its place or in the place of one
of the payload words is found wrong, while the table of the image stays what it was. -/
theorem checksum_detects_changed_word (image : Bytes) :
    (∀ summary, inspect image .segmented = .ok summary →
      ∃ segments, Summarizes summary image segments) ∧
    (∀ control segments, (∀ segment ∈ segments, segment.IsEncodable) →
      let sum := UInt32.ofNat (Word.total (Word.words (segments.flatMap Segment.payload)))
      ∃ summary, inspect (encode control segments (some sum)) .segmented = .ok summary ∧
        summary.checksumMatches = some true) ∧
    ∀ format summary, inspect image format = .ok summary → summary.checksumMatches = some true →
      format = .segmented ∧
      ∀ segments, Summarizes summary image segments →
        ∀ position changed, IsWordAt segments position → ChangesAt image position changed →
          ∃ after, inspect changed format = .ok after ∧ after.segments = summary.segments ∧
            after.checksumMatches = some false := by
  refine ⟨fun summary => exists_summarizes, fun control segments encodable => ?_,
    fun format summary inspected agrees => ?_⟩
  · refine ⟨_, inspect_body encodable control (.checksum _), ?_⟩
    have same : checksum segments =
        UInt32.ofNat (Word.total (Word.words (segments.flatMap Segment.payload))) := by
      rw [← UInt32.toNat_inj, toNat_checksum encodable, UInt32.toNat_ofNat']
    exact congrArg some (beq_iff_eq.2 same.symm)
  · obtain rfl := format_of_checksumMatches inspected agrees
    exact ⟨rfl, fun segments summarizes _ _ => summarizes.detects agrees⟩

/-- The last word of the second of two payloads, with its bytes in reverse. -/
theorem checksum_detects_changed_word_in_second_segment :
    let segments (word : UInt32) : List Segment :=
      [⟨0x1000, [255, 255, 255, 255]⟩, ⟨0x2000, [2, 0, 0, 0] ++ Word.toBytes word⟩]
    let image := encode 0x1C (segments 3) (some 4)
    let changed := encode 0x1C (segments 0x03000000) (some 4)
    ∃ summary, inspect image .segmented = .ok summary ∧ summary.checksumMatches = some true ∧
      ∃ after, inspect changed .segmented = .ok after ∧ after.segments = summary.segments ∧
        after.checksumMatches = some false := by
  intro segments image changed
  have encodable : ∀ segment ∈ segments 3, segment.IsEncodable := by
    intro segment member
    simp only [segments, List.mem_cons, List.not_mem_nil, or_false] at member
    rcases member with rfl | rfl <;> exact ⟨by decide, by decide⟩
  have sum : UInt32.ofNat (Word.total (Word.words ((segments 3).flatMap Segment.payload))) = 4 := by
    decide
  have stores := (checksum_detects_changed_word image).2.1 0x1C (segments 3) encodable
  rw [sum] at stores
  obtain ⟨summary, inspected, agrees⟩ := stores
  have summarizes : Summarizes summary image (segments 3) := by
    cases inspected.symm.trans (inspect_body encodable 0x1C (.checksum 4))
    exact ⟨encodable, ⟨0x1C, _, .checksum 4, rfl⟩, rfl, toNat_checksum encodable⟩
  have here : IsWordAt (segments 3) (boundary (segments 3) 1 + 8 + 4 * 1) :=
    .payload rfl (by decide)
  have changes : ChangesAt image 28 changed := ⟨rfl, by decide, by decide, by decide⟩
  exact ⟨summary, inspected, agrees,
    ((checksum_detects_changed_word image).2.2 .segmented summary inspected agrees).2
      (segments 3) summarizes 28 changed here changes⟩

end Image

end AnalyzerBoot
