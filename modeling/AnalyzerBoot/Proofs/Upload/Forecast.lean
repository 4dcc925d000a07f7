import AnalyzerBoot.Proofs.Upload.Loading
import Mathlib.Data.List.SplitLengths

/-!
The table of an image as a forecast of its upload. Each entry takes a number of transfers that its
length decides, as long as the last of them can be addressed; where all entries do, an image is sent
exactly as its table says, and where it cannot be inspected, it cannot be sent for the same reason,
unless an address overflows before that.
-/

set_option autoImplicit false

namespace AnalyzerBoot.Upload

/-- How many transfers a segment of some length takes: one at least, and one for each chunk. -/
def transferCount (length : Nat) : Nat :=
  max 1 ((length + Chip.chunkSize - 1) / Chip.chunkSize)

/-- The last transfer for an entry has an address of 32 bits. -/
def Fits (entry : UInt32 × Nat) : Prop :=
  entry.1.toNat + Chip.chunkSize * (transferCount entry.2 - 1) < UInt32.size

theorem fits_entry_iff (segment : Segment) :
    Fits segment.entry ↔ segment.IsAddressable Chip.chunkSize := by
  rw [Fits, Nat.mul_comm]
  rfl

theorem forall_fits_iff (segments : List Segment) :
    (∀ entry ∈ segments.map Segment.entry, Fits entry) ↔
      ∀ segment ∈ segments, segment.IsAddressable Chip.chunkSize := by
  simp only [List.forall_mem_map, fits_entry_iff]

theorem byteCount_map_transfer (chunks : List Chunk) :
    byteCount (chunks.map Chunk.transfer) = (chunks.flatMap Chunk.data).length := by
  induction chunks with
  | nil => rfl
  | cons chunk rest ih =>
    rw [List.map_cons, byteCount_cons, ih, List.flatMap_cons, List.length_append]
    rfl

section
variable {segment : Segment}

/-- A segment that is planned whole is the row of its slices. -/
theorem transfers_ofSegment (addressable : segment.IsAddressable Chip.chunkSize) :
    (Plan.ofSegment segment).transfers =
      ((List.range (segment.sliceCount Chip.chunkSize)).map
        (segment.slice Chip.chunkSize)).map Chunk.transfer := by
  rw [← Segment.slices_of_isAddressable addressable]
  rfl

theorem length_ofSegment (addressable : segment.IsAddressable Chip.chunkSize) :
    (Plan.ofSegment segment).transfers.length = transferCount segment.payload.length := by
  rw [transfers_ofSegment addressable, List.length_map, List.length_map, List.length_range]
  rfl

theorem byteCount_ofSegment (addressable : segment.IsAddressable Chip.chunkSize) :
    byteCount (Plan.ofSegment segment).transfers = segment.payload.length := by
  rw [transfers_ofSegment addressable, byteCount_map_transfer,
    Segment.flatMap_data_slices segment (by decide)]

theorem head_ofSegment (addressable : segment.IsAddressable Chip.chunkSize) :
    (Plan.ofSegment segment).transfers.head?.map Usb.Transfer.address = some segment.address := by
  have first : (List.range (segment.sliceCount Chip.chunkSize)).head? = some 0 := by
    rw [List.head?_range, if_neg (Nat.ne_of_gt (segment.sliceCount_pos _))]
  have address : (segment.slice Chip.chunkSize 0).transfer.address = segment.address := by
    change Address.toWord (.ofWord (UInt32.ofNat (segment.sliceAddress Chip.chunkSize 0))) = _
    rw [Address.toWord_ofWord, Segment.sliceAddress_zero, UInt32.ofNat_toNat]
  rw [transfers_ofSegment addressable, List.head?_map, List.head?_map, first, Option.map_some,
    Option.map_some, Option.map_some, address]

end

/-- A row of groups is cut into them again by their lengths. -/
theorem splitLengths_flatMap {α β : Type} (group : α → List β) (members : List α) :
    (members.map fun member => (group member).length).splitLengths (members.flatMap group) =
      members.map group := by
  induction members with
  | nil => rfl
  | cons member rest ih =>
    rw [List.map_cons, List.flatMap_cons, List.splitLengths_cons, List.take_left, List.drop_left,
      ih, List.map_cons]

variable {segments : List Segment}

theorem byteCount_flatMap
    (addressable : ∀ segment ∈ segments, segment.IsAddressable Chip.chunkSize) :
    byteCount (segments.flatMap fun segment => (Plan.ofSegment segment).transfers) =
      (segments.map Segment.entry).foldr (fun (_, length) rest => length + rest) 0 := by
  induction segments with
  | nil => rfl
  | cons segment rest ih =>
    obtain ⟨first, others⟩ := List.forall_mem_cons.1 addressable
    rw [List.flatMap_cons, byteCount_append, byteCount_ofSegment first, ih others]
    rfl

theorem map_length_ofSegment
    (addressable : ∀ segment ∈ segments, segment.IsAddressable Chip.chunkSize) :
    (segments.map fun segment => (Plan.ofSegment segment).transfers.length) =
      (segments.map Segment.entry).map fun entry => transferCount entry.2 := by
  rw [List.map_map]
  apply List.map_congr_left
  intro segment member
  exact length_ofSegment (addressable segment member)

/-- Cut into the groups that their counts announce, the transfers of a plan are its table. -/
theorem groups_ofSegments
    (addressable : ∀ segment ∈ segments, segment.IsAddressable Chip.chunkSize) :
    ((((segments.map Segment.entry).map fun entry => transferCount entry.2).splitLengths
        (segments.flatMap fun segment => (Plan.ofSegment segment).transfers)).map
      fun group => (group.head?.map Usb.Transfer.address, byteCount group)) =
      (segments.map Segment.entry).map fun entry => (some entry.1, entry.2) := by
  rw [← map_length_ofSegment addressable, splitLengths_flatMap, List.map_map, List.map_map]
  apply List.map_congr_left
  intro segment member
  have here := addressable segment member
  exact Prod.ext (head_ofSegment here) (byteCount_ofSegment here)

/-- A plan is carried out to its end if nothing is wrong with the image or with its addresses. -/
theorem outcome_ofSegments_eq_ok_iff (segments : List Segment) (fault : Option BringupError)
    (total : Nat) :
    (Plan.ofSegments segments fault).outcome none = .ok total ↔
      fault = none ∧ (∀ entry ∈ segments.map Segment.entry, Fits entry) ∧
        total = (segments.map Segment.entry).foldr (fun (_, length) rest => length + rest) 0 := by
  rw [Plan.outcome_none_eq_ok_iff, Plan.error_ofSegments_eq_none_iff, forall_fits_iff, and_assoc]
  apply and_congr_right
  rintro rfl
  apply and_congr_right
  intro addressable
  rw [Plan.ofSegments_of_addressable addressable, byteCount_flatMap addressable]

theorem outcome_ofSegments_of_fault (error : BringupError)
    (addressable : ∀ segment ∈ segments, segment.IsAddressable Chip.chunkSize) :
    (Plan.ofSegments segments (some error)).outcome none = .error error := by
  rw [Plan.ofSegments_of_addressable addressable]
  rfl

/-- The first address that overflows ends a plan, whatever the rest of the image is like. -/
theorem outcome_ofSegments_of_overflow {front : List Segment} {segment : Segment}
    (addressable : ∀ segment ∈ front, segment.IsAddressable Chip.chunkSize)
    (overflows : ¬ segment.IsAddressable Chip.chunkSize) (back : List Segment)
    (fault : Option BringupError) :
    ∃ index, (Plan.ofSegments (front ++ segment :: back) fault).outcome none =
        .error (.addressOverflow segment.address (index * Chip.chunkSize)) ∧
      UInt32.size ≤ segment.address.toNat + index * Chip.chunkSize ∧
      ∀ earlier < index, segment.address.toNat + earlier * Chip.chunkSize < UInt32.size := by
  obtain ⟨index, overflow, past, earlier⟩ := Segment.exists_sliceOverflow overflows
  have ended := Plan.error_ofSegments_of_overflow addressable overflows back fault
  rw [overflow] at ended
  exact ⟨index, Plan.outcome_none_of_ended ended, past, earlier⟩

variable {σ η : Type} [Usb.Bus σ η] {handle : η}

/-- On a device that takes every transfer, an upload succeeds exactly if the image can be inspected
and all entries of its table can be addressed; it then sends the bytes of the table, in the groups
of transfers that the table announces. If the image cannot be inspected the upload fails with the
same error, and with an overflow of its address if an earlier segment has one. -/
theorem inspect_forecasts_upload (recipient : Usb.Recipient σ handle) (image : Bytes)
    (format : Image.Format) (host : Host σ) (faultless : recipient.fault host.bus = none) :
    let run := (uploadImage handle image format).run host
    ∃ sent, recipient.accepted run.2.bus = recipient.accepted host.bus ++ sent ∧
      (∀ total, run.1 = .ok total ↔
        ∃ summary, Image.inspect image format = .ok summary ∧
          (∀ entry ∈ summary.segments, Fits entry) ∧ total = summary.payloadBytes) ∧
      (∀ total summary, run.1 = .ok total → Image.inspect image format = .ok summary →
        let counts := summary.segments.map fun entry => transferCount entry.2
        sent.length = counts.foldr (· + ·) 0 ∧
        ((counts.splitLengths sent).map fun group =>
            (group.head?.map Usb.Transfer.address, byteCount group)) =
          summary.segments.map fun entry => (some entry.1, entry.2)) ∧
      (∀ error, Image.inspect image format = .error error →
        (∀ segment ∈ Image.readable image format, Fits segment.entry) → run.1 = .error error) ∧
      (∀ front segment back, Image.readable image format = front ++ segment :: back →
        (∀ earlier ∈ front, Fits earlier.entry) → ¬ Fits segment.entry →
        ∃ index, run.1 = .error (.addressOverflow segment.address (index * Chip.chunkSize)) ∧
          UInt32.size ≤ segment.address.toNat + index * Chip.chunkSize ∧
          ∀ earlier < index, segment.address.toNat + earlier * Chip.chunkSize < UInt32.size) := by
  intro run
  obtain ⟨ended, accepted⟩ := run_uploadImage_of_faultless recipient image format faultless
  obtain ⟨stored, inspected⟩ := Image.inspect_eq image format
  rw [Plan.ofImage_eq] at ended accepted
  change run.1 = _ at ended
  rw [inspected, ended]
  refine ⟨_, accepted, ?_, ?_, ?_, ?_⟩
  · intro total
    rw [outcome_ofSegments_eq_ok_iff]
    cases Image.fault? image format with
    | some error => simp
    | none =>
      constructor
      · rintro ⟨-, fitting, rfl⟩
        exact ⟨_, rfl, fitting, rfl⟩
      · rintro ⟨summary, ⟨⟩, fitting, rfl⟩
        exact ⟨rfl, fitting, rfl⟩
  · intro total summary succeeded found
    obtain ⟨whole, fitting, -⟩ := (outcome_ofSegments_eq_ok_iff _ _ _).1 succeeded
    have addressable := (forall_fits_iff _).1 fitting
    rw [whole] at found
    cases found
    rw [Plan.ofSegments_of_addressable addressable]
    refine ⟨?_, groups_ofSegments addressable⟩
    rw [List.length_flatMap, map_length_ofSegment addressable]
    rfl
  · intro error failed fitting
    have addressable := (forall_fits_iff _).1 (List.forall_mem_map.2 fitting)
    cases fault : Image.fault? image format with
    | none =>
      rw [fault] at failed
      cases failed
    | some found =>
      rw [fault] at failed
      cases failed
      exact outcome_ofSegments_of_fault _ addressable
  · intro front segment back split fitting unfit
    rw [fits_entry_iff] at unfit
    rw [split]
    have addressable := (forall_fits_iff _).1 (List.forall_mem_map.2 fitting)
    exact outcome_ofSegments_of_overflow addressable unfit back _

/-- A segment that reaches beyond the last address, in front of a truncated tail. -/
theorem inspect_forecasts_upload_of_earlier_overflow :
    let segment : Segment := ⟨0xFFFFF000, List.replicate 4100 0⟩
    let image := Image.header 0 ++ [segment].flatMap Image.encodeSegment ++ [1, 2]
    let handle : Usb.Handle := ⟨⟨⟨"1", 5, 0, 0, none⟩, ⟨"", "", ""⟩, false, false⟩, none⟩
    let run := (uploadImage handle image .segmented).run { bus := ({} : Usb.SimulatedBus) }
    Image.inspect image .segmented = .error (.truncatedImage 2 4114) ∧
      run.1 = .error (.addressOverflow 0xFFFFF000 4096) := by
  intro segment image handle run
  have size : segment.payload.length = 4100 := List.length_replicate
  have encodable : ∀ member ∈ [segment], member.IsEncodable := by
    intro member here
    rw [List.mem_singleton.1 here, Segment.IsEncodable, size]
    decide
  have broken : Image.Break [1, 2] [1, 2] := .short (by decide) (by decide) (by decide)
  have total : image.length = 4114 := by
    simp [image, Image.header, Image.encodeSegment, size, Chip.signature]
  have inspected : Image.inspect image .segmented = .error (.truncatedImage 2 4114) := by
    rw [Image.inspect, (Image.decode_body encodable 0 _).2 _ broken, ← total]
    rfl
  have read : Image.readable image .segmented = [] ++ segment :: [] := by
    simp only [Image.readable, image, List.append_assoc, Image.open?_header,
      Image.Reader.drain_break encodable broken]
    rfl
  have unfit : ¬ Fits segment.entry := by
    rw [Segment.entry, Fits, size]
    decide
  obtain ⟨sent, -, -, -, -, overflows⟩ :=
    inspect_forecasts_upload (Usb.SimulatedBus.recipient handle) image .segmented { bus := {} } rfl
  obtain ⟨index, ended, past, earlier⟩ := overflows [] segment [] read (by simp) unfit
  have second : index = 1 := by
    change 4294967296 ≤ 4294963200 + index * 4096 at past
    have notLater : ¬ 1 < index := by
      intro later
      have first := earlier 1 later
      change 4294963200 + 1 * 4096 < 4294967296 at first
      omega
    omega
  subst second
  exact ⟨inspected, ended⟩

end AnalyzerBoot.Upload
