import AnalyzerBoot.Proofs.Discovery.Firmware
import AnalyzerBoot.Proofs.Upload.Tiling

/-!
The transfers of a plain image: its chunks from address zero on, without gaps, so that each of its
bytes is written once. Main statements: `ofImage_plain`, `values_of_isPrefix`, `writesTo_plainRow`.
-/

set_option autoImplicit false

namespace AnalyzerBoot

namespace Usb.Transfer

/-- Whether a transfer, as a write to memory, has a byte for an address. -/
def Covers (transfer : Transfer) (place : Nat) : Prop :=
  transfer.address.toNat ≤ place ∧ place < transfer.address.toNat + transfer.data.length

/-- What a transfer writes to an address, if it covers that address. -/
def byteAt? (transfer : Transfer) (place : Nat) : Option UInt8 :=
  if transfer.address.toNat ≤ place then transfer.data[place - transfer.address.toNat]? else none

theorem byteAt?_eq_none_iff (transfer : Transfer) (place : Nat) :
    transfer.byteAt? place = none ↔ ¬ transfer.Covers place := by
  rw [byteAt?, Covers]
  split
  · rw [List.getElem?_eq_none_iff]
    omega
  · next before => exact iff_of_true rfl fun covers => before covers.1

end Usb.Transfer

namespace Upload

/-- The bytes that transfers write to an address, one after another. -/
def writesTo (place : Nat) (row : List Usb.Transfer) : List UInt8 :=
  row.filterMap (·.byteAt? place)

/-- The transfer of a plain image with a certain index. -/
def plainTransfer (image : Bytes) (index : Nat) : Usb.Transfer :=
  ((⟨0, image⟩ : Segment).slice Chip.chunkSize index).transfer

/-- All transfers of a plain image. -/
def plainRow (image : Bytes) : List Usb.Transfer :=
  (List.range (image.length ⌈/⌉ Chip.chunkSize)).map (plainTransfer image)

/-- All transfers of an upload of a plain image. -/
def bracketed (image : Bytes) : List Usb.Transfer :=
  resetTransfer true :: (plainRow image ++ [resetTransfer false])

section
variable {image : Bytes} {index place : Nat}

theorem lt_plainCount : index < image.length ⌈/⌉ Chip.chunkSize ↔
    index * Chip.chunkSize < image.length := by
  rw [Nat.ceilDiv_eq_add_pred_div]
  simp only [Chip.chunkSize]
  omega

theorem plainCount_eq (filled : image ≠ []) :
    image.length ⌈/⌉ Chip.chunkSize = (⟨0, image⟩ : Segment).sliceCount Chip.chunkSize := by
  have positive : 0 < image.length ⌈/⌉ Chip.chunkSize := by
    rw [lt_plainCount, Nat.zero_mul]
    exact List.length_pos_iff.2 filled
  rw [Segment.sliceCount_eq_ceilDiv]
  exact (Nat.max_eq_right positive).symm

theorem flatMap_data_plainRow (image : Bytes) :
    (plainRow image).flatMap (·.data) = image := by
  by_cases empty : image = []
  · subst empty
    rfl
  · have whole := (⟨0, image⟩ : Segment).flatMap_data_slices (show 0 < Chip.chunkSize by decide)
    rw [← plainCount_eq empty, List.flatMap_map] at whole
    rw [plainRow, List.flatMap_map]
    exact whole

theorem sliceAddress_plain (image : Bytes) (index : Nat) :
    (⟨0, image⟩ : Segment).sliceAddress Chip.chunkSize index = index * Chip.chunkSize := by
  rw [Segment.sliceAddress, UInt32.toNat_zero, Nat.zero_add]

theorem toNat_address_plainTransfer (inside : index * Chip.chunkSize < UInt32.size) :
    (plainTransfer image index).address.toNat = index * Chip.chunkSize := by
  rw [← sliceAddress_plain image] at inside
  exact (Segment.toNat_address_slice inside).trans (sliceAddress_plain image index)

theorem halves_plainTransfer (inside : index * Chip.chunkSize < UInt32.size) :
    (plainTransfer image index).value.toNat = index * Chip.chunkSize % Chip.fx2MaxImageSize ∧
      (plainTransfer image index).index.toNat =
        index * Chip.chunkSize / Chip.fx2MaxImageSize := by
  have address : (plainTransfer image index).address.toNat = index * Chip.chunkSize :=
    toNat_address_plainTransfer inside
  have low := (plainTransfer image index).value.toNat_lt
  rw [Usb.Transfer.address, Address.toNat_toWord] at address
  simp only [Chip.fx2MaxImageSize]
  dsimp only at address
  omega

/-- Only one of the transfers of a plain image covers an address. -/
theorem byteAt?_plainTransfer (inside : index * Chip.chunkSize < UInt32.size) (place : Nat) :
    (plainTransfer image index).byteAt? place =
      if index = place / Chip.chunkSize then image[place]? else none := by
  have data : (plainTransfer image index).data =
      (image.drop (index * Chip.chunkSize)).take Chip.chunkSize := rfl
  have width : 0 < Chip.chunkSize := by decide
  rw [Usb.Transfer.byteAt?, toNat_address_plainTransfer inside, data]
  -- The address lies within the chunk, behind it, or in front of it.
  by_cases begun : index * Chip.chunkSize ≤ place
  · rw [if_pos begun]
    by_cases ended : place < (index + 1) * Chip.chunkSize
    · have here : index = place / Chip.chunkSize :=
        (Nat.div_eq_of_lt_le begun ended).symm
      rw [Nat.succ_mul] at ended
      rw [if_pos here, List.getElem?_take_of_lt (by omega), List.getElem?_drop,
        Nat.add_sub_cancel' begun]
    · have later : index + 1 ≤ place / Chip.chunkSize :=
        (Nat.le_div_iff_mul_le width).2 (Nat.not_lt.1 ended)
      rw [Nat.succ_mul] at ended
      rw [if_neg (by omega), List.getElem?_take_eq_none (by omega)]
  · have before : place / Chip.chunkSize < index :=
      (Nat.div_lt_iff_lt_mul width).2 (Nat.not_le.1 begun)
    rw [if_neg begun, if_neg (by omega)]

theorem filterMap_range_ite {α : Type} (count position : Nat) (member : Option α) :
    ((List.range count).filterMap fun index => if index = position then member else none) =
      if position < count then member.toList else [] := by
  induction count with
  | zero => rfl
  | succ count ih =>
    rw [List.range_succ, List.filterMap_append, ih, List.filterMap_cons, List.filterMap_nil]
    by_cases last : count = position
    · subst last
      cases member <;> simp
    · by_cases inside : position < count
      · simp [last, inside, Nat.lt_succ_of_lt inside]
      · have outside : ¬ position < count + 1 := by omega
        simp [last, inside, outside]

/-- An image writes its byte for an address to it once, if it has one. -/
theorem writesTo_plainRow (fits : image.length ≤ UInt32.size) (place : Nat) :
    writesTo place (plainRow image) = image[place]?.toList := by
  have each : ∀ index ∈ List.range (image.length ⌈/⌉ Chip.chunkSize),
      ((·.byteAt? place) ∘ plainTransfer image) index =
        if index = place / Chip.chunkSize then image[place]? else none := by
    intro index member
    have begins := lt_plainCount.1 (List.mem_range.1 member)
    exact byteAt?_plainTransfer (Nat.lt_of_lt_of_le begins fits) place
  rw [writesTo, plainRow, List.filterMap_map, List.filterMap_congr each, filterMap_range_ite]
  split
  · rfl
  · next beyond =>
    have past : image.length ≤ place := by
      rw [lt_plainCount] at beyond
      have := Nat.div_mul_le_self place Chip.chunkSize
      omega
    rw [List.getElem?_eq_none past]
    rfl

theorem ofImage_plain (fits : image.length ≤ UInt32.size) :
    Plan.ofImage image .simple = ⟨plainRow image, none⟩ := by
  by_cases empty : image = []
  · subst empty
    have nothing : Image.Reader.drain ⟨.simple, 0, [], 0, none, false⟩ = _ :=
      Image.Reader.drain_of_none rfl
    rw [Plan.ofImage, Image.open?]
    dsimp only [List.length_nil]
    rw [nothing]
    rfl
  · have addressable : (⟨0, image⟩ : Segment).IsAddressable Chip.chunkSize := by
      have last := Nat.sub_one_lt_of_lt (Segment.sliceCount_pos ⟨0, image⟩ Chip.chunkSize)
      rw [← plainCount_eq empty] at last
      rw [Segment.IsAddressable, sliceAddress_plain, ← plainCount_eq empty]
      exact Nat.lt_of_lt_of_le (lt_plainCount.1 last) fits
    rw [Plan.ofImage_simple empty,
      Plan.append_of_whole (Segment.sliceOverflow?_eq_none_iff.2 addressable), List.append_nil,
      Plan.ofSegment, Segment.slices_of_isAddressable addressable, ← plainCount_eq empty,
      List.map_map]
    rfl

theorem Plan.mem_append_of_mem {first : Plan} {transfer : Usb.Transfer}
    (planned : transfer ∈ first.transfers) (second : Plan) :
    transfer ∈ (first.append second).transfers := by
  rw [append]
  split
  · exact planned
  · exact List.mem_append_left _ planned

theorem Plan.error_of_verdict {plan : Plan} {refusal : Option Usb.Error} {error : BringupError}
    (failed : plan.verdict refusal = .error error) :
    (∃ reason, error = .transferFailed reason) ∨ plan.error = some error := by
  cases refusal with
  | some refused =>
    cases failed
    exact .inl ⟨_, rfl⟩
  | none =>
    cases ended : plan.error with
    | none =>
      rw [verdict, failure, ended] at failed
      cases failed
    | some reason =>
      rw [verdict, failure, ended] at failed
      cases failed
      exact .inr rfl

/-- A slice is planned if it and those in front of it can be addressed. -/
theorem slice_mem_slices {segment : Segment} {size : Nat} (inside : index < segment.sliceCount size)
    (fits : segment.sliceAddress size index < UInt32.size) :
    segment.slice size index ∈ segment.slices size := by
  obtain ⟨behind, count⟩ := Nat.exists_eq_add_of_le inside
  have front : ∀ earlier ∈ List.range (index + 1),
      decide (segment.sliceAddress size earlier < UInt32.size) = true := by
    intro earlier member
    refine decide_eq_true (Nat.lt_of_le_of_lt (Nat.add_le_add_left ?_ _) fits)
    exact Nat.mul_le_mul_right size (Nat.le_of_lt_succ (List.mem_range.1 member))
  rw [Segment.slices, count, List.range_add, List.takeWhile_append_of_pos front, List.map_append]
  refine List.mem_append_left _ (List.mem_map_of_mem ?_)
  exact List.mem_range.2 (Nat.lt_succ_self index)

/-- An image beyond the limit has a transfer that needs the high half of addresses. -/
theorem exists_high_of_long (long : Chip.fx2MaxImageSize < image.length) :
    ∃ transfer ∈ (Plan.ofImage image .simple).transfers, transfer.index = 1 := by
  have filled : image ≠ [] := List.ne_nil_of_length_pos (Nat.zero_lt_of_lt long)
  -- The chunk behind the first sixteen is the first one with such an address.
  have inside : 16 < (⟨0, image⟩ : Segment).sliceCount Chip.chunkSize := by
    rw [← plainCount_eq filled, lt_plainCount]
    exact long
  have fits : (⟨0, image⟩ : Segment).sliceAddress Chip.chunkSize 16 < UInt32.size := by
    rw [sliceAddress_plain]
    decide
  refine ⟨plainTransfer image 16, ?_, ?_⟩
  · rw [Plan.ofImage_simple filled]
    exact Plan.mem_append_of_mem (List.mem_map_of_mem (slice_mem_slices inside fits)) _
  · rw [← UInt16.toNat_inj]
    exact (halves_plainTransfer (by decide)).2

/-- The transfers of an upload that are no switches of the reset. -/
def firmwareOf (row : List Usb.Transfer) : List Usb.Transfer :=
  row.filter (·.value != Chip.resetRegister)

theorem exists_of_mem_plainRow (fits : image.length ≤ Chip.fx2MaxImageSize)
    {transfer : Usb.Transfer} (planned : transfer ∈ plainRow image) :
    ∃ index, transfer.value.toNat = index * Chip.chunkSize ∧ transfer.index = 0 := by
  obtain ⟨index, member, rfl⟩ := List.mem_map.1 planned
  have inside : index * Chip.chunkSize < Chip.fx2MaxImageSize :=
    Nat.lt_of_lt_of_le (lt_plainCount.1 (List.mem_range.1 member)) fits
  obtain ⟨low, high⟩ := @halves_plainTransfer image index (Nat.lt_trans inside (by decide))
  rw [Nat.mod_eq_of_lt inside] at low
  rw [Nat.div_eq_of_lt inside] at high
  exact ⟨index, low, UInt16.toNat_inj.1 high⟩

theorem firmwareOf_bracketed (fits : image.length ≤ Chip.fx2MaxImageSize) :
    firmwareOf (bracketed image) = plainRow image := by
  have each : ∀ transfer ∈ plainRow image, (transfer.value != Chip.resetRegister) = true := by
    intro transfer planned
    obtain ⟨index, low, -⟩ := exists_of_mem_plainRow fits planned
    rw [bne_iff_ne]
    rintro same
    rw [same] at low
    -- Chunks begin at multiples of their size, of which the register's address is none.
    have divides : Chip.chunkSize ∣ Chip.resetRegister.toNat := ⟨index, by rw [low, Nat.mul_comm]⟩
    exact absurd divides (by decide)
  rw [firmwareOf, bracketed, List.filter_cons_of_neg (by decide), List.filter_append,
    List.filter_eq_self.2 each, List.filter_cons_of_neg (by decide), List.filter_nil,
    List.append_nil]

theorem index_of_mem_bracketed (fits : image.length ≤ Chip.fx2MaxImageSize)
    {transfer : Usb.Transfer} (planned : transfer ∈ bracketed image) : transfer.index = 0 := by
  rw [bracketed, List.mem_cons, List.mem_append, List.mem_singleton] at planned
  obtain rfl | planned | rfl := planned
  · rfl
  · obtain ⟨index, -, high⟩ := exists_of_mem_plainRow fits planned
    exact high
  · rfl

/-- What a fault leaves of the transfers of a plain image are those with the lowest addresses. -/
theorem values_of_isPrefix (fits : image.length ≤ Chip.fx2MaxImageSize) {row : List Usb.Transfer}
    (front : row <+: plainRow image) :
    row.length ≤ 16 ∧
      row.map (·.value.toNat) = (List.range row.length).map (· * Chip.chunkSize) := by
  have fewer : row.length ≤ image.length ⌈/⌉ Chip.chunkSize := by
    simpa [plainRow] using front.length_le
  have few : ¬ 16 < image.length ⌈/⌉ Chip.chunkSize := by
    rw [lt_plainCount]
    exact Nat.not_lt.2 fits
  have first : row = (List.range row.length).map (plainTransfer image) := by
    have cut := List.prefix_iff_eq_take.1 front
    rwa [plainRow, ← List.map_take, List.take_range, Nat.min_eq_left fewer] at cut
  refine ⟨Nat.le_trans fewer (Nat.not_lt.1 few), ?_⟩
  rw [first, List.map_map, List.length_map, List.length_range]
  refine List.map_congr_left fun index member => ?_
  have begins := lt_plainCount.1 (Nat.lt_of_lt_of_le (List.mem_range.1 member) fewer)
  have inside := Nat.lt_of_lt_of_le begins fits
  exact (halves_plainTransfer (Nat.lt_trans inside (by decide))).1.trans (Nat.mod_eq_of_lt inside)

theorem data_of_isPrefix {row : List Usb.Transfer} (front : row <+: plainRow image) :
    row.flatMap (·.data) <+: image := by
  obtain ⟨back, whole⟩ := front
  refine ⟨back.flatMap (·.data), ?_⟩
  rw [← List.flatMap_append, whole, flatMap_data_plainRow]

theorem writesTo_bracketed (fits : image.length ≤ UInt32.size) :
    writesTo Chip.resetRegister.toNat (bracketed image) =
      1 :: (image[Chip.resetRegister.toNat]?.toList ++ [0]) := by
  have switch (asserted : Bool) :
      (resetTransfer asserted).byteAt? Chip.resetRegister.toNat =
        some (if asserted then 1 else 0) := by
    cases asserted <;> rfl
  have writes := writesTo_plainRow fits Chip.resetRegister.toNat
  rw [writesTo] at writes
  rw [writesTo, bracketed, List.filterMap_cons, switch, List.filterMap_append, writes,
    List.filterMap_cons, switch]
  rfl

end

end Upload

end AnalyzerBoot
