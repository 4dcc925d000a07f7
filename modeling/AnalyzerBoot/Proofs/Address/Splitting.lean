import AnalyzerBoot.Upload.Plan

/-!
Addresses in two halves. Splitting a word and putting its halves together undo each other, so a
setup packet tells its address; the address at a distance above a base is their sum wherever that
fits 32 bits, and distances add up.
-/

set_option autoImplicit false

namespace AnalyzerBoot.Address

theorem ofWord_eq_masked (word : UInt32) :
    ofWord word = ⟨(word &&& 0xFFFF).toUInt16, (word >>> 16).toUInt16⟩ := by
  have masked : (word &&& 0xFFFF).toNat = word.toNat % 2 ^ 16 :=
    Nat.and_two_pow_sub_one_eq_mod word.toNat 16
  have shifted : (word >>> 16).toNat = word.toNat / 65536 :=
    Nat.shiftRight_eq_div_pow word.toNat 16
  rw [ofWord, Address.mk.injEq]
  constructor
  · apply UInt16.toNat_inj.1
    rw [UInt16.toNat_ofNat', UInt32.toNat_toUInt16, masked, Nat.mod_mod]
  · apply UInt16.toNat_inj.1
    rw [UInt16.toNat_ofNat', UInt32.toNat_toUInt16, shifted]

theorem toWord_eq_joined (address : Address) :
    address.toWord = address.high.toUInt32 <<< 16 ||| address.low.toUInt32 := by
  have joined : address.high.toNat <<< 16 + address.low.toNat =
      address.high.toNat <<< 16 ||| address.low.toNat :=
    Nat.shiftLeft_add_eq_or_of_lt address.low.toNat_lt _
  have bound := address.high.toNat_lt
  apply UInt32.toNat_inj.1
  rw [toNat_toWord]
  simp only [UInt32.toNat_or, UInt32.toNat_shiftLeft, UInt16.toNat_toUInt32]
  change _ = address.high.toNat <<< 16 % 2 ^ 32 ||| address.low.toNat
  rw [Nat.mod_eq_of_lt (by rw [Nat.shiftLeft_eq]; omega), ← joined, Nat.shiftLeft_eq]
  omega

@[simp] theorem ofWord_toWord (address : Address) : ofWord address.toWord = address := by
  obtain ⟨low, high⟩ := address
  have lowBound := low.toNat_lt
  have highBound := high.toNat_lt
  simp only [ofWord, toNat_toWord, Address.mk.injEq]
  constructor
  · apply UInt16.toNat_inj.1
    rw [UInt16.toNat_ofNat']
    omega
  · apply UInt16.toNat_inj.1
    rw [UInt16.toNat_ofNat']
    omega

section
variable {base : UInt32} {offset : Nat}

/-- The address above a base is the one that the sum stands for. -/
theorem above_eq_ok_iff {address : Address} :
    above base offset = .ok address ↔ address.toWord.toNat = base.toNat + offset := by
  rw [above_eq]
  constructor
  · intro found
    split at found
    · next fits =>
      cases found
      rw [toWord_ofWord, UInt32.toNat_ofNat_of_lt' fits]
    · cases found
  · intro sum
    rw [← sum, if_pos address.toWord.toNat_lt, UInt32.ofNat_toNat, ofWord_toWord]

theorem above_of_overflow (past : UInt32.size ≤ base.toNat + offset) :
    above base offset = .error (.addressOverflow base offset) := by
  rw [above_eq, if_neg (Nat.not_lt.2 past)]

theorem exists_above_iff :
    (∃ address, above base offset = .ok address) ↔ base.toNat + offset < UInt32.size := by
  constructor
  · rintro ⟨address, found⟩
    rw [← above_eq_ok_iff.1 found]
    exact address.toWord.toNat_lt
  · intro fits
    exact ⟨_, by rw [above_eq, if_pos fits]⟩

/-- Distances add up; an overflow is reported from the base from which the address was asked. -/
theorem above_add {address : Address} (found : above base offset = .ok address) (more : Nat) :
    above base (offset + more) =
      (above address.toWord more).mapError fun _ => .addressOverflow base (offset + more) := by
  have sum := above_eq_ok_iff.1 found
  by_cases fits : base.toNat + (offset + more) < UInt32.size
  · obtain ⟨last, reached⟩ := exists_above_iff.2 fits
    have same : above address.toWord more = .ok last := by
      rw [above_eq_ok_iff, above_eq_ok_iff.1 reached, sum, Nat.add_assoc]
    rw [reached, same]
    rfl
  · have past := Nat.not_lt.1 fits
    rw [above_of_overflow past, above_of_overflow (by rw [sum, Nat.add_assoc]; exact past)]
    rfl

end

/-- A setup packet carries both halves, so it is shared by no other address. -/
theorem eq_of_packet {first second : UInt32} {data other : Bytes}
    (value : (Upload.writeTransfer (ofWord first) data).value =
      (Upload.writeTransfer (ofWord second) other).value)
    (index : (Upload.writeTransfer (ofWord first) data).index =
      (Upload.writeTransfer (ofWord second) other).index) : first = second := by
  have same : ofWord first = ofWord second := by
    rw [Address.mk.injEq]
    exact ⟨value, index⟩
  rw [← toWord_ofWord first, same, toWord_ofWord]

/-- Addresses are split without loss: a word has the two halves that masking and shifting yield, and
is put together from them again. An address above a base exists just if the sum fits 32 bits, and is
that sum; else base and distance are reported as they were asked for. -/
theorem splitting_is_checked_bijection :
    (∀ (base : UInt32) (offset : Nat),
      ((∃ address, above base offset = .ok address) ↔ base.toNat + offset < UInt32.size) ∧
      (∀ address, above base offset = .ok address →
        address.toWord.toNat = base.toNat + offset) ∧
      (UInt32.size ≤ base.toNat + offset →
        above base offset = .error (.addressOverflow base offset))) ∧
    (∀ word : UInt32,
      ofWord word = ⟨(word &&& 0xFFFF).toUInt16, (word >>> 16).toUInt16⟩ ∧
      (ofWord word).toWord = word) ∧
    (∀ low high : UInt16,
      toWord ⟨low, high⟩ = high.toUInt32 <<< 16 ||| low.toUInt32 ∧
      ofWord (toWord ⟨low, high⟩) = ⟨low, high⟩) ∧
    (∀ (first second : UInt32) (data other : Bytes), first ≠ second →
      let packet := Upload.writeTransfer (ofWord first) data
      let against := Upload.writeTransfer (ofWord second) other
      ¬(packet.value = against.value ∧ packet.index = against.index)) ∧
    ∀ (base : UInt32) (offset more : Nat) (address : Address), above base offset = .ok address →
      above base (offset + more) =
        (above address.toWord more).mapError fun _ => .addressOverflow base (offset + more) := by
  refine ⟨fun base offset => ⟨exists_above_iff, fun _ => above_eq_ok_iff.1, above_of_overflow⟩,
    fun word => ⟨ofWord_eq_masked word, toWord_ofWord word⟩,
    fun low high => ⟨toWord_eq_joined _, ofWord_toWord _⟩, ?_, ?_⟩
  · intro first second data other distinct packet against same
    exact distinct (eq_of_packet same.1 same.2)
  · intro base offset more address found
    exact above_add found more

/-- One byte further the carry reaches the high half; a page below the end there is no room left. -/
theorem splitting_is_checked_bijection_across_halves :
    above 0xF000 0xFFF = .ok ⟨0xFFFF, 0⟩ ∧
      above 0xF000 (0xFFF + 1) =
        (above (toWord ⟨0xFFFF, 0⟩) 1).mapError (fun _ => .addressOverflow 0xF000 (0xFFF + 1)) ∧
      (∃ address, above 0xF000 (0xFFF + 1) = .ok address ∧ address.toWord.toNat = 0x10000) ∧
      UInt32.size ≤ (0xFFFFF000 : UInt32).toNat + 0x1000 ∧
      above 0xFFFFF000 0x1000 = .error (.addressOverflow 0xFFFFF000 0x1000) := by
  obtain ⟨checked, -, -, -, sums⟩ := splitting_is_checked_bijection
  have below : above 0xF000 0xFFF = .ok ⟨0xFFFF, 0⟩ := above_eq_ok_iff.2 (by decide)
  obtain ⟨address, found⟩ := (checked 0xF000 (0xFFF + 1)).1.2 (by decide)
  have past : UInt32.size ≤ (0xFFFFF000 : UInt32).toNat + 0x1000 := by decide
  exact ⟨below, sums _ _ _ _ below, ⟨address, found, (checked _ _).2.1 address found⟩, past,
    (checked _ _).2.2 past⟩

end AnalyzerBoot.Address
