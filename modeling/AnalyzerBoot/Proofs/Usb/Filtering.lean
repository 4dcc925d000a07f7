import AnalyzerBoot.Proofs.Text.Numerals
import AnalyzerBoot.Record
import AnalyzerBoot.Usb.Filter
import Mathlib.Data.List.TakeWhile

/-!
The two notations of filters, and what a filter of either accepts. Four digits on both sides of a
dot are identifiers; an address has three at most where it is printed, so printing never moves a
filter from one notation to the other.
-/

set_option autoImplicit false

namespace AnalyzerBoot.Usb

open Text

/-- The same bus, by name or because both names are the same number of 32 bits. -/
def SameBus (one other : String) : Prop :=
  one = other ∨ ∃ n, IsBounded (UInt32.size - 1) one.toList n ∧
    IsBounded (UInt32.size - 1) other.toList n

theorem SameBus.symm {one other : String} (same : SameBus one other) : SameBus other one := by
  rcases same with rfl | ⟨n, first, second⟩
  · exact .inl rfl
  · exact .inr ⟨n, second, first⟩

theorem SameBus.trans {one two three : String} (first : SameBus one two)
    (second : SameBus two three) : SameBus one three := by
  rcases first with rfl | ⟨m, left, middle⟩
  · exact second
  · rcases second with rfl | ⟨n, again, right⟩
    · exact .inr ⟨m, left, middle⟩
    · exact .inr ⟨m, left, middle.unique again ▸ right⟩

namespace Filter

theorem toList_toString (n : Nat) : (toString n).toList = Nat.toDigits 10 n := by
  rw [Nat.toString_eq_ofList_toDigits, String.toList_ofList]

section
variable {busId : String}

theorem canonicalBus_of_number {n : Nat} (number : IsBounded (UInt32.size - 1) busId.toList n) :
    canonicalBus busId = toString n := by
  rw [canonicalBus, readBounded?_eq_some.2 number]

theorem canonicalBus_of_other (other : ∀ n, ¬ IsBounded (UInt32.size - 1) busId.toList n) :
    canonicalBus busId = busId := by
  cases read : readBounded? (UInt32.size - 1) busId.toList with
  | none => rw [canonicalBus, read]
  | some n => exact absurd (readBounded?_eq_some.1 read) (other n)

theorem sameBus_canonicalBus (busId : String) : SameBus (canonicalBus busId) busId := by
  by_cases number : ∃ n, IsBounded (UInt32.size - 1) busId.toList n
  · obtain ⟨n, number⟩ := number
    refine .inr ⟨n, ⟨number.1, .inl ?_⟩, number⟩
    rw [canonicalBus_of_number number, toList_toString]
    exact isNumeral_toDigits n
  · exact .inl (canonicalBus_of_other (not_exists.1 number))

/-- Canonical names are equal exactly for names of the same bus. -/
theorem canonicalBus_eq_iff {one other : String} :
    canonicalBus one = canonicalBus other ↔ SameBus one other := by
  constructor
  · intro same
    have left := sameBus_canonicalBus one
    rw [same] at left
    exact left.symm.trans (sameBus_canonicalBus other)
  · rintro (rfl | ⟨n, first, second⟩)
    · rfl
    · rw [canonicalBus_of_number first, canonicalBus_of_number second]

theorem canonicalBus_canonicalBus (busId : String) :
    canonicalBus (canonicalBus busId) = canonicalBus busId :=
  canonicalBus_eq_iff.2 (sameBus_canonicalBus busId)

theorem canonicalBus_of_numeral {n : Nat} (numeral : IsNumeral busId.toList n) :
    canonicalBus busId = if n < UInt32.size then toString n else busId := by
  split
  · next small => exact canonicalBus_of_number ⟨Nat.le_sub_one_of_lt small, .inl numeral⟩
  · next large =>
    refine canonicalBus_of_other ?_
    rintro m ⟨small, same | ⟨digits, signed, -⟩⟩
    · obtain rfl := same.value.symm.trans numeral.value
      exact large (Nat.lt_of_le_sub_one (by decide) small)
    · exact not_isNumeral_plus digits n (signed ▸ numeral)

theorem canonicalBus_ofList {digits : List Char} {n : Nat} (numeral : IsNumeral digits n) :
    canonicalBus (String.ofList digits) =
      if n < UInt32.size then toString n else String.ofList digits :=
  canonicalBus_of_numeral (String.toList_ofList ▸ numeral)

theorem isNumeral_canonicalBus {n : Nat} (numeral : IsNumeral busId.toList n) :
    IsNumeral (canonicalBus busId).toList n := by
  rw [canonicalBus_of_numeral numeral]
  split
  · rw [toList_toString]
    exact isNumeral_toDigits n
  · exact numeral

end

/-! Reading -/

/-- The four digits of an identifier, in either case. -/
def IsIdentifier (digits : List Char) (id : UInt16) : Prop :=
  digits.length = 4 ∧ IsHexNumeral digits id.toNat

/-- A text parted at its first dot. -/
def IsSplit (text left right : List Char) : Prop :=
  text = left ++ '.' :: right ∧ '.' ∉ left

/-- The filter that a text stands for: one of identifiers, if there are such on both sides, else one
of a bus, by its number unless that is too large, and an address. -/
inductive Written (text : String) : Filter → Prop where
  | ids {left right : List Char} {vendorId productId : UInt16}
      (split : IsSplit text.toList left right) (vendor : IsIdentifier left vendorId)
      (product : IsIdentifier right productId) : Written text (.ids vendorId productId)
  | location {left right : List Char} {bus : Nat} {address : UInt8}
      (split : IsSplit text.toList left right)
      (others : ¬ ((∃ id, IsIdentifier left id) ∧ ∃ id, IsIdentifier right id))
      (numbered : IsNumeral left bus) (placed : IsNumeral right address.toNat) :
      Written text
        (.location (if bus < UInt32.size then toString bus else String.ofList left) address)

theorem splitDot_eq_some {text left right : List Char} :
    splitDot text = some (left, right) ↔ IsSplit text left right := by
  have whole := List.takeWhile_append_dropWhile (p := (· != '.')) (l := text)
  constructor
  · intro parted
    rw [splitDot] at parted
    split at parted
    · cases parted
    · next dot right' rest =>
      cases parted
      have head := List.head?_dropWhile_not (· != '.') text
      rw [rest] at head whole
      obtain rfl : dot = '.' := by simpa using head
      refine ⟨whole.symm, fun member => ?_⟩
      exact absurd (List.mem_takeWhile_imp member) (by decide)
  · rintro ⟨rfl, first⟩
    have before : ∀ c ∈ left, (c != '.') = true := by
      intro c member
      exact bne_iff_ne.2 fun dot => first (dot ▸ member)
    rw [splitDot, List.takeWhile_append_of_pos before, List.dropWhile_append_of_pos before]
    simp

theorem IsSplit.unique {text left right front back : List Char} (one : IsSplit text left right)
    (other : IsSplit text front back) : left = front ∧ right = back := by
  have same := (splitDot_eq_some.2 one).symm.trans (splitDot_eq_some.2 other)
  cases same
  exact ⟨rfl, rfl⟩

theorem isId_iff {digits : List Char} :
    isId digits = true ↔ digits.length = 4 ∧ ∀ c ∈ digits, isHexDigit c = true := by
  simp [isId]

theorem IsIdentifier.isId {digits : List Char} {id : UInt16} (identifier : IsIdentifier digits id) :
    isId digits = true :=
  isId_iff.2 ⟨identifier.1, identifier.2.isHexDigit⟩

theorem IsIdentifier.value {digits : List Char} {id : UInt16}
    (identifier : IsIdentifier digits id) : UInt16.ofNat (hexValue digits) = id := by
  obtain ⟨four, numeral⟩ := identifier
  have bound : id.toNat < Nat.pow 16 digits.length := four ▸ id.toNat_lt
  rw [numeral.value bound, UInt16.ofNat_toNat]

theorem isIdentifier_of_isId {digits : List Char} (four : isId digits = true) :
    IsIdentifier digits (UInt16.ofNat (hexValue digits)) := by
  obtain ⟨four, hex⟩ := isId_iff.1 four
  have small := hexValue_lt hex
  rw [four] at small
  refine ⟨four, ?_⟩
  rw [UInt16.toNat_ofNat_of_lt' small]
  exact isHexNumeral_hexValue hex

theorem exists_isIdentifier_iff {digits : List Char} :
    (∃ id, IsIdentifier digits id) ↔ isId digits = true :=
  ⟨fun ⟨_, identifier⟩ => identifier.isId, fun four => ⟨_, isIdentifier_of_isId four⟩⟩

section
variable {text : String} {left right : List Char}

theorem read_of_ids (split : IsSplit text.toList left right) {vendorId productId : UInt16}
    (vendor : IsIdentifier left vendorId) (product : IsIdentifier right productId) :
    read text = .ok (.ids vendorId productId) := by
  rw [read, splitDot_eq_some.2 split]
  simp only [vendor.isId, product.isId, Bool.and_self, if_true, vendor.value, product.value]

theorem read_of_location (split : IsSplit text.toList left right)
    (others : ¬ (isId left = true ∧ isId right = true)) (decimal : isDecimal left = true)
    {address : UInt8} (placed : IsNumeral right address.toNat) :
    read text = .ok (.location (canonicalBus (String.ofList left)) address) := by
  have bounded : readBounded? 255 right = some address.toNat :=
    readBounded?_eq_some.2 ⟨Nat.le_of_lt_succ address.toNat_lt, .inl placed⟩
  rw [read, splitDot_eq_some.2 split]
  simp only [Bool.and_eq_true, others, if_false, decimal, placed.isDecimal, and_self, if_true,
    bounded, UInt8.ofNat_toNat]

theorem written_location (split : IsSplit text.toList left right)
    (others : ¬ (isId left = true ∧ isId right = true)) (decimal : isDecimal left = true)
    (placed : isDecimal right = true) {address : Nat}
    (bounded : readBounded? 255 right = some address) :
    Written text (.location (canonicalBus (String.ofList left)) (UInt8.ofNat address)) := by
  obtain ⟨bus, numbered⟩ := exists_isNumeral_iff.2 decimal
  have within := readBounded?_eq_some.1 bounded
  have same : (UInt8.ofNat address).toNat = address :=
    UInt8.toNat_ofNat_of_lt' (Nat.lt_succ_of_le within.1)
  rw [canonicalBus_ofList numbered]
  refine .location split ?_ numbered ?_
  · rw [exists_isIdentifier_iff, exists_isIdentifier_iff]
    exact others
  · rw [same]
    exact within.isNumeral placed

/-- What is read is what is written. -/
theorem read_eq_ok_iff {filter : Filter} : read text = .ok filter ↔ Written text filter := by
  constructor
  · intro reads
    rw [read] at reads
    split at reads
    · cases reads
    · next left right parted =>
      have split := splitDot_eq_some.1 parted
      split at reads
      · next ids =>
        cases reads
        obtain ⟨vendor, product⟩ := Bool.and_eq_true_iff.1 ids
        exact .ids split (isIdentifier_of_isId vendor) (isIdentifier_of_isId product)
      · next others =>
        split at reads
        · next decimal =>
          split at reads
          · next address bounded =>
            cases reads
            rw [Bool.and_eq_true_iff] at others decimal
            exact written_location split others decimal.1 decimal.2 bounded
          · cases reads
        · cases reads
  · intro written
    cases written with
    | ids split vendor product => exact read_of_ids split vendor product
    | @location left right bus address split others numbered placed =>
      rw [exists_isIdentifier_iff, exists_isIdentifier_iff] at others
      rw [read_of_location split others numbered.isDecimal placed, canonicalBus_ofList numbered]

end

/-! Printing -/

theorem isSplit_dot {left : String} (first : '.' ∉ left.toList) (right : String) :
    IsSplit (left ++ "." ++ right).toList left.toList right.toList := by
  refine ⟨?_, first⟩
  rw [String.toList_append, String.toList_append, List.append_assoc]
  rfl

theorem isIdentifier_idDigits (id : UInt16) : IsIdentifier (idDigits id).toList id := by
  rw [idDigits, String.toList_ofList]
  exact ⟨length_hexFixed .lower 4 _, isHexNumeral_hexFixed .lower 4 _⟩

/-- An address is too short to be taken for an identifier. -/
theorem isId_address (address : UInt8) : isId (toString address.toNat).toList = false := by
  have short : (Nat.toDigits 10 address.toNat).length ≤ 3 :=
    (Nat.length_toDigits_le_iff (by decide) (by decide)).2
      (Nat.lt_trans address.toNat_lt (by decide))
  rw [toList_toString, isId, Bool.and_eq_false_iff, beq_eq_false_iff_ne]
  exact .inl (by omega)

theorem read_locationText {busId : String} (decimal : isDecimal busId.toList = true)
    (address : UInt8) :
    read (locationText busId address) = .ok (.location (canonicalBus busId) address) := by
  have first : '.' ∉ busId.toList := fun member =>
    absurd ((isDecimal_iff.1 decimal).2 '.' member) (by decide)
  have placed : IsNumeral (toString address.toNat).toList address.toNat := by
    rw [toList_toString]
    exact isNumeral_toDigits _
  have reads := read_of_location (isSplit_dot first (toString address.toNat))
    (fun ids => Bool.false_ne_true ((isId_address address).symm.trans ids.2)) decimal placed
  rw [String.ofList_toList] at reads
  exact reads

/-- A filter that was read reads back from its text. -/
theorem read_text {text : String} {filter : Filter} (reads : read text = .ok filter) :
    read filter.text = .ok filter := by
  cases read_eq_ok_iff.1 reads with
  | @ids _ _ vendorId productId =>
    have vendor := isIdentifier_idDigits vendorId
    have first : '.' ∉ (idDigits vendorId).toList := fun member =>
      absurd (vendor.2.isHexDigit '.' member) (by decide)
    exact read_of_ids (isSplit_dot first (idDigits productId)) vendor
      (isIdentifier_idDigits productId)
  | @location left right bus address split others numbered placed =>
    have named : IsNumeral (String.ofList left).toList bus := by
      rw [String.toList_ofList]
      exact numbered
    rw [← canonicalBus_of_numeral named, Filter.text,
      read_locationText (isNumeral_canonicalBus named).isDecimal, canonicalBus_canonicalBus]

/-! Accepting -/

theorem accepts_location (busId : String) (address : UInt8) (candidate : Candidate) :
    (location (canonicalBus busId) address).accepts candidate = true ↔
      candidate.address = address ∧ SameBus busId candidate.busId := by
  rw [accepts, Bool.and_eq_true, beq_iff_eq, beq_iff_eq, eq_comm, canonicalBus_eq_iff, and_comm]

/-- A text is read as the filter that it stands for in one of the two notations, and as none
otherwise; the filter prints as a text that is read as it again. A filter of a bus and an address
accepts what is at that address of the bus, whichever way both names of the bus are written; so what
is printed of a device on a numbered bus selects that device. -/
theorem reading_printing_and_selecting_agree :
    (∀ text filter, read text = .ok filter ↔ Written text filter) ∧
    (∀ digits, (∃ id, IsIdentifier digits id) ↔
      digits.length = 4 ∧ ∀ c ∈ digits, isHexDigit c = true) ∧
    (∀ digits, (∃ n, IsNumeral digits n) ↔ digits ≠ [] ∧ ∀ c ∈ digits, c.isDigit = true) ∧
    (∀ text filter, read text = .ok filter → read filter.text = .ok filter) ∧
    (∀ text left right busId address, IsSplit text.toList left right →
      read text = .ok (.location busId address) → IsNumeral right address.toNat ∧
        ∀ candidate, (location busId address).accepts candidate = true ↔
          candidate.address = address ∧ SameBus (String.ofList left) candidate.busId) ∧
    ∀ place : Location, place.busId.toList ≠ [] →
      (∀ c ∈ place.busId.toList, c.isDigit = true) →
      ∃ busId, read place.text = .ok (.location busId place.address) ∧
        (∀ candidate, (location busId place.address).accepts candidate = true ↔
          candidate.address = place.address ∧ SameBus place.busId candidate.busId) ∧
        ∀ candidate : Candidate, candidate.busId = place.busId →
          candidate.address = place.address →
          (location busId place.address).accepts candidate = true := by
  refine ⟨fun _ _ => read_eq_ok_iff, fun _ => exists_isIdentifier_iff.trans isId_iff,
    fun _ => exists_isNumeral_iff.trans isDecimal_iff, fun _ _ => read_text, ?_, ?_⟩
  · intro text left right busId address split reads
    cases read_eq_ok_iff.1 reads with
    | location parted others numbered placed =>
      obtain ⟨rfl, rfl⟩ := split.unique parted
      refine ⟨placed, fun candidate => ?_⟩
      rw [← canonicalBus_ofList numbered]
      exact accepts_location _ address candidate
  · intro place nonempty decimal
    refine ⟨_, read_locationText (isDecimal_iff.2 ⟨nonempty, decimal⟩) place.address,
      accepts_location place.busId place.address, ?_⟩
    intro candidate bus address
    exact (accepts_location place.busId place.address candidate).2 ⟨address, .inl bus.symm⟩

example : read "0001.0255" = .ok (.ids 0x0001 0x0255) ∧
    read "0001.255" = .ok (.location "1" 255) := by
  decide +kernel

end Filter

end AnalyzerBoot.Usb
