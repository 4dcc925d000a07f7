import AnalyzerBoot.Text.Digits
import Mathlib.Data.List.Basic
import Mathlib.Data.List.Induction
import Mathlib.Tactic.IntervalCases

/-!
What the readers of numbers take. A decimal numeral is what its number is written with, behind any
zeros; a hexadecimal one of fixed width is what its number is written with, in either case.
-/

set_option autoImplicit false

namespace AnalyzerBoot.Text

/-- The digits of a number, behind any zeros. -/
def IsNumeral (digits : List Char) (n : Nat) : Prop :=
  ∃ zeros, digits = List.replicate zeros '0' ++ Nat.toDigits 10 n

theorem isNumeral_toDigits (n : Nat) : IsNumeral (Nat.toDigits 10 n) n :=
  ⟨0, rfl⟩

theorem digitChar_of_isDigit {c : Char} (digit : c.isDigit = true) :
    c.toNat - '0'.toNat < 10 ∧ Nat.digitChar (c.toNat - '0'.toNat) = c := by
  have bounds : 48 ≤ c.toNat ∧ c.toNat ≤ 57 := by
    simpa [Char.isDigit, UInt32.le_iff_toNat_le] using digit
  have small : c.toNat - '0'.toNat < 10 := by
    change c.toNat - 48 < 10
    omega
  refine ⟨small, Char.toNat_inj.1 ?_⟩
  rw [Nat.toNat_digitChar_of_lt_ten small]
  change 48 + (c.toNat - 48) = c.toNat
  omega

/-- Digits behind those of a positive number continue them. -/
theorem toDigits_append_digits {digits : List Char} (decimal : ∀ c ∈ digits, c.isDigit = true)
    {front : Nat} (positive : 0 < front) :
    Nat.toDigits 10 front ++ digits = Nat.toDigits 10 (Nat.ofDigitChars 10 digits front) := by
  induction digits generalizing front with
  | nil => exact List.append_nil _
  | cons c rest ih =>
    obtain ⟨digit, others⟩ := List.forall_mem_cons.1 decimal
    obtain ⟨small, same⟩ := digitChar_of_isDigit digit
    calc Nat.toDigits 10 front ++ c :: rest
        = Nat.toDigits 10 front ++ Nat.toDigits 10 (c.toNat - '0'.toNat) ++ rest := by
          rw [Nat.toDigits_of_lt_base small, same, List.append_assoc, List.singleton_append]
      _ = Nat.toDigits 10 (10 * front + (c.toNat - '0'.toNat)) ++ rest := by
          rw [Nat.toDigits_append_toDigits (by decide) positive small]
      _ = Nat.toDigits 10 (Nat.ofDigitChars 10 rest (10 * front + (c.toNat - '0'.toNat))) :=
          ih others (by omega)
      _ = _ := by rw [Nat.ofDigitChars_cons]

theorem isNumeral_of_digits {digits : List Char} (nonempty : digits ≠ [])
    (decimal : ∀ c ∈ digits, c.isDigit = true) :
    IsNumeral digits (Nat.ofDigitChars 10 digits 0) := by
  induction digits with
  | nil => exact absurd rfl nonempty
  | cons c rest ih =>
    obtain ⟨digit, others⟩ := List.forall_mem_cons.1 decimal
    obtain ⟨small, same⟩ := digitChar_of_isDigit digit
    by_cases zero : c = '0'
    · subst zero
      rw [Nat.ofDigitChars_cons]
      cases rest with
      | nil => exact ⟨0, rfl⟩
      | cons d more =>
        obtain ⟨zeros, split⟩ := ih (List.cons_ne_nil d more) others
        exact ⟨zeros + 1, congrArg ('0' :: ·) split⟩
    · have positive : 0 < c.toNat - '0'.toNat := by
        refine Nat.pos_of_ne_zero fun none => zero ?_
        rw [none] at same
        exact same.symm
      refine ⟨0, ?_⟩
      have continued := toDigits_append_digits others positive
      rw [Nat.toDigits_of_lt_base small, same] at continued
      rw [Nat.ofDigitChars_cons, Nat.mul_zero, Nat.zero_add]
      exact continued

theorem isDecimal_iff {digits : List Char} :
    isDecimal digits = true ↔ digits ≠ [] ∧ ∀ c ∈ digits, c.isDigit = true := by
  simp [isDecimal]

theorem IsNumeral.isDecimal {digits : List Char} {n : Nat} (numeral : IsNumeral digits n) :
    isDecimal digits = true := by
  obtain ⟨zeros, rfl⟩ := numeral
  obtain ⟨nonempty, decimal⟩ := isDecimal_iff.1 (isDecimal_toDigits n)
  refine isDecimal_iff.2 ⟨fun none => nonempty (List.append_eq_nil_iff.1 none).2, ?_⟩
  intro c member
  rcases List.mem_append.1 member with zero | digit
  · rw [List.eq_of_mem_replicate zero]
    rfl
  · exact decimal c digit

theorem IsNumeral.value {digits : List Char} {n : Nat} (numeral : IsNumeral digits n) :
    Nat.ofDigitChars 10 digits 0 = n := by
  obtain ⟨zeros, rfl⟩ := numeral
  rw [Nat.ofDigitChars_append, Nat.ofDigitChars_replicate_zero, Nat.mul_zero,
    Nat.ofDigitChars_ten_toDigits]

theorem exists_isNumeral_iff {digits : List Char} :
    (∃ n, IsNumeral digits n) ↔ isDecimal digits = true := by
  refine ⟨fun ⟨n, numeral⟩ => numeral.isDecimal, fun decimal => ?_⟩
  obtain ⟨nonempty, decimal⟩ := isDecimal_iff.1 decimal
  exact ⟨_, isNumeral_of_digits nonempty decimal⟩

theorem readDecimal?_eq_some {digits : List Char} {n : Nat} :
    readDecimal? digits = some n ↔ IsNumeral digits n := by
  rw [readDecimal?, Option.ite_none_right_eq_some, Option.some_inj]
  constructor
  · rintro ⟨decimal, rfl⟩
    obtain ⟨nonempty, decimal⟩ := isDecimal_iff.1 decimal
    exact isNumeral_of_digits nonempty decimal
  · exact fun numeral => ⟨numeral.isDecimal, numeral.value⟩

/-- A numeral, maybe behind a plus sign, of a number within a bound. -/
def IsBounded (bound : Nat) (text : List Char) (n : Nat) : Prop :=
  n ≤ bound ∧ (IsNumeral text n ∨ ∃ digits, text = '+' :: digits ∧ IsNumeral digits n)

theorem not_isNumeral_plus (digits : List Char) (n : Nat) : ¬ IsNumeral ('+' :: digits) n := by
  intro numeral
  exact absurd ((isDecimal_iff.1 numeral.isDecimal).2 '+' List.mem_cons_self) (by decide)

theorem readBounded?_plus (bound : Nat) (digits : List Char) :
    readBounded? bound ('+' :: digits) = (readDecimal? digits).filter (· ≤ bound) := rfl

theorem readBounded?_of_not_plus (bound : Nat) {text : List Char}
    (unsigned : ∀ digits, text ≠ '+' :: digits) :
    readBounded? bound text = (readDecimal? text).filter (· ≤ bound) := by
  rw [readBounded?]
  exact unsigned

theorem filter_readDecimal?_eq_some {bound : Nat} {digits : List Char} {n : Nat} :
    (readDecimal? digits).filter (· ≤ bound) = some n ↔ n ≤ bound ∧ IsNumeral digits n := by
  rw [Option.filter_eq_some_iff, readDecimal?_eq_some, decide_eq_true_eq, and_comm]

theorem readBounded?_eq_some {bound : Nat} {text : List Char} {n : Nat} :
    readBounded? bound text = some n ↔ IsBounded bound text n := by
  by_cases signed : ∃ digits, text = '+' :: digits
  · obtain ⟨digits, rfl⟩ := signed
    rw [readBounded?_plus, filter_readDecimal?_eq_some, IsBounded]
    simp [not_isNumeral_plus]
  · rw [readBounded?_of_not_plus bound (not_exists.1 signed), filter_readDecimal?_eq_some,
      IsBounded]
    simp [not_exists.1 signed]

theorem IsBounded.unique {bound m n : Nat} {text : List Char} (one : IsBounded bound text m)
    (other : IsBounded bound text n) : m = n :=
  Option.some.inj ((readBounded?_eq_some.2 one).symm.trans (readBounded?_eq_some.2 other))

theorem IsBounded.isNumeral {bound n : Nat} {text : List Char} (bounded : IsBounded bound text n)
    (decimal : isDecimal text = true) : IsNumeral text n := by
  rcases bounded with ⟨-, numeral | ⟨digits, rfl, -⟩⟩
  · exact numeral
  · obtain ⟨m, numeral⟩ := exists_isNumeral_iff.2 decimal
    exact absurd numeral (not_isNumeral_plus digits m)

/-! Hexadecimal -/

theorem isHexDigit_iff {c : Char} : isHexDigit c = true ↔
    (48 ≤ c.toNat ∧ c.toNat ≤ 57) ∨ (97 ≤ c.toNat ∧ c.toNat ≤ 102) ∨
      (65 ≤ c.toNat ∧ c.toNat ≤ 70) := by
  simp [isHexDigit, Char.isDigit, Char.le_def, UInt32.le_iff_toNat_le, or_assoc]

theorem hexDigit_of_isHexDigit {c : Char} (digit : isHexDigit c = true) :
    hexDigitValue c < 16 ∧ hexDigit .lower (hexDigitValue c) = c.toLower := by
  have bounds := isHexDigit_iff.1 digit
  rw [← Char.ofNat_toNat c]
  generalize c.toNat = code at bounds
  rcases bounds with ⟨low, high⟩ | ⟨low, high⟩ | ⟨low, high⟩ <;> interval_cases code <;> decide

theorem isHexDigit_of_toLower {c : Char} (lower : isHexDigit c.toLower = true) :
    isHexDigit c = true := by
  by_cases upper : c.val ≥ 'A'.val ∧ c.val ≤ 'Z'.val
  · have letter : 65 ≤ c.val.toNat ∧ c.val.toNat ≤ 90 := upper
    have moved : c.toLower.val = c.val + ('a'.val - 'A'.val) := congrArg Char.val (dif_pos upper)
    have shifted : c.toLower.val.toNat = c.val.toNat + 32 := by
      rw [moved, UInt32.toNat_add]
      change (c.val.toNat + 32) % 4294967296 = _
      omega
    have bounds := isHexDigit_iff.1 lower
    simp only [Char.toNat, shifted] at bounds
    exact isHexDigit_iff.2 (by simp only [Char.toNat]; omega)
  · have same : c.toLower = c := dif_neg upper
    rwa [same] at lower

/-- The last digits of a number, in either case. -/
def IsHexNumeral (digits : List Char) (n : Nat) : Prop :=
  digits.map Char.toLower = hexFixed .lower digits.length n

theorem hexValue_append_singleton (front : List Char) (c : Char) :
    hexValue (front ++ [c]) = 16 * hexValue front + hexDigitValue c :=
  List.foldl_append

theorem hexValue_lt {digits : List Char} (hex : ∀ c ∈ digits, isHexDigit c = true) :
    hexValue digits < 16 ^ digits.length := by
  induction digits using List.reverseRecOn with
  | nil => exact Nat.zero_lt_one
  | append_singleton front c ih =>
    obtain ⟨others, digit⟩ := List.forall_mem_append.1 hex
    have small := (hexDigit_of_isHexDigit (digit c List.mem_cons_self)).1
    have front := ih others
    rw [hexValue_append_singleton, List.length_append, List.length_singleton, Nat.pow_succ]
    omega

theorem isHexNumeral_hexValue {digits : List Char} (hex : ∀ c ∈ digits, isHexDigit c = true) :
    IsHexNumeral digits (hexValue digits) := by
  induction digits using List.reverseRecOn with
  | nil => rfl
  | append_singleton front c ih =>
    obtain ⟨others, digit⟩ := List.forall_mem_append.1 hex
    obtain ⟨small, same⟩ := hexDigit_of_isHexDigit (digit c List.mem_cons_self)
    have quotient : (16 * hexValue front + hexDigitValue c) / 16 = hexValue front := by omega
    have last : (16 * hexValue front + hexDigitValue c) % 16 = hexDigitValue c := by omega
    rw [IsHexNumeral, List.map_append, ih others, List.length_append, hexValue_append_singleton]
    change _ = hexFixed .lower (front.length + 1) _
    rw [hexFixed, quotient, last, same]
    rfl

theorem IsHexNumeral.isHexDigit {digits : List Char} {n : Nat} (numeral : IsHexNumeral digits n) :
    ∀ c ∈ digits, isHexDigit c = true := by
  intro c member
  refine isHexDigit_of_toLower ?_
  have all := all_isHexDigit_hexFixed .lower digits.length n
  rw [← numeral, List.all_eq_true] at all
  exact all _ (List.mem_map_of_mem member)

theorem IsHexNumeral.value {digits : List Char} {n : Nat} (numeral : IsHexNumeral digits n)
    (bound : n < 16 ^ digits.length) : hexValue digits = n := by
  have lower (c : Char) (member : c ∈ digits) : hexDigitValue c.toLower = hexDigitValue c := by
    obtain ⟨small, same⟩ := hexDigit_of_isHexDigit (numeral.isHexDigit c member)
    rw [← same, hexDigitValue_hexDigit .lower small]
  calc hexValue digits
      = hexValue (digits.map Char.toLower) := by
        rw [hexValue, hexValue, List.foldl_map]
        exact List.foldl_ext _ _ _ fun value c member => by rw [lower c member]
    _ = n := by rw [numeral, hexValue_hexFixed .lower bound]

theorem toLower_hexDigit (letters : LetterCase) {n : Nat} (digit : n < 16) :
    (hexDigit letters n).toLower = hexDigit .lower n := by
  cases letters <;> decide +revert

theorem isHexNumeral_hexFixed (letters : LetterCase) (width n : Nat) :
    IsHexNumeral (hexFixed letters width n) n := by
  rw [IsHexNumeral, length_hexFixed]
  induction width generalizing n with
  | zero => rfl
  | succ width ih =>
    rw [hexFixed, List.map_append, ih, List.map_singleton,
      toLower_hexDigit letters (Nat.mod_lt n (by decide)), hexFixed]

end AnalyzerBoot.Text
