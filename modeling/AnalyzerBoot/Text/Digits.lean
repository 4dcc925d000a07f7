/-!
Numbers as digits. Hexadecimal numbers are written with a fixed number of digits or with as few as
possible; decimal numbers are read from a non-empty run of decimal digits, leading zeros allowed.
-/

set_option autoImplicit false

namespace AnalyzerBoot.Text

/-- Which letters stand for the digits ten to fifteen. -/
inductive LetterCase where
  | lower
  | upper
  deriving DecidableEq, Repr

def hexDigit (letters : LetterCase) (n : Nat) : Char :=
  if n < 10 then Char.ofNat (48 + n)
  else match letters with
    | .lower => Char.ofNat (87 + n)
    | .upper => Char.ofNat (55 + n)

/-- The last `width` hexadecimal digits of a number. -/
def hexFixed (letters : LetterCase) : (width : Nat) → Nat → List Char
  | 0, _ => []
  | width + 1, n => hexFixed letters width (n / 16) ++ [hexDigit letters (n % 16)]

@[simp] theorem length_hexFixed (letters : LetterCase) (width n : Nat) :
    (hexFixed letters width n).length = width := by
  induction width generalizing n with
  | zero => rfl
  | succ width ih => simp [hexFixed, ih]

/-- As few hexadecimal digits as the number needs. -/
def hexMinimal (letters : LetterCase) (n : Nat) : List Char :=
  if n < 16 then [hexDigit letters n]
  else hexMinimal letters (n / 16) ++ [hexDigit letters (n % 16)]

def isHexDigit (c : Char) : Bool :=
  c.isDigit || ('a' ≤ c && c ≤ 'f') || ('A' ≤ c && c ≤ 'F')

/-- The value of a hexadecimal digit in either case; other characters count as zero. -/
def hexDigitValue (c : Char) : Nat :=
  if c.isDigit then c.toNat - 48
  else if 'a' ≤ c && c ≤ 'f' then c.toNat - 87
  else if 'A' ≤ c && c ≤ 'F' then c.toNat - 55
  else 0

def hexValue (digits : List Char) : Nat :=
  digits.foldl (fun value c => 16 * value + hexDigitValue c) 0

def readHex? (text : List Char) : Option Nat :=
  if !text.isEmpty && text.all isHexDigit then some (hexValue text) else none

def isDecimal (text : List Char) : Bool :=
  !text.isEmpty && text.all Char.isDigit

def readDecimal? (text : List Char) : Option Nat :=
  if isDecimal text then some (Nat.ofDigitChars 10 text 0) else none

/-- As `readDecimal?`, with one leading plus sign allowed and an upper bound on the value. -/
def readBounded? (bound : Nat) (text : List Char) : Option Nat :=
  let digits := match text with
    | '+' :: rest => rest
    | _ => text
  (readDecimal? digits).filter (· ≤ bound)

theorem isHexDigit_hexDigit (letters : LetterCase) {n : Nat} (digit : n < 16) :
    isHexDigit (hexDigit letters n) = true := by
  cases letters <;> decide +revert

theorem hexDigitValue_hexDigit (letters : LetterCase) {n : Nat} (digit : n < 16) :
    hexDigitValue (hexDigit letters n) = n := by
  cases letters <;> decide +revert

theorem all_isHexDigit_hexFixed (letters : LetterCase) (width n : Nat) :
    (hexFixed letters width n).all isHexDigit = true := by
  induction width generalizing n with
  | zero => rfl
  | succ width ih =>
    simp [hexFixed, ih, isHexDigit_hexDigit letters (Nat.mod_lt n (by decide : 0 < 16))]

theorem hexValue_hexFixed (letters : LetterCase) {width n : Nat} (bound : n < Nat.pow 16 width) :
    hexValue (hexFixed letters width n) = n := by
  induction width generalizing n with
  | zero =>
    rw [Nat.lt_one_iff.1 bound]
    rfl
  | succ width ih =>
    have front : n / 16 < Nat.pow 16 width := by
      apply Nat.div_lt_of_lt_mul
      rw [Nat.mul_comm]
      exact bound
    have value := ih front
    rw [hexValue] at value
    rw [hexValue, hexFixed, List.foldl_append, value]
    simp only [List.foldl_cons, List.foldl_nil,
      hexDigitValue_hexDigit letters (Nat.mod_lt n (by decide : 0 < 16))]
    exact Nat.div_add_mod n 16

theorem readHex?_hexFixed (letters : LetterCase) {width n : Nat} (positive : 0 < width)
    (bound : n < Nat.pow 16 width) : readHex? (hexFixed letters width n) = some n := by
  have nonempty : hexFixed letters width n ≠ [] :=
    List.ne_nil_of_length_pos (by rwa [length_hexFixed])
  simp [readHex?, nonempty, all_isHexDigit_hexFixed, hexValue_hexFixed letters bound,
    -List.all_eq_true]

theorem isDecimal_toDigits (n : Nat) : isDecimal (Nat.toDigits 10 n) = true := by
  have nonempty : Nat.toDigits 10 n ≠ [] := Nat.toDigits_ne_nil
  simp only [isDecimal, Bool.and_eq_true, Bool.not_eq_true', List.isEmpty_eq_false_iff,
    List.all_eq_true]
  exact ⟨nonempty, fun c member => Nat.isDigit_of_mem_toDigits (by decide) (by decide) member⟩

end AnalyzerBoot.Text
