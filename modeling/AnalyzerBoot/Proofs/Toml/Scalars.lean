import AnalyzerBoot.Proofs.Toml.Strings
import AnalyzerBoot.Toml.Writer

/-!
Values without parts read back. In a document something always follows a value that cannot belong to
it: the end of its line, a comma or a bracket. So a number ends where its digits end, and is not
taken for the front of a date.
-/

set_option autoImplicit false

namespace AnalyzerBoot.Toml

/-- Texts that begin with what may stand behind a value. -/
inductive Delimited : List Char → Prop where
  | lineEnd (rest : List Char) : Delimited ('\n' :: rest)
  | comma (rest : List Char) : Delimited (',' :: rest)
  | bracket (rest : List Char) : Delimited (']' :: rest)

/-- Whether a parser reads a value off a text and stops there. -/
def Reads {α : Type} (parser : Parser α) (text : List Char) (a : α) : Prop :=
  ∀ ⦃rest : List Char⦄, Delimited rest → parser (text ++ rest) = some (a, rest)

theorem Delimited.head?_ne {text : List Char} (delimited : Delimited text) {c : Char}
    (other : c ∉ ['\n', ',', ']']) : text.head? ≠ some c := by
  cases delimited <;> rintro ⟨⟩ <;> exact other (by decide)

theorem eq_false_of_mem (p : Char → Bool) {chars : List Char} {c : Char} (member : c ∈ chars)
    (none : chars.any p = false) : p c = false := by
  simpa using List.any_eq_false.1 none c member

/-! Digits -/

theorem exists_toDigits (n : Nat) :
    ∃ c more, Nat.toDigits 10 n = c :: more ∧ c.isDigit = true ∧ ∀ d ∈ more, d.isDigit = true := by
  have decimal : ∀ c ∈ Nat.toDigits 10 n, c.isDigit = true :=
    fun c member => Nat.isDigit_of_mem_toDigits (by decide) (by decide) member
  cases digits : Nat.toDigits 10 n with
  | nil => exact absurd digits Nat.toDigits_ne_nil
  | cons c more =>
    rw [digits] at decimal
    exact ⟨c, more, rfl, List.forall_mem_cons.1 decimal⟩

/-- Only zero begins with a zero. -/
theorem head?_toDigits {n : Nat} (positive : n ≠ 0) :
    (Nat.toDigits 10 n).head? ≠ some '0' := by
  induction n using Nat.strongRecOn with
  | ind n ih =>
    by_cases small : n < 10
    · rw [Nat.toDigits_of_lt_base small]
      simpa [Nat.digitChar_eq_zero] using positive
    · rw [Nat.toDigits_of_base_le (by decide) (by omega), List.head?_append]
      have front := ih (n / 10) (by omega) (by omega)
      obtain ⟨c, more, digits, -⟩ := exists_toDigits (n / 10)
      simpa [digits] using front

theorem moreDigits_append {digits rest : List Char} (decimal : ∀ c ∈ digits, c.isDigit = true)
    (delimited : Delimited rest) : moreDigits Char.isDigit (digits ++ rest) = (digits, rest) := by
  induction digits with
  | nil => cases delimited <;> rfl
  | cons c more ih =>
    obtain ⟨digit, others⟩ := List.forall_mem_cons.1 decimal
    rw [List.cons_append, moreDigits, if_pos digit, ih others]
    rintro d further rfl
    exact absurd digit (by decide)

theorem reads_decimal? (n : Nat) : Reads decimal? (Nat.toDigits 10 n) (Nat.toDigits 10 n) := by
  intro rest delimited
  by_cases zero : n = 0
  · subst zero
    rfl
  · have first := head?_toDigits zero
    obtain ⟨c, more, digits, digit, others⟩ := exists_toDigits n
    rw [digits] at first ⊢
    rw [List.cons_append, decimal?, digits?, if_pos digit, moreDigits_append others delimited]
    intro after same
    injection same with zero
    rw [zero] at first
    exact first rfl

/-! Dates and times -/

theorem isDecimal_of_readDecimal? {text : List Char} {n : Nat}
    (found : Text.readDecimal? text = some n) : Text.isDecimal text = true := by
  unfold Text.readDecimal? at found
  split at found
  · assumption
  · cases found

theorem eq_of_after? {c : Char} {text rest : List Char} (found : after? c text = some rest) :
    text = c :: rest := by
  unfold after? at found
  split at found
  · split at found
    · next same =>
      cases found
      rw [same]
    · cases found
  · cases found

theorem eq_of_twoDigits? {low high n : Nat} {text rest : List Char}
    (found : twoDigits? low high text = some (n, rest)) :
    ∃ digits, Text.isDecimal digits = true ∧ text = digits ++ rest := by
  unfold twoDigits? at found
  split at found
  · next a b more =>
    obtain ⟨value, decimal, found⟩ := Option.bind_eq_some_iff.1 found
    split at found <;> cases found
    exact ⟨[a, b], isDecimal_of_readDecimal? decimal, rfl⟩
  · cases found

/-- A date or a time begins with a number, and a dash or a colon ends that. -/
theorem eq_of_dateTime? {text rest : List Char} (found : dateTime? text = some rest) :
    ∃ digits c more, Text.isDecimal digits = true ∧ c ∈ ['-', ':'] ∧
      text = digits ++ c :: more := by
  unfold dateTime? at found
  split at found
  · next behind date =>
    unfold date? at date
    split at date
    · next a b c d more =>
      obtain ⟨year, decimal, date⟩ := Option.bind_eq_some_iff.1 date
      obtain ⟨others, dash, -⟩ := Option.bind_eq_some_iff.1 date
      rw [eq_of_after? dash]
      exact ⟨[a, b, c, d], '-', others, isDecimal_of_readDecimal? decimal, by decide, rfl⟩
    · cases date
  · obtain ⟨⟨_, more⟩, hour, found⟩ := Option.bind_eq_some_iff.1 found
    obtain ⟨others, colon, -⟩ := Option.bind_eq_some_iff.1 found
    obtain ⟨digits, decimal, rfl⟩ := eq_of_twoDigits? hour
    rw [eq_of_after? colon]
    exact ⟨digits, ':', others, decimal, by decide, rfl⟩

theorem dropWhile_isDecimal {digits : List Char} (decimal : Text.isDecimal digits = true)
    {c : Char} (ended : c.isDigit = false) (rest : List Char) :
    (digits ++ c :: rest).dropWhile Char.isDigit = c :: rest := by
  simp only [Text.isDecimal, Bool.and_eq_true, List.all_eq_true] at decimal
  rw [List.dropWhile_append_of_pos decimal.2, List.dropWhile_cons_of_neg]
  rw [ended]
  exact Bool.false_ne_true

theorem dropWhile_of_delimited {digits rest : List Char}
    (decimal : Text.isDecimal digits = true) (delimited : Delimited rest) :
    (digits ++ rest).dropWhile Char.isDigit = rest := by
  cases delimited <;> exact dropWhile_isDecimal decimal (by decide) _

/-- Digits with a delimiter behind them are no date and no time. -/
theorem dateTime?_of_isDecimal {digits rest : List Char}
    (decimal : Text.isDecimal digits = true) (delimited : Delimited rest) :
    dateTime? (digits ++ rest) = none := by
  cases found : dateTime? (digits ++ rest) with
  | none => rfl
  | some behind =>
    obtain ⟨front, c, more, frontDecimal, mark, same⟩ := eq_of_dateTime? found
    -- Either way of reading the text, what is left behind its digits is the same.
    have ended := congrArg (List.dropWhile Char.isDigit) same
    rw [dropWhile_of_delimited decimal delimited, dropWhile_isDecimal frontDecimal] at ended
    · have apart := eq_false_of_mem (· ∈ ['\n', ',', ']']) mark (by decide)
      exact absurd (congrArg List.head? ended) (delimited.head?_ne (of_decide_eq_false apart))
    · exact eq_false_of_mem Char.isDigit mark (by decide)

/-- A minus sign is not the front of a date or a time. -/
theorem dateTime?_of_minus (text : List Char) : dateTime? ('-' :: text) = none := by
  cases found : dateTime? ('-' :: text) with
  | none => rfl
  | some behind =>
    obtain ⟨front, c, more, decimal, -, same⟩ := eq_of_dateTime? found
    cases front with
    | nil => cases decimal
    | cons d others =>
      injection same with first
      rw [← first] at decimal
      cases decimal

/-! Integers -/

theorem decimalValue_toDigits {n : Nat} (short : (Nat.toDigits 10 n).length ≤ 20) :
    decimalValue (Nat.toDigits 10 n) = n := by
  rw [decimalValue, List.take_of_length_le short, Nat.ofDigitChars_ten_toDigits]

theorem floatTail?_of_delimited {rest : List Char} (delimited : Delimited rest) :
    floatTail? rest = none := by
  cases delimited <;> rfl

theorem reads_decimalNumber? {negative : Bool} {n : Nat} {value : Value}
    (short : (Nat.toDigits 10 n).length ≤ 20)
    (range : integerOf? (signed negative n) = some value) :
    Reads (decimalNumber? negative) (Nat.toDigits 10 n) value := by
  intro rest delimited
  rw [decimalNumber?, reads_decimal? n delimited]
  simp only [Option.bind_eq_bind, Option.bind_some, floatTail?_of_delimited delimited,
    decimalValue_toDigits short, range]
  rfl

/-- A number that begins with digits, behind a sign or not, and not with the mark of a base. -/
theorem number?_of_sign {text more : List Char} {negative : Bool} {c : Char}
    (signed : sign text = (negative, c :: more)) (digit : c.isDigit = true)
    (decimal : ∀ base ∈ ['x', 'o', 'b'], ∀ rest, text ≠ '0' :: base :: rest) :
    number? text = decimalNumber? negative (c :: more) := by
  unfold number?
  split
  · exact absurd rfl (decimal 'x' (by decide) _)
  · exact absurd rfl (decimal 'o' (by decide) _)
  · exact absurd rfl (decimal 'b' (by decide) _)
  · rw [signed]
    split
    · next same =>
      cases same
      cases digit
    · next same =>
      cases same
      cases digit
    · next same =>
      cases same
      rfl

theorem sign_of_isDigit {c : Char} (digit : c.isDigit = true) (more : List Char) :
    sign (c :: more) = (false, c :: more) := by
  unfold sign
  split
  · next same =>
    cases same
    cases digit
  · next same =>
    cases same
    cases digit
  · rfl

/-- Digits without leading zeros do not look like a number of another base. -/
theorem toDigits_append_ne (n : Nat) {rest : List Char} (delimited : Delimited rest) :
    ∀ base ∈ ['x', 'o', 'b'], ∀ more, Nat.toDigits 10 n ++ rest ≠ '0' :: base :: more := by
  intro base among more same
  by_cases zero : n = 0
  · subst zero
    have apart := eq_false_of_mem (· ∈ ['\n', ',', ']']) among (by decide)
    apply delimited.head?_ne (of_decide_eq_false apart)
    injection same with _ same
    exact congrArg List.head? same
  · have first := head?_toDigits zero
    obtain ⟨c, others, digits, -⟩ := exists_toDigits n
    rw [digits] at first same
    injection same with same
    rw [same] at first
    exact first rfl

theorem reads_number? {value : Int} {read : Value} (range : integerOf? value = some read) :
    Reads number? (writeInteger value) read := by
  intro rest delimited
  have short : (Nat.toDigits 10 value.natAbs).length ≤ 20 := by
    rw [Nat.length_toDigits_le_iff (by decide) (by decide)]
    unfold integerOf? at range
    split at range
    · omega
    · cases range
  obtain ⟨c, more, digits, digit, -⟩ := exists_toDigits value.natAbs
  unfold writeInteger
  split
  · next negative =>
    have same : signed true value.natAbs = value := by
      rw [signed]
      simp only [if_true]
      omega
    rw [List.cons_append, digits, List.cons_append, number?_of_sign rfl digit, ← List.cons_append,
      ← digits]
    · exact reads_decimalNumber? short (by rwa [same]) delimited
    · intro base _ after wrong
      injection wrong with wrong
      exact absurd wrong (by decide)
  · next positive =>
    have same : signed false value.natAbs = value := by
      rw [signed]
      simp only [Bool.false_eq_true, if_false]
      omega
    have decimal := toDigits_append_ne value.natAbs delimited
    rw [digits, List.cons_append] at decimal ⊢
    rw [number?_of_sign (sign_of_isDigit digit _) digit decimal, ← List.cons_append, ← digits]
    exact reads_decimalNumber? short (by rwa [same]) delimited

/-! All of them -/

theorem scalar?_eq_number? {c : Char} {more : List Char} (among : c ∉ ['"', '\'', 't', 'f'])
    (noDate : dateTime? (c :: more) = none) : scalar? (c :: more) = number? (c :: more) := by
  unfold scalar?
  split
  case h_5 => rw [noDate]
  all_goals
    next same =>
      injection same with first
      rw [first] at among
      exact absurd (by decide) among

theorem reads_integer {value : Int} {read : Value} (range : integerOf? value = some read) :
    Reads scalar? (writeInteger value) read := by
  intro rest delimited
  obtain ⟨c, more, digits, digit, -⟩ := exists_toDigits value.natAbs
  rw [← reads_number? range delimited]
  unfold writeInteger
  split
  · exact scalar?_eq_number? (by decide) (dateTime?_of_minus _)
  · have noDate := dateTime?_of_isDecimal (Text.isDecimal_toDigits value.natAbs) delimited
    rw [digits, List.cons_append] at noDate ⊢
    apply scalar?_eq_number? _ noDate
    intro among
    rw [eq_false_of_mem Char.isDigit among (by decide)] at digit
    cases digit

theorem exists_writeString (text : List Char) :
    ∃ q more, writeString text = q :: more ∧ (q = '"' ∨ q = '\'') := by
  unfold writeString
  split
  · exact ⟨'"', _, rfl, .inl rfl⟩
  · exact ⟨'\'', _, rfl, .inr rfl⟩
  · exact ⟨'"', _, rfl, .inl rfl⟩
  · exact ⟨'\'', _, rfl, .inr rfl⟩

theorem reads_string (value : String) :
    Reads scalar? (writeString value.toList) (.string value) := by
  intro rest delimited
  have read := string_writeString value.toList (delimited.head?_ne (by decide))
    (delimited.head?_ne (by decide))
  obtain ⟨q, more, written, quote⟩ := exists_writeString value.toList
  rw [written, List.cons_append] at read ⊢
  rcases quote with rfl | rfl <;> rw [scalar?, read, Option.map_some] <;>
    simp only [String.ofList_toList]

/-- A value without parts that can be written reads back. -/
theorem reads_scalar {value : Value} {text : List Char} (written : writeScalar? value = some text) :
    Reads scalar? text value := by
  unfold writeScalar? at written
  split at written
  · cases written
    exact reads_string _
  · next value =>
    obtain ⟨read, range, rfl⟩ := Option.map_eq_some_iff.1 written
    have same : read = .integer value := by
      unfold integerOf? at range
      split at range <;> cases range
      rfl
    rw [← same]
    exact reads_integer range
  · next value =>
    cases written
    intro rest delimited
    cases value <;> rfl
  · cases written

end AnalyzerBoot.Toml
