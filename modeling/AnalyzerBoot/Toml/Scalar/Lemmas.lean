import AnalyzerBoot.Toml.Scalar

/-!
A value without parts takes at least one character off the text it is read from, and so does each
number, date and time in it. Main statement: `length_scalar?_lt`.
-/

set_option autoImplicit false

namespace AnalyzerBoot.Toml

/-! Numbers -/

theorem length_moreDigits_le (isDigit : Char → Bool) (text : List Char) :
    (moreDigits isDigit text).2.length ≤ text.length := by
  fun_induction moreDigits isDigit text <;> grind

theorem length_digits?_lt {isDigit : Char → Bool} {text digits rest : List Char}
    (found : digits? isDigit text = some (digits, rest)) : rest.length < text.length := by
  cases text <;> grind [digits?, length_moreDigits_le]

theorem length_decimal?_lt {text digits rest : List Char}
    (found : decimal? text = some (digits, rest)) : rest.length < text.length := by
  unfold decimal? at found
  grind [→ length_digits?_lt]

theorem length_sign_le (text : List Char) : (sign text).2.length ≤ text.length := by
  unfold sign
  grind

theorem length_exponent?_lt {text rest : List Char} {exponent : Int}
    (found : exponent? text = some (exponent, rest)) : rest.length < text.length := by
  unfold exponent? at found
  split at found
  · next c more =>
    split at found
    · have := length_sign_le more
      -- Which sign it is does not matter, only how much is left behind it.
      generalize sign more = unsigned at *
      obtain ⟨_, digits, same⟩ := Option.bind_eq_some_iff.1 found
      cases same
      have := length_digits?_lt digits
      simp only [List.length_cons]
      omega
    · cases found
  · cases found

theorem length_fraction?_lt {text digits rest : List Char}
    (found : fraction? text = some (digits, rest)) : rest.length < text.length := by
  unfold fraction? at found
  grind [→ length_digits?_lt]

theorem length_floatTail?_lt {text rest : List Char} {tail : List Char × Int}
    (found : floatTail? text = some (tail, rest)) : rest.length < text.length := by
  unfold floatTail? at found
  grind [Option.map_eq_some_iff, → length_fraction?_lt, → length_exponent?_lt]

theorem length_radix?_lt {base : Nat} {isDigit : Char → Bool} {text rest : List Char}
    {value : Value} (found : radix? base isDigit text = some (value, rest)) :
    rest.length < text.length := by
  obtain ⟨_, digits, found⟩ := Option.bind_eq_some_iff.1 found
  obtain ⟨_, _, same⟩ := Option.bind_eq_some_iff.1 found
  cases same
  exact length_digits?_lt digits

theorem length_decimalNumber?_lt {negative : Bool} {text rest : List Char} {value : Value}
    (found : decimalNumber? negative text = some (value, rest)) : rest.length < text.length := by
  obtain ⟨⟨_, more⟩, digits, found⟩ := Option.bind_eq_some_iff.1 found
  have := length_decimal?_lt digits
  simp only at found
  split at found
  · next tail =>
    have := length_floatTail?_lt tail
    split at found <;> cases found
    omega
  · obtain ⟨_, _, same⟩ := Option.bind_eq_some_iff.1 found
    cases same
    omega

theorem length_number?_lt {text rest : List Char} {value : Value}
    (found : number? text = some (value, rest)) : rest.length < text.length := by
  unfold number? at found
  grind [→ length_radix?_lt, → length_decimalNumber?_lt, length_sign_le]

/-! Dates and times -/

theorem length_twoDigits?_lt {low high n : Nat} {text rest : List Char}
    (found : twoDigits? low high text = some (n, rest)) : rest.length < text.length := by
  unfold twoDigits? at found
  split at found
  · obtain ⟨_, _, found⟩ := Option.bind_eq_some_iff.1 found
    split at found <;> cases found
    simp only [List.length_cons]
    omega
  · cases found

/-- Two digits behind a dash or a colon. -/
theorem length_twoDigits?_lt_of_after? {c : Char} {low high n : Nat} {text middle rest : List Char}
    (behind : after? c text = some middle) (found : twoDigits? low high middle = some (n, rest)) :
    rest.length < text.length :=
  Nat.lt_trans (length_twoDigits?_lt found) (length_after?_lt behind)

theorem length_date?_lt {text rest : List Char} (found : date? text = some rest) :
    rest.length < text.length := by
  unfold date? at found
  split at found
  · obtain ⟨_, _, found⟩ := Option.bind_eq_some_iff.1 found
    obtain ⟨_, dash, found⟩ := Option.bind_eq_some_iff.1 found
    obtain ⟨_, month, found⟩ := Option.bind_eq_some_iff.1 found
    obtain ⟨_, otherDash, found⟩ := Option.bind_eq_some_iff.1 found
    obtain ⟨_, day, same⟩ := Option.bind_eq_some_iff.1 found
    cases same
    -- The four digits of the year come on top of these.
    have := length_twoDigits?_lt_of_after? dash month
    have := length_twoDigits?_lt_of_after? otherDash day
    simp only [List.length_cons]
    omega
  · cases found

theorem length_skipFraction_le (text : List Char) :
    (skipFraction text).length ≤ text.length := by
  unfold skipFraction
  grind [length_dropWhile_le]

theorem length_time?_lt {text rest : List Char} (found : time? text = some rest) :
    rest.length < text.length := by
  obtain ⟨_, hour, found⟩ := Option.bind_eq_some_iff.1 found
  obtain ⟨_, colon, found⟩ := Option.bind_eq_some_iff.1 found
  obtain ⟨_, minute, found⟩ := Option.bind_eq_some_iff.1 found
  obtain ⟨_, otherColon, found⟩ := Option.bind_eq_some_iff.1 found
  obtain ⟨⟨_, more⟩, second, same⟩ := Option.bind_eq_some_iff.1 found
  cases same
  have := length_twoDigits?_lt hour
  have := length_twoDigits?_lt_of_after? colon minute
  have := length_twoDigits?_lt_of_after? otherColon second
  have := length_skipFraction_le more
  omega

theorem length_offset?_lt {text rest : List Char} (found : offset? text = some rest) :
    rest.length < text.length := by
  unfold offset? at found
  split at found
  · split at found
    · cases found
      simp
    · split at found
      · obtain ⟨_, hour, found⟩ := Option.bind_eq_some_iff.1 found
        obtain ⟨_, colon, found⟩ := Option.bind_eq_some_iff.1 found
        obtain ⟨_, minute, same⟩ := Option.bind_eq_some_iff.1 found
        cases same
        have := length_twoDigits?_lt hour
        have := length_twoDigits?_lt_of_after? colon minute
        simp only [List.length_cons]
        omega
      · cases found
  · cases found

/-- A part that may be missing leaves the text as it is or takes something off it. -/
theorem length_getD_le {text : List Char} {found : Option (List Char)}
    (shorter : ∀ {rest : List Char}, found = some rest → rest.length < text.length) :
    (found.getD text).length ≤ text.length := by
  cases found with
  | none => exact Nat.le_refl _
  | some rest => exact Nat.le_of_lt (shorter rfl)

theorem length_timeOfDate?_lt {text rest : List Char} (found : timeOfDate? text = some rest) :
    rest.length < text.length := by
  unfold timeOfDate? at found
  split at found
  · split at found
    · obtain ⟨middle, time, rfl⟩ := Option.map_eq_some_iff.1 found
      have := length_time?_lt time
      have : ((offset? middle).getD middle).length ≤ middle.length :=
        length_getD_le length_offset?_lt
      simp only [List.length_cons]
      omega
    · cases found
  · cases found

theorem length_dateTime?_lt {text rest : List Char} (found : dateTime? text = some rest) :
    rest.length < text.length := by
  unfold dateTime? at found
  split at found
  · next more date =>
    cases found
    have := length_date?_lt date
    have : ((timeOfDate? more).getD more).length ≤ more.length :=
      length_getD_le length_timeOfDate?_lt
    omega
  · exact length_time?_lt found

/-! All of them -/

theorem length_scalar?_lt {text rest : List Char} {value : Value}
    (found : scalar? text = some (value, rest)) : rest.length < text.length := by
  unfold scalar? at found
  grind [Option.map_eq_some_iff, → length_string_lt, → length_dateTime?_lt, → length_number?_lt]

end AnalyzerBoot.Toml
