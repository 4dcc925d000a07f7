import AnalyzerBoot.Toml.Quoting

/-!
Strings read back. Whichever form a text is written in, its reader undoes it: escapes stand for the
characters they were made of, and quotes inside a form never run on into the quotes that end it.
What follows must not be a quote, since that could belong to the end as well.
-/

set_option autoImplicit false

namespace AnalyzerBoot.Toml

/-! Characters and escapes -/

theorem codePoint?_hexFixed (letters : Text.LetterCase) {width : Nat} {c : Char}
    (positive : 0 < width) (bound : c.toNat < Nat.pow 16 width) :
    codePoint? (Text.hexFixed letters width c.toNat) = some c := by
  have valid : c.toNat.isValidChar := c.valid
  rw [codePoint?, Text.readHex?_hexFixed letters positive bound]
  simp only [Option.bind_eq_bind, Option.bind_some, if_pos valid, Char.ofNat_toNat]

/-- Characters that do not show are small, apart from none. -/
theorem toNat_lt_of_not_isText {c : Char} (hidden : isText c = false) : c.toNat < 0x10000 := by
  simp only [isText, Bool.or_eq_false_iff, Bool.and_eq_false_imp, decide_eq_true_eq] at hidden
  obtain ⟨-, low⟩ := hidden
  by_cases blank : ' ' ≤ c
  · have delete : c = '\x7f' := by simpa using low blank
    rw [delete]
    decide
  · rw [Char.le_def, UInt32.le_iff_toNat_le] at blank
    change ¬ 32 ≤ c.toNat at blank
    omega

/-- A character in a basic string stands for itself, or it is escaped. -/
theorem escapeChar_cases (lines : Bool) (c : Char) :
    (escapeChar lines c = [c] ∧ c ≠ '\\' ∧ (isText c = true ∨ lines = true ∧ c = '\n')) ∨
    ∃ escape, escapeChar lines c = '\\' :: escape ∧ ∀ rest,
      escape? (escape ++ rest) = some (c, rest) ∧ continuation? (escape ++ rest) = none := by
  unfold escapeChar
  split
  case h_1 | h_2 | h_4 | h_5 | h_6 => exact .inr ⟨_, rfl, fun rest => ⟨rfl, rfl⟩⟩
  case h_3 =>
    cases lines
    · exact .inr ⟨['n'], rfl, fun rest => ⟨rfl, rfl⟩⟩
    · exact .inl ⟨rfl, by decide, .inr ⟨rfl, rfl⟩⟩
  case h_7 notBackspace notTab notNewline notFeed notReturn notBackslash =>
    by_cases shown : isText c = true
    · rw [if_pos shown]
      exact .inl ⟨rfl, notBackslash, .inl shown⟩
    · rw [if_neg shown]
      refine .inr ⟨_, rfl, fun rest => ⟨?_, rfl⟩⟩
      have small := toNat_lt_of_not_isText (Bool.eq_false_iff.2 shown)
      have code := @codePoint?_hexFixed .upper 4 c (by decide) small
      simp only [Text.hexFixed, List.nil_append, List.cons_append] at code ⊢
      rw [escape?, code]
      rfl

theorem escapeChars_of_ne (lines : Bool) (run : Nat) {c : Char} (other : c ≠ '"')
    (rest : List Char) :
    escapeChars lines run (c :: rest) = escapeChar lines c ++ escapeChars lines 0 rest := by
  rw [escapeChars]
  exact other

theorem escapeChars_ne_nil (lines : Bool) (run : Nat) (c : Char) (rest : List Char) :
    escapeChars lines run (c :: rest) ≠ [] := by
  by_cases quote : c = '"'
  · subst quote
    rw [escapeChars]
    split <;> exact List.cons_ne_nil _ _
  · rw [escapeChars_of_ne _ _ quote]
    rcases escapeChar_cases lines c with ⟨itself, -⟩ | ⟨escape, escaped, -⟩
    · rw [itself]
      exact List.cons_ne_nil _ _
    · rw [escaped]
      exact List.cons_ne_nil _ _

/-! Basic strings -/

theorem basicChars_of_escape {escape rest : List Char} {c : Char}
    (found : escape? escape = some (c, rest)) :
    basicChars ('\\' :: escape) = prepend c (basicChars rest) := by
  rw [basicChars]
  split <;> simp_all

theorem basicChars_of_isText {c : Char} (shown : isText c = true) (notQuote : c ≠ '"')
    (notBackslash : c ≠ '\\') (rest : List Char) :
    basicChars (c :: rest) = prepend c (basicChars rest) := by
  rw [basicChars, if_pos shown]
  · exact notQuote
  · exact notBackslash

theorem basicChars_escapeChars (text rest : List Char) :
    basicChars (escapeChars false 0 text ++ '"' :: rest) = some (text, rest) := by
  induction text with
  | nil => rw [escapeChars, List.nil_append, basicChars]
  | cons c more ih =>
    by_cases quote : c = '"'
    · subst quote
      rw [escapeChars, Bool.false_and, if_neg Bool.false_ne_true, List.cons_append,
        List.cons_append, basicChars_of_escape rfl, ih]
      rfl
    · rw [escapeChars_of_ne _ _ quote, List.append_assoc]
      rcases escapeChar_cases false c with ⟨itself, notBackslash, shown | ⟨lines, -⟩⟩ |
        ⟨escape, escaped, read⟩
      · rw [itself, List.singleton_append, basicChars_of_isText shown quote notBackslash, ih]
        rfl
      · cases lines
      · rw [escaped, List.cons_append, basicChars_of_escape (read _).1, ih]
        rfl

/-! Basic strings of several lines -/

theorem multilineBasicChars_of_escape {escape rest : List Char} {c : Char}
    (found : escape? escape = some (c, rest)) (noEnd : continuation? escape = none) :
    multilineBasicChars ('\\' :: escape) = prepend c (multilineBasicChars rest) := by
  rw [multilineBasicChars]
  split
  · next ended =>
    rw [noEnd] at ended
    cases ended
  · split <;> simp_all

/-- Any character that shows, unless it is the first of three quotes. -/
theorem multilineBasicChars_of_isText {c : Char} {rest : List Char} (shown : isText c = true)
    (notBackslash : c ≠ '\\') (apart : c = '"' → ∀ more, rest ≠ '"' :: '"' :: more) :
    multilineBasicChars (c :: rest) = prepend c (multilineBasicChars rest) := by
  rw [multilineBasicChars, if_pos shown]
  · intro more quote
    exact apart quote _
  · intro more quote
    exact apart quote _
  · intro more quote
    exact apart quote _
  · exact notBackslash
  · rintro rfl
    exact absurd shown (by decide)
  · rintro more rfl
    exact absurd shown (by decide)

theorem multilineBasicChars_end {rest : List Char} (behind : rest.head? ≠ some '"') :
    multilineBasicChars ('"' :: '"' :: '"' :: rest) = some ([], rest) := by
  rw [multilineBasicChars]
  · rintro more rfl
    exact behind rfl
  · rintro more rfl
    exact behind rfl

theorem multilineBasicChars_quote_end {rest : List Char} (behind : rest.head? ≠ some '"') :
    multilineBasicChars ('"' :: '"' :: '"' :: '"' :: rest) = some (['"'], rest) := by
  rw [multilineBasicChars]
  rintro more rfl
  exact behind rfl

/-- Only a quote is ever written as one, and no more than two of them in a row. -/
theorem of_escapeChars_eq_quote {lines : Bool} {run : Nat} {c : Char} {rest written : List Char}
    (same : escapeChars lines run (c :: rest) = '"' :: written) :
    c = '"' ∧ lines = true ∧ run < 2 ∧ written = escapeChars lines (run + 1) rest := by
  by_cases quote : c = '"'
  · subst quote
    rw [escapeChars] at same
    split at same
    · next bare =>
      rw [Bool.and_eq_true, decide_eq_true_eq] at bare
      exact ⟨rfl, bare.1, bare.2, (List.cons.inj same).2.symm⟩
    · cases (List.cons.inj same).1
  · rw [escapeChars_of_ne _ _ quote] at same
    rcases escapeChar_cases lines c with ⟨itself, -⟩ | ⟨escape, escaped, -⟩
    · rw [itself] at same
      exact absurd (List.cons.inj same).1 quote
    · rw [escaped] at same
      cases (List.cons.inj same).1

theorem multilineBasicChars_quotes_end (rest : List Char) :
    multilineBasicChars ('"' :: '"' :: '"' :: '"' :: '"' :: rest) = some (['"', '"'], rest) := by
  rw [multilineBasicChars]

/-- A quote as the last of two, in front of the quotes that end a string, is the end of its text. -/
theorem of_escapeChars_append_eq_quotes {run : Nat} {c : Char} {more ending after : List Char}
    (same : escapeChars true (run + 1) (c :: more) ++ ending = '"' :: '"' :: after) :
    c = '"' ∧ more = [] ∧ run = 0 := by
  cases written : escapeChars true (run + 1) (c :: more) with
  | nil => exact absurd written (escapeChars_ne_nil _ _ _ _)
  | cons first others =>
    rw [written, List.cons_append, List.cons.injEq] at same
    obtain ⟨rfl, same⟩ := same
    obtain ⟨quote, -, two, rfl⟩ := of_escapeChars_eq_quote written
    refine ⟨quote, ?_, by omega⟩
    cases more with
    | nil => rfl
    | cons d further =>
      cases written : escapeChars true (run + 1 + 1) (d :: further) with
      | nil => exact absurd written (escapeChars_ne_nil _ _ _ _)
      | cons second others =>
        rw [written, List.cons_append, List.cons.injEq] at same
        obtain ⟨rfl, -⟩ := same
        have := (of_escapeChars_eq_quote written).2.2.1
        omega

theorem multilineBasicChars_escapeChars (text : List Char) (run : Nat) {rest : List Char}
    (behind : rest.head? ≠ some '"') :
    multilineBasicChars (escapeChars true run text ++ '"' :: '"' :: '"' :: rest) =
      some (text, rest) := by
  induction text generalizing run with
  | nil =>
    rw [escapeChars]
    exact multilineBasicChars_end behind
  | cons c more ih =>
    by_cases quote : c = '"'
    · subst quote
      by_cases bare : run < 2
      · have written : escapeChars true run ('"' :: more) =
            '"' :: escapeChars true (run + 1) more := by
          rw [escapeChars, if_pos (by simpa using bare)]
        rw [written]
        -- Two further quotes follow only where the text itself ends.
        match more with
        | [] => exact multilineBasicChars_quote_end behind
        | next :: others =>
          by_cases closing : next = '"' ∧ others = [] ∧ run = 0
          · obtain ⟨rfl, rfl, rfl⟩ := closing
            exact multilineBasicChars_quotes_end rest
          · rw [List.cons_append, multilineBasicChars_of_isText (by decide) (by decide), ih]
            · rfl
            · intro _ after same
              exact closing (of_escapeChars_append_eq_quotes same)
      · rw [escapeChars, if_neg (by simpa using bare), List.cons_append, List.cons_append,
          multilineBasicChars_of_escape rfl rfl, ih]
        rfl
    · rw [escapeChars_of_ne _ _ quote, List.append_assoc]
      rcases escapeChar_cases true c with ⟨itself, notBackslash, shown | ⟨-, rfl⟩⟩ |
        ⟨escape, escaped, read⟩
      · rw [itself, List.singleton_append,
          multilineBasicChars_of_isText shown notBackslash (absurd · quote), ih]
        rfl
      · rw [itself, List.singleton_append, multilineBasicChars, ih]
        rfl
      · rw [escaped, List.cons_append, multilineBasicChars_of_escape (read _).1 (read _).2, ih]
        rfl

/-! Literal strings -/

theorem literalChars_append {text : List Char}
    (literal : ∀ c ∈ text, isText c = true ∧ c ≠ '\'') (rest : List Char) :
    literalChars (text ++ '\'' :: rest) = some (text, rest) := by
  induction text with
  | nil => rw [List.nil_append, literalChars]
  | cons c more ih =>
    obtain ⟨⟨shown, notQuote⟩, others⟩ := List.forall_mem_cons.1 literal
    rw [List.cons_append, literalChars, if_pos shown, ih others]
    · rfl
    · exact notQuote

/-- Any character that shows, unless it is the first of three quotes. -/
theorem multilineLiteralChars_of_isText {c : Char} {rest : List Char} (shown : isText c = true)
    (apart : c = '\'' → ∀ more, rest ≠ '\'' :: '\'' :: more) :
    multilineLiteralChars (c :: rest) = prepend c (multilineLiteralChars rest) := by
  rw [multilineLiteralChars, if_pos shown]
  · intro more quote
    exact apart quote _
  · intro more quote
    exact apart quote _
  · intro more quote
    exact apart quote _
  · rintro rfl
    exact absurd shown (by decide)
  · rintro more rfl
    exact absurd shown (by decide)

theorem multilineLiteralChars_append {text rest : List Char}
    (shown : ∀ c ∈ text, isText c = true ∨ c = '\n')
    (short : ¬ ['\'', '\'', '\''] <:+: text) (behind : rest.head? ≠ some '\'') :
    multilineLiteralChars (text ++ '\'' :: '\'' :: '\'' :: rest) = some (text, rest) := by
  induction text with
  | nil =>
    rw [List.nil_append, multilineLiteralChars]
    · rintro more rfl
      exact behind rfl
    · rintro more rfl
      exact behind rfl
  | cons c more ih =>
    obtain ⟨first, others⟩ := List.forall_mem_cons.1 shown
    have ih := ih others fun three => short (List.infix_cons three)
    rw [List.cons_append]
    rcases first with first | rfl
    · match more with
      | [] =>
        by_cases quote : c = '\''
        · subst quote
          rw [List.nil_append, multilineLiteralChars]
          rintro more rfl
          exact behind rfl
        · rw [multilineLiteralChars_of_isText first (absurd · quote), ih]
          rfl
      | [next] =>
        by_cases quotes : c = '\'' ∧ next = '\''
        · obtain ⟨rfl, rfl⟩ := quotes
          rw [List.singleton_append, multilineLiteralChars]
        · rw [multilineLiteralChars_of_isText first, ih]
          · rfl
          · intro quote after same
            exact quotes ⟨quote, (List.cons.inj same).1⟩
      | next :: third :: further =>
        rw [multilineLiteralChars_of_isText first, ih]
        · rfl
        · -- Three quotes in a row would be too many for this form.
          intro quote after same
          injection same with second same
          injection same with third
          rw [quote, second, third] at short
          exact short ⟨[], further, rfl⟩
    · rw [multilineLiteralChars, ih]
      rfl

/-! The choice of a form -/

theorem countRun_replicate (c : Char) (longest run n : Nat) :
    (List.replicate (n + 1) c).foldl (countRun c) (longest, run) =
      (max longest (run + (n + 1)), run + (n + 1)) := by
  induction n generalizing longest run with
  | zero => simp [countRun]
  | succ n ih =>
    rw [List.replicate_succ, List.foldl_cons, countRun, if_pos rfl, ih]
    simp only [Prod.mk.injEq]
    omega

theorem le_foldl_countRun (c : Char) (text : List Char) (counts : Nat × Nat) :
    counts.1 ≤ (text.foldl (countRun c) counts).1 := by
  induction text generalizing counts with
  | nil => exact Nat.le_refl _
  | cons d more ih =>
    apply Nat.le_trans _ (ih (countRun c counts d))
    obtain ⟨longest, run⟩ := counts
    unfold countRun
    dsimp only
    split
    · exact Nat.le_max_left _ _
    · exact Nat.le_refl _

/-- The longest run of a character is as long as any. -/
theorem le_longestRun {c : Char} {n : Nat} {text : List Char}
    (run : List.replicate n c <:+: text) : n ≤ longestRun c text := by
  obtain ⟨front, back, rfl⟩ := run
  cases n with
  | zero => exact Nat.zero_le _
  | succ n =>
    rw [longestRun, List.foldl_append, List.foldl_append, countRun_replicate]
    apply Nat.le_trans _ (le_foldl_countRun _ _ _)
    exact Nat.le_trans (Nat.le_add_left _ _) (Nat.le_max_right _ _)

theorem not_mem_of_longestRun {c : Char} {text : List Char} (none : longestRun c text = 0) :
    c ∉ text := by
  intro member
  obtain ⟨front, back, rfl⟩ := List.append_of_mem member
  have : 1 ≤ longestRun c (front ++ c :: back) := le_longestRun ⟨front, back, by simp⟩
  omega

theorem formOf_eq_literal {text : List Char} (chosen : formOf text = .literal) :
    ∀ c ∈ text, isText c = true ∧ c ≠ '\'' := by
  simp only [formOf] at chosen
  grind [isControl, not_mem_of_longestRun]

theorem formOf_eq_multilineLiteral {text : List Char} (chosen : formOf text = .multilineLiteral) :
    (∀ c ∈ text, isText c = true ∨ c = '\n') ∧ ¬ ['\'', '\'', '\''] <:+: text := by
  have short (singles : longestRun '\'' text ≤ 2) : ¬ ['\'', '\'', '\''] <:+: text := by
    intro three
    have : 3 ≤ longestRun '\'' text := le_longestRun three
    omega
  simp only [formOf] at chosen
  grind [isControl]

/-! All forms -/

theorem newline?_of_isText {c : Char} (shown : isText c = true) (rest : List Char) :
    newline? (c :: rest) = none := by
  unfold newline?
  split
  · next same =>
    cases same
    exact absurd shown (by decide)
  · next same =>
    cases same
    exact absurd shown (by decide)
  · rfl

/-- The line end in front of a text of several lines is no part of it, and a text of one line does
not begin with any. -/
theorem skipFirstNewline_append {text content : List Char}
    (first : '\n' ∉ text → ∃ c more, content = c :: more ∧ isText c = true) :
    skipFirstNewline (firstNewline text ++ content) = content := by
  unfold firstNewline
  split
  · rfl
  · next oneLine =>
    obtain ⟨c, more, rfl, shown⟩ := first (by simpa using oneLine)
    rw [List.nil_append, skipFirstNewline, newline?_of_isText shown]
    rfl

theorem exists_escapeChars {text : List Char} (oneLine : '\n' ∉ text) (rest : List Char) :
    ∃ c more, escapeChars true 0 text ++ '"' :: rest = c :: more ∧ isText c = true := by
  cases text with
  | nil => exact ⟨'"', rest, rfl, by decide⟩
  | cons c others =>
    by_cases quote : c = '"'
    · subst quote
      exact ⟨'"', _, rfl, by decide⟩
    · rw [escapeChars_of_ne _ _ quote]
      rcases escapeChar_cases true c with ⟨itself, -, shown | ⟨-, rfl⟩⟩ | ⟨escape, escaped, -⟩
      · rw [itself]
        exact ⟨c, _, rfl, shown⟩
      · exact absurd List.mem_cons_self oneLine
      · rw [escaped]
        exact ⟨'\\', _, rfl, by decide⟩

/-- A string that does not begin with three quotes is one of a single line. -/
theorem string_eq_simpleString {text : List Char}
    (double : ∀ rest, text ≠ '"' :: '"' :: '"' :: rest)
    (single : ∀ rest, text ≠ '\'' :: '\'' :: '\'' :: rest) :
    string text = simpleString text := by
  unfold string
  split
  · exact absurd rfl (double _)
  · exact absurd rfl (single _)
  · rfl

theorem quoted_ne_three_quotes {q : Char} {content rest : List Char}
    (inside : content.head? ≠ some q) (behind : rest.head? ≠ some q) (after : List Char) :
    q :: (content ++ q :: rest) ≠ q :: q :: q :: after := by
  intro same
  injection same with _ same
  cases content with
  | nil =>
    injection same with _ same
    rw [same] at behind
    exact behind rfl
  | cons c more =>
    injection same with first
    rw [first] at inside
    exact inside rfl

/-- In a string of one line every quote is escaped. -/
theorem head?_escapeChars_false (text : List Char) :
    (escapeChars false 0 text).head? ≠ some '"' := by
  intro first
  obtain ⟨written, quote⟩ := List.head?_eq_some_iff.1 first
  cases text with
  | nil => cases quote
  | cons c more => cases (of_escapeChars_eq_quote quote).2.1

/-- A written text reads back in front of anything but a quote. -/
theorem string_writeString (text : List Char) {rest : List Char} (double : rest.head? ≠ some '"')
    (single : rest.head? ≠ some '\'') :
    string (writeString text ++ rest) = some (text, rest) := by
  unfold writeString
  cases chosen : formOf text with
  | basic =>
    simp only [List.append_assoc, List.singleton_append]
    rw [string_eq_simpleString]
    · exact basicChars_escapeChars text rest
    · exact quoted_ne_three_quotes (head?_escapeChars_false text) double
    · intro after same
      injection same with wrong
      exact absurd wrong (by decide)
  | literal =>
    have shown := formOf_eq_literal chosen
    simp only [List.append_assoc, List.singleton_append]
    rw [string_eq_simpleString]
    · exact literalChars_append shown rest
    · intro after same
      injection same with wrong
      exact absurd wrong (by decide)
    · apply quoted_ne_three_quotes _ single
      intro first
      exact (shown '\'' (List.mem_of_head? first)).2 rfl
  | multilineBasic =>
    simp only [List.append_assoc, List.cons_append, List.nil_append]
    rw [string, skipFirstNewline_append fun oneLine => exists_escapeChars oneLine _]
    exact multilineBasicChars_escapeChars text 0 double
  | multilineLiteral =>
    obtain ⟨shown, short⟩ := formOf_eq_multilineLiteral chosen
    simp only [List.append_assoc, List.cons_append, List.nil_append]
    rw [string, skipFirstNewline_append]
    · exact multilineLiteralChars_append shown short single
    · intro oneLine
      cases text with
      | nil => exact ⟨'\'', _, rfl, by decide⟩
      | cons c more =>
        rcases shown c List.mem_cons_self with shown | rfl
        · exact ⟨c, _, rfl, shown⟩
        · exact absurd List.mem_cons_self oneLine

example : ["a", "\"", "\"'", "\"\"\"'"].map (formOf ·.toList) =
    [.basic, .literal, .multilineBasic, .multilineLiteral] := by decide

end AnalyzerBoot.Toml
