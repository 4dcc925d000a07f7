import AnalyzerBoot.Text.Digits
import AnalyzerBoot.Toml.Space

/-!
TOML strings: basic ones between double quotes, with escapes, and literal ones between single
quotes, without; both also between three quotes, where they may span lines. A string is written in
the first of these forms that shows it as it is, and with escapes if none does.
-/

set_option autoImplicit false

namespace AnalyzerBoot.Toml

/-! Reading -/

/-- The character of a code point, unless it is a surrogate or too large. -/
def codePoint? (digits : List Char) : Option Char := do
  let code ← Text.readHex? digits
  if code.isValidChar then some (Char.ofNat code) else none

/-- The character that an escape stands for, behind its backslash. -/
def escape? : Parser Char
  | 'b' :: rest => some ('\x08', rest)
  | 't' :: rest => some ('\t', rest)
  | 'n' :: rest => some ('\n', rest)
  | 'f' :: rest => some ('\x0c', rest)
  | 'r' :: rest => some ('\r', rest)
  | '"' :: rest => some ('"', rest)
  | '\\' :: rest => some ('\\', rest)
  | 'u' :: a :: b :: c :: d :: rest => (codePoint? [a, b, c, d]).map (·, rest)
  | 'U' :: a :: b :: c :: d :: e :: f :: g :: h :: rest =>
    (codePoint? [a, b, c, d, e, f, g, h]).map (·, rest)
  | _ => none

theorem length_escape?_lt {text rest : List Char} {c : Char}
    (found : escape? text = some (c, rest)) : rest.length < text.length := by
  unfold escape? at found
  split at found
  case h_8 | h_9 =>
    obtain ⟨_, _, same⟩ := Option.map_eq_some_iff.1 found
    cases same
    simp only [List.length_cons]
    omega
  all_goals
    cases found <;> simp only [List.length_cons] <;> omega

/-- A line end behind a backslash, together with all blanks and line ends that follow. -/
def continuation? (text : List Char) : Option (List Char) :=
  (newline? (skipBlanks text)).map skipLines

theorem length_continuation?_le {text rest : List Char} (found : continuation? text = some rest) :
    rest.length < text.length := by
  obtain ⟨line, ended, rfl⟩ := Option.map_eq_some_iff.1 found
  have := length_newline?_lt ended
  have := length_dropWhile_le isBlank text
  have := length_skipLines_le line
  simp only [skipBlanks] at *
  omega

def prepend (c : Char) (read : Option (List Char × List Char)) : Option (List Char × List Char) :=
  read.map fun (cs, rest) => (c :: cs, rest)

def basicChars (text : List Char) : Option (List Char × List Char) :=
  match text with
  | [] => none
  | '"' :: rest => some ([], rest)
  | '\\' :: rest =>
    match _found : escape? rest with
    | some (c, rest) => prepend c (basicChars rest)
    | none => none
  | c :: rest => if isText c then prepend c (basicChars rest) else none
termination_by text.length
decreasing_by
  · have := length_escape?_lt _found
    simp only [List.length_cons]
    omega
  · simp

/-- A basic string of several lines, behind its quotes. Up to two quotes may stand anywhere in it,
also in front of the three that end it. -/
def multilineBasicChars (text : List Char) : Option (List Char × List Char) :=
  match text with
  | [] => none
  | '"' :: '"' :: '"' :: '"' :: '"' :: rest => some (['"', '"'], rest)
  | '"' :: '"' :: '"' :: '"' :: rest => some (['"'], rest)
  | '"' :: '"' :: '"' :: rest => some ([], rest)
  | '\\' :: rest =>
    match _next : continuation? rest with
    | some rest => multilineBasicChars rest
    | none =>
      match _found : escape? rest with
      | some (c, rest) => prepend c (multilineBasicChars rest)
      | none => none
  | '\n' :: rest => prepend '\n' (multilineBasicChars rest)
  | '\r' :: '\n' :: rest => prepend '\n' (multilineBasicChars rest)
  | c :: rest => if isText c then prepend c (multilineBasicChars rest) else none
termination_by text.length
decreasing_by
  · have := length_continuation?_le _next
    simp only [List.length_cons]
    omega
  · have := length_escape?_lt _found
    simp only [List.length_cons]
    omega
  · simp
  · simp only [List.length_cons]
    omega
  · simp

def literalChars : List Char → Option (List Char × List Char)
  | [] => none
  | '\'' :: rest => some ([], rest)
  | c :: rest => if isText c then prepend c (literalChars rest) else none

def multilineLiteralChars : List Char → Option (List Char × List Char)
  | [] => none
  | '\'' :: '\'' :: '\'' :: '\'' :: '\'' :: rest => some (['\'', '\''], rest)
  | '\'' :: '\'' :: '\'' :: '\'' :: rest => some (['\''], rest)
  | '\'' :: '\'' :: '\'' :: rest => some ([], rest)
  | '\n' :: rest => prepend '\n' (multilineLiteralChars rest)
  | '\r' :: '\n' :: rest => prepend '\n' (multilineLiteralChars rest)
  | c :: rest => if isText c then prepend c (multilineLiteralChars rest) else none

/-- Skips the line end directly behind the quotes that begin a string of several lines. -/
def skipFirstNewline (text : List Char) : List Char :=
  (newline? text).getD text

/-- A string of one line, as it may also stand for a key. -/
def simpleString : Parser (List Char)
  | '"' :: rest => basicChars rest
  | '\'' :: rest => literalChars rest
  | _ => none

def string : Parser (List Char)
  | '"' :: '"' :: '"' :: rest => multilineBasicChars (skipFirstNewline rest)
  | '\'' :: '\'' :: '\'' :: rest => multilineLiteralChars (skipFirstNewline rest)
  | text => simpleString text

theorem exists_of_prepend {c : Char} {read : Option (List Char × List Char)} {a rest : List Char}
    (found : prepend c read = some (a, rest)) : ∃ cs, read = some (cs, rest) := by
  obtain ⟨⟨cs, _⟩, same, pair⟩ := Option.map_eq_some_iff.1 found
  cases pair
  exact ⟨cs, same⟩

theorem length_basicChars_lt {text a rest : List Char}
    (found : basicChars text = some (a, rest)) : rest.length < text.length := by
  fun_induction basicChars text generalizing a <;>
    grind [→ exists_of_prepend, → length_escape?_lt]

theorem length_multilineBasicChars_lt {text a rest : List Char}
    (found : multilineBasicChars text = some (a, rest)) : rest.length < text.length := by
  fun_induction multilineBasicChars text generalizing a <;>
    grind [→ exists_of_prepend, → length_escape?_lt, → length_continuation?_le]

theorem length_literalChars_lt {text a rest : List Char}
    (found : literalChars text = some (a, rest)) : rest.length < text.length := by
  fun_induction literalChars text generalizing a <;> grind [→ exists_of_prepend]

theorem length_multilineLiteralChars_lt {text a rest : List Char}
    (found : multilineLiteralChars text = some (a, rest)) : rest.length < text.length := by
  fun_induction multilineLiteralChars text generalizing a <;> grind [→ exists_of_prepend]

theorem length_skipFirstNewline_le (text : List Char) :
    (skipFirstNewline text).length ≤ text.length := by
  unfold skipFirstNewline
  cases ended : newline? text with
  | none => exact Nat.le_refl _
  | some rest => exact Nat.le_of_lt (length_newline?_lt ended)

theorem length_simpleString_lt {text a rest : List Char}
    (found : simpleString text = some (a, rest)) : rest.length < text.length := by
  unfold simpleString at found
  split at found
  · exact Nat.lt_succ_of_lt (length_basicChars_lt found)
  · exact Nat.lt_succ_of_lt (length_literalChars_lt found)
  · cases found

theorem length_string_lt {text a rest : List Char}
    (found : string text = some (a, rest)) : rest.length < text.length := by
  unfold string at found
  split at found
  · next more =>
    have := length_multilineBasicChars_lt found
    have := length_skipFirstNewline_le more
    simp only [List.length_cons]
    omega
  · next more =>
    have := length_multilineLiteralChars_lt found
    have := length_skipFirstNewline_le more
    simp only [List.length_cons]
    omega
  · exact length_simpleString_lt found

/-! Writing -/

inductive Form where
  | basic
  | literal
  | multilineBasic
  | multilineLiteral
  deriving DecidableEq, Repr

/-- Control characters that no string shows as they are. -/
def isControl (c : Char) : Bool :=
  !isText c && c != '\n'

/-- The longest run of a character so far and the one that is going on, after one more character. -/
def countRun (c : Char) : Nat × Nat → Char → Nat × Nat
  | (longest, run), d => if d = c then (max longest (run + 1), run + 1) else (longest, 0)

def longestRun (c : Char) (text : List Char) : Nat :=
  (text.foldl (countRun c) (0, 0)).1

def formOf (text : List Char) : Form :=
  let plain := !text.any isControl
  let backslash := text.contains '\\'
  let lines := text.contains '\n'
  let singles := longestRun '\'' text
  let doubles := longestRun '"' text
  if plain && !backslash && doubles == 0 && !lines then .basic
  else if plain && singles == 0 && !lines then .literal
  else if plain && !backslash && doubles ≤ 2 then .multilineBasic
  else if plain && singles ≤ 2 then .multilineLiteral
  else if lines then .multilineBasic
  else .basic

/-- A character that is not a quote, in a basic string of one line or of several. -/
def escapeChar (lines : Bool) (c : Char) : List Char :=
  match c with
  | '\x08' => ['\\', 'b']
  | '\t' => ['\\', 't']
  | '\n' => if lines then ['\n'] else ['\\', 'n']
  | '\x0c' => ['\\', 'f']
  | '\r' => ['\\', 'r']
  | '\\' => ['\\', '\\']
  | _ => if isText c then [c] else '\\' :: 'u' :: Text.hexFixed .upper 4 c.toNat

/-- The content of a basic string. In one of several lines, up to two quotes in a row are written
as they are; `run` of them have just been. -/
def escapeChars (lines : Bool) (run : Nat) : List Char → List Char
  | [] => []
  | '"' :: rest =>
    if lines && run < 2 then '"' :: escapeChars lines (run + 1) rest
    else '\\' :: '"' :: escapeChars lines 0 rest
  | c :: rest => escapeChar lines c ++ escapeChars lines 0 rest

/-- A string of several lines begins on a line of its own if it has more than one. -/
def firstNewline (text : List Char) : List Char :=
  if text.contains '\n' then ['\n'] else []

def writeString (text : List Char) : List Char :=
  match formOf text with
  | .basic => ['"'] ++ escapeChars false 0 text ++ ['"']
  | .literal => ['\''] ++ text ++ ['\'']
  | .multilineBasic =>
    ['"', '"', '"'] ++ firstNewline text ++ escapeChars true 0 text ++ ['"', '"', '"']
  | .multilineLiteral =>
    ['\'', '\'', '\''] ++ firstNewline text ++ text ++ ['\'', '\'', '\'']

end AnalyzerBoot.Toml
