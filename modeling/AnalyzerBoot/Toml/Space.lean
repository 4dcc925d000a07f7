/-!
What stands between the parts of a TOML document: blanks, line ends and comments.
-/

set_option autoImplicit false

namespace AnalyzerBoot.Toml

/-- Reads something off the front of a text, if it is there. -/
abbrev Parser (α : Type) := List Char → Option (α × List Char)

/-- Whether a parser that succeeds has read at least one character. -/
def Parser.Consumes {α : Type} (parser : Parser α) : Prop :=
  ∀ {text rest : List Char} {a : α}, parser text = some (a, rest) → rest.length < text.length

def isBlank (c : Char) : Bool :=
  c == ' ' || c == '\t'

/-- Whether a character may stand in a comment or, unescaped, in a text: any but control characters
other than the tab. -/
def isText (c : Char) : Bool :=
  c == '\t' || (' ' ≤ c && c != '\x7f')

def skipBlanks (text : List Char) : List Char :=
  text.dropWhile isBlank

def newline? : List Char → Option (List Char)
  | '\n' :: rest => some rest
  | '\r' :: '\n' :: rest => some rest
  | _ => none

def skipComment : List Char → List Char
  | '#' :: comment => comment.dropWhile isText
  | text => text

/-- What follows the rest of a line that holds nothing but blanks and a comment. -/
def lineEnd? (text : List Char) : Option (List Char) :=
  let line := skipComment (skipBlanks text)
  if line = [] then some [] else newline? line

def after? (c : Char) : List Char → Option (List Char)
  | d :: rest => if d = c then some rest else none
  | [] => none

def skipLines : List Char → List Char
  | '\r' :: '\n' :: rest => skipLines rest
  | c :: rest => if isBlank c || c == '\n' then skipLines rest else c :: rest
  | [] => []

/-- Skips blanks, line ends and comments; a comment ends with its line. -/
def skipSpace? (inComment : Bool) : List Char → Option (List Char)
  | [] => some []
  | '\n' :: rest => skipSpace? false rest
  | '\r' :: '\n' :: rest => skipSpace? false rest
  | c :: rest =>
    if inComment then if isText c then skipSpace? true rest else none
    else if isBlank c then skipSpace? false rest
    else if c = '#' then skipSpace? true rest
    else some (c :: rest)

theorem length_dropWhile_le (p : Char → Bool) (text : List Char) :
    (text.dropWhile p).length ≤ text.length :=
  (List.dropWhile_suffix p).sublist.length_le

theorem length_skipBlanks_le (text : List Char) : (skipBlanks text).length ≤ text.length :=
  length_dropWhile_le isBlank text

theorem length_after?_lt {c : Char} {text rest : List Char} (found : after? c text = some rest) :
    rest.length < text.length := by
  unfold after? at found
  split at found
  · split at found <;> cases found
    simp
  · cases found

theorem length_skipLines_le (text : List Char) : (skipLines text).length ≤ text.length := by
  fun_induction skipLines text <;> simp_all <;> omega

theorem length_newline?_lt {text rest : List Char} (found : newline? text = some rest) :
    rest.length < text.length := by
  unfold newline? at found
  split at found <;> cases found <;> simp only [List.length_cons] <;> omega

theorem length_skipComment_le (text : List Char) : (skipComment text).length ≤ text.length := by
  unfold skipComment
  split
  · next comment =>
    have := length_dropWhile_le isText comment
    simp only [List.length_cons]
    omega
  · exact Nat.le_refl _

/-- A line end takes something off a text, unless the text has ended already. -/
theorem length_lineEnd?_lt {text rest : List Char} (found : lineEnd? text = some rest)
    (more : text ≠ []) : rest.length < text.length := by
  have := length_skipBlanks_le text
  have := length_skipComment_le (skipBlanks text)
  simp only [lineEnd?] at found
  split at found
  · cases found
    exact List.length_pos_iff.2 more
  · have := length_newline?_lt found
    omega

theorem length_lineEnd?_le {text rest : List Char} (found : lineEnd? text = some rest) :
    rest.length ≤ text.length := by
  by_cases ended : text = []
  · subst ended
    cases found
    exact Nat.le_refl _
  · exact Nat.le_of_lt (length_lineEnd?_lt found ended)

theorem length_skipSpace?_le {inComment : Bool} {text rest : List Char}
    (found : skipSpace? inComment text = some rest) : rest.length ≤ text.length := by
  fun_induction skipSpace? inComment text <;> simp_all <;> omega

end AnalyzerBoot.Toml
