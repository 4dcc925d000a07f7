import AnalyzerBoot.Toml.Scalar.Lemmas

/-!
Reading a TOML document: a sequence of lines, each empty, a header or an assignment, where an
assignment of an array or of a long string goes on over several lines. Values do not nest without
limit. Reading ends because every item, assignment and line takes something off the text, as the
lemmas beside the parsers say.
-/

set_option autoImplicit false

namespace AnalyzerBoot.Toml

/-- How many arrays and inline tables may enclose each other. -/
def maxDepth : Nat := 79

def maxKeyParts : Nat := 79

def isBareKeyChar (c : Char) : Bool :=
  c.isAlphanum || c == '_' || c == '-'

/-- A part of a key: bare, or a string of one line. -/
def keyPart? (text : List Char) : Option (String × List Char) :=
  match text with
  | '"' :: _ | '\'' :: _ =>
    (simpleString text).map fun (part, rest) => (String.ofList part, rest)
  | _ =>
    let part := text.takeWhile isBareKeyChar
    if part = [] then none else some (String.ofList part, text.dropWhile isBareKeyChar)

/-- A key of at most `limit` parts, with dots between them. Blanks may stand around each part. -/
def keyPath? : (limit : Nat) → Parser (List String)
  | 0, _ => none
  | limit + 1, text => do
    let (part, rest) ← keyPart? (skipBlanks text)
    match skipBlanks rest with
    | '.' :: rest => (keyPath? limit rest).map fun (parts, rest) => (part :: parts, rest)
    | rest => some ([part], rest)

theorem length_keyPart?_le {text rest : List Char} {part : String}
    (found : keyPart? text = some (part, rest)) : rest.length ≤ text.length := by
  unfold keyPart? at found
  grind [Option.map_eq_some_iff, → length_simpleString_lt, length_dropWhile_le]

theorem length_keyPath?_le {limit : Nat} {text rest : List Char} {path : List String}
    (found : keyPath? limit text = some (path, rest)) : rest.length ≤ text.length := by
  induction limit generalizing text path with
  | zero => cases found
  | succ limit ih =>
    obtain ⟨⟨_, more⟩, part, found⟩ := Option.bind_eq_some_iff.1 found
    have := length_keyPart?_le part
    have := length_skipBlanks_le text
    have := length_skipBlanks_le more
    simp only at found
    generalize skipBlanks more = behind at *
    split at found
    · obtain ⟨_, others, same⟩ := Option.map_eq_some_iff.1 found
      cases same
      have := ih others
      simp only [List.length_cons] at *
      omega
    · cases found
      omega

/-- A key, an equals sign and a value, with blanks around each. -/
def assignment? (value : Parser Value) (text : List Char) :
    Option ((List String × Value) × List Char) := do
  let (path, rest) ← keyPath? maxKeyParts text
  let (value, rest) ← value (skipBlanks (← after? '=' rest))
  return ((path, value), skipBlanks rest)

theorem assignment?_consumes {value : Parser Value} (consumes : value.Consumes) :
    Parser.Consumes (assignment? value) := by
  intro text rest assigned found
  obtain ⟨⟨_, _⟩, path, found⟩ := Option.bind_eq_some_iff.1 found
  obtain ⟨behind, equals, found⟩ := Option.bind_eq_some_iff.1 found
  obtain ⟨⟨_, more⟩, value, same⟩ := Option.bind_eq_some_iff.1 found
  cases same
  have := length_keyPath?_le path
  have := length_after?_lt equals
  have := length_skipBlanks_le behind
  have := consumes value
  have := length_skipBlanks_le more
  omega

/-- The items of an array behind its opening bracket. A comma may follow the last one. -/
def items? (value : Parser Value) (consumes : value.Consumes) (text : List Char) :
    Option (List Value × List Char) :=
  match _before : skipSpace? false text with
  | none => none
  | some (']' :: rest) => some ([], rest)
  | some start =>
    match _item : value start with
    | none => none
    | some (item, rest) =>
      match _behind : skipSpace? false rest with
      | some (']' :: rest) => some ([item], rest)
      | some (',' :: rest) =>
        (items? value consumes rest).map fun (items, rest) => (item :: items, rest)
      | _ => none
termination_by text.length
decreasing_by
  have := length_skipSpace?_le _before
  have := consumes _item
  have := length_skipSpace?_le _behind
  simp only [List.length_cons] at *
  omega

theorem items?_consumes {value : Parser Value} (consumes : value.Consumes) :
    Parser.Consumes (items? value consumes) := by
  intro text rest items found
  fun_induction items? value consumes text generalizing items with
  | case1 => cases found
  | case2 text more before =>
    cases found
    have := length_skipSpace?_le before
    simp only [List.length_cons] at *
    omega
  | case3 => cases found
  | case4 text start _ before item more first last behind =>
    cases found
    have := length_skipSpace?_le before
    have := consumes first
    have := length_skipSpace?_le behind
    simp only [List.length_cons] at *
    omega
  | case5 text start _ before item more first others behind ih =>
    obtain ⟨_, others, same⟩ := Option.map_eq_some_iff.1 found
    cases same
    have := length_skipSpace?_le before
    have := consumes first
    have := length_skipSpace?_le behind
    have := ih others
    simp only [List.length_cons] at *
    omega
  | case6 => cases found

/-- The assignments of an inline table behind its opening brace, of which there is at least one. -/
def assignments? (value : Parser Value) (consumes : value.Consumes) (text : List Char) :
    Option (List (List String × Value) × List Char) :=
  match _first : assignment? value text with
  | some (first, '}' :: rest) => some ([first], rest)
  | some (first, ',' :: rest) =>
    (assignments? value consumes rest).map fun (others, rest) => (first :: others, rest)
  | _ => none
termination_by text.length
decreasing_by
  have := assignment?_consumes consumes _first
  simp only [List.length_cons] at *
  omega

theorem assignments?_consumes {value : Parser Value} (consumes : value.Consumes) :
    Parser.Consumes (assignments? value consumes) := by
  intro text rest assignments found
  fun_induction assignments? value consumes text generalizing assignments with
  | case1 text first more read =>
    cases found
    have := assignment?_consumes consumes read
    simp only [List.length_cons] at *
    omega
  | case2 text first more read ih =>
    obtain ⟨_, others, same⟩ := Option.map_eq_some_iff.1 found
    cases same
    have := assignment?_consumes consumes read
    have := ih others
    simp only [List.length_cons] at *
    omega
  | case3 => cases found

def array? (value : Parser Value) (consumes : value.Consumes) (text : List Char) :
    Option (Value × List Char) := do
  let (items, rest) ← items? value consumes text
  return (.array items, rest)

def inlineTable? (value : Parser Value) (consumes : value.Consumes) (text : List Char) :
    Option (Value × List Char) := do
  match skipBlanks text with
  | '}' :: rest => return (.table .inlined [], rest)
  | text =>
    let (assignments, rest) ← assignments? value consumes text
    let entries ← Entries.ofAssignments assignments
    return (.table .inlined entries, rest)

/-- A value whose parts, if it has any, are read by the given parser. -/
def compound? (value : Parser Value) (consumes : value.Consumes) (text : List Char) :
    Option (Value × List Char) :=
  match text with
  | '[' :: rest => array? value consumes rest
  | '{' :: rest => inlineTable? value consumes rest
  | _ => scalar? text

theorem compound?_consumes {value : Parser Value} (consumes : value.Consumes) :
    Parser.Consumes (compound? value consumes) := by
  intro text rest read found
  unfold compound? at found
  split at found
  · obtain ⟨_, items, same⟩ := Option.bind_eq_some_iff.1 found
    cases same
    exact Nat.lt_succ_of_lt (items?_consumes consumes items)
  · next more =>
    have := length_skipBlanks_le more
    unfold inlineTable? at found
    split at found
    · next blanks =>
      cases found
      rw [blanks] at this
      simp only [List.length_cons] at *
      omega
    · obtain ⟨_, assignments, found⟩ := Option.bind_eq_some_iff.1 found
      obtain ⟨_, _, same⟩ := Option.bind_eq_some_iff.1 found
      cases same
      have := assignments?_consumes consumes assignments
      simp only [List.length_cons]
      omega
  · exact length_scalar?_lt found

/-- Reads values in which at most `depth` arrays and inline tables enclose each other. -/
def valueParser : (depth : Nat) → {parser : Parser Value // parser.Consumes}
  | 0 => ⟨scalar?, fun found => length_scalar?_lt found⟩
  | depth + 1 =>
    let inner := valueParser depth
    ⟨compound? inner.1 inner.2, compound?_consumes inner.2⟩

def value? : Parser Value :=
  (valueParser maxDepth).1

theorem value?_consumes : Parser.Consumes value? :=
  (valueParser maxDepth).2

def statement? (text : List Char) : Option (Statement × List Char) :=
  match text with
  | '[' :: '[' :: rest => do
    let (path, rest) ← keyPath? maxKeyParts rest
    return (.arrayHeader path, ← after? ']' (← after? ']' rest))
  | '[' :: rest => do
    let (path, rest) ← keyPath? maxKeyParts rest
    return (.header path, ← after? ']' rest)
  | _ => do
    let ((path, value), rest) ← assignment? value? text
    return (.assignment path value, rest)

theorem statement?_consumes : Parser.Consumes statement? := by
  intro text rest statement found
  unfold statement? at found
  split at found
  · obtain ⟨⟨_, _⟩, path, found⟩ := Option.bind_eq_some_iff.1 found
    obtain ⟨_, bracket, found⟩ := Option.bind_eq_some_iff.1 found
    obtain ⟨_, otherBracket, same⟩ := Option.bind_eq_some_iff.1 found
    cases same
    have := length_keyPath?_le path
    have := length_after?_lt bracket
    have := length_after?_lt otherBracket
    simp only [List.length_cons]
    omega
  · obtain ⟨⟨_, _⟩, path, found⟩ := Option.bind_eq_some_iff.1 found
    obtain ⟨_, bracket, same⟩ := Option.bind_eq_some_iff.1 found
    cases same
    have := length_keyPath?_le path
    have := length_after?_lt bracket
    simp only [List.length_cons]
    omega
  · obtain ⟨⟨_, _⟩, assigned, same⟩ := Option.bind_eq_some_iff.1 found
    cases same
    exact assignment?_consumes value?_consumes assigned

/-- The statements of a document. Each has to be the only one on its line. -/
def statements? (text : List Char) : Option (List Statement) :=
  if _more : text = [] then some []
  else
    match _empty : lineEnd? text with
    | some rest => statements? rest
    | none =>
      match _read : statement? (skipBlanks text) with
      | none => none
      | some (statement, rest) =>
        match _ended : lineEnd? rest with
        | none => none
        | some rest => (statements? rest).map (statement :: ·)
termination_by text.length
decreasing_by
  · exact length_lineEnd?_lt _empty _more
  · have := length_skipBlanks_le text
    have := statement?_consumes _read
    have := length_lineEnd?_le _ended
    omega

/-- Reads a document, which may begin with a byte order mark. -/
def read? (text : List Char) : Option Entries := do
  let statements ← statements? (match text with
    | '\ufeff' :: rest => rest
    | _ => text)
  Entries.ofStatements statements

end AnalyzerBoot.Toml
