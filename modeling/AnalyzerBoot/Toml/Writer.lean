import AnalyzerBoot.Toml.Reader

/-!
Writing a TOML document of assignments, one key after the other. The values are strings, integers
and booleans, and arrays of these.
-/

set_option autoImplicit false

namespace AnalyzerBoot.Toml

def writeKey (key : List Char) : List Char :=
  if key ≠ [] ∧ key.all isBareKeyChar then key
  else ['"'] ++ escapeChars false 0 key ++ ['"']

def writeInteger (value : Int) : List Char :=
  if value < 0 then '-' :: Nat.toDigits 10 value.natAbs else Nat.toDigits 10 value.natAbs

/-- A value without parts, unless it is an integer that needs more than 64 bits. -/
def writeScalar? : Value → Option (List Char)
  | .string value => some (writeString value.toList)
  | .integer value => (integerOf? value).map fun _ => writeInteger value
  | .boolean value => some (if value then "true" else "false").toList
  | _ => none

def arrayLine (item : List Char) : List Char :=
  "    ".toList ++ item ++ [',', '\n']

/-- An array of several items has a line for each. -/
def writeArray : List (List Char) → List Char
  | [] => ['[', ']']
  | [item] => '[' :: item ++ [']']
  | items =>
    ['[', '\n'] ++ items.flatMap arrayLine ++ [']']

def writeValue? : Value → Option (List Char)
  | .array items => (items.mapM writeScalar?).map writeArray
  | value => writeScalar? value

def writeEntry? (entry : String × Value) : Option (List Char) :=
  (writeValue? entry.2).map fun value =>
    writeKey entry.1.toList ++ [' ', '=', ' '] ++ value ++ ['\n']

def write? (entries : Entries) : Option (List Char) :=
  (entries.mapM writeEntry?).map List.flatten

end AnalyzerBoot.Toml
