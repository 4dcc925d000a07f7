import AnalyzerBoot.Toml.Quoting
import AnalyzerBoot.Toml.Value

/-!
TOML values without parts: strings, booleans, integers, floats, dates and times. Integers have 64
bits with a sign. Of floats and dates only the syntax and the limits matter here.
-/

set_option autoImplicit false

namespace AnalyzerBoot.Toml

/-! Numbers -/

/-- Further digits; a single underscore may stand in front of each and does not count. -/
def moreDigits (isDigit : Char → Bool) : List Char → List Char × List Char
  | '_' :: c :: rest =>
    if isDigit c then
      let (digits, rest) := moreDigits isDigit rest
      (c :: digits, rest)
    else ([], '_' :: c :: rest)
  | c :: rest =>
    if isDigit c then
      let (digits, rest) := moreDigits isDigit rest
      (c :: digits, rest)
    else ([], c :: rest)
  | [] => ([], [])

/-- One digit or more, with single underscores between them. -/
def digits? (isDigit : Char → Bool) : Parser (List Char)
  | c :: rest =>
    if isDigit c then
      let (digits, rest) := moreDigits isDigit rest
      some (c :: digits, rest)
    else none
  | [] => none

/-- Decimal digits, of which the first is no zero unless it is the only one. -/
def decimal? : Parser (List Char)
  | '0' :: rest => some (['0'], rest)
  | text => digits? Char.isDigit text

/-- Whether a minus sign begins the text, and what follows a sign of either kind. -/
def sign : List Char → Bool × List Char
  | '-' :: rest => (true, rest)
  | '+' :: rest => (false, rest)
  | text => (false, text)

def signed (negative : Bool) (magnitude : Nat) : Int :=
  if negative then -magnitude else magnitude

/-- The number that decimal digits without leading zeros stand for. Twenty of them are too many for
64 bits already, so further ones do not matter. -/
def decimalValue (digits : List Char) : Nat :=
  Nat.ofDigitChars 10 (digits.take 20) 0

/-- The number that the digits of a base stand for. Whatever the base, 65 digits behind leading
zeros are too many for 64 bits, so further ones do not matter. -/
def radixValue (base : Nat) (digits : List Char) : Nat :=
  ((digits.dropWhile (· == '0')).take 65).foldl
    (fun value c => base * value + Text.hexDigitValue c) 0

def integerOf? (value : Int) : Option Value :=
  if -0x8000000000000000 ≤ value ∧ value < 0x8000000000000000 then some (.integer value) else none

def radix? (base : Nat) (isDigit : Char → Bool) (text : List Char) :
    Option (Value × List Char) := do
  let (digits, rest) ← digits? isDigit text
  let value ← integerOf? (radixValue base digits)
  return (value, rest)

def fraction? : Parser (List Char)
  | '.' :: rest => digits? Char.isDigit rest
  | _ => none

/-- The size of an exponent. Once it has reached 2^16, further digits are passed over. -/
def exponentValue (digits : List Char) : Nat :=
  digits.foldl
    (fun value c => if value < UInt16.size then 10 * value + Text.hexDigitValue c else value) 0

def exponent? : Parser Int
  | c :: rest =>
    if c = 'e' ∨ c = 'E' then do
      let (negative, rest) := sign rest
      let (digits, rest) ← digits? Char.isDigit rest
      return (signed negative (exponentValue digits), rest)
    else none
  | [] => none

/-- What makes a float of an integer: a fraction, an exponent or both. -/
def floatTail? (text : List Char) : Option ((List Char × Int) × List Char) :=
  match fraction? text with
  | some (digits, rest) =>
    match exponent? rest with
    | some (exponent, rest) => some ((digits, exponent), rest)
    | none => some ((digits, 0), rest)
  | none => (exponent? text).map fun (exponent, rest) => (([], exponent), rest)

/-- The least number that is nearer to 2^1024 than to the greatest finite float. -/
def floatLimit : Nat := 1 <<< 1024 - 1 <<< 970

def floatPlaces : Nat := 309

/-- Whether decimal digits, times a power of ten, are too large for a finite float. Of a number with
as many places as the limit only the whole part counts, since the limit is whole. -/
def overflows (digits : List Char) (exponent : Int) : Bool :=
  let significant := digits.dropWhile (· == '0')
  let places := significant.length + exponent
  if significant = [] ∨ places < floatPlaces then false
  else if floatPlaces < places then true
  else
    let whole := (significant ++ List.replicate floatPlaces '0').take floatPlaces
    floatLimit ≤ Nat.ofDigitChars 10 whole 0

/-- An integer or a float that begins with digits. Floats below all finite ones are accepted, those
above are not. -/
def decimalNumber? (negative : Bool) (text : List Char) : Option (Value × List Char) := do
  let (digits, rest) ← decimal? text
  match floatTail? rest with
  | some ((fraction, exponent), rest) =>
    if !negative && overflows (digits ++ fraction) (exponent - fraction.length) then none
    else some (.float, rest)
  | none =>
    let value ← integerOf? (signed negative (decimalValue digits))
    return (value, rest)

def number? (text : List Char) : Option (Value × List Char) :=
  match text with
  | '0' :: 'x' :: rest => radix? 16 Text.isHexDigit rest
  | '0' :: 'o' :: rest => radix? 8 (fun c => '0' ≤ c && c ≤ '7') rest
  | '0' :: 'b' :: rest => radix? 2 (fun c => c == '0' || c == '1') rest
  | _ =>
    match sign text with
    | (_, 'i' :: 'n' :: 'f' :: rest) => some (.float, rest)
    | (_, 'n' :: 'a' :: 'n' :: rest) => some (.float, rest)
    | (negative, rest) => decimalNumber? negative rest

/-! Dates and times -/

def twoDigits? (low high : Nat) : Parser Nat
  | a :: b :: rest => do
    let value ← Text.readDecimal? [a, b]
    if low ≤ value ∧ value ≤ high then some (value, rest) else none
  | _ => none

def isLeapYear (year : Nat) : Bool :=
  year % 4 == 0 && (year % 100 != 0 || year % 400 == 0)

def daysInMonth (year month : Nat) : Nat :=
  if month = 2 then if isLeapYear year then 29 else 28
  else if month ∈ [4, 6, 9, 11] then 30
  else 31

def date? : List Char → Option (List Char)
  | a :: b :: c :: d :: rest => do
    let year ← Text.readDecimal? [a, b, c, d]
    let (month, rest) ← twoDigits? 1 12 (← after? '-' rest)
    let (_, rest) ← twoDigits? 1 (daysInMonth year month) (← after? '-' rest)
    return rest
  | _ => none

def skipFraction : List Char → List Char
  | '.' :: c :: rest => if c.isDigit then rest.dropWhile Char.isDigit else '.' :: c :: rest
  | text => text

/-- What follows a time of day. The last minute of a day may have a leap second. -/
def time? (text : List Char) : Option (List Char) := do
  let (_, rest) ← twoDigits? 0 23 text
  let (_, rest) ← twoDigits? 0 59 (← after? ':' rest)
  let (_, rest) ← twoDigits? 0 60 (← after? ':' rest)
  return skipFraction rest

def offset? : List Char → Option (List Char)
  | c :: rest =>
    if c = 'Z' ∨ c = 'z' then some rest
    else if c = '+' ∨ c = '-' then do
      let (_, rest) ← twoDigits? 0 23 rest
      let (_, rest) ← twoDigits? 0 59 (← after? ':' rest)
      return rest
    else none
  | [] => none

def timeOfDate? : List Char → Option (List Char)
  | c :: rest =>
    if c = 'T' ∨ c = 't' ∨ c = ' ' then (time? rest).map fun rest => (offset? rest).getD rest
    else none
  | [] => none

/-- What follows a date, possibly with a time, or a time. -/
def dateTime? (text : List Char) : Option (List Char) :=
  match date? text with
  | some rest => some ((timeOfDate? rest).getD rest)
  | none => time? text

/-! All of them -/

def scalar? (text : List Char) : Option (Value × List Char) :=
  match text with
  | '"' :: _ | '\'' :: _ =>
    (string text).map fun (value, rest) => (.string (String.ofList value), rest)
  | 't' :: 'r' :: 'u' :: 'e' :: rest => some (.boolean true, rest)
  | 'f' :: 'a' :: 'l' :: 's' :: 'e' :: rest => some (.boolean false, rest)
  | _ =>
    match dateTime? text with
    | some rest => some (.dateTime, rest)
    | none => number? text

end AnalyzerBoot.Toml
