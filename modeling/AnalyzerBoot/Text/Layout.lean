/-!
Placing a text in a column. Widths count characters; a text at least as wide as its column is
left as it is.
-/

set_option autoImplicit false

namespace AnalyzerBoot.Text

def blanks (fill : Char) (count : Nat) : String :=
  String.ofList (List.replicate count fill)

def padRight (width : Nat) (text : String) : String :=
  text ++ blanks ' ' (width - text.length)

def padLeft (width : Nat) (text : String) : String :=
  blanks ' ' (width - text.length) ++ text

/-- An odd number of fill characters puts the extra one on the right. -/
def center (fill : Char) (width : Nat) (text : String) : String :=
  let missing := width - text.length
  blanks fill (missing / 2) ++ text ++ blanks fill (missing - missing / 2)

def cut (width : Nat) (text : String) : String :=
  String.ofList (text.toList.take width)

end AnalyzerBoot.Text
