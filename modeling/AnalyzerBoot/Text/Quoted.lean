import AnalyzerBoot.Text.Digits
import AnalyzerBoot.Text.Visible

/-!
Texts shown between double quotes so that every character can be told apart. Quotes, backslashes
and characters without a visible form of their own are written as escapes; a single quote is not.
-/

set_option autoImplicit false

namespace AnalyzerBoot.Text

def codePointEscape (c : Char) : List Char :=
  "\\u\x7b".toList ++ hexMinimal .lower c.toNat ++ ['}']

def quoteChar (c : Char) : List Char :=
  match c with
  | '\x00' => ['\\', '0']
  | '\t' => ['\\', 't']
  | '\n' => ['\\', 'n']
  | '\r' => ['\\', 'r']
  | '"' => ['\\', '"']
  | '\\' => ['\\', '\\']
  | _ => if isVisible c then [c] else codePointEscape c

def quote (text : String) : String :=
  String.ofList ('"' :: text.toList.flatMap quoteChar ++ ['"'])

end AnalyzerBoot.Text
