import AnalyzerBoot.Setting.Key
import AnalyzerBoot.Text.Quoted

/-!
Values that settings take, as they are shown and as a complaint about a wrong value names them.
-/

set_option autoImplicit false

namespace AnalyzerBoot.Setting

structure Access where
  key : Key
  get : Bool
  set : Bool
  list : Bool
  deriving DecidableEq, Repr

inductive Trigger where
  | zero
  | one
  | rising
  | falling
  | edge
  deriving DecidableEq, Repr

inductive Value where
  | integer (value : Nat)
  | text (value : String)
  | samplerates (rates : List Nat)
  | triggers (conditions : List Trigger)
  | keys (list : List Key)
  | options (list : List Access)
  deriving DecidableEq, Repr

def commaSeparated (items : List String) : String :=
  ", ".intercalate items

def Trigger.text : Trigger → String
  | zero => "0"
  | one => "1"
  | rising => "r"
  | falling => "f"
  | edge => "e"

def Trigger.label : Trigger → String
  | zero => "Zero"
  | one => "One"
  | rising => "Rising"
  | falling => "Falling"
  | edge => "Edge"

namespace Access

/-- The key, with the operations it has in parentheses. -/
def text (access : Access) : String :=
  let operations := [(access.get, "get"), (access.set, "set"), (access.list, "list")].filterMap
    fun (allowed, name) => if allowed then some name else none
  access.key.name ++ if operations.isEmpty then "" else " (" ++ commaSeparated operations ++ ")"

private def flagText (name : String) (value : Bool) : String :=
  name ++ ": " ++ if value then "true" else "false"

def label (access : Access) : String :=
  "DeviceOption \x7b " ++ commaSeparated ["key: " ++ access.key.label, flagText "get" access.get,
    flagText "set" access.set, flagText "list" access.list] ++ " \x7d"

end Access

namespace Value

def toText : Value → String
  | integer value => toString value
  | text value => value
  | samplerates rates => commaSeparated (rates.map toString)
  | triggers conditions => commaSeparated (conditions.map Trigger.text)
  | keys list => commaSeparated (list.map Key.name)
  | options list => commaSeparated (list.map Access.text)

private def listLabel (kind : String) (items : List String) : String :=
  kind ++ "([" ++ commaSeparated items ++ "])"

/-- The kind of a value and what it holds, texts between quotes. -/
def label : Value → String
  | integer value => "U64(" ++ toString value ++ ")"
  | text value => "Str(" ++ Text.quote value ++ ")"
  | samplerates rates => listLabel "Samplerates" (rates.map toString)
  | triggers conditions => listLabel "TriggerMatches" (conditions.map Trigger.label)
  | keys list => listLabel "Keys" (list.map Key.label)
  | options list => listLabel "DeviceOptions" (list.map Access.label)

end Value

end AnalyzerBoot.Setting
