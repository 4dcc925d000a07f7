/-!
TOML values and how tables are filled. A table may be defined by a header, implied by the header of
a table inside it, made by a dotted key, or written inline; which of these it is decides what may
still be added to it. Nothing is ever defined twice.
-/

set_option autoImplicit false

namespace AnalyzerBoot.Toml

inductive TableKind where
  -- Has a header of its own, or is the document.
  | defined
  -- Only mentioned on the way to another table.
  | implied
  -- Made by a dotted key.
  | dotted
  | inlined
  deriving DecidableEq, Repr

inductive Value where
  | string (value : String)
  | integer (value : Int)
  -- A number with a fraction or exponent, or one that is not finite.
  | float
  | boolean (value : Bool)
  | dateTime
  | array (items : List Value)
  | table (kind : TableKind) (entries : List (String × Value))
  -- Tables with the same header in double brackets.
  | tables (elements : List (List (String × Value)))

abbrev Entries := List (String × Value)

namespace Entries

def replace (entries : Entries) (key : String) (value : Value) : Entries :=
  entries.map fun entry => if entry.1 = key then (key, value) else entry

def define (entries : Entries) (key : String) (value : Value) : Option Entries :=
  match entries.lookup key with
  | none => some (entries ++ [(key, value)])
  | some _ => none

/-- Changes the table that a path leads to. Tables that do not exist are made, of the given kind; of
several tables with one header the last is meant. Dotted keys do not lead into defined tables, and
nothing leads into inline tables and other values. -/
def descend (kind : TableKind) (change : TableKind → Entries → Option Entries) :
    (path : List String) → TableKind → Entries → Option Entries
  | [], here, entries => change here entries
  | key :: path, _, entries =>
    match entries.lookup key with
    | none => do
      let inner ← descend kind change path kind []
      return entries ++ [(key, .table kind inner)]
    | some (.table inside inner) =>
      if inside = .inlined ∨ (kind = .dotted ∧ inside = .defined) then none
      else do
        let inner ← descend kind change path inside inner
        return entries.replace key (.table inside inner)
    | some (.tables elements) => do
      let last ← elements.getLast?
      let last ← descend kind change path .defined last
      return entries.replace key (.tables (elements.dropLast ++ [last]))
    | some _ => none

/-- Assigns to a key that may be dotted. The table that holds its last part is then a dotted one. -/
def assign (entries : Entries) (path : List String) (value : Value) : Option Entries := do
  let key ← path.getLast?
  descend .dotted
    (fun here entries =>
      if path.dropLast ≠ [] ∧ here ≠ .dotted then none else entries.define key value)
    path.dropLast .defined entries

/-- Starts the table of a header. It may be implied already, but not defined. -/
def addHeader (entries : Entries) (path : List String) : Option Entries := do
  let key ← path.getLast?
  descend .implied
    (fun _ entries =>
      match entries.lookup key with
      | none => some (entries ++ [(key, .table .defined [])])
      | some (.table .implied inner) => some (entries.replace key (.table .defined inner))
      | some _ => none)
    path.dropLast .defined entries

/-- Starts a further table of a header in double brackets. -/
def addArrayHeader (entries : Entries) (path : List String) : Option Entries := do
  let key ← path.getLast?
  descend .implied
    (fun _ entries =>
      match entries.lookup key with
      | none => some (entries ++ [(key, .tables [[]])])
      | some (.tables elements) => some (entries.replace key (.tables (elements ++ [[]])))
      | some _ => none)
    path.dropLast .defined entries

def assignIn (entries : Entries) (header path : List String) (value : Value) : Option Entries :=
  descend .implied (fun _ entries => entries.assign path value) header .defined entries

def ofAssignments (assignments : List (List String × Value)) : Option Entries :=
  assignments.foldlM (fun entries (path, value) => assign entries path value) []

end Entries

inductive Statement where
  | header (path : List String)
  | arrayHeader (path : List String)
  | assignment (path : List String) (value : Value)

/-- The entries of a document: assignments go to the table of the latest header. -/
def Entries.ofStatements (statements : List Statement) : Option Entries :=
  (statements.foldlM step (([] : List String), ([] : Entries))).map Prod.snd
where
  step (state : List String × Entries) : Statement → Option (List String × Entries)
    | .header path => (state.2.addHeader path).map (path, ·)
    | .arrayHeader path => (state.2.addArrayHeader path).map (path, ·)
    | .assignment path value => (state.2.assignIn state.1 path value).map (state.1, ·)

end AnalyzerBoot.Toml
