import AnalyzerBoot.Arguments.Grammar
import AnalyzerBoot.Text.Layout

/-!
Help texts: what a program or a command is for, how it is called, and a table for each kind of
argument. The descriptions in a table begin in one column.
-/

set_option autoImplicit false

namespace AnalyzerBoot.Arguments

def Opt.usage (opt : Opt) : String :=
  match opt.meaning with
  | .value name _ _ => "--" ++ opt.name ++ " <" ++ name ++ ">"
  | _ => "--" ++ opt.name

/-- The usage behind the letter of the option, or behind as many blanks. -/
def Opt.label (opt : Opt) : String :=
  match opt.letter with
  | some letter => "-" ++ String.ofList [letter] ++ ", " ++ opt.usage
  | none => "    " ++ opt.usage

def Operands.usage : Operands → String
  | .command => "<COMMAND>"
  | .none => ""
  | .one name _ => "<" ++ name ++ ">"
  | .all name => "[" ++ name ++ "]..."

/-- A titled table of labels and descriptions, with an empty line in front of it. -/
def table (title : String) (rows : List (String × String)) : String :=
  let width := (rows.map fun row => row.1.length).foldl max 0
  if rows = [] then ""
  else "\n" ++ title ++ ":\n" ++ String.join (rows.map fun (label, about) =>
    "  " ++ Text.padRight (width + 2) label ++ about ++ "\n")

/-- A call with its options, if there are others than those for help and version, and operands. -/
def call (name : String) (options : List Opt) (operands : Operands) : String :=
  "\nUsage: " ++ " ".intercalate
    ([name, if options.isEmpty then "" else "[OPTIONS]", operands.usage].filter (· ≠ "")) ++ "\n"

/-- Options are listed in the order in which they are looked for. -/
def optionTable (options : List Opt) : String :=
  table "Options" (options.map fun opt => (opt.label, opt.about))

namespace Program

def helpCommand : Command :=
  { name := "help"
    about := "Print this message or the help of the given subcommand(s)"
    operands := .all "COMMAND" }

def help (program : Program) : String :=
  program.about ++ "\n" ++ call program.name program.options .command ++
    table "Commands" ((program.commands ++ [helpCommand]).map fun command =>
      (command.name, command.about)) ++
    optionTable program.root.options

def commandHelp (program : Program) (command : Command) : String :=
  command.about ++ "\n" ++
    call (program.name ++ " " ++ command.name) (command.options ++ program.options)
      command.operands ++
    table "Arguments" (match command.operands with
      | .one _ _ | .all _ => [(command.operands.usage, "")]
      | .command | .none => []) ++
    optionTable (program.level command).options

def helpHelp (program : Program) : String :=
  helpCommand.about ++ "\n" ++ call (program.name ++ " help") [] helpCommand.operands ++
    table "Arguments" [(helpCommand.operands.usage, "Print help for the subcommand(s)")]

end Program

end AnalyzerBoot.Arguments
