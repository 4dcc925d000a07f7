/-!
Which arguments a program takes. A program has commands; each has options, which begin with dashes,
and operands, which do not. Options of the program may be given in front of the command or behind
it.
-/

set_option autoImplicit false

namespace AnalyzerBoot.Arguments

inductive Meaning where
  -- Asks for a help text.
  | help
  -- Asks for the version of the program.
  | version
  -- Stands alone and is given at most once.
  | flag
  -- Has a value, and is given at most once unless it is repeatable.
  | value (name : String) (accepts : String → Bool) (repeatable : Bool)

structure Opt where
  -- Given behind two dashes.
  name : String
  -- Given behind one dash, possibly together with others.
  letter : Option Char := none
  meaning : Meaning
  about : String := ""

inductive Operands where
  -- A command with arguments of its own.
  | command
  | none
  -- Exactly one text.
  | one (name : String) (accepts : String → Bool)
  -- All arguments from the first one on that is no option of the command.
  | all (name : String)

structure Command where
  name : String
  about : String
  options : List Opt := []
  operands : Operands := .none

structure Program where
  name : String
  about : String
  -- The text that shows the version. A program without one has no option for it.
  version : Option String := none
  -- Options that all commands take too.
  options : List Opt := []
  commands : List Command

def helpOption : Opt :=
  ⟨"help", some 'h', .help, "Print help"⟩

def versionOption : Opt :=
  ⟨"version", some 'V', .version, "Print version"⟩

structure Level where
  options : List Opt
  operands : Operands

namespace Program

/-- What stands in front of the command, and the command itself. -/
def root (program : Program) : Level :=
  ⟨program.options ++ [helpOption] ++ program.version.toList.map fun _ => versionOption, .command⟩

def level (program : Program) (command : Command) : Level :=
  ⟨command.options ++ program.options ++ [helpOption], command.operands⟩

def command? (program : Program) (name : String) : Option Command :=
  program.commands.find? (·.name == name)

end Program

end AnalyzerBoot.Arguments
