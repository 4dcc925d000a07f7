import AnalyzerBoot.Arguments.Help

/-!
Reading the arguments of a program from left to right. The first thing that is wrong, or that asks
for a help text, decides; only an option whose value stands directly in front of the command is
looked at after the arguments of the command.
-/

set_option autoImplicit false

namespace AnalyzerBoot.Arguments

inductive Form where
  -- Two dashes alone: only operands follow.
  | separator
  | name (name : List Char) (value : Option (List Char))
  | letters (letters : List Char)
  -- Everything without a dash in front, and a dash alone.
  | operand
  deriving DecidableEq, Repr

def Form.of (argument : String) : Form :=
  match argument.toList with
  | ['-', '-'] => .separator
  | '-' :: '-' :: text =>
    let isName := fun c : Char => c != '='
    .name (text.takeWhile isName) (text.dropWhile isName).tail?
  | '-' :: c :: more => .letters (c :: more)
  | _ => .operand

inductive Stop where
  | refused
  | help
  | version
  deriving DecidableEq, Repr

/-- The options with their values and the operands that were given, in their order. -/
structure Given where
  options : List (String × String) := []
  operands : List String := []
  deriving DecidableEq, Repr

namespace Given

def values (given : Given) (name : String) : List String :=
  (given.options.filter (·.1 == name)).map Prod.snd

def value? (given : Given) (name : String) : Option String :=
  (given.values name).head?

def has (given : Given) (name : String) : Bool :=
  !(given.values name).isEmpty

def addOption (given : Given) (name value : String) : Given :=
  { given with options := given.options ++ [(name, value)] }

/-- Adds the options that were given further outside, as far as they were not given again. -/
def within (given outer : Given) : Given :=
  { given with
    options := given.options ++ outer.options.filter fun (name, _) => !given.has name }

end Given

def Opt.take (opt : Opt) (value : Option String) (given : Given) : Except Stop Given :=
  match opt.meaning, value with
  | .help, none => .error .help
  | .version, none => .error .version
  | .flag, none => if given.has opt.name then .error .refused else .ok (given.addOption opt.name "")
  | .value _ accepts repeatable, some value =>
    if accepts value && (repeatable || !given.has opt.name) then
      .ok (given.addOption opt.name value)
    else .error .refused
  | _, _ => .error .refused

structure Progress where
  given : Given
  -- An option that is yet to be taken, with its value.
  held : Option (Opt × String) := none
  -- The command and its arguments, if there is one.
  rest : List String := []

/-- What was given, the held option included. -/
def Progress.settle (progress : Progress) : Except Stop Given :=
  match progress.held with
  | some (opt, value) => opt.take (some value) progress.given
  | none => .ok progress.given

def Opt.needsValue (opt : Opt) : Bool :=
  match opt.meaning with
  | .value _ _ _ => true
  | _ => false

def Operands.takeAll : Operands → Bool
  | .all _ => true
  | _ => false

def Operands.add (operands : Operands) (given : Given) (text : String) : Except Stop Given :=
  let added := { given with operands := given.operands ++ [text] }
  match operands with
  | .all _ => .ok added
  | .one _ accepts =>
    if given.operands.isEmpty && accepts text then .ok added else .error .refused
  | .command | .none => .error .refused

namespace Level

def named? (level : Level) (name : List Char) : Option Opt :=
  level.options.find? (·.name.toList == name)

def lettered? (level : Level) (letter : Char) : Option Opt :=
  level.options.find? (·.letter == some letter)

/-- Whether an argument is one of the options, as which it then counts everywhere. -/
def knows (level : Level) : Form → Bool
  | .name name _ => (level.named? name).isSome
  | .letters letters => letters.all fun letter => (level.lettered? letter).isSome
  | .separator | .operand => false

def takeLetters (level : Level) (given : Given) (letters : List Char) : Except Stop Given :=
  letters.foldlM
    (fun given letter => match level.lettered? letter with
      | some opt => opt.take none given
      | none => .error .refused)
    given

def addOperands (level : Level) (given : Given) (texts : List String) : Except Stop Progress := do
  return { given := ← texts.foldlM level.operands.add given }

def isCommand (level : Level) : List String → Bool
  | argument :: _ =>
    match level.operands, Form.of argument with
    | .command, .operand => true
    | _, _ => false
  | [] => false

/-- Reads arguments up to a command, if one may follow, or else all of them. An option may be
waiting for the next argument as its value, which must not be an option itself. -/
def read (level : Level) : (waiting : Option Opt) → Given → List String → Except Stop Progress
  | none, given, [] => .ok { given := given }
  | some _, _, [] => .error .refused
  | some opt, given, argument :: rest =>
    if Form.of argument = .operand then
      if level.isCommand rest then
        .ok { given := given, held := some (opt, argument), rest := rest }
      else do
        let given ← opt.take (some argument) given
        read level none given rest
    else .error .refused
  | none, given, argument :: rest =>
    match level.operands, Form.of argument with
    | _, .separator => level.addOperands given rest
    | .command, .operand => .ok { given := given, rest := argument :: rest }
    | operands, form =>
      if operands.takeAll && !level.knows form then level.addOperands given (argument :: rest)
      else match form with
        | .name name value => do
          let some opt := level.named? name | .error .refused
          if opt.needsValue && value.isNone then read level (some opt) given rest
          else do
            let given ← opt.take (value.map String.ofList) given
            read level none given rest
        | .letters letters => do
          let given ← level.takeLetters given letters
          read level none given rest
        | .separator | .operand => do
          let given ← operands.add given argument
          read level none given rest

end Level

inductive Reading where
  | run (command : String) (given : Given)
  | print (text : String)
  | refused
  deriving DecidableEq, Repr

/-- Adds the options of the program to those of the command, if a command is to be run. -/
def Reading.within (outer : Except Stop Given) : Reading → Reading
  | .run command given =>
    match outer with
    | .ok outer => .run command (given.within outer)
    | .error _ => .refused
  | reading => reading

def Operands.lacks : Operands → Given → Bool
  | .one _ _, given => given.operands.isEmpty
  | _, _ => false

namespace Program

/-- The help text of the command that is named, or of the program. -/
def helpOn (program : Program) : List String → Reading
  | [] => .print program.help
  | [name] =>
    if name = helpCommand.name then .print program.helpHelp
    else match program.command? name with
      | some command => .print (program.commandHelp command)
      | none => .refused
  | _ => .refused

def readCommand (program : Program) (command : Command) (arguments : List String) : Reading :=
  match (program.level command).read none {} arguments with
  | .ok progress =>
    if command.operands.lacks progress.given then .refused else .run command.name progress.given
  | .error .help => .print (program.commandHelp command)
  | .error _ => .refused

def read (program : Program) (arguments : List String) : Reading :=
  match program.root.read none {} arguments with
  | .error .refused => .refused
  | .error .help => .print program.help
  | .error .version => program.version.elim .refused .print
  | .ok progress =>
    match progress.rest with
    | [] => .refused
    | name :: rest =>
      if name = helpCommand.name then program.helpOn rest
      else match program.command? name with
        | some command => (program.readCommand command rest).within progress.settle
        | none => .refused

end Program

end AnalyzerBoot.Arguments
