import AnalyzerBoot.Arguments.Reader
import AnalyzerBoot.ExitStatus

/-!
Tasks around the project: building it, testing it, and running the bring-up tool. Each announces
itself and then leaves its work to the build tool, which is called once.
-/

set_option autoImplicit false

namespace AnalyzerBoot

inductive ProjectTask where
  | build
  | test
  -- Runs the bring-up tool with these arguments.
  | run (arguments : List String)
  deriving DecidableEq, Repr

namespace ProjectTask

def program : Arguments.Program :=
  { name := "xtask"
    about := "Tasks for the project"
    commands :=
      [{ name := "build", about := "Build the project" },
        { name := "test", about := "Run the test suite" },
        { name := "run"
          about := "Run the CLI, passing the remaining arguments through"
          operands := .all "ARGS" }] }

def of? (name : String) (given : Arguments.Given) : Option ProjectTask :=
  match name with
  | "build" => some .build
  | "test" => some .test
  | "run" => some (.run given.operands)
  | _ => none

def announcement : ProjectTask → String
  | build => "Building project...\n"
  | test => "Running tests...\n"
  | run _ => "Running CLI...\n"

def call : ProjectTask → List String
  | build => ["build", "--workspace"]
  | test => ["test", "--workspace"]
  | run arguments => ["run", "-p", "fx3kit-cli", "--"] ++ arguments

inductive Ending where
  | exited (status : Nat)
  -- Ended by a signal.
  | killed
  -- There is no such tool.
  | notStarted
  deriving DecidableEq, Repr

structure Report where
  status : ExitStatus
  output : String := ""
  -- The arguments of the build tool, if it was started.
  called : Option (List String) := none
  deriving DecidableEq, Repr

def report (task : ProjectTask) (ending : Ending) : Report :=
  { status := if ending = .exited 0 then .success else .failure
    output := task.announcement
    called := if ending = .notStarted then none else some task.call }

/-- What comes of a run with some arguments, where `ending` is how the build tool ends. -/
def perform (arguments : List String) (ending : Ending) : Report :=
  match program.read arguments with
  | .run name given =>
    match of? name given with
    | some task => task.report ending
    | none => { status := .refused }
  | .print text => { status := .success, output := text }
  | .refused => { status := .refused }

end ProjectTask

end AnalyzerBoot
