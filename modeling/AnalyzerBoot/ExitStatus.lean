/-!
How a run of a program ends.
-/

set_option autoImplicit false

namespace AnalyzerBoot

inductive ExitStatus where
  | success
  -- What was asked for failed.
  | failure
  -- The arguments ask for nothing that the program can do.
  | refused
  deriving DecidableEq, Repr

def ExitStatus.code : ExitStatus → UInt32
  | success => 0
  | failure => 1
  | refused => 2

end AnalyzerBoot
