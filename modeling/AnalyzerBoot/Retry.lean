/-!
Trying something again until it works or a deadline has passed. The deadline is looked at after
each pause, so a first attempt is always made, however late it is.
-/

set_option autoImplicit false

namespace AnalyzerBoot.Retry

variable {σ ε α : Type}

structure Report (ε : Type) where
  -- The time read after the last pause.
  elapsed : Nat
  lastError : ε
  attempts : Nat
  deriving DecidableEq, Repr

inductive Outcome (ε α : Type) where
  | success (value : α)
  -- The deadline had passed after a pause.
  | expired (report : Report ε)
  -- The attempts were used up before the deadline had passed.
  | exhausted (report : Report ε)
  deriving DecidableEq, Repr

/-- Makes one attempt and, if it fails, pauses and reads the time that has passed. Without an
outcome there is still time left. -/
def attemptOnce (maxDelay : Nat) (attempt : StateM σ (Except ε α)) (pause : StateM σ Nat)
    (made : Nat) : StateM σ (Except (Report ε) (Outcome ε α)) := do
  match ← attempt with
  | .ok value => return .ok (.success value)
  | .error error =>
    let elapsed ← pause
    let report : Report ε := ⟨elapsed, error, made + 1⟩
    return if maxDelay < elapsed then .ok (.expired report) else .error report

/-- Makes an attempt and, as long as they fail in time, up to `more` further ones. -/
def run (maxDelay : Nat) (attempt : StateM σ (Except ε α)) (pause : StateM σ Nat) (made : Nat) :
    (more : Nat) → StateM σ (Outcome ε α)
  | 0 => do
    match ← attemptOnce maxDelay attempt pause made with
    | .ok outcome => return outcome
    | .error report => return .exhausted report
  | more + 1 => do
    match ← attemptOnce maxDelay attempt pause made with
    | .ok outcome => return outcome
    | .error _ => run maxDelay attempt pause (made + 1) more

/-- Makes attempts until one succeeds or the time read after a pause exceeds `maxDelay`, but no more
than `limit` attempts after the first. -/
def untilDeadline (maxDelay : Nat) (attempt : StateM σ (Except ε α)) (pause : StateM σ Nat)
    (limit : Nat) : StateM σ (Outcome ε α) :=
  run maxDelay attempt pause 0 limit

end AnalyzerBoot.Retry
