import AnalyzerBoot.Host
import AnalyzerBoot.Retry

/-!
Waiting for a device to come back after an upload. The wait is measured from the upload, so time
that was spent otherwise counts against it.
-/

set_option autoImplicit false

namespace AnalyzerBoot

structure RenumerationPolicy where
  -- Slept before the first attempt.
  settle : Nat := Chip.settleTime
  -- Slept between attempts.
  pollInterval : Nat := Chip.pollInterval
  -- The wait is over once more time than this has passed since the upload.
  maxDelay : Nat := Chip.maxDelay
  deriving DecidableEq, Repr

namespace Renumeration

variable {σ α : Type}

/-- Sleeps between two attempts and reports the time since the upload. Sleeping takes at least one
tick, so that time passes even if the poll interval is zero. -/
def pause (uploadedAt : Instant) (pollInterval : Nat) : StateM (Host σ) Duration := do
  Host.sleep (max (.ofMilliseconds pollInterval) 1)
  let elapsed ← Host.elapsed uploadedAt
  Host.emit (.waitingForRenumeration elapsed.milliseconds)
  return elapsed

/-- As many further attempts as fit before the deadline at one each tick. -/
def attemptLimit (uploadedAt now : Instant) (maxDelay : Duration) : Nat :=
  maxDelay + uploadedAt.since now

/-- Makes attempts until one succeeds, from the settle time on until the deadline. Without an
upload there is nothing to wait for, and one attempt decides. -/
def wait (uploadedAt : Option Instant) (policy : RenumerationPolicy)
    (attempt : StateM (Host σ) (Except BringupError α)) :
    StateM (Host σ) (Except BringupError α) := do
  match uploadedAt with
  | none => attempt
  | some instant =>
    Host.sleep (.ofMilliseconds policy.settle)
    let maxDelay := Duration.ofMilliseconds policy.maxDelay
    let limit := attemptLimit instant (← Host.now) maxDelay
    let outcome ← Retry.untilDeadline maxDelay attempt (pause instant policy.pollInterval) limit
    match outcome with
    | .success value => return .ok value
    | .expired report | .exhausted report =>
      let waited := Duration.milliseconds report.elapsed
      return .error (.renumerationTimeout waited report.lastError.message)

end Renumeration

end AnalyzerBoot
