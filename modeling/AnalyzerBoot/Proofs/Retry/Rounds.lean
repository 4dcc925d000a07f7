import AnalyzerBoot.Proofs.Steps
import AnalyzerBoot.Retry
import Mathlib.Order.Nat

/-!
Attempts made until a deadline, read as rounds of one attempt and one pause. The first round whose
attempt succeeds, or which ends behind the deadline, is the last one that is made and decides the
outcome; of a clock that every pause moves on, some round is late.
-/

set_option autoImplicit false

namespace AnalyzerBoot.Retry

variable {σ ε α : Type}

section
variable {maxDelay : Nat} {attempt : StateM σ (Except ε α)} {pause : StateM σ Nat}
  {before between after : σ}

theorem run_of_success {value : α} (succeeds : attempt before = (.ok value, after))
    (made more : Nat) :
    run maxDelay attempt pause made more before = (.success value, after) := by
  cases more <;> simp only [run, attemptOnce, bind, StateT.bind, succeeds] <;> rfl

variable {error : ε} {elapsed : Nat} (fails : attempt before = (.error error, between))
  (paused : pause between = (elapsed, after))
include fails paused

theorem run_of_late (late : maxDelay < elapsed) (made more : Nat) :
    run maxDelay attempt pause made more before =
      (.expired ⟨elapsed, error, made + 1⟩, after) := by
  cases more <;>
    simp only [run, attemptOnce, bind, StateT.bind, fails, paused, if_pos late] <;> rfl

theorem run_of_early (early : ¬ maxDelay < elapsed) (made more : Nat) :
    run maxDelay attempt pause made (more + 1) before =
      run maxDelay attempt pause (made + 1) more after := by
  simp only [run, attemptOnce, bind, StateT.bind, fails, paused, if_neg early]
  rfl

/-- Without a further attempt, one that fails in time is the last. -/
theorem run_zero_of_early (early : ¬ maxDelay < elapsed) (made : Nat) :
    run maxDelay attempt pause made 0 before =
      (.exhausted ⟨elapsed, error, made + 1⟩, after) := by
  simp only [run, attemptOnce, bind, StateT.bind, fails, paused, if_neg early]
  rfl

end

/-- The attempt of this number, counted from zero, is the first that succeeds or behind which the
deadline has passed. -/
structure IsLast (maxDelay : Nat) (results : Nat → Except ε α) (readings : Nat → Nat)
    (last : Nat) : Prop where
  ends : (results last).isOk ∨ maxDelay < readings last
  goesOn : ∀ earlier < last, (results earlier).isOk = false ∧ readings earlier ≤ maxDelay

section
variable {maxDelay last : Nat} {results : Nat → Except ε α} {readings : Nat → Nat}

theorem exists_isLast {number : Nat} (ends : (results number).isOk ∨ maxDelay < readings number) :
    ∃ last ≤ number, IsLast maxDelay results readings last := by
  have some : ∃ n, (results n).isOk ∨ maxDelay < readings n := ⟨number, ends⟩
  refine ⟨Nat.find some, Nat.find_min' some ends, Nat.find_spec some, fun earlier before => ?_⟩
  have goesOn := Nat.find_min some before
  rw [not_or, Bool.not_eq_true, Nat.not_lt] at goesOn
  exact goesOn

/-- Among the first attempts one is the last, or each of them is followed by another one. -/
theorem isLast_or_all_early (maxDelay : Nat) (results : Nat → Except ε α) (readings : Nat → Nat)
    (limit : Nat) :
    (∃ last ≤ limit, IsLast maxDelay results readings last) ∨
      ∀ number ≤ limit, (results number).isOk = false ∧ readings number ≤ maxDelay := by
  refine or_iff_not_imp_left.2 fun none number allowed => ?_
  have goesOn : ¬ ((results number).isOk ∨ maxDelay < readings number) := by
    intro ends
    obtain ⟨last, before, isLast⟩ := exists_isLast ends
    exact none ⟨last, before.trans allowed, isLast⟩
  rw [not_or, Bool.not_eq_true, Nat.not_lt] at goesOn
  exact goesOn

/-- No attempt follows one behind which the deadline has passed. -/
theorem IsLast.le_of_late (isLast : IsLast maxDelay results readings last) {number : Nat}
    (late : maxDelay < readings number) : last ≤ number := by
  by_contra before
  exact Nat.not_lt.2 (isLast.goesOn number (Nat.not_le.1 before)).2 late

theorem IsLast.tail (isLast : IsLast maxDelay results readings (last + 1)) :
    IsLast maxDelay (fun n => results (n + 1)) (fun n => readings (n + 1)) last :=
  ⟨isLast.ends, fun earlier before => isLast.goesOn (earlier + 1) (Nat.succ_lt_succ before)⟩

end

/-- One attempt and one pause, whatever the attempt comes to. -/
def round (attempt : StateM σ (Except ε α)) (pause : StateM σ Nat) (before : σ) :
    (Except ε α × Nat) × σ :=
  let tried := attempt before
  let paused := pause tried.2
  ((tried.1, paused.1), paused.2)

section
variable (attempt : StateM σ (Except ε α)) (pause : StateM σ Nat) (start : σ)

/-- The state in front of the attempt of this number, if all those before it are made. -/
def stateAt (number : Nat) : σ :=
  Steps.state (round attempt pause) start number

/-- What the attempt of this number comes to. -/
def result (number : Nat) : Except ε α :=
  (Steps.item (round attempt pause) start number).1

/-- What is read behind the attempt of this number. -/
def reading (number : Nat) : Nat :=
  (Steps.item (round attempt pause) start number).2

theorem stateAt_succ (number : Nat) :
    stateAt attempt pause start (number + 1) =
      (pause (attempt (stateAt attempt pause start number)).2).2 :=
  Steps.state_succ ..

end

section
variable {attempt : StateM σ (Except ε α)} {pause : StateM σ Nat} {maxDelay : Nat} {start : σ}

theorem exists_error (failed : (result attempt pause start 0).isOk = false) :
    ∃ error, attempt start = (.error error, (attempt start).2) := by
  change (attempt start).1.isOk = false at failed
  rcases tried : attempt start with ⟨error | value, between⟩
  · exact ⟨error, rfl⟩
  · rw [tried] at failed
    cases failed

/-- The last round decides, if no fewer attempts than it takes are allowed. -/
theorem run_of_isLast {last : Nat}
    (isLast : IsLast maxDelay (result attempt pause start) (reading attempt pause start) last)
    (made : Nat) {more : Nat} (enough : last ≤ more) :
    run maxDelay attempt pause made more start =
      match result attempt pause start last with
      | .ok value => (.success value, (attempt (stateAt attempt pause start last)).2)
      | .error error =>
        (.expired ⟨reading attempt pause start last, error, made + last + 1⟩,
          stateAt attempt pause start (last + 1)) := by
  -- The run goes on from behind each round in front of the last one.
  induction last generalizing start made more with
  | zero =>
    have decides : (attempt start).1.isOk ∨ maxDelay < (pause (attempt start).2).1 := isLast.ends
    change _ = match (attempt start).1 with
      | .ok value => (Outcome.success value, (attempt start).2)
      | .error error => (.expired ⟨(pause (attempt start).2).1, error, made + 0 + 1⟩,
          (pause (attempt start).2).2)
    rcases tried : attempt start with ⟨error | value, between⟩
    · rw [tried] at decides
      exact run_of_late tried (Prod.eta _).symm (decides.resolve_left Bool.false_ne_true) made more
    · exact run_of_success tried made more
  | succ last ih =>
    obtain ⟨failed, inTime⟩ := isLast.goesOn 0 (Nat.succ_pos last)
    obtain ⟨error, fails⟩ := exists_error failed
    obtain ⟨fewer, rfl⟩ := Nat.exists_eq_add_of_le' (Nat.le_of_add_left_le enough)
    have later := ih isLast.tail (made + 1) (Nat.le_of_succ_le_succ enough)
    rw [Nat.add_right_comm made] at later
    rw [run_of_early fails (Prod.eta _).symm (Nat.not_lt.2 inTime)]
    exact later

/-- If none of the attempts that are allowed is the last one, all of them are used up. -/
theorem run_of_all_early {more : Nat} (early : ∀ number ≤ more,
      (result attempt pause start number).isOk = false ∧
      reading attempt pause start number ≤ maxDelay) (made : Nat) :
    ∃ report, run maxDelay attempt pause made more start =
      (.exhausted report, stateAt attempt pause start (more + 1)) := by
  induction more generalizing start made with
  | zero =>
    obtain ⟨failed, inTime⟩ := early 0 (Nat.le_refl 0)
    obtain ⟨error, fails⟩ := exists_error failed
    exact ⟨_, run_zero_of_early fails (Prod.eta _).symm (Nat.not_lt.2 inTime) made⟩
  | succ more ih =>
    obtain ⟨failed, inTime⟩ := early 0 (Nat.zero_le _)
    obtain ⟨error, fails⟩ := exists_error failed
    rw [run_of_early fails (Prod.eta _).symm (Nat.not_lt.2 inTime)]
    exact ih (fun number allowed => early (number + 1) (Nat.succ_le_succ allowed)) (made + 1)

end

/-! Attempts that are told what they come to, and pauses that are told what they read. -/

/-- How many attempts and how many pauses were made. -/
structure Counts where
  attempts : Nat := 0
  pauses : Nat := 0
  deriving DecidableEq, Repr

def tryNext (results : Nat → Except ε α) : StateM Counts (Except ε α) := fun counts =>
  (results counts.attempts, { counts with attempts := counts.attempts + 1 })

def readNext (readings : Nat → Nat) : StateM Counts Nat := fun counts =>
  (readings counts.pauses, { counts with pauses := counts.pauses + 1 })

section
variable (results : Nat → Except ε α) (readings : Nat → Nat)

theorem stateAt_scripted (number : Nat) :
    stateAt (tryNext results) (readNext readings) {} number = ⟨number, number⟩ := by
  induction number with
  | zero => rfl
  | succ number ih =>
    rw [stateAt_succ, ih]
    rfl

theorem result_scripted : result (tryNext results) (readNext readings) {} = results := by
  funext number
  have before := stateAt_scripted results readings number
  rw [stateAt] at before
  rw [result, Steps.item, before]
  rfl

theorem reading_scripted : reading (tryNext results) (readNext readings) {} = readings := by
  funext number
  have before := stateAt_scripted results readings number
  rw [stateAt] at before
  rw [reading, Steps.item, before]
  rfl

/-- The last attempt decides about a script, if no fewer than it takes are allowed. -/
theorem untilDeadline_of_isLast {maxDelay last : Nat}
    (isLast : IsLast maxDelay results readings last) {limit : Nat} (enough : last ≤ limit) :
    untilDeadline maxDelay (tryNext results) (readNext readings) limit {} =
      match results last with
      | .ok value => (.success value, ⟨last + 1, last⟩)
      | .error error => (.expired ⟨readings last, error, last + 1⟩, ⟨last + 1, last + 1⟩) := by
  have played : IsLast maxDelay (result (tryNext results) (readNext readings) {})
      (reading (tryNext results) (readNext readings) {}) last := by
    rw [result_scripted, reading_scripted]
    exact isLast
  refine (run_of_isLast played 0 enough).trans ?_
  rw [result_scripted, reading_scripted, stateAt_scripted, stateAt_scripted, Nat.zero_add]
  rfl

theorem untilDeadline_of_all_early {maxDelay limit : Nat}
    (early : ∀ number ≤ limit, (results number).isOk = false ∧ readings number ≤ maxDelay) :
    ∃ report, untilDeadline maxDelay (tryNext results) (readNext readings) limit {} =
      (.exhausted report, ⟨limit + 1, limit + 1⟩) := by
  have played : ∀ number ≤ limit,
      (result (tryNext results) (readNext readings) {} number).isOk = false ∧
      reading (tryNext results) (readNext readings) {} number ≤ maxDelay := by
    rw [result_scripted, reading_scripted]
    exact early
  obtain ⟨report, ran⟩ := run_of_all_early played 0
  rw [stateAt_scripted] at ran
  exact ⟨report, ran⟩

end

/-- Readings of a clock that every pause moves on by this much at least. -/
structure Paced (interval : Nat) (readings : Nat → Nat) : Prop where
  first : interval ≤ readings 0
  next : ∀ number, readings number + interval ≤ readings (number + 1)

theorem Paced.le {interval : Nat} {readings : Nat → Nat} (paced : Paced interval readings)
    (number : Nat) : (number + 1) * interval ≤ readings number := by
  induction number with
  | zero =>
    rw [Nat.zero_add, Nat.one_mul]
    exact paced.first
  | succ number ih =>
    rw [Nat.succ_mul]
    exact (Nat.add_le_add_right ih interval).trans (paced.next number)

/-- The deadline passes within as many pauses as fit before it, and one more. -/
theorem Paced.exists_isLast {interval : Nat} {readings : Nat → Nat}
    (paced : Paced interval readings) (positive : 0 < interval) (maxDelay : Nat)
    (results : Nat → Except ε α) :
    ∃ last ≤ maxDelay / interval, IsLast maxDelay results readings last := by
  refine Retry.exists_isLast (.inr ?_)
  have late := Nat.lt_mul_div_succ maxDelay positive
  rw [Nat.mul_comm] at late
  exact late.trans_le (paced.le _)

end AnalyzerBoot.Retry
