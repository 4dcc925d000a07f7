import AnalyzerBoot.Proofs.Retry.Rounds
import AnalyzerBoot.Renumeration

/-!
Waiting for a device as attempts made until a deadline. Every pause moves the clock on, so if no
attempt moves it back, the attempts that a wait allows itself are never used up before the deadline.
-/

set_option autoImplicit false

namespace AnalyzerBoot

open Retry

namespace Renumeration

variable {σ α : Type}

/-- A host when the settle time is over. -/
def settled (policy : RenumerationPolicy) (host : Host σ) : Host σ :=
  { host with clock := host.clock + Duration.ofMilliseconds policy.settle }

section
variable (uploadedAt : Instant)

theorem run_wait (policy : RenumerationPolicy) (attempt : StateM (Host σ) (Except BringupError α))
    (host : Host σ) :
    wait (some uploadedAt) policy attempt host =
      let maxDelay := Duration.ofMilliseconds policy.maxDelay
      let start := settled policy host
      match Retry.run maxDelay attempt (pause uploadedAt policy.pollInterval) 0
        (attemptLimit uploadedAt start.clock maxDelay) start with
      | (.success value, after) => (.ok value, after)
      | (.expired report, after) | (.exhausted report, after) =>
        (.error (.renumerationTimeout (Duration.milliseconds report.elapsed)
          report.lastError.message), after) := by
  simp only [wait, bind, StateT.bind, Host.sleep_apply, Host.now_apply, Retry.untilDeadline,
    settled]
  rcases Retry.run _ _ _ _ _ _ with ⟨outcome, after⟩
  cases outcome <;> rfl

/-- A pause takes time, reads how long ago the upload was, and reports that. -/
theorem pause_apply (pollInterval : Nat) (host : Host σ) :
    pause uploadedAt pollInterval host =
      let clock : Instant := host.clock + (max (Duration.ofMilliseconds pollInterval) 1 : Nat)
      let elapsed := clock.since uploadedAt
      (elapsed, { host with
        clock := clock
        events := host.events.push (.waitingForRenumeration (Duration.milliseconds elapsed)) }) :=
  rfl

end

/-- Behind as many ticks as there are attempts, one more ends behind the deadline. -/
theorem deadline_passed {uploadedAt start behind : Int} {maxDelay tick : Nat} (positive : 1 ≤ tick)
    (reached : start + attemptLimit uploadedAt start maxDelay ≤ behind) :
    maxDelay < Instant.since (behind + tick) uploadedAt := by
  simp only [attemptLimit, Instant.since] at reached ⊢
  omega

section
variable {attempt : StateM (Host σ) (Except BringupError α)} (uploadedAt : Instant)
  (pollInterval : Nat) (start : Host σ)

/-- Attempts that report nothing leave the reports of the pauses between them. -/
theorem events_stateAt (silent : ∀ host, (attempt host).2.events = host.events) (number : Nat) :
    (stateAt attempt (pause uploadedAt pollInterval) start number).events.toList =
      start.events.toList ++ ((List.range number).map fun earlier =>
        Duration.milliseconds (reading attempt (pause uploadedAt pollInterval) start earlier)).map
          .waitingForRenumeration := by
  induction number with
  | zero => exact (List.append_nil _).symm
  | succ number ih =>
    rw [stateAt_succ, pause_apply, Array.toList_push, silent, ih, List.range_succ, List.map_append,
      List.map_append, List.append_assoc]
    rfl

variable (advances : ∀ host, host.clock ≤ (attempt host).2.clock)
include advances

theorem clock_stateAt (number : Nat) :
    start.clock + number ≤
      (stateAt attempt (pause uploadedAt pollInterval) start number).clock := by
  induction number with
  | zero => exact Int.le_of_eq (Int.add_zero _)
  | succ number ih =>
    have tick : ((1 : Nat) : Int) ≤ (max (Duration.ofMilliseconds pollInterval) 1 : Nat) :=
      Int.ofNat_le.2 (Nat.le_max_right _ 1)
    rw [stateAt_succ, pause_apply, Int.natCast_add, ← Int.add_assoc]
    exact Int.add_le_add (Int.le_trans ih (advances _)) tick

/-- The deadline passes within as many attempts as a wait allows itself. -/
theorem exists_isLast_pause (maxDelay : Duration) :
    ∃ last ≤ attemptLimit uploadedAt start.clock maxDelay,
      IsLast maxDelay (result attempt (pause uploadedAt pollInterval) start)
        (reading attempt (pause uploadedAt pollInterval) start) last := by
  refine exists_isLast (.inr ?_)
  have behind := Int.le_trans (clock_stateAt uploadedAt pollInterval start advances
    (attemptLimit uploadedAt start.clock maxDelay)) (advances _)
  exact deadline_passed (Nat.le_max_right _ 1) behind

/-- A wait comes to what its last attempt comes to, and to a timeout if that one fails. -/
theorem exists_last_wait (policy : RenumerationPolicy) (host : Host σ) :
    let pause := pause uploadedAt policy.pollInterval
    let start := settled policy host
    ∃ last, IsLast (Duration.ofMilliseconds policy.maxDelay) (result attempt pause start)
        (reading attempt pause start) last ∧
      wait (some uploadedAt) policy attempt host =
        match result attempt pause start last with
        | .ok value => (.ok value, (attempt (stateAt attempt pause start last)).2)
        | .error error => (.error (.renumerationTimeout
            (Duration.milliseconds (reading attempt pause start last)) error.message),
            stateAt attempt pause start (last + 1)) := by
  intro pause start
  obtain ⟨last, enough, isLast⟩ := exists_isLast_pause uploadedAt policy.pollInterval start advances
    (Duration.ofMilliseconds policy.maxDelay)
  refine ⟨last, isLast, ?_⟩
  rw [run_wait]
  dsimp only
  rw [run_of_isLast isLast 0 enough]
  cases result attempt pause start last <;> rfl

end

end Renumeration

namespace Retry

variable {ε α : Type}

/-- Attempts that are made until a deadline, with any results and any readings of a clock that moves
on with every pause. The last attempt is the first that succeeds or behind which the deadline has
passed, and it decides; a limit on the attempts matters only if it comes first, which it cannot if
it allows as many attempts as there are intervals before the deadline. A wait without an upload is
one attempt and nothing else; with one, it is such a row of attempts from the settle time on. -/
theorem attempts_end_at_success_or_deadline {interval : Duration} {clock : Nat → Duration}
    (paced : Paced interval clock) (script : Nat → Except ε α) (maxDelay : Duration) :
    let retry (limit : Nat) := untilDeadline maxDelay (tryNext script) (readNext clock) limit {}
    (∀ last, IsLast maxDelay script clock last → ∀ limit, last ≤ limit → retry limit =
      match script last with
      | .ok value => (.success value, ⟨last + 1, last⟩)
      | .error error => (.expired ⟨clock last, error, last + 1⟩, ⟨last + 1, last + 1⟩)) ∧
    (∀ limit, (∃ last ≤ limit, IsLast maxDelay script clock last) ∨
      ∃ report, retry limit = (.exhausted report, ⟨limit + 1, limit + 1⟩)) ∧
    (∀ limit, 1 ≤ (retry limit).2.attempts ∧
      ∀ number, maxDelay < clock number → (retry limit).2.attempts ≤ number + 1) ∧
    (0 < interval →
      ∃ last, IsLast maxDelay script clock last ∧ last + 1 ≤ maxDelay / interval + 1) ∧
    ∀ (σ β : Type) (policy : RenumerationPolicy)
      (attempt : StateM (Host σ) (Except BringupError β)),
      Renumeration.wait none policy attempt = attempt ∧
      ((∀ host, host.clock ≤ (attempt host).2.clock) → ∀ uploadedAt host,
        let pause := Renumeration.pause uploadedAt policy.pollInterval
        let start := Renumeration.settled policy host
        ∃ last, IsLast (Duration.ofMilliseconds policy.maxDelay) (result attempt pause start)
            (reading attempt pause start) last ∧
          Renumeration.wait (some uploadedAt) policy attempt host =
            match result attempt pause start last with
            | .ok value => (.ok value, (attempt (stateAt attempt pause start last)).2)
            | .error error => (.error (.renumerationTimeout
                (Duration.milliseconds (reading attempt pause start last)) error.message),
                stateAt attempt pause start (last + 1))) := by
  intro retry
  refine ⟨fun last isLast limit enough => untilDeadline_of_isLast script clock isLast enough,
    fun limit => ?_, fun limit => ?_, fun positive => ?_, fun σ β policy attempt =>
      ⟨rfl, fun advances uploadedAt host =>
        Renumeration.exists_last_wait uploadedAt advances policy host⟩⟩
  · exact (isLast_or_all_early maxDelay script clock limit).imp_right
      (untilDeadline_of_all_early script clock)
  · rcases isLast_or_all_early maxDelay script clock limit with ⟨last, enough, isLast⟩ | early
    · have made : (retry limit).2.attempts = last + 1 := by
        have ran : retry limit = _ := untilDeadline_of_isLast script clock isLast enough
        rw [ran]
        cases script last <;> rfl
      rw [made]
      exact ⟨Nat.succ_pos last, fun number late => Nat.succ_le_succ (isLast.le_of_late late)⟩
    · obtain ⟨report, ran⟩ := untilDeadline_of_all_early script clock early
      have made : (retry limit).2.attempts = limit + 1 := congrArg (·.2.attempts) ran
      rw [made]
      refine ⟨Nat.succ_pos limit, fun number late => Nat.succ_le_succ ?_⟩
      exact Nat.le_of_not_le fun allowed => Nat.not_lt.2 (early number allowed).2 late
  · obtain ⟨last, bound, isLast⟩ := paced.exists_isLast positive maxDelay script
    exact ⟨last, isLast, Nat.succ_le_succ bound⟩

/-- A reading that equals the deadline is in time, so an attempt follows it. -/
theorem attempts_end_at_success_or_deadline_behind_exact_reading :
    let clock (number : Nat) : Duration := 5 * (number + 1)
    let script (_ : Nat) : Except String Unit := .error "nothing there"
    Paced 5 clock ∧ clock 1 = 10 ∧
      untilDeadline 10 (tryNext script) (readNext clock) 2 {} =
        (.expired ⟨15, "nothing there", 3⟩, ⟨3, 3⟩) := by
  intro clock script
  have paced : Paced 5 clock := ⟨Nat.le_refl 5, fun number => Nat.le_refl _⟩
  have isLast : IsLast 10 script clock 2 := by
    refine ⟨.inr (by decide), fun earlier before => ⟨rfl, ?_⟩⟩
    exact Nat.mul_le_mul_left 5 before
  have ends := attempts_end_at_success_or_deadline paced script 10
  exact ⟨paced, rfl, ends.1 2 isLast 2 (Nat.le_refl 2)⟩

end Retry

end AnalyzerBoot
