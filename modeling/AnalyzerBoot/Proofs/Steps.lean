import Mathlib.Logic.Function.Iterate

/-!
Calling for the next item again and again. Each call yields an item and leaves a state to the next
one; a call that changes nothing is followed by calls that yield the same.
-/

set_option autoImplicit false

namespace AnalyzerBoot.Steps

variable {σ α : Type} (next : σ → α × σ) (start : σ)

/-- The state behind a number of calls. -/
def state (calls : Nat) : σ :=
  (fun before => (next before).2)^[calls] start

/-- What is yielded behind a number of calls. -/
def item (calls : Nat) : α :=
  (next (state next start calls)).1

theorem state_succ (calls : Nat) :
    state next start (calls + 1) = (next (state next start calls)).2 :=
  Function.iterate_succ_apply' ..

variable {next start} {settled : σ} {last : α}

/-- Behind a state that no call changes, all calls yield the same. -/
theorem behind_settled {calls later : Nat} (reached : state next start calls = settled)
    (still : next settled = (last, settled)) (behind : calls ≤ later) :
    item next start later = last ∧ state next start later = settled := by
  obtain ⟨more, rfl⟩ := Nat.exists_eq_add_of_le behind
  have stays : state next start (calls + more) = settled := by
    rw [state] at reached ⊢
    rw [Nat.add_comm, Function.iterate_add_apply, reached]
    exact Function.iterate_fixed (congrArg Prod.snd still) more
  rw [item, stays, still]
  exact ⟨rfl, rfl⟩

/-- What holds at the start and is kept by each call holds behind any number of them. -/
theorem state_induction (holds : σ → Prop) (first : holds start)
    (kept : ∀ before, holds before → holds (next before).2) (calls : Nat) :
    holds (state next start calls) := by
  induction calls with
  | zero => exact first
  | succ calls ih =>
    rw [state_succ]
    exact kept _ ih

end AnalyzerBoot.Steps
