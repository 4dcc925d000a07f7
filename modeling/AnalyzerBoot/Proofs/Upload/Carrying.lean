import AnalyzerBoot.Proofs.Upload.Streaming

/-!
Actions whose writes to a device are those of a plan. A sequence of actions carries the plans of its
parts one behind the other, since a part that fails leaves out the rest of either.
-/

set_option autoImplicit false

namespace AnalyzerBoot.Upload

variable {σ η α β : Type}

/-- The error of an action that failed. -/
def failure? : Except BringupError α → Option BringupError
  | .error error => some error
  | .ok _ => none

def Plan.verdict (plan : Plan) (refusal : Option Usb.Error) : Except BringupError Unit :=
  (plan.failure refusal).elim (.ok ()) .error

theorem eq_verdict {result : Except BringupError Unit} {plan : Plan} {refusal : Option Usb.Error}
    (ended : failure? result = plan.failure refusal) : result = plan.verdict refusal := by
  rw [Plan.verdict, ← ended]
  cases result <;> rfl

theorem failure?_outcome (plan : Plan) (refusal : Option Usb.Error) :
    failure? (plan.outcome refusal) = plan.failure refusal := by
  rw [Plan.outcome]
  cases plan.failure refusal <;> rfl

theorem Plan.verdict_eq_ok_iff (plan : Plan) (fault : Option Nat) (row : List Usb.Transfer) :
    plan.verdict (Usb.SimulatedBus.refusal fault row) = .ok () ↔
      plan.error = none ∧ Usb.isHit fault row = false := by
  rw [verdict, Usb.SimulatedBus.refusal]
  cases Usb.isHit fault row <;> cases ended : plan.error <;> simp [failure, ended]

variable [Usb.Bus σ η] {handle : η}

theorem deliver_append_of_failure {plan : Plan} {error : BringupError} {bus after : σ}
    {front : Usb.Delivery} (fronted : Usb.deliver handle plan.transfers bus = (front, after))
    (failed : plan.failure front.refusal = some error) (rest : Plan) :
    Usb.deliver handle (plan.append rest).transfers bus = (front, after) ∧
      (plan.append rest).failure front.refusal = some error := by
  -- Either the plan ends in its error, which cuts off the rest, or the device refuses a transfer.
  rcases front with ⟨taken, _ | refusal⟩
  · have ended : plan.error = some error := failed
    rw [Plan.append, ended]
    exact ⟨fronted, failed⟩
  · cases ended : plan.error with
    | some _ =>
      simp only [Plan.append, ended]
      exact ⟨fronted, failed⟩
    | none =>
      simp only [Plan.append, ended, Usb.deliver_append, fronted]
      exact ⟨trivial, failed⟩

theorem deliver_append_of_success {plan : Plan} {bus after : σ} {front : Usb.Delivery}
    (fronted : Usb.deliver handle plan.transfers bus = (front, after))
    (succeeded : plan.failure front.refusal = none) (rest : Plan) :
    Usb.deliver handle (plan.append rest).transfers bus =
      (match Usb.deliver handle rest.transfers after with
        | (back, last) => (⟨front.taken ++ back.taken, back.refusal⟩, last)) ∧
      (plan.append rest).failure = rest.failure := by
  rcases front with ⟨taken, _ | refusal⟩
  · have ended : plan.error = none := succeeded
    simp only [Plan.append, ended, Usb.deliver_append, fronted, true_and]
    funext refusal
    cases refusal <;> rfl
  · cases succeeded

/-- An action whose writes to a device are those of a plan. It reports events as it likes. -/
def Carries (handle : η) (action : Bringup σ α) (plan : Plan) : Prop :=
  ∀ (host : Host σ) {delivery : Usb.Delivery} {bus : σ},
    Usb.deliver handle plan.transfers host.bus = (delivery, bus) →
    ∃ result events, action.run host = (result, { host with bus := bus, events := events }) ∧
      failure? result = plan.failure delivery.refusal

theorem Carries.pure (result : α) : Carries handle (pure result : Bringup σ α) ⟨[], none⟩ := by
  intro host delivery bus delivered
  cases delivered
  exact ⟨.ok result, host.events, rfl, rfl⟩

/-- A plan made with a result, if there is one. -/
def Plan.made (plan : α → Plan) : Except BringupError α → Plan
  | .error error => ⟨[], some error⟩
  | .ok result => plan result

theorem Carries.lift {source : Except BringupError α} {next : α → Bringup σ β} {plan : α → Plan}
    (second : ∀ result, Carries handle (next result) (plan result)) :
    Carries handle (liftM source >>= next) (Plan.made plan source) := by
  cases source with
  | error error =>
    intro host delivery bus delivered
    cases delivered
    exact ⟨.error error, host.events, rfl, rfl⟩
  | ok result => exact second result

theorem Carries.emit {event : Event} {next : Bringup σ α} {plan : Plan}
    (rest : Carries handle next plan) :
    Carries handle
      ((liftM (Host.emit event : StateM (Host σ) Unit) : Bringup σ Unit) >>= fun _ => next)
      plan := by
  intro host delivery bus delivered
  obtain ⟨result, events, ran, ended⟩ :=
    rest { host with events := host.events.push event } delivered
  refine ⟨result, events, ?_, ended⟩
  rw [Bringup.run_bind, Host.run_emit]
  exact ran

theorem Carries.send (transfer : Usb.Transfer) :
    Carries handle (send handle transfer : Bringup σ Unit) ⟨[transfer], none⟩ := by
  intro host delivery bus delivered
  rw [run_send]
  rcases step : (Usb.Bus.transferOut handle transfer : Usb.Request σ Nat).run host.bus with
    ⟨error | count, after⟩
  all_goals
    change Usb.Bus.transferOut handle transfer host.bus = _ at step
    simp only [Usb.deliver, step] at delivered
    cases delivered
  · exact ⟨.error (.transferFailed error.message), host.events, rfl, rfl⟩
  · exact ⟨.ok (), host.events, rfl, rfl⟩

theorem Carries.bind {action : Bringup σ α} {next : α → Bringup σ β} {plan rest : Plan}
    (first : Carries handle action plan)
    (second : ∀ result, Carries handle (next result) rest) :
    Carries handle (action >>= next) (plan.append rest) := by
  intro host delivery bus delivered
  rcases fronted : Usb.deliver handle plan.transfers host.bus with ⟨front, after⟩
  obtain ⟨result, events, ran, ended⟩ := first host fronted
  rw [Bringup.run_bind, ran]
  -- The action goes on exactly if its plan has not failed, and then from the same bus.
  cases result with
  | error error =>
    obtain ⟨whole, failed⟩ := deliver_append_of_failure fronted ended.symm rest
    obtain ⟨rfl, rfl⟩ := Prod.mk.inj (whole.symm.trans delivered)
    exact ⟨.error error, events, rfl, failed.symm⟩
  | ok result =>
    obtain ⟨whole, same⟩ := deliver_append_of_success fronted ended.symm rest
    rcases backed : Usb.deliver handle rest.transfers after with ⟨back, last⟩
    rw [backed] at whole
    obtain ⟨rfl, rfl⟩ := Prod.mk.inj (whole.symm.trans delivered)
    rw [same]
    obtain ⟨final, reported, ran, ended⟩ :=
      second result { host with bus := after, events := events } backed
    exact ⟨final, reported, ran, ended⟩

theorem Carries.uploadImage (image : Bytes) (format : Image.Format) :
    Carries handle (uploadImage handle image format : Bringup σ Nat)
      (Plan.ofImage image format) := by
  intro host delivery bus delivered
  exact ⟨_, _, run_uploadImage delivered, failure?_outcome _ _⟩

theorem Carries.setReset (asserted : Bool) :
    Carries handle (setReset handle asserted : Bringup σ Unit) ⟨[resetTransfer asserted], none⟩ :=
  .emit (.send _)

end AnalyzerBoot.Upload
