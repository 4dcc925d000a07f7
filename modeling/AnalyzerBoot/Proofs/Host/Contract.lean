import AnalyzerBoot.Renumeration

/-!
What holds of a host's bus before and after an action. Contracts follow the structure of actions:
a sequence goes from the first condition to the last by way of one in between, and an attempt that
is made again and again starts from the same condition each time.
-/

set_option autoImplicit false

namespace AnalyzerBoot.Host

variable {σ α β : Type}

/-- From every bus of which `before` holds, the action comes to a result and a bus of which `after`
holds. -/
def Ensures (before : σ → Prop) (action : StateM (Host σ) α) (after : α → σ → Prop) : Prop :=
  ∀ host : Host σ, before host.bus → after (action host).1 (action host).2.bus

/-- What holds of the bus before the action still holds behind it. -/
def Keeps (kept : σ → Prop) (action : StateM (Host σ) α) : Prop :=
  Ensures kept action fun _ => kept

section
variable {before : σ → Prop} {middle : α → σ → Prop} {after : β → σ → Prop} {kept : σ → Prop}

theorem Ensures.pure {result : α} (holds : ∀ bus, before bus → middle result bus) :
    Ensures before (pure result : StateM (Host σ) α) middle :=
  fun host held => holds host.bus held

theorem Ensures.bind {action : StateM (Host σ) α} {next : α → StateM (Host σ) β}
    (first : Ensures before action middle)
    (second : ∀ result, Ensures (middle result) (next result) after) :
    Ensures before (action >>= next) after :=
  fun host held => second _ _ (first host held)

theorem Ensures.anything (action : StateM (Host σ) α) : Ensures before action fun _ _ => True :=
  fun _ _ => trivial

theorem Ensures.weaken {action : StateM (Host σ) α} {weaker : α → σ → Prop}
    (ensured : Ensures before action middle)
    (implied : ∀ result bus, middle result bus → weaker result bus) :
    Ensures before action weaker :=
  fun host held => implied _ _ (ensured host held)

theorem Ensures.onBus {action : StateM σ α}
    (holds : ∀ bus, before bus → middle (action bus).1 (action bus).2) :
    Ensures before (onBus action) middle :=
  fun host held => holds host.bus held

theorem Keeps.emit (event : Event) : Keeps kept (emit event) :=
  fun _ held => held

theorem Keeps.sleep (duration : Duration) : Keeps kept (sleep duration) :=
  fun _ held => held

theorem Keeps.now : Keeps kept now :=
  fun _ held => held

theorem Keeps.elapsed (since : Instant) : Keeps kept (elapsed since) :=
  fun _ held => held

/-- What one member comes to says nothing about the bus, so it stays true of the others' buses. -/
theorem Ensures.mapM {visit : α → StateM (Host σ) β} (good : α → β → Prop)
    (each : ∀ member, Ensures kept (visit member) fun result bus => good member result ∧ kept bus)
    (members : List α) :
    Ensures kept (members.mapM visit) fun results bus =>
      (∀ result ∈ results, ∃ member ∈ members, good member result) ∧ kept bus := by
  induction members with
  | nil => exact fun host held => ⟨List.forall_mem_nil _, held⟩
  | cons first rest ih =>
    rw [List.mapM_cons]
    refine .bind (each first) fun result host both => ?_
    obtain ⟨later, held⟩ := ih host both.2
    refine ⟨List.forall_mem_cons.2 ⟨⟨first, List.mem_cons_self, both.1⟩, ?_⟩, held⟩
    intro other inside
    obtain ⟨member, present, holds⟩ := later other inside
    exact ⟨member, List.mem_cons_of_mem _ present, holds⟩

end

section
variable {kept : σ → Prop}

theorem Keeps.pure (result : α) : Keeps kept (pure result : StateM (Host σ) α) :=
  fun _ held => held

theorem Keeps.bind {action : StateM (Host σ) α} {next : α → StateM (Host σ) β}
    (first : Keeps kept action) (second : ∀ result, Keeps kept (next result)) :
    Keeps kept (action >>= next) :=
  Ensures.bind first second

theorem Keeps.mapM {visit : α → StateM (Host σ) β} (each : ∀ member, Keeps kept (visit member))
    (members : List α) : Keeps kept (members.mapM visit) := by
  have ensured := Ensures.mapM (fun _ _ => True)
    (fun member => (each member).weaken fun _ _ held => ⟨trivial, held⟩) members
  exact ensured.weaken fun _ _ both => both.2

/-- An action that may fail keeps what its parts keep, whether or not it gets to the later one. -/
theorem Keeps.andThen {action : Bringup σ α} {next : α → Bringup σ β}
    (first : Keeps kept action.run) (second : ∀ result, Keeps kept (next result).run) :
    Keeps kept (action >>= next).run := by
  intro host held
  have between := first host held
  rw [Bringup.run_bind]
  rcases ran : action.run host with ⟨error | result, last⟩ <;> rw [ran] at between
  · exact between
  · exact second result last between

theorem Keeps.ofExcept (result : Except BringupError α) :
    Keeps kept (liftM result : Bringup σ α).run := by
  cases result <;> exact fun _ held => held

theorem Keeps.forM {visit : α → Bringup σ Unit} (each : ∀ member, Keeps kept (visit member).run)
    (members : List α) : Keeps kept (forM members visit : Bringup σ Unit).run := by
  induction members with
  | nil => exact fun _ held => held
  | cons first rest ih =>
    rw [List.forM_cons]
    exact .andThen (each first) fun _ => ih

theorem Keeps.request {wrap : Usb.Error → BringupError} {action : Usb.Request σ α}
    (holds : ∀ bus, kept bus → kept (action.run bus).2) : Keeps kept (request wrap action).run := by
  intro host held
  have later := holds host.bus held
  rw [run_request]
  rcases ran : action.run host.bus with ⟨error | result, bus⟩ <;> rw [ran] at later <;> exact later

end

section
variable {ε : Type} {idle : σ → Prop} {found : α → σ → Prop}

/-- What an action that may fail leaves: what its result claims, or that nothing has happened. -/
def orElse (idle : σ → Prop) (found : α → σ → Prop) : Except ε α → σ → Prop
  | .ok result => found result
  | .error _ => idle

/-- Attempts that start from what the failure of the one before leaves. -/
theorem Ensures.retry {attempt : StateM (Host σ) (Except ε α)} {pause : StateM (Host σ) Nat}
    (attempts : Ensures idle attempt (orElse idle found)) (pauses : Keeps idle pause)
    (maxDelay made more : Nat) :
    Ensures idle (Retry.run maxDelay attempt pause made more) fun outcome =>
      match outcome with
      | .success value => found value
      | .expired _ | .exhausted _ => idle := by
  have once (made : Nat) : Ensures idle (Retry.attemptOnce maxDelay attempt pause made) fun
      | .ok (.success value) => found value
      | .ok _ | .error _ => idle := by
    refine .bind attempts fun result => ?_
    cases result with
    | ok value => exact .pure fun _ held => held
    | error error =>
      refine .bind pauses fun elapsed => ?_
      dsimp only
      split <;> exact .pure fun _ held => held
  induction more generalizing made with
  | zero =>
    refine .bind (once made) fun result => ?_
    rcases result with report | outcome
    · exact .pure fun _ held => held
    · cases outcome <;> exact .pure fun _ held => held
  | succ more ih =>
    refine .bind (once made) fun result => ?_
    rcases result with report | outcome
    · exact ih (made + 1)
    · cases outcome <;> exact .pure fun _ held => held

theorem Ensures.wait {attempt : StateM (Host σ) (Except BringupError α)}
    (attempts : Ensures idle attempt (orElse idle found)) (uploadedAt : Option Instant)
    (policy : RenumerationPolicy) :
    Ensures idle (Renumeration.wait uploadedAt policy attempt) (orElse idle found) := by
  cases uploadedAt with
  | none => exact attempts
  | some instant =>
    refine .bind (Keeps.sleep _) fun _ => .bind Keeps.now fun now => ?_
    have pauses :
        Keeps idle (Renumeration.pause instant policy.pollInterval : StateM (Host σ) Nat) :=
      Keeps.bind (Keeps.sleep _) fun _ => Keeps.bind (Keeps.elapsed _) fun _ =>
        Keeps.bind (Keeps.emit _) fun _ => Keeps.pure _
    refine .bind (Ensures.retry attempts pauses _ 0 _) fun outcome => ?_
    cases outcome <;> exact .pure fun _ held => held

end

end AnalyzerBoot.Host
