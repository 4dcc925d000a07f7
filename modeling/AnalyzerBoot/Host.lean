import AnalyzerBoot.Error
import AnalyzerBoot.Event.Basic
import AnalyzerBoot.Record
import AnalyzerBoot.Usb.Bus

/-!
The host that brings up devices: its bus, its clock, and the events it has reported. Only sleeping
moves the clock.
-/

set_option autoImplicit false

namespace AnalyzerBoot

structure Host (σ : Type) where
  bus : σ
  clock : Instant := 0
  events : Array Event := #[]

/-- An action of a host that may fail; its bus, clock and events keep what happened before. -/
abbrev Bringup (σ α : Type) := ExceptT BringupError (StateM (Host σ)) α

namespace Host

variable {σ η α : Type}

def emit (event : Event) : StateM (Host σ) Unit :=
  modify fun host => { host with events := host.events.push event }

def sleep (duration : Duration) : StateM (Host σ) Unit :=
  modify fun host => { host with clock := host.clock + duration }

def now : StateM (Host σ) Instant :=
  return (← get).clock

def elapsed (since : Instant) : StateM (Host σ) Duration :=
  return (← get).clock.since since

def onBus (action : StateM σ α) : StateM (Host σ) α := fun host =>
  let (result, bus) := action host.bus
  (result, { host with bus := bus })

/-- Makes a request of the bus and turns its error into one of the host. -/
def request (wrap : Usb.Error → BringupError) (action : Usb.Request σ α) : Bringup σ α := do
  match ← (onBus action : StateM (Host σ) (Except Usb.Error α)) with
  | .ok result => return result
  | .error error => throw (wrap error)

/-- Opens a device for as long as an action takes; it is closed whatever becomes of the action. -/
def withDevice [Usb.Bus σ η] (candidate : Usb.Candidate) (action : η → StateM (Host σ) α) :
    StateM (Host σ) (Except Usb.Error α) := do
  match ← onBus (Usb.Bus.openDevice candidate : StateM σ (Except Usb.Error η)) with
  | .error error => return .error error
  | .ok handle =>
    let result ← action handle
    onBus (Usb.Bus.close handle)
    return .ok result

theorem emit_apply (event : Event) (host : Host σ) :
    emit event host = ((), { host with events := host.events.push event }) := rfl

theorem sleep_apply (duration : Duration) (host : Host σ) :
    sleep duration host = ((), { host with clock := host.clock + duration }) := rfl

theorem now_apply (host : Host σ) : now host = (host.clock, host) := rfl

theorem elapsed_apply (since : Instant) (host : Host σ) :
    elapsed since host = (host.clock.since since, host) := rfl

end Host

section
variable {σ α β : Type}

theorem Bringup.run_bind (action : Bringup σ α) (next : α → Bringup σ β) (host : Host σ) :
    (action >>= next).run host =
      match action.run host with
      | (.ok result, host) => (next result).run host
      | (.error error, host) => (.error error, host) := by
  cases ran : action.run host with
  | mk result after =>
    rw [ExceptT.run_bind]
    simp only [bind, StateT.bind, ran]
    cases result <;> rfl

theorem Bringup.run_lift (action : StateM (Host σ) α) (host : Host σ) :
    (liftM action : Bringup σ α).run host = (.ok (action host).1, (action host).2) := rfl

theorem Host.run_emit (event : Event) (host : Host σ) :
    (liftM (Host.emit event : StateM (Host σ) Unit) : Bringup σ Unit).run host =
      (.ok (), { host with events := host.events.push event }) := rfl

theorem Host.run_request (wrap : Usb.Error → BringupError) (action : Usb.Request σ α)
    (host : Host σ) :
    (Host.request wrap action).run host =
      match action.run host.bus with
      | (.ok result, bus) => (.ok result, { host with bus := bus })
      | (.error error, bus) => (.error (wrap error), { host with bus := bus }) := by
  rw [request, Bringup.run_bind, Bringup.run_lift]
  cases ran : action.run host.bus with
  | mk result after =>
    change action host.bus = (result, after) at ran
    simp only [onBus, ran]
    cases result <;> rfl

end

end AnalyzerBoot
