import AnalyzerBoot.Proofs.Usb.Handles
import Mathlib.Data.List.Perm.Basic

/-!
Whole runs of a driver on a simulated bus: scans, openings and closings in any order, while devices
come, go and fail as they like. The devices that were returned and not given back are at any time
the ones that are open beyond those open at the start.
-/

set_option autoImplicit false

namespace AnalyzerBoot.Driver

open Usb

/-- A host together with the devices that the caller of a driver holds. -/
structure Session where
  host : Host SimulatedBus
  held : List (OpenDevice Handle) := []

inductive Action where
  | scan (filter : Option Filter)
  | openDevice (record : Record)
  -- By the place among the held devices, the latest first.
  | closeDevice (record : Record) (index : Nat)
  -- Gives a device up without releasing its interface.
  | drop (index : Nat)
  -- The devices and faults of the bus become those of another one.
  | replug (other : SimulatedBus)

namespace Session

/-- Takes a device from the caller for an action that ends with it closed. -/
def take (session : Session) (index : Nat)
    (action : OpenDevice Handle → StateM (Host SimulatedBus) Unit) : Session :=
  match session.held[index]? with
  | none => session
  | some device => ⟨(action device session.host).2, session.held.eraseIdx index⟩

def step (driver : Driver) (session : Session) : Action → Session
  | .scan filter => { session with host := (driver.scan filter session.host).2 }
  | .openDevice record =>
    match driver.openDevice record session.host with
    | ((.ok device, _), host) => ⟨host, device :: session.held⟩
    | ((.error _, _), host) => ⟨host, session.held⟩
  | .closeDevice record index =>
    session.take index fun device => do let _ ← closeDevice record device
  | .drop index => session.take index fun device => Host.onBus (Bus.close device.handle)
  | .replug other =>
    { session with
      host.bus := { other with
        calls := session.host.bus.calls
        openHandles := session.host.bus.openHandles } }

def run (driver : Driver) (session : Session) (actions : List Action) : Session :=
  actions.foldl (step driver) session

/-- The addresses of the held devices. -/
def addresses (session : Session) : List UInt8 :=
  session.held.map (·.handle.address)

/-- Since the start of a session its bus has noted calls behind which the held devices are open, and
its count of handles has gone with those calls. -/
structure Accounts (start : SimulatedBus) (session : Session) : Prop where
  handles : session.host.bus.openHandles = start.openHandles + session.held.length
  calls : ∃ calls opened, session.host.bus.calls.toList = start.calls.toList ++ calls ∧
    openAfter [] calls = some opened ∧ opened.Perm session.addresses

theorem stands_scan (driver : Driver) (filter : Option Filter) (host : Host SimulatedBus) :
    SimulatedBus.Stands host.bus.openHandles host.bus.calls.toList []
      (driver.scan filter host).2.bus :=
  (SimulatedBus.account _ _).discover driver.source driver.profiles _ host (.start host.bus)

theorem stands_openDevice (driver : Driver) (record : Record) (host : Host SimulatedBus) :
    let opening := driver.openDevice record host
    SimulatedBus.Stands host.bus.openHandles host.bus.calls.toList
      (opening.1.1.toOption.toList.map fun device : OpenDevice Handle => device.handle.address)
      opening.2.bus := by
  have stands :=
    (SimulatedBus.account _ _).openRecord driver record host (.start host.bus)
  rcases ran : driver.openDevice record host with ⟨⟨error | device, after⟩, last⟩ <;>
    rw [ran] at stands <;> exact stands

variable {start : SimulatedBus} {session : Session}

theorem accounts_start (host : Host SimulatedBus) : Accounts host.bus ⟨host, []⟩ :=
  ⟨rfl, [], [], (List.append_nil _).symm, rfl, .nil⟩

/-- An action that opens devices of its own and leaves some of them to the caller. -/
theorem Accounts.opened (accounts : Accounts start session) {host : Host SimulatedBus}
    (more : List (OpenDevice Handle))
    (stands : SimulatedBus.Stands session.host.bus.openHandles session.host.bus.calls.toList
      (more.map (·.handle.address)) host.bus) :
    Accounts start ⟨host, more ++ session.held⟩ := by
  obtain ⟨handles, calls, opened, kept, followed, same⟩ := accounts
  obtain ⟨count, fresh, later, orderly⟩ := stands
  refine ⟨?_, calls ++ fresh, more.map (·.handle.address) ++ opened, ?_, ?_, ?_⟩
  · rw [count, handles, List.length_map, List.length_append]
    omega
  · rw [later, kept, List.append_assoc]
  · rw [openAfter_append, followed, Option.bind_some]
    exact openAfter_append_base orderly.follows opened
  · rw [addresses, List.map_append]
    exact same.append_left _

/-- An action that closes a held device once. -/
theorem Accounts.closed (accounts : Accounts start session) {host : Host SimulatedBus}
    {index : Nat} {device : OpenDevice Handle} (held : session.held[index]? = some device)
    (fresh : List Call)
    (later : host.bus.calls.toList = session.host.bus.calls.toList ++ fresh)
    (count : host.bus.openHandles = session.host.bus.openHandles - 1)
    (follows : ∀ opened, openAfter opened fresh =
      Call.follow opened (.close device.handle.address)) :
    Accounts start ⟨host, session.held.eraseIdx index⟩ := by
  obtain ⟨handles, calls, opened, kept, followed, same⟩ := accounts
  obtain ⟨inside, rfl⟩ := List.getElem?_eq_some_iff.1 held
  let device := session.held[index]
  have split : (device :: session.held.eraseIdx index).Perm session.held :=
    List.getElem_cons_eraseIdx_perm inside
  have addressed : opened.Perm
      (device.handle.address :: (session.held.eraseIdx index).map (·.handle.address)) :=
    same.trans (split.map _).symm
  have closing : device.handle.address ∈ opened := addressed.mem_iff.2 List.mem_cons_self
  refine ⟨?_, calls ++ fresh, opened.erase device.handle.address, ?_, ?_, ?_⟩
  · rw [count, handles, ← split.length_eq]
    rfl
  · rw [later, kept, List.append_assoc]
  · rw [openAfter_append, followed, Option.bind_some, follows, Call.follow, if_pos closing]
  · rw [addresses]
    simpa using addressed.erase device.handle.address

/-- Closing gives up the handle even if the interface cannot be released. -/
theorem noted_closeDevice (record : Record) (device : OpenDevice Handle)
    (host : Host SimulatedBus) :
    let closing := closeDevice record device host
    closing.2.bus.openHandles = host.bus.openHandles - 1 ∧
      closing.2.bus.calls.toList = host.bus.calls.toList ++
        [.releaseInterface device.interface, .close device.handle.address] := by
  refine ⟨rfl, Array.toList_push.trans ?_⟩
  rw [SimulatedBus.record, Array.toList_push, List.append_assoc]
  rfl

theorem accounts_closeDevice (accounts : Accounts start session) (record : Record) {index : Nat}
    {device : OpenDevice Handle} (held : session.held[index]? = some device) :
    Accounts start
      ⟨(closeDevice record device session.host).2, session.held.eraseIdx index⟩ := by
  obtain ⟨count, later⟩ := noted_closeDevice record device session.host
  refine accounts.closed held _ later count fun opened => ?_
  rw [openAfter_cons, Call.follow]
  exact openAfter_singleton opened _

theorem accounts_drop (accounts : Accounts start session) {index : Nat}
    {device : OpenDevice Handle} (held : session.held[index]? = some device) :
    Accounts start
      ⟨(Host.onBus (Bus.close device.handle) session.host).2, session.held.eraseIdx index⟩ :=
  accounts.closed held [.close device.handle.address] Array.toList_push rfl
    fun opened => openAfter_singleton opened _

theorem accounts_step (driver : Driver) (accounts : Accounts start session) (action : Action) :
    Accounts start (step driver session action) := by
  cases action with
  | scan filter => exact accounts.opened [] (stands_scan driver filter session.host)
  | openDevice record =>
    have stands := stands_openDevice driver record session.host
    rw [step]
    rcases ran : driver.openDevice record session.host with ⟨⟨error | device, after⟩, host⟩ <;>
      rw [ran] at stands
    · exact accounts.opened [] stands
    · exact accounts.opened [device] stands
  | closeDevice record index =>
    rw [step, take]
    cases held : session.held[index]? with
    | none => exact accounts
    | some device => exact accounts_closeDevice accounts record held
  | drop index =>
    rw [step, take]
    cases held : session.held[index]? with
    | none => exact accounts
    | some device => exact accounts_drop accounts held
  | replug other => exact ⟨accounts.handles, accounts.calls⟩

theorem accounts_run (driver : Driver) (accounts : Accounts start session)
    (actions : List Action) : Accounts start (run driver session actions) := by
  induction actions generalizing session with
  | nil => exact accounts
  | cons action rest ih => exact ih (accounts_step driver accounts action)

/-- At any point of a session the bus has as many handles open as at its start and those that the
caller holds. Every close that the bus noted since then found a handle open, and one of the address
that it closes. A scan opens one device at a time and leaves none open, opening a device leaves it
open if it succeeds and else nothing, and closing one always gives up its handle, whether or not its
interface can be released. -/
theorem run_balances_handles (driver : Driver) (host : Host SimulatedBus)
    (actions : List Action) :
    let session := run driver ⟨host, []⟩ actions
    let bus := session.host.bus
    bus.openHandles = host.bus.openHandles + session.held.length ∧
    (∃ calls, bus.calls.toList = host.bus.calls.toList ++ calls ∧
      (∃ opened, openAfter [] calls = some opened ∧ opened.Perm session.addresses) ∧
      bus.openHandles = tally host.bus.openHandles calls ∧
      ∀ front address, front ++ [.close address] <+: calls →
        0 < tally host.bus.openHandles front) ∧
    (∀ filter, let scanned := (driver.scan filter session.host).2.bus
      scanned.openHandles = bus.openHandles ∧
      ∃ calls, scanned.calls.toList = bus.calls.toList ++ calls ∧ openAfter [] calls = some [] ∧
        ∀ front, front <+: calls →
          ∃ opened, openAfter [] front = some opened ∧ opened.length ≤ 1) ∧
    (∀ record, let opening := driver.openDevice record session.host
      opening.2.bus.openHandles = bus.openHandles + if opening.1.1.isOk then 1 else 0) ∧
    (∀ record device, let closing := closeDevice record device session.host
      closing.2.bus.openHandles = bus.openHandles - 1 ∧
      closing.2.bus.calls.toList = bus.calls.toList ++
        [.releaseInterface device.interface, .close device.handle.address]) ∧
    (∀ record, ∀ device ∈ session.held,
      (closeDevice record device session.host).2.bus.openHandles + 1 = bus.openHandles) := by
  intro session bus
  obtain ⟨handles, calls, opened, kept, followed, same⟩ :=
    accounts_run driver (accounts_start host) actions
  refine ⟨handles, ⟨calls, kept, ⟨opened, followed, same⟩, ?_, ?_⟩, ?_, ?_,
    fun record device => noted_closeDevice record device session.host, ?_⟩
  · have counted := tally_of_openAfter followed host.bus.openHandles
    rw [same.length_eq, addresses, List.length_map] at counted
    exact handles.trans counted.symm
  · exact fun front address closing => tally_pos_of_close followed closing _
  · intro filter
    obtain ⟨count, calls, kept, orderly⟩ := stands_scan driver filter session.host
    exact ⟨count, calls, kept, orderly.follows, orderly.single⟩
  · intro record opening
    rw [(stands_openDevice driver record session.host).1, List.length_map]
    cases opening.1.1 <;> rfl
  · intro record device held
    have positive := List.length_pos_of_mem held
    exact Nat.sub_add_cancel (handles ▸ Nat.le_add_left_of_le positive)

end Session

end AnalyzerBoot.Driver
