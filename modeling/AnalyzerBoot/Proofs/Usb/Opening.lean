import AnalyzerBoot.Host
import AnalyzerBoot.Proofs.Usb.Delivery

/-!
Opening a simulated device for as long as an action takes. What the bus shows of the device and of
its own faults decides what becomes of the action; the action leaves calls and transfers behind.
-/

set_option autoImplicit false

namespace AnalyzerBoot.Usb

def Device.place (device : Device) : String × UInt8 :=
  (device.candidate.busId, device.candidate.address)

theorem Device.nodup_place (device : Device) : ([device].map Device.place).Nodup := by
  simp

/-- A device that describes itself as the analyzer firmware does. -/
def Device.RunsFirmware (device : Device) : Prop :=
  device.strings.manufacturer = Chip.firmwareManufacturer ∧
    device.strings.product = Chip.firmwareProduct

theorem Device.hasFirmware_iff (device : Device) :
    hasFirmware device.strings = true ↔ device.RunsFirmware := by
  rw [hasFirmware, Bool.and_eq_true, beq_iff_eq, beq_iff_eq]
  rfl

namespace SimulatedBus

/-- The device that a candidate is opened as. -/
def reach (bus : SimulatedBus) (candidate : Candidate) : Except Error Device :=
  match bus.find? candidate with
  | none => .error (.deviceNotFound candidate.vendorId candidate.productId)
  | some device => if device.failsOpen then .error (.openFailed "Access denied") else .ok device

theorem reach_of_find? {bus : SimulatedBus} {device : Device}
    (found : bus.find? device.candidate = some device) :
    bus.reach device.candidate =
      if device.failsOpen then .error (.openFailed "Access denied") else .ok device := by
  rw [reach, found]

/-- All of a bus that an upload to one candidate depends on. -/
structure View where
  reached : Except Error Device
  failConfiguration : Bool
  fault : Option Nat

/-- Whether a device can be opened and configured. -/
def View.isReady (view : View) : Bool :=
  view.reached.isOk && !view.failConfiguration

def view (bus : SimulatedBus) (candidate : Candidate) : View :=
  ⟨bus.reach candidate, bus.failConfiguration, bus.fault⟩

/-- The bus after some calls on handles. -/
def note (calls : List Call) (bus : SimulatedBus) : SimulatedBus :=
  { bus with calls := bus.calls ++ calls.toArray }

theorem address_of_reach {bus : SimulatedBus} {candidate : Candidate} {device : Device}
    (reached : bus.reach candidate = .ok device) :
    device.candidate.address = candidate.address := by
  rw [reach] at reached
  cases found : bus.find? candidate with
  | none => simp [found] at reached
  | some other =>
    have here := List.find?_some found
    rw [found] at reached
    dsimp only at reached
    split at reached
    · cases reached
    · cases reached
      simp_all

theorem record_eq (call : Call) (bus : SimulatedBus) : bus.record call = bus.note [call] := by
  rw [record, note, Array.push_eq_append]

theorem note_nil (bus : SimulatedBus) : bus.note [] = bus := by
  simp [note]

theorem note_note (bus : SimulatedBus) (first second : List Call) :
    (bus.note first).note second = bus.note (first ++ second) := by
  simp [note]

theorem afterRow_nil (bus : SimulatedBus) : bus.afterRow [] = bus := by
  cases position : bus.fault <;> simp [afterRow, upTo, isHit, position]

theorem appear_of_settled {bus : SimulatedBus} (settled : bus.pending = []) :
    bus.appear = { bus with listCount := bus.listCount + 1 } := by
  simp [appear, settled]

/-- A fresh bus of other devices that fails in the same ways. -/
def holding (devices : List Device) (bus : SimulatedBus) : SimulatedBus where
  devices := devices
  failConfiguration := bus.failConfiguration
  interfaceBusy := bus.interfaceBusy

theorem view_left {bus : SimulatedBus} (faultless : bus.failTransferAt = none)
    (row : List Transfer) (calls : List Call) (candidate : Candidate) :
    ((bus.afterRow row).note calls).view candidate = bus.view candidate := by
  have still : ((bus.afterRow row).note calls).fault = none :=
    fault_of_none (by rw [← faultless, afterRow_of_none faultless]; rfl)
  rw [view, view, still, fault_of_none faultless]
  rfl

theorem find?_of_mem {bus : SimulatedBus} (distinct : (bus.devices.map Device.place).Nodup)
    {device : Device} (present : device ∈ bus.devices) :
    bus.find? device.candidate = some device := by
  obtain ⟨front, back, split⟩ := List.append_of_mem present
  rw [split, List.map_append, List.map_cons, List.nodup_append] at distinct
  rw [find?, List.find?_eq_some_iff_append]
  refine ⟨by simp, front, back, split, fun other earlier => ?_⟩
  have apart := distinct.2.2 _ (List.mem_map_of_mem earlier) _ List.mem_cons_self
  rw [Bool.not_eq_true', Bool.eq_false_iff]
  exact fun here => apart (by simpa [Device.place] using here)

theorem view_holding {bus : SimulatedBus} (distinct : (bus.devices.map Device.place).Nodup)
    (faultless : bus.failTransferAt = none) {device : Device} (present : device ∈ bus.devices) :
    bus.view device.candidate = (bus.holding [device]).view device.candidate := by
  have alone : (bus.holding [device]).find? device.candidate = some device :=
    find?_of_mem device.nodup_place List.mem_cons_self
  rw [view, view, reach, reach, find?_of_mem distinct present, alone, fault_of_none faultless]
  rfl

/-- The bus while a device of this address is open. -/
def whileOpen (address : UInt8) (bus : SimulatedBus) : SimulatedBus :=
  { bus.note [.openDevice address] with openHandles := bus.openHandles + 1 }

theorem openDevice_eq (candidate : Candidate) (bus : SimulatedBus) :
    openDevice candidate bus =
      match bus.reach candidate with
      | .error error => (.error error, bus)
      | .ok device => (.ok ⟨device, none⟩, bus.whileOpen candidate.address) := by
  rw [openDevice, reach]
  cases bus.find? candidate with
  | none => rfl
  | some device => by_cases refused : device.failsOpen <;> simp [refused, whileOpen, note, record]

theorem whileOpen_afterRow (bus : SimulatedBus) (address : UInt8) (row : List Transfer) :
    (bus.whileOpen address).afterRow row = (bus.afterRow row).whileOpen address := rfl

theorem close_whileOpen {device : Device} {address : UInt8}
    (here : device.candidate.address = address) (bus : SimulatedBus) (calls : List Call) :
    close ⟨device, none⟩ ((bus.whileOpen address).note calls) =
      ((), bus.note (.openDevice address :: calls ++ [.close address])) := by
  subst here
  simp [close, whileOpen, note, record, Handle.address]

section
variable {handle : Handle} {interface : UInt8} {bus : SimulatedBus}

theorem claimInterface_of_busy (busy : bus.interfaceBusy = true) :
    Bus.claimInterface handle interface bus =
      ((.error (.busy interface), handle), bus.record (.claimInterface interface)) := by
  change claimInterface handle interface bus = _
  rw [claimInterface, if_pos busy]

theorem claimInterface_of_free (free : bus.interfaceBusy = false) :
    Bus.claimInterface handle interface bus =
      ((.ok (), { handle with claimed := some interface }),
        bus.record (.claimInterface interface)) := by
  change claimInterface handle interface bus = _
  rw [claimInterface, if_neg (Bool.eq_false_iff.1 free)]

theorem releaseInterface_of_claimed (claimed : handle.claimed = some interface) :
    Bus.releaseInterface handle interface bus =
      ((.ok (), { handle with claimed := none }), bus.record (.releaseInterface interface)) := by
  change releaseInterface handle interface bus = _
  rw [releaseInterface, if_pos claimed]

theorem calls_close_record (handle : Handle) (call : Call) (bus : SimulatedBus) :
    (Bus.close handle (bus.record call)).2.calls.toList =
      bus.calls.toList ++ [call, .close handle.address] := by
  change ((bus.calls.push call).push (.close handle.address)).toList = _
  simp only [Array.toList_push, List.append_assoc]
  rfl

end

variable {α : Type} {candidate : Candidate} {host : Host SimulatedBus}

theorem withDevice_of_error {error : Error} (refused : host.bus.reach candidate = .error error)
    (action : Handle → StateM (Host SimulatedBus) α) :
    Host.withDevice candidate action host = (.error error, host) := by
  have step := openDevice_eq candidate host.bus
  rw [refused] at step
  simp only [Host.withDevice, bind, StateT.bind, Host.onBus, Bus.openDevice, step]
  rfl

theorem withDevice_of_ok {device : Device} {result : α} {calls : List Call} {row : List Transfer}
    {events : Array Event} (reached : host.bus.reach candidate = .ok device)
    (action : Handle → StateM (Host SimulatedBus) α)
    (ran : action ⟨device, none⟩ { host with bus := host.bus.whileOpen candidate.address } =
      (result, { host with
        bus := ((host.bus.whileOpen candidate.address).afterRow row).note calls
        events := events })) :
    Host.withDevice candidate action host =
      (.ok result, { host with
        bus := (host.bus.afterRow row).note
          (.openDevice candidate.address :: calls ++ [.close candidate.address])
        events := events }) := by
  have step := openDevice_eq candidate host.bus
  rw [reached] at step
  simp only [Host.withDevice, bind, StateT.bind, Host.onBus, Bus.openDevice, step, ran]
  rw [whileOpen_afterRow]
  simp only [Bus.close, close_whileOpen (address_of_reach reached)]
  rfl

end SimulatedBus

end AnalyzerBoot.Usb
