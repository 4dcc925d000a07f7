import AnalyzerBoot.Driver
import AnalyzerBoot.Proofs.Discovery.Decision
import Mathlib.Data.List.Nodup

/-!
Looking for the device on a port that runs the firmware. Candidates that are passed over leave
nothing behind on a simulated bus but their calls; so a device that is the only one of its kind is
found as soon as it is listed, and not before.
-/

set_option autoImplicit false

namespace AnalyzerBoot

open Usb

/-- A device that can be taken on a port: it can be opened and read, and runs the firmware. -/
structure Usb.Device.Suits (device : Device) (port : String) : Prop where
  placed : device.candidate.portPath = some port
  opens : device.failsOpen = false
  reads : device.failsStrings = false
  runs : device.RunsFirmware

namespace Usb.SimulatedBus

/-- All devices of a bus, those that are still to appear included. -/
def plugged (bus : SimulatedBus) : List Device :=
  bus.devices ++ bus.pending.map Prod.snd

theorem plugged_appear (bus : SimulatedBus) : bus.appear.plugged.Perm bus.plugged := by
  have later : bus.appear.pending.map Prod.snd = (bus.pending.filter (·.1 != 0)).map Prod.snd := by
    rw [appear, List.map_map]
    rfl
  have parted : ((bus.pending.filter (·.1 == 0)).map Prod.snd ++
      (bus.pending.filter (·.1 != 0)).map Prod.snd).Perm (bus.pending.map Prod.snd) := by
    rw [← List.map_append]
    exact (List.filter_append_perm _ bus.pending).map _
  rw [plugged, later, appear, List.append_assoc]
  exact parted.append_left bus.devices

theorem nodup_appear {bus : SimulatedBus} (distinct : (bus.plugged.map Device.place).Nodup) :
    (bus.appear.plugged.map Device.place).Nodup :=
  (bus.plugged_appear.map Device.place).nodup_iff.2 distinct

theorem nodup_devices {bus : SimulatedBus} (distinct : (bus.plugged.map Device.place).Nodup) :
    (bus.devices.map Device.place).Nodup := by
  rw [plugged, List.map_append] at distinct
  exact (List.nodup_append.1 distinct).1

/-- A device on a port, the only one of a bus there that runs the firmware, to be found by all that
it shows. -/
structure IsSole (bus : SimulatedBus) (port : String) (device : Device) : Prop where
  distinct : (bus.plugged.map Device.place).Nodup
  placed : device.candidate.portPath = some port
  runs : device.RunsFirmware
  opens : device.failsOpen = false
  reads : device.failsStrings = false
  only : ∀ other ∈ bus.plugged, other.candidate.portPath = some port → other.RunsFirmware →
    other = device

section
variable {port : String} {device : Device} {bus : SimulatedBus}

theorem IsSole.suits (sole : bus.IsSole port device) : device.Suits port :=
  ⟨sole.placed, sole.opens, sole.reads, sole.runs⟩

theorem IsSole.eq_of_suits (sole : bus.IsSole port device) {other : Device}
    (listed : other ∈ bus.devices) (suits : other.Suits port) : other = device :=
  sole.only other (List.mem_append_left _ listed) suits.placed suits.runs

theorem IsSole.appear (sole : bus.IsSole port device) : bus.appear.IsSole port device :=
  { sole with
    distinct := nodup_appear sole.distinct
    only := fun other member => sole.only other (bus.plugged_appear.mem_iff.1 member) }

theorem IsSole.note (sole : bus.IsSole port device) (calls : List Call) :
    (bus.note calls).IsSole port device :=
  { sole with }

theorem IsSole.not_mem_pending (sole : bus.IsSole port device) {other : Device}
    (listed : other ∈ bus.devices) : other ∉ bus.pending.map Prod.snd := by
  have distinct := sole.distinct
  rw [plugged, List.map_append] at distinct
  intro later
  exact (List.nodup_append.1 distinct).2.2 _ (List.mem_map_of_mem listed) _
    (List.mem_map_of_mem later) rfl

theorem mem_pending_appear {listings : Nat} (pending : (listings + 1, device) ∈ bus.pending) :
    (listings, device) ∈ bus.appear.pending :=
  List.mem_map.2 ⟨(listings + 1, device), List.mem_filter.2 ⟨pending, rfl⟩, rfl⟩

theorem mem_devices_appear (due : (0, device) ∈ bus.pending) : device ∈ bus.appear.devices :=
  List.mem_append_right bus.devices
    (List.mem_map.2 ⟨(0, device), List.mem_filter.2 ⟨due, rfl⟩, rfl⟩)

end

end Usb.SimulatedBus

namespace Driver

/-- A candidate that is passed over: it cannot be opened or read, or does not run the firmware. -/
def IsDull (bus : SimulatedBus) (candidate : Candidate) : Prop :=
  ∀ device, bus.reach candidate = .ok device → device.failsStrings = false → ¬ device.RunsFirmware

theorem run_runsFirmware (device : Device) (host : Host SimulatedBus) :
    runsFirmware (⟨device, none⟩ : Handle) host =
      (!device.failsStrings && hasFirmware device.strings,
        { host with bus := host.bus.note [.readStrings device.candidate.address] }) := by
  rw [← SimulatedBus.record_eq]
  simp only [runsFirmware, bind, StateT.bind, Host.onBus, Bus.readStrings,
    SimulatedBus.readStrings]
  cases device.failsStrings <;> rfl

variable {candidate : Candidate} {host : Host SimulatedBus}

theorem openFirst_of_error {error : Error} (refused : host.bus.reach candidate = .error error)
    (rest : List Candidate) : openFirst (candidate :: rest) host = openFirst rest host := by
  have step := SimulatedBus.openDevice_eq candidate host.bus
  rw [refused] at step
  simp only [openFirst, bind, StateT.bind, Host.onBus, Bus.openDevice, step]

theorem openFirst_of_ok {device : Device} (reached : host.bus.reach candidate = .ok device)
    (rest : List Candidate) :
    openFirst (candidate :: rest) host =
      if !device.failsStrings && hasFirmware device.strings then
        (some (⟨device, none⟩, candidate.address),
          { host with
            bus := (host.bus.whileOpen candidate.address).note [.readStrings candidate.address] })
      else openFirst rest
        { host with
          bus := host.bus.note [.openDevice candidate.address, .readStrings candidate.address,
            .close candidate.address] } := by
  have step := SimulatedBus.openDevice_eq candidate host.bus
  rw [reached] at step
  have here := SimulatedBus.address_of_reach reached
  simp only [openFirst, bind, StateT.bind, Host.onBus, Bus.openDevice, step, run_runsFirmware, here]
  cases !device.failsStrings && hasFirmware device.strings with
  | true => rfl
  | false =>
    rw [if_neg Bool.false_ne_true]
    simp only [Bool.false_eq_true, if_false, bind, StateT.bind, Host.onBus, Bus.close,
      SimulatedBus.close_whileOpen here]
    rfl

/-- The calls on the handles of candidates that are passed over. -/
def passing (bus : SimulatedBus) (candidates : List Candidate) : List Call :=
  candidates.flatMap fun candidate => Discovery.stringCalls candidate (bus.reach candidate)

theorem openFirst_of_dull (dull : IsDull host.bus candidate) (rest : List Candidate) :
    openFirst (candidate :: rest) host = openFirst rest
      { host with
        bus := host.bus.note (Discovery.stringCalls candidate (host.bus.reach candidate)) } := by
  cases reached : host.bus.reach candidate with
  | error error =>
    rw [openFirst_of_error reached, Discovery.stringCalls, Except.isOk, Except.toBool,
      if_neg Bool.false_ne_true, SimulatedBus.note_nil]
  | ok device =>
    rw [openFirst_of_ok reached, if_neg]
    · rfl
    · intro taken
      rw [Bool.and_eq_true, Bool.not_eq_true', device.hasFirmware_iff] at taken
      exact dull device reached taken.1 taken.2

theorem openFirst_append (host : Host SimulatedBus) {front : List Candidate}
    (dull : ∀ candidate ∈ front, IsDull host.bus candidate) (rest : List Candidate) :
    openFirst (front ++ rest) host =
      openFirst rest { host with bus := host.bus.note (passing host.bus front) } := by
  -- The calls on earlier candidates change nothing that later ones are opened by.
  induction front generalizing host with
  | nil =>
    rw [passing, List.flatMap_nil, SimulatedBus.note_nil]
    rfl
  | cons candidate others ih =>
    rw [List.cons_append, openFirst_of_dull (dull candidate List.mem_cons_self),
      ih { host with bus := host.bus.note _ }
        fun other member => dull other (List.mem_cons_of_mem _ member),
      SimulatedBus.note_note]
    rfl

section
variable {port : String} {device : Device}

/-- Why an attempt fails on a port on which nothing runs the firmware. -/
def nothingOn (port : String) : BringupError :=
  .configurationFailed ("no device running the firmware on port " ++ port)

/-- The devices of a bus on a port. -/
def onPort (port : String) (bus : SimulatedBus) : List Device :=
  bus.devices.filter (·.candidate.portPath == some port)

theorem run_acquire (port : String) (host : Host SimulatedBus) :
    acquire port host =
      match openFirst ((onPort port host.bus.appear).map Device.candidate)
        { host with bus := host.bus.appear } with
      | (some found, after) => (.ok found, after)
      | (none, after) => (.error (nothingOn port), after) := by
  have candidates : (onPort port host.bus.appear).map Device.candidate =
      (host.bus.appear.devices.map Device.candidate).filter (·.portPath == some port) := by
    rw [List.filter_map]
    rfl
  simp only [acquire, bind, StateT.bind, Host.onBus, Bus.listDevices, SimulatedBus.listDevices,
    candidates]
  rcases openFirst _ _ with ⟨_ | found, after⟩ <;> rfl

theorem isDull_of_not_suits {bus : SimulatedBus} (distinct : (bus.devices.map Device.place).Nodup)
    (present : device ∈ onPort port bus) (unfit : ¬ device.Suits port) :
    IsDull bus device.candidate := by
  obtain ⟨listed, placed⟩ := List.mem_filter.1 present
  intro opened reached reads runs
  rw [SimulatedBus.reach_of_find? (SimulatedBus.find?_of_mem distinct listed)] at reached
  split at reached
  · cases reached
  · next opens =>
    cases reached
    exact unfit ⟨eq_of_beq placed, Bool.eq_false_iff.2 opens, reads, runs⟩

section
variable (distinct : (host.bus.appear.devices.map Device.place).Nodup)
include distinct

/-- Devices that do not suit are looked at one after another and closed again. -/
theorem openFirst_past {front : List Device} (present : ∀ earlier ∈ front,
    earlier ∈ onPort port host.bus.appear) (unfit : ∀ earlier ∈ front, ¬ earlier.Suits port)
    (rest : List Candidate) :
    openFirst (front.map Device.candidate ++ rest) { host with bus := host.bus.appear } =
      openFirst rest { host with
        bus := host.bus.appear.note (front.flatMap Discovery.Visit.readingCalls) } := by
  have dull : ∀ candidate ∈ front.map Device.candidate, IsDull host.bus.appear candidate := by
    intro candidate member
    obtain ⟨earlier, inside, rfl⟩ := List.mem_map.1 member
    exact isDull_of_not_suits distinct (present earlier inside) (unfit earlier inside)
  have calls : passing host.bus.appear (front.map Device.candidate) =
      front.flatMap Discovery.Visit.readingCalls := by
    rw [passing, List.flatMap_map]
    refine List.flatMap_congr fun earlier inside => ?_
    have listed := (List.mem_filter.1 (present earlier inside)).1
    exact Discovery.stringCalls_of_find? (SimulatedBus.find?_of_mem distinct listed)
  rw [openFirst_append { host with bus := host.bus.appear } dull, calls]

theorem acquire_of_missed (missed : ∀ device ∈ onPort port host.bus.appear, ¬ device.Suits port) :
    acquire port host = (.error (nothingOn port), { host with
      bus := host.bus.appear.note
        ((onPort port host.bus.appear).flatMap Discovery.Visit.readingCalls) }) := by
  have passed := openFirst_past distinct (fun _ member => member) missed []
  rw [List.append_nil] at passed
  rw [run_acquire, passed]
  rfl

theorem acquire_of_found {front back : List Device}
    (split : onPort port host.bus.appear = front ++ device :: back) (suits : device.Suits port)
    (first : ∀ earlier ∈ front, ¬ earlier.Suits port) :
    acquire port host = (.ok (⟨device, none⟩, device.candidate.address), { host with
      bus := ((host.bus.appear.note (front.flatMap Discovery.Visit.readingCalls)).whileOpen
        device.candidate.address).note [.readStrings device.candidate.address] }) := by
  have present : ∀ earlier ∈ front ++ device :: back, earlier ∈ onPort port host.bus.appear :=
    fun _ member => split ▸ member
  have passed := openFirst_past distinct
    (fun earlier member => present earlier (List.mem_append_left _ member)) first
    ((device :: back).map Device.candidate)
  have listed := (List.mem_filter.1 (present device (by simp))).1
  have reached (calls : List Call) :
      (host.bus.appear.note calls).reach device.candidate = .ok device := by
    have found : (host.bus.appear.note calls).find? device.candidate = some device :=
      SimulatedBus.find?_of_mem distinct listed
    rw [SimulatedBus.reach_of_find? found, suits.opens, if_neg Bool.false_ne_true]
  have taken : (!device.failsStrings && hasFirmware device.strings) = true := by
    rw [suits.reads, device.hasFirmware_iff.2 suits.runs]
    rfl
  rw [run_acquire, split, List.map_append, passed, List.map_cons, openFirst_of_ok (reached _),
    if_pos taken]

end

/-- As long as the device is not listed, nothing is found. -/
theorem acquire_of_absent {listings : Nat} (sole : host.bus.IsSole port device)
    (pending : (listings + 1, device) ∈ host.bus.pending) :
    ∃ calls, acquire port host =
      (.error (nothingOn port), { host with bus := host.bus.appear.note calls }) := by
  have later : device ∈ host.bus.appear.pending.map Prod.snd :=
    List.mem_map_of_mem (SimulatedBus.mem_pending_appear pending)
  refine ⟨_, acquire_of_missed (SimulatedBus.nodup_devices sole.appear.distinct) ?_⟩
  intro other present suits
  have listed := (List.mem_filter.1 present).1
  obtain rfl := sole.appear.eq_of_suits listed suits
  exact sole.appear.not_mem_pending listed later

/-- Once the device is listed it is found, whatever candidates come before it. -/
theorem acquire_of_due (sole : host.bus.IsSole port device)
    (due : (0, device) ∈ host.bus.pending) :
    ∃ calls more, acquire port host =
      (.ok (⟨device, none⟩, device.candidate.address),
        { host with
          bus :=
            ((host.bus.appear.note calls).whileOpen device.candidate.address).note more }) := by
  have distinct := SimulatedBus.nodup_devices sole.appear.distinct
  have present : device ∈ onPort port host.bus.appear :=
    List.mem_filter.2 ⟨SimulatedBus.mem_devices_appear due, beq_iff_eq.2 sole.placed⟩
  obtain ⟨front, back, split⟩ := List.append_of_mem present
  have single : (front ++ device :: back).Nodup := by
    rw [← split]
    exact (List.Nodup.of_map _ distinct).filter _
  refine ⟨_, _, acquire_of_found distinct split sole.suits fun earlier member suits => ?_⟩
  have inside : earlier ∈ onPort port host.bus.appear := split ▸ List.mem_append_left _ member
  obtain rfl := sole.appear.eq_of_suits (List.mem_filter.1 inside).1 suits
  exact (List.nodup_append.1 single).2.2 _ member _ List.mem_cons_self rfl

end

end Driver

end AnalyzerBoot
