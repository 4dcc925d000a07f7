import AnalyzerBoot.Proofs.Driver.Attempts
import AnalyzerBoot.Proofs.Driver.Lifecycle
import AnalyzerBoot.Setting.Device

/-!
Which device opening claims: the one that the last attempt took, once its strings were read, or
none. The record of a scan then shows where that device is listed, whatever it was before.
-/

set_option autoImplicit false

namespace AnalyzerBoot

open Usb

namespace Driver

/-- What opening comes to, and by which calls, on a bus whose interfaces are free or not. -/
inductive Opens (interface : UInt8) (record : Record) (bus : SimulatedBus) :
    Except BringupError (OpenDevice Handle) × Record → List Call → Prop where
  | missed {listed : List Device} {calls : List Call} (error : BringupError)
      (attempts : Attempts record.connectionId bus listed none calls) :
      Opens interface record bus (.error error, record) calls
  | refused {listed : List Device} {device : Device} {calls : List Call}
      (attempts : Attempts record.connectionId bus listed (some device) calls)
      (busy : bus.interfaceBusy = true) :
      Opens interface record bus
        (.error (.configurationFailed (claimErrorText (.busy interface))),
          record.withAddress device.candidate.address)
        (calls ++ [.claimInterface interface, .close device.candidate.address])
  | claimed {listed : List Device} {device : Device} {calls : List Call}
      (attempts : Attempts record.connectionId bus listed (some device) calls)
      (free : bus.interfaceBusy = false) :
      Opens interface record bus
        (.ok ⟨⟨device, some interface⟩, interface⟩,
          activate (record.withAddress device.candidate.address))
        (calls ++ [.claimInterface interface])

theorem claim_cases (driver : Driver) (record : Record) (device : Device)
    (host : Host SimulatedBus) :
    let interface := driver.config.usbInterface
    let claiming := driver.claim record (⟨device, none⟩ : Handle) host
    (host.bus.interfaceBusy = true ∧
      claiming.1 = (.error (.configurationFailed (claimErrorText (.busy interface))), record) ∧
      Follows host.bus [.claimInterface interface, .close device.candidate.address]
        claiming.2.bus) ∨
    (host.bus.interfaceBusy = false ∧
      claiming.1 = (.ok ⟨⟨device, some interface⟩, interface⟩, activate record) ∧
      Follows host.bus [.claimInterface interface] claiming.2.bus) := by
  intro interface claiming
  cases held : host.bus.interfaceBusy with
  | true =>
    have ran : claiming = _ := claim_of_refused driver (SimulatedBus.claimInterface_of_busy held)
    rw [ran]
    exact .inl ⟨rfl, rfl, SimulatedBus.calls_close_record ⟨device, none⟩ _ host.bus, rfl, rfl⟩
  | false =>
    have ran : claiming = _ := claim_of_claimed driver (SimulatedBus.claimInterface_of_free held)
    rw [ran]
    exact .inr ⟨rfl, rfl, Array.toList_push, rfl, rfl⟩

/-- All that opening can do. -/
theorem opens_openDevice (driver : Driver) (record : Record) {host : Host SimulatedBus}
    (distinct : (host.bus.plugged.map Device.place).Nodup) :
    let opening := driver.openDevice record host
    ∃ calls, Opens driver.config.usbInterface record host.bus opening.1 calls ∧
      Follows host.bus calls opening.2.bus := by
  intro opening
  rcases waited : Renumeration.wait record.state.uploadedAt driver.config.renumerationPolicy
    (acquire record.connectionId) host with ⟨result, after⟩
  obtain ⟨listed, found, calls, attempts, follows, yielded⟩ := tries_wait waited distinct
  cases result with
  | error error =>
    have ran : opening = _ := openDevice_of_unacquired driver waited
    obtain rfl : found = none := by
      cases found with
      | none => rfl
      | some device => cases (yielded _).2 rfl
    rw [ran]
    exact ⟨calls, .missed error attempts, follows⟩
  | ok value =>
    obtain ⟨device, rfl, rfl⟩ := Option.map_eq_some_iff.1 ((yielded value).1 rfl)
    let opened := record.withAddress device.candidate.address
    have ran : opening = _ := openDevice_eq_claim driver waited
    let back := reported record.state.uploadedAt device.candidate.address after
    rcases claim_cases driver opened device back with
      ⟨busy, came, claims⟩ | ⟨free, came, claims⟩
    · rw [ran, came]
      exact ⟨_, .refused attempts (follows.interfaceBusy ▸ busy), follows.trans claims⟩
    · rw [ran, came]
      exact ⟨_, .claimed attempts (follows.interfaceBusy ▸ free), follows.trans claims⟩

/-- Besides looking at devices, opening claims the driver's interface, or does nothing. -/
theorem Opens.filter_inspects {interface : UInt8} {record : Record} {bus : SimulatedBus}
    {result : Except BringupError (OpenDevice Handle) × Record} {calls : List Call}
    (opens : Opens interface record bus result calls) :
    calls.filter (!·.inspects) ∈ [[], [.claimInterface interface]] := by
  have silent {found : Option Device} {looks : List Call} (quiet : Quiet found looks) :
      looks.filter (!·.inspects) = [] := by
    rw [List.filter_eq_nil_iff]
    intro call member
    rw [quiet.inspects call member]
    exact Bool.false_ne_true
  cases opens with
  | missed error attempts =>
    rw [silent attempts.quiet]
    exact List.mem_cons_self
  | refused attempts _ | claimed attempts _ =>
    rw [List.filter_append, silent attempts.quiet]
    exact List.mem_cons_of_mem _ List.mem_cons_self

end Driver

/-- The port and the bus of a scanned record are those of a device that the scan listed. -/
theorem Discovery.exists_listed {source : FirmwareSource} {profiles : List Profile}
    {options : DiscoverOptions} {host : Host SimulatedBus} {outcome : Outcome}
    (scanned : outcome ∈ (discover source profiles options host).1) {record : Record}
    (kept : outcome.record? = some record) :
    ∃ device ∈ host.bus.appear.devices,
      device.candidate.portPath = some record.connectionId ∧
      device.candidate.busId = record.location.busId := by
  obtain ⟨candidates, listing, candidate, present, comes⟩ :=
    comesOf_discover source profiles options host outcome scanned
  cases listing
  obtain ⟨device, listed, rfl⟩ := List.mem_map.1 present
  obtain ⟨strings, identified, named, scans⟩ := comes record kept
  refine ⟨device, listed, ?_⟩
  rw [identify] at named
  split at named
  · cases named
  · next port placed =>
    split at named
    · cases named
    · cases named
      cases scans <;> exact ⟨placed, rfl⟩

namespace Driver

/-- Candidates on one port are on one bus. -/
def OneBusPerPort (devices : List Device) : Prop :=
  ∀ one ∈ devices, ∀ other ∈ devices, ∀ port, one.candidate.portPath = some port →
    other.candidate.portPath = some port → one.candidate.busId = other.candidate.busId

theorem get_conn {record : Record} {device : Device}
    (bus : record.location.busId = device.candidate.busId)
    (known : device.candidate.address ≠ Chip.unknownAddress) :
    Setting.get (activate (record.withAddress device.candidate.address)) .conn =
      .ok (.text (locationText device.candidate.busId device.candidate.address)) := by
  rw [← bus]
  exact if_pos (bne_iff_ne.2 known)

/-- Opening the device of a scanned record, with whatever settings. Each attempt takes the first
device of its listing that suits the port, and finds nothing only if none does. Opening looks at
devices, then it claims what the last attempt took, or nothing if that took none, and does nothing
else to the bus. A record of an opened device shows where that device was listed. -/
theorem opening_claims_suitable_device {source : FirmwareSource} {profiles : List Profile}
    {options : DiscoverOptions} {scanHost : Host SimulatedBus} {outcome : Outcome}
    (scanned : outcome ∈ (Discovery.discover source profiles options scanHost).1)
    {found : Record} (kept : outcome.record? = some found)
    (changes : List (Record.Change SimulatedBus Handle)) (driver : Driver)
    (host : Host SimulatedBus) (distinct : (host.bus.plugged.map Device.place).Nodup) :
    let record := found.changeAll changes
    let port := record.connectionId
    let interface := driver.config.usbInterface
    let opening := driver.openDevice record host
    (∀ now : Host SimulatedBus, (now.bus.appear.devices.map Device.place).Nodup →
      let attempt : Except BringupError (Handle × UInt8) × Host SimulatedBus := acquire port now
      (attempt.1.isOk ↔ ∃ device ∈ now.bus.appear.devices, device.Suits port) ∧
      ∀ value, attempt.1 = .ok value → ∃ front device back,
        now.bus.appear.devices = front ++ device :: back ∧ device.Suits port ∧
        (∀ earlier ∈ front, ¬ earlier.Suits port) ∧
        value = (⟨device, none⟩, device.candidate.address)) ∧
    (∀ bus listed found calls, Attempts port bus listed found calls → Quiet found calls) ∧
    (∃ calls, opening.2.bus.calls.toList = host.bus.calls.toList ++ calls ∧
      opening.2.bus.transfers = host.bus.transfers ∧
      Opens interface record host.bus opening.1 calls ∧
      calls.filter (!·.inspects) ∈ [[], [.claimInterface interface]]) ∧
    ∀ opened, opening.1.1 = .ok opened → ∃ listed device calls,
      Attempts port host.bus listed (some device) calls ∧
      opened = ⟨⟨device, some interface⟩, interface⟩ ∧
      opening.1.2.location.address = device.candidate.address ∧
      (OneBusPerPort (scanHost.bus.appear.devices ++ listed) →
        device.candidate.address ≠ Chip.unknownAddress →
        Setting.get opening.1.2 .conn =
          .ok (.text (locationText device.candidate.busId device.candidate.address))) := by
  intro record port interface opening
  obtain ⟨calls, opens, follows⟩ := opens_openDevice driver record distinct
  refine ⟨fun now => acquire_takes_first port, fun _ _ _ _ attempts => attempts.quiet,
    ⟨calls, follows.calls, follows.transfers, opens, opens.filter_inspects⟩, ?_⟩
  intro opened succeeded
  change Opens interface record host.bus opening.1 calls at opens
  generalize opening.1 = result at opens succeeded ⊢
  cases opens with
  | missed error attempts => cases succeeded
  | refused attempts busy => cases succeeded
  | @claimed listed device calls attempts free =>
    cases succeeded
    refine ⟨listed, device, calls, attempts, rfl, rfl, fun agree known => get_conn ?_ known⟩
    obtain ⟨seen, inside, placed, bus⟩ := Discovery.exists_listed scanned kept
    have continues := Record.continues_changeAll found changes
    obtain ⟨present, suits⟩ := attempts.suits
    rw [continues.busId, ← bus]
    refine agree seen (List.mem_append_left _ inside) device (List.mem_append_right _ present)
      port ?_ suits.placed
    rw [placed, ← continues.connectionId]

/-- A device that comes back behind a stale loader and one that cannot be read, on its port. -/
theorem opening_claims_suitable_device_behind_others :
    let candidate (address : UInt8) : Candidate :=
      ⟨"1", address, Chip.cypressVendorId, Chip.fx3LoaderId, some "1-1"⟩
    let firmware : Strings := ⟨Chip.firmwareManufacturer, Chip.firmwareProduct, "7"⟩
    let running (address : UInt8) : Device := ⟨candidate address, firmware, false, false⟩
    let stale : Device := ⟨candidate 4, ⟨"", "", ""⟩, false, false⟩
    let unreadable : Device := ⟨candidate 6, firmware, false, true⟩
    let scanHost : Host SimulatedBus := { bus := { devices := [running 5] } }
    let host : Host SimulatedBus := { bus := { devices := [stale, unreadable, running 8] } }
    let driver : Driver := { source := fun _ _ => .ok [] }
    ∃ outcome ∈ (Discovery.discover driver.source driver.profiles {} scanHost).1,
      ∃ record, outcome.record? = some record ∧ (host.bus.plugged.map Device.place).Nodup ∧
        let opening := driver.openDevice record host
        opening.1.1.isOk = true ∧ Setting.get opening.1.2 .conn = .ok (.text "1.8") := by
  intro candidate firmware running stale unreadable scanHost host driver
  let record : Record := { Record.new (Profile.supported.head (by decide)) "7" "1-1" ⟨"1", 5⟩ with
    status := .inactive }
  have scanned : .ready record ∈
      (Discovery.discover driver.source driver.profiles {} scanHost).1 := by decide +kernel
  have distinct : (host.bus.plugged.map Device.place).Nodup := by decide
  have opens : (driver.openDevice record host).1.1.isOk = true := by decide +kernel
  refine ⟨_, scanned, record, rfl, distinct, opens, ?_⟩
  have oneBus : OneBusPerPort (scanHost.bus.appear.devices ++ host.bus.appear.devices) := by
    have same : ∀ device ∈ scanHost.bus.appear.devices ++ host.bus.appear.devices,
        device.candidate.busId = "1" := by decide
    exact fun one first other second _ _ _ => (same one first).trans (same other second).symm
  cases opened : (driver.openDevice record host).1.1 with
  | error error =>
    rw [opened] at opens
    cases opens
  | ok device =>
    obtain ⟨listed, device, calls, attempts, -, -, conn⟩ :=
      (opening_claims_suitable_device scanned rfl [] driver host distinct).2.2.2 _ opened
    have single : listed = host.bus.appear.devices := by
      cases attempts with
      | last acquires => rfl
      | again misses later =>
        cases misses with
        | missed unfit => exact absurd ⟨rfl, rfl, rfl, rfl, rfl⟩ (unfit (running 8) (by decide))
    subst single
    have here : device = running 8 := by
      obtain ⟨present, suits⟩ := attempts.suits
      have members : device ∈ [stale, unreadable, running 8] := present
      simp only [List.mem_cons, List.not_mem_nil, or_false] at members
      rcases members with rfl | rfl | rfl
      · exact absurd suits.runs.1 (by decide)
      · exact absurd suits.reads (by decide)
      · rfl
    subst here
    have text : locationText "1" 8 = "1.8" := by decide
    exact text ▸ conn oneBus (by decide)

end Driver

end AnalyzerBoot
