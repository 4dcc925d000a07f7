import AnalyzerBoot.Proofs.Driver.Acquiring
import AnalyzerBoot.Proofs.Driver.Session
import AnalyzerBoot.Proofs.Driver.Stages

/-!
What opening and closing a device change, above all where they fail: a record is left alone until a
device is acquired, then gets its address, and gets no more unless the interface is claimed. Closing
ends in the same way whether or not the interface can be released.
-/

set_option autoImplicit false

namespace AnalyzerBoot.Driver

open Usb

section
variable {σ η : Type} [Bus σ η]

/-- While a device is looked for, nothing is reported but that it is waited for. -/
theorem events_wait (uploadedAt : Option Instant) (policy : RenumerationPolicy) (port : String)
    (host : Host σ) :
    let waiting : Except BringupError (η × UInt8) × Host σ :=
      Renumeration.wait uploadedAt policy (acquire port) host
    ∃ waits : List Nat, waiting.2.events.toList =
      host.events.toList ++ waits.map .waitingForRenumeration := by
  intro waiting
  have silent (now : Host σ) := (onlyBus_acquire (η := η) port now).2
  cases uploadedAt with
  | none => exact ⟨[], (congrArg Array.toList (silent host)).trans (List.append_nil _).symm⟩
  | some instant =>
    have advances (now : Host σ) : now.clock ≤ (acquire (η := η) port now).2.clock :=
      Int.le_of_eq (onlyBus_acquire (η := η) port now).1.symm
    obtain ⟨last, -, ran⟩ := Renumeration.exists_last_wait instant advances policy host
    have events := Renumeration.events_stateAt instant policy.pollInterval
      (Renumeration.settled policy host) silent
    change waiting = _ at ran
    rw [ran]
    cases Retry.result _ _ _ last with
    | error error => exact ⟨_, events (last + 1)⟩
    | ok value => exact ⟨_, (congrArg Array.toList (silent _)).trans (events last)⟩

/-- Opening reports that a device is waited for and that it came back, and that it is opened if it
is. -/
theorem events_openDevice (driver : Driver) (record : Record) (host : Host σ) :
    let opening : (Except BringupError (OpenDevice η) × Record) × Host σ :=
      driver.openDevice record host
    let address := opening.1.2.location.address
    ∃ waits back, opening.2.events.toList =
        host.events.toList ++ (List.map Event.waitingForRenumeration waits ++ back) ++
          opening.1.1.toOption.toList.map
            (fun _ => .deviceOpened record.location.busId address) ∧
      ∀ event ∈ back, ∃ delay, event = .renumerated delay address := by
  intro opening address
  obtain ⟨waits, waiting⟩ := events_wait (η := η) record.state.uploadedAt
    driver.config.renumerationPolicy record.connectionId host
  have stage : Stage driver record host opening := stage_openDevice driver record host
  clear_value opening
  cases stage with
  | unacquired waited =>
    rw [waited] at waiting
    refine ⟨waits, [], ?_, List.forall_mem_nil _⟩
    rw [waiting, List.append_nil]
    exact (List.append_nil _).symm
  | @unclaimed _ _ back _ after _ waited refused =>
    rw [waited] at waiting
    refine ⟨waits, _, ?_, returned_renumerated record.state.uploadedAt back after.clock⟩
    rw [events_reported, waiting, List.append_assoc]
    exact (List.append_nil _).symm
  | @opened _ _ back after _ waited claimed =>
    rw [waited] at waiting
    refine ⟨waits, _, ?_, returned_renumerated record.state.uploadedAt back after.clock⟩
    rw [Array.toList_push, events_reported, waiting, List.append_assoc host.events.toList]
    rfl

end

/-! On a simulated bus. -/

theorem address_openFirst (candidates : List Candidate) (host : Host SimulatedBus)
    {value : Handle × UInt8} (found : (openFirst candidates host).1 = some value) :
    value.1.address = value.2 := by
  induction candidates generalizing host with
  | nil => cases found
  | cons candidate rest ih =>
    cases reached : host.bus.reach candidate with
    | error error =>
      rw [openFirst_of_error reached] at found
      exact ih host found
    | ok device =>
      rw [openFirst_of_ok reached] at found
      split at found
      · cases found
        exact SimulatedBus.address_of_reach reached
      · exact ih _ found

/-- What is acquired is a handle of the device at the address that comes with it. -/
theorem address_wait {uploadedAt : Option Instant} {policy : RenumerationPolicy} {port : String}
    {host : Host SimulatedBus} {value : Handle × UInt8}
    (acquired : (Renumeration.wait uploadedAt policy (acquire port) host).1 = .ok value) :
    value.1.address = value.2 := by
  have attempts : Host.Ensures (fun _ : SimulatedBus => True)
      (acquire port : StateM (Host SimulatedBus) (Except BringupError (Handle × UInt8)))
      (Host.orElse (fun _ => True) fun found _ => found.1.address = found.2) := by
    intro now _
    rw [run_acquire]
    rcases opened : openFirst _ _ with ⟨_ | found, after⟩
    · trivial
    · exact address_openFirst _ _ (congrArg Prod.fst opened)
  have ensured := attempts.wait uploadedAt policy host trivial
  rw [acquired] at ensured
  exact ensured

theorem openHandles_openDevice (driver : Driver) (record : Record) (host : Host SimulatedBus) :
    let opening := driver.openDevice record host
    opening.2.bus.openHandles = host.bus.openHandles + opening.1.1.toOption.toList.length := by
  intro opening
  rw [(Session.stands_openDevice driver record host).1, List.length_map]

/-- A device that is acquired and refused is closed; one that is opened holds its interface. -/
theorem calls_openDevice (driver : Driver) (record : Record) (host : Host SimulatedBus) :
    let interface := driver.config.usbInterface
    let waiting : Except BringupError (Handle × UInt8) × Host SimulatedBus :=
      Renumeration.wait record.state.uploadedAt driver.config.renumerationPolicy
        (acquire record.connectionId) host
    let opening := driver.openDevice record host
    ∀ handle address, waiting.1 = .ok (handle, address) →
      opening.1.2.location.address = handle.address ∧
      opening.2.bus.calls.toList = waiting.2.bus.calls.toList ++ .claimInterface interface ::
        (match opening.1.1 with
        | .ok _ => []
        | .error _ => [.close handle.address]) ∧
      ∀ device, opening.1.1 = .ok device → device.interface = interface ∧
        device.handle.claimed = some interface ∧ device.handle.address = handle.address := by
  intro interface waiting opening handle address acquired
  have same : handle.address = address := address_wait acquired
  have claims : opening = _ := openDevice_eq_claim driver (Prod.ext acquired rfl)
  let back := reported record.state.uploadedAt address waiting.2
  cases held : back.bus.interfaceBusy with
  | true =>
    have ran : driver.claim (record.withAddress address) handle back = _ :=
      claim_of_refused driver (SimulatedBus.claimInterface_of_busy held)
    rw [claims, ran]
    exact ⟨same.symm, SimulatedBus.calls_close_record handle _ back.bus, nofun⟩
  | false =>
    have ran : driver.claim (record.withAddress address) handle back = _ :=
      claim_of_claimed driver (SimulatedBus.claimInterface_of_free held)
    rw [claims, ran]
    refine ⟨same.symm, Array.toList_push, ?_⟩
    rintro device ⟨⟩
    exact ⟨rfl, rfl, rfl⟩

/-- A device that holds its interface can be closed, whatever has happened to the bus. -/
theorem closeDevice_of_held {device : OpenDevice Handle}
    (held : device.handle.claimed = some device.interface) (record : Record)
    (host : Host SimulatedBus) :
    let closing := closeDevice record device host
    closing.1.1 = .ok () ∧
      closing.2.bus.calls.toList = host.bus.calls.toList ++
        [.releaseInterface device.interface, .close device.handle.address] ∧
      closing.2.bus.openHandles = host.bus.openHandles - 1 := by
  intro closing
  have closes : closing = _ := closeDevice_apply record device host
  rw [closes, SimulatedBus.releaseInterface_of_claimed held]
  exact ⟨rfl, SimulatedBus.calls_close_record { device.handle with claimed := none } _ host.bus,
    rfl⟩

theorem held_openDevice {driver : Driver} {record : Record} {host : Host SimulatedBus}
    {device : OpenDevice Handle} (opened : (driver.openDevice record host).1.1 = .ok device) :
    device.handle.claimed = some device.interface ∧
      device.handle.address = (driver.openDevice record host).1.2.location.address := by
  rcases waited : Renumeration.wait record.state.uploadedAt driver.config.renumerationPolicy
    (acquire record.connectionId) host with ⟨error | ⟨handle, address⟩, after⟩
  · rw [openDevice_of_unacquired driver waited] at opened
    cases opened
  · obtain ⟨address, -, holds⟩ :=
      calls_openDevice driver record host handle address (congrArg Prod.fst waited)
    obtain ⟨interface, claimed, same⟩ := holds device opened
    exact ⟨interface ▸ claimed, same.trans address.symm⟩

/-- What opening and closing change. A record is as before if no device is acquired, and has but its
address changed if that is refused, when the device is closed again and nothing is reported as
opened; an opened device makes its record active and fills in a sample rate. Closing makes a record
inactive and closes the device whatever releasing comes to, so that its error is all that is left of
it. On a simulated bus no handle is left open by an opening that fails, and what was opened can
always be closed. -/
theorem opening_and_closing_frame_record {σ η : Type} [Bus σ η] (driver : Driver)
    (record : Record) :
    (∀ host : Host σ,
      let opening : (Except BringupError (OpenDevice η) × Record) × Host σ :=
        driver.openDevice record host
      let address := opening.1.2.location.address
      Stage driver record host opening ∧
      (∃ waits back, opening.2.events.toList =
          host.events.toList ++ (List.map Event.waitingForRenumeration waits ++ back) ++
            opening.1.1.toOption.toList.map
              (fun _ => .deviceOpened record.location.busId address) ∧
        ∀ event ∈ back, ∃ delay, event = .renumerated delay address) ∧
      ∀ (device : OpenDevice η) (later : Host σ), opening.1.1 = .ok device →
        (closeDevice opening.1.2 device later).1.2 = { record with
          status := .inactive
          location.address := address
          state.samplerate :=
            if record.state.samplerate = 0 then record.state.samplerates.headD 0
            else record.state.samplerate }) ∧
    (∀ (device : OpenDevice η) (host : Host σ),
      let released := Bus.releaseInterface device.handle device.interface host.bus
      closeDevice record device host =
        ((released.1.1.mapError fun error => .configurationFailed error.message,
            { record with status := .inactive }),
          { host with
            bus := (Bus.close released.1.2 released.2).2
            events := host.events.push
              (.deviceClosed record.location.busId record.location.address) })) ∧
    ∀ host : Host SimulatedBus,
      let interface := driver.config.usbInterface
      let waiting : Except BringupError (Handle × UInt8) × Host SimulatedBus :=
        Renumeration.wait record.state.uploadedAt driver.config.renumerationPolicy
          (acquire record.connectionId) host
      let opening := driver.openDevice record host
      opening.2.bus.openHandles =
        host.bus.openHandles + opening.1.1.toOption.toList.length ∧
      (∀ handle address error, waiting.1 = .ok (handle, address) → opening.1.1 = .error error →
        opening.1.2.location.address = handle.address ∧
        opening.2.bus.calls.toList = waiting.2.bus.calls.toList ++
          [.claimInterface interface, .close handle.address]) ∧
      ∀ device, opening.1.1 = .ok device → ∀ (current : Record) (later : Host SimulatedBus),
        let closing := closeDevice current device later
        closing.1.1 = .ok () ∧
        closing.2.bus.calls.toList = later.bus.calls.toList ++
          [.releaseInterface device.interface, .close opening.1.2.location.address] ∧
        closing.2.bus.openHandles = later.bus.openHandles - 1 := by
  refine ⟨fun host => ?_, closeDevice_apply record, fun host => ?_⟩
  · have stage : Stage driver record host (driver.openDevice (η := η) record host) :=
      stage_openDevice driver record host
    refine ⟨stage, events_openDevice driver record host, fun device later opened => ?_⟩
    generalize driver.openDevice record host = opening at stage opened
    cases stage with
    | unacquired | unclaimed => cases opened
    | opened => rfl
  · refine ⟨openHandles_openDevice driver record host, ?_, ?_⟩
    · intro handle address error acquired failed
      obtain ⟨same, calls, -⟩ := calls_openDevice driver record host handle address acquired
      rw [failed] at calls
      exact ⟨same, calls⟩
    · intro device opened current later
      obtain ⟨held, same⟩ := held_openDevice opened
      rw [← same]
      exact closeDevice_of_held held current later

example :
    let device : Device := ⟨⟨"1", 8, Chip.cypressVendorId, Chip.fx3LoaderId, some "1-1"⟩,
      ⟨Chip.firmwareManufacturer, Chip.firmwareProduct, "7"⟩, false, false⟩
    let host : Host SimulatedBus := { bus := { devices := [device], interfaceBusy := true } }
    let record := Record.new (Profile.supported.head (by decide)) "7" "1-1" ⟨"1", 5⟩
    let driver : Driver := { source := fun _ _ => .ok [] }
    (driver.openDevice record host).1 =
      (.error (.configurationFailed (claimErrorText (.busy 0))),
        { record with location.address := 8 }) := by
  decide +kernel

end AnalyzerBoot.Driver
