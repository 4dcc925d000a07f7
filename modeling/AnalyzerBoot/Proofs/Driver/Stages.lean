import AnalyzerBoot.Driver
import AnalyzerBoot.Proofs.Retry.Waiting

/-!
The stages of opening a device, on any bus: a device is acquired, its return is reported if it was
waited for, and its interface is claimed. What opening comes to and leaves is said once for each
stage in which it can end.
-/

set_option autoImplicit false

namespace AnalyzerBoot

variable {σ η : Type}

namespace Host

/-- An action that changes nothing of a host but its bus. -/
def OnlyBus {α : Type} (action : StateM (Host σ) α) : Prop :=
  ∀ host, (action host).2.clock = host.clock ∧ (action host).2.events = host.events

section
variable {α β : Type}

theorem OnlyBus.pure (result : α) : OnlyBus (pure result : StateM (Host σ) α) :=
  fun _ => ⟨rfl, rfl⟩

theorem OnlyBus.onBus (action : StateM σ α) : OnlyBus (onBus action) :=
  fun _ => ⟨rfl, rfl⟩

theorem OnlyBus.bind {action : StateM (Host σ) α} {next : α → StateM (Host σ) β}
    (first : OnlyBus action) (second : ∀ result, OnlyBus (next result)) :
    OnlyBus (action >>= next) := fun host =>
  let later := second (action host).1 (action host).2
  ⟨later.1.trans (first host).1, later.2.trans (first host).2⟩

end

end Host

namespace Driver

variable [Usb.Bus σ η]

section
open Host

theorem onlyBus_runsFirmware (handle : η) :
    OnlyBus (runsFirmware handle : StateM (Host σ) Bool) := by
  refine .bind (.onBus _) fun found => ?_
  cases found <;> exact .pure _

theorem onlyBus_openFirst (candidates : List Usb.Candidate) :
    OnlyBus (openFirst candidates : StateM (Host σ) (Option (η × UInt8))) := by
  induction candidates with
  | nil => exact .pure _
  | cons candidate rest ih =>
    refine .bind (.onBus _) fun opened => ?_
    cases opened with
    | error error => exact ih
    | ok handle =>
      refine .bind (onlyBus_runsFirmware handle) fun runs => ?_
      cases runs with
      | true => exact .pure _
      | false => exact .bind (.onBus _) fun _ => ih

theorem onlyBus_acquire (port : String) :
    OnlyBus (acquire port : StateM (Host σ) (Except BringupError (η × UInt8))) := by
  refine .bind (.onBus _) fun listed => ?_
  cases listed with
  | error error => exact .pure _
  | ok candidates =>
    refine .bind (onlyBus_openFirst _) fun found => ?_
    cases found <;> exact .pure _

end

/-- What is reported of a device that came back at an address, if it was waited for. -/
def returned (uploadedAt : Option Instant) (address : UInt8) (now : Instant) : List Event :=
  uploadedAt.toList.map fun instant => .renumerated (now.since instant).milliseconds address

/-- A host on which that was reported. -/
def reported (uploadedAt : Option Instant) (address : UInt8) (host : Host σ) : Host σ :=
  { host with events := host.events ++ (returned uploadedAt address host.clock).toArray }

theorem reported_none (address : UInt8) (host : Host σ) : reported none address host = host :=
  congrArg (Host.mk host.bus host.clock) Array.append_empty

theorem reported_some (instant : Instant) (address : UInt8) (host : Host σ) :
    reported (some instant) address host = { host with
      events := host.events.push
        (.renumerated (host.clock.since instant).milliseconds address) } :=
  congrArg (Host.mk host.bus host.clock) Array.push_eq_append.symm

theorem events_reported (uploadedAt : Option Instant) (address : UInt8) (host : Host σ) :
    (reported uploadedAt address host).events.toList =
      host.events.toList ++ returned uploadedAt address host.clock :=
  Array.toList_append

theorem returned_renumerated (uploadedAt : Option Instant) (address : UInt8) (now : Instant) :
    ∀ event ∈ returned uploadedAt address now, ∃ delay, event = .renumerated delay address := by
  intro event member
  obtain ⟨instant, -, rfl⟩ := List.mem_map.1 member
  exact ⟨_, rfl⟩

section
variable (driver : Driver) {record : Record} {host after : Host σ}

theorem openDevice_of_unacquired {error : BringupError}
    (failed : Renumeration.wait record.state.uploadedAt driver.config.renumerationPolicy
      (acquire record.connectionId : StateM (Host σ) (Except BringupError (η × UInt8))) host =
        (.error error, after)) :
    driver.openDevice record host = ((.error error, record), after) := by
  simp only [openDevice, bind, StateT.bind, failed]
  rfl

theorem openDevice_eq_claim {handle : η} {address : UInt8}
    (acquired : Renumeration.wait record.state.uploadedAt driver.config.renumerationPolicy
      (acquire record.connectionId) host = (.ok (handle, address), after)) :
    driver.openDevice record host = driver.claim (record.withAddress address) handle
      (reported record.state.uploadedAt address after) := by
  simp only [openDevice, bind, StateT.bind, acquired]
  cases record.state.uploadedAt with
  | none => rw [reported_none]
  | some instant =>
    rw [reported_some]
    rfl

variable {handle held : η} {bus : σ}

theorem claim_of_refused {error : Usb.Error}
    (refused : Usb.Bus.claimInterface handle driver.config.usbInterface host.bus =
      ((.error error, held), bus)) :
    driver.claim record handle host =
      ((.error (.configurationFailed (claimErrorText error)), record),
        { host with bus := (Usb.Bus.close held bus).2 }) := by
  simp only [claim, bind, StateT.bind, Host.onBus, refused]
  rfl

theorem claim_of_claimed
    (claimed : Usb.Bus.claimInterface handle driver.config.usbInterface host.bus =
      ((.ok (), held), bus)) :
    driver.claim record handle host =
      ((.ok ⟨held, driver.config.usbInterface⟩, activate record), { host with
        bus := bus
        events := host.events.push
          (.deviceOpened record.location.busId record.location.address) }) := by
  simp only [claim, bind, StateT.bind, Host.onBus, claimed]
  rfl

end

/-- What opening the device of a record comes to and leaves of a host, by the stage in which it
ends. -/
inductive Stage (driver : Driver) (record : Record) (host : Host σ) :
    (Except BringupError (OpenDevice η) × Record) × Host σ → Prop where
  -- Waiting or acquiring failed.
  | unacquired {error : BringupError} {after : Host σ}
      (waited : Renumeration.wait record.state.uploadedAt driver.config.renumerationPolicy
        (acquire record.connectionId : StateM (Host σ) (Except BringupError (η × UInt8))) host =
          (.error error, after)) :
      Stage driver record host ((.error error, record), after)
  -- The interface of the acquired device was refused.
  | unclaimed {handle held : η} {address : UInt8} {error : Usb.Error} {after : Host σ} {bus : σ}
      (waited : Renumeration.wait record.state.uploadedAt driver.config.renumerationPolicy
        (acquire record.connectionId) host = (.ok (handle, address), after))
      (refused : Usb.Bus.claimInterface handle driver.config.usbInterface after.bus =
        ((.error error, held), bus)) :
      Stage driver record host
        ((.error (.configurationFailed (claimErrorText error)),
            { record with location.address := address }),
          { reported record.state.uploadedAt address after with
            bus := (Usb.Bus.close held bus).2 })
  | opened {handle held : η} {address : UInt8} {after : Host σ} {bus : σ}
      (waited : Renumeration.wait record.state.uploadedAt driver.config.renumerationPolicy
        (acquire record.connectionId) host = (.ok (handle, address), after))
      (claimed : Usb.Bus.claimInterface handle driver.config.usbInterface after.bus =
        ((.ok (), held), bus)) :
      Stage driver record host
        ((.ok ⟨held, driver.config.usbInterface⟩, { record with
            status := .active
            location.address := address
            state.samplerate :=
              if record.state.samplerate = 0 then record.state.samplerates.headD 0
              else record.state.samplerate }),
          { after with
            bus := bus
            events := (reported record.state.uploadedAt address after).events.push
              (.deviceOpened record.location.busId address) })

/-- All that opening can do. -/
theorem stage_openDevice (driver : Driver) (record : Record) (host : Host σ) :
    Stage driver record host (driver.openDevice record host) := by
  rcases waited : Renumeration.wait record.state.uploadedAt driver.config.renumerationPolicy
    (acquire record.connectionId) host with ⟨error | ⟨handle, address⟩, after⟩
  · rw [openDevice_of_unacquired driver waited]
    exact .unacquired waited
  · rw [openDevice_eq_claim driver waited]
    let back := reported record.state.uploadedAt address after
    rcases asked : Usb.Bus.claimInterface handle driver.config.usbInterface back.bus with
      ⟨⟨error | ⟨⟩, held⟩, bus⟩
    · rw [claim_of_refused driver asked]
      exact .unclaimed waited asked
    · rw [claim_of_claimed driver asked]
      exact .opened waited asked

theorem closeDevice_apply (record : Record) (device : OpenDevice η) (host : Host σ) :
    closeDevice record device host =
      let released := Usb.Bus.releaseInterface device.handle device.interface host.bus
      ((released.1.1.mapError fun error => .configurationFailed error.message,
          { record with status := .inactive }),
        { host with
          bus := (Usb.Bus.close released.1.2 released.2).2
          events := host.events.push
            (.deviceClosed record.location.busId record.location.address) }) :=
  rfl

end Driver

end AnalyzerBoot
