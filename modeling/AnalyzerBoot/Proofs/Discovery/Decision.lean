import AnalyzerBoot.Proofs.Discovery.Isolation

/-!
What a walk over a simulated bus decides about each device, and what it does to it. The decision
goes by what the device shows of itself, and only a device that needs firmware is written to.
-/

set_option autoImplicit false

namespace AnalyzerBoot

open Usb

/-- A model that a device can be: its identifiers, and the strings it requires. -/
structure Profile.Fits (profile : Profile) (device : Device) : Prop where
  vendorId : profile.vendorId = device.candidate.vendorId
  productId : profile.productId = device.candidate.productId
  manufacturer : ∀ required ∈ profile.manufacturer, required = device.strings.manufacturer
  product : ∀ required ∈ profile.product, required = device.strings.product

theorem Profile.accepts_iff (profile : Profile) (device : Device) :
    profile.accepts device.candidate.vendorId device.candidate.productId device.strings = true ↔
      profile.Fits device := by
  simp only [accepts, isPlausible, Bool.and_eq_true, beq_iff_eq, Option.all_eq_true, and_assoc]
  constructor
  · rintro ⟨vendorId, productId, manufacturer, product⟩
    exact ⟨vendorId, productId, manufacturer, product⟩
  · rintro ⟨vendorId, productId, manufacturer, product⟩
    exact ⟨vendorId, productId, manufacturer, product⟩

/-- The preferred model among those that a device can be. -/
def FirstFit (profiles : List Profile) (device : Device) (profile : Profile) : Prop :=
  ∃ front back, profiles = front ++ profile :: back ∧ profile.Fits device ∧
    ∀ earlier ∈ front, ¬ earlier.Fits device

section
variable {profiles : List Profile} {device : Device}

theorem firstFit_of_findProfile? {profile : Profile}
    (found : findProfile? profiles device.candidate.vendorId device.candidate.productId
      device.strings = some profile) : FirstFit profiles device profile := by
  obtain ⟨fits, front, back, split, unfit⟩ := List.find?_eq_some_iff_append.1 found
  refine ⟨front, back, split, (profile.accepts_iff device).1 fits, fun earlier member => ?_⟩
  rw [← earlier.accepts_iff device]
  simpa using unfit earlier member

theorem not_fits_of_findProfile? (missing : findProfile? profiles device.candidate.vendorId
    device.candidate.productId device.strings = none) :
    ∀ profile ∈ profiles, ¬ profile.Fits device := by
  intro profile member
  rw [← profile.accepts_iff device]
  exact List.find?_eq_none.1 missing profile member

end

def Outcome.isUpload : Outcome → Bool
  | .uploaded _ | .uploadFailed _ _ => true
  | _ => false

namespace Discovery

/-- A device that is known to be of a model, on a port that is known. -/
structure Identified (profiles : List Profile) (device : Device) (port : String)
    (profile : Profile) : Prop where
  opens : device.failsOpen = false
  reads : device.failsStrings = false
  port : device.candidate.portPath = some port
  profile : FirstFit profiles device profile

structure Describes (device : Device) (port : String) (profile : Profile) (status : Status)
    (address : UInt8) (uploadedAt : Option Instant) (record : Record) : Prop where
  profile : record.profile = profile
  serialNumber : record.serialNumber = device.strings.serialNumber
  connectionId : record.connectionId = port
  location : record.location = ⟨device.candidate.busId, address⟩
  status : record.status = status
  uploadedAt : record.state.uploadedAt = uploadedAt

section
variable (source : FirmwareSource) (profiles : List Profile) (options : DiscoverOptions)

/-- The outcome that a device is to have at an instant, as its bus is then. What keeps it from being
identified comes first, in the order in which it is found out. An upload has the outcome that it
comes to. -/
inductive Decides (clock : Instant) (bus : SimulatedBus) (device : Device) : Outcome → Prop where
  | openFailed : device.failsOpen = true →
      Decides clock bus device
        (.skipped device.candidate (.openFailed (Error.openFailed "Access denied").message))
  | stringsUnreadable : device.failsOpen = false → device.failsStrings = true →
      Decides clock bus device (.skipped device.candidate
        (.stringsUnreadable (Error.stringDescriptor 1 "Pipe error").message))
  | noPortPath : device.failsOpen = false → device.failsStrings = false →
      device.candidate.portPath = none →
      Decides clock bus device (.skipped device.candidate .noPortPath)
  | noProfile {port : String} : device.failsOpen = false → device.failsStrings = false →
      device.candidate.portPath = some port → (∀ profile ∈ profiles, ¬ profile.Fits device) →
      Decides clock bus device (.skipped device.candidate .noProfile)
  | ready {port : String} {profile : Profile} {record : Record} :
      Identified profiles device port profile → device.RunsFirmware →
      Describes device port profile .inactive device.candidate.address none record →
      Decides clock bus device (.ready record)
  | uploaded {port : String} {profile : Profile} {record : Record} :
      Identified profiles device port profile → ¬ device.RunsFirmware →
      uploadVerdict source profile options bus = .ok () →
      Describes device port profile .initializing 0xFF (some clock) record →
      Decides clock bus device (.uploaded record)
  | uploadFailed {port : String} {profile : Profile} {record : Record} {error : BringupError} :
      Identified profiles device port profile → ¬ device.RunsFirmware →
      uploadVerdict source profile options bus = .error error →
      Describes device port profile .initializing 0xFF none record →
      Decides clock bus device (.uploadFailed record error)

end

/-- What a walk does at one device. -/
structure Visit where
  device : Device
  outcome : Outcome
  -- The transfers that the device took.
  sent : List Transfer

namespace Visit

/-- The calls on the handle with which a device's strings are read. -/
def readingCalls (device : Device) : List Call :=
  let address := device.candidate.address
  if device.failsOpen then []
  else [.openDevice address, .readStrings address, .close address]

/-- The calls on the handles of a visit; an upload has a handle of its own. -/
def calls (options : DiscoverOptions) (visit : Visit) : List Call :=
  let address := visit.device.candidate.address
  readingCalls visit.device ++
    if visit.outcome.isUpload then
      [.openDevice address, .detachKernelDriver options.interface,
        .setConfiguration options.configuration, .close address]
    else []

/-- Only an upload sends anything: its firmware, whole if it succeeds. -/
def SendsFirmware (source : FirmwareSource) (visit : Visit) : Prop :=
  match visit.outcome with
  | .uploaded record => visit.sent = firmwareRow source record.profile
  | .uploadFailed record _ => visit.sent <+: firmwareRow source record.profile
  | .ready _ | .skipped _ _ => visit.sent = []

/-- A visit that begins with one host and ends with another. -/
def Leads (options : DiscoverOptions) (visit : Visit) (before after : Host SimulatedBus) : Prop :=
  ∃ row events, visit.sent = upTo before.bus.fault row ∧
    after = { before with
      bus := (before.bus.afterRow row).note (visit.calls options)
      events := events }

theorem leads_of_silent {options : DiscoverOptions} {visit : Visit}
    (idle : visit.outcome.isUpload = false) (silent : visit.sent = [])
    (host : Host SimulatedBus) (events : Array Event) :
    visit.Leads options host
      { host with bus := host.bus.note (readingCalls visit.device), events := events } := by
  refine ⟨[], events, ?_, ?_⟩
  · rw [silent, upTo_nil]
  · rw [calls, idle, if_neg Bool.false_ne_true, List.append_nil, SimulatedBus.afterRow_nil]

section
variable {options : DiscoverOptions} {visit : Visit} {before after : Host SimulatedBus}

theorem Leads.clock (leads : visit.Leads options before after) : after.clock = before.clock := by
  obtain ⟨row, events, -, rfl⟩ := leads
  rfl

theorem Leads.find? (leads : visit.Leads options before after) (candidate : Candidate) :
    after.bus.find? candidate = before.bus.find? candidate := by
  obtain ⟨row, events, -, rfl⟩ := leads
  rfl

theorem Leads.calls (leads : visit.Leads options before after) :
    after.bus.calls.toList = before.bus.calls.toList ++ visit.calls options := by
  obtain ⟨row, events, -, rfl⟩ := leads
  exact Array.toList_append

theorem Leads.transfers (leads : visit.Leads options before after) :
    after.bus.transfers.toList = before.bus.transfers.toList ++ visit.sent := by
  obtain ⟨row, events, sent, rfl⟩ := leads
  rw [sent]
  exact Array.toList_append

end

end Visit

theorem stringCalls_of_find? {bus : SimulatedBus} {device : Device}
    (found : bus.find? device.candidate = some device) :
    stringCalls device.candidate (bus.reach device.candidate) = Visit.readingCalls device := by
  rw [SimulatedBus.reach_of_find? found, stringCalls, Visit.readingCalls]
  cases device.failsOpen <;> rfl

section
variable (source : FirmwareSource) (profiles : List Profile) (options : DiscoverOptions)

/-- A visit that decides as it is to and sends no more than it is to. -/
structure Serves (before : Host SimulatedBus) (visit : Visit) (after : Host SimulatedBus) :
    Prop where
  decides :
    Decides source profiles options before.clock before.bus visit.device visit.outcome
  sends : visit.SendsFirmware source
  leads : visit.Leads options before after

theorem sendsFirmware_uploadOutcome (device : Device) (record : Record) (instant : Instant)
    (view : SimulatedBus.View) :
    let plan := uploadPlan source record.profile options view
    let outcome := uploadOutcome record instant
      (plan.verdict (SimulatedBus.refusal view.fault plan.transfers))
    (⟨device, outcome, upTo view.fault plan.transfers⟩ : Visit).SendsFirmware source := by
  intro plan outcome
  have transfers : plan.transfers = due source record.profile view :=
    uploadPlan_transfers source record.profile options view
  simp only [outcome]
  cases ended : plan.verdict (SimulatedBus.refusal view.fault plan.transfers) with
  | ok _ =>
    obtain ⟨whole, missed⟩ := (Upload.Plan.verdict_eq_ok_iff plan _ _).1 ended
    have ready := ((uploadPlan_error_eq_none_iff source record.profile options view).1 whole).1
    change upTo view.fault plan.transfers = firmwareRow source record.profile
    rw [upTo_of_not_isHit missed, transfers, due, if_pos ready]
  | error error =>
    change upTo view.fault plan.transfers <+: firmwareRow source record.profile
    refine (upTo_isPrefix _ _).trans ?_
    rw [transfers, due]
    split
    · exact List.prefix_refl _
    · exact List.nil_prefix

theorem serves_bringUp {device : Device} {port : String} {profile : Profile}
    (identified : Identified profiles device port profile) (loader : ¬ device.RunsFirmware)
    {host : Host SimulatedBus} (found : host.bus.find? device.candidate = some device)
    (events : Array Event) :
    ∃ visit after, visit.device = device ∧
      bringUp source options device.candidate
        (.new profile device.strings.serialNumber port
          ⟨device.candidate.busId, device.candidate.address⟩)
        { host with bus := host.bus.note (Visit.readingCalls device), events := events } =
          (visit.outcome, after) ∧
      Serves source profiles options host visit after := by
  let record := Record.new profile device.strings.serialNumber port
    ⟨device.candidate.busId, device.candidate.address⟩
  let before : Host SimulatedBus :=
    { host with bus := host.bus.note (Visit.readingCalls device), events := events }
  let view := host.bus.view device.candidate
  let plan := uploadPlan source profile options view
  have planned : plan = uploadPlan source record.profile options
      (before.bus.view device.candidate) := rfl
  obtain ⟨reported, ran⟩ := run_bringUp planned
  let verdict := plan.verdict (SimulatedBus.refusal view.fault plan.transfers)
  have reached : host.bus.reach device.candidate = .ok device := by
    rw [SimulatedBus.reach_of_find? found, identified.opens, if_neg Bool.false_ne_true]
  refine ⟨⟨device, uploadOutcome record host.clock verdict, upTo view.fault plan.transfers⟩, _, rfl,
    ran, ?_, sendsFirmware_uploadOutcome source options device record host.clock view, ?_⟩
  · have comes : verdict = uploadVerdict source profile options host.bus :=
      verdict_uploadPlan source profile options reached
    dsimp only
    cases ended : verdict with
    | ok _ =>
      exact .uploaded identified loader (comes.symm.trans ended) ⟨rfl, rfl, rfl, rfl, rfl, rfl⟩
    | error error =>
      exact .uploadFailed identified loader (comes.symm.trans ended) ⟨rfl, rfl, rfl, rfl, rfl, rfl⟩
  · refine ⟨plan.transfers, reported, rfl, ?_⟩
    have uploading : (uploadOutcome record host.clock verdict).isUpload = true := by
      cases verdict <;> rfl
    have second : uploadCalls options device.candidate view =
        [.openDevice device.candidate.address, .detachKernelDriver options.interface,
          .setConfiguration options.configuration, .close device.candidate.address] := by
      simp only [uploadCalls, view, SimulatedBus.view, reached]
      rfl
    rw [Visit.calls, uploading, if_pos rfl, ← second, ← SimulatedBus.note_note]
    rfl

theorem serves_probe {host : Host SimulatedBus} {device : Device}
    (found : host.bus.find? device.candidate = some device) :
    ∃ visit after, visit.device = device ∧
      probe source profiles options device.candidate host = (visit.outcome, after) ∧
      Serves source profiles options host visit after := by
  have skips (reason : SkipReason) (events : Array Event)
      (decides : Decides source profiles options host.clock host.bus device
        (.skipped device.candidate reason)) :
      ∃ visit after, visit.device = device ∧
        skip device.candidate reason
          { host with bus := host.bus.note (Visit.readingCalls device), events := events } =
            (visit.outcome, after) ∧
        Serves source profiles options host visit after :=
    ⟨⟨device, .skipped device.candidate reason, []⟩, _, rfl, rfl, decides, rfl,
      Visit.leads_of_silent rfl rfl host _⟩
  rw [run_probe, stringCalls_of_find? found, SimulatedBus.reach_of_find? found]
  cases opens : device.failsOpen with
  | true => exact skips _ _ (.openFailed opens)
  | false =>
    rw [if_neg Bool.false_ne_true, foundStrings]
    cases reads : device.failsStrings with
    | true => exact skips _ _ (.stringsUnreadable opens reads)
    | false =>
      rw [if_neg Bool.false_ne_true, attend, identify]
      cases placed : device.candidate.portPath with
      | none => exact skips _ _ (.noPortPath opens reads placed)
      | some port =>
        dsimp only
        cases matched : findProfile? profiles device.candidate.vendorId
            device.candidate.productId device.strings with
        | none => exact skips _ _ (.noProfile opens reads placed (not_fits_of_findProfile? matched))
        | some profile =>
          have identified : Identified profiles device port profile :=
            ⟨opens, reads, placed, firstFit_of_findProfile? matched⟩
          dsimp only
          split
          · next runs =>
            rw [device.hasFirmware_iff] at runs
            exact ⟨⟨device, .ready _, []⟩, _, rfl, rfl,
              .ready identified runs ⟨rfl, rfl, rfl, rfl, rfl, rfl⟩, rfl,
              Visit.leads_of_silent rfl rfl host _⟩
          · next loader =>
            rw [device.hasFirmware_iff] at loader
            exact serves_bringUp source profiles options identified loader found _

theorem isSelected_iff (candidate : Candidate) :
    isSelected profiles options candidate = true ↔
      (∀ filter ∈ options.filter, filter.accepts candidate) ∧
        ∃ profile ∈ profiles,
          profile.vendorId = candidate.vendorId ∧ profile.productId = candidate.productId := by
  simp only [isSelected, Bool.and_eq_true, Option.all_eq_true, isPlausible, List.any_eq_true,
    Profile.isPlausible, beq_iff_eq, Option.mem_def]

/-- A walk to the devices of some visits. -/
def walk (visits : List Visit) : StateM (Host SimulatedBus) (List Outcome) :=
  (visits.map (·.device.candidate)).mapM (probe source profiles options)

theorem walk_cons {visit : Visit} {host after : Host SimulatedBus}
    (ran : probe source profiles options visit.device.candidate host = (visit.outcome, after))
    (rest : List Visit) :
    walk source profiles options (visit :: rest) host =
      (visit.outcome :: (walk source profiles options rest after).1,
        (walk source profiles options rest after).2) := by
  rw [walk, List.map_cons, List.mapM_cons]
  simp only [bind, StateT.bind, ran]
  rfl

/-- Visits whose walk from a host decides as it is to, each on the bus that the earlier ones leave;
before and after each of them the bus has noted the calls and transfers of the earlier ones. -/
structure Accounts (host : Host SimulatedBus) (visits : List Visit) : Prop where
  outcomes : (walk source profiles options visits host).1 = visits.map Visit.outcome
  decides : ∀ front visit, front ++ [visit] <+: visits →
    Decides source profiles options host.clock
      (walk source profiles options front host).2.bus visit.device visit.outcome
  sends : ∀ visit ∈ visits, visit.SendsFirmware source
  calls : ∀ front, front <+: visits →
    (walk source profiles options front host).2.bus.calls.toList =
      host.bus.calls.toList ++ front.flatMap (Visit.calls options)
  transfers : ∀ front, front <+: visits →
    (walk source profiles options front host).2.bus.transfers.toList =
      host.bus.transfers.toList ++ front.flatMap Visit.sent

theorem accounts_nil (host : Host SimulatedBus) : Accounts source profiles options host [] where
  outcomes := rfl
  decides front visit isFront := by simp at isFront
  sends := List.forall_mem_nil _
  calls front isFront := by
    obtain rfl := List.prefix_nil.1 isFront
    exact (List.append_nil _).symm
  transfers front isFront := by
    obtain rfl := List.prefix_nil.1 isFront
    exact (List.append_nil _).symm

theorem accounts_cons {visit : Visit} {rest : List Visit} {host after : Host SimulatedBus}
    (ran : probe source profiles options visit.device.candidate host = (visit.outcome, after))
    (serves : Serves source profiles options host visit after)
    (accounts : Accounts source profiles options after rest) :
    Accounts source profiles options host (visit :: rest) where
  outcomes := by
    rw [walk_cons source profiles options ran, List.map_cons, accounts.outcomes]
  decides front next isFront := by
    cases front with
    | nil =>
      obtain ⟨rfl, -⟩ := List.cons_prefix_cons.1 isFront
      exact serves.decides
    | cons first later =>
      obtain ⟨rfl, earlier⟩ := List.cons_prefix_cons.1 isFront
      rw [walk_cons source profiles options ran, ← serves.leads.clock]
      exact accounts.decides later next earlier
  sends := List.forall_mem_cons.2 ⟨serves.sends, accounts.sends⟩
  calls front isFront := by
    cases front with
    | nil => exact (List.append_nil _).symm
    | cons first later =>
      obtain ⟨rfl, earlier⟩ := List.cons_prefix_cons.1 isFront
      rw [walk_cons source profiles options ran, accounts.calls later earlier, serves.leads.calls,
        List.flatMap_cons, List.append_assoc]
  transfers front isFront := by
    cases front with
    | nil => exact (List.append_nil _).symm
    | cons first later =>
      obtain ⟨rfl, earlier⟩ := List.cons_prefix_cons.1 isFront
      rw [walk_cons source profiles options ran, accounts.transfers later earlier,
        serves.leads.transfers, List.flatMap_cons, List.append_assoc]

theorem accounts_walk {devices : List Device} {host : Host SimulatedBus}
    (found : ∀ device ∈ devices, host.bus.find? device.candidate = some device) :
    ∃ visits, visits.map Visit.device = devices ∧
      Accounts source profiles options host visits := by
  -- A visit takes no device off the bus, so the later ones are found where they were.
  induction devices generalizing host with
  | nil => exact ⟨[], rfl, accounts_nil source profiles options host⟩
  | cons device rest ih =>
    obtain ⟨visit, after, rfl, ran, serves⟩ :=
      serves_probe source profiles options (found device List.mem_cons_self)
    have later (other : Device) (member : other ∈ rest) :
        after.bus.find? other.candidate = some other := by
      rw [serves.leads.find?]
      exact found other (List.mem_cons_of_mem _ member)
    obtain ⟨visits, rfl, accounts⟩ := ih later
    exact ⟨visit :: visits, rfl, accounts_cons source profiles options ran serves accounts⟩

/-- A walk visits the listed devices that the filter and some model's identifiers match, in the
order of the listing. Each has the outcome it is to have; only those that are known to be of a model
and do not run the firmware yet are detached, configured and written to, each by way of a handle of
its own and with the firmware of its own model. -/
theorem discover_decides (source : FirmwareSource) (profiles : List Profile)
    (options : DiscoverOptions) (host : Host SimulatedBus)
    (distinct : (host.bus.appear.devices.map Device.place).Nodup) :
    let listed := { host with bus := host.bus.appear }
    ∃ visits, discover source profiles options host = walk source profiles options visits listed ∧
      visits.map Visit.device = listed.bus.devices.filter (fun device =>
        (∀ filter ∈ options.filter, filter.accepts device.candidate) ∧
          ∃ profile ∈ profiles, profile.vendorId = device.candidate.vendorId ∧
            profile.productId = device.candidate.productId) ∧
      Accounts source profiles options listed visits := by
  intro listed
  let selected := listed.bus.devices.filter (isSelected profiles options ·.candidate)
  have found (device : Device) (member : device ∈ selected) :
      listed.bus.find? device.candidate = some device :=
    SimulatedBus.find?_of_mem distinct (List.mem_filter.1 member).1
  obtain ⟨visits, visited, accounts⟩ := accounts_walk source profiles options found
  refine ⟨visits, ?_, ?_, accounts⟩
  · have candidates : visits.map (·.device.candidate) =
        (listed.bus.devices.map Device.candidate).filter (isSelected profiles options) := by
      rw [List.filter_map]
      exact List.map_map.symm.trans (congrArg (List.map Device.candidate) visited)
    rw [walk, candidates]
    rfl
  · rw [visited]
    refine List.filter_congr fun device _ => ?_
    rw [Bool.eq_iff_iff, isSelected_iff, decide_eq_true_iff]

end

theorem discover_decides_among_unlike_devices :
    let candidate (address : UInt8) : Candidate :=
      ⟨"1", address, Chip.cypressVendorId, Chip.fx3LoaderId, some "1-1"⟩
    let running : Device :=
      ⟨candidate 4, ⟨Chip.firmwareManufacturer, Chip.firmwareProduct, "7"⟩, false, false⟩
    let refusing : Device := ⟨candidate 5, ⟨"", "", ""⟩, true, false⟩
    let loader : Device := ⟨candidate 6, ⟨"", "", ""⟩, false, false⟩
    let other : Device := ⟨{ candidate 7 with vendorId := 0 }, ⟨"", "", ""⟩, false, false⟩
    let source : FirmwareSource := fun _ _ => .ok [0x43, 0x59, 0, 0xB0]
    let host : Host SimulatedBus :=
      { bus := { devices := [running, other, refusing], pending := [(0, loader)] } }
    let listed := { host with bus := host.bus.appear }
    (listed.bus.devices.map Device.place).Nodup ∧
      ∃ visits, Accounts source Profile.supported {} listed visits ∧
        visits.map Visit.device = [running, refusing, loader] := by
  intro candidate running refusing loader other source host listed
  have distinct : (listed.bus.devices.map Device.place).Nodup := by decide
  obtain ⟨visits, -, visited, accounts⟩ :=
    discover_decides source Profile.supported {} host distinct
  refine ⟨distinct, visits, accounts, visited.trans ?_⟩
  decide +kernel

end Discovery

end AnalyzerBoot
