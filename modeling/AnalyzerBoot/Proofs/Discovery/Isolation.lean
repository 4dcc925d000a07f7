import AnalyzerBoot.Proofs.Discovery.Firmware

/-!
A walk over a simulated bus treats every device as if it were alone. What becomes of a device
depends on what the bus shows of it, and of the bus a visit changes nothing that other visits see.
-/

set_option autoImplicit false

namespace AnalyzerBoot

def Record.untimed (record : Record) : Record :=
  { record with
    state := { record.state with uploadedAt := record.state.uploadedAt.map fun _ => 0 } }

/-- An outcome but for the instant of its upload. -/
def Outcome.untimed : Outcome → Outcome
  | .ready record => .ready record.untimed
  | .uploaded record => .uploaded record.untimed
  | .uploadFailed record error => .uploadFailed record.untimed error
  | .skipped candidate reason => .skipped candidate reason

namespace Discovery

open Usb

/-- What opening a device for its strings finds. -/
def foundStrings : (reached : Except Error Device) → Except SkipReason Strings
  | .error error => .error (.openFailed error.message)
  | .ok device =>
    if device.failsStrings then
      .error (.stringsUnreadable (Error.stringDescriptor 1 "Pipe error").message)
    else .ok device.strings

/-- The calls on the handle of a device that is opened for its strings. -/
def stringCalls (candidate : Candidate) (reached : Except Error Device) : List Call :=
  if reached.isOk then
    [.openDevice candidate.address, .readStrings candidate.address, .close candidate.address]
  else []

theorem run_readStrings (candidate : Candidate) (host : Host SimulatedBus) :
    readStrings candidate host =
      (foundStrings (host.bus.reach candidate),
        { host with bus := host.bus.note (stringCalls candidate (host.bus.reach candidate)) }) := by
  cases reached : host.bus.reach candidate with
  | error error =>
    simp only [readStrings, bind, StateT.bind, SimulatedBus.withDevice_of_error reached]
    rw [stringCalls, Except.isOk, Except.toBool, if_neg Bool.false_ne_true, SimulatedBus.note_nil]
    rfl
  | ok device =>
    have step (bus : SimulatedBus) :
        Host.onBus (Bus.readStrings (⟨device, none⟩ : Handle)) { host with bus := bus } =
          (if device.failsStrings then .error (.stringDescriptor 1 "Pipe error")
            else .ok device.strings,
          { host with bus := (bus.afterRow []).note [.readStrings candidate.address] }) := by
      rw [SimulatedBus.afterRow_nil, ← SimulatedBus.record_eq,
        ← SimulatedBus.address_of_reach reached]
      rfl
    have ran := SimulatedBus.withDevice_of_ok reached
      (fun handle => Host.onBus (Bus.readStrings handle)) (step _)
    simp only [readStrings, bind, StateT.bind, ran, SimulatedBus.afterRow_nil]
    by_cases fails : device.failsStrings <;> simp [foundStrings, fails] <;> rfl

theorem run_probe (source : FirmwareSource) (profiles : List Profile) (options : DiscoverOptions)
    (candidate : Candidate) (host : Host SimulatedBus) :
    probe source profiles options candidate host =
      attend source profiles options candidate (foundStrings (host.bus.reach candidate))
        { host with
          bus := host.bus.note (stringCalls candidate (host.bus.reach candidate))
          events := host.events.push (.deviceDiscovered candidate.vendorId candidate.productId
            candidate.busId candidate.address) } := by
  simp only [probe, bind, StateT.bind, Host.emit_apply, run_readStrings]

/-- What becomes of a boot loader when its upload ends at an instant. -/
def uploadOutcome (record : Record) (instant : Instant) : Except BringupError Unit → Outcome
  | .ok () => .uploaded ((record.withAddress Chip.unknownAddress).markUploaded instant)
  | .error error => .uploadFailed (record.withAddress Chip.unknownAddress) error

theorem untimed_uploadOutcome (record : Record) (instant : Instant)
    (verdict : Except BringupError Unit) :
    (uploadOutcome record instant verdict).untimed = (uploadOutcome record 0 verdict).untimed := by
  cases verdict <;> rfl

theorem run_bringUp {source : FirmwareSource} {options : DiscoverOptions}
    {candidate : Candidate} {record : Record} {host : Host SimulatedBus} {plan : Upload.Plan}
    (planned : plan = uploadPlan source record.profile options (host.bus.view candidate)) :
    ∃ events, bringUp source options candidate record host =
      (uploadOutcome record host.clock
          (plan.verdict (SimulatedBus.refusal host.bus.fault plan.transfers)),
        { host with
          bus := (host.bus.afterRow plan.transfers).note
            (uploadCalls options candidate (host.bus.view candidate))
          events := events }) := by
  obtain ⟨events, ran⟩ := run_uploadFirmware planned
  refine ⟨events, ?_⟩
  change uploadFirmware source record.profile options candidate host = _ at ran
  have same : (record.withAddress Chip.unknownAddress).profile = record.profile := rfl
  simp only [bringUp, bind, StateT.bind, same, ran]
  cases plan.verdict (SimulatedBus.refusal host.bus.fault plan.transfers) <;> rfl

/-- What a visit to a device may change of a host: its events and, on the bus, the calls, the
transfers and the fault that they meet. -/
def Leaves (row : List Transfer) (before after : Host SimulatedBus) : Prop :=
  ∃ calls events,
    after = { before with bus := (before.bus.afterRow row).note calls, events := events }

theorem Leaves.nothing (host : Host SimulatedBus) (events : Array Event) :
    Leaves [] host { host with events := events } := by
  refine ⟨[], events, ?_⟩
  rw [SimulatedBus.afterRow_nil, SimulatedBus.note_nil]

theorem Leaves.of_noted {row : List Transfer} {host after : Host SimulatedBus} {calls : List Call}
    {events : Array Event}
    (left : Leaves row { host with bus := host.bus.note calls, events := events } after) :
    Leaves row host after := by
  obtain ⟨more, reported, rfl⟩ := left
  refine ⟨calls ++ more, reported, ?_⟩
  rw [← SimulatedBus.note_note]
  rfl

/-- An action that sees a device like this comes to this outcome, some upload's instant aside, and
offers this row of transfers. -/
def Settles (candidate : Candidate) (view : SimulatedBus.View)
    (action : StateM (Host SimulatedBus) Outcome) (visit : Outcome) (row : List Transfer) : Prop :=
  ∀ host : Host SimulatedBus, host.bus.view candidate = view →
    ∃ outcome after, action host = (outcome, after) ∧ outcome.untimed = visit ∧
      Leaves row host after

theorem settles_skip (candidate : Candidate) (view : SimulatedBus.View) (reason : SkipReason) :
    Settles candidate view (skip candidate reason) (.skipped candidate reason) [] :=
  fun host _ => ⟨_, _, rfl, rfl, .nothing host _⟩

theorem settles_return (candidate : Candidate) (view : SimulatedBus.View) (outcome : Outcome) :
    Settles candidate view (return outcome) outcome.untimed [] :=
  fun host _ => ⟨_, _, rfl, rfl, .nothing host host.events⟩

theorem settles_bringUp (source : FirmwareSource) (options : DiscoverOptions)
    (candidate : Candidate) (record : Record) (view : SimulatedBus.View) :
    ∃ visit row, Settles candidate view (bringUp source options candidate record) visit row := by
  let plan := uploadPlan source record.profile options view
  let verdict := plan.verdict (SimulatedBus.refusal view.fault plan.transfers)
  refine ⟨(uploadOutcome record 0 verdict).untimed, plan.transfers, fun host seen => ?_⟩
  subst seen
  obtain ⟨events, ran⟩ := run_bringUp (rfl : plan = _)
  exact ⟨_, _, ran, untimed_uploadOutcome .., _, events, rfl⟩

theorem settles_attend (source : FirmwareSource) (profiles : List Profile)
    (options : DiscoverOptions) (candidate : Candidate) (found : Except SkipReason Strings)
    (view : SimulatedBus.View) :
    ∃ visit row,
      Settles candidate view (attend source profiles options candidate found) visit row := by
  cases found with
  | error reason => exact ⟨_, _, settles_skip candidate view reason⟩
  | ok strings =>
    rw [attend]
    cases identify profiles candidate strings with
    | error reason => exact ⟨_, _, settles_skip candidate view reason⟩
    | ok record =>
      dsimp only
      split
      · exact ⟨_, _, settles_return candidate view _⟩
      · exact settles_bringUp source options candidate record view

theorem settles_probe (source : FirmwareSource) (profiles : List Profile)
    (options : DiscoverOptions) (candidate : Candidate) (view : SimulatedBus.View) :
    ∃ visit row, Settles candidate view (probe source profiles options candidate) visit row := by
  obtain ⟨visit, row, settles⟩ := settles_attend source profiles options candidate
    (foundStrings view.reached) view
  refine ⟨visit, row, fun host seen => ?_⟩
  subst seen
  rw [run_probe]
  have noted := settles { host with
    bus := host.bus.note (stringCalls candidate (host.bus.reach candidate))
    events := host.events.push (.deviceDiscovered candidate.vendorId candidate.productId
      candidate.busId candidate.address) } rfl
  obtain ⟨outcome, after, ran, same, left⟩ := noted
  exact ⟨outcome, after, ran, same, left.of_noted⟩

/-- The outcome of a device that is alone on a bus, and the transfers it takes. -/
def lone (source : FirmwareSource) (profiles : List Profile) (options : DiscoverOptions)
    (bus : SimulatedBus) (device : Device) : Outcome × List Transfer :=
  let (outcome, after) :=
    probe source profiles options device.candidate { bus := bus.holding [device] }
  (outcome.untimed, after.bus.transfers.toList)

section
variable (source : FirmwareSource) (profiles : List Profile) (options : DiscoverOptions)

theorem run_probes (host : Host SimulatedBus) {visited : List Device}
    (faultless : host.bus.failTransferAt = none)
    (alike : ∀ device ∈ visited, host.bus.view device.candidate =
      (host.bus.holding [device]).view device.candidate) :
    ∃ outcomes after,
      (visited.map Device.candidate).mapM (probe source profiles options) host =
        (outcomes, after) ∧
      outcomes.map Outcome.untimed =
        visited.map (fun device => (lone source profiles options host.bus device).1) ∧
      after.bus.transfers.toList = host.bus.transfers.toList ++
        visited.flatMap fun device => (lone source profiles options host.bus device).2 := by
  -- What a visit leaves on the bus changes no view, so the rest of the devices stay alike.
  induction visited generalizing host with
  | nil => exact ⟨[], host, rfl, rfl, by simp⟩
  | cons device rest ih =>
    obtain ⟨visit, row, settles⟩ := settles_probe source profiles options device.candidate
      (host.bus.view device.candidate)
    -- Among the others and alone, the device is seen alike and so comes to the same.
    obtain ⟨outcome, next, ran, same, calls, events, rfl⟩ := settles host rfl
    obtain ⟨twin, last, twinRan, twinSame, twinCalls, twinEvents, rfl⟩ :=
      settles { bus := host.bus.holding [device] } (alike device List.mem_cons_self).symm
    obtain ⟨outcomes, after, restRan, restSame, restSent⟩ := ih
      { host with bus := (host.bus.afterRow row).note calls, events := events }
      (by rw [← faultless, SimulatedBus.afterRow_of_none faultless]; rfl)
      (fun other later => by
        rw [SimulatedBus.view_left faultless]
        exact alike other (List.mem_cons_of_mem _ later))
    have first : lone source profiles options host.bus device = (visit, row) := by
      rw [lone, twinRan]
      dsimp only
      rw [twinSame, SimulatedBus.afterRow_of_none rfl]
      simp [SimulatedBus.note, SimulatedBus.holding]
    refine ⟨outcome :: outcomes, after, ?_, ?_, ?_⟩
    · rw [List.map_cons, List.mapM_cons]
      simp only [bind, StateT.bind, ran, restRan]
      rfl
    · rw [List.map_cons, List.map_cons, same, first, restSame]
      rfl
    · rw [restSent, List.flatMap_cons, first, SimulatedBus.afterRow_of_none faultless]
      simp [SimulatedBus.note]
      rfl

/-- The devices that a walk stops at. -/
def visited (devices : List Device) : List Device :=
  devices.filter (isSelected profiles options ·.candidate)

def loneOutcomes (bus : SimulatedBus) (devices : List Device) : List Outcome :=
  (visited profiles options devices).map fun device =>
    (lone source profiles options bus device).1

def loneTransfers (bus : SimulatedBus) (devices : List Device) : List Transfer :=
  (visited profiles options devices).flatMap fun device =>
    (lone source profiles options bus device).2

theorem loneOutcomes_append (bus : SimulatedBus) (front back : List Device) :
    loneOutcomes source profiles options bus (front ++ back) =
      loneOutcomes source profiles options bus front ++
        loneOutcomes source profiles options bus back := by
  rw [loneOutcomes, visited, List.filter_append, List.map_append]
  rfl

theorem loneOutcomes_eq_flatMap (bus : SimulatedBus) (devices : List Device) :
    loneOutcomes source profiles options bus devices =
      devices.flatMap fun device => loneOutcomes source profiles options bus [device] := by
  induction devices with
  | nil => rfl
  | cons device rest ih =>
    rw [List.flatMap_cons, ← ih, ← loneOutcomes_append]
    rfl

theorem loneTransfers_append (bus : SimulatedBus) (front back : List Device) :
    loneTransfers source profiles options bus (front ++ back) =
      loneTransfers source profiles options bus front ++
        loneTransfers source profiles options bus back := by
  rw [loneTransfers, visited, List.filter_append, List.flatMap_append]
  rfl

theorem loneTransfers_eq_flatMap (bus : SimulatedBus) (devices : List Device) :
    loneTransfers source profiles options bus devices =
      devices.flatMap fun device => loneTransfers source profiles options bus [device] := by
  induction devices with
  | nil => rfl
  | cons device rest ih =>
    rw [List.flatMap_cons, ← ih, ← loneTransfers_append]
    rfl

theorem run_discover (host : Host SimulatedBus)
    (distinct : (host.bus.devices.map Device.place).Nodup)
    (settled : host.bus.pending = []) (faultless : host.bus.failTransferAt = none) :
    ∃ outcomes after, discover source profiles options host = (outcomes, after) ∧
      outcomes.map Outcome.untimed =
        loneOutcomes source profiles options host.bus host.bus.devices ∧
      after.bus.transfers.toList = host.bus.transfers.toList ++
        loneTransfers source profiles options host.bus host.bus.devices := by
  have alike (device : Device) (stopped : device ∈ visited profiles options host.bus.devices) :
      host.bus.view device.candidate = (host.bus.holding [device]).view device.candidate :=
    SimulatedBus.view_holding distinct faultless (List.mem_filter.1 stopped).1
  obtain ⟨outcomes, after, ran, account⟩ := run_probes source profiles options
    { host with bus := { host.bus with listCount := host.bus.listCount + 1 } } faultless alike
  refine ⟨outcomes, after, ?_, account⟩
  have selected : (visited profiles options host.bus.devices).map Device.candidate =
      (host.bus.devices.map Device.candidate).filter (isSelected profiles options) := by
    rw [List.filter_map]
    rfl
  rw [← ran, selected]
  simp only [discover, bind, StateT.bind, Host.onBus, Bus.listDevices, SimulatedBus.listDevices,
    SimulatedBus.appear_of_settled settled]

/-- A walk over a fresh bus of these devices: its outcomes and the transfers taken. -/
def scan (bus : SimulatedBus) (devices : List Device) (clock : Instant) :
    List Outcome × List Transfer :=
  let (outcomes, after) :=
    discover source profiles options { bus := bus.holding devices, clock := clock }
  (outcomes.map Outcome.untimed, after.bus.transfers.toList)

theorem scan_eq (bus : SimulatedBus) {devices : List Device}
    (distinct : (devices.map Device.place).Nodup) (clock : Instant) :
    scan source profiles options bus devices clock =
      (loneOutcomes source profiles options bus devices,
        loneTransfers source profiles options bus devices) := by
  obtain ⟨outcomes, after, ran, same, sent⟩ := run_discover source profiles options
    { bus := bus.holding devices, clock := clock } distinct rfl rfl
  rw [scan, ran]
  dsimp only
  rw [same, sent]
  rfl

theorem scan_middle (bus : SimulatedBus) {front back : List Device} {device : Device}
    (distinct : ((front ++ device :: back).map Device.place).Nodup) (clock : Instant) :
    (scan source profiles options bus (front ++ device :: back) clock).1 =
      (scan source profiles options bus front clock).1 ++
        (scan source profiles options bus [device] clock).1 ++
        (scan source profiles options bus back clock).1 := by
  have parts := distinct
  rw [List.map_append, List.map_cons, List.nodup_append, List.nodup_cons] at parts
  rw [scan_eq source profiles options bus distinct, scan_eq source profiles options bus parts.1,
    scan_eq source profiles options bus device.nodup_place,
    scan_eq source profiles options bus parts.2.1.2]
  dsimp only
  rw [List.append_assoc, ← loneOutcomes_append, ← loneOutcomes_append]
  rfl

theorem visited_filter (filter : Filter) (devices : List Device) :
    visited profiles { options with filter := some filter } devices =
      (visited profiles { options with filter := none } devices).filter
        (filter.accepts ·.candidate) := by
  rw [visited, visited, List.filter_filter]
  rfl

theorem zip_map_filter {α β : Type} (f : α → β) (p : α → Bool) (members : List α) :
    ((members.zip (members.map f)).filter (p ·.1)).map Prod.snd = (members.filter p).map f := by
  induction members with
  | nil => rfl
  | cons first rest ih =>
    rw [List.map_cons, List.zip_cons_cons, List.filter_cons, List.filter_cons]
    by_cases kept : p first <;> simp [kept, ih]

/-- The devices that some model can be. -/
def eligible (devices : List Device) : List Device :=
  devices.filter fun device =>
    isPlausible profiles device.candidate.vendorId device.candidate.productId

theorem scan_filter (bus : SimulatedBus) {devices : List Device}
    (distinct : (devices.map Device.place).Nodup) (filter : Filter) (clock later : Instant) :
    let all := (scan source profiles { options with filter := none } bus devices later).1
    all.length = (eligible profiles devices).length ∧
    (scan source profiles { options with filter := some filter } bus devices clock).1 =
      (((eligible profiles devices).zip all).filter (filter.accepts ·.1.candidate)).map
        Prod.snd := by
  intro all
  have unfiltered : all = (eligible profiles devices).map fun device =>
      (lone source profiles options bus device).1 :=
    congrArg Prod.fst (scan_eq source profiles { options with filter := none } bus distinct later)
  rw [unfiltered, scan_eq source profiles _ bus distinct]
  refine ⟨List.length_map _, ?_⟩
  rw [zip_map_filter _ (fun device : Device => filter.accepts device.candidate)]
  dsimp only
  rw [loneOutcomes, visited_filter]
  rfl

/-- A walk treats each device as if it were alone, at whatever time. So a device that turns into one
that fails leaves the outcomes around its own as they are, devices in another order have their
outcomes in that order, and a filter keeps the outcomes of the devices it accepts. -/
theorem discover_isolates (source : FirmwareSource) (profiles : List Profile)
    (options : DiscoverOptions) (host : Host SimulatedBus)
    (distinct : (host.bus.devices.map Device.place).Nodup)
    (settled : host.bus.pending = []) (faultless : host.bus.failTransferAt = none) :
    let devices := host.bus.devices
    let scan (filter : Option Filter) :=
      scan source profiles { options with filter := filter } host.bus
    let run := discover source profiles options host
    let outcomes := run.1.map Outcome.untimed
    (∀ clock : Device → Instant,
      outcomes = devices.flatMap (fun device => (scan options.filter [device] (clock device)).1) ∧
      run.2.bus.transfers.toList = host.bus.transfers.toList ++
        devices.flatMap fun device => (scan options.filter [device] (clock device)).2) ∧
    (∀ front device back other clock, devices = front ++ device :: back →
      other.candidate = device.candidate →
        outcomes = (scan options.filter front clock).1 ++ (scan options.filter [device] clock).1 ++
          (scan options.filter back clock).1 ∧
        (scan options.filter (front ++ other :: back) clock).1 =
          (scan options.filter front clock).1 ++ (scan options.filter [other] clock).1 ++
            (scan options.filter back clock).1) ∧
    (∀ permuted clock, permuted.Perm devices →
      (scan options.filter permuted clock).1.Perm outcomes) ∧
    (∀ filter clock later,
      let all := (scan none devices later).1
      all.length = (eligible profiles devices).length ∧
      (scan (some filter) devices clock).1 =
        (((eligible profiles devices).zip all).filter (filter.accepts ·.1.candidate)).map
          Prod.snd) := by
  intro devices scan run outcomes
  obtain ⟨found, after, ran, same, sent⟩ := run_discover source profiles options host distinct
    settled faultless
  have account : outcomes = _ := (congrArg (·.1.map Outcome.untimed) ran).trans same
  have accountSent : run.2.bus.transfers.toList = _ :=
    (congrArg (·.2.bus.transfers.toList) ran).trans sent
  have scanned {others : List Device} (distinct : (others.map Device.place).Nodup)
      (clock : Instant) : scan options.filter others clock = _ :=
    scan_eq source profiles options host.bus distinct clock
  have alone (device : Device) (clock : Instant) : scan options.filter [device] clock = _ :=
    scanned device.nodup_place clock
  refine ⟨fun clock => ⟨?_, ?_⟩, ?_, ?_, ?_⟩
  · rw [account, loneOutcomes_eq_flatMap]
    simp only [alone, devices]
  · rw [accountSent, loneTransfers_eq_flatMap]
    simp only [alone, devices]
  · intro front device back other clock split alike
    have listed : host.bus.devices = front ++ device :: back := split
    rw [listed] at distinct
    have replaced : ((front ++ other :: back).map Device.place).Nodup := by
      simpa [Device.place, alike] using distinct
    refine ⟨?_, scan_middle source profiles options host.bus replaced clock⟩
    rw [account, listed]
    exact (congrArg Prod.fst (scanned distinct clock)).symm.trans
      (scan_middle source profiles options host.bus distinct clock)
  · intro permuted clock perm
    have distinct : (permuted.map Device.place).Nodup := (perm.map _).nodup_iff.2 distinct
    rw [account, scanned distinct]
    exact (perm.filter _).map _
  · intro filter clock later
    exact scan_filter source profiles options host.bus distinct filter clock later

end

theorem discover_isolates_refusing_neighbour :
    let candidate (address : UInt8) : Candidate :=
      ⟨"1", address, Chip.cypressVendorId, Chip.fx3LoaderId, some "1-1"⟩
    let refusing : Device := ⟨candidate 4, ⟨"", "", ""⟩, true, false⟩
    let loader : Device := ⟨candidate 5, ⟨"", "", ""⟩, false, false⟩
    let source : FirmwareSource := fun _ _ => .ok [0x43, 0x59, 0, 0xB0]
    let host : Host SimulatedBus := { bus := { devices := [refusing, loader] } }
    (discover source Profile.supported {} host).1.map Outcome.untimed =
      .skipped (candidate 4) (.openFailed "Failed to open device: Access denied") ::
        (scan source Profile.supported {} host.bus [loader] 0).1 := by
  intro candidate refusing loader source host
  have account := ((discover_isolates source Profile.supported {} host (by decide) rfl rfl).1
    fun _ => 0).1
  have skipped : (scan source Profile.supported {} host.bus [refusing] 0).1 =
      [.skipped (candidate 4) (.openFailed "Failed to open device: Access denied")] := by
    decide +kernel
  rw [account, List.flatMap_cons, List.flatMap_cons, List.flatMap_nil, List.append_nil]
  exact congrArg (· ++ _) skipped

end Discovery

end AnalyzerBoot
