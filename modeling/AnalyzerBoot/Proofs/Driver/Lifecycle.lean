import AnalyzerBoot.Proofs.Driver.Stages
import AnalyzerBoot.Proofs.Host.Contract
import AnalyzerBoot.Proofs.Record.Soundness
import AnalyzerBoot.Proofs.Setting.Acceptance
import AnalyzerBoot.Usb.Simulated

/-!
The life of a record, from the scan that made it through any changes of its device and its settings,
whether or not they succeed and whatever happens on the bus. The record stays sound and stays that
of its device; its status tells whether the device was opened since it was last closed.
-/

set_option autoImplicit false

namespace AnalyzerBoot

open Host

variable {σ η : Type} [Usb.Bus σ η]

namespace Discovery

theorem isSound_of_identify {profiles : List Profile} {candidate : Usb.Candidate}
    {strings : Usb.Strings} {record : Record}
    (identified : identify profiles candidate strings = .ok record) :
    record.IsSound ∧ record.status = .initializing := by
  rw [identify] at identified
  split at identified
  · cases identified
  · split at identified
    · cases identified
    · next profile _ =>
      cases identified
      exact ⟨Record.isSound_new profile _ _ _, rfl⟩

/-- What a scan can make of the record of a device that it has identified. -/
inductive Scans (identified : Record) : Record → Prop where
  | ready : Scans identified { identified with status := .inactive }
  | uploaded (instant : Instant) :
      Scans identified ((identified.withAddress Chip.unknownAddress).markUploaded instant)
  | uploadFailed : Scans identified (identified.withAddress Chip.unknownAddress)

/-- An outcome whose record, if it has one, is that of the device which a candidate shows. -/
def ComesOf (profiles : List Profile) (candidate : Usb.Candidate) (outcome : Outcome) : Prop :=
  ∀ record, outcome.record? = some record →
    ∃ strings identified, identify profiles candidate strings = .ok identified ∧
      Scans identified record

section
variable (source : FirmwareSource) (profiles : List Profile) (options : DiscoverOptions)
variable (candidate : Usb.Candidate)

theorem comesOf_bringUp {strings : Usb.Strings} {record : Record}
    (identified : identify profiles candidate strings = .ok record) :
    Ensures (fun _ : σ => True) (bringUp source options candidate record)
      fun outcome _ => ComesOf profiles candidate outcome := by
  refine .bind (.anything _) fun result => ?_
  cases result with
  | error error =>
    refine .pure fun _ _ => ?_
    rintro _ ⟨⟩
    exact ⟨strings, record, identified, .uploadFailed⟩
  | ok _ =>
    refine .bind (.anything _) fun now => .pure fun _ _ => ?_
    rintro _ ⟨⟩
    exact ⟨strings, record, identified, .uploaded now⟩

theorem comesOf_attend (found : Except SkipReason Usb.Strings) :
    Ensures (fun _ : σ => True) (attend source profiles options candidate found)
      fun outcome _ => ComesOf profiles candidate outcome := by
  have skips (reason : SkipReason) : Ensures (fun _ : σ => True) (skip candidate reason)
      fun outcome _ => ComesOf profiles candidate outcome := by
    rintro host - record ⟨⟩
  cases found with
  | error reason => exact skips reason
  | ok strings =>
    rw [attend]
    cases identified : identify profiles candidate strings with
    | error reason => exact skips reason
    | ok record =>
      dsimp only
      split
      · refine .pure fun _ _ => ?_
        rintro _ ⟨⟩
        exact ⟨strings, record, identified, .ready⟩
      · exact comesOf_bringUp source profiles options candidate identified

end

/-- Each outcome is that of a candidate which was listed. -/
theorem comesOf_discover (source : FirmwareSource) (profiles : List Profile)
    (options : DiscoverOptions) (host : Host σ) :
    ∀ outcome ∈ (discover source profiles options host).1, ∃ candidates,
      ((Usb.Bus.listDevices : Usb.Request σ (List Usb.Candidate)).run host.bus).1 =
        .ok candidates ∧
      ∃ candidate ∈ candidates, ComesOf profiles candidate outcome := by
  have visits (candidate : Usb.Candidate) :
      Ensures (fun _ : σ => True) (probe source profiles options candidate)
        fun outcome _ => ComesOf profiles candidate outcome ∧ True := by
    refine .bind (.anything _) fun _ => .bind (.anything _) fun found => ?_
    exact (comesOf_attend source profiles options candidate found).weaken
      fun _ _ comes => ⟨comes, trivial⟩
  let listing := ((Usb.Bus.listDevices : Usb.Request σ (List Usb.Candidate)).run host.bus).1
  have ensured : Ensures (fun bus : σ => bus = host.bus) (discover source profiles options)
      fun outcomes _ => ∀ outcome ∈ outcomes, ∃ candidates, listing = .ok candidates ∧
        ∃ candidate ∈ candidates, ComesOf profiles candidate outcome := by
    have lists : Ensures (fun bus : σ => bus = host.bus)
        (onBus (Usb.Bus.listDevices : StateM σ (Except Usb.Error (List Usb.Candidate))))
        fun listed _ => listed = listing := .onBus fun _ same => same ▸ rfl
    refine .bind lists fun listed => ?_
    cases listed with
    | error error => exact .pure fun _ _ => List.forall_mem_nil _
    | ok candidates =>
      intro later same outcome member
      have walked := Ensures.mapM (ComesOf profiles) visits
        (candidates.filter (isSelected profiles options))
      obtain ⟨candidate, selected, comes⟩ := (walked later trivial).1 outcome member
      exact ⟨candidates, same.symm, candidate, (List.mem_filter.1 selected).1, comes⟩
  exact ensured host rfl

/-- A scanned record is sound and not that of an open device. -/
theorem fresh_discover {source : FirmwareSource} {profiles : List Profile}
    {options : DiscoverOptions} {host : Host σ} {outcome : Outcome}
    (scanned : outcome ∈ (discover source profiles options host).1) {record : Record}
    (kept : outcome.record? = some record) : record.IsSound ∧ record.status ≠ .active := by
  obtain ⟨_, _, candidate, _, comes⟩ :=
    comesOf_discover source profiles options host outcome scanned
  obtain ⟨strings, identified, named, scans⟩ := comes record kept
  obtain ⟨sound, status⟩ := isSound_of_identify named
  have idle : identified.status ≠ .active := status ▸ nofun
  cases scans with
  | ready => exact ⟨{ sound with active := nofun }, nofun⟩
  | uploaded instant => exact ⟨(sound.withAddress _).markUploaded instant, idle⟩
  | uploadFailed => exact ⟨sound.withAddress _, idle⟩

end Discovery

namespace Driver

/-- What opening the device of a record comes to, and what it makes of the record. -/
inductive Opening (record : Record) : Except BringupError (OpenDevice η) → Record → Prop where
  -- No device was acquired.
  | missing (error : BringupError) : Opening record (.error error) record
  -- A device was acquired, but not its interface.
  | refused (error : BringupError) (address : UInt8) :
      Opening record (.error error) (record.withAddress address)
  | opened (device : OpenDevice η) (address : UInt8) :
      Opening record (.ok device) (activate (record.withAddress address))

theorem opening_openDevice (driver : Driver) (record : Record) (host : Host σ) :
    let opening := driver.openDevice record host
    Opening record opening.1.1 opening.1.2 := by
  intro opening
  have stage : Stage driver record host opening := stage_openDevice driver record host
  clear_value opening
  cases stage with
  | unacquired => exact .missing _
  | @unclaimed _ _ address error => exact .refused (.configurationFailed _) address
  | @opened _ held address => exact .opened ⟨held, driver.config.usbInterface⟩ address

end Driver

namespace Record

variable {record : Record}

theorem IsSound.activate (sound : record.IsSound) : (Driver.activate record).IsSound := by
  have settled : (Driver.activate record).state.samplerate ≠ 0 ∧
      (Driver.activate record).state.samplerate ∈ record.profile.samplerates := by
    rw [Driver.activate]
    dsimp only
    split
    · have listed := record.profile.headD_mem_samplerates
      rw [sound.samplerates]
      exact ⟨ne_of_mem_of_not_mem listed record.profile.zero_not_mem_samplerates, listed⟩
    · next set => exact ⟨set, sound.samplerate.resolve_left set⟩
  exact { sound with samplerate := .inr settled.2, active := fun _ => settled }

theorem continues_activate (record : Record) : Continues record (Driver.activate record) :=
  { Continues.refl record with }

section
variable {result : Except BringupError (OpenDevice η)} {after : Record}

theorem IsSound.opening (sound : record.IsSound) (opening : Driver.Opening record result after) :
    after.IsSound := by
  cases opening with
  | missing error => exact sound
  | refused error address => exact sound.withAddress address
  | opened device address => exact (sound.withAddress address).activate

theorem continues_opening (opening : Driver.Opening record result after) :
    Continues record after := by
  cases opening with
  | missing error => exact .refl record
  | refused error address => exact continues_withAddress record address
  | opened device address =>
    exact (continues_withAddress record address).trans (continues_activate _)

end

section
variable {key : Setting.Key} {value : Setting.Value} {after : Record}

theorem IsSound.set (sound : record.IsSound) (accepted : Setting.Accepts record key value after) :
    after.IsSound := by
  cases accepted with
  | samplerate listed =>
    rw [sound.samplerates] at listed
    have nonzero := ne_of_mem_of_not_mem listed record.profile.zero_not_mem_samplerates
    exact { sound with samplerate := .inr listed, active := fun _ => ⟨nonzero, listed⟩ }
  | limitSamples limit => exact { sound with }
  | captureRatio bounded => exact { sound with captureRatio := bounded }

theorem continues_set (accepted : Setting.Accepts record key value after) :
    Continues record after := by
  cases accepted <;> exact { Continues.refl record with }

end

/-- Something that is done to a record; bus and clock may be others each time. -/
inductive Change (σ η : Type) where
  | openDevice (driver : Driver) (host : Host σ)
  | closeDevice (host : Host σ) (device : OpenDevice η)
  | set (key : Setting.Key) (value : Setting.Value)
  | setChannelEnabled (index : Nat) (enabled : Bool)
  | markUploaded (instant : Instant)

/-- What a change leaves of a record, whether or not it succeeds. -/
def change (record : Record) : Change σ η → Record
  | .openDevice driver host => (driver.openDevice record host).1.2
  | .closeDevice host device => (Driver.closeDevice record device host).1.2
  | .set key value => ((Setting.set key value).run record).2
  | .setChannelEnabled index enabled => (setChannelEnabled index enabled record).2
  | .markUploaded instant => record.markUploaded instant

def changeAll (record : Record) (changes : List (Change σ η)) : Record :=
  changes.foldl change record

/-- The status that a change gives a record, if it gives it one: only opening that succeeds and
closing do. -/
def mark (record : Record) : Change σ η → Option Status
  | .openDevice driver host =>
    if (driver.openDevice record host).1.1.isOk then some .active else none
  | .closeDevice _ _ => some .inactive
  | _ => none

/-- The statuses that changes give a record, one after another. -/
def marks (record : Record) : List (Change σ η) → List Status
  | [] => []
  | first :: rest => (record.mark first).toList ++ (record.change first).marks rest

theorem IsSound.change (sound : record.IsSound) (change : Change σ η) :
    (record.change change).IsSound := by
  cases change with
  | openDevice driver host => exact sound.opening (Driver.opening_openDevice driver record host)
  | closeDevice host device => exact { sound with active := nofun }
  | set key value =>
    rw [Record.change]
    obtain ⟨after, accepted, ran⟩ | ⟨error, -, ran⟩ := Setting.set_cases record key value
    · rw [ran]
      exact sound.set accepted
    · rw [ran]
      exact sound
  | setChannelEnabled index enabled => exact sound.setChannelEnabled index enabled
  | markUploaded instant => exact sound.markUploaded instant

theorem continues_change (record : Record) (change : Change σ η) :
    Continues record (record.change change) := by
  cases change with
  | openDevice driver host => exact continues_opening (Driver.opening_openDevice driver record host)
  | closeDevice host device => exact { Continues.refl record with }
  | set key value =>
    rw [Record.change]
    obtain ⟨after, accepted, ran⟩ | ⟨error, -, ran⟩ := Setting.set_cases record key value
    · rw [ran]
      exact continues_set accepted
    · rw [ran]
      exact .refl record
  | setChannelEnabled index enabled => exact continues_setChannelEnabled record index enabled
  | markUploaded instant => exact continues_markUploaded record instant

theorem status_change (record : Record) (change : Change σ η) :
    (record.change change).status = (record.mark change).getD record.status := by
  cases change with
  | openDevice driver host =>
    have opening := Driver.opening_openDevice driver record host
    rw [Record.change, mark]
    generalize driver.openDevice record host = opened at opening ⊢
    rcases opened with ⟨⟨result, after⟩, last⟩
    cases opening <;> rfl
  | closeDevice host device => rfl
  | set key value =>
    rw [Record.change]
    obtain ⟨after, accepted, ran⟩ | ⟨error, -, ran⟩ := Setting.set_cases record key value
    · rw [ran]
      cases accepted <;> rfl
    · rw [ran]
      rfl
  | setChannelEnabled index enabled =>
    rw [Record.change, setChannelEnabled_apply]
    split <;> rfl
  | markUploaded instant => rfl

theorem IsSound.changeAll (sound : record.IsSound) (changes : List (Change σ η)) :
    (record.changeAll changes).IsSound := by
  induction changes generalizing record with
  | nil => exact sound
  | cons first rest ih => exact ih (sound.change first)

theorem continues_changeAll (record : Record) (changes : List (Change σ η)) :
    Continues record (record.changeAll changes) := by
  induction changes generalizing record with
  | nil => exact .refl record
  | cons first rest ih => exact (continues_change record first).trans (ih _)

theorem status_changeAll (record : Record) (changes : List (Change σ η)) :
    (record.changeAll changes).status = (record.marks changes).getLast?.getD record.status := by
  induction changes generalizing record with
  | nil => rfl
  | cons first rest ih =>
    refine (ih (record.change first)).trans ?_
    rw [status_change, marks, List.getLast?_append]
    cases (record.change first).marks rest |>.getLast? <;> cases record.mark first <;> rfl

/-- Opening leaves a sample rate alone that is set, and sets none if it fails. -/
theorem samplerate_openDevice (sound : record.IsSound) (driver : Driver) (host : Host σ) :
    let opening := driver.openDevice record host
    if opening.1.1.isOk ∧ record.state.samplerate = 0 then
      record.profile.samplerates.min? = some opening.1.2.state.samplerate
    else opening.1.2.state.samplerate = record.state.samplerate := by
  have opening := Driver.opening_openDevice driver record host
  generalize driver.openDevice record host = opened at opening ⊢
  rcases opened with ⟨⟨result, after⟩, last⟩
  cases opening with
  | missing error => simp [Except.isOk, Except.toBool]
  | refused error address => simp [Except.isOk, Except.toBool]
  | opened device address =>
    by_cases unset : record.state.samplerate = 0
    · simp [Except.isOk, Except.toBool, unset, withAddress, sound.samplerates,
        record.profile.min?_samplerates]
    · simp [unset, withAddress]

/-- However a scanned device is opened, closed and set up, its record stays sound and that of the
device, and no upload noted in it is forgotten. It is active if it was opened since it was last
closed, and else as closing or the scan left it. Opening selects the slowest sample rate if none is
set. -/
theorem scanned_record_endures {source : FirmwareSource} {profiles : List Profile}
    {options : DiscoverOptions} {host : Host σ} {outcome : Outcome}
    (scanned : outcome ∈ (Discovery.discover source profiles options host).1)
    (kept : outcome.record? = some record) (changes : List (Change σ η)) :
    let now := record.changeAll changes
    let marks := record.marks changes
    now.IsSound ∧
    (∀ earlier, earlier <+: changes → Continues (record.changeAll earlier) now) ∧
    now.status = marks.getLast?.getD record.status ∧
    (now.status = .active ↔ marks.getLast? = some .active) ∧
    ∀ driver host, let opening : (Except BringupError (OpenDevice η) × Record) × Host σ :=
        Driver.openDevice driver now host
      if opening.1.1.isOk ∧ now.state.samplerate = 0 then
        now.profile.samplerates.min? = some opening.1.2.state.samplerate
      else opening.1.2.state.samplerate = now.state.samplerate := by
  intro now marks
  obtain ⟨sound, idle⟩ := Discovery.fresh_discover scanned kept
  have status : now.status = marks.getLast?.getD record.status := status_changeAll record changes
  refine ⟨sound.changeAll changes, ?_, status, ?_, samplerate_openDevice (sound.changeAll changes)⟩
  · rintro earlier ⟨later, rfl⟩
    have split : now = (record.changeAll earlier).changeAll later := List.foldl_append
    rw [split]
    exact continues_changeAll _ later
  · rw [status]
    cases marks.getLast? with
    | none => exact iff_of_false idle nofun
    | some last => exact (Option.some_inj).symm

theorem scanned_record_endures_refused_opening :
    let candidate : Usb.Candidate :=
      ⟨"1", 5, Chip.cypressVendorId, Chip.fx3LoaderId, some "1-1"⟩
    let running : Usb.Device :=
      ⟨candidate, ⟨Chip.firmwareManufacturer, Chip.firmwareProduct, "7"⟩, false, false⟩
    let host : Host Usb.SimulatedBus := { bus := { devices := [running] } }
    let busy : Host Usb.SimulatedBus :=
      { bus := { devices := [running], interfaceBusy := true } }
    let driver : Driver := { source := fun _ _ => .ok [] }
    let outcomes := (Discovery.discover driver.source driver.profiles {} host).1
    let changes : List (Change Usb.SimulatedBus Usb.Handle) :=
      [.openDevice driver host, .setChannelEnabled 40 true, .openDevice driver busy]
    ∃ outcome ∈ outcomes, ∃ record, outcome.record? = some record ∧
      (record.changeAll changes).IsSound ∧ (record.changeAll changes).status = .active := by
  intro candidate running host busy driver outcomes changes
  let record : Record := { Record.new (Profile.supported.head (by decide)) "7" "1-1" ⟨"1", 5⟩ with
    status := .inactive }
  have scanned : .ready record ∈ outcomes := by decide +kernel
  have endures := scanned_record_endures scanned rfl changes
  exact ⟨_, scanned, record, rfl, endures.1, endures.2.2.2.1.2 (by decide +kernel)⟩

end Record

end AnalyzerBoot
