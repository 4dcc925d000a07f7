import AnalyzerBoot.Driver
import AnalyzerBoot.Proofs.Host.Contract
import AnalyzerBoot.Proofs.Upload.Streaming

/-!
How a bus is used while devices are scanned, opened and closed. One device is open at a time; only
the open device is asked for anything, and every device that was opened is closed once, but for the
one that opening returns. So whatever holds of a bus that is used like this holds of it after every
such action, on any bus.
-/

set_option autoImplicit false

namespace AnalyzerBoot.Usb

open Host

/-- What holds of a bus on which no device is open, and while one is, as long as requests are made
in order: a device is opened only if none is open, and only the open one is asked and closed. -/
structure Conduct (σ : Type) {η : Type} [Bus σ η] where
  idle : σ → Prop
  busy : η → σ → Prop
  lists {bus : σ} : idle bus → idle ((Bus.listDevices : Request σ (List Candidate)).run bus).2
  opens {bus : σ} (candidate : Candidate) : idle bus →
    let opened := (Bus.openDevice candidate : Request σ η).run bus
    orElse idle busy opened.1 opened.2
  closes {bus : σ} {handle : η} : busy handle bus →
    idle ((Bus.close handle : StateM σ Unit).run bus).2
  reads {bus : σ} {handle : η} : busy handle bus →
    busy handle ((Bus.readStrings handle : Request σ Strings).run bus).2
  detaches {bus : σ} {handle : η} (interface : UInt8) : busy handle bus →
    busy handle ((Bus.detachKernelDriver handle interface : Request σ Unit).run bus).2
  configures {bus : σ} {handle : η} (configuration : UInt8) : busy handle bus →
    busy handle ((Bus.setConfiguration handle configuration : Request σ Unit).run bus).2
  transfers {bus : σ} {handle : η} (transfer : Transfer) : busy handle bus →
    busy handle ((Bus.transferOut handle transfer : Request σ Nat).run bus).2
  claims {bus : σ} {handle : η} (interface : UInt8) : busy handle bus →
    let claimed := (Bus.claimInterface handle interface : StateM σ (Except Error Unit × η)).run bus
    busy claimed.1.2 claimed.2

namespace Conduct

variable {σ η : Type} [Bus σ η] (conduct : Conduct σ)

/-- What holds of a bus that an action leaves with this device open, or with none. -/
def left (held : Option η) : σ → Prop :=
  held.elim conduct.idle conduct.busy

section
variable {α : Type}

theorem openDevice (candidate : Candidate) :
    Ensures conduct.idle (onBus (Bus.openDevice candidate : StateM σ (Except Error η)))
      (orElse conduct.idle conduct.busy) :=
  .onBus fun _ idle => conduct.opens candidate idle

theorem close (handle : η) :
    Ensures (conduct.busy handle) (onBus (Bus.close handle : StateM σ Unit))
      fun _ => conduct.idle :=
  .onBus fun _ busy => conduct.closes busy

theorem readStrings (handle : η) :
    Keeps (conduct.busy handle)
      (onBus (Bus.readStrings handle : StateM σ (Except Error Strings))) :=
  Ensures.onBus fun _ busy => conduct.reads busy

theorem listDevices :
    Keeps conduct.idle (onBus (Bus.listDevices : StateM σ (Except Error (List Candidate)))) :=
  Ensures.onBus fun _ idle => conduct.lists idle

theorem claimInterface (handle : η) (interface : UInt8) :
    Ensures (conduct.busy handle) (onBus (σ := σ) (Bus.claimInterface handle interface))
      fun claimed => conduct.busy claimed.2 :=
  .onBus fun _ busy => conduct.claims interface busy

theorem withDevice (candidate : Candidate) {action : η → StateM (Host σ) α}
    (uses : ∀ handle, Keeps (conduct.busy handle) (action handle)) :
    Keeps conduct.idle (Host.withDevice candidate action) := by
  refine Ensures.bind (conduct.openDevice candidate) fun opened => ?_
  cases opened with
  | error error => exact Keeps.pure _
  | ok handle =>
    refine Ensures.bind (uses handle) fun result => ?_
    exact Ensures.bind (conduct.close handle) fun _ => Keeps.pure _

end

/-! Uploads. -/

section
variable (handle : η)

theorem send (transfer : Transfer) :
    Keeps (conduct.busy handle) (Upload.send handle transfer : Bringup σ Unit).run := by
  refine Keeps.andThen (Keeps.request fun _ busy => conduct.transfers transfer busy) fun _ => ?_
  exact Keeps.pure _

theorem uploadImage (image : Bytes) (format : Image.Format) :
    Keeps (conduct.busy handle) (Upload.uploadImage handle image format : Bringup σ Nat).run := by
  rw [Upload.uploadImage_eq]
  refine Keeps.andThen (Keeps.andThen (Keeps.forM ?_ _) fun _ => ?_) fun sent => ?_
  · intro transfer
    exact Keeps.andThen (conduct.send handle transfer) fun _ => Keeps.emit _
  · cases (Upload.Plan.ofImage image format).error <;> exact Keeps.pure _
  · exact Keeps.andThen (Keeps.emit _) fun _ => Keeps.pure _

theorem switchReset (profile : Profile) (asserted : Bool) :
    Keeps (conduct.busy handle)
      (Discovery.switchReset profile handle asserted : Bringup σ Unit).run := by
  rw [Discovery.switchReset]
  split
  · exact Keeps.andThen (Keeps.emit _) fun _ => conduct.send handle _
  · exact Keeps.pure _

theorem writeFirmware (source : FirmwareSource) (profile : Profile) :
    Keeps (conduct.busy handle)
      (Discovery.writeFirmware source profile handle : Bringup σ Unit).run := by
  refine Keeps.andThen (conduct.switchReset handle profile true) fun _ => ?_
  refine Keeps.andThen (Keeps.ofExcept _) fun image => ?_
  refine Keeps.andThen (Keeps.emit _) fun _ => ?_
  refine Keeps.andThen (conduct.uploadImage handle image _) fun _ => ?_
  exact conduct.switchReset handle profile false

theorem programDevice (source : FirmwareSource) (profile : Profile) (options : DiscoverOptions) :
    Keeps (conduct.busy handle)
      (Discovery.programDevice source profile options handle : Bringup σ Unit).run := by
  refine Keeps.andThen (Keeps.request fun _ busy => conduct.detaches _ busy) fun _ => ?_
  refine Keeps.andThen (Keeps.request fun _ busy => conduct.configures _ busy) fun _ => ?_
  exact conduct.writeFirmware handle source profile

end

/-! A walk over the bus. -/

section
variable (source : FirmwareSource) (profiles : List Profile) (options : DiscoverOptions)
variable (candidate : Candidate)

theorem uploadFirmware (profile : Profile) :
    Keeps conduct.idle
      (Discovery.uploadFirmware source profile options candidate : Bringup σ Unit).run := by
  refine Keeps.andThen (conduct.withDevice candidate fun handle => ?_) fun opened => ?_
  · exact conduct.programDevice handle source profile options
  · cases opened with
    | error error => exact Keeps.pure _
    | ok result => exact Keeps.ofExcept result

theorem bringUp (record : Record) :
    Keeps conduct.idle (Discovery.bringUp source options candidate record) := by
  refine Keeps.bind (conduct.uploadFirmware source options candidate _) fun result => ?_
  cases result with
  | error error => exact Keeps.pure _
  | ok _ => exact Keeps.bind Keeps.now fun _ => Keeps.pure _

theorem skip (reason : SkipReason) :
    Keeps conduct.idle (Discovery.skip candidate reason : StateM (Host σ) Outcome) :=
  Keeps.bind (Keeps.emit _) fun _ => Keeps.pure _

theorem attend (found : Except SkipReason Strings) :
    Keeps conduct.idle (Discovery.attend source profiles options candidate found) := by
  cases found with
  | error reason => exact conduct.skip candidate reason
  | ok strings =>
    rw [Discovery.attend]
    cases Discovery.identify profiles candidate strings with
    | error reason => exact conduct.skip candidate reason
    | ok record =>
      dsimp only
      split
      · exact Keeps.pure _
      · exact conduct.bringUp source options candidate record

theorem probe : Keeps conduct.idle (Discovery.probe source profiles options candidate) := by
  refine Keeps.bind (Keeps.emit _) fun _ => Keeps.bind ?_ fun found => ?_
  · refine Keeps.bind (conduct.withDevice candidate conduct.readStrings) fun opened => ?_
    rcases opened with error | error | strings <;> exact Keeps.pure _
  · exact conduct.attend source profiles options candidate found

theorem discover : Keeps conduct.idle (Discovery.discover source profiles options) := by
  refine Keeps.bind conduct.listDevices fun listed => ?_
  cases listed with
  | error error => exact Keeps.pure _
  | ok candidates => exact Keeps.mapM (conduct.probe source profiles options) _

end

/-! Opening the device of a record. -/

theorem runsFirmware (handle : η) : Keeps (conduct.busy handle) (Driver.runsFirmware handle) := by
  refine Keeps.bind (conduct.readStrings handle) fun found => ?_
  cases found <;> exact Keeps.pure _

theorem openFirst (candidates : List Candidate) :
    Ensures conduct.idle (Driver.openFirst candidates) fun found =>
      conduct.left (found.map Prod.fst) := by
  induction candidates with
  | nil => exact Keeps.pure _
  | cons candidate rest ih =>
    refine .bind (conduct.openDevice candidate) fun opened => ?_
    cases opened with
    | error error => exact ih
    | ok handle =>
      refine .bind (conduct.runsFirmware handle) fun runs => ?_
      cases runs with
      | true => exact .pure fun _ busy => busy
      | false => exact .bind (conduct.close handle) fun _ => ih

theorem acquire (port : String) :
    Ensures conduct.idle
      (Driver.acquire port : StateM (Host σ) (Except BringupError (η × UInt8)))
      (orElse conduct.idle fun found => conduct.busy found.1) := by
  refine .bind conduct.listDevices fun listed => ?_
  cases listed with
  | error error => exact .pure fun _ idle => idle
  | ok candidates =>
    refine .bind (conduct.openFirst _) fun found => ?_
    cases found <;> exact .pure fun _ held => held

theorem claim (driver : Driver) (record : Record) (handle : η) :
    Ensures (conduct.busy handle) (driver.claim record handle) fun result =>
      orElse conduct.idle (fun device => conduct.busy device.handle) result.1 := by
  refine .bind (conduct.claimInterface handle _) fun claimed => ?_
  rcases claimed with ⟨error | _, handle⟩
  · exact .bind (conduct.close handle) fun _ => .pure fun _ idle => idle
  · exact .bind (Keeps.emit _) fun _ => .pure fun _ busy => busy

/-- Opening leaves exactly the device open that it returns, and none if it fails. -/
theorem openRecord (driver : Driver) (record : Record) :
    Ensures conduct.idle (driver.openDevice record) fun result =>
      orElse conduct.idle (fun device => conduct.busy device.handle) result.1 := by
  refine .bind (.wait (conduct.acquire record.connectionId) _ _) fun acquired => ?_
  rcases acquired with error | ⟨handle, address⟩
  · exact .pure fun _ idle => idle
  · dsimp only
    split
    · exact .bind (Keeps.elapsed _) fun elapsed => .bind (Keeps.emit _) fun _ =>
        conduct.claim driver _ handle
    · exact conduct.claim driver _ handle

end Conduct

end AnalyzerBoot.Usb
