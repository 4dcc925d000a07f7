import AnalyzerBoot.Discovery
import AnalyzerBoot.Proofs.Upload.Carrying
import AnalyzerBoot.Proofs.Usb.Opening

/-!
An upload of firmware is a plan too: hold the processor in reset, write the image, let it run. What
cuts the plan short leaves out all that follows, so a processor never runs half an image.
-/

set_option autoImplicit false

namespace AnalyzerBoot

namespace Upload

theorem Plan.ofImage_simple {image : Bytes} (filled : image ≠ []) :
    Plan.ofImage image .simple = (Plan.ofSegment ⟨0, image⟩).append ⟨[], none⟩ := by
  have first : Image.Reader.next ⟨.simple, image.length, image, 0, none, false⟩ =
      (some (.ok ⟨0, image⟩), ⟨.simple, image.length, [], image.length, none, true⟩) := by
    simp [Image.Reader.next, filled]
  have last : Image.Reader.drain ⟨.simple, image.length, [], image.length, none, true⟩ = _ :=
    Image.Reader.drain_of_none rfl
  rw [ofImage, Image.open?]
  dsimp only
  rw [Image.Reader.drain_of_segment first, last]
  rfl

theorem Plan.mem_transfers_of_append {first second : Plan} {transfer : Usb.Transfer}
    (planned : transfer ∈ (first.append second).transfers) :
    transfer ∈ first.transfers ∨ transfer ∈ second.transfers := by
  rw [append] at planned
  split at planned
  · exact .inl planned
  · exact List.mem_append.1 planned

/-- A plain image is written to multiples of the chunk size only. -/
theorem value_of_mem_ofImage_simple {image : Bytes} {transfer : Usb.Transfer}
    (planned : transfer ∈ (Plan.ofImage image .simple).transfers) :
    transfer.value.toNat % Chip.chunkSize = 0 := by
  by_cases empty : image = []
  · have nothing : Image.Reader.drain ⟨.simple, 0, [], 0, none, false⟩ = _ :=
      Image.Reader.drain_of_none rfl
    simp [empty, Plan.ofImage, Image.open?, nothing, Plan.ofSegments] at planned
  · rw [Plan.ofImage_simple empty] at planned
    obtain planned | planned := Plan.mem_transfers_of_append planned
    · simp only [Plan.ofSegment, Segment.slices, List.map_map, List.mem_map] at planned
      obtain ⟨index, -, rfl⟩ := planned
      simp [Chunk.transfer, writeTransfer, Segment.slice, Segment.sliceAddress, Address.ofWord,
        Chip.chunkSize]
    · cases planned

end Upload

namespace Discovery

/-- The write that switches the reset of a profile's processor, if it is ever held in reset. -/
def resetRow (profile : Profile) (asserted : Bool) : List Usb.Transfer :=
  if profile.caps.fx3 then [] else [Upload.resetTransfer asserted]

section
variable (source : FirmwareSource) (profile : Profile)

def firmwarePlan : Upload.Plan :=
  Upload.Plan.append ⟨resetRow profile true, none⟩
    (.made (fun image => (Upload.Plan.ofImage image profile.imageFormat).append
      ⟨resetRow profile false, none⟩) (source profile.firmware profile.imageFormat.maxSize))

/-- The transfers of an upload that gets as far as its first one, if no fault cuts it short. -/
def firmwareRow : List Usb.Transfer :=
  match source profile.firmware profile.imageFormat.maxSize with
  | .error _ => resetRow profile true
  | .ok image =>
    let plan := Upload.Plan.ofImage image profile.imageFormat
    if plan.error.isSome then resetRow profile true ++ plan.transfers
    else resetRow profile true ++ plan.transfers ++ resetRow profile false

/-- Why the firmware of a profile cannot be loaded or not be read to its end, if so. -/
def firmwareError? : Option BringupError :=
  match source profile.firmware profile.imageFormat.maxSize with
  | .error error => some error
  | .ok image => (Upload.Plan.ofImage image profile.imageFormat).error

/-- Whether the firmware of a profile can be loaded and read to its end. -/
def IsWhole (image : Bytes) : Prop :=
  source profile.firmware profile.imageFormat.maxSize = .ok image ∧
    (Upload.Plan.ofImage image profile.imageFormat).error = none

theorem firmwarePlan_transfers :
    (firmwarePlan source profile).transfers = firmwareRow source profile := by
  rw [firmwarePlan, firmwareRow]
  cases source profile.firmware profile.imageFormat.maxSize with
  | error error => exact List.append_nil _
  | ok image =>
    cases ended : (Upload.Plan.ofImage image profile.imageFormat).error <;>
      simp [Upload.Plan.append, Upload.Plan.made, ended]

theorem firmwarePlan_error :
    (firmwarePlan source profile).error = firmwareError? source profile := by
  rw [firmwarePlan, firmwareError?]
  cases source profile.firmware profile.imageFormat.maxSize with
  | error error => rfl
  | ok image =>
    cases ended : (Upload.Plan.ofImage image profile.imageFormat).error <;>
      simp [Upload.Plan.append, Upload.Plan.made, ended]

theorem firmwarePlan_error_eq_none_iff :
    (firmwarePlan source profile).error = none ↔ ∃ image, IsWhole source profile image := by
  simp only [firmwarePlan_error, firmwareError?, IsWhole]
  cases source profile.firmware profile.imageFormat.maxSize <;> simp

end

variable {σ η : Type} [Usb.Bus σ η] {handle : η}

theorem carries_switchReset (profile : Profile) (asserted : Bool) :
    Upload.Carries handle (switchReset profile handle asserted : Bringup σ Unit)
      ⟨resetRow profile asserted, none⟩ := by
  rw [switchReset, Profile.needsReset, resetRow]
  cases profile.caps.fx3 with
  | true => exact .pure ()
  | false => exact .setReset asserted

theorem carries_writeFirmware (source : FirmwareSource) (profile : Profile) :
    Upload.Carries handle (writeFirmware source profile handle : Bringup σ Unit)
      (firmwarePlan source profile) := by
  rw [writeFirmware, firmwarePlan]
  refine .bind (carries_switchReset profile true) fun _ => ?_
  dsimp only
  refine .lift fun image => ?_
  exact .emit (.bind (.uploadImage image _) fun _ => carries_switchReset profile false)

/-- What follows opening a device. -/
def configuredPlan (source : FirmwareSource) (profile : Profile) (options : DiscoverOptions)
    (failConfiguration : Bool) : Upload.Plan :=
  if failConfiguration then
    ⟨[], some (configurationError (.configurationFailed options.configuration "Resource busy"))⟩
  else firmwarePlan source profile

theorem request_detach (handle : Usb.Handle) (interface : UInt8) (host : Host Usb.SimulatedBus) :
    (Host.request configurationError (Usb.Bus.detachKernelDriver handle interface)).run host =
      (.ok (), { host with bus := host.bus.note [.detachKernelDriver interface] }) := by
  rw [Host.run_request, ← Usb.SimulatedBus.record_eq]
  rfl

theorem request_configure (handle : Usb.Handle) (configuration : UInt8)
    (host : Host Usb.SimulatedBus) :
    (Host.request configurationError (Usb.Bus.setConfiguration handle configuration)).run host =
      (if host.bus.failConfiguration then
          .error (configurationError (.configurationFailed configuration "Resource busy"))
        else .ok (),
        { host with bus := host.bus.note [.setConfiguration configuration] }) := by
  have step : (Usb.Bus.setConfiguration handle configuration :
      Usb.Request Usb.SimulatedBus Unit).run host.bus =
      (if host.bus.failConfiguration then
          .error (.configurationFailed configuration "Resource busy")
        else .ok (),
        host.bus.record (.setConfiguration configuration)) := rfl
  rw [Host.run_request, step, Usb.SimulatedBus.record_eq]
  by_cases fails : host.bus.failConfiguration <;> simp [fails]

theorem run_programDevice {source : FirmwareSource} {profile : Profile}
    {options : DiscoverOptions} {plan : Upload.Plan} (handle : Usb.Handle)
    (host : Host Usb.SimulatedBus)
    (planned : plan = configuredPlan source profile options host.bus.failConfiguration) :
    ∃ result events,
      (programDevice source profile options handle).run host =
        (result, { host with
          bus := (host.bus.afterRow plan.transfers).note
            [.detachKernelDriver options.interface, .setConfiguration options.configuration]
          events := events }) ∧
      Upload.failure? result =
        plan.failure (Usb.SimulatedBus.refusal host.bus.fault plan.transfers) := by
  rw [programDevice, Bringup.run_bind, request_detach]
  dsimp only
  rw [Bringup.run_bind, request_configure, Usb.SimulatedBus.note_note]
  by_cases fails : host.bus.failConfiguration
  · rw [configuredPlan, if_pos fails] at planned
    subst planned
    rw [if_pos (show (host.bus.note _).failConfiguration = true from fails)]
    simp only [Usb.SimulatedBus.afterRow_nil]
    refine ⟨_, _, rfl, ?_⟩
    cases host.bus.fault <;> rfl
  · rw [configuredPlan, if_neg fails] at planned
    subst planned
    rw [if_neg (show ¬ (host.bus.note _).failConfiguration = true from fails)]
    exact carries_writeFirmware source profile _ (Usb.SimulatedBus.deliver_eq handle _ _)

/-- The plan of an upload to a candidate that a bus shows like this. -/
def uploadPlan (source : FirmwareSource) (profile : Profile) (options : DiscoverOptions)
    (view : Usb.SimulatedBus.View) : Upload.Plan :=
  match view.reached with
  | .error error => ⟨[], some (.configurationFailed ("failed to open device: " ++ error.message))⟩
  | .ok _ => configuredPlan source profile options view.failConfiguration

/-- The calls on the handle of an upload. -/
def uploadCalls (options : DiscoverOptions) (candidate : Usb.Candidate)
    (view : Usb.SimulatedBus.View) : List Usb.Call :=
  if view.reached.isOk then
    [.openDevice candidate.address, .detachKernelDriver options.interface,
      .setConfiguration options.configuration, .close candidate.address]
  else []

theorem run_uploadFirmware {source : FirmwareSource} {profile : Profile}
    {options : DiscoverOptions} {candidate : Usb.Candidate} {host : Host Usb.SimulatedBus}
    {plan : Upload.Plan}
    (planned : plan = uploadPlan source profile options (host.bus.view candidate)) :
    ∃ events,
      (uploadFirmware source profile options candidate).run host =
        (plan.verdict (Usb.SimulatedBus.refusal host.bus.fault plan.transfers), { host with
          bus := (host.bus.afterRow plan.transfers).note
            (uploadCalls options candidate (host.bus.view candidate))
          events := events }) := by
  rw [uploadFirmware, Bringup.run_bind, Bringup.run_lift]
  cases reached : host.bus.reach candidate with
  | error error =>
    rw [Usb.SimulatedBus.withDevice_of_error reached]
    simp only [uploadPlan, Usb.SimulatedBus.view, reached] at planned
    subst planned
    simp only [uploadCalls, Usb.SimulatedBus.view, reached, Usb.SimulatedBus.afterRow_nil]
    refine ⟨host.events, ?_⟩
    cases host.bus.fault <;> simp [Except.isOk, Except.toBool, Usb.SimulatedBus.note_nil] <;> rfl
  | ok device =>
    simp only [uploadPlan, Usb.SimulatedBus.view, reached] at planned
    obtain ⟨result, events, ran, ended⟩ := run_programDevice ⟨device, none⟩
      { host with bus := host.bus.whileOpen candidate.address } planned
    obtain rfl := Upload.eq_verdict ended
    rw [Usb.SimulatedBus.withDevice_of_ok reached _ ran]
    simp only [uploadCalls, Usb.SimulatedBus.view, reached]
    exact ⟨events, rfl⟩

theorem uploadPlan_of_ready (source : FirmwareSource) (profile : Profile)
    (options : DiscoverOptions) {view : Usb.SimulatedBus.View} (ready : view.isReady) :
    uploadPlan source profile options view = firmwarePlan source profile := by
  rcases view with ⟨_ | device, _ | _, fault⟩
  · cases ready
  · cases ready
  · rfl
  · cases ready

theorem uploadPlan_of_not_ready (source : FirmwareSource) (profile : Profile)
    (options : DiscoverOptions) {view : Usb.SimulatedBus.View} (unready : ¬ view.isReady) :
    (uploadPlan source profile options view).transfers = [] ∧
      (uploadPlan source profile options view).error ≠ none := by
  rcases view with ⟨_ | device, _ | _, fault⟩
  · exact ⟨rfl, nofun⟩
  · exact ⟨rfl, nofun⟩
  · exact absurd rfl unready
  · exact ⟨rfl, nofun⟩

/-- The transfers of an upload that no fault cuts short. -/
def due (source : FirmwareSource) (profile : Profile) (view : Usb.SimulatedBus.View) :
    List Usb.Transfer :=
  if view.isReady then firmwareRow source profile else []

theorem uploadPlan_transfers (source : FirmwareSource) (profile : Profile)
    (options : DiscoverOptions) (view : Usb.SimulatedBus.View) :
    (uploadPlan source profile options view).transfers = due source profile view := by
  by_cases ready : view.isReady
  · rw [uploadPlan_of_ready source profile options ready, firmwarePlan_transfers, due, if_pos ready]
  · rw [(uploadPlan_of_not_ready source profile options ready).1, due, if_neg ready]

theorem uploadPlan_error_eq_none_iff (source : FirmwareSource) (profile : Profile)
    (options : DiscoverOptions) (view : Usb.SimulatedBus.View) :
    (uploadPlan source profile options view).error = none ↔
      view.isReady ∧ ∃ image, IsWhole source profile image := by
  by_cases ready : view.isReady
  · rw [uploadPlan_of_ready source profile options ready, firmwarePlan_error_eq_none_iff]
    exact (and_iff_right ready).symm
  · exact iff_of_false (uploadPlan_of_not_ready source profile options ready).2
      fun both => ready both.1

/-- What an upload comes to on a device that can be opened. A transfer that is refused ends it in
front of an error of the image. -/
def uploadVerdict (source : FirmwareSource) (profile : Profile) (options : DiscoverOptions)
    (bus : Usb.SimulatedBus) : Except BringupError Unit :=
  if bus.failConfiguration then
    .error (configurationError (.configurationFailed options.configuration "Resource busy"))
  else if Usb.isHit bus.fault (firmwareRow source profile) then
    .error (.transferFailed Usb.SimulatedBus.faultError.message)
  else (firmwareError? source profile).elim (.ok ()) .error

theorem verdict_uploadPlan (source : FirmwareSource) (profile : Profile)
    (options : DiscoverOptions) {bus : Usb.SimulatedBus} {candidate : Usb.Candidate}
    {device : Usb.Device} (reached : bus.reach candidate = .ok device) :
    let plan := uploadPlan source profile options (bus.view candidate)
    plan.verdict (Usb.SimulatedBus.refusal bus.fault plan.transfers) =
      uploadVerdict source profile options bus := by
  intro plan
  have configured : plan = configuredPlan source profile options bus.failConfiguration := by
    simp only [plan, uploadPlan, Usb.SimulatedBus.view, reached]
  rw [configured, configuredPlan, uploadVerdict]
  split
  · cases bus.fault <;> rfl
  · rw [firmwarePlan_transfers, Upload.Plan.verdict, Usb.SimulatedBus.refusal]
    split
    · rfl
    · rw [Upload.Plan.failure, firmwarePlan_error]

-- The write that lets a processor run comes once, behind all others: a plain image is written to
-- multiples of 4096 only, which the reset register is not.
theorem whole_of_released {source : FirmwareSource} {profile : Profile} {fault : Option Nat}
    {transfer : Usb.Transfer} (releases : transfer ∈ resetRow profile false)
    (sent : transfer ∈ Usb.upTo fault (firmwareRow source profile)) :
    ∃ image, IsWhole source profile image ∧ Usb.upTo fault (firmwareRow source profile) =
      resetRow profile true ++ (Upload.Plan.ofImage image profile.imageFormat).transfers ++
        resetRow profile false := by
  cases fx3 : profile.caps.fx3 with
  | true => simp [resetRow, fx3] at releases
  | false =>
    have back : resetRow profile false = [Upload.resetTransfer false] := by simp [resetRow, fx3]
    have asserts : Upload.resetTransfer false ∉ resetRow profile true := by
      rw [resetRow, fx3]
      decide
    have plain : profile.imageFormat = .simple := by simp [Profile.imageFormat, fx3]
    have absent (image : Bytes) : Upload.resetTransfer false ∉ resetRow profile true ++
        (Upload.Plan.ofImage image profile.imageFormat).transfers := by
      rw [List.mem_append, not_or, plain]
      refine ⟨asserts, fun planned => ?_⟩
      exact absurd (Upload.value_of_mem_ofImage_simple planned) (by decide)
    obtain rfl : transfer = Upload.resetTransfer false := by simpa [back] using releases
    rw [firmwareRow] at sent ⊢
    cases loaded : source profile.firmware profile.imageFormat.maxSize with
    | error error =>
      rw [loaded] at sent
      exact absurd (Usb.mem_of_mem_upTo sent) asserts
    | ok image =>
      rw [loaded] at sent
      dsimp only at sent ⊢
      split at sent
      · exact absurd (Usb.mem_of_mem_upTo sent) (absent image)
      · next whole =>
        rw [back] at sent ⊢
        have missed := Usb.isHit_eq_false_of_last_mem sent (absent image)
        rw [if_neg whole]
        exact ⟨image, ⟨loaded, by simpa using whole⟩, Usb.upTo_of_not_isHit missed⟩

/-- An upload sends its transfers up to the fault of the bus: none if the device cannot be opened or
configured, else the reset, the chunks and, if the image could be read to its end, the release. It
succeeds if none of that fails, and the device is closed in any case. -/
theorem uploadFirmware_brackets (source : FirmwareSource) (profile : Profile)
    (options : DiscoverOptions) (candidate : Usb.Candidate) (host : Host Usb.SimulatedBus) :
    let view := host.bus.view candidate
    let fault := host.bus.fault
    let sent := Usb.upTo fault (due source profile view)
    let run := (uploadFirmware source profile options candidate).run host
    run.2.bus.transfers.toList = host.bus.transfers.toList ++ sent ∧
    (run.1 = .ok () ↔ (view.isReady ∧ ∃ image, IsWhole source profile image) ∧
      Usb.isHit fault (due source profile view) = false) ∧
    (∀ transfer ∈ resetRow profile false, transfer ∈ sent →
      ∃ image, IsWhole source profile image ∧ sent = resetRow profile true ++
        (Upload.Plan.ofImage image profile.imageFormat).transfers ++ resetRow profile false) ∧
    run.2.bus.calls.toList = host.bus.calls.toList ++
      (if view.reached.isOk then
        [.openDevice candidate.address, .detachKernelDriver options.interface,
          .setConfiguration options.configuration, .close candidate.address]
      else []) ∧
    run.2.bus.openHandles = host.bus.openHandles := by
  intro view fault sent run
  obtain ⟨events, ran⟩ := run_uploadFirmware
    (rfl : uploadPlan source profile options (host.bus.view candidate) = _)
  have ran : run = _ := ran
  rw [ran, uploadPlan_transfers]
  refine ⟨Array.toList_append, ?_, ?_, Array.toList_append, rfl⟩
  · refine (Upload.Plan.verdict_eq_ok_iff _ _ _).trans ?_
    rw [uploadPlan_error_eq_none_iff]
  · intro transfer releases reaches
    by_cases ready : view.isReady
    · have row : due source profile view = firmwareRow source profile := if_pos ready
      simp only [sent, row] at reaches ⊢
      exact whole_of_released releases reaches
    · have nothing : due source profile view = [] := if_neg ready
      simp only [sent, nothing] at reaches
      cases Usb.mem_of_mem_upTo reaches

end Discovery

end AnalyzerBoot
