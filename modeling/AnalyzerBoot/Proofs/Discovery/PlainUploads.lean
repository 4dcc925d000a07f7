import AnalyzerBoot.Proofs.Discovery.PlainImages
import AnalyzerBoot.Proofs.Firmware.Lookup

/-!
Uploads to controllers that take plain images. The limit on these images keeps all of their chunks
within the low half of addresses. It does not keep them off the register that holds the processor
in reset: an image that reaches so far writes to it between the two writes that switch it.
-/

set_option autoImplicit false

namespace AnalyzerBoot

namespace Discovery

open Upload (bracketed firmwareOf resetTransfer writesTo)

/-- A source that gives no image beyond the limit that it is asked for. -/
def IsBounded (source : FirmwareSource) : Prop :=
  ∀ name limit image, source name limit = .ok image → image.length ≤ limit

/-- The plain image of a profile, which is empty if there is none. -/
def plainImage (source : FirmwareSource) (profile : Profile) : Bytes :=
  (source profile.firmware Chip.fx2MaxImageSize).toOption.getD []

section
variable {source : FirmwareSource} {profile : Profile}

theorem IsBounded.fits (bounded : IsBounded source) (profile : Profile) :
    (plainImage source profile).length ≤ Chip.fx2MaxImageSize := by
  rw [plainImage]
  cases loaded : source profile.firmware Chip.fx2MaxImageSize with
  | error error => exact Nat.zero_le _
  | ok image => exact bounded _ _ _ loaded

theorem resetRow_plain (plain : profile.caps.fx3 = false) (asserted : Bool) :
    resetRow profile asserted = [resetTransfer asserted] := by
  rw [resetRow, plain]
  rfl

theorem imageFormat_plain (plain : profile.caps.fx3 = false) : profile.imageFormat = .simple := by
  rw [Profile.imageFormat, plain]
  rfl

theorem firmwareRow_of_loaded (plain : profile.caps.fx3 = false) {image : Bytes}
    (loaded : source profile.firmware Chip.fx2MaxImageSize = .ok image)
    (fits : image.length ≤ UInt32.size) : firmwareRow source profile = bracketed image := by
  rw [firmwareRow, imageFormat_plain plain, Image.Format.maxSize, loaded]
  simp only [Upload.ofImage_plain fits, resetRow_plain plain]
  rfl

theorem firmwareRow_isPrefix (plain : profile.caps.fx3 = false) (bounded : IsBounded source) :
    firmwareRow source profile <+: bracketed (plainImage source profile) := by
  cases loaded : source profile.firmware Chip.fx2MaxImageSize with
  | error error =>
    rw [firmwareRow, imageFormat_plain plain, Image.Format.maxSize, loaded]
    dsimp only
    rw [resetRow_plain plain]
    exact List.prefix_append [resetTransfer true] _
  | ok image =>
    have fits := Nat.le_trans (bounded _ _ _ loaded) (by decide : _ ≤ UInt32.size)
    rw [firmwareRow_of_loaded plain loaded fits, plainImage, loaded]
    exact List.prefix_refl _

/-- Why an upload of a plain image can fail before its last transfer is refused. -/
theorem uploadPlan_error_cases (plain : profile.caps.fx3 = false) (bounded : IsBounded source)
    {options : DiscoverOptions} {view : Usb.SimulatedBus.View} {error : BringupError}
    (ended : (uploadPlan source profile options view).error = some error) :
    (∃ reason, error = .configurationFailed reason) ∨
      source profile.firmware Chip.fx2MaxImageSize = .error error := by
  -- Only a device that is there and takes its configuration gets to the firmware.
  rcases view with ⟨_ | device, _ | _, fault⟩
  · cases ended
    exact .inl ⟨_, rfl⟩
  · cases ended
    exact .inl ⟨_, rfl⟩
  · change (firmwarePlan source profile).error = some error at ended
    rw [firmwarePlan, imageFormat_plain plain, Image.Format.maxSize] at ended
    cases loaded : source profile.firmware Chip.fx2MaxImageSize with
    | error reason =>
      rw [loaded] at ended
      exact .inr (congrArg _ (Option.some.inj ended))
    | ok image =>
      have fits := Nat.le_trans (bounded _ _ _ loaded) (by decide : _ ≤ UInt32.size)
      rw [loaded] at ended
      simp [Upload.Plan.append, Upload.Plan.made, Upload.ofImage_plain fits] at ended
  · cases ended
    exact .inl ⟨_, rfl⟩

end

/-! Sources -/

/-- What a source may give that looks at the size of an image and not at what is in it. -/
inductive Gives (name : String) (limit : Nat) : Except BringupError Bytes → Prop where
  | whole {image : Bytes} (within : image.length ≤ limit) : Gives name limit (.ok image)
  | missing : Gives name limit (.error (.resourceNotFound name))
  | tooLarge (size : Nat) : Gives name limit (.error (.resourceTooLarge name size limit))

theorem isBounded_of_gives {source : FirmwareSource}
    (gives : ∀ name limit, Gives name limit (source name limit)) : IsBounded source := by
  intro name limit image loaded
  have given := gives name limit
  rw [loaded] at given
  cases given with
  | whole within => exact within

theorem gives_memory (memory : Firmware.Memory) (name : String) (limit : Nat) :
    Gives name limit (memory.load name limit) := by
  rw [Firmware.Memory.load]
  split
  · exact .missing
  · split
    · exact .tooLarge _
    · next within => exact .whole (Nat.not_lt.1 within)

theorem gives_directories (directories : Firmware.Directories) (files : Files.View)
    (name : String) (limit : Nat) : Gives name limit (directories.load files name limit) := by
  obtain lacks | ⟨size, content, first⟩ :=
    Firmware.lacks_or_isFirst files name directories.directories
  · rw [Firmware.Directories.load_of_lacks lacks]
    exact .missing
  · rw [Firmware.Directories.load_of_isFirst first, Firmware.Directories.readFile_apply]
    split
    · exact .tooLarge _
    · dsimp only
      split
      · exact .tooLarge _
      · next within => exact .whole (Nat.not_lt.1 within)

/-! Whole uploads -/

section
variable {source : FirmwareSource} {profile : Profile}
variable (options : DiscoverOptions) (candidate : Usb.Candidate) (host : Host Usb.SimulatedBus)

/-- An upload of a plain image sends the front of its transfers. -/
theorem sent_plain (plain : profile.caps.fx3 = false) (bounded : IsBounded source) :
    ∃ sent,
      ((uploadFirmware source profile options candidate).run host).2.bus.transfers.toList =
        host.bus.transfers.toList ++ sent ∧
      sent <+: bracketed (plainImage source profile) := by
  obtain ⟨events, ran⟩ := run_uploadFirmware
    (rfl : uploadPlan source profile options (host.bus.view candidate) = _)
  rw [ran, uploadPlan_transfers]
  refine ⟨_, Array.toList_append, (Usb.upTo_isPrefix _ _).trans ?_⟩
  rw [due]
  split
  · exact firmwareRow_isPrefix plain bounded
  · exact List.nil_prefix

theorem error_plain (plain : profile.caps.fx3 = false) (bounded : IsBounded source)
    {error : BringupError}
    (failed : ((uploadFirmware source profile options candidate).run host).1 = .error error) :
    (∃ reason, error = .configurationFailed reason) ∨ (∃ reason, error = .transferFailed reason) ∨
      source profile.firmware Chip.fx2MaxImageSize = .error error := by
  obtain ⟨events, ran⟩ := run_uploadFirmware
    (rfl : uploadPlan source profile options (host.bus.view candidate) = _)
  rw [ran] at failed
  obtain refused | ended := Upload.Plan.error_of_verdict failed
  · exact .inr (.inl refused)
  · exact (uploadPlan_error_cases plain bounded ended).imp_right .inr

/-- A plain image that was uploaded was so between the two switches of the reset. -/
theorem sent_of_plain_success (plain : profile.caps.fx3 = false) {image : Bytes}
    (loaded : source profile.firmware Chip.fx2MaxImageSize = .ok image)
    (fits : image.length ≤ UInt32.size)
    (succeeded : ((uploadFirmware source profile options candidate).run host).1 = .ok ()) :
    ((uploadFirmware source profile options candidate).run host).2.bus.transfers.toList =
      host.bus.transfers.toList ++ bracketed image := by
  obtain ⟨events, ran⟩ := run_uploadFirmware
    (rfl : uploadPlan source profile options (host.bus.view candidate) = _)
  rw [ran] at succeeded ⊢
  obtain ⟨ended, missed⟩ := (Upload.Plan.verdict_eq_ok_iff _ _ _).1 succeeded
  rw [uploadPlan_transfers, due,
    if_pos ((uploadPlan_error_eq_none_iff source profile options _).1 ended).1,
    firmwareRow_of_loaded plain loaded fits] at missed ⊢
  exact Array.toList_append.trans (congrArg _ (Usb.upTo_of_not_isHit missed))

end

/-- Whatever fails, an upload of a plain image needs only the low half of addresses: it sends at
most sixteen chunks, from address zero on, and fails for no reason that lies in the image, since the
limit is kept by the sources. A longer image would not be kept to the low half by the upload. -/
theorem plain_upload_keeps_to_low_addresses {source : FirmwareSource} {profile : Profile}
    (plain : profile.caps.fx3 = false) (bounded : IsBounded source) (options : DiscoverOptions)
    (candidate : Usb.Candidate) (host : Host Usb.SimulatedBus) :
    let run := (uploadFirmware source profile options candidate).run host
    (∃ sent, run.2.bus.transfers.toList = host.bus.transfers.toList ++ sent ∧
      (∀ transfer ∈ sent, transfer.index = 0) ∧
      (firmwareOf sent).length ≤ 16 ∧
      (firmwareOf sent).map (·.value.toNat) =
        (List.range (firmwareOf sent).length).map (· * 4096) ∧
      (firmwareOf sent).flatMap (·.data) <+: plainImage source profile) ∧
    (∀ error, run.1 = .error error →
      (∃ reason, error = .configurationFailed reason) ∨
      (∃ reason, error = .transferFailed reason) ∨
      source profile.firmware Chip.fx2MaxImageSize = .error error) ∧
    (∀ (memory : Firmware.Memory) name limit, Gives name limit (memory.load name limit)) ∧
    (∀ (directories : Firmware.Directories) files name limit,
      Gives name limit (directories.load files name limit)) ∧
    ∀ (handle : Usb.Handle) (image : Bytes) (host : Host Usb.SimulatedBus),
      host.bus.fault = none → Chip.fx2MaxImageSize < image.length →
      ∃ sent, ((Upload.uploadImage handle image .simple).run host).2.bus.transfers.toList =
          host.bus.transfers.toList ++ sent ∧
        ∃ transfer ∈ sent, transfer.index = 1 := by
  intro run
  have fits := bounded.fits profile
  refine ⟨?_, fun error => error_plain options candidate host plain bounded, gives_memory,
    gives_directories, fun handle image host faultless long => ?_⟩
  · obtain ⟨sent, transfers, front⟩ := sent_plain options candidate host plain bounded
    have chunks : firmwareOf sent <+: Upload.plainRow (plainImage source profile) := by
      rw [← Upload.firmwareOf_bracketed fits]
      exact front.filter _
    obtain ⟨few, values⟩ := Upload.values_of_isPrefix fits chunks
    refine ⟨sent, transfers, fun transfer member => ?_, few, values,
      Upload.data_of_isPrefix chunks⟩
    exact Upload.index_of_mem_bracketed fits (front.subset member)
  · obtain ⟨-, accepted⟩ := Upload.run_uploadImage_of_faultless (Usb.SimulatedBus.recipient handle)
      image .simple faultless
    exact ⟨_, accepted, Upload.exists_high_of_long long⟩

/-- A controller without the segmented format. -/
def plainProfile : Profile :=
  ⟨Chip.cypressVendorId, Chip.fx2LoaderId, "Cypress", "FX2", none, "fx2.fw", .none, none, none⟩

/-- The boot loader of such a controller. -/
def plainDevice : Usb.Device :=
  ⟨⟨"1", 4, Chip.cypressVendorId, Chip.fx2LoaderId, some "1-1"⟩, ⟨"", "", ""⟩, false, false⟩

/-- The firmware of such a controller, and nothing else. -/
def plainMemory (image : Bytes) : Firmware.Memory :=
  .ofList [("fx2.fw", image)]

theorem load_plainMemory {image : Bytes} (fits : image.length ≤ Chip.fx2MaxImageSize) :
    (plainMemory image).load plainProfile.firmware Chip.fx2MaxImageSize = .ok image := by
  have held : (plainMemory image).get? plainProfile.firmware = some image :=
    Firmware.Memory.get?_insert_self {} "fx2.fw" image
  rw [Firmware.Memory.load, held]
  exact if_neg (Nat.not_lt.2 fits)

/-- An image of exactly the limit, and a fault behind its last chunk. -/
theorem plain_upload_keeps_to_low_addresses_at_limit :
    let memory := plainMemory (List.replicate 65536 2)
    let host : Host Usb.SimulatedBus :=
      { bus := { devices := [plainDevice], failTransferAt := some 17 } }
    let run := (uploadFirmware memory.load plainProfile {} plainDevice.candidate).run host
    plainProfile.caps.fx3 = false ∧ IsBounded memory.load ∧
    ∃ sent, run.2.bus.transfers.toList = sent ∧ (∀ transfer ∈ sent, transfer.index = 0) ∧
      (firmwareOf sent).length ≤ 16 := by
  intro memory host run
  clear_value memory
  have bounded : IsBounded memory.load := isBounded_of_gives (gives_memory memory)
  obtain ⟨⟨sent, transfers, low, few, -⟩, -⟩ :=
    plain_upload_keeps_to_low_addresses (rfl : plainProfile.caps.fx3 = false) bounded {}
      plainDevice.candidate host
  exact ⟨rfl, bounded, sent, transfers, low, few⟩

/-! The processor held in reset -/

theorem success_of_ready {source : FirmwareSource} {profile : Profile} {candidate : Usb.Candidate}
    {host : Host Usb.SimulatedBus} {image : Bytes} (plain : profile.caps.fx3 = false)
    (loaded : source profile.firmware Chip.fx2MaxImageSize = .ok image)
    (fits : image.length ≤ UInt32.size) (options : DiscoverOptions)
    (ready : (host.bus.view candidate).isReady) (faultless : host.bus.fault = none) :
    ((uploadFirmware source profile options candidate).run host).1 = .ok () := by
  obtain ⟨events, ran⟩ := run_uploadFirmware
    (rfl : uploadPlan source profile options (host.bus.view candidate) = _)
  have whole : IsWhole source profile image := by
    rw [IsWhole, imageFormat_plain plain, Upload.ofImage_plain fits]
    exact ⟨loaded, rfl⟩
  rw [ran]
  refine (Upload.Plan.verdict_eq_ok_iff _ _ _).2 ⟨?_, ?_⟩
  · exact (uploadPlan_error_eq_none_iff source profile options _).2 ⟨ready, image, whole⟩
  · rw [faultless]
    rfl

/-- Where a plain image is uploaded, the register that holds the processor in reset is set first and
cleared last. In between it is written to exactly if the image reaches up to it. -/
theorem reset_held_iff_short_image {source : FirmwareSource} {profile : Profile} {image : Bytes}
    (plain : profile.caps.fx3 = false)
    (loaded : source profile.firmware Chip.fx2MaxImageSize = .ok image)
    (within : image.length ≤ Chip.fx2MaxImageSize) (options : DiscoverOptions)
    (candidate : Usb.Candidate) (host : Host Usb.SimulatedBus)
    (succeeded : ((uploadFirmware source profile options candidate).run host).1 = .ok ()) :
    let run := (uploadFirmware source profile options candidate).run host
    let register := Chip.resetRegister.toNat
    ∃ chunks,
      let sent := resetTransfer true :: (chunks ++ [resetTransfer false])
      run.2.bus.transfers.toList = host.bus.transfers.toList ++ sent ∧
      writesTo register sent = 1 :: (image[register]?.toList ++ [0]) ∧
      (writesTo register sent = [1, 0] ∧ (∀ chunk ∈ chunks, ¬ chunk.Covers register) ↔
        image.length ≤ register) := by
  intro run register
  have fits : image.length ≤ UInt32.size := Nat.le_trans within (by decide)
  have writes := Upload.writesTo_bracketed fits
  refine ⟨Upload.plainRow image, ?_, writes, ?_⟩
  · exact sent_of_plain_success options candidate host plain loaded fits succeeded
  · rw [← List.getElem?_eq_none_iff]
    constructor
    · rintro ⟨twice, -⟩
      -- A byte of the image would be written between the two switches.
      have both := writes.symm.trans twice
      cases middle : image[register]? with
      | none => rfl
      | some byte =>
        rw [middle] at both
        cases both
    · intro short
      have nothing := Upload.writesTo_plainRow fits register
      rw [short] at nothing writes
      refine ⟨writes, fun chunk planned => ?_⟩
      rw [← Usb.Transfer.byteAt?_eq_none_iff]
      exact List.filterMap_eq_nil_iff.1 nothing chunk planned

/-- A host with nothing but the boot loader of such a controller. -/
def plainHost : Host Usb.SimulatedBus :=
  { bus := { devices := [plainDevice] } }

theorem success_of_plainHost {image : Bytes} (within : image.length ≤ Chip.fx2MaxImageSize) :
    ((uploadFirmware (plainMemory image).load plainProfile {} plainDevice.candidate).run
      plainHost).1 = .ok () :=
  success_of_ready rfl (load_plainMemory within) (Nat.le_trans within (by decide)) {} rfl rfl

/-- The longest image that leaves the register alone. -/
theorem reset_held_iff_short_image_below_register :
    let image : Bytes := List.replicate 0xE600 0
    let run := (uploadFirmware (plainMemory image).load plainProfile {}
      plainDevice.candidate).run plainHost
    plainProfile.caps.fx3 = false ∧ image.length ≤ Chip.fx2MaxImageSize ∧ run.1 = .ok () ∧
      writesTo Chip.resetRegister.toNat run.2.bus.transfers.toList = [1, 0] := by
  intro image run
  have length : image.length = Chip.resetRegister.toNat := List.length_replicate
  -- Only the length of the image matters from here on.
  clear_value image
  have within : image.length ≤ Chip.fx2MaxImageSize := by
    rw [length]
    decide
  have succeeded : run.1 = .ok () := success_of_plainHost within
  obtain ⟨chunks, transfers, -, held⟩ := reset_held_iff_short_image rfl (load_plainMemory within)
    within {} plainDevice.candidate plainHost succeeded
  refine ⟨rfl, within, succeeded, ?_⟩
  rw [transfers]
  exact (held.2 (Nat.le_of_eq length)).1

/-- One byte more, and the image lets the processor run before its upload has ended. -/
theorem long_image_releases_processor :
    let image : Bytes := List.replicate 0xE601 0
    let run := (uploadFirmware (plainMemory image).load plainProfile {}
      plainDevice.candidate).run plainHost
    image.length ≤ Chip.fx2MaxImageSize ∧ run.1 = .ok () ∧
      writesTo Chip.resetRegister.toNat run.2.bus.transfers.toList = [1, 0, 0] := by
  intro image run
  have length : image.length = Chip.resetRegister.toNat + 1 := List.length_replicate
  have middle : image[Chip.resetRegister.toNat]? = some 0 :=
    List.getElem?_replicate_of_lt (Nat.lt_succ_self _)
  clear_value image
  have within : image.length ≤ Chip.fx2MaxImageSize := by
    rw [length]
    decide
  have fits : image.length ≤ UInt32.size := Nat.le_trans within (by decide)
  have succeeded : run.1 = .ok () := success_of_plainHost within
  refine ⟨within, succeeded, ?_⟩
  rw [sent_of_plain_success {} plainDevice.candidate plainHost rfl (load_plainMemory within) fits
    succeeded]
  exact (Upload.writesTo_bracketed fits).trans (by rw [middle]; rfl)

end Discovery

end AnalyzerBoot
