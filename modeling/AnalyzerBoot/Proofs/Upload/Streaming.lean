import AnalyzerBoot.Upload.Transmission
import AnalyzerBoot.Proofs.Upload.Slicing
import AnalyzerBoot.Proofs.Usb.Delivery

/-!
An upload reads, cuts and sends by turns. On any bus it is nevertheless the plan of its image,
worked out beforehand, carried out transfer by transfer; so on a device that takes transfers up to
a fault it sends the front of that plan.
-/

set_option autoImplicit false

namespace AnalyzerBoot

/-- The report of a transfer that a device took. -/
def Usb.Transfer.event (transfer : Usb.Transfer) : Event :=
  .chunkUploaded (Address.toWord ⟨transfer.value, transfer.index⟩) transfer.data.length

namespace Upload

variable {σ η : Type} [Usb.Bus σ η]

/-- Makes a planned transfer and reports it. -/
def perform (handle : η) (transfer : Usb.Transfer) : Bringup σ Unit := do
  send handle transfer
  Host.emit (σ := σ) transfer.event

/-- How a plan ends once all of its transfers are made. -/
def conclude {α : Type} (error : Option BringupError) (result : α) : Bringup σ α :=
  match error with
  | some error => throw error
  | none => return result

/-- Makes all transfers of a plan and adds up their bytes. -/
def carryOut (handle : η) (plan : Plan) : Bringup σ Nat := do
  forM plan.transfers (perform handle)
  conclude plan.error (byteCount plan.transfers)

theorem carryOut_append (handle : η) (first second : Plan) :
    (carryOut handle (first.append second) : Bringup σ Nat) = do
      let sent ← carryOut handle first
      let more ← carryOut handle second
      return sent + more := by
  cases ended : first.error with
  | some error => simp [carryOut, Plan.append, ended, conclude]
  | none => cases last : second.error <;>
      simp [carryOut, Plan.append, ended, last, conclude]

theorem uploadChunks_of_chunk {chunker after : Chunker} {chunk : Chunk}
    (step : chunker.next = (some (.ok chunk), after)) (handle : η) (sent : Nat) :
    (uploadChunks handle chunker sent : Bringup σ Nat) =
      perform handle chunk.transfer >>= fun _ =>
        uploadChunks handle after (sent + chunk.data.length) := by
  rw [uploadChunks]
  split
  · next ended => simp [step] at ended
  · next failed => simp [step] at failed
  · next found =>
    rw [step] at found
    cases found
    rfl

theorem uploadChunks_of_end {chunker after : Chunker} (error : Option BringupError)
    (step : chunker.next = (error.map .error, after)) (handle : η) (sent : Nat) :
    (uploadChunks handle chunker sent : Bringup σ Nat) = conclude error sent := by
  rw [uploadChunks]
  cases error <;> split <;> simp_all [conclude]

theorem uploadChunks_eq (handle : η) (chunker : Chunker) (sent : Nat) :
    (uploadChunks handle chunker sent : Bringup σ Nat) = do
      let more ← carryOut handle ⟨chunker.drain.1.map Chunk.transfer, chunker.drain.2⟩
      return sent + more := by
  -- By the chunks that are left; `sent` counts those already gone.
  fun_induction Chunker.drain chunker generalizing sent with
  | case1 chunker after step =>
    rw [uploadChunks_of_end none step]
    simp [carryOut, conclude]
  | case2 chunker error after step =>
    rw [uploadChunks_of_end (some error) step]
    simp [carryOut, conclude]
  | case3 chunker chunk after step chunks error drained ih =>
    rw [uploadChunks_of_chunk step, ih, drained]
    cases error <;> simp [carryOut, conclude, Chunk.transfer, writeTransfer, Nat.add_assoc]

theorem uploadSegment_eq (handle : η) (segment : Segment) :
    (uploadSegment handle segment : Bringup σ Nat) =
      carryOut handle (Plan.ofSegment segment) := by
  rw [uploadSegment, uploadChunks_eq, Chunker.drain_ofSegment]
  simp [Plan.ofSegment, Chip.chunkSize]

theorem uploadSegments_of_segment {reader after : Image.Reader} {segment : Segment}
    (step : reader.next = (some (.ok segment), after)) (handle : η) (sent : Nat) :
    (uploadSegments handle reader sent : Bringup σ Nat) =
      uploadSegment handle segment >>= fun written =>
        uploadSegments handle after (sent + written) := by
  rw [uploadSegments]
  split <;> simp_all

theorem uploadSegments_of_end {reader after : Image.Reader} (error : Option BringupError)
    (step : reader.next = (error.map .error, after)) (handle : η) (sent : Nat) :
    (uploadSegments handle reader sent : Bringup σ Nat) = conclude error sent := by
  rw [uploadSegments]
  cases error <;> split <;> simp_all [conclude]

theorem uploadSegments_eq (handle : η) (reader : Image.Reader) (sent : Nat) :
    (uploadSegments handle reader sent : Bringup σ Nat) = do
      let more ← carryOut handle (Plan.ofSegments reader.drain.1 reader.drain.2.1)
      return sent + more := by
  fun_induction Image.Reader.drain reader generalizing sent with
  | case1 reader after step =>
    rw [uploadSegments_of_end none step]
    simp [Plan.ofSegments, carryOut, conclude]
  | case2 reader error after step =>
    rw [uploadSegments_of_end (some error) step]
    simp [Plan.ofSegments, carryOut, conclude]
  | case3 reader segment after step segments error last drained ih =>
    rw [uploadSegments_of_segment step, uploadSegment_eq]
    simp only [ih, drained]
    simp [Plan.ofSegments, carryOut_append, Nat.add_assoc]

theorem uploadImage_eq (handle : η) (image : Bytes) (format : Image.Format) :
    (uploadImage handle image format : Bringup σ Nat) = do
      let sent ← carryOut handle (Plan.ofImage image format)
      Host.emit (σ := σ) (.uploadComplete sent)
      return sent := by
  cases opened : Image.open? image format with
  | error error =>
    simp [uploadImage, Plan.ofImage, opened, carryOut, conclude]
    rfl
  | ok reader =>
    simp [uploadImage, Plan.ofImage, opened, uploadSegments_eq]
    rfl

theorem run_send (handle : η) (transfer : Usb.Transfer) (host : Host σ) :
    (send handle transfer).run host =
      match (Usb.Bus.transferOut handle transfer : Usb.Request σ Nat).run host.bus with
      | (.error error, bus) => (.error (.transferFailed error.message), { host with bus := bus })
      | (.ok _, bus) => (.ok (), { host with bus := bus }) := by
  rw [send, Bringup.run_bind, Host.run_request]
  rcases (Usb.Bus.transferOut handle transfer : Usb.Request σ Nat).run host.bus with ⟨_ | _, _⟩
  all_goals rfl

theorem run_perform (handle : η) (transfer : Usb.Transfer) (host : Host σ) :
    (perform handle transfer).run host =
      match (Usb.Bus.transferOut handle transfer : Usb.Request σ Nat).run host.bus with
      | (.error error, bus) =>
        (.error (.transferFailed error.message), { host with bus := bus })
      | (.ok _, bus) =>
        (.ok (), { host with bus := bus, events := host.events.push transfer.event }) := by
  rw [perform, Bringup.run_bind, run_send]
  rcases (Usb.Bus.transferOut handle transfer : Usb.Request σ Nat).run host.bus with ⟨_ | _, _⟩
  all_goals rfl

variable {handle : η} {delivery : Usb.Delivery} {host : Host σ} {bus : σ}

theorem run_performAll {row : List Usb.Transfer}
    (delivered : Usb.deliver handle row host.bus = (delivery, bus)) :
    (forM row (perform handle) : Bringup σ Unit).run host =
      (match delivery.refusal with
        | some error => .error (.transferFailed error.message)
        | none => .ok (),
        { host with
          bus := bus
          events := host.events ++ (delivery.taken.map Usb.Transfer.event).toArray }) := by
  induction row generalizing host delivery bus with
  | nil =>
    cases delivered
    simp
    rfl
  | cons transfer rest ih =>
    rw [List.forM_cons, Bringup.run_bind, run_perform]
    rcases step : (Usb.Bus.transferOut handle transfer : Usb.Request σ Nat).run host.bus with
      ⟨_ | count, after⟩
    all_goals
      change Usb.Bus.transferOut handle transfer host.bus = _ at step
      simp only [Usb.deliver, step] at delivered
    · cases delivered
      simp
    · rcases rested : Usb.deliver handle rest after with ⟨later, last⟩
      rw [rested] at delivered
      cases delivered
      dsimp only
      rw [ih rested, List.map_cons, List.toArray_cons, Array.push_eq_append, Array.append_assoc]

/-- Why a plan fails on a device that refuses one of its transfers, or none. -/
def Plan.failure (plan : Plan) : (refusal : Option Usb.Error) → Option BringupError
  | some error => some (.transferFailed error.message)
  | none => plan.error

def Plan.outcome (plan : Plan) (refusal : Option Usb.Error) : Except BringupError Nat :=
  match plan.failure refusal with
  | some error => .error error
  | none => .ok (byteCount plan.transfers)

theorem run_carryOut {plan : Plan}
    (delivered : Usb.deliver handle plan.transfers host.bus = (delivery, bus)) :
    (carryOut handle plan).run host =
      (plan.outcome delivery.refusal,
        { host with
          bus := bus
          events := host.events ++ (delivery.taken.map Usb.Transfer.event).toArray }) := by
  rw [carryOut, Bringup.run_bind, run_performAll delivered]
  cases delivery.refusal with
  | some error => rfl
  | none =>
    cases ended : plan.error <;> simp only [conclude, Plan.outcome, Plan.failure, ended] <;> rfl

/-- The event that ends an upload, if it succeeds. -/
def completion : Except BringupError Nat → List Event
  | .ok sent => [.uploadComplete sent]
  | .error _ => []

theorem run_uploadImage {image : Bytes} {format : Image.Format}
    (delivered : Usb.deliver handle (Plan.ofImage image format).transfers host.bus =
      (delivery, bus)) :
    (uploadImage handle image format).run host =
      ((Plan.ofImage image format).outcome delivery.refusal,
        { host with
          bus := bus
          events := host.events ++ (delivery.taken.map Usb.Transfer.event ++
            completion ((Plan.ofImage image format).outcome delivery.refusal)).toArray }) := by
  rw [uploadImage_eq, Bringup.run_bind, run_carryOut delivered]
  cases (Plan.ofImage image format).outcome delivery.refusal with
  | error error => simp [completion]
  | ok sent =>
    dsimp only
    rw [Bringup.run_bind, Host.run_emit]
    simp only [completion, Array.push_eq_append, Array.append_assoc, List.append_toArray]
    rfl

/-- An upload sends the front of the plan of its image, up to the fault of the device. A fault
inside the plan ends it, whatever error the plan has; behind the last transfer that error does. Each
transfer taken is reported, and so is the end of an upload that succeeds, with all of its bytes. -/
theorem uploadImage_follows_plan (recipient : Usb.Recipient σ handle) (image : Bytes)
    (format : Image.Format) (host : Host σ) :
    let plan := Plan.ofImage image format
    let fault := recipient.fault host.bus
    let sent := Usb.upTo fault plan.transfers
    let run := (uploadImage handle image format).run host
    recipient.accepted run.2.bus = recipient.accepted host.bus ++ sent ∧
    run.1 = (if Usb.isHit fault plan.transfers then
        .error (.transferFailed recipient.error.message)
      else match plan.error with
        | some error => .error error
        | none => .ok (byteCount sent)) ∧
    run.2.events.toList = host.events.toList ++ sent.map Usb.Transfer.event ++
      match run.1 with
      | .ok total => [.uploadComplete total]
      | .error _ => [] := by
  intro plan fault sent run
  obtain ⟨after, delivered, accepted⟩ := recipient.deliver_eq plan.transfers host.bus
  have ran : run = _ := run_uploadImage delivered
  rw [ran]
  refine ⟨accepted, ?_, ?_⟩
  · by_cases hit : Usb.isHit fault plan.transfers
    · rw [if_pos hit, if_pos hit]
      rfl
    · have all : sent = plan.transfers := Usb.upTo_of_not_isHit (Bool.eq_false_iff.2 hit)
      rw [if_neg hit, if_neg hit, all]
      cases ended : plan.error <;> simp [Plan.outcome, Plan.failure, plan, ended]
  · rw [Array.toList_append, List.append_assoc]
    rfl

theorem uploadImage_follows_plan_to_fault :
    let image : Bytes := [0x43, 0x59, 0, 0xB0, 0, 0, 0, 0, 0, 0, 1, 0, 0, 0, 0, 0, 0, 0, 2, 0]
    let handle : Usb.Handle := ⟨⟨⟨"1", 5, 0, 0, none⟩, ⟨"", "", ""⟩, false, false⟩, none⟩
    let host : Host Usb.SimulatedBus := { bus := { failTransferAt := some 1 } }
    let run := (uploadImage handle image .segmented).run host
    run.2.bus.transfers.toList = [writeTransfer ⟨0, 1⟩ []] ∧
    run.1 = .error (.transferFailed "Control transfer failed: Pipe error") ∧
    run.2.events.toList = [.chunkUploaded 0x10000 0] := by
  intro image handle host run
  have planned : Plan.ofImage image .segmented =
      ⟨[writeTransfer ⟨0, 1⟩ [], writeTransfer ⟨0, 2⟩ []], none⟩ := by
    decide +kernel
  obtain ⟨accepted, failed, events⟩ :=
    uploadImage_follows_plan (Usb.SimulatedBus.recipient handle) image .segmented host
  rw [failed, planned] at events
  rw [planned] at accepted failed
  exact ⟨accepted, failed, events⟩

end Upload

end AnalyzerBoot
