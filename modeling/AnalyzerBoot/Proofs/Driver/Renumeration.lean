import AnalyzerBoot.Proofs.Driver.Acquiring
import AnalyzerBoot.Proofs.Driver.Stages

/-!
Opening a device after an upload. The device is found if it is listed before the attempts to acquire
it are used up; how many there are follows from the times of the policy and the time that has passed
since the upload.
-/

set_option autoImplicit false

namespace AnalyzerBoot

open Usb

namespace Renumeration

/-- How many attempts are made if none succeeds, the first of them at this time since the upload. -/
def attempts (maxDelay age interval : Nat) : Nat :=
  (maxDelay - age) / interval + 1

section
variable {maxDelay age interval : Nat} (positive : 0 < interval)
include positive

theorem attempts_of_late (late : maxDelay < age + interval) : attempts maxDelay age interval = 1 :=
  congrArg (· + 1) (Nat.div_eq_of_lt (by omega))

theorem attempts_of_early (early : ¬ maxDelay < age + interval) :
    attempts maxDelay age interval = attempts maxDelay (age + interval) interval + 1 := by
  have longer : maxDelay - age = maxDelay - (age + interval) + interval := by omega
  rw [attempts, longer, Nat.add_div_right _ positive]
  rfl

end

theorem attempts_ofMilliseconds (maxDelay age interval : Nat) :
    attempts (Duration.ofMilliseconds maxDelay) (Duration.ofMilliseconds age)
      (Duration.ofMilliseconds interval) = (maxDelay - age) / interval + 1 := by
  simp only [attempts, Duration.ofMilliseconds]
  rw [← Nat.sub_mul, Nat.mul_div_mul_right _ _ (by decide)]

/-- What is reported during some pauses, the first of them begun at this time since the upload. -/
def waits (age interval pauses : Nat) : List Event :=
  (List.range pauses).map fun earlier =>
    .waitingForRenumeration (Duration.milliseconds (age + (earlier + 1) * interval))

theorem waits_succ (age interval pauses : Nat) :
    waits age interval (pauses + 1) =
      .waitingForRenumeration (Duration.milliseconds (age + interval)) ::
        waits (age + interval) interval pauses := by
  rw [waits, List.range_succ_eq_map, List.map_cons, List.map_map, Nat.zero_add, Nat.one_mul, waits]
  refine congrArg (_ :: ·) (List.map_congr_left fun earlier _ => ?_)
  have same : age + (earlier + 1 + 1) * interval = age + interval + (earlier + 1) * interval := by
    rw [Nat.succ_mul (earlier + 1)]
    omega
  exact congrArg (fun elapsed => Event.waitingForRenumeration (Duration.milliseconds elapsed)) same

theorem run_pause {σ : Type} (host : Host σ) {uploadedAt : Instant} {age interval : Nat}
    (aged : host.clock = uploadedAt + age) {pollInterval : Nat}
    (paced : max (Duration.ofMilliseconds pollInterval) 1 = interval) :
    pause uploadedAt pollInterval host = (age + interval,
      { host with
        clock := uploadedAt + (age + interval : Nat)
        events := host.events.push
          (.waitingForRenumeration (Duration.milliseconds (age + interval))) }) := by
  have clock : host.clock + (interval : Int) = uploadedAt + (age + interval : Nat) := by
    rw [aged, Int.natCast_add, Int.add_assoc]
  have elapsed : (host.clock + (interval : Int) - uploadedAt).toNat = age + interval := by
    rw [clock, Int.add_comm, Int.add_sub_cancel, Int.toNat_natCast]
  simp only [pause, paced, bind, StateT.bind, Host.sleep_apply, Host.elapsed_apply,
    Host.emit_apply, Instant.since, elapsed]
  rw [← clock]
  rfl

theorem attemptLimit_of_past (uploadedAt : Int) (age maxDelay : Nat) :
    attemptLimit uploadedAt (uploadedAt + age) maxDelay = maxDelay := by
  have none : (uploadedAt - (uploadedAt + age)).toNat = 0 := by omega
  rw [attemptLimit, Instant.since, none, Nat.add_zero]

theorem run_wait_of_past {σ α : Type} {host : Host σ} {uploadedAt : Instant} {age : Nat}
    (aged : host.clock = uploadedAt + age) (policy : RenumerationPolicy)
    (attempt : StateM (Host σ) (Except BringupError α)) :
    wait (some uploadedAt) policy attempt host =
      let maxDelay := Duration.ofMilliseconds policy.maxDelay
      let settled : Nat := age + Duration.ofMilliseconds policy.settle
      match Retry.run maxDelay attempt (pause uploadedAt policy.pollInterval) 0 maxDelay
        { host with clock := uploadedAt + settled } with
      | (.success value, after) => (.ok value, after)
      | (.expired report, after) | (.exhausted report, after) =>
        (.error (.renumerationTimeout (Duration.milliseconds report.elapsed)
          report.lastError.message), after) := by
  have clock : host.clock + (Duration.ofMilliseconds policy.settle : Int) =
      uploadedAt + (age + Duration.ofMilliseconds policy.settle : Nat) := by
    rw [aged, Int.natCast_add, Int.add_assoc]
  have limit := attemptLimit_of_past uploadedAt
    (age + Duration.ofMilliseconds policy.settle) (Duration.ofMilliseconds policy.maxDelay)
  have ran := run_wait uploadedAt policy attempt host
  simp only [settled, clock, limit] at ran
  exact ran

end Renumeration

namespace Driver

open Renumeration

/-- What becomes of a host during a wait, from this time since the upload on. -/
structure Waited (before : Host SimulatedBus) (age interval pauses listings opened : Nat)
    (after : Host SimulatedBus) : Prop where
  clock : after.clock = before.clock + (pauses * interval : Nat)
  events : after.events.toList = before.events.toList ++ waits age interval pauses
  listCount : after.bus.listCount = before.bus.listCount + listings
  openHandles : after.bus.openHandles = before.bus.openHandles + opened
  interfaceBusy : after.bus.interfaceBusy = before.bus.interfaceBusy

/-- A host after an attempt that found nothing and the pause behind it. -/
def missed (calls : List Call) (age interval : Nat) (host : Host SimulatedBus) :
    Host SimulatedBus where
  bus := host.bus.appear.note calls
  clock := host.clock + interval
  events := host.events.push (.waitingForRenumeration (Duration.milliseconds (age + interval)))

theorem Waited.start (host : Host SimulatedBus) (age interval : Nat) :
    Waited host age interval 0 0 0 host where
  clock := by
    rw [Nat.zero_mul]
    exact (Int.add_zero _).symm
  events := (List.append_nil _).symm
  listCount := rfl
  openHandles := rfl
  interfaceBusy := rfl

theorem Waited.aged {before after : Host SimulatedBus} {uploadedAt : Instant}
    {age interval pauses listings opened : Nat}
    (waited : Waited before age interval pauses listings opened after)
    (started : before.clock = uploadedAt + age) :
    after.clock = uploadedAt + (age + pauses * interval : Nat) := by
  rw [waited.clock, started, Int.natCast_add, Int.add_assoc]

theorem Waited.of_missed {host after : Host SimulatedBus} {calls : List Call}
    {age interval pauses listings opened : Nat}
    (waited : Waited (missed calls age interval host) (age + interval) interval pauses listings
      opened after) :
    Waited host age interval (pauses + 1) (listings + 1) opened after where
  clock := by
    rw [waited.clock, missed, Nat.add_mul, Nat.one_mul, Int.natCast_add, Int.add_assoc,
      Int.add_comm (interval : Int)]
  events := by
    rw [waited.events, missed, Array.toList_push, waits_succ, List.append_assoc,
      List.singleton_append]
  listCount := by
    rw [waited.listCount]
    exact Nat.add_right_comm _ 1 listings
  openHandles := waited.openHandles
  interfaceBusy := waited.interfaceBusy

section
variable {port : String} {device : Device} {uploadedAt : Instant} {pollInterval interval : Nat}
  (paced : max (Duration.ofMilliseconds pollInterval) 1 = interval)
include paced

theorem run_missed {host : Host SimulatedBus} {age listings : Nat}
    (aged : host.clock = uploadedAt + age) (sole : host.bus.IsSole port device)
    (pending : (listings + 1, device) ∈ host.bus.pending) :
    ∃ calls after, acquire port host = (.error (nothingOn port), after) ∧
      pause uploadedAt pollInterval after = (age + interval, missed calls age interval host) := by
  obtain ⟨calls, nothing⟩ := acquire_of_absent sole pending
  refine ⟨calls, _, nothing, ?_⟩
  rw [run_pause { host with bus := host.bus.appear.note calls } aged paced, missed, aged,
    Int.natCast_add, Int.add_assoc]

theorem run_awaiting (maxDelay : Nat) {listings : Nat} (host : Host SimulatedBus) {age : Nat}
    (aged : host.clock = uploadedAt + age) (sole : host.bus.IsSole port device)
    (pending : (listings, device) ∈ host.bus.pending) (made more : Nat)
    (enough : attempts maxDelay age interval ≤ more + 1) :
    let allowed := attempts maxDelay age interval
    let run := Retry.run maxDelay (acquire port) (pause uploadedAt pollInterval) made more host
    (listings < allowed →
      run.1 = .success (⟨device, none⟩, device.candidate.address) ∧
      Waited host age interval listings (listings + 1) 1 run.2) ∧
    (allowed ≤ listings →
      run.1 = .expired ⟨age + allowed * interval, nothingOn port, made + allowed⟩ ∧
      Waited host age interval allowed allowed 0 run.2) := by
  have positive : 0 < interval := paced ▸ Nat.lt_of_lt_of_le Nat.zero_lt_one (Nat.le_max_right _ 1)
  induction listings generalizing host age made more with
  | zero =>
    intro allowed run
    refine ⟨fun _ => ?_, fun late => absurd late (Nat.not_succ_le_zero _)⟩
    obtain ⟨calls, reading, found⟩ := acquire_of_due sole pending
    have ran : run = _ := Retry.run_of_success found made more
    rw [ran]
    exact ⟨rfl, { Waited.start host age interval with listCount := rfl, openHandles := rfl }⟩
  | succ listings ih =>
    intro allowed run
    obtain ⟨calls, after, nothing, paused⟩ := run_missed paced aged sole pending
    by_cases late : maxDelay < age + interval
    · have single : allowed = 1 := attempts_of_late positive late
      have ran : run = _ := Retry.run_of_late nothing paused late made more
      rw [ran, single, Nat.one_mul]
      refine ⟨fun inTime => absurd inTime (by omega), fun _ => ⟨rfl, ?_⟩⟩
      exact (Waited.start _ _ _).of_missed
    · have further := attempts_of_early positive late
      have least : 0 < attempts maxDelay (age + interval) interval := Nat.succ_pos _
      obtain ⟨fewer, rfl⟩ : ∃ fewer, more = fewer + 1 :=
        Nat.exists_eq_succ_of_ne_zero (by omega)
      have ran : run = _ := Retry.run_of_early nothing paused late made fewer
      have clock : (missed calls age interval host).clock =
          uploadedAt + (age + interval : Nat) := by
        rw [missed, aged, Int.natCast_add, Int.add_assoc]
      obtain ⟨finds, expires⟩ := ih _ clock (sole.appear.note calls)
        (SimulatedBus.mem_pending_appear pending) (made + 1) fewer (by omega)
      simp only [allowed, ran, further]
      refine ⟨fun inTime => ?_, fun tooLate => ?_⟩
      · obtain ⟨found, waited⟩ := finds (Nat.lt_of_succ_lt_succ inTime)
        exact ⟨found, waited.of_missed⟩
      · obtain ⟨expired, waited⟩ := expires (Nat.le_of_succ_le_succ tooLate)
        refine ⟨expired.trans ?_, waited.of_missed⟩
        rw [Nat.succ_mul, Nat.add_right_comm made, Nat.add_assoc age, Nat.add_comm interval]
        rfl

end

section
variable (driver : Driver) {record : Record} {uploadedAt : Instant} {host after : Host SimulatedBus}
  (uploaded : record.state.uploadedAt = some uploadedAt)
include uploaded

theorem openDevice_of_timeout {error : BringupError}
    (failed : wait (some uploadedAt) driver.config.renumerationPolicy
      (acquire record.connectionId) host = (.error error, after)) :
    driver.openDevice record host = ((.error error, record), after) :=
  openDevice_of_unacquired driver (uploaded ▸ failed)

theorem openDevice_of_acquired {device : Device} {address : UInt8} {elapsed : Nat}
    (acquired : wait (some uploadedAt) driver.config.renumerationPolicy
      (acquire record.connectionId) host = (.ok (⟨device, none⟩, address), after))
    (aged : after.clock = uploadedAt + elapsed) (free : after.bus.interfaceBusy = false) :
    let interface := driver.config.usbInterface
    driver.openDevice record host =
      ((.ok ⟨⟨device, some interface⟩, interface⟩, activate (record.withAddress address)),
        { after with
          bus := after.bus.record (.claimInterface interface)
          events := (after.events.push (.renumerated (Duration.milliseconds elapsed) address)).push
            (.deviceOpened record.location.busId address) }) := by
  have passed : after.clock.since uploadedAt = elapsed := by
    rw [aged, Instant.since, Int.add_comm, Int.add_sub_cancel, Int.toNat_natCast]
  intro interface
  rw [← uploaded] at acquired
  rw [openDevice_eq_claim driver acquired, uploaded, reported_some, passed]
  exact claim_of_claimed driver (SimulatedBus.claimInterface_of_free free)

end

/-- The device is acquired if it is listed in time, at the latest with the last attempt. -/
theorem wait_awaiting {port : String} {device : Device} {uploadedAt : Instant}
    {host : Host SimulatedBus} {age listings : Nat} (aged : host.clock = uploadedAt + age)
    (policy : RenumerationPolicy) (polls : 1 ≤ policy.pollInterval)
    (sole : host.bus.IsSole port device) (pending : (listings, device) ∈ host.bus.pending) :
    let settled : Nat := age + Duration.ofMilliseconds policy.settle
    let interval := Duration.ofMilliseconds policy.pollInterval
    let allowed := attempts (Duration.ofMilliseconds policy.maxDelay) settled interval
    let start := { host with clock := uploadedAt + settled }
    let waiting := wait (some uploadedAt) policy (acquire port) host
    (listings < allowed →
      waiting.1 = .ok (⟨device, none⟩, device.candidate.address) ∧
      Waited start settled interval listings (listings + 1) 1 waiting.2) ∧
    (allowed ≤ listings →
      waiting.1 = .error (.renumerationTimeout
        (Duration.milliseconds (settled + allowed * interval)) (nothingOn port).message) ∧
      Waited start settled interval allowed allowed 0 waiting.2) := by
  intro settled interval allowed start waiting
  have paced : max interval 1 = interval := Nat.max_eq_left (Nat.mul_pos polls (by decide))
  have enough : allowed ≤ Duration.ofMilliseconds policy.maxDelay + 1 :=
    Nat.succ_le_succ (Nat.le_trans (Nat.div_le_self _ _) (Nat.sub_le _ _))
  obtain ⟨finds, expires⟩ := run_awaiting paced _ start rfl sole pending 0 _ enough
  have ran : waiting = _ := run_wait_of_past aged policy (acquire port)
  rw [ran]
  dsimp only
  generalize Retry.run _ _ _ _ _ _ = run at finds expires ⊢
  rcases run with ⟨outcome, after⟩
  refine ⟨fun inTime => ?_, fun tooLate => ?_⟩
  · obtain ⟨rfl, waited⟩ := finds inTime
    exact ⟨rfl, waited⟩
  · obtain ⟨rfl, waited⟩ := expires tooLate
    exact ⟨rfl, waited⟩

/-- Opening after an upload succeeds exactly if the device is listed before the attempts are used
up: one when the settle time is over, and one more for each poll interval that then fits before the
deadline. Each attempt lists the bus once, and each that fails is followed by a pause. -/
theorem openDevice_awaits (driver : Driver) (record : Record) (device : Device)
    (host : Host SimulatedBus) (age listings : Nat)
    (uploaded : record.state.uploadedAt = some (host.clock - age))
    (polls : 1 ≤ driver.config.renumPollInterval)
    (sole : host.bus.IsSole record.connectionId device)
    (pending : (listings, device) ∈ host.bus.pending)
    (free : host.bus.interfaceBusy = false) :
    let config := driver.config
    let settled := age + Duration.ofMilliseconds config.renumSettle
    let interval := Duration.ofMilliseconds config.renumPollInterval
    let allowed := (Duration.ofMilliseconds config.maxRenumDelay - settled) / interval + 1
    let address := device.candidate.address
    let opening := driver.openDevice record host
    (∀ whole, age = Duration.ofMilliseconds whole → allowed =
      (config.maxRenumDelay - (whole + config.renumSettle)) / config.renumPollInterval + 1) ∧
    (opening.1.1.isOk ↔ listings < allowed) ∧
    (listings < allowed →
      opening.1 = (.ok ⟨⟨device, some config.usbInterface⟩, config.usbInterface⟩,
        activate (record.withAddress address)) ∧
      opening.2.bus.listCount = host.bus.listCount + (listings + 1) ∧
      opening.2.bus.openHandles = host.bus.openHandles + 1 ∧
      opening.2.events.toList = host.events.toList ++ waits settled interval listings ++
        [.renumerated (Duration.milliseconds (settled + listings * interval)) address,
          .deviceOpened record.location.busId address]) ∧
    (allowed ≤ listings →
      opening.1 = (.error (.renumerationTimeout
        (Duration.milliseconds (settled + allowed * interval))
        (nothingOn record.connectionId).message), record) ∧
      opening.2.bus.listCount = host.bus.listCount + allowed ∧
      opening.2.bus.openHandles = host.bus.openHandles ∧
      opening.2.events.toList = host.events.toList ++ waits settled interval allowed) := by
  intro config settled interval allowed address opening
  have aged : host.clock = host.clock - age + age := (Int.sub_add_cancel _ _).symm
  obtain ⟨finds, expires⟩ :=
    wait_awaiting aged config.renumerationPolicy polls sole pending
  rcases waiting : wait (some (host.clock - age)) config.renumerationPolicy
    (acquire record.connectionId) host with ⟨result, after⟩
  rw [waiting] at finds expires
  have inWhole (whole : Nat) (exactly : age = Duration.ofMilliseconds whole) : allowed =
      (config.maxRenumDelay - (whole + config.renumSettle)) / config.renumPollInterval + 1 := by
    subst exactly
    have sum : settled = Duration.ofMilliseconds (whole + config.renumSettle) :=
      (Nat.add_mul _ _ _).symm
    simp only [allowed, sum]
    exact attempts_ofMilliseconds _ _ _
  refine ⟨inWhole, ?_⟩
  by_cases inTime : listings < allowed
  · obtain ⟨rfl, waited⟩ := finds inTime
    have ran : opening = _ := openDevice_of_acquired driver uploaded waiting (waited.aged rfl)
      (waited.interfaceBusy.trans free)
    rw [ran]
    refine ⟨iff_of_true rfl inTime, fun _ => ⟨rfl, waited.listCount, waited.openHandles, ?_⟩,
      fun tooLate => absurd inTime (Nat.not_lt.2 tooLate)⟩
    rw [Array.toList_push, Array.toList_push, waited.events, List.append_assoc]
    rfl
  · obtain ⟨rfl, waited⟩ := expires (Nat.not_lt.1 inTime)
    have ran : opening = _ := openDevice_of_timeout driver uploaded waiting
    rw [ran]
    exact ⟨iff_of_false Bool.false_ne_true inTime, fun soon => absurd soon inTime,
      fun _ => ⟨rfl, waited.listCount, waited.openHandles, waited.events⟩⟩

theorem openDevice_awaits_until_deadline :
    let candidate (address : UInt8) : Candidate :=
      ⟨"1", address, Chip.cypressVendorId, Chip.fx3LoaderId, some "1-1"⟩
    let stale : Device := ⟨candidate 4, ⟨"", "", ""⟩, false, false⟩
    let renumerated : Device :=
      ⟨candidate 5, ⟨Chip.firmwareManufacturer, Chip.firmwareProduct, ""⟩, false, false⟩
    let host (listings : Nat) : Host SimulatedBus :=
      { bus := { devices := [stale], pending := [(listings, renumerated)] }, clock := 1000000 }
    let driver : Driver := { source := fun _ _ => .ok [] }
    let record := (Record.new (Profile.supported.head (by decide)) "" "1-1"
      ⟨"1", Chip.unknownAddress⟩).markUploaded 0
    (∀ listings, (host listings).bus.IsSole record.connectionId renumerated ∧
      (listings, renumerated) ∈ (host listings).bus.pending) ∧
    (driver.openDevice record (host 17)).1.1.isOk = true ∧
    (driver.openDevice record (host 18)).1.1.isOk = false := by
  intro candidate stale renumerated host driver record
  have sole (listings : Nat) : (host listings).bus.IsSole record.connectionId renumerated := by
    have distinct : ([stale, renumerated].map Device.place).Nodup := by decide
    refine ⟨distinct, rfl, ⟨rfl, rfl⟩, rfl, rfl, fun other member _ runs => ?_⟩
    obtain rfl | rfl : other = stale ∨ other = renumerated := by
      simpa [SimulatedBus.plugged, host] using member
    · exact absurd runs.1 (by decide)
    · rfl
  have awaits (listings : Nat) := openDevice_awaits driver record renumerated (host listings)
    1000000 listings rfl (by decide) (sole listings) List.mem_cons_self rfl
  refine ⟨fun listings => ⟨sole listings, List.mem_cons_self⟩, (awaits 17).2.1.2 (by decide), ?_⟩
  exact Bool.eq_false_iff.2 fun opened => absurd ((awaits 18).2.1.1 opened) (by decide)

end Driver

end AnalyzerBoot
