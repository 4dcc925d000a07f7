import AnalyzerBoot.Proofs.Driver.Renumeration
import AnalyzerBoot.Proofs.Usb.Handles

/-!
Attempts to acquire a device, on a bus whose devices are told apart by where they are listed. Each
attempt takes the first device of its listing that suits, and looks at those in front of it for no
longer than it takes to read their strings; another attempt follows only one that found nothing.
-/

set_option autoImplicit false

namespace AnalyzerBoot

open Usb

/-- Calls by which devices are looked at: they open, read and close them. -/
def Usb.Call.inspects : Call → Bool
  | .openDevice _ | .readStrings _ | .close _ => true
  | _ => false

namespace Usb.SimulatedBus

theorem note_whileOpen_note (bus : SimulatedBus) (before : List Call) (address : UInt8)
    (behind : List Call) :
    ((bus.note before).whileOpen address).note behind =
      { bus.note (before ++ .openDevice address :: behind) with
        openHandles := bus.openHandles + 1 } := by
  simp [note, whileOpen]

end Usb.SimulatedBus

namespace Retry

variable {σ ε α : Type} {attempt : StateM σ (Except ε α)} {pause : StateM σ Nat}
  {before between after : σ} {error : ε} {elapsed : Nat}

/-- An attempt that fails is the last one, or another one follows the pause. -/
theorem run_of_failure (fails : attempt before = (.error error, between))
    (paused : pause between = (elapsed, after)) (maxDelay made more : Nat) :
    (∃ outcome, (∀ value, outcome ≠ .success value) ∧
      run maxDelay attempt pause made more before = (outcome, after)) ∨
    ∃ fewer, more = fewer + 1 ∧ run maxDelay attempt pause made more before =
      run maxDelay attempt pause (made + 1) fewer after := by
  by_cases late : maxDelay < elapsed
  · exact .inl ⟨.expired ⟨elapsed, error, made + 1⟩, nofun,
      run_of_late fails paused late made more⟩
  · cases more with
    | zero =>
      exact .inl ⟨.exhausted ⟨elapsed, error, made + 1⟩, nofun,
        run_zero_of_early fails paused late made⟩
    | succ fewer => exact .inr ⟨fewer, rfl, run_of_early fails paused late made fewer⟩

end Retry

namespace Driver

/-- What an attempt makes of a listing: which device it leaves open, if any, and by which calls. -/
inductive Acquires (port : String) (listed : List Device) : Option Device → List Call → Prop where
  -- The first device that suits; those in front of it on the port are closed again.
  | found {front back : List Device} {device : Device} (split : listed = front ++ device :: back)
      (suits : device.Suits port) (first : ∀ earlier ∈ front, ¬ earlier.Suits port) :
      Acquires port listed (some device)
        ((front.filter (·.candidate.portPath == some port)).flatMap
            Discovery.Visit.readingCalls ++
          [.openDevice device.candidate.address, .readStrings device.candidate.address])
  | missed (unfit : ∀ device ∈ listed, ¬ device.Suits port) :
      Acquires port listed none
        ((listed.filter (·.candidate.portPath == some port)).flatMap
          Discovery.Visit.readingCalls)

/-- Attempts from a bus on, each but the last of which finds nothing: the listing of the last one,
the device that it leaves open, if any, and the calls of all of them. -/
inductive Attempts (port : String) :
    SimulatedBus → List Device → Option Device → List Call → Prop where
  | last {bus : SimulatedBus} {found : Option Device} {calls : List Call}
      (acquires : Acquires port bus.appear.devices found calls) :
      Attempts port bus bus.appear.devices found calls
  | again {bus : SimulatedBus} {listed : List Device} {found : Option Device}
      {missed calls : List Call} (misses : Acquires port bus.appear.devices none missed)
      (later : Attempts port (bus.appear.note missed) listed found calls) :
      Attempts port bus listed found (missed ++ calls)

/-- A bus that some calls leave, none of which transfers anything. -/
structure Follows (before : SimulatedBus) (calls : List Call) (after : SimulatedBus) : Prop where
  calls : after.calls.toList = before.calls.toList ++ calls
  transfers : after.transfers = before.transfers
  interfaceBusy : after.interfaceBusy = before.interfaceBusy

theorem Follows.trans {first second third : SimulatedBus} {calls more : List Call}
    (left : Follows first calls second) (right : Follows second more third) :
    Follows first (calls ++ more) third where
  calls := by rw [right.calls, left.calls, List.append_assoc]
  transfers := right.transfers.trans left.transfers
  interfaceBusy := right.interfaceBusy.trans left.interfaceBusy

theorem follows_note (bus : SimulatedBus) (calls : List Call) :
    Follows bus calls (bus.appear.note calls) :=
  ⟨Array.toList_append, rfl, rfl⟩

section
variable {port : String} {listed : List Device}

theorem exists_first {device : Device} (present : device ∈ listed) (suits : device.Suits port) :
    ∃ front first back, listed = front ++ first :: back ∧ first.Suits port ∧
      ∀ earlier ∈ front, ¬ earlier.Suits port := by
  induction listed with
  | nil => cases present
  | cons head rest ih =>
    by_cases here : head.Suits port
    · exact ⟨[], head, rest, rfl, here, List.forall_mem_nil _⟩
    · have later : device ∈ rest := by
        rcases List.mem_cons.1 present with rfl | later
        · exact absurd suits here
        · exact later
      obtain ⟨front, first, back, rfl, fits, unfit⟩ := ih later
      exact ⟨head :: front, first, back, rfl, fits, List.forall_mem_cons.2 ⟨here, unfit⟩⟩

theorem Acquires.isSome_iff {found : Option Device} {calls : List Call}
    (acquires : Acquires port listed found calls) :
    found.isSome ↔ ∃ device ∈ listed, device.Suits port := by
  cases acquires with
  | found split suits _ => exact iff_of_true rfl ⟨_, split ▸ by simp, suits⟩
  | missed unfit =>
    refine iff_of_false Bool.false_ne_true ?_
    rintro ⟨device, member, suits⟩
    exact unfit device member suits

variable {host : Host SimulatedBus}

/-- All that an attempt can do. -/
theorem acquire_cases (port : String)
    (distinct : (host.bus.appear.devices.map Device.place).Nodup) :
    (∃ calls, Acquires port host.bus.appear.devices none calls ∧
      acquire port host =
        (.error (nothingOn port), { host with bus := host.bus.appear.note calls })) ∨
    ∃ device calls, Acquires port host.bus.appear.devices (some device) calls ∧
      acquire port host = (.ok (⟨device, none⟩, device.candidate.address), { host with
        bus := { host.bus.appear.note calls with openHandles := host.bus.openHandles + 1 } }) := by
  by_cases fit : ∃ device ∈ host.bus.appear.devices, device.Suits port
  · obtain ⟨device, present, suits⟩ := fit
    obtain ⟨front, first, back, split, fits, unfit⟩ := exists_first present suits
    have onPort : onPort port host.bus.appear =
        front.filter (·.candidate.portPath == some port) ++
          first :: back.filter (·.candidate.portPath == some port) := by
      rw [Driver.onPort, split, List.filter_append, List.filter_cons,
        if_pos (beq_iff_eq.2 fits.placed)]
    refine .inr ⟨first, _, .found split fits unfit, ?_⟩
    rw [acquire_of_found distinct onPort fits fun earlier member =>
      unfit earlier (List.mem_filter.1 member).1, SimulatedBus.note_whileOpen_note]
    rfl
  · have unfit : ∀ device ∈ host.bus.appear.devices, ¬ device.Suits port :=
      fun device member suits => fit ⟨device, member, suits⟩
    refine .inl ⟨_, .missed unfit, acquire_of_missed distinct fun device member => ?_⟩
    exact unfit device (List.mem_filter.1 member).1

theorem acquire_takes_first (port : String)
    (distinct : (host.bus.appear.devices.map Device.place).Nodup) :
    let attempt : Except BringupError (Handle × UInt8) × Host SimulatedBus := acquire port host
    (attempt.1.isOk ↔ ∃ device ∈ host.bus.appear.devices, device.Suits port) ∧
    ∀ value, attempt.1 = .ok value → ∃ front device back,
      host.bus.appear.devices = front ++ device :: back ∧ device.Suits port ∧
      (∀ earlier ∈ front, ¬ earlier.Suits port) ∧
      value = (⟨device, none⟩, device.candidate.address) := by
  intro attempt
  rcases acquire_cases port distinct with ⟨calls, acquires, ran⟩ | ⟨device, calls, acquires, ran⟩
  · rw [show attempt = _ from ran, ← acquires.isSome_iff]
    exact ⟨Iff.rfl, nofun⟩
  · rw [show attempt = _ from ran, ← acquires.isSome_iff]
    refine ⟨Iff.rfl, ?_⟩
    rintro value ⟨⟩
    cases acquires with
    | @found front back _ split suits first =>
      exact ⟨front, device, back, split, suits, first, rfl⟩

end

/-! What the calls of all attempts have in common. -/

theorem openAfter_readingCalls (devices : List Device) :
    openAfter [] (devices.flatMap Discovery.Visit.readingCalls) = some [] := by
  induction devices with
  | nil => rfl
  | cons device rest ih =>
    have closed : openAfter [] (Discovery.Visit.readingCalls device) = some [] := by
      rw [Discovery.Visit.readingCalls]
      split
      · rfl
      · simp [openAfter, Call.follow]
    rw [List.flatMap_cons, openAfter_append, closed, Option.bind_some, ih]

theorem inspects_readingCalls (devices : List Device) :
    ∀ call ∈ devices.flatMap Discovery.Visit.readingCalls, call.inspects = true := by
  intro call member
  obtain ⟨device, -, reading⟩ := List.mem_flatMap.1 member
  rw [Discovery.Visit.readingCalls] at reading
  split at reading
  · cases reading
  · simp only [List.mem_cons, List.not_mem_nil, or_false] at reading
    rcases reading with rfl | rfl | rfl <;> rfl

/-- Calls that only look at devices, and leave no device open but one that is found. -/
structure Quiet (found : Option Device) (calls : List Call) : Prop where
  inspects : ∀ call ∈ calls, call.inspects = true
  opened : openAfter [] calls = some (found.toList.map (·.candidate.address))

theorem Acquires.quiet {port : String} {listed : List Device} {found : Option Device}
    {calls : List Call} (acquires : Acquires port listed found calls) : Quiet found calls := by
  cases acquires with
  | missed unfit => exact ⟨inspects_readingCalls _, openAfter_readingCalls _⟩
  | found split suits first =>
    refine ⟨List.forall_mem_append.2 ⟨inspects_readingCalls _, ?_⟩, ?_⟩
    · simp [Call.inspects]
    · rw [openAfter_append, openAfter_readingCalls]
      rfl

theorem Attempts.quiet {port : String} {bus : SimulatedBus} {listed : List Device}
    {found : Option Device} {calls : List Call} (attempts : Attempts port bus listed found calls) :
    Quiet found calls := by
  induction attempts with
  | last acquires => exact acquires.quiet
  | again misses later ih =>
    refine ⟨List.forall_mem_append.2 ⟨misses.quiet.inspects, ih.inspects⟩, ?_⟩
    rw [openAfter_append, misses.quiet.opened]
    exact ih.opened

theorem Attempts.suits {port : String} {bus : SimulatedBus} {listed : List Device}
    {device : Device} {calls : List Call}
    (attempts : Attempts port bus listed (some device) calls) :
    device ∈ listed ∧ device.Suits port := by
  generalize found : some device = last at attempts
  induction attempts with
  | last acquires =>
    subst found
    cases acquires with
    | found split suits _ => exact ⟨split ▸ by simp, suits⟩
  | again _ _ ih => exact ih found

section
variable {port : String}

/-- What is yielded for the device that an attempt leaves open. -/
def acquired (device : Device) : Handle × UInt8 :=
  (⟨device, none⟩, device.candidate.address)

/-- Attempts lead from one bus to another; they yield the device that the last one leaves open. -/
def Tries (port : String) (before : SimulatedBus) (yields : Handle × UInt8 → Prop)
    (after : SimulatedBus) : Prop :=
  ∃ listed found calls, Attempts port before listed found calls ∧ Follows before calls after ∧
    ∀ value, yields value ↔ found.map acquired = some value

theorem tries_missed {bus : SimulatedBus} {calls : List Call}
    (misses : Acquires port bus.appear.devices none calls) {yields : Handle × UInt8 → Prop}
    (nothing : ∀ value, ¬ yields value) : Tries port bus yields (bus.appear.note calls) :=
  ⟨_, none, calls, .last misses, follows_note bus calls,
    fun value => iff_of_false (nothing value) nofun⟩

theorem tries_found {bus : SimulatedBus} {device : Device} {calls : List Call}
    (finds : Acquires port bus.appear.devices (some device) calls) {yields : Handle × UInt8 → Prop}
    (yielded : ∀ value, yields value ↔ acquired device = value) (handles : Nat) :
    Tries port bus yields { bus.appear.note calls with openHandles := handles } :=
  ⟨_, some device, calls, .last finds, ⟨Array.toList_append, rfl, rfl⟩,
    fun value => (yielded value).trans Option.some_inj.symm⟩

theorem Tries.again {bus after : SimulatedBus} {missed : List Call}
    (misses : Acquires port bus.appear.devices none missed) {yields : Handle × UInt8 → Prop}
    (later : Tries port (bus.appear.note missed) yields after) : Tries port bus yields after := by
  obtain ⟨listed, found, calls, attempts, follows, yielded⟩ := later
  exact ⟨listed, found, missed ++ calls, .again misses attempts,
    (follows_note bus missed).trans follows, yielded⟩

theorem Tries.of_iff {before after : SimulatedBus} {yields others : Handle × UInt8 → Prop}
    (tries : Tries port before yields after) (same : ∀ value, others value ↔ yields value) :
    Tries port before others after := by
  obtain ⟨listed, found, calls, attempts, follows, yielded⟩ := tries
  exact ⟨listed, found, calls, attempts, follows, fun value => (same value).trans (yielded value)⟩

/-- Attempts made again and again, whatever the clock says. -/
theorem tries_run {maxDelay pollInterval made more : Nat} {uploadedAt : Instant}
    {host after : Host SimulatedBus} {outcome : Retry.Outcome BringupError (Handle × UInt8)}
    (ran : Retry.run maxDelay (acquire port) (Renumeration.pause uploadedAt pollInterval) made more
      host = (outcome, after))
    (distinct : (host.bus.plugged.map Device.place).Nodup) :
    Tries port host.bus (fun value => outcome = .success value) after.bus := by
  induction more using Nat.strongRecOn generalizing host made with
  | ind more ih =>
    have apart := SimulatedBus.nodup_appear distinct
    rcases acquire_cases port (SimulatedBus.nodup_devices apart) with
      ⟨calls, misses, failed⟩ | ⟨device, calls, finds, succeeded⟩
    · rcases paused : Renumeration.pause uploadedAt pollInterval
        { host with bus := host.bus.appear.note calls } with ⟨elapsed, between⟩
      have bus : between.bus = host.bus.appear.note calls :=
        (congrArg (fun pausing => pausing.2.bus) paused).symm
      rcases Retry.run_of_failure failed paused maxDelay made more with
        ⟨last, nothing, ends⟩ | ⟨fewer, rfl, goesOn⟩
      · cases ends.symm.trans ran
        rw [bus]
        exact tries_missed misses nothing
      · have later := ih fewer (Nat.lt_succ_self fewer) (goesOn.symm.trans ran) (bus ▸ apart)
        rw [bus] at later
        exact later.again misses
    · cases (Retry.run_of_success succeeded made more).symm.trans ran
      exact tries_found finds
        (fun _ => ⟨fun same => Retry.Outcome.success.inj same, congrArg Retry.Outcome.success⟩) _

theorem tries_wait {uploadedAt : Option Instant} {policy : RenumerationPolicy}
    {host after : Host SimulatedBus} {result : Except BringupError (Handle × UInt8)}
    (waited : Renumeration.wait uploadedAt policy (acquire port) host = (result, after))
    (distinct : (host.bus.plugged.map Device.place).Nodup) :
    Tries port host.bus (fun value => result = .ok value) after.bus := by
  cases uploadedAt with
  | none =>
    have apart := SimulatedBus.nodup_devices (SimulatedBus.nodup_appear distinct)
    rcases acquire_cases port apart with
      ⟨calls, misses, failed⟩ | ⟨device, calls, finds, succeeded⟩
    · cases failed.symm.trans waited
      exact tries_missed misses nofun
    · cases succeeded.symm.trans waited
      exact tries_found finds (fun _ => ⟨fun same => Except.ok.inj same, congrArg Except.ok⟩) _
  | some instant =>
    rw [Renumeration.run_wait] at waited
    dsimp only at waited
    rcases ran : Retry.run _ _ _ _ _ _ with ⟨outcome, last⟩
    rw [ran] at waited
    have tries := tries_run ran distinct
    cases outcome <;>
    · cases waited
      exact tries.of_iff fun value => by simp

end

end Driver

end AnalyzerBoot
