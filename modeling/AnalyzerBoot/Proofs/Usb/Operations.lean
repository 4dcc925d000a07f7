import AnalyzerBoot.Proofs.Usb.Opening
import Mathlib.Data.List.Induction

/-!
Runs of everything that can be done to a simulated bus, in any order. Only plugging, unplugging and
listing touch its devices; only transfers, and the order to fail one, touch its record of them. A
transfer that was ordered to fail is the only one that does, and the only one left out.
-/

set_option autoImplicit false

namespace AnalyzerBoot.Usb

/-- What can be done to a simulated bus, by whoever sets it up and by whoever uses it. -/
inductive Operation where
  | add (device : Device)
  | addAfter (device : Device) (listings : Nat)
  | remove (address : UInt8)
  | failTransferAt (position : Nat)
  | failConfiguration
  | occupy (busy : Bool)
  | list
  | openDevice (candidate : Candidate)
  | close (handle : Handle)
  | readStrings (handle : Handle)
  | detachKernelDriver (handle : Handle) (interface : UInt8)
  | setConfiguration (handle : Handle) (configuration : UInt8)
  | transferOut (handle : Handle) (transfer : Transfer)
  | claimInterface (handle : Handle) (interface : UInt8)
  | releaseInterface (handle : Handle) (interface : UInt8)
  deriving DecidableEq

namespace Operation

/-- Whether an operation may change which devices there are. -/
def plugs : Operation → Bool
  | add _ | addAfter _ _ | remove _ | list => true
  | _ => false

/-- The transfer that an operation attempts. -/
def offer? : Operation → Option Transfer
  | transferOut _ transfer => some transfer
  | _ => none

end Operation

/-- How many listings are among some operations. -/
def listings (run : List Operation) : Nat :=
  run.count .list

/-- The transfers that some operations attempt. -/
def offered (run : List Operation) : List Transfer :=
  run.filterMap Operation.offer?

section
variable (front back : List Operation) (operation : Operation)

@[simp] theorem listings_nil : listings [] = 0 := rfl

@[simp] theorem listings_append : listings (front ++ back) = listings front + listings back :=
  List.count_append

@[simp] theorem listings_cons_list : listings (.list :: back) = listings back + 1 :=
  List.count_cons_self

theorem listings_concat :
    listings (front ++ [operation]) = listings front + if operation = .list then 1 else 0 := by
  rw [listings_append, listings, listings, List.count_singleton]
  simp only [beq_iff_eq]

theorem offered_concat :
    offered (front ++ [operation]) = offered front ++ operation.offer?.toList := by
  rw [offered, List.filterMap_append]
  cases offer : operation.offer? <;> simp [offered, offer]

end

namespace SimulatedBus

/-- The bus after an operation, whatever came of it. -/
def operate (operation : Operation) (bus : SimulatedBus) : SimulatedBus :=
  match operation with
  | .add device => bus.add device
  | .addAfter device listings => bus.addAfter device listings
  | .remove address => bus.remove address
  | .failTransferAt position => { bus with failTransferAt := some position }
  | .failConfiguration => { bus with failConfiguration := true }
  | .occupy busy => { bus with interfaceBusy := busy }
  | .list => (listDevices bus).2
  | .openDevice candidate => (openDevice candidate bus).2
  | .close handle => (close handle bus).2
  | .readStrings handle => (readStrings handle bus).2
  | .detachKernelDriver handle interface => (detachKernelDriver handle interface bus).2
  | .setConfiguration handle configuration => (setConfiguration handle configuration bus).2
  | .transferOut handle transfer => (transferOut handle transfer bus).2
  | .claimInterface handle interface => (claimInterface handle interface bus).2
  | .releaseInterface handle interface => (releaseInterface handle interface bus).2

/-- The bus behind a run of operations. -/
def behind (run : List Operation) (bus : SimulatedBus) : SimulatedBus :=
  run.foldl (fun bus operation => bus.operate operation) bus

theorem behind_concat (run : List Operation) (operation : Operation) (bus : SimulatedBus) :
    bus.behind (run ++ [operation]) = (bus.behind run).operate operation :=
  List.foldl_append

section
variable {operation : Operation} (bus : SimulatedBus)

theorem operate_of_not_plugs (quiet : operation.plugs = false) :
    (bus.operate operation).devices = bus.devices ∧
      (bus.operate operation).pending = bus.pending ∧
      (bus.operate operation).listCount = bus.listCount := by
  cases operation with
  | add _ | addAfter _ _ | remove _ | list => cases quiet
  | openDevice candidate =>
    rw [operate, openDevice_eq]
    cases bus.reach candidate <;> exact ⟨rfl, rfl, rfl⟩
  | transferOut handle transfer =>
    rw [operate, transferOut]
    split <;> exact ⟨rfl, rfl, rfl⟩
  | _ => exact ⟨rfl, rfl, rfl⟩

theorem listCount_operate :
    (bus.operate operation).listCount =
      bus.listCount + if operation = .list then 1 else 0 := by
  cases operation with
  | add _ | addAfter _ _ | remove _ | list => rfl
  | _ => rw [(bus.operate_of_not_plugs rfl).2.2, if_neg nofun, Nat.add_zero]

theorem operate_of_not_offers (silent : operation.offer? = none)
    (kept : ∀ position, operation ≠ .failTransferAt position) :
    (bus.operate operation).transfers = bus.transfers ∧
      (bus.operate operation).failTransferAt = bus.failTransferAt := by
  cases operation with
  | transferOut _ _ => cases silent
  | failTransferAt position => exact absurd rfl (kept position)
  | openDevice candidate =>
    rw [operate, openDevice_eq]
    cases bus.reach candidate <;> exact ⟨rfl, rfl⟩
  | _ => exact ⟨rfl, rfl⟩

end

theorem listCount_behind (run : List Operation) (bus : SimulatedBus) :
    (bus.behind run).listCount = bus.listCount + listings run := by
  induction run using List.reverseRecOn with
  | nil => rfl
  | append_singleton run operation ih =>
    rw [behind_concat, listCount_operate, ih, listings_concat, Nat.add_assoc]

/-- Where a bus stands that was ordered to fail a transfer, at the given distance from those it had
recorded, and was offered a row since: it has recorded all of the row but the one at that distance,
and the order is carried out once. -/
structure Strikes (recorded : List Transfer) (distance : Nat) (row : List Transfer)
    (bus : SimulatedBus) : Prop where
  transfers : bus.transfers.toList = recorded ++ row.eraseIdx distance
  failTransferAt : bus.failTransferAt =
    if row.length ≤ distance then some (recorded.length + distance) else none

namespace Strikes

variable {recorded row : List Transfer} {distance : Nat} {bus : SimulatedBus}

theorem size_of_le (strikes : Strikes recorded distance row bus) (early : row.length ≤ distance) :
    bus.transfers.size = recorded.length + row.length := by
  rw [← Array.length_toList, strikes.transfers, List.eraseIdx_of_length_le early,
    List.length_append]

theorem failTransferAt_eq_size_iff (strikes : Strikes recorded distance row bus) :
    bus.failTransferAt = some bus.transfers.size ↔ row.length = distance := by
  rw [strikes.failTransferAt]
  split
  · next early =>
    rw [strikes.size_of_le early, Option.some.injEq]
    omega
  · next late => simp only [reduceCtorEq, false_iff]; omega

/-- What becomes of a transfer that is attempted next. -/
theorem transferOut_eq (strikes : Strikes recorded distance row bus) (handle : Handle)
    (transfer : Transfer) :
    transferOut handle transfer bus =
      if row.length = distance then
        (.error faultError, { bus with failTransferAt := none })
      else
        (.ok transfer.data.length, { bus with transfers := bus.transfers.push transfer }) := by
  have now : bus.fault = some 0 ↔ row.length = distance :=
    (fault_eq_zero_iff bus).trans strikes.failTransferAt_eq_size_iff
  split
  · next struck => exact transferOut_refused (now.2 struck) handle transfer
  · next spared => exact transferOut_taken (mt now.1 spared) handle transfer

theorem concat (strikes : Strikes recorded distance row bus) (handle : Handle)
    (transfer : Transfer) :
    Strikes recorded distance (row ++ [transfer]) (transferOut handle transfer bus).2 := by
  rw [strikes.transferOut_eq]
  have longer : (row ++ [transfer]).length = row.length + 1 := List.length_append
  split
  · next now =>
    refine ⟨?_, ?_⟩
    · rw [List.eraseIdx_append_of_length_le (Nat.le_of_eq now), now, Nat.sub_self,
        strikes.transfers, List.eraseIdx_of_length_le (Nat.le_of_eq now)]
      simp
    · rw [if_neg (by omega)]
  · next other =>
    refine ⟨?_, ?_⟩
    · rw [Array.toList_push, strikes.transfers, List.append_assoc]
      congr 1
      by_cases early : row.length < distance
      · rw [List.eraseIdx_of_length_le (by omega), List.eraseIdx_of_length_le (by omega)]
      · rw [List.eraseIdx_append_of_lt_length (by omega)]
    · change bus.failTransferAt = _
      rw [strikes.failTransferAt, longer]
      congr 1
      rw [eq_iff_iff]
      omega

theorem operate {run : List Operation} (strikes : Strikes recorded distance (offered run) bus)
    {operation : Operation} (kept : ∀ position, operation ≠ .failTransferAt position) :
    Strikes recorded distance (offered (run ++ [operation])) (bus.operate operation) := by
  rw [offered_concat]
  cases offer : operation.offer? with
  | none =>
    obtain ⟨transfers, order⟩ := bus.operate_of_not_offers offer kept
    rw [Option.toList_none, List.append_nil]
    exact ⟨by rw [transfers, strikes.transfers], by rw [order, strikes.failTransferAt]⟩
  | some transfer =>
    cases operation with
    | transferOut handle attempted =>
      cases offer
      exact strikes.concat handle transfer
    | _ => cases offer

end Strikes

theorem strikes_behind {position : Nat} (bus : SimulatedBus)
    (ahead : bus.transfers.size ≤ position) (run : List Operation)
    (kept : ∀ other, .failTransferAt other ∉ run) :
    Strikes bus.transfers.toList (position - bus.transfers.size) (offered run)
      ((bus.operate (.failTransferAt position)).behind run) := by
  induction run using List.reverseRecOn with
  | nil =>
    have unmet : (offered []).length ≤ position - bus.transfers.size := Nat.zero_le _
    refine ⟨(List.append_nil _).symm, ?_⟩
    rw [if_pos unmet, Array.length_toList, Nat.add_sub_cancel' ahead]
    rfl
  | append_singleton run operation ih =>
    simp only [List.mem_append, List.mem_singleton, not_or] at kept
    rw [behind_concat]
    exact (ih fun other => (kept other).1).operate fun other => Ne.symm (kept other).2

end SimulatedBus

end AnalyzerBoot.Usb
