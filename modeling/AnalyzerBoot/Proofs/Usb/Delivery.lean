import AnalyzerBoot.Usb.Simulated

/-!
Rows of transfers offered to an open device. A device that takes transfers up to a fault takes the
front of every row; a simulated bus is changed by that in nothing but its transfers and its fault.
-/

set_option autoImplicit false

namespace AnalyzerBoot.Usb

/-- What becomes of a row of transfers: those the device took, and why it refused the one behind. -/
structure Delivery where
  taken : List Transfer
  refusal : Option Error

/-- Offers transfers to a device until it refuses one. -/
def deliver {σ η : Type} [Bus σ η] (handle : η) : List Transfer → σ → Delivery × σ
  | [], bus => (⟨[], none⟩, bus)
  | transfer :: rest, bus =>
    match (Bus.transferOut handle transfer : StateM σ (Except Error Nat)) bus with
    | (.error error, bus) => (⟨[], some error⟩, bus)
    | (.ok _, bus) =>
      let (delivery, bus) := deliver handle rest bus
      (⟨transfer :: delivery.taken, delivery.refusal⟩, bus)

section
variable {α : Type}

/-- The front of a row up to a fault, if there is one. -/
def upTo (fault : Option Nat) (row : List α) : List α :=
  fault.elim row row.take

/-- Whether a fault lies inside a row. -/
def isHit (fault : Option Nat) (row : List α) : Bool :=
  fault.any (· < row.length)

theorem upTo_nil (fault : Option Nat) : upTo fault ([] : List α) = [] := by
  cases fault <;> simp [upTo]

theorem upTo_isPrefix (fault : Option Nat) (row : List α) : upTo fault row <+: row := by
  cases fault with
  | none => exact List.prefix_refl row
  | some n => exact List.take_prefix n row

theorem upTo_of_not_isHit {fault : Option Nat} {row : List α} (missed : isHit fault row = false) :
    upTo fault row = row := by
  cases fault with
  | none => rfl
  | some n => exact List.take_of_length_le (by simpa [isHit] using missed)

theorem mem_of_mem_upTo {fault : Option Nat} {row : List α} {member : α}
    (sent : member ∈ upTo fault row) : member ∈ row := by
  cases fault with
  | none => exact sent
  | some n => exact List.mem_of_mem_take sent

theorem isHit_eq_false_of_last_mem {fault : Option Nat} {front : List α} {last : α}
    (sent : last ∈ upTo fault (front ++ [last])) (absent : last ∉ front) :
    isHit fault (front ++ [last]) = false := by
  cases fault with
  | none => rfl
  | some n =>
    simp only [isHit, Option.any_some, decide_eq_false_iff_not]
    intro cut
    rw [List.length_append, List.length_singleton, Nat.lt_succ_iff] at cut
    rw [upTo, Option.elim_some, List.take_append_of_le_length cut] at sent
    exact absent (List.mem_of_mem_take sent)

theorem upTo_cons {fault : Option Nat} (later : fault ≠ some 0) (first : α) (rest : List α) :
    upTo fault (first :: rest) = first :: upTo (fault.map (· - 1)) rest := by
  match fault with
  | none => rfl
  | some 0 => exact absurd rfl later
  | some (n + 1) => rfl

theorem isHit_cons {fault : Option Nat} (later : fault ≠ some 0) (first : α) (rest : List α) :
    isHit fault (first :: rest) = isHit (fault.map (· - 1)) rest := by
  match fault with
  | none => rfl
  | some 0 => exact absurd rfl later
  | some (n + 1) => simp [isHit]

end

section
variable {σ η : Type} [Bus σ η]

/-- Nothing is offered behind a refusal. -/
theorem deliver_append (handle : η) (first second : List Transfer) (bus : σ) :
    deliver handle (first ++ second) bus =
      match deliver handle first bus with
      | (⟨taken, some error⟩, bus) => (⟨taken, some error⟩, bus)
      | (⟨taken, none⟩, bus) =>
        let (delivery, bus) := deliver handle second bus
        (⟨taken ++ delivery.taken, delivery.refusal⟩, bus) := by
  induction first generalizing bus with
  | nil => rfl
  | cons transfer rest ih =>
    simp only [List.cons_append, deliver]
    rcases (Bus.transferOut handle transfer : StateM σ (Except Error Nat)) bus with ⟨_ | _, after⟩
    · rfl
    · dsimp only
      rw [ih]
      rcases deliver handle rest after with ⟨⟨taken, _ | _⟩, last⟩ <;> rfl

/-- An open device that takes transfers up to a fault, as far as states of its bus tell. -/
structure Recipient (σ : Type) {η : Type} [Bus σ η] (handle : η) where
  /-- What the device has taken so far. -/
  accepted : σ → List Transfer
  /-- How many transfers it takes before it refuses one, if it ever does. -/
  fault : σ → Option Nat
  /-- Why it refuses one. -/
  error : Error
  takes (bus : σ) (transfer : Transfer) : fault bus ≠ some 0 → ∃ count after,
    (Bus.transferOut handle transfer : StateM σ (Except Error Nat)) bus = (.ok count, after) ∧
      accepted after = accepted bus ++ [transfer] ∧ fault after = (fault bus).map (· - 1)
  refuses (bus : σ) (transfer : Transfer) : fault bus = some 0 → ∃ after,
    (Bus.transferOut handle transfer : StateM σ (Except Error Nat)) bus = (.error error, after) ∧
      accepted after = accepted bus

theorem Recipient.deliver_eq {handle : η} (recipient : Recipient σ handle) (row : List Transfer)
    (bus : σ) : ∃ after,
    deliver handle row bus = (⟨upTo (recipient.fault bus) row,
      if isHit (recipient.fault bus) row then some recipient.error else none⟩, after) ∧
    recipient.accepted after = recipient.accepted bus ++ upTo (recipient.fault bus) row := by
  induction row generalizing bus with
  | nil => cases recipient.fault bus <;> exact ⟨bus, by simp [deliver, upTo, isHit]⟩
  | cons transfer rest ih =>
    by_cases now : recipient.fault bus = some 0
    · obtain ⟨after, step, same⟩ := recipient.refuses bus transfer now
      exact ⟨after, by simp [deliver, step, now, upTo, isHit], by simp [same, now, upTo]⟩
    · obtain ⟨count, next, step, grown, closer⟩ := recipient.takes bus transfer now
      obtain ⟨after, delivered, all⟩ := ih next
      refine ⟨after, ?_, ?_⟩
      · rw [deliver, step]
        dsimp only
        rw [delivered, closer, upTo_cons now, isHit_cons now]
      · rw [all, grown, closer, upTo_cons now, List.append_assoc, List.singleton_append]

end

namespace SimulatedBus

/-- How many transfers the bus takes before its fault. A fault before transfers that were taken
already never comes. -/
def fault (bus : SimulatedBus) : Option Nat :=
  bus.failTransferAt.bind fun position =>
    if bus.transfers.size ≤ position then some (position - bus.transfers.size) else none

/-- The bus after a row of transfers was offered to one of its devices. -/
def afterRow (bus : SimulatedBus) (row : List Transfer) : SimulatedBus :=
  { bus with
    transfers := bus.transfers ++ (upTo bus.fault row).toArray
    failTransferAt := if isHit bus.fault row then none else bus.failTransferAt }

def faultError : Error := .transferFailed "Pipe error"

/-- Why a row is refused by a bus of this fault, if it is. -/
def refusal (fault : Option Nat) (row : List Transfer) : Option Error :=
  if isHit fault row then some faultError else none

theorem fault_of_none {bus : SimulatedBus} (faultless : bus.failTransferAt = none) :
    bus.fault = none := by
  rw [fault, faultless]
  rfl

theorem afterRow_of_none {bus : SimulatedBus} (faultless : bus.failTransferAt = none)
    (row : List Transfer) :
    bus.afterRow row = { bus with transfers := bus.transfers ++ row.toArray } := by
  rw [afterRow, fault_of_none faultless, faultless]
  rfl

theorem fault_eq_zero_iff (bus : SimulatedBus) :
    bus.fault = some 0 ↔ bus.failTransferAt = some bus.transfers.size := by
  cases position : bus.failTransferAt with
  | none => simp [fault, position]
  | some n =>
    simp only [fault, position, Option.bind_some, Option.some.injEq]
    split <;> simp <;> omega

theorem transferOut_refused {bus : SimulatedBus} (now : bus.fault = some 0) (handle : Handle)
    (transfer : Transfer) : transferOut handle transfer bus =
      (.error faultError, { bus with failTransferAt := none }) := by
  rw [transferOut, if_pos ((fault_eq_zero_iff bus).1 now)]
  rfl

theorem transferOut_taken {bus : SimulatedBus} (later : bus.fault ≠ some 0) (handle : Handle)
    (transfer : Transfer) : transferOut handle transfer bus =
      (.ok transfer.data.length, { bus with transfers := bus.transfers.push transfer }) := by
  rw [transferOut, if_neg (mt (fault_eq_zero_iff bus).2 later)]

theorem fault_push {bus : SimulatedBus} (later : bus.fault ≠ some 0) (transfer : Transfer) :
    { bus with transfers := bus.transfers.push transfer : SimulatedBus }.fault =
      bus.fault.map (· - 1) := by
  have notNow := mt (fault_eq_zero_iff bus).2 later
  cases position : bus.failTransferAt with
  | none => simp [fault, position]
  | some n =>
    simp only [position, Option.some.injEq] at notNow
    simp only [fault, position, Option.bind_some, Array.size_push]
    by_cases reached : bus.transfers.size ≤ n
    · rw [if_pos reached, if_pos (by omega)]
      simp only [Option.map_some, Option.some.injEq]
      omega
    · rw [if_neg reached, if_neg (by omega)]
      rfl

theorem afterRow_push {bus : SimulatedBus} (later : bus.fault ≠ some 0) (transfer : Transfer)
    (rest : List Transfer) :
    { bus with transfers := bus.transfers.push transfer : SimulatedBus }.afterRow rest =
      bus.afterRow (transfer :: rest) := by
  rw [afterRow, fault_push later, afterRow, upTo_cons later, isHit_cons later]
  simp only [Array.push_eq_append, Array.append_assoc, ← List.toArray_cons]

theorem deliver_eq (handle : Handle) (row : List Transfer) (bus : SimulatedBus) :
    deliver handle row bus =
      (⟨upTo bus.fault row, refusal bus.fault row⟩, bus.afterRow row) := by
  induction row generalizing bus with
  | nil => cases position : bus.fault <;> simp [deliver, afterRow, upTo, refusal, isHit, position]
  | cons transfer rest ih =>
    by_cases now : bus.fault = some 0
    · rw [deliver, show Bus.transferOut handle transfer bus = _ from
        transferOut_refused now handle transfer]
      simp [afterRow, now, upTo, refusal, isHit]
    · rw [deliver, show Bus.transferOut handle transfer bus = _ from
        transferOut_taken now handle transfer]
      dsimp only
      rw [ih, fault_push now, refusal, ← upTo_cons now, ← isHit_cons now, afterRow_push now]
      rfl

/-- An open simulated device. -/
def recipient (handle : Handle) : Recipient SimulatedBus handle where
  accepted bus := bus.transfers.toList
  fault := fault
  error := faultError
  takes _ transfer later :=
    ⟨_, _, transferOut_taken later handle transfer, Array.toList_push, fault_push later transfer⟩
  refuses _ transfer now := ⟨_, transferOut_refused now handle transfer, rfl⟩

end SimulatedBus

end AnalyzerBoot.Usb
