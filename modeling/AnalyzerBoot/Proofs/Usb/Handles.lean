import AnalyzerBoot.Proofs.Usb.Conduct
import AnalyzerBoot.Proofs.Usb.Opening

/-!
The calls that a simulated bus has noted, read as an account of its open devices. A close has to
find its device open; so the count of open handles, which the bus keeps apart from its calls, never
falls below what it was before them.
-/

set_option autoImplicit false

namespace AnalyzerBoot.Usb

/-- The addresses of the open devices behind a call, or none if it closes one that is not open. -/
def Call.follow (opened : List UInt8) : Call → Option (List UInt8)
  | .openDevice address => some (address :: opened)
  | .close address => if address ∈ opened then some (opened.erase address) else none
  | _ => some opened

/-- The addresses of the open devices behind some calls, the latest first, if every close among them
finds its device open. -/
def openAfter (opened : List UInt8) (calls : List Call) : Option (List UInt8) :=
  calls.foldlM Call.follow opened

/-- How a count of open handles goes on with a call. -/
def Call.count (handles : Nat) : Call → Nat
  | .openDevice _ => handles + 1
  | .close _ => handles - 1
  | _ => handles

def tally (handles : Nat) (calls : List Call) : Nat :=
  calls.foldl Call.count handles

section
variable {opened after : List UInt8} {calls : List Call} {call : Call}

theorem openAfter_cons (opened : List UInt8) (call : Call) (calls : List Call) :
    openAfter opened (call :: calls) = (call.follow opened).bind (openAfter · calls) := rfl

theorem openAfter_singleton (opened : List UInt8) (call : Call) :
    openAfter opened [call] = call.follow opened := by
  rw [openAfter_cons]
  cases call.follow opened <;> rfl

theorem openAfter_append (opened : List UInt8) (front back : List Call) :
    openAfter opened (front ++ back) = (openAfter opened front).bind (openAfter · back) :=
  List.foldlM_append

theorem openAfter_concat (followed : openAfter opened calls = some after) (call : Call) :
    openAfter opened (calls ++ [call]) = call.follow after := by
  rw [openAfter_append, followed, Option.bind_some, openAfter_singleton]

/-- Devices that were open before stay open as they are. -/
theorem Call.follow_append (followed : call.follow opened = some after) (base : List UInt8) :
    call.follow (opened ++ base) = some (after ++ base) := by
  cases call with
  | openDevice address =>
    cases followed
    rfl
  | close address =>
    simp only [follow] at followed ⊢
    split at followed
    · next member =>
      cases followed
      rw [if_pos (List.mem_append_left base member), List.erase_append_left base member]
    · cases followed
  | _ =>
    cases followed
    rfl

theorem openAfter_append_base (followed : openAfter opened calls = some after)
    (base : List UInt8) : openAfter (opened ++ base) calls = some (after ++ base) := by
  induction calls generalizing opened with
  | nil =>
    cases followed
    rfl
  | cons call rest ih =>
    rw [openAfter_cons, Option.bind_eq_some_iff] at followed
    obtain ⟨next, step, followed⟩ := followed
    rw [openAfter_cons, Call.follow_append step]
    exact ih followed

theorem Call.count_of_follow (followed : call.follow opened = some after) (handles : Nat) :
    call.count (handles + opened.length) = handles + after.length := by
  cases call with
  | openDevice address =>
    cases followed
    rfl
  | close address =>
    simp only [follow] at followed
    split at followed
    · next member =>
      cases followed
      have positive := List.length_pos_of_mem member
      rw [count, List.length_erase_of_mem member]
      omega
    · cases followed
  | _ =>
    cases followed
    rfl

theorem tally_of_openAfter (followed : openAfter opened calls = some after) (handles : Nat) :
    tally (handles + opened.length) calls = handles + after.length := by
  induction calls generalizing opened with
  | nil =>
    cases followed
    rfl
  | cons call rest ih =>
    rw [openAfter_cons, Option.bind_eq_some_iff] at followed
    obtain ⟨next, step, followed⟩ := followed
    rw [tally, List.foldl_cons, Call.count_of_follow step]
    exact ih followed

/-- A close finds at least the handle that it closes. -/
theorem tally_pos_of_close {front : List Call} {address : UInt8}
    (followed : openAfter [] calls = some after)
    (closing : front ++ [.close address] <+: calls) (handles : Nat) : 0 < tally handles front := by
  obtain ⟨back, rfl⟩ := closing
  rw [List.append_assoc, openAfter_append, Option.bind_eq_some_iff] at followed
  obtain ⟨between, fronted, followed⟩ := followed
  have counted := tally_of_openAfter fronted handles
  rw [List.singleton_append, openAfter_cons, Call.follow] at followed
  split at followed
  · next member =>
    have positive := List.length_pos_of_mem member
    rw [List.length_nil, Nat.add_zero] at counted
    omega
  · cases followed

end

/-- Calls between which at most one device is open at a time, and behind which these are. -/
structure Orderly (calls : List Call) (opened : List UInt8) : Prop where
  follows : openAfter [] calls = some opened
  single : ∀ front, front <+: calls →
    ∃ between, openAfter [] front = some between ∧ between.length ≤ 1

theorem Orderly.nil : Orderly [] [] := by
  refine ⟨rfl, fun front isFront => ?_⟩
  obtain rfl := List.prefix_nil.1 isFront
  exact ⟨[], rfl, Nat.zero_le 1⟩

theorem Orderly.concat {calls : List Call} {opened after : List UInt8} {call : Call}
    (orderly : Orderly calls opened) (followed : call.follow opened = some after)
    (single : after.length ≤ 1) : Orderly (calls ++ [call]) after := by
  have whole : openAfter [] (calls ++ [call]) = some after := by
    rw [openAfter_concat orderly.follows, followed]
  refine ⟨whole, fun front isFront => ?_⟩
  rcases List.prefix_concat_iff.1 isFront with rfl | earlier
  · exact ⟨after, whole, single⟩
  · exact orderly.single front earlier

namespace SimulatedBus

/-- Since some calls and a count of handles a bus has noted orderly calls, and its count of handles
has gone with them. -/
def Stands (handles : Nat) (earlier : List Call) (opened : List UInt8) (bus : SimulatedBus) :
    Prop :=
  bus.openHandles = handles + opened.length ∧
    ∃ calls, bus.calls.toList = earlier ++ calls ∧ Orderly calls opened

theorem Stands.start (bus : SimulatedBus) : Stands bus.openHandles bus.calls.toList [] bus :=
  ⟨rfl, [], (List.append_nil _).symm, .nil⟩

section
variable {handles : Nat} {earlier : List Call} {opened after : List UInt8}
  {bus next : SimulatedBus}

theorem Stands.step {call : Call} (stands : Stands handles earlier opened bus)
    (noted : next.calls.toList = bus.calls.toList ++ [call])
    (counted : next.openHandles = call.count bus.openHandles)
    (followed : call.follow opened = some after) (single : after.length ≤ 1) :
    Stands handles earlier after next := by
  obtain ⟨count, calls, kept, orderly⟩ := stands
  refine ⟨?_, calls ++ [call], ?_, orderly.concat followed single⟩
  · rw [counted, count, Call.count_of_follow followed]
  · rw [noted, kept, List.append_assoc]

/-- A call that neither opens nor closes a device. -/
theorem Stands.record {address : UInt8} (stands : Stands handles earlier [address] bus)
    {call : Call} (counted : call.count bus.openHandles = bus.openHandles)
    (followed : call.follow [address] = some [address]) :
    Stands handles earlier [address] (bus.record call) :=
  stands.step Array.toList_push counted.symm followed (Nat.le_refl 1)

theorem Stands.openDevice (stands : Stands handles earlier [] bus) (address : UInt8) :
    Stands handles earlier [address] (bus.whileOpen address) :=
  stands.step Array.toList_append rfl rfl (Nat.le_refl 1)

theorem Stands.close {handle : Handle} (stands : Stands handles earlier [handle.address] bus) :
    Stands handles earlier [] (close handle bus).2 := by
  refine stands.step Array.toList_push rfl ?_ (Nat.zero_le 1)
  simp [Call.follow]

end

/-- One action of a driver, which has at most one device open of its own at a time. -/
def account (handles : Nat) (earlier : List Call) : Conduct SimulatedBus where
  idle := Stands handles earlier []
  busy handle := Stands handles earlier [handle.address]
  lists idle := idle
  opens {bus} candidate idle := by
    have step : (Bus.openDevice candidate : Request SimulatedBus Handle).run bus = _ :=
      openDevice_eq candidate bus
    cases reached : bus.reach candidate with
    | error error =>
      simp only [step, reached]
      exact idle
    | ok device =>
      simp only [step, reached, ← address_of_reach reached]
      exact idle.openDevice device.candidate.address
  closes busy := busy.close
  reads busy := busy.record rfl rfl
  detaches _ busy := busy.record rfl rfl
  configures _ busy := busy.record rfl rfl
  transfers {bus handle} transfer busy := by
    change Stands _ _ _ (transferOut handle transfer bus).2
    rw [transferOut]
    split <;> exact busy
  claims {bus handle} interface busy := by
    have claimed : Stands handles earlier [handle.address]
        (bus.record (.claimInterface interface)) := busy.record rfl rfl
    dsimp only
    change Stands _ _ [(claimInterface handle interface bus).1.2.address] _
    rw [claimInterface]
    dsimp only
    split <;> exact claimed

end SimulatedBus

end AnalyzerBoot.Usb
