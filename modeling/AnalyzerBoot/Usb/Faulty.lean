import AnalyzerBoot.Usb.Bus

/-!
Faults in front of a bus. A fault makes requests of one kind fail before they reach the bus, or
makes a transfer report fewer bytes than it carried.
-/

set_option autoImplicit false

namespace AnalyzerBoot.Usb

inductive RequestKind where
  | list
  | openDevice
  | strings
  | detach
  | configure
  | transfer
  | claim
  | release
  deriving DecidableEq, Repr

structure Fault where
  kind : RequestKind
  error : Error
  -- Requests that still go through.
  skip : Nat
  -- Requests that still fail after those.
  count : Nat
  -- Instead of failing, a transfer reports at most this many bytes.
  short : Option Nat
  deriving DecidableEq, Repr

inductive Verdict where
  | pass
  | fail (error : Error)
  | shorten (limit : Nat)
  deriving DecidableEq, Repr

namespace Fault

def apply (fault : Fault) : Verdict × Fault :=
  if 0 < fault.skip then (.pass, { fault with skip := fault.skip - 1 })
  else
    (match fault.kind, fault.short with
      | .transfer, some limit => .shorten limit
      | _, _ => .fail fault.error,
      { fault with count := fault.count - 1 })

/-- The first fault of a kind that is not used up decides. -/
def judge (kind : RequestKind) : List Fault → Verdict × List Fault
  | [] => (.pass, [])
  | fault :: rest =>
    if fault.kind = kind ∧ 0 < fault.count then
      let (verdict, fault) := fault.apply
      (verdict, fault :: rest)
    else
      let (verdict, rest) := judge kind rest
      (verdict, fault :: rest)

end Fault

structure FaultyBus (σ : Type) where
  bus : σ
  faults : List Fault := []

namespace FaultyBus

variable {σ α η : Type}

def through (request : StateM σ α) : StateM (FaultyBus σ) α := fun state =>
  let (result, bus) := request state.bus
  (result, { state with bus := bus })

def judge (kind : RequestKind) : StateM (FaultyBus σ) Verdict := fun state =>
  let (verdict, faults) := Fault.judge kind state.faults
  (verdict, { state with faults := faults })

def guarded (kind : RequestKind) (request : Request σ α) : Request (FaultyBus σ) α := do
  match ← (judge kind : StateM (FaultyBus σ) Verdict) with
  | .fail error => throw error
  | _ => through request

/-- As `guarded`, for a request that may change the handle. -/
def guardedHandle (kind : RequestKind) (handle : η)
    (request : StateM σ (Except Error Unit × η)) :
    StateM (FaultyBus σ) (Except Error Unit × η) := do
  match ← judge kind with
  | .fail error => return (.error error, handle)
  | _ => through request

/-- The bus gets the whole transfer even if fewer bytes are reported. -/
def transferOut [Bus σ η] (handle : η) (transfer : Transfer) : Request (FaultyBus σ) Nat := do
  match ← (judge .transfer : StateM (FaultyBus σ) Verdict) with
  | .fail error => throw error
  | .pass => through (Bus.transferOut handle transfer : Request σ Nat)
  | .shorten limit =>
    let written ← (through (Bus.transferOut handle transfer : Request σ Nat) :
      Request (FaultyBus σ) Nat)
    return min limit written

instance [Bus σ η] : Bus (FaultyBus σ) η where
  listDevices := guarded .list (Bus.listDevices (σ := σ))
  openDevice candidate := guarded .openDevice (Bus.openDevice (σ := σ) candidate)
  close handle := through (Bus.close (σ := σ) handle)
  readStrings handle := guarded .strings (Bus.readStrings (σ := σ) handle)
  detachKernelDriver handle interface :=
    guarded .detach (Bus.detachKernelDriver (σ := σ) handle interface)
  setConfiguration handle configuration :=
    guarded .configure (Bus.setConfiguration (σ := σ) handle configuration)
  transferOut handle transfer := transferOut (σ := σ) handle transfer
  claimInterface handle interface :=
    guardedHandle .claim handle (Bus.claimInterface (σ := σ) handle interface)
  releaseInterface handle interface :=
    guardedHandle .release handle (Bus.releaseInterface (σ := σ) handle interface)

end FaultyBus

end AnalyzerBoot.Usb
