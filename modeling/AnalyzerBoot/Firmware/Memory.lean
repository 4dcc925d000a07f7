import AnalyzerBoot.Error
import AnalyzerBoot.Word

/-!
Firmware images kept in memory under their names.
-/

set_option autoImplicit false

namespace AnalyzerBoot.Firmware

structure Memory where
  -- The latest image of a name comes first.
  images : List (String × Bytes) := []

namespace Memory

def insert (memory : Memory) (name : String) (image : Bytes) : Memory :=
  ⟨(name, image) :: memory.images⟩

def ofList (images : List (String × Bytes)) : Memory :=
  images.foldl (fun memory (name, image) => memory.insert name image) {}

def get? (memory : Memory) (name : String) : Option Bytes :=
  memory.images.lookup name

def load (memory : Memory) (name : String) (limit : Nat) : Except BringupError Bytes :=
  match memory.get? name with
  | none => .error (.resourceNotFound name)
  | some image =>
    if limit < image.length then .error (.resourceTooLarge name image.length limit)
    else .ok image

@[simp] theorem get?_insert_self (memory : Memory) (name : String) (image : Bytes) :
    (memory.insert name image).get? name = some image := by
  simp [insert, get?]

theorem get?_insert_of_ne {memory : Memory} {name other : String} {image : Bytes}
    (different : other ≠ name) : (memory.insert name image).get? other = memory.get? other := by
  simp [insert, get?, List.lookup_cons, beq_eq_false_iff_ne.2 different]

end Memory

end AnalyzerBoot.Firmware
