import AnalyzerBoot.Discovery

/-!
The records of the devices that are known, in the order in which they were found.
-/

set_option autoImplicit false

namespace AnalyzerBoot

structure Inventory where
  records : List Record := []
  deriving DecidableEq, Repr

namespace Inventory

def size (inventory : Inventory) : Nat :=
  inventory.records.length

def isEmpty (inventory : Inventory) : Bool :=
  inventory.records.isEmpty

/-- Adds the records of a scan, and says how many there were. -/
def absorb (inventory : Inventory) (outcomes : List Outcome) : Inventory × Nat :=
  let found := outcomes.filterMap Outcome.record?
  (⟨inventory.records ++ found⟩, found.length)

def get? (inventory : Inventory) (index : Nat) : Option Record :=
  inventory.records[index]?

def set (inventory : Inventory) (index : Nat) (record : Record) : Inventory :=
  ⟨inventory.records.set index record⟩

/-- Takes a record out, if there is one of that index. -/
def remove (inventory : Inventory) (index : Nat) : Option Record × Inventory :=
  (inventory.records[index]?, ⟨inventory.records.eraseIdx index⟩)

end Inventory

end AnalyzerBoot
