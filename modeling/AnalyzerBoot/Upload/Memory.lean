import AnalyzerBoot.Upload.Plan

/-!
The memory of a device, byte by byte, and what transfers and segments put into it. Addresses are
natural numbers here, so that data never wraps around. Writing some data is the same as writing it
part by part, each part where the one in front of it ends.
-/

set_option autoImplicit false

namespace AnalyzerBoot

/-- The address in the setup packet of a transfer. -/
def Usb.Transfer.address (transfer : Usb.Transfer) : UInt32 :=
  Address.toWord ⟨transfer.value, transfer.index⟩

/-- Whether a segment has a byte for an address. -/
def Segment.Covers (segment : Segment) (place : Nat) : Prop :=
  segment.address.toNat ≤ place ∧ place < segment.address.toNat + segment.payload.length

abbrev Memory := Nat → UInt8

namespace Memory

/-- Writes data to the addresses from the given one on. -/
def write (memory : Memory) (address : Nat) (data : Bytes) : Memory := fun place =>
  if address ≤ place then data[place - address]?.getD (memory place) else memory place

def store (memory : Memory) (chunk : Upload.Chunk) : Memory :=
  memory.write chunk.address.toWord.toNat chunk.data

def receive (memory : Memory) (transfer : Usb.Transfer) : Memory :=
  memory.write transfer.address.toNat transfer.data

/-- Writes whole segments; later ones replace what earlier ones wrote to the same addresses. -/
def load (memory : Memory) (segments : List Segment) : Memory :=
  segments.foldl (fun memory segment => memory.write segment.address.toNat segment.payload) memory

@[simp] theorem write_nil (memory : Memory) (address : Nat) : memory.write address [] = memory := by
  funext place
  simp [write]

theorem write_of_outside (memory : Memory) {address place : Nat} {data : Bytes}
    (outside : place < address ∨ address + data.length ≤ place) :
    memory.write address data place = memory place := by
  unfold write
  split
  · have behind : data.length ≤ place - address := by omega
    rw [List.getElem?_eq_none behind, Option.getD_none]
  · rfl

theorem write_of_inside (memory : Memory) {address index : Nat} {data : Bytes}
    (inside : index < data.length) : memory.write address data (address + index) = data[index] := by
  unfold write
  rw [if_pos (Nat.le_add_right address index), Nat.add_sub_cancel_left,
    List.getElem?_eq_getElem inside, Option.getD_some]

theorem write_append (memory : Memory) (address : Nat) (front back : Bytes) :
    (memory.write address front).write (address + front.length) back =
      memory.write address (front ++ back) := by
  funext place
  by_cases before : place < address
  · rw [write_of_outside _ (.inl (by omega)), write_of_outside _ (.inl before),
      write_of_outside _ (.inl before)]
  · obtain ⟨index, rfl⟩ := Nat.exists_eq_add_of_le (Nat.le_of_not_lt before)
    by_cases early : index < front.length
    · rw [write_of_outside _ (.inl (by omega)), write_of_inside _ early,
        write_of_inside _ (by rw [List.length_append]; omega), List.getElem_append_left early]
    · have late : front.length ≤ index := Nat.le_of_not_lt early
      simp [write, late, Nat.add_sub_add_left, List.getElem?_append_right late]

/-- A part that is longer than the data is all of it. -/
theorem write_take_drop (memory : Memory) (address size : Nat) (data : Bytes) :
    (memory.write address (data.take size)).write (address + size) (data.drop size) =
      memory.write address data := by
  rcases Nat.le_total size data.length with inside | past
  · have joined := write_append memory address (data.take size) (data.drop size)
    rwa [List.length_take_of_le inside, List.take_append_drop] at joined
  · rw [List.take_of_length_le past, List.drop_of_length_le past, write_nil]

theorem load_cons (memory : Memory) (segment : Segment) (rest : List Segment) :
    memory.load (segment :: rest) =
      (memory.write segment.address.toNat segment.payload).load rest := rfl

theorem load_append (memory : Memory) (front back : List Segment) :
    memory.load (front ++ back) = (memory.load front).load back :=
  List.foldl_append

theorem load_of_uncovered {segments : List Segment} {place : Nat}
    (uncovered : ∀ segment ∈ segments, ¬ segment.Covers place) (memory : Memory) :
    memory.load segments place = memory place := by
  induction segments generalizing memory with
  | nil => rfl
  | cons segment rest ih =>
    obtain ⟨first, others⟩ := List.forall_mem_cons.1 uncovered
    rw [load_cons, ih others]
    apply write_of_outside
    rw [Segment.Covers] at first
    omega

/-- An address has the byte of the last segment that covers it. -/
theorem load_of_last {front back : List Segment} {segment : Segment} {index : Nat}
    (inside : index < segment.payload.length)
    (uncovered : ∀ later ∈ back, ¬ later.Covers (segment.address.toNat + index))
    (memory : Memory) :
    memory.load (front ++ segment :: back) (segment.address.toNat + index) =
      segment.payload[index] := by
  rw [load_append, load_cons, load_of_uncovered uncovered, write_of_inside _ inside]

end Memory

end AnalyzerBoot
