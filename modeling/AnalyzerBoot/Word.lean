/-!
Little-endian 32-bit words over byte strings, and the checksum that adds up the words of a payload.
-/

set_option autoImplicit false

namespace AnalyzerBoot

abbrev Bytes := List UInt8

namespace Word

/-- The word whose four bytes are given, least significant first. -/
def ofBytes (a b c d : UInt8) : UInt32 :=
  UInt32.ofNat (a.toNat + 256 * b.toNat + 65536 * c.toNat + 16777216 * d.toNat)

def toBytes (word : UInt32) : Bytes :=
  [UInt8.ofNat word.toNat, UInt8.ofNat (word.toNat / 256), UInt8.ofNat (word.toNat / 65536),
    UInt8.ofNat (word.toNat / 16777216)]

/-- The word that stands for a number, if it is small enough. -/
def ofNat? (n : Nat) : Option UInt32 :=
  if n < UInt32.size then some (UInt32.ofNat n) else none

/-- The sum of two words, if it is a word. -/
def add? (a b : UInt32) : Option UInt32 :=
  if a.toNat + b.toNat < UInt32.size then some (a + b) else none

/-- Adds the complete words of a payload to a running sum, modulo 2^32. -/
def checksum (sum : UInt32) : Bytes → UInt32
  | a :: b :: c :: d :: rest => checksum (sum + ofBytes a b c d) rest
  | _ => sum

theorem ofNat?_eq_some_iff {n : Nat} {word : UInt32} : ofNat? n = some word ↔ word.toNat = n := by
  rw [ofNat?]
  constructor
  · intro found
    split at found
    · next fits =>
      cases found
      exact UInt32.toNat_ofNat_of_lt' fits
    · cases found
  · rintro rfl
    rw [if_pos word.toNat_lt, UInt32.ofNat_toNat]

theorem add?_eq_some_iff {a b sum : UInt32} :
    add? a b = some sum ↔ sum.toNat = a.toNat + b.toNat := by
  have unwrapped (fits : a.toNat + b.toNat < UInt32.size) :
      (a + b).toNat = a.toNat + b.toNat := by
    rw [UInt32.toNat_add]
    exact Nat.mod_eq_of_lt fits
  rw [add?]
  constructor
  · intro found
    split at found
    · next fits =>
      cases found
      exact unwrapped fits
    · cases found
  · intro same
    have fits : a.toNat + b.toNat < UInt32.size := same ▸ sum.toNat_lt
    rw [if_pos fits, Option.some_inj, ← UInt32.toNat_inj, same]
    exact unwrapped fits

@[simp] theorem length_toBytes (word : UInt32) : (toBytes word).length = 4 := rfl

theorem toNat_ofBytes (a b c d : UInt8) :
    (ofBytes a b c d).toNat = a.toNat + 256 * b.toNat + 65536 * c.toNat + 16777216 * d.toNat := by
  have ha := a.toNat_lt
  have hb := b.toNat_lt
  have hc := c.toNat_lt
  have hd := d.toNat_lt
  simp only [ofBytes, UInt32.toNat_ofNat']
  omega

theorem ofBytes_toBytes (word : UInt32) :
    ofBytes (UInt8.ofNat word.toNat) (UInt8.ofNat (word.toNat / 256))
      (UInt8.ofNat (word.toNat / 65536)) (UInt8.ofNat (word.toNat / 16777216)) = word := by
  have bound := word.toNat_lt
  apply UInt32.toNat_inj.1
  simp only [toNat_ofBytes, UInt8.toNat_ofNat']
  omega

theorem toBytes_ofBytes (a b c d : UInt8) : toBytes (ofBytes a b c d) = [a, b, c, d] := by
  have ha := a.toNat_lt
  have hb := b.toNat_lt
  have hc := c.toNat_lt
  have hd := d.toNat_lt
  simp only [toBytes, toNat_ofBytes, List.cons.injEq, and_true]
  refine ⟨?_, ?_, ?_, ?_⟩ <;>
  · apply UInt8.toNat_inj.1
    simp only [UInt8.toNat_ofNat']
    omega

end Word

end AnalyzerBoot
