import AnalyzerBoot.Error
import AnalyzerBoot.Word

/-!
Memory addresses as a setup packet carries them: the low half of a 32-bit address in the packet's
value, the high half in its index.
-/

set_option autoImplicit false

namespace AnalyzerBoot

structure Address where
  low : UInt16
  high : UInt16
  deriving DecidableEq, Repr

namespace Address

def ofWord (word : UInt32) : Address :=
  ⟨UInt16.ofNat word.toNat, UInt16.ofNat (word.toNat / 65536)⟩

def toWord (address : Address) : UInt32 :=
  UInt32.ofNat (address.low.toNat + 65536 * address.high.toNat)

/-- The address at a distance above a base. Both the distance and the sum have to fit 32 bits. -/
def above (base : UInt32) (offset : Nat) : Except BringupError Address := do
  let some distance := Word.ofNat? offset | throw (.addressOverflow base offset)
  let some sum := Word.add? base distance | throw (.addressOverflow base distance.toNat)
  return ofWord sum

def wordText (word : UInt32) : String :=
  "0x" ++ String.ofList (Text.hexFixed .upper 8 word.toNat)

def text (address : Address) : String :=
  wordText address.toWord

theorem toNat_toWord (address : Address) :
    address.toWord.toNat = address.low.toNat + 65536 * address.high.toNat := by
  have low := address.low.toNat_lt
  have high := address.high.toNat_lt
  simp only [toWord, UInt32.toNat_ofNat']
  omega

@[simp] theorem toWord_ofWord (word : UInt32) : (ofWord word).toWord = word := by
  have bound := word.toNat_lt
  apply UInt32.toNat_inj.1
  simp only [toNat_toWord, ofWord, UInt16.toNat_ofNat']
  omega

/-- A distance that does not fit has no sum that does, so both checks come to one of the sum. -/
theorem above_eq (base : UInt32) (offset : Nat) :
    above base offset =
      if base.toNat + offset < UInt32.size then .ok (ofWord (UInt32.ofNat (base.toNat + offset)))
      else .error (.addressOverflow base offset) := by
  rw [above]
  cases fits : Word.ofNat? offset with
  | none =>
    have beyond : ¬ base.toNat + offset < UInt32.size := by
      intro small
      have word : Word.ofNat? offset = some (UInt32.ofNat offset) := if_pos (by omega)
      exact nomatch fits.symm.trans word
    rw [if_neg beyond]
    rfl
  | some distance =>
    obtain rfl := Word.ofNat?_eq_some_iff.1 fits
    dsimp only
    cases sums : Word.add? base distance with
    | none =>
      have beyond : ¬ base.toNat + distance.toNat < UInt32.size := by
        intro small
        exact nomatch sums.symm.trans (if_pos small)
      rw [if_neg beyond]
      rfl
    | some sum =>
      have same := Word.add?_eq_some_iff.1 sums
      rw [← same, if_pos sum.toNat_lt, UInt32.ofNat_toNat]
      rfl

end Address

end AnalyzerBoot
