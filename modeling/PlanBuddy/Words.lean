import Mathlib.Data.List.Basic
import Mathlib.Data.Nat.Notation

/-!
# The 32-bit operators of JavaScript

An operand is a Number, taken modulo two to the thirty-second, and a shift count is taken
modulo thirty-two. The results of `<<`, `|` and `&` are signed, the one of `>>>` is not. On
the words behind the numbers they are the operations of `BitVec`, so an argument about bits
is made there.
-/

namespace PlanBuddy.Words

abbrev Word := BitVec 32

def toWord (number : Int) : Word := BitVec.ofInt 32 number

def shiftCount (count : Int) : Nat := (count % 32).toNat

/-- `number << count`. -/
def shiftLeft (number count : Int) : Int := (toWord number <<< shiftCount count).toInt

/-- `number >>> count`. -/
def shiftRight (number count : Int) : Int := ((toWord number >>> shiftCount count).toNat : Nat)

/-- `one | other`. -/
def bitOr (one other : Int) : Int := (toWord one ||| toWord other).toInt

/-- `one & other`. -/
def bitAnd (one other : Int) : Int := (toWord one &&& toWord other).toInt

/-- A word is the one of its signed number. -/
@[simp] theorem toWord_toInt (word : Word) : toWord word.toInt = word := BitVec.ofInt_toInt

/-- It is the one of its unsigned number, too. -/
@[simp] theorem toWord_toNat (word : Word) : toWord (word.toNat : Int) = word := by
  rw [toWord, BitVec.ofInt_natCast, BitVec.ofNat_toNat, BitVec.setWidth_eq]

/-- `<<` shifts words. -/
@[simp] theorem toWord_shiftLeft (number count : Int) :
    toWord (shiftLeft number count) = toWord number <<< shiftCount count := toWord_toInt _

/-- `>>>` does so the other way. -/
@[simp] theorem toWord_shiftRight (number count : Int) :
    toWord (shiftRight number count) = toWord number >>> shiftCount count := toWord_toNat _

/-- `|` joins them. -/
@[simp] theorem toWord_bitOr (one other : Int) :
    toWord (bitOr one other) = toWord one ||| toWord other := toWord_toInt _

/-- No shift leaves the number unsigned. -/
theorem shiftRight_zero (number : Int) : shiftRight number 0 = (toWord number).toNat := by
  simp [shiftRight, shiftCount]

/-- Two signed results are equal when their words are. -/
theorem bitAnd_eq_iff (one other mask : Int) :
    bitAnd one mask = bitAnd other mask ↔
      toWord one &&& toWord mask = toWord other &&& toWord mask :=
  BitVec.toInt_inj

/-- A mask of the bits from `low` on compares what is left after these are shifted down. -/
theorem masked_eq_iff {width : Nat} (one other : BitVec width) (low : Nat) :
    one &&& (BitVec.allOnes width <<< low) = other &&& (BitVec.allOnes width <<< low) ↔
      one >>> low = other >>> low := by
  have bit : ∀ (word : BitVec width) (index : Nat),
      (word &&& (BitVec.allOnes width <<< low)).getLsbD (low + index) =
        (word >>> low).getLsbD index := by
    intro word index
    rw [BitVec.getLsbD_ushiftRight, BitVec.getLsbD_and, BitVec.getLsbD_shiftLeft,
      BitVec.getLsbD_allOnes]
    by_cases inside : low + index < width
    · simp [inside, show index < width by omega]
    · simp [inside, BitVec.getLsbD_of_ge word (low + index) (by omega)]
  constructor
  · intro same
    refine BitVec.eq_of_getLsbD_eq fun index _ => ?_
    rw [← bit, ← bit, same]
  · intro same
    refine BitVec.eq_of_getLsbD_eq fun index _ => ?_
    by_cases below : index < low
    · simp [below]
    · obtain ⟨offset, rfl⟩ := Nat.exists_eq_add_of_le (Nat.le_of_not_lt below)
      rw [bit, bit, same]

end PlanBuddy.Words
