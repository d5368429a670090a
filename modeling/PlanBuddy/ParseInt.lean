import Mathlib.Data.Nat.Notation
import Mathlib.Tactic.Common

/-!
# Numbers read off a text

The `parseInt` and the remainder of JavaScript. `parseInt` skips blanks, takes a sign,
takes `0x` where the radix is sixteen or left open, and reads digits as far as they go;
`none` is NaN. Results are exact, as Numbers are up to two to the fifty-third.
-/

namespace PlanBuddy.ParseInt

def digitValue (char : Char) : Option Nat :=
  if 48 ≤ char.toNat ∧ char.toNat ≤ 57 then some (char.toNat - 48)
  else if 97 ≤ char.toNat ∧ char.toNat ≤ 122 then some (char.toNat - 87)
  else if 65 ≤ char.toNat ∧ char.toNat ≤ 90 then some (char.toNat - 55)
  else none

/-- White space and line ends, by code point. -/
def blank (char : Char) : Bool :=
  decide (char.toNat ∈ [9, 10, 11, 12, 13, 32, 0xA0, 0x1680, 0x2028, 0x2029, 0x202F, 0x205F,
    0x3000, 0xFEFF] ∨ 0x2000 ≤ char.toNat ∧ char.toNat ≤ 0x200A)

/-- The digits up to the first character that is none of the radix. -/
def leadingDigits (radix : Nat) : List Char → List Nat
  | [] => []
  | char :: rest =>
    match digitValue char with
    | none => []
    | some digit => if digit < radix then digit :: leadingDigits radix rest else []

/-- The value of a row of digits, the highest first. -/
def valueOf (radix : Nat) (digits : List Nat) : Nat :=
  digits.foldl (fun value digit => radix * value + digit) 0

def takeSign : List Char → Int × List Char
  | '-' :: rest => (-1, rest)
  | '+' :: rest => (1, rest)
  | text => (1, text)

/-- The radix to read with, and the text after its mark. -/
def takeRadix (radix : Option Nat) (text : List Char) : Nat × List Char :=
  match text with
  | '0' :: 'x' :: rest => if radix.getD 16 = 16 then (16, rest) else (radix.getD 10, text)
  | '0' :: 'X' :: rest => if radix.getD 16 = 16 then (16, rest) else (radix.getD 10, text)
  | _ => (radix.getD 10, text)

/-- `parseInt(text, radix)`; an open radix is a missing argument. -/
def parseInt (radix : Option Nat) (text : List Char) : Option Int :=
  let (sign, unsigned) := takeSign (text.dropWhile blank)
  let (base, digits) := takeRadix radix unsigned
  match leadingDigits base digits with
  | [] => none
  | found => some (sign * valueOf base found)

section Digits

/-- A digit is neither blank nor a sign. -/
theorem digit_not_blank {char : Char} {digit : Nat} (read : digitValue char = some digit) :
    blank char = false := by
  simp only [blank, decide_eq_false_iff_not, List.mem_cons, List.not_mem_nil, or_false]
  unfold digitValue at read
  split at read
  · omega
  · split at read
    · omega
    · split at read
      · omega
      · cases read

/-- A digit is no sign. -/
theorem takeSign_digit {char : Char} {digit : Nat} (rest : List Char)
    (read : digitValue char = some digit) : takeSign (char :: rest) = (1, char :: rest) := by
  have notMinus : char ≠ '-' := by rintro rfl; cases read
  have notPlus : char ≠ '+' := by rintro rfl; cases read
  simp [takeSign, notMinus, notPlus]

/-- The mark is no digit of a radix up to thirty-three, so digits hold none. -/
theorem takeRadix_digits {radix : Nat} {text : List Char} (ordinary : radix ≤ 33)
    (digits : ∀ char ∈ text, ∃ digit < radix, digitValue char = some digit) :
    takeRadix (some radix) text = (radix, text) := by
  have unmarked : ∀ char ∈ text, char ≠ 'x' ∧ char ≠ 'X' := by
    intro char member
    obtain ⟨digit, below, read⟩ := digits char member
    constructor
    · rintro rfl
      have : digit = 33 := (Option.some.inj read).symm
      omega
    · rintro rfl
      have : digit = 33 := (Option.some.inj read).symm
      omega
  unfold takeRadix
  split
  · exact absurd rfl (unmarked 'x' (by simp)).1
  · exact absurd rfl (unmarked 'X' (by simp)).2
  · rfl

/-- A text of digits is a natural number. -/
theorem parseInt_digits {radix : Nat} {text : List Char} (ordinary : radix ≤ 33)
    (digits : ∀ char ∈ text, ∃ digit < radix, digitValue char = some digit)
    (nonempty : text ≠ []) : ∃ value : Nat, parseInt (some radix) text = some (value : Int) := by
  cases text with
  | nil => exact absurd rfl nonempty
  | cons char rest =>
    obtain ⟨digit, below, read⟩ := digits char (by simp)
    have found : leadingDigits radix (char :: rest) = digit :: leadingDigits radix rest := by
      simp [leadingDigits, read, below]
    refine ⟨valueOf radix (digit :: leadingDigits radix rest), ?_⟩
    simp [parseInt, digit_not_blank read, takeSign_digit rest read,
      takeRadix_digits ordinary digits, found]

end Digits

/-- `value % divisor`. It takes the sign of the value, and is NaN for a divisor of zero. -/
def remainder (value divisor : Int) : Option Int :=
  if divisor = 0 then none else some (value.tmod divisor)

/-- Of natural numbers it is their remainder. -/
theorem remainder_natCast {value divisor : Nat} (positive : 0 < divisor) :
    remainder value divisor = some ((value % divisor : Nat) : Int) := by
  have nonzero : (divisor : Int) ≠ 0 := by omega
  rw [remainder, if_neg nonzero, Int.ofNat_tmod]

end PlanBuddy.ParseInt
