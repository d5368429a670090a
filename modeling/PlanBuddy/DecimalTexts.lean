import Mathlib.Algebra.Order.Ring.Rat
import Mathlib.Data.List.TakeWhile
import Mathlib.Tactic.FieldSimp
import Mathlib.Tactic.NormNum
import Mathlib.Tactic.Ring
import PlanBuddy.TextKeys
import PlanBuddy.Values

/-!
# Decimal texts

A text with a fixed number of decimal places, as a server prints its exact decimals and as
`toFixed` prints a Number, and what it is converted to: the Number nearest to the decimal that
it stands for. Digits are read back with the value they were printed from.
-/

namespace PlanBuddy.Values

open ParseInt (digitValue blank valueOf)

section Digits

/-- A decimal digit has the value it is written for. -/
theorem digitValue_digit {char : Char} (digit : char.isDigit = true) :
    digitValue char = some (char.toNat - 48) ∧ char.toNat - 48 < 10 := by
  simp only [Char.isDigit, Bool.and_eq_true, decide_eq_true_eq, UInt32.le_iff_toNat_le] at digit
  have low : 48 ≤ char.toNat := digit.1
  have high : char.toNat ≤ 57 := digit.2
  refine ⟨?_, by omega⟩
  rw [digitValue, if_pos ⟨low, high⟩]

/-- A text of digits has the digits that its characters stand for. -/
theorem digitsOf_digits {text : List Char} (digits : ∀ char ∈ text, char.isDigit = true) :
    digitsOf 10 text = some (text.map fun char => char.toNat - 48) := by
  unfold digitsOf
  induction text with
  | nil => rfl
  | cons char rest inductionHypothesis =>
    obtain ⟨value, small⟩ := digitValue_digit (digits char List.mem_cons_self)
    have later := inductionHypothesis fun other member => digits other (.tail _ member)
    rw [List.mapM_cons, later, value]
    simp [Option.filter, small]

/-- The value of a row of digits. -/
theorem valueOf_chars (text : List Char) :
    valueOf 10 (text.map fun char => char.toNat - 48) = Nat.ofDigitChars 10 text 0 := by
  rw [valueOf, List.foldl_map, Nat.ofDigitChars_eq_foldl]
  rfl

end Digits

section Texts

/-- The decimal digits of a natural number, with leading zeros up to a number of places. -/
def paddedDigits (places value : Nat) : List Char := value.repr.toList.leftpad places '0'

/-- The text of a value over ten to the number of places. -/
def decimalText (places value : Nat) : List Char :=
  (value / 10 ^ places).repr.toList ++ '.' :: paddedDigits places (value % 10 ^ places)

/-- A padded number is digits. -/
theorem paddedDigits_digit {places value : Nat} {char : Char}
    (member : char ∈ paddedDigits places value) : char.isDigit = true := by
  rcases List.mem_append.mp member with pad | own
  · rw [List.eq_of_mem_replicate pad]
    decide
  · exact TextKeys.repr_digit own

/-- It is as long as its places. -/
theorem paddedDigits_length {places value : Nat} (positive : 0 < places)
    (fits : value < 10 ^ places) : (paddedDigits places value).length = places := by
  have short : value.repr.toList.length ≤ places := by
    rw [Nat.toList_repr]
    exact (Nat.length_toDigits_le_iff (by decide) positive).mpr fits
  rw [paddedDigits, List.length_leftpad]
  omega

/-- Leading zeros have no value. -/
theorem paddedDigits_value (places value : Nat) :
    Nat.ofDigitChars 10 (paddedDigits places value) 0 = value := by
  rw [paddedDigits, List.leftpad, Nat.ofDigitChars_append, Nat.ofDigitChars_replicate_zero,
    Nat.mul_zero, Nat.toList_repr, Nat.ofDigitChars_ten_toDigits]

/-- The digits before and after the point, in a row, are those of the value. -/
theorem decimal_value {places : Nat} (value : Nat) (positive : 0 < places) :
    Nat.ofDigitChars 10 ((value / 10 ^ places).repr.toList ++
      paddedDigits places (value % 10 ^ places)) 0 = value := by
  have fits : value % 10 ^ places < 10 ^ places := Nat.mod_lt _ (by positivity)
  rw [Nat.ofDigitChars_append, Nat.ofDigitChars_eq_ofDigitChars_zero, paddedDigits_value,
    paddedDigits_length positive fits, Nat.toList_repr, Nat.ofDigitChars_ten_toDigits]
  exact Nat.div_add_mod value (10 ^ places)

/-- A digit is no point, no exponent and no space. -/
theorem digit_plain {char : Char} (digit : char.isDigit = true) :
    char ≠ '.' ∧ char ≠ 'e' ∧ char ≠ 'E' ∧ blank char = false := by
  refine ⟨?_, ?_, ?_, ParseInt.digit_not_blank (digitValue_digit digit).1⟩ <;>
    rintro rfl <;> exact absurd digit (by decide)

/-- Reading a decimal text yields the value that it was written from. -/
theorem readUnsigned_decimalText {places : Nat} (value : Nat) (positive : 0 < places) :
    readUnsigned (decimalText places value) = some ((value : Rat) / 10 ^ places) := by
  have fits : value % 10 ^ places < 10 ^ places := Nat.mod_lt _ (by positivity)
  have whole : ∀ char ∈ (value / 10 ^ places).repr.toList, char.isDigit = true :=
    fun _ => TextKeys.repr_digit
  have fraction : ∀ char ∈ paddedDigits places (value % 10 ^ places), char.isDigit = true :=
    fun _ => paddedDigits_digit
  have noExponent : (decimalText places value).takeWhile
      (fun char => char != 'e' && char != 'E') = decimalText places value := by
    apply List.takeWhile_eq_self_iff.mpr
    intro char member
    rcases List.mem_append.mp member with before | after
    · simp [(digit_plain (whole char before)).2]
    · rcases List.mem_cons.mp after with rfl | later
      · decide
      · simp [(digit_plain (fraction char later)).2]
  have beforePoint : (decimalText places value).takeWhile (fun char => char != '.') =
      (value / 10 ^ places).repr.toList := by
    rw [decimalText, List.takeWhile_append_of_pos]
    · simp
    · intro char member
      simp [(digit_plain (whole char member)).1]
  have afterPoint : ((decimalText places value).dropWhile (fun char => char != '.')).drop 1 =
      paddedDigits places (value % 10 ^ places) := by
    rw [decimalText, List.dropWhile_append_of_pos]
    · simp
    · intro char member
      simp [(digit_plain (whole char member)).1]
  have number : valueOf 10 ((value / 10 ^ places).repr.toList.map (fun char => char.toNat - 48) ++
      (paddedDigits places (value % 10 ^ places)).map (fun char => char.toNat - 48)) = value := by
    rw [← List.map_append, valueOf_chars, decimal_value value positive]
  simp only [readUnsigned, noExponent, List.drop_length, beforePoint, afterPoint,
    digitsOf_digits whole, digitsOf_digits fraction, Option.bind_eq_bind, Option.bind_some, number,
    List.length_map, paddedDigits_length positive fits]
  rw [guard, if_pos (by simp)]
  simp [positive.ne']

end Texts

section Numbers

/-- A sign and a decimal text. -/
def signedText (negative : Bool) (places value : Nat) : String :=
  String.ofList ((if negative then ['-'] else []) ++ decimalText places value)

/-- A decimal is written in digits and a point. -/
theorem decimalText_chars {places value : Nat} {char : Char}
    (member : char ∈ decimalText places value) : char.isDigit = true ∨ char = '.' := by
  rcases List.mem_append.mp member with before | after
  · exact .inl (TextKeys.repr_digit before)
  · rcases List.mem_cons.mp after with rfl | later
    · exact .inr rfl
    · exact .inl (paddedDigits_digit later)

/-- A text without blanks is trimmed to itself. -/
theorem trim_solid {text : List Char} (solid : ∀ char ∈ text, blank char = false) :
    ((text.dropWhile blank).reverse.dropWhile blank).reverse = text := by
  have kept : ∀ {other : List Char}, (∀ char ∈ other, blank char = false) →
      other.dropWhile blank = other := by
    rintro (_ | ⟨char, rest⟩) solid
    · rfl
    · rw [List.dropWhile_cons_of_neg (by simp [solid char List.mem_cons_self])]
  rw [kept solid, kept fun char member => solid char (List.mem_reverse.mp member),
    List.reverse_reverse]

/-- A text of digits and points is no spelling of another radix, and has no sign. -/
theorem readNumber_plain {text : List Char} (nonempty : text ≠ [])
    (plain : ∀ char ∈ text, char.isDigit = true ∨ char = '.') :
    readNumber (String.ofList text) = readDecimal 1 text := by
  have solid : ∀ char ∈ text, blank char = false := by
    intro char member
    rcases plain char member with digit | rfl
    · exact (digit_plain digit).2.2.2
    · decide
  rw [readNumber, String.toList_ofList, trim_solid solid]
  split
  · exact absurd rfl nonempty
  · exact absurd (plain 'x' (by simp)) (by decide)
  · exact absurd (plain 'X' (by simp)) (by decide)
  · exact absurd (plain 'o' (by simp)) (by decide)
  · exact absurd (plain 'O' (by simp)) (by decide)
  · exact absurd (plain 'b' (by simp)) (by decide)
  · exact absurd (plain 'B' (by simp)) (by decide)
  · exact absurd (plain '-' (by simp)) (by decide)
  · exact absurd (plain '+' (by simp)) (by decide)
  · rfl

/-- A sign is read off. -/
theorem readNumber_minus (text : List Char)
    (plain : ∀ char ∈ text, char.isDigit = true ∨ char = '.') :
    readNumber (String.ofList ('-' :: text)) = readDecimal (-1) text := by
  have solid : ∀ char ∈ '-' :: text, blank char = false := by
    intro char member
    rcases List.mem_cons.mp member with rfl | later
    · decide
    · rcases plain char later with digit | rfl
      · exact (digit_plain digit).2.2.2
      · decide
  rw [readNumber, String.toList_ofList, trim_solid solid]
  rfl

/-- A decimal is read as the double nearest to it. -/
theorem readDecimal_decimalText {places : Nat} (sign : Rat) (value : Nat) (positive : 0 < places) :
    readDecimal sign (decimalText places value) = .nearest (sign * (value / 10 ^ places)) := by
  have ordinary : decimalText places value ≠ "Infinity".toList := by
    intro same
    have member : 'I' ∈ decimalText places value := by
      rw [same]
      decide
    exact absurd (decimalText_chars member) (by decide)
  rw [readDecimal, if_neg ordinary, readUnsigned_decimalText value positive]
  rfl

/-- A decimal text is converted to the Number nearest to its decimal. -/
theorem readNumber_signedText {places : Nat} (negative : Bool) (value : Nat)
    (positive : 0 < places) : readNumber (signedText negative places value) =
      .nearest ((if negative then -1 else 1) * ((value : Rat) / 10 ^ places)) := by
  cases negative with
  | true =>
    have read := readNumber_minus (decimalText places value) fun _ => decimalText_chars
    exact read.trans (readDecimal_decimalText (-1) value positive)
  | false =>
    have nonempty : decimalText places value ≠ [] := by simp [decimalText]
    have read := readNumber_plain nonempty fun _ => decimalText_chars
    exact read.trans (readDecimal_decimalText 1 value positive)

end Numbers

end PlanBuddy.Values
