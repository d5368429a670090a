import PlanBuddy.DecimalTexts
import PlanBuddy.Doubles

/-!
# Rupees and paise

`utils/money.js` and `config/razorpay.js` each convert rupees to whole paise and back. Both
multiply a double by a hundred; `money.js` then adds one half and a relative epsilon and takes the
floor, `razorpay.js` rounds.

The question for every amount is what the four roundings of a conversion leave of the exact
decimal. Off the ties they are too small to matter. At a tie the product can be one double short,
and the epsilon is then at least the spacing of the doubles there.
-/

namespace PlanBuddy.Money

open Values

section Conversions

/-- A part of the text of an error: written out, or a value as a template shows it. -/
inductive Piece where
  | text (text : String)
  | shown (value : Value)

/-- What a conversion throws. Making a Number of a value can throw by itself. -/
inductive Failure where
  | conversion
  | typeError (text : List Piece)
  | rangeError (text : List Piece)

/-- `Number.EPSILON`. -/
def epsilon : Number := .finite (1 / 2 ^ 52)

/-- `rupeesToPaise` of `utils/money.js`. -/
def rupeesToPaise (rupees : Value) : Except Failure Number :=
  match rupees with
  | .undefined | .null =>
    .error (.typeError [.text "rupeesToPaise: amount must not be null or undefined"])
  | rupees =>
    match rupees.toNumber with
    | none => .error .conversion
    | some (.finite n) =>
      if n < 0 then
        .error (.rangeError [.text "rupeesToPaise: amount must be non-negative, got ",
          .shown (.number (.finite n))])
      else
        let scaled := (Number.finite n).times (.finite 100)
        let eps := epsilon.times scaled.abs
        .ok ((scaled.plus (.finite (1 / 2))).plus eps).floor
    | some _ =>
      .error (.typeError [.text "rupeesToPaise: invalid amount \"", .shown rupees,
        .text "\" — not a finite number"])

/-- `Number(value.toFixed(2))`. From 10^21 on `toFixed` writes the Number itself. -/
def fixed : Number → Number
  | .finite value =>
    if |value| < 10 ^ 21 then
      readNumber (signedText (decide (value < 0)) 2 ⌊|value| * 100 + 1 / 2⌋.toNat)
    else .finite value
  | other => other

/-- `value / 100`. -/
def hundredth : Number → Number
  | .finite value => .nearest (value / 100)
  | other => other

/-- `paiseToRupees` of `utils/money.js`. -/
def paiseToRupees (paise : Value) : Except Failure Number :=
  match paise with
  | .undefined | .null =>
    .error (.typeError [.text "paiseToRupees: amount must not be null or undefined"])
  | paise =>
    match paise.toNumber with
    | none => .error .conversion
    | some (.finite n) => .ok (fixed (hundredth (.finite n)))
    | some _ =>
      .error (.typeError [.text "paiseToRupees: invalid amount \"", .shown paise,
        .text "\" — not a finite number"])

/-- `typeof value`. -/
def typeName : Value → String
  | .undefined => "undefined"
  | .null | .array .. | .object none .. => "object"
  | .boolean _ => "boolean"
  | .number _ => "number"
  | .bigint _ => "bigint"
  | .string _ => "string"
  | .symbol => "symbol"
  | .object (some _) .. => "function"

/-- Whether one digit and a power of ten are enough to tell a Number from every other. -/
def oneDigit (value : Rat) : Bool :=
  let length := value.num.natAbs.repr.length
  (List.range 9).any fun digit => [length - 1, length].any fun power =>
    decide (Number.nearest ((digit + 1 : Nat) * 10 ^ power) = .finite value)

/-- Whether the text of a Number holds a point or a negative exponent. Integers below 10^21 are
written out, larger ones with an exponent, and with a point unless one digit is enough. -/
def hasDecimalPoint (value : Rat) : Bool :=
  if value.den ≠ 1 then true
  else if |value| < 10 ^ 21 then false
  else !oneDigit |value|

/-- `assertPaise`. The tag of a context is part of every text. -/
def assertPaise (paise : Value) (context : String) : Except Failure Unit :=
  let tag := "assertPaise" ++ (if context = "" then "" else " [" ++ context ++ "]")
  match paise with
  | .number (.finite value) =>
    if value.den ≠ 1 ∨ hasDecimalPoint value = true then
      .error (.rangeError [.text (tag ++ ": expected integer paise, got "), .shown paise,
        .text " (fractional — raw rupees may have been passed)"])
    else if value < 0 then
      .error (.rangeError [.text (tag ++ ": expected non-negative paise, got "), .shown paise])
    else .ok ()
  | .number _ =>
    .error (.rangeError [.text (tag ++ ": expected finite integer paise, got "), .shown paise])
  | paise =>
    .error (.rangeError [.text (tag ++ ": expected number paise, got " ++ typeName paise)])

/-- `toCanonicalPaise`. -/
def toCanonicalPaise (amount : Value) (unit : Value) : Except Failure Number :=
  if unit.isText "paise" then do
    let checked := match amount with
      | .string text => .number (readNumber text)
      | amount => amount
    assertPaise checked "toCanonicalPaise"
    match amount.toNumber with
    | none => .error .conversion
    | some number => .ok number
  else if unit.isText "rupees" then rupeesToPaise amount
  else
    .error (.typeError [.text "toCanonicalPaise: unit must be \"rupees\" or \"paise\", got \"",
      .shown unit, .text "\""])

/-- `rupeesToPaise` of `config/razorpay.js`, which `createOrder` calls. -/
def toSubunit (rupees : Value) : Except Failure Number :=
  match rupees.toNumber with
  | none => .error .conversion
  | some number => .ok (number.times (.finite 100)).round

/-- `paiseToRupees` of `config/razorpay.js`. A BigInt is not divided by a Number. -/
def toRupees (paise : Value) : Except Failure Number :=
  match paise with
  | .bigint _ => .error .conversion
  | paise =>
    match paise.numeric with
    | none => .error .conversion
    | some number => .ok (fixed (hundredth number))

end Conversions

section Steps

/-- The double that the product with a hundred is. -/
def product (rupees : Rat) : Rat := double (double rupees * 100)

/-- The double that a product is with one half and the epsilon added. -/
def raised (scaled : Rat) : Rat := double (double (scaled + 1 / 2) + double (1 / 2 ^ 52 * scaled))

/-- The product is not negative. -/
theorem product_nonneg {rupees : Rat} (nonneg : 0 ≤ rupees) : 0 ≤ product rupees :=
  double_nonneg (mul_nonneg (double_nonneg nonneg) (by norm_num))

/-- It grows with the rupees. -/
theorem product_mono {one other : Rat} (nonneg : 0 ≤ one) (ordered : one ≤ other) :
    product one ≤ product other :=
  double_mono (mul_nonneg (double_nonneg nonneg) (by norm_num))
    (mul_le_mul_of_nonneg_right (double_mono nonneg ordered) (by norm_num))

/-- So does the raised value. -/
theorem raised_mono {one other : Rat} (nonneg : 0 ≤ one) (ordered : one ≤ other) :
    raised one ≤ raised other := by
  have halves : double (one + 1 / 2) ≤ double (other + 1 / 2) :=
    double_mono (by positivity) (by linarith)
  have epsilons : double (1 / 2 ^ 52 * one) ≤ double (1 / 2 ^ 52 * other) :=
    double_mono (by positivity) (by gcongr)
  have least : 0 ≤ double (one + 1 / 2) + double (1 / 2 ^ 52 * one) :=
    add_nonneg (double_nonneg (by positivity)) (double_nonneg (by positivity))
  exact double_mono least (add_le_add halves epsilons)

/-- A product is within two roundings of the exact amount in paise. -/
theorem product_close (paise : Rat) (least : 1 / 4 ≤ paise) :
    paise - paise / 2 ^ 52 ≤ product (paise / 100) ∧
      product (paise / 100) ≤ paise + paise / 2 ^ 51 := by
  have first := double_close (paise / 100) (by norm_num at least ⊢; linarith)
  have second := double_close (double (paise / 100) * 100) (by
    norm_num at first ⊢
    linarith)
  rw [product]
  norm_num at first second ⊢
  constructor <;> linarith

/-- Half a paisa and the epsilon are added up to a small part of the sum. -/
theorem raised_close {paise : Rat} (least : 1 / 4 ≤ paise) :
    paise + 1 / 2 - paise / 2 ^ 49 ≤ raised (product (paise / 100)) ∧
      raised (product (paise / 100)) ≤ paise + 1 / 2 + paise / 2 ^ 49 := by
  have scaled := product_close paise least
  generalize product (paise / 100) = value at scaled
  norm_num at scaled
  have half := double_close (value + 1 / 2) (by norm_num; linarith)
  have small := double_close (1 / 2 ^ 52 * value) (by norm_num; linarith)
  norm_num at half small
  have sum := double_close (double (value + 1 / 2) + double (1 / 2 ^ 52 * value)) (by
    norm_num
    linarith)
  rw [raised]
  norm_num at sum ⊢
  constructor <;> linarith

end Steps

section Ties

/-- Where the terms reach a whole amount, so does the rounded sum. -/
theorem whole_reached {whole : Nat} (half small : Rat) (bounded : whole < 2 ^ 48)
    (sum : (whole : Rat) + 1 ≤ half + small) : (whole : Rat) + 1 ≤ double (half + small) := by
  have exact : double ((whole + 1 : Int) : Rat) = (whole + 1 : Int) :=
    double_int (by rw [abs_of_nonneg (by omega)]; omega)
  push_cast at exact
  rw [← exact]
  exact double_mono (by positivity) sum

/-- The product at a tie is a multiple of the spacing there. -/
theorem product_multiple {whole exponent : Nat} (low : 2 ^ exponent ≤ whole)
    (high : whole < 2 ^ (exponent + 1)) (small : exponent < 48) :
    ∃ multiple : Int,
      product ((whole + 1 / 2 : Rat) / 100) = multiple * 2 ^ ((exponent : Int) - 52) := by
  have lowCast : (2 : Rat) ^ exponent ≤ whole := by exact_mod_cast low
  have highCast : (whole : Rat) + 1 ≤ 2 ^ (exponent + 1) := by exact_mod_cast high
  have unit : (2 : Rat) ^ exponent ≤ 2 ^ 47 :=
    pow_le_pow_right₀ (by norm_num) (by omega)
  have rounded := double_close ((whole + 1 / 2 : Rat) / 100) (by norm_num; linarith)
  have twice : (2 : Rat) ^ (exponent + 1) = 2 ^ exponent * 2 := pow_succ 2 exponent
  have least : (2 : Rat) ^ (exponent : Int) ≤ double ((whole + 1 / 2 : Rat) / 100) * 100 := by
    rw [zpow_natCast]
    norm_num at rounded unit
    linarith
  have most : double ((whole + 1 / 2 : Rat) / 100) * 100 < 2 ^ ((exponent : Int) + 1) := by
    have same : (2 : Rat) ^ ((exponent : Int) + 1) = 2 ^ (exponent + 1) := by
      exact_mod_cast zpow_natCast (2 : Rat) (exponent + 1)
    rw [same]
    norm_num at rounded unit
    linarith
  have positive : 0 < double ((whole + 1 / 2 : Rat) / 100) * 100 :=
    lt_of_lt_of_le (by positivity) least
  have width : spacing (double ((whole + 1 / 2 : Rat) / 100) * 100) =
      2 ^ ((exponent : Int) - 52) := by
    rw [spacing, spacingExponent, abs_of_pos positive, binaryExponent_unique least most]
    congr 1
    omega
  exact ⟨_, by rw [product, double, width]⟩

section Short

/-! Around a tie the doubles are `unit` apart. In these units the tie is a whole number between
2 to the 52 and 2 to the 53. -/

variable {whole steps : Nat} {unit scaled : Rat}

/-- Half a paisa is a whole number of units. -/
theorem tie_units (whole : Nat) (width : unit = 2 ^ (-(steps + 1 : Int))) :
    0 < unit ∧ (whole : Rat) + 1 / 2 = ((2 * whole + 1) * 2 ^ steps) * unit ∧
      (1 : Rat) / 2 = 2 ^ steps * unit := by
  have inverse : unit = 1 / (2 ^ steps * 2) := by
    rw [width, zpow_neg, one_div, ← pow_succ]
    exact_mod_cast rfl
  rw [inverse]
  refine ⟨by positivity, ?_, ?_⟩ <;> field_simp

/-- A product below a tie is the double before it. -/
theorem short_by_one {multiple : Int} (width : unit = 2 ^ (-(steps + 1 : Int)))
    (high : (2 : Rat) ^ steps * (whole + 1) ≤ 2 ^ 52) (product : scaled = multiple * unit)
    (close : (whole + 1 / 2 : Rat) - (whole + 1 / 2) / 2 ^ 52 ≤ scaled)
    (missed : scaled < whole + 1 / 2) :
    scaled = ((2 * whole + 1) * 2 ^ steps - 1) * unit := by
  obtain ⟨positive, tie, -⟩ := tie_units whole width
  rw [product, tie] at close missed
  have less : (multiple : Rat) < (2 * whole + 1) * 2 ^ steps :=
    lt_of_mul_lt_mul_right missed positive.le
  have most : ((2 * whole + 1) * 2 ^ steps : Rat) - 2 < multiple := by
    have units : ((2 * whole + 1) * 2 ^ steps : Rat) - (2 * whole + 1) * 2 ^ steps / 2 ^ 52 ≤
        multiple := le_of_mul_le_mul_right (by linarith) positive
    have steps : (1 : Rat) ≤ 2 ^ steps := one_le_pow₀ (by norm_num)
    norm_num at high units
    linarith
  have lessInt : multiple < (2 * whole + 1) * 2 ^ steps := by exact_mod_cast less
  have mostInt : (2 * whole + 1) * 2 ^ steps - 2 < multiple := by exact_mod_cast most
  rw [product, show multiple = (2 * whole + 1) * 2 ^ steps - 1 by omega]
  push_cast
  rfl

/-- From the double before a tie the half is added exactly, and the epsilon is at least the
distance to the tie. -/
theorem short_reaches (width : unit = 2 ^ (-(steps + 1 : Int))) (small : steps ≤ 51)
    (low : (2 : Rat) ^ 51 ≤ 2 ^ steps * whole) (high : (2 : Rat) ^ steps * (whole + 1) ≤ 2 ^ 52)
    (short : scaled = ((2 * whole + 1) * 2 ^ steps - 1) * unit) :
    (whole : Rat) + 1 ≤ double (scaled + 1 / 2) + double (1 / 2 ^ 52 * scaled) := by
  obtain ⟨positive, tie, half⟩ := tie_units whole width
  have sum : scaled + 1 / 2 = (((2 * whole + 2) * 2 ^ steps - 1 : Int) : Rat) * unit := by
    rw [short, half]
    push_cast
    ring
  have exact : double (scaled + 1 / 2) = scaled + 1 / 2 := by
    rw [sum, width]
    apply double_exact
    · have bits : ((2 * whole + 2) * 2 ^ steps : Int) ≤ 2 ^ 53 := by
        have castBits : ((2 * whole + 2) * 2 ^ steps : Rat) ≤ 2 ^ 53 := by
          norm_num at high ⊢
          linarith
        exact_mod_cast castBits
      have least : (0 : Int) < (2 * whole + 2) * 2 ^ steps := by positivity
      rw [abs_of_nonneg (by omega)]
      omega
    · omega
  have extra : unit ≤ double (1 / 2 ^ 52 * scaled) := by
    have exactUnit : double unit = unit := by
      simpa [width] using double_exact 1 (-(steps + 1 : Int)) (by norm_num) (by omega)
    have large : (2 : Rat) ^ 52 ≤ (2 * whole + 1) * 2 ^ steps - 1 := by
      have least : (1 : Rat) ≤ 2 ^ steps := one_le_pow₀ (by norm_num)
      norm_num at low ⊢
      linarith
    have reached : unit ≤ 1 / 2 ^ 52 * scaled :=
      calc unit = 1 / 2 ^ 52 * (2 ^ 52 * unit) := by ring
        _ ≤ 1 / 2 ^ 52 * (((2 * whole + 1) * 2 ^ steps - 1) * unit) := by gcongr
        _ = 1 / 2 ^ 52 * scaled := by rw [short]
    have rounded := double_mono positive.le reached
    rwa [exactUnit] at rounded
  have total : scaled + 1 / 2 + unit = whole + 1 := by
    rw [short, half]
    linarith
  rw [exact]
  linarith

end Short

/-- At a tie the epsilon carries the sum to the next whole amount: a product that is not short of
the tie gets there by the half alone, and one that is short is so by a single double, which the
epsilon makes up for. -/
theorem raised_tie {whole : Nat} (small : whole < 2 ^ 48) :
    (whole : Rat) + 1 ≤ raised (product ((whole + 1 / 2 : Rat) / 100)) := by
  rcases whole.eq_zero_or_pos with rfl | positive
  · decide +kernel
  obtain ⟨exponent, name⟩ : ∃ exponent, Nat.log2 whole = exponent := ⟨_, rfl⟩
  have low : 2 ^ exponent ≤ whole := name ▸ Nat.log2_self_le positive.ne'
  have high : whole < 2 ^ (exponent + 1) := name ▸ Nat.lt_log2_self
  have bounded : exponent < 48 := (Nat.pow_lt_pow_iff_right (by decide)).mp (low.trans_lt small)
  obtain ⟨multiple, scaled⟩ := product_multiple low high bounded
  have nonnegWhole : (0 : Rat) ≤ whole := by positivity
  have close := (product_close ((whole : Rat) + 1 / 2) (by linarith)).1
  have nonneg : 0 ≤ product ((whole + 1 / 2 : Rat) / 100) := product_nonneg (by positivity)
  generalize product ((whole + 1 / 2 : Rat) / 100) = product at scaled close nonneg
  apply whole_reached _ _ small
  rcases le_or_gt ((whole : Rat) + 1 / 2) product with reached | missed
  · have half := whole_reached product (1 / 2) small (by linarith)
    have extra : 0 ≤ double (1 / 2 ^ 52 * product) := double_nonneg (by positivity)
    linarith
  · obtain ⟨steps, total⟩ : ∃ steps : Nat, exponent + steps = 51 := ⟨51 - exponent, by omega⟩
    rw [show (exponent : Int) - 52 = -(steps + 1 : Int) by omega] at scaled
    have power : 2 ^ steps * 2 ^ exponent = 2 ^ 51 := by rw [← pow_add, Nat.add_comm, total]
    have lowSteps : (2 : Rat) ^ 51 ≤ 2 ^ steps * whole := by
      exact_mod_cast power ▸ Nat.mul_le_mul_left (2 ^ steps) low
    have highSteps : (2 : Rat) ^ steps * (whole + 1) ≤ 2 ^ 52 := by
      have natural : 2 ^ steps * (whole + 1) ≤ 2 ^ 52 := by
        calc 2 ^ steps * (whole + 1) ≤ 2 ^ steps * (2 ^ exponent * 2) :=
              Nat.mul_le_mul_left _ (by rw [← pow_succ]; exact high)
          _ = 2 ^ 52 := by rw [← mul_assoc, power]; rfl
      exact_mod_cast natural
    exact short_reaches rfl (by omega) lowSteps highSteps
      (short_by_one rfl highSteps scaled close missed)

end Ties

end PlanBuddy.Money
