import Mathlib.Algebra.Order.Field.Rat
import PlanBuddy.ParseInt

/-!
# Values of the language

The values that JavaScript passes around, with the conversions that its operators make: to a
Boolean for a condition, to a Number for a comparison, to a text for a key. Numbers are the
rationals that a double holds, two infinities and NaN; the two zeros are one here, because no
operator below tells them apart. What an object converts to is up to its methods, so an object
carries it; `none` is a conversion that throws.
-/

namespace PlanBuddy.Values

section Numbers

inductive Number where
  | finite (value : Rat)
  | infinite (negative : Bool)
  | notANumber
deriving DecidableEq

def Number.truthy : Number → Bool
  | .finite value => decide (value ≠ 0)
  | .infinite _ => true
  | .notANumber => false

/-- `one <= other`. -/
def Number.atMost : Number → Number → Bool
  | .finite one, .finite other => decide (one ≤ other)
  | .infinite negative, .finite _ => negative
  | .finite _, .infinite negative => !negative
  | .infinite negative, .infinite other => negative || !other
  | .notANumber, _ => false
  | _, .notANumber => false

/-- The exponent of the highest power of two that a positive value reaches. -/
def binaryExponent (value : Rat) : Int :=
  let estimate : Int := (Nat.log2 value.num.natAbs : Int) - Nat.log2 value.den
  if scale 1 estimate ≤ value then estimate else estimate - 1
where
  /-- The value times a power of two. -/
  scale (value : Rat) (exponent : Int) : Rat :=
    if 0 ≤ exponent then value * 2 ^ exponent.toNat else value / 2 ^ (-exponent).toNat

/-- The nearest integer, the even one of two. -/
def roundEven (value : Rat) : Int :=
  let below := value.floor
  let rest := value - below
  if rest < 1 / 2 ∨ rest = 1 / 2 ∧ below % 2 = 0 then below else below + 1

/-- The double nearest to a value. -/
def Number.nearest (value : Rat) : Number :=
  if value = 0 then .finite 0
  else
    let exponent := max (binaryExponent |value|) (-1022) - 52
    let rounded := binaryExponent.scale (roundEven (binaryExponent.scale value (-exponent))) exponent
    if |rounded| < 2 ^ 1024 then .finite rounded else .infinite (decide (value < 0))

example : Number.nearest (1 / 10) = .finite (3602879701896397 / 36028797018963968) := by
  decide +kernel

/-- `one - other`. -/
def Number.minus : Number → Number → Number
  | .finite one, .finite other => .nearest (one - other)
  | .infinite negative, .finite _ => .infinite negative
  | .finite _, .infinite negative => .infinite (!negative)
  | .infinite negative, .infinite other =>
    if negative = other then .notANumber else .infinite negative
  | .notANumber, _ => .notANumber
  | _, .notANumber => .notANumber

end Numbers

section Numerals

open ParseInt (blank digitValue valueOf)

/-- The digits of a text that has nothing else. -/
def digitsOf (radix : Nat) (text : List Char) : Option (List Nat) :=
  text.mapM fun char => (digitValue char).filter fun digit => decide (digit < radix)

def readRadix (radix : Nat) (text : List Char) : Number :=
  match digitsOf radix text with
  | none | some [] => .notANumber
  | some digits => .nearest (valueOf radix digits)

/-- The exponent after its letter. -/
def readExponent (text : List Char) : Option Int :=
  let (negative, unsigned) := match text with
    | '-' :: rest => (true, rest)
    | '+' :: rest => (false, rest)
    | rest => (false, rest)
  match digitsOf 10 unsigned with
  | none | some [] => none
  | some digits => some (if negative then -valueOf 10 digits else valueOf 10 digits)

/-- Digits with a point and an exponent, each of which may be missing. -/
def readUnsigned (text : List Char) : Option Rat := do
  let mantissa := text.takeWhile fun char => char != 'e' && char != 'E'
  let exponent ← match text.drop mantissa.length with
    | [] => some 0
    | _ :: rest => readExponent rest
  let whole ← digitsOf 10 (mantissa.takeWhile fun char => char != '.')
  let fraction ← digitsOf 10 ((mantissa.dropWhile fun char => char != '.').drop 1)
  guard (whole ++ fraction ≠ [])
  let power := exponent - fraction.length
  let value : Rat := valueOf 10 (whole ++ fraction)
  some (if 0 ≤ power then value * 10 ^ power.toNat else value / 10 ^ (-power).toNat)

def readDecimal (sign : Rat) (text : List Char) : Number :=
  if text = "Infinity".toList then .infinite (decide (sign < 0))
  else ((readUnsigned text).map fun value => Number.nearest (sign * value)).getD .notANumber

/-- The Number that a text is converted to. -/
def readNumber (text : String) : Number :=
  match ((text.toList.dropWhile blank).reverse.dropWhile blank).reverse with
  | [] => .finite 0
  | '0' :: 'x' :: rest | '0' :: 'X' :: rest => readRadix 16 rest
  | '0' :: 'o' :: rest | '0' :: 'O' :: rest => readRadix 8 rest
  | '0' :: 'b' :: rest | '0' :: 'B' :: rest => readRadix 2 rest
  | '-' :: rest => readDecimal (-1) rest
  | '+' :: rest => readDecimal 1 rest
  | unsigned => readDecimal 1 unsigned

example : [" 404\n", "-1.5e1", ".", "0x1F", ""].map readNumber =
    [.finite 404, .finite (-15), .notANumber, .finite 31, .finite 0] := by
  decide +kernel

end Numerals

section Values

/-- What the methods of an object make of it. -/
structure Conversions where
  number : Option Number
  text : Option String
  /-- Whether `JSON.stringify` gets through it. -/
  serializes : Bool
deriving DecidableEq

/-- An array may be frozen. An object is given by its own enumerable properties, and a function
by its arity too. -/
inductive Value where
  | undefined
  | null
  | boolean (value : Bool)
  | number (value : Number)
  | bigint (value : Int)
  | string (text : String)
  | symbol
  | array (items : List Value) (extensible : Bool) (conversions : Conversions)
  | object (arity : Option Nat) (fields : List (String × Value)) (conversions : Conversions)

namespace Value

/-- The value of a numeral in the source. -/
def numeral (value : Nat) : Value := .number (.finite value)

def truthy : Value → Bool
  | .undefined | .null => false
  | .boolean value => value
  | .number value => value.truthy
  | .bigint value => decide (value ≠ 0)
  | .string text => decide (text ≠ "")
  | .symbol | .array .. | .object .. => true

/-- `one || other`. -/
def orElse (one other : Value) : Value := if one.truthy then one else other

/-- The operand of a comparison with a Number. -/
def numeric : Value → Option Number
  | .undefined => some .notANumber
  | .null => some (.finite 0)
  | .boolean value => some (.finite (if value then 1 else 0))
  | .number value => some value
  | .bigint value => some (.finite value)
  | .string text => some (readNumber text)
  | .symbol => none
  | .array _ _ conversions | .object _ _ conversions => conversions.number

/-- `Number(value)`. -/
def toNumber : Value → Option Number
  | .bigint value => some (.nearest value)
  | value => value.numeric

/-- `value >= bound`. -/
def atLeast (value : Value) (bound : Number) : Option Bool := value.numeric.map bound.atMost

/-- `value === numeral`. -/
def isNumeral (value : Value) (number : Nat) : Bool :=
  match value with
  | .number value => decide (value = .finite number)
  | _ => false

def serializes : Value → Bool
  | .bigint _ => false
  | .array _ _ conversions | .object _ _ conversions => conversions.serializes
  | _ => true

/-- `value === text`. -/
def isText (value : Value) (text : String) : Bool :=
  match value with
  | .string value => decide (value = text)
  | _ => false

/-- The text under which a value is looked up, if it has one; the lookup itself may throw. Numbers
that are no integers below 10^21 have a point, an exponent or a word in their texts, and no text
for them here. -/
def key : Value → Option (Option String)
  | .undefined => some "undefined"
  | .null => some "null"
  | .boolean value => some (if value then "true" else "false")
  | .number (.finite value) =>
    some (if value.den = 1 ∧ |value| < 10 ^ 21 then some (toString value.num) else none)
  | .number _ => some none
  | .bigint value => some (toString value)
  | .string text => some text
  | .symbol => some none
  | .array _ _ conversions | .object _ _ conversions => conversions.text.map some

/-- `typeof value === 'object'`, for a truthy value. -/
def isObject : Value → Bool
  | .array .. | .object none .. => true
  | _ => false

def isArray : Value → Bool
  | .array .. => true
  | _ => false

def units (text : String) : Nat :=
  (text.toList.map fun char => if char.toNat < 0x10000 then 1 else 2).sum

/-- `value[name]`, for a name that no prototype has; reading from nothing throws. -/
def property (value : Value) (name : String) : Option Value :=
  match value with
  | .undefined | .null => none
  | .string text => some (if name = "length" then numeral (units text) else .undefined)
  | .array items _ _ => some (if name = "length" then numeral items.length else .undefined)
  | .object arity fields _ =>
    let own := if name = "length" then arity.map numeral else none
    some (((fields.lookup name).or own).getD .undefined)
  | _ => some .undefined

/-- `Object.entries`. The characters of a text have numbers for names, which nothing reads. -/
def entries : Value → List (String × Value)
  | .array items _ _ => items.zipIdx.map fun (item, index) => (Nat.repr index, item)
  | .object _ fields _ => fields
  | _ => []

/-- What is read under a name is among the entries, unless there is nothing. -/
theorem property_entry {value found : Value} {name : String} (ordinary : name ≠ "length")
    (read : value.property name = some found) :
    found = .undefined ∨ (name, found) ∈ value.entries := by
  cases value with
  | undefined | null => cases read
  | boolean | number | bigint | symbol => exact .inl (Option.some.inj read).symm
  | string text | array items extensible conversions =>
    rw [property, if_neg ordinary] at read
    exact .inl (Option.some.inj read).symm
  | object arity fields conversions =>
    simp only [property, if_neg ordinary, Option.or_none] at read
    cases entry : fields.lookup name with
    | none =>
      rw [entry] at read
      exact .inl (Option.some.inj read).symm
    | some own =>
      rw [entry] at read
      cases read
      obtain ⟨before, after, whole, -⟩ := List.lookup_eq_some_iff.mp entry
      exact .inr (by simp [entries, whole])

/-- `[]`. -/
def emptyArray : Value := .array [] true ⟨some (.finite 0), some "", true⟩

/-- `{}`. -/
def emptyObject : Value := .object none [] ⟨some .notANumber, some "[object Object]", true⟩

/-- `{ field: value }`. -/
def literal (field : String) (value : Value) : Value :=
  .object none [(field, value)] ⟨some .notANumber, some "[object Object]", value.serializes⟩

/-- `value.push(text)`. It throws at a frozen array and at what is no array; objects that bring a
`push` of their own are left out. -/
def push (value : Value) (text : String) : Option Value :=
  match value with
  | .array items true conversions =>
    let joined := conversions.text.map fun before =>
      if items.isEmpty then text else before ++ "," ++ text
    some (.array (items ++ [.string text]) true
      ⟨joined.map readNumber, joined, conversions.serializes⟩)
  | _ => none

end Value

/-- The members of `Object.prototype`, which a lookup in any object finds. -/
def objectMembers : List String :=
  ["constructor", "__defineGetter__", "__defineSetter__", "hasOwnProperty", "__lookupGetter__",
    "__lookupSetter__", "isPrototypeOf", "propertyIsEnumerable", "toString", "valueOf", "__proto__",
    "toLocaleString"]

end Values

end PlanBuddy.Values
