import PlanBuddy.SqlText

/-!
# Conditions of a statement

The conditions of a WHERE clause, read from tokens: comparisons of a column with a constant, with
the time or with a list of numbers, tests for NULL, and AND and OR of them, where AND binds
tighter. They mean what PostgreSQL says: a comparison with NULL is unknown, AND and OR are those
of three values, and a row is selected when its condition is true.
-/

namespace PlanBuddy.SqlConditions

open SqlText (Token)

section Syntax

inductive Operand where
  | column (name : List Char)
  | constant (content : List Char)
  | now
deriving DecidableEq

inductive Condition where
  | isNull (operand : Operand)
  | equal (left right : Operand)
  | atMost (left right : Operand)
  | equalAny (left : Operand) (numbers : List Int)
  | both (left right : Condition)
  | either (left right : Condition)
deriving DecidableEq

def word (text : String) : Token := .word text.toList

def operator (text : String) : Token := .operator text.toList

def readOperand : List Token → Option (Operand × List Token)
  | .word text :: .mark '(' :: .mark ')' :: rest =>
    if text = "NOW".toList then some (.now, rest) else none
  | .word text :: rest => some (.column text, rest)
  | .constant content :: rest => some (.constant content, rest)
  | _ => none

/-- The value of a word of digits. -/
def readDigits (text : List Char) : Option Int :=
  if text.all Char.isDigit then some (Nat.ofDigitChars 10 text 0) else none

def readNumber : List Token → Option (Int × List Token)
  | .operator ['-'] :: .word text :: rest => (readDigits text).map fun number => (-number, rest)
  | .word text :: rest => (readDigits text).map fun number => (number, rest)
  | _ => none

/-- The numbers behind an opening bracket, with so many tokens at most. -/
def readNumbers : Nat → List Token → Option (List Int × List Token)
  | 0, _ => none
  | fuel + 1, tokens => do
    let (number, rest) ← readNumber tokens
    match rest with
    | .mark ']' :: rest => return ([number], rest)
    | .mark ',' :: rest =>
      let (numbers, rest) ← readNumbers fuel rest
      return (number :: numbers, rest)
    | _ => none

def readTest (fuel : Nat) (tokens : List Token) : Option (Condition × List Token) := do
  let (left, rest) ← readOperand tokens
  if rest.take 5 = [operator "=", word "ANY", .mark '(', word "ARRAY", .mark '['] then
    let (numbers, rest) ← readNumbers fuel (rest.drop 5)
    if rest.head? = some (.mark ')') then return (.equalAny left numbers, rest.tail) else none
  else if rest.head? = some (operator "=") then
    let (right, rest) ← readOperand rest.tail
    return (.equal left right, rest)
  else if rest.head? = some (operator "<=") then
    let (right, rest) ← readOperand rest.tail
    return (.atMost left right, rest)
  else if rest.take 2 = [word "IS", word "NULL"] then return (.isNull left, rest.drop 2)
  else none

mutual

def readPrimary : Nat → List Token → Option (Condition × List Token)
  | 0, _ => none
  | fuel + 1, tokens =>
    if tokens.head? = some (.mark '(') then do
      let (condition, rest) ← readEither fuel tokens.tail
      if rest.head? = some (.mark ')') then return (condition, rest.tail) else none
    else readTest fuel tokens

def readBoth : Nat → List Token → Option (Condition × List Token)
  | 0, _ => none
  | fuel + 1, tokens => do
    let (left, rest) ← readPrimary fuel tokens
    if rest.head? = some (word "AND") then
      let (right, rest) ← readBoth fuel rest.tail
      return (.both left right, rest)
    else return (left, rest)

def readEither : Nat → List Token → Option (Condition × List Token)
  | 0, _ => none
  | fuel + 1, tokens => do
    let (left, rest) ← readBoth fuel tokens
    if rest.head? = some (word "OR") then
      let (right, rest) ← readEither fuel rest.tail
      return (.either left right, rest)
    else return (left, rest)

end

/-- The condition at the start of the tokens, and the tokens behind it. A token is taken at every
third call at the latest, so the fuel lasts. -/
def readCondition (tokens : List Token) : Option (Condition × List Token) :=
  readEither (4 * tokens.length + 4) tokens

end Syntax

section Meaning

inductive Value where
  | null
  | text (content : List Char)
  | integer (number : Int)
  | instant (time : Int)
deriving DecidableEq

variable (row : List Char → Value) (time : Int)

def Operand.value : Operand → Value
  | .column name => row name
  | .constant content => .text content
  | .now => .instant time

/-- `left = right`; unknown where one of them is NULL. -/
def Value.equal : Value → Value → Option Bool
  | .null, _ | _, .null => none
  | left, right => some (decide (left = right))

/-- `left <= right` of times. -/
def Value.atMost : Value → Value → Option Bool
  | .instant left, .instant right => some (decide (left ≤ right))
  | _, _ => none

/-- `value = ANY (…)`. -/
def Value.equalAny (numbers : List Int) : Value → Option Bool
  | .integer number => some (decide (number ∈ numbers))
  | _ => none

/-- False if one of them is, and unknown only if neither is. -/
def andThree : Option Bool → Option Bool → Option Bool
  | some false, _ | _, some false => some false
  | some true, some true => some true
  | _, _ => none

def orThree : Option Bool → Option Bool → Option Bool
  | some true, _ | _, some true => some true
  | some false, some false => some false
  | _, _ => none

def Condition.eval : Condition → Option Bool
  | .isNull operand => some (decide (operand.value row time = .null))
  | .equal left right => (left.value row time).equal (right.value row time)
  | .atMost left right => (left.value row time).atMost (right.value row time)
  | .equalAny left numbers => (left.value row time).equalAny numbers
  | .both left right => andThree left.eval right.eval
  | .either left right => orThree left.eval right.eval

/-- The row is selected. -/
def Condition.holds (condition : Condition) : Bool := condition.eval row time == some true

variable {row time} {left right : Condition}

/-- A row meets both conditions when it meets each. -/
@[simp] theorem holds_both :
    (Condition.both left right).holds row time = (left.holds row time && right.holds row time) := by
  simp only [Condition.holds, Condition.eval]
  rcases left.eval row time with _ | _ | _ <;> rcases right.eval row time with _ | _ | _ <;> rfl

/-- A disjunction holds when one side holds. -/
@[simp] theorem holds_either :
    (Condition.either left right).holds row time =
      (left.holds row time || right.holds row time) := by
  simp only [Condition.holds, Condition.eval]
  rcases left.eval row time with _ | _ | _ <;> rcases right.eval row time with _ | _ | _ <;> rfl

end Meaning

section Lists

variable {rest : List Token}

/-- A number that is written is read back. -/
@[simp] theorem readDigits_toDigits (value : Nat) :
    readDigits (Nat.toDigits 10 value) = some (value : Int) := by
  have all : (Nat.toDigits 10 value).all Char.isDigit = true :=
    List.all_eq_true.mpr fun char member => Nat.isDigit_of_mem_toDigits (by decide) (by decide) member
  rw [readDigits, if_pos all, Nat.ofDigitChars_ten_toDigits]

/-- A number is read back from its tokens. -/
theorem readNumber_tokens (number : Int) :
    readNumber (SqlText.numberTokens number ++ rest) = some (number, rest) := by
  unfold SqlText.numberTokens
  split
  · next negative =>
    have value : -(number.natAbs : Int) = number := by omega
    simp only [List.cons_append, List.nil_append, readNumber, readDigits_toDigits,
      Option.map_some, value]
  · next natural =>
    have value : (number.natAbs : Int) = number := by omega
    simp only [List.cons_append, List.nil_append, readNumber, readDigits_toDigits,
      Option.map_some, value]

/-- So is a list of them. -/
theorem readNumbers_tokens (numbers : List Int) (nonempty : numbers ≠ []) (spare : Nat) :
    readNumbers (numbers.length + spare) (SqlText.listTokens numbers ++ rest) =
      some (numbers, rest) := by
  induction numbers with
  | nil => exact absurd rfl nonempty
  | cons number others inductionHypothesis =>
    rw [List.length_cons, Nat.add_right_comm]
    cases others with
    | nil => simp [readNumbers, SqlText.listTokens, readNumber_tokens]
    | cons other others =>
      have tail := inductionHypothesis (by simp)
      rw [List.length_cons] at tail
      simp [readNumbers, SqlText.listTokens, readNumber_tokens, tail]

/-- A list has at least as many tokens as numbers. -/
theorem listTokens_length (numbers : List Int) (nonempty : numbers ≠ []) :
    numbers.length ≤ (SqlText.listTokens numbers).length := by
  induction numbers with
  | nil => exact absurd rfl nonempty
  | cons number others inductionHypothesis =>
    cases others with
    | nil => simp [SqlText.listTokens]
    | cons other others =>
      have tail := inductionHypothesis (by simp)
      simp only [SqlText.listTokens, List.length_append, List.length_cons] at tail ⊢
      omega

end Lists

section Rules

variable {fuel : Nat} {name content : List Char} {left right : Condition}
  {tokens rest final : List Token}

/-- The test of a column against a constant is read. -/
theorem readTest_equal : readTest fuel (.word name :: operator "=" :: .constant content :: rest) =
    some (.equal (.column name) (.constant content), rest) := rfl

/-- So is the test for NULL. -/
theorem readTest_isNull : readTest fuel (.word name :: word "IS" :: word "NULL" :: rest) =
    some (.isNull (.column name), rest) := rfl

/-- So is the test against the time. -/
theorem readTest_atMost_now :
    readTest fuel (.word name :: operator "<=" :: word "NOW" :: .mark '(' :: .mark ')' :: rest) =
      some (.atMost (.column name) .now, rest) := rfl

/-- So is the test against a list. -/
theorem readTest_equalAny (numbers : List Int) (nonempty : numbers ≠ []) (spare : Nat) :
    readTest (numbers.length + spare) (.word name :: operator "=" :: word "ANY" :: .mark '(' ::
      word "ARRAY" :: .mark '[' :: (SqlText.listTokens numbers ++ .mark ')' :: rest)) =
        some (.equalAny (.column name) numbers, rest) := by
  have operand : readOperand (.word name :: operator "=" :: word "ANY" :: .mark '(' ::
      word "ARRAY" :: .mark '[' :: (SqlText.listTokens numbers ++ .mark ')' :: rest)) =
        some (.column name, operator "=" :: word "ANY" :: .mark '(' :: word "ARRAY" :: .mark '[' ::
          (SqlText.listTokens numbers ++ .mark ')' :: rest)) := rfl
  simp [readTest, operand, readNumbers_tokens numbers nonempty spare]

/-- A test that opens no group is read as a test. -/
theorem readPrimary_test (ungrouped : tokens.head? ≠ some (.mark '('))
    (read : readTest fuel tokens = some (left, rest)) :
    readPrimary (fuel + 1) tokens = some (left, rest) := by
  rw [readPrimary, if_neg ungrouped, read]

/-- A group is read to its end. -/
theorem readPrimary_group (read : readEither fuel tokens = some (left, .mark ')' :: rest)) :
    readPrimary (fuel + 1) (.mark '(' :: tokens) = some (left, rest) := by
  rw [readPrimary, if_pos List.head?_cons, List.tail_cons, read]
  rfl

/-- The last operand of a conjunction. -/
theorem readBoth_last (read : readPrimary fuel tokens = some (left, rest))
    (last : rest.head? ≠ some (word "AND")) : readBoth (fuel + 1) tokens = some (left, rest) := by
  rw [readBoth, read]
  exact if_neg last

/-- One with more behind it. -/
theorem readBoth_and (read : readPrimary fuel tokens = some (left, word "AND" :: rest))
    (other : readBoth fuel rest = some (right, final)) :
    readBoth (fuel + 1) tokens = some (.both left right, final) := by
  rw [readBoth, read]
  simp [other]

/-- The last operand of a disjunction. -/
theorem readEither_last (read : readBoth fuel tokens = some (left, rest))
    (last : rest.head? ≠ some (word "OR")) : readEither (fuel + 1) tokens = some (left, rest) := by
  rw [readEither, read]
  exact if_neg last

/-- One with more behind it. -/
theorem readEither_or (read : readBoth fuel tokens = some (left, word "OR" :: rest))
    (other : readEither fuel rest = some (right, final)) :
    readEither (fuel + 1) tokens = some (.either left right, final) := by
  rw [readEither, read]
  simp [other]

end Rules

end PlanBuddy.SqlConditions
