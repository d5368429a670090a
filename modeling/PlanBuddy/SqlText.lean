import Mathlib.Data.List.Basic
import Mathlib.Data.Nat.Notation
import Mathlib.Tactic.Common

/-!
# Tokens of a statement

How PostgreSQL cuts the text of a statement into words, operators, marks, parameters and constants,
with its standard strings. The reader goes through the text once, in a mode that holds the token it
is in; a constant is over only when the quote that ends it is not followed by another one.

Read are the texts whose tokens can be told apart this way. A comment, a quoted name, a string with
a prefix, one that continues another and one with a zero character are refused, and so is all that
no ordinary statement needs.

A text with its quotes doubled is read back as one constant, whatever it says, and a number is read
back from its decimal digits.
-/

namespace PlanBuddy.SqlText

section Reader

inductive Token where
  | word (text : List Char)
  | operator (text : List Char)
  | mark (char : Char)
  | parameter (digits : List Char)
  | constant (content : List Char)
deriving DecidableEq

/-- The token that the reader is in. Behind a constant it may not meet another one. -/
inductive Mode where
  | between (literal : Bool)
  | word (text : List Char)
  | operator (text : List Char)
  | parameter (digits : List Char)
  | quoted (content : List Char)
  | closing (content : List Char)
deriving DecidableEq

def space (char : Char) : Bool := decide (char ∈ [' ', '\n', '\t', '\r'])

def wordChar (char : Char) : Bool := char.isAlphanum || decide (char = '_')

def operatorChar (char : Char) : Bool := decide (char ∈ ['<', '>', '=', '+', '-', '*', '/'])

def markChar (char : Char) : Bool := decide (char ∈ ['(', ')', '[', ']', ',', ';', '.'])

/-- The token that ends where a character no longer belongs to it. -/
def Mode.flush : Mode → Option (List Token)
  | .between _ => some []
  | .word text => some [.word text]
  | .operator text => some [.operator text]
  | .parameter digits => if digits = [] then none else some [.parameter digits]
  | .quoted _ => none
  | .closing content => some [.constant content]

/-- Whether the last token is a constant. -/
def Mode.literal : Mode → Bool
  | .between literal => literal
  | .closing _ => true
  | _ => false

/-- A character that starts a token or separates two of them. -/
def begin (literal : Bool) (char : Char) : Option (List Token × Mode) :=
  if space char then some ([], .between literal)
  else if wordChar char then some ([], .word [char])
  else if operatorChar char then some ([], .operator [char])
  else if markChar char then some ([.mark char], .between false)
  else if char = '$' then some ([], .parameter [])
  else if char = '\'' ∧ literal = false then some ([], .quoted [])
  else none

/-- The token is over, and the character belongs to the next one. -/
def Mode.finish (mode : Mode) (char : Char) : Option (List Token × Mode) := do
  let ended ← mode.flush
  let (tokens, next) ← begin mode.literal char
  return (ended ++ tokens, next)

def Mode.advance (char : Char) : Mode → Option (List Token × Mode)
  | .quoted content =>
    if char = '\'' then some ([], .closing content)
    else if char = '\x00' then none
    else some ([], .quoted (content ++ [char]))
  | .closing content =>
    if char = '\'' then some ([], .quoted (content ++ ['\'']))
    else (Mode.closing content).finish char
  | .word text =>
    if wordChar char then some ([], .word (text ++ [char]))
    else if char = '\'' ∨ char = '$' then none
    else (Mode.word text).finish char
  | .operator text =>
    if operatorChar char then
      -- A sign may be another operator here, and a star may start a comment.
      if char ∈ ['+', '-'] ∨ text.getLast? = some '/' ∧ char = '*' then none
      else some ([], .operator (text ++ [char]))
    else (Mode.operator text).finish char
  | .parameter digits =>
    if char.isDigit then some ([], .parameter (digits ++ [char]))
    else if wordChar char ∨ char = '$' then none
    else (Mode.parameter digits).finish char
  | .between literal => begin literal char

def scan (mode : Mode) : List Char → Option (List Token × Mode)
  | [] => some ([], mode)
  | char :: rest => do
    let (tokens, next) ← mode.advance char
    let (later, final) ← scan next rest
    return (tokens ++ later, final)

/-- The tokens of a whole text. -/
def tokenize (text : List Char) : Option (List Token) := do
  let (tokens, mode) ← scan (.between false) text
  let last ← mode.flush
  return tokens ++ last

end Reader

section Laws

variable {mode middle final : Mode} {first second : List Char} {tokens later : List Token}

/-- A text is read piece by piece. -/
theorem scan_append (one : scan mode first = some (tokens, middle))
    (other : scan middle second = some (later, final)) :
    scan mode (first ++ second) = some (tokens ++ later, final) := by
  induction first generalizing mode tokens with
  | nil =>
    obtain ⟨rfl, rfl⟩ := Prod.mk.inj (Option.some.inj one)
    exact other
  | cons char rest inductionHypothesis =>
    simp only [scan, Option.bind_eq_bind, Option.bind_eq_some_iff, Option.pure_def,
      Option.some.injEq, Prod.mk.injEq, Prod.exists] at one
    obtain ⟨started, next, advanced, ended, last, scanned, rfl, rfl⟩ := one
    simp [scan, advanced, inductionHypothesis scanned]

/-- The first character, and then the rest. -/
theorem scan_cons {char : Char} (one : mode.advance char = some (tokens, middle))
    (other : scan middle second = some (later, final)) :
    scan mode (char :: second) = some (tokens ++ later, final) := by
  simp [scan, one, other]

/-- Between two tokens a new line says nothing. -/
theorem scan_line {literal : Bool} (line : first.head? = some '\n') :
    scan (.between literal) first.tail = scan (.between literal) first := by
  obtain ⟨rest, rfl⟩ : ∃ rest, first = '\n' :: rest :=
    ⟨first.tail, List.eq_cons_of_mem_head? line⟩
  have skipped : (Mode.between literal).advance '\n' = some ([], .between literal) := rfl
  cases scanned : scan (.between literal) rest <;> simp [scan, skipped, scanned]

/-- A text is cut into the tokens that scanning it leaves. -/
theorem tokenize_eq (read : scan (.between false) first = some (tokens, final))
    (last : final.flush = some later) : tokenize first = some (tokens ++ later) := by
  simp [tokenize, read, last]

/-- A token that ends with its line, and what follows. -/
theorem scan_ended {literal : Bool} {token : Token}
    (ended : mode.advance '\n' = some ([token], .between literal)) (line : first.head? = some '\n')
    (rest : scan (.between literal) first = some (later, final)) :
    scan mode first = some (token :: later, final) := by
  rw [← scan_line line] at rest
  rw [List.eq_cons_of_mem_head? line]
  exact scan_cons ended rest

/-- A literal is given as its characters, since its encoding takes long to evaluate. -/
theorem toList_spelled {text : String} {chars : List Char} (spelled : text = String.ofList chars) :
    text.toList = chars := by rw [spelled, String.toList_ofList]

end Laws

section Constants

/-- `text.replace(/'/g, "''")`. -/
def doubleQuotes (text : List Char) : List Char :=
  text.flatMap fun char => if char = '\'' then ['\'', '\''] else [char]

/-- Inside a constant the doubled text adds itself and does not end it. -/
theorem scan_doubleQuotes (content text : List Char) (zeroless : '\x00' ∉ text) :
    scan (.quoted content) (doubleQuotes text) = some ([], .quoted (content ++ text)) := by
  induction text generalizing content with
  | nil => simp [doubleQuotes, scan]
  | cons char rest inductionHypothesis =>
    rw [List.mem_cons, not_or] at zeroless
    have tail := inductionHypothesis (content ++ [char]) zeroless.2
    rw [List.append_assoc, List.singleton_append] at tail
    by_cases quote : char = '\''
    · subst quote
      have spelled : doubleQuotes ('\'' :: rest) = '\'' :: '\'' :: doubleQuotes rest := rfl
      have doubled : (Mode.closing content).advance '\'' =
          some ([], .quoted (content ++ ['\''])) := rfl
      rw [spelled]
      have closed : (Mode.quoted content).advance '\'' = some ([], .closing content) := rfl
      exact scan_cons closed (scan_cons doubled tail)
    · have spelled : doubleQuotes (char :: rest) = char :: doubleQuotes rest := by
        simp [doubleQuotes, quote]
      have advanced : (Mode.quoted content).advance char =
          some ([], .quoted (content ++ [char])) := by
        rw [Mode.advance, if_neg quote, if_neg (Ne.symm zeroless.1)]
      rw [spelled]
      exact scan_cons advanced tail

/-- `'${text.replace(/'/g, "''")}'`. -/
def quote (text : List Char) : List Char := '\'' :: doubleQuotes text ++ ['\'']

/-- A quoted text is read as one constant with exactly this content. -/
theorem scan_quote (text : List Char) (zeroless : '\x00' ∉ text) :
    scan (.between false) (quote text) = some ([], .closing text) := by
  have opened : (Mode.between false).advance '\'' = some ([], .quoted []) := rfl
  have closed : scan (.quoted text) ['\''] = some ([], .closing text) := rfl
  exact scan_cons opened (scan_append (scan_doubleQuotes [] text zeroless) closed)

end Constants

section Words

/-- A plain name: letters, digits and underscores. -/
def Plain (name : List Char) : Prop := name ≠ [] ∧ ∀ char ∈ name, wordChar char = true

instance (name : List Char) : Decidable (Plain name) :=
  decidable_of_iff (name ≠ [] ∧ name.all wordChar = true) (by rw [Plain, List.all_eq_true])

/-- A letter is no space. -/
theorem wordChar_not_space {char : Char} (letter : wordChar char = true) : space char = false := by
  refine decide_eq_false fun listed => ?_
  simp only [List.mem_cons, List.not_mem_nil, or_false] at listed
  rcases listed with rfl | rfl | rfl | rfl <;> exact absurd letter (by decide)

/-- A word goes on with its letters. -/
theorem scan_word (text rest : List Char) (letters : ∀ char ∈ rest, wordChar char = true) :
    scan (.word text) rest = some ([], .word (text ++ rest)) := by
  induction rest generalizing text with
  | nil => simp [scan]
  | cons char rest inductionHypothesis =>
    have tail := inductionHypothesis (text ++ [char]) fun other member =>
      letters other (List.mem_cons_of_mem _ member)
    rw [List.append_assoc, List.singleton_append] at tail
    have advanced : (Mode.word text).advance char = some ([], .word (text ++ [char])) := by
      rw [Mode.advance, if_pos (letters char (.head _))]
    exact scan_cons advanced tail

/-- A plain name is one word wherever a token may start. -/
theorem scan_plain {name : List Char} (plain : Plain name) (literal : Bool) :
    scan (.between literal) name = some ([], .word name) := by
  obtain ⟨nonempty, letters⟩ := plain
  cases name with
  | nil => exact absurd rfl nonempty
  | cons char rest =>
    have letter := letters char (.head _)
    have advanced : (Mode.between literal).advance char = some ([], .word [char]) := by
      simp [Mode.advance, begin, wordChar_not_space letter, letter]
    exact scan_cons advanced (scan_word [char] rest fun other member =>
      letters other (List.mem_cons_of_mem _ member))

end Words

section Numbers

/-- `String(number)` of an integer with less than twenty-two digits. -/
def digits (number : Int) : List Char :=
  if number < 0 then '-' :: Nat.toDigits 10 number.natAbs else Nat.toDigits 10 number.natAbs

/-- The tokens of a number. -/
def numberTokens (number : Int) : List Token :=
  if number < 0 then [.operator ['-'], .word (Nat.toDigits 10 number.natAbs)]
  else [.word (Nat.toDigits 10 number.natAbs)]

/-- The digits of a number are a plain word. -/
theorem plain_toDigits (value : Nat) : Plain (Nat.toDigits 10 value) := by
  refine ⟨Nat.toDigits_ne_nil, fun char member => ?_⟩
  have digit := Nat.isDigit_of_mem_toDigits (by decide) (by decide) member
  simp [wordChar, Char.isAlphanum, digit]

/-- The digits of a number are read up to the mark behind them. -/
theorem scan_number (number : Int) (char : Char) (marks : markChar char = true)
    (apart : wordChar char = false ∧ space char = false ∧ operatorChar char = false ∧
      char ≠ '\'' ∧ char ≠ '$') :
    scan (.between false) (digits number ++ [char]) =
      some (numberTokens number ++ [.mark char], .between false) := by
  obtain ⟨letterless, spaceless, operatorless, quoteless, plainMark⟩ := apart
  have value := plain_toDigits number.natAbs
  have ended : (Mode.word (Nat.toDigits 10 number.natAbs)).advance char =
      some ([.word (Nat.toDigits 10 number.natAbs), .mark char], .between false) := by
    simp [Mode.advance, Mode.finish, Mode.flush, begin, letterless, spaceless,
      operatorless, quoteless, plainMark, marks]
  have last : scan (.word (Nat.toDigits 10 number.natAbs)) [char] =
      some ([.word (Nat.toDigits 10 number.natAbs), .mark char], .between false) :=
    scan_cons ended rfl
  by_cases negative : number < 0
  · obtain ⟨first, rest, spelled⟩ := List.exists_cons_of_ne_nil value.1
    have letters := value.2
    rw [spelled] at letters last
    have letter := letters first (.head _)
    have digit : operatorChar first = false := by
      refine decide_eq_false fun listed => ?_
      simp only [List.mem_cons, List.not_mem_nil, or_false] at listed
      rcases listed with rfl | rfl | rfl | rfl | rfl | rfl | rfl <;> exact absurd letter (by decide)
    have begun : (Mode.operator ['-']).advance first = some ([.operator ['-']], .word [first]) := by
      simp [Mode.advance, Mode.finish, Mode.flush, begin, digit, letter, wordChar_not_space letter]
    have read := scan_word [first] rest fun other member => letters other (List.mem_cons_of_mem _ member)
    have minus : (Mode.between false).advance '-' = some ([], .operator ['-']) := rfl
    have whole := scan_cons minus (scan_cons begun (scan_append read last))
    rw [digits, numberTokens, if_pos negative, if_pos negative, spelled]
    exact whole
  · have whole := scan_append (scan_plain value false) last
    rw [digits, numberTokens, if_neg negative, if_neg negative]
    exact whole

/-- `numbers.join(',')`. -/
def join (numbers : List Int) : List Char := [','].intercalate (numbers.map digits)

/-- The tokens of a list of numbers up to its closing bracket. -/
def listTokens : List Int → List Token
  | [] => [.mark ']']
  | [number] => numberTokens number ++ [.mark ']']
  | number :: other :: rest => numberTokens number ++ .mark ',' :: listTokens (other :: rest)

/-- A list of numbers is read up to its closing bracket. -/
theorem scan_join (numbers : List Int) :
    scan (.between false) (join numbers ++ [']']) = some (listTokens numbers, .between false) := by
  induction numbers with
  | nil => rfl
  | cons number rest inductionHypothesis =>
    cases rest with
    | nil =>
      have spelled : join [number] = digits number := by simp [join]
      rw [spelled]
      exact scan_number number ']' (by decide) (by decide)
    | cons other rest =>
      have spelled : join (number :: other :: rest) ++ [']'] =
          (digits number ++ [',']) ++ (join (other :: rest) ++ [']']) := by
        simp [join, List.intercalate]
      have tokens : listTokens (number :: other :: rest) =
          (numberTokens number ++ [.mark ',']) ++ listTokens (other :: rest) := by
        simp [listTokens]
      rw [spelled, tokens]
      exact scan_append (scan_number number ',' (by decide) (by decide)) inductionHypothesis

end Numbers

end PlanBuddy.SqlText
