/-!
# JSON texts

`JSON.stringify` and `JSON.parse` of the language, over texts of UTF-16 code units. A text
that was written from a value is read as that value, and a text is never read as itself: the
literal of a string is longer than the string.

How a number is written and read is left to a codec of which the grammar of numerals and the
round trip are known. Reading takes an amount of fuel that its result does not depend on.
The fields of an object are in the order in which they were first written.
-/

namespace PlanBuddy.JsonText

section Values

abbrev Text := List UInt16

def unit (char : Char) : UInt16 := UInt16.ofNat char.toNat

def text (string : String) : Text := string.toList.map unit

inductive Value (Number : Type) where
  | null
  | bool (value : Bool)
  | num (value : Number)
  | str (value : Text)
  | arr (items : List (Value Number))
  | obj (fields : List (Text × Value Number))

end Values

section Strings

def isControl (code : UInt16) : Bool := code < 0x20

def isHigh (code : UInt16) : Bool := 0xD800 ≤ code && code < 0xDC00

def isLow (code : UInt16) : Bool := 0xDC00 ≤ code && code < 0xE000

def hexUnit (digit : Nat) : UInt16 :=
  if digit < 10 then UInt16.ofNat (48 + digit) else UInt16.ofNat (87 + digit)

def hexValue (code : UInt16) : Option Nat :=
  if 48 ≤ code ∧ code ≤ 57 then some (code.toNat - 48)
  else if 97 ≤ code ∧ code ≤ 102 then some (code.toNat - 87)
  else if 65 ≤ code ∧ code ≤ 70 then some (code.toNat - 55)
  else none

/-- The four digits of `\uXXXX`. -/
def hexDigits (code : UInt16) : Text :=
  [hexUnit (code.toNat / 4096), hexUnit (code.toNat / 256 % 16), hexUnit (code.toNat / 16 % 16),
    hexUnit (code.toNat % 16)]

def escapes : List (UInt16 × UInt16) :=
  [(unit '"', unit '"'), (unit '\\', unit '\\'), (8, unit 'b'), (9, unit 't'), (10, unit 'n'),
    (12, unit 'f'), (13, unit 'r')]

/-- A unit as it stands in a string literal. -/
def escapeUnit (code : UInt16) : Text :=
  match escapes.find? fun escape => escape.1 == code with
  | some escape => [unit '\\', escape.2]
  | none =>
    if isControl code || isHigh code || isLow code then
      unit '\\' :: unit 'u' :: hexDigits code
    else [code]

/-- A pair of surrogates is written as it stands, a lone one is escaped. -/
def quoteBody : Text → Text
  | [] => []
  | [code] => escapeUnit code
  | high :: low :: rest =>
    if isHigh high && isLow low then high :: low :: quoteBody rest
    else escapeUnit high ++ quoteBody (low :: rest)

def quote (value : Text) : Text := unit '"' :: (quoteBody value ++ [unit '"'])

/-- The unit that a letter after a backslash stands for. -/
def unescape (letter : UInt16) : Option UInt16 :=
  if letter = unit '/' then some letter
  else (escapes.find? fun escape => escape.2 == letter).map Prod.fst

def hexCode (first second third fourth : UInt16) : Option UInt16 := do
  let first ← hexValue first
  let second ← hexValue second
  let third ← hexValue third
  let fourth ← hexValue fourth
  some (UInt16.ofNat (((first * 16 + second) * 16 + third) * 16 + fourth))

def prepend (code : UInt16) (read : Option (Text × Text)) : Option (Text × Text) :=
  read.map fun (value, rest) => (code :: value, rest)

/-- A string literal after its opening quote, with what follows it. -/
def readString : Text → Option (Text × Text)
  | [] => none
  | code :: rest =>
    if code = unit '"' then some ([], rest)
    else if code = unit '\\' then
      match rest with
      | [] => none
      | letter :: rest =>
        if letter = unit 'u' then
          match rest with
          | first :: second :: third :: fourth :: rest =>
            (hexCode first second third fourth).bind fun code => prepend code (readString rest)
          | _ => none
        else (unescape letter).bind fun code => prepend code (readString rest)
    else if isControl code then none
    else prepend code (readString rest)

/-- A digit that is written is read back. -/
theorem hexValue_hexUnit {digit : Nat} (small : digit < 16) :
    hexValue (hexUnit digit) = some digit := by
  revert digit
  decide

/-- Four digits are enough for a unit. -/
theorem hexCode_hexDigits (code : UInt16) :
    hexCode (hexUnit (code.toNat / 4096)) (hexUnit (code.toNat / 256 % 16))
      (hexUnit (code.toNat / 16 % 16)) (hexUnit (code.toNat % 16)) = some code := by
  have bound := code.toNat_lt
  have whole : ((code.toNat / 4096 * 16 + code.toNat / 256 % 16) * 16 + code.toNat / 16 % 16) * 16 +
      code.toNat % 16 = code.toNat := by omega
  simp only [hexCode, hexValue_hexUnit (by omega : code.toNat / 4096 < 16),
    hexValue_hexUnit (by omega : code.toNat / 256 % 16 < 16),
    hexValue_hexUnit (by omega : code.toNat / 16 % 16 < 16),
    hexValue_hexUnit (by omega : code.toNat % 16 < 16), Option.bind_eq_bind, Option.bind_some,
    whole, UInt16.ofNat_toNat]

/-- A quote ends a string. -/
theorem readString_quote (rest : Text) : readString (unit '"' :: rest) = some ([], rest) := by
  rw [readString.eq_def]
  simp

/-- A unit that needs no escape. -/
theorem readString_plain {code : UInt16} (notQuote : code ≠ unit '"') (notSlash : code ≠ unit '\\')
    (printable : isControl code = false) (rest : Text) :
    readString (code :: rest) = prepend code (readString rest) := by
  rw [readString.eq_def]
  simp [notQuote, notSlash, printable]

/-- A short escape stands for its code unit. -/
theorem readString_escaped {escape : UInt16 × UInt16} (stands : escape ∈ escapes) (rest : Text) :
    readString (unit '\\' :: escape.2 :: rest) = prepend escape.1 (readString rest) := by
  have read : (escapes.all fun escape =>
      decide (escape.2 ≠ unit 'u' ∧ unescape escape.2 = some escape.1)) = true := by decide
  have notQuote : unit '\\' ≠ unit '"' := by decide
  obtain ⟨short, unescaped⟩ := of_decide_eq_true (List.all_eq_true.mp read escape stands)
  rw [readString.eq_def]
  simp only [if_neg notQuote, if_true, if_neg short, unescaped, Option.bind_some]

/-- Four digits stand for a code unit. -/
theorem readString_hex (code : UInt16) (rest : Text) :
    readString (unit '\\' :: unit 'u' :: hexDigits code ++ rest) =
      prepend code (readString rest) := by
  have notQuote : unit '\\' ≠ unit '"' := by decide
  simp only [hexDigits, List.cons_append, List.nil_append, readString, if_neg notQuote, if_true,
    hexCode_hexDigits, Option.bind_some]

/-- Whatever way a code unit is written, it is read back. -/
theorem readString_escapeUnit (code : UInt16) (rest : Text) :
    readString (escapeUnit code ++ rest) = prepend code (readString rest) := by
  unfold escapeUnit
  split
  · next escape found =>
    obtain rfl : escape.1 = code := by simpa using List.find?_some found
    exact readString_escaped (List.mem_of_find?_eq_some found) rest
  · next missing =>
    split
    · exact readString_hex code rest
    · next plain =>
      have different := List.find?_eq_none.mp missing
      have printable : isControl code = false := by
        simp only [Bool.or_eq_true, not_or, Bool.not_eq_true] at plain
        exact plain.1.1
      refine readString_plain ?_ ?_ printable rest
      · rintro rfl
        exact different (unit '"', unit '"') (by simp [escapes]) (by simp)
      · rintro rfl
        exact different (unit '\\', unit '\\') (by simp [escapes]) (by simp)

/-- A surrogate is no control, quote or backslash. -/
theorem readString_surrogate {code : UInt16} (surrogate : isHigh code || isLow code) (rest : Text) :
    readString (code :: rest) = prepend code (readString rest) := by
  have large : 0xD800 ≤ code.toNat := by
    simp only [isHigh, isLow, Bool.or_eq_true, Bool.and_eq_true, decide_eq_true_eq,
      UInt16.le_iff_toNat_le, UInt16.lt_iff_toNat_lt] at surrogate
    rcases surrogate with ⟨high, -⟩ | ⟨low, -⟩
    · exact high
    · exact Nat.le_trans (by decide) low
  refine readString_plain ?_ ?_ ?_ rest
  · rintro rfl
    exact absurd large (by decide)
  · rintro rfl
    exact absurd large (by decide)
  · simp only [isControl, decide_eq_false_iff_not, UInt16.lt_iff_toNat_lt]
    exact fun small => absurd (Nat.lt_of_le_of_lt large small) (by decide)

/-- What is written between quotes is read back up to the closing one. -/
theorem readString_quoteBody (value rest : Text) :
    readString (quoteBody value ++ unit '"' :: rest) = some (value, rest) := by
  induction value using quoteBody.induct with
  | case1 => exact readString_quote rest
  | case2 code =>
    rw [quoteBody, readString_escapeUnit, readString_quote]
    rfl
  | case3 high low tail pair inductionHypothesis =>
    obtain ⟨isHigh, isLow⟩ := Bool.and_eq_true_iff.mp pair
    rw [quoteBody, if_pos pair, List.cons_append, List.cons_append,
      readString_surrogate (by simp [isHigh]), readString_surrogate (by simp [isLow]),
      inductionHypothesis]
    rfl
  | case4 high low tail single inductionHypothesis =>
    rw [quoteBody, if_neg single, List.append_assoc, readString_escapeUnit, inductionHypothesis]
    rfl

/-- What is read starts with the prepended code unit. -/
theorem prepend_some {code : UInt16} {read : Option (Text × Text)} {value rest : Text}
    (found : prepend code read = some (value, rest)) :
    ∃ tail, value = code :: tail ∧ read = some (tail, rest) := by
  simp only [prepend, Option.map_eq_some_iff, Prod.mk.injEq] at found
  obtain ⟨⟨tail, remaining⟩, isRead, rfl, rfl⟩ := found
  exact ⟨tail, rfl, isRead⟩

/-- A literal is longer than what it stands for. -/
theorem readString_length {literal value rest : Text}
    (found : readString literal = some (value, rest)) :
    value.length + rest.length < literal.length := by
  induction literal using readString.induct generalizing value rest with
  | case1 => cases found
  | case2 tail =>
    rw [readString_quote] at found
    cases found
    simp
  | case3 notQuote =>
    rw [readString.eq_def] at found
    simp [notQuote] at found
  | case4 first second third fourth tail notQuote inductionHypothesis =>
    rw [readString.eq_def] at found
    simp only [if_neg notQuote, if_true, Option.bind_eq_some_iff] at found
    obtain ⟨code, -, found⟩ := found
    obtain ⟨text, rfl, read⟩ := prepend_some found
    have shorter := inductionHypothesis read
    simp only [List.length_cons]
    omega
  | case5 tail notFour notQuote =>
    rw [readString.eq_def] at found
    simp only [if_neg notQuote, if_true] at found
    cases found
  | case6 letter tail long notQuote inductionHypothesis =>
    rw [readString.eq_def] at found
    simp only [if_neg notQuote, if_true, if_neg long, Option.bind_eq_some_iff] at found
    obtain ⟨code, -, found⟩ := found
    obtain ⟨text, rfl, read⟩ := prepend_some found
    have shorter := inductionHypothesis read
    simp only [List.length_cons]
    omega
  | case7 code tail notQuote notSlash control =>
    rw [readString.eq_def] at found
    simp [notQuote, notSlash, control] at found
  | case8 code tail notQuote notSlash printable inductionHypothesis =>
    rw [readString_plain notQuote notSlash (by simpa using printable)] at found
    obtain ⟨text, rfl, read⟩ := prepend_some found
    have shorter := inductionHypothesis read
    simp only [List.length_cons]
    omega

end Strings

section Numbers

def isDigit (code : UInt16) : Bool := unit '0' ≤ code && code ≤ unit '9'

def dropDigits (numeral : Text) : Text := numeral.dropWhile isDigit

def isExponent : Text → Bool
  | [] => true
  | mark :: rest =>
    let digits := match rest with
      | sign :: digits => if sign = unit '+' ∨ sign = unit '-' then digits else rest
      | [] => []
    (mark == unit 'e' || mark == unit 'E') && !digits.isEmpty && digits.all isDigit

def isFraction : Text → Bool
  | point :: digit :: rest =>
    if point = unit '.' then isDigit digit && isExponent (dropDigits rest)
    else isExponent (point :: digit :: rest)
  | rest => isExponent rest

/-- The grammar of a numeral: no leading zero, and digits on both sides of a point. -/
def isNumeral (numeral : Text) : Bool :=
  let whole := match numeral with
    | sign :: whole => if sign = unit '-' then whole else numeral
    | [] => []
  match whole with
  | digit :: rest =>
    if digit = unit '0' then isFraction rest else isDigit digit && isFraction (dropDigits rest)
  | [] => false

/-- A unit that can stand in a numeral. -/
def inNumeral (code : UInt16) : Bool :=
  isDigit code || [unit '+', unit '-', unit '.', unit 'e', unit 'E'].contains code

/-- How the language writes its numbers and reads numerals. A finite number is written as a
numeral that is read as this number. -/
structure Numerals (Number : Type) where
  write : Number → Text
  read : Text → Number
  finite : Number → Prop
  wellFormed : ∀ number, finite number → isNumeral (write number) = true
  within : ∀ number, finite number → (write number).all inNumeral = true
  read_write : ∀ number, finite number → read (write number) = number

end Numbers

section Writing

variable {Number : Type} (numerals : Numerals Number)

mutual

/-- `JSON.stringify`, without white space. -/
def stringify : Value Number → Text
  | .null => text "null"
  | .bool true => text "true"
  | .bool false => text "false"
  | .num value => numerals.write value
  | .str value => quote value
  | .arr [] => [unit '[', unit ']']
  | .arr (item :: items) => unit '[' :: (stringify item ++ stringifyItems items)
  | .obj [] => [unit '{', unit '}']
  | .obj ((key, value) :: fields) =>
    unit '{' :: (quote key ++ unit ':' :: (stringify value ++ stringifyFields fields))

/-- The items after the first one, and the closing bracket. -/
def stringifyItems : List (Value Number) → Text
  | [] => [unit ']']
  | item :: items => unit ',' :: (stringify item ++ stringifyItems items)

def stringifyFields : List (Text × Value Number) → Text
  | [] => [unit '}']
  | (key, value) :: fields =>
    unit ',' :: (quote key ++ unit ':' :: (stringify value ++ stringifyFields fields))

end

end Writing

section Reading

variable {Number : Type} (numerals : Numerals Number)

def isSpace (code : UInt16) : Bool :=
  [unit ' ', unit '\t', unit '\n', unit '\r'].contains code

def skipSpace (json : Text) : Text := json.dropWhile isSpace

def words : List (Text × Value Number) :=
  [(text "null", .null), (text "true", .bool true), (text "false", .bool false)]

/-- A word of the language, with what follows it. -/
def readWord (json : Text) : Option (Value Number × Text) :=
  (words.find? fun word => word.1.isPrefixOf json).map fun word =>
    (word.2, json.drop word.1.length)

/-- The longest piece that could be a numeral has to be one. -/
def readNumber (json : Text) : Option (Value Number × Text) :=
  let numeral := json.takeWhile inNumeral
  if isNumeral numeral then some (.num (numerals.read numeral), json.dropWhile inNumeral) else none

/-- A field of an object; a repeated key keeps its place. -/
def put (fields : List (Text × Value Number)) (field : Text × Value Number) :
    List (Text × Value Number) :=
  if fields.any fun other => other.1 == field.1 then
    fields.map fun other => if other.1 = field.1 then field else other
  else fields ++ [field]

/-- What follows an opening mark: the closing one, or a list. -/
def openBody {α : Type} (close : UInt16) (readList : Text → Option (List α × Text)) (json : Text) :
    Option (List α × Text) :=
  match skipSpace json with
  | [] => none
  | code :: rest => if code = close then some ([], rest) else readList json

/-- A value, with what follows it, given how items and fields are read. -/
def valueBody (readItems : Text → Option (List (Value Number) × Text))
    (readFields : Text → Option (List (Text × Value Number) × Text)) (json : Text) :
    Option (Value Number × Text) :=
  match skipSpace json with
  | [] => none
  | code :: rest =>
    if code = unit '"' then (readString rest).map fun (value, rest) => (.str value, rest)
    else if code = unit '[' then
      (openBody (unit ']') readItems rest).map fun (items, rest) => (.arr items, rest)
    else if code = unit '{' then
      (openBody (unit '}') readFields rest).map fun (fields, rest) => (.obj (fields.foldl put []), rest)
    else if inNumeral code then readNumber numerals (code :: rest)
    else readWord (code :: rest)

/-- What follows an item: the closing mark, or a comma and more of them. -/
def closeBody {α : Type} (close : UInt16) (readMore : Text → Option (List α × Text)) (item : α)
    (json : Text) : Option (List α × Text) :=
  match skipSpace json with
  | [] => none
  | code :: rest =>
    if code = close then some ([item], rest)
    else if code = unit ',' then (readMore rest).map fun (items, rest) => (item :: items, rest)
    else none

/-- The items up to the closing bracket. -/
def itemsBody (readValue : Text → Option (Value Number × Text))
    (readItems : Text → Option (List (Value Number) × Text)) (json : Text) :
    Option (List (Value Number) × Text) :=
  (readValue json).bind fun (item, rest) => closeBody (unit ']') readItems item rest

/-- The fields up to the closing brace. -/
def fieldsBody (readValue : Text → Option (Value Number × Text))
    (readFields : Text → Option (List (Text × Value Number) × Text)) (json : Text) :
    Option (List (Text × Value Number) × Text) :=
  match skipSpace json with
  | [] => none
  | code :: rest =>
    if code = unit '"' then
      (readString rest).bind fun (key, rest) =>
        match skipSpace rest with
        | [] => none
        | code :: rest =>
          if code = unit ':' then
            (readValue rest).bind fun (value, rest) =>
              closeBody (unit '}') readFields (key, value) rest
          else none
    else none

mutual

def readValue : Nat → Text → Option (Value Number × Text)
  | 0, _ => none
  | fuel + 1, json => valueBody numerals (readItems fuel) (readFields fuel) json

def readItems : Nat → Text → Option (List (Value Number) × Text)
  | 0, _ => none
  | fuel + 1, json => itemsBody (readValue fuel) (readItems fuel) json

def readFields : Nat → Text → Option (List (Text × Value Number) × Text)
  | 0, _ => none
  | fuel + 1, json => fieldsBody (readValue fuel) (readFields fuel) json

end

/-- `JSON.parse`. -/
def parse (json : Text) : Option (Value Number) :=
  (readValue numerals (2 * json.length + 1) json).bind fun (value, rest) =>
    if skipSpace rest = [] then some value else none

end Reading

section Fuel

variable {Number : Type} {numerals : Numerals Number}

/-- White space is only dropped. -/
theorem skipSpace_length (json : Text) : (skipSpace json).length ≤ json.length :=
  (List.dropWhile_suffix isSpace).length_le

/-- What follows the first visible code unit is shorter than the whole. -/
theorem skipSpace_shorter {json rest : Text} {code : UInt16} (skipped : skipSpace json = code :: rest) :
    rest.length < json.length := by
  have bound := skipSpace_length json
  rw [skipped, List.length_cons] at bound
  omega

/-- What one reader reads from a text below a bound, it leaves a shorter text of, and another
reader reads it too. -/
def Refines {α : Type} (bound : Nat) (one other : Text → Option (α × Text)) : Prop :=
  ∀ json value rest, json.length < bound → one json = some (value, rest) →
    rest.length < json.length ∧ other json = some (value, rest)

/-- A number takes up some of the text. -/
theorem readNumber_length {json rest : Text} {value : Value Number}
    (found : readNumber numerals json = some (value, rest)) : rest.length < json.length := by
  simp only [readNumber, Option.ite_none_right_eq_some, Option.some.injEq, Prod.mk.injEq] at found
  obtain ⟨numeral, -, rfl⟩ := found
  have parts : json.takeWhile inNumeral ++ json.dropWhile inNumeral = json :=
    List.takeWhile_append_dropWhile
  have whole := congrArg List.length parts
  have nonempty : json.takeWhile inNumeral ≠ [] := by
    intro empty
    rw [empty] at numeral
    exact absurd numeral (by decide)
  have positive := List.length_pos_iff.mpr nonempty
  rw [List.length_append] at whole
  omega

/-- No word is empty. -/
theorem words_long : ∀ word ∈ (words : List (Text × Value Number)), 0 < word.1.length := by
  simp [words, text]

/-- So each takes up some of the text. -/
theorem readWord_length {json rest : Text} {value : Value Number}
    (found : readWord json = some (value, rest)) : rest.length < json.length := by
  obtain ⟨word, isWord, same⟩ := Option.map_eq_some_iff.mp found
  cases same
  have starts : word.1 <+: json := by simpa using List.find?_some isWord
  have bound := starts.length_le
  have long := words_long word (List.mem_of_find?_eq_some isWord)
  rw [List.length_drop]
  omega

/-- What opens a list refines with what reads the list. -/
theorem openBody_refines {α : Type} {close : UInt16} {one other : Text → Option (List α × Text)}
    {json rest : Text} {items : List α} {bound : Nat} (refines : Refines bound one other)
    (below : json.length < bound) (found : openBody close one json = some (items, rest)) :
    rest.length < json.length ∧ openBody close other json = some (items, rest) := by
  unfold openBody at found ⊢
  split at found
  · cases found
  · next code after skipped =>
    split at found
    · next closes =>
      cases found
      exact ⟨skipSpace_shorter skipped, by rw [if_pos closes]⟩
    · next goesOn =>
      obtain ⟨left, readOther⟩ := refines _ _ _ below found
      exact ⟨left, by rw [if_neg goesOn, readOther]⟩

/-- What closes a list refines with what reads on. -/
theorem closeBody_refines {α : Type} {close : UInt16} {one other : Text → Option (List α × Text)}
    {item : α} {json rest : Text} {items : List α} (refines : Refines json.length one other)
    (found : closeBody close one item json = some (items, rest)) :
    rest.length < json.length ∧ closeBody close other item json = some (items, rest) := by
  unfold closeBody at found ⊢
  split at found
  · cases found
  · next code after skipped =>
    have shorter := skipSpace_shorter skipped
    split at found
    · next closes =>
      cases found
      exact ⟨shorter, by rw [if_pos closes]⟩
    · next goesOn =>
      split at found
      · next comma =>
        obtain ⟨⟨more, last⟩, read, same⟩ := Option.map_eq_some_iff.mp found
        cases same
        obtain ⟨left, readOther⟩ := refines _ _ _ shorter read
        exact ⟨by omega, by rw [if_neg goesOn, if_pos comma, readOther, Option.map_some]⟩
      · cases found

/-- The items of an array refine with their values and the items behind. -/
theorem itemsBody_refines {value otherValue : Text → Option (Value Number × Text)}
    {items otherItems : Text → Option (List (Value Number) × Text)} {json rest : Text}
    {read : List (Value Number)} (values : Refines (json.length + 1) value otherValue)
    (more : Refines json.length items otherItems)
    (found : itemsBody value items json = some (read, rest)) :
    rest.length < json.length ∧ itemsBody otherValue otherItems json = some (read, rest) := by
  obtain ⟨⟨item, after⟩, isRead, closes⟩ := Option.bind_eq_some_iff.mp found
  obtain ⟨shorter, isReadOther⟩ := values _ _ _ (Nat.lt_succ_self _) isRead
  have below : Refines after.length items otherItems :=
    fun text value rest bound => more text value rest (Nat.lt_trans bound shorter)
  obtain ⟨left, closesOther⟩ := closeBody_refines below closes
  refine ⟨Nat.lt_trans left shorter, ?_⟩
  rw [itemsBody, isReadOther, Option.bind_some]
  exact closesOther

/-- The fields of an object refine with their values and the fields behind. -/
theorem fieldsBody_refines {value otherValue : Text → Option (Value Number × Text)}
    {fields otherFields : Text → Option (List (Text × Value Number) × Text)} {json rest : Text}
    {read : List (Text × Value Number)} (values : Refines json.length value otherValue)
    (more : Refines json.length fields otherFields)
    (found : fieldsBody value fields json = some (read, rest)) :
    rest.length < json.length ∧ fieldsBody otherValue otherFields json = some (read, rest) := by
  unfold fieldsBody at found ⊢
  split at found
  · cases found
  · next code inside skipped =>
    have shorter := skipSpace_shorter skipped
    split at found
    · next opens =>
      obtain ⟨⟨key, after⟩, isKey, found⟩ := Option.bind_eq_some_iff.mp found
      have keyLength := readString_length isKey
      rw [if_pos opens, isKey, Option.bind_some]
      dsimp only at found ⊢
      split at found
      · cases found
      · next colon before skippedKey =>
        have beforeLength := skipSpace_shorter skippedKey
        split at found
        · next colon =>
          obtain ⟨⟨item, afterItem⟩, isRead, closes⟩ := Option.bind_eq_some_iff.mp found
          obtain ⟨itemLength, isReadOther⟩ := values _ _ _ (by omega) isRead
          have below : Refines afterItem.length fields otherFields :=
            fun text value rest bound => more text value rest (by omega)
          obtain ⟨left, closesOther⟩ := closeBody_refines below closes
          refine ⟨by omega, ?_⟩
          rw [if_pos colon, isReadOther, Option.bind_some]
          exact closesOther
        · cases found
    · cases found

/-- A value refines with the lists in it. -/
theorem valueBody_refines {items otherItems : Text → Option (List (Value Number) × Text)}
    {fields otherFields : Text → Option (List (Text × Value Number) × Text)} {json rest : Text}
    {read : Value Number} (moreItems : Refines json.length items otherItems)
    (moreFields : Refines json.length fields otherFields)
    (found : valueBody numerals items fields json = some (read, rest)) :
    rest.length < json.length ∧
      valueBody numerals otherItems otherFields json = some (read, rest) := by
  unfold valueBody at found ⊢
  split at found
  · cases found
  · next code inside skipped =>
    have shorter := skipSpace_shorter skipped
    have whole : (code :: inside).length ≤ json.length := shorter
    split at found
    · next quotes =>
      obtain ⟨⟨value, after⟩, isString, same⟩ := Option.map_eq_some_iff.mp found
      cases same
      have literal := readString_length isString
      exact ⟨by omega, by rw [if_pos quotes, isString, Option.map_some]⟩
    · next notQuote =>
      rw [if_neg notQuote]
      split at found
      · next opens =>
        obtain ⟨⟨list, after⟩, isRead, same⟩ := Option.map_eq_some_iff.mp found
        cases same
        obtain ⟨left, isReadOther⟩ := openBody_refines moreItems shorter isRead
        exact ⟨by omega, by rw [if_pos opens, isReadOther, Option.map_some]⟩
      · next notBracket =>
        rw [if_neg notBracket]
        split at found
        · next opens =>
          obtain ⟨⟨list, after⟩, isRead, same⟩ := Option.map_eq_some_iff.mp found
          cases same
          obtain ⟨left, isReadOther⟩ := openBody_refines moreFields shorter isRead
          exact ⟨by omega, by rw [if_pos opens, isReadOther, Option.map_some]⟩
        · next notBrace =>
          rw [if_neg notBrace]
          refine ⟨?_, found⟩
          split at found
          · exact Nat.lt_of_lt_of_le (readNumber_length found) whole
          · exact Nat.lt_of_lt_of_le (readWord_length found) whole

/-- What is read with some fuel is read with any fuel from a bound on the text's length on. -/
theorem readers_refine (fuel : Nat) :
    (∀ bound more, 2 * bound ≤ more + 1 →
      Refines bound (readValue numerals fuel) (readValue numerals more)) ∧
    (∀ bound more, 2 * bound ≤ more →
      Refines bound (readItems numerals fuel) (readItems numerals more)) ∧
    (∀ bound more, 2 * bound ≤ more →
      Refines bound (readFields numerals fuel) (readFields numerals more)) := by
  induction fuel with
  | zero =>
    refine ⟨?_, ?_, ?_⟩ <;> intro bound more _ json value rest _ found
    · rw [readValue] at found
      cases found
    · rw [readItems] at found
      cases found
    · rw [readFields] at found
      cases found
  | succ fuel inductionHypothesis =>
    obtain ⟨values, items, fields⟩ := inductionHypothesis
    refine ⟨?_, ?_, ?_⟩ <;> intro bound more large json value rest below found
    · obtain ⟨less, rfl⟩ : ∃ less, more = less + 1 := ⟨more - 1, by omega⟩
      rw [readValue] at found ⊢
      exact valueBody_refines (items _ _ (by omega)) (fields _ _ (by omega)) found
    · obtain ⟨less, rfl⟩ : ∃ less, more = less + 1 := ⟨more - 1, by omega⟩
      rw [readItems] at found ⊢
      exact itemsBody_refines (values _ _ (by omega)) (items _ _ (by omega)) found
    · obtain ⟨less, rfl⟩ : ∃ less, more = less + 1 := ⟨more - 1, by omega⟩
      rw [readFields] at found ⊢
      exact fieldsBody_refines (values _ _ (by omega)) (fields _ _ (by omega)) found

/-- `JSON.parse` reads whatever can be read with any fuel. -/
theorem parse_of_readValue {fuel : Nat} {json rest : Text} {value : Value Number}
    (read : readValue numerals fuel json = some (value, rest)) (ends : skipSpace rest = []) :
    parse numerals json = some value := by
  obtain ⟨-, enough⟩ := (readers_refine fuel).1 (json.length + 1) (2 * json.length + 1) (by omega)
    json value rest (Nat.lt_succ_self _) read
  rw [parse, enough, Option.bind_some]
  exact if_pos ends

/-- No text is read as itself: what is read as a string is a literal of it. -/
theorem parse_str_length {json value : Text} (found : parse numerals json = some (.str value)) :
    value.length < json.length := by
  obtain ⟨⟨read, rest⟩, isRead, ends⟩ := Option.bind_eq_some_iff.mp found
  obtain ⟨-, same⟩ := Option.ite_none_right_eq_some.mp ends
  cases same
  rw [readValue, valueBody] at isRead
  split at isRead
  · cases isRead
  · next code inside skipped =>
    have shorter := skipSpace_shorter skipped
    split at isRead
    · obtain ⟨⟨string, after⟩, isString, same⟩ := Option.map_eq_some_iff.mp isRead
      cases same
      have literal := readString_length isString
      omega
    · split at isRead
      · obtain ⟨_, -, same⟩ := Option.map_eq_some_iff.mp isRead
        cases same
      · split at isRead
        · obtain ⟨_, -, same⟩ := Option.map_eq_some_iff.mp isRead
          cases same
        · split at isRead
          · obtain ⟨-, same⟩ := Option.ite_none_right_eq_some.mp isRead
            cases same
          · obtain ⟨word, isWord, same⟩ := Option.map_eq_some_iff.mp isRead
            have member := List.mem_of_find?_eq_some isWord
            simp only [words, List.mem_cons, List.not_mem_nil, or_false] at member
            rcases member with rfl | rfl | rfl <;> cases same

end Fuel

section RoundTrip

variable {Number : Type} (numerals : Numerals Number)

mutual

/-- A value of JSON: its numbers are finite, and no object has a key twice. -/
def Printable : Value Number → Prop
  | .num number => numerals.finite number
  | .arr items => PrintableItems items
  | .obj fields => (fields.map Prod.fst).Nodup ∧ PrintableFields fields
  | _ => True

def PrintableItems : List (Value Number) → Prop
  | [] => True
  | item :: items => Printable item ∧ PrintableItems items

def PrintableFields : List (Text × Value Number) → Prop
  | [] => True
  | (_, value) :: fields => Printable value ∧ PrintableFields fields

end

variable {numerals}

/-- What follows a value does not prolong a numeral. -/
def Follows (rest : Text) : Prop := rest.takeWhile inNumeral = []

/-- No numeral goes on with such a code unit. -/
theorem follows_cons {code : UInt16} {rest : Text} (ends : inNumeral code = false) :
    Follows (code :: rest) := by simp [Follows, ends]

/-- None goes on with what is behind an item. -/
theorem follows_items (items : List (Value Number)) (rest : Text) :
    Follows (stringifyItems numerals items ++ rest) := by
  cases items with
  | nil => exact follows_cons (by decide)
  | cons item items => exact follows_cons (by decide)

/-- None goes on with what is behind a field. -/
theorem follows_fields (fields : List (Text × Value Number)) (rest : Text) :
    Follows (stringifyFields numerals fields ++ rest) := by
  cases fields with
  | nil => exact follows_cons (by decide)
  | cons field fields => exact follows_cons (by decide)

/-- Visible text is not skipped. -/
theorem skipSpace_cons {code : UInt16} (rest : Text) (visible : isSpace code = false) :
    skipSpace (code :: rest) = code :: rest := by simp [skipSpace, visible]

/-- A text that begins a value: it is not skipped and closes no list. -/
def Begins (json : Text) : Prop :=
  ∃ code rest, json = code :: rest ∧ isSpace code = false ∧ code ≠ unit ']'

/-- A numeral begins with a code unit of numerals. -/
theorem begins_numeral {number : Number} (finite : numerals.finite number) :
    ∃ code rest, numerals.write number = code :: rest ∧ inNumeral code = true := by
  have numeral := numerals.wellFormed number finite
  have within := numerals.within number finite
  cases written : numerals.write number with
  | nil =>
    rw [written] at numeral
    exact absurd numeral (by decide)
  | cons code rest =>
    rw [written, List.all_cons, Bool.and_eq_true] at within
    exact ⟨code, rest, rfl, within.1⟩

/-- A unit of a numeral is none of the marks. -/
theorem inNumeral_marks {code : UInt16} (numeral : inNumeral code = true) :
    isSpace code = false ∧ code ≠ unit '"' ∧ code ≠ unit '[' ∧ code ≠ unit '{' ∧
      code ≠ unit ']' := by
  have outside : ([unit ' ', unit '\t', unit '\n', unit '\r', unit '"', unit '[', unit '{',
      unit ']'].all fun mark => !inNumeral mark) = true := by decide
  have marks : ∀ mark ∈ [unit ' ', unit '\t', unit '\n', unit '\r', unit '"', unit '[', unit '{',
      unit ']'], code ≠ mark := by
    rintro mark member rfl
    have outsider := List.all_eq_true.mp outside code member
    rw [numeral] at outsider
    cases outsider
  refine ⟨?_, marks _ (by simp), marks _ (by simp), marks _ (by simp), marks _ (by simp)⟩
  have space := marks (unit ' ') (by simp)
  have tab := marks (unit '\t') (by simp)
  have newline := marks (unit '\n') (by simp)
  have back := marks (unit '\r') (by simp)
  simp [isSpace, space, tab, newline, back]

/-- What is written of a value begins with a visible code unit that closes nothing. -/
theorem begins_stringify {value : Value Number} (printable : Printable numerals value) (rest : Text) :
    Begins (stringify numerals value ++ rest) := by
  cases value with
  | null => exact ⟨_, _, rfl, by decide, by decide⟩
  | bool value => cases value <;> exact ⟨_, _, rfl, by decide, by decide⟩
  | num number =>
    obtain ⟨code, tail, written, numeral⟩ := begins_numeral printable
    obtain ⟨visible, -, -, -, notClose⟩ := inNumeral_marks numeral
    exact ⟨code, tail ++ rest, by rw [stringify, written]; rfl, visible, notClose⟩
  | str value => exact ⟨_, _, rfl, by decide, by decide⟩
  | arr items =>
    cases items with
    | nil => exact ⟨_, _, rfl, by decide, by decide⟩
    | cons item items => exact ⟨_, _, rfl, by decide, by decide⟩
  | obj fields =>
    cases fields with
    | nil => exact ⟨_, _, rfl, by decide, by decide⟩
    | cons field fields => exact ⟨_, _, rfl, by decide, by decide⟩

/-- Fields of distinct keys stay as they are read. -/
theorem foldl_put (earlier fields : List (Text × Value Number))
    (distinct : ((earlier ++ fields).map Prod.fst).Nodup) :
    fields.foldl put earlier = earlier ++ fields := by
  induction fields generalizing earlier with
  | nil => simp
  | cons field fields inductionHypothesis =>
    have fresh : (earlier.any fun other => other.1 == field.1) = false := by
      rw [List.any_eq_false]
      intro other member same
      rw [List.map_append, List.nodup_append] at distinct
      exact distinct.2.2 _ (List.mem_map_of_mem member) _
        (List.mem_map_of_mem List.mem_cons_self) (by simpa using same)
    have appended : earlier ++ field :: fields = (earlier ++ [field]) ++ fields := by simp
    rw [List.foldl_cons, put, fresh, appended]
    exact inductionHypothesis _ (appended ▸ distinct)

section Bodies

variable {readItems : Text → Option (List (Value Number) × Text)}
  {readFields : Text → Option (List (Text × Value Number) × Text)}

/-- A string is read back. -/
theorem valueBody_str (value rest : Text) :
    valueBody numerals readItems readFields (quote value ++ rest) = some (.str value, rest) := by
  have visible : isSpace (unit '"') = false := by decide
  have read := readString_quoteBody value rest
  rw [quote, List.cons_append, List.append_assoc, List.singleton_append, valueBody,
    skipSpace_cons _ visible]
  simp only [if_true, read, Option.map_some]

/-- So is a number. -/
theorem valueBody_num {number : Number} (finite : numerals.finite number) {rest : Text}
    (follows : Follows rest) :
    valueBody numerals readItems readFields (numerals.write number ++ rest) =
      some (.num number, rest) := by
  obtain ⟨code, tail, written, numeral⟩ := begins_numeral finite
  obtain ⟨visible, notQuote, notBracket, notBrace, -⟩ := inNumeral_marks numeral
  have within := List.all_eq_true.mp (numerals.within number finite)
  have remains : rest.dropWhile inNumeral = rest := by
    have whole : rest.takeWhile inNumeral ++ rest.dropWhile inNumeral = rest :=
      List.takeWhile_append_dropWhile
    rwa [follows, List.nil_append] at whole
  have read : readNumber numerals (numerals.write number ++ rest) = some (.num number, rest) := by
    rw [readNumber, List.takeWhile_append_of_pos within, List.dropWhile_append_of_pos within, follows,
      List.append_nil, remains]
    simp only [numerals.wellFormed number finite, if_true, numerals.read_write number finite]
  rw [written, List.cons_append] at read ⊢
  rw [valueBody, skipSpace_cons _ visible]
  simp only [if_neg notQuote, if_neg notBracket, if_neg notBrace, numeral, if_true, read]

/-- So is a word. -/
theorem valueBody_word {word : Text × Value Number} (member : word ∈ words) (rest : Text) :
    valueBody numerals readItems readFields (word.1 ++ rest) = some (word.2, rest) := by
  simp only [words, List.mem_cons, List.not_mem_nil, or_false] at member
  rcases member with rfl | rfl | rfl
  · simp [valueBody, skipSpace, isSpace, inNumeral, isDigit, readWord, words, text, unit]
  · simp [valueBody, skipSpace, isSpace, inNumeral, isDigit, readWord, words, text, unit]
  · simp [valueBody, skipSpace, isSpace, inNumeral, isDigit, readWord, words, text, unit]

/-- The last item of a list. -/
theorem closeBody_last {α : Type} {close : UInt16} (visible : isSpace close = false)
    (readMore : Text → Option (List α × Text)) (item : α) (rest : Text) :
    closeBody close readMore item (close :: rest) = some ([item], rest) := by
  rw [closeBody, skipSpace_cons _ visible]
  exact if_pos rfl

/-- An item with more behind it. -/
theorem closeBody_more {α : Type} {close : UInt16} (notComma : unit ',' ≠ close)
    {readMore : Text → Option (List α × Text)} {item : α} {items : List α} {json rest : Text}
    (read : readMore json = some (items, rest)) :
    closeBody close readMore item (unit ',' :: json) = some (item :: items, rest) := by
  have visible : isSpace (unit ',') = false := by decide
  rw [closeBody, skipSpace_cons _ visible]
  simp only [if_neg notComma, if_true, read, Option.map_some]

/-- A list without items. -/
theorem openBody_none {α : Type} {close : UInt16} (visible : isSpace close = false)
    (readList : Text → Option (List α × Text)) (rest : Text) :
    openBody close readList (close :: rest) = some ([], rest) := by
  rw [openBody, skipSpace_cons _ visible]
  exact if_pos rfl

/-- A list with items. -/
theorem openBody_some {α : Type} {close code : UInt16} (visible : isSpace code = false)
    (notClose : code ≠ close) {readList : Text → Option (List α × Text)} {rest : Text} :
    openBody close readList (code :: rest) = readList (code :: rest) := by
  rw [openBody, skipSpace_cons _ visible]
  exact if_neg notClose

/-- An array is its items. -/
theorem valueBody_arr {json rest : Text} {items : List (Value Number)}
    (read : openBody (unit ']') readItems json = some (items, rest)) :
    valueBody numerals readItems readFields (unit '[' :: json) = some (.arr items, rest) := by
  have visible : isSpace (unit '[') = false := by decide
  have notQuote : unit '[' ≠ unit '"' := by decide
  rw [valueBody, skipSpace_cons _ visible]
  simp only [if_neg notQuote, if_true, read, Option.map_some]

/-- An object is its fields. -/
theorem valueBody_obj {json rest : Text} {fields : List (Text × Value Number)}
    (distinct : (fields.map Prod.fst).Nodup)
    (read : openBody (unit '}') readFields json = some (fields, rest)) :
    valueBody numerals readItems readFields (unit '{' :: json) = some (.obj fields, rest) := by
  have visible : isSpace (unit '{') = false := by decide
  have notQuote : unit '{' ≠ unit '"' := by decide
  have notBracket : unit '{' ≠ unit '[' := by decide
  have kept : fields.foldl put [] = fields := foldl_put [] fields distinct
  rw [valueBody, skipSpace_cons _ visible]
  simp only [if_neg notQuote, if_neg notBracket, if_true, read, Option.map_some, kept]

/-- A field is its key and its value. -/
theorem fieldsBody_field {readValue : Text → Option (Value Number × Text)} {key json after rest : Text}
    {value : Value Number} {fields : List (Text × Value Number)}
    (read : readValue json = some (value, after))
    (closes : closeBody (unit '}') readFields (key, value) after = some (fields, rest)) :
    fieldsBody readValue readFields (quote key ++ unit ':' :: json) = some (fields, rest) := by
  have visible : isSpace (unit '"') = false := by decide
  have colon : isSpace (unit ':') = false := by decide
  have readKey := readString_quoteBody key (unit ':' :: json)
  rw [quote, List.cons_append, List.append_assoc, List.singleton_append, fieldsBody,
    skipSpace_cons _ visible]
  simp only [if_true, readKey, Option.bind_some, skipSpace_cons _ colon, read, closes]

end Bodies

variable (numerals)

/-- A value is read back, with what follows it, as far as the fuel goes. -/
def ReadsValue (fuel : Nat) : Prop :=
  ∀ value : Value Number, Printable numerals value → sizeOf value ≤ fuel → ∀ rest, Follows rest →
    readValue numerals fuel (stringify numerals value ++ rest) = some (value, rest)

def ReadsItems (fuel : Nat) : Prop :=
  ∀ (item : Value Number) (items : List (Value Number)), Printable numerals item →
    PrintableItems numerals items → sizeOf (item :: items) ≤ fuel → ∀ rest,
      readItems numerals fuel (stringify numerals item ++ (stringifyItems numerals items ++ rest)) =
        some (item :: items, rest)

def ReadsFields (fuel : Nat) : Prop :=
  ∀ (key : Text) (value : Value Number) (fields : List (Text × Value Number)),
    Printable numerals value → PrintableFields numerals fields →
      sizeOf ((key, value) :: fields) ≤ fuel → ∀ rest,
        readFields numerals fuel (quote key ++ unit ':' :: (stringify numerals value ++
          (stringifyFields numerals fields ++ rest))) = some ((key, value) :: fields, rest)

variable {numerals} {fuel : Nat}

/-- With one more unit of fuel the items are read back, if values and items are with less. -/
theorem readsItems_succ (values : ReadsValue numerals fuel) (more : ReadsItems numerals fuel) :
    ReadsItems numerals (fuel + 1) := by
  intro item items printable printables small rest
  simp only [List.cons.sizeOf_spec] at small
  have read := values item printable (by omega) (stringifyItems numerals items ++ rest)
    (follows_items items rest)
  rw [readItems, itemsBody, read, Option.bind_some]
  cases items with
  | nil => exact closeBody_last (by decide) _ item rest
  | cons next items =>
    have readMore := more next items printables.1 printables.2 (by omega) rest
    rw [← List.append_assoc] at readMore
    exact closeBody_more (by decide) readMore

/-- The same of fields. -/
theorem readsFields_succ (values : ReadsValue numerals fuel) (more : ReadsFields numerals fuel) :
    ReadsFields numerals (fuel + 1) := by
  intro key value fields printable printables small rest
  simp only [List.cons.sizeOf_spec, Prod.mk.sizeOf_spec] at small
  have read := values value printable (by omega) (stringifyFields numerals fields ++ rest)
    (follows_fields fields rest)
  rw [readFields]
  refine fieldsBody_field read ?_
  cases fields with
  | nil => exact closeBody_last (by decide) _ _ rest
  | cons field fields =>
    obtain ⟨next, item⟩ := field
    have readMore := more next item fields printables.1 printables.2 (by omega) rest
    have same : stringifyFields numerals ((next, item) :: fields) ++ rest =
        unit ',' :: (quote next ++ unit ':' :: (stringify numerals item ++
          (stringifyFields numerals fields ++ rest))) := by
      simp [stringifyFields]
    rw [same]
    exact closeBody_more (by decide) readMore

/-- The same of values. -/
theorem readsValue_succ (items : ReadsItems numerals fuel) (fields : ReadsFields numerals fuel) :
    ReadsValue numerals (fuel + 1) := by
  intro value printable small rest follows
  rw [readValue]
  cases value with
  | null =>
    have word : (text "null", Value.null) ∈ (words : List (Text × Value Number)) := by simp [words]
    exact valueBody_word word rest
  | bool value =>
    cases value with
    | true =>
      have word : (text "true", Value.bool true) ∈ (words : List (Text × Value Number)) := by
        simp [words]
      exact valueBody_word word rest
    | false =>
      have word : (text "false", Value.bool false) ∈ (words : List (Text × Value Number)) := by
        simp [words]
      exact valueBody_word word rest
  | num number => exact valueBody_num printable follows
  | str value => exact valueBody_str value rest
  | arr list =>
    cases list with
    | nil => exact valueBody_arr (openBody_none (by decide) _ rest)
    | cons item list =>
      obtain ⟨first, others⟩ := printable
      simp only [Value.arr.sizeOf_spec] at small
      have read := items item list first others (by omega) rest
      have same : stringify numerals (.arr (item :: list)) ++ rest = unit '[' ::
          (stringify numerals item ++ (stringifyItems numerals list ++ rest)) := by
        simp [stringify]
      obtain ⟨code, tail, begins, visible, notClose⟩ := begins_stringify first
        (stringifyItems numerals list ++ rest)
      rw [same]
      refine valueBody_arr ?_
      rw [begins, openBody_some visible notClose, ← begins]
      exact read
  | obj list =>
    cases list with
    | nil => exact valueBody_obj List.nodup_nil (openBody_none (by decide) _ rest)
    | cons field list =>
      obtain ⟨key, value⟩ := field
      obtain ⟨distinct, first, others⟩ := printable
      simp only [Value.obj.sizeOf_spec] at small
      have read := fields key value list first others (by omega) rest
      have same : stringify numerals (.obj ((key, value) :: list)) ++ rest = unit '{' ::
          (quote key ++ unit ':' :: (stringify numerals value ++
            (stringifyFields numerals list ++ rest))) := by
        simp [stringify]
      rw [same]
      refine valueBody_obj distinct ?_
      rw [quote, List.cons_append, openBody_some (by decide) (by decide)]
      exact read

/-- What is written is read back, with what follows it. -/
theorem reads_all (fuel : Nat) :
    ReadsValue numerals fuel ∧ ReadsItems numerals fuel ∧ ReadsFields numerals fuel := by
  induction fuel with
  | zero =>
    refine ⟨?_, ?_, ?_⟩
    · intro value _ small
      cases value <;> simp at small
    · intro item items _ _ small
      simp at small
    · intro key value fields _ _ small
      simp at small
  | succ fuel inductionHypothesis =>
    obtain ⟨values, items, fields⟩ := inductionHypothesis
    exact ⟨readsValue_succ items fields, readsItems_succ values items,
      readsFields_succ values fields⟩

/-- `JSON.parse` inverts `JSON.stringify`. -/
theorem parse_stringify {value : Value Number} (printable : Printable numerals value) :
    parse numerals (stringify numerals value) = some value := by
  have read := (reads_all (sizeOf value)).1 value printable (Nat.le_refl _) [] rfl
  rw [List.append_nil] at read
  exact parse_of_readValue read rfl

end RoundTrip

end PlanBuddy.JsonText
