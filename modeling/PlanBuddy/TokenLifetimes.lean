import PlanBuddy.Doubles
import Mathlib.Algebra.Order.Floor.Ring
import Mathlib.Data.List.DropRight
import Mathlib.Data.List.TakeDrop

/-!
# Token lifetimes

`utils/jwt.js` gives the same configured value to the library that signs a token and to its
own `parseDurationToSeconds`, which says how long a mark is kept in Redis. The library takes
whole seconds, or a phrase: a decimal number, spaces and a unit in any of its spellings, at
most a hundred characters. It is a parameter here; for a value that it accepts it adds the
span of the value to the time of issue and drops the fraction.

Both sides reckon in doubles and round each result: a span a little below a whole second is
carried up to it when the time of issue is added. A phrase has none but ASCII letters, of which
`toLowerCase` is the same here.
-/

namespace PlanBuddy.TokenLifetimes

open ParseInt (blank valueOf)
open Values

section Source

/-- A value of the configuration. -/
inductive Expiry where
  | number (value : ℚ)
  | text (value : List Char)

structure Env where
  jwtExpiry : Option Expiry
  jwtExpiresIn : Option Expiry

def Expiry.truthy : Expiry → Bool
  | .number value => decide (value ≠ 0)
  | .text value => !value.isEmpty

def getJwtExpiration (env : Env) : Expiry :=
  match env.jwtExpiry.filter Expiry.truthy, env.jwtExpiresIn.filter Expiry.truthy with
  | some value, _ => value
  | none, some value => value
  | none, none => .text "1h".toList

def trim (text : List Char) : List Char := (text.dropWhile blank).rdropWhile blank

inductive TimeUnit where
  | millisecond
  | second
  | minute
  | hour
  | day
  | week
  | year
deriving DecidableEq

/-- The units of the regular expression. -/
def matchedUnits : List (List Char × TimeUnit) :=
  [("ms".toList, .millisecond), ("s".toList, .second), ("m".toList, .minute),
    ("h".toList, .hour), ("d".toList, .day)]

/-- `/^(\d+)(ms|s|m|h|d)?$/`, with `s` for a missing unit. -/
def matchDuration (normalized : List Char) : Option (List Char × TimeUnit) :=
  match normalized.span Char.isDigit with
  | ([], _) => none
  | (digits, []) => some (digits, .second)
  | (digits, unit) => (matchedUnits.lookup unit).map fun unit => (digits, unit)

/-- The value of a row of digits. -/
def decimal (digits : List Char) : Nat := valueOf 10 (digits.map fun char => char.toNat - 48)

/-- `Number` of a row of digits. -/
def number (digits : List Char) : Number := .nearest (decimal digits)

def inSeconds (amount : Number) : TimeUnit → Number
  | .millisecond => Number.max (.finite 1) (amount.dividedBy 1000).ceil
  | .second => amount
  | .minute => amount.times (.finite 60)
  | .hour => (amount.times (.finite 60)).times (.finite 60)
  | .day => ((amount.times (.finite 24)).times (.finite 60)).times (.finite 60)
  | _ => amount

def parseDurationToSeconds : Expiry → Number
  | .number value => Number.max (.finite 1) (Number.finite value).floor
  | .text value =>
    match matchDuration ((trim value).map Char.toLower) with
    | none => .finite 3600
    | some (digits, unit) => inSeconds (number digits) unit

/-- The lifetime of a key, where `expiresAt` and the clock are in milliseconds. -/
def ttlSeconds (env : Env) (expiresAt : Option Int) (now : Int) : Number :=
  match expiresAt with
  | some expiresAt =>
    Number.max (.finite 1) (((Number.finite expiresAt).minus (.finite now)).dividedBy 1000).ceil
  | none => parseDurationToSeconds (getJwtExpiration env)

/-- `exp` of the token that `generateToken` issues, given what the library makes of it. -/
def generateToken (sign : Expiry → Int → Option Int) (env : Env) (iat : Int) : Option Int :=
  sign (getJwtExpiration env) iat

end Source

section Phrases

/-- The spellings that the library knows. -/
def spellings : List (List Char × TimeUnit) :=
  [("milliseconds".toList, .millisecond), ("millisecond".toList, .millisecond),
    ("msecs".toList, .millisecond), ("msec".toList, .millisecond), ("ms".toList, .millisecond),
    ("seconds".toList, .second), ("second".toList, .second), ("secs".toList, .second),
    ("sec".toList, .second), ("s".toList, .second), ("minutes".toList, .minute),
    ("minute".toList, .minute), ("mins".toList, .minute), ("min".toList, .minute),
    ("m".toList, .minute), ("hours".toList, .hour), ("hour".toList, .hour), ("hrs".toList, .hour),
    ("hr".toList, .hour), ("h".toList, .hour), ("days".toList, .day), ("day".toList, .day),
    ("d".toList, .day), ("weeks".toList, .week), ("week".toList, .week), ("w".toList, .week),
    ("years".toList, .year), ("year".toList, .year), ("yrs".toList, .year), ("yr".toList, .year),
    ("y".toList, .year)]

def TimeUnit.milliseconds : TimeUnit → ℚ
  | .millisecond => 1
  | .second => 1000
  | .minute => 60000
  | .hour => 3600000
  | .day => 86400000
  | .week => 604800000
  | .year => 31557600000

/-- A unit as it is written, in letters of either case. -/
structure Spelling where
  letters : List Char
  unit : TimeUnit
  known : (letters.map Char.toLower, unit) ∈ spellings

/-- The parts of a phrase. -/
structure Parts where
  negative : Bool
  whole : List Char
  fraction : Option (List Char)
  spaces : Nat
  spelling : Option Spelling

def Parts.sign (parts : Parts) : List Char := if parts.negative then ['-'] else []

def Parts.decimals (parts : Parts) : List Char := parts.fraction.elim [] ('.' :: ·)

def Parts.text (parts : Parts) : List Char :=
  parts.sign ++ parts.whole ++ parts.decimals ++ List.replicate parts.spaces ' ' ++
    parts.spelling.elim [] Spelling.letters

/-- The decimal number of a phrase. -/
def Parts.amount (parts : Parts) : ℚ :=
  (if parts.negative then -1 else 1) *
    (decimal parts.whole + parts.fraction.elim 0 fun digits => decimal digits / 10 ^ digits.length)

/-- Without a unit the number is one of milliseconds. -/
def Parts.unit (parts : Parts) : TimeUnit := parts.spelling.elim .millisecond Spelling.unit

/-- What a phrase says, in seconds. -/
def Parts.meant (parts : Parts) : ℚ := parts.amount * parts.unit.milliseconds / 1000

/-- What the library makes of a phrase: the number and its product with the unit are rounded. -/
def Parts.milliseconds (parts : Parts) : ℚ :=
  double (double parts.amount * parts.unit.milliseconds)

/-- The same in seconds, rounded once more. -/
def Parts.seconds (parts : Parts) : ℚ := double (parts.milliseconds / 1000)

structure Phrase extends Parts where
  digits : ∀ char ∈ whole ++ fraction.getD [], char.isDigit = true
  nonempty : fraction.getD whole ≠ []
  short : toParts.text.length ≤ 100

/-- What the library accepts: a double that is an integer, or a phrase. -/
inductive Accepted where
  | seconds (count : Int) (held : double count = count)
  | words (phrase : Phrase)

def Accepted.value : Accepted → Expiry
  | .seconds count _ => .number count
  | .words phrase => .text phrase.text

/-- The span that is added to the time of issue, in seconds. -/
def Accepted.span : Accepted → ℚ
  | .seconds count _ => count
  | .words phrase => phrase.seconds

end Phrases

section Reading

/-- A character that neither `trim` nor `toLowerCase` changes. -/
def Solid (char : Char) : Prop := blank char = false ∧ char.toLower = char

/-- Only capital letters have another one as their small letter. -/
theorem lower_same {char : Char} (other : char.toNat < 65 ∨ 90 < char.toNat) :
    char.toLower = char := by
  refine dif_neg ?_
  rintro ⟨first, last⟩
  have above : 65 ≤ char.toNat := UInt32.le_iff_toNat_le.mp first
  have below : char.toNat ≤ 90 := UInt32.le_iff_toNat_le.mp last
  omega

/-- A digit is no space and no letter. -/
theorem digit_solid {char : Char} (digit : char.isDigit = true) : Solid char := by
  have bounds : 48 ≤ char.toNat ∧ char.toNat ≤ 57 := by
    simpa [Char.isDigit, UInt32.le_iff_toNat_le] using digit
  refine ⟨?_, lower_same (by omega)⟩
  simp only [blank, decide_eq_false_iff_not, List.mem_cons, List.not_mem_nil, or_false]
  omega

/-- A letter is a capital or a small one. -/
theorem alpha_letter {char : Char} (alpha : char.isAlpha = true) :
    65 ≤ char.toNat ∧ char.toNat ≤ 90 ∨ 97 ≤ char.toNat ∧ char.toNat ≤ 122 := by
  change (decide (65 ≤ char.toNat ∧ char.toNat ≤ 90) ||
    (decide (97 ≤ char.toNat) && decide (char.toNat ≤ 122))) = true at alpha
  simpa using alpha

/-- A letter of a unit, in either case, is not blank. -/
theorem letter_not_blank {char : Char} (alpha : char.toLower.isAlpha = true) :
    blank char = false := by
  by_contra isBlank
  have code : blank char = true := by simpa using isBlank
  simp only [blank, decide_eq_true_eq, List.mem_cons, List.not_mem_nil, or_false] at code
  rw [lower_same (by omega)] at alpha
  have letter := alpha_letter alpha
  omega

/-- It is no digit. -/
theorem alpha_not_digit {char : Char} (alpha : char.isAlpha = true) : char.isDigit = false := by
  have letter := alpha_letter alpha
  by_contra digit
  have bounds : 48 ≤ char.toNat ∧ char.toNat ≤ 57 := by
    simpa [Char.isDigit, UInt32.le_iff_toNat_le] using digit
  omega

/-- Units are spelled in letters. -/
theorem spellings_alpha : ∀ pair ∈ spellings, pair.1 ≠ [] ∧ ∀ char ∈ pair.1, char.isAlpha = true := by
  have all : spellings.all (fun pair => !pair.1.isEmpty && pair.1.all Char.isAlpha) = true := rfl
  simpa using all

/-- Blanks behind a text are all that is trimmed from it. -/
theorem trim_ends {text : List Char} (first : ∀ char ∈ text.head?, blank char = false)
    (last : ∀ char ∈ text.getLast?, blank char = false) (nonempty : text ≠ []) (count : Nat) :
    trim (text ++ List.replicate count ' ') = text := by
  have kept : (text ++ List.replicate count ' ').dropWhile blank =
      text ++ List.replicate count ' ' := by
    cases text with
    | nil => exact absurd rfl nonempty
    | cons head rest => simp [first head rfl]
  rw [trim, kept]
  clear kept
  induction count with
  | zero =>
    rw [List.replicate_zero, List.append_nil, List.rdropWhile_eq_self_iff]
    intro some
    simp [last _ (List.getLast?_eq_some_getLast some)]
  | succ count inductionHypothesis =>
    rw [List.replicate_succ', ← List.append_assoc, List.rdropWhile_concat_pos blank _ ' ' rfl]
    exact inductionHypothesis

/-- What follows the first digits once the text is normalized. -/
def Parts.rest (parts : Parts) : List Char :=
  parts.decimals ++ parts.spelling.elim [] fun spelling =>
    List.replicate parts.spaces ' ' ++ spelling.letters.map Char.toLower

/-- A sign is no space and no letter. -/
theorem sign_solid (phrase : Phrase) : ∀ char ∈ phrase.sign, Solid char := by
  intro char member
  have minus : Solid '-' := ⟨rfl, rfl⟩
  unfold Parts.sign at member
  split at member
  · exact List.mem_singleton.mp member ▸ minus
  · cases member

/-- Nor is anything of a fraction. -/
theorem decimals_solid (phrase : Phrase) : ∀ char ∈ phrase.decimals, Solid char := by
  intro char member
  have point : Solid '.' := ⟨rfl, rfl⟩
  have digits := phrase.digits
  unfold Parts.decimals at member
  cases fraction : phrase.fraction with
  | none => simp [fraction] at member
  | some decimals =>
    rw [fraction] at member digits
    rcases List.mem_cons.mp member with rfl | later
    · exact point
    · exact digit_solid (digits char (List.mem_append_right _ later))

/-- Nor a digit of the amount. -/
theorem whole_solid (phrase : Phrase) : ∀ char ∈ phrase.whole, Solid char :=
  fun char member => digit_solid (phrase.digits char (List.mem_append_left _ member))

/-- The number of a phrase. -/
theorem number_solid (phrase : Phrase) :
    (∀ char ∈ phrase.sign ++ phrase.whole ++ phrase.decimals, Solid char) ∧
      phrase.sign ++ phrase.whole ++ phrase.decimals ≠ [] := by
  constructor
  · intro char member
    simp only [List.mem_append] at member
    obtain (sign | whole) | decimals := member
    · exact sign_solid phrase char sign
    · exact whole_solid phrase char whole
    · exact decimals_solid phrase char decimals
  · intro empty
    have nonempty := phrase.nonempty
    simp only [List.append_eq_nil_iff, Parts.decimals] at empty
    cases fraction : phrase.fraction with
    | none => simp_all
    | some decimals => simp [fraction] at empty

/-- The letters of a unit are letters in small, too. -/
theorem letters_alpha (spelling : Spelling) : spelling.letters ≠ [] ∧
    ∀ char ∈ spelling.letters, char.toLower.isAlpha = true := by
  obtain ⟨nonempty, alpha⟩ := spellings_alpha _ spelling.known
  refine ⟨?_, fun char member => alpha _ (List.mem_map_of_mem member)⟩
  rintro empty
  exact nonempty (by simp [empty])

/-- Text without letters stays as it is. -/
theorem map_solid {text : List Char} (solid : ∀ char ∈ text, Solid char) :
    text.map Char.toLower = text :=
  (List.map_congr_left fun char member => (solid char member).2).trans (List.map_id' text)

/-- What the code matches: the phrase without spaces around it, in small letters. -/
theorem normalized (phrase : Phrase) :
    (trim phrase.text).map Char.toLower = phrase.sign ++ phrase.whole ++ phrase.rest := by
  obtain ⟨solid, nonempty⟩ := number_solid phrase
  have first : ∀ char ∈ (phrase.sign ++ phrase.whole ++ phrase.decimals).head?,
      blank char = false := fun char member => (solid char (List.mem_of_mem_head? member)).1
  have last : ∀ char ∈ (phrase.sign ++ phrase.whole ++ phrase.decimals).getLast?,
      blank char = false := fun char member => (solid char (List.mem_of_getLast? member)).1
  cases spelled : phrase.spelling with
  | none =>
    have text : phrase.text = phrase.sign ++ phrase.whole ++ phrase.decimals ++
        List.replicate phrase.spaces ' ' := by simp [Parts.text, spelled]
    rw [text, trim_ends first last nonempty, map_solid solid]
    simp [Parts.rest, spelled]
  | some spelling =>
    obtain ⟨someLetter, alpha⟩ := letters_alpha spelling
    have text : phrase.text = phrase.sign ++ phrase.whole ++ phrase.decimals ++
        (List.replicate phrase.spaces ' ' ++ spelling.letters) := by
      simp [Parts.text, spelled]
    have trimmed : trim phrase.text = phrase.text := by
      have ends : trim (phrase.text ++ List.replicate 0 ' ') = phrase.text := by
        apply trim_ends
        · rw [text, List.head?_append_of_ne_nil _ nonempty]
          exact first
        · rw [text, ← List.append_assoc, List.getLast?_append_of_ne_nil _ someLetter]
          exact fun char member => letter_not_blank (alpha char (List.mem_of_getLast? member))
        · rw [text]
          exact List.append_ne_nil_of_left_ne_nil nonempty _
      simpa using ends
    rw [trimmed, text, List.map_append, map_solid solid]
    simp [Parts.rest, spelled]

/-- What is behind the digits starts with none. -/
theorem rest_undigited (phrase : Phrase) : ∀ char ∈ phrase.rest.head?, char.isDigit = false := by
  intro char member
  cases fraction : phrase.fraction with
  | some decimals =>
    simp only [Parts.rest, Parts.decimals, fraction, Option.elim_some, List.cons_append,
      List.head?_cons, Option.mem_some_iff] at member
    subst member
    rfl
  | none =>
    cases spelled : phrase.spelling with
    | none => simp [Parts.rest, Parts.decimals, fraction, spelled] at member
    | some spelling =>
      have member : char ∈ List.replicate phrase.spaces ' ' ++ spelling.letters.map Char.toLower := by
        apply List.mem_of_mem_head?
        simpa [Parts.rest, Parts.decimals, fraction, spelled] using member
      rcases List.mem_append.mp member with space | letter
      · obtain rfl := List.eq_of_mem_replicate space
        rfl
      · obtain ⟨written, known, rfl⟩ := List.mem_map.mp letter
        exact alpha_not_digit ((letters_alpha spelling).2 written known)

/-- So the digits are found. -/
theorem span_whole (phrase : Phrase) :
    (phrase.whole ++ phrase.rest).span Char.isDigit = (phrase.whole, phrase.rest) := by
  have digits : ∀ char ∈ phrase.whole, char.isDigit = true :=
    fun char member => phrase.digits char (List.mem_append_left _ member)
  have ends := rest_undigited phrase
  rw [List.span_eq_takeWhile_dropWhile, List.takeWhile_append_of_pos digits,
    List.dropWhile_append_of_pos digits]
  cases rest : phrase.rest with
  | nil => simp
  | cons head tail =>
    have stops : head.isDigit = false := ends head (by simp [rest])
    simp [stops]

/-- The unit of a phrase that the regular expression matches. -/
def Parts.matched (parts : Parts) : Option TimeUnit :=
  if parts.negative = true ∨ parts.fraction.isSome = true then none
  else match parts.spelling with
    | none => some .second
    | some spelling =>
      if parts.spaces = 0 then matchedUnits.lookup (spelling.letters.map Char.toLower) else none

/-- The units that are matched are letters. -/
theorem matchedUnits_alpha : ∀ pair ∈ matchedUnits, ∀ char ∈ pair.1, char.isAlpha = true := by
  have all : matchedUnits.all (fun pair => pair.1.all Char.isAlpha) = true := rfl
  simpa using all

/-- What begins with a point or a space is no unit. -/
theorem unmatched_head {head : Char} (other : head.isAlpha = false) (rest : List Char) :
    matchedUnits.lookup (head :: rest) = none := by
  rw [List.lookup_eq_none_iff]
  intro pair member
  rw [bne_iff_ne]
  intro same
  have alpha := matchedUnits_alpha pair member head (same ▸ List.mem_cons_self ..)
  rw [other] at alpha
  cases alpha

/-- The regular expression on digits and what follows them. -/
theorem matchDuration_digits (phrase : Phrase) (someDigit : phrase.whole ≠ []) :
    matchDuration (phrase.whole ++ phrase.rest) =
      if phrase.rest = [] then some (phrase.whole, .second)
      else (matchedUnits.lookup phrase.rest).map fun unit => (phrase.whole, unit) := by
  rw [matchDuration, span_whole]
  obtain ⟨digit, digits, whole⟩ := List.exists_cons_of_ne_nil someDigit
  cases rest : phrase.rest with
  | nil => simp [whole]
  | cons head tail => simp [whole]

/-- What is matched of a phrase. -/
theorem matchDuration_phrase (phrase : Phrase) :
    matchDuration (phrase.sign ++ phrase.whole ++ phrase.rest) =
      phrase.matched.map fun unit => (phrase.whole, unit) := by
  by_cases negative : phrase.negative = true
  · simp [matchDuration, Parts.sign, Parts.matched, negative, List.span_eq_takeWhile_dropWhile]
  have unsigned : phrase.sign = [] := by simp [Parts.sign, negative]
  rw [unsigned, List.nil_append]
  cases fraction : phrase.fraction with
  | some decimals =>
    have point : ∃ tail, phrase.rest = '.' :: tail := by
      simp [Parts.rest, Parts.decimals, fraction]
    obtain ⟨tail, rest⟩ := point
    have unmatched : phrase.matched = none := by simp [Parts.matched, fraction]
    rw [unmatched]
    by_cases someDigit : phrase.whole = []
    · rw [matchDuration, span_whole, someDigit]
      rfl
    · rw [matchDuration_digits phrase someDigit, rest, unmatched_head rfl]
      simp
  | none =>
    have someDigit : phrase.whole ≠ [] := by simpa [fraction] using phrase.nonempty
    rw [matchDuration_digits phrase someDigit]
    cases spelled : phrase.spelling with
    | none =>
      simp [Parts.rest, Parts.decimals, Parts.matched, fraction, spelled, negative]
    | some spelling =>
      have someLetter := (letters_alpha spelling).1
      by_cases spaces : phrase.spaces = 0
      · simp [Parts.rest, Parts.decimals, Parts.matched, fraction, spelled, negative, spaces,
          someLetter]
      · obtain ⟨count, succ⟩ := Nat.exists_eq_succ_of_ne_zero spaces
        simp [Parts.rest, Parts.decimals, Parts.matched, fraction, spelled, negative, succ,
          List.replicate_succ, unmatched_head]

/-- What is read of it: the seconds if it is matched, and an hour if not. -/
theorem parse_phrase (phrase : Phrase) : parseDurationToSeconds (.text phrase.text) =
    phrase.matched.elim (.finite 3600) (inSeconds (number phrase.whole)) := by
  rw [parseDurationToSeconds, normalized, matchDuration_phrase]
  cases phrase.matched <;> rfl

end Reading

section Lifetimes

/-- Digits alone, or directly followed by one of the five units in letters of either case. -/
def Parts.Plain (parts : Parts) : Prop :=
  parts.negative = false ∧ parts.fraction = none ∧ ∀ spelling ∈ parts.spelling,
    parts.spaces = 0 ∧ spelling.letters.map Char.toLower ∈ matchedUnits.map Prod.fst

/-- The plain phrases are matched, and no others. -/
theorem matched_iff (parts : Parts) : (∃ unit, parts.matched = some unit) ↔ parts.Plain := by
  have keys : ∀ key, (∃ unit, matchedUnits.lookup key = some unit) ↔
      key ∈ matchedUnits.map Prod.fst := by
    intro key
    rw [← Option.isSome_iff_exists, List.lookup_isSome_iff, List.mem_map]
    simp only [beq_iff_eq]
    exact exists_congr fun pair => and_congr_right fun _ => eq_comm
  unfold Parts.matched Parts.Plain
  split
  · next excluded =>
    simp only [reduceCtorEq, exists_false, false_iff, not_and]
    intro unsigned whole
    simp [unsigned, whole] at excluded
  · next plain =>
    obtain ⟨unsigned, whole⟩ : parts.negative = false ∧ parts.fraction = none := by
      simpa using plain
    cases parts.spelling with
    | none => simp [unsigned, whole]
    | some spelling =>
      by_cases spaces : parts.spaces = 0
      · simp only [unsigned, whole, spaces, ↓reduceIte, keys]
        simp
      · simp [unsigned, whole, spaces]

/-- A matched unit means what it means to the library. -/
theorem matchedUnits_known : ∀ pair ∈ spellings, ∀ known ∈ matchedUnits,
    pair.1 = known.1 → pair.2 = known.2 := by
  decide

/-- Weeks and years are not among them. -/
theorem matchedUnits_short : ∀ known ∈ matchedUnits, known.2 ≠ .week ∧ known.2 ≠ .year := by
  decide

/-- The last second of which the language has a date. -/
def lastSecond : Int := 8640000000000

/-- A span that is no longer than a whole number of seconds ends no later. -/
theorem expiry_most {iat : Int} (bound : Int) (span : ℚ) (first : 0 ≤ iat) (last : iat ≤ lastSecond)
    (nonneg : 0 ≤ bound) (small : bound ≤ 2 ^ 52) (most : span ≤ bound) :
    ⌊double (iat + span)⌋ ≤ iat + bound := by
  unfold lastSecond at last
  have rounded : double (iat + span) ≤ (iat + bound : Int) :=
    double_le_int (by omega) (by omega) (by push_cast; linarith)
  exact Int.floor_le_iff.mpr (by push_cast at rounded ⊢; linarith)

/-- Nor does one that is half a second longer, while there are halves. -/
theorem expiry_close {iat : Int} {span : ℚ} (bound : Int) (first : 0 ≤ iat) (last : iat ≤ lastSecond)
    (small : bound + lastSecond ≤ 2 ^ 52) (nonneg : 0 ≤ span) (close : span ≤ bound + 1 / 2) :
    ⌊double (iat + span)⌋ ≤ iat + bound := by
  have firstCast : (0 : ℚ) ≤ iat := by exact_mod_cast first
  have whole : 0 ≤ iat + bound := by
    have : (-1 : ℚ) < bound := by linarith
    have : -1 < bound := by exact_mod_cast this
    omega
  have most : double (iat + span) ≤ double ((iat + bound : Int) + 1 / 2) :=
    double_mono (by linarith) (by push_cast; linarith)
  refine Int.floor_le_iff.mpr (most.trans_lt ?_)
  rcases (show iat + bound ≤ 2 ^ 52 by omega).lt_or_eq with below | top
  · rw [double_half whole below]
    push_cast
    linarith
  · -- at the last date the half is rounded off
    have down : double ((2 ^ 52 : Int) + 1 / 2) = (2 ^ 52 : Int) := by decide +kernel
    rw [top, down]
    norm_num

/-- The tokens of the dates there are end within an hour of their issue exactly when the span is
shorter than an hour and a second by more than half the spacing of doubles around the last date. -/
theorem expiry_hour_iff (span : ℚ) :
    (∀ iat : Int, 0 ≤ iat → iat ≤ lastSecond → ⌊double (iat + span)⌋ ≤ iat + 3600) ↔
      span < 3601 - 1 / 2 ^ 11 := by
  constructor
  · intro ends
    by_contra long
    rw [not_lt] at long
    have last := ends lastSecond (by decide) le_rfl
    have carried : double (8640000003601 - 1 / 2 ^ 11) = 8640000003601 := by
      have read : Number.nearest (8640000003601 - 1 / 2 ^ 11) = .finite 8640000003601 := by
        decide +kernel
      rw [nearest_ordinary (by norm_num)] at read
      exact Number.finite.inj read
    have grows : double (8640000003601 - 1 / 2 ^ 11) ≤ double (lastSecond + span) :=
      double_mono (by norm_num) (by norm_num [lastSecond] at long ⊢; linarith)
    rw [carried] at grows
    have reached : (8640000003601 : Int) ≤ ⌊double (lastSecond + span)⌋ :=
      Int.le_floor.mpr (by exact_mod_cast grows)
    unfold lastSecond at last reached
    omega
  · intro short iat first last
    rcases le_or_gt span 3600 with hour | longer
    · exact expiry_most 3600 span first last (by norm_num) (by norm_num) (by exact_mod_cast hour)
    · have firstCast : (0 : ℚ) ≤ iat := by exact_mod_cast first
      have lastCast : (iat : ℚ) ≤ 8640000000000 := by exact_mod_cast last
      have within := double_within (iat + span) 42
        (by rw [abs_of_nonneg (by linarith)]; norm_num at *; linarith) (by norm_num)
      refine Int.floor_le_iff.mpr ?_
      have gain := (abs_le.mp within).2
      norm_num at gain short ⊢
      linarith

/-- The length of a unit in whole seconds. -/
def TimeUnit.wholeSeconds : TimeUnit → Nat
  | .millisecond => 0
  | .second => 1
  | .minute => 60
  | .hour => 3600
  | .day => 86400
  | .week => 604800
  | .year => 31557600

/-- Any other unit than milliseconds is a whole number of seconds. -/
theorem milliseconds_whole {unit : TimeUnit} (whole : unit ≠ .millisecond) :
    unit.milliseconds = unit.wholeSeconds * 1000 := by
  cases unit with
  | millisecond => exact absurd rfl whole
  | second | minute | hour | day | week | year => norm_num [TimeUnit.milliseconds, TimeUnit.wholeSeconds]

/-- What the library makes of a moderate row of digits is at most half a second more than it says. -/
theorem seconds_close {phrase : Phrase} {amount bound : Nat} (plain : phrase.amount = amount)
    (meant : phrase.meant = bound) (small : bound + lastSecond ≤ 2 ^ 52) (held : amount ≤ 2 ^ 53) :
    phrase.seconds ≤ (bound : Int) + 1 / 2 := by
  unfold lastSecond at small
  have smallCast : (bound : ℚ) ≤ 4503599627370496 := by exact_mod_cast (by omega)
  have read : double phrase.amount = phrase.amount := by
    rw [plain, double_nat held]
  have product : double phrase.amount * phrase.unit.milliseconds = bound * 1000 := by
    rw [read, ← meant, Parts.meant]
    ring
  have scaled := double_within (bound * 1000) 61
    (by rw [abs_of_nonneg (by positivity)]; norm_num; linarith) (by norm_num)
  have milliseconds : phrase.milliseconds = double (bound * 1000) := by
    rw [Parts.milliseconds, product]
  have most : phrase.milliseconds / 1000 ≤ (bound : Int) + 1 / 2 := by
    have := (abs_le.mp scaled).2
    rw [milliseconds]
    norm_num at this ⊢
    linarith
  have least : 0 ≤ phrase.milliseconds / 1000 := by
    rw [milliseconds]
    exact div_nonneg (double_nonneg (by positivity)) (by norm_num)
  have rounded := double_mono least most
  rwa [double_half (by omega) (by omega)] at rounded

/-- A span is a double that is not negative, when its amount is not. -/
theorem seconds_nonneg {phrase : Phrase} {amount : Nat} (plain : phrase.amount = amount) :
    0 ≤ phrase.seconds := by
  have unit : 0 ≤ phrase.unit.milliseconds := by
    cases phrase.unit <;> norm_num [TimeUnit.milliseconds]
  have amounts : 0 ≤ double phrase.amount := double_nonneg (by rw [plain]; positivity)
  exact double_nonneg (div_nonneg (double_nonneg (mul_nonneg amounts unit)) (by norm_num))

/-- A span in milliseconds is read as it is written. -/
theorem seconds_milliseconds {phrase : Phrase} {amount : Nat} (plain : phrase.amount = amount)
    (unit : phrase.unit = .millisecond) : phrase.seconds = double (double amount / 1000) := by
  rw [Parts.seconds, Parts.milliseconds, plain, unit, TimeUnit.milliseconds, mul_one, double_double]

/-- A lifetime is within what was read when it is within a whole number of seconds that is. -/
theorem atMost_of_le {lifetime : Int} (bound : Int) {value : ℚ} (within : lifetime ≤ bound)
    (read : (bound : ℚ) ≤ value) : (Number.finite lifetime).atMost (.finite value) = true :=
  decide_eq_true ((Int.cast_le.mpr within).trans read)

/-- The tokens of a value, at all dates, live no longer than a number of seconds. -/
def Within (span : ℚ) (ttl : Number) : Prop :=
  ∀ iat : Int, 0 ≤ iat → iat ≤ lastSecond →
    (Number.finite (⌊double (iat + span)⌋ - iat : Int)).atMost ttl = true

/-- Either no date carries the sum past 2^53 + 2, or none counts beside the span. -/
def Timely (span : ℚ) : Prop := span + lastSecond ≤ 2 ^ 53 + 2 ∨ 2 ^ 96 ≤ span

section Spans

/-- Some date of issue makes a sum with whole seconds that is rounded up, if they are between the
last ones that no date carries past 2^53 + 2 and the first ones beside which no date counts. -/
theorem count_up {count : Int} (held : double count = count) (long : 2 ^ 53 + 3 ≤ count + lastSecond)
    (small : count < 2 ^ 96) :
    ∃ iat : Int, 0 ≤ iat ∧ iat ≤ lastSecond ∧ iat + count + 1 ≤ ⌊double (iat + count)⌋ := by
  unfold lastSecond at long ⊢
  rcases lt_or_ge count (2 ^ 54) with near | far
  · -- the first odd sum from 2^53 + 3 on that is rounded up
    have sum (iat : Int) : (iat : ℚ) + count = (iat + count : Int) := by push_cast; rfl
    refine ⟨max (2 ^ 53 + 3 - count) ((3 - count) % 4), by omega, by omega, ?_⟩
    rw [sum, double_odd (by omega) (by omega) (by omega), Int.floor_intCast]
  · have positive : (0 : ℚ) < count := by exact_mod_cast (by omega : 0 < count)
    obtain ⟨low, high⟩ := binaryExponent_bounds positive
    have lower : (2 : ℚ) ^ (54 : Int) ≤ count := by exact_mod_cast far
    have upper : (count : ℚ) < 2 ^ (96 : Int) := by exact_mod_cast small
    have least := lower.trans_lt high
    have most := low.trans_lt upper
    rw [zpow_lt_zpow_iff_right₀ (by norm_num)] at least most
    obtain ⟨power, named⟩ := Int.eq_ofNat_of_zero_le
      (show 0 ≤ binaryExponent (count : ℚ) - 53 by omega)
    have unit : spacing (count : ℚ) = (2 * 2 ^ power : Int) := by
      rw [spacing, spacingExponent, abs_of_pos positive, max_eq_left (by omega),
        show binaryExponent (count : ℚ) - 52 = 1 + (power : Int) by omega,
        zpow_add₀ (by norm_num)]
      norm_num
    have two : (2 : Int) ≤ 2 ^ power := by
      calc (2 : Int) = 2 ^ 1 := rfl
        _ ≤ 2 ^ power := pow_le_pow_right₀ (by norm_num) (by omega)
    have wide : (2 : Int) ^ power ≤ 2 ^ 42 := pow_le_pow_right₀ (by norm_num) (by omega)
    refine ⟨2 ^ power + 1, by omega, by omega, ?_⟩
    have rounded : double (count + (2 ^ power + 1 : Int)) = (count + 2 * 2 ^ power : Int) := by
      rw [double_up held.symm (by exact_mod_cast (by omega : 1 ≤ count)), unit, Int.cast_add]
      · rw [unit]
        exact_mod_cast (by omega : 2 * 2 ^ power < 2 * (2 ^ power + 1 : Int))
      · rw [unit]
        exact_mod_cast (by omega : (2 ^ power + 1 : Int) < 2 * 2 ^ power)
    rw [add_comm ((2 ^ power + 1 : Int) : ℚ), rounded, Int.floor_intCast]
    omega

/-- Whole seconds end in time while no sum passes 2^53 + 2. -/
theorem count_short {count iat : Int} (first : 0 ≤ iat) (last : iat ≤ lastSecond)
    (short : count + lastSecond ≤ 2 ^ 53 + 2) : ⌊double (iat + count)⌋ ≤ iat + max 1 count := by
  have dates : lastSecond = 8640000000000 := rfl
  have sum : (iat : ℚ) + count = (iat + count : Int) := by push_cast; rfl
  rw [sum]
  rcases le_or_gt (iat + count) (2 ^ 53) with small | large
  · have rounded : double ((iat + count : Int) : ℚ) ≤ (iat + max 1 count : Int) :=
      double_le_int (by omega) (by omega) (Int.cast_le.mpr (by omega))
    exact Int.floor_le_iff.mpr (lt_of_le_of_lt rounded (lt_add_one _))
  · -- of the two sums that are left the odd one is rounded down
    have odd : double ((2 ^ 53 + 1 : Int) : ℚ) = (2 ^ 53 : Int) := by decide +kernel
    have even : double ((2 ^ 53 + 2 : Int) : ℚ) = (2 ^ 53 + 2 : Int) := by decide +kernel
    obtain one | two : iat + count = 2 ^ 53 + 1 ∨ iat + count = 2 ^ 53 + 2 := by omega
    · rw [one, odd, Int.floor_intCast]
      omega
    · rw [two, even, Int.floor_intCast]
      omega

/-- They do so, too, when no date of issue is half as long as the spacing of doubles around them. -/
theorem count_long {count iat : Int} (held : double count = count) (first : 0 ≤ iat)
    (last : iat ≤ lastSecond) (long : 2 ^ 96 ≤ count) :
    ⌊double (iat + count)⌋ ≤ iat + max 1 count := by
  unfold lastSecond at last
  have positive : (0 : ℚ) < count := by exact_mod_cast (by omega : 0 < count)
  have lower : (2 : ℚ) ^ (96 : Int) ≤ count := by exact_mod_cast long
  have least := lower.trans_lt (binaryExponent_bounds positive).2
  rw [zpow_lt_zpow_iff_right₀ (by norm_num)] at least
  have wide : (2 : ℚ) ^ (44 : Int) ≤ spacing count := by
    rw [spacing, spacingExponent, abs_of_pos positive, max_eq_left (by omega)]
    exact zpow_le_zpow_right₀ (by norm_num) (by omega)
  have short : 2 * (iat : ℚ) < 2 ^ (44 : Int) := by
    norm_num
    exact_mod_cast (by omega : 2 * iat < 17592186044416)
  rw [add_comm (iat : ℚ), double_down held.symm (by exact_mod_cast (by omega : 1 ≤ count))
    (by exact_mod_cast first) (short.trans_le wide), Int.floor_intCast]
  omega

/-- Whole seconds are read as they are, or as one. -/
theorem count_within_iff {count : Int} (held : double count = count) :
    Within count (.finite (max 1 count : Int)) ↔ Timely count := by
  have timely : Timely count ↔ count + lastSecond ≤ 2 ^ 53 + 2 ∨ 2 ^ 96 ≤ count := by
    unfold Timely
    norm_cast
  rw [timely]
  simp only [Within, Number.atMost, decide_eq_true_eq, Int.cast_le]
  constructor
  · intro within
    by_contra between
    rw [not_or, not_le, not_le] at between
    obtain ⟨iat, first, last, up⟩ := count_up held (by omega) between.2
    have ends := within iat first last
    unfold lastSecond at between
    omega
  · intro fits iat first last
    rcases fits with short | long
    · linarith [count_short first last short]
    · linarith [count_long held first last long]

variable {span : ℚ}

/-- A span that is shorter than the whole number of seconds that is read ends in time. -/
theorem within_of_lt (read : Int) (held : double span = span) (also : double read = read)
    (nonneg : 0 ≤ span) (shorter : span < read) : Within span (.finite read) := by
  intro iat first last
  refine atMost_of_le read ?_ le_rfl
  have dates : lastSecond = 8640000000000 := rfl
  rcases le_or_gt span (2 ^ 52) with small | large
  · have ceiling : ⌈span⌉ ≤ 2 ^ 52 := Int.ceil_le.mpr (by exact_mod_cast small)
    have reached : ⌈span⌉ ≤ read := Int.ceil_le.mpr shorter.le
    have ends :=
      expiry_most ⌈span⌉ span first last (Int.ceil_nonneg nonneg) ceiling (Int.le_ceil span)
    omega
  · -- what is read is a spacing above the span, and the sum is off by no more than that
    have firstCast : (0 : ℚ) ≤ iat := by exact_mod_cast first
    have lastCast : (iat : ℚ) ≤ 2 ^ 52 := by exact_mod_cast (by omega : iat ≤ 2 ^ 52)
    have next := double_step held also (by linarith) shorter
    have wider : spacing (iat + span) ≤ 2 * spacing span :=
      spacing_twice (by linarith) (by linarith) (by linarith)
    have near := (abs_le.mp (double_near (iat + span))).2
    have ends : ⌊double (iat + span)⌋ ≤ iat + read :=
      Int.floor_le_iff.mpr (by push_cast; linarith)
    omega

/-- Where there are no quarters of a second, what lies between two whole seconds is the half. -/
theorem between_half {low : Int} (held : double span = span) (large : 2 ^ 51 ≤ low)
    (above : (low : ℚ) < span) (below : span < low + 1) : low < 2 ^ 52 ∧ span = low + 1 / 2 := by
  have small : span < 2 ^ 52 := by
    by_contra whole
    obtain ⟨count, same⟩ := double_whole_large (not_lt.mp whole)
    rw [held] at same
    rw [same] at above below
    have : low < count := by exact_mod_cast above
    have : count < low + 1 := by exact_mod_cast below
    omega
  have largeCast : (2 : ℚ) ^ (51 : Int) ≤ low := by exact_mod_cast large
  have unit : spacing span = 1 / 2 := by
    rw [spacing_between (largeCast.trans above.le) small (by norm_num)]
    norm_num
  have steps : span = roundEven (span / spacing span) * spacing span := held.symm
  rw [unit] at steps
  generalize roundEven (span / (1 / 2)) = count at steps
  have more : 2 * low < count := by
    have : (2 * low : ℚ) < count := by linarith
    exact_mod_cast this
  have fewer : count < 2 * low + 2 := by
    have : (count : ℚ) < 2 * low + 2 := by linarith
    exact_mod_cast this
  have exactly : count = 2 * low + 1 := by omega
  refine ⟨by exact_mod_cast above.trans small, ?_⟩
  rw [steps, exactly]
  push_cast
  ring

/-- A span that is longer than what is read does not end in time, where no sum has a half. -/
theorem not_within_of_gt {read : Int} (held : double span = span)
    (large : 2 ^ 52 < read + lastSecond) (longer : (read : ℚ) < span) :
    ¬ Within span (.finite read) := by
  intro within
  have dates : lastSecond = 8640000000000 := rfl
  have ends (iat : Int) (first : 0 ≤ iat) (last : iat ≤ lastSecond) :
      ⌊double (iat + span)⌋ ≤ iat + read := by
    have := of_decide_eq_true (within iat first last)
    rw [Int.cast_le] at this
    omega
  have issued := ends 0 le_rfl (by decide)
  rw [Int.cast_zero, zero_add, held, zero_add] at issued
  obtain ⟨small, half⟩ := between_half held (by omega) longer (Int.floor_le_iff.mp issued)
  -- one of the last two dates makes the sum half way up from an odd number
  obtain ⟨iat, first, last, low, odd⟩ : ∃ iat : Int, 0 ≤ iat ∧ iat ≤ lastSecond ∧
      2 ^ 52 ≤ iat + read ∧ (iat + read) % 2 = 1 := by
    rcases Int.emod_two_eq_zero_or_one (lastSecond + read) with even | odd
    · exact ⟨lastSecond - 1, by omega, by omega, by omega, by omega⟩
    · exact ⟨lastSecond, by omega, by omega, by omega, odd⟩
  have sum : (iat : ℚ) + span = (iat + read : Int) + 1 / 2 := by
    rw [half]
    push_cast
    ring
  have late := ends iat first last
  rw [sum, double_half_odd low (by omega) odd, Int.floor_intCast] at late
  omega

/-- The marks of long spans, in whole seconds, outlive the tokens exactly when more is read than
the span, or the same and the sums are not rounded up. -/
theorem within_iff (read : Int) (held : double span = span) (also : double read = read)
    (large : 2 ^ 52 < read + lastSecond) (nonneg : 0 ≤ span) :
    Within span (.finite read) ↔ span < read ∨ span = read ∧ Timely span := by
  rcases lt_trichotomy span read with shorter | rfl | longer
  · exact iff_of_true (within_of_lt read held also nonneg shorter) (.inl shorter)
  · have counted := count_within_iff also
    rw [max_eq_right (by unfold lastSecond at large; omega)] at counted
    simp [counted]
  · refine iff_of_false (not_within_of_gt held large longer) ?_
    rintro (shorter | ⟨same, -⟩)
    · exact absurd shorter longer.le.not_gt
    · exact absurd same longer.ne'

end Spans

section Plain

/-- An amount in seconds, each product rounded. -/
def TimeUnit.scale (amount : ℚ) : TimeUnit → ℚ
  | .millisecond => double (amount / 1000)
  | .minute => double (amount * 60)
  | .hour => double (double (amount * 60) * 60)
  | .day => double (double (double (amount * 24) * 60) * 60)
  | .second | .week | .year => amount

/-- The unit that the code reads, which is seconds if none is written. -/
def Parts.readUnit (parts : Parts) : TimeUnit := parts.spelling.elim .second Spelling.unit

/-- The digits of a phrase, read as a double, in seconds. -/
def Parts.scaled (parts : Parts) : ℚ := parts.readUnit.scale (double (decimal parts.whole))

/-- A row of digits is less than the power of ten with as many zeros. -/
theorem decimal_lt (digits : List Char) (digital : ∀ char ∈ digits, char.isDigit = true) :
    decimal digits < 10 ^ digits.length := by
  induction digits using List.reverseRecOn with
  | nil => decide
  | append_singleton digits last inductionHypothesis =>
    have before := inductionHypothesis fun char member => digital char (List.mem_append_left _ member)
    have bounds : 48 ≤ last.toNat ∧ last.toNat ≤ 57 := by
      simpa [Char.isDigit, UInt32.le_iff_toNat_le] using digital last (by simp)
    have step : decimal (digits ++ [last]) = 10 * decimal digits + (last.toNat - 48) := by
      simp [decimal, valueOf]
    rw [step, List.length_append, List.length_singleton, pow_succ]
    omega

/-- The digits of a phrase are far from the largest doubles. -/
theorem decimal_most (phrase : Phrase) : (decimal phrase.whole : ℚ) ≤ 2 ^ 340 := by
  have digital : ∀ char ∈ phrase.whole, char.isDigit = true :=
    fun char member => phrase.digits char (List.mem_append_left _ member)
  have short : phrase.whole.length ≤ 100 := by
    have := phrase.short
    simp only [Parts.text, List.length_append] at this
    omega
  have most : decimal phrase.whole ≤ 10 ^ 100 :=
    (decimal_lt _ digital).le.trans (Nat.pow_le_pow_right (by norm_num) short)
  calc (decimal phrase.whole : ℚ) ≤ ((10 ^ 100 : Nat) : ℚ) := Nat.cast_le.mpr most
    _ ≤ 2 ^ 170 * 2 ^ 170 := by norm_num
    _ = 2 ^ 340 := (pow_add 2 170 170).symm

/-- Rounding stays below a power of two. -/
theorem double_le_pow {value : ℚ} {power : Nat} (nonneg : 0 ≤ value) (most : value ≤ 2 ^ power) :
    double value ≤ 2 ^ power := by
  have held : double ((1 : Int) * 2 ^ (power : Int)) = (1 : Int) * 2 ^ (power : Int) :=
    double_exact 1 power (by norm_num) (by omega)
  rw [Int.cast_one, one_mul, zpow_natCast] at held
  exact held ▸ double_mono nonneg most

/-- A product with a small factor is a double again. -/
theorem times_finite {amount : ℚ} (factor : ℚ) (power : Nat) (small : power ≤ 900) (nonneg : 0 ≤ amount)
    (most : amount ≤ 2 ^ power) (positive : 0 ≤ factor) (few : factor ≤ 2 ^ 6) :
    (Number.finite amount).times (.finite factor) = .finite (double (amount * factor)) ∧
      0 ≤ double (amount * factor) ∧ double (amount * factor) ≤ 2 ^ (power + 6) := by
  have product : 0 ≤ amount * factor := mul_nonneg nonneg positive
  have bound : amount * factor ≤ 2 ^ (power + 6) := by
    rw [pow_add]
    gcongr
  refine ⟨nearest_double ?_, double_nonneg product, double_le_pow product bound⟩
  rw [abs_of_nonneg product]
  exact bound.trans (pow_le_pow_right₀ (by norm_num) (by omega))

/-- What is read of an amount in any other unit than milliseconds. -/
theorem inSeconds_scale {amount : ℚ} {unit : TimeUnit} (whole : unit ≠ .millisecond)
    (nonneg : 0 ≤ amount) (most : amount ≤ 2 ^ 340) :
    inSeconds (.finite amount) unit = .finite (unit.scale amount) := by
  cases unit with
  | millisecond => exact absurd rfl whole
  | second | week | year => rfl
  | minute => exact (times_finite 60 340 (by norm_num) nonneg most (by norm_num) (by norm_num)).1
  | hour =>
    obtain ⟨minutes, least, bound⟩ :=
      times_finite 60 340 (by norm_num) nonneg most (by norm_num) (by norm_num)
    rw [inSeconds, minutes]
    exact (times_finite 60 346 (by norm_num) least bound (by norm_num) (by norm_num)).1
  | day =>
    obtain ⟨hours, least, bound⟩ :=
      times_finite 24 340 (by norm_num) nonneg most (by norm_num) (by norm_num)
    obtain ⟨minutes, leastMinutes, boundMinutes⟩ :=
      times_finite 60 346 (by norm_num) least bound (by norm_num) (by norm_num)
    rw [inSeconds, hours, minutes]
    exact (times_finite 60 352 (by norm_num) leastMinutes boundMinutes (by norm_num) (by norm_num)).1

/-- Small amounts are multiplied exactly. -/
theorem scale_exact {amount : Nat} {unit : TimeUnit} (whole : unit ≠ .millisecond)
    (short : unit ≠ .week ∧ unit ≠ .year) (small : amount * unit.wholeSeconds ≤ 2 ^ 53) :
    unit.scale amount = ((amount * unit.wholeSeconds : Nat) : ℚ) := by
  have times : ∀ one other : Nat, one * other ≤ 2 ^ 53 →
      double ((one : ℚ) * (other : Nat)) = ((one * other : Nat) : ℚ) := by
    intro one other bound
    rw [← Nat.cast_mul, double_nat bound]
  cases unit with
  | millisecond => exact absurd rfl whole
  | week => exact absurd rfl short.1
  | year => exact absurd rfl short.2
  | second => simp [TimeUnit.scale, TimeUnit.wholeSeconds]
  | minute => exact times amount 60 small
  | hour =>
    simp only [TimeUnit.wholeSeconds] at small ⊢
    have minutes : double ((amount : ℚ) * 60) = _ := times amount 60 (by omega)
    have seconds : double (((amount * 60 : Nat) : ℚ) * 60) = _ := times (amount * 60) 60 (by omega)
    simp only [TimeUnit.scale, minutes, seconds, mul_assoc, Nat.reduceMul]
  | day =>
    simp only [TimeUnit.wholeSeconds] at small ⊢
    have hours : double ((amount : ℚ) * 24) = _ := times amount 24 (by omega)
    have minutes : double (((amount * 24 : Nat) : ℚ) * 60) = _ := times (amount * 24) 60 (by omega)
    have seconds : double (((amount * 24 * 60 : Nat) : ℚ) * 60) = _ :=
      times (amount * 24 * 60) 60 (by omega)
    rw [TimeUnit.scale, hours, minutes, seconds]
    simp only [mul_assoc, Nat.reduceMul]

/-- A larger amount is not read as less. -/
theorem scale_mono {one other : ℚ} (unit : TimeUnit) (nonneg : 0 ≤ one) (ordered : one ≤ other) :
    unit.scale one ≤ unit.scale other := by
  have step : ∀ {low high : ℚ} (factor : ℚ), 0 ≤ factor → 0 ≤ low → low ≤ high →
      0 ≤ double (low * factor) ∧ double (low * factor) ≤ double (high * factor) := by
    intro low high factor positive least most
    have product := mul_nonneg least positive
    exact ⟨double_nonneg product, double_mono product (mul_le_mul_of_nonneg_right most positive)⟩
  cases unit with
  | millisecond => exact double_mono (by positivity) (by linarith)
  | second | week | year => exact ordered
  | minute => exact (step 60 (by norm_num) nonneg ordered).2
  | hour =>
    obtain ⟨least, most⟩ := step 60 (by norm_num) nonneg ordered
    exact (step 60 (by norm_num) least most).2
  | day =>
    obtain ⟨least, most⟩ := step 24 (by norm_num) nonneg ordered
    obtain ⟨leastMinutes, mostMinutes⟩ := step 60 (by norm_num) least most
    exact (step 60 (by norm_num) leastMinutes mostMinutes).2

/-- Digits are read as a whole number of seconds, unless they count parts of one. -/
theorem scale_whole (amount : Nat) (unit : TimeUnit) (whole : unit ≠ .millisecond) :
    ∃ seconds : Nat, unit.scale (double amount) = seconds ∧ double seconds = seconds := by
  have rounded : ∀ value : Nat, ∃ count : Nat, double value = count ∧ double count = count := by
    intro value
    obtain ⟨count, same⟩ := double_whole value
    exact ⟨count, same, same ▸ double_double value⟩
  have times : ∀ one factor : Nat, ∃ count : Nat,
      double ((one : ℚ) * (factor : Nat)) = count ∧ double count = count := by
    intro one factor
    simpa using rounded (one * factor)
  obtain ⟨count, same, held⟩ := rounded amount
  rw [same]
  cases unit with
  | millisecond => exact absurd rfl whole
  | second | week | year => exact ⟨count, rfl, held⟩
  | minute => exact times count 60
  | hour =>
    obtain ⟨minutes, read, -⟩ : ∃ minutes : Nat, double ((count : ℚ) * 60) = minutes ∧ _ :=
      times count 60
    rw [TimeUnit.scale, read]
    exact times minutes 60
  | day =>
    obtain ⟨hours, readHours, -⟩ : ∃ hours : Nat, double ((count : ℚ) * 24) = hours ∧ _ :=
      times count 24
    obtain ⟨minutes, read, -⟩ : ∃ minutes : Nat, double ((hours : ℚ) * 60) = minutes ∧ _ :=
      times hours 60
    rw [TimeUnit.scale, readHours, read]
    exact times minutes 60

/-- A plain phrase of so few seconds that every date has halves of them, or one of which the code
reads more than the library makes of it, or as much where no sum is rounded up. -/
def Parts.InTime (parts : Parts) : Prop :=
  parts.meant ≤ 2 ^ 52 - lastSecond ∨ parts.seconds < parts.scaled ∨
    parts.seconds = parts.scaled ∧ Timely parts.seconds

variable {phrase : Phrase} {unit : TimeUnit}

/-- Rounding up what is left of a second reads no less than the span. -/
theorem ceiling_within_iff {span : ℚ} (held : double span = span) (nonneg : 0 ≤ span) :
    Within span (.finite (max 1 ⌈span⌉ : Int)) ↔ Timely span := by
  rcases le_or_gt span (2 ^ 52) with small | large
  · refine iff_of_true ?_ (.inl ?_)
    · intro iat first last
      have ceiling : ⌈span⌉ ≤ 2 ^ 52 := Int.ceil_le.mpr (by exact_mod_cast small)
      have ends :=
        expiry_most ⌈span⌉ span first last (Int.ceil_nonneg nonneg) ceiling (Int.le_ceil span)
      exact atMost_of_le ⌈span⌉ (by omega) (Int.cast_le.mpr (le_max_right _ _))
    · norm_num [lastSecond] at small ⊢
      linarith
  · obtain ⟨count, same⟩ := double_whole_large large.le
    rw [held] at same
    subst same
    rw [Int.ceil_intCast]
    exact count_within_iff held

/-- Digits are read as a double. -/
theorem number_phrase (phrase : Phrase) :
    number phrase.whole = .finite (double (decimal phrase.whole)) := by
  refine nearest_double ?_
  rw [abs_of_nonneg (Nat.cast_nonneg _)]
  exact (decimal_most phrase).trans (pow_le_pow_right₀ (by norm_num) (by norm_num))

/-- Digits followed by `ms`, which both sides read alike. -/
theorem milliseconds_iff (plain : phrase.amount = decimal phrase.whole)
    (unit : phrase.unit = .millisecond) (read : phrase.readUnit = .millisecond) :
    Within phrase.seconds (inSeconds (number phrase.whole) .millisecond) ↔ phrase.InTime := by
  have scaled : phrase.scaled = phrase.seconds := by
    rw [seconds_milliseconds plain unit, Parts.scaled, read, TimeUnit.scale]
  have amounts : 0 ≤ double (decimal phrase.whole) := double_nonneg (Nat.cast_nonneg _)
  have divided : (Number.finite (double (decimal phrase.whole))).dividedBy 1000 =
      .finite phrase.seconds := by
    rw [seconds_milliseconds plain unit]
    refine nearest_double ?_
    rw [abs_of_nonneg (by positivity)]
    have most : double (decimal phrase.whole) ≤ 2 ^ 340 :=
      double_le_pow (Nat.cast_nonneg _) (decimal_most phrase)
    calc double (decimal phrase.whole) / 1000 ≤ double (decimal phrase.whole) := by linarith
      _ ≤ 2 ^ 340 := most
      _ ≤ 2 ^ 1000 := pow_le_pow_right₀ (by norm_num) (by norm_num)
  have short : phrase.meant ≤ 2 ^ 52 - lastSecond → Timely phrase.seconds := by
    intro meant
    rw [Parts.meant, plain, unit, TimeUnit.milliseconds] at meant
    have few : (decimal phrase.whole : ℚ) ≤ (1000 : Int) * 2 ^ (52 : Int) := by
      have dates : ((lastSecond : Int) : ℚ) = 8640000000000 := rfl
      rw [dates] at meant
      calc (decimal phrase.whole : ℚ) ≤ 1000 * (2 ^ 52 - 8640000000000) := by linarith
        _ ≤ (1000 : Int) * 2 ^ (52 : Int) := by norm_num
    have rounded := double_mono (Nat.cast_nonneg _) few
    rw [double_exact 1000 52 (by norm_num) (by norm_num)] at rounded
    have seconds : phrase.seconds ≤ 2 ^ 52 := by
      rw [seconds_milliseconds plain unit]
      refine double_le_pow (by positivity) ?_
      norm_num at rounded ⊢
      linarith
    refine .inl ?_
    norm_num [lastSecond] at seconds ⊢
    linarith
  have ceiling := ceiling_within_iff (double_double _) (seconds_nonneg plain)
  rw [number_phrase, inSeconds, divided, Number.ceil, max_finite]
  rw [Int.cast_max, Int.cast_one] at ceiling
  simp only [Parts.InTime, scaled, lt_irrefl, true_and, false_or]
  exact ceiling.trans ⟨.inr, fun either => either.elim short id⟩

/-- Digits alone, which the library takes for milliseconds, are read as no less. -/
theorem unitless_iff (plain : phrase.amount = decimal phrase.whole)
    (unit : phrase.unit = .millisecond) (read : phrase.readUnit = .second) :
    Within phrase.seconds (inSeconds (number phrase.whole) .second) ↔ phrase.InTime := by
  have scaled : phrase.scaled = double (decimal phrase.whole) := by
    rw [Parts.scaled, read, TimeUnit.scale]
  rw [number_phrase, inSeconds]
  rcases Nat.eq_zero_or_pos (decimal phrase.whole) with none | some
  · have seconds : phrase.seconds = 0 := by
      rw [seconds_milliseconds plain unit, none]
      simp [double_zero]
    refine iff_of_true ?_ (.inl ?_)
    · intro iat first last
      have ends := expiry_most 0 phrase.seconds first last le_rfl (by norm_num) (by simp [seconds])
      exact atMost_of_le 0 (by omega) (by simp [none, double_zero])
    · rw [Parts.meant, plain, none]
      norm_num [lastSecond]
  · obtain ⟨count, same, held⟩ := scale_whole (decimal phrase.whole) .second (by decide)
    have least : (1 : ℚ) ≤ double (decimal phrase.whole) := by
      have one : double ((1 : Nat) : ℚ) = (1 : Nat) := double_nat (by norm_num)
      rw [Nat.cast_one] at one
      exact one ▸ double_mono (by norm_num) (by exact_mod_cast some)
    have shorter : phrase.seconds < double (decimal phrase.whole) := by
      have near := (double_close (double (decimal phrase.whole) / 1000)
        (le_trans (by norm_num) (div_le_div_of_nonneg_right least (by norm_num)))).2
      rw [seconds_milliseconds plain unit]
      linarith
    rw [TimeUnit.scale] at same
    refine iff_of_true ?_ (.inr (.inl (scaled ▸ shorter)))
    rw [same] at shorter ⊢
    exact within_of_lt count (double_double _) held (seconds_nonneg plain) shorter

/-- What is read of a long phrase is long. -/
theorem scaled_large (phrase : Phrase) {unit : TimeUnit} (whole : unit ≠ .millisecond)
    (short : unit ≠ .week ∧ unit ≠ .year) (read : phrase.readUnit = unit)
    (long : 2 ^ 52 < decimal phrase.whole * unit.wholeSeconds + lastSecond) :
    ((2 ^ 52 : Int) : ℚ) < phrase.scaled + lastSecond := by
  have dates : lastSecond = 8640000000000 := rfl
  have factor : 0 < unit.wholeSeconds ∧ unit.wholeSeconds ≤ 86400 := by
    cases unit with
    | millisecond => exact absurd rfl whole
    | week => exact absurd rfl short.1
    | year => exact absurd rfl short.2
    | second | minute | hour | day => decide
  -- the first amount that is too long is read exactly
  obtain ⟨least, reached, above, below⟩ : ∃ least, least ≤ decimal phrase.whole ∧
      4494959627370496 < least * unit.wholeSeconds ∧ least * unit.wholeSeconds ≤ 2 ^ 53 := by
    have more : 4494959627370496 < decimal phrase.whole * unit.wholeSeconds := by
      have : (4494959627370496 : Int) < decimal phrase.whole * unit.wholeSeconds := by omega
      exact_mod_cast this
    refine ⟨4494959627370496 / unit.wholeSeconds + 1, ?_, ?_, ?_⟩
    · exact (Nat.div_lt_iff_lt_mul factor.1).mpr more
    · have := Nat.lt_div_mul_add (a := 4494959627370496) factor.1
      rw [add_mul, one_mul]
      exact this
    · have := Nat.div_mul_le_self 4494959627370496 unit.wholeSeconds
      rw [add_mul, one_mul]
      omega
  have held : double (least : ℚ) = least :=
    double_nat ((Nat.le_mul_of_pos_right _ factor.1).trans below)
  have grows := scale_mono unit (Nat.cast_nonneg least)
    (held ▸ double_mono (Nat.cast_nonneg least) (Nat.cast_le.mpr reached))
  rw [scale_exact whole short below] at grows
  have aboveCast : (4494959627370496 : ℚ) < (least * unit.wholeSeconds : Nat) := by
    exact_mod_cast above
  rw [Parts.scaled, read, dates]
  push_cast at *
  linarith

/-- Digits followed by a longer unit, which both sides multiply in ways of their own. -/
theorem longer_iff (plain : phrase.amount = decimal phrase.whole) (whole : unit ≠ .millisecond)
    (short : unit ≠ .week ∧ unit ≠ .year) (same : phrase.unit = unit) (read : phrase.readUnit = unit) :
    Within phrase.seconds (inSeconds (number phrase.whole) unit) ↔ phrase.InTime := by
  have meant : phrase.meant = (decimal phrase.whole * unit.wholeSeconds : Nat) := by
    rw [Parts.meant, plain, same, milliseconds_whole whole]
    push_cast
    ring
  have scaled : unit.scale (double (decimal phrase.whole)) = phrase.scaled := by
    rw [Parts.scaled, read]
  have amounts : 0 ≤ double (decimal phrase.whole) := double_nonneg (Nat.cast_nonneg _)
  rw [number_phrase, inSeconds_scale whole amounts
    (double_le_pow (Nat.cast_nonneg _) (decimal_most phrase)), scaled]
  rcases le_or_gt (decimal phrase.whole * unit.wholeSeconds + lastSecond) (2 ^ 52) with few | many
  · have positive : 0 < unit.wholeSeconds := by
      cases unit with
      | millisecond => exact absurd rfl whole
      | second | minute | hour | day | week | year => decide
    have dates : lastSecond = 8640000000000 := rfl
    have small : decimal phrase.whole * unit.wholeSeconds ≤ 2 ^ 53 := by
      have : (decimal phrase.whole * unit.wholeSeconds : Int) ≤ 2 ^ 53 := by omega
      exact_mod_cast this
    have held : decimal phrase.whole ≤ 2 ^ 53 := (Nat.le_mul_of_pos_right _ positive).trans small
    have moderate : ((decimal phrase.whole * unit.wholeSeconds : Nat) : Int) + lastSecond ≤ 2 ^ 52 := by
      exact_mod_cast few
    have exactly : phrase.scaled = (decimal phrase.whole * unit.wholeSeconds : Nat) := by
      rw [← scaled, double_nat held, scale_exact whole short small]
    refine iff_of_true ?_ (.inl ?_)
    · intro iat first last
      have ends := expiry_close (decimal phrase.whole * unit.wholeSeconds : Nat) first last moderate
        (seconds_nonneg plain) (seconds_close plain meant moderate held)
      exact atMost_of_le (decimal phrase.whole * unit.wholeSeconds : Nat) (by omega)
        (by rw [exactly, Int.cast_natCast])
    · rw [meant]
      have cast : ((decimal phrase.whole * unit.wholeSeconds : Nat) : ℚ) + lastSecond ≤ 2 ^ 52 := by
        exact_mod_cast moderate
      linarith
  · obtain ⟨count, counted, held⟩ := scale_whole (decimal phrase.whole) unit whole
    rw [scaled] at counted
    have large : 2 ^ 52 < (count : Int) + lastSecond := by
      have cast := scaled_large phrase whole short read many
      rw [counted] at cast
      exact_mod_cast cast
    have long : ¬ phrase.meant ≤ 2 ^ 52 - lastSecond := by
      rw [meant, not_le, sub_lt_iff_lt_add]
      exact_mod_cast many
    simp only [Parts.InTime, long, false_or, counted]
    exact within_iff count (double_double _) held large (seconds_nonneg plain)

/-- What is matched of a phrase is its digits, in a unit that means the same to the library. -/
theorem matched_read (matched : phrase.matched = some unit) :
    phrase.amount = decimal phrase.whole ∧ phrase.readUnit = unit ∧
      (unit ≠ .week ∧ unit ≠ .year) ∧
        (phrase.unit = unit ∨ phrase.unit = .millisecond ∧ unit = .second) := by
  obtain ⟨unsigned, whole, spelled⟩ := (matched_iff phrase.toParts).mp ⟨unit, matched⟩
  refine ⟨by simp [Parts.amount, unsigned, whole], ?_⟩
  cases spelling : phrase.spelling with
  | none =>
    obtain rfl : .second = unit := by
      simpa [Parts.matched, unsigned, whole, spelling] using matched
    simp [Parts.readUnit, Parts.unit, spelling]
  | some written =>
    have directly := (spelled written spelling).1
    have found : matchedUnits.lookup (written.letters.map Char.toLower) = some unit := by
      simpa [Parts.matched, unsigned, whole, spelling, directly] using matched
    obtain ⟨before, after, split, -⟩ := List.lookup_eq_some_iff.mp found
    have known : (written.letters.map Char.toLower, unit) ∈ matchedUnits := by
      rw [split]
      exact List.mem_append_right _ (List.mem_cons_self ..)
    have same : written.unit = unit := matchedUnits_known _ written.known _ known rfl
    simp [Parts.readUnit, Parts.unit, spelling, same, matchedUnits_short _ known]

/-- When the marks of a plain phrase outlive its tokens. -/
theorem plain_iff (matched : phrase.matched = some unit) :
    Within phrase.seconds (inSeconds (number phrase.whole) unit) ↔ phrase.InTime := by
  obtain ⟨plain, read, short, same | ⟨milliseconds, rfl⟩⟩ := matched_read matched
  · by_cases whole : unit = .millisecond
    · subst whole
      exact milliseconds_iff plain same read
    · exact longer_iff plain whole short same read
  · exact unitless_iff plain milliseconds read

end Plain

/-- What the library is documented to make of a value, at every date. -/
def Signs (sign : Expiry → Int → Option Int) (accepted : Accepted) : Prop :=
  ∀ iat : Int, 0 ≤ iat → iat ≤ lastSecond →
    sign accepted.value iat = some ⌊double (iat + accepted.span)⌋

/-- A mark is kept at least as long as a token lives, whatever the date of issue. -/
def Outlives (sign : Expiry → Int → Option Int) (env : Env) : Prop :=
  ∀ iat exp now, 0 ≤ iat → iat ≤ lastSecond → generateToken sign env iat = some exp →
    (Number.finite (exp - iat : Int)).atMost (ttlSeconds env none now) = true

/-- Whole seconds that end in time, plain phrases that do, and other phrases whose span is so short
that no date carries it to an hour and a second. -/
def Covered : Accepted → Prop
  | .seconds count _ => Timely count
  | .words phrase => phrase.Plain ∧ phrase.InTime ∨
      ¬ phrase.Plain ∧ phrase.seconds < 3601 - 1 / 2 ^ 11

/-- The tokens and the marks of a value are compared at its span. -/
theorem outlives_iff {sign : Expiry → Int → Option Int} {env : Env} {accepted : Accepted}
    (configured : getJwtExpiration env = accepted.value) (documented : Signs sign accepted) :
    Outlives sign env ↔ Within accepted.span (parseDurationToSeconds accepted.value) := by
  simp only [Outlives, generateToken, ttlSeconds, configured]
  constructor
  · intro outlives iat first last
    exact outlives iat _ 0 first last (documented iat first last)
  · intro within iat exp now first last issued
    rw [documented iat first last, Option.some.injEq] at issued
    exact issued ▸ within iat first last

/-- A phrase that is not plain is read as an hour. -/
theorem hour_within_iff (span : ℚ) :
    Within span (.finite 3600) ↔ span < 3601 - 1 / 2 ^ 11 := by
  rw [← expiry_hour_iff]
  refine forall_congr' fun iat => forall_congr' fun _ => forall_congr' fun _ => ?_
  simp only [Number.atMost, decide_eq_true_eq]
  rw [show (3600 : ℚ) = ((3600 : Int) : ℚ) by norm_num, Int.cast_le]
  omega

/-- The marks outlive the tokens of exactly the covered values. -/
theorem marks_outlive (sign : Expiry → Int → Option Int) (env : Env) (accepted : Accepted)
    (configured : getJwtExpiration env = accepted.value) (documented : Signs sign accepted) :
    Outlives sign env ↔ Covered accepted := by
  rw [outlives_iff configured documented]
  cases accepted with
  | seconds count held =>
    have read : parseDurationToSeconds (.number count) = .finite ((max 1 count : Int) : ℚ) := by
      rw [parseDurationToSeconds, Number.floor, Int.floor_intCast, max_finite, Int.cast_max,
        Int.cast_one]
    simp only [Accepted.span, Accepted.value, Covered, read]
    exact count_within_iff held
  | words phrase =>
    simp only [Accepted.span, Accepted.value, parse_phrase, Covered, ← matched_iff]
    cases matched : phrase.matched with
    | none => simp [hour_within_iff]
    | some unit => simp [plain_iff matched]

/-- A mark that is given when the token expires is kept until then. -/
theorem given_outlives (env : Env) {expiresAt now : Int} (clock : 0 ≤ now)
    (date : expiresAt ≤ lastSecond * 1000) (before : now ≤ expiresAt) :
    (Number.finite ((expiresAt - now : Int) / 1000)).atMost (ttlSeconds env (some expiresAt) now) =
      true := by
  unfold lastSecond at date
  have nonneg : (0 : ℚ) ≤ (expiresAt - now : Int) := by exact_mod_cast (by omega : 0 ≤ expiresAt - now)
  have most : ((expiresAt - now : Int) : ℚ) ≤ 8640000000000000 := by
    exact_mod_cast (by omega : expiresAt - now ≤ 8640000000000000)
  have left : (Number.finite expiresAt).minus (.finite now) = .finite (expiresAt - now : Int) := by
    rw [Number.minus, ← Int.cast_sub, nearest_ordinary, double_int]
    · rw [abs_of_nonneg (by omega)]
      omega
    · rw [abs_of_nonneg nonneg]
      exact most.trans (by norm_num)
  have size : |((expiresAt - now : Int) : ℚ) / 1000| < 2 ^ ((42 : Int) + 1) := by
    rw [abs_of_nonneg (by positivity)]
    norm_num
    push_cast at most
    linarith
  have divided : (Number.finite (expiresAt - now : Int)).dividedBy 1000 =
      .finite (double ((expiresAt - now : Int) / 1000)) :=
    nearest_ordinary (size.le.trans (by norm_num))
  rw [ttlSeconds, left, divided, Number.ceil, max_finite]
  refine decide_eq_true ?_
  -- a thousandth of a second is wider than the spacing of doubles
  by_contra short
  rw [not_le, max_lt_iff] at short
  have lower : ⌈double ((expiresAt - now : Int) / 1000)⌉ * 1000 + 1 ≤ expiresAt - now := by
    have below := short.2
    rw [lt_div_iff₀ (by norm_num)] at below
    have : ⌈double ((expiresAt - now : Int) / 1000)⌉ * 1000 < expiresAt - now := by
      exact_mod_cast below
    omega
  have lowerCast : (⌈double ((expiresAt - now : Int) / 1000)⌉ : ℚ) * 1000 + 1 ≤
      (expiresAt - now : Int) := by
    exact_mod_cast lower
  have ceiling := Int.le_ceil (double ((expiresAt - now : Int) / 1000))
  have near := (abs_le.mp (double_within _ 42 size (by norm_num))).1
  norm_num at near
  push_cast at *
  linarith

/-- Small whole numbers are signed without any rounding. -/
theorem signs_small {phrase : Phrase} {amount seconds : Nat} (plain : phrase.amount = amount)
    (meant : phrase.meant = seconds) (held : amount ≤ 2 ^ 53) (small : seconds ≤ 2 ^ 40) :
    ∀ iat : Int, 0 ≤ iat → iat ≤ lastSecond →
      ⌊double (iat + (Accepted.words phrase).span)⌋ = iat + seconds := by
  intro iat first last
  unfold lastSecond at last
  have product : double phrase.amount * phrase.unit.milliseconds = (seconds * 1000 : Nat) := by
    rw [plain, double_nat held, ← plain]
    push_cast
    rw [← meant, Parts.meant]
    ring
  have span : phrase.seconds = seconds := by
    rw [Parts.seconds, Parts.milliseconds, product, double_nat (by omega)]
    push_cast
    rw [mul_div_cancel_right₀ _ (by norm_num), double_nat (by omega)]
  have whole : double ((iat + seconds : Int) : ℚ) = (iat + seconds : Int) :=
    double_int (by rw [abs_of_nonneg (by omega)]; omega)
  have sum : (iat : ℚ) + (Accepted.words phrase).span = (iat + seconds : Int) := by
    rw [Accepted.span, span]
    push_cast
    rfl
  rw [sum, whole, Int.floor_intCast]

/-- The default `15m`. -/
def defaultPhrase : Phrase where
  negative := false
  whole := "15".toList
  fraction := none
  spaces := 0
  spelling := some ⟨"m".toList, .minute, by decide⟩
  digits := List.all_eq_true.mp rfl
  nonempty := by decide
  short := by decide

/-- Its marks outlive its tokens, which live for 900 seconds. -/
theorem default_outlive :
    Outlives (fun _ iat => some (iat + 900)) ⟨some (.text "15m".toList), none⟩ := by
  have digits : decimal defaultPhrase.whole = 15 := rfl
  have amount : defaultPhrase.amount = (15 : Nat) := by
    simp only [Parts.amount, digits]
    norm_num [defaultPhrase]
  have meant : defaultPhrase.meant = (900 : Nat) := by
    rw [Parts.meant, amount, show defaultPhrase.unit = .minute from rfl, TimeUnit.milliseconds]
    norm_num
  have plain : defaultPhrase.Plain := ⟨rfl, rfl, by rintro spelling ⟨⟩; decide⟩
  refine (marks_outlive _ _ (.words defaultPhrase) rfl ?_).mpr (.inl ⟨plain, .inl ?_⟩)
  · intro iat first last
    rw [signs_small amount meant (by norm_num) (by norm_num) iat first last]
    rfl
  · rw [meant]
    norm_num [lastSecond]

/-- `2 days`, as the library writes it. -/
def daysPhrase : Phrase where
  negative := false
  whole := "2".toList
  fraction := none
  spaces := 1
  spelling := some ⟨"days".toList, .day, by decide⟩
  digits := List.all_eq_true.mp rfl
  nonempty := by decide
  short := by decide

/-- A mark is kept for an hour where a token lives for two days. -/
theorem days_outlived : ¬ ∀ (sign : Expiry → Int → Option Int) (env : Env) (accepted : Accepted),
    getJwtExpiration env = accepted.value → Signs sign accepted → Outlives sign env := by
  intro outlive
  have digits : decimal daysPhrase.whole = 2 := rfl
  have amount : daysPhrase.amount = (2 : Nat) := by
    simp only [Parts.amount, digits]
    norm_num [daysPhrase]
  have meant : daysPhrase.meant = (172800 : Nat) := by
    rw [Parts.meant, amount, show daysPhrase.unit = .day from rfl, TimeUnit.milliseconds]
    norm_num
  have kept := outlive (fun _ iat => some (iat + 172800)) ⟨some (.text "2 days".toList), none⟩
    (.words daysPhrase) rfl ?_ 0 172800 0 le_rfl (by decide) rfl
  · have read : ttlSeconds ⟨some (.text "2 days".toList), none⟩ none 0 = .finite 3600 := rfl
    rw [read] at kept
    norm_num [Number.atMost] at kept
  · intro iat first last
    rw [signs_small amount meant (by norm_num) (by norm_num) iat first last]
    rfl

end Lifetimes

end PlanBuddy.TokenLifetimes
