import Mathlib.Data.List.Basic
import Mathlib.Tactic.IntervalCases
import PlanBuddy.ParseInt
import PlanBuddy.Words

/-!
# Allowed proxies

Which source addresses `proxyValidation.js` takes for a proxy. An entry of the list is an
address or a block, and either may be written with the prefix of a mapped address. A block
is compared under a mask that is built with 32-bit operators, signed results included; the
comparison is nevertheless the one of the leading bits.

`net.isIP` knows IPv4 by its four decimal parts; its IPv6 grammar is a parameter.
-/

namespace PlanBuddy.ProxyAddresses

open Words (Word)

section Model

abbrev Text := List Char

/-- A part of an address: no leading zero, and at most 255. -/
def segment (part : Text) : Bool :=
  decide (part ≠ [] ∧ part.length ≤ 3) && part.all Char.isDigit &&
    decide (part.length = 1 ∨ part.head? ≠ some '0') &&
      (ParseInt.parseInt (some 10) part).any fun value => decide (value ≤ 255)

def isIPv4 (text : Text) : Bool :=
  let parts := text.splitOn '.'
  decide (parts.length = 4) && parts.all segment

/-- `net.isIP`. -/
def isIP (isIPv6 : Text → Bool) (text : Text) : Nat :=
  if isIPv4 text then 4 else if isIPv6 text then 6 else 0

/-- The part of `config/env.js` that names proxies. -/
structure Env where
  isDev : Bool
  knownProxyIps : Option (List Text)

def getKnownProxyIPs (env : Env) : List Text :=
  if env.isDev then ["127.0.0.1", "::1", "::ffff:127.0.0.1", "localhost"].map String.toList
  else env.knownProxyIps.getD []

def mapped : Text := [':', ':', 'f', 'f', 'f', 'f', ':']

/-- What is no text, or an empty one, is an empty text. -/
def normalizeIp (ip : Text) : Text := if mapped.isPrefixOf ip then ip.drop 7 else ip

/-- The groups of `/^(\d+)\.(\d+)\.(\d+)\.(\d+)$/`. -/
def matchParts (ip : Text) : Option (Text × Text × Text × Text) :=
  match ip.splitOn '.' with
  | [a, b, c, d] =>
    if [a, b, c, d].all fun part => decide (part ≠ []) && part.all Char.isDigit then
      some (a, b, c, d)
    else none
  | _ => none

def ipToNumber (ip : Text) : Option Int := do
  let (a, b, c, d) ← matchParts ip
  let a ← ParseInt.parseInt (some 10) a
  let b ← ParseInt.parseInt (some 10) b
  let c ← ParseInt.parseInt (some 10) c
  let d ← ParseInt.parseInt (some 10) d
  return Words.shiftRight (Words.bitOr (Words.bitOr (Words.bitOr (Words.shiftLeft a 24)
    (Words.shiftLeft b 16)) (Words.shiftLeft c 8)) d) 0

def mask (prefixLen : Int) : Int :=
  if prefixLen = 0 then 0
  else Words.shiftRight (Words.shiftLeft 0xffffffff (32 - prefixLen)) 0

/-- `const [base, prefix] = cidr.split('/')` leaves the rest of the parts alone. -/
def splitCidr (cidr : Text) : Option (Text × Text) :=
  match cidr.splitOn '/' with
  | base :: size :: _ => if base = [] ∨ size = [] then none else some (base, size)
  | _ => none

variable (isIPv6 : Text → Bool)

def cidrContains (ip cidr : Text) : Bool :=
  match splitCidr cidr with
  | none => false
  | some (base, size) =>
    let normalizedIp := normalizeIp ip
    let normalizedBase := normalizeIp base
    if isIP isIPv6 normalizedIp ≠ 4 ∨ isIP isIPv6 normalizedBase ≠ 4 then false
    else
      match ipToNumber normalizedIp, ipToNumber normalizedBase with
      | some ipNum, some baseNum =>
        match ParseInt.parseInt (some 10) size with
        | none => false
        | some prefixLen =>
          if prefixLen < 0 ∨ 32 < prefixLen then false
          else decide (Words.bitAnd ipNum (mask prefixLen) = Words.bitAnd baseNum (mask prefixLen))
      | _, _ => false

/-- One round of the loop over the entries. -/
def allows (normalizedIp entry : Text) : Bool :=
  let normalizedEntry := normalizeIp entry
  decide (normalizedEntry = normalizedIp) ||
    decide ('/' ∈ normalizedEntry) && cidrContains isIPv6 normalizedIp normalizedEntry

def isAllowedProxy (env : Env) (sourceIp : Option Text) : Bool :=
  let normalizedIp := normalizeIp (sourceIp.getD [])
  if normalizedIp = [] ∨ isIP isIPv6 normalizedIp = 0 then false
  else (getKnownProxyIPs env).any (allows isIPv6 normalizedIp)

end Model

section Dotted

/-- The part of an address from the bit `low` on. -/
def octet (address : Word) (low : Nat) : Word := (address >>> low) &&& 255#32

/-- The decimal text of a part. -/
def digits (part : Word) : Text := Nat.toDigits 10 part.toNat

/-- The four parts of an address. -/
def octets (address : Word) : List Word :=
  [octet address 24, octet address 16, octet address 8, octet address 0]

/-- An address in dotted form. -/
def dotted (address : Word) : Text := ['.'].intercalate ((octets address).map digits)

/-- An address as it may be written, as it is or with the prefix of a mapped one. -/
def write (isMapped : Bool) (address : Word) : Text :=
  if isMapped then mapped ++ dotted address else dotted address

/-- An octet is below 256. -/
theorem octet_lt (address : Word) (low : Nat) : (octet address low).toNat < 256 := by
  rw [octet, BitVec.toNat_and]
  exact Nat.lt_of_le_of_lt Nat.and_le_right (by decide)

/-- A part's decimal text is a part, and its value is read back. -/
theorem segment_digits : ∀ value < 256,
    segment (Nat.toDigits 10 value) = true ∧
      ParseInt.parseInt (some 10) (Nat.toDigits 10 value) = some (value : Int) := by
  decide +kernel

/-- Its digits are a segment of an address. -/
theorem octet_segment (address : Word) (low : Nat) : segment (digits (octet address low)) = true :=
  (segment_digits _ (octet_lt address low)).1

/-- They are read as the octet. -/
theorem octet_read (address : Word) (low : Nat) :
    ParseInt.parseInt (some 10) (digits (octet address low)) =
      some ((octet address low).toNat : Int) :=
  (segment_digits _ (octet_lt address low)).2

/-- They are digits. -/
theorem digits_isDigit {part : Word} {char : Char} (member : char ∈ digits part) :
    char.isDigit = true :=
  Nat.isDigit_of_mem_toDigits (by decide) (by decide) member

/-- Put in their places again, the parts are the address. -/
theorem octets_join (address : Word) :
    (octet address 24 <<< 24 ||| octet address 16 <<< 16 ||| octet address 8 <<< 8 |||
      octet address 0) = address := by
  refine BitVec.eq_of_getLsbD_eq fun index inside => ?_
  simp only [octet]
  interval_cases index <;> simp

/-- An address is written in digits and dots. -/
theorem dotted_chars {address : Word} {char : Char} (member : char ∈ dotted address) :
    char.isDigit = true ∨ char = '.' := by
  simp only [dotted, octets, List.map_cons, List.map_nil, List.intercalate, List.intersperse,
    List.flatten_cons, List.flatten_nil, List.mem_append, List.mem_singleton, List.not_mem_nil,
    or_false] at member
  rcases member with inside | dot | inside | dot | inside | dot | inside
  · exact .inl (digits_isDigit inside)
  · exact .inr dot
  · exact .inl (digits_isDigit inside)
  · exact .inr dot
  · exact .inl (digits_isDigit inside)
  · exact .inr dot
  · exact .inl (digits_isDigit inside)

/-- Its parts are the digits of its octets. -/
theorem dotted_parts (address : Word) :
    (dotted address).splitOn '.' = (octets address).map digits := by
  refine List.splitOn_intercalate '.' ?_ (by simp [octets])
  intro part member dot
  obtain ⟨octet, -, rfl⟩ := List.mem_map.mp member
  exact absurd (digits_isDigit dot) (by decide)

/-- A written address is one of version 4. -/
theorem isIPv4_dotted (address : Word) : isIPv4 (dotted address) = true := by
  simp [isIPv4, dotted_parts, octets, octet_segment]

/-- The regular expression finds the parts of a written address. -/
theorem matchParts_dotted (address : Word) : matchParts (dotted address) =
    some (digits (octet address 24), digits (octet address 16), digits (octet address 8),
      digits (octet address 0)) := by
  have group : ∀ low, (decide (digits (octet address low) ≠ []) &&
      (digits (octet address low)).all Char.isDigit) = true := by
    intro low
    rw [Bool.and_eq_true, decide_eq_true_eq, List.all_eq_true]
    refine ⟨?_, fun char member => digits_isDigit member⟩
    intro empty
    have read := octet_read address low
    rw [empty] at read
    cases read
  rw [matchParts, dotted_parts]
  simp only [octets, List.map_cons, List.map_nil, List.all_cons, List.all_nil, group, Bool.and_self,
    ↓reduceIte]

/-- Its number is the address. -/
theorem ipToNumber_dotted (address : Word) :
    ipToNumber (dotted address) = some (address.toNat : Int) := by
  rw [ipToNumber, matchParts_dotted]
  simp only [Option.bind_eq_bind, Option.bind_some, octet_read, Words.shiftRight_zero,
    Words.toWord_bitOr, Words.toWord_shiftLeft, Words.toWord_toNat]
  exact congrArg (fun word : Word => some (word.toNat : Int)) (octets_join address)

end Dotted

section Matching

variable (isIPv6 : Text → Bool)

/-- The leading bits of two addresses are equal. -/
def SameTop (size : Nat) (one other : Word) : Prop := one >>> (32 - size) = other >>> (32 - size)

/-- An IPv4 address or block, and whether it has the prefix of a mapped address. -/
inductive Entry where
  | single (isMapped : Bool) (address : Word)
  | block (isMapped : Bool) (base : Word) (size : Fin 33)

def Entry.text : Entry → Text
  | .single isMapped address => write isMapped address
  | .block isMapped base size => write isMapped base ++ '/' :: Nat.toDigits 10 size

/-- The entry is the address, or a block around it. -/
def Entry.Covers (ip : Word) : Entry → Prop
  | .single _ address => address = ip
  | .block _ base size => SameTop size ip base

/-- Any other character is not in it. -/
theorem dotted_plain {address : Word} {char : Char} (noDigit : char.isDigit = false)
    (noDot : char ≠ '.') : char ∉ dotted address := by
  intro member
  rcases dotted_chars member with digit | dot
  · rw [noDigit] at digit
    cases digit
  · exact noDot dot

/-- The prefix of a mapped address is taken off. -/
theorem normalizeIp_mapped (text : Text) : normalizeIp (mapped ++ text) = text := by
  simp [normalizeIp, mapped]

/-- A mapped address begins with a colon. -/
theorem normalizeIp_plain {text : Text} (plain : ':' ∉ text) : normalizeIp text = text := by
  refine if_neg fun starts => plain ?_
  obtain ⟨rest, rfl⟩ := List.isPrefixOf_iff_prefix.mp starts
  exact List.mem_append_left _ (List.mem_cons_self ..)

/-- A plain one stays as it is. -/
theorem normalizeIp_dotted (address : Word) : normalizeIp (dotted address) = dotted address :=
  normalizeIp_plain (dotted_plain (by decide) (by decide))

/-- Either form comes to the plain one. -/
theorem normalizeIp_write (isMapped : Bool) (address : Word) :
    normalizeIp (write isMapped address) = dotted address := by
  cases isMapped with
  | false => exact normalizeIp_dotted address
  | true => exact normalizeIp_mapped _

/-- Different addresses are written differently. -/
theorem dotted_injective {one other : Word} (same : dotted one = dotted other) : one = other := by
  have numbers := ipToNumber_dotted one
  rw [same, ipToNumber_dotted, Option.some.injEq, Int.natCast_inj] at numbers
  exact (BitVec.eq_of_toNat_eq numbers).symm

/-- None is written as nothing. -/
theorem dotted_nonempty (address : Word) : dotted address ≠ [] := by
  intro empty
  have parts := isIPv4_dotted address
  rw [empty] at parts
  cases parts

/-- `net.isIP` knows it as one of version 4. -/
theorem isIP_dotted (address : Word) : isIP isIPv6 (dotted address) = 4 :=
  if_pos (isIPv4_dotted address)

/-- The size of a block in decimal is read back. -/
theorem size_read : ∀ size : Fin 33,
    ParseInt.parseInt (some 10) (Nat.toDigits 10 size) = some ((size : Nat) : Int) ∧
      Nat.toDigits 10 size ≠ [] ∧ '/' ∉ Nat.toDigits 10 size ∧ ':' ∉ Nat.toDigits 10 size := by
  decide +kernel

/-- The mask keeps the leading bits. -/
theorem toWord_mask (size : Fin 33) :
    Words.toWord (mask ((size : Nat) : Int)) = BitVec.allOnes 32 <<< (32 - (size : Nat)) := by
  revert size
  decide +kernel

/-- A range is split at its slash. -/
theorem splitCidr_text {base size : Text} (plainBase : '/' ∉ base) (plainSize : '/' ∉ size)
    (someBase : base ≠ []) (someSize : size ≠ []) :
    splitCidr (base ++ '/' :: size) = some (base, size) := by
  have parts : (base ++ '/' :: size).splitOn '/' = [base, size] := by
    have joined : base ++ '/' :: size = ['/'].intercalate [base, size] := by
      simp [List.intercalate]
    rw [joined]
    refine List.splitOn_intercalate '/' ?_ (by simp)
    simp [plainBase, plainSize]
  simp [splitCidr, parts, someBase, someSize]

/-- A range contains the addresses with the same top bits, in either form. -/
theorem cidrContains_iff (ipMapped baseMapped : Bool) (ip base : Word) (size : Fin 33) :
    cidrContains isIPv6 (write ipMapped ip) (write baseMapped base ++ '/' :: Nat.toDigits 10 size) =
      true ↔ SameTop size ip base := by
  obtain ⟨sizeRead, someSize, plainSize, -⟩ := size_read size
  have plainBase : '/' ∉ write baseMapped base := by
    have plain : '/' ∉ dotted base := dotted_plain (by decide) (by decide)
    cases baseMapped with
    | false => exact plain
    | true => simp [write, mapped, plain]
  have someBase : write baseMapped base ≠ [] := by
    intro empty
    have normalized := normalizeIp_write baseMapped base
    rw [empty] at normalized
    exact dotted_nonempty base normalized.symm
  have inRange : ¬ (((size : Nat) : Int) < 0 ∨ 32 < ((size : Nat) : Int)) := by omega
  rw [cidrContains, splitCidr_text plainBase plainSize someBase someSize]
  simp only [normalizeIp_write, isIP_dotted, ipToNumber_dotted, sizeRead, inRange, ne_eq,
    not_true_eq_false, or_self, ↓reduceIte, decide_eq_true_eq]
  rw [Words.bitAnd_eq_iff, toWord_mask, Words.toWord_toNat, Words.toWord_toNat]
  exact Words.masked_eq_iff ip base _

/-- One round of the loop allows the address exactly if the entry covers it. -/
theorem allows_iff (ip : Word) (entry : Entry) :
    allows isIPv6 (dotted ip) entry.text = true ↔ entry.Covers ip := by
  have plain : ∀ address : Word, '/' ∉ dotted address :=
    fun address => dotted_plain (by decide) (by decide)
  cases entry with
  | single isMapped address =>
    rw [allows, Entry.text, normalizeIp_write]
    simp only [plain address, decide_false, Bool.false_and, Bool.or_false, decide_eq_true_eq]
    exact ⟨dotted_injective, congrArg dotted⟩
  | block isMapped base size =>
    have normalized : normalizeIp (write isMapped base ++ '/' :: Nat.toDigits 10 size) =
        dotted base ++ '/' :: Nat.toDigits 10 size := by
      cases isMapped with
      | false =>
        refine normalizeIp_plain fun colon => ?_
        rcases List.mem_append.mp colon with inBase | inSize
        · exact dotted_plain (by decide) (by decide) inBase
        · rcases List.mem_cons.mp inSize with slash | inSize
          · exact absurd slash (by decide)
          · exact (size_read size).2.2.2 inSize
      | true => rw [write, if_pos rfl, List.append_assoc, normalizeIp_mapped]
    have different : dotted base ++ '/' :: Nat.toDigits 10 size ≠ dotted ip := by
      intro same
      refine plain ip ?_
      rw [← same]
      exact List.mem_append_right _ (List.mem_cons_self ..)
    have contains := cidrContains_iff isIPv6 false false ip base size
    simp only [write, Bool.false_eq_true, ↓reduceIte] at contains
    rw [allows, Entry.text, normalized]
    simp only [different, decide_false, Bool.false_or, List.mem_append, List.mem_cons, true_or,
      or_true, decide_true, Bool.true_and, contains]
    exact Iff.rfl

/-- A block is matched by its leading bits, and a source address is allowed exactly if an
entry of the list covers it. -/
theorem matching_exact :
    (∀ (ipMapped baseMapped : Bool) (ip base : Word) (size : Fin 33),
      cidrContains isIPv6 (write ipMapped ip)
        (write baseMapped base ++ '/' :: Nat.toDigits 10 size) = true ↔ SameTop size ip base) ∧
    ∀ (entries : List Entry) (isMapped : Bool) (ip : Word),
      isAllowedProxy isIPv6 ⟨false, some (entries.map Entry.text)⟩ (some (write isMapped ip)) =
        true ↔ ∃ entry ∈ entries, entry.Covers ip := by
  refine ⟨cidrContains_iff isIPv6, fun entries isMapped ip => ?_⟩
  simp [isAllowedProxy, normalizeIp_write, dotted_nonempty, isIP_dotted, getKnownProxyIPs, allows_iff]

end Matching

end PlanBuddy.ProxyAddresses
