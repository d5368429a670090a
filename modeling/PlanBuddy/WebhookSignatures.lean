import PlanBuddy.WebhookIngest

/-!
# Webhook signatures

A signature is compared after it has been decoded, and the decoder stops at the first pair that
is not two hexadecimal digits. What follows a signature is therefore ignored when it starts with
no such pair, and a text is accepted that is no encoding of the digest.
-/

namespace PlanBuddy.WebhookSignatures

open WebhookIngest

section Hex

def hexChar (digit : Nat) : Char := Char.ofNat (if digit < 10 then 48 + digit else 87 + digit)

/-- `digest('hex')`. -/
def toHex : Bytes → List Char
  | [] => []
  | byte :: rest => hexChar (byte.toNat / 16) :: hexChar (byte.toNat % 16) :: toHex rest

/-- A byte is written in two digits. -/
theorem toHex_length (bytes : Bytes) : (toHex bytes).length = 2 * bytes.length := by
  induction bytes with
  | nil => rfl
  | cons byte rest inductionHypothesis =>
    simp only [toHex, List.length_cons, inductionHypothesis]
    omega

/-- A text begins with two digits. -/
def startsPair : List Char → Bool
  | high :: low :: _ => (hexDigit high).isSome && (hexDigit low).isSome
  | _ => false

/-- The digits, by the codes of their characters. -/
theorem hexDigit_codes : ∀ code < 128, ∀ digit < 16,
    hexDigit (Char.ofNat code) = some digit ↔ (Char.ofNat code).toLower = hexChar digit := by
  decide +kernel

/-- A digit is below sixteen. -/
theorem hexDigit_small : ∀ code < 128, ∀ digit ∈ hexDigit (Char.ofNat code), digit < 16 := by
  decide +kernel

/-- It is written in ASCII. -/
theorem hexChar_ascii : ∀ digit < 16, (hexChar digit).toNat < 128 := by decide

/-- Other characters are above all of ASCII. -/
theorem above_ascii {char bound : Char} (large : 128 ≤ char.toNat) (small : bound.toNat < 128) :
    ¬ char ≤ bound := by
  rw [Char.le_def, UInt32.le_iff_toNat_le]
  exact fun below => absurd (Nat.le_trans large below) (Nat.not_le.mpr small)

/-- A digit is read from its character in either letter case, and from no other one. -/
theorem hexDigit_iff {char : Char} {digit : Nat} :
    hexDigit char = some digit ↔ digit < 16 ∧ char.toLower = hexChar digit := by
  by_cases ascii : char.toNat < 128
  · have codes := hexDigit_codes char.toNat ascii digit
    have small := hexDigit_small char.toNat ascii digit
    rw [Char.ofNat_toNat] at codes small
    constructor
    · intro read
      exact ⟨small read, (codes (small read)).mp read⟩
    · rintro ⟨small, same⟩
      exact (codes small).mpr same
  · have large : 128 ≤ char.toNat := Nat.not_lt.mp ascii
    have unread : hexDigit char = none := by
      simp [hexDigit, above_ascii large (by decide : ('9' : Char).toNat < 128),
        above_ascii large (by decide : ('f' : Char).toNat < 128),
        above_ascii large (by decide : ('F' : Char).toNat < 128)]
    have unchanged : char.toLower = char := by
      refine dif_neg fun upper => above_ascii large (by decide : ('Z' : Char).toNat < 128) ?_
      exact upper.2
    rw [unread, unchanged]
    refine ⟨nofun, ?_⟩
    rintro ⟨small, rfl⟩
    exact absurd (hexChar_ascii digit small) ascii

/-- A pair of digits is the encoding of the byte that is read from it. -/
theorem pair_iff {high low : Char} {byte : UInt8} :
    (high.toLower = hexChar (byte.toNat / 16) ∧ low.toLower = hexChar (byte.toNat % 16)) ↔
      ∃ upper lower, hexDigit high = some upper ∧ hexDigit low = some lower ∧
        UInt8.ofNat (16 * upper + lower) = byte := by
  have size := byte.toNat_lt
  constructor
  · rintro ⟨isHigh, isLow⟩
    refine ⟨byte.toNat / 16, byte.toNat % 16, hexDigit_iff.mpr ⟨by omega, isHigh⟩,
      hexDigit_iff.mpr ⟨by omega, isLow⟩, ?_⟩
    rw [Nat.div_add_mod, UInt8.ofNat_toNat]
  · rintro ⟨upper, lower, isHigh, isLow, rfl⟩
    obtain ⟨small, isUpper⟩ := hexDigit_iff.mp isHigh
    obtain ⟨alsoSmall, isLower⟩ := hexDigit_iff.mp isLow
    have whole : (UInt8.ofNat (16 * upper + lower)).toNat = 16 * upper + lower := by
      rw [UInt8.toNat_ofNat']
      omega
    rw [whole, isUpper, isLower]
    constructor <;> congr 1 <;> omega

/-- What was encoded is decoded, whatever follows it. -/
theorem fromHex_encoded {valid rest : List Char} {bytes : Bytes}
    (encoded : valid.map Char.toLower = toHex bytes) :
    fromHex (valid ++ rest) = bytes ++ fromHex rest := by
  induction bytes generalizing valid with
  | nil =>
    cases List.map_eq_nil_iff.mp encoded
    rfl
  | cons byte bytes inductionHypothesis =>
    obtain ⟨high, more, rfl, isHigh, encoded⟩ := List.map_eq_cons_iff.mp encoded
    obtain ⟨low, more, rfl, isLow, encoded⟩ := List.map_eq_cons_iff.mp encoded
    obtain ⟨upper, lower, upperRead, lowerRead, same⟩ := pair_iff.mp ⟨isHigh, isLow⟩
    simp only [List.cons_append, fromHex, upperRead, lowerRead, same, inductionHypothesis encoded]

/-- Nothing is decoded from a text exactly when it begins with no pair of digits. -/
theorem fromHex_nil_iff (chars : List Char) : fromHex chars = [] ↔ startsPair chars = false := by
  cases chars with
  | nil => exact iff_of_true rfl rfl
  | cons high more =>
    cases more with
    | nil => exact iff_of_true rfl rfl
    | cons low rest => cases upper : hexDigit high <;> cases lower : hexDigit low <;>
        simp [fromHex, startsPair, upper, lower]

/-- A text is an encoding of what is decoded from it, and a rest of which nothing is decoded. -/
theorem fromHex_split (chars : List Char) :
    ∃ valid rest, chars = valid ++ rest ∧ valid.map Char.toLower = toHex (fromHex chars) ∧
      fromHex rest = [] := by
  induction chars using fromHex.induct with
  | case1 high low rest upper lower isLow isHigh inductionHypothesis =>
    obtain ⟨valid, last, rfl, encoded, ends⟩ := inductionHypothesis
    have pair := pair_iff.mpr ⟨upper, lower, isHigh, isLow, rfl⟩
    refine ⟨high :: low :: valid, last, rfl, ?_, ends⟩
    simp only [List.map_cons, encoded, pair.1, pair.2, fromHex, isHigh, isLow, toHex]
  | case2 high low rest unread =>
    have undecoded : fromHex (high :: low :: rest) = [] := by
      rw [fromHex]
      split
      · next upper lower isHigh isLow => exact (unread upper lower isHigh isLow).elim
      · rfl
    exact ⟨[], _, rfl, by rw [undecoded]; rfl, undecoded⟩
  | case3 chars short =>
    have undecoded : fromHex chars = [] := by
      rw [fromHex_nil_iff, startsPair.eq_2 chars short]
    exact ⟨[], chars, rfl, by rw [undecoded]; rfl, undecoded⟩

end Hex

section Verification

variable {ingress : Ingress} {rawBody : Bytes}

/-- The signing secret, once configured. -/
def signingSecret (ingress : Ingress) : Option String := ingress.webhookSecret.filter (· ≠ "")

/-- A text is the hexadecimal encoding of the digest of the body, in either letter case. -/
def Signs (ingress : Ingress) (rawBody : Bytes) (chars : List Char) : Prop :=
  chars.length = 64 ∧ ∃ secret, signingSecret ingress = some secret ∧
    chars.map Char.toLower = toHex (ingress.hmacSha256 secret rawBody)

/-- A signature, followed by more that begins with no pair of digits. -/
def Padded (ingress : Ingress) (rawBody : Bytes) (chars : List Char) : Prop :=
  ∃ valid rest, chars = valid ++ rest ∧ Signs ingress rawBody valid ∧ rest ≠ [] ∧
    startsPair rest = false

/-- A text is accepted when the digest is decoded from it. -/
theorem verified_iff {signature : String} (given : signature ≠ "") :
    (∃ verified, verifySignature ingress rawBody (some signature) = .ok verified) ↔
      ∃ secret, signingSecret ingress = some secret ∧
        fromHex signature.toList = ingress.hmacSha256 secret rawBody := by
  have present : (some signature).filter (· ≠ "") = some signature := by simp [Option.filter, given]
  rw [verifySignature, present]
  cases configured : signingSecret ingress with
  | none =>
    rw [signingSecret] at configured
    rw [configured]
    simp
  | some secret =>
    rw [signingSecret] at configured
    rw [configured]
    by_cases same : ingress.hmacSha256 secret rawBody = fromHex signature.toList
    · simp [same]
    · simp [same, Ne.symm same]

/-- The texts that are accepted are the signatures, alone or followed by what is ignored. -/
theorem accepted_iff (digests : ∀ secret body, (ingress.hmacSha256 secret body).length = 32)
    (signature : String) :
    (∃ verified, verifySignature ingress rawBody (some signature) = .ok verified) ↔
      Signs ingress rawBody signature.toList ∨ Padded ingress rawBody signature.toList := by
  have decodes : ∀ {valid rest}, signature.toList = valid ++ rest → Signs ingress rawBody valid →
      fromHex rest = [] →
        ∃ verified, verifySignature ingress rawBody (some signature) = .ok verified := by
    rintro valid rest split ⟨length, secret, configured, encoded⟩ ignored
    have given : signature ≠ "" := by
      rintro rfl
      have whole : 0 = 64 + rest.length := by
        rw [← length, ← List.length_append, ← split]
        rfl
      omega
    refine (verified_iff given).mpr ⟨secret, configured, ?_⟩
    rw [split, fromHex_encoded encoded, ignored, List.append_nil]
  constructor
  · intro verified
    have given : signature ≠ "" := by
      rintro rfl
      obtain ⟨_, verified⟩ := verified
      cases verified
    obtain ⟨secret, configured, decoded⟩ := (verified_iff given).mp verified
    obtain ⟨valid, rest, split, encoded, ignored⟩ := fromHex_split signature.toList
    rw [decoded] at encoded
    have length : valid.length = 64 := by
      have mapped := congrArg List.length encoded
      rw [List.length_map, toHex_length, digests] at mapped
      exact mapped
    have signs : Signs ingress rawBody valid := ⟨length, secret, configured, encoded⟩
    cases rest with
    | nil => exact .inl (by rw [split, List.append_nil]; exact signs)
    | cons next more =>
      exact .inr ⟨valid, _, split, signs, List.cons_ne_nil _ _, (fromHex_nil_iff _).mp ignored⟩
  · rintro (signs | ⟨valid, rest, split, signs, -, unpaired⟩)
    · exact decodes (List.append_nil _).symm signs rfl
    · exact decodes split signs ((fromHex_nil_iff _).mpr unpaired)

/-- A text is accepted exactly if it is the signature of the body, unless it is the signature
followed by more that begins with no pair of digits. -/
theorem signature_exact_iff (digests : ∀ secret body, (ingress.hmacSha256 secret body).length = 32)
    (rawBody : Bytes) (signature : String) :
    ((∃ verified, verifySignature ingress rawBody (some signature) = .ok verified) ↔
        Signs ingress rawBody signature.toList) ↔
      ¬ Padded ingress rawBody signature.toList := by
  have exclusive : Padded ingress rawBody signature.toList →
      ¬ Signs ingress rawBody signature.toList := by
    rintro ⟨valid, rest, split, ⟨length, -⟩, more, -⟩ ⟨whole, -⟩
    rw [split, List.length_append, length] at whole
    have longer := List.length_pos_iff.mpr more
    omega
  rw [accepted_iff digests]
  constructor
  · intro exact padded
    exact exclusive padded (exact.mp (.inr padded))
  · intro unpadded
    exact ⟨fun accepted => accepted.resolve_right unpadded, .inl⟩

end Verification

section Sample

/-- The parameters where the body is that of the capture, with a digest for any other body. -/
def sampleIngress : Ingress :=
  { captureIngress with
    hmacSha256 _ body := if body = captureBody then captureDigest else List.replicate 32 0 }

/-- The digest of the sample has 32 bytes. -/
theorem sampleIngress_digests (secret : String) (body : Bytes) :
    (sampleIngress.hmacSha256 secret body).length = 32 := by
  simp only [sampleIngress]
  split <;> rfl

/-- The signature of the capture in capitals, and what is accepted of it. -/
theorem signature_exact_iff_capitals :
    let signature := "B275DD619C17F97BFC0ACECA1665BE198376E5A4D1D4039D5CFF8069ED13455E"
    ((∃ verified, verifySignature sampleIngress captureBody (some signature) = .ok verified) ↔
        Signs sampleIngress captureBody signature.toList) ↔
      ¬ Padded sampleIngress captureBody signature.toList :=
  signature_exact_iff sampleIngress_digests _ _

/-- The signature is accepted with two letters behind it that are no digits. -/
theorem padded_accepted :
    ¬ ∀ (rawBody : Bytes) (signature : String),
      (∃ verified, verifySignature sampleIngress rawBody (some signature) = .ok verified) ↔
        Signs sampleIngress rawBody signature.toList := by
  intro exact
  have accepted : ∃ verified, verifySignature sampleIngress captureBody
      (some "b275dd619c17f97bfc0aceca1665be198376e5a4d1d4039d5cff8069ed13455ezz") = .ok verified :=
    ⟨_, rfl⟩
  have length := ((exact _ _).mp accepted).1
  revert length
  decide

end Sample

end PlanBuddy.WebhookSignatures
