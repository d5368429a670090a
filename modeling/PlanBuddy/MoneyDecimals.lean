import PlanBuddy.Money
import PlanBuddy.OrderAmounts

/-!
# Decimal amounts

What the conversions of rupees make of decimals with at most fourteen digits, whether they come as
texts, as numerals or as NUMERIC columns. A decimal that is not at a tie keeps a distance from it
that the roundings of a conversion do not bridge, and a tie is reached.
-/

namespace PlanBuddy.Money

open Values

section Decimals

/-- A decimal of at most fourteen digits that is not at a tie keeps a distance from it. -/
theorem tie_margin {digits : Nat} (places : Nat) (tie : Int) (short : digits < 10 ^ 14)
    (apart : (digits : Rat) / 10 ^ places + 1 / 2 ≠ tie) :
    (digits : Rat) / 10 ^ places / (2 * 10 ^ 14) ≤ |(digits : Rat) / 10 ^ places + 1 / 2 - tie| := by
  have shortCast : (digits : Rat) ≤ 10 ^ 14 := by exact_mod_cast short.le
  cases places with
  | zero =>
    have odd : (2 * digits + 1 - 2 * tie : Int) ≠ 0 := by omega
    have far : (1 : Rat) ≤ |((2 * digits + 1 - 2 * tie : Int) : Rat)| := by
      exact_mod_cast Int.one_le_abs odd
    have same : (digits : Rat) / 10 ^ 0 + 1 / 2 - tie = ((2 * digits + 1 - 2 * tie : Int) : Rat) / 2 := by
      push_cast
      ring
    rw [same, abs_div, abs_two, pow_zero, div_one]
    have small : (digits : Rat) / (2 * 10 ^ 14) ≤ 1 / 2 := by
      rw [div_le_div_iff₀ (by norm_num) (by norm_num)]
      linarith
    linarith
  | succ fewer =>
    have whole : ((digits : Rat) / 10 ^ (fewer + 1) + 1 / 2 - tie) * 10 ^ (fewer + 1) =
        ((digits + 5 * 10 ^ fewer - tie * 10 ^ (fewer + 1) : Int) : Rat) := by
      push_cast
      rw [pow_succ]
      field_simp
      ring
    have unit : (0 : Rat) < 10 ^ (fewer + 1) := by positivity
    have nonzero : (digits + 5 * 10 ^ fewer - tie * 10 ^ (fewer + 1) : Int) ≠ 0 := by
      intro zero
      rw [zero, Int.cast_zero, mul_eq_zero] at whole
      rcases whole with none | impossible
      · exact apart (by linarith)
      · exact unit.ne' impossible
    have far : (1 : Rat) ≤ |((digits + 5 * 10 ^ fewer - tie * 10 ^ (fewer + 1) : Int) : Rat)| := by
      exact_mod_cast Int.one_le_abs nonzero
    rw [← whole, abs_mul, abs_of_pos unit] at far
    have distance : 1 / 10 ^ (fewer + 1) ≤ |(digits : Rat) / 10 ^ (fewer + 1) + 1 / 2 - tie| := by
      rw [div_le_iff₀ unit]
      exact far
    refine le_trans ?_ distance
    rw [div_div, div_le_div_iff₀ (by positivity) unit, one_mul, mul_comm]
    gcongr
    linarith

/-- What comes close enough to a decimal of at most fourteen digits has its floor, given that it
reaches a tie. -/
theorem floor_close {digits places : Nat} {value : Rat} (short : digits < 10 ^ 14)
    (least : 1 / 4 ≤ (digits : Rat) / 10 ^ places)
    (low : (digits : Rat) / 10 ^ places + 1 / 2 - digits / 10 ^ places / 2 ^ 49 ≤ value)
    (high : value ≤ (digits : Rat) / 10 ^ places + 1 / 2 + digits / 10 ^ places / 2 ^ 49)
    (tie : ∀ whole : Int, (digits : Rat) / 10 ^ places + 1 / 2 = whole → (whole : Rat) ≤ value) :
    ⌊value⌋ = ⌊(digits : Rat) / 10 ^ places + 1 / 2⌋ := by
  have most : (digits : Rat) / 10 ^ places ≤ 10 ^ 14 := by
    have shortCast : (digits : Rat) ≤ 10 ^ 14 := by exact_mod_cast short.le
    exact (div_le_self (by positivity) (one_le_pow₀ (by norm_num))).trans shortCast
  have below := Int.floor_le ((digits : Rat) / 10 ^ places + 1 / 2)
  have above := Int.lt_floor_add_one ((digits : Rat) / 10 ^ places + 1 / 2)
  have marginLow := tie_margin places
    ⌊(digits : Rat) / 10 ^ places + 1 / 2⌋ short
  have marginHigh := tie_margin places
    (⌊(digits : Rat) / 10 ^ places + 1 / 2⌋ + 1) short
  have reached := tie ⌊(digits : Rat) / 10 ^ places + 1 / 2⌋
  generalize ⌊(digits : Rat) / 10 ^ places + 1 / 2⌋ = whole at *
  generalize (digits : Rat) / 10 ^ places = paise at *
  rw [Int.floor_eq_iff]
  push_cast at marginHigh
  constructor
  · by_cases atTie : paise + 1 / 2 = whole
    · exact reached atTie
    · have margin := marginLow atTie
      rw [abs_of_nonneg (by linarith)] at margin
      norm_num at margin low
      linarith
  · have margin := marginHigh (by linarith)
    rw [abs_of_nonpos (by linarith)] at margin
    norm_num at margin high
    linarith

/-- A quarter of a paisa stays below one half, and below one when it is raised. -/
theorem quarter_small : product (1 / 400) < 1 / 2 ∧ raised (product (1 / 400)) < 1 := by
  decide +kernel

/-- `money.js` rounds every decimal of at most fourteen digits half up. -/
theorem floor_raised {digits : Nat} (places : Nat) (short : digits < 10 ^ 14) :
    ⌊raised (product ((digits : Rat) / 10 ^ places / 100))⌋ =
      ⌊(digits : Rat) / 10 ^ places + 1 / 2⌋ := by
  rcases lt_or_ge ((digits : Rat) / 10 ^ places) (1 / 4) with tiny | least
  · -- below a quarter of a paisa everything stays below one
    have nonneg : (0 : Rat) ≤ digits / 10 ^ places := by positivity
    have scaled : 0 ≤ product ((digits : Rat) / 10 ^ places / 100) := product_nonneg (by positivity)
    have low : 0 ≤ raised (product ((digits : Rat) / 10 ^ places / 100)) :=
      double_nonneg (add_nonneg (double_nonneg (by linarith)) (double_nonneg (by positivity)))
    have high : raised (product ((digits : Rat) / 10 ^ places / 100)) < 1 :=
      calc raised (product ((digits : Rat) / 10 ^ places / 100))
          ≤ raised (product (1 / 400)) :=
            raised_mono scaled (product_mono (by positivity) (by linarith))
        _ < 1 := quarter_small.2
    have zero : ⌊(digits : Rat) / 10 ^ places + 1 / 2⌋ = 0 := by
      rw [Int.floor_eq_zero_iff]
      constructor <;> linarith
    rw [zero, Int.floor_eq_zero_iff]
    exact ⟨low, high⟩
  · obtain ⟨low, high⟩ := raised_close least
    apply floor_close short least low high
    intro whole atTie
    have positive : (0 : Int) < whole := by
      have : (0 : Rat) < whole := by linarith
      exact_mod_cast this
    obtain ⟨lower, rfl⟩ : ∃ lower : Nat, whole = lower + 1 := ⟨(whole - 1).toNat, by omega⟩
    push_cast at atTie ⊢
    have exact : (digits : Rat) / 10 ^ places = lower + 1 / 2 := by linarith
    have bounded : lower < 2 ^ 48 := by
      have shortCast : (digits : Rat) < 10 ^ 14 := by exact_mod_cast short
      have most : (digits : Rat) / 10 ^ places ≤ digits :=
        div_le_self (by positivity) (one_le_pow₀ (by norm_num))
      have powers : (10 : Rat) ^ 14 < 2 ^ 48 := by norm_num
      have cast : (lower : Rat) < 2 ^ 48 := by linarith
      exact_mod_cast cast
    rw [exact]
    exact raised_tie bounded

end Decimals

section Amounts

/-- A value other than `null` that is converted to the Number nearest to an amount. -/
def Denotes (value : Value) (amount : Rat) : Prop :=
  value ≠ .null ∧ value.toNumber = some (.nearest amount)

/-- Rounding stays below a power of two, and far from infinity. -/
theorem nearest_small (value : Rat) {exponent : Nat} (nonneg : 0 ≤ value)
    (small : value ≤ 2 ^ exponent) (ordinary : exponent ≤ 200) :
    Number.nearest value = .finite (double value) ∧ 0 ≤ double value ∧
      double value ≤ 2 ^ exponent := by
  have power : double (2 ^ exponent) = 2 ^ exponent := by
    simpa using double_exact 1 exponent (by norm_num) (by omega)
  refine ⟨nearest_double ?_, double_nonneg nonneg, power ▸ double_mono nonneg small⟩
  rw [abs_of_nonneg nonneg]
  exact small.trans (pow_le_pow_right₀ (by norm_num) (by omega))

/-- The product with a hundred, both of an amount and of what it is converted to. -/
theorem times_hundred {rupees : Rat} (nonneg : 0 ≤ rupees) (small : rupees ≤ 2 ^ 50) :
    Number.nearest rupees = .finite (double rupees) ∧ 0 ≤ double rupees ∧
      (Number.finite (double rupees)).times (.finite 100) = .finite (product rupees) ∧
        0 ≤ product rupees ∧ product rupees ≤ 2 ^ 57 := by
  obtain ⟨near, least, most⟩ := nearest_small _ nonneg small (by decide)
  have bound : double rupees * 100 ≤ 2 ^ 57 := by
    norm_num at most ⊢
    linarith
  obtain ⟨nearProduct, leastProduct, mostProduct⟩ :=
    nearest_small _ (mul_nonneg least (by norm_num)) bound (by decide)
  exact ⟨near, least, nearProduct, leastProduct, mostProduct⟩

/-- The sum of a product, one half and the epsilon. -/
theorem plus_half {scaled : Rat} (nonneg : 0 ≤ scaled) (small : scaled ≤ 2 ^ 57) :
    ((Number.finite scaled).plus (.finite (1 / 2))).plus (epsilon.times (Number.finite scaled).abs) =
      .finite (raised scaled) := by
  have bound : scaled + 1 / 2 ≤ 2 ^ 58 := by
    norm_num at small ⊢
    linarith
  have tiny : 1 / 2 ^ 52 * scaled ≤ 2 ^ 57 := by
    norm_num at small ⊢
    linarith
  obtain ⟨near, least, most⟩ := nearest_small (scaled + 1 / 2) (by linarith) bound (by decide)
  obtain ⟨nearTiny, leastTiny, mostTiny⟩ :=
    nearest_small (1 / 2 ^ 52 * scaled) (by positivity) tiny (by decide)
  have sum : double (scaled + 1 / 2) + double (1 / 2 ^ 52 * scaled) ≤ 2 ^ 59 := by
    norm_num at most mostTiny ⊢
    linarith
  have nearSum := (nearest_small _ (add_nonneg least leastTiny) sum (by decide)).1
  simp only [Number.plus, near, epsilon, Number.times, Number.abs, abs_of_nonneg nonneg, nearTiny,
    nearSum]
  rfl

/-- The conversion goes by the number that a value denotes. -/
theorem rupeesToPaise_denotes {value : Value} {rupees : Rat} (denotes : Denotes value rupees)
    (nonneg : 0 ≤ rupees) (small : rupees ≤ 2 ^ 50) :
    rupeesToPaise value = .ok (.finite ⌊raised (product rupees)⌋) := by
  obtain ⟨given, number⟩ := denotes
  obtain ⟨near, least, scaled, leastProduct, mostProduct⟩ := times_hundred nonneg small
  rw [near] at number
  unfold rupeesToPaise
  split
  · cases number
  · exact absurd rfl given
  · simp only [number, if_neg least.not_gt, scaled, plus_half leastProduct mostProduct]
    rfl

/-- So does the other one. -/
theorem toSubunit_denotes {value : Value} {rupees : Rat} (denotes : Denotes value rupees)
    (nonneg : 0 ≤ rupees) (small : rupees ≤ 2 ^ 50) :
    toSubunit value = .ok (.finite ⌊product rupees + 1 / 2⌋) := by
  obtain ⟨near, -, scaled, -, -⟩ := times_hundred nonneg small
  rw [toSubunit, denotes.2, near]
  simp only [scaled]
  rfl

/-- A text with at least one place denotes its decimal. -/
theorem text_denotes {places : Nat} (value : Nat) (positive : 0 < places) :
    Denotes (.string (signedText false places value)) ((value : Rat) / 10 ^ places) := by
  refine ⟨by rintro ⟨⟩, ?_⟩
  have read := readNumber_signedText false value positive
  rw [if_neg (by decide), one_mul] at read
  exact congrArg some read

/-- Fourteen digits, two of them at least after the point, are an amount of ordinary size. -/
theorem digits_ordinary {digits : Nat} (places : Nat) (short : digits < 10 ^ 14) :
    (0 : Rat) ≤ digits / 10 ^ (places + 2) ∧ (digits : Rat) / 10 ^ (places + 2) ≤ 2 ^ 50 := by
  have shortCast : (digits : Rat) ≤ 10 ^ 14 := by exact_mod_cast short.le
  have powers : (10 : Rat) ^ 14 ≤ 2 ^ 50 := by norm_num
  refine ⟨by positivity, ?_⟩
  exact (div_le_self (by positivity) (one_le_pow₀ (by norm_num))).trans (shortCast.trans powers)

/-- Two of the places are paise. -/
theorem paise_places (digits : Rat) (places : Nat) :
    digits / 10 ^ (places + 2) = digits / 10 ^ places / 100 := by
  rw [pow_add, div_div]
  norm_num

end Amounts

section Agreement

/-- The conversion for orders is within a paisa of the exact amount rounded half up, and is exact
unless the amount is at a tie. -/
theorem floor_product {digits : Nat} (places : Nat) (short : digits < 10 ^ 14) :
    (⌊product ((digits : Rat) / 10 ^ places / 100) + 1 / 2⌋ =
        ⌊(digits : Rat) / 10 ^ places + 1 / 2⌋) ∨
      ((∃ whole : Int, (digits : Rat) / 10 ^ places + 1 / 2 = whole) ∧
        ⌊product ((digits : Rat) / 10 ^ places / 100) + 1 / 2⌋ =
          ⌊(digits : Rat) / 10 ^ places + 1 / 2⌋ - 1) := by
  rcases lt_or_ge ((digits : Rat) / 10 ^ places) (1 / 4) with tiny | least
  · have nonneg : (0 : Rat) ≤ digits / 10 ^ places := by positivity
    have low : 0 ≤ product ((digits : Rat) / 10 ^ places / 100) := product_nonneg (by positivity)
    have high : product ((digits : Rat) / 10 ^ places / 100) < 1 / 2 :=
      calc product ((digits : Rat) / 10 ^ places / 100) ≤ product (1 / 400) :=
            product_mono (by positivity) (by linarith)
        _ < 1 / 2 := quarter_small.1
    refine .inl ?_
    rw [Int.floor_eq_zero_iff.mpr ⟨by linarith, by linarith⟩,
      Int.floor_eq_zero_iff.mpr ⟨by linarith, by linarith⟩]
  · obtain ⟨low, high⟩ := product_close _ least
    have positive : (0 : Rat) < digits / 10 ^ places := by linarith
    by_cases tie : ∃ whole : Int, (digits : Rat) / 10 ^ places + 1 / 2 = whole
    · obtain ⟨whole, atTie⟩ := tie
      have most : (digits : Rat) / 10 ^ places ≤ 10 ^ 14 := by
        have shortCast : (digits : Rat) ≤ 10 ^ 14 := by exact_mod_cast short.le
        exact (div_le_self (by positivity) (one_le_pow₀ (by norm_num))).trans shortCast
      rw [atTie, Int.floor_intCast]
      rcases le_or_gt ((digits : Rat) / 10 ^ places) (product ((digits : Rat) / 10 ^ places / 100))
        with reached | missed
      · refine .inl (Int.floor_eq_iff.mpr ⟨by linarith, ?_⟩)
        norm_num at high most
        linarith
      · refine .inr ⟨⟨whole, rfl⟩, Int.floor_eq_iff.mpr ⟨?_, ?_⟩⟩
        · push_cast
          norm_num at low most
          linarith
        · push_cast
          linarith
    · refine .inl (floor_close short least ?_ ?_ fun whole atTie => absurd ⟨whole, atTie⟩ tie)
      · norm_num at low positive ⊢
        linarith
      · norm_num at high positive ⊢
        linarith

end Agreement

section Columns

open OrderAmounts (Numeric)

/-- A column is read as a sign and a text with two places. -/
theorem text_eq (numeric : Numeric) :
    numeric.text = signedText (decide (numeric.cents < 0)) 2 numeric.cents.natAbs := by
  apply String.toList_injective
  by_cases negative : numeric.cents < 0 <;>
    simp [Numeric.text, signedText, decimalText, paddedDigits, negative]

/-- The product of a column, of either sign, is close to its paise. -/
theorem column_close {amount : Rat} (least : 1 ≤ |amount|) (most : |amount| ≤ 10 ^ 12) :
    ∃ rupees scaled : Rat, Number.nearest (amount / 100) = .finite rupees ∧
      |rupees - amount / 100| ≤ |amount| / 100 / 2 ^ 53 ∧
      (Number.finite rupees).times (.finite 100) = .finite scaled ∧ |scaled - amount| < 1 / 2 := by
  have size : |amount / 100| = |amount| / 100 := by rw [abs_div, abs_of_pos (by norm_num : (0:Rat) < 100)]
  have normal : ∀ {value : Rat}, 1 / 200 ≤ |value| → (2 : Rat) ^ (-1022 : Int) ≤ |value| := by
    intro value large
    calc (2 : Rat) ^ (-1022 : Int) ≤ 2 ^ (-8 : Int) := zpow_le_zpow_right₀ (by norm_num) (by norm_num)
      _ ≤ 1 / 200 := by norm_num
      _ ≤ |value| := large
  have ordinary : ∀ {value : Rat}, |value| ≤ 2 ^ 50 → |value| ≤ 2 ^ 1000 := fun small =>
    small.trans (pow_le_pow_right₀ (by norm_num) (by norm_num))
  have first := double_relative (amount / 100) (normal (by rw [size]; linarith))
  rw [size] at first
  have rupeesSize : |double (amount / 100)| ≤ |amount| / 100 + |amount| / 100 / 2 ^ 53 := by
    have := abs_add_le (double (amount / 100) - amount / 100) (amount / 100)
    rw [sub_add_cancel, size] at this
    linarith
  have rupeesLeast : |amount| / 100 - |amount| / 100 / 2 ^ 53 ≤ |double (amount / 100)| := by
    have := abs_sub_abs_le_abs_sub (amount / 100) (double (amount / 100))
    rw [size, abs_sub_comm] at this
    linarith
  have productSize : |double (amount / 100) * 100| = |double (amount / 100)| * 100 := by
    rw [abs_mul, abs_of_pos (by norm_num : (0 : Rat) < 100)]
  have second := double_relative (double (amount / 100) * 100) (normal (by
    rw [productSize]
    norm_num at rupeesLeast
    linarith))
  rw [productSize] at second
  refine ⟨double (amount / 100), double (double (amount / 100) * 100),
    nearest_double (ordinary ?_), first, ?_, ?_⟩
  · rw [size]
    norm_num at most ⊢
    linarith
  · apply nearest_double (ordinary _)
    rw [productSize]
    norm_num at rupeesSize most ⊢
    linarith
  · have triangle := abs_sub_le (double (double (amount / 100) * 100))
      (double (amount / 100) * 100) amount
    have scaledFirst : |double (amount / 100) * 100 - amount| =
        |double (amount / 100) - amount / 100| * 100 := by
      have off : double (amount / 100) * 100 - amount =
          (double (amount / 100) - amount / 100) * 100 := by ring
      rw [off, abs_mul, abs_of_pos (by norm_num : (0 : Rat) < 100)]
    rw [scaledFirst] at triangle
    norm_num at first second rupeesSize most triangle
    linarith

/-- What the driver returns denotes a double near the column. -/
theorem column_number (numeric : Numeric) :
    (Value.string numeric.text).toNumber = some (.nearest (numeric.cents / 100)) := by
  have read := readNumber_signedText (decide (numeric.cents < 0)) numeric.cents.natAbs
    (by decide : 0 < 2)
  rw [Value.toNumber, Value.numeric, text_eq, read]
  · congr 2
    have size : ((numeric.cents.natAbs : Int) : Rat) = |(numeric.cents : Rat)| := by
      rw [Int.natCast_natAbs, Int.cast_abs]
    rw [Int.cast_natCast] at size
    rw [size]
    by_cases negative : numeric.cents < 0
    · have cast : (numeric.cents : Rat) < 0 := by exact_mod_cast negative
      rw [decide_eq_true negative, if_pos rfl, abs_of_neg cast]
      ring
    · have cast : (0 : Rat) ≤ numeric.cents := by exact_mod_cast not_lt.mp negative
      rw [decide_eq_false negative, if_neg (by decide), abs_of_nonneg cast]
      ring
  · rintro value ⟨⟩

/-- An order is created for the exact paise of the amount column, of either sign. -/
theorem toSubunit_column (numeric : Numeric) :
    toSubunit (.string numeric.text) = .ok (.finite numeric.cents) := by
  have bounded : |(numeric.cents : Rat)| ≤ 10 ^ 12 := by
    have range : ((numeric.cents.natAbs : Int) : Rat) ≤ 10 ^ 12 := by
      exact_mod_cast numeric.inRange.le
    rwa [Int.natCast_natAbs, Int.cast_abs] at range
  rw [toSubunit, column_number]
  rcases eq_or_ne numeric.cents 0 with zero | nonzero
  · have round : ((Number.nearest (((0 : Int) : Rat) / 100)).times (.finite 100)).round =
        .finite ((0 : Int) : Rat) := by
      rw [Int.cast_zero, zero_div]
      norm_num [Number.nearest, Number.times, Number.round]
    rw [zero]
    exact congrArg Except.ok round
  · have least : (1 : Rat) ≤ |(numeric.cents : Rat)| := by
      exact_mod_cast Int.one_le_abs nonzero
    obtain ⟨rupees, scaled, near, -, times, close⟩ := column_close least bounded
    rw [abs_lt] at close
    have round : ⌊scaled + 1 / 2⌋ = numeric.cents :=
      Int.floor_eq_iff.mpr ⟨by linarith, by linarith⟩
    rw [near]
    simp only [times, Number.round, round]

/-- A negative amount has a negative Number. -/
theorem nearest_negative {amount : Rat} (least : 1 ≤ |amount|) (most : |amount| ≤ 10 ^ 12)
    (negative : amount < 0) :
    ∃ rupees : Rat, Number.nearest (amount / 100) = .finite rupees ∧ rupees < 0 := by
  obtain ⟨rupees, -, near, close, -⟩ := column_close least most
  refine ⟨rupees, near, ?_⟩
  rw [abs_of_neg negative, abs_le] at close
  norm_num at close
  linarith

end Columns

section Results

/-- A decimal amount of at most fourteen digits, two or more of them after the point, becomes its
exact paise rounded half up. -/
theorem rupeesToPaise_half_up {value : Value} {digits places : Nat} (short : digits < 10 ^ 14)
    (denotes : Denotes value (digits / 10 ^ (places + 2))) :
    rupeesToPaise value = .ok (.finite ⌊(digits : Rat) / 10 ^ places + 1 / 2⌋) := by
  obtain ⟨nonneg, small⟩ := digits_ordinary places short
  rw [rupeesToPaise_denotes denotes nonneg small, paise_places, floor_raised places short]

/-- The conversion for orders gives the same paise, or one less where half a paisa is left. -/
theorem toSubunit_cases {value : Value} {digits places : Nat} (short : digits < 10 ^ 14)
    (denotes : Denotes value (digits / 10 ^ (places + 2))) :
    toSubunit value = .ok (.finite ⌊(digits : Rat) / 10 ^ places + 1 / 2⌋) ∨
      ((2 * digits) % (2 * 10 ^ places) = 10 ^ places ∧
        toSubunit value =
          .ok (.finite ((⌊(digits : Rat) / 10 ^ places + 1 / 2⌋ - 1 : Int) : Rat))) := by
  obtain ⟨nonneg, small⟩ := digits_ordinary places short
  rw [toSubunit_denotes denotes nonneg small, paise_places]
  rcases floor_product places short with same | ⟨⟨whole, tie⟩, less⟩
  · exact .inl (by rw [same])
  · refine .inr ⟨?_, by rw [less]⟩
    have unit : (0 : Rat) < 10 ^ places := by positivity
    have scaled : (2 * digits + 10 ^ places : Rat) = 2 * 10 ^ places * whole := by
      rw [← tie]
      field_simp
    have integers : (2 * digits + 10 ^ places : Int) = 2 * 10 ^ places * whole := by
      exact_mod_cast scaled
    have power : (0 : Int) < 10 ^ places := by positivity
    have remainder : ((2 * digits) % (2 * 10 ^ places) : Int) = 10 ^ places := by
      rw [show (2 * digits : Int) = 10 ^ places + 2 * 10 ^ places * (whole - 1) by linarith,
        Int.add_mul_emod_self_left]
      exact Int.emod_eq_of_lt power.le (by linarith)
    exact_mod_cast remainder

/-- Every decimal amount of at most fourteen digits, two or more of them after the point, becomes
its exact paise rounded half up by `money.js`. The conversion for orders agrees with it, unless
half a paisa is left: then it may give one paisa less. -/
theorem conversions_agree {value : Value} {digits places : Nat} (short : digits < 10 ^ 14)
    (denotes : Denotes value (digits / 10 ^ (places + 2))) :
    rupeesToPaise value = .ok (.finite ⌊(digits : Rat) / 10 ^ places + 1 / 2⌋) ∧
      ((2 * digits) % (2 * 10 ^ places) ≠ 10 ^ places → toSubunit value = rupeesToPaise value) ∧
      (toSubunit value = rupeesToPaise value ∨
        toSubunit value =
          .ok (.finite ((⌊(digits : Rat) / 10 ^ places + 1 / 2⌋ - 1 : Int) : Rat))) := by
  have half := rupeesToPaise_half_up short denotes
  refine ⟨half, fun apart => ?_, ?_⟩
  · rcases toSubunit_cases short denotes with same | ⟨tie, -⟩
    · rw [half, same]
    · exact absurd tie apart
  · rw [half]
    exact (toSubunit_cases short denotes).imp_right And.right

/-- One rupee and half a paisa, as a text, are 101 paise, and an order of 100. -/
theorem order_short :
    rupeesToPaise (.string "1.005") = .ok (.finite ((101 : Int) : Rat)) ∧
      toSubunit (.string "1.005") = .ok (.finite ((100 : Int) : Rat)) := by
  have denotes : Denotes (.string "1.005") (((1005 : Nat) : Rat) / 10 ^ (1 + 2)) := by
    have text : signedText false 3 1005 = "1.005" := by decide +kernel
    rw [← text]
    exact text_denotes 1005 (by decide)
  obtain ⟨half, -, -⟩ := conversions_agree (by decide) denotes
  have floor : ⌊((1005 : Nat) : Rat) / 10 ^ 1 + 1 / 2⌋ = 101 := by norm_num
  have number : ((readNumber "1.005").times (.finite 100)).round = .finite ((100 : Int) : Rat) := by
    decide +kernel
  rw [floor] at half
  exact ⟨half, congrArg Except.ok number⟩

/-- An amount column becomes its exact paise by either conversion; `money.js` refuses it if it is
negative. -/
theorem columns_exact (numeric : OrderAmounts.Numeric) :
    toSubunit (.string numeric.text) = .ok (.finite numeric.cents) ∧
      (0 ≤ numeric.cents → rupeesToPaise (.string numeric.text) = .ok (.finite numeric.cents)) ∧
      (numeric.cents < 0 → ∃ text, rupeesToPaise (.string numeric.text) = .error (.rangeError text)) := by
  refine ⟨toSubunit_column numeric, ?_, ?_⟩
  · intro nonneg
    obtain ⟨paise, same⟩ := Int.eq_ofNat_of_zero_le nonneg
    have range := numeric.inRange
    have digits : paise < 10 ^ 14 := by omega
    have denotes : Denotes (.string numeric.text) ((paise : Rat) / 10 ^ (0 + 2)) := by
      refine ⟨by rintro ⟨⟩, ?_⟩
      rw [column_number, same]
      norm_num
    rw [rupeesToPaise_half_up digits denotes, same, pow_zero, div_one]
    have floor : ⌊(paise : Rat) + 1 / 2⌋ = paise :=
      Int.floor_eq_iff.mpr ⟨by push_cast; linarith, by push_cast; linarith⟩
    rw [floor]
  · intro negative
    have cast : (numeric.cents : Rat) < 0 := by exact_mod_cast negative
    have bounded : |(numeric.cents : Rat)| ≤ 10 ^ 12 := by
      have range : ((numeric.cents.natAbs : Int) : Rat) ≤ 10 ^ 12 := by
        exact_mod_cast numeric.inRange.le
      rwa [Int.natCast_natAbs, Int.cast_abs] at range
    have least : (1 : Rat) ≤ |(numeric.cents : Rat)| := by
      exact_mod_cast Int.one_le_abs negative.ne
    obtain ⟨rupees, near, below⟩ := nearest_negative least bounded cast
    rw [rupeesToPaise, column_number, near]
    · simp only [if_pos below]
      exact ⟨_, rfl⟩
    · rintro ⟨⟩
    · rintro ⟨⟩

end Results

section RoundTrip

variable {paise : Nat}

/-- The text with two places of a hundredth of whole paise has all its digits. -/
theorem fixed_hundredth (short : paise < 10 ^ 14) :
    fixed (hundredth (.finite paise)) = .nearest ((paise : Rat) / 100) := by
  have shortCast : (paise : Rat) ≤ 10 ^ 14 := by exact_mod_cast short.le
  have ordinary : (paise : Rat) / 100 ≤ 2 ^ 50 := by
    have powers : (10 : Rat) ^ 14 ≤ 2 ^ 50 := by norm_num
    linarith [show (0 : Rat) ≤ paise by positivity]
  obtain ⟨near, least, most⟩ :=
    nearest_small ((paise : Rat) / 100) (by positivity) ordinary (by decide)
  have whole : ⌊double ((paise : Rat) / 100) * 100 + 1 / 2⌋ = paise := by
    rcases paise.eq_zero_or_pos with rfl | positive
    · have zero : double (((0 : Nat) : Rat) / 100) = 0 := by
        rw [Nat.cast_zero, zero_div, double_zero]
      rw [zero]
      norm_num
    · have positiveCast : (1 : Rat) ≤ paise := by exact_mod_cast positive
      have close := double_close ((paise : Rat) / 100) (by
        norm_num
        linarith)
      norm_num at close
      have powers : (10 : Rat) ^ 14 ≤ 2 ^ 47 := by norm_num
      refine Int.floor_eq_iff.mpr ⟨?_, ?_⟩ <;> push_cast <;> linarith
  have text := readNumber_signedText false paise (by decide : 0 < 2)
  rw [if_neg (by decide), one_mul] at text
  have bounded : |double ((paise : Rat) / 100)| < 10 ^ 21 := by
    rw [abs_of_nonneg least]
    exact most.trans_lt (by norm_num)
  simp only [hundredth, near]
  rw [fixed, if_pos bounded, decide_eq_false least.not_gt, abs_of_nonneg least, whole,
    Int.toNat_natCast, text, ← near]
  norm_num

/-- Whole paise are accepted. -/
theorem paise_accepted (short : paise < 10 ^ 14) :
    toCanonicalPaise (.number (.finite paise)) (.string "paise") = .ok (.finite paise) := by
  have shortCast : (paise : Rat) < 10 ^ 14 := by exact_mod_cast short
  have bounded : |(paise : Rat)| < 10 ^ 21 := by
    rw [abs_of_nonneg (by positivity)]
    exact shortCast.trans (by norm_num)
  have pointless : hasDecimalPoint (paise : Rat) = false := by
    rw [hasDecimalPoint, if_neg (by simp), if_pos bounded]
  have checked : assertPaise (.number (.finite paise)) "toCanonicalPaise" = .ok () := by
    have nonneg : ¬ (paise : Rat) < 0 := not_lt.mpr (by positivity)
    simp [assertPaise, pointless, nonneg]
  have paiseUnit : (Value.string "paise").isText "paise" = true := by decide
  rw [toCanonicalPaise, if_pos paiseUnit]
  · simp only [checked]
    rfl
  · rintro text ⟨⟩

/-- Whole paise survive the way to rupees and back, through either conversion, and are accepted as
they are under the other unit. -/
theorem paise_round_trip (short : paise < 10 ^ 14) :
    ∃ rupees : Number, paiseToRupees (.number (.finite paise)) = .ok rupees ∧
      toRupees (.number (.finite paise)) = .ok rupees ∧
      toCanonicalPaise (.number rupees) (.string "rupees") = .ok (.finite paise) ∧
      toSubunit (.number rupees) = .ok (.finite paise) ∧
      toCanonicalPaise (.number (.finite paise)) (.string "paise") = .ok (.finite paise) := by
  have denotes : Denotes (.number (.nearest ((paise : Rat) / 100)))
      ((paise : Rat) / 10 ^ (0 + 2)) := by
    refine ⟨by rintro ⟨⟩, ?_⟩
    norm_num [Value.toNumber, Value.numeric]
  have floor : ⌊(paise : Rat) / 10 ^ 0 + 1 / 2⌋ = paise := by
    rw [pow_zero, div_one]
    exact Int.floor_eq_iff.mpr ⟨by push_cast; linarith, by push_cast; linarith⟩
  have back : rupeesToPaise (.number (.nearest ((paise : Rat) / 100))) = .ok (.finite paise) := by
    rw [rupeesToPaise_half_up short denotes, floor]
    rfl
  refine ⟨.nearest ((paise : Rat) / 100), ?_, ?_, ?_, ?_, paise_accepted short⟩
  · rw [← fixed_hundredth short]
    rfl
  · rw [← fixed_hundredth short]
    rfl
  · have rupeesUnit : (Value.string "rupees").isText "paise" = false ∧
        (Value.string "rupees").isText "rupees" = true := by decide
    rw [toCanonicalPaise, rupeesUnit.1, if_neg (by decide), if_pos rupeesUnit.2]
    · exact back
    · rintro text ⟨⟩
  · rcases toSubunit_cases short denotes with same | ⟨tie, -⟩
    · rw [same, floor]
      rfl
    · omega

/-- 499.99 rupees make the way there and back. -/
theorem round_trip_sample : ∃ rupees : Number,
    paiseToRupees (.number (.finite ((49999 : Nat) : Rat))) = .ok rupees ∧
      toRupees (.number (.finite ((49999 : Nat) : Rat))) = .ok rupees ∧
      toCanonicalPaise (.number rupees) (.string "rupees") = .ok (.finite ((49999 : Nat) : Rat)) ∧
      toSubunit (.number rupees) = .ok (.finite ((49999 : Nat) : Rat)) ∧
      toCanonicalPaise (.number (.finite ((49999 : Nat) : Rat))) (.string "paise") =
        .ok (.finite ((49999 : Nat) : Rat)) :=
  paise_round_trip (by decide)

end RoundTrip

end PlanBuddy.Money
