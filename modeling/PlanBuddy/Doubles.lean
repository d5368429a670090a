import Mathlib.Algebra.Order.Field.Power
import Mathlib.Algebra.Order.AbsoluteValue.Basic
import Mathlib.Data.Rat.Floor
import Mathlib.Tactic.FieldSimp
import Mathlib.Tactic.Linarith
import Mathlib.Tactic.Positivity
import Mathlib.Tactic.Ring
import PlanBuddy.Values

/-!
# Rounding to doubles

Every operator rounds its exact result to the nearest double, the even one of two. Below the
largest doubles that is a function on rationals: divide by the spacing of the doubles around the
value, round to an integer, multiply back. Four laws carry the arguments of the users. A rounded
value is off by at most half a spacing, hence by a relative error of one in 2 to the 53. Values
with a significand of 53 bits are not changed. Rounding keeps the order. A rounded value is a
multiple of the spacing.
-/

namespace PlanBuddy.Values

section Integers

/-- A number is rounded down or up, to the nearer side. -/
theorem roundEven_cases (value : Rat) :
    (roundEven value = ⌊value⌋ ∧ value - ⌊value⌋ ≤ 1 / 2) ∨
      (roundEven value = ⌊value⌋ + 1 ∧ 1 / 2 ≤ value - ⌊value⌋) := by
  have same : (value.floor : Int) = ⌊value⌋ := rfl
  simp only [roundEven, same]
  split
  · next low =>
    refine .inl ⟨rfl, ?_⟩
    rcases low with below | ⟨tie, -⟩
    · exact below.le
    · exact tie.le
  · next high =>
    rw [not_or, not_lt] at high
    exact .inr ⟨rfl, high.1⟩

/-- Rounding to an integer is off by at most a half. -/
theorem roundEven_near (value : Rat) : |(roundEven value : Rat) - value| ≤ 1 / 2 := by
  have below : (⌊value⌋ : Rat) ≤ value := Int.floor_le value
  have above : value < ⌊value⌋ + 1 := Int.lt_floor_add_one value
  rw [abs_le]
  rcases roundEven_cases value with ⟨down, rest⟩ | ⟨up, rest⟩
  · rw [down]
    constructor <;> linarith
  · rw [up]
    push_cast
    constructor <;> linarith

/-- Half way up from an odd number the even one above is taken. -/
theorem roundEven_tie {whole : Int} (odd : whole % 2 = 1) :
    roundEven ((whole : Rat) + 1 / 2) = whole + 1 := by
  have floor : ⌊(whole : Rat) + 1 / 2⌋ = whole := by
    rw [Int.floor_intCast_add]
    norm_num
  have same : (((whole : Rat) + 1 / 2).floor : Int) = whole := floor
  simp only [roundEven, same]
  rw [if_neg]
  rintro (below | ⟨-, even⟩)
  · norm_num at below
  · omega

/-- A whole number stays. -/
theorem roundEven_int (value : Int) : roundEven (value : Rat) = value := by
  rcases roundEven_cases (value : Rat) with ⟨down, -⟩ | ⟨-, rest⟩
  · rw [down, Int.floor_intCast]
  · rw [Int.floor_intCast, sub_self] at rest
    norm_num at rest

/-- Nothing is rounded past an integer. -/
theorem le_roundEven {bound : Int} {value : Rat} (least : (bound : Rat) ≤ value) :
    bound ≤ roundEven value := by
  have floor : bound ≤ ⌊value⌋ := Int.le_floor.mpr least
  rcases roundEven_cases value with ⟨down, -⟩ | ⟨up, -⟩ <;> omega

/-- Below a whole number nothing is rounded beyond it. -/
theorem roundEven_le {bound : Int} {value : Rat} (most : value ≤ bound) :
    roundEven value ≤ bound := by
  have floor : ⌊value⌋ ≤ bound := Int.floor_le_iff.mpr (by linarith)
  rcases roundEven_cases value with ⟨down, -⟩ | ⟨up, rest⟩
  · omega
  · have strictly : ⌊value⌋ < bound := by
      have : (⌊value⌋ : Rat) < bound := by linarith
      exact_mod_cast this
    omega

/-- Rounding keeps the order. -/
theorem roundEven_mono {one other : Rat} (ordered : one ≤ other) :
    roundEven one ≤ roundEven other := by
  rcases lt_or_ge ⌊one⌋ ⌊other⌋ with lower | same
  · -- an integer lies between them
    have between : one ≤ ⌊other⌋ := by
      have above : one < ⌊one⌋ + 1 := Int.lt_floor_add_one one
      have next : ((⌊one⌋ + 1 : Int) : Rat) ≤ ⌊other⌋ := by exact_mod_cast lower
      push_cast at next
      linarith
    exact (roundEven_le between).trans (le_roundEven (Int.floor_le other))
  · have equal : ⌊one⌋ = ⌊other⌋ := le_antisymm (Int.floor_mono ordered) same
    have floorOne : one.floor = ⌊one⌋ := rfl
    have floorOther : other.floor = ⌊one⌋ := equal.symm
    simp only [roundEven, floorOne, floorOther]
    have rests : one - ⌊one⌋ ≤ other - ⌊one⌋ := by linarith
    split <;> split
    · exact le_refl _
    · omega
    · next high low =>
      exfalso
      rw [not_or, not_and] at high
      obtain ⟨atLeast, odd⟩ := high
      rcases low with below | ⟨tie, even⟩
      · linarith
      · exact odd (by linarith) even
    · exact le_refl _

end Integers

section Exponents

/-- A scaled value is one times a power of two. -/
theorem scale_zpow (value : Rat) (exponent : Int) :
    binaryExponent.scale value exponent = value * 2 ^ exponent := by
  unfold binaryExponent.scale
  split
  · next nonneg =>
    obtain ⟨power, rfl⟩ := Int.eq_ofNat_of_zero_le nonneg
    simp
  · next negative =>
    obtain ⟨power, same⟩ := Int.eq_ofNat_of_zero_le (show 0 ≤ -exponent by omega)
    rw [show exponent = -(power : Int) by omega]
    simp [div_eq_mul_inv]

/-- A quotient of natural numbers lies within a factor of two of the quotient of the powers of
two that they reach. -/
theorem quotient_bounds {numerator denominator : Nat} (positive : numerator ≠ 0)
    (proper : denominator ≠ 0) :
    (2 : Rat) ^ ((Nat.log2 numerator : Int) - Nat.log2 denominator - 1) ≤
        numerator / denominator ∧
      (numerator / denominator : Rat) <
        2 ^ ((Nat.log2 numerator : Int) - Nat.log2 denominator + 1) := by
  have divisor : (0 : Rat) < denominator := by exact_mod_cast Nat.pos_of_ne_zero proper
  have numLow : (2 : Rat) ^ (Nat.log2 numerator : Int) ≤ numerator := by
    exact_mod_cast Nat.log2_self_le positive
  have numHigh : (numerator : Rat) < 2 ^ ((Nat.log2 numerator : Int) + 1) := by
    exact_mod_cast Nat.lt_log2_self
  have denLow : (2 : Rat) ^ (Nat.log2 denominator : Int) ≤ denominator := by
    exact_mod_cast Nat.log2_self_le proper
  have denHigh : (denominator : Rat) < 2 ^ ((Nat.log2 denominator : Int) + 1) := by
    exact_mod_cast Nat.lt_log2_self
  rw [le_div_iff₀ divisor, div_lt_iff₀ divisor]
  constructor
  · calc (2 : Rat) ^ ((Nat.log2 numerator : Int) - Nat.log2 denominator - 1) * denominator
        ≤ 2 ^ ((Nat.log2 numerator : Int) - Nat.log2 denominator - 1) *
            2 ^ ((Nat.log2 denominator : Int) + 1) := by gcongr
      _ = 2 ^ (Nat.log2 numerator : Int) := by
          rw [← zpow_add₀ (by norm_num)]
          congr 1
          ring
      _ ≤ numerator := numLow
  · calc (numerator : Rat) < 2 ^ ((Nat.log2 numerator : Int) + 1) := numHigh
      _ = 2 ^ ((Nat.log2 numerator : Int) - Nat.log2 denominator + 1) *
            2 ^ (Nat.log2 denominator : Int) := by
          rw [← zpow_add₀ (by norm_num)]
          congr 1
          ring
      _ ≤ 2 ^ ((Nat.log2 numerator : Int) - Nat.log2 denominator + 1) * denominator := by
          gcongr

/-- The exponent of a positive value puts it between two powers of two. -/
theorem binaryExponent_bounds {value : Rat} (positive : 0 < value) :
    (2 : Rat) ^ binaryExponent value ≤ value ∧ value < 2 ^ (binaryExponent value + 1) := by
  have numerator : value.num.natAbs ≠ 0 := by
    have := Rat.num_pos.mpr positive
    omega
  have whole : (value.num.natAbs / value.den : Rat) = value := by
    have sign : (value.num.natAbs : Int) = value.num :=
      Int.natAbs_of_nonneg (Rat.num_nonneg.mpr positive.le)
    have cast : (value.num.natAbs : Rat) = value.num := by
      rw [← Int.cast_natCast, sign]
    rw [cast, Rat.num_div_den]
  have bounds := quotient_bounds numerator value.den_nz
  rw [whole] at bounds
  unfold binaryExponent
  simp only [scale_zpow, one_mul]
  split
  · next reached => exact ⟨reached, bounds.2⟩
  · next missed =>
    rw [not_le] at missed
    exact ⟨bounds.1, by rw [sub_add_cancel]; exact missed⟩

/-- Only one exponent puts a value between two powers of two. -/
theorem binaryExponent_unique {value : Rat} {exponent : Int} (low : (2 : Rat) ^ exponent ≤ value)
    (high : value < 2 ^ (exponent + 1)) : binaryExponent value = exponent := by
  have bounds := binaryExponent_bounds (lt_of_lt_of_le (by positivity) low)
  have above := low.trans_lt bounds.2
  have below := bounds.1.trans_lt high
  rw [zpow_lt_zpow_iff_right₀ (by norm_num)] at above below
  omega

/-- A larger value has no smaller exponent. -/
theorem binaryExponent_mono {one other : Rat} (positive : 0 < one) (ordered : one ≤ other) :
    binaryExponent one ≤ binaryExponent other := by
  have below := (binaryExponent_bounds positive).1
  have above := (binaryExponent_bounds (positive.trans_le ordered)).2
  have powers : (2 : Rat) ^ binaryExponent one < 2 ^ (binaryExponent other + 1) :=
    below.trans_lt (ordered.trans_lt above)
  have := (zpow_lt_zpow_iff_right₀ (by norm_num : (1 : Rat) < 2)).mp powers
  omega

end Exponents

section Doubles

/-- The exponent of the spacing of doubles around a value. -/
def spacingExponent (value : Rat) : Int := max (binaryExponent |value|) (-1022) - 52

def spacing (value : Rat) : Rat := 2 ^ spacingExponent value

/-- The value of the nearest double, if there are no infinities. -/
def double (value : Rat) : Rat := roundEven (value / spacing value) * spacing value

/-- There is some space between any two doubles. -/
theorem spacing_pos (value : Rat) : 0 < spacing value := by
  unfold spacing
  positivity

/-- Zero is a double. -/
theorem double_zero : double 0 = 0 := by
  have zero : roundEven 0 = 0 := roundEven_int 0
  simp [double, zero]

/-- A rounded value is off by at most half a spacing. -/
theorem double_near (value : Rat) : |double value - value| ≤ spacing value / 2 := by
  have positive := spacing_pos value
  have off : double value - value =
      ((roundEven (value / spacing value) : Rat) - value / spacing value) * spacing value := by
    unfold double
    field_simp
  rw [off, abs_mul, abs_of_pos positive]
  have near := roundEven_near (value / spacing value)
  calc |(roundEven (value / spacing value) : Rat) - value / spacing value| * spacing value
      ≤ 1 / 2 * spacing value := by gcongr
    _ = spacing value / 2 := by ring

/-- Doubles are dense: the spacing is small against every value that is not subnormal. -/
theorem spacing_le {value : Rat} (normal : (2 : Rat) ^ (-1022 : Int) ≤ |value|) :
    spacing value ≤ |value| / 2 ^ 52 := by
  have positive : 0 < |value| := lt_of_lt_of_le (by positivity) normal
  have bounds := binaryExponent_bounds positive
  have least : -1022 ≤ binaryExponent |value| := by
    have powers := normal.trans_lt bounds.2
    have := (zpow_lt_zpow_iff_right₀ (by norm_num : (1 : Rat) < 2)).mp powers
    omega
  have exponent : spacingExponent value = binaryExponent |value| - 52 := by
    unfold spacingExponent
    omega
  rw [spacing, exponent, zpow_sub₀ (by norm_num)]
  have reached := bounds.1
  norm_num at reached ⊢
  linarith

/-- The relative error of rounding. -/
theorem double_relative (value : Rat) (normal : (2 : Rat) ^ (-1022 : Int) ≤ |value|) :
    |double value - value| ≤ |value| / 2 ^ 53 := by
  have near := double_near value
  have small := spacing_le normal
  calc |double value - value| ≤ spacing value / 2 := near
    _ ≤ |value| / 2 ^ 52 / 2 := by gcongr
    _ = |value| / 2 ^ 53 := by ring

/-- A value that is a multiple of its spacing is a double. -/
theorem double_multiple {value : Rat} (multiple : Int) (same : value = multiple * spacing value) :
    double value = value := by
  have positive := spacing_pos value
  have quotient : value / spacing value = multiple := by
    rw [div_eq_iff positive.ne']
    exact same
  rw [double, quotient, roundEven_int]
  exact same.symm

/-- A value whose significand has at most 53 bits is a double. -/
theorem double_exact (significand exponent : Int) (bits : |significand| ≤ 2 ^ 53)
    (least : -1074 ≤ exponent) :
    double (significand * 2 ^ exponent) = significand * 2 ^ exponent := by
  rcases eq_or_ne significand 0 with rfl | nonzero
  · simp [double_zero]
  have size : |(significand * 2 ^ exponent : Rat)| = (|significand| : Int) * 2 ^ exponent := by
    rw [abs_mul, Int.cast_abs, abs_of_pos (by positivity : (0 : Rat) < 2 ^ exponent)]
  have absolute : (1 : Rat) ≤ (|significand| : Int) := by
    exact_mod_cast Int.one_le_abs nonzero
  have positive : 0 < |(significand * 2 ^ exponent : Rat)| := by
    rw [size]
    positivity
  have bounds := binaryExponent_bounds positive
  generalize name : binaryExponent |(significand * 2 ^ exponent : Rat)| = reached at bounds
  rw [size] at bounds
  have castBits : ((|significand| : Int) : Rat) ≤ 2 ^ 53 := by exact_mod_cast bits
  have most : reached ≤ 53 + exponent := by
    have powers : (2 : Rat) ^ reached ≤ 2 ^ (53 + exponent) := by
      rw [zpow_add₀ (by norm_num)]
      exact bounds.1.trans (by norm_num at castBits ⊢; gcongr)
    exact (zpow_le_zpow_iff_right₀ (by norm_num : (1 : Rat) < 2)).mp powers
  have unit : spacingExponent (significand * 2 ^ exponent) = max reached (-1022) - 52 := by
    rw [spacingExponent, name]
  by_cases top : reached = 53 + exponent
  · -- the significand is a power of two, and the spacing one step wider
    have full : |significand| = 2 ^ 53 := by
      apply le_antisymm bits
      have powers := bounds.1
      rw [top, zpow_add₀ (by norm_num)] at powers
      have : (2 : Rat) ^ (53 : Int) ≤ (|significand| : Int) :=
        le_of_mul_le_mul_right powers (by positivity)
      exact_mod_cast this
    have wider : spacingExponent (significand * 2 ^ exponent) = exponent + 1 := by omega
    have even : ∃ half : Int, significand = half * 2 := by
      rcases abs_cases significand with ⟨same, -⟩ | ⟨same, -⟩
      · exact ⟨2 ^ 52, by omega⟩
      · exact ⟨-2 ^ 52, by omega⟩
    obtain ⟨half, rfl⟩ := even
    apply double_multiple half
    rw [spacing, wider, zpow_add₀ (by norm_num)]
    push_cast
    ring
  · obtain ⟨shift, widened⟩ := Int.eq_ofNat_of_zero_le
      (show 0 ≤ exponent - spacingExponent (significand * 2 ^ exponent) by omega)
    apply double_multiple (significand * 2 ^ shift)
    have sum : exponent = (shift : Int) + spacingExponent (significand * 2 ^ exponent) := by omega
    have apart : (2 : Rat) ^ exponent =
        2 ^ shift * 2 ^ spacingExponent (significand * 2 ^ exponent) := by
      conv_lhs => rw [sum, zpow_add₀ (by norm_num)]
      rfl
    rw [spacing]
    push_cast
    rw [mul_assoc, ← apart]

/-- Integers up to 2 to the 53 are doubles. -/
theorem double_int {value : Int} (small : |value| ≤ 2 ^ 53) : double value = value := by
  simpa using double_exact value 0 small (by norm_num)

/-- A natural number up to 2 to the 53 is its own double. -/
theorem double_nat {value : Nat} (small : value ≤ 2 ^ 53) : double value = value := by
  have same : double ((value : Int) : Rat) = (value : Int) :=
    double_int (by rw [abs_of_nonneg (by positivity)]; exact_mod_cast small)
  exact_mod_cast same

/-- Around a larger value doubles are no closer to each other. -/
theorem spacingExponent_mono {one other : Rat} (positive : 0 < one) (ordered : one ≤ other) :
    spacingExponent one ≤ spacingExponent other := by
  have exponents := binaryExponent_mono positive ordered
  simp only [spacingExponent, abs_of_pos positive, abs_of_pos (positive.trans_le ordered)]
  omega

/-- Rounding keeps the order of values that are not negative. -/
theorem double_mono {one other : Rat} (nonneg : 0 ≤ one) (ordered : one ≤ other) :
    double one ≤ double other := by
  rcases nonneg.eq_or_lt with rfl | positive
  · rw [double_zero]
    have quotient : 0 ≤ roundEven (other / spacing other) :=
      le_roundEven (by have := spacing_pos other; push_cast; positivity)
    have : (0 : Rat) ≤ roundEven (other / spacing other) := by exact_mod_cast quotient
    exact mul_nonneg this (spacing_pos other).le
  have positiveOther : 0 < other := positive.trans_le ordered
  rcases (spacingExponent_mono positive ordered).eq_or_lt with same | lower
  · have units : spacing one = spacing other := by rw [spacing, spacing, same]
    have quotients : one / spacing one ≤ other / spacing one := by
      have := spacing_pos one
      gcongr
    have rounded : (roundEven (one / spacing one) : Rat) ≤ roundEven (other / spacing one) := by
      exact_mod_cast roundEven_mono quotients
    rw [double, double, ← units]
    exact mul_le_mul_of_nonneg_right rounded (spacing_pos one).le
  · -- a power of two lies between them
    have boundsOne := binaryExponent_bounds positive
    have boundsOther := binaryExponent_bounds positiveOther
    have unitOne : spacingExponent one = max (binaryExponent one) (-1022) - 52 := by
      rw [spacingExponent, abs_of_pos positive]
    have unitOther : spacingExponent other = max (binaryExponent other) (-1022) - 52 := by
      rw [spacingExponent, abs_of_pos positiveOther]
    have fullOne : one / spacing one ≤ ((2 ^ 53 : Int) : Rat) := by
      rw [div_le_iff₀ (spacing_pos one), spacing]
      calc one ≤ 2 ^ (binaryExponent one + 1) := boundsOne.2.le
        _ ≤ 2 ^ (53 + spacingExponent one) :=
            zpow_le_zpow_right₀ (by norm_num) (by omega)
        _ = ((2 ^ 53 : Int) : Rat) * 2 ^ spacingExponent one := by
            rw [zpow_add₀ (by norm_num)]
            norm_num
    have leastOther : ((2 ^ 52 : Int) : Rat) ≤ other / spacing other := by
      rw [le_div_iff₀ (spacing_pos other), spacing]
      calc ((2 ^ 52 : Int) : Rat) * 2 ^ spacingExponent other
          = 2 ^ (52 + spacingExponent other) := by
            rw [zpow_add₀ (by norm_num)]
            norm_num
        _ ≤ 2 ^ binaryExponent other := zpow_le_zpow_right₀ (by norm_num) (by omega)
        _ ≤ other := boundsOther.1
    have roundedOne : (roundEven (one / spacing one) : Rat) ≤ ((2 ^ 53 : Int) : Rat) := by
      exact_mod_cast roundEven_le fullOne
    have roundedOther : ((2 ^ 52 : Int) : Rat) ≤ roundEven (other / spacing other) := by
      exact_mod_cast le_roundEven leastOther
    calc double one ≤ ((2 ^ 53 : Int) : Rat) * spacing one := by
          rw [double]
          exact mul_le_mul_of_nonneg_right roundedOne (spacing_pos one).le
      _ = 2 ^ (53 + spacingExponent one) := by
          rw [spacing, zpow_add₀ (by norm_num)]
          norm_num
      _ ≤ 2 ^ (52 + spacingExponent other) := zpow_le_zpow_right₀ (by norm_num) (by omega)
      _ = ((2 ^ 52 : Int) : Rat) * spacing other := by
          rw [spacing, zpow_add₀ (by norm_num)]
          norm_num
      _ ≤ double other := by
          rw [double]
          exact mul_le_mul_of_nonneg_right roundedOther (spacing_pos other).le

/-- A value that is not negative is not rounded below zero. -/
theorem double_nonneg {value : Rat} (nonneg : 0 ≤ value) : 0 ≤ double value := by
  have rounded := double_mono (le_refl 0) nonneg
  rwa [double_zero] at rounded

/-- Nor is one that is not positive rounded above it. -/
theorem double_nonpos {value : Rat} (nonpos : value ≤ 0) : double value ≤ 0 := by
  have quotient : value / spacing value ≤ ((0 : Int) : Rat) := by
    rw [Int.cast_zero]
    exact div_nonpos_of_nonpos_of_nonneg nonpos (spacing_pos value).le
  have rounded : (roundEven (value / spacing value) : Rat) ≤ 0 := by
    exact_mod_cast roundEven_le quotient
  exact mul_nonpos_of_nonpos_of_nonneg rounded (spacing_pos value).le

/-- Nothing is rounded past an integer that is a double. -/
theorem double_le_int {value : Rat} {bound : Int} (nonneg : 0 ≤ bound) (small : bound ≤ 2 ^ 53)
    (most : value ≤ bound) : double value ≤ bound := by
  rcases le_total 0 value with low | low
  · have rounded := double_mono low most
    rwa [double_int (by rwa [abs_of_nonneg nonneg])] at rounded
  · exact (double_nonpos low).trans (Int.cast_nonneg nonneg)

/-- Rounding a value of ordinary size changes it by a small part of itself. -/
theorem double_close (value : Rat) (least : 1 / 2 ^ 100 ≤ value) :
    value - value / 2 ^ 53 ≤ double value ∧ double value ≤ value + value / 2 ^ 53 := by
  have positive : 0 < value := lt_of_lt_of_le (by norm_num) least
  have normal : (2 : Rat) ^ (-1022 : Int) ≤ |value| := by
    rw [abs_of_pos positive]
    calc (2 : Rat) ^ (-1022 : Int) ≤ 2 ^ (-100 : Int) := zpow_le_zpow_right₀ (by norm_num) (by norm_num)
      _ = 1 / 2 ^ 100 := by norm_num
      _ ≤ value := least
  have near := double_relative value normal
  rw [abs_of_pos positive, abs_le] at near
  constructor <;> linarith

/-- Below a power of two a rounded value is off by at most half the spacing there. -/
theorem double_within (value : Rat) (exponent : Int) (below : |value| < 2 ^ (exponent + 1))
    (normal : -1022 ≤ exponent) : |double value - value| ≤ 2 ^ (exponent - 53) := by
  rcases eq_or_ne value 0 with rfl | nonzero
  · rw [double_zero, sub_self, abs_zero]
    positivity
  have unit : spacingExponent value ≤ exponent - 52 := by
    have reached := (binaryExponent_bounds (abs_pos.mpr nonzero)).1.trans_lt below
    rw [zpow_lt_zpow_iff_right₀ (by norm_num)] at reached
    unfold spacingExponent
    omega
  calc |double value - value| ≤ spacing value / 2 := double_near value
    _ ≤ 2 ^ (exponent - 52) / 2 := by
        have wider : spacing value ≤ 2 ^ (exponent - 52) :=
          zpow_le_zpow_right₀ (by norm_num) unit
        gcongr
    _ = 2 ^ (exponent - 53) := by
        rw [div_eq_mul_inv, ← zpow_sub_one₀ (by norm_num)]
        congr 1
        ring

/-- Between two powers of two the spacing is the same everywhere. -/
theorem spacing_between {value : Rat} {exponent : Int} (low : (2 : Rat) ^ exponent ≤ value)
    (high : value < 2 ^ (exponent + 1)) (normal : -1022 ≤ exponent) :
    spacing value = 2 ^ (exponent - 52) := by
  have positive : 0 < value := lt_of_lt_of_le (by positivity) low
  rw [spacing, spacingExponent, abs_of_pos positive, binaryExponent_unique low high,
    max_eq_left normal]

/-- The next double is a spacing away. -/
theorem double_step {one other : Rat} (held : double one = one) (also : double other = other)
    (positive : 0 < one) (less : one < other) : one + spacing one ≤ other := by
  have unit := spacing_pos one
  obtain ⟨shift, apart⟩ := Int.eq_ofNat_of_zero_le
    (sub_nonneg.mpr (spacingExponent_mono positive less.le))
  have units : spacing other = (2 ^ shift : Int) * spacing one := by
    rw [spacing, show spacingExponent other = shift + spacingExponent one by omega,
      zpow_add₀ (by norm_num), spacing]
    norm_num
  have lower : one = roundEven (one / spacing one) * spacing one := held.symm
  have upper : other = (roundEven (other / spacing other) * 2 ^ shift : Int) * spacing one := by
    rw [Int.cast_mul, mul_assoc, ← units]
    exact also.symm
  generalize roundEven (one / spacing one) = steps at lower
  generalize roundEven (other / spacing other) * 2 ^ shift = more at upper
  have fewer : steps < more := by
    rw [lower, upper] at less
    exact_mod_cast lt_of_mul_lt_mul_right less unit.le
  have next : ((steps + 1 : Int) : Rat) ≤ more := by exact_mod_cast fewer
  calc one + spacing one = (steps + 1 : Int) * spacing one := by
        rw [Int.cast_add, add_mul, ← lower, Int.cast_one, one_mul]
    _ ≤ more * spacing one := mul_le_mul_of_nonneg_right next unit.le
    _ = other := upper.symm

/-- Up to twice a value the spacing is at most twice its own. -/
theorem spacing_twice {one other : Rat} (large : 1 ≤ one) (ordered : one ≤ other)
    (twice : other ≤ 2 * one) : spacing other ≤ 2 * spacing one := by
  have positive : 0 < one := by linarith
  have bounds := binaryExponent_bounds positive
  have reached := (binaryExponent_bounds (positive.trans_le ordered)).1
  have exponents : binaryExponent other < binaryExponent one + 2 := by
    have powers : (2 : Rat) ^ binaryExponent other < 2 ^ (binaryExponent one + 2) := by
      rw [show binaryExponent one + 2 = 1 + (binaryExponent one + 1) by ring,
        zpow_add₀ (by norm_num), zpow_one]
      linarith
    exact (zpow_lt_zpow_iff_right₀ (by norm_num)).mp powers
  calc spacing other ≤ 2 ^ (1 + spacingExponent one) := by
        refine zpow_le_zpow_right₀ (by norm_num) ?_
        simp only [spacingExponent, abs_of_pos positive, abs_of_pos (positive.trans_le ordered)]
        omega
    _ = 2 * spacing one := by rw [zpow_add₀ (by norm_num), zpow_one, spacing]

/-- From 2^52 on doubles are whole numbers. -/
theorem double_whole_large {value : Rat} (large : 2 ^ 52 ≤ value) :
    ∃ whole : Int, double value = whole := by
  have positive : 0 < value := by linarith
  have reached : (2 : Rat) ^ (52 : Int) < 2 ^ (binaryExponent value + 1) :=
    lt_of_le_of_lt large (binaryExponent_bounds positive).2
  rw [zpow_lt_zpow_iff_right₀ (by norm_num)] at reached
  obtain ⟨power, exponent⟩ := Int.eq_ofNat_of_zero_le
    (show 0 ≤ spacingExponent value by rw [spacingExponent, abs_of_pos positive]; omega)
  refine ⟨roundEven (value / spacing value) * 2 ^ power, ?_⟩
  rw [double, Int.cast_mul, Int.cast_pow, Int.cast_ofNat]
  congr 1
  rw [spacing, exponent, zpow_natCast]

/-- A whole number is rounded to a whole number. -/
theorem double_whole (value : Nat) : ∃ whole : Nat, double value = whole := by
  rcases le_or_gt value (2 ^ 53) with small | large
  · exact ⟨value, double_nat small⟩
  · obtain ⟨whole, rounded⟩ := double_whole_large
      (by exact_mod_cast (by omega : 2 ^ 52 ≤ value) : (2 : Rat) ^ 52 ≤ value)
    have nonneg : (0 : Rat) ≤ whole := rounded ▸ double_nonneg (Nat.cast_nonneg value)
    obtain ⟨natural, rfl⟩ := Int.eq_ofNat_of_zero_le (Int.cast_nonneg_iff.mp nonneg)
    exact ⟨natural, by exact_mod_cast rounded⟩

/-- Half way between whole numbers below 2^52 there is a double. -/
theorem double_half {whole : Int} (nonneg : 0 ≤ whole) (small : whole < 2 ^ 52) :
    double (whole + 1 / 2) = whole + 1 / 2 := by
  have halves : (whole : Rat) + 1 / 2 = (2 * whole + 1 : Int) * 2 ^ (-1 : Int) := by
    push_cast
    ring
  rw [halves]
  exact double_exact _ _ (by rw [abs_of_nonneg (by omega)]; omega) (by norm_num)

/-- Beyond, the even one of the two whole numbers is taken. -/
theorem double_half_odd {whole : Int} (low : 2 ^ 52 ≤ whole) (high : whole < 2 ^ 53)
    (odd : whole % 2 = 1) : double (whole + 1 / 2) = (whole + 1 : Int) := by
  have lowCast : (2 : Rat) ^ 52 ≤ whole := by exact_mod_cast low
  have highCast : (whole : Rat) + 1 ≤ 2 ^ 53 := by exact_mod_cast high
  have unit : spacing (whole + 1 / 2) = 1 := by
    have lower : (2 : Rat) ^ (52 : Int) ≤ whole + 1 / 2 := by
      norm_num at lowCast ⊢
      linarith
    have upper : (whole : Rat) + 1 / 2 < 2 ^ ((52 : Int) + 1) := by
      norm_num at highCast ⊢
      linarith
    rw [spacing_between lower upper (by norm_num)]
    norm_num
  rw [double, unit, div_one, mul_one, roundEven_tie odd]

/-- Odd numbers between 2^53 and 2^54 are half way between two doubles. -/
theorem double_odd {value : Int} (low : 2 ^ 53 < value) (high : value < 2 ^ 54)
    (rest : value % 4 = 3) : double value = (value + 1 : Int) := by
  have lower : (2 : Rat) ^ (53 : Int) ≤ value := by exact_mod_cast low.le
  have upper : (value : Rat) < 2 ^ ((53 : Int) + 1) := by exact_mod_cast high
  have unit : spacing value = 2 := by
    rw [spacing_between lower upper (by norm_num)]
    norm_num
  have half : (value : Rat) / 2 = ((value / 2 : Int) : Rat) + 1 / 2 := by
    have odd : value = 2 * (value / 2) + 1 := by omega
    have cast : (value : Rat) = 2 * ((value / 2 : Int) : Rat) + 1 := by exact_mod_cast odd
    linarith
  rw [double, unit, half, roundEven_tie (by omega)]
  exact_mod_cast (by omega : (value / 2 + 1) * 2 = value + 1)

section Offsets

variable {value offset : Rat} {steps : Int}

/-- Up to the next double the spacing is that of the last one. -/
theorem spacing_offset (multiple : value = steps * spacing value) (large : 1 ≤ value)
    (nonneg : 0 ≤ offset) (small : offset < spacing value) :
    spacing (value + offset) = spacing value := by
  have positive : 0 < value := by linarith
  obtain ⟨low, high⟩ := binaryExponent_bounds positive
  have normal : -1 < binaryExponent value := by
    have : (2 : Rat) ^ (0 : Int) < 2 ^ (binaryExponent value + 1) := by
      rw [zpow_zero]
      exact large.trans_lt high
    rw [zpow_lt_zpow_iff_right₀ (by norm_num)] at this
    omega
  have unit : spacing value = 2 ^ (binaryExponent value - 52) := by
    rw [spacing, spacingExponent, abs_of_pos positive, max_eq_left (by omega)]
  have top : (2 : Rat) ^ (binaryExponent value + 1) = (2 ^ 53 : Int) * spacing value := by
    rw [unit, show binaryExponent value + 1 = 53 + (binaryExponent value - 52) by omega,
      zpow_add₀ (by norm_num)]
    norm_num
  -- the next double is at most the next power of two
  have fewer : steps + 1 ≤ 2 ^ 53 := by
    by_contra reached
    have most : ((2 ^ 53 : Int) : Rat) ≤ steps := by exact_mod_cast (by omega : 2 ^ 53 ≤ steps)
    have := mul_le_mul_of_nonneg_right most (spacing_pos value).le
    linarith
  have next : (steps + 1) * spacing value ≤ (2 ^ 53 : Int) * spacing value :=
    mul_le_mul_of_nonneg_right (by exact_mod_cast fewer) (spacing_pos value).le
  have inside : value + offset < 2 ^ (binaryExponent value + 1) := by linarith
  rw [unit, spacing, spacingExponent, abs_of_pos (by linarith),
    binaryExponent_unique (by linarith) inside, max_eq_left (by omega)]

/-- The steps to a value between two doubles. -/
theorem steps_offset (multiple : value = steps * spacing value) :
    (value + offset) / spacing value = steps + offset / spacing value := by
  have positive := spacing_pos value
  rw [add_div, (div_eq_iff positive.ne').mpr multiple]

/-- Less than half the spacing is lost. -/
theorem double_down (multiple : value = steps * spacing value) (large : 1 ≤ value)
    (nonneg : 0 ≤ offset) (half : 2 * offset < spacing value) :
    double (value + offset) = value := by
  have positive := spacing_pos value
  have part : offset / spacing value < 1 / 2 := by
    rw [div_lt_div_iff₀ positive (by norm_num)]
    linarith
  have least : 0 ≤ offset / spacing value := div_nonneg nonneg positive.le
  have near := abs_le.mp (roundEven_near (steps + offset / spacing value))
  have rounded : roundEven (steps + offset / spacing value) = steps := by
    have above : (roundEven (steps + offset / spacing value) : Rat) < (steps + 1 : Int) := by
      push_cast
      linarith
    have below : ((steps - 1 : Int) : Rat) < roundEven (steps + offset / spacing value) := by
      push_cast
      linarith
    rw [Int.cast_lt] at above below
    omega
  rw [double, spacing_offset multiple large nonneg (by linarith), steps_offset multiple, rounded]
  exact multiple.symm

/-- More than half is rounded up. -/
theorem double_up (multiple : value = steps * spacing value) (large : 1 ≤ value)
    (half : spacing value < 2 * offset) (small : offset < spacing value) :
    double (value + offset) = value + spacing value := by
  have positive := spacing_pos value
  have part : 1 / 2 < offset / spacing value := by
    rw [div_lt_div_iff₀ (by norm_num) positive]
    linarith
  have most : offset / spacing value < 1 := (div_lt_one positive).mpr small
  have near := abs_le.mp (roundEven_near (steps + offset / spacing value))
  have rounded : roundEven (steps + offset / spacing value) = steps + 1 := by
    have above : (roundEven (steps + offset / spacing value) : Rat) < (steps + 2 : Int) := by
      push_cast
      linarith
    have below : (steps : Rat) < roundEven (steps + offset / spacing value) := by linarith
    rw [Int.cast_lt] at above below
    omega
  rw [double, spacing_offset multiple large (by linarith) small, steps_offset multiple, rounded]
  push_cast
  rw [add_mul, one_mul, ← multiple]

end Offsets

/-- A double is not rounded again. -/
theorem double_double (value : Rat) : double (double value) = double value := by
  have significand : |roundEven (value / spacing value)| ≤ 2 ^ 53 := by
    have full : |value / spacing value| ≤ ((2 ^ 53 : Int) : Rat) := by
      rw [abs_div, abs_of_pos (spacing_pos value), div_le_iff₀ (spacing_pos value)]
      rcases eq_or_ne value 0 with rfl | nonzero
      · rw [abs_zero]
        exact mul_nonneg (by norm_num) (spacing_pos 0).le
      have unit : spacingExponent value = max (binaryExponent |value|) (-1022) - 52 := rfl
      calc |value| ≤ 2 ^ (binaryExponent |value| + 1) :=
            (binaryExponent_bounds (abs_pos.mpr nonzero)).2.le
        _ ≤ 2 ^ (53 + spacingExponent value) := zpow_le_zpow_right₀ (by norm_num) (by omega)
        _ = ((2 ^ 53 : Int) : Rat) * 2 ^ spacingExponent value := by
            rw [zpow_add₀ (by norm_num)]
            norm_num
    obtain ⟨low, high⟩ := abs_le.mp full
    rw [abs_le]
    exact ⟨le_roundEven (by exact_mod_cast low), roundEven_le high⟩
  have least : -1074 ≤ spacingExponent value := by
    unfold spacingExponent
    omega
  exact double_exact _ _ significand least

/-- Rounding yields the nearest double, or an infinity beyond the largest doubles. -/
theorem nearest_eq (value : Rat) : Number.nearest value =
    if |double value| < 2 ^ 1024 then .finite (double value) else .infinite (decide (value < 0)) := by
  rcases eq_or_ne value 0 with rfl | nonzero
  · rw [double_zero, abs_zero, if_pos (by positivity)]
    rfl
  have shift : binaryExponent.scale value (-spacingExponent value) = value / spacing value := by
    rw [scale_zpow, zpow_neg, spacing, div_eq_mul_inv]
  have rounded : binaryExponent.scale (roundEven (value / spacing value)) (spacingExponent value) =
      double value := by
    rw [scale_zpow]
    rfl
  have exponent : max (binaryExponent |value|) (-1022) - 52 = spacingExponent value := rfl
  simp only [Number.nearest, if_neg nonzero, exponent, shift, rounded]

/-- An ordinary value is rounded to a finite double. -/
theorem nearest_double {value : Rat} (small : |value| ≤ 2 ^ 1000) :
    Number.nearest value = .finite (double value) := by
  rw [nearest_eq, if_pos]
  have tight : spacing value ≤ 2 ^ 1000 * 2 := by
    have exponent : spacingExponent value ≤ 1001 := by
      rcases eq_or_ne value 0 with rfl | nonzero
      · decide +kernel
      have reached := (binaryExponent_bounds (abs_pos.mpr nonzero)).1.trans small
      rw [← zpow_natCast, zpow_le_zpow_iff_right₀ (by norm_num)] at reached
      unfold spacingExponent
      omega
    calc spacing value ≤ (2 : Rat) ^ (1001 : Int) := zpow_le_zpow_right₀ (by norm_num) exponent
      _ = 2 ^ 1001 := zpow_natCast 2 1001
      _ = 2 ^ 1000 * 2 := pow_succ 2 1000
  have near := double_near value
  have triangle : |double value| ≤ |double value - value| + |value| := by
    simpa using abs_add_le (double value - value) value
  have room : (2 : Rat) ^ 1024 = 2 ^ 1000 * 2 ^ 24 := pow_add 2 1000 24
  have unit : (0 : Rat) < 2 ^ 1000 := by positivity
  rw [room]
  generalize (2 : Rat) ^ 1000 = large at *
  linarith only [near, triangle, small, tight, unit]

/-- Values of ordinary size do not reach infinity. -/
theorem nearest_ordinary {value : Rat} (small : |value| ≤ 2 ^ 100) :
    Number.nearest value = .finite (double value) :=
  nearest_double (small.trans (pow_le_pow_right₀ (by norm_num) (by norm_num)))

/-- Whole numbers up to 2^53 are doubles. -/
theorem nearest_nat {value : Nat} (small : value ≤ 2 ^ 53) :
    Number.nearest value = .finite value := by
  have cast : (value : Rat) ≤ 2 ^ 53 := by exact_mod_cast small
  have ordinary : |(value : Rat)| ≤ 2 ^ 100 := by
    rw [abs_of_nonneg (Nat.cast_nonneg _)]
    exact cast.trans (by norm_num)
  rw [nearest_ordinary ordinary, double_nat small]

/-- Rounding keeps the order, also where it reaches infinity. -/
theorem nearest_mono {one other : Rat} (nonneg : 0 ≤ one) (ordered : one ≤ other) :
    (Number.nearest one).atMost (Number.nearest other) = true := by
  have rounded := double_mono nonneg ordered
  have least : 0 ≤ double one := by
    have := double_mono (le_refl 0) nonneg
    rwa [double_zero] at this
  rw [nearest_eq, nearest_eq, abs_of_nonneg least, abs_of_nonneg (least.trans rounded),
    decide_eq_false nonneg.not_gt, decide_eq_false (nonneg.trans ordered).not_gt]
  split <;> split
  · exact decide_eq_true rounded
  · rfl
  · next large small => exact absurd (rounded.trans_lt small) large
  · rfl

end Doubles

section Operators

/-- `one + other`. -/
def Number.plus : Number → Number → Number
  | .finite one, .finite other => .nearest (one + other)
  | .infinite negative, .finite _ => .infinite negative
  | .finite _, .infinite negative => .infinite negative
  | .infinite negative, .infinite other =>
    if negative = other then .infinite negative else .notANumber
  | .notANumber, _ => .notANumber
  | _, .notANumber => .notANumber

/-- `one * other`. -/
def Number.times : Number → Number → Number
  | .finite one, .finite other => .nearest (one * other)
  | .infinite negative, .finite value | .finite value, .infinite negative =>
    if value = 0 then .notANumber else .infinite (negative != decide (value < 0))
  | .infinite negative, .infinite other => .infinite (negative != other)
  | .notANumber, _ => .notANumber
  | _, .notANumber => .notANumber

/-- `one / divisor`, by a number other than zero. -/
def Number.dividedBy (divisor : Rat) : Number → Number
  | .finite one => .nearest (one / divisor)
  | .infinite negative => .infinite (negative != decide (divisor < 0))
  | .notANumber => .notANumber

/-- `Math.max`. -/
def Number.max : Number → Number → Number
  | .notANumber, _ => .notANumber
  | _, .notANumber => .notANumber
  | one, other => if one.atMost other then other else one

/-- The larger of two doubles. -/
theorem max_finite (one other : Rat) :
    Number.max (.finite one) (.finite other) = .finite (max one other) := by
  simp only [Number.max, Number.atMost, decide_eq_true_eq, max_def]
  split <;> rfl

/-- `Math.abs`. -/
def Number.abs : Number → Number
  | .finite value => .finite |value|
  | .infinite _ => .infinite false
  | .notANumber => .notANumber

/-- `Math.floor`. -/
def Number.floor : Number → Number
  | .finite value => .finite ⌊value⌋
  | other => other

/-- `Math.ceil`. -/
def Number.ceil : Number → Number
  | .finite value => .finite ⌈value⌉
  | other => other

/-- `Math.round`: the nearest integer, the upper one of two. -/
def Number.round : Number → Number
  | .finite value => .finite ⌊value + 1 / 2⌋
  | other => other

end Operators

end PlanBuddy.Values
