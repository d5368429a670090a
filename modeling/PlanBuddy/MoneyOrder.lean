import PlanBuddy.Money

/-!
# The order of amounts

Every step of the conversion to paise keeps the order of numbers that are not negative, also where
a product or a sum is beyond the largest double and becomes infinite.
-/

namespace PlanBuddy.Money

open Values

section Order

/-- Not negative, and a number. -/
def Nonnegative : Number → Prop
  | .finite value => 0 ≤ value
  | .infinite negative => negative = false
  | .notANumber => False

/-- What is not negative is rounded to no negative number. -/
theorem nearest_nonnegative {value : Rat} (nonneg : 0 ≤ value) :
    Nonnegative (.nearest value) := by
  rw [nearest_eq]
  split
  · exact double_nonneg nonneg
  · exact decide_eq_false nonneg.not_gt

/-- Nothing is more than infinity. -/
theorem atMost_infinite {number : Number} (nonneg : Nonnegative number) :
    number.atMost (.infinite false) = true := by
  cases number with
  | finite value => rfl
  | infinite negative => cases negative <;> rfl
  | notANumber => exact nonneg.elim

/-- A number that is not negative is finite or the positive infinity, and so is every larger one. -/
theorem nonnegative_cases {one other : Number} (nonneg : Nonnegative one)
    (ordered : one.atMost other = true) :
    other = .infinite false ∨
      ∃ low high : Rat, one = .finite low ∧ other = .finite high ∧ 0 ≤ low ∧ low ≤ high := by
  rcases one with low | negative | _ <;> rcases other with high | otherNegative | _
  · exact .inr ⟨low, high, rfl, rfl, nonneg, of_decide_eq_true ordered⟩
  · cases otherNegative
    · exact .inl rfl
    · cases ordered
  · cases ordered
  · cases nonneg
    cases ordered
  · cases nonneg
    cases otherNegative
    · exact .inl rfl
    · cases ordered
  · cases ordered
  · exact nonneg.elim
  · exact nonneg.elim
  · exact nonneg.elim

/-- Sums of such numbers are such numbers. -/
theorem plus_nonnegative {one more : Number} (nonneg : Nonnegative one)
    (nonnegMore : Nonnegative more) : Nonnegative (one.plus more) := by
  rcases one with value | negative | _ <;> rcases more with other | otherNegative | _
  · exact nearest_nonnegative (add_nonneg nonneg nonnegMore)
  · exact nonnegMore
  · exact nonnegMore.elim
  · exact nonneg
  · cases nonneg
    cases nonnegMore
    rfl
  · exact nonnegMore.elim
  · exact nonneg.elim
  · exact nonneg.elim
  · exact nonneg.elim

/-- Sums of numbers that are not negative keep the order. -/
theorem plus_mono {one other more most : Number} (nonneg : Nonnegative one)
    (nonnegMore : Nonnegative more) (ordered : one.atMost other = true)
    (orderedMore : more.atMost most = true) :
    (one.plus more).atMost (other.plus most) = true := by
  have least := plus_nonnegative nonneg nonnegMore
  rcases nonnegative_cases nonneg ordered with rfl | ⟨low, high, rfl, rfl, nonnegLow, within⟩
  · rcases nonnegative_cases nonnegMore orderedMore with rfl | ⟨_, value, rfl, rfl, -, -⟩
    · exact atMost_infinite least
    · exact atMost_infinite least
  · rcases nonnegative_cases nonnegMore orderedMore with rfl | ⟨small, large, rfl, rfl, nonnegSmall, more⟩
    · exact atMost_infinite least
    · exact nearest_mono (add_nonneg nonnegLow nonnegSmall) (add_le_add within more)

/-- Products with a positive factor keep the order. -/
theorem times_mono {one other : Number} (factor : Rat) (positive : 0 < factor)
    (nonneg : Nonnegative one) (ordered : one.atMost other = true) :
    Nonnegative (one.times (.finite factor)) ∧
      (one.times (.finite factor)).atMost (other.times (.finite factor)) = true := by
  have infinite : (Number.infinite false).times (.finite factor) = .infinite false := by
    simp [Number.times, positive.ne', positive.le]
  have least : Nonnegative (one.times (.finite factor)) := by
    rcases one with value | negative | _
    · exact nearest_nonnegative (mul_nonneg nonneg positive.le)
    · cases nonneg
      rw [infinite]
      rfl
    · exact nonneg.elim
  refine ⟨least, ?_⟩
  rcases nonnegative_cases nonneg ordered with rfl | ⟨low, high, rfl, rfl, nonnegLow, within⟩
  · rw [infinite]
    exact atMost_infinite least
  · exact nearest_mono (mul_nonneg nonnegLow positive.le)
      (mul_le_mul_of_nonneg_right within positive.le)

/-- Rounding down keeps their order. -/
theorem floor_mono {one other : Number} (nonneg : Nonnegative one)
    (ordered : one.atMost other = true) : one.floor.atMost other.floor = true := by
  rcases nonnegative_cases nonneg ordered with rfl | ⟨low, high, rfl, rfl, nonnegLow, within⟩
  · rcases one with value | negative | _
    · rfl
    · exact atMost_infinite nonneg
    · exact nonneg.elim
  · exact decide_eq_true (by exact_mod_cast Int.floor_mono within)

/-- They are their own absolute values. -/
theorem abs_nonnegative {number : Number} (nonneg : Nonnegative number) : number.abs = number := by
  cases number with
  | finite value => exact congrArg Number.finite (abs_of_nonneg nonneg)
  | infinite negative =>
    cases nonneg
    rfl
  | notANumber => rfl

/-- The epsilon multiplies from either side. -/
theorem epsilon_times (number : Number) : epsilon.times number = number.times epsilon := by
  cases number with
  | finite value => exact congrArg Number.nearest (mul_comm _ _)
  | infinite negative => rfl
  | notANumber => rfl

/-- The conversion as steps on a number that is not negative. -/
def converted (amount : Number) : Number :=
  let scaled := amount.times (.finite 100)
  ((scaled.plus (.finite (1 / 2))).plus (epsilon.times scaled.abs)).floor

/-- The conversion keeps their order. -/
theorem converted_mono {one other : Number} (nonneg : Nonnegative one)
    (nonnegOther : Nonnegative other) (ordered : one.atMost other = true) :
    (converted one).atMost (converted other) = true := by
  have hundred : (0 : Rat) < 100 := by norm_num
  obtain ⟨least, scaled⟩ := times_mono 100 hundred nonneg ordered
  have self : other.atMost other = true := by
    cases other with
    | finite value => exact decide_eq_true (le_refl value)
    | infinite negative => cases negative <;> rfl
    | notANumber => exact nonnegOther.elim
  have leastOther := (times_mono 100 hundred nonnegOther self).1
  have halfNonneg : Nonnegative (.finite (1 / 2)) := by
    show (0 : Rat) ≤ 1 / 2
    norm_num
  have halfSame : (Number.finite (1 / 2)).atMost (.finite (1 / 2)) = true :=
    decide_eq_true le_rfl
  have half := plus_mono least halfNonneg scaled halfSame
  have small := times_mono (1 / 2 ^ 52) (by norm_num) least scaled
  rw [converted, converted, abs_nonnegative least, abs_nonnegative leastOther, epsilon_times,
    epsilon_times]
  exact floor_mono (plus_nonnegative (plus_nonnegative least halfNonneg) small.1)
    (plus_mono (plus_nonnegative least halfNonneg) small.1 half small.2)

/-- What is converted is a number that is not negative, and the result has the steps done. -/
theorem rupeesToPaise_ok {value : Value} {paise : Number}
    (accepted : rupeesToPaise value = .ok paise) :
    ∃ amount, value.toNumber = some amount ∧ Nonnegative amount ∧ paise = converted amount := by
  unfold rupeesToPaise at accepted
  split at accepted
  · cases accepted
  · cases accepted
  · split at accepted
    · cases accepted
    · next amount number =>
      split at accepted
      · cases accepted
      · next nonneg =>
        cases accepted
        exact ⟨_, number, not_lt.mp nonneg, rfl⟩
    · cases accepted

/-- A larger amount is never converted to fewer paise, up to where the paise are infinite. -/
theorem rupeesToPaise_mono {one other : Value} {less more paise morePaise : Number}
    (numberOne : one.toNumber = some less) (numberOther : other.toNumber = some more)
    (ordered : less.atMost more = true) (converts : rupeesToPaise one = .ok paise)
    (convertsOther : rupeesToPaise other = .ok morePaise) : paise.atMost morePaise = true := by
  obtain ⟨amount, number, nonneg, rfl⟩ := rupeesToPaise_ok converts
  obtain ⟨otherAmount, otherNumber, otherNonneg, rfl⟩ := rupeesToPaise_ok convertsOther
  rw [numberOne] at number
  rw [numberOther] at otherNumber
  cases number
  cases otherNumber
  exact converted_mono nonneg otherNonneg ordered

/-- A finite number is converted. -/
theorem rupeesToPaise_number {amount : Rat} (nonneg : 0 ≤ amount) :
    rupeesToPaise (.number (.finite amount)) = .ok (converted (.finite amount)) := by
  simp only [rupeesToPaise, Value.toNumber, Value.numeric, if_neg nonneg.not_gt, converted]

/-- Two rupees are no less paise than one. -/
theorem two_rupees_more : (converted (.finite 1)).atMost (converted (.finite 2)) = true :=
  rupeesToPaise_mono (rfl : (Value.number (.finite 1)).toNumber = some (.finite 1))
    (rfl : (Value.number (.finite 2)).toNumber = some (.finite 2)) (by decide +kernel)
    (rupeesToPaise_number (by norm_num)) (rupeesToPaise_number (by norm_num))

end Order

end PlanBuddy.Money
