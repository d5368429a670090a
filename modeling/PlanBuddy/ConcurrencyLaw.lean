import PlanBuddy.ControllerCalls
import Mathlib.Algebra.Group.Nat.Defs

/-!
# Additive increase, multiplicative decrease

The concurrency of a queue starts between the configured bounds and stays there: a failure or
a rate limit halves it, but not below the minimum, and every twentieth success in a row adds
one, but not above the maximum. Closing the circuit starts it again from a quarter of its
initial value. Both rules have closed forms over any number of calls: halving composes to a
division by a power of two, and of consecutive streaks the twentieths add up.
-/

namespace PlanBuddy.AdaptiveController

/-- `CONCURRENCY_MAX[queueKey] ?? 20`. -/
def maxConcurrency (config : QueueConfig) (queueKey : QueueKey) : Nat :=
  (config.concurrencyMax queueKey).getD 20

/-- The configured bounds are in order around the initial value. -/
structure Ordered (config : QueueConfig) (queueKey : QueueKey) : Prop where
  positive : 1 ≤ minConcurrency config queueKey
  lower : minConcurrency config queueKey ≤ initialConcurrency config queueKey
  upper : initialConcurrency config queueKey ≤ maxConcurrency config queueKey

section Bounds

variable {config : QueueConfig} {queueKey : QueueKey} {control : QueueControl}

/-- The concurrency is within the configured bounds. -/
def Within (config : QueueConfig) (queueKey : QueueKey) (control : QueueControl) : Prop :=
  minConcurrency config queueKey ≤ control.currentConcurrency ∧
    control.currentConcurrency ≤ maxConcurrency config queueKey

/-- The concurrency begins within its bounds. -/
theorem initial_within (ordered : Ordered config queueKey) :
    Within config queueKey (QueueControl.initial config queueKey) := ⟨ordered.lower, ordered.upper⟩

/-- The gate leaves it alone. -/
theorem canProcess_concurrency (clock : Time) :
    (canProcess config queueKey clock control).1.currentConcurrency = control.currentConcurrency := by
  simp only [canProcess, maybeTransitionToHalfOpen]
  repeat' split
  all_goals rfl

/-- A decrease stays within them. -/
theorem decrease_within (within : Within config queueKey control) :
    Within config queueKey (decreaseConcurrency config queueKey control) := by
  obtain ⟨low, high⟩ := within
  refine ⟨Nat.le_max_right _ _, Nat.max_le.mpr ⟨?_, Nat.le_trans low high⟩⟩
  exact Nat.le_trans (Nat.div_le_self _ 2) high

/-- So does an increase. -/
theorem increase_within (within : Within config queueKey control) :
    Within config queueKey (increaseConcurrency config queueKey control) := by
  obtain ⟨low, high⟩ := within
  rw [increaseConcurrency]
  split
  · exact ⟨low, high⟩
  · exact ⟨Nat.le_min.mpr ⟨Nat.le_succ_of_le low, Nat.le_trans low high⟩, Nat.min_le_right _ _⟩

/-- Slow start is within the bounds as well. -/
theorem recordSuccess_within (ordered : Ordered config queueKey)
    (within : Within config queueKey control) :
    Within config queueKey (recordSuccess config queueKey control) := by
  have slow : Within config queueKey (closeCircuit config queueKey control) := by
    obtain ⟨-, lower, upper⟩ := ordered
    refine ⟨Nat.le_max_left _ _, Nat.max_le.mpr ⟨Nat.le_trans lower upper, ?_⟩⟩
    exact Nat.le_trans (Nat.div_le_self _ 4) upper
  simp only [recordSuccess]
  split
  · split
    · exact slow
    · exact within
  · exact within

/-- So does a success. -/
theorem onSuccess_within (ordered : Ordered config queueKey) (within : Within config queueKey control) :
    Within config queueKey (onSuccess config queueKey control) := by
  have recorded := recordSuccess_within ordered within
  simp only [onSuccess]
  split
  · exact increase_within recorded
  · exact recorded

/-- So does every call. -/
theorem perform_within (ordered : Ordered config queueKey) (within : Within config queueKey control)
    (timed : TimedCall) : Within config queueKey (perform config queueKey control timed) := by
  obtain ⟨clock, call⟩ := timed
  cases call with
  | canProcess =>
    rw [Within, perform, canProcess_concurrency]
    exact within
  | onSuccess => exact onSuccess_within ordered within
  | onFailure =>
    have recorded : Within config queueKey (recordFailure config queueKey clock control) := by
      rw [recordFailure]
      split <;> exact within
    exact decrease_within recorded
  | onRateLimited => exact decrease_within within
  | setDraining isDraining =>
    cases isDraining with
    | false => exact within
    | true => exact ⟨Nat.le_refl _, Nat.le_trans within.1 within.2⟩

/-- So do all calls. -/
theorem performAll_within (ordered : Ordered config queueKey) (within : Within config queueKey control)
    (calls : List TimedCall) : Within config queueKey (performAll config queueKey control calls) := by
  induction calls generalizing control with
  | nil => exact within
  | cons timed rest inductionHypothesis =>
    exact inductionHypothesis (perform_within ordered within timed)

end Bounds

section Decrease

variable {config : QueueConfig} {queueKey : QueueKey} {control : QueueControl}

/-- The calls that halve the concurrency. -/
def TimedCall.Halves (timed : TimedCall) : Prop :=
  timed.call = .onFailure ∨ timed.call = .onRateLimited

/-- A call that halves it stops at the minimum. -/
theorem halves_concurrency {timed : TimedCall} (halves : timed.Halves) :
    (perform config queueKey control timed).currentConcurrency =
      max (control.currentConcurrency / 2) (minConcurrency config queueKey) := by
  obtain ⟨clock, call⟩ := timed
  rcases halves with rfl | rfl
  · simp only [perform, onFailure, decreaseConcurrency, recordFailure]
    split <;> rfl
  · rfl

/-- Halving above a minimum and dividing by a power of two compose. -/
theorem halving_composes (low value exponent : Nat) :
    max low (max (value / 2) low / 2 ^ exponent) = max low (value / 2 ^ (exponent + 1)) := by
  have composed : value / 2 / 2 ^ exponent = value / 2 ^ (exponent + 1) := by
    rw [Nat.div_div_eq_div_mul, Nat.pow_succ, Nat.mul_comm]
  rcases Nat.le_total low (value / 2) with above | below
  · rw [Nat.max_eq_left above, composed]
  · rw [Nat.max_eq_right below, ← composed]
    have least := Nat.div_le_self low (2 ^ exponent)
    have less := Nat.div_le_self (value / 2) (2 ^ exponent)
    rw [Nat.max_eq_left least, Nat.max_eq_left (Nat.le_trans less below)]

/-- So do several in a row. -/
theorem performAll_halves (within : minConcurrency config queueKey ≤ control.currentConcurrency)
    (calls : List TimedCall) (halves : ∀ timed ∈ calls, timed.Halves) :
    (performAll config queueKey control calls).currentConcurrency =
      max (minConcurrency config queueKey) (control.currentConcurrency / 2 ^ calls.length) := by
  induction calls generalizing control with
  | nil => simpa [performAll] using (Nat.max_eq_right within).symm
  | cons timed rest inductionHypothesis =>
    obtain ⟨first, later⟩ := List.forall_mem_cons.mp halves
    have once : (perform config queueKey control timed).currentConcurrency =
        max (control.currentConcurrency / 2) (minConcurrency config queueKey) :=
      halves_concurrency first
    have remaining := inductionHypothesis (once ▸ Nat.le_max_right _ _) later
    rw [once, halving_composes] at remaining
    exact remaining

end Decrease

section Increase

variable {config : QueueConfig} {queueKey : QueueKey} {control : QueueControl}

/-- A success of a closed circuit that is not draining. -/
theorem closed_onSuccess (config : QueueConfig) (queueKey : QueueKey)
    (closed : control.circuitState = .closed) (serving : control.draining = false) :
    (onSuccess config queueKey control).circuitState = .closed ∧
      (onSuccess config queueKey control).draining = false ∧
      (onSuccess config queueKey control).successStreak = control.successStreak + 1 ∧
      (onSuccess config queueKey control).currentConcurrency =
        if (control.successStreak + 1) % 20 = 0 then
          min (control.currentConcurrency + 1) (maxConcurrency config queueKey)
        else control.currentConcurrency := by
  have recorded : recordSuccess config queueKey control =
      { control with consecutiveFailures := 0, consecutiveRateLimits := 0 } := by
    simp [recordSuccess, closed]
  simp only [onSuccess, recorded]
  by_cases gains : (control.successStreak + 1) % 20 = 0
  · simp [gains, increaseConcurrency, serving, closed, maxConcurrency]
  · simp [gains, serving, closed]

/-- Of a streak that goes on, the twentieth successes are counted, up to the maximum. -/
theorem performAll_successes (high : control.currentConcurrency ≤ maxConcurrency config queueKey)
    (closed : control.circuitState = .closed) (serving : control.draining = false)
    (calls : List TimedCall) (successes : ∀ timed ∈ calls, timed.call = .onSuccess) :
    (performAll config queueKey control calls).currentConcurrency =
      min (maxConcurrency config queueKey) (control.currentConcurrency +
        (control.successStreak + calls.length) / 20 - control.successStreak / 20) := by
  induction calls generalizing control with
  | nil =>
    have same : control.currentConcurrency + control.successStreak / 20 -
        control.successStreak / 20 = control.currentConcurrency := Nat.add_sub_cancel _ _
    simpa [performAll, same] using (Nat.min_eq_right high).symm
  | cons timed rest inductionHypothesis =>
    obtain ⟨first, later⟩ := List.forall_mem_cons.mp successes
    have once : perform config queueKey control timed = onSuccess config queueKey control := by
      rw [perform, first]
    obtain ⟨stays, serves, streak, concurrency⟩ :=
      closed_onSuccess config queueKey closed serving
    rw [← once] at stays serves streak concurrency
    have bounded : (perform config queueKey control timed).currentConcurrency ≤
        maxConcurrency config queueKey := by
      rw [concurrency]
      split
      · exact Nat.min_le_right _ _
      · exact high
    have remaining := inductionHypothesis bounded stays serves later
    rw [streak, concurrency] at remaining
    refine remaining.trans ?_
    rw [List.length_cons]
    -- A twentieth is reached by this success or left to the rest of the streak.
    split <;> omega

end Increase

section Claims

variable {config : QueueConfig} {queueKey : QueueKey}

/-- The concurrency after any calls is within the bounds; reports that halve it divide it by a
power of two above the minimum; and a streak of successes adds its twentieths up to the
maximum. -/
theorem concurrency_law (config : QueueConfig) (queueKey : QueueKey)
    (ordered : Ordered config queueKey) (calls : List TimedCall) :
    let control := performAll config queueKey (.initial config queueKey) calls
    Within config queueKey control ∧
    (∀ reports, (∀ timed ∈ reports, timed.Halves) →
      (performAll config queueKey control reports).currentConcurrency =
        max (minConcurrency config queueKey) (control.currentConcurrency / 2 ^ reports.length)) ∧
    (control.circuitState = .closed → control.draining = false →
      ∀ successes, (∀ timed ∈ successes, timed.call = .onSuccess) →
        (performAll config queueKey control successes).currentConcurrency =
          min (maxConcurrency config queueKey) (control.currentConcurrency +
            (control.successStreak + successes.length) / 20 - control.successStreak / 20)) := by
  intro control
  have within : Within config queueKey control :=
    performAll_within ordered (initial_within ordered) calls
  refine ⟨within, fun reports halves => performAll_halves within.1 reports halves, ?_⟩
  intro closed serving successes all
  exact performAll_successes within.2 closed serving successes all

/-- A rate limit halves the concurrency of the webhook queue, and twenty successes then add one. -/
theorem concurrency_law_webhooks :
    (performAll queues .webhookEvents
      (performAll queues .webhookEvents (.initial queues .webhookEvents) [⟨0, .onRateLimited⟩])
      (List.replicate 20 ⟨1, .onSuccess⟩)).currentConcurrency = 6 := by
  have ordered : Ordered queues .webhookEvents := ⟨by decide, by decide, by decide⟩
  have law := concurrency_law queues .webhookEvents ordered [⟨0, .onRateLimited⟩]
  exact law.2.2 rfl rfl (List.replicate 20 ⟨1, .onSuccess⟩) (by decide)

end Claims

end PlanBuddy.AdaptiveController
