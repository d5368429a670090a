import PlanBuddy.ControllerCalls

/-!
# Failures counted for rate limits

Both `onFailure` and `onRateLimited` raise the failures in a row, but only the first of them
compares the count with the threshold. From the third rate limit in a row on, each one counts
as a failure, and the one that brings the count to the threshold leaves the circuit as it is.

Every other call keeps the count of a closed circuit below the threshold: a failure opens the
circuit, a success starts the count anew, and closing resets it.
-/

namespace PlanBuddy.AdaptiveController

section Model

variable (config : QueueConfig) (queueKey : QueueKey)

/-- A closed circuit has fewer failures in a row than the threshold. -/
def BelowThreshold (control : QueueControl) : Prop :=
  control.circuitState = .closed → control.consecutiveFailures < failureThreshold config queueKey

/-- A call that brings the failures to the threshold leaves the circuit open. -/
def OpensOnTime (control : QueueControl) (timed : TimedCall) : Prop :=
  control.consecutiveFailures < failureThreshold config queueKey →
    failureThreshold config queueKey ≤ (perform config queueKey control timed).consecutiveFailures →
      (perform config queueKey control timed).circuitState = .open

/-- A rate limit, at least the third in a row, that is the last failure before the threshold,
in a circuit that is not open. -/
def ReachesThreshold (control : QueueControl) (timed : TimedCall) : Prop :=
  timed.call = .onRateLimited ∧ control.circuitState ≠ .open ∧
    3 ≤ control.consecutiveRateLimits + 1 ∧
    control.consecutiveFailures + 1 = failureThreshold config queueKey

end Model

section Calls

variable {config : QueueConfig} {queueKey : QueueKey} {control : QueueControl}

/-- A poll does not touch the failures and never closes a circuit. -/
theorem canProcess_failures (config : QueueConfig) (queueKey : QueueKey) (control : QueueControl)
    (clock : Time) :
    (canProcess config queueKey clock control).1.consecutiveFailures =
        control.consecutiveFailures ∧
      ((canProcess config queueKey clock control).1.circuitState = .closed →
        control.circuitState = .closed) := by
  cases state : control.circuitState with
  | closed => simp [canProcess, maybeTransitionToHalfOpen, state]
  | «open» =>
    by_cases elapsed : ((config.openTimeoutMs queueKey).getD 30000 : Int) ≤
        clock - control.openedAt.getD 0
    · by_cases spent : probeLimit config queueKey ≤ 0
      · simp [canProcess, maybeTransitionToHalfOpen, state, elapsed, spent]
      · simp [canProcess, maybeTransitionToHalfOpen, state, elapsed, spent]
    · simp [canProcess, maybeTransitionToHalfOpen, state, elapsed]
  | halfOpen =>
    by_cases spent : probeLimit config queueKey ≤ control.halfOpenProbes
    · simp [canProcess, maybeTransitionToHalfOpen, state, spent]
    · simp [canProcess, maybeTransitionToHalfOpen, state, spent]

/-- A success starts the count anew. -/
theorem onSuccess_resets : (onSuccess config queueKey control).consecutiveFailures = 0 := by
  have recorded : (recordSuccess config queueKey control).consecutiveFailures = 0 := by
    simp only [recordSuccess, closeCircuit]
    split
    · split <;> rfl
    · rfl
  simp only [onSuccess, increaseConcurrency]
  split
  · split <;> exact recorded
  · exact recorded

/-- A failure that reaches the threshold leaves the circuit open. -/
theorem onFailure_opens {clock : Time}
    (reached : failureThreshold config queueKey ≤ control.consecutiveFailures + 1) :
    (onFailure config queueKey clock control).circuitState = .open := by
  by_cases already : control.circuitState = .open
  · simp [onFailure, recordFailure, decreaseConcurrency, already]
  · simp [onFailure, recordFailure, decreaseConcurrency, openCircuit, reached, already]

/-- A failure below the threshold is counted. -/
theorem onFailure_below {clock : Time}
    (below : ¬ failureThreshold config queueKey ≤ control.consecutiveFailures + 1) :
    (onFailure config queueKey clock control).consecutiveFailures =
      control.consecutiveFailures + 1 := by
  simp [onFailure, recordFailure, decreaseConcurrency, below]

/-- What a call does to the failures of a circuit that it leaves closed. -/
theorem perform_below {timed : TimedCall} (positive : 1 ≤ failureThreshold config queueKey)
    (below : BelowThreshold config queueKey control)
    (keeps : ¬ ReachesThreshold config queueKey control timed) :
    BelowThreshold config queueKey (perform config queueKey control timed) := by
  obtain ⟨clock, call⟩ := timed
  intro closed
  cases call with
  | canProcess =>
    obtain ⟨same, was⟩ := canProcess_failures config queueKey control clock
    rw [perform, same]
    exact below (was closed)
  | onSuccess =>
    rw [perform, onSuccess_resets]
    exact positive
  | onFailure =>
    by_cases reached : failureThreshold config queueKey ≤ control.consecutiveFailures + 1
    · rw [perform, onFailure_opens reached] at closed
      cases closed
    · rw [perform, onFailure_below reached]
      exact Nat.lt_of_not_le reached
  | onRateLimited =>
    have was : control.circuitState = .closed := closed
    have fewer := below was
    by_cases third : 3 ≤ control.consecutiveRateLimits + 1
    · have counted : (onRateLimited config queueKey control).consecutiveFailures =
          control.consecutiveFailures + 1 := if_pos third
      have other : control.consecutiveFailures + 1 ≠ failureThreshold config queueKey :=
        fun last => keeps ⟨rfl, by simp [was], third, last⟩
      rw [perform, counted]
      exact Nat.lt_of_le_of_ne fewer other
    · have counted : (onRateLimited config queueKey control).consecutiveFailures =
          control.consecutiveFailures := if_neg third
      rw [perform, counted]
      exact fewer
  | setDraining isDraining => exact below closed

/-- Of all calls only a rate limit can bring the failures to the threshold without opening the
circuit. -/
theorem perform_opens_iff {timed : TimedCall} (positive : 1 ≤ failureThreshold config queueKey) :
    OpensOnTime config queueKey control timed ↔
      ¬ ReachesThreshold config queueKey control timed := by
  obtain ⟨clock, call⟩ := timed
  constructor
  · rintro opens ⟨rfl, notOpen, third, last⟩
    have counted : (onRateLimited config queueKey control).consecutiveFailures =
        control.consecutiveFailures + 1 := if_pos third
    exact notOpen (opens (by omega) (Nat.le_of_eq (by rw [perform, counted, last])))
  · intro keeps fewer reached
    cases call with
    | canProcess =>
      have same := (canProcess_failures config queueKey control clock).1
      rw [perform, same] at reached
      omega
    | onSuccess =>
      rw [perform, onSuccess_resets] at reached
      omega
    | onFailure =>
      by_cases below : failureThreshold config queueKey ≤ control.consecutiveFailures + 1
      · exact onFailure_opens below
      · rw [perform, onFailure_below below] at reached
        exact absurd reached below
    | onRateLimited =>
      refine Decidable.byContradiction fun notOpen => ?_
      by_cases third : 3 ≤ control.consecutiveRateLimits + 1
      · have counted : (onRateLimited config queueKey control).consecutiveFailures =
            control.consecutiveFailures + 1 := if_pos third
        rw [perform, counted] at reached
        exact keeps ⟨rfl, notOpen, third, by omega⟩
      · have counted : (onRateLimited config queueKey control).consecutiveFailures =
            control.consecutiveFailures := if_neg third
        rw [perform, counted] at reached
        omega
    | setDraining isDraining => exact absurd reached (Nat.not_le_of_lt fewer)

end Calls

section Claims

variable {config : QueueConfig} {queueKey : QueueKey}

/-- Calls that never reach the threshold stay below it. -/
theorem performAll_below {control : QueueControl}
    (positive : 1 ≤ failureThreshold config queueKey) {calls : List TimedCall}
    (below : BelowThreshold config queueKey control)
    (keeps : ∀ before timed, before ++ [timed] <+: calls →
      ¬ ReachesThreshold config queueKey (performAll config queueKey control before) timed) :
    BelowThreshold config queueKey (performAll config queueKey control calls) := by
  induction calls generalizing control with
  | nil => exact below
  | cons first rest inductionHypothesis =>
    have now : ¬ ReachesThreshold config queueKey control first :=
      keeps [] first (List.prefix_append [first] rest)
    exact inductionHypothesis (perform_below positive below now) fun before timed within =>
      keeps (first :: before) timed ((List.prefix_cons_inj first).mpr within)

/-- In all states of a sequence of calls a closed circuit is below the threshold, and every
call that reaches the threshold opens the circuit, exactly if no rate limit is the call that
reaches it while the circuit is not open. -/
theorem opens_on_time_iff (config : QueueConfig) (queueKey : QueueKey)
    (positive : 1 ≤ failureThreshold config queueKey) (calls : List TimedCall) :
    ((∀ before, before <+: calls → BelowThreshold config queueKey
        (performAll config queueKey (.initial config queueKey) before)) ∧
      ∀ before timed, before ++ [timed] <+: calls → OpensOnTime config queueKey
        (performAll config queueKey (.initial config queueKey) before) timed) ↔
    ∀ before timed, before ++ [timed] <+: calls → ¬ ReachesThreshold config queueKey
      (performAll config queueKey (.initial config queueKey) before) timed := by
  constructor
  · rintro ⟨-, onTime⟩ before timed within
    exact (perform_opens_iff positive).mp (onTime before timed within)
  · intro keeps
    constructor
    · intro before within
      exact performAll_below positive (fun _ => positive) fun earlier timed inner =>
        keeps earlier timed (inner.trans within)
    · intro before timed within
      exact (perform_opens_iff positive).mpr (keeps before timed within)

/-- The fifth failure in a row opens the circuit of the webhook queue. -/
theorem opens_on_time_webhooks :
    OpensOnTime queues .webhookEvents
      (performAll queues .webhookEvents (.initial queues .webhookEvents)
        [⟨0, .onFailure⟩, ⟨1, .onFailure⟩, ⟨2, .onFailure⟩, ⟨3, .onFailure⟩])
      ⟨4, .onFailure⟩ := by
  refine ((opens_on_time_iff queues .webhookEvents (by decide) [⟨0, .onFailure⟩, ⟨1, .onFailure⟩,
    ⟨2, .onFailure⟩, ⟨3, .onFailure⟩, ⟨4, .onFailure⟩]).mpr ?_).2 _ _ (List.prefix_refl _)
  rintro before timed within ⟨limited, -⟩
  have member : timed ∈ [(⟨0, .onFailure⟩ : TimedCall), ⟨1, .onFailure⟩, ⟨2, .onFailure⟩,
      ⟨3, .onFailure⟩, ⟨4, .onFailure⟩] :=
    within.subset (List.mem_append_right _ (List.mem_singleton_self timed))
  simp only [List.mem_cons, List.not_mem_nil, or_false] at member
  rcases member with rfl | rfl | rfl | rfl | rfl <;> cases limited

/-- Seven rate limits in a row bring the webhook queue to its threshold in a closed circuit. -/
theorem rate_limits_stay_closed :
    ¬ BelowThreshold queues .webhookEvents
      (performAll queues .webhookEvents (.initial queues .webhookEvents)
        (List.replicate 7 ⟨0, .onRateLimited⟩)) := by
  intro below
  exact absurd (below (by decide)) (by decide)

end Claims

end PlanBuddy.AdaptiveController
