import PlanBuddy.ControllerCalls

/-!
# Concurrency while a queue drains

A queue that starts to drain gets its minimum concurrency at once, and from then on no success
raises it: the additive increase looks at the drain flag. The slow start of a circuit that
closes does not. So a drain keeps the minimum exactly as long as no success closes the circuit,
unless a quarter of the initial concurrency is no more than the minimum.
-/

namespace PlanBuddy.AdaptiveController

section Model

def getConcurrency (control : QueueControl) : Nat := control.currentConcurrency

/-- The call is none of `setDraining`. -/
def TimedCall.InDrain (timed : TimedCall) : Prop :=
  ∀ isDraining, timed.call ≠ .setDraining isDraining

/-- A success that is the last one a half open circuit needs is followed by a slow start, which
has to fit under the minimum. -/
def KeepsMinimum (config : QueueConfig) (queueKey : QueueKey) (control : QueueControl)
    (timed : TimedCall) : Prop :=
  timed.call = .onSuccess → control.circuitState = .halfOpen →
    probeLimit config queueKey ≤ control.halfOpenSuccesses + 1 →
      initialConcurrency config queueKey / 4 ≤ minConcurrency config queueKey

end Model

section Drain

variable {config : QueueConfig} {queueKey : QueueKey} {control : QueueControl}

/-- The queue drains at its minimum. -/
structure AtMinimum (config : QueueConfig) (queueKey : QueueKey) (control : QueueControl) : Prop where
  draining : control.draining = true
  minimal : getConcurrency control = minConcurrency config queueKey

/-- Neither a poll nor a report ends the drain. -/
theorem perform_draining (draining : control.draining = true) {timed : TimedCall}
    (inDrain : timed.InDrain) : (perform config queueKey control timed).draining = true := by
  obtain ⟨clock, call⟩ := timed
  cases call with
  | canProcess =>
    simp only [perform, canProcess, maybeTransitionToHalfOpen]
    repeat' split
    all_goals exact draining
  | onSuccess =>
    simp only [perform, onSuccess, recordSuccess, closeCircuit, increaseConcurrency]
    repeat' split
    all_goals exact draining
  | onFailure =>
    simp only [perform, onFailure, recordFailure, openCircuit, decreaseConcurrency]
    split <;> exact draining
  | onRateLimited => exact draining
  | setDraining isDraining => exact absurd rfl (inDrain isDraining)

/-- In a drain a success leaves the concurrency as its circuit does. -/
theorem onSuccess_concurrency (draining : control.draining = true) :
    getConcurrency (onSuccess config queueKey control) =
      getConcurrency (recordSuccess config queueKey control) := by
  have still : (recordSuccess config queueKey control).draining = true := by
    simp only [recordSuccess, closeCircuit]
    repeat' split
    all_goals exact draining
  simp [onSuccess, increaseConcurrency, still, getConcurrency]

/-- A success stays at the minimum unless a slow start above it follows. -/
theorem recordSuccess_minimal (minimal : getConcurrency control = minConcurrency config queueKey)
    (clock : Time) :
    getConcurrency (recordSuccess config queueKey control) = minConcurrency config queueKey ↔
      KeepsMinimum config queueKey control ⟨clock, .onSuccess⟩ := by
  by_cases closes : control.circuitState = .halfOpen ∧
      probeLimit config queueKey ≤ control.halfOpenSuccesses + 1
  · obtain ⟨half, enough⟩ := closes
    have slow : getConcurrency (recordSuccess config queueKey control) =
        max (minConcurrency config queueKey) (initialConcurrency config queueKey / 4) := by
      simp [recordSuccess, half, enough, closeCircuit, getConcurrency]
    rw [slow, KeepsMinimum]
    simp only [half, enough, true_implies]
    omega
  · have kept : getConcurrency (recordSuccess config queueKey control) = getConcurrency control := by
      by_cases half : control.circuitState = .halfOpen
      · have few : ¬ probeLimit config queueKey ≤ control.halfOpenSuccesses + 1 :=
          fun enough => closes ⟨half, enough⟩
        simp [recordSuccess, half, few, getConcurrency]
      · simp [recordSuccess, half, getConcurrency]
    rw [kept]
    exact iff_of_true minimal fun _ half enough => absurd ⟨half, enough⟩ closes

/-- A call keeps the minimum exactly if it is not followed by a slow start above it. -/
theorem perform_minimal (atMinimum : AtMinimum config queueKey control) {timed : TimedCall}
    (inDrain : timed.InDrain) :
    getConcurrency (perform config queueKey control timed) = minConcurrency config queueKey ↔
      KeepsMinimum config queueKey control timed := by
  obtain ⟨draining, minimal⟩ := atMinimum
  obtain ⟨clock, call⟩ := timed
  have halved : max (getConcurrency control / 2) (minConcurrency config queueKey) =
      minConcurrency config queueKey := by
    rw [minimal]
    omega
  cases call with
  | canProcess =>
    refine iff_of_true ?_ (fun impossible => by cases impossible)
    rw [← minimal]
    simp only [perform, canProcess, maybeTransitionToHalfOpen, getConcurrency]
    repeat' split
    all_goals rfl
  | onSuccess =>
    rw [perform, onSuccess_concurrency draining]
    exact recordSuccess_minimal minimal clock
  | onFailure =>
    refine iff_of_true ?_ (fun impossible => by cases impossible)
    refine Eq.trans ?_ halved
    simp only [perform, onFailure, decreaseConcurrency, recordFailure, getConcurrency]
    split <;> rfl
  | onRateLimited => exact iff_of_true halved (fun impossible => by cases impossible)
  | setDraining isDraining => exact absurd rfl (inDrain isDraining)

/-- A drain stays at the minimum as long as each call keeps it. -/
theorem drain_minimal (atMinimum : AtMinimum config queueKey control) (calls : List TimedCall)
    (inDrain : ∀ timed ∈ calls, timed.InDrain) :
    (∀ done, done <+: calls →
      getConcurrency (performAll config queueKey control done) = minConcurrency config queueKey) ↔
    ∀ done timed, done ++ [timed] <+: calls →
      KeepsMinimum config queueKey (performAll config queueKey control done) timed := by
  induction calls generalizing control with
  | nil =>
    refine iff_of_true ?_ ?_
    · rintro done start
      rw [List.prefix_nil.mp start]
      exact atMinimum.minimal
    · rintro done timed start
      exact absurd (List.prefix_nil.mp start) (by simp)
  | cons first rest inductionHypothesis =>
    obtain ⟨firstIn, restIn⟩ := List.forall_mem_cons.mp inDrain
    have once := perform_minimal atMinimum firstIn
    have draining : (perform config queueKey control first).draining = true :=
      perform_draining atMinimum.draining firstIn
    constructor
    · intro minimal
      have next : AtMinimum config queueKey (perform config queueKey control first) :=
        ⟨draining, minimal [first] (List.prefix_append [first] rest)⟩
      have later := (inductionHypothesis next restIn).mp fun done start =>
        minimal (first :: done) (List.cons_prefix_cons.mpr ⟨rfl, start⟩)
      intro done timed start
      cases done with
      | nil =>
        obtain ⟨rfl, -⟩ := List.cons_prefix_cons.mp start
        exact once.mp next.minimal
      | cons other done =>
        obtain ⟨rfl, inRest⟩ := List.cons_prefix_cons.mp start
        exact later done timed inRest
    · intro keeps
      have next : AtMinimum config queueKey (perform config queueKey control first) :=
        ⟨draining, once.mpr (keeps [] first (List.prefix_append [first] rest))⟩
      have later := (inductionHypothesis next restIn).mpr fun done timed start =>
        keeps (first :: done) timed (List.cons_prefix_cons.mpr ⟨rfl, start⟩)
      intro done start
      cases done with
      | nil => exact atMinimum.minimal
      | cons other done =>
        obtain ⟨rfl, inRest⟩ := List.cons_prefix_cons.mp start
        exact later done inRest

end Drain

section Claims

variable {config : QueueConfig} {queueKey : QueueKey}

/-- After a drain has begun, whatever was called before, the concurrency is the minimum throughout
exactly if no success of the drain is followed by a slow start above it. -/
theorem drain_minimal_iff (config : QueueConfig) (queueKey : QueueKey)
    (before calls : List TimedCall) (clock : Time) (inDrain : ∀ timed ∈ calls, timed.InDrain) :
    let draining := performAll config queueKey (.initial config queueKey)
      (before ++ [⟨clock, .setDraining true⟩])
    (∀ done, done <+: calls →
      getConcurrency (performAll config queueKey draining done) = minConcurrency config queueKey) ↔
    ∀ done timed, done ++ [timed] <+: calls →
      KeepsMinimum config queueKey (performAll config queueKey draining done) timed := by
  intro draining
  have begun : draining = setDraining config queueKey true
      (performAll config queueKey (.initial config queueKey) before) :=
    performAll_append _ _ _
  have atMinimum : AtMinimum config queueKey draining := by
    rw [begun]
    exact ⟨rfl, rfl⟩
  exact drain_minimal atMinimum calls inDrain

/-- The webhook queue after five failures, with both probes of the half open circuit out. -/
def probing : List TimedCall :=
  List.replicate 5 ⟨0, .onFailure⟩ ++ [⟨30000, .canProcess⟩, ⟨30001, .canProcess⟩]

/-- With one of the probes back the drain is still at its minimum. -/
theorem drain_minimal_iff_probe :
    getConcurrency (performAll queues .webhookEvents (performAll queues .webhookEvents
      (.initial queues .webhookEvents) (probing ++ [⟨30002, .setDraining true⟩]))
        [⟨30003, .onSuccess⟩]) = minConcurrency queues .webhookEvents := by
  refine (drain_minimal_iff queues .webhookEvents probing [⟨30003, .onSuccess⟩] 30002
    (by simp [TimedCall.InDrain])).mpr ?_ _ (List.prefix_refl _)
  rintro done timed start - - enough
  have length := start.length_le
  obtain rfl : done = [] := List.eq_nil_of_length_eq_zero (by simpa using length)
  exact absurd enough (by decide)

/-- The second success closes the circuit, and the draining queue starts slowly with two. -/
theorem slow_start_in_drain :
    getConcurrency (performAll queues .webhookEvents (performAll queues .webhookEvents
      (.initial queues .webhookEvents) (probing ++ [⟨30002, .setDraining true⟩]))
        [⟨30003, .onSuccess⟩, ⟨30004, .onSuccess⟩]) = 2 ∧
      minConcurrency queues .webhookEvents = 1 := by
  decide

end Claims

end PlanBuddy.AdaptiveController
