import PlanBuddy.Queues

/-!
# The adaptive controller

The entries that `AdaptiveController` keeps for one queue, and its methods on
them. Every method reads and writes the entries of the queue it is called for
and no others, so queues are followed one at a time. `Date.now()` is an argument
wherever the source reads it.

The circuit of a queue is exhausted when it is half open with its probe budget
spent. That is the only state in which no later clock reading lets a poll
through, and only a reported outcome leads out of it.
-/

namespace PlanBuddy.AdaptiveController

inductive CircuitState where
  | closed
  | open
  | halfOpen
deriving DecidableEq

/-- The controller's entries under one queue key. -/
structure QueueControl where
  circuitState : CircuitState
  consecutiveFailures : Nat
  consecutiveRateLimits : Nat
  openedAt : Option Time
  halfOpenProbes : Nat
  halfOpenSuccesses : Nat
  currentConcurrency : Nat
  successStreak : Nat
  draining : Bool

section Methods

variable (config : QueueConfig) (queueKey : QueueKey)

/-- `PROBE_COUNT[queueKey] ?? 1`, the limit of probes and the number of successes required. -/
def probeLimit : Nat := (config.probeCount queueKey).getD 1

/-- `FAILURE_THRESHOLD[queueKey] ?? 5`. -/
def failureThreshold : Nat := (config.failureThreshold queueKey).getD 5

/-- `CONCURRENCY[queueKey]`, which every queue has. -/
def initialConcurrency : Nat := (config.concurrency queueKey).getD 2

def minConcurrency : Nat := (config.concurrencyMin queueKey).getD 1

/-- What the constructor stores. -/
def QueueControl.initial : QueueControl where
  circuitState := .closed
  consecutiveFailures := 0
  consecutiveRateLimits := 0
  openedAt := none
  halfOpenProbes := 0
  halfOpenSuccesses := 0
  currentConcurrency := initialConcurrency config queueKey
  successStreak := 0
  draining := false

def maybeTransitionToHalfOpen (clock : Time) (control : QueueControl) : QueueControl :=
  if control.circuitState ≠ .open then control
  else
    let openedAt := control.openedAt.getD 0
    let timeout := (config.openTimeoutMs queueKey).getD 30000
    let elapsed := clock - openedAt
    if (timeout : Int) ≤ elapsed then
      { control with circuitState := .halfOpen, halfOpenProbes := 0, halfOpenSuccesses := 0 }
    else control

def canProcess (clock : Time) (control : QueueControl) : QueueControl × Bool :=
  let control := maybeTransitionToHalfOpen config queueKey clock control
  match control.circuitState with
  | .open => (control, false)
  | .halfOpen =>
    if probeLimit config queueKey ≤ control.halfOpenProbes then (control, false)
    else ({ control with halfOpenProbes := control.halfOpenProbes + 1 }, true)
  | .closed => (control, true)

def openCircuit (clock : Time) (control : QueueControl) : QueueControl :=
  { control with circuitState := .open, openedAt := some clock }

/-- Slow start: a quarter of the initial concurrency, but at least the minimum. -/
def closeCircuit (control : QueueControl) : QueueControl :=
  { control with
    circuitState := .closed
    consecutiveFailures := 0
    openedAt := none
    halfOpenProbes := 0
    halfOpenSuccesses := 0
    currentConcurrency := max (minConcurrency config queueKey) (initialConcurrency config queueKey / 4)
    successStreak := 0 }

def increaseConcurrency (control : QueueControl) : QueueControl :=
  if control.draining then control
  else { control with
    currentConcurrency :=
      min (control.currentConcurrency + 1) ((config.concurrencyMax queueKey).getD 20) }

def decreaseConcurrency (control : QueueControl) : QueueControl :=
  { control with
    currentConcurrency := max (control.currentConcurrency / 2) (minConcurrency config queueKey) }

/-- The half of `onSuccess` that concerns the circuit. -/
def recordSuccess (control : QueueControl) : QueueControl :=
  let control := { control with consecutiveFailures := 0, consecutiveRateLimits := 0 }
  if control.circuitState = .halfOpen then
    let control := { control with halfOpenSuccesses := control.halfOpenSuccesses + 1 }
    if probeLimit config queueKey ≤ control.halfOpenSuccesses then
      closeCircuit config queueKey control
    else control
  else control

def onSuccess (control : QueueControl) : QueueControl :=
  let control := recordSuccess config queueKey control
  let control := { control with successStreak := control.successStreak + 1 }
  if control.successStreak % 20 = 0 then increaseConcurrency config queueKey control else control

/-- The half of `onFailure` that concerns the circuit. -/
def recordFailure (clock : Time) (control : QueueControl) : QueueControl :=
  let control := { control with
    successStreak := 0, consecutiveFailures := control.consecutiveFailures + 1 }
  if failureThreshold config queueKey ≤ control.consecutiveFailures ∧ control.circuitState ≠ .open
  then openCircuit clock control
  else control

def onFailure (clock : Time) (control : QueueControl) : QueueControl :=
  decreaseConcurrency config queueKey (recordFailure config queueKey clock control)

def onRateLimited (control : QueueControl) : QueueControl :=
  let limits := control.consecutiveRateLimits + 1
  decreaseConcurrency config queueKey { control with
    successStreak := 0
    consecutiveRateLimits := limits
    consecutiveFailures :=
      if 3 ≤ limits then control.consecutiveFailures + 1 else control.consecutiveFailures }

def setDraining (isDraining : Bool) (control : QueueControl) : QueueControl :=
  { control with
    draining := isDraining
    currentConcurrency :=
      if isDraining then minConcurrency config queueKey else control.currentConcurrency }

end Methods

section Budget

variable {config : QueueConfig} {queueKey : QueueKey} {control : QueueControl}

/-- Half open, with no probe left. -/
def Exhausted (config : QueueConfig) (queueKey : QueueKey) (control : QueueControl) : Prop :=
  control.circuitState = .halfOpen ∧ probeLimit config queueKey ≤ control.halfOpenProbes

instance : Decidable (Exhausted config queueKey control) :=
  inferInstanceAs (Decidable (_ ∧ _))

/-- However far the clock has advanced, some later reading lets a poll through. -/
def Recovers (config : QueueConfig) (queueKey : QueueKey) (control : QueueControl) : Prop :=
  ∀ after, ∃ clock, after ≤ clock ∧ (canProcess config queueKey clock control).2 = true

/-- A half-open circuit without probes left refuses every call. -/
theorem exhausted_refuses (exhausted : Exhausted config queueKey control) (clock : Time) :
    canProcess config queueKey clock control = (control, false) := by
  obtain ⟨half, spent⟩ := exhausted
  simp [canProcess, maybeTransitionToHalfOpen, half, spent]

/-- Once the open timeout has passed, a circuit that is not exhausted lets a poll through. -/
theorem unexhausted_admits (probes : 1 ≤ probeLimit config queueKey)
    (unexhausted : ¬ Exhausted config queueKey control) {clock : Time}
    (elapsed : ((config.openTimeoutMs queueKey).getD 30000 : Int) ≤
      clock - control.openedAt.getD 0) : (canProcess config queueKey clock control).2 = true := by
  cases state : control.circuitState with
  | closed => simp [canProcess, maybeTransitionToHalfOpen, state]
  | «open» =>
    have budget : ¬ probeLimit config queueKey ≤ 0 := by omega
    simp [canProcess, maybeTransitionToHalfOpen, state, elapsed, budget]
  | halfOpen =>
    have budget : ¬ probeLimit config queueKey ≤ control.halfOpenProbes :=
      fun spent => unexhausted ⟨state, spent⟩
    simp [canProcess, maybeTransitionToHalfOpen, state, budget]

/-- Exhaustion is the only state without recovery. -/
theorem recovers_iff (probes : 1 ≤ probeLimit config queueKey) :
    Recovers config queueKey control ↔ ¬ Exhausted config queueKey control := by
  constructor
  · intro recovers exhausted
    obtain ⟨clock, -, admitted⟩ := recovers 0
    rw [exhausted_refuses exhausted] at admitted
    cases admitted
  · intro unexhausted after
    let due : Time := control.openedAt.getD 0 + (config.openTimeoutMs queueKey).getD 30000
    refine ⟨max after due, Int.le_max_left _ _, unexhausted_admits probes unexhausted ?_⟩
    have late : due ≤ max after due := Int.le_max_right _ _
    omega

/-- A poll that is refused leaves the entries as they were. -/
theorem refused_unchanged (probes : 1 ≤ probeLimit config queueKey) {clock : Time}
    (refused : (canProcess config queueKey clock control).2 = false) :
    (canProcess config queueKey clock control).1 = control := by
  have budget : ¬ probeLimit config queueKey ≤ 0 := by omega
  cases state : control.circuitState with
  | closed => simp [canProcess, maybeTransitionToHalfOpen, state] at refused
  | «open» =>
    by_cases elapsed : ((config.openTimeoutMs queueKey).getD 30000 : Int) ≤
        clock - control.openedAt.getD 0
    · simp [canProcess, maybeTransitionToHalfOpen, state, elapsed, budget] at refused
    · simp [canProcess, maybeTransitionToHalfOpen, state, elapsed]
  | halfOpen =>
    by_cases spent : probeLimit config queueKey ≤ control.halfOpenProbes
    · rw [exhausted_refuses ⟨state, spent⟩]
    · simp [canProcess, maybeTransitionToHalfOpen, state, spent] at refused

/-- A rate limit reports nothing to the circuit. -/
theorem exhausted_rateLimited :
    Exhausted config queueKey (onRateLimited config queueKey control) ↔
      Exhausted config queueKey control := Iff.rfl

/-- A success leaves a circuit exhausted only while more successes are required. -/
theorem exhausted_onSuccess :
    Exhausted config queueKey (onSuccess config queueKey control) ↔
      Exhausted config queueKey control ∧
        control.halfOpenSuccesses + 1 < probeLimit config queueKey := by
  have circuit : Exhausted config queueKey (onSuccess config queueKey control) ↔
      Exhausted config queueKey (recordSuccess config queueKey control) := by
    simp only [onSuccess, increaseConcurrency]
    split
    · split <;> exact Iff.rfl
    · exact Iff.rfl
  rw [circuit, recordSuccess]
  by_cases half : control.circuitState = .halfOpen
  · by_cases enough : probeLimit config queueKey ≤ control.halfOpenSuccesses + 1
    · simp [Exhausted, half, enough, closeCircuit]
    · simp [Exhausted, half, enough]
      omega
  · simp [Exhausted, half]

/-- A failure leaves a circuit exhausted only below the failure threshold. -/
theorem exhausted_onFailure (clock : Time) :
    Exhausted config queueKey (onFailure config queueKey clock control) ↔
      Exhausted config queueKey control ∧
        control.consecutiveFailures + 1 < failureThreshold config queueKey := by
  have circuit : Exhausted config queueKey (onFailure config queueKey clock control) ↔
      Exhausted config queueKey (recordFailure config queueKey clock control) := Iff.rfl
  rw [circuit, recordFailure]
  by_cases reached : failureThreshold config queueKey ≤ control.consecutiveFailures + 1
  · by_cases already : control.circuitState = .open
    · simp [Exhausted, already]
    · simp [Exhausted, reached, already, openCircuit]
  · simp [Exhausted, reached]
    omega

end Budget

section Concurrency

variable {config : QueueConfig} {queueKey : QueueKey} {control : QueueControl}

/-- Concurrency stays positive when the configured bounds are: every method keeps it
between them, and the constructor starts there. -/
def Positive (control : QueueControl) : Prop := 1 ≤ control.currentConcurrency

/-- The gate leaves the concurrency positive. -/
theorem positive_canProcess (positive : Positive control) (clock : Time) :
    Positive (canProcess config queueKey clock control).1 := by
  have moved : (canProcess config queueKey clock control).1.currentConcurrency =
      control.currentConcurrency := by
    simp only [canProcess, maybeTransitionToHalfOpen]
    repeat' split
    all_goals rfl
  rw [Positive, moved]
  exact positive

/-- So does a decrease. -/
theorem positive_decrease (lower : 1 ≤ minConcurrency config queueKey) :
    Positive (decreaseConcurrency config queueKey control) :=
  Nat.le_trans lower (Nat.le_max_right _ _)

/-- So does a rate limit. -/
theorem positive_onRateLimited (lower : 1 ≤ minConcurrency config queueKey) :
    Positive (onRateLimited config queueKey control) := positive_decrease lower

/-- So does a failure. -/
theorem positive_onFailure (lower : 1 ≤ minConcurrency config queueKey) (clock : Time) :
    Positive (onFailure config queueKey clock control) := positive_decrease lower

/-- So does a drain. -/
theorem positive_setDraining (lower : 1 ≤ minConcurrency config queueKey)
    (positive : Positive control) (isDraining : Bool) :
    Positive (setDraining config queueKey isDraining control) := by
  cases isDraining with
  | false => exact positive
  | true => exact lower

/-- So does a success. -/
theorem positive_onSuccess (lower : 1 ≤ minConcurrency config queueKey)
    (upper : 1 ≤ (config.concurrencyMax queueKey).getD 20) (positive : Positive control) :
    Positive (onSuccess config queueKey control) := by
  have recorded : Positive (recordSuccess config queueKey control) := by
    have slow : 1 ≤ max (minConcurrency config queueKey)
        (initialConcurrency config queueKey / 4) := Nat.le_trans lower (Nat.le_max_left _ _)
    simp only [recordSuccess]
    split
    · split
      · exact slow
      · exact positive
    · exact positive
  simp only [onSuccess, increaseConcurrency]
  split
  · split
    · exact recorded
    · exact Nat.le_min.mpr ⟨Nat.le_add_left 1 _, upper⟩
  · exact recorded

end Concurrency

end PlanBuddy.AdaptiveController
