import PlanBuddy.AdaptiveController

/-!
# Sequences of calls to the controller

Polls, reports and drain requests reach the controller in any order, the reports of earlier
items in whatever state the circuit is by then. Each call carries the clock it reads.

The time of opening is kept exactly while the circuit is open or half open. While it is half
open, the probes spent are those let through since it became so. While it is open, a call
before the timeout changes neither the state nor the time of opening, whatever it reports.
-/

namespace PlanBuddy.AdaptiveController

section Model

inductive Call
  | canProcess
  | onSuccess
  | onFailure
  | onRateLimited
  | setDraining (isDraining : Bool)
deriving DecidableEq

structure TimedCall where
  clock : Time
  call : Call
deriving DecidableEq

variable (config : QueueConfig) (queueKey : QueueKey)

def perform (control : QueueControl) (timed : TimedCall) : QueueControl :=
  match timed.call with
  | .canProcess => (canProcess config queueKey timed.clock control).1
  | .onSuccess => onSuccess config queueKey control
  | .onFailure => onFailure config queueKey timed.clock control
  | .onRateLimited => onRateLimited config queueKey control
  | .setDraining isDraining => setDraining config queueKey isDraining control

/-- The call is a poll that is let through. -/
def admits (control : QueueControl) (timed : TimedCall) : Bool :=
  match timed.call with
  | .canProcess => (canProcess config queueKey timed.clock control).2
  | _ => false

def performAll (control : QueueControl) (calls : List TimedCall) : QueueControl :=
  calls.foldl (perform config queueKey) control

/-- How many polls are let through. -/
def admissions (control : QueueControl) : List TimedCall → Nat
  | [] => 0
  | timed :: rest =>
    (admits config queueKey control timed).toNat +
      admissions (perform config queueKey control timed) rest

/-- The circuit is half open after each of the calls. -/
def StaysHalfOpen (control : QueueControl) : List TimedCall → Prop
  | [] => True
  | timed :: rest =>
    (perform config queueKey control timed).circuitState = .halfOpen ∧
      StaysHalfOpen (perform config queueKey control timed) rest

/-- The clock does not go back. -/
def Clocked (calls : List TimedCall) : Prop :=
  calls.Pairwise fun earlier later => earlier.clock ≤ later.clock

/-- `OPEN_TIMEOUT_MS[queueKey] ?? 30_000`. -/
def openTimeout : Nat := (config.openTimeoutMs queueKey).getD 30000

end Model

section Frames

variable {config : QueueConfig} {queueKey : QueueKey} {control : QueueControl}

/-- The entries about the circuit. -/
structure SameCircuit (left right : QueueControl) : Prop where
  state : left.circuitState = right.circuitState
  opened : left.openedAt = right.openedAt
  probes : left.halfOpenProbes = right.halfOpenProbes
  successes : left.halfOpenSuccesses = right.halfOpenSuccesses

/-- Counting the streak and raising the concurrency leaves the circuit alone. -/
theorem onSuccess_circuit :
    SameCircuit (onSuccess config queueKey control) (recordSuccess config queueKey control) := by
  simp only [onSuccess, increaseConcurrency]
  split
  · split <;> exact ⟨rfl, rfl, rfl, rfl⟩
  · exact ⟨rfl, rfl, rfl, rfl⟩

end Frames

section Moves

variable {config : QueueConfig} {queueKey : QueueKey} {control next : QueueControl}

/-- All that a call can do to the circuit, and whether it is a poll let through. -/
inductive Moved (config : QueueConfig) (queueKey : QueueKey) (control : QueueControl) (clock : Time) :
    Bool → QueueControl → Prop
  | kept {next : QueueControl} (same : SameCircuit next control) :
    Moved config queueKey control clock false next
  | polled {next : QueueControl} (closed : control.circuitState = .closed)
    (same : SameCircuit next control) : Moved config queueKey control clock true next
  | halfOpened {next : QueueControl} (was : control.circuitState = .open)
    (elapsed : (openTimeout config queueKey : Int) ≤ clock - control.openedAt.getD 0)
    (state : next.circuitState = .halfOpen) (opened : next.openedAt = control.openedAt)
    (probes : next.halfOpenProbes = 1) (successes : next.halfOpenSuccesses = 0) :
    Moved config queueKey control clock true next
  | probed {next : QueueControl} (was : control.circuitState = .halfOpen)
    (room : control.halfOpenProbes < probeLimit config queueKey)
    (state : next.circuitState = .halfOpen) (opened : next.openedAt = control.openedAt)
    (probes : next.halfOpenProbes = control.halfOpenProbes + 1)
    (successes : next.halfOpenSuccesses = control.halfOpenSuccesses) :
    Moved config queueKey control clock true next
  | succeeded {next : QueueControl} (was : control.circuitState = .halfOpen)
    (fewer : control.halfOpenSuccesses + 1 < probeLimit config queueKey)
    (state : next.circuitState = .halfOpen) (opened : next.openedAt = control.openedAt)
    (probes : next.halfOpenProbes = control.halfOpenProbes)
    (successes : next.halfOpenSuccesses = control.halfOpenSuccesses + 1) :
    Moved config queueKey control clock false next
  | closed {next : QueueControl} (was : control.circuitState = .halfOpen)
    (state : next.circuitState = .closed) (opened : next.openedAt = none) :
    Moved config queueKey control clock false next
  | opened {next : QueueControl} (was : control.circuitState ≠ .open)
    (state : next.circuitState = .open) (opened : next.openedAt = some clock) :
    Moved config queueKey control clock false next

/-- A closed circuit admits every call. -/
theorem canProcess_closed (state : control.circuitState = .closed) (clock : Time) :
    canProcess config queueKey clock control = (control, true) := by
  simp [canProcess, maybeTransitionToHalfOpen, state]

/-- After the timeout a poll makes the circuit half open and is its first probe. -/
theorem canProcess_elapsed (probes : 1 ≤ probeLimit config queueKey)
    (state : control.circuitState = .open) {clock : Time}
    (elapsed : (openTimeout config queueKey : Int) ≤ clock - control.openedAt.getD 0) :
    canProcess config queueKey clock control =
      ({ control with circuitState := .halfOpen, halfOpenProbes := 1, halfOpenSuccesses := 0 },
        true) := by
  have budget : ¬ probeLimit config queueKey ≤ 0 := Nat.not_le_of_lt probes
  rw [openTimeout] at elapsed
  simp [canProcess, maybeTransitionToHalfOpen, state, elapsed, budget]

/-- An open one admits none before its timeout. -/
theorem canProcess_waiting (state : control.circuitState = .open) {clock : Time}
    (waiting : ¬ (openTimeout config queueKey : Int) ≤ clock - control.openedAt.getD 0) :
    canProcess config queueKey clock control = (control, false) := by
  rw [openTimeout] at waiting
  simp [canProcess, maybeTransitionToHalfOpen, state, waiting]

/-- A half-open one admits a probe while there is room. -/
theorem canProcess_probe (state : control.circuitState = .halfOpen)
    (room : control.halfOpenProbes < probeLimit config queueKey) (clock : Time) :
    canProcess config queueKey clock control =
      ({ control with halfOpenProbes := control.halfOpenProbes + 1 }, true) := by
  simp [canProcess, maybeTransitionToHalfOpen, state, Nat.not_le_of_lt room]

/-- What the gate does to the circuit. -/
theorem canProcess_moved (probes : 1 ≤ probeLimit config queueKey) (clock : Time) :
    Moved config queueKey control clock (canProcess config queueKey clock control).2
      (canProcess config queueKey clock control).1 := by
  cases state : control.circuitState with
  | closed =>
    rw [canProcess_closed state]
    exact .polled state ⟨rfl, rfl, rfl, rfl⟩
  | «open» =>
    by_cases elapsed : (openTimeout config queueKey : Int) ≤ clock - control.openedAt.getD 0
    · rw [canProcess_elapsed probes state elapsed]
      exact .halfOpened state elapsed rfl rfl rfl rfl
    · rw [canProcess_waiting state elapsed]
      exact .kept ⟨rfl, rfl, rfl, rfl⟩
  | halfOpen =>
    by_cases spent : probeLimit config queueKey ≤ control.halfOpenProbes
    · rw [exhausted_refuses ⟨state, spent⟩]
      exact .kept ⟨rfl, rfl, rfl, rfl⟩
    · have room := Nat.lt_of_not_le spent
      rw [canProcess_probe state room]
      exact .probed state room state rfl rfl rfl

/-- A success closes the circuit as the last one required of a half open one. -/
theorem onSuccess_moved (clock : Time) :
    Moved config queueKey control clock false (onSuccess config queueKey control) := by
  have same : SameCircuit (onSuccess config queueKey control)
      (recordSuccess config queueKey control) := onSuccess_circuit
  obtain ⟨state, opened, probes, successes⟩ := same
  by_cases half : control.circuitState = .halfOpen
  · by_cases enough : probeLimit config queueKey ≤ control.halfOpenSuccesses + 1
    · have recorded : (recordSuccess config queueKey control).circuitState = .closed ∧
          (recordSuccess config queueKey control).openedAt = none := by
        simp [recordSuccess, half, enough, closeCircuit]
      exact .closed half (state.trans recorded.1) (opened.trans recorded.2)
    · have recorded : recordSuccess config queueKey control = { control with
          consecutiveFailures := 0, consecutiveRateLimits := 0,
          halfOpenSuccesses := control.halfOpenSuccesses + 1 } := by
        simp [recordSuccess, half, enough]
      rw [recorded] at state opened probes successes
      exact .succeeded half (Nat.lt_of_not_le enough) (state.trans half) opened probes successes
  · have recorded : recordSuccess config queueKey control =
        { control with consecutiveFailures := 0, consecutiveRateLimits := 0 } := by
      simp [recordSuccess, half]
    rw [recorded] at state opened probes successes
    exact .kept ⟨state, opened, probes, successes⟩

/-- A failure opens the circuit at the threshold, unless it is open. -/
theorem onFailure_moved (clock : Time) :
    Moved config queueKey control clock false (onFailure config queueKey clock control) := by
  by_cases opens : failureThreshold config queueKey ≤ control.consecutiveFailures + 1 ∧
      control.circuitState ≠ .open
  · have recorded : (recordFailure config queueKey clock control).circuitState = .open ∧
        (recordFailure config queueKey clock control).openedAt = some clock := by
      simp [recordFailure, opens, openCircuit]
    exact .opened opens.2 recorded.1 recorded.2
  · have recorded : recordFailure config queueKey clock control = { control with
        successStreak := 0, consecutiveFailures := control.consecutiveFailures + 1 } := by
      simp only [recordFailure, opens, if_false]
    refine .kept ?_
    rw [onFailure, recorded]
    exact ⟨rfl, rfl, rfl, rfl⟩

/-- What any call does to it. -/
theorem perform_moved (probes : 1 ≤ probeLimit config queueKey) (control : QueueControl)
    (timed : TimedCall) : Moved config queueKey control timed.clock
      (admits config queueKey control timed) (perform config queueKey control timed) := by
  obtain ⟨clock, call⟩ := timed
  cases call with
  | canProcess => exact canProcess_moved probes clock
  | onSuccess => exact onSuccess_moved clock
  | onFailure => exact onFailure_moved clock
  | onRateLimited => exact .kept ⟨rfl, rfl, rfl, rfl⟩
  | setDraining isDraining => exact .kept ⟨rfl, rfl, rfl, rfl⟩

end Moves

section Invariant

variable {config : QueueConfig} {queueKey : QueueKey} {control next : QueueControl}

/-- The time of opening belongs to an open or half open circuit, and a half open one is
within its limits. -/
structure Consistent (config : QueueConfig) (queueKey : QueueKey) (control : QueueControl) : Prop where
  opened : control.openedAt.isSome = true ↔
    control.circuitState = .open ∨ control.circuitState = .halfOpen
  budget : control.circuitState = .halfOpen →
    control.halfOpenProbes ≤ probeLimit config queueKey ∧
      control.halfOpenSuccesses < probeLimit config queueKey

/-- A circuit begins consistent. -/
theorem initial_consistent : Consistent config queueKey (QueueControl.initial config queueKey) := by
  constructor <;> simp [QueueControl.initial]

/-- A move keeps it so. -/
theorem moved_consistent {clock : Time} {admitted : Bool} (probes : 1 ≤ probeLimit config queueKey)
    (consistent : Consistent config queueKey control)
    (moved : Moved config queueKey control clock admitted next) :
    Consistent config queueKey next := by
  obtain ⟨opened, budget⟩ := consistent
  cases moved with
  | kept same =>
    obtain ⟨state, since, probes, successes⟩ := same
    exact ⟨by rw [state, since]; exact opened, by rw [state, probes, successes]; exact budget⟩
  | polled closed same =>
    obtain ⟨state, since, probes, successes⟩ := same
    exact ⟨by rw [state, since]; exact opened, by rw [state, probes, successes]; exact budget⟩
  | halfOpened was elapsed state since spent successes =>
    refine ⟨?_, fun _ => ?_⟩
    · simpa [state, since] using opened.mpr (.inl was)
    · omega
  | probed was room state since spent successes =>
    have within := budget was
    refine ⟨?_, fun _ => ?_⟩
    · simpa [state, since] using opened.mpr (.inr was)
    · omega
  | succeeded was fewer state since spent successes =>
    have within := budget was
    refine ⟨?_, fun _ => ?_⟩
    · simpa [state, since] using opened.mpr (.inr was)
    · omega
  | closed was state since => constructor <;> simp [state, since]
  | opened was state since => constructor <;> simp [state, since]

/-- So do all calls. -/
theorem performAll_consistent (probes : 1 ≤ probeLimit config queueKey)
    (consistent : Consistent config queueKey control) (calls : List TimedCall) :
    Consistent config queueKey (performAll config queueKey control calls) := by
  induction calls generalizing control with
  | nil => exact consistent
  | cons timed rest inductionHypothesis =>
    exact inductionHypothesis (moved_consistent probes consistent (perform_moved probes control timed))

end Invariant

section Probes

variable {config : QueueConfig} {queueKey : QueueKey} {control next : QueueControl}

/-- The probes of the episode under way. -/
def spent (control : QueueControl) : Nat :=
  if control.circuitState = .halfOpen then control.halfOpenProbes else 0

/-- Within an episode a poll that is let through spends a probe, and no other call does. -/
theorem moved_spent {clock : Time} {admitted : Bool}
    (moved : Moved config queueKey control clock admitted next)
    (half : next.circuitState = .halfOpen) : spent next = spent control + admitted.toNat := by
  cases moved with
  | kept same => simp [spent, same.state, same.probes]
  | polled closed same =>
    rw [same.state, closed] at half
    cases half
  | halfOpened was elapsed state since probes successes => simp [spent, state, was, probes]
  | probed was room state since probes successes => simp [spent, state, was, probes]
  | succeeded was fewer state since probes successes => simp [spent, state, was, probes]
  | closed was state since =>
    rw [state] at half
    cases half
  | opened was state since =>
    rw [state] at half
    cases half

/-- While the circuit stays half-open, each admitted call spends a probe. -/
theorem admissions_spent (probes : 1 ≤ probeLimit config queueKey) (control : QueueControl)
    (calls : List TimedCall) (stays : StaysHalfOpen config queueKey control calls) :
    spent control + admissions config queueKey control calls =
      spent (performAll config queueKey control calls) := by
  induction calls generalizing control with
  | nil => rfl
  | cons timed rest inductionHypothesis =>
    obtain ⟨half, stays⟩ := stays
    have first := moved_spent (perform_moved probes control timed) half
    have later := inductionHypothesis _ stays
    rw [first] at later
    rw [admissions, ← Nat.add_assoc]
    exact later

end Probes

section Openings

variable {config : QueueConfig} {queueKey : QueueKey} {control next : QueueControl} {since : Time}

/-- Open since a moment from which the timeout has not elapsed. -/
def OpenSince (control : QueueControl) (since : Time) : Prop :=
  control.circuitState = .open ∧ control.openedAt = some since

/-- A circuit that opens has been open since then. -/
theorem moved_opens {clock : Time} {admitted : Bool}
    (moved : Moved config queueKey control clock admitted next)
    (was : control.circuitState ≠ .open) (opens : next.circuitState = .open) :
    OpenSince next clock := by
  cases moved with
  | kept same => exact absurd (same.state.symm.trans opens) was
  | polled closed same => exact absurd (same.state.symm.trans opens) was
  | halfOpened _ _ state => rw [state] at opens; cases opens
  | probed _ _ state => rw [state] at opens; cases opens
  | succeeded _ _ state => rw [state] at opens; cases opens
  | closed _ state => rw [state] at opens; cases opens
  | opened _ state since => exact ⟨state, since⟩

/-- Before the timeout nothing moves an open circuit, and no poll is let through. -/
theorem moved_early {clock : Time} {admitted : Bool}
    (moved : Moved config queueKey control clock admitted next) (isOpen : OpenSince control since)
    (early : clock - since < openTimeout config queueKey) : OpenSince next since ∧ admitted = false := by
  obtain ⟨state, opened⟩ := isOpen
  cases moved with
  | kept same => exact ⟨⟨same.state.trans state, same.opened.trans opened⟩, rfl⟩
  | polled closed => rw [state] at closed; cases closed
  | halfOpened _ elapsed =>
    rw [opened] at elapsed
    exact absurd elapsed (Int.not_le.mpr early)
  | probed was => rw [state] at was; cases was
  | succeeded was => rw [state] at was; cases was
  | closed was => rw [state] at was; cases was
  | opened was => exact absurd state was

/-- It stays open until its timeout. -/
theorem performAll_early (probes : 1 ≤ probeLimit config queueKey) {calls : List TimedCall}
    (isOpen : OpenSince control since)
    (early : ∀ timed ∈ calls, timed.clock - since < openTimeout config queueKey) :
    OpenSince (performAll config queueKey control calls) since := by
  induction calls generalizing control with
  | nil => exact isOpen
  | cons timed rest inductionHypothesis =>
    obtain ⟨first, later⟩ := List.forall_mem_cons.mp early
    exact inductionHypothesis (moved_early (perform_moved probes control timed) isOpen first).1 later

end Openings

section Claims

variable {config : QueueConfig} {queueKey : QueueKey}

/-- Calls come one after the other. -/
theorem performAll_append (control : QueueControl) (first second : List TimedCall) :
    performAll config queueKey control (first ++ second) =
      performAll config queueKey (performAll config queueKey control first) second :=
  List.foldl_append

/-- Of a poll and the calls before it the poll reads the latest clock. -/
theorem clocked_before {earlier calls : List TimedCall} {opening : TimedCall} {clock : Time}
    (clocked : Clocked (earlier ++ opening :: calls ++ [⟨clock, .canProcess⟩])) :
    ∀ timed ∈ calls, timed.clock ≤ clock := by
  intro timed member
  obtain ⟨-, -, ordered⟩ := List.pairwise_append.mp clocked
  exact ordered timed (List.mem_append_right _ (List.mem_cons_of_mem _ member)) _
    (List.mem_singleton_self _)

/-- The entries stay consistent in any sequence of calls; a half open episode lets through no
more polls than its probes; and a circuit that opens refuses every poll until the timeout. -/
theorem controller_gate (config : QueueConfig) (queueKey : QueueKey)
    (probes : 1 ≤ probeLimit config queueKey) :
    (∀ calls, let control := performAll config queueKey (.initial config queueKey) calls
      (control.openedAt.isSome = true ↔
        control.circuitState = .open ∨ control.circuitState = .halfOpen) ∧
      (control.circuitState = .halfOpen →
        control.halfOpenProbes ≤ probeLimit config queueKey ∧
          control.halfOpenSuccesses < probeLimit config queueKey)) ∧
    (∀ before episode, let control := performAll config queueKey (.initial config queueKey) before
      StaysHalfOpen config queueKey control episode →
        admissions config queueKey control episode ≤ probeLimit config queueKey) ∧
    ∀ before opening between clock,
      Clocked (before ++ opening :: between ++ [⟨clock, .canProcess⟩]) →
      let control := performAll config queueKey (.initial config queueKey) before
      control.circuitState ≠ .open →
      (perform config queueKey control opening).circuitState = .open →
      clock - opening.clock < openTimeout config queueKey →
      (canProcess config queueKey clock (performAll config queueKey (.initial config queueKey)
        (before ++ opening :: between))).2 = false := by
  have consistent : ∀ calls, Consistent config queueKey
      (performAll config queueKey (.initial config queueKey) calls) :=
    performAll_consistent probes initial_consistent
  refine ⟨fun calls => ⟨(consistent calls).opened, (consistent calls).budget⟩, ?_, ?_⟩
  · intro before episode control stays
    have total := admissions_spent probes control episode stays
    have final : Consistent config queueKey (performAll config queueKey control episode) := by
      rw [← performAll_append]
      exact consistent _
    have bound : spent (performAll config queueKey control episode) ≤ probeLimit config queueKey := by
      rw [spent]
      split
      case isTrue half => exact (final.budget half).1
      case isFalse => exact Nat.zero_le _
    omega
  · intro before opening between clock clocked control was opens early
    have opened := moved_opens (perform_moved probes control opening) was opens
    have still : OpenSince (performAll config queueKey (perform config queueKey control opening)
        between) opening.clock := by
      refine performAll_early probes opened fun timed member => ?_
      have ordered := clocked_before clocked timed member
      exact Int.lt_of_le_of_lt (Int.sub_le_sub_right ordered _) early
    rw [performAll_append]
    exact (moved_early (canProcess_moved probes clock) still early).2

/-- Five failures open the circuit of the webhook queue, and a late success does not let a poll
through before the timeout. -/
theorem controller_gate_outage :
    (canProcess queues .webhookEvents 29999 (performAll queues .webhookEvents
      (.initial queues .webhookEvents)
      (List.replicate 4 ⟨0, .onFailure⟩ ++ ⟨0, .onFailure⟩ :: [⟨10, .onSuccess⟩]))).2 = false :=
  (controller_gate queues .webhookEvents (by decide)).2.2 (List.replicate 4 ⟨0, .onFailure⟩)
    ⟨0, .onFailure⟩ [⟨10, .onSuccess⟩] 29999 (by unfold Clocked; decide) (by decide) rfl (by decide)

end Claims

end PlanBuddy.AdaptiveController
