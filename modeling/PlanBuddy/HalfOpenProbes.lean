import PlanBuddy.ControllerCalls
import PlanBuddy.Runs

/-!
# How a half open circuit is decided

A circuit that becomes half open lets its probes through, and each of them reports an
outcome. It closes when as many successes have been reported as there are probes, and opens
when the failures in a row reach the threshold, where a success starts the row anew. So an
episode with outcomes of both kinds may end undecided: with every probe spent and every
outcome reported, the circuit is half open still, and no poll is let through any more.

An episode consists of polls, of one report for each probe, and of drain requests. A poll
that finds the circuit open long enough starts another episode and is not part of this one.
-/

namespace PlanBuddy.AdaptiveController

section Model

inductive Outcome
  | succeeded
  | failed
deriving DecidableEq

/-- An episode under way: the probes granted, and the outcomes reported. -/
structure Episode where
  control : QueueControl
  granted : Nat
  reported : Nat

inductive EpisodeAction
  | canProcess (clock : Time)
  | report (clock : Time) (outcome : Outcome)
  | setDraining (isDraining : Bool)

variable (config : QueueConfig) (queueKey : QueueKey)

/-- The poll that makes the circuit half open is the first one granted. -/
def Episode.enter (clock : Time) (control : QueueControl) : Episode :=
  ⟨(AdaptiveController.canProcess config queueKey clock control).1, 1, 0⟩

def QueueControl.report (clock : Time) (control : QueueControl) : Outcome → QueueControl
  | .succeeded => onSuccess config queueKey control
  | .failed => onFailure config queueKey clock control

def Episode.act (episode : Episode) : EpisodeAction → Option (Episode × List Outcome)
  | .canProcess clock =>
    let (control, admitted) := AdaptiveController.canProcess config queueKey clock episode.control
    if episode.control.circuitState = .open ∧ control.circuitState = .halfOpen then none
    else
      let probe := admitted && decide (control.circuitState = .halfOpen)
      some ({ episode with control := control, granted := episode.granted + probe.toNat }, [])
  | .report clock outcome =>
    if episode.reported < episode.granted then
      some ({ episode with
        control := episode.control.report config queueKey clock outcome
        reported := episode.reported + 1 }, [outcome])
    else none
  | .setDraining isDraining =>
    some ({ episode with
      control := AdaptiveController.setDraining config queueKey isDraining episode.control }, [])

end Model

section Purpose

/-- The failures in a row at the end, on top of those there were before. -/
def streak (before : Nat) (outcomes : List Outcome) : Nat :=
  outcomes.foldl (fun row outcome => if outcome = .failed then row + 1 else 0) before

/-- At some failure the row has reached the threshold. -/
def Trips (threshold before : Nat) : List Outcome → Prop
  | [] => False
  | .succeeded :: rest => Trips threshold 0 rest
  | .failed :: rest => threshold ≤ before + 1 ∨ Trips threshold (before + 1) rest

/-- A row of failures at the start of the outcomes, one of them first. -/
theorem failures_cons {failures : Nat} {outcome : Outcome} {later : List Outcome} :
    List.replicate (failures + 1) .failed <+: outcome :: later ↔
      outcome = .failed ∧ List.replicate failures .failed <+: later := by
  rw [List.replicate_succ, List.cons_prefix_cons, eq_comm]

/-- A row of failures begins with any shorter one. -/
theorem failures_fewer {fewer failures : Nat} {outcomes : List Outcome} (less : fewer ≤ failures)
    (row : List.replicate failures .failed <+: outcomes) :
    List.replicate fewer .failed <+: outcomes := by
  have part : List.replicate fewer Outcome.failed <+: List.replicate failures .failed := by
    have taken := List.take_prefix fewer (List.replicate failures Outcome.failed)
    rwa [List.take_replicate, Nat.min_eq_left less] at taken
  exact part.trans row

/-- Either the first outcomes are failures that complete the row there was before, or the
threshold is reached within the episode. -/
theorem trips_iff {threshold : Nat} (positive : 1 ≤ threshold) (before : Nat)
    (outcomes : List Outcome) :
    Trips threshold before outcomes ↔
      (∃ failures, 1 ≤ failures ∧ List.replicate failures .failed <+: outcomes ∧
        threshold ≤ before + failures) ∨
      List.replicate threshold .failed <:+: outcomes := by
  obtain ⟨rest, rfl⟩ : ∃ rest, threshold = rest + 1 := ⟨threshold - 1, by omega⟩
  induction outcomes generalizing before with
  | nil =>
    constructor
    · exact False.elim
    · rintro (⟨failures, one, row, -⟩ | row)
      · have none := List.prefix_nil.mp row
        rw [List.replicate_eq_nil_iff] at none
        omega
      · cases List.infix_nil.mp row
  | cons outcome later inductionHypothesis =>
    cases outcome with
    | succeeded =>
      rw [Trips, inductionHypothesis 0]
      constructor
      · rintro (⟨failures, -, row, enough⟩ | row)
        · exact .inr (List.infix_cons (failures_fewer (by omega) row).isInfix)
        · exact .inr (List.infix_cons row)
      · rintro (⟨failures, one, row, -⟩ | row)
        · obtain ⟨fewer, rfl⟩ : ∃ fewer, failures = fewer + 1 := ⟨failures - 1, by omega⟩
          cases (failures_cons.mp row).1
        · rcases List.infix_cons_iff.mp row with first | within
          · cases (failures_cons.mp first).1
          · exact .inr within
    | failed =>
      rw [Trips, inductionHypothesis (before + 1)]
      constructor
      · rintro (enough | ⟨failures, -, row, enough⟩ | row)
        · exact .inl ⟨1, Nat.le_refl 1, failures_cons.mpr ⟨rfl, List.nil_prefix⟩, enough⟩
        · exact .inl ⟨failures + 1, Nat.le_add_left 1 _, failures_cons.mpr ⟨rfl, row⟩, by omega⟩
        · exact .inr (List.infix_cons row)
      · rintro (⟨failures, one, row, enough⟩ | row)
        · obtain ⟨fewer, rfl⟩ : ∃ fewer, failures = fewer + 1 := ⟨failures - 1, by omega⟩
          rcases Nat.eq_zero_or_pos fewer with rfl | more
          · exact .inl enough
          · exact .inr (.inl ⟨fewer, more, (failures_cons.mp row).2, by omega⟩)
        · rcases List.infix_cons_iff.mp row with first | within
          · rcases Nat.eq_zero_or_pos rest with rfl | more
            · exact .inl (by omega)
            · exact .inr (.inl ⟨rest, more, (failures_cons.mp first).2, by omega⟩)
          · exact .inr (.inr within)

/-- The last outcome trips the circuit, or one before it has. -/
theorem trips_append (threshold before : Nat) (outcomes : List Outcome) (last : Outcome) :
    Trips threshold before (outcomes ++ [last]) ↔
      Trips threshold before outcomes ∨
        (last = .failed ∧ threshold ≤ streak before outcomes + 1) := by
  induction outcomes generalizing before with
  | nil => cases last <;> simp [Trips, streak]
  | cons outcome later inductionHypothesis =>
    cases outcome with
    | succeeded => simpa [Trips, streak] using inductionHypothesis 0
    | failed =>
      simp only [List.cons_append, Trips, inductionHypothesis, or_assoc]
      rfl

/-- It ends the streak, or makes it longer. -/
theorem streak_append (before : Nat) (outcomes : List Outcome) (last : Outcome) :
    streak before (outcomes ++ [last]) = if last = .failed then streak before outcomes + 1 else 0 := by
  simp [streak]

end Purpose

section Reports

variable {config : QueueConfig} {queueKey : QueueKey} {control : QueueControl}

/-- A success ends the streak of the circuit, too. -/
theorem onSuccess_failures : (onSuccess config queueKey control).consecutiveFailures =
    (recordSuccess config queueKey control).consecutiveFailures := by
  simp only [onSuccess, increaseConcurrency]
  split
  · split <;> rfl
  · rfl

/-- A success in a half open circuit ends the row of failures, and closes the circuit as the last
one required. -/
theorem halfOpen_onSuccess (config : QueueConfig) (queueKey : QueueKey)
    (half : control.circuitState = .halfOpen) :
    (probeLimit config queueKey ≤ control.halfOpenSuccesses + 1 ∧
      (onSuccess config queueKey control).circuitState = .closed) ∨
    (control.halfOpenSuccesses + 1 < probeLimit config queueKey ∧
      (onSuccess config queueKey control).circuitState = .halfOpen ∧
      (onSuccess config queueKey control).halfOpenProbes = control.halfOpenProbes ∧
      (onSuccess config queueKey control).halfOpenSuccesses = control.halfOpenSuccesses + 1 ∧
      (onSuccess config queueKey control).consecutiveFailures = 0) := by
  have same : SameCircuit (onSuccess config queueKey control)
      (recordSuccess config queueKey control) := onSuccess_circuit
  rw [same.state, same.probes, same.successes, onSuccess_failures]
  by_cases enough : probeLimit config queueKey ≤ control.halfOpenSuccesses + 1
  · exact .inl ⟨enough, by simp [recordSuccess, half, enough, closeCircuit]⟩
  · exact .inr ⟨Nat.lt_of_not_le enough, by simp [recordSuccess, half, enough]⟩

/-- A failure in a half open circuit lengthens the row, and opens the circuit at the threshold. -/
theorem halfOpen_onFailure (config : QueueConfig) (queueKey : QueueKey)
    (half : control.circuitState = .halfOpen) (clock : Time) :
    (failureThreshold config queueKey ≤ control.consecutiveFailures + 1 ∧
      (onFailure config queueKey clock control).circuitState = .open) ∨
    (control.consecutiveFailures + 1 < failureThreshold config queueKey ∧
      (onFailure config queueKey clock control).circuitState = .halfOpen ∧
      (onFailure config queueKey clock control).halfOpenProbes = control.halfOpenProbes ∧
      (onFailure config queueKey clock control).halfOpenSuccesses = control.halfOpenSuccesses ∧
      (onFailure config queueKey clock control).consecutiveFailures =
        control.consecutiveFailures + 1) := by
  by_cases reached : failureThreshold config queueKey ≤ control.consecutiveFailures + 1
  · refine .inl ⟨reached, ?_⟩
    simp [onFailure, recordFailure, decreaseConcurrency, openCircuit, reached, half]
  · refine .inr ⟨Nat.lt_of_not_le reached, ?_⟩
    simp [onFailure, recordFailure, decreaseConcurrency, reached, half]

/-- An open circuit stays open under any report. -/
theorem open_report (isOpen : control.circuitState = .open) (clock : Time) (outcome : Outcome) :
    (control.report config queueKey clock outcome).circuitState = .open := by
  cases outcome with
  | succeeded =>
    have same : SameCircuit (onSuccess config queueKey control)
        (recordSuccess config queueKey control) := onSuccess_circuit
    refine same.state.trans ?_
    simp [recordSuccess, isOpen]
  | failed => simp [QueueControl.report, onFailure, recordFailure, decreaseConcurrency, isOpen]

end Reports

section Episodes

variable {config : QueueConfig} {queueKey : QueueKey} {before : Nat} {outcomes : List Outcome}
  {episode next : Episode}

def successes (outcomes : List Outcome) : Nat := outcomes.count .succeeded

/-- How the circuit stands after the outcomes reported so far. -/
structure Judged (config : QueueConfig) (queueKey : QueueKey) (before : Nat)
    (outcomes : List Outcome) (episode : Episode) : Prop where
  reported : episode.reported = outcomes.length
  within : episode.reported ≤ episode.granted ∧ episode.granted ≤ probeLimit config queueKey
  undecided : episode.control.circuitState = .halfOpen →
    ¬ Trips (failureThreshold config queueKey) before outcomes ∧
      episode.control.consecutiveFailures = streak before outcomes ∧
      episode.control.halfOpenSuccesses = successes outcomes ∧
      successes outcomes < probeLimit config queueKey ∧
      episode.control.halfOpenProbes = episode.granted
  opened : episode.control.circuitState = .open →
    Trips (failureThreshold config queueKey) before outcomes
  closed : episode.control.circuitState = .closed →
    successes outcomes = probeLimit config queueKey

/-- What a half-open episode has seen. -/
theorem judged_halfOpen (reported : episode.reported = outcomes.length)
    (within : episode.reported ≤ episode.granted ∧ episode.granted ≤ probeLimit config queueKey)
    (state : episode.control.circuitState = .halfOpen)
    (untripped : ¬ Trips (failureThreshold config queueKey) before outcomes)
    (row : episode.control.consecutiveFailures = streak before outcomes)
    (counted : episode.control.halfOpenSuccesses = successes outcomes)
    (fewer : successes outcomes < probeLimit config queueKey)
    (spent : episode.control.halfOpenProbes = episode.granted) :
    Judged config queueKey before outcomes episode where
  reported := reported
  within := within
  undecided _ := ⟨untripped, row, counted, fewer, spent⟩
  opened isOpen := nomatch state.symm.trans isOpen
  closed isClosed := nomatch state.symm.trans isClosed

/-- What one that has tripped has seen. -/
theorem judged_open (reported : episode.reported = outcomes.length)
    (within : episode.reported ≤ episode.granted ∧ episode.granted ≤ probeLimit config queueKey)
    (state : episode.control.circuitState = .open)
    (tripped : Trips (failureThreshold config queueKey) before outcomes) :
    Judged config queueKey before outcomes episode where
  reported := reported
  within := within
  undecided half := nomatch state.symm.trans half
  opened _ := tripped
  closed isClosed := nomatch state.symm.trans isClosed

/-- What one that has recovered has seen. -/
theorem judged_closed (reported : episode.reported = outcomes.length)
    (within : episode.reported ≤ episode.granted ∧ episode.granted ≤ probeLimit config queueKey)
    (state : episode.control.circuitState = .closed)
    (all : successes outcomes = probeLimit config queueKey) :
    Judged config queueKey before outcomes episode where
  reported := reported
  within := within
  undecided half := nomatch state.symm.trans half
  opened isOpen := nomatch state.symm.trans isOpen
  closed _ := all

/-- The poll that starts the episode is the first probe. -/
theorem enter_judged (probes : 1 ≤ probeLimit config queueKey) {control : QueueControl} {clock : Time}
    (was : control.circuitState = .open)
    (elapsed : (openTimeout config queueKey : Int) ≤ clock - control.openedAt.getD 0) :
    Judged config queueKey control.consecutiveFailures [] (.enter config queueKey clock control) := by
  have entered : Episode.enter config queueKey clock control = ⟨{ control with
      circuitState := .halfOpen, halfOpenProbes := 1, halfOpenSuccesses := 0 }, 1, 0⟩ := by
    rw [Episode.enter, canProcess_elapsed probes was elapsed]
  rw [entered]
  exact judged_halfOpen rfl ⟨Nat.zero_le _, probes⟩ rfl id rfl rfl probes rfl

/-- A poll of the episode changes nothing, or takes one of the probes left. -/
theorem canProcess_cases (probes : 1 ≤ probeLimit config queueKey) {clock : Time}
    {observed : List Outcome}
    (taken : episode.act config queueKey (.canProcess clock) = some (next, observed)) :
    observed = [] ∧ (next = episode ∨
      (episode.control.circuitState = .halfOpen ∧
        episode.control.halfOpenProbes < probeLimit config queueKey ∧
        next.granted = episode.granted + 1 ∧ next.reported = episode.reported ∧
        next.control.circuitState = .halfOpen ∧
        next.control.consecutiveFailures = episode.control.consecutiveFailures ∧
        next.control.halfOpenProbes = episode.control.halfOpenProbes + 1 ∧
        next.control.halfOpenSuccesses = episode.control.halfOpenSuccesses)) := by
  simp only [Episode.act] at taken
  cases state : episode.control.circuitState with
  | closed =>
    simp [canProcess_closed state, state] at taken
    exact ⟨taken.2, .inl taken.1.symm⟩
  | «open» =>
    by_cases elapsed : (openTimeout config queueKey : Int) ≤ clock - episode.control.openedAt.getD 0
    · simp [canProcess_elapsed probes state elapsed, state] at taken
    · simp [canProcess_waiting state elapsed, state] at taken
      exact ⟨taken.2, .inl taken.1.symm⟩
  | halfOpen =>
    by_cases spent : probeLimit config queueKey ≤ episode.control.halfOpenProbes
    · simp [exhausted_refuses ⟨state, spent⟩, state] at taken
      exact ⟨taken.2, .inl taken.1.symm⟩
    · have room := Nat.lt_of_not_le spent
      simp [canProcess_probe state room, state] at taken
      obtain ⟨rfl, rfl⟩ := taken
      exact ⟨rfl, .inr ⟨rfl, room, rfl, rfl, rfl, rfl, rfl, rfl⟩⟩

/-- A probe that is admitted leaves the judgement. -/
theorem probe_judged (judged : Judged config queueKey before outcomes episode)
    (half : episode.control.circuitState = .halfOpen)
    (room : episode.control.halfOpenProbes < probeLimit config queueKey)
    (granted : next.granted = episode.granted + 1) (reported : next.reported = episode.reported)
    (state : next.control.circuitState = .halfOpen)
    (failures : next.control.consecutiveFailures = episode.control.consecutiveFailures)
    (probes : next.control.halfOpenProbes = episode.control.halfOpenProbes + 1)
    (kept : next.control.halfOpenSuccesses = episode.control.halfOpenSuccesses) :
    Judged config queueKey before outcomes next := by
  obtain ⟨untripped, row, counted, fewer, spent⟩ := judged.undecided half
  obtain ⟨behind, limited⟩ := judged.within
  exact judged_halfOpen (reported.trans judged.reported) (by omega) state untripped
    (failures.trans row) (kept.trans counted) fewer (by omega)

/-- One more outcome. -/
theorem successes_append (outcomes : List Outcome) (last : Outcome) :
    successes (outcomes ++ [last]) = successes outcomes + if last = .succeeded then 1 else 0 := by
  simp [successes, List.count_append, List.count_singleton]

/-- A report moves a half open circuit as the outcomes so far demand; an open one has been
decided, and a closed one has had all its reports. -/
theorem report_judged {clock : Time} {outcome : Outcome}
    (judged : Judged config queueKey before outcomes episode)
    (behind : episode.reported < episode.granted) :
    Judged config queueKey before (outcomes ++ [outcome])
      { episode with
        control := episode.control.report config queueKey clock outcome
        reported := episode.reported + 1 } := by
  obtain ⟨reported, within, undecided, opened, closed⟩ := judged
  have count : episode.reported + 1 = (outcomes ++ [outcome]).length := by
    rw [List.length_append, reported]
    rfl
  have budget : episode.reported + 1 ≤ episode.granted ∧ episode.granted ≤ probeLimit config queueKey :=
    ⟨behind, within.2⟩
  cases state : episode.control.circuitState with
  | closed =>
    have all := closed state
    have most : successes outcomes ≤ outcomes.length := List.count_le_length
    omega
  | «open» =>
    have tripped : Trips (failureThreshold config queueKey) before (outcomes ++ [outcome]) :=
      (trips_append _ _ _ _).mpr (.inl (opened state))
    exact judged_open count budget (open_report state clock outcome) tripped
  | halfOpen =>
    obtain ⟨untripped, row, counted, fewer, spent⟩ := undecided state
    have total := successes_append outcomes outcome
    have ended := streak_append before outcomes outcome
    cases outcome with
    | succeeded =>
      have still : ¬ Trips (failureThreshold config queueKey) before (outcomes ++ [.succeeded]) := by
        simp [trips_append, untripped]
      rw [if_pos rfl] at total
      rcases halfOpen_onSuccess config queueKey state with
        ⟨enough, closes⟩ | ⟨more, stays, probes, successes, failures⟩
      · exact judged_closed count budget closes (by omega)
      · rw [counted, ← total] at successes
        exact judged_halfOpen count budget stays still (failures.trans ended.symm) successes
          (by omega) (probes.trans spent)
    | failed =>
      rw [if_neg (by decide)] at total
      rw [if_pos rfl, ← row] at ended
      rcases halfOpen_onFailure config queueKey state clock with
        ⟨reached, opens⟩ | ⟨below, stays, probes, successes, failures⟩
      · rw [row] at reached
        have tripped : Trips (failureThreshold config queueKey) before (outcomes ++ [.failed]) :=
          (trips_append _ _ _ _).mpr (.inr ⟨rfl, reached⟩)
        exact judged_open count budget opens tripped
      · rw [row] at below
        have still : ¬ Trips (failureThreshold config queueKey) before (outcomes ++ [.failed]) := by
          simp [trips_append, untripped, below]
        exact judged_halfOpen count budget stays still (failures.trans ended.symm)
          (successes.trans (counted.trans total.symm)) (total ▸ fewer) (probes.trans spent)

/-- A step is judged by what it reports. -/
theorem act_judged (probes : 1 ≤ probeLimit config queueKey) {action : EpisodeAction}
    {observed : List Outcome} (judged : Judged config queueKey before outcomes episode)
    (taken : episode.act config queueKey action = some (next, observed)) :
    Judged config queueKey before (outcomes ++ observed) next := by
  cases action with
  | canProcess clock =>
    obtain ⟨rfl, rfl | ⟨half, room, granted, reported, state, failures, spent, kept⟩⟩ :=
      canProcess_cases probes taken
    · rw [List.append_nil]
      exact judged
    · rw [List.append_nil]
      exact probe_judged judged half room granted reported state failures spent kept
  | report clock outcome =>
    simp only [Episode.act, Option.ite_none_right_eq_some, Option.some.injEq, Prod.mk.injEq] at taken
    obtain ⟨behind, rfl, rfl⟩ := taken
    exact report_judged judged behind
  | setDraining isDraining =>
    cases taken
    rw [List.append_nil]
    exact ⟨judged.reported, judged.within, judged.undecided, judged.opened, judged.closed⟩

end Episodes

section Claims

variable {config : QueueConfig} {queueKey : QueueKey} {outcomes : List Outcome} {episode : Episode}

/-- So is a whole episode. -/
theorem run_judged (probes : 1 ≤ probeLimit config queueKey) {control : QueueControl} {clock : Time}
    (was : control.circuitState = .open)
    (elapsed : (openTimeout config queueKey : Int) ≤ clock - control.openedAt.getD 0)
    (run : Run (takes (Episode.act config queueKey) anyAction) (.enter config queueKey clock control)
      outcomes episode) :
    Judged config queueKey control.consecutiveFailures outcomes episode := by
  refine run.invariant (Judged config queueKey control.consecutiveFailures)
    (enter_judged probes was elapsed) ?_
  rintro history observed state next - judged ⟨action, -, taken⟩
  exact act_judged probes judged taken

/-- Once every probe has been granted and has reported, the circuit is decided exactly if all of
them succeeded, or the first ones failed and completed the row of failures that there was on
entry, or as many in a row failed as the threshold asks for. -/
theorem half_open_decided_iff (config : QueueConfig) (queueKey : QueueKey)
    (probes : 1 ≤ probeLimit config queueKey) (threshold : 1 ≤ failureThreshold config queueKey)
    (control : QueueControl) (clock : Time) (was : control.circuitState = .open)
    (elapsed : (openTimeout config queueKey : Int) ≤ clock - control.openedAt.getD 0)
    (run : Run (takes (Episode.act config queueKey) anyAction) (.enter config queueKey clock control)
      outcomes episode)
    (granted : episode.granted = probeLimit config queueKey)
    (reported : episode.reported = episode.granted) :
    episode.control.circuitState ≠ .halfOpen ↔
      (∀ outcome ∈ outcomes, outcome = .succeeded) ∨
      (∃ failures, 1 ≤ failures ∧ List.replicate failures .failed <+: outcomes ∧
        failureThreshold config queueKey ≤ control.consecutiveFailures + failures) ∨
      List.replicate (failureThreshold config queueKey) .failed <:+: outcomes := by
  have judged := run_judged probes was elapsed run
  have length : outcomes.length = probeLimit config queueKey := by
    rw [← judged.reported, reported, granted]
  have all : (∀ outcome ∈ outcomes, outcome = .succeeded) ↔
      successes outcomes = probeLimit config queueKey := by
    rw [← length, successes, List.count_eq_length]
    exact ⟨fun same outcome member => (same outcome member).symm,
      fun same outcome member => (same outcome member).symm⟩
  rw [all, ← trips_iff threshold]
  cases state : episode.control.circuitState with
  | closed => simp [judged.closed state]
  | «open» => simp [judged.opened state]
  | halfOpen =>
    obtain ⟨untripped, -, -, fewer, -⟩ := judged.undecided state
    simp [untripped, Nat.ne_of_lt fewer]

end Claims

section Sample

/-- The webhook queue after five failures in a row. -/
def outage : QueueControl :=
  performAll queues .webhookEvents (.initial queues .webhookEvents) (List.replicate 5 ⟨0, .onFailure⟩)

/-- The first probe fails while the row of the outage is still there. -/
theorem half_open_decided_failure :
    ∃ outcomes episode, Run (takes (Episode.act queues .webhookEvents) anyAction)
        (.enter queues .webhookEvents 30000 outage) outcomes episode ∧
      (episode.control.circuitState ≠ .halfOpen ↔
        (∀ outcome ∈ outcomes, outcome = .succeeded) ∨
        (∃ failures, 1 ≤ failures ∧ List.replicate failures .failed <+: outcomes ∧
          failureThreshold queues .webhookEvents ≤ outage.consecutiveFailures + failures) ∨
        List.replicate (failureThreshold queues .webhookEvents) .failed <:+: outcomes) := by
  have run : Run (takes (Episode.act queues .webhookEvents) anyAction)
      (.enter queues .webhookEvents 30000 outage) _ _ :=
    run_of_schedule [.canProcess 30001, .report 30002 .failed, .report 30003 .succeeded] rfl
  exact ⟨_, _, run, half_open_decided_iff queues .webhookEvents (by decide) (by decide) outage 30000
    rfl (by decide) run rfl rfl⟩

/-- A success ends the row of the outage, and one failure does not make another: with both probes
reported the circuit is half open still. -/
theorem mixed_outcomes_undecided :
    outage.circuitState = .open ∧
      ∃ outcomes episode, Run (takes (Episode.act queues .webhookEvents) anyAction)
          (.enter queues .webhookEvents 30000 outage) outcomes episode ∧
        outcomes = [.succeeded, .failed] ∧ episode.granted = probeLimit queues .webhookEvents ∧
        episode.reported = episode.granted ∧ episode.control.circuitState = .halfOpen := by
  have run : Run (takes (Episode.act queues .webhookEvents) anyAction)
      (.enter queues .webhookEvents 30000 outage) _ _ :=
    run_of_schedule [.canProcess 30001, .report 30002 .succeeded, .report 30003 .failed] rfl
  exact ⟨rfl, _, _, run, rfl, rfl, rfl, rfl⟩

end Sample

end PlanBuddy.AdaptiveController
