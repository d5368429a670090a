import PlanBuddy.Runs

/-!
# The circuit breaker around provider calls

A `CircuitBreaker` decides with two counters, each written in several states, and the
calls it admits complete in whatever state the breaker has by then. The reference
automaton has no counter: it computes its state from the history alone, counting the
completions that fell in a state since that state was last entered. The two agree after
every history of overlapping calls, resets and clock readings.

Time is the value of `Date.now()`; logging is left out.
-/

namespace PlanBuddy.CircuitBreaker

section Model

inductive State
  | closed
  | open
  | halfOpen
deriving DecidableEq, Repr

/-- `options` of the constructor; a missing one is `none`. -/
structure Options where
  failureThreshold : Option Nat := none
  successThreshold : Option Nat := none
  timeout : Option Int := none
  name : Option String := none
deriving DecidableEq

/-- `option || fallback` for a number. -/
def orElse {α : Type} [OfNat α 0] [DecidableEq α] (option : Option α) (fallback : α) : α :=
  match option with
  | none => fallback
  | some value => if value = 0 then fallback else value

/-- What the constructor keeps of its options. Thresholds of zero are not kept. -/
structure Config where
  failureThreshold : Nat
  successThreshold : Nat
  timeout : Int
  name : String
  failurePositive : 1 ≤ failureThreshold
  successPositive : 1 ≤ successThreshold

/-- A missing or zero setting falls back to a positive one. -/
theorem orElse_positive {option : Option Nat} {fallback : Nat} (positive : 1 ≤ fallback) :
    1 ≤ orElse option fallback := by
  unfold orElse
  split
  · exact positive
  · split <;> omega

def Options.config (options : Options) : Config where
  failureThreshold := orElse options.failureThreshold 5
  successThreshold := orElse options.successThreshold 2
  timeout := orElse options.timeout 30000
  name := if (options.name.getD "").isEmpty then "CircuitBreaker" else options.name.getD ""
  failurePositive := orElse_positive (by decide)
  successPositive := orElse_positive (by decide)

structure Metrics where
  totalRequests : Nat := 0
  totalErrors : Nat := 0
  totalSuccesses : Nat := 0
  stateTransitions : Nat := 0
deriving DecidableEq, Repr

structure Breaker where
  state : State
  failureCount : Nat
  successCount : Nat
  nextAttempt : Int
  metrics : Metrics
deriving DecidableEq, Repr

/-- The constructor, at a clock reading. -/
def Breaker.new (now : Int) : Breaker :=
  { state := .closed, failureCount := 0, successCount := 0, nextAttempt := now, metrics := {} }

structure BreakerError where
  message : String
  code : String
  status : Nat
deriving DecidableEq, Repr

/-- What `execute` does before it awaits anything. -/
inductive Admission
  | failFast (error : BreakerError)
  | invoke
deriving DecidableEq, Repr

variable (config : Config)

def circuitOpen : BreakerError where
  message := "Circuit breaker OPEN for " ++ config.name
  code := "CIRCUIT_BREAKER_OPEN"
  status := 503

/-- `execute` up to the call of `fn`. In OPEN it reads the clock once or twice. -/
def execute (first second : Int) (breaker : Breaker) : Breaker × Admission :=
  let breaker := { breaker with
    metrics := { breaker.metrics with totalRequests := breaker.metrics.totalRequests + 1 } }
  if breaker.state = .open ∧ first < breaker.nextAttempt then
    (breaker, .failFast (circuitOpen config))
  else if breaker.state = .open ∧ breaker.nextAttempt ≤ second then
    ({ breaker with
        state := .halfOpen
        successCount := 0
        metrics := { breaker.metrics with
          stateTransitions := breaker.metrics.stateTransitions + 1 } }, .invoke)
  else (breaker, .invoke)

/-- `_recordSuccess`. -/
def recordSuccess (breaker : Breaker) : Breaker :=
  let breaker := { breaker with
    metrics := { breaker.metrics with totalSuccesses := breaker.metrics.totalSuccesses + 1 } }
  match breaker.state with
  | .halfOpen =>
    let breaker := { breaker with successCount := breaker.successCount + 1 }
    if config.successThreshold ≤ breaker.successCount then
      { breaker with
        state := .closed
        failureCount := 0
        metrics := { breaker.metrics with
          stateTransitions := breaker.metrics.stateTransitions + 1 } }
    else breaker
  | .closed => { breaker with failureCount := 0 }
  | .open => breaker

/-- `_recordFailure`, at a clock reading. -/
def recordFailure (now : Int) (breaker : Breaker) : Breaker :=
  let breaker := { breaker with
    metrics := { breaker.metrics with totalErrors := breaker.metrics.totalErrors + 1 } }
  match breaker.state with
  | .halfOpen =>
    { breaker with
      state := .open
      nextAttempt := now + config.timeout
      failureCount := 0
      metrics := { breaker.metrics with
        stateTransitions := breaker.metrics.stateTransitions + 1 } }
  | .closed =>
    let breaker := { breaker with failureCount := breaker.failureCount + 1 }
    if config.failureThreshold ≤ breaker.failureCount then
      { breaker with
        state := .open
        nextAttempt := now + config.timeout
        metrics := { breaker.metrics with
          stateTransitions := breaker.metrics.stateTransitions + 1 } }
    else breaker
  | .open => breaker

def reset (now : Int) (breaker : Breaker) : Breaker :=
  { breaker with state := .closed, failureCount := 0, successCount := 0, nextAttempt := now }

/-- What happens at the breaker, with the clock readings made for it. -/
inductive Event
  | execute (first second : Int) (invoked : Bool)
  | succeeded
  | failed (now : Int)
  | reset (now : Int)
deriving DecidableEq, Repr

/-- The breaker, the latest reading of the clock, and the calls of `fn` not settled yet. -/
structure System where
  breaker : Breaker
  clock : Int
  inFlight : Nat
deriving DecidableEq, Repr

def System.start (now : Int) : System where
  breaker := .new now
  clock := now
  inFlight := 0

/-- Calls overlap in any way: an admitted call settles at any later moment. -/
inductive Step : System → List Event → System → Prop
  | failFast {system : System} (first second : Int) {breaker : Breaker} {error : BreakerError}
      (later : system.clock ≤ first) (inOrder : first ≤ second)
      (refused : execute config first second system.breaker = (breaker, .failFast error)) :
      Step system [.execute first second false]
        { system with breaker := breaker, clock := second }
  | invoke {system : System} (first second : Int) {breaker : Breaker}
      (later : system.clock ≤ first) (inOrder : first ≤ second)
      (admitted : execute config first second system.breaker = (breaker, .invoke)) :
      Step system [.execute first second true]
        { breaker := breaker, clock := second, inFlight := system.inFlight + 1 }
  | succeeded {system : System} (pending : 0 < system.inFlight) :
      Step system [.succeeded]
        { system with
          breaker := recordSuccess config system.breaker
          inFlight := system.inFlight - 1 }
  | failed {system : System} (now : Int) (pending : 0 < system.inFlight)
      (later : system.clock ≤ now) :
      Step system [.failed now]
        { breaker := recordFailure config now system.breaker
          clock := now
          inFlight := system.inFlight - 1 }
  | reset {system : System} (now : Int) (later : system.clock ≤ now) :
      Step system [.reset now]
        { system with breaker := CircuitBreaker.reset now system.breaker, clock := now }

end Model

section Reference

/-- An event with the states of the reference automaton around it. -/
structure Entry where
  before : State
  event : Event
  after : State
deriving DecidableEq, Repr

namespace Entry

/-- CLOSED is entered from another state, and by every reset. -/
def entersClosed (entry : Entry) : Bool :=
  match entry.event with
  | .reset _ => true
  | _ => entry.before != .closed && entry.after == .closed

def entersHalfOpen (entry : Entry) : Bool :=
  entry.before != .halfOpen && entry.after == .halfOpen

def succeededIn (state : State) (entry : Entry) : Bool :=
  match entry.event with
  | .succeeded => entry.before == state
  | _ => false

def failedIn (state : State) (entry : Entry) : Bool :=
  match entry.event with
  | .failed _ => entry.before == state
  | _ => false

/-- The reading at which OPEN was entered. -/
def openedAt (entry : Entry) : Option Int :=
  match entry.event with
  | .failed now => if entry.before ≠ .open ∧ entry.after = .open then some now else none
  | _ => none

end Entry

/-- How many of the latest entries are counted, back to the latest one that restarts the count. -/
def countSince {α : Type} (restarts counted : α → Bool) (entries : List α) : Nat :=
  (entries.takeWhile fun entry => !restarts entry).countP counted

/-- The count with one more entry. -/
theorem countSince_cons {α : Type} {restarts counted : α → Bool} {entry : α} {entries : List α} :
    countSince restarts counted (entry :: entries) =
      if restarts entry then 0
      else countSince restarts counted entries + if counted entry then 1 else 0 := by
  unfold countSince
  cases restarted : restarts entry with
  | true => simp [restarted]
  | false => simp [restarted, List.countP_cons]

/-- The failures completed in CLOSED since the last success completed there or since CLOSED
was last entered. The entries are the latest first. -/
def failuresInClosed (entries : List Entry) : Nat :=
  countSince (fun entry => entry.entersClosed || entry.succeededIn .closed)
    (Entry.failedIn .closed) entries

/-- The successes completed in HALF_OPEN since it was last entered. -/
def successesInHalfOpen (entries : List Entry) : Nat :=
  countSince Entry.entersHalfOpen (Entry.succeededIn .halfOpen) entries

def currentState : List Entry → State
  | [] => .closed
  | entry :: _ => entry.after

variable (config : Config)

/-- `timeout` after OPEN was last entered. -/
def nextAttempt (entries : List Entry) : Option Int :=
  (entries.findSome? Entry.openedAt).map (· + config.timeout)

/-- Whether the next attempt is due at a reading of the clock. -/
def due (now : Int) (entries : List Entry) : Bool :=
  (nextAttempt config entries).any fun attempt => attempt ≤ now

/-- The state after an event, from the entries before it. -/
def nextState (entries : List Entry) (event : Event) : State :=
  match currentState entries, event with
  | _, .reset _ => .closed
  | .closed, .failed _ =>
    if failuresInClosed entries + 1 = config.failureThreshold then .open else .closed
  | .open, .execute first _ _ => if due config first entries then .halfOpen else .open
  | .halfOpen, .succeeded =>
    if successesInHalfOpen entries + 1 = config.successThreshold then .closed else .halfOpen
  | .halfOpen, .failed _ => .open
  | state, _ => state

def record (entries : List Entry) (event : Event) : List Entry :=
  { before := currentState entries, event := event, after := nextState config entries event } ::
    entries

/-- A history with the states of the reference automaton, the latest entry first. -/
def annotate (history : List Event) : List Entry := history.foldl (record config) []

def referenceState (history : List Event) : State := currentState (annotate config history)

/-- The call is made in OPEN before the next attempt is due. -/
def EarlyInOpen (history : List Event) (now : Int) : Prop :=
  referenceState config history = .open ∧ due config now (annotate config history) = false

end Reference

section Refinement

variable {config : Config}

/-- Each counter against the history in the state that reads it. -/
structure Tracks (config : Config) (entries : List Entry) (breaker : Breaker) : Prop where
  state : breaker.state = currentState entries
  failures : breaker.state = .closed →
    breaker.failureCount = failuresInClosed entries ∧
      breaker.failureCount < config.failureThreshold
  successes : breaker.state = .halfOpen →
    breaker.successCount = successesInHalfOpen entries ∧
      breaker.successCount < config.successThreshold
  attempt : breaker.state = .open → nextAttempt config entries = some breaker.nextAttempt

/-- A new breaker has no history. -/
theorem tracks_new {now : Int} : Tracks config [] (.new now) where
  state := rfl
  failures _ := ⟨rfl, config.failurePositive⟩
  successes half := nomatch half
  attempt opened := nomatch opened

variable {entries : List Entry} {breaker : Breaker}

/-- The history tells when an open breaker is due. -/
theorem Tracks.due_iff (tracks : Tracks config entries breaker) (opened : breaker.state = .open)
    (now : Int) : due config now entries = true ↔ breaker.nextAttempt ≤ now := by
  simp [due, tracks.attempt opened]

/-- An entry that does not open it changes nothing of that. -/
theorem nextAttempt_cons (entry : Entry) (notOpened : entry.openedAt = none) :
    nextAttempt config (entry :: entries) = nextAttempt config entries := by
  simp [nextAttempt, notOpened]

/-- A request that changes nothing but the metrics is counted in no state. -/
theorem Tracks.execute_kept (tracks : Tracks config entries breaker) {next : Breaker}
    (same : { breaker with metrics := next.metrics } = next) {first second : Int}
    {invoked : Bool}
    (kept : nextState config entries (.execute first second invoked) = currentState entries) :
    Tracks config (record config entries (.execute first second invoked)) next := by
  rw [← same]
  refine ⟨?_, fun closed => ?_, fun half => ?_, fun opened => ?_⟩
  · rw [record, currentState, kept]
    exact tracks.state
  · obtain ⟨counted, below⟩ := tracks.failures closed
    refine ⟨counted.trans ?_, below⟩
    simp [record, failuresInClosed, countSince_cons, kept, Entry.entersClosed,
      Entry.succeededIn, Entry.failedIn]
  · obtain ⟨counted, below⟩ := tracks.successes half
    refine ⟨counted.trans ?_, below⟩
    simp [record, successesInHalfOpen, countSince_cons, kept, Entry.entersHalfOpen,
      Entry.succeededIn]
  · rw [record, nextAttempt_cons _ rfl]
    exact tracks.attempt opened

/-- A call is refused exactly when it is made in OPEN before the next attempt. -/
theorem Tracks.execute (tracks : Tracks config entries breaker) (invoked : Bool)
    {first second : Int} (inOrder : first ≤ second) {next : Breaker} {admission : Admission}
    (admits : execute config first second breaker = (next, admission)) :
    Tracks config (record config entries (.execute first second invoked)) next ∧
      (admission = .invoke ↔
        ¬ (currentState entries = .open ∧ due config first entries = false)) := by
  have current := tracks.state
  unfold CircuitBreaker.execute at admits
  cases here : breaker.state with
  | closed =>
    simp only [here, reduceCtorEq, false_and, if_false, Prod.mk.injEq] at admits
    obtain ⟨rfl, rfl⟩ := admits
    refine ⟨tracks.execute_kept (by rw [← here]) ?_, ?_⟩ <;> simp [nextState, ← current, here]
  | halfOpen =>
    simp only [here, reduceCtorEq, false_and, if_false, Prod.mk.injEq] at admits
    obtain ⟨rfl, rfl⟩ := admits
    refine ⟨tracks.execute_kept (by rw [← here]) ?_, ?_⟩ <;> simp [nextState, ← current, here]
  | «open» =>
    have dueIff := tracks.due_iff here first
    by_cases early : first < breaker.nextAttempt
    · have notDue : due config first entries = false := by
        rw [Bool.eq_false_iff, ne_eq, dueIff]
        omega
      simp only [here, early, true_and, if_true, Prod.mk.injEq] at admits
      obtain ⟨rfl, rfl⟩ := admits
      refine ⟨tracks.execute_kept (by rw [← here]) ?_, ?_⟩ <;> simp [nextState, ← current, here, notDue]
    · have isDue : due config first entries = true := dueIff.mpr (by omega)
      have late : breaker.nextAttempt ≤ second := by omega
      simp only [here, early, late, true_and, if_true, if_false, Prod.mk.injEq] at admits
      obtain ⟨rfl, rfl⟩ := admits
      have goes : nextState config entries (.execute first second invoked) = .halfOpen := by
        simp [nextState, ← current, here, isDue]
      refine ⟨⟨goes.symm, nofun, fun _ => ⟨?_, config.successPositive⟩, nofun⟩, ?_⟩
      · simp [record, successesInHalfOpen, countSince_cons, Entry.entersHalfOpen, goes,
          ← current, here]
      · simp [isDue]

/-- A success in HALF_OPEN is counted, one in CLOSED forgets the failures, one in OPEN
changes nothing. -/
theorem Tracks.recordSuccess (tracks : Tracks config entries breaker) :
    Tracks config (record config entries .succeeded) (recordSuccess config breaker) := by
  have current := tracks.state
  cases here : breaker.state with
  | closed =>
    have stays : nextState config entries .succeeded = .closed := by
      simp [nextState, ← current, here]
    simp only [CircuitBreaker.recordSuccess, here]
    refine ⟨stays.symm, fun _ => ⟨?_, config.failurePositive⟩, nofun, nofun⟩
    simp [record, failuresInClosed, countSince_cons, Entry.succeededIn, ← current, here]
  | halfOpen =>
    obtain ⟨counted, below⟩ := tracks.successes here
    by_cases enough : config.successThreshold ≤ breaker.successCount + 1
    · have closes : nextState config entries .succeeded = .closed := by
        simp only [nextState, ← current, here, ← counted]
        rw [if_pos (by omega)]
      simp only [CircuitBreaker.recordSuccess, here, enough, if_true]
      refine ⟨closes.symm, fun _ => ⟨?_, config.failurePositive⟩, nofun, nofun⟩
      simp [record, failuresInClosed, countSince_cons, Entry.entersClosed, closes, ← current,
        here]
    · have stays : nextState config entries .succeeded = .halfOpen := by
        simp only [nextState, ← current, here, ← counted]
        rw [if_neg (by omega)]
      simp only [CircuitBreaker.recordSuccess, here, enough, if_false]
      refine ⟨stays.symm, nofun, fun _ => ⟨?_, Nat.lt_of_not_le enough⟩, nofun⟩
      simp [record, successesInHalfOpen, countSince_cons, Entry.entersHalfOpen,
        Entry.succeededIn, ← current, here]
      exact counted
  | «open» =>
    have stays : nextState config entries .succeeded = .open := by
      simp [nextState, ← current, here]
    simp only [CircuitBreaker.recordSuccess, here]
    refine ⟨stays.symm, nofun, nofun, fun _ => ?_⟩
    rw [record, nextAttempt_cons _ rfl]
    exact tracks.attempt here

/-- A failure in CLOSED is counted, one in HALF_OPEN opens, one in OPEN changes nothing. -/
theorem Tracks.recordFailure (tracks : Tracks config entries breaker) {now : Int} :
    Tracks config (record config entries (.failed now)) (recordFailure config now breaker) := by
  have current := tracks.state
  cases here : breaker.state with
  | closed =>
    obtain ⟨counted, below⟩ := tracks.failures here
    by_cases enough : config.failureThreshold ≤ breaker.failureCount + 1
    · have opens : nextState config entries (.failed now) = .open := by
        simp only [nextState, ← current, here, ← counted]
        rw [if_pos (by omega)]
      simp only [CircuitBreaker.recordFailure, here, enough, if_true]
      refine ⟨opens.symm, nofun, nofun, fun _ => ?_⟩
      simp [record, nextAttempt, Entry.openedAt, opens, ← current, here]
    · have stays : nextState config entries (.failed now) = .closed := by
        simp only [nextState, ← current, here, ← counted]
        rw [if_neg (by omega)]
      simp only [CircuitBreaker.recordFailure, here, enough, if_false]
      refine ⟨stays.symm, fun _ => ⟨?_, Nat.lt_of_not_le enough⟩, nofun, nofun⟩
      simp [record, failuresInClosed, countSince_cons, Entry.entersClosed, Entry.succeededIn,
        Entry.failedIn, ← current, here]
      exact counted
  | halfOpen =>
    have opens : nextState config entries (.failed now) = .open := by
      simp [nextState, ← current, here]
    simp only [CircuitBreaker.recordFailure, here]
    refine ⟨opens.symm, nofun, nofun, fun _ => ?_⟩
    simp [record, nextAttempt, Entry.openedAt, opens, ← current, here]
  | «open» =>
    have stays : nextState config entries (.failed now) = .open := by
      simp [nextState, ← current, here]
    simp only [CircuitBreaker.recordFailure, here]
    refine ⟨stays.symm, nofun, nofun, fun _ => ?_⟩
    rw [record, nextAttempt_cons]
    · exact tracks.attempt here
    · simp [Entry.openedAt, ← current, here]

/-- A reset is in the history. -/
theorem tracks_reset {now : Int} :
    Tracks config (record config entries (.reset now)) (CircuitBreaker.reset now breaker) := by
  have closes : nextState config entries (.reset now) = .closed := by
    unfold nextState
    split <;> simp_all
  refine ⟨closes.symm, fun _ => ⟨?_, config.failurePositive⟩, nofun, nofun⟩
  simp [record, failuresInClosed, countSince_cons, Entry.entersClosed, CircuitBreaker.reset]

/-- The annotation of one more event. -/
theorem annotate_append (history : List Event) (event : Event) :
    annotate config (history ++ [event]) = record config (annotate config history) event := by
  simp [annotate]

/-- One step keeps the counters in agreement with the history. -/
theorem Step.tracks {system next : System} {history observed : List Event}
    (step : Step config system observed next)
    (tracks : Tracks config (annotate config history) system.breaker) :
    Tracks config (annotate config (history ++ observed)) next.breaker := by
  cases step with
  | failFast first second later inOrder refused =>
    rw [annotate_append]
    exact (tracks.execute false inOrder refused).1
  | invoke first second later inOrder admitted =>
    rw [annotate_append]
    exact (tracks.execute true inOrder admitted).1
  | succeeded pending =>
    rw [annotate_append]
    exact tracks.recordSuccess
  | failed now pending later =>
    rw [annotate_append]
    exact tracks.recordFailure
  | reset now later =>
    rw [annotate_append]
    exact tracks_reset

/-- A run is what its history tells. -/
theorem run_tracks {now : Int} {history : List Event} {system : System}
    (run : Run (Step config) (.start now) history system) :
    Tracks config (annotate config history) system.breaker := by
  refine run.invariant
    (fun history system => Tracks config (annotate config history) system.breaker) tracks_new ?_
  intro history observed system next before tracks taken
  exact taken.tracks tracks

/-- The request observed in a step invoked `fn` unless it was made in OPEN too early. -/
theorem Step.invoked_iff {system next : System} {history : List Event} {first second : Int}
    {invoked : Bool} (step : Step config system [.execute first second invoked] next)
    (tracks : Tracks config (annotate config history) system.breaker) :
    invoked = true ↔ ¬ EarlyInOpen config history first := by
  cases step with
  | failFast first second later inOrder refused =>
    simpa [EarlyInOpen, referenceState] using (tracks.execute false inOrder refused).2
  | invoke first second later inOrder admitted =>
    simpa [EarlyInOpen, referenceState] using (tracks.execute true inOrder admitted).2

/-- A step is one event. -/
theorem Step.singleton {system next : System} {observed : List Event}
    (step : Step config system observed next) : ∃ event, observed = [event] := by
  cases step <;> exact ⟨_, rfl⟩

/-- A call is invoked unless it comes early to an open breaker. -/
theorem run_invoked_iff {now : Int} {history : List Event} {system : System}
    (run : Run (Step config) (.start now) history system) {earlier later : List Event}
    {first second : Int} {invoked : Bool}
    (split : history = earlier ++ .execute first second invoked :: later) :
    invoked = true ↔ ¬ EarlyInOpen config earlier first := by
  induction run generalizing later with
  | start => simp at split
  | step before taken inductionHypothesis =>
    obtain ⟨event, rfl⟩ := taken.singleton
    obtain ⟨rfl, rfl, rfl⟩ | ⟨between, rfl, rfl⟩ := snoc_split split
    · exact taken.invoked_iff (run_tracks before)
    · exact inductionHypothesis rfl

/-- After every history of overlapping calls the breaker is in the state the reference
automaton computes from it, and `fn` was invoked by exactly the calls that were not made in
OPEN before the next attempt was due. -/
theorem refines_automaton {now : Int} {history : List Event} {system : System}
    (run : Run (Step config) (.start now) history system) :
    system.breaker.state = referenceState config history ∧
      ∀ earlier first second invoked later,
        history = earlier ++ .execute first second invoked :: later →
          (invoked = true ↔ ¬ EarlyInOpen config earlier first) :=
  ⟨(run_tracks run).state, fun _ _ _ _ _ split => run_invoked_iff run split⟩

/-- Two calls overlap, the second failure opens the breaker, a call too early is refused and
the next one probes. -/
def probing : Config :=
  Options.config { failureThreshold := some 2, successThreshold := some 1, timeout := some 10 }

def probe : List Event :=
  [.execute 0 0 true, .execute 1 1 true, .failed 5, .failed 6, .execute 7 7 false,
    .execute 16 17 true, .succeeded]

/-- The run of the sample. -/
theorem probe_run : ∃ system, Run (Step probing) (.start 0) probe system := by
  have idle : Run (Step probing) (.start 0) [] (.start 0) := .start
  have first := idle.step (.invoke 0 0 (by decide) (by decide) rfl)
  have second := first.step (.invoke 1 1 (by decide) (by decide) rfl)
  have failure := second.step (.failed 5 (by decide) (by decide))
  have opened := failure.step (.failed 6 (by decide) (by decide))
  have refused := opened.step (.failFast 7 7 (by decide) (by decide) rfl)
  have admitted := refused.step (.invoke 16 17 (by decide) (by decide) rfl)
  exact ⟨_, admitted.step (.succeeded (by decide))⟩

/-- In it a call comes too early and a later one closes the breaker. -/
theorem refines_automaton_probe : ∃ system, Run (Step probing) (.start 0) probe system ∧
    system.breaker.state = .closed ∧ EarlyInOpen probing (probe.take 4) 7 := by
  obtain ⟨system, run⟩ := probe_run
  obtain ⟨state, invoked⟩ := refines_automaton run
  refine ⟨system, run, state.trans (by decide), ?_⟩
  have refused := invoked (probe.take 4) 7 7 false (probe.drop 5) rfl
  exact Classical.not_not.mp fun admitted => Bool.false_ne_true (refused.mpr admitted)

end Refinement

end PlanBuddy.CircuitBreaker
