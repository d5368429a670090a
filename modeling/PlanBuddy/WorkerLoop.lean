import PlanBuddy.Parties
import PlanBuddy.Runs

/-!
# The poll loop of a worker

One `BaseWorker` from the point where its `start()` listens for wakeups. A poll runs
synchronously up to an await, where a statement is executed on its behalf: the rate limit,
the SELECT of `drain_requested` with which `atomicClaim` begins, and the claim itself. It
stays there, answered or not, until it is resumed; meanwhile timers, wakeups, other polls,
items and calls of `stop()` and `drain()` take their turns in any order.

What the database and the controller answer is left open: answers, the circuit's
decision and the concurrency come with the actions. There is one poll timer, armed or
not; every way out of a poll that was admitted arms it again.
-/

namespace PlanBuddy.Workers

section Model

/-- What a worker is constructed with, and whether its queue is rate limited. -/
structure Config where
  batchSize : Nat
  rateLimited : Bool
  batchSize_pos : 0 < batchSize

/-- A poll past the circuit gate, by the await it has reached. `none` among the answers
is a rejected promise. -/
inductive Poll
  | limiting
  | limited (allowed : Bool)
  | checking (batch : Nat)
  | checked (batch : Nat) (drainRequested : Option Bool)
  | claiming (batch : Nat)
  | claimed (count : Option Nat)
  | ended
deriving DecidableEq

/-- A call of `stop()`, by the promise it awaits. -/
inductive Stop
  | draining
  | deregistering
  | resolved
deriving DecidableEq

structure Worker where
  running : Bool
  draining : Bool
  activeSlots : Nat
  /-- A timer is armed. -/
  pollTimer : Bool
  /-- `start()` has not reached its own `_schedulePoll(0)` yet. -/
  starting : Bool
  polls : List Poll
  stops : List Stop
deriving DecidableEq

/-- `atomicClaim` is called by a poll, and returns to it with a number of items. -/
inductive Event
  | begun (index : Nat)
  | returned (index count : Nat)
deriving DecidableEq

inductive Action
  | start
  | wakeup
  | timeout (admitted : Bool) (concurrency : Nat)
  | acquireRateLimit (index : Nat) (allowed : Bool)
  | selectDrain (index : Nat) (drainRequested : Option Bool)
  | claim (index : Nat) (count : Option Nat)
  | resume (index : Nat) (concurrency : Nat)
  | finish
  | stop
  | drain
  | deregister (index : Nat)

/-- A worker that listens and has done nothing yet. -/
def Worker.listening : Worker where
  running := true
  draining := false
  activeSlots := 0
  pollTimer := false
  starting := true
  polls := []
  stops := []

def schedulePoll (worker : Worker) : Worker := { worker with pollTimer := true }

def triggerImmediatePoll (worker : Worker) : Worker :=
  if worker.running = false ∨ worker.draining = true then worker
  else { worker with pollTimer := true }

/-- The check for a free slot, and the claim it leads to. -/
def seekSlots (config : Config) (concurrency activeSlots : Nat) : Poll :=
  let available := concurrency - activeSlots
  if available = 0 then .ended else .checking (min available config.batchSize)

/-- `_poll` from an answered await to the next one, with the number of items it starts. -/
def Poll.resume (config : Config) (concurrency activeSlots : Nat) : Poll → Option (Poll × Nat)
  | .limited false => some (.ended, 0)
  | .limited true => some (seekSlots config concurrency activeSlots, 0)
  | .checked batch (some false) => some (.claiming batch, 0)
  | .checked _ _ => some (.ended, 0)
  | .claimed count => some (.ended, count.getD 0)
  | _ => none

/-- What a caller of `atomicClaim` sees of a continuation. -/
def Poll.observed (index : Nat) : Poll → Poll → List Event
  | _, .checking _ => [.begun index]
  | .checked _ (some true), _ => [.returned index 0]
  | .claimed (some count), _ => [.returned index count]
  | _, _ => []

/-- A poll is resumed. Each item takes a slot; a poll that ends arms the timer. -/
def resumePoll (config : Config) (index concurrency : Nat) (worker : Worker) :
    Option (Worker × List Event) := do
  let poll ← worker.polls[index]?
  let (next, started) ← poll.resume config concurrency worker.activeSlots
  some ({ worker with
    activeSlots := worker.activeSlots + started
    pollTimer := worker.pollTimer || decide (next = .ended)
    polls := worker.polls.set index next }, poll.observed index next)

/-- `_poll` up to its first await, or through the check for slots where there is none. -/
def poll (config : Config) (admitted : Bool) (concurrency : Nat) (worker : Worker) :
    Option (Worker × List Event) :=
  if worker.running = false then some (worker, [])
  else if worker.draining = true ∨ admitted = false then some (schedulePoll worker, [])
  else if config.rateLimited then
    some ({ worker with polls := worker.polls ++ [.limiting] }, [])
  else
    resumePoll config worker.polls.length concurrency
      { worker with polls := worker.polls ++ [.limited true] }

/-- `_drain` answers at once when no item is in flight. -/
def stop (worker : Worker) : Worker :=
  { worker with
    running := false
    pollTimer := false
    stops := worker.stops ++ [if worker.activeSlots = 0 then .deregistering else .draining] }

def Stop.release : Stop → Stop
  | .draining => .deregistering
  | later => later

def notifyDrainIfIdle (worker : Worker) : Worker :=
  if worker.activeSlots = 0 then { worker with stops := worker.stops.map Stop.release } else worker

def setPoll (index : Nat) (next : Poll) (worker : Worker) : Worker :=
  { worker with polls := worker.polls.set index next }

def step (config : Config) (worker : Worker) : Action → Option (Worker × List Event)
  | .start =>
    if worker.starting then some (schedulePoll { worker with starting := false }, []) else none
  | .wakeup => some (triggerImmediatePoll worker, [])
  | .timeout admitted concurrency =>
    if worker.pollTimer then poll config admitted concurrency { worker with pollTimer := false }
    else none
  | .acquireRateLimit index allowed =>
    match worker.polls[index]? with
    | some .limiting => some (setPoll index (.limited allowed) worker, [])
    | _ => none
  | .selectDrain index drainRequested =>
    match worker.polls[index]? with
    | some (.checking batch) => some (setPoll index (.checked batch drainRequested) worker, [])
    | _ => none
  | .claim index count =>
    match worker.polls[index]? with
    | some (.claiming batch) =>
      if count.getD 0 ≤ batch then some (setPoll index (.claimed count) worker, []) else none
    | _ => none
  | .resume index concurrency => resumePoll config index concurrency worker
  | .finish =>
    if worker.activeSlots = 0 then none
    else some (notifyDrainIfIdle { worker with activeSlots := worker.activeSlots - 1 }, [])
  | .stop => some (stop worker, [])
  | .drain => some ({ worker with draining := true }, [])
  | .deregister index =>
    match worker.stops[index]? with
    | some .deregistering => some ({ worker with stops := worker.stops.set index .resolved }, [])
    | _ => none

end Model

section Queues

/-- The queue of booking expiries: batches of a hundred, no rate limit. -/
def expiryConfig : Config where
  batchSize := 100
  rateLimited := false
  batchSize_pos := by decide

/-- The queue of refund retries: batches of ten, under the limit of its provider. -/
def refundConfig : Config where
  batchSize := 10
  rateLimited := true
  batchSize_pos := by decide

/-- The queue of outbox deliveries: batches of a hundred, no rate limit. -/
def relayConfig : Config where
  batchSize := 100
  rateLimited := false
  batchSize_pos := by decide

end Queues

section Steps

/-- A statement executed for a poll. The claim returns at most its batch. -/
inductive Answers (index : Nat) : Action → Poll → Poll → Prop
  | limited (allowed : Bool) :
      Answers index (.acquireRateLimit index allowed) .limiting (.limited allowed)
  | checked (batch : Nat) (drainRequested : Option Bool) :
      Answers index (.selectDrain index drainRequested) (.checking batch)
        (.checked batch drainRequested)
  | claimed (batch : Nat) (count : Option Nat) (bounded : count.getD 0 ≤ batch) :
      Answers index (.claim index count) (.claiming batch) (.claimed count)

/-- The poll that moves in this step computes its free slots. -/
def seeks (config : Config) (worker : Worker) : Action → Bool
  | .timeout admitted _ =>
    admitted && worker.running && !worker.draining && !config.rateLimited
  | .resume index _ => decide (worker.polls[index]? = some (.limited true))
  | _ => false

/-- The concurrency that the controller answers in this step. -/
def Action.concurrency : Action → Nat
  | .timeout _ concurrency | .resume _ concurrency => concurrency
  | _ => 0

/-- All that a step can do, up to the timer and `start()`. -/
inductive Steps (config : Config) (worker : Worker) :
    Action → Worker → List Event → Prop
  | timed (action : Action) (armed starting : Bool) :
      Steps config worker action { worker with pollTimer := armed, starting } []
  | joined (concurrency : Nat) (runs : worker.running = true) (serves : worker.draining = false) :
      Steps config worker (.timeout true concurrency)
        { worker with pollTimer := false, polls := worker.polls ++ [.limiting] } []
  | sought (concurrency : Nat) (armed : Bool) (runs : worker.running = true)
      (serves : worker.draining = false) (unlimited : config.rateLimited = false) (next : Poll)
      (same : next = seekSlots config concurrency worker.activeSlots) :
      Steps config worker (.timeout true concurrency)
        { worker with pollTimer := armed, polls := worker.polls ++ [next] }
        ((Poll.limited true).observed worker.polls.length next)
  | answered (action : Action) (index : Nat) (before after : Poll)
      (stored : worker.polls[index]? = some before) (answers : Answers index action before after) :
      Steps config worker action (setPoll index after worker) []
  | resumed (index concurrency : Nat) (armed : Bool) (before after : Poll) (started : Nat)
      (stored : worker.polls[index]? = some before)
      (continues : before.resume config concurrency worker.activeSlots = some (after, started)) :
      Steps config worker (.resume index concurrency)
        { worker with
          activeSlots := worker.activeSlots + started
          pollTimer := armed
          polls := worker.polls.set index after }
        (before.observed index after)
  | finished (busy : 0 < worker.activeSlots) :
      Steps config worker .finish
        (notifyDrainIfIdle { worker with activeSlots := worker.activeSlots - 1 }) []
  | stopped : Steps config worker .stop (stop worker) []
  | drained : Steps config worker .drain { worker with draining := true } []
  | deregistered (index : Nat) (stored : worker.stops[index]? = some .deregistering) :
      Steps config worker (.deregister index)
        { worker with stops := worker.stops.set index .resolved } []

variable {config : Config} {worker next : Worker} {observed : List Event}

/-- A poll that goes on has been answered. -/
theorem resumePoll_cases {index concurrency : Nat}
    (resumed : resumePoll config index concurrency worker = some (next, observed)) :
    ∃ before after started armed, worker.polls[index]? = some before ∧
      before.resume config concurrency worker.activeSlots = some (after, started) ∧
      next = { worker with
        activeSlots := worker.activeSlots + started
        pollTimer := armed
        polls := worker.polls.set index after } ∧
      observed = before.observed index after := by
  simp only [resumePoll, Option.bind_eq_bind, Option.bind_eq_some_iff, Prod.exists,
    Option.some.injEq, Prod.mk.injEq] at resumed
  obtain ⟨before, stored, after, started, continues, rfl, rfl⟩ := resumed
  exact ⟨before, after, started, _, stored, continues, rfl, rfl⟩

/-- A step is one of these. -/
theorem step_cases {action : Action} (stepped : step config worker action = some (next, observed)) :
    Steps config worker action next observed := by
  cases action with
  | start =>
    simp only [step, Option.ite_none_right_eq_some] at stepped
    obtain ⟨-, same⟩ := stepped
    cases same
    exact .timed _ true false
  | wakeup =>
    simp only [step, Option.some.injEq, Prod.mk.injEq, triggerImmediatePoll] at stepped
    obtain ⟨rfl, rfl⟩ := stepped
    split
    · exact .timed _ worker.pollTimer worker.starting
    · exact .timed _ true worker.starting
  | timeout admitted concurrency =>
    simp only [step, Option.ite_none_right_eq_some, poll] at stepped
    obtain ⟨-, polled⟩ := stepped
    split at polled
    · cases polled
      exact .timed _ false worker.starting
    · next runs =>
      split at polled
      · cases polled
        exact .timed _ true worker.starting
      · next serves =>
        simp only [not_or, Bool.not_eq_true, Bool.not_eq_false] at runs serves
        obtain ⟨serves, rfl⟩ := serves
        split at polled
        · cases polled
          exact .joined concurrency runs serves
        · next unlimited =>
          obtain ⟨before, after, started, armed, stored, continues, rfl, rfl⟩ :=
            resumePoll_cases polled
          obtain rfl : before = .limited true := by simpa using stored.symm
          simp only [Poll.resume, Option.some.injEq, Prod.mk.injEq] at continues
          obtain ⟨rfl, rfl⟩ := continues
          simpa using Steps.sought concurrency armed runs serves (by simpa using unlimited) _ rfl
  | acquireRateLimit index allowed =>
    simp only [step] at stepped
    split at stepped
    · next stored =>
      cases stepped
      exact .answered _ index _ _ stored (.limited allowed)
    · cases stepped
  | selectDrain index drainRequested =>
    simp only [step] at stepped
    split at stepped
    · next batch stored =>
      cases stepped
      exact .answered _ index _ _ stored (.checked batch drainRequested)
    · cases stepped
  | claim index count =>
    simp only [step] at stepped
    split at stepped
    · next batch stored =>
      split at stepped
      · next bounded =>
        cases stepped
        exact .answered _ index _ _ stored (.claimed batch count bounded)
      · cases stepped
    · cases stepped
  | resume index concurrency =>
    obtain ⟨before, after, started, armed, stored, continues, rfl, rfl⟩ := resumePoll_cases stepped
    exact .resumed index concurrency armed before after started stored continues
  | finish =>
    simp only [step, Option.ite_none_left_eq_some] at stepped
    obtain ⟨busy, same⟩ := stepped
    cases same
    exact .finished (Nat.pos_of_ne_zero busy)
  | stop =>
    cases stepped
    exact .stopped
  | drain =>
    cases stepped
    exact .drained
  | deregister index =>
    simp only [step] at stepped
    split at stepped
    · next stored =>
      cases stepped
      exact .deregistered index stored
    · cases stepped

end Steps

section Claims

variable {config : Config} {worker : Worker} {index batch count : Nat}

/-- The answer to the question whether to drain. -/
theorem step_selectDrain (drainRequested : Option Bool)
    (stored : worker.polls[index]? = some (.checking batch)) :
    step config worker (.selectDrain index drainRequested) =
      some (setPoll index (.checked batch drainRequested) worker, []) := by
  simp [step, stored]

/-- A poll that need not drain claims. -/
theorem step_checked (concurrency : Nat)
    (stored : worker.polls[index]? = some (.checked batch (some false))) :
    step config worker (.resume index concurrency) =
      some (setPoll index (.claiming batch) worker, []) := by
  simp [step, resumePoll, stored, Poll.resume, Poll.observed, setPoll]

/-- The answer to a claim. -/
theorem step_claim (fits : count ≤ batch)
    (stored : worker.polls[index]? = some (.claiming batch)) :
    step config worker (.claim index (some count)) =
      some (setPoll index (.claimed (some count)) worker, []) := by
  simp [step, stored, fits]

/-- The claimed rows are started. -/
theorem step_claimed (concurrency : Nat)
    (stored : worker.polls[index]? = some (.claimed (some count))) :
    step config worker (.resume index concurrency) = some ({ worker with
      activeSlots := worker.activeSlots + count
      pollTimer := true
      polls := worker.polls.set index .ended }, [.returned index count]) := by
  simp [step, resumePoll, stored, Poll.resume, Poll.observed]

end Claims

end PlanBuddy.Workers
