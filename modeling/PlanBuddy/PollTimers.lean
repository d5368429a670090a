import PlanBuddy.WorkerLoop

/-!
# The timers of the poll loop

The field `_pollTimer` holds the last timer that was set, whether it has fired since or
not. Every `setTimeout` of the loop follows a `clearTimeout` of that field, so at most one
timer is pending; every way out of a poll of a running worker sets one. Forgetting which
timer is pending gives the loop in which there is one timer, armed or not.

Delays are left out: a pending timer may fire at any moment.
-/

namespace PlanBuddy.PollTimers

open Workers (Config Poll Stop Event seekSlots)

section Model

/-- A worker with the timers of its poll loop. A timer is known by its number. -/
structure Worker where
  running : Bool
  draining : Bool
  activeSlots : Nat
  /-- `_pollTimer`. -/
  pollTimer : Option Nat
  /-- The timers set and neither fired nor cleared. -/
  pending : List Nat
  /-- How many timers were set. -/
  timers : Nat
  /-- `start()` has not reached its own `_schedulePoll(0)` yet. -/
  starting : Bool
  polls : List Poll
  stops : List Stop
deriving DecidableEq

/-- The query of `acquireRateLimit`: rejected, without a row, or with what it found. -/
inductive Deduction
  | rejected
  | noRow
  | row (allowed : Option Bool)
deriving DecidableEq

/-- `acquireRateLimit` fails open. -/
def acquireRateLimit : Deduction → Bool
  | .rejected => true
  | .noRow => true
  | .row allowed => allowed.getD true

inductive Action
  | start
  | wakeup
  | timeout (timer : Nat) (admitted : Bool) (concurrency : Nat)
  | acquireRateLimit (index : Nat) (deduction : Deduction)
  | selectDrain (index : Nat) (drainRequested : Option Bool)
  | claim (index : Nat) (count : Option Nat)
  | resume (index : Nat) (concurrency : Nat)
  | finish
  | stop
  | drain
  | deregister (index : Nat)

/-- A worker that listens and has done nothing yet. -/
def Worker.listening : Worker where
  running := true
  draining := false
  activeSlots := 0
  pollTimer := none
  pending := []
  timers := 0
  starting := true
  polls := []
  stops := []

/-- `if (this._pollTimer) clearTimeout(this._pollTimer)`: nothing where it has fired. -/
def clearPollTimer (worker : Worker) : Worker :=
  { worker with pending := worker.pending.filter fun timer => worker.pollTimer ≠ some timer }

/-- `this._pollTimer = setTimeout(() => this._poll(), …)`. -/
def setPollTimer (worker : Worker) : Worker :=
  { worker with
    pollTimer := some worker.timers
    pending := worker.pending ++ [worker.timers]
    timers := worker.timers + 1 }

def schedulePoll (worker : Worker) : Worker := setPollTimer (clearPollTimer worker)

def triggerImmediatePoll (worker : Worker) : Worker :=
  if worker.running = false ∨ worker.draining = true then worker
  else setPollTimer { clearPollTimer worker with pollTimer := none }

/-- A poll is resumed. Each item takes a slot; a poll that ends schedules the next. -/
def resumePoll (config : Config) (index concurrency : Nat) (worker : Worker) :
    Option (Worker × List Event) := do
  let poll ← worker.polls[index]?
  let (next, started) ← poll.resume config concurrency worker.activeSlots
  let worker := { worker with
    activeSlots := worker.activeSlots + started
    polls := worker.polls.set index next }
  some (if next = .ended then schedulePoll worker else worker, poll.observed index next)

/-- `_poll` up to its first await, or through the check for slots where there is none. -/
def poll (config : Config) (admitted : Bool) (concurrency : Nat) (worker : Worker) :
    Option (Worker × List Event) :=
  if worker.running = false then some (worker, [])
  else if worker.draining = true ∨ admitted = false then some (schedulePoll worker, [])
  else if config.rateLimited then
    some ({ worker with polls := worker.polls ++ [.limiting] }, [])
  else
    resumePoll config worker.polls.length concurrency
      { worker with polls := worker.polls ++ [.limited true] }

def stop (worker : Worker) : Worker :=
  { clearPollTimer worker with
    running := false
    stops := worker.stops ++ [if worker.activeSlots = 0 then .deregistering else .draining] }

def notifyDrainIfIdle (worker : Worker) : Worker :=
  if worker.activeSlots = 0 then { worker with stops := worker.stops.map Stop.release } else worker

def setPoll (index : Nat) (next : Poll) (worker : Worker) : Worker :=
  { worker with polls := worker.polls.set index next }

def step (config : Config) (worker : Worker) : Action → Option (Worker × List Event)
  | .start =>
    if worker.starting then some (schedulePoll { worker with starting := false }, []) else none
  | .wakeup => some (triggerImmediatePoll worker, [])
  | .timeout timer admitted concurrency =>
    if timer ∈ worker.pending then
      poll config admitted concurrency { worker with pending := worker.pending.erase timer }
    else none
  | .acquireRateLimit index deduction =>
    match worker.polls[index]? with
    | some .limiting =>
      some (setPoll index (.limited (PollTimers.acquireRateLimit deduction)) worker, [])
    | _ => none
  | .selectDrain index drainRequested =>
    match worker.polls[index]? with
    | some (.checking batch) => some (setPoll index (.checked batch drainRequested) worker, [])
    | _ => none
  | .claim index count =>
    match worker.polls[index]? with
    | some (.claiming batch) =>
      if count.getD 0 ≤ batch then some (setPoll index (.claimed count) worker, []) else none
    | _ => none
  | .resume index concurrency => resumePoll config index concurrency worker
  | .finish =>
    if worker.activeSlots = 0 then none
    else some (notifyDrainIfIdle { worker with activeSlots := worker.activeSlots - 1 }, [])
  | .stop => some (stop worker, [])
  | .drain => some ({ worker with draining := true }, [])
  | .deregister index =>
    match worker.stops[index]? with
    | some .deregistering => some ({ worker with stops := worker.stops.set index .resolved }, [])
    | _ => none

end Model

section Timers

variable {config : Config} {worker next : Worker} {observed : List Event}

/-- A pending timer is the one that the field holds. -/
def OneTimer (worker : Worker) : Prop :=
  worker.pending = [] ∨ ∃ timer, worker.pollTimer = some timer ∧ worker.pending = [timer]

/-- One timer at most is pending. -/
theorem OneTimer.length_le (one : OneTimer worker) : worker.pending.length ≤ 1 := by
  rcases one with none | ⟨timer, -, only⟩
  · simp [none]
  · simp [only]

/-- After it has been cleared there is none. -/
theorem OneTimer.cleared (one : OneTimer worker) : (clearPollTimer worker).pending = [] := by
  rcases one with none | ⟨timer, field, only⟩
  · simp [clearPollTimer, none]
  · simp [clearPollTimer, field, only]

/-- A timer that fires leaves none. -/
theorem OneTimer.fired (one : OneTimer worker) {timer : Nat} (fires : timer ∈ worker.pending) :
    worker.pending.erase timer = [] := by
  rcases one with none | ⟨held, -, only⟩
  · simp [none] at fires
  · obtain rfl : timer = held := by simpa [only] using fires
    simp [only]

/-- Where there is none, one may be set. -/
theorem OneTimer.set (none : worker.pending = []) : OneTimer (setPollTimer worker) :=
  .inr ⟨worker.timers, rfl, by simp [setPollTimer, none]⟩

/-- `_schedulePoll` replaces it. -/
theorem OneTimer.scheduled (one : OneTimer worker) : OneTimer (schedulePoll worker) :=
  .set one.cleared

/-- So does `_triggerImmediatePoll`. -/
theorem OneTimer.triggered (one : OneTimer worker) : OneTimer (triggerImmediatePoll worker) := by
  unfold triggerImmediatePoll
  split
  · exact one
  · exact .set one.cleared

/-- What an answer to a poll does; at its end the next one is scheduled. -/
theorem resumePoll_cases {index concurrency : Nat}
    (resumed : resumePoll config index concurrency worker = some (next, observed)) :
    ∃ before after started, worker.polls[index]? = some before ∧
      before.resume config concurrency worker.activeSlots = some (after, started) ∧
      observed = before.observed index after ∧
      next = (if after = .ended then schedulePoll else id) { worker with
        activeSlots := worker.activeSlots + started
        polls := worker.polls.set index after } := by
  simp only [resumePoll, Option.bind_eq_bind, Option.bind_eq_some_iff, Prod.exists,
    Option.some.injEq, Prod.mk.injEq] at resumed
  obtain ⟨before, stored, after, started, continues, rfl, rfl⟩ := resumed
  refine ⟨before, after, started, stored, continues, rfl, ?_⟩
  split <;> rfl

/-- It leaves one timer at most. -/
theorem OneTimer.resumed (one : OneTimer worker) {index concurrency : Nat}
    (resumed : resumePoll config index concurrency worker = some (next, observed)) :
    OneTimer next := by
  obtain ⟨before, after, started, -, -, -, rfl⟩ := resumePoll_cases resumed
  split
  · exact OneTimer.scheduled one
  · exact one

/-- So does the beginning of a poll. -/
theorem OneTimer.polled (one : OneTimer worker) {admitted : Bool} {concurrency : Nat}
    (polled : poll config admitted concurrency worker = some (next, observed)) :
    OneTimer next := by
  unfold poll at polled
  split at polled
  · cases polled
    exact one
  · split at polled
    · cases polled
      exact one.scheduled
    · split at polled
      · cases polled
        exact one
      · refine OneTimer.resumed ?_ polled
        exact one

/-- Every step keeps at most one timer pending. -/
theorem OneTimer.step (one : OneTimer worker) {action : Action}
    (stepped : step config worker action = some (next, observed)) : OneTimer next := by
  cases action with
  | start =>
    simp only [PollTimers.step, Option.ite_none_right_eq_some] at stepped
    cases stepped.2
    exact OneTimer.scheduled one
  | wakeup =>
    cases stepped
    exact one.triggered
  | timeout timer admitted concurrency =>
    simp only [PollTimers.step, Option.ite_none_right_eq_some] at stepped
    exact OneTimer.polled (.inl (one.fired stepped.1)) stepped.2
  | acquireRateLimit index deduction =>
    simp only [PollTimers.step] at stepped
    split at stepped
    · cases stepped
      exact one
    · cases stepped
  | selectDrain index drainRequested =>
    simp only [PollTimers.step] at stepped
    split at stepped
    · cases stepped
      exact one
    · cases stepped
  | claim index count =>
    simp only [PollTimers.step] at stepped
    split at stepped
    · simp only [Option.ite_none_right_eq_some] at stepped
      cases stepped.2
      exact one
    · cases stepped
  | resume index concurrency => exact one.resumed stepped
  | finish =>
    simp only [PollTimers.step, Option.ite_none_left_eq_some, notifyDrainIfIdle] at stepped
    cases stepped.2
    split <;> exact one
  | stop =>
    cases stepped
    exact .inl one.cleared
  | drain =>
    cases stepped
    exact one
  | deregister index =>
    simp only [PollTimers.step] at stepped
    split at stepped
    · cases stepped
      exact one
    · cases stepped

end Timers

section Liveness

variable {config : Config} {worker next : Worker} {observed : List Event}

/-- A timer is pending, or a poll has not reached its last `_schedulePoll`. -/
def Alive (worker : Worker) : Prop :=
  worker.pending ≠ [] ∨ ∃ poll ∈ worker.polls, poll ≠ .ended

/-- A scheduled worker polls again. -/
theorem alive_scheduled : Alive (schedulePoll worker) :=
  .inl (by simp [schedulePoll, setPollTimer])

/-- A poll that is answered, or resumed short of its end, has not ended. -/
theorem alive_set {index : Nat} {before after : Poll}
    (stored : worker.polls[index]? = some before) (continues : after ≠ .ended) :
    Alive (setPoll index after worker) :=
  .inr ⟨after, List.mem_of_getElem? (Parties.set_moved after stored), continues⟩

/-- So does one whose poll goes on or ends. -/
theorem alive_resumed {index concurrency : Nat}
    (resumed : resumePoll config index concurrency worker = some (next, observed)) :
    Alive next := by
  obtain ⟨before, after, started, stored, -, -, rfl⟩ := resumePoll_cases resumed
  split
  · exact alive_scheduled
  · next continues =>
    exact .inr ⟨after, List.mem_of_getElem? (Parties.set_moved after stored), continues⟩

/-- Between its first `_schedulePoll` and `stop()` the loop goes on. -/
def Lives (worker : Worker) : Prop :=
  worker.running = true → worker.starting = false → Alive worker

/-- A worker with a timer or a poll lives. -/
theorem Alive.lives (alive : Alive worker) : Lives worker := fun _ _ => alive

/-- A wakeup does not end it. -/
theorem Lives.triggered (lives : Lives worker) : Lives (triggerImmediatePoll worker) := by
  unfold triggerImmediatePoll
  split
  · exact lives
  · exact Alive.lives (.inl (by simp [setPollTimer]))

/-- Whichever way a poll of a running worker goes, it awaits an answer or has scheduled
the next one. -/
theorem lives_polled {admitted : Bool} {concurrency : Nat}
    (polled : poll config admitted concurrency worker = some (next, observed)) : Lives next := by
  unfold poll at polled
  split at polled
  · next stopped =>
    cases polled
    intro runs
    exact absurd (stopped.symm.trans runs) nofun
  · split at polled
    · cases polled
      exact alive_scheduled.lives
    · split at polled
      · cases polled
        exact Alive.lives (.inr ⟨.limiting, by simp, nofun⟩)
      · exact (alive_resumed polled).lives

/-- Every step of a worker keeps its loop going. -/
theorem Lives.step (lives : Lives worker) {action : Action}
    (stepped : step config worker action = some (next, observed)) : Lives next := by
  cases action with
  | start =>
    simp only [PollTimers.step, Option.ite_none_right_eq_some] at stepped
    cases stepped.2
    exact alive_scheduled.lives
  | wakeup =>
    cases stepped
    exact lives.triggered
  | timeout timer admitted concurrency =>
    simp only [PollTimers.step, Option.ite_none_right_eq_some] at stepped
    exact lives_polled stepped.2
  | acquireRateLimit index _ | selectDrain index _ =>
    simp only [PollTimers.step] at stepped
    split at stepped
    · next stored =>
      cases stepped
      exact Alive.lives (alive_set stored (by nofun))
    · cases stepped
  | claim index count =>
    simp only [PollTimers.step] at stepped
    split at stepped
    · next stored =>
      simp only [Option.ite_none_right_eq_some] at stepped
      cases stepped.2
      exact Alive.lives (alive_set stored (by nofun))
    · cases stepped
  | resume index concurrency => exact (alive_resumed stepped).lives
  | finish =>
    simp only [PollTimers.step, Option.ite_none_left_eq_some, notifyDrainIfIdle] at stepped
    cases stepped.2
    split <;> exact lives
  | stop =>
    cases stepped
    intro runs
    cases runs
  | drain =>
    cases stepped
    exact lives
  | deregister index =>
    simp only [PollTimers.step] at stepped
    split at stepped
    · cases stepped
      exact lives
    · cases stepped

end Liveness

section Runs

variable {config : Config} {worker : Worker} {history : List Event}

/-- No run has two timers. -/
theorem run_oneTimer (run : Run (takes (step config) anyAction) .listening history worker) :
    OneTimer worker := by
  refine run.invariant (fun _ worker => OneTimer worker) (.inl rfl) ?_
  rintro history observed state next - one ⟨action, -, stepped⟩
  exact one.step stepped

/-- No run that is not stopped ends. -/
theorem run_lives (run : Run (takes (step config) anyAction) .listening history worker) :
    Lives worker := by
  refine run.invariant (fun _ worker => Lives worker) (by nofun) ?_
  rintro history observed state next - lives ⟨action, -, stepped⟩
  exact lives.step stepped

/-- The loop never dies, and never forks: no two timers are pending. -/
theorem poll_loop_lives
    (run : Run (takes (step config) anyAction) .listening history worker) :
    worker.pending.length ≤ 1 ∧
      (worker.running = true → worker.starting = false →
        worker.pending ≠ [] ∨ ∃ poll ∈ worker.polls, poll ≠ .ended) :=
  ⟨(run_oneTimer run).length_le, run_lives run⟩

/-- A wakeup replaces the timer while a poll awaits the rate limit, and the poll is refused. -/
theorem poll_loop_lives_refused :
    ∃ history worker, Run (takes (step Workers.refundConfig) anyAction) .listening history worker ∧
      worker.polls = [.ended] ∧ worker.pending = [2] ∧ worker.pending.length ≤ 1 := by
  have run : Run (takes (step Workers.refundConfig) anyAction) .listening _ _ :=
    run_of_schedule [.start, .timeout 0 true 5, .wakeup, .acquireRateLimit 0 (.row (some false)),
      .resume 0 5] rfl
  exact ⟨_, _, run, rfl, rfl, (poll_loop_lives run).1⟩

end Runs

section Refinement

variable {config : Config} {worker next : Worker} {observed : List Event}

/-- The worker with one timer, armed or not. -/
def Worker.view (worker : Worker) : Workers.Worker where
  running := worker.running
  draining := worker.draining
  activeSlots := worker.activeSlots
  pollTimer := !worker.pending.isEmpty
  starting := worker.starting
  polls := worker.polls
  stops := worker.stops

def Action.view : Action → Workers.Action
  | .start => .start
  | .wakeup => .wakeup
  | .timeout _ admitted concurrency => .timeout admitted concurrency
  | .acquireRateLimit index deduction =>
    .acquireRateLimit index (PollTimers.acquireRateLimit deduction)
  | .selectDrain index drainRequested => .selectDrain index drainRequested
  | .claim index count => .claim index count
  | .resume index concurrency => .resume index concurrency
  | .finish => .finish
  | .stop => .stop
  | .drain => .drain
  | .deregister index => .deregister index

/-- Without the timers `_schedulePoll` is that of the other model. -/
theorem schedulePoll_view : (schedulePoll worker).view = Workers.schedulePoll worker.view := by
  simp [Worker.view, schedulePoll, setPollTimer, clearPollTimer, Workers.schedulePoll]

/-- So is `_triggerImmediatePoll`. -/
theorem triggerImmediatePoll_view :
    (triggerImmediatePoll worker).view = Workers.triggerImmediatePoll worker.view := by
  unfold triggerImmediatePoll Workers.triggerImmediatePoll
  by_cases idle : worker.running = false ∨ worker.draining = true
  · simp only [Worker.view, idle, if_true]
  · simp [Worker.view, idle, setPollTimer, clearPollTimer]

/-- An answer to a poll is, too. -/
theorem resumePoll_view {index concurrency : Nat}
    (resumed : resumePoll config index concurrency worker = some (next, observed)) :
    Workers.resumePoll config index concurrency worker.view = some (next.view, observed) := by
  obtain ⟨before, after, started, stored, continues, rfl, rfl⟩ := resumePoll_cases resumed
  simp only [Workers.resumePoll, Worker.view, stored, continues, Option.bind_eq_bind,
    Option.bind_some, Option.some.injEq, Prod.mk.injEq, and_true]
  split
  · next ends => simp [ends, schedulePoll, setPollTimer, clearPollTimer]
  · next goesOn => simp [goesOn]

/-- And the beginning of one. -/
theorem poll_view {admitted : Bool} {concurrency : Nat}
    (polled : poll config admitted concurrency worker = some (next, observed)) :
    Workers.poll config admitted concurrency worker.view = some (next.view, observed) := by
  unfold poll at polled
  unfold Workers.poll
  split at polled
  · next stopped =>
    cases polled
    rw [if_pos (by exact stopped)]
  · next runs =>
    rw [if_neg (by exact runs)]
    split at polled
    · next refused =>
      cases polled
      rw [if_pos (by exact refused), schedulePoll_view]
    · next serves =>
      rw [if_neg (by exact serves)]
      split at polled
      · next limited =>
        cases polled
        rw [if_pos limited]
        rfl
      · next unlimited =>
        rw [if_neg unlimited]
        exact resumePoll_view polled

/-- Where at most one timer is pending, a step is one of the loop with one timer. -/
theorem step_view (one : OneTimer worker) {action : Action}
    (stepped : step config worker action = some (next, observed)) :
    Workers.step config worker.view action.view = some (next.view, observed) := by
  cases action with
  | start =>
    simp only [step, Option.ite_none_right_eq_some] at stepped
    obtain ⟨starting, same⟩ := stepped
    cases same
    simp only [Action.view, Workers.step, schedulePoll_view]
    rw [if_pos (by exact starting)]
    rfl
  | wakeup =>
    cases stepped
    simp only [Action.view, Workers.step, triggerImmediatePoll_view]
  | timeout timer admitted concurrency =>
    simp only [step, Option.ite_none_right_eq_some] at stepped
    obtain ⟨fires, polled⟩ := stepped
    have armed : worker.view.pollTimer = true := by
      simpa [Worker.view] using List.ne_nil_of_mem fires
    have unarmed : Worker.view { worker with pending := worker.pending.erase timer } =
        { worker.view with pollTimer := false } := by
      simp [Worker.view, one.fired fires]
    simp only [Action.view, Workers.step, armed, if_true, ← unarmed]
    exact poll_view polled
  | acquireRateLimit index deduction =>
    simp only [step] at stepped
    split at stepped
    · next stored =>
      cases stepped
      have here : worker.view.polls[index]? = some .limiting := stored
      simp only [Action.view, Workers.step, here]
      rfl
    · cases stepped
  | selectDrain index drainRequested =>
    simp only [step] at stepped
    split at stepped
    · next batch stored =>
      cases stepped
      have here : worker.view.polls[index]? = some (.checking batch) := stored
      simp only [Action.view, Workers.step, here]
      rfl
    · cases stepped
  | claim index count =>
    simp only [step] at stepped
    split at stepped
    · next batch stored =>
      simp only [Option.ite_none_right_eq_some] at stepped
      obtain ⟨bounded, same⟩ := stepped
      cases same
      have here : worker.view.polls[index]? = some (.claiming batch) := stored
      simp only [Action.view, Workers.step, here, bounded, if_true]
      rfl
    · cases stepped
  | resume index concurrency => exact resumePoll_view stepped
  | finish =>
    simp only [step, Option.ite_none_left_eq_some] at stepped
    obtain ⟨busy, same⟩ := stepped
    cases same
    simp only [Action.view, Workers.step]
    rw [if_neg (by exact busy)]
    unfold notifyDrainIfIdle Workers.notifyDrainIfIdle
    by_cases idle : worker.activeSlots - 1 = 0
    · simp only [Worker.view, idle, if_true]
    · simp only [Worker.view, idle, if_false]
  | stop =>
    cases stepped
    have cleared : (stop worker).pending = [] := one.cleared
    simp only [Action.view, Workers.step, Worker.view, cleared]
    rfl
  | drain =>
    cases stepped
    rfl
  | deregister index =>
    simp only [step] at stepped
    split at stepped
    · next stored =>
      cases stepped
      have here : worker.view.stops[index]? = some .deregistering := stored
      simp only [Action.view, Workers.step, here]
      rfl
    · cases stepped

/-- A run of the worker is one of the loop with one timer, with the same events. -/
theorem run_view {history : List Event}
    (run : Run (takes (step config) anyAction) .listening history worker) :
    Run (takes (Workers.step config) anyAction) .listening history worker.view := by
  have simulated : Run (takes (Workers.step config) anyAction) Worker.listening.view
      (history.filterMap some) worker.view := by
    refine run.simulates Worker.view some ?_
    rintro history observed state next before ⟨action, -, stepped⟩
    rw [List.filterMap_some]
    exact ⟨action.view, trivial, step_view (run_oneTimer before) stepped⟩
  rwa [List.filterMap_some] at simulated

end Refinement

end PlanBuddy.PollTimers
