import Mathlib.Logic.Function.Basic
import Mathlib.Tactic.Linarith
import PlanBuddy.Queues
import PlanBuddy.Runs

/-!
# Graceful shutdown

`gracefulShutdown` of `server.js` drains the requests, closes the queues, the Redis connections
and the database, one phase after the other, and exits with code 0. A phase ends when its own
work has ended or when its timer fires. Work that a timer cut off goes on in the background: the
task of each phase closes its resources one by one, and each waits for the one before it to
settle, whichever phase is current by then. A second signal is ignored. An unhandled rejection or
an uncaught exception ends the process a tenth of a second later, with code 1.

Which resources have something to close is a parameter (`services/bcryptQueue` is not in the
repository), and so is how late a timer can fire. What resources do and when they settle is left
open; neither outcome stops a task. `SHUTDOWN_TIMEOUT_MS` is used nowhere.
-/

namespace PlanBuddy.Shutdown

inductive Phase where
  | requests
  | queues
  | redis
  | database
deriving DecidableEq

inductive Resource where
  | bcryptQueue
  | queues
  | rateLimitRedis
  | cacheRedis
  | queueRedis
  | database
deriving DecidableEq

/-- `REQUEST_DRAIN_TIMEOUT_MS`, `QUEUE_DRAIN_TIMEOUT_MS`, `REDIS_CLOSE_TIMEOUT_MS` and
`DB_CLOSE_TIMEOUT_MS`. -/
def Phase.timeoutMs : Phase → Nat
  | .requests => 30000
  | .queues => 30000
  | .redis => 10000
  | .database => 10000

def Phase.index : Phase → Nat
  | .requests => 0
  | .queues => 1
  | .redis => 2
  | .database => 3

/-- What `drainQueues`, `closeRedis` and `closeDatabase` close, in this order. -/
def Phase.resources : Phase → List Resource
  | .requests => []
  | .queues => [.bcryptQueue, .queues]
  | .redis => [.rateLimitRedis, .cacheRedis, .queueRedis]
  | .database => [.database]

inductive Stage where
  | serving
  | closing (phase : Phase) (since : Time)
  | exited (code : Nat)
deriving DecidableEq

/-- The tasks hold the resources that have not settled; the first of them is being closed. -/
structure Process where
  now : Time
  stage : Stage
  shutdownStartTime : Option Time
  connections : Nat
  tasks : Phase → List Resource
  doomed : Option Time

inductive Action where
  | elapse (later : Time)
  | connect
  | disconnect
  | signal
  | serverClosed
  | settle (phase : Phase)
  | timeout
  | fault
  | die
deriving DecidableEq

inductive Event where
  | began
  | ignored
  | drained
  | invoked (phase : Phase) (resource : Resource)
  | settled (phase : Phase) (resource : Resource)
  | timedOut (phase : Phase)
  | faulted
  | exited (code : Nat)
deriving DecidableEq

section Step

variable (available : Resource → Bool) (lag : Nat)

def Process.exit (process : Process) (code : Nat) : Process × List Event :=
  ({ process with stage := .exited code }, [.exited code])

/-- A phase with nothing to close ends at once. -/
def Process.enter (process : Process) (phase : Phase) (otherwise : Process × List Event) :
    Process × List Event :=
  match phase.resources.filter available with
  | [] => otherwise
  | first :: others =>
    ({ process with
      stage := .closing phase process.now
      tasks := Function.update process.tasks phase (first :: others) }, [.invoked phase first])

def Process.enterDatabase (process : Process) : Process × List Event :=
  process.enter available .database (process.exit 0)

def Process.enterRedis (process : Process) : Process × List Event :=
  process.enter available .redis (process.enterDatabase available)

def Process.enterQueues (process : Process) : Process × List Event :=
  process.enter available .queues (process.enterRedis available)

/-- What comes after a phase. -/
def Process.proceed (process : Process) : Phase → Process × List Event
  | .requests => process.enterQueues available
  | .queues => process.enterRedis available
  | .redis => process.enterDatabase available
  | .database => process.exit 0

/-- Until when no timer is overdue. -/
def Process.inTime (process : Process) (later : Time) : Bool :=
  (match process.stage with
    | .closing phase since => decide (later ≤ since + phase.timeoutMs + lag)
    | _ => true) &&
  process.doomed.all fun due => decide (later ≤ due + lag)

/-- The first resource of a task has settled; the next one is closed, or the task ends. -/
def Process.settle (process : Process) (phase : Phase) : Option (Process × List Event) :=
  match process.tasks phase with
  | [] => none
  | resource :: next :: others =>
    some ({ process with tasks := Function.update process.tasks phase (next :: others) },
      [.settled phase resource, .invoked phase next])
  | [resource] =>
    let settled := { process with tasks := Function.update process.tasks phase [] }
    match process.stage with
    | .closing current _ =>
      if current = phase then
        let (next, observed) := settled.proceed available phase
        some (next, .settled phase resource :: observed)
      else some (settled, [.settled phase resource])
    | _ => some (settled, [.settled phase resource])

/-- After the exit nothing happens. -/
def step (process : Process) (action : Action) : Option (Process × List Event) :=
  match process.stage, action with
  | .exited _, _ => none
  | _, .elapse later =>
    if process.now ≤ later ∧ process.inTime lag later = true then
      some ({ process with now := later }, [])
    else none
  | .serving, .connect => some ({ process with connections := process.connections + 1 }, [])
  | _, .connect => none
  | _, .disconnect =>
    if 0 < process.connections then
      some ({ process with connections := process.connections - 1 }, [])
    else none
  | .serving, .signal =>
    some ({ process with
      stage := .closing .requests process.now
      shutdownStartTime := some process.now }, [.began])
  | .closing _ _, .signal => some (process, [.ignored])
  | .closing .requests _, .serverClosed =>
    if process.connections = 0 then
      let (next, observed) := process.proceed available .requests
      some (next, .drained :: observed)
    else none
  | _, .serverClosed => none
  | _, .settle phase => process.settle available phase
  | .closing phase since, .timeout =>
    if since + phase.timeoutMs ≤ process.now then
      let left := if phase = .requests then { process with connections := 0 } else process
      let (next, observed) := left.proceed available phase
      some (next, .timedOut phase :: observed)
    else none
  | .serving, .timeout => none
  | _, .fault =>
    some ({ process with doomed := some (process.doomed.getD (process.now + 100)) }, [.faulted])
  | _, .die =>
    if process.doomed.any (fun due => decide (due ≤ process.now)) then some (process.exit 1)
    else none

abbrev steps : Process → List Event → Process → Prop := takes (step available lag) anyAction

/-- A server that accepts connections. -/
def serving (now : Time) (connections : Nat) : Process :=
  ⟨now, .serving, none, connections, fun _ => [], none⟩

end Step

section Proceeding

variable {available : Resource → Bool} {process next : Process} {phase : Phase}
  {observed : List Event}

/-- All that can come after a phase: the next one that has something to close, or the exit. -/
inductive Proceeds (available : Resource → Bool) (process : Process) (phase : Phase) :
    Process → List Event → Prop
  | exits (idle : ∀ later : Phase, phase.index < later.index →
      later.resources.filter available = []) :
      Proceeds available process phase { process with stage := .exited 0 } [.exited 0]
  | enters (later : Phase) (after : phase.index < later.index)
      (idle : ∀ between : Phase, phase.index < between.index → between.index < later.index →
        between.resources.filter available = [])
      (first : Resource) (others : List Resource)
      (closes : later.resources.filter available = first :: others) :
      Proceeds available process phase
        { process with
          stage := .closing later process.now
          tasks := Function.update process.tasks later (first :: others) } [.invoked later first]

/-- A phase is entered when all phases between have nothing to close. -/
theorem enter_proceeds {later : Phase} {otherwise : Process × List Event}
    (after : phase.index < later.index)
    (idle : ∀ between : Phase, phase.index < between.index → between.index < later.index →
      between.resources.filter available = [])
    (skipped : later.resources.filter available = [] →
      Proceeds available process phase otherwise.1 otherwise.2) :
    Proceeds available process phase (process.enter available later otherwise).1
      (process.enter available later otherwise).2 := by
  unfold Process.enter
  cases closes : later.resources.filter available with
  | nil => exact skipped closes
  | cons first others => exact .enters later after idle first others closes

/-- The last phase begins after one with idle phases between. -/
theorem database_proceeds (earlier : phase.index < 3)
    (idle : ∀ between : Phase, phase.index < between.index → between.index < 3 →
      between.resources.filter available = []) :
    Proceeds available process phase (process.enterDatabase available).1
      (process.enterDatabase available).2 := by
  refine enter_proceeds earlier idle fun closed => .exits fun later after => ?_
  cases later with
  | database => exact closed
  | requests => exact idle .requests after (by decide)
  | queues => exact idle .queues after (by decide)
  | redis => exact idle .redis after (by decide)

/-- So does the one before it, or the last one in its place. -/
theorem redis_proceeds (earlier : phase.index < 2)
    (idle : ∀ between : Phase, phase.index < between.index → between.index < 2 →
      between.resources.filter available = []) :
    Proceeds available process phase (process.enterRedis available).1
      (process.enterRedis available).2 := by
  refine enter_proceeds earlier idle fun closed =>
    database_proceeds (Nat.lt_succ_of_lt earlier) fun between after before => ?_
  cases between with
  | redis => exact closed
  | requests => exact idle .requests after (by decide)
  | queues => exact idle .queues after (by decide)
  | database => exact absurd before (by decide)

/-- Behind any phase comes the next one with resources, or the exit. -/
theorem proceeds (available : Resource → Bool) (process : Process) (phase : Phase) :
    Proceeds available process phase (process.proceed available phase).1
      (process.proceed available phase).2 := by
  cases phase with
  | requests =>
    have first : Phase.requests.index < Phase.queues.index := by decide
    refine enter_proceeds first ?_ fun closed => redis_proceeds (by decide) ?_
    · exact fun between after before => absurd after (by simp [Phase.index] at before ⊢; omega)
    · intro between after before
      cases between with
      | queues => exact closed
      | requests => exact absurd after (by decide)
      | redis => exact absurd before (by decide)
      | database => exact absurd before (by decide)
  | queues =>
    refine redis_proceeds (by decide) fun between after before => ?_
    exact absurd after (by simp [Phase.index] at before ⊢; omega)
  | redis =>
    refine database_proceeds (by decide) fun between after before => ?_
    exact absurd after (by simp [Phase.index] at before ⊢; omega)
  | database =>
    refine .exits fun later after => absurd after ?_
    cases later <;> decide

end Proceeding

section Steps

variable {available : Resource → Bool} {lag : Nat} {process next : Process} {observed : List Event}

/-- The timer of the requests' phase also destroys the connections that are left. -/
def Process.cut (process : Process) (phase : Phase) : Process :=
  if phase = .requests then { process with connections := 0 } else process

/-- All that one step can do. -/
inductive Steps (available : Resource → Bool) (lag : Nat) (process : Process) :
    Process → List Event → Prop
  | elapsed (later : Time) (forward : process.now ≤ later)
      (due : process.inTime lag later = true) :
      Steps available lag process { process with now := later } []
  | connected (count : Nat) (fewer : process.stage = .serving ∨ count ≤ process.connections) :
      Steps available lag process { process with connections := count } []
  | began (serves : process.stage = .serving) :
      Steps available lag process
        { process with
          stage := .closing .requests process.now
          shutdownStartTime := some process.now } [.began]
  | ignored : Steps available lag process process [.ignored]
  | closed (since : Time) (current : process.stage = .closing .requests since)
      (empty : process.connections = 0) {next : Process} {observed : List Event}
      (proceeds : Proceeds available process .requests next observed) :
      Steps available lag process next (.drained :: observed)
  | settled (phase : Phase) (resource following : Resource) (others : List Resource)
      (closing : process.tasks phase = resource :: following :: others) :
      Steps available lag process
        { process with tasks := Function.update process.tasks phase (following :: others) }
        [.settled phase resource, .invoked phase following]
  | settledLate (phase : Phase) (resource : Resource) (closing : process.tasks phase = [resource])
      (passed : ∀ since, process.stage ≠ .closing phase since) :
      Steps available lag process
        { process with tasks := Function.update process.tasks phase [] } [.settled phase resource]
  | settledLast (phase : Phase) (since : Time) (resource : Resource)
      (closing : process.tasks phase = [resource])
      (current : process.stage = .closing phase since) {next : Process} {observed : List Event}
      (proceeds : Proceeds available
        { process with tasks := Function.update process.tasks phase [] } phase next observed) :
      Steps available lag process next (.settled phase resource :: observed)
  | timedOut (phase : Phase) (since : Time) (current : process.stage = .closing phase since)
      (due : since + phase.timeoutMs ≤ process.now) {next : Process} {observed : List Event}
      (proceeds : Proceeds available (process.cut phase) phase next observed) :
      Steps available lag process next (.timedOut phase :: observed)
  | faulted :
      Steps available lag process
        { process with doomed := some (process.doomed.getD (process.now + 100)) } [.faulted]
  | died (due : Time) (doomed : process.doomed = some due) (reached : due ≤ process.now) :
      Steps available lag process { process with stage := .exited 1 } [.exited 1]

/-- What a task does when its first resource has settled. -/
theorem settle_cases {phase : Phase}
    (settled : process.settle available phase = some (next, observed)) :
    Steps available lag process next observed := by
  unfold Process.settle at settled
  split at settled
  · cases settled
  · rename_i resource following others closing
    obtain ⟨rfl, rfl⟩ := Prod.mk.inj (Option.some.inj settled)
    exact .settled phase resource following others closing
  · rename_i resource closing
    split at settled
    · rename_i current since stage
      split at settled
      · rename_i same
        subst same
        obtain ⟨rfl, rfl⟩ := Prod.mk.inj (Option.some.inj settled)
        exact .settledLast current since resource closing stage (proceeds ..)
      · rename_i different
        obtain ⟨rfl, rfl⟩ := Prod.mk.inj (Option.some.inj settled)
        refine .settledLate phase resource closing fun other current' => different ?_
        rw [stage] at current'
        exact (Stage.closing.inj current').1
    · rename_i other
      obtain ⟨rfl, rfl⟩ := Prod.mk.inj (Option.some.inj settled)
      exact .settledLate phase resource closing fun since current => other phase since current

/-- A step of a process that lives is one of these. -/
theorem step_cases (taken : steps available lag process observed next) :
    (∀ code, process.stage ≠ .exited code) ∧ Steps available lag process next observed := by
  obtain ⟨action, -, taken⟩ := taken
  obtain ⟨now, stage, shutdownStartTime, connections, tasks, doomed⟩ := process
  have elapses {later : Time} (taken : (if now ≤ later ∧ Process.inTime lag
      ⟨now, stage, shutdownStartTime, connections, tasks, doomed⟩ later = true then
      some ((⟨later, stage, shutdownStartTime, connections, tasks, doomed⟩ : Process), [])
      else none) = some (next, observed)) : Steps available lag
        ⟨now, stage, shutdownStartTime, connections, tasks, doomed⟩ next observed := by
    simp only [Option.ite_none_right_eq_some, Option.some.injEq, Prod.mk.injEq] at taken
    obtain ⟨⟨forward, due⟩, rfl, rfl⟩ := taken
    exact .elapsed later forward due
  have disconnects (taken : (if 0 < connections then
      some ((⟨now, stage, shutdownStartTime, connections - 1, tasks, doomed⟩ : Process), [])
      else none) = some (next, observed)) : Steps available lag
        ⟨now, stage, shutdownStartTime, connections, tasks, doomed⟩ next observed := by
    simp only [Option.ite_none_right_eq_some, Option.some.injEq, Prod.mk.injEq] at taken
    obtain ⟨-, rfl, rfl⟩ := taken
    exact .connected _ (.inr (Nat.sub_le ..))
  have dies (taken : (if doomed.any (fun due => decide (due ≤ now)) = true then
      some ((⟨now, .exited 1, shutdownStartTime, connections, tasks, doomed⟩ : Process),
        [Event.exited 1]) else none) = some (next, observed)) : Steps available lag
        ⟨now, stage, shutdownStartTime, connections, tasks, doomed⟩ next observed := by
    simp only [Option.ite_none_right_eq_some, Option.some.injEq, Prod.mk.injEq,
      Option.any_eq_true, decide_eq_true_eq] at taken
    obtain ⟨⟨due, rfl, reached⟩, rfl, rfl⟩ := taken
    exact .died due rfl reached
  cases stage with
  | exited code => cases taken
  | serving =>
    refine ⟨by simp, ?_⟩
    cases action with
    | elapse later => exact elapses taken
    | connect =>
      obtain ⟨rfl, rfl⟩ := Prod.mk.inj (Option.some.inj taken)
      exact .connected _ (.inl rfl)
    | disconnect => exact disconnects taken
    | signal =>
      obtain ⟨rfl, rfl⟩ := Prod.mk.inj (Option.some.inj taken)
      exact .began rfl
    | serverClosed => cases taken
    | settle phase => exact settle_cases taken
    | timeout => cases taken
    | fault =>
      obtain ⟨rfl, rfl⟩ := Prod.mk.inj (Option.some.inj taken)
      exact .faulted
    | die => exact dies taken
  | closing phase since =>
    refine ⟨by simp, ?_⟩
    cases action with
    | elapse later => exact elapses taken
    | connect => cases taken
    | disconnect => exact disconnects taken
    | signal =>
      obtain ⟨rfl, rfl⟩ := Prod.mk.inj (Option.some.inj taken)
      exact .ignored
    | serverClosed =>
      cases phase with
      | requests =>
        simp only [step, Option.ite_none_right_eq_some, Option.some.injEq, Prod.mk.injEq] at taken
        obtain ⟨empty, rfl, rfl⟩ := taken
        exact .closed since rfl empty (proceeds available _ .requests)
      | queues => cases taken
      | redis => cases taken
      | database => cases taken
    | settle phase => exact settle_cases taken
    | timeout =>
      simp only [step, Option.ite_none_right_eq_some, Option.some.injEq, Prod.mk.injEq] at taken
      obtain ⟨due, rfl, rfl⟩ := taken
      exact .timedOut phase since rfl due (proceeds available (Process.cut _ phase) phase)
    | fault =>
      obtain ⟨rfl, rfl⟩ := Prod.mk.inj (Option.some.inj taken)
      exact .faulted
    | die => exact dies taken

end Steps

section Timing

variable {available : Resource → Bool} {lag : Nat} {process next : Process} {phase : Phase}
  {observed : List Event}

/-- How long a shutdown takes at most from the start of a phase on. -/
def Phase.remainingMs (lag : Nat) : Phase → Nat
  | .requests => 80000 + 4 * lag
  | .queues => 50000 + 3 * lag
  | .redis => 20000 + 2 * lag
  | .database => 10000 + lag

/-- A later phase has what remains without this one. -/
theorem remaining_later (lag : Nat) {later : Phase} (after : phase.index < later.index) :
    (phase.timeoutMs : Time) + lag + later.remainingMs lag ≤ phase.remainingMs lag := by
  have rest : phase.timeoutMs + lag + later.remainingMs lag ≤ phase.remainingMs lag := by
    cases phase <;> cases later <;>
      simp only [Phase.index, Phase.timeoutMs, Phase.remainingMs] at after ⊢ <;> omega
  exact_mod_cast rest

/-- A phase has at least its own time. -/
theorem timeout_remaining (lag : Nat) (phase : Phase) :
    (phase.timeoutMs : Time) + lag ≤ phase.remainingMs lag := by
  have rest : phase.timeoutMs + lag ≤ phase.remainingMs lag := by
    cases phase <;> simp only [Phase.timeoutMs, Phase.remainingMs] <;> omega
  exact_mod_cast rest

/-- A phase began early enough, and its own timer is not overdue. -/
def Timely (lag : Nat) (process : Process) : Prop :=
  match process.stage with
  | .serving => process.shutdownStartTime = none
  | .closing phase since => ∃ start : Time, process.shutdownStartTime = some start ∧
      since + phase.remainingMs lag ≤ start + Phase.requests.remainingMs lag ∧
      process.now ≤ since + phase.timeoutMs + lag
  | .exited _ => ∀ start, process.shutdownStartTime = some start →
      process.now ≤ start + Phase.requests.remainingMs lag

/-- What remains bounds the time since the shutdown began. -/
theorem Timely.bounded (timely : Timely lag process) {start : Time}
    (started : process.shutdownStartTime = some start) :
    process.now ≤ start + Phase.requests.remainingMs lag := by
  unfold Timely at timely
  split at timely
  · rw [timely] at started
    cases started
  · rename_i phase since _
    obtain ⟨_, same, early, inTime⟩ := timely
    cases started.symm.trans same
    linarith [timeout_remaining lag phase]
  · exact timely start started

/-- The process may exit at any time that the shutdown may reach. -/
theorem Timely.exited (timely : Timely lag process) (code : Nat) :
    Timely lag { process with stage := .exited code } :=
  fun _ started => timely.bounded started

/-- A later phase starts before the deadline of the one it follows. -/
theorem Timely.proceeds (timely : Timely lag process) {since : Time}
    (current : process.stage = .closing phase since)
    (proceeds : Proceeds available process phase next observed) : Timely lag next := by
  cases proceeds with
  | exits => exact timely.exited 0
  | enters later after =>
    simp only [Timely, current] at timely ⊢
    obtain ⟨start, started, early, inTime⟩ := timely
    refine ⟨start, started, ?_, ?_⟩
    · linarith [remaining_later lag after]
    · linarith [Int.natCast_nonneg later.timeoutMs, Int.natCast_nonneg lag]

/-- A step keeps to it. -/
theorem timely_step (timely : Timely lag process) (alive : ∀ code, process.stage ≠ .exited code)
    (steps : Steps available lag process next observed) : Timely lag next := by
  cases steps with
  | elapsed later forward due =>
    unfold Timely at timely ⊢
    cases stage : process.stage with
    | serving => simpa only [stage] using timely
    | exited code => exact absurd stage (alive code)
    | closing phase since =>
      simp only [stage, Process.inTime, Bool.and_eq_true, decide_eq_true_eq] at timely due ⊢
      obtain ⟨start, started, early, -⟩ := timely
      exact ⟨start, started, early, due.1⟩
  | connected => exact timely
  | began serves =>
    have begins : Timely lag { process with
        stage := .closing .requests process.now
        shutdownStartTime := some process.now } :=
      ⟨process.now, rfl, Int.le_refl _, by
        linarith [Int.natCast_nonneg Phase.requests.timeoutMs, Int.natCast_nonneg lag]⟩
    exact begins
  | ignored => exact timely
  | closed since current _ proceeds => exact timely.proceeds current proceeds
  | settled => exact timely
  | settledLate => exact timely
  | settledLast phase since resource _ current proceeds =>
    have settles : Timely lag
      { process with tasks := Function.update process.tasks phase [] } := timely
    exact settles.proceeds current proceeds
  | timedOut phase since current _ proceeds =>
    have cut : Timely lag (process.cut phase) := by
      unfold Process.cut
      split <;> exact timely
    have same : (process.cut phase).stage = .closing phase since := by
      unfold Process.cut
      split <;> exact current
    exact cut.proceeds same proceeds
  | faulted => exact timely
  | died => exact timely.exited 1

end Timing

section Order

variable {available : Resource → Bool} {lag : Nat} {process next : Process} {phase : Phase}
  {history observed : List Event}

/-- The resources that the task of a phase has started to close. -/
def closings (phase : Phase) (history : List Event) : List Resource :=
  history.filterMap fun
    | .invoked closed resource => if closed = phase then some resource else none
    | _ => none

/-- What the task of a phase has started to close and what waits make up all it has to close. -/
structure Begun (available : Resource → Bool) (history : List Event) (process : Process)
    (phase : Phase) : Prop where
  calls : closings phase history ++ (process.tasks phase).tail = phase.resources.filter available
  settles : ∀ resource ∈ phase.resources.filter available,
    .settled phase resource ∈ history ∨ resource ∈ process.tasks phase
  held : process.tasks phase ⊆ phase.resources.filter available

/-- A phase has ended of itself when its task has, that of the requests when the server has closed
without a connection left. -/
def Ended (history : List Event) (process : Process) (phase : Phase) : Prop :=
  process.tasks phase = [] ∧ (phase = .requests → .drained ∈ history)

/-- The shutdown has passed a phase when it has ended or its timer has fired. -/
structure Passed (available : Resource → Bool) (history : List Event) (process : Process)
    (phase : Phase) : Prop extends Begun available history process phase where
  completed : Ended history process phase ∨ .timedOut phase ∈ history

structure Untouched (history : List Event) (process : Process) (phase : Phase) : Prop where
  calls : closings phase history = []
  idle : process.tasks phase = []

/-- How far a shutdown has come. -/
structure Progress (available : Resource → Bool) (history : List Event) (process : Process)
    (frontier : Nat) : Prop where
  passed : ∀ phase : Phase, phase.index < frontier → Passed available history process phase
  current : ∀ phase : Phase, phase.index = frontier → Begun available history process phase
  ahead : ∀ phase : Phase, frontier < phase.index → Untouched history process phase

/-- A step that neither closes anything for a phase nor changes its task. -/
structure Spares (phase : Phase) (process next : Process) (observed : List Event) : Prop where
  calls : closings phase observed = []
  tasks : next.tasks phase = process.tasks phase

/-- The closings of a longer history. -/
@[simp]
theorem closings_append : closings phase (history ++ observed) =
    closings phase history ++ closings phase observed :=
  List.filterMap_append

/-- A phase that has begun is as it was after a step that spares it. -/
theorem Begun.spared (begun : Begun available history process phase)
    (spares : Spares phase process next observed) :
    Begun available (history ++ observed) next phase where
  calls := by rw [closings_append, spares.calls, List.append_nil, spares.tasks, begun.calls]
  settles resource member := by
    rw [spares.tasks]
    exact (begun.settles resource member).imp_left (List.mem_append_left _)
  held := by rw [spares.tasks]; exact begun.held

/-- One that is over stays over. -/
theorem Passed.spared (passed : Passed available history process phase)
    (spares : Spares phase process next observed) :
    Passed available (history ++ observed) next phase where
  toBegun := passed.toBegun.spared spares
  completed := by
    rw [Ended, spares.tasks]
    exact passed.completed.imp (And.imp_right fun drained same => List.mem_append_left _ (drained same))
      (List.mem_append_left _)

/-- One that has not begun stays untouched. -/
theorem Untouched.spared (untouched : Untouched history process phase)
    (spares : Spares phase process next observed) :
    Untouched (history ++ observed) next phase where
  calls := by rw [closings_append, spares.calls, List.append_nil, untouched.calls]
  idle := by rw [spares.tasks, untouched.idle]

/-- So are all of them together. -/
theorem Progress.spared {frontier : Nat} (progress : Progress available history process frontier)
    (spares : ∀ phase, Spares phase process next observed) :
    Progress available (history ++ observed) next frontier where
  passed phase before := (progress.passed phase before).spared (spares phase)
  current phase same := (progress.current phase same).spared (spares phase)
  ahead phase after := (progress.ahead phase after).spared (spares phase)

/-- A phase with nothing to close is passed without a task. -/
theorem Untouched.passed (untouched : Untouched history process phase) (later : phase ≠ .requests)
    (nothing : phase.resources.filter available = []) :
    Passed available history process phase where
  calls := by rw [untouched.calls, untouched.idle, nothing]; rfl
  settles resource member := by rw [nothing] at member; cases member
  held := by rw [untouched.idle]; exact List.nil_subset _
  completed := .inl ⟨untouched.idle, fun same => absurd same later⟩

/-- The phases are told apart by their order. -/
theorem Phase.index_inj {left right : Phase} (same : left.index = right.index) : left = right := by
  cases left <;> cases right <;> first | rfl | cases same

/-- A step of the task of one phase. -/
theorem Progress.advanced {frontier : Nat} (progress : Progress available history process frontier)
    (phase : Phase) (busy : process.tasks phase ≠ [])
    (spares : ∀ other, other ≠ phase → Spares other process next observed)
    (begun : Begun available history process phase →
      Begun available (history ++ observed) next phase) :
    Progress available (history ++ observed) next frontier where
  passed other before := by
    have passed := progress.passed other before
    by_cases same : other = phase
    · subst same
      have timedOut := passed.completed.resolve_left fun ended => busy ended.1
      exact ⟨begun passed.toBegun, .inr (List.mem_append_left _ timedOut)⟩
    · exact passed.spared (spares other same)
  current other current := by
    have current := progress.current other current
    by_cases same : other = phase
    · exact same ▸ begun (same ▸ current)
    · exact current.spared (spares other same)
  ahead other after := by
    have ahead := progress.ahead other after
    have different : other ≠ phase := by
      rintro rfl
      exact busy ahead.idle
    exact ahead.spared (spares other different)

/-- The next resource of a task is closed. -/
theorem Progress.settledNext {frontier : Nat} {resource following : Resource}
    {others : List Resource} (progress : Progress available history process frontier)
    (closing : process.tasks phase = resource :: following :: others) :
    Progress available (history ++ [.settled phase resource, .invoked phase following])
      { process with tasks := Function.update process.tasks phase (following :: others) }
      frontier := by
  refine progress.advanced phase (by simp [closing]) (fun other different => ⟨?_, ?_⟩)
    (fun begun => ⟨?_, fun target member => ?_, fun target member => ?_⟩)
  · simp [closings, Ne.symm different]
  · exact Function.update_of_ne different ..
  · have calls := begun.calls
    rw [closing, List.tail_cons] at calls
    simp [closings, ← calls]
  · have settles := begun.settles target member
    rw [closing] at settles
    simp only [List.mem_cons] at settles
    simp only [List.mem_append, List.mem_cons, Function.update_self]
    rcases settles with settled | rfl | waits
    · exact .inl (.inl settled)
    · exact .inl (.inr (.inl rfl))
    · exact .inr waits
  · simp only [Function.update_self] at member
    exact begun.held (closing ▸ List.mem_cons_of_mem _ member)

/-- The last resource of a task has settled. -/
theorem Progress.settledLast {frontier : Nat} {resource : Resource}
    (progress : Progress available history process frontier)
    (closing : process.tasks phase = [resource]) :
    Progress available (history ++ [.settled phase resource])
      { process with tasks := Function.update process.tasks phase [] } frontier := by
  refine progress.advanced phase (by simp [closing]) (fun other different => ⟨?_, ?_⟩)
    (fun begun => ⟨?_, fun target member => ?_, fun target member => ?_⟩)
  · simp [closings]
  · exact Function.update_of_ne different ..
  · have calls := begun.calls
    rw [closing, List.tail_cons] at calls
    simp [closings, ← calls]
  · have settles := begun.settles target member
    rw [closing, List.mem_singleton] at settles
    rcases settles with settled | rfl
    · exact .inl (List.mem_append_left _ settled)
    · exact .inl (List.mem_append_right _ (List.mem_singleton_self _))
  · simp only [Function.update_self] at member
    cases member

/-- Where a process stands when its shutdown has come that far. -/
def Process.reaches (process : Process) (frontier : Nat) : Prop :=
  match process.stage with
  | .serving => frontier = 0
  | .closing phase _ => frontier = phase.index
  | .exited code => code = 0 → frontier = 4

/-- A phase is passed, and with it those after it that have nothing to close. -/
theorem Progress.proceeds (progress : Progress available history process phase.index)
    (completed : Ended history process phase ∨ .timedOut phase ∈ history)
    (proceeds : Proceeds available process phase next observed) :
    ∃ frontier, Progress available (history ++ observed) next frontier ∧
      next.reaches frontier := by
  have passed (other : Phase) (upTo : other.index ≤ phase.index) :
      Passed available history process other := by
    rcases Nat.lt_or_eq_of_le upTo with before | same
    · exact progress.passed other before
    · cases Phase.index_inj same
      exact ⟨progress.current _ rfl, completed⟩
  have unlike {other : Phase} (after : phase.index < other.index) : other ≠ .requests := by
    rintro rfl
    exact Nat.not_lt_zero _ after
  cases proceeds with
  | exits idle =>
    have all (other : Phase) : Passed available history process other := by
      rcases Nat.lt_or_ge phase.index other.index with after | upTo
      · exact (progress.ahead other after).passed (unlike after) (idle other after)
      · exact passed other upTo
    refine ⟨4, ⟨fun other _ => (all other).spared ⟨rfl, rfl⟩, fun other last => ?_,
      fun other beyond => ?_⟩, fun _ => rfl⟩
    · cases other <;> cases last
    · cases other <;> simp [Phase.index] at beyond
  | enters later after idle first others closes =>
    have spares (other : Phase) (different : other ≠ later) : Spares other process
        { process with
          stage := .closing later process.now
          tasks := Function.update process.tasks later (first :: others) }
        [.invoked later first] :=
      ⟨by simp [closings, Ne.symm different], Function.update_of_ne different ..⟩
    refine ⟨later.index, ⟨fun other before => ?_, fun other same => ?_, fun other beyond => ?_⟩,
      rfl⟩
    · have different : other ≠ later := by
        rintro rfl
        exact Nat.lt_irrefl _ before
      refine Passed.spared ?_ (spares other different)
      rcases Nat.lt_or_ge phase.index other.index with behind | upTo
      · exact (progress.ahead other behind).passed (unlike behind) (idle other behind before)
      · exact passed other upTo
    · cases Phase.index_inj same
      have ahead := progress.ahead later after
      refine ⟨?_, fun resource member => .inr ?_, fun resource member => ?_⟩
      · simp only [closings_append, ahead.calls, closes, Function.update_self]
        simp [closings]
      · simpa [closes] using member
      · simpa [closes] using member
    · have different : other ≠ later := by
        rintro rfl
        exact Nat.lt_irrefl _ beyond
      exact (progress.ahead other (Nat.lt_trans after beyond)).spared (spares other different)

/-- The requests' phase has nothing to close. -/
theorem Progress.idle {frontier : Nat} (progress : Progress available history process frontier) :
    process.tasks .requests = [] := by
  refine List.eq_nil_of_subset_nil ?_
  rcases Nat.eq_zero_or_pos frontier with rfl | passed
  · exact (progress.current .requests rfl).held
  · exact (progress.passed .requests passed).held

/-- Every step leaves a shutdown that has come as far or farther. -/
theorem progress_step
    (progress : ∃ frontier, Progress available history process frontier ∧ process.reaches frontier)
    (steps : Steps available lag process next observed) :
    ∃ frontier, Progress available (history ++ observed) next frontier ∧
      next.reaches frontier := by
  obtain ⟨frontier, progress, reaches⟩ := progress
  cases steps with
  | elapsed => exact ⟨frontier, progress.spared fun _ => ⟨rfl, rfl⟩, reaches⟩
  | connected => exact ⟨frontier, progress.spared fun _ => ⟨rfl, rfl⟩, reaches⟩
  | began serves =>
    rw [Process.reaches, serves] at reaches
    exact ⟨frontier, progress.spared fun _ => ⟨rfl, rfl⟩, reaches⟩
  | ignored => exact ⟨frontier, progress.spared fun _ => ⟨rfl, rfl⟩, reaches⟩
  | closed since current empty proceeds =>
    rw [Process.reaches, current] at reaches
    subst reaches
    have drained : Progress available (history ++ [.drained]) process Phase.requests.index :=
      progress.spared fun _ => ⟨rfl, rfl⟩
    rw [List.append_cons]
    exact drained.proceeds
      (.inl ⟨progress.idle, fun _ => List.mem_append_right _ (List.mem_singleton_self _)⟩) proceeds
  | settled phase resource following others closing =>
    exact ⟨frontier, progress.settledNext closing, reaches⟩
  | settledLate phase resource closing =>
    exact ⟨frontier, progress.settledLast closing, reaches⟩
  | settledLast phase since resource closing current proceeds =>
    rw [Process.reaches, current] at reaches
    subst reaches
    have settles := progress.settledLast closing
    have later : phase ≠ .requests := by
      rintro rfl
      rw [progress.idle] at closing
      cases closing
    rw [List.append_cons]
    exact settles.proceeds (.inl ⟨Function.update_self .., fun same => absurd same later⟩) proceeds
  | timedOut phase since current due proceeds =>
    rw [Process.reaches, current] at reaches
    subst reaches
    have cut : Progress available (history ++ [.timedOut phase]) (process.cut phase)
        phase.index := by
      refine progress.spared fun other => ⟨rfl, ?_⟩
      unfold Process.cut
      split <;> rfl
    rw [List.append_cons]
    exact cut.proceeds (.inr (List.mem_append_right _ (List.mem_singleton_self _))) proceeds
  | faulted => exact ⟨frontier, progress.spared fun _ => ⟨rfl, rfl⟩, reaches⟩
  | died => exact ⟨frontier, progress.spared fun _ => ⟨rfl, rfl⟩, by rintro ⟨⟩⟩

end Order

section Outcome

variable {available : Resource → Bool} {lag : Nat} {process next : Process} {phase : Phase}
  {history observed : List Event}

/-- Whether the requests' phase is over without a connection left. -/
def Process.drained (process : Process) : Prop :=
  match process.stage with
  | .closing phase _ => phase = .requests ∨ process.connections = 0
  | .exited code => code = 0 → process.connections = 0
  | .serving => True

/-- What a history tells about the state it leads to. -/
structure Outcome (history : List Event) (process : Process) : Prop where
  once : history.count .began ≤ 1
  serves : process.stage = .serving → .began ∉ history
  drained : process.drained
  exits : ∀ code, .exited code ∈ history → process.stage = .exited code
  fails : process.stage = .exited 1 → .faulted ∈ history
  dooms : ∀ due, process.doomed = some due → .faulted ∈ history

/-- The exit after the last phase is the first one. -/
theorem outcome_proceeds (outcome : Outcome history process)
    (alive : ∀ code, process.stage ≠ .exited code) (empty : process.connections = 0)
    (proceeds : Proceeds available process phase next observed) :
    Outcome (history ++ observed) next := by
  have noExit (code : Nat) : .exited code ∉ history := fun exited =>
    alive code (outcome.exits code exited)
  cases proceeds with
  | exits idle =>
    refine ⟨?_, by rintro ⟨⟩, fun _ => empty, fun code exited => ?_, by rintro ⟨⟩,
      fun due doomed => List.mem_append_left _ (outcome.dooms due doomed)⟩
    · simpa using outcome.once
    · have : code = 0 := by simpa [noExit] using exited
      rw [this]
  | enters later after =>
    refine ⟨?_, by rintro ⟨⟩, .inr empty, fun code exited => ?_, by rintro ⟨⟩,
      fun due doomed => List.mem_append_left _ (outcome.dooms due doomed)⟩
    · simpa using outcome.once
    · simp [noExit] at exited

/-- Events that neither begin nor end a shutdown. -/
theorem Outcome.longer (outcome : Outcome history process) (observed : List Event)
    (quiet : ∀ event ∈ observed, event ≠ .began ∧ ∀ code, event ≠ .exited code) :
    Outcome (history ++ observed) process where
  once := by
    have none : observed.count .began = 0 :=
      List.count_eq_zero.mpr fun member => (quiet _ member).1 rfl
    rw [List.count_append, none]
    exact outcome.once
  serves stage began := by
    rcases List.mem_append.mp began with before | now
    · exact outcome.serves stage before
    · exact (quiet _ now).1 rfl
  drained := outcome.drained
  exits code exited := by
    rcases List.mem_append.mp exited with before | now
    · exact outcome.exits code before
    · exact absurd rfl ((quiet _ now).2 code)
  fails stage := List.mem_append_left _ (outcome.fails stage)
  dooms due doomed := List.mem_append_left _ (outcome.dooms due doomed)

/-- When the timer has fired, no connection is left. -/
theorem cut_empty (outcome : Outcome history process) {since : Time}
    (current : process.stage = .closing phase since) :
    (process.cut phase).connections = 0 ∧ (process.cut phase).stage = process.stage ∧
      Outcome history (process.cut phase) := by
  unfold Process.cut
  split
  · refine ⟨rfl, rfl, outcome.once, outcome.serves, ?_, outcome.exits, outcome.fails,
      outcome.dooms⟩
    simp [Process.drained, current]
  · rename_i other
    have drained := outcome.drained
    rw [Process.drained, current] at drained
    exact ⟨drained.resolve_left other, rfl, outcome⟩

/-- A step keeps what an exit says. -/
theorem outcome_step (outcome : Outcome history process)
    (alive : ∀ code, process.stage ≠ .exited code) (idle : process.tasks .requests = [])
    (steps : Steps available lag process next observed) : Outcome (history ++ observed) next := by
  cases steps with
  | elapsed later =>
    rw [List.append_nil]
    exact ⟨outcome.once, outcome.serves, outcome.drained, outcome.exits, outcome.fails,
      outcome.dooms⟩
  | connected count fewer =>
    rw [List.append_nil]
    refine ⟨outcome.once, outcome.serves, ?_, outcome.exits, outcome.fails, outcome.dooms⟩
    have drained := outcome.drained
    unfold Process.drained at drained ⊢
    cases stage : process.stage with
    | serving => trivial
    | exited code => exact absurd stage (alive code)
    | closing phase since =>
      simp only [stage, reduceCtorEq, false_or] at drained fewer ⊢
      exact drained.imp_right fun empty => Nat.le_zero.mp (Nat.le_trans fewer (Nat.le_of_eq empty))
  | began serves =>
    refine ⟨?_, by rintro ⟨⟩, .inl rfl, fun code exited => ?_, by rintro ⟨⟩,
      fun due doomed => List.mem_append_left _ (outcome.dooms due doomed)⟩
    · rw [List.count_append, List.count_eq_zero.mpr (outcome.serves serves)]
      decide
    · have before : .exited code ∈ history := by simpa using exited
      exact absurd (outcome.exits code before) (alive code)
  | ignored => exact outcome.longer _ (by simp)
  | closed since current empty proceeds =>
    rw [List.append_cons]
    exact outcome_proceeds (outcome.longer [.drained] (by simp)) alive empty proceeds
  | settled phase resource following others closing =>
    have longer := outcome.longer [.settled phase resource, .invoked phase following] (by simp)
    exact ⟨longer.once, longer.serves, longer.drained, longer.exits, longer.fails, longer.dooms⟩
  | settledLate phase resource closing =>
    have longer := outcome.longer [.settled phase resource] (by simp)
    exact ⟨longer.once, longer.serves, longer.drained, longer.exits, longer.fails, longer.dooms⟩
  | settledLast phase since resource closing current proceeds =>
    have longer := outcome.longer [.settled phase resource] (by simp)
    have other : phase ≠ .requests := by
      rintro rfl
      rw [idle] at closing
      cases closing
    have drained := outcome.drained
    rw [Process.drained, current] at drained
    have settles : Outcome (history ++ [.settled phase resource])
        { process with tasks := Function.update process.tasks phase [] } :=
      ⟨longer.once, longer.serves, longer.drained, longer.exits, longer.fails, longer.dooms⟩
    rw [List.append_cons]
    exact outcome_proceeds settles alive (drained.resolve_left other) proceeds
  | timedOut phase since current due proceeds =>
    obtain ⟨empty, same, cut⟩ := cut_empty outcome current
    rw [List.append_cons]
    exact outcome_proceeds (cut.longer _ (by simp)) (same ▸ alive) empty proceeds
  | faulted =>
    have longer := outcome.longer [.faulted] (by simp)
    exact ⟨longer.once, longer.serves, longer.drained, longer.exits, longer.fails,
      fun _ _ => List.mem_append_right _ (List.mem_singleton_self _)⟩
  | died due doomed reached =>
    have faulted := outcome.dooms due doomed
    refine ⟨?_, by rintro ⟨⟩, by rintro ⟨⟩, fun code exited => ?_,
      fun _ => List.mem_append_left _ faulted, fun _ _ => List.mem_append_left _ faulted⟩
    · simpa using outcome.once
    · rcases List.mem_append.mp exited with before | now
      · exact absurd (outcome.exits code before) (alive code)
      · cases List.mem_singleton.mp now
        rfl

end Outcome

section Runs

variable {available : Resource → Bool} {lag : Nat} {process : Process} {history : List Event}
  {now : Time} {connections : Nat}

/-- A phase is over when its timer has fired or its work is done: the server has closed without a
connection left, or all there was to close has settled. -/
def Finished (available : Resource → Bool) (phase : Phase) (history : List Event) : Prop :=
  .timedOut phase ∈ history ∨ match phase with
    | .requests => .drained ∈ history
    | phase => ∀ resource ∈ phase.resources.filter available, .settled phase resource ∈ history

/-- A phase that the shutdown has passed is over. -/
theorem Passed.finished {phase : Phase} (passed : Passed available history process phase) :
    Finished available phase history := by
  rcases passed.completed with ⟨idle, drained⟩ | timedOut
  · refine .inr ?_
    have settled : ∀ resource ∈ phase.resources.filter available,
        .settled phase resource ∈ history := fun resource member =>
      (passed.settles resource member).resolve_right (idle ▸ List.not_mem_nil)
    cases phase with
    | requests => exact drained rfl
    | queues | redis | database => exact settled
  · exact .inl timedOut

/-- All invariants hold over every run. -/
theorem run_invariant (run : Run (steps available lag) (serving now connections) history process) :
    Timely lag process ∧ Outcome history process ∧
      ∃ frontier, Progress available history process frontier ∧ process.reaches frontier := by
  refine run.invariant (fun history process => Timely lag process ∧ Outcome history process ∧
    ∃ frontier, Progress available history process frontier ∧ process.reaches frontier) ?_ ?_
  · refine ⟨rfl, ⟨by simp, fun _ => List.not_mem_nil, trivial, by simp, by rintro ⟨⟩, by rintro _ ⟨⟩⟩,
      0, ⟨?_, ?_, fun _ _ => ⟨rfl, rfl⟩⟩, rfl⟩
    · exact fun phase before => absurd before (Nat.not_lt_zero _)
    · intro phase first
      have same : phase = .requests := Phase.index_inj first
      subst same
      exact ⟨rfl, fun _ => List.not_mem_nil.elim, List.nil_subset _⟩
  · intro history observed process next before ⟨timely, outcome, frontier, progress, reaches⟩ taken
    obtain ⟨alive, steps⟩ := step_cases taken
    exact ⟨timely_step timely alive steps, outcome_step outcome alive progress.idle steps,
      progress_step ⟨frontier, progress, reaches⟩ steps⟩

/-- What a task has started to close is the beginning of what it has to close. -/
theorem Progress.ordered {frontier : Nat} (progress : Progress available history process frontier)
    (phase : Phase) : closings phase history <+: phase.resources.filter available := by
  rcases Nat.lt_trichotomy phase.index frontier with before | same | after
  · exact ⟨_, (progress.passed phase before).calls⟩
  · exact ⟨_, (progress.current phase same).calls⟩
  · rw [(progress.ahead phase after).calls]
    exact List.nil_prefix

/-- A task that has started to close something is one of a later phase, and its phase is reached. -/
theorem Progress.reached {frontier : Nat} (progress : Progress available history process frontier)
    {later : Phase} (calls : closings later history ≠ []) :
    0 < later.index ∧ later.index ≤ frontier := by
  constructor
  · cases later with
    | requests => exact absurd (List.prefix_nil.mp (progress.ordered .requests)) calls
    | queues | redis | database => decide
  · by_contra ahead
    exact calls (progress.ahead later (Nat.lt_of_not_le ahead)).calls

/-- Past the requests' phase a process that is still there has no connection. -/
theorem drained_reaches {frontier : Nat} (drained : process.drained)
    (reaches : process.reaches frontier) (passed : 0 < frontier)
    (alive : ∀ code, process.stage ≠ .exited code) : process.connections = 0 := by
  unfold Process.drained at drained
  unfold Process.reaches at reaches
  cases stage : process.stage with
  | serving =>
    simp only [stage] at reaches
    exact absurd passed (Nat.not_lt.mpr (Nat.le_of_eq reaches))
  | exited code => exact absurd stage (alive code)
  | closing phase since =>
    simp only [stage] at drained reaches
    refine drained.resolve_left ?_
    rintro rfl
    exact absurd passed (Nat.not_lt.mpr (Nat.le_of_eq reaches))

/-- Every shutdown ends within 80 s of its beginning, up to the lag of its timers: not within
`SHUTDOWN_TIMEOUT_MS`. It begins at most once. Every phase closes its resources in their order,
each at most once, and only when no connection is left and all earlier phases are over. An exit
with code 0 leaves no connection and no unfinished phase behind; one with code 1 follows a
fault. -/
theorem graceful_shutdown
    (run : Run (steps available lag) (serving now connections) history process) :
    (∀ start, process.shutdownStartTime = some start →
      process.now ≤ start + 80000 + 4 * lag) ∧
    history.count .began ≤ 1 ∧
    (∀ phase, closings phase history <+: phase.resources.filter available) ∧
    (∀ later, closings later history ≠ [] →
      ((∀ code, process.stage ≠ .exited code) → process.connections = 0) ∧
      ∀ phase : Phase, phase.index < later.index → Finished available phase history) ∧
    (.exited 0 ∈ history → process.connections = 0 ∧
      ∀ phase, Finished available phase history) ∧
    (.exited 1 ∈ history → .faulted ∈ history) := by
  obtain ⟨timely, outcome, frontier, progress, reaches⟩ := run_invariant run
  refine ⟨fun start started => ?_, outcome.once, progress.ordered, fun later calls => ?_,
    fun exited => ?_, fun exited => outcome.fails (outcome.exits 1 exited)⟩
  · have bounded := timely.bounded started
    simp only [Phase.remainingMs] at bounded
    push_cast at bounded
    linarith
  · obtain ⟨second, reached⟩ := progress.reached calls
    refine ⟨drained_reaches outcome.drained reaches (Nat.lt_of_lt_of_le second reached),
      fun phase before => ?_⟩
    exact (progress.passed phase (Nat.lt_of_lt_of_le before reached)).finished
  · have stage := outcome.exits 0 exited
    have drained := outcome.drained
    rw [Process.drained, stage] at drained
    rw [Process.reaches, stage] at reaches
    refine ⟨drained rfl, fun phase => (progress.passed phase ?_).finished⟩
    rw [reaches rfl]
    cases phase <;> decide

/-- Resources that never settle, with timers that fire on time: the exit comes at 80 s. -/
def stuckSchedule : List Action :=
  [.connect, .signal, .elapse 30000, .timeout, .elapse 60000, .timeout, .elapse 70000, .timeout,
    .signal, .elapse 80000, .timeout]

/-- All of it goes through. -/
theorem stuck_accepted :
    (execute (step (fun _ => true) 0) (serving 0 2) stuckSchedule).isSome := by decide +kernel

/-- The process exits with code 0 after 80 s. -/
theorem stuck_shutdown :
    ∃ (history : List Event) (process : Process),
      Run (steps (fun _ => true) 0) (serving 0 2) history process ∧
        process.shutdownStartTime = some 0 ∧ process.now = 80000 ∧ .exited 0 ∈ history ∧
        process.connections = 0 ∧ ∀ phase, Finished (fun _ => true) phase history := by
  have run := run_of_schedule stuckSchedule stuck_accepted
  have ends : .exited 0 ∈
      ((execute (step (fun _ => true) 0) (serving 0 2) stuckSchedule).get stuck_accepted).2 := by
    decide +kernel
  obtain ⟨-, -, -, -, succeeds, -⟩ := graceful_shutdown run
  exact ⟨_, _, run, by decide +kernel, by decide +kernel, ends, succeeds ends⟩

end Runs

end PlanBuddy.Shutdown
