import PlanBuddy.Queues
import PlanBuddy.Runs
import PlanBuddy.Values

/-!
# The health of the queues

The registry of `queueReliabilityState.js` is patched by merges of any shape and by its mutators,
and `computeStatus` reads a health off it. A merge copies whatever a patch has, so
`queues.initErrors` need not stay an array. `getSnapshot` looks whether it is one, while
`computeStatus` reads its length and `markQueueInitError` appends to it.

The plain objects of the registry are maps from names to values; the texts of errors that nothing
reads come as `String` makes them, with `none` where it throws. A worker under the name of a member
that every object inherits is found there and never becomes one of the registry.
-/

namespace PlanBuddy.QueueHealth

open Values

section Model

/-- The properties of a plain object; what it lacks is undefined. -/
abbrev Fields := String → Value

def Fields.of (fields : List (String × Value)) : Fields :=
  fun name => (fields.lookup name).getD .undefined

def Fields.set (fields : Fields) (name : String) (value : Value) : Fields :=
  fun other => if other = name then value else fields other

/-- `Object.assign(fields, source)`. -/
def Fields.assign (fields : Fields) (source : Value) : Fields :=
  source.entries.foldl (fun fields entry => fields.set entry.1 entry.2) fields

structure Registry where
  redis : Fields
  queues : Fields
  scheduler : Fields
  workers : List (String × Fields)
  backlog : Fields
  metadata : Fields

def defaultState : Registry where
  redis := .of [("connected", .boolean false), ("lastConnectedAt", .null),
    ("lastDisconnectedAt", .null), ("lastError", .null), ("circuitOpen", .boolean false)]
  queues := .of [("initialized", .boolean false), ("lastInitAt", .null),
    ("initErrors", .emptyArray)]
  scheduler := .of [("active", .boolean false), ("lastHeartbeat", .null), ("lastError", .null)]
  workers := []
  backlog := .of [("total", .numeral 0), ("worstQueue", .null), ("worstDepth", .numeral 0),
    ("degraded", .boolean false), ("lastUpdatedAt", .null), ("lastError", .null)]
  metadata := .of [("lastStatusComputedAt", .null)]

def newWorker : Fields :=
  .of [("active", .boolean false), ("lastHeartbeat", .null), ("lastJobAt", .null),
    ("lastError", .null)]

/-- Change a worker, which is added when there is none under its name. -/
def changeWorker (workers : List (String × Fields)) (workerName : String)
    (change : Fields → Fields) : List (String × Fields) :=
  if workerName ∈ objectMembers then workers
  else if workerName ∈ workers.map Prod.fst then
    workers.map fun worker =>
      if worker.1 = workerName then (worker.1, change worker.2) else worker
  else workers ++ [(workerName, change newWorker)]

/-- `patch[name]`, if it is an object. -/
def part (patch : Value) (name : String) : Option Value :=
  (patch.property name).filter Value.isObject

def patchQueues (queues : Fields) (source : Value) : Fields :=
  let assigned := queues.assign source
  match (source.property "initErrors").filter Value.isArray with
  | some initErrors => assigned.set "initErrors" initErrors
  | none => assigned

def patchWorkers (workers : List (String × Fields)) (source : Value) : List (String × Fields) :=
  source.entries.foldl (fun workers entry =>
    changeWorker workers entry.1 fun worker => worker.assign (entry.2.orElse .emptyObject)) workers

def updatePartial (registry : Registry) (patch : Value) : Registry :=
  if patch.isObject then {
    redis := (part patch "redis").elim registry.redis registry.redis.assign
    queues := (part patch "queues").elim registry.queues (patchQueues registry.queues)
    scheduler := (part patch "scheduler").elim registry.scheduler registry.scheduler.assign
    workers := (part patch "workers").elim registry.workers (patchWorkers registry.workers)
    backlog := (part patch "backlog").elim registry.backlog registry.backlog.assign
    metadata := (part patch "_meta").elim registry.metadata registry.metadata.assign }
  else registry

structure Options where
  staleAfterMs : Number := .finite 60000
  backlogWarnDepth : Number := .finite 1000

inductive Health
  | green
  | yellow
  | red
deriving DecidableEq

inductive Readiness
  | ready
  | degraded
deriving DecidableEq

structure Status where
  readiness : Readiness
  health : Health
  reason : List String
  computedAt : Time
  redisOk : Bool
  queuesOk : Bool
  schedulerOk : Bool
  workerOk : Bool
  backlogDegraded : Bool
deriving DecidableEq

/-- An instant as a Number. -/
def instant (now : Time) : Value := .number (.finite (now : Int))

/-- A heartbeat that is a number, and not too old. -/
def heartbeatOk (fields : Fields) (options : Options) (now : Time) : Bool :=
  match fields "lastHeartbeat" with
  | .number heartbeat =>
    ((Number.finite (now : Int)).minus heartbeat).atMost options.staleAfterMs
  | _ => false

/-- The colour and its reasons. -/
def colour (redisOk workerOk schedulerOk queuesOk backlogDegraded : Bool) :
    Health × List String := Id.run do
  let mut health := Health.green
  let mut reason : List String := []
  if !redisOk then
    health := .red
    reason := reason ++ ["redis_down_or_circuit_open"]
  if !workerOk then
    health := .red
    reason := reason ++ ["workers_unhealthy_or_stale"]
  if !schedulerOk then
    health := .red
    reason := reason ++ ["scheduler_unhealthy_or_stale"]
  if health ≠ .red then
    if !queuesOk then
      health := .yellow
      reason := reason ++ ["queues_not_initialized_or_errors"]
    if backlogDegraded then
      health := .yellow
      reason := reason ++ ["backlog_degraded"]
    if health = .green ∧ reason.length = 0 then
      reason := reason ++ ["stable"]
  return (health, reason)

def statusOf (redisOk workerOk schedulerOk queuesOk backlogDegraded : Bool) (now : Time) : Status :=
  let (health, reason) := colour redisOk workerOk schedulerOk queuesOk backlogDegraded
  let readiness := if health = .green then Readiness.ready else .degraded
  { readiness, health, reason, computedAt := now, redisOk, queuesOk, schedulerOk, workerOk,
    backlogDegraded }

/-- `!!s.queues.initialized && s.queues.initErrors.length === 0`, where the length may throw. -/
def queuesOk (registry : Registry) : Option Bool :=
  if (registry.queues "initialized").truthy then
    ((registry.queues "initErrors").property "length").map (Value.isNumeral · 0)
  else some false

/-- `!!s.backlog.degraded || (s.backlog.worstDepth || 0) >= backlogWarnDepth`. -/
def backlogDegraded (registry : Registry) (options : Options) : Option Bool :=
  if (registry.backlog "degraded").truthy then some true
  else ((registry.backlog "worstDepth").orElse (.numeral 0)).atLeast options.backlogWarnDepth

/-- Nothing is returned when something throws. -/
def computeStatus (registry : Registry) (options : Options) (now : Time) : Option Status := do
  let redisOk := (registry.redis "connected").truthy && !(registry.redis "circuitOpen").truthy
  let schedulerOk := (registry.scheduler "active").truthy &&
    heartbeatOk registry.scheduler options now
  let workerOk := decide (0 < registry.workers.length) && registry.workers.all fun (_, worker) =>
    (worker "active").truthy && heartbeatOk worker options now
  let queuesOk ← queuesOk registry
  let backlogDegraded ← backlogDegraded registry options
  some (statusOf redisOk workerOk schedulerOk queuesOk backlogDegraded now)

/-- The options of `markWorkerHeartbeat`, undefined where they are not given. -/
structure WorkerReport where
  active : Value
  lastJobAt : Value
  error : Value

/-- The options of `updateBacklog`. -/
structure BacklogReport where
  total : Value
  worstQueue : Value
  worstDepth : Value
  degraded : Value
  lastError : Option String

inductive Action where
  | setState (next : Value)
  | updatePartial (patch : Value)
  | resetForTests
  | markRedisConnected
  | markRedisDisconnected (error : Value)
  | setRedisCircuitOpen (opened : Value)
  | markQueueInitialized
  | markQueueInitError (error : Option String)
  | markSchedulerActive
  | markSchedulerHeartbeat
  | markSchedulerError (error : Option String)
  | markWorkerHeartbeat (workerName : String) (report : WorkerReport)
  | markWorkerError (workerName : String) (error : Option String)
  | updateBacklog (report : BacklogReport)

/-- A destructured option, with its default. -/
def given (value default : Value) : Value :=
  match value with
  | .undefined => default
  | value => value

def isNull : Value → Bool
  | .null => true
  | _ => false

/-- What a call leaves, and whether it threw. -/
structure Outcome where
  registry : Registry
  threw : Bool

variable (registry : Registry) (now : Time)

def markQueueInitError (error : Option String) : Outcome :=
  let queues := registry.queues.set "initialized" (.boolean false)
  match error.bind (queues "initErrors").push with
  | some initErrors =>
    ⟨{ registry with
      queues := (queues.set "initErrors" initErrors).set "lastInitAt" (instant now) }, false⟩
  | none => ⟨{ registry with queues }, true⟩

def markSchedulerError (error : Option String) : Outcome :=
  let scheduler := registry.scheduler.set "active" (.boolean false)
  match error with
  | some text =>
    ⟨{ registry with scheduler := scheduler.set "lastError" (.string text) }, false⟩
  | none => ⟨{ registry with scheduler }, true⟩

def reportWorker (report : WorkerReport) (worker : Fields) : Fields :=
  let active := given report.active (.boolean true)
  let lastJobAt := given report.lastJobAt .null
  let error := given report.error .null
  let alive := (worker.set "active" (.boolean active.truthy)).set "lastHeartbeat" (instant now)
  let worked := if isNull lastJobAt then alive else alive.set "lastJobAt" lastJobAt
  if isNull error then worked else worked.set "lastError" error

def failWorker (error : Option String) (worker : Fields) : Fields :=
  let stopped := worker.set "active" (.boolean false)
  match error with
  | some text => (stopped.set "lastError" (.string text)).set "lastHeartbeat" (instant now)
  | none => stopped

def updateBacklog (report : BacklogReport) : Outcome :=
  match (given report.total (.numeral 0)).toNumber with
  | none => ⟨registry, true⟩
  | some total =>
    let counted := (registry.backlog.set "total" ((Value.number total).orElse (.numeral 0))).set
      "worstQueue" ((given report.worstQueue .null).orElse .null)
    match (given report.worstDepth (.numeral 0)).toNumber with
    | none => ⟨{ registry with backlog := counted }, true⟩
    | some depth =>
      let degraded := given report.degraded (.boolean false)
      let measured := (counted.set "worstDepth" ((Value.number depth).orElse (.numeral 0))).set
        "degraded" (.boolean degraded.truthy)
      ⟨{ registry with
        backlog := (measured.set "lastUpdatedAt" (instant now)).set "lastError"
          ((report.lastError.map Value.string).getD .null) }, false⟩

def Action.perform (action : Action) (registry : Registry) (now : Time) : Outcome :=
  match action with
  | .setState next => ⟨QueueHealth.updatePartial registry next, false⟩
  | .updatePartial patch => ⟨QueueHealth.updatePartial registry patch, false⟩
  | .resetForTests => ⟨defaultState, false⟩
  | .markRedisConnected =>
    let redis := (registry.redis.set "connected" (.boolean true)).set "lastConnectedAt" (instant now)
    ⟨{ registry with
      redis := ((redis.set "lastDisconnectedAt" .null).set "lastError" .null).set "circuitOpen"
        (.boolean false) }, false⟩
  | .markRedisDisconnected error =>
    let redis := registry.redis.set "connected" (.boolean false)
    ⟨{ registry with
      redis := (redis.set "lastDisconnectedAt" (instant now)).set "lastError"
        (error.orElse .null) }, false⟩
  | .setRedisCircuitOpen opened =>
    let redis := registry.redis.set "circuitOpen" (.boolean opened.truthy)
    ⟨{ registry with
      redis := if opened.truthy
        then redis.set "lastError" ((redis "lastError").orElse (.string "circuit_open"))
        else redis }, false⟩
  | .markQueueInitialized =>
    let queues := registry.queues.set "initialized" (.boolean true)
    ⟨{ registry with
      queues := (queues.set "lastInitAt" (instant now)).set "initErrors" .emptyArray }, false⟩
  | .markQueueInitError error => QueueHealth.markQueueInitError registry now error
  | .markSchedulerActive =>
    let scheduler := registry.scheduler.set "active" (.boolean true)
    ⟨{ registry with
      scheduler := (scheduler.set "lastHeartbeat" (instant now)).set "lastError" .null }, false⟩
  | .markSchedulerHeartbeat =>
    let scheduler := if (registry.scheduler "active").truthy then registry.scheduler
      else registry.scheduler.set "active" (.boolean true)
    ⟨{ registry with
      scheduler := (scheduler.set "lastHeartbeat" (instant now)).set "lastError" .null }, false⟩
  | .markSchedulerError error => QueueHealth.markSchedulerError registry error
  | .markWorkerHeartbeat workerName report =>
    if workerName = "" then ⟨registry, false⟩
    else ⟨{ registry with
      workers := changeWorker registry.workers workerName (reportWorker now report) }, false⟩
  | .markWorkerError workerName error =>
    if workerName = "" then ⟨registry, false⟩
    else ⟨{ registry with
      workers := changeWorker registry.workers workerName (failWorker now error) }, error.isNone⟩
  | .updateBacklog report => QueueHealth.updateBacklog registry now report

/-- A call with the reading of the clock. -/
structure Call where
  action : Action
  now : Time

/-- The registry over its calls, each of which is recorded. -/
def machine (registry : Registry) (call : Call) : Option (Registry × List Call) :=
  some ((call.action.perform registry call.now).registry, [call])

end Model

section Purpose

/-- Marked as active, with a heartbeat that is not too old. -/
def Alive (fields : Fields) (options : Options) (now : Time) : Prop :=
  (fields "active").truthy = true ∧ ∃ heartbeat, fields "lastHeartbeat" = .number heartbeat ∧
    ((Number.finite (now : Int)).minus heartbeat).atMost options.staleAfterMs = true

variable (registry : Registry) (options : Options) (now : Time)

def RedisGood : Prop :=
  (registry.redis "connected").truthy = true ∧ (registry.redis "circuitOpen").truthy = false

def SchedulerGood : Prop := Alive registry.scheduler options now

/-- There is a worker, and all of them are alive. -/
def WorkersGood : Prop :=
  registry.workers ≠ [] ∧ ∀ worker ∈ registry.workers, Alive worker.2 options now

/-- Initialized, and without an error. -/
def QueuesGood : Prop :=
  (registry.queues "initialized").truthy = true ∧
    ∃ extensible conversions,
      registry.queues "initErrors" = .array [] extensible conversions

def BacklogDegraded : Prop :=
  (registry.backlog "degraded").truthy = true ∨
    ∃ depth, ((registry.backlog "worstDepth").orElse (.numeral 0)).numeric = some depth ∧
      options.backlogWarnDepth.atMost depth = true

def HardFailure : Prop :=
  ¬ RedisGood registry ∨ ¬ WorkersGood registry options now ∨ ¬ SchedulerGood registry options now

def AllGood : Prop :=
  RedisGood registry ∧ WorkersGood registry options now ∧ SchedulerGood registry options now ∧
    QueuesGood registry ∧ ¬ BacklogDegraded registry options

/-- A status with the health that the registry has. -/
structure Exact (status : Status) : Prop where
  red : status.health = .red ↔ HardFailure registry options now
  green : status.health = .green ↔ AllGood registry options now
  yellow : status.health = .yellow ↔
    ¬ HardFailure registry options now ∧ ¬ AllGood registry options now
  ready : status.readiness = .ready ↔ status.health = .green

/-- Whatever the options and the clock, `computeStatus` returns the exact health, and
`markQueueInitError` does not throw at an error that has a text. -/
structure Dependable : Prop where
  status : ∀ options now, ∃ status, computeStatus registry options now = some status ∧
    Exact registry options now status
  error : ∀ text now, (markQueueInitError registry now (some text)).threw = false

end Purpose

section Condition

/-- An array that may grow. -/
def growable : Value → Bool
  | .array _ extensible _ => extensible
  | _ => false

/-- A depth that compares with a number, once zero stands for nothing. -/
def comparable (value : Value) : Bool := (value.orElse (.numeral 0)).numeric.isSome

/-- A patch whose `initErrors`, if it has any, is an array that may grow, whose `worstDepth`
compares, and that names no worker after an inherited member. -/
def SoundPatch (patch : Value) : Prop :=
  patch.isObject = true →
    (∀ source ∈ part patch "queues", ∀ entry ∈ source.entries,
      entry.1 = "initErrors" → growable entry.2 = true) ∧
    (∀ source ∈ part patch "backlog", ∀ entry ∈ source.entries,
      entry.1 = "worstDepth" → comparable entry.2 = true) ∧
    ∀ source ∈ part patch "workers", ∀ entry ∈ source.entries, entry.1 ∉ objectMembers

instance (patch : Value) : Decidable (SoundPatch patch) := inferInstanceAs (Decidable (_ → _))

def Sound (call : Call) : Prop :=
  match call.action with
  | .setState patch | .updatePartial patch => SoundPatch patch
  | .markWorkerHeartbeat workerName _ | .markWorkerError workerName _ =>
    workerName ∉ objectMembers
  | _ => True

/-- What sound calls keep. -/
structure Kept (registry : Registry) : Prop where
  errors : growable (registry.queues "initErrors") = true
  depth : comparable (registry.backlog "worstDepth") = true

end Condition

section Merges

variable {fields : Fields} {source : Value} {name other : String} {value : Value}

/-- A field that is set has its new value. -/
@[simp] theorem set_self : (fields.set name value) name = value := if_pos rfl

/-- The others keep theirs. -/
theorem set_other (different : other ≠ name) : (fields.set name value) other = fields other :=
  if_neg different

/-- A merge leaves what was there or what the source has. -/
theorem assign_law (law : Value → Prop) (before : law (fields name))
    (entries : ∀ entry ∈ source.entries, entry.1 = name → law entry.2) :
    law (fields.assign source name) := by
  unfold Fields.assign
  generalize source.entries = listed at entries ⊢
  induction listed generalizing fields with
  | nil => exact before
  | cons entry rest inductionHypothesis =>
    obtain ⟨first, later⟩ := List.forall_mem_cons.mp entries
    refine inductionHypothesis ?_ later
    change law ((fields.set entry.1 entry.2) name)
    by_cases same : name = entry.1
    · rw [same, set_self]
      exact first same.symm
    · rw [set_other same]
      exact before

/-- A patch of the queues leaves an array that may grow. -/
theorem patchQueues_errors {queues : Fields} (before : growable (queues "initErrors") = true)
    (entries : ∀ entry ∈ source.entries, entry.1 = "initErrors" → growable entry.2 = true) :
    growable (patchQueues queues source "initErrors") = true := by
  cases found : (source.property "initErrors").filter Value.isArray with
  | none =>
    simp only [patchQueues, found]
    exact assign_law (fun value => growable value = true) before entries
  | some initErrors =>
    simp only [patchQueues, found, set_self]
    obtain ⟨read, isArray⟩ := Option.filter_eq_some_iff.mp found
    rcases Value.property_entry (by decide) read with rfl | listed
    · cases isArray
    · exact entries _ listed rfl

end Merges

section Invariant

variable {registry : Registry}

/-- A sound patch keeps the registry sound. -/
theorem updatePartial_kept {patch : Value} (sound : SoundPatch patch) (kept : Kept registry) :
    Kept (updatePartial registry patch) := by
  by_cases object : patch.isObject = true
  · obtain ⟨queues, backlog, -⟩ := sound object
    rw [updatePartial, if_pos object]
    constructor
    · cases found : part patch "queues" with
      | none => exact kept.errors
      | some source => exact patchQueues_errors kept.errors (queues source found)
    · cases found : part patch "backlog" with
      | none => exact kept.depth
      | some source =>
        exact assign_law (fun value => comparable value = true) kept.depth (backlog source found)
  · rw [updatePartial, if_neg object]
    exact kept

/-- An array that may grow takes a text, and may grow further. -/
theorem push_growable {value : Value} (grows : growable value = true) (text : String) :
    ∃ pushed, value.push text = some pushed ∧ growable pushed = true := by
  cases value with
  | array items extensible conversions =>
    cases extensible with
    | true => exact ⟨_, rfl, rfl⟩
    | false => cases grows
  | undefined | null | boolean | number | bigint | string | symbol | object => cases grows

/-- A report of an error keeps it so, and throws for want of an error. -/
theorem markQueueInitError_kept (now : Time) (error : Option String) (kept : Kept registry) :
    Kept (markQueueInitError registry now error).registry ∧
      (markQueueInitError registry now error).threw = error.isNone := by
  cases error with
  | none => exact ⟨⟨kept.errors, kept.depth⟩, rfl⟩
  | some text =>
    obtain ⟨pushed, appended, grows⟩ := push_growable kept.errors text
    have same : (registry.queues.set "initialized" (.boolean false)) "initErrors" =
        registry.queues "initErrors" := set_other (by decide)
    simp only [markQueueInitError, Option.bind_some, same, appended]
    exact ⟨⟨grows, kept.depth⟩, rfl⟩

/-- A Number compares. -/
theorem number_comparable (number : Number) :
    comparable ((Value.number number).orElse (.numeral 0)) = true := by
  unfold comparable Value.orElse
  split_ifs <;> rfl

/-- A report of the backlog keeps it so. -/
theorem updateBacklog_kept (now : Time) (report : BacklogReport) (kept : Kept registry) :
    Kept (updateBacklog registry now report).registry := by
  unfold updateBacklog
  split
  · exact kept
  · split
    · exact ⟨kept.errors, kept.depth⟩
    · next depth _ => exact ⟨kept.errors, number_comparable depth⟩

/-- So does any sound call. -/
theorem perform_kept {call : Call} (sound : Sound call) (kept : Kept registry) :
    Kept (call.action.perform registry call.now).registry := by
  obtain ⟨action, now⟩ := call
  cases action with
  | setState patch | updatePartial patch => exact updatePartial_kept sound kept
  | resetForTests => exact ⟨rfl, rfl⟩
  | markQueueInitialized => exact ⟨rfl, kept.depth⟩
  | markQueueInitError error => exact (markQueueInitError_kept now error kept).1
  | updateBacklog report => exact updateBacklog_kept now report kept
  | markSchedulerError error => cases error <;> exact ⟨kept.errors, kept.depth⟩
  | markWorkerHeartbeat workerName report | markWorkerError workerName error =>
    simp only [Action.perform]
    split <;> exact ⟨kept.errors, kept.depth⟩
  | markRedisConnected | markRedisDisconnected | setRedisCircuitOpen | markSchedulerActive
  | markSchedulerHeartbeat => exact ⟨kept.errors, kept.depth⟩

/-- Sound calls keep what the health is computed from. -/
theorem run_kept {history : List Call}
    (run : Run (takes machine anyAction) defaultState history registry)
    (sound : ∀ call ∈ history, Sound call) : Kept registry := by
  refine run.invariant (fun history registry => (∀ call ∈ history, Sound call) → Kept registry)
    (fun _ => ⟨rfl, rfl⟩) ?_ sound
  rintro history observed registry next - before ⟨call, -, taken⟩ all
  cases Option.some.inj taken
  exact perform_kept (all call (by simp)) (before fun old member => all old (by simp [member]))

end Invariant

section Status

variable {registry : Registry} {options : Options} {now : Time}

/-- What the code takes for an active worker with a recent heartbeat. -/
theorem alive_iff {fields : Fields} :
    ((fields "active").truthy && heartbeatOk fields options now) = true ↔
      Alive fields options now := by
  rw [Bool.and_eq_true, Alive, heartbeatOk]
  cases fields "lastHeartbeat" <;> simp

/-- What it takes for a good connection. -/
theorem redisOk_iff :
    ((registry.redis "connected").truthy && !(registry.redis "circuitOpen").truthy) = true ↔
      RedisGood registry := by
  rw [Bool.and_eq_true, Bool.not_eq_true', RedisGood]

/-- What it takes for good workers. -/
theorem workerOk_iff :
    (decide (0 < registry.workers.length) && registry.workers.all fun (_, worker) =>
      (worker "active").truthy && heartbeatOk worker options now) = true ↔
      WorkersGood registry options now := by
  simp only [Bool.and_eq_true, decide_eq_true_eq, List.length_pos_iff, List.all_eq_true, ← alive_iff,
    WorkersGood]

/-- The colours in order of their severity. -/
theorem colour_health (redisOk workerOk schedulerOk queuesOk backlogDegraded : Bool) :
    (colour redisOk workerOk schedulerOk queuesOk backlogDegraded).1 =
      if redisOk && workerOk && schedulerOk then
        if queuesOk && !backlogDegraded then .green else .yellow
      else .red := by
  revert redisOk workerOk schedulerOk queuesOk backlogDegraded
  decide

/-- The length of an array that may grow is a number. -/
theorem queuesOk_some (kept : Kept registry) :
    ∃ flag, queuesOk registry = some flag ∧ (flag = true ↔ QueuesGood registry) := by
  have grows := kept.errors
  unfold queuesOk QueuesGood
  cases (registry.queues "initialized").truthy with
  | false => exact ⟨false, rfl, by simp⟩
  | true =>
    cases stored : registry.queues "initErrors" with
    | array items extensible conversions =>
      refine ⟨_, rfl, ?_⟩
      simp [Value.isNumeral, Value.numeral]
    | undefined | null | boolean | number | bigint | string | symbol | object =>
      rw [stored] at grows
      cases grows

/-- It can tell of any kept registry whether the backlog is too long. -/
theorem backlogDegraded_some (options : Options) (kept : Kept registry) :
    ∃ flag, backlogDegraded registry options = some flag ∧
      (flag = true ↔ BacklogDegraded registry options) := by
  obtain ⟨depth, converted⟩ := Option.isSome_iff_exists.mp kept.depth
  unfold backlogDegraded BacklogDegraded
  cases (registry.backlog "degraded").truthy with
  | true => exact ⟨true, rfl, by simp⟩
  | false =>
    refine ⟨options.backlogWarnDepth.atMost depth, by simp [Value.atLeast, converted], ?_⟩
    simp [converted]

/-- The health of five flags that say what they are named after. -/
theorem statusOf_exact {redisOk workerOk schedulerOk queuesOk backlogDegraded : Bool}
    (redis : redisOk = true ↔ RedisGood registry)
    (workers : workerOk = true ↔ WorkersGood registry options now)
    (scheduler : schedulerOk = true ↔ SchedulerGood registry options now)
    (queues : queuesOk = true ↔ QueuesGood registry)
    (backlog : backlogDegraded = true ↔ BacklogDegraded registry options) :
    Exact registry options now
      (statusOf redisOk workerOk schedulerOk queuesOk backlogDegraded now) := by
  have health := colour_health redisOk workerOk schedulerOk queuesOk backlogDegraded
  have red : (statusOf redisOk workerOk schedulerOk queuesOk backlogDegraded now).health = .red ↔
      HardFailure registry options now := by
    rw [HardFailure, ← redis, ← workers, ← scheduler]
    change (colour _ _ _ _ _).1 = _ ↔ _
    rw [health]
    cases redisOk <;> cases workerOk <;> cases schedulerOk <;> cases queuesOk <;>
      cases backlogDegraded <;> decide
  have green : (statusOf redisOk workerOk schedulerOk queuesOk backlogDegraded now).health =
      .green ↔ AllGood registry options now := by
    rw [AllGood, ← redis, ← workers, ← scheduler, ← queues, ← backlog]
    change (colour _ _ _ _ _).1 = _ ↔ _
    rw [health]
    cases redisOk <;> cases workerOk <;> cases schedulerOk <;> cases queuesOk <;>
      cases backlogDegraded <;> decide
  refine ⟨red, green, ?_, ?_⟩
  · rw [← red, ← green]
    cases (statusOf redisOk workerOk schedulerOk queuesOk backlogDegraded now).health <;> decide
  · change (if (colour _ _ _ _ _).1 = .green then _ else _) = _ ↔ (colour _ _ _ _ _).1 = _
    split
    · next ready => exact iff_of_true rfl ready
    · next degraded => exact iff_of_false nofun degraded

/-- It can tell its status, exactly. -/
theorem computeStatus_exact (options : Options) (now : Time) (kept : Kept registry) :
    ∃ status, computeStatus registry options now = some status ∧
      Exact registry options now status := by
  obtain ⟨initialized, queues, queuesGood⟩ := queuesOk_some kept
  obtain ⟨degraded, backlog, isDegraded⟩ := backlogDegraded_some options kept
  refine ⟨statusOf _ _ _ initialized degraded now, ?_,
    statusOf_exact redisOk_iff workerOk_iff alive_iff queuesGood isDegraded⟩
  simp only [computeStatus, queues, backlog, Option.bind_eq_bind, Option.bind_some]

end Status

section Claims

variable {registry : Registry} {history : List Call}

/-- After any sound calls the health is exact under every reading of the clock, and an error of
the queues is recorded. -/
theorem health_exact (run : Run (takes machine anyAction) defaultState history registry)
    (sound : ∀ call ∈ history, Sound call) : Dependable registry := by
  have kept := run_kept run sound
  refine ⟨fun options now => computeStatus_exact options now kept, fun text now => ?_⟩
  exact (markQueueInitError_kept now (some text) kept).2

def soundCalls : List Call :=
  [⟨.markRedisConnected, 1000⟩,
    ⟨.updatePartial (.literal "queues" (.literal "initErrors" .emptyArray)), 2000⟩,
    ⟨.updatePartial (.literal "backlog" (.literal "worstDepth" (.string "12"))), 3000⟩,
    ⟨.markWorkerError "email" (some "timeout"), 4000⟩,
    ⟨.markQueueInitError none, 5000⟩]

/-- The calls of the sample leave a dependable registry. -/
theorem health_exact_calls :
    Dependable ((execute machine defaultState soundCalls).get rfl).1 := by
  refine health_exact (run_of_schedule soundCalls rfl) ?_
  refine List.forall_mem_cons.mpr ⟨trivial, List.forall_mem_cons.mpr ⟨?_,
    List.forall_mem_cons.mpr ⟨?_, List.forall_mem_cons.mpr ⟨?_, List.forall_mem_cons.mpr ⟨trivial,
      List.forall_mem_nil _⟩⟩⟩⟩⟩
  · change SoundPatch _
    decide
  · change SoundPatch _
    decide
  · change _ ∉ objectMembers
    decide

/-- A patch with null for the errors of initialized queues. -/
def nullErrors : Value :=
  .literal "queues" (.object none [("initialized", .boolean true), ("initErrors", .null)]
    ⟨some .notANumber, some "[object Object]", true⟩)

/-- After it `computeStatus` and `markQueueInitError` throw. -/
theorem null_errors_throw :
    Run (takes machine anyAction) defaultState [⟨.updatePartial nullErrors, 1000⟩]
        (updatePartial defaultState nullErrors) ∧
      computeStatus (updatePartial defaultState nullErrors) {} 2000 = none ∧
      (markQueueInitError (updatePartial defaultState nullErrors) 2000 (some "refused")).threw =
        true ∧
      ¬ Dependable (updatePartial defaultState nullErrors) := by
  have throws : computeStatus (updatePartial defaultState nullErrors) {} 2000 = none := by decide
  refine ⟨Run.start.step ⟨⟨.updatePartial nullErrors, 1000⟩, trivial, rfl⟩, throws, by decide, ?_⟩
  intro dependable
  obtain ⟨status, returned, -⟩ := dependable.status {} 2000
  cases throws.symm.trans returned

end Claims

end PlanBuddy.QueueHealth
