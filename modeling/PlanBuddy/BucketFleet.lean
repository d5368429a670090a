import Mathlib.Data.List.TakeWhile
import PlanBuddy.Queues
import PlanBuddy.TokenBucket

/-!
# The buckets of a fleet of workers

Every worker of a rate-limited queue calls `ensureRateLimitBucket` for its provider when it
starts, with the capacity and the rate of its own configuration, and `acquireRateLimit` before
each claim. Workers of several queues and deployments start, poll and stop in any order; a
query may fail, and a poll whose query fails goes ahead.

`start` sets `_running` first and registers the listener of wakeups before it awaits the INSERT.
So a wakeup can make a worker poll while its INSERT is under way, or after it has failed, and a
poll that finds no bucket is answered like one that is let through. The INSERT does nothing when
the bucket is there: the first one that arrives decides the settings, from then on no poll finds
the bucket missing, no restart refills it, and at every key the calls are those of a single
bucket that was full once.
-/

namespace PlanBuddy.RateLimits

section Model

/-- `RATE_LIMIT.PROVIDER`. -/
def providerOf : QueueKey → Option String
  | .webhookEvents => some "webhook"
  | .emailDispatch => some "resend"
  | .refundRetry => some "razorpay"
  | _ => none

/-- The entry of `RATE_LIMIT.PROVIDERS`. -/
structure Limit where
  capacity : Rat
  refillRatePerSec : Rat
deriving DecidableEq

deriving instance DecidableEq for Grant

/-- `RATE_LIMIT.PROVIDERS`. -/
def providers : String → Option Limit
  | "razorpay" => some ⟨100, 20⟩
  | "resend" => some ⟨200, 50⟩
  | "webhook" => some ⟨500, 100⟩
  | _ => none

/-- The text of `provider` in the template of the bucket's key. -/
def providerText (queueKey : QueueKey) : String := (providerOf queueKey).getD "undefined"

def bucketKey (queueKey : QueueKey) : String := providerText queueKey ++ ":global"

/-- `cfg.capacity ?? 100` and `cfg.refillRatePerSec ?? 10`. -/
def limitOf (limits : String → Option Limit) (queueKey : QueueKey) : Limit :=
  (limits (providerText queueKey)).getD ⟨100, 10⟩

/-- The row that `ensureRateLimitBucket` inserts. -/
def Limit.bucket (limit : Limit) (now : Timestamp) : RateLimitBucket where
  tokens := limit.capacity
  capacity := limit.capacity
  refillRatePerSec := limit.refillRatePerSec
  lastRefillAt := now
  throttledUntil := none
  consecutiveThrottles := 0

/-- A worker object: whether `_running` is set and the listener of wakeups registered, and how
many calls of `start` await what comes before the listener, how many await their INSERT, and how
many polls await the answer of `acquireRateLimit`. A listener is never removed. -/
structure Worker where
  queueKey : QueueKey
  limits : String → Option Limit
  running : Bool := false
  listening : Bool := false
  registering : Nat := 0
  ensuring : Nat := 0
  polling : Nat := 0

/-- The table of buckets, and the workers of all processes. -/
structure Fleet where
  buckets : String → Option RateLimitBucket
  workers : List Worker

inductive FleetEvent where
  | created (key : String) (limit : Limit) (now : Timestamp)
  | allowed (key : String) (grant : Grant)
  | refused (key : String)
  | unlimited (key : String)
  | unchecked (key : String)
deriving DecidableEq

def ensureRateLimitBucket (key : String) (limit : Limit) (now : Timestamp) (fleet : Fleet) :
    Fleet × List FleetEvent :=
  match fleet.buckets key with
  | some _ => (fleet, [])
  | none => ({ fleet with buckets := Function.update fleet.buckets key (some (limit.bucket now)) },
      [.created key limit now])

/-- `acquireRateLimit(bucketKey, 1)`, where the query does not fail. -/
def acquireRateLimit (key : String) (now : Timestamp) (fleet : Fleet) : Fleet × List FleetEvent :=
  match fleet.buckets key with
  | none => (fleet, [.unlimited key])
  | some row =>
    let (next, allowed) := row.draw 1 now
    ({ fleet with buckets := Function.update fleet.buckets key (some next) },
      [if allowed then .allowed key ⟨1, now⟩ else .refused key])

inductive FleetAction where
  | load (queueKey : QueueKey) (limits : String → Option Limit)
  | start (position : Nat)
  | listen (position : Nat)
  | ensure (position : Nat) (now : Timestamp)
  | poll (position : Nat)
  | acquire (position : Nat) (now : Timestamp)
  | acquireFails (position : Nat)
  | stop (position : Nat)

def Worker.key (worker : Worker) : String := bucketKey worker.queueKey

def Fleet.set (fleet : Fleet) (position : Nat) (worker : Worker) : Fleet :=
  { fleet with workers := fleet.workers.set position worker }

/-- One piece of `start`, `_poll` or `stop`, or a query that arrives. An INSERT that fails is one
that is never taken: the call of `start` has thrown, and the worker runs and listens. -/
def manage (config : QueueConfig) (fleet : Fleet) :
    FleetAction → Option (Fleet × List FleetEvent)
  | .load queueKey limits =>
    some ({ fleet with workers := fleet.workers ++ [{ queueKey, limits }] }, [])
  | .start position =>
    (fleet.workers[position]?).map fun worker =>
      if worker.running then (fleet, [])
      else (fleet.set position
        { worker with running := true, registering := worker.registering + 1 }, [])
  | .listen position =>
    (fleet.workers[position]?).bind fun worker =>
      if 0 < worker.registering then
        some (fleet.set position
          { worker with
            registering := worker.registering - 1
            listening := true
            ensuring := if config.rateLimitEnabled worker.queueKey then worker.ensuring + 1
              else worker.ensuring }, [])
      else none
  | .ensure position now =>
    (fleet.workers[position]?).bind fun worker =>
      if 0 < worker.ensuring then
        some (ensureRateLimitBucket worker.key (limitOf worker.limits worker.queueKey) now
          (fleet.set position { worker with ensuring := worker.ensuring - 1 }))
      else none
  | .poll position =>
    (fleet.workers[position]?).bind fun worker =>
      if worker.running = true ∧ worker.listening = true ∧
          config.rateLimitEnabled worker.queueKey = true then
        some (fleet.set position { worker with polling := worker.polling + 1 }, [])
      else none
  | .acquire position now =>
    (fleet.workers[position]?).bind fun worker =>
      if 0 < worker.polling then
        some (acquireRateLimit worker.key now
          (fleet.set position { worker with polling := worker.polling - 1 }))
      else none
  | .acquireFails position =>
    (fleet.workers[position]?).bind fun worker =>
      if 0 < worker.polling then
        some (fleet.set position { worker with polling := worker.polling - 1 },
          [.unchecked worker.key])
      else none
  | .stop position =>
    (fleet.workers[position]?).map fun worker =>
      (fleet.set position { worker with running := false }, [])

/-- No bucket has been created, and no worker has been loaded. -/
def Fleet.empty : Fleet := ⟨fun _ => none, []⟩

/-- The grants at one key. -/
def grantsAt (key : String) (history : List FleetEvent) : List Grant :=
  history.filterMap fun
    | .allowed other grant => if other = key then some grant else none
    | _ => none

/-- The buckets created at one key. -/
def createdAt (key : String) (history : List FleetEvent) : List (Limit × Timestamp) :=
  history.filterMap fun
    | .created other limit now => if other = key then some (limit, now) else none
    | _ => none

/-- The event creates the bucket of a key. -/
def FleetEvent.creates (key : String) : FleetEvent → Bool
  | .created other _ _ => decide (other = key)
  | _ => false

/-- What has happened since the bucket of a key was created, its creation included. -/
def sinceCreated (key : String) (history : List FleetEvent) : List FleetEvent :=
  history.dropWhile fun event => !event.creates key

end Model

section Keys

variable {config : QueueConfig} {fleet next : Fleet} {history observed : List FleetEvent}
  {key : String}

/-- The grants of a history are those of its parts. -/
theorem grantsAt_append (history observed : List FleetEvent) :
    grantsAt key (history ++ observed) = grantsAt key history ++ grantsAt key observed :=
  List.filterMap_append

/-- So are the buckets created. -/
theorem createdAt_append (history observed : List FleetEvent) :
    createdAt key (history ++ observed) = createdAt key history ++ createdAt key observed :=
  List.filterMap_append

/-- Whether a bucket was created can be read off the events one by one. -/
theorem createdAt_nil_iff :
    createdAt key history = [] ↔ ∀ event ∈ history, (!event.creates key) = true := by
  rw [createdAt, List.filterMap_eq_nil_iff]
  refine forall_congr' fun event => forall_congr' fun _ => ?_
  cases event <;> simp [FleetEvent.creates]

/-- Where no bucket was created, nothing has come since. -/
theorem sinceCreated_nil_iff : sinceCreated key history = [] ↔ createdAt key history = [] := by
  rw [createdAt_nil_iff, sinceCreated, List.dropWhile_eq_nil_iff]

/-- Where one was, whatever comes later has come since. -/
theorem sinceCreated_append (created : createdAt key history ≠ []) :
    sinceCreated key (history ++ observed) = sinceCreated key history ++ observed := by
  have some : (sinceCreated key history).isEmpty = false :=
    List.isEmpty_eq_false_iff.mpr (mt sinceCreated_nil_iff.mp created)
  unfold sinceCreated at some ⊢
  rw [List.dropWhile_append, some]
  rfl

/-- What one step can do at one key. -/
inductive KeyStep (key : String) : Option RateLimitBucket → List FleetEvent →
    Option RateLimitBucket → Prop
  | silent (stored : Option RateLimitBucket) (observed : List FleetEvent)
      (grants : grantsAt key observed = []) (created : createdAt key observed = [])
      (limited : .unlimited key ∉ observed) : KeyStep key stored observed stored
  | created (limit : Limit) (now : Timestamp) :
      KeyStep key none [.created key limit now] (some (limit.bucket now))
  | unlimited : KeyStep key none [.unlimited key] none
  | drawn (row : RateLimitBucket) (now : Timestamp) :
      KeyStep key (some row)
        [if (row.draw 1 now).2 then .allowed key ⟨1, now⟩ else .refused key]
        (some (row.draw 1 now).1)

/-- The INSERT creates the bucket of its own key, if there is none. -/
theorem ensure_key (fleet : Fleet) (other : String) (limit : Limit) (now : Timestamp) :
    KeyStep key (fleet.buckets key) (ensureRateLimitBucket other limit now fleet).2
      ((ensureRateLimitBucket other limit now fleet).1.buckets key) := by
  unfold ensureRateLimitBucket
  cases found : fleet.buckets other with
  | some row => exact .silent _ _ rfl rfl (by simp)
  | none =>
    by_cases same : key = other
    · subst same
      rw [found]
      simp only [Function.update_self]
      exact .created limit now
    · simp only [Function.update_of_ne same]
      exact .silent _ _ rfl (by simp [createdAt, Ne.symm same]) (by simp)

/-- A call of the bucket draws from that of its own key, if there is one. -/
theorem acquire_key (fleet : Fleet) (other : String) (now : Timestamp) :
    KeyStep key (fleet.buckets key) (acquireRateLimit other now fleet).2
      ((acquireRateLimit other now fleet).1.buckets key) := by
  unfold acquireRateLimit
  by_cases same : key = other
  · subst same
    cases found : fleet.buckets key with
    | none =>
      simp only [found]
      exact .unlimited
    | some row =>
      simp only [Function.update_self]
      exact .drawn row now
  · cases found : fleet.buckets other with
    | none => exact .silent _ _ rfl rfl (by simp [same])
    | some row =>
      simp only [Function.update_of_ne same]
      cases (row.draw 1 now).2 with
      | true => exact .silent _ _ (by simp [grantsAt, Ne.symm same]) rfl (by simp)
      | false => exact .silent _ _ rfl rfl (by simp)

/-- One step of any worker, seen at any key. -/
theorem manage_key (key : String) (taken : takes (manage config) anyAction fleet observed next) :
    KeyStep key (fleet.buckets key) observed (next.buckets key) := by
  have idle : KeyStep key (fleet.buckets key) [] (fleet.buckets key) :=
    .silent _ _ rfl rfl (List.not_mem_nil)
  obtain ⟨action, -, taken⟩ := taken
  cases action with
  | load queueKey limits =>
    obtain ⟨rfl, rfl⟩ := Prod.mk.inj (Option.some.inj taken)
    exact idle
  | start position =>
    simp only [manage, Option.map_eq_some_iff] at taken
    obtain ⟨worker, -, started⟩ := taken
    split at started <;>
    · obtain ⟨rfl, rfl⟩ := Prod.mk.inj started
      exact idle
  | listen position =>
    simp only [manage, Option.bind_eq_some_iff, Option.ite_none_right_eq_some, Option.some.injEq,
      Prod.mk.injEq] at taken
    obtain ⟨worker, -, -, rfl, rfl⟩ := taken
    exact idle
  | ensure position now =>
    simp only [manage, Option.bind_eq_some_iff, Option.ite_none_right_eq_some,
      Option.some.injEq] at taken
    obtain ⟨worker, -, -, inserted⟩ := taken
    obtain ⟨rfl, rfl⟩ := Prod.mk.inj inserted
    exact ensure_key (fleet.set position { worker with ensuring := worker.ensuring - 1 }) _ _ _
  | poll position =>
    simp only [manage, Option.bind_eq_some_iff, Option.ite_none_right_eq_some, Option.some.injEq,
      Prod.mk.injEq] at taken
    obtain ⟨worker, -, -, rfl, rfl⟩ := taken
    exact idle
  | acquire position now =>
    simp only [manage, Option.bind_eq_some_iff, Option.ite_none_right_eq_some,
      Option.some.injEq] at taken
    obtain ⟨worker, -, -, drawn⟩ := taken
    obtain ⟨rfl, rfl⟩ := Prod.mk.inj drawn
    exact acquire_key (fleet.set position { worker with polling := worker.polling - 1 }) _ _
  | acquireFails position =>
    simp only [manage, Option.bind_eq_some_iff, Option.ite_none_right_eq_some, Option.some.injEq,
      Prod.mk.injEq] at taken
    obtain ⟨worker, -, -, rfl, rfl⟩ := taken
    exact .silent _ _ rfl rfl (by simp)
  | stop position =>
    simp only [manage, Option.map_eq_some_iff, Prod.mk.injEq] at taken
    obtain ⟨worker, -, rfl, rfl⟩ := taken
    exact idle

end Keys

section Runs

variable {config : QueueConfig} {fleet next : Fleet} {history observed : List FleetEvent}
  {key : String}

/-- What has happened at a key: nothing but unlimited polls, or one bucket was created there, full,
and since then no poll was unlimited and every grant was drawn from it. -/
def OneBucket (key : String) (history : List FleetEvent) : Option RateLimitBucket → Prop
  | none => createdAt key history = [] ∧ grantsAt key history = []
  | some row => .unlimited key ∉ sinceCreated key history ∧
      ∃ limit now, createdAt key history = [(limit, now)] ∧
        Run (takes serve Asks) (limit.bucket now) (grantsAt key history) row

/-- A draw is a call of the bucket. -/
theorem draw_serves (row : RateLimitBucket) (now : Timestamp) :
    takes serve Asks row (grantsAt key
      [if (row.draw 1 now).2 then .allowed key ⟨1, now⟩ else .refused key]) (row.draw 1 now).1 := by
  refine ⟨⟨1, now⟩, zero_le_one, ?_⟩
  cases allowed : (row.draw 1 now).2 <;> simp [serve, atomicTokenDeduct, grantsAt, allowed]

/-- Each step keeps to the one bucket of a key. -/
theorem keyStep_oneBucket {before after : Option RateLimitBucket}
    (bucket : OneBucket key history before) (step : KeyStep key before observed after) :
    OneBucket key (history ++ observed) after := by
  cases step with
  | silent _ _ grants created limited =>
    cases before with
    | none =>
      rw [OneBucket, createdAt_append, grantsAt_append, grants, created, List.append_nil,
        List.append_nil]
      exact bucket
    | some row =>
      obtain ⟨since, limit, now, once, run⟩ := bucket
      refine ⟨?_, limit, now, ?_, ?_⟩
      · rw [sinceCreated_append (by simp [once]), List.mem_append, not_or]
        exact ⟨since, limited⟩
      · rw [createdAt_append, created, List.append_nil, once]
      · rw [grantsAt_append, grants, List.append_nil]
        exact run
  | created limit now =>
    obtain ⟨uncreated, ungranted⟩ := bucket
    refine ⟨?_, limit, now, ?_, ?_⟩
    · rw [sinceCreated, List.dropWhile_append_of_pos (createdAt_nil_iff.mp uncreated)]
      simp [FleetEvent.creates]
    · rw [createdAt_append, uncreated]
      simp [createdAt]
    · rw [grantsAt_append, ungranted]
      exact .start
  | unlimited =>
    obtain ⟨uncreated, ungranted⟩ := bucket
    exact ⟨by rw [createdAt_append, uncreated]; rfl, by rw [grantsAt_append, ungranted]; rfl⟩
  | drawn row now =>
    obtain ⟨since, limit, created, once, run⟩ := bucket
    refine ⟨?_, limit, created, ?_, ?_⟩
    · rw [sinceCreated_append (by simp [once]), List.mem_append, not_or]
      refine ⟨since, ?_⟩
      cases (row.draw 1 now).2 <;> simp
    · rw [createdAt_append, once]
      cases (row.draw 1 now).2 <;> simp [createdAt]
    · rw [grantsAt_append]
      exact run.step (draw_serves row now)

/-- Whatever workers start, poll and stop in whatever order, with queries that arrive at any time
or fail: a bucket is created at most once, with the settings of the first worker whose INSERT
arrived, which it keeps; since then no poll finds it missing, and the polls it lets through by any
of its grants are covered by that one filling and the refill since. -/
theorem fleet_covered (run : Run (takes (manage config) anyAction) .empty history fleet)
    (key : String) :
    .unlimited key ∉ sinceCreated key history ∧
      ((createdAt key history = [] ∧ grantsAt key history = []) ∨
        ∃ limit now, createdAt key history = [(limit, now)] ∧
          (∃ row, fleet.buckets key = some row ∧ row.capacity = limit.capacity ∧
            row.refillRatePerSec = limit.refillRatePerSec) ∧
          ∀ earlier later grant, grantsAt key history = earlier ++ grant :: later →
            granted (earlier ++ [grant]) ≤ limit.capacity +
              limit.refillRatePerSec * secondsBetween now grant.grantedAt) := by
  have bucket : OneBucket key history (fleet.buckets key) := run.invariant
    (fun history fleet => OneBucket key history (fleet.buckets key))
    (show OneBucket key [] none from ⟨rfl, rfl⟩)
    (by
      rintro history observed state next _ bucket taken
      exact keyStep_oneBucket bucket (manage_key key taken))
  cases stored : fleet.buckets key with
  | none =>
    rw [stored] at bucket
    refine ⟨?_, .inl bucket⟩
    rw [sinceCreated_nil_iff.mpr bucket.1]
    exact List.not_mem_nil
  | some row =>
    rw [stored] at bucket
    obtain ⟨since, limit, now, once, served⟩ := bucket
    have settings := run_settings served
    exact ⟨since, .inr ⟨limit, now, once, ⟨row, rfl, settings⟩, run_covered served⟩⟩

end Runs

section Sample

/-- A worker is woken before its INSERT has arrived, and restarted with a raised limit, which its
bucket never takes over. -/
def raisedLimit : List FleetAction :=
  [.load .refundRetry providers, .start 0, .listen 0, .poll 0, .acquire 0 0, .ensure 0 0,
    .poll 0, .acquire 0 0, .stop 0, .load .refundRetry (fun _ => some ⟨1000, 1000⟩), .start 1,
    .listen 1, .ensure 1 5000000, .poll 1, .acquire 1 5000000, .poll 1, .acquireFails 1]

/-- The sample goes through. -/
theorem raisedLimit_accepted : (execute (manage queues) .empty raisedLimit).isSome := by
  decide +kernel

/-- The settings are those of the first start, before which one poll was not limited; both polls
that reached the bucket were let through. -/
theorem raisedLimit_history :
    ((execute (manage queues) .empty raisedLimit).get raisedLimit_accepted).2.head? =
        some (.unlimited "razorpay:global") ∧
      createdAt "razorpay:global" ((execute (manage queues) .empty raisedLimit).get
        raisedLimit_accepted).2 = [(⟨100, 20⟩, 0)] ∧
      grantsAt "razorpay:global" ((execute (manage queues) .empty raisedLimit).get
        raisedLimit_accepted).2 = [⟨1, 0⟩, ⟨1, 5000000⟩] := by
  decide +kernel

/-- Both grants are covered by the first filling and the refill of five seconds. -/
theorem fleet_covered_restart :
    ∃ history fleet, Run (takes (manage queues) anyAction) .empty history fleet ∧
      history.head? = some (.unlimited "razorpay:global") ∧
      .unlimited "razorpay:global" ∉ sinceCreated "razorpay:global" history ∧
      granted (grantsAt "razorpay:global" history) ≤ 100 + 20 * secondsBetween 0 5000000 := by
  have run := run_of_schedule raisedLimit raisedLimit_accepted
  obtain ⟨first, created, grants⟩ := raisedLimit_history
  obtain ⟨limited, ⟨uncreated, -⟩ | ⟨limit, now, once, -, covered⟩⟩ :=
    fleet_covered run "razorpay:global"
  · rw [created] at uncreated
    cases uncreated
  · rw [created] at once
    cases once
    have bound := covered [⟨1, 0⟩] [] ⟨1, 5000000⟩ grants
    exact ⟨_, _, run, first, limited, grants ▸ bound⟩

end Sample

end PlanBuddy.RateLimits
