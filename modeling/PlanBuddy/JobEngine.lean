import PlanBuddy.Queues
import PlanBuddy.Table
import Mathlib.Algebra.Group.Nat.Defs
import Mathlib.Data.List.Sort

/-!
# Job rows and the statements of the atomic engine

Each definition is one SQL statement of `atomic-engine.js` on a job table, or the
JavaScript between two of them. A statement is atomic. Values a statement takes
from outside the table are arguments: the database time `NOW()`, the application
clock `Date.now()`, a random draw, the rows other transactions have locked, and
the order in which a scan meets rows that its ORDER BY leaves tied.

`commitFailure` is a SELECT and a later UPDATE, and `reclaimExpiredLeases` is two
UPDATEs; their halves are separate definitions, so that other statements can run
between them. The three job tables differ only in payload columns that no
statement here reads, which are left out.
-/

namespace PlanBuddy.JobEngine

/-- Row identifiers are UUIDs, of which only equality matters. -/
abbrev JobId := Nat

inductive QueueStatus where
  | pending
  | processing
  | processed
  | failed
  | deadLetter
deriving DecidableEq

/-- The columns of a job table that the engine reads or writes. -/
structure JobRow where
  id : JobId
  shardKey : Int
  regionId : String
  status : QueueStatus
  priority : Int
  runAfter : Option Time
  leasedBy : Option WorkerId
  leaseExpiresAt : Option Time
  leaseVersion : Nat
  attemptCount : Nat
  error : Option String
  errorStack : Option String
  result : Option Json
  processedAt : Option Time
  createdAt : Time
  updatedAt : Time

abbrev Jobs := Table JobRow.id

/-- What an INSERT supplies; every other column takes its schema default. -/
structure NewJob where
  id : JobId
  shardKey : Int := 0
  regionId : String := "us-east-1"
  priority : Int := 0
  runAfter : Option Time := none
  createdAt : Time

def NewJob.row (job : NewJob) : JobRow where
  id := job.id
  shardKey := job.shardKey
  regionId := job.regionId
  status := .pending
  priority := job.priority
  runAfter := job.runAfter
  leasedBy := none
  leaseExpiresAt := none
  leaseVersion := 0
  attemptCount := 0
  error := none
  errorStack := none
  result := none
  processedAt := none
  createdAt := job.createdAt
  updatedAt := job.createdAt

/-- A thrown value: an `Error` with its message and stack, or anything else as
text. Either may ask for the dead letter state directly. -/
inductive Thrown where
  | error (message : String) (stack : Option String) (forceDeadLetter : Bool)
  | other (text : String) (forceDeadLetter : Bool)

def Thrown.message : Thrown → String
  | .error message _ _ => message
  | .other text _ => text

def Thrown.stack : Thrown → Option String
  | .error _ stack _ => stack
  | .other _ _ => none

def Thrown.forceDeadLetter : Thrown → Bool
  | .error _ _ force => force
  | .other _ force => force

/-- `MAX_RETRY_ATTEMPTS[queueKey] ?? 5`. -/
def maxAttempts (config : QueueConfig) (queueKey : QueueKey) : Nat :=
  (config.maxRetryAttempts queueKey).getD 5

/-- Exponential backoff with full jitter, capped at ten minutes. `Math.random()`
is `draw` over two to the fifty-third. -/
def computeNextRunAt (config : QueueConfig) (queueKey : QueueKey) (attempt : Nat)
    (clock : Time) (draw : Nat) : Time :=
  let base := (config.retryDelayBaselineMs queueKey).getD 1000
  let exp := min (10 * 60 * 1000) (base * 2 ^ attempt)
  clock + (draw * exp / 2 ^ 53 : Nat)

section Claim

structure ClaimRequest where
  batchSize : Nat
  workerId : WorkerId
  shardKeys : Option (List Int)
  regionId : Option String

/-- The WHERE clause of the claiming subselect. A missing or empty shard list
imposes no shard condition. -/
def claimable (request : ClaimRequest) (region : String) (now : Time) (row : JobRow) : Bool :=
  decide (row.status = .pending) &&
    row.runAfter.all (fun due => decide (due ≤ now)) &&
    (match request.shardKeys with
      | none => true
      | some [] => true
      | some keys => decide (row.shardKey ∈ keys)) &&
    decide (row.regionId = region)

/-- `ORDER BY priority DESC, created_at ASC`; ties are met in scan order. -/
def claimsBefore (scan : JobId → Nat) (left right : JobRow) : Prop :=
  right.priority < left.priority ∨
    (left.priority = right.priority ∧
      (left.createdAt < right.createdAt ∨
        (left.createdAt = right.createdAt ∧ scan left.id ≤ scan right.id)))

instance (scan : JobId → Nat) : DecidableRel (claimsBefore scan) := by
  intro left right
  unfold claimsBefore
  infer_instance

/-- The SET clause of the claim. -/
def JobRow.claim (row : JobRow) (workerId : WorkerId) (leaseExp now : Time) : JobRow :=
  { row with
    status := .processing
    leasedBy := some workerId
    leaseExpiresAt := some leaseExp
    leaseVersion := row.leaseVersion + 1
    updatedAt := now }

/-- The ids the subselect yields: claimable rows not locked elsewhere, in order, up
to the batch size. -/
def claimChoice (request : ClaimRequest) (region : String) (now : Time)
    (locked : JobId → Bool) (scan : JobId → Nat) (jobs : Jobs) : List JobId :=
  (((jobs.select (fun row => claimable request region now row && !locked row.id)).insertionSort
    (claimsBefore scan)).take request.batchSize).map JobRow.id

/-- `drainRows` is what the heartbeat table says about the worker; a requested drain
skips the claim. Returns the table and the claimed rows as written. -/
def atomicClaim (config : QueueConfig) (queueKey : QueueKey) (request : ClaimRequest)
    (drainRows : List Bool) (clock now : Time) (locked : JobId → Bool) (scan : JobId → Nat)
    (jobs : Jobs) : Jobs × List JobRow :=
  let leaseMs := (config.leaseTimeoutMs queueKey).getD 30000
  let leaseExp := clock + (leaseMs : Nat)
  let region := request.regionId.getD config.currentRegion
  if drainRows.head?.getD false then (jobs, [])
  else
    let chosen := claimChoice request region now locked scan jobs
    (jobs.update (fun row => decide (row.id ∈ chosen))
        (fun row => row.claim request.workerId leaseExp now),
      jobs.returning (fun row => decide (row.id ∈ chosen))
        (fun row => row.claim request.workerId leaseExp now))

end Claim

section Lease

/-- The three values every call of a lease holder carries. -/
structure LeaseCall where
  id : JobId
  workerId : WorkerId
  leaseVersion : Nat

/-- `id = $1 AND leased_by = $2 AND lease_version = $3 AND status = 'processing'`. -/
def LeaseCall.holds (call : LeaseCall) (row : JobRow) : Bool :=
  decide (row.id = call.id ∧ row.leasedBy = some call.workerId ∧
    row.leaseVersion = call.leaseVersion ∧ row.status = .processing)

def JobRow.extend (row : JobRow) (extendMs : Int) (now : Time) : JobRow :=
  { row with leaseExpiresAt := some (now + extendMs), updatedAt := now }

/-- Returns whether a row was extended. -/
def extendLease (call : LeaseCall) (extendMs : Int) (now : Time) (jobs : Jobs) : Jobs × Bool :=
  (jobs.update call.holds (fun row => row.extend extendMs now),
    decide (0 < (jobs.select call.holds).length))

def JobRow.succeed (row : JobRow) (result : Option Json) (now : Time) : JobRow :=
  { row with
    status := .processed
    leasedBy := none
    leaseExpiresAt := none
    processedAt := some now
    updatedAt := now
    result := storedJson result }

def commitSuccess (call : LeaseCall) (result : Option Json) (now : Time) (jobs : Jobs) : Jobs :=
  jobs.update call.holds (fun row => row.succeed result now)

/-- What `commitFailure` knows between its SELECT and its UPDATE. -/
structure FailureWrite where
  call : LeaseCall
  thrown : Thrown
  nextAttempt : Nat

/-- The SELECT of `commitFailure`; without a matching row the call returns. -/
def commitFailureSelect (call : LeaseCall) (thrown : Thrown) (jobs : Jobs) : Option FailureWrite :=
  (jobs.select call.holds).head?.map (fun row => ⟨call, thrown, row.attemptCount + 1⟩)

def FailureWrite.isDead (config : QueueConfig) (queueKey : QueueKey) (write : FailureWrite) : Bool :=
  decide (maxAttempts config queueKey ≤ write.nextAttempt) || write.thrown.forceDeadLetter

def JobRow.bury (row : JobRow) (nextAttempt : Nat) (thrown : Thrown) (now : Time) : JobRow :=
  { row with
    status := .deadLetter
    leasedBy := none
    leaseExpiresAt := none
    attemptCount := nextAttempt
    error := some thrown.message
    errorStack := thrown.stack
    updatedAt := now }

def JobRow.retry (row : JobRow) (nextAttempt : Nat) (runAfter : Time) (thrown : Thrown)
    (now : Time) : JobRow :=
  { row with
    status := .pending
    leasedBy := none
    leaseExpiresAt := none
    attemptCount := nextAttempt
    runAfter := some runAfter
    error := some thrown.message
    errorStack := thrown.stack
    updatedAt := now }

/-- The UPDATE of `commitFailure`: to the dead letter state when no attempt is left
or the error asks for it, otherwise back to pending after a backoff. -/
def commitFailureUpdate (config : QueueConfig) (queueKey : QueueKey) (write : FailureWrite)
    (clock now : Time) (draw : Nat) (jobs : Jobs) : Jobs :=
  if write.isDead config queueKey then
    jobs.update write.call.holds (fun row => row.bury write.nextAttempt write.thrown now)
  else
    jobs.update write.call.holds (fun row => row.retry write.nextAttempt
      (computeNextRunAt config queueKey write.nextAttempt clock draw) write.thrown now)

end Lease

section Reclaim

/-- `status = 'processing' AND lease_expires_at < NOW()`; a null expiry never matches. -/
def JobRow.expired (row : JobRow) (now : Time) : Bool :=
  decide (row.status = .processing) && row.leaseExpiresAt.any (fun expiry => decide (expiry < now))

def recoverable (limit : Nat) (now : Time) (row : JobRow) : Bool :=
  row.expired now && decide (row.attemptCount < limit)

def JobRow.recover (row : JobRow) (now : Time) : JobRow :=
  { row with
    status := .pending
    leasedBy := none
    leaseExpiresAt := none
    leaseVersion := row.leaseVersion + 1
    updatedAt := now }

/-- The first UPDATE of `reclaimExpiredLeases`: expired leases go back to pending. -/
def reclaimExpiredLeasesPending (limit : Nat) (now : Time) (jobs : Jobs) : Jobs :=
  jobs.update (recoverable limit now) (fun row => row.recover now)

def exhausted (limit : Nat) (now : Time) (row : JobRow) : Bool :=
  row.expired now && decide (limit ≤ row.attemptCount)

/-- The lease columns are not cleared here. -/
def JobRow.abandon (row : JobRow) (now : Time) : JobRow :=
  { row with
    status := .deadLetter
    leaseVersion := row.leaseVersion + 1
    updatedAt := now
    error := some (row.error.getD "Exceeded max attempts during lease recovery") }

/-- The second UPDATE of `reclaimExpiredLeases`: expired leases without an attempt left. -/
def reclaimExpiredLeasesDeadLetter (limit : Nat) (now : Time) (jobs : Jobs) : Jobs :=
  jobs.update (exhausted limit now) (fun row => row.abandon now)

end Reclaim

end PlanBuddy.JobEngine
