import PlanBuddy.JobEngine

/-!
# Outbox rows and their statements

The transactional outbox of `atomic-engine.js`. Its rows carry the lease columns of
a job table under statements written separately: a claim in sequence order, two
commits and a reclaim that is a single UPDATE. Each definition is one statement, or
the JavaScript between two of them, with the values it takes from outside the table
as arguments.

The retry limit appears twice. The failure path compares with an argument of its
caller, the reclaim with the column `max_attempts`. Payload and topic are read by
the relay alone and are left out.
-/

namespace PlanBuddy.Outbox

open JobEngine (LeaseCall Thrown)

/-- Row identifiers are UUIDs, of which only equality matters. -/
abbrev EventId := Nat

inductive OutboxStatus where
  | pending
  | processing
  | delivered
  | deadLetter
deriving DecidableEq

/-- The columns of `outbox_events` that the engine reads or writes. -/
structure OutboxRow where
  id : EventId
  aggregateType : String
  aggregateId : String
  sequenceNumber : Nat
  idempotencyKey : Option String
  status : OutboxStatus
  deliveryAttempt : Nat
  maxAttempts : Nat
  runAfter : Option Time
  deliveredAt : Option Time
  lastError : Option String
  leasedBy : Option WorkerId
  leaseExpiresAt : Option Time
  leaseVersion : Nat
  updatedAt : Time

abbrev OutboxEvents := Table OutboxRow.id

/-- What an INSERT supplies; every other column takes its schema default. The sequence
number is drawn when the INSERT runs, so commits may publish it out of order. -/
structure NewEvent where
  id : EventId
  aggregateType : String
  aggregateId : String
  sequenceNumber : Nat
  idempotencyKey : Option String := none
  maxAttempts : Nat := 10
  createdAt : Time

def NewEvent.row (event : NewEvent) : OutboxRow where
  id := event.id
  aggregateType := event.aggregateType
  aggregateId := event.aggregateId
  sequenceNumber := event.sequenceNumber
  idempotencyKey := event.idempotencyKey
  status := .pending
  deliveryAttempt := 0
  maxAttempts := event.maxAttempts
  runAfter := none
  deliveredAt := none
  lastError := none
  leasedBy := none
  leaseExpiresAt := none
  leaseVersion := 0
  updatedAt := event.createdAt

/-- `INSERT … ON CONFLICT (idempotency_key) DO NOTHING`, with whether a row was added. -/
def writeOutboxEvent (event : NewEvent) (outbox : OutboxEvents) : OutboxEvents × Bool :=
  if outbox.rows.any (fun row =>
      row.idempotencyKey.isSome && decide (row.idempotencyKey = event.idempotencyKey)) then
    (outbox, false)
  else outbox.insert event.row

section Claim

structure ClaimRequest where
  workerId : WorkerId
  batchSize : Nat
  aggregateType : Option String

/-- The WHERE clause of the claiming subselect. An empty aggregate type imposes nothing. -/
def claimable (request : ClaimRequest) (now : Time) (row : OutboxRow) : Bool :=
  decide (row.status = .pending) &&
    row.runAfter.all (fun due => decide (due ≤ now)) &&
    (match request.aggregateType with
      | none => true
      | some "" => true
      | some aggregateType => decide (row.aggregateType = aggregateType))

/-- `ORDER BY sequence_number ASC`; ties are met in scan order. -/
def claimsBefore (scan : EventId → Nat) (left right : OutboxRow) : Prop :=
  left.sequenceNumber < right.sequenceNumber ∨
    (left.sequenceNumber = right.sequenceNumber ∧ scan left.id ≤ scan right.id)

instance (scan : EventId → Nat) : DecidableRel (claimsBefore scan) := by
  intro left right
  unfold claimsBefore
  infer_instance

/-- The SET clause of the claim. -/
def OutboxRow.claim (row : OutboxRow) (workerId : WorkerId) (leaseExp now : Time) : OutboxRow :=
  { row with
    status := .processing
    leasedBy := some workerId
    leaseExpiresAt := some leaseExp
    leaseVersion := row.leaseVersion + 1
    updatedAt := now }

/-- The ids the subselect yields: claimable rows not locked elsewhere, in order, up
to the batch size. -/
def claimChoice (request : ClaimRequest) (now : Time) (locked : EventId → Bool)
    (scan : EventId → Nat) (outbox : OutboxEvents) : List EventId :=
  (((outbox.select (fun row => claimable request now row && !locked row.id)).insertionSort
    (claimsBefore scan)).take request.batchSize).map OutboxRow.id

/-- `leaseMs` of the claim. -/
def leaseMs : Int := 30000

/-- Returns the table and the claimed rows as written. -/
def claimOutboxBatch (request : ClaimRequest) (clock now : Time) (locked : EventId → Bool)
    (scan : EventId → Nat) (outbox : OutboxEvents) : OutboxEvents × List OutboxRow :=
  let leaseExp := clock + leaseMs
  let chosen := claimChoice request now locked scan outbox
  (outbox.update (fun row => decide (row.id ∈ chosen))
      (fun row => row.claim request.workerId leaseExp now),
    outbox.returning (fun row => decide (row.id ∈ chosen))
      (fun row => row.claim request.workerId leaseExp now))

end Claim

section Commit

/-- `id = $1 AND leased_by = $2 AND lease_version = $3 AND status = 'processing'`. -/
def holds (call : LeaseCall) (row : OutboxRow) : Bool :=
  decide (row.id = call.id ∧ row.leasedBy = some call.workerId ∧
    row.leaseVersion = call.leaseVersion ∧ row.status = .processing)

def OutboxRow.succeed (row : OutboxRow) (now : Time) : OutboxRow :=
  { row with
    status := .delivered
    leasedBy := none
    leaseExpiresAt := none
    deliveredAt := some now
    updatedAt := now }

def commitOutboxSuccess (call : LeaseCall) (now : Time) (outbox : OutboxEvents) : OutboxEvents :=
  outbox.update (holds call) (fun row => row.succeed now)

/-- What `commitOutboxFailure` knows between its SELECT and its UPDATE. -/
structure FailureWrite where
  call : LeaseCall
  thrown : Thrown
  maxAttempts : Nat
  nextAttempt : Nat

/-- The SELECT of `commitOutboxFailure`; without a matching row the call returns. -/
def commitOutboxFailureSelect (call : LeaseCall) (thrown : Thrown) (maxAttempts : Nat)
    (outbox : OutboxEvents) : Option FailureWrite :=
  (outbox.select (holds call)).head?.map
    (fun row => ⟨call, thrown, maxAttempts, row.deliveryAttempt + 1⟩)

def FailureWrite.isDead (write : FailureWrite) : Bool :=
  decide (write.maxAttempts ≤ write.nextAttempt) || write.thrown.forceDeadLetter

def OutboxRow.bury (row : OutboxRow) (nextAttempt : Nat) (thrown : Thrown) (now : Time) :
    OutboxRow :=
  { row with
    status := .deadLetter
    leasedBy := none
    leaseExpiresAt := none
    deliveryAttempt := nextAttempt
    lastError := some thrown.message
    updatedAt := now }

def OutboxRow.retry (row : OutboxRow) (nextAttempt : Nat) (runAfter : Time) (thrown : Thrown)
    (now : Time) : OutboxRow :=
  { row with
    status := .pending
    leasedBy := none
    leaseExpiresAt := none
    deliveryAttempt := nextAttempt
    lastError := some thrown.message
    runAfter := some runAfter
    updatedAt := now }

/-- `Date.now() + Math.min(base * 2 ** nextAttempt, 5 * 60_000)`. -/
def retryAt (nextAttempt : Nat) (clock : Time) : Time :=
  let base := 500
  clock + (min (base * 2 ^ nextAttempt) (5 * 60000) : Nat)

/-- The UPDATE of `commitOutboxFailure`. -/
def commitOutboxFailureUpdate (write : FailureWrite) (clock now : Time) (outbox : OutboxEvents) :
    OutboxEvents :=
  if write.isDead then
    outbox.update (holds write.call) (fun row => row.bury write.nextAttempt write.thrown now)
  else
    outbox.update (holds write.call)
      (fun row => row.retry write.nextAttempt (retryAt write.nextAttempt clock) write.thrown now)

end Commit

section Reclaim

/-- `status = 'processing' AND lease_expires_at < NOW()`; a null expiry never matches. -/
def OutboxRow.expired (row : OutboxRow) (now : Time) : Bool :=
  decide (row.status = .processing) && row.leaseExpiresAt.any (fun expiry => decide (expiry < now))

def recoverable (now : Time) (row : OutboxRow) : Bool :=
  row.expired now && decide (row.deliveryAttempt < row.maxAttempts)

def OutboxRow.recover (row : OutboxRow) (now : Time) : OutboxRow :=
  { row with
    status := .pending
    leasedBy := none
    leaseExpiresAt := none
    leaseVersion := row.leaseVersion + 1
    updatedAt := now }

/-- Expired leases with an attempt left go back to pending. There is no other branch. -/
def reclaimExpiredOutboxLeases (now : Time) (outbox : OutboxEvents) : OutboxEvents :=
  outbox.update (recoverable now) (fun row => row.recover now)

end Reclaim

end PlanBuddy.Outbox
