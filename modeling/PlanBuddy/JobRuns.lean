import PlanBuddy.Fencing
import PlanBuddy.JobEngine

/-!
# Interleavings of the job engine

A server state is a job table with the calls that stand between two of their
statements: failures whose attempt count has been read and not yet written, and
reclaims whose second UPDATE is still due. Any worker may take any step at any
time. A worker that crashes is one whose pending step is never taken, and a
worker whose lease was reclaimed is one that still takes it.

Every statement is projected to the row under one identifier. `RowChange` lists
all that can happen to that row, with the guard of each statement, and every run
of the engine projects to a run of row changes. The one fact needed about the
two-step failure path is that a count which has been read is still current
whenever its fence still matches.
-/

namespace PlanBuddy.JobEngine

structure Server where
  jobs : Jobs
  failures : List FailureWrite
  reclaims : Nat

/-- A table with no call in progress. -/
def Server.idle (jobs : Jobs) : Server := ⟨jobs, [], 0⟩

inductive Action where
  | enqueue (job : NewJob)
  | atomicClaim (request : ClaimRequest) (drainRows : List Bool) (clock now : Time)
      (locked : JobId → Bool) (scan : JobId → Nat)
  | extendLease (call : LeaseCall) (extendMs : Int) (now : Time)
  | commitSuccess (call : LeaseCall) (result : Option Json) (now : Time)
  | commitFailureSelect (call : LeaseCall) (thrown : Thrown)
  | commitFailureUpdate (position : Nat) (clock now : Time) (draw : Nat)
  | reclaimExpiredLeasesPending (now : Time)
  | reclaimExpiredLeasesDeadLetter (now : Time)

/-- What took effect on a row. A claim is observed with the row it returned; a call
whose fence matched nothing is not observed. -/
inductive Event where
  | enqueued (id : JobId)
  | claimed (row : JobRow)
  | extended (call : LeaseCall)
  | succeeded (call : LeaseCall)
  | failed (call : LeaseCall)
  | recovered (id : JobId)
  | abandoned (id : JobId)

def Event.job : Event → JobId
  | .enqueued id => id
  | .claimed row => row.id
  | .extended call => call.id
  | .succeeded call => call.id
  | .failed call => call.id
  | .recovered id => id
  | .abandoned id => id

def step (config : QueueConfig) (queueKey : QueueKey) (server : Server) :
    Action → Option (Server × List Event)
  | .enqueue job =>
    let (jobs, inserted) := server.jobs.insert job.row
    some ({ server with jobs }, if inserted then [.enqueued job.id] else [])
  | .atomicClaim request drainRows clock now locked scan =>
    let (jobs, rows) :=
      atomicClaim config queueKey request drainRows clock now locked scan server.jobs
    some ({ server with jobs }, rows.map .claimed)
  | .extendLease call extendMs now =>
    some ({ server with jobs := (extendLease call extendMs now server.jobs).1 },
      (server.jobs.select call.holds).map fun _ => .extended call)
  | .commitSuccess call result now =>
    some ({ server with jobs := commitSuccess call result now server.jobs },
      (server.jobs.select call.holds).map fun _ => .succeeded call)
  | .commitFailureSelect call thrown =>
    let write := commitFailureSelect call thrown server.jobs
    some ({ server with failures := server.failures ++ write.toList }, [])
  | .commitFailureUpdate position clock now draw =>
    (server.failures[position]?).map fun write =>
      ({ server with
          jobs := commitFailureUpdate config queueKey write clock now draw server.jobs
          failures := server.failures.eraseIdx position },
        (server.jobs.select write.call.holds).map fun _ => .failed write.call)
  | .reclaimExpiredLeasesPending now =>
    let limit := maxAttempts config queueKey
    some ({ server with
        jobs := reclaimExpiredLeasesPending limit now server.jobs
        reclaims := server.reclaims + 1 },
      (server.jobs.select (recoverable limit now)).map fun row => .recovered row.id)
  | .reclaimExpiredLeasesDeadLetter now =>
    let limit := maxAttempts config queueKey
    if server.reclaims = 0 then none
    else some ({ server with
        jobs := reclaimExpiredLeasesDeadLetter limit now server.jobs
        reclaims := server.reclaims - 1 },
      (server.jobs.select (exhausted limit now)).map fun row => .abandoned row.id)

/-- One step of any party. -/
abbrev transition (config : QueueConfig) (queueKey : QueueKey) :
    Server → List Event → Server → Prop :=
  takes (step config queueKey) anyAction

/-- The events about one row, in order. -/
def jobHistory (id : JobId) (history : List Event) : List Event :=
  history.filterMap (Option.guard (fun event => decide (event.job = id)))

/-- All that one statement can do to the row under one identifier, the guards of
the statement included. -/
inductive RowChange (limit : Nat) : Option JobRow → List Event → Option JobRow → Prop
  | idle (row : Option JobRow) : RowChange limit row [] row
  | enqueued (job : NewJob) : RowChange limit none [.enqueued job.id] (some job.row)
  | claimed (row : JobRow) (workerId : WorkerId) (leaseExp now : Time)
      (pending : row.status = .pending) :
      RowChange limit (some row) [.claimed (row.claim workerId leaseExp now)]
        (some (row.claim workerId leaseExp now))
  | extended (row : JobRow) (call : LeaseCall) (extendMs : Int) (now : Time)
      (held : call.holds row = true) :
      RowChange limit (some row) [.extended call] (some (row.extend extendMs now))
  | succeeded (row : JobRow) (call : LeaseCall) (result : Option Json) (now : Time)
      (held : call.holds row = true) :
      RowChange limit (some row) [.succeeded call] (some (row.succeed result now))
  | buried (row : JobRow) (call : LeaseCall) (thrown : Thrown) (now : Time)
      (held : call.holds row = true) :
      RowChange limit (some row) [.failed call] (some (row.bury (row.attemptCount + 1) thrown now))
  | retried (row : JobRow) (call : LeaseCall) (runAfter : Time) (thrown : Thrown) (now : Time)
      (held : call.holds row = true) (remaining : row.attemptCount + 1 < limit) :
      RowChange limit (some row) [.failed call]
        (some (row.retry (row.attemptCount + 1) runAfter thrown now))
  | recovered (row : JobRow) (now : Time) (matched : recoverable limit now row = true) :
      RowChange limit (some row) [.recovered row.id] (some (row.recover now))
  | abandoned (row : JobRow) (now : Time) (matched : exhausted limit now row = true) :
      RowChange limit (some row) [.abandoned row.id] (some (row.abandon now))

/-- A fence that matches names the row, its holder and its version. -/
theorem holds_iff (call : LeaseCall) (row : JobRow) :
    call.holds row = true ↔ row.id = call.id ∧ row.leasedBy = some call.workerId ∧
      row.leaseVersion = call.leaseVersion ∧ row.status = .processing := by
  simp [LeaseCall.holds]

/-- Only a row in processing has a lease to expire. -/
theorem expired_processing {row : JobRow} {now : Time} (expired : row.expired now = true) :
    row.status = .processing := by
  simp only [JobRow.expired, Bool.and_eq_true, decide_eq_true_eq] at expired
  exact expired.1

/-- Only a pending row is claimed. -/
theorem claimable_pending {request : ClaimRequest} {region : String} {now : Time} {row : JobRow}
    (matched : claimable request region now row = true) : row.status = .pending := by
  simp only [claimable, Bool.and_eq_true, decide_eq_true_eq] at matched
  exact matched.1.1.1

/-- Only pending rows are chosen by a claim. -/
theorem claimChoice_pending {request : ClaimRequest} {region : String} {now : Time}
    {locked : JobId → Bool} {scan : JobId → Nat} {jobs : Jobs} {row : JobRow}
    (stored : row ∈ jobs.rows)
    (chosen : row.id ∈ claimChoice request region now locked scan jobs) :
    row.status = .pending := by
  obtain ⟨other, taken, sameId⟩ := List.mem_map.mp chosen
  have selected := (List.mem_insertionSort (claimsBefore scan)).mp (List.mem_of_mem_take taken)
  obtain ⟨member, matched⟩ := Table.mem_select.mp selected
  rw [Bool.and_eq_true] at matched
  have same : other = row := List.inj_on_of_nodup_map jobs.unique member stored sameId
  exact same ▸ claimable_pending matched.1

/-- A statement changes the row under an identifier as its SET clause says, if its
WHERE clause matches there; otherwise the row and its history are idle. -/
theorem statement_change {limit : Nat} (jobs : Jobs) (matching : JobRow → Bool)
    (assign : JobRow → JobRow) (keeps : ∀ row, (assign row).id = row.id)
    (event : JobRow → Event) (named : ∀ row, matching row = true → (event row).job = row.id)
    (id : JobId)
    (change : ∀ row, jobs.lookup id = some row → matching row = true →
      RowChange limit (some row) [event row] (some (assign row))) :
    RowChange limit (jobs.lookup id) (jobHistory id ((jobs.select matching).map event))
      ((jobs.update matching assign keeps).lookup id) :=
  Table.statement_change (RowChange limit) .idle jobs matching assign keeps event Event.job named id
    change

/-- A read attempt count is current: whenever the fence of a pending failure still
matches its row, the count to be written is one above the stored one. The version
read is a lower bound, so a later lease can never satisfy the old fence. -/
def ReadsCurrent (server : Server) : Prop :=
  ∀ write ∈ server.failures, ∃ row, server.jobs.lookup write.call.id = some row ∧
    write.call.leaseVersion ≤ row.leaseVersion ∧
    (row.leaseVersion = write.call.leaseVersion → row.status = .processing →
      write.nextAttempt = row.attemptCount + 1)

section Projection

variable {config : QueueConfig} {queueKey : QueueKey}

/-- What an INSERT does to a row. -/
theorem enqueue_change (limit : Nat) (jobs : Jobs) (job : NewJob) (id : JobId) :
    RowChange limit (jobs.lookup id)
      (jobHistory id (if (jobs.insert job.row).2 then [.enqueued job.id] else []))
      ((jobs.insert job.row).1.lookup id) :=
  Table.insert_change (RowChange limit) .idle jobs job.row (.enqueued job.id) Event.job rfl id
    (.enqueued job)

/-- What a claim does to it. -/
theorem atomicClaim_change (limit : Nat) (jobs : Jobs) (request : ClaimRequest)
    (drainRows : List Bool) (clock now : Time) (locked : JobId → Bool) (scan : JobId → Nat)
    (id : JobId) :
    RowChange limit (jobs.lookup id)
      (jobHistory id
        ((atomicClaim config queueKey request drainRows clock now locked scan jobs).2.map .claimed))
      ((atomicClaim config queueKey request drainRows clock now locked scan jobs).1.lookup id) := by
  unfold atomicClaim
  by_cases draining : drainRows.head?.getD false = true
  · have idle : RowChange limit (jobs.lookup id) [] (jobs.lookup id) := .idle _
    simpa [draining, jobHistory] using idle
  · simp only [draining, Bool.false_eq_true, if_false, Table.returning, List.map_map]
    apply statement_change
    · intro row _
      rfl
    · intro row found matched
      exact .claimed row _ _ _
        (claimChoice_pending (Table.lookup_mem found) (of_decide_eq_true matched))

/-- What a renewal does to it. -/
theorem extendLease_change (limit : Nat) (jobs : Jobs) (call : LeaseCall) (extendMs : Int)
    (now : Time) (id : JobId) :
    RowChange limit (jobs.lookup id)
      (jobHistory id ((jobs.select call.holds).map fun _ => .extended call))
      ((extendLease call extendMs now jobs).1.lookup id) :=
  statement_change jobs call.holds (fun row => row.extend extendMs now) (fun _ => rfl)
    (fun _ => .extended call) (fun row held => ((holds_iff call row).mp held).1.symm) id
    (fun row _ held => .extended row call extendMs now held)

/-- What a success does to it. -/
theorem commitSuccess_change (limit : Nat) (jobs : Jobs) (call : LeaseCall)
    (result : Option Json) (now : Time) (id : JobId) :
    RowChange limit (jobs.lookup id)
      (jobHistory id ((jobs.select call.holds).map fun _ => .succeeded call))
      ((commitSuccess call result now jobs).lookup id) :=
  statement_change jobs call.holds (fun row => row.succeed result now) (fun _ => rfl)
    (fun _ => .succeeded call) (fun row held => ((holds_iff call row).mp held).1.symm) id
    (fun row _ held => .succeeded row call result now held)

/-- The UPDATE of a failure acts on its row with a count that is still current. -/
theorem commitFailureUpdate_change (jobs : Jobs) (write : FailureWrite) (clock now : Time)
    (draw : Nat) (id : JobId)
    (current : ∀ row, jobs.lookup id = some row → write.call.holds row = true →
      write.nextAttempt = row.attemptCount + 1) :
    RowChange (maxAttempts config queueKey) (jobs.lookup id)
      (jobHistory id ((jobs.select write.call.holds).map fun _ => .failed write.call))
      ((commitFailureUpdate config queueKey write clock now draw jobs).lookup id) := by
  have named : ∀ row, write.call.holds row = true → (Event.failed write.call).job = row.id :=
    fun row held => ((holds_iff write.call row).mp held).1.symm
  unfold commitFailureUpdate
  by_cases dead : write.isDead config queueKey = true
  · rw [if_pos dead]
    apply statement_change _ _ _ _ _ named
    intro row found held
    rw [current row found held]
    exact .buried row write.call write.thrown now held
  · rw [if_neg dead]
    apply statement_change _ _ _ _ _ named
    intro row found held
    have remaining : row.attemptCount + 1 < maxAttempts config queueKey := by
      simp only [FailureWrite.isDead, Bool.or_eq_true, decide_eq_true_eq, not_or] at dead
      rw [current row found held] at dead
      omega
    simp only [current row found held]
    exact .retried row write.call _ write.thrown now held remaining

/-- What a reclaim does to it. -/
theorem reclaimPending_change (limit : Nat) (jobs : Jobs) (now : Time) (id : JobId) :
    RowChange limit (jobs.lookup id)
      (jobHistory id ((jobs.select (recoverable limit now)).map fun row => .recovered row.id))
      ((reclaimExpiredLeasesPending limit now jobs).lookup id) :=
  statement_change jobs (recoverable limit now) (fun row => row.recover now) (fun _ => rfl)
    (fun row => .recovered row.id) (fun _ _ => rfl) id
    (fun row _ matched => .recovered row now matched)

/-- What a reclaim does to a row without attempts left. -/
theorem reclaimDeadLetter_change (limit : Nat) (jobs : Jobs) (now : Time) (id : JobId) :
    RowChange limit (jobs.lookup id)
      (jobHistory id ((jobs.select (exhausted limit now)).map fun row => .abandoned row.id))
      ((reclaimExpiredLeasesDeadLetter limit now jobs).lookup id) :=
  statement_change jobs (exhausted limit now) (fun row => row.abandon now) (fun _ => rfl)
    (fun row => .abandoned row.id) (fun _ _ => rfl) id
    (fun row _ matched => .abandoned row now matched)

/-- One step of any party, seen at any row. Only the failure path needs the
invariant, and only for the count it writes. -/
theorem step_change {server next : Server} {observed : List Event}
    (current : ReadsCurrent server) (taken : transition config queueKey server observed next)
    (id : JobId) :
    RowChange (maxAttempts config queueKey) (server.jobs.lookup id) (jobHistory id observed)
      (next.jobs.lookup id) := by
  obtain ⟨action, -, taken⟩ := taken
  cases action with
  | enqueue job =>
    simp only [step, Option.some.injEq, Prod.mk.injEq] at taken
    obtain ⟨rfl, rfl⟩ := taken
    exact enqueue_change _ server.jobs job id
  | atomicClaim request drainRows clock now locked scan =>
    simp only [step, Option.some.injEq, Prod.mk.injEq] at taken
    obtain ⟨rfl, rfl⟩ := taken
    exact atomicClaim_change _ server.jobs request drainRows clock now locked scan id
  | extendLease call extendMs now =>
    simp only [step, Option.some.injEq, Prod.mk.injEq] at taken
    obtain ⟨rfl, rfl⟩ := taken
    exact extendLease_change _ server.jobs call extendMs now id
  | commitSuccess call result now =>
    simp only [step, Option.some.injEq, Prod.mk.injEq] at taken
    obtain ⟨rfl, rfl⟩ := taken
    exact commitSuccess_change _ server.jobs call result now id
  | commitFailureSelect call thrown =>
    simp only [step, Option.some.injEq, Prod.mk.injEq] at taken
    obtain ⟨rfl, rfl⟩ := taken
    exact .idle _
  | commitFailureUpdate position clock now draw =>
    simp only [step, Option.map_eq_some_iff, Prod.mk.injEq] at taken
    obtain ⟨write, pending, rfl, rfl⟩ := taken
    apply commitFailureUpdate_change
    intro row found held
    obtain ⟨sameId, -, sameVersion, processing⟩ := (holds_iff write.call row).mp held
    have read : ∃ stored, server.jobs.lookup write.call.id = some stored ∧
        write.call.leaseVersion ≤ stored.leaseVersion ∧
        (stored.leaseVersion = write.call.leaseVersion → stored.status = .processing →
          write.nextAttempt = stored.attemptCount + 1) :=
      current write (List.mem_of_getElem? pending)
    obtain ⟨stored, storedFound, -, count⟩ := read
    have same : stored = row := by
      rw [← sameId, Table.lookup_key found, found] at storedFound
      exact (Option.some.inj storedFound).symm
    exact count (same ▸ sameVersion) (same ▸ processing) |>.trans (by rw [same])
  | reclaimExpiredLeasesPending now =>
    simp only [step, Option.some.injEq, Prod.mk.injEq] at taken
    obtain ⟨rfl, rfl⟩ := taken
    exact reclaimPending_change _ server.jobs now id
  | reclaimExpiredLeasesDeadLetter now =>
    simp only [step, Option.ite_none_left_eq_some, Option.some.injEq, Prod.mk.injEq] at taken
    obtain ⟨-, rfl, rfl⟩ := taken
    exact reclaimDeadLetter_change _ server.jobs now id

/-- The failures pending after a step were pending before it, or have just read
their row. -/
theorem step_failures {server next : Server} {observed : List Event}
    (taken : transition config queueKey server observed next) :
    ∀ write ∈ next.failures, write ∈ server.failures ∨
      (next.jobs = server.jobs ∧ ∃ row, server.jobs.lookup write.call.id = some row ∧
        write.call.leaseVersion = row.leaseVersion ∧ write.nextAttempt = row.attemptCount + 1) := by
  obtain ⟨action, -, taken⟩ := taken
  cases action with
  | commitFailureSelect call thrown =>
    simp only [step, Option.some.injEq, Prod.mk.injEq] at taken
    obtain ⟨rfl, -⟩ := taken
    intro write member
    rcases List.mem_append.mp member with old | read
    · exact Or.inl old
    · obtain ⟨row, first, rfl⟩ := Option.map_eq_some_iff.mp (Option.mem_toList.mp read)
      obtain ⟨stored, held⟩ := Table.mem_select.mp (List.mem_of_head? first)
      obtain ⟨sameId, -, sameVersion, -⟩ := (holds_iff call row).mp held
      exact Or.inr ⟨rfl, row, sameId ▸ Table.mem_lookup stored, sameVersion.symm, rfl⟩
  | commitFailureUpdate position clock now draw =>
    simp only [step, Option.map_eq_some_iff, Prod.mk.injEq] at taken
    obtain ⟨write, -, rfl, -⟩ := taken
    exact fun write member => Or.inl (List.mem_of_mem_eraseIdx member)
  | reclaimExpiredLeasesDeadLetter now =>
    simp only [step, Option.ite_none_left_eq_some, Option.some.injEq, Prod.mk.injEq] at taken
    obtain ⟨-, rfl, -⟩ := taken
    exact fun write member => Or.inl member
  | _ =>
    simp only [step, Option.some.injEq, Prod.mk.injEq] at taken
    obtain ⟨rfl, -⟩ := taken
    exact fun write member => Or.inl member

/-- A stored row stays stored; its version never decreases, and under an unchanged
version a processing row was processing before, with the same attempt count. -/
theorem change_keeps {limit : Nat} {row : JobRow} {events : List Event} {after : Option JobRow}
    (change : RowChange limit (some row) events after) :
    ∃ next, after = some next ∧ Fencing.Succeeds JobRow.leaseVersion
      (fun row => row.status = .processing) JobRow.attemptCount row next := by
  cases change with
  | idle => exact ⟨row, rfl, Nat.le_refl _, fun _ processing => ⟨processing, rfl⟩⟩
  | claimed workerId leaseExp now pending =>
    refine ⟨_, rfl, Nat.le_succ _, fun same _ => ?_⟩
    simp [JobRow.claim] at same
  | extended call extendMs now held =>
    exact ⟨_, rfl, Nat.le_refl _, fun _ processing => ⟨processing, rfl⟩⟩
  | succeeded call result now held =>
    exact ⟨_, rfl, Nat.le_refl _, fun _ processing => by simp [JobRow.succeed] at processing⟩
  | buried call thrown now held =>
    exact ⟨_, rfl, Nat.le_refl _, fun _ processing => by simp [JobRow.bury] at processing⟩
  | retried call runAfter thrown now held remaining =>
    exact ⟨_, rfl, Nat.le_refl _, fun _ processing => by simp [JobRow.retry] at processing⟩
  | recovered now matched =>
    exact ⟨_, rfl, Nat.le_succ _, fun _ processing => by simp [JobRow.recover] at processing⟩
  | abandoned now matched =>
    exact ⟨_, rfl, Nat.le_succ _, fun _ processing => by simp [JobRow.abandon] at processing⟩

/-- Every step keeps the counts read by pending failures current. A failure read
earlier keeps its row, whose version either rises above the one read or leaves
status and count alone. -/
theorem step_reads {server next : Server} {observed : List Event} (current : ReadsCurrent server)
    (taken : transition config queueKey server observed next) : ReadsCurrent next := by
  intro write member
  rcases step_failures taken write member with old | ⟨sameJobs, row, found, version, count⟩
  · obtain ⟨row, found, reads⟩ := current write old
    have change := step_change current taken write.call.id
    rw [found] at change
    obtain ⟨after, stored, succeeds⟩ := change_keeps change
    have earlier : Fencing.Reads JobRow.leaseVersion (fun row => row.status = .processing)
        JobRow.attemptCount write.call.leaseVersion write.nextAttempt row := reads
    exact ⟨after, stored, Fencing.reads_succeeds earlier succeeds⟩
  · exact ⟨row, sameJobs ▸ found, Nat.le_of_eq version, fun _ _ => count⟩

/-- Pending failures have read the current row, in any run. -/
theorem run_reads {start state : Server} {history : List Event} (current : ReadsCurrent start)
    (run : Run (transition config queueKey) start history state) : ReadsCurrent state :=
  run.invariant (fun _ server => ReadsCurrent server) current
    (fun _ current taken => step_reads current taken)

/-- A whole run of the engine is, at every row, a run of row changes. -/
theorem row_run {start state : Server} {history : List Event} (current : ReadsCurrent start)
    (run : Run (transition config queueKey) start history state) (id : JobId) :
    Run (RowChange (maxAttempts config queueKey)) (start.jobs.lookup id) (jobHistory id history)
      (state.jobs.lookup id) :=
  run.simulates (fun server => server.jobs.lookup id) _
    (fun before taken => step_change (run_reads current before) taken id)

/-- No failure is pending at first. -/
theorem idle_reads (jobs : Jobs) : ReadsCurrent (Server.idle jobs) := by
  intro write member
  cases member

end Projection

end PlanBuddy.JobEngine
