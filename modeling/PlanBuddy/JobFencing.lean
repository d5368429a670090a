import PlanBuddy.JobRuns
import PlanBuddy.Fencing

/-!
# Lease fencing of job rows

The lease columns of one job row, read together with its status, are a fenced
lease: a claim grants it, either commit settles it, and both UPDATEs of a reclaim
revoke it. The projection of a run to a row therefore inherits the laws of fenced
leases. What a stale caller can do is read off the statements themselves, since
every one of them repeats the fence in its WHERE clause.

The laws hold from any job table with no call in progress; no default values and
no bound on attempts are assumed.
-/

namespace PlanBuddy.JobEngine

open Fencing (Lease)

/-- A row outside `processing` is a free lease, whatever its lease columns say. An
absent row is the free lease that an INSERT creates. -/
def leaseOf : Option JobRow → Lease WorkerId
  | none => ⟨none, 0⟩
  | some row => ⟨if row.status = .processing then row.leasedBy else none, row.leaseVersion⟩

/-- Renewals, enqueues and reclaims leave no trace in the lease history. -/
def leaseEvent : Event → Option (Fencing.Event WorkerId)
  | .claimed row => some (.granted (row.leasedBy.getD "") row.leaseVersion)
  | .succeeded call => some (.settled call.workerId call.leaseVersion)
  | .failed call => some (.settled call.workerId call.leaseVersion)
  | _ => none

/-- The lease versions returned by the successful claims of a history. -/
def claimVersions (history : List Event) : List Nat :=
  history.filterMap fun
    | .claimed row => some row.leaseVersion
    | _ => none

/-- The lease versions of the commits that took effect, of either kind. -/
def commitVersions (history : List Event) : List Nat :=
  history.filterMap fun
    | .succeeded call => some call.leaseVersion
    | .failed call => some call.leaseVersion
    | _ => none

/-- The claims of a job are the grants of its leases. -/
theorem claimVersions_grants (history : List Event) :
    claimVersions history = Fencing.grants (history.filterMap leaseEvent) := by
  rw [Fencing.grants, List.filterMap_filterMap]
  apply List.filterMap_congr
  intro event _
  cases event <;> rfl

/-- Its commits are their settlements. -/
theorem commitVersions_settlements (history : List Event) :
    commitVersions history = Fencing.settlements (history.filterMap leaseEvent) := by
  rw [Fencing.settlements, List.filterMap_filterMap]
  apply List.filterMap_congr
  intro event _
  cases event <;> rfl

/-- A matching fence makes the caller the holder of the lease, under its version. -/
theorem holds_lease {call : LeaseCall} {row : JobRow} (held : call.holds row = true) :
    leaseOf (some row) = ⟨some call.workerId, call.leaseVersion⟩ := by
  obtain ⟨-, holder, version, processing⟩ := (holds_iff call row).mp held
  simp [leaseOf, holder, version, processing]

/-- Every change of a row is a step of its lease. A claim needs a pending row and so
a free lease; a commit needs the fence and so the holder. -/
theorem change_lease {limit : Nat} {before after : Option JobRow} {events : List Event}
    (change : RowChange limit before events after) :
    Fencing.Step (leaseOf before) (events.filterMap leaseEvent) (leaseOf after) := by
  cases change with
  | idle => exact .keep _
  | enqueued job => exact .keep _
  | claimed row workerId leaseExp now pending =>
    have free : leaseOf (some row) = ⟨none, row.leaseVersion⟩ := by simp [leaseOf, pending]
    rw [free]
    exact .grant workerId row.leaseVersion
  | extended row call extendMs now held => exact .keep _
  | succeeded row call result now held =>
    have settled : leaseOf (some (row.succeed result now)) = ⟨none, call.leaseVersion⟩ := by
      simp [leaseOf, JobRow.succeed, ((holds_iff call row).mp held).2.2.1]
    rw [holds_lease held, settled]
    exact .settle call.workerId call.leaseVersion
  | buried row call thrown now held =>
    have settled : leaseOf (some (row.bury (row.attemptCount + 1) thrown now)) =
        ⟨none, call.leaseVersion⟩ := by
      simp [leaseOf, JobRow.bury, ((holds_iff call row).mp held).2.2.1]
    rw [holds_lease held, settled]
    exact .settle call.workerId call.leaseVersion
  | retried row call runAfter thrown now held remaining =>
    have settled : leaseOf (some (row.retry (row.attemptCount + 1) runAfter thrown now)) =
        ⟨none, call.leaseVersion⟩ := by
      simp [leaseOf, JobRow.retry, ((holds_iff call row).mp held).2.2.1]
    rw [holds_lease held, settled]
    exact .settle call.workerId call.leaseVersion
  | recovered row now matched => exact .revoke _ row.leaseVersion
  | abandoned row now matched => exact .revoke _ row.leaseVersion

section Fences

variable {config : QueueConfig} {queueKey : QueueKey}

/-- The lease of a row along a whole run of the engine. -/
theorem lease_run {start state : Server} {history : List Event} (current : ReadsCurrent start)
    (run : Run (transition config queueKey) start history state) (id : JobId) :
    Run Fencing.Step (leaseOf (start.jobs.lookup id))
      ((jobHistory id history).filterMap leaseEvent) (leaseOf (state.jobs.lookup id)) :=
  (row_run current run id).simulates leaseOf leaseEvent (fun _ change => change_lease change)

/-- Stored rows stay stored, under a version that does not decrease. -/
theorem run_version {start state : Server} {history : List Event} (current : ReadsCurrent start)
    (run : Run (transition config queueKey) start history state) {id : JobId} {row : JobRow}
    (found : start.jobs.lookup id = some row) :
    ∃ after, state.jobs.lookup id = some after ∧ row.leaseVersion ≤ after.leaseVersion := by
  refine (row_run current run id).invariant
    (fun _ stored => ∃ after, stored = some after ∧ row.leaseVersion ≤ after.leaseVersion)
    ⟨row, found, Nat.le_refl _⟩ ?_
  rintro _ _ _ _ _ ⟨middle, rfl, bound⟩ change
  obtain ⟨after, stored, grows, _⟩ := change_keeps change
  exact ⟨after, stored, Nat.le_trans bound grows⟩

/-- A call is stale when the row it names has another version or another holder. -/
def Stale (call : LeaseCall) (jobs : Jobs) : Prop :=
  ∀ row, jobs.lookup call.id = some row →
    row.leaseVersion ≠ call.leaseVersion ∨ row.leasedBy ≠ some call.workerId

/-- No row matches the fence of a stale call. -/
theorem stale_unmatched {call : LeaseCall} {jobs : Jobs} (stale : Stale call jobs) :
    ∀ row ∈ jobs.rows, call.holds row = false := by
  intro row member
  rw [Bool.eq_false_iff, ne_eq, holds_iff]
  rintro ⟨sameId, holder, version, -⟩
  rcases stale row (sameId ▸ Table.mem_lookup member) with otherVersion | otherHolder
  · exact otherVersion version
  · exact otherHolder holder

/-- A stale call selects no row. -/
theorem stale_select {call : LeaseCall} {jobs : Jobs} (stale : Stale call jobs) :
    jobs.select call.holds = [] :=
  List.filter_eq_nil_iff.mpr fun row member =>
    Bool.eq_false_iff.mp (stale_unmatched stale row member)

/-- A stale extension reports failure and writes nothing. -/
theorem extendLease_stale {call : LeaseCall} {jobs : Jobs} (stale : Stale call jobs)
    (extendMs : Int) (now : Time) : extendLease call extendMs now jobs = (jobs, false) := by
  have unwritten : (extendLease call extendMs now jobs).1 = jobs :=
    Table.update_unmatched _ _ (fun row : JobRow => row.extend extendMs now) (fun _ => rfl)
      (stale_unmatched stale)
  exact Prod.ext unwritten (by simp [extendLease, stale_select stale])

/-- So its commit does nothing. -/
theorem commitSuccess_stale {call : LeaseCall} {jobs : Jobs} (stale : Stale call jobs)
    (result : Option Json) (now : Time) : commitSuccess call result now jobs = jobs :=
  Table.update_unmatched _ _ _ _ (stale_unmatched stale)

/-- A stale failure finds no attempt count and returns before its UPDATE. -/
theorem commitFailureSelect_stale {call : LeaseCall} {jobs : Jobs} (stale : Stale call jobs)
    (thrown : Thrown) : commitFailureSelect call thrown jobs = none := by
  simp [commitFailureSelect, stale_select stale]

/-- A failure that became stale after its SELECT writes nothing. -/
theorem commitFailureUpdate_stale {write : FailureWrite} {jobs : Jobs}
    (stale : Stale write.call jobs) (clock now : Time) (draw : Nat) :
    commitFailureUpdate config queueKey write clock now draw jobs = jobs := by
  unfold commitFailureUpdate
  split <;> exact Table.update_unmatched _ _ _ _ (stale_unmatched stale)

/-- Lease fencing over every interleaving, from any job table. Versions of stored
rows never decrease; no two claims of a row return the same version; at most one
commit takes effect under each version of a row; and a stale extension or commit
leaves the table as it is, the late UPDATE of a failure included. -/
theorem leases_fenced (jobs : Jobs) {history : List Event} {state : Server}
    (run : Run (transition config queueKey) (Server.idle jobs) history state) :
    (∀ {later : Server} {rest : List Event}, Run (transition config queueKey) state rest later →
      ∀ id row, state.jobs.lookup id = some row →
        ∃ after, later.jobs.lookup id = some after ∧ row.leaseVersion ≤ after.leaseVersion) ∧
    (∀ id, (claimVersions (jobHistory id history)).Nodup) ∧
    (∀ id version, (commitVersions (jobHistory id history)).count version ≤ 1) ∧
    (∀ call, Stale call state.jobs →
      (∀ extendMs now, extendLease call extendMs now state.jobs = (state.jobs, false)) ∧
      (∀ result now, commitSuccess call result now state.jobs = state.jobs) ∧
      (∀ thrown, commitFailureSelect call thrown state.jobs = none) ∧
      (∀ write : FailureWrite, write.call = call → ∀ clock now draw,
        commitFailureUpdate config queueKey write clock now draw state.jobs = state.jobs)) := by
  have current : ReadsCurrent (Server.idle jobs) := idle_reads jobs
  refine ⟨?_, ?_, ?_, ?_⟩
  · intro later rest continued id row found
    exact run_version (run_reads current run) continued found
  · intro id
    rw [claimVersions_grants]
    exact Fencing.grants_nodup (lease_run current run id)
  · intro id version
    rw [commitVersions_settlements]
    exact List.nodup_iff_count_le_one.mp
      (Fencing.settlements_nodup (lease_run current run id)) version
  · intro call stale
    refine ⟨extendLease_stale stale, commitSuccess_stale stale,
      commitFailureSelect_stale stale, ?_⟩
    rintro write rfl
    exact commitFailureUpdate_stale stale

end Fences

section Sample

/-- One job, claimed by a worker that stalls, reclaimed after its lease expired, and
claimed again. The stalled worker commits late, then the current holder commits. -/
def stalledWorker : List Action :=
  [.enqueue { id := 7, createdAt := 0 },
    .atomicClaim ⟨1, "first", none, none⟩ [] 0 0 (fun _ => false) id,
    .reclaimExpiredLeasesPending 120001,
    .atomicClaim ⟨1, "second", none, none⟩ [] 120002 120002 (fun _ => false) id,
    .commitSuccess ⟨7, "first", 1⟩ none 120003,
    .commitSuccess ⟨7, "second", 3⟩ none 120004]

/-- The schedule runs to its end; its two claims differ in version and only the
holder's commit takes effect. -/
theorem stalled_worker_run :
    ∃ history state,
      Run (transition queues .refundRetry) (Server.idle Table.empty) history state ∧
        claimVersions (jobHistory 7 history) = [1, 3] ∧
        commitVersions (jobHistory 7 history) = [3] :=
  ⟨_, _, run_of_schedule stalledWorker rfl, by decide, by decide⟩

/-- A worker that stalls commits nothing after another has claimed. -/
theorem leases_fenced_stalled_worker :
    ∃ history state,
      Run (transition queues .refundRetry) (Server.idle Table.empty) history state ∧
        (claimVersions (jobHistory 7 history)).length = 2 ∧
        (claimVersions (jobHistory 7 history)).Nodup ∧
        (commitVersions (jobHistory 7 history)).count 3 ≤ 1 := by
  obtain ⟨history, state, run, claims, _⟩ := stalled_worker_run
  have fenced := leases_fenced Table.empty run
  exact ⟨history, state, run, by rw [claims]; rfl, fenced.2.1 7, fenced.2.2.1 7 3⟩

end Sample

end PlanBuddy.JobEngine
