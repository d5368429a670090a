import PlanBuddy.JobFencing

/-!
# The life of a job row

Rows enter with the schema defaults and are followed over whole runs. A row is
leased exactly while it is processing, its attempt count is the number of failed
commits that took effect, and while it is pending or processing an attempt is
left, so the second UPDATE of a reclaim never finds a row. Finished rows are
frozen.

The limit is any number of attempts from one on. How often a row is handed to a
worker is a different count, which the attempt count does not bound.
-/

namespace PlanBuddy.JobEngine

/-- Failed commits that took effect. -/
def failures (history : List Event) : Nat :=
  history.countP fun
    | .failed _ => true
    | _ => false

/-- States no statement of the engine leaves. -/
def JobRow.finished (row : JobRow) : Prop := row.status = .processed ∨ row.status = .deadLetter

/-- A stored row together with what has happened to it. -/
structure Consistent (limit : Nat) (history : List Event) (row : JobRow) : Prop where
  leased : row.status = .processing ↔ row.leasedBy.isSome
  expiring : row.leasedBy.isSome ↔ row.leaseExpiresAt.isSome
  remaining : row.status = .pending ∨ row.status = .processing → row.attemptCount < limit
  counted : row.attemptCount = failures history

/-- The invariant of a projected run: no row, no failure; a row, consistent columns. -/
def RowInvariant (limit : Nat) (history : List Event) (stored : Option JobRow) : Prop :=
  match stored with
  | none => failures history = 0
  | some row => Consistent limit history row

/-- A row that is absent has no history. -/
theorem invariant_absent (limit : Nat) : RowInvariant limit [] none := rfl

/-- Every change keeps the invariant. Each statement that leaves `processing` clears
both lease columns, except the one guarded by an exhausted attempt count; that
guard contradicts the attempt left to a processing row. -/
theorem change_invariant {limit : Nat} (limited : 1 ≤ limit) {history events : List Event}
    {before after : Option JobRow} (invariant : RowInvariant limit history before)
    (change : RowChange limit before events after) :
    RowInvariant limit (history ++ events) after := by
  cases change with
  | idle => simpa using invariant
  | enqueued job =>
    have clean : failures history = 0 := invariant
    refine ⟨by simp [NewJob.row], by simp [NewJob.row], fun _ => limited, ?_⟩
    simpa [NewJob.row, failures, List.countP_append] using clean.symm
  | claimed row workerId leaseExp now pending =>
    refine ⟨by simp [JobRow.claim], by simp [JobRow.claim],
      fun _ => invariant.remaining (Or.inl pending), ?_⟩
    simpa [JobRow.claim, failures, List.countP_append] using invariant.counted
  | extended row call extendMs now held =>
    have processing : row.status = .processing := ((holds_iff call row).mp held).2.2.2
    have leased : row.leasedBy.isSome := invariant.leased.mp processing
    refine ⟨invariant.leased, ?_, invariant.remaining, ?_⟩
    · simpa [JobRow.extend] using leased
    · simpa [JobRow.extend, failures, List.countP_append] using invariant.counted
  | succeeded row call result now held =>
    refine ⟨by simp [JobRow.succeed], by simp [JobRow.succeed], by simp [JobRow.succeed], ?_⟩
    simpa [JobRow.succeed, failures, List.countP_append] using invariant.counted
  | buried row call thrown now held =>
    refine ⟨by simp [JobRow.bury], by simp [JobRow.bury], by simp [JobRow.bury], ?_⟩
    simpa [JobRow.bury, failures, List.countP_append] using invariant.counted
  | retried row call runAfter thrown now held remaining =>
    refine ⟨by simp [JobRow.retry], by simp [JobRow.retry], fun _ => remaining, ?_⟩
    simpa [JobRow.retry, failures, List.countP_append] using invariant.counted
  | recovered row now matched =>
    have processing : row.status = .processing := by
      rw [recoverable, Bool.and_eq_true] at matched
      exact expired_processing matched.1
    refine ⟨by simp [JobRow.recover], by simp [JobRow.recover],
      fun _ => invariant.remaining (Or.inr processing), ?_⟩
    simpa [JobRow.recover, failures, List.countP_append] using invariant.counted
  | abandoned row now matched =>
    rw [exhausted, Bool.and_eq_true] at matched
    have left : row.attemptCount < limit :=
      invariant.remaining (Or.inr (expired_processing matched.1))
    have spent : limit ≤ row.attemptCount := of_decide_eq_true matched.2
    omega

/-- Nothing changes a finished row: each guard asks for pending or processing. -/
theorem finished_frozen {limit : Nat} {row : JobRow} {events : List Event} {after : Option JobRow}
    (finished : row.finished) (change : RowChange limit (some row) events after) :
    after = some row := by
  have notPending : row.status ≠ .pending := by
    rcases finished with done | done <;> simp [done]
  have notProcessing : row.status ≠ .processing := by
    rcases finished with done | done <;> simp [done]
  cases change with
  | idle => rfl
  | claimed _ workerId leaseExp now pending => exact absurd pending notPending
  | extended _ call extendMs now held => exact absurd ((holds_iff call row).mp held).2.2.2 notProcessing
  | succeeded _ call result now held => exact absurd ((holds_iff call row).mp held).2.2.2 notProcessing
  | buried _ call thrown now held => exact absurd ((holds_iff call row).mp held).2.2.2 notProcessing
  | retried _ call runAfter thrown now held remaining =>
    exact absurd ((holds_iff call row).mp held).2.2.2 notProcessing
  | recovered _ now matched =>
    rw [recoverable, Bool.and_eq_true] at matched
    exact absurd (expired_processing matched.1) notProcessing
  | abandoned _ now matched =>
    rw [exhausted, Bool.and_eq_true] at matched
    exact absurd (expired_processing matched.1) notProcessing

section Life

variable {config : QueueConfig} {queueKey : QueueKey}

/-- Every stored row of a run from the empty table is consistent with its history. -/
theorem run_consistent (limited : 1 ≤ maxAttempts config queueKey) {history : List Event}
    {state : Server} (run : Run (transition config queueKey) (Server.idle Table.empty) history state)
    {id : JobId} {row : JobRow} (found : state.jobs.lookup id = some row) :
    Consistent (maxAttempts config queueKey) (jobHistory id history) row := by
  have invariant := (row_run (idle_reads Table.empty) run id).invariant
    (RowInvariant (maxAttempts config queueKey)) (invariant_absent _)
    (fun _ invariant change => change_invariant limited invariant change)
  rw [found] at invariant
  exact invariant

/-- An attempt is left to every processing row, so no row awaits the second UPDATE. -/
theorem none_exhausted (limited : 1 ≤ maxAttempts config queueKey) {history : List Event}
    {state : Server} (run : Run (transition config queueKey) (Server.idle Table.empty) history state)
    (now : Time) : ∀ row ∈ state.jobs.rows,
      exhausted (maxAttempts config queueKey) now row = false := by
  intro row member
  have consistent := run_consistent limited run (Table.mem_lookup member)
  rw [Bool.eq_false_iff]
  intro matched
  rw [exhausted, Bool.and_eq_true] at matched
  have left := consistent.remaining (Or.inr (expired_processing matched.1))
  have spent := of_decide_eq_true matched.2
  omega

/-- Right after the first UPDATE of a reclaim no lease is expired at its time: an
expired row had an attempt left, so it matched and is pending now. -/
theorem reclaimed_unexpired (limited : 1 ≤ maxAttempts config queueKey) {history : List Event}
    {state : Server} (run : Run (transition config queueKey) (Server.idle Table.empty) history state)
    (now : Time) : ∀ row ∈ (reclaimExpiredLeasesPending (maxAttempts config queueKey) now
      state.jobs).rows, row.expired now = false := by
  intro row member
  obtain ⟨old, stored, rewritten⟩ := List.mem_map.mp member
  have consistent := run_consistent limited run (Table.mem_lookup stored)
  rw [Bool.eq_false_iff]
  intro expired
  by_cases matched : recoverable (maxAttempts config queueKey) now old = true
  · rw [if_pos matched] at rewritten
    have pending : row.status = .pending := rewritten ▸ rfl
    rw [expired_processing expired] at pending
    cases pending
  · rw [if_neg matched] at rewritten
    subst rewritten
    have left := consistent.remaining (Or.inr (expired_processing expired))
    exact matched (by simp [recoverable, expired, left])

/-- The job table over every interleaving, from rows inserted with the schema
defaults and a limit of at least one attempt. Status and both lease columns agree;
pending and processing rows have an attempt left; the attempt count is the number of
failed commits that took effect; the second UPDATE of a reclaim matches no row;
finished rows never change again; and the first UPDATE of a reclaim leaves no expired
lease behind. -/
theorem job_rows_consistent (limited : 1 ≤ maxAttempts config queueKey) {history : List Event}
    {state : Server}
    (run : Run (transition config queueKey) (Server.idle Table.empty) history state) :
    (∀ id row, state.jobs.lookup id = some row →
      (row.status = .processing ↔ row.leasedBy.isSome) ∧
      (row.leasedBy.isSome ↔ row.leaseExpiresAt.isSome) ∧
      (row.status = .pending ∨ row.status = .processing →
        row.attemptCount < maxAttempts config queueKey) ∧
      row.attemptCount = failures (jobHistory id history)) ∧
    (∀ now, reclaimExpiredLeasesDeadLetter (maxAttempts config queueKey) now state.jobs =
      state.jobs) ∧
    (∀ {later : Server} {rest : List Event}, Run (transition config queueKey) state rest later →
      ∀ id row, state.jobs.lookup id = some row → row.finished →
        later.jobs.lookup id = some row) ∧
    (∀ now, ∀ row ∈ (reclaimExpiredLeasesPending (maxAttempts config queueKey) now
      state.jobs).rows, ∀ expiry, row.status = .processing → row.leaseExpiresAt = some expiry →
        ¬ expiry < now) := by
  refine ⟨?_, ?_, ?_, ?_⟩
  · intro id row found
    have consistent := run_consistent limited run found
    exact ⟨consistent.leased, consistent.expiring, consistent.remaining, consistent.counted⟩
  · intro now
    exact Table.update_unmatched _ _ _ _ (none_exhausted limited run now)
  · intro later rest continued id row found finished
    refine (row_run (run_reads (idle_reads Table.empty) run) continued id).invariant
      (fun _ stored => stored = some row) found ?_
    rintro _ _ _ _ _ rfl change
    exact finished_frozen finished change
  · intro now row member expiry processing expires late
    have unexpired := reclaimed_unexpired limited run now row member
    simp [JobRow.expired, processing, expires, late] at unexpired

/-- The row of a stalled worker counts its failures. -/
theorem job_rows_consistent_stalled_worker :
    1 ≤ maxAttempts queues .refundRetry ∧ ∃ history state,
      Run (transition queues .refundRetry) (Server.idle Table.empty) history state ∧
        state.jobs.rows.length = 1 ∧
        ∀ row, state.jobs.lookup 7 = some row →
          row.attemptCount = failures (jobHistory 7 history) := by
  have limited : 1 ≤ maxAttempts queues .refundRetry := by decide
  have run : Run (transition queues .refundRetry) (Server.idle Table.empty) _ _ :=
    run_of_schedule stalledWorker rfl
  refine ⟨limited, _, _, run, by decide, ?_⟩
  intro row found
  exact ((job_rows_consistent limited run).1 7 row found).2.2.2

end Life

end PlanBuddy.JobEngine
