import PlanBuddy.JobLife

/-!
# How often a job row is claimed

A claim ends in a commit that takes effect or in a reclaim. The failed commits
are counted in `attempt_count`, but a reclaim returns its row to pending without
counting anything. So the claims of a pending row are its attempt count plus the
number of leases recovered from it, and the retry limit, which is compared with
the attempt count alone, bounds the claims of a row exactly as long as that sum
is below the limit whenever the row is claimed.

A worker that hangs past its lease is therefore never charged an attempt, and the
dead letter branch of the reclaim, meant for such rows, is out of reach.
-/

namespace PlanBuddy.JobEngine

/-- Times the row was handed to a worker. -/
def claims (history : List Event) : Nat :=
  history.countP fun
    | .claimed _ => true
    | _ => false

/-- Expired leases put back to pending. -/
def recoveries (history : List Event) : Nat :=
  history.countP fun
    | .recovered _ => true
    | _ => false

/-- Whenever the row was claimed, its counted attempts and its recovered leases so
far were together below the limit. -/
def WithinBudget (limit : Nat) (history : List Event) : Prop :=
  ∀ before row after, history = before ++ .claimed row :: after →
    row.attemptCount + recoveries before < limit

/-- The budget of a longer history is that of the shorter one, together with the
last event when it is a claim. -/
theorem budget_append (limit : Nat) (history : List Event) (event : Event) :
    WithinBudget limit (history ++ [event]) ↔
      WithinBudget limit history ∧
        ∀ row, event = .claimed row → row.attemptCount + recoveries history < limit := by
  constructor
  · intro within
    constructor
    · rintro before row after rfl
      exact within before row (after ++ [event]) (by simp)
    · rintro row rfl
      exact within history row [] rfl
  · rintro ⟨within, last⟩ before row after split
    rcases List.eq_nil_or_concat after with rfl | ⟨init, final, rfl⟩
    · obtain ⟨rfl, same⟩ := List.append_inj' split rfl
      exact last row (List.singleton_inj.mp same)
    · have shorter : history ++ [event] = (before ++ .claimed row :: init) ++ [final] := by
        simpa using split
      exact within before row init (List.append_inj' shorter rfl).1

/-- The claims of a row that may still be claimed or is being worked on. The count is
one ahead while the last claim has neither been committed nor recovered. -/
def Tally (history : List Event) (stored : Option JobRow) : Prop :=
  match stored with
  | none => claims history = 0 ∧ recoveries history = 0
  | some row =>
    (row.status = .pending → claims history = row.attemptCount + recoveries history) ∧
    (row.status = .processing → claims history = row.attemptCount + recoveries history + 1)

/-- A row that is absent was never claimed. -/
theorem tally_absent : Tally [] none := ⟨rfl, rfl⟩

/-- Every change keeps the tally. A failed commit that returns the row to pending
raises the attempt count; a recovery raises the recoveries. -/
theorem change_tally {limit : Nat} {history events : List Event} {before after : Option JobRow}
    (tally : Tally history before) (change : RowChange limit before events after) :
    Tally (history ++ events) after := by
  cases change with
  | idle => simpa using tally
  | enqueued job =>
    refine ⟨fun _ => ?_, fun processing => by simp [NewJob.row] at processing⟩
    simp [NewJob.row, claims, recoveries, List.countP_append]
    exact tally.1.trans tally.2.symm
  | claimed row workerId leaseExp now pending =>
    refine ⟨fun absurdity => by simp [JobRow.claim] at absurdity, fun _ => ?_⟩
    have counted := tally.1 pending
    simp only [claims, recoveries, List.countP_append, JobRow.claim] at counted ⊢
    simp [counted]
  | extended row call extendMs now held =>
    have processing := ((holds_iff call row).mp held).2.2.2
    have counted := tally.2 processing
    refine ⟨fun pending => by simp [JobRow.extend, processing] at pending, fun _ => ?_⟩
    simpa [claims, recoveries, List.countP_append, JobRow.extend] using counted
  | succeeded row call result now held =>
    exact ⟨fun pending => by simp [JobRow.succeed] at pending,
      fun processing => by simp [JobRow.succeed] at processing⟩
  | buried row call thrown now held =>
    exact ⟨fun pending => by simp [JobRow.bury] at pending,
      fun processing => by simp [JobRow.bury] at processing⟩
  | retried row call runAfter thrown now held remaining =>
    have counted := tally.2 ((holds_iff call row).mp held).2.2.2
    refine ⟨fun _ => ?_, fun processing => by simp [JobRow.retry] at processing⟩
    simp only [claims, recoveries, List.countP_append, JobRow.retry] at counted ⊢
    simp only [counted, List.countP_singleton, Bool.false_eq_true, if_false]
    omega
  | recovered row now matched =>
    rw [recoverable, Bool.and_eq_true] at matched
    have counted := tally.2 (expired_processing matched.1)
    refine ⟨fun _ => ?_, fun processing => by simp [JobRow.recover] at processing⟩
    simp only [claims, recoveries, List.countP_append, JobRow.recover] at counted ⊢
    simp only [counted, List.countP_singleton, Bool.false_eq_true, if_false, if_true]
    omega
  | abandoned row now matched =>
    exact ⟨fun pending => by simp [JobRow.abandon] at pending,
      fun processing => by simp [JobRow.abandon] at processing⟩

/-- One change keeps the equivalence between a bounded number of claims and a budget
that was never overdrawn. Only a claim can change either side. -/
theorem change_bounded {limit : Nat} {history events : List Event} {before after : Option JobRow}
    (tally : Tally history before) (bounded : claims history ≤ limit ↔ WithinBudget limit history)
    (change : RowChange limit before events after) :
    claims (history ++ events) ≤ limit ↔ WithinBudget limit (history ++ events) := by
  have other : ∀ event : Event, (∀ row, event ≠ .claimed row) →
      (claims (history ++ [event]) ≤ limit ↔ WithinBudget limit (history ++ [event])) := by
    intro event unclaimed
    have same : claims (history ++ [event]) = claims history := by
      cases event <;> simp_all [claims, List.countP_append]
    rw [same, budget_append, bounded]
    exact ⟨fun within => ⟨within, fun row claim => absurd claim (unclaimed row)⟩, And.left⟩
  cases change with
  | idle => simpa using bounded
  | claimed row workerId leaseExp now pending =>
    have counted := tally.1 pending
    have next : claims (history ++ [.claimed (row.claim workerId leaseExp now)]) =
        claims history + 1 := by simp [claims, List.countP_append]
    rw [next, budget_append, ← bounded]
    constructor
    · intro within
      refine ⟨by omega, ?_⟩
      rintro _ ⟨rfl⟩
      simp only [JobRow.claim]
      omega
    · rintro ⟨-, last⟩
      have below := last _ rfl
      simp only [JobRow.claim] at below
      omega
  | _ => exact other _ (fun _ => by simp)

section Bounds

variable {config : QueueConfig} {queueKey : QueueKey}

/-- The tally and the equivalence hold along every run from the empty table. -/
theorem run_tally {history : List Event} {state : Server}
    (run : Run (transition config queueKey) (Server.idle Table.empty) history state) (id : JobId) :
    Tally (jobHistory id history) (state.jobs.lookup id) ∧
      (claims (jobHistory id history) ≤ maxAttempts config queueKey ↔
        WithinBudget (maxAttempts config queueKey) (jobHistory id history)) := by
  refine (row_run (idle_reads Table.empty) run id).invariant
    (fun events stored => Tally events stored ∧ (claims events ≤ maxAttempts config queueKey ↔
      WithinBudget (maxAttempts config queueKey) events)) ⟨tally_absent, ?_⟩ ?_
  · refine ⟨fun _ before row after split => ?_, fun _ => Nat.zero_le _⟩
    simp at split
  · rintro _ _ _ _ _ ⟨tally, bounded⟩ change
    exact ⟨change_tally tally change, change_bounded tally bounded change⟩

/-- When exactly the retry limit bounds the claims of a row, for every run of any
length: at each of its claims, the attempts counted in the row and the leases
recovered from it so far were together below the limit. -/
theorem claims_bounded_iff {history : List Event} {state : Server}
    (run : Run (transition config queueKey) (Server.idle Table.empty) history state) (id : JobId) :
    claims (jobHistory id history) ≤ maxAttempts config queueKey ↔
      ∀ before row after, jobHistory id history = before ++ .claimed row :: after →
        row.attemptCount + recoveries before < maxAttempts config queueKey :=
  (run_tally run id).2

/-- A worker that hangs `count` times in a row: each claim is left to expire. -/
def hangingWorker : Nat → Time → List Action
  | 0, _ => []
  | count + 1, clock =>
    .atomicClaim ⟨1, "hanging", none, none⟩ [] clock clock (fun _ => false) id ::
      .reclaimExpiredLeasesPending (clock + 120001) :: hangingWorker count (clock + 240000)

/-- Refund jobs may be attempted five times, yet a sixth claim succeeds when every
earlier lease expired. -/
theorem sixth_claim :
    ∃ history state,
      Run (transition queues .refundRetry) (Server.idle Table.empty) history state ∧
        maxAttempts queues .refundRetry = 5 ∧ claims (jobHistory 7 history) = 6 :=
  ⟨_, _, run_of_schedule (.enqueue { id := 7, createdAt := 0 } :: hangingWorker 6 0) rfl,
    rfl, by decide⟩

/-- The row of a stalled worker was claimed within its limit. -/
theorem claims_bounded_stalled_worker :
    ∃ history state,
      Run (transition queues .refundRetry) (Server.idle Table.empty) history state ∧
        claims (jobHistory 7 history) = 2 ∧
        ∀ before row after, jobHistory 7 history = before ++ .claimed row :: after →
          row.attemptCount + recoveries before < maxAttempts queues .refundRetry := by
  have run : Run (transition queues .refundRetry) (Server.idle Table.empty) _ _ :=
    run_of_schedule stalledWorker rfl
  exact ⟨_, _, run, by decide, (claims_bounded_iff run 7).mp (by decide)⟩

end Bounds

end PlanBuddy.JobEngine
