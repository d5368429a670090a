import PlanBuddy.OutboxLeases

/-!
# Recovery of expired outbox leases

The reclaim of job rows has two UPDATEs, one for rows with an attempt left and one for
the others. The reclaim of the outbox has the first alone, so an expired row whose
attempts are spent by its column stays `processing`, and no relay sees it again. Such a
row arises only when a failure puts it back to `pending` under the larger limit of its
caller. Without that step every reclaim is complete.
-/

namespace PlanBuddy.Outbox

open JobEngine (LeaseCall Thrown)

/-- Rows enter with at least one attempt. -/
def Limited : Action → Prop
  | .writeOutboxEvent event => 1 ≤ event.maxAttempts
  | _ => True

/-- A failure that retries leaves its row an attempt by the column `max_attempts`. -/
def LeavesAttempt (server : Server) : Action → Prop
  | .commitOutboxFailureUpdate position _ _ =>
    ∀ write ∈ server.failures[position]?, write.isDead = false →
      ∀ row ∈ server.outbox.rows, holds write.call row = true → write.nextAttempt < row.maxAttempts
  | _ => True

instance : DecidablePred Limited
  | .writeOutboxEvent _ => inferInstanceAs (Decidable (_ ≤ _))
  | .claimOutboxBatch _ _ _ _ _ | .deliver _ | .commitOutboxSuccess _ _
  | .commitOutboxFailureSelect _ _ _ | .commitOutboxFailureUpdate _ _ _
  | .reclaimExpiredOutboxLeases _ => inferInstanceAs (Decidable True)

instance (server : Server) : (action : Action) → Decidable (LeavesAttempt server action)
  | .commitOutboxFailureUpdate position _ _ =>
    inferInstanceAs (Decidable (∀ write ∈ server.failures[position]?, _ →
      ∀ row ∈ server.outbox.rows, _ → _))
  | .writeOutboxEvent _ | .claimOutboxBatch _ _ _ _ _ | .deliver _ | .commitOutboxSuccess _ _
  | .commitOutboxFailureSelect _ _ _ | .reclaimExpiredOutboxLeases _ =>
    inferInstanceAs (Decidable True)

/-- An unsettled row has an attempt left, by its own column. -/
def OutboxRow.remaining (row : OutboxRow) : Prop :=
  row.settled ∨ row.deliveryAttempt < row.maxAttempts

/-- No row has run out of attempts without being settled. -/
def Recoverable (server : Server) : Prop := ∀ row ∈ server.outbox.rows, row.remaining

section Complete

/-- The UPDATE of a failure settles its rows or leaves them an attempt. -/
theorem failure_remaining {write : FailureWrite} {outbox : OutboxEvents} (clock now : Time)
    (remaining : ∀ row ∈ outbox.rows, row.remaining)
    (leaves : write.isDead = false → ∀ row ∈ outbox.rows, holds write.call row = true →
      write.nextAttempt < row.maxAttempts) :
    ∀ row ∈ (commitOutboxFailureUpdate write clock now outbox).rows, row.remaining := by
  unfold commitOutboxFailureUpdate
  split
  · apply Table.forall_update remaining
    intro row _ _ _
    exact Or.inl (Or.inr rfl)
  · next alive =>
    apply Table.forall_update remaining
    intro row stored held _
    exact Or.inr (leaves (Bool.eq_false_iff.mpr alive) row stored held)

/-- A claim takes pending rows, which have an attempt left, and keeps the count. -/
theorem claim_remaining {outbox : OutboxEvents} (request : ClaimRequest) (clock now : Time)
    (locked : EventId → Bool) (scan : EventId → Nat)
    (remaining : ∀ row ∈ outbox.rows, row.remaining) :
    ∀ row ∈ (claimOutboxBatch request clock now locked scan outbox).1.rows, row.remaining := by
  simp only [claimOutboxBatch]
  apply Table.forall_update remaining
  intro row stored chosen kept
  have pending := claimChoice_pending stored (of_decide_eq_true chosen)
  rcases kept with settled | attempts
  · simp [OutboxRow.settled, pending] at settled
  · exact Or.inr attempts

/-- One step of any party keeps every row recoverable. -/
theorem step_recoverable {server next : Server} {observed : List Event}
    (recoverable : Recoverable server)
    (taken : takes step (fun server action => Limited action ∧ LeavesAttempt server action)
      server observed next) : Recoverable next := by
  obtain ⟨action, ⟨limited, leaves⟩, taken⟩ := taken
  cases action with
  | writeOutboxEvent event =>
    simp only [step, Option.some.injEq, Prod.mk.injEq] at taken
    obtain ⟨rfl, -⟩ := taken
    show ∀ row ∈ (writeOutboxEvent event server.outbox).1.rows, row.remaining
    unfold writeOutboxEvent
    split
    · exact recoverable
    · apply Table.forall_insert recoverable
      intro _
      exact Or.inr limited
  | claimOutboxBatch request clock now locked scan =>
    simp only [step, Option.some.injEq, Prod.mk.injEq] at taken
    obtain ⟨rfl, -⟩ := taken
    exact claim_remaining request clock now locked scan recoverable
  | deliver position =>
    simp only [step, Option.map_eq_some_iff, Prod.mk.injEq] at taken
    obtain ⟨row, -, rfl, -⟩ := taken
    exact recoverable
  | commitOutboxSuccess call now =>
    simp only [step, Option.some.injEq, Prod.mk.injEq] at taken
    obtain ⟨rfl, -⟩ := taken
    show ∀ row ∈ (commitOutboxSuccess call now server.outbox).rows, row.remaining
    unfold commitOutboxSuccess
    apply Table.forall_update recoverable
    intro row _ _ _
    exact Or.inl (Or.inl rfl)
  | commitOutboxFailureSelect call thrown maxAttempts =>
    simp only [step, Option.some.injEq, Prod.mk.injEq] at taken
    obtain ⟨rfl, -⟩ := taken
    exact recoverable
  | commitOutboxFailureUpdate position clock now =>
    simp only [step, Option.map_eq_some_iff, Prod.mk.injEq] at taken
    obtain ⟨write, pending, rfl, -⟩ := taken
    exact failure_remaining clock now recoverable (leaves write pending)
  | reclaimExpiredOutboxLeases now =>
    simp only [step, Option.some.injEq, Prod.mk.injEq] at taken
    obtain ⟨rfl, -⟩ := taken
    show ∀ row ∈ (reclaimExpiredOutboxLeases now server.outbox).rows, row.remaining
    unfold reclaimExpiredOutboxLeases
    apply Table.forall_update recoverable
    intro row _ matched _
    rw [Outbox.recoverable, Bool.and_eq_true, decide_eq_true_eq] at matched
    exact Or.inr matched.2

/-- Where every row is recoverable, a reclaim leaves no expired lease behind. -/
theorem reclaimed_unexpired {server : Server} (recovers : Recoverable server) (now : Time) :
    ∀ row ∈ (reclaimExpiredOutboxLeases now server.outbox).rows, row.expired now = false := by
  intro row member
  obtain ⟨old, stored, rewritten⟩ := Table.mem_update.mp member
  rw [Bool.eq_false_iff]
  intro expired
  have processing := expired_processing expired
  split at rewritten
  · subst rewritten
    simp [OutboxRow.recover] at processing
  · next unmatched =>
    subst rewritten
    rcases recovers old stored with settled | attempts
    · simp [OutboxRow.settled, processing] at settled
    · exact unmatched (by simp [recoverable, expired, attempts])

end Complete

section Stuck

/-- A claim of a whole table, by a relay to which every row is unlocked, takes each
pending row that is due. -/
theorem claim_due {outbox : OutboxEvents} {row : OutboxRow} (stored : row ∈ outbox.rows)
    (pending : row.status = .pending) {now : Time} (due : ∀ time ∈ row.runAfter, time ≤ now)
    (workerId : WorkerId) :
    row.id ∈ claimChoice ⟨workerId, outbox.rows.length, none⟩ now (fun _ => false) (fun _ => 0)
      outbox := by
  have matched : row ∈ outbox.select (fun row =>
      claimable ⟨workerId, outbox.rows.length, none⟩ now row && !(fun _ => false) row.id) := by
    apply Table.mem_select.mpr
    refine ⟨stored, ?_⟩
    cases after : row.runAfter with
    | none => simp [claimable, pending, after]
    | some time => simpa [claimable, pending, after] using due time after
  have fits := (List.length_filter_le (fun row : OutboxRow =>
    claimable ⟨workerId, outbox.rows.length, none⟩ now row && !(fun _ => false) row.id) outbox.rows)
  unfold claimChoice
  apply List.mem_map_of_mem
  rw [List.take_of_length_le (by rw [List.length_insertionSort]; exact fits)]
  exact (List.mem_insertionSort _).mpr matched

/-- A pending row whose attempts are spent by its column can be claimed once more, and
when that relay dies no reclaim finds it. -/
theorem spent_stuck (server : Server) {row : OutboxRow} (stored : row ∈ server.outbox.rows)
    (pending : row.status = .pending) (spent : row.maxAttempts ≤ row.deliveryAttempt) :
    ∃ rest later, Run transition server rest later ∧ ∃ now,
      ∃ stuck ∈ (reclaimExpiredOutboxLeases now later.outbox).rows, stuck.expired now = true := by
  let due := row.runAfter.getD 0
  let request : ClaimRequest := ⟨"relay", server.outbox.rows.length, none⟩
  let claimedRow := row.claim "relay" (0 + leaseMs) due
  have dueBy : ∀ time ∈ row.runAfter, time ≤ due := by
    intro time after
    rw [Option.mem_def] at after
    simp [due, after]
  have chosen := claim_due stored pending dueBy "relay"
  have claimed : claimedRow ∈ (claimOutboxBatch request 0 due (fun _ => false) (fun _ => 0)
      server.outbox).1.rows := by
    simp only [claimOutboxBatch]
    exact Table.mem_update.mpr ⟨row, stored, if_pos (decide_eq_true chosen)⟩
  have passed : recoverable (leaseMs + 1) claimedRow = false := by
    have none : ¬ claimedRow.deliveryAttempt < claimedRow.maxAttempts := Nat.not_lt.mpr spent
    simp [recoverable, none]
  have taken : transition server _ _ :=
    ⟨.claimOutboxBatch request 0 due (fun _ => false) (fun _ => 0), trivial, rfl⟩
  refine ⟨_, _, Run.start.step taken, leaseMs + 1, claimedRow, ?_, ?_⟩
  · unfold reclaimExpiredOutboxLeases
    exact Table.mem_update.mpr ⟨claimedRow, claimed, if_neg (by simp [passed])⟩
  · simp [claimedRow, OutboxRow.expired, OutboxRow.claim, leaseMs]

/-- A retry beyond the column leaves such a row. -/
theorem overdrawn_spent {server next : Server} {observed : List Event} {action : Action}
    (taken : step server action = some (next, observed)) (overdrawn : ¬ LeavesAttempt server action) :
    ∃ row ∈ next.outbox.rows, row.status = .pending ∧ row.maxAttempts ≤ row.deliveryAttempt := by
  cases action with
  | commitOutboxFailureUpdate position clock now =>
    simp only [step, Option.map_eq_some_iff, Prod.mk.injEq] at taken
    obtain ⟨write, pending, rfl, -⟩ := taken
    simp only [LeavesAttempt, pending, Option.mem_some_iff, forall_eq', not_forall, not_lt] at overdrawn
    obtain ⟨alive, row, stored, held, spent⟩ := overdrawn
    refine ⟨row.retry write.nextAttempt (retryAt write.nextAttempt clock) write.thrown now, ?_, rfl,
      spent⟩
    simp only [commitOutboxFailureUpdate, alive, Bool.false_eq_true, if_false]
    exact Table.mem_update.mpr ⟨row, stored, if_pos held⟩
  | _ => exact absurd trivial overdrawn

end Stuck

/-- In every run that inserts rows with at least one attempt and whose retries leave
their row one by its own column, a reclaim at any time leaves no row `processing` with
an expiry before that time. Any other retry can be continued to a stuck row. -/
theorem outbox_recovers {history : List Event} {state : Server}
    (run : Run (takes step fun server action => Limited action ∧ LeavesAttempt server action)
      (Server.idle Table.empty) history state) :
    (∀ now, ∀ row ∈ (reclaimExpiredOutboxLeases now state.outbox).rows,
      ∀ expiry, row.status = .processing → row.leaseExpiresAt = some expiry → ¬ expiry < now) ∧
    (∀ action next observed, step state action = some (next, observed) →
      ¬ LeavesAttempt state action →
      ∃ rest later, Run transition next rest later ∧ ∃ now,
        ∃ row ∈ (reclaimExpiredOutboxLeases now later.outbox).rows, row.expired now = true) := by
  constructor
  · intro now row member expiry processing expires late
    have recovers : Recoverable state :=
      run.invariant (fun _ server => Recoverable server) (fun row member => by cases member)
        (fun _ recovers taken => step_recoverable recovers taken)
    have unexpired := reclaimed_unexpired recovers now row member
    simp [OutboxRow.expired, processing, expires, late] at unexpired
  · intro action next observed taken overdrawn
    obtain ⟨row, stored, pending, spent⟩ := overdrawn_spent taken overdrawn
    exact spent_stuck next stored pending spent

section Sample

/-- An event with one attempt, whose relay reports a failure under a limit of ten, and
which is claimed again by a relay that dies. -/
def overdrawn : List Action :=
  [.writeOutboxEvent
      { id := 4, aggregateType := "refund", aggregateId := "r", sequenceNumber := 1,
        maxAttempts := 1, createdAt := 0 },
    .claimOutboxBatch ⟨"first", 10, none⟩ 0 0 (fun _ => false) id,
    .commitOutboxFailureSelect ⟨4, "first", 1⟩ (.error "timeout" none false) 10,
    .commitOutboxFailureUpdate 0 100 100,
    .claimOutboxBatch ⟨"second", 10, none⟩ 2000 2000 (fun _ => false) id]

/-- The dead relay's event is neither pending nor dead-lettered after a reclaim. -/
theorem expired_lease_stuck :
    ¬ ∀ (history : List Event) (state : Server),
      Run (takes step fun _ action => Limited action) (Server.idle Table.empty) history state →
        ∀ now, ∀ row ∈ (reclaimExpiredOutboxLeases now state.outbox).rows, ∀ expiry,
          row.status = .processing → row.leaseExpiresAt = some expiry → ¬ expiry < now := by
  intro recovers
  have run : Run (takes step fun _ action => Limited action) (Server.idle Table.empty) _ _ :=
    run_of_restricted overdrawn rfl
  exact recovers _ _ run 40000 _ (List.mem_singleton.mpr rfl) 32000 rfl rfl (by decide)

/-- The same event under a limit that agrees with its column is dead-lettered. -/
theorem outbox_recovers_agreeing :
    ∃ history state,
      Run (takes step fun server action => Limited action ∧ LeavesAttempt server action)
        (Server.idle Table.empty) history state ∧
      ∀ now, ∀ row ∈ (reclaimExpiredOutboxLeases now state.outbox).rows, ∀ expiry,
        row.status = .processing → row.leaseExpiresAt = some expiry → ¬ expiry < now := by
  have run : Run (takes step fun server action => Limited action ∧ LeavesAttempt server action)
      (Server.idle Table.empty) _ _ :=
    run_of_restricted
      [.writeOutboxEvent
          { id := 4, aggregateType := "refund", aggregateId := "r", sequenceNumber := 1,
            maxAttempts := 2, createdAt := 0 },
        .claimOutboxBatch ⟨"first", 10, none⟩ 0 0 (fun _ => false) id,
        .commitOutboxFailureSelect ⟨4, "first", 1⟩ (.error "timeout" none false) 2,
        .commitOutboxFailureUpdate 0 100 100,
        .claimOutboxBatch ⟨"second", 10, none⟩ 2000 2000 (fun _ => false) id] rfl
  exact ⟨_, _, run, (outbox_recovers run).1⟩

end Sample

end PlanBuddy.Outbox
