import PlanBuddy.OutboxRuns

/-!
# Lease fencing of outbox rows

The outbox repeats the lease protocol of the job tables in statements of its own, so
its laws are proved from its own row changes. The lease of a row, read together with
its status, is a fenced lease: a claim grants it, either commit settles it and the
reclaim revokes it. Columns and counts follow from an invariant of the projected row.

Rows enter with the schema defaults; relays may take any step in any order, and the
limit passed to a failure plays no part here.
-/

namespace PlanBuddy.Outbox

open JobEngine (LeaseCall Thrown)
open Fencing (Lease)

/-- A row outside `processing` is a free lease. An absent row is the free lease that an
INSERT creates. -/
def leaseOf : Option OutboxRow → Lease WorkerId
  | none => ⟨none, 0⟩
  | some row => ⟨if row.status = .processing then row.leasedBy else none, row.leaseVersion⟩

/-- INSERTs, deliveries and reclaims leave no trace in the lease history. -/
def leaseEvent : Event → Option (Fencing.Event WorkerId)
  | .claimed row => some (.granted (row.leasedBy.getD "") row.leaseVersion)
  | .succeeded call => some (.settled call.workerId call.leaseVersion)
  | .failed call => some (.settled call.workerId call.leaseVersion)
  | _ => none

/-- The lease versions of the commits that took effect, of either kind. -/
def commitVersions (history : List Event) : List Nat :=
  history.filterMap fun
    | .succeeded call => some call.leaseVersion
    | .failed call => some call.leaseVersion
    | _ => none

/-- The lease versions returned by the claims of a history. -/
def claimVersions (history : List Event) : List Nat :=
  history.filterMap fun
    | .claimed row => some row.leaseVersion
    | _ => none

/-- Failures that took effect. -/
def failures (history : List Event) : Nat :=
  history.countP fun
    | .failed _ => true
    | _ => false

/-- The claims of an event are the grants of its leases. -/
theorem claimVersions_grants (history : List Event) :
    claimVersions history = Fencing.grants (history.filterMap leaseEvent) := by
  rw [Fencing.grants, List.filterMap_filterMap]
  apply List.filterMap_congr
  intro event _
  cases event <;> rfl

/-- Its commits are their settlements. -/
theorem commitVersions_settlements (history : List Event) :
    commitVersions history = Fencing.settlements (history.filterMap leaseEvent) := by
  rw [Fencing.settlements, List.filterMap_filterMap]
  apply List.filterMap_congr
  intro event _
  cases event <;> rfl

/-- A matching fence makes the caller the holder of the lease, under its version. -/
theorem holds_lease {call : LeaseCall} {row : OutboxRow} (held : holds call row = true) :
    leaseOf (some row) = ⟨some call.workerId, call.leaseVersion⟩ := by
  obtain ⟨-, holder, version, processing⟩ := (holds_iff call row).mp held
  simp [leaseOf, holder, version, processing]

/-- A commit that takes effect settles the lease, whatever else it writes. -/
theorem commit_settles {call : LeaseCall} {row after : OutboxRow} (held : holds call row = true)
    (version : after.leaseVersion = row.leaseVersion) (released : after.leasedBy = none) :
    Fencing.Step (leaseOf (some row)) [.settled call.workerId call.leaseVersion]
      (leaseOf (some after)) := by
  have settled : leaseOf (some after) = ⟨none, call.leaseVersion⟩ := by
    simp [leaseOf, version, released, ((holds_iff call row).mp held).2.2.1]
  rw [holds_lease held, settled]
  exact .settle call.workerId call.leaseVersion

/-- Every change of a row is a step of its lease. -/
theorem change_lease {before after : Option OutboxRow} {events : List Event}
    (change : RowChange before events after) :
    Fencing.Step (leaseOf before) (events.filterMap leaseEvent) (leaseOf after) := by
  cases change with
  | idle => exact .keep _
  | written event => exact .keep _
  | claimed row workerId leaseExp now pending =>
    have free : leaseOf (some row) = ⟨none, row.leaseVersion⟩ := by simp [leaseOf, pending]
    rw [free]
    exact .grant workerId row.leaseVersion
  | delivered stored row behind => exact .keep _
  | succeeded row call now held => exact commit_settles held rfl rfl
  | buried row call thrown now held => exact commit_settles held rfl rfl
  | retried row call runAfter thrown now held => exact commit_settles held rfl rfl
  | recovered row now matched => exact .revoke _ row.leaseVersion

/-- A stored row together with what has happened to it. -/
structure Consistent (history : List Event) (row : OutboxRow) : Prop where
  leased : row.status = .processing ↔ row.leasedBy.isSome
  expiring : row.status = .processing ↔ row.leaseExpiresAt.isSome
  counted : row.deliveryAttempt = failures history

/-- The invariant of a projected run: no row, no failure; a row, consistent columns. -/
def RowInvariant (history : List Event) (stored : Option OutboxRow) : Prop :=
  match stored with
  | none => failures history = 0
  | some row => Consistent history row

/-- Every change keeps the invariant: each statement that enters or leaves `processing`
writes both lease columns, and only a failure writes the attempt count. -/
theorem change_invariant {history events : List Event} {before after : Option OutboxRow}
    (invariant : RowInvariant history before) (change : RowChange before events after) :
    RowInvariant (history ++ events) after := by
  cases change with
  | idle => simpa using invariant
  | written event =>
    have clean : failures history = 0 := invariant
    constructor
    · simp [NewEvent.row]
    · simp [NewEvent.row]
    · simpa [NewEvent.row, failures] using clean.symm
  | claimed row workerId leaseExp now pending =>
    constructor
    · simp [OutboxRow.claim]
    · simp [OutboxRow.claim]
    · simpa [OutboxRow.claim, failures] using invariant.counted
  | delivered stored row behind =>
    cases before with
    | none => simpa [RowInvariant, failures] using invariant
    | some kept =>
      refine ⟨invariant.leased, invariant.expiring, ?_⟩
      simpa [failures] using invariant.counted
  | succeeded row call now held =>
    constructor
    · simp [OutboxRow.succeed]
    · simp [OutboxRow.succeed]
    · simpa [OutboxRow.succeed, failures] using invariant.counted
  | buried row call thrown now held =>
    constructor
    · simp [OutboxRow.bury]
    · simp [OutboxRow.bury]
    · simpa [OutboxRow.bury, failures] using invariant.counted
  | retried row call runAfter thrown now held =>
    constructor
    · simp [OutboxRow.retry]
    · simp [OutboxRow.retry]
    · simpa [OutboxRow.retry, failures] using invariant.counted
  | recovered row now matched =>
    constructor
    · simp [OutboxRow.recover]
    · simp [OutboxRow.recover]
    · simpa [OutboxRow.recover, failures] using invariant.counted

/-- Nothing changes a settled row: each guard asks for pending or processing. -/
theorem settled_frozen {row : OutboxRow} {events : List Event} {after : Option OutboxRow}
    (settled : row.settled) (change : RowChange (some row) events after) : after = some row := by
  have notPending : row.status ≠ .pending := by
    rcases settled with done | done <;> simp [done]
  have notProcessing : row.status ≠ .processing := by
    rcases settled with done | done <;> simp [done]
  cases change with
  | idle => rfl
  | claimed _ workerId leaseExp now pending => exact absurd pending notPending
  | delivered _ row behind => rfl
  | succeeded _ call now held => exact absurd ((holds_iff call row).mp held).2.2.2 notProcessing
  | buried _ call thrown now held =>
    exact absurd ((holds_iff call row).mp held).2.2.2 notProcessing
  | retried _ call runAfter thrown now held =>
    exact absurd ((holds_iff call row).mp held).2.2.2 notProcessing
  | recovered _ now matched =>
    rw [recoverable, Bool.and_eq_true] at matched
    exact absurd (expired_processing matched.1) notProcessing

section Runs

/-- The lease of a row along a whole run of the outbox. -/
theorem lease_run {start state : Server} {history : List Event} (current : ReadsCurrent start)
    (run : Run transition start history state) (id : EventId) :
    Run Fencing.Step (leaseOf (start.outbox.lookup id))
      ((eventHistory id history).filterMap leaseEvent) (leaseOf (state.outbox.lookup id)) :=
  (row_run current run id).simulates leaseOf leaseEvent (fun _ change => change_lease change)

/-- What became of a stored row and of the claims on it since. -/
def Outlived (row : OutboxRow) (history : List Event) (stored : Option OutboxRow) : Prop :=
  ∃ after, stored = some after ∧ row.leaseVersion ≤ after.leaseVersion ∧
    ∀ version ∈ claimVersions history, row.leaseVersion < version

/-- Stored rows stay stored, their version does not decrease, and every later claim of
them returns a version above all they had. -/
theorem run_outlived {start state : Server} {history : List Event} (current : ReadsCurrent start)
    (run : Run transition start history state) {id : EventId} {row : OutboxRow}
    (found : start.outbox.lookup id = some row) :
    Outlived row (eventHistory id history) (state.outbox.lookup id) := by
  refine (row_run current run id).invariant (Outlived row)
    ⟨row, found, Nat.le_refl _, by simp [claimVersions]⟩ ?_
  rintro earlier observed _ _ _ ⟨middle, rfl, bound, fresh⟩ change
  obtain ⟨after, stored, grows, -⟩ := change_keeps change
  refine ⟨after, stored, Nat.le_trans bound grows, ?_⟩
  intro version member
  rw [claimVersions, List.filterMap_append] at member
  rcases List.mem_append.mp member with old | new
  · exact fresh version old
  · cases change with
    | claimed _ workerId leaseExp now pending =>
      have granted : version = middle.leaseVersion + 1 := by
        simpa [OutboxRow.claim] using new
      omega
    | _ => simp at new

/-- Every stored row of a run from the empty table is consistent with its history. -/
theorem run_consistent {history : List Event} {state : Server}
    (run : Run transition (Server.idle Table.empty) history state) {id : EventId} {row : OutboxRow}
    (found : state.outbox.lookup id = some row) : Consistent (eventHistory id history) row := by
  have absent : RowInvariant [] (Table.lookup (Table.empty : OutboxEvents) id) := rfl
  have invariant := (row_run (idle_reads Table.empty) run id).invariant RowInvariant absent
    (fun _ invariant change => change_invariant invariant change)
  rw [found] at invariant
  exact invariant

end Runs

section Stale

/-- A call under a version that its row has left behind. -/
def Outdated (call : LeaseCall) (outbox : OutboxEvents) : Prop :=
  ∀ row, outbox.lookup call.id = some row → row.leaseVersion ≠ call.leaseVersion

/-- No commit of the call writes anything, the late UPDATE of a failure included. -/
structure Powerless (call : LeaseCall) (outbox : OutboxEvents) : Prop where
  success : ∀ now, commitOutboxSuccess call now outbox = outbox
  select : ∀ thrown maxAttempts, commitOutboxFailureSelect call thrown maxAttempts outbox = none
  update : ∀ write : FailureWrite, write.call = call → ∀ clock now,
    commitOutboxFailureUpdate write clock now outbox = outbox

/-- No row matches the fence of an outdated call, so each of its statements is void. -/
theorem outdated_powerless {call : LeaseCall} {outbox : OutboxEvents}
    (outdated : Outdated call outbox) : Powerless call outbox := by
  have unmatched : ∀ row ∈ outbox.rows, holds call row = false := by
    intro row member
    rw [Bool.eq_false_iff, ne_eq, holds_iff]
    rintro ⟨sameId, -, version, -⟩
    exact outdated row (sameId ▸ Table.mem_lookup member) version
  constructor
  · intro now
    exact Table.update_unmatched _ _ _ _ unmatched
  · intro thrown maxAttempts
    simp [commitOutboxFailureSelect, Table.select_none unmatched]
  · rintro write rfl clock now
    unfold commitOutboxFailureUpdate
    split <;> exact Table.update_unmatched _ _ _ _ unmatched

/-- A reclaim raises the version of the row it recovers. -/
theorem reclaim_raises {outbox : OutboxEvents} {now : Time} {row : OutboxRow}
    (stored : row ∈ outbox.rows) (matched : recoverable now row = true) :
    (reclaimExpiredOutboxLeases now outbox).lookup row.id = some (row.recover now) := by
  have rewritten := Table.lookup_update outbox (recoverable now) (fun row => row.recover now)
    (fun _ => rfl) row.id
  rw [Table.mem_lookup stored, Option.map_some, if_pos matched] at rewritten
  exact rewritten

/-- A commit under a lease that was reclaimed is powerless from then on. -/
theorem reclaimed_powerless {server later : Server} {rest : List Event}
    (current : ReadsCurrent server) {now : Time} {row : OutboxRow}
    (stored : row ∈ server.outbox.rows) (matched : recoverable now row = true)
    (continued : Run transition
      { server with outbox := reclaimExpiredOutboxLeases now server.outbox } rest later)
    {call : LeaseCall} (named : call.id = row.id) (version : call.leaseVersion ≤ row.leaseVersion) :
    Powerless call later.outbox := by
  have reclaimed : transition server _ _ := ⟨.reclaimExpiredOutboxLeases now, trivial, rfl⟩
  obtain ⟨after, found, raised, -⟩ :=
    run_outlived (step_reads current reclaimed) continued (reclaim_raises stored matched)
  apply outdated_powerless
  intro other foundOther same
  rw [named, found] at foundOther
  obtain rfl := Option.some.inj foundOther
  have recovered : (row.recover now).leaseVersion = row.leaseVersion + 1 := rfl
  omega

end Stale

/-- Lease fencing of the outbox over every interleaving, from rows inserted with the
schema defaults. Versions of stored rows never decrease and each claim returns one
above all earlier ones; at most one commit takes effect under each version of a row; a
commit under a lease that was reclaimed changes nothing, at any later time; status and
both lease columns agree; the attempt count is the number of failures that took
effect; settled rows never change again. -/
theorem outbox_leases_fenced {history : List Event} {state : Server}
    (run : Run transition (Server.idle Table.empty) history state) :
    (∀ {later : Server} {rest : List Event}, Run transition state rest later →
      ∀ id row, state.outbox.lookup id = some row →
        ∃ after, later.outbox.lookup id = some after ∧ row.leaseVersion ≤ after.leaseVersion ∧
          (∀ version ∈ claimVersions (eventHistory id rest), row.leaseVersion < version) ∧
          (row.settled → after = row)) ∧
    (∀ id, (claimVersions (eventHistory id history)).Nodup) ∧
    (∀ id version, (commitVersions (eventHistory id history)).count version ≤ 1) ∧
    (∀ now row, row ∈ state.outbox.rows → recoverable now row = true →
      ∀ {later : Server} {rest : List Event}, Run transition
        { state with outbox := reclaimExpiredOutboxLeases now state.outbox } rest later →
      ∀ call : LeaseCall, call.id = row.id → call.leaseVersion ≤ row.leaseVersion →
        Powerless call later.outbox) ∧
    (∀ id row, state.outbox.lookup id = some row →
      (row.status = .processing ↔ row.leasedBy.isSome ∧ row.leaseExpiresAt.isSome) ∧
      (row.leasedBy.isSome ↔ row.leaseExpiresAt.isSome) ∧
      row.deliveryAttempt = failures (eventHistory id history)) := by
  have current : ReadsCurrent state := run_reads (idle_reads Table.empty) run
  refine ⟨?_, ?_, ?_, ?_, ?_⟩
  · intro later rest continued id row found
    obtain ⟨after, stored, bound, fresh⟩ := run_outlived current continued found
    refine ⟨after, stored, bound, fresh, ?_⟩
    intro settled
    have frozen : later.outbox.lookup id = some row := by
      refine (row_run current continued id).invariant (fun _ stored => stored = some row) found ?_
      rintro _ _ _ _ _ rfl change
      exact settled_frozen settled change
    exact Option.some.inj (stored.symm.trans frozen)
  · intro id
    rw [claimVersions_grants]
    exact Fencing.grants_nodup (lease_run (idle_reads Table.empty) run id)
  · intro id version
    rw [commitVersions_settlements]
    exact List.nodup_iff_count_le_one.mp
      (Fencing.settlements_nodup (lease_run (idle_reads Table.empty) run id)) version
  · intro now row stored matched later rest continued call named version
    exact reclaimed_powerless current stored matched continued named version
  · intro id row found
    have consistent := run_consistent run found
    refine ⟨?_, consistent.leased.symm.trans consistent.expiring, consistent.counted⟩
    rw [← consistent.leased, ← consistent.expiring, and_self]

section Sample

/-- One event, claimed by a relay that stalls, reclaimed and claimed again. The stalled
relay reports a failure late, then the current holder delivers. -/
def stalledRelay : List Action :=
  [.writeOutboxEvent
      { id := 4, aggregateType := "refund", aggregateId := "r", sequenceNumber := 1, createdAt := 0 },
    .claimOutboxBatch ⟨"first", 10, none⟩ 0 0 (fun _ => false) id,
    .reclaimExpiredOutboxLeases 30001,
    .claimOutboxBatch ⟨"second", 10, none⟩ 30002 30002 (fun _ => false) id,
    .commitOutboxFailureSelect ⟨4, "first", 1⟩ (.error "timeout" none false) 10,
    .commitOutboxSuccess ⟨4, "second", 3⟩ 30003]

/-- A relay that stalls commits nothing after another has claimed. -/
theorem outbox_leases_fenced_stalled_relay :
    ∃ history state, Run transition (Server.idle Table.empty) history state ∧
      claimVersions (eventHistory 4 history) = [1, 3] ∧
      (claimVersions (eventHistory 4 history)).Nodup ∧
      (commitVersions (eventHistory 4 history)).count 3 ≤ 1 := by
  have run : Run transition (Server.idle Table.empty) _ _ := run_of_schedule stalledRelay rfl
  have fenced := outbox_leases_fenced run
  exact ⟨_, _, run, by decide, fenced.2.1 4, fenced.2.2.1 4 3⟩

end Sample

end PlanBuddy.Outbox
