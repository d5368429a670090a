import PlanBuddy.Fencing
import PlanBuddy.Outbox

/-!
# Interleavings of the outbox

A server state is the outbox with what the relays hold: failures whose attempt count
has been read and not yet written, and claimed events not yet handed to their target.
Any relay may take any step at any time. A relay that dies is one whose pending steps
are never taken, and a relay whose lease was reclaimed is one that still takes them.

Every statement is projected to the row under one identifier, and a run of the outbox
to a run of row changes.
-/

namespace PlanBuddy.Outbox

open JobEngine (LeaseCall Thrown)

structure Server where
  outbox : OutboxEvents
  failures : List FailureWrite
  held : List OutboxRow

/-- An outbox with no relay at work. -/
def Server.idle (outbox : OutboxEvents) : Server := ⟨outbox, [], []⟩

inductive Action where
  | writeOutboxEvent (event : NewEvent)
  | claimOutboxBatch (request : ClaimRequest) (clock now : Time) (locked : EventId → Bool)
      (scan : EventId → Nat)
  | deliver (position : Nat)
  | commitOutboxSuccess (call : LeaseCall) (now : Time)
  | commitOutboxFailureSelect (call : LeaseCall) (thrown : Thrown) (maxAttempts : Nat)
  | commitOutboxFailureUpdate (position : Nat) (clock now : Time)
  | reclaimExpiredOutboxLeases (now : Time)

/-- Events no relay has to look at again. -/
def OutboxRow.settled (row : OutboxRow) : Prop :=
  row.status = .delivered ∨ row.status = .deadLetter

instance (row : OutboxRow) : Decidable row.settled := inferInstanceAs (Decidable (_ ∨ _))

/-- The events of its aggregate that a row would overtake. -/
def overtaken (outbox : OutboxEvents) (row : OutboxRow) : List OutboxRow :=
  outbox.select fun earlier =>
    decide (earlier.aggregateType = row.aggregateType ∧ earlier.aggregateId = row.aggregateId ∧
      earlier.sequenceNumber < row.sequenceNumber ∧ ¬ earlier.settled)

/-- What took effect on a row. A claim is observed with the row it returned, and an event
handed to its target with those it overtakes. -/
inductive Event where
  | written (id : EventId)
  | claimed (row : OutboxRow)
  | delivered (row : OutboxRow) (overtaken : List OutboxRow)
  | succeeded (call : LeaseCall)
  | failed (call : LeaseCall)
  | recovered (id : EventId)

def Event.subject : Event → EventId
  | .written id => id
  | .claimed row => row.id
  | .delivered row _ => row.id
  | .succeeded call => call.id
  | .failed call => call.id
  | .recovered id => id

def step (server : Server) : Action → Option (Server × List Event)
  | .writeOutboxEvent event =>
    let (outbox, inserted) := writeOutboxEvent event server.outbox
    some ({ server with outbox }, if inserted then [.written event.id] else [])
  | .claimOutboxBatch request clock now locked scan =>
    let (outbox, rows) := claimOutboxBatch request clock now locked scan server.outbox
    some ({ server with outbox, held := server.held ++ rows }, rows.map .claimed)
  | .deliver position =>
    (server.held[position]?).map fun row =>
      ({ server with held := server.held.eraseIdx position },
        [.delivered row (overtaken server.outbox row)])
  | .commitOutboxSuccess call now =>
    some ({ server with outbox := commitOutboxSuccess call now server.outbox },
      (server.outbox.select (holds call)).map fun _ => .succeeded call)
  | .commitOutboxFailureSelect call thrown maxAttempts =>
    let write := commitOutboxFailureSelect call thrown maxAttempts server.outbox
    some ({ server with failures := server.failures ++ write.toList }, [])
  | .commitOutboxFailureUpdate position clock now =>
    (server.failures[position]?).map fun write =>
      ({ server with
          outbox := commitOutboxFailureUpdate write clock now server.outbox
          failures := server.failures.eraseIdx position },
        (server.outbox.select (holds write.call)).map fun _ => .failed write.call)
  | .reclaimExpiredOutboxLeases now =>
    some ({ server with outbox := reclaimExpiredOutboxLeases now server.outbox },
      (server.outbox.select (recoverable now)).map fun row => .recovered row.id)

/-- One step of any party. -/
abbrev transition : Server → List Event → Server → Prop := takes step anyAction

/-- The events about one row, in order. -/
def eventHistory (id : EventId) (history : List Event) : List Event :=
  Table.concerning Event.subject id history

/-- All that one statement can do to the row under one identifier, the guards of
the statement included. -/
inductive RowChange : Option OutboxRow → List Event → Option OutboxRow → Prop
  | idle (row : Option OutboxRow) : RowChange row [] row
  | written (event : NewEvent) : RowChange none [.written event.id] (some event.row)
  | claimed (row : OutboxRow) (workerId : WorkerId) (leaseExp now : Time)
      (pending : row.status = .pending) :
      RowChange (some row) [.claimed (row.claim workerId leaseExp now)]
        (some (row.claim workerId leaseExp now))
  | delivered (stored : Option OutboxRow) (row : OutboxRow) (behind : List OutboxRow) :
      RowChange stored [.delivered row behind] stored
  | succeeded (row : OutboxRow) (call : LeaseCall) (now : Time) (held : holds call row = true) :
      RowChange (some row) [.succeeded call] (some (row.succeed now))
  | buried (row : OutboxRow) (call : LeaseCall) (thrown : Thrown) (now : Time)
      (held : holds call row = true) :
      RowChange (some row) [.failed call] (some (row.bury (row.deliveryAttempt + 1) thrown now))
  | retried (row : OutboxRow) (call : LeaseCall) (runAfter : Time) (thrown : Thrown) (now : Time)
      (held : holds call row = true) :
      RowChange (some row) [.failed call]
        (some (row.retry (row.deliveryAttempt + 1) runAfter thrown now))
  | recovered (row : OutboxRow) (now : Time) (matched : recoverable now row = true) :
      RowChange (some row) [.recovered row.id] (some (row.recover now))

/-- A fence that matches names the row, its holder and its version. -/
theorem holds_iff (call : LeaseCall) (row : OutboxRow) :
    holds call row = true ↔ row.id = call.id ∧ row.leasedBy = some call.workerId ∧
      row.leaseVersion = call.leaseVersion ∧ row.status = .processing := by
  simp [holds]

/-- Only a row in processing has a lease to expire. -/
theorem expired_processing {row : OutboxRow} {now : Time} (expired : row.expired now = true) :
    row.status = .processing := by
  simp only [OutboxRow.expired, Bool.and_eq_true, decide_eq_true_eq] at expired
  exact expired.1

/-- Only a pending row is claimed. -/
theorem claimable_pending {request : ClaimRequest} {now : Time} {row : OutboxRow}
    (matched : claimable request now row = true) : row.status = .pending := by
  simp only [claimable, Bool.and_eq_true, decide_eq_true_eq] at matched
  exact matched.1.1

/-- Only pending rows are chosen by a claim. -/
theorem claimChoice_pending {request : ClaimRequest} {now : Time} {locked : EventId → Bool}
    {scan : EventId → Nat} {outbox : OutboxEvents} {row : OutboxRow} (stored : row ∈ outbox.rows)
    (chosen : row.id ∈ claimChoice request now locked scan outbox) : row.status = .pending := by
  obtain ⟨other, taken, sameId⟩ := List.mem_map.mp chosen
  have selected := (List.mem_insertionSort (claimsBefore scan)).mp (List.mem_of_mem_take taken)
  obtain ⟨member, matched⟩ := Table.mem_select.mp selected
  rw [Bool.and_eq_true] at matched
  have same : other = row := List.inj_on_of_nodup_map outbox.unique member stored sameId
  exact same ▸ claimable_pending matched.1

/-- A next count that has been read is current, whenever the fence of the pending
failure still matches its row. -/
def ReadsCurrent (server : Server) : Prop :=
  ∀ write ∈ server.failures, ∃ row, server.outbox.lookup write.call.id = some row ∧
    Fencing.Reads OutboxRow.leaseVersion (fun row => row.status = .processing)
      OutboxRow.deliveryAttempt write.call.leaseVersion write.nextAttempt row

section Projection

/-- A statement changes the row under an identifier as its SET clause says, if its
WHERE clause matches there. -/
theorem statement_change (outbox : OutboxEvents) (matching : OutboxRow → Bool)
    (assign : OutboxRow → OutboxRow) (keeps : ∀ row, (assign row).id = row.id)
    (event : OutboxRow → Event)
    (named : ∀ row, matching row = true → (event row).subject = row.id) (id : EventId)
    (change : ∀ row, outbox.lookup id = some row → matching row = true →
      RowChange (some row) [event row] (some (assign row))) :
    RowChange (outbox.lookup id) (eventHistory id ((outbox.select matching).map event))
      ((outbox.update matching assign keeps).lookup id) :=
  Table.statement_change RowChange .idle outbox matching assign keeps event Event.subject named id
    change

/-- An INSERT is idle at every row when either of its unique indexes is taken. -/
theorem write_change (outbox : OutboxEvents) (event : NewEvent) (id : EventId) :
    RowChange (outbox.lookup id)
      (eventHistory id (if (writeOutboxEvent event outbox).2 then [.written event.id] else []))
      ((writeOutboxEvent event outbox).1.lookup id) := by
  unfold writeOutboxEvent
  split
  · exact .idle _
  · exact Table.insert_change RowChange .idle outbox event.row (.written event.id) Event.subject rfl
      id (.written event)

/-- What a claim does to a row. -/
theorem claim_change (outbox : OutboxEvents) (request : ClaimRequest) (clock now : Time)
    (locked : EventId → Bool) (scan : EventId → Nat) (id : EventId) :
    RowChange (outbox.lookup id)
      (eventHistory id
        ((claimOutboxBatch request clock now locked scan outbox).2.map .claimed))
      ((claimOutboxBatch request clock now locked scan outbox).1.lookup id) := by
  simp only [claimOutboxBatch, Table.returning, List.map_map]
  apply statement_change
  · intro row _
    rfl
  · intro row found matched
    exact .claimed row _ _ _
      (claimChoice_pending (Table.lookup_mem found) (of_decide_eq_true matched))

/-- Handing an event to its target is seen at its own row and writes no row. -/
theorem deliver_change (stored : Option OutboxRow) (row : OutboxRow) (behind : List OutboxRow)
    (id : EventId) : RowChange stored (eventHistory id [.delivered row behind]) stored := by
  by_cases here : row.id = id
  · simpa [eventHistory, Table.concerning, Event.subject, here] using
      RowChange.delivered stored row behind
  · simpa [eventHistory, Table.concerning, Event.subject, here] using RowChange.idle stored

/-- What a success does to it. -/
theorem success_change (outbox : OutboxEvents) (call : LeaseCall) (now : Time) (id : EventId) :
    RowChange (outbox.lookup id)
      (eventHistory id ((outbox.select (holds call)).map fun _ => .succeeded call))
      ((commitOutboxSuccess call now outbox).lookup id) :=
  statement_change outbox (holds call) (fun row => row.succeed now) (fun _ => rfl)
    (fun _ => .succeeded call) (fun row held => ((holds_iff call row).mp held).1.symm) id
    (fun row _ held => .succeeded row call now held)

/-- The UPDATE of a failure acts on its row with a count that is still current. -/
theorem failure_change (outbox : OutboxEvents) (write : FailureWrite) (clock now : Time)
    (id : EventId)
    (current : ∀ row, outbox.lookup id = some row → holds write.call row = true →
      write.nextAttempt = row.deliveryAttempt + 1) :
    RowChange (outbox.lookup id)
      (eventHistory id ((outbox.select (holds write.call)).map fun _ => .failed write.call))
      ((commitOutboxFailureUpdate write clock now outbox).lookup id) := by
  have named : ∀ row, holds write.call row = true → (Event.failed write.call).subject = row.id :=
    fun row held => ((holds_iff write.call row).mp held).1.symm
  unfold commitOutboxFailureUpdate
  split
  · apply statement_change _ _ _ _ _ named
    intro row found held
    rw [current row found held]
    exact .buried row write.call write.thrown now held
  · apply statement_change _ _ _ _ _ named
    intro row found held
    simp only [current row found held]
    exact .retried row write.call _ write.thrown now held

/-- What a reclaim does to it. -/
theorem reclaim_change (outbox : OutboxEvents) (now : Time) (id : EventId) :
    RowChange (outbox.lookup id)
      (eventHistory id ((outbox.select (recoverable now)).map fun row => .recovered row.id))
      ((reclaimExpiredOutboxLeases now outbox).lookup id) :=
  statement_change outbox (recoverable now) (fun row => row.recover now) (fun _ => rfl)
    (fun row => .recovered row.id) (fun _ _ => rfl) id
    (fun row _ matched => .recovered row now matched)

/-- A pending failure whose fence matches a stored row writes the next count of that row. -/
theorem reads_count {server : Server} (current : ReadsCurrent server) {write : FailureWrite}
    (pending : write ∈ server.failures) {id : EventId} {row : OutboxRow}
    (found : server.outbox.lookup id = some row) (held : holds write.call row = true) :
    write.nextAttempt = row.deliveryAttempt + 1 := by
  obtain ⟨sameId, -, sameVersion, processing⟩ := (holds_iff write.call row).mp held
  obtain ⟨stored, storedFound, -, count⟩ := current write pending
  have same : stored = row := by
    rw [← sameId, Table.lookup_key found, found] at storedFound
    exact (Option.some.inj storedFound).symm
  subst same
  exact count sameVersion processing

/-- One step of any party, seen at any row. -/
theorem step_change {server next : Server} {observed : List Event}
    (current : ReadsCurrent server) (taken : transition server observed next) (id : EventId) :
    RowChange (server.outbox.lookup id) (eventHistory id observed) (next.outbox.lookup id) := by
  obtain ⟨action, -, taken⟩ := taken
  cases action with
  | writeOutboxEvent event =>
    simp only [step, Option.some.injEq, Prod.mk.injEq] at taken
    obtain ⟨rfl, rfl⟩ := taken
    exact write_change server.outbox event id
  | claimOutboxBatch request clock now locked scan =>
    simp only [step, Option.some.injEq, Prod.mk.injEq] at taken
    obtain ⟨rfl, rfl⟩ := taken
    exact claim_change server.outbox request clock now locked scan id
  | deliver position =>
    simp only [step, Option.map_eq_some_iff, Prod.mk.injEq] at taken
    obtain ⟨row, -, rfl, rfl⟩ := taken
    exact deliver_change _ row _ id
  | commitOutboxSuccess call now =>
    simp only [step, Option.some.injEq, Prod.mk.injEq] at taken
    obtain ⟨rfl, rfl⟩ := taken
    exact success_change server.outbox call now id
  | commitOutboxFailureSelect call thrown maxAttempts =>
    simp only [step, Option.some.injEq, Prod.mk.injEq] at taken
    obtain ⟨rfl, rfl⟩ := taken
    exact .idle _
  | commitOutboxFailureUpdate position clock now =>
    simp only [step, Option.map_eq_some_iff, Prod.mk.injEq] at taken
    obtain ⟨write, pending, rfl, rfl⟩ := taken
    apply failure_change
    intro row found held
    exact reads_count current (List.mem_of_getElem? pending) found held
  | reclaimExpiredOutboxLeases now =>
    simp only [step, Option.some.injEq, Prod.mk.injEq] at taken
    obtain ⟨rfl, rfl⟩ := taken
    exact reclaim_change server.outbox now id

/-- The failures pending after a step were pending before it, or have just read
their row. -/
theorem step_failures {server next : Server} {observed : List Event}
    (taken : transition server observed next) :
    ∀ write ∈ next.failures, write ∈ server.failures ∨
      (next.outbox = server.outbox ∧ ∃ row, server.outbox.lookup write.call.id = some row ∧
        write.call.leaseVersion = row.leaseVersion ∧
        write.nextAttempt = row.deliveryAttempt + 1) := by
  obtain ⟨action, -, taken⟩ := taken
  cases action with
  | commitOutboxFailureSelect call thrown maxAttempts =>
    simp only [step, Option.some.injEq, Prod.mk.injEq] at taken
    obtain ⟨rfl, -⟩ := taken
    intro write member
    rcases List.mem_append.mp member with old | read
    · exact Or.inl old
    · obtain ⟨row, first, rfl⟩ := Option.map_eq_some_iff.mp (Option.mem_toList.mp read)
      obtain ⟨stored, held⟩ := Table.mem_select.mp (List.mem_of_head? first)
      obtain ⟨sameId, -, sameVersion, -⟩ := (holds_iff call row).mp held
      exact Or.inr ⟨rfl, row, sameId ▸ Table.mem_lookup stored, sameVersion.symm, rfl⟩
  | commitOutboxFailureUpdate position clock now =>
    simp only [step, Option.map_eq_some_iff, Prod.mk.injEq] at taken
    obtain ⟨write, -, rfl, -⟩ := taken
    exact fun write member => Or.inl (List.mem_of_mem_eraseIdx member)
  | deliver position =>
    simp only [step, Option.map_eq_some_iff, Prod.mk.injEq] at taken
    obtain ⟨row, -, rfl, -⟩ := taken
    exact fun write member => Or.inl member
  | _ =>
    simp only [step, Option.some.injEq, Prod.mk.injEq] at taken
    obtain ⟨rfl, -⟩ := taken
    exact fun write member => Or.inl member

/-- A stored row stays stored; its version never decreases, and under an unchanged
version a processing row was processing before, with the same count. -/
theorem change_keeps {row : OutboxRow} {events : List Event} {after : Option OutboxRow}
    (change : RowChange (some row) events after) :
    ∃ next, after = some next ∧ Fencing.Succeeds OutboxRow.leaseVersion
      (fun row => row.status = .processing) OutboxRow.deliveryAttempt row next := by
  cases change with
  | idle => exact ⟨row, rfl, Nat.le_refl _, fun _ processing => ⟨processing, rfl⟩⟩
  | claimed workerId leaseExp now pending =>
    refine ⟨_, rfl, Nat.le_succ _, fun same _ => ?_⟩
    simp [OutboxRow.claim] at same
  | delivered row behind => exact ⟨_, rfl, Nat.le_refl _, fun _ processing => ⟨processing, rfl⟩⟩
  | succeeded call now held =>
    exact ⟨_, rfl, Nat.le_refl _, fun _ processing => by simp [OutboxRow.succeed] at processing⟩
  | buried call thrown now held =>
    exact ⟨_, rfl, Nat.le_refl _, fun _ processing => by simp [OutboxRow.bury] at processing⟩
  | retried call runAfter thrown now held =>
    exact ⟨_, rfl, Nat.le_refl _, fun _ processing => by simp [OutboxRow.retry] at processing⟩
  | recovered now matched =>
    exact ⟨_, rfl, Nat.le_succ _, fun _ processing => by simp [OutboxRow.recover] at processing⟩

/-- Every step keeps the counts read by pending failures current. -/
theorem step_reads {server next : Server} {observed : List Event} (current : ReadsCurrent server)
    (taken : transition server observed next) : ReadsCurrent next := by
  intro write member
  rcases step_failures taken write member with old | ⟨sameOutbox, row, found, version, count⟩
  · obtain ⟨row, found, reads⟩ := current write old
    have change := step_change current taken write.call.id
    rw [found] at change
    obtain ⟨after, stored, succeeds⟩ := change_keeps change
    exact ⟨after, stored, Fencing.reads_succeeds reads succeeds⟩
  · exact ⟨row, sameOutbox ▸ found, Nat.le_of_eq version, fun _ _ => count⟩

/-- Pending failures have read the current row, in any run. -/
theorem run_reads {start state : Server} {history : List Event} (current : ReadsCurrent start)
    (run : Run transition start history state) : ReadsCurrent state :=
  run.invariant (fun _ server => ReadsCurrent server) current
    (fun _ current taken => step_reads current taken)

/-- A whole run of the outbox is, at every row, a run of row changes. -/
theorem row_run {start state : Server} {history : List Event} (current : ReadsCurrent start)
    (run : Run transition start history state) (id : EventId) :
    Run RowChange (start.outbox.lookup id) (eventHistory id history) (state.outbox.lookup id) :=
  run.simulates (fun server => server.outbox.lookup id) _
    (fun before taken => step_change (run_reads current before) taken id)

/-- No failure is pending at first. -/
theorem idle_reads (outbox : OutboxEvents) : ReadsCurrent (Server.idle outbox) := by
  intro write member
  cases member

end Projection

end PlanBuddy.Outbox
