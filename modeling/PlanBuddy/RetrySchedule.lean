import Mathlib.Algebra.BigOperators.Intervals
import Mathlib.Tactic.Linarith
import PlanBuddy.OutboxRuns

/-!
# When an outbox event is tried again

Runs of the outbox on a clock: the statements of all relays read one database time, every
history entry carries it, and the clock of a relay that writes a retry is at most `skew` behind.
All relays pass one limit to `commitOutboxFailure`, and no error asks for the dead letter state.

Each failure puts an event off, twice as long as the one before and five minutes at most. So the
claims of an event are spaced, and an outage of its target has to last before the event is given
up: with the limit of ten, at least 511 seconds from the moment it was written. Leases that
expire count as no failure, and are free to add claims.
-/

namespace PlanBuddy.RetrySchedule

open JobEngine (LeaseCall Thrown)
open Outbox hiding Action step

section Model

/-- `Math.min(base * 2 ** nextAttempt, 5 * 60_000)`. -/
def delayMs (nextAttempt : Nat) : Nat := min (500 * 2 ^ nextAttempt) (5 * 60000)

/-- All delays before the claim that follows so many failures. -/
def backoffMs (failures : Nat) : Nat := ∑ attempt ∈ Finset.range failures, delayMs (attempt + 1)

/-- The engine, and the database time. -/
structure Clocked where
  now : Time
  server : Server

inductive Action where
  | elapse (later : Time)
  | engine (action : Outbox.Action)

/-- The statements of the engine happen now. -/
def step (state : Clocked) : Action → Option (Clocked × List (Time × Event))
  | .elapse later => if state.now ≤ later then some (⟨later, state.server⟩, []) else none
  | .engine action =>
    (Outbox.step state.server action).map fun (server, observed) =>
      (⟨state.now, server⟩, observed.map fun event => (state.now, event))

/-- What an action reads of the clocks and passes to the engine. -/
def Punctual (skew limit : Nat) (state : Clocked) : Action → Prop
  | .engine (.writeOutboxEvent event) => event.createdAt = state.now
  | .engine (.claimOutboxBatch _ _ now _ _) => now = state.now
  | .engine (.commitOutboxFailureSelect _ thrown maxAttempts) =>
    maxAttempts = limit ∧ thrown.forceDeadLetter = false
  | .engine (.commitOutboxFailureUpdate _ clock _) => state.now ≤ clock + skew
  | _ => True

abbrev steps (skew limit : Nat) : Clocked → List (Time × Event) → Clocked → Prop :=
  takes step (Punctual skew limit)

/-- When a row was written. -/
def writtenAt (id : EventId) (history : List (Time × Event)) : List Time :=
  history.filterMap fun
    | (time, .written written) => if written = id then some time else none
    | _ => none

end Model

section Rows

variable {skew limit : Nat} {now : Time}

/-- All that a statement can do to the row under one identifier, with what it reads of the
clocks. -/
inductive TimedChange (skew limit : Nat) (now : Time) :
    Option OutboxRow → List Event → Option OutboxRow → Prop
  | idle (row : Option OutboxRow) : TimedChange skew limit now row [] row
  | written (event : NewEvent) : TimedChange skew limit now none [.written event.id] (some event.row)
  | claimed (row : OutboxRow) (workerId : WorkerId) (leaseExp : Time)
      (pending : row.status = .pending) (due : ∀ runAfter, row.runAfter = some runAfter →
        runAfter ≤ now) :
      TimedChange skew limit now (some row) [.claimed (row.claim workerId leaseExp now)]
        (some (row.claim workerId leaseExp now))
  | delivered (stored : Option OutboxRow) (row : OutboxRow) (behind : List OutboxRow) :
      TimedChange skew limit now stored [.delivered row behind] stored
  | succeeded (row : OutboxRow) (call : LeaseCall) (written : Time)
      (processing : row.status = .processing) :
      TimedChange skew limit now (some row) [.succeeded call] (some (row.succeed written))
  | buried (row : OutboxRow) (call : LeaseCall) (thrown : Thrown) (written : Time)
      (processing : row.status = .processing) (last : limit ≤ row.deliveryAttempt + 1) :
      TimedChange skew limit now (some row) [.failed call]
        (some (row.bury (row.deliveryAttempt + 1) thrown written))
  | retried (row : OutboxRow) (call : LeaseCall) (runAfter : Time) (thrown : Thrown)
      (written : Time) (processing : row.status = .processing)
      (more : row.deliveryAttempt + 1 < limit)
      (later : now + delayMs (row.deliveryAttempt + 1) ≤ runAfter + skew) :
      TimedChange skew limit now (some row) [.failed call]
        (some (row.retry (row.deliveryAttempt + 1) runAfter thrown written))
  | recovered (row : OutboxRow) (written : Time) (processing : row.status = .processing) :
      TimedChange skew limit now (some row) [.recovered row.id] (some (row.recover written))

/-- The failures whose attempt count has been read are ones that the engine was told of. -/
def Told (limit : Nat) (server : Server) : Prop :=
  ∀ write ∈ server.failures, write.maxAttempts = limit ∧ write.thrown.forceDeadLetter = false

/-- A claim takes only rows that are due. -/
theorem claimChoice_due {request : ClaimRequest} {locked : EventId → Bool}
    {scan : EventId → Nat} {outbox : OutboxEvents} {row : OutboxRow} (stored : row ∈ outbox.rows)
    (chosen : row.id ∈ claimChoice request now locked scan outbox) :
    ∀ runAfter, row.runAfter = some runAfter → runAfter ≤ now := by
  obtain ⟨other, taken, sameId⟩ := List.mem_map.mp chosen
  have selected := (List.mem_insertionSort (claimsBefore scan)).mp (List.mem_of_mem_take taken)
  obtain ⟨member, matched⟩ := Table.mem_select.mp selected
  obtain rfl : other = row := List.inj_on_of_nodup_map outbox.unique member stored sameId
  simp only [claimable, Bool.and_eq_true, Option.all_eq_true, decide_eq_true_eq] at matched
  exact fun runAfter set => matched.1.1.2 runAfter set

/-- A claim, seen at any row. -/
theorem claim_timed (outbox : OutboxEvents) (request : ClaimRequest) (clock : Time)
    (locked : EventId → Bool) (scan : EventId → Nat) (id : EventId) :
    TimedChange skew limit now (outbox.lookup id)
      (eventHistory id ((claimOutboxBatch request clock now locked scan outbox).2.map .claimed))
      ((claimOutboxBatch request clock now locked scan outbox).1.lookup id) := by
  simp only [claimOutboxBatch, Table.returning, List.map_map]
  refine Table.statement_change (TimedChange skew limit now) .idle outbox _ _ _ _ Event.subject
    (fun _ _ => rfl) id fun row found matched => ?_
  have stored := Table.lookup_mem found
  have chosen := of_decide_eq_true matched
  exact .claimed row _ _ (claimChoice_pending stored chosen) (claimChoice_due stored chosen)

/-- The UPDATE of a failure, seen at any row. -/
theorem failure_timed {outbox : OutboxEvents} {write : FailureWrite} {clock : Time}
    (written : Time) (id : EventId)
    (told : write.maxAttempts = limit ∧ write.thrown.forceDeadLetter = false)
    (punctual : now ≤ clock + skew)
    (current : ∀ row, outbox.lookup id = some row → holds write.call row = true →
      write.nextAttempt = row.deliveryAttempt + 1) :
    TimedChange skew limit now (outbox.lookup id)
      (eventHistory id ((outbox.select (holds write.call)).map fun _ => .failed write.call))
      ((commitOutboxFailureUpdate write clock written outbox).lookup id) := by
  have named (row : OutboxRow) (held : holds write.call row = true) :
      (Event.failed write.call).subject = row.id := ((holds_iff write.call row).mp held).1.symm
  have dead : write.isDead = decide (limit ≤ write.nextAttempt) := by
    simp [FailureWrite.isDead, told.1, told.2]
  unfold commitOutboxFailureUpdate
  rw [dead]
  split
  · rename_i last
    refine Table.statement_change (TimedChange skew limit now) .idle outbox _ _ _ _ Event.subject
      named id fun row found held => ?_
    have counts := current row found held
    rw [counts] at last ⊢
    exact .buried row write.call _ _ ((holds_iff ..).mp held).2.2.2 (of_decide_eq_true last)
  · rename_i more
    refine Table.statement_change (TimedChange skew limit now) .idle outbox _ _ _ _ Event.subject
      named id fun row found held => ?_
    have counts := current row found held
    rw [counts] at more ⊢
    refine .retried row write.call _ _ _ ((holds_iff ..).mp held).2.2.2
      (Nat.lt_of_not_le fun last => more (decide_eq_true last)) ?_
    simp only [retryAt, delayMs]
    linarith

/-- One statement that happens now, seen at any row. -/
theorem engine_timed {server next : Server} {observed : List Event} {action : Outbox.Action}
    (current : ReadsCurrent server) (told : Told limit server)
    (punctual : Punctual skew limit ⟨now, server⟩ (.engine action))
    (taken : Outbox.step server action = some (next, observed)) (id : EventId) :
    TimedChange skew limit now (server.outbox.lookup id) (eventHistory id observed)
      (next.outbox.lookup id) := by
  cases action with
  | writeOutboxEvent event =>
    simp only [Outbox.step, Option.some.injEq, Prod.mk.injEq] at taken
    obtain ⟨rfl, rfl⟩ := taken
    unfold Outbox.writeOutboxEvent
    split
    · exact .idle _
    · exact Table.insert_change (TimedChange skew limit now) .idle server.outbox event.row
        (.written event.id) Event.subject rfl id (.written event)
  | claimOutboxBatch request clock databaseNow locked scan =>
    obtain rfl : databaseNow = now := punctual
    obtain ⟨rfl, rfl⟩ := Prod.mk.inj (Option.some.inj taken)
    exact claim_timed server.outbox request clock locked scan id
  | deliver position =>
    simp only [Outbox.step, Option.map_eq_some_iff, Prod.mk.injEq] at taken
    obtain ⟨row, -, rfl, rfl⟩ := taken
    by_cases here : row.id = id
    · simpa [eventHistory, Table.concerning, Event.subject, here] using
        TimedChange.delivered (server.outbox.lookup id) row _
    · simpa [eventHistory, Table.concerning, Event.subject, here] using
        TimedChange.idle (server.outbox.lookup id)
  | commitOutboxSuccess call written =>
    obtain ⟨rfl, rfl⟩ := Prod.mk.inj (Option.some.inj taken)
    exact Table.statement_change (TimedChange skew limit now) .idle server.outbox (holds call)
      (fun row => row.succeed written) (fun _ => rfl) (fun _ => .succeeded call) Event.subject
      (fun row held => ((holds_iff call row).mp held).1.symm) id
      fun row _ held => .succeeded row call written ((holds_iff call row).mp held).2.2.2
  | commitOutboxFailureSelect call thrown maxAttempts =>
    obtain ⟨rfl, rfl⟩ := Prod.mk.inj (Option.some.inj taken)
    exact .idle _
  | commitOutboxFailureUpdate position clock written =>
    simp only [Outbox.step, Option.map_eq_some_iff, Prod.mk.injEq] at taken
    obtain ⟨write, pending, rfl, rfl⟩ := taken
    have member := List.mem_of_getElem? pending
    exact failure_timed written id (told write member) punctual
      fun row found held => reads_count current member found held
  | reclaimExpiredOutboxLeases written =>
    obtain ⟨rfl, rfl⟩ := Prod.mk.inj (Option.some.inj taken)
    refine Table.statement_change (TimedChange skew limit now) .idle server.outbox
      (recoverable written) (fun row => row.recover written) (fun _ => rfl)
      (fun row => .recovered row.id) Event.subject (fun _ _ => rfl) id fun row _ matched => ?_
    simp only [recoverable, Bool.and_eq_true] at matched
    exact .recovered row written (expired_processing matched.1)

/-- The failures that are being written were told to the engine now or before. -/
theorem engine_told {server next : Server} {observed : List Event} {action : Outbox.Action}
    (told : Told limit server) (punctual : Punctual skew limit ⟨now, server⟩ (.engine action))
    (taken : Outbox.step server action = some (next, observed)) : Told limit next := by
  cases action with
  | commitOutboxFailureSelect call thrown maxAttempts =>
    obtain ⟨rfl, -⟩ := Prod.mk.inj (Option.some.inj taken)
    intro write member
    rcases List.mem_append.mp member with old | read
    · exact told write old
    · obtain ⟨row, -, rfl⟩ := Option.map_eq_some_iff.mp (Option.mem_toList.mp read)
      exact punctual
  | commitOutboxFailureUpdate position clock written =>
    simp only [Outbox.step, Option.map_eq_some_iff, Prod.mk.injEq] at taken
    obtain ⟨write, -, rfl, -⟩ := taken
    exact fun write member => told write (List.mem_of_mem_eraseIdx member)
  | deliver position =>
    simp only [Outbox.step, Option.map_eq_some_iff, Prod.mk.injEq] at taken
    obtain ⟨row, -, rfl, -⟩ := taken
    exact told
  | _ =>
    simp only [Outbox.step, Option.some.injEq, Prod.mk.injEq] at taken
    obtain ⟨rfl, -⟩ := taken
    exact told

end Rows

section Schedule

variable {skew limit : Nat} {now next created : Time} {row : OutboxRow}

/-- Nothing is done with a row before the delays of its failures have passed. -/
def Waited (skew : Nat) (created time : Time) (failures : Nat) : Prop :=
  created + backoffMs failures ≤ time + failures * skew

/-- Where a row stands on its schedule. -/
structure Scheduled (skew limit : Nat) (created now : Time) (row : OutboxRow) : Prop where
  started : created ≤ now
  fresh : row.status ≠ .deadLetter → row.runAfter = none → row.deliveryAttempt = 0
  waits : row.status ≠ .deadLetter → ∀ runAfter, row.runAfter = some runAfter →
    Waited skew created runAfter row.deliveryAttempt
  claimed : row.status = .processing → Waited skew created now row.deliveryAttempt
  remaining : row.status ≠ .deadLetter → row.deliveryAttempt < limit
  dead : row.status = .deadLetter → row.deliveryAttempt = limit ∧
    Waited skew created now (limit - 1)

/-- One more failure adds its delay. -/
theorem backoff_succ (failures : Nat) :
    backoffMs (failures + 1) = backoffMs failures + delayMs (failures + 1) :=
  Finset.sum_range_succ ..

/-- What has waited has waited later, too. -/
theorem Waited.later {failures : Nat} (waited : Waited skew created now failures)
    (forward : now ≤ next) : Waited skew created next failures := by
  unfold Waited at *
  linarith

/-- A failure now puts off what has waited until now. -/
theorem Waited.failed {failures : Nat} {runAfter : Time} (waited : Waited skew created now failures)
    (delayed : now + delayMs (failures + 1) ≤ runAfter + skew) :
    Waited skew created runAfter (failures + 1) := by
  unfold Waited at *
  rw [backoff_succ]
  push_cast
  linarith

/-- Time does not move a row off its schedule. -/
theorem Scheduled.aged (scheduled : Scheduled skew limit created now row)
    (forward : now ≤ next) : Scheduled skew limit created next row :=
  ⟨le_trans scheduled.started forward, scheduled.fresh, scheduled.waits,
    fun processing => (scheduled.claimed processing).later forward, scheduled.remaining,
    fun dead => ⟨(scheduled.dead dead).1, (scheduled.dead dead).2.later forward⟩⟩

/-- A row that may be claimed has waited. -/
theorem Scheduled.due (scheduled : Scheduled skew limit created now row)
    (pending : row.status = .pending)
    (due : ∀ runAfter, row.runAfter = some runAfter → runAfter ≤ now) :
    Waited skew created now row.deliveryAttempt := by
  have alive : row.status ≠ .deadLetter := by rw [pending]; decide
  cases set : row.runAfter with
  | none =>
    rw [scheduled.fresh alive set]
    simpa [Waited, backoffMs] using scheduled.started
  | some runAfter => exact (scheduled.waits alive runAfter set).later (due runAfter set)

/-- The row under an identifier, and when it was written. -/
def Paced (skew limit : Nat) (now : Time) (written : List Time) : Option OutboxRow → Prop
  | none => written = []
  | some row => ∃ created, written = [created] ∧ Scheduled skew limit created now row

/-- When a row was written, by the events about it. -/
def written (now : Time) (observed : List Event) : List Time :=
  observed.filterMap fun
    | .written _ => some now
    | _ => none

/-- No change of a row does. -/
theorem paced_change {before after : Option OutboxRow} {observed : List Event} {times : List Time}
    (positive : 0 < limit) (paced : Paced skew limit now times before)
    (change : TimedChange skew limit now before observed after) :
    Paced skew limit now (times ++ written now observed) after := by
  cases change with
  | idle => simpa [written] using paced
  | written event =>
    obtain rfl : times = [] := paced
    exact ⟨now, rfl, le_refl _, fun _ _ => rfl, by rintro _ _ ⟨⟩, by rintro ⟨⟩, fun _ => positive,
      by rintro ⟨⟩⟩
  | claimed row workerId leaseExp pending due =>
    obtain ⟨created, rfl, scheduled⟩ := paced
    have alive : row.status ≠ .deadLetter := by rw [pending]; decide
    exact ⟨created, rfl, scheduled.started, fun _ => scheduled.fresh alive,
      fun _ => scheduled.waits alive, fun _ => scheduled.due pending due,
      fun _ => scheduled.remaining alive, by rintro ⟨⟩⟩
  | delivered => simpa [written] using paced
  | succeeded row call written processing =>
    obtain ⟨created, rfl, scheduled⟩ := paced
    have alive : row.status ≠ .deadLetter := by rw [processing]; decide
    exact ⟨created, rfl, scheduled.started, fun _ => scheduled.fresh alive,
      fun _ => scheduled.waits alive, by rintro ⟨⟩, fun _ => scheduled.remaining alive,
      by rintro ⟨⟩⟩
  | buried row call thrown written processing last =>
    obtain ⟨created, rfl, scheduled⟩ := paced
    have alive : row.status ≠ .deadLetter := by rw [processing]; decide
    have remaining := scheduled.remaining alive
    have all : row.deliveryAttempt + 1 = limit := by omega
    have before : limit - 1 = row.deliveryAttempt := by omega
    refine ⟨created, rfl, scheduled.started, fun live => absurd rfl live,
      fun live => absurd rfl live, by rintro ⟨⟩, fun live => absurd rfl live, fun _ => ⟨all, ?_⟩⟩
    rw [before]
    exact scheduled.claimed processing
  | retried row call runAfter thrown written processing more delayed =>
    obtain ⟨created, rfl, scheduled⟩ := paced
    refine ⟨created, rfl, scheduled.started, by rintro _ ⟨⟩, ?_, by rintro ⟨⟩, fun _ => more,
      by rintro ⟨⟩⟩
    rintro _ _ ⟨⟩
    exact (scheduled.claimed processing).failed delayed
  | recovered row written processing =>
    obtain ⟨created, rfl, scheduled⟩ := paced
    have alive : row.status ≠ .deadLetter := by rw [processing]; decide
    exact ⟨created, rfl, scheduled.started, fun _ => scheduled.fresh alive,
      fun _ => scheduled.waits alive, by rintro ⟨⟩, fun _ => scheduled.remaining alive,
      by rintro ⟨⟩⟩

/-- A claim finds a row that has waited. -/
theorem claim_waited {before after : Option OutboxRow} {observed : List Event} {times : List Time}
    (paced : Paced skew limit now times before)
    (change : TimedChange skew limit now before observed after)
    (claims : .claimed row ∈ observed) :
    ∃ created, times = [created] ∧ Waited skew created now row.deliveryAttempt := by
  cases change with
  | claimed found workerId leaseExp pending due =>
    obtain ⟨created, once, scheduled⟩ := paced
    cases List.mem_singleton.mp claims
    exact ⟨created, once, scheduled.due pending due⟩
  | idle => cases claims
  | _ => cases List.mem_singleton.mp claims

end Schedule

section Runs

variable {skew limit : Nat} {state next : Clocked} {history observed : List (Time × Event)}

/-- The schedule of every row, and of every claim. -/
structure OnSchedule (skew limit : Nat) (history : List (Time × Event)) (state : Clocked) :
    Prop where
  current : ReadsCurrent state.server
  told : Told limit state.server
  paced : ∀ id, Paced skew limit state.now (writtenAt id history) (state.server.outbox.lookup id)
  claims : ∀ time row, (time, .claimed row) ∈ history → ∃ created,
    writtenAt row.id history = [created] ∧ Waited skew created time row.deliveryAttempt

/-- The writes of one more statement. -/
theorem writtenAt_append (id : EventId) (now : Time) (events : List Event) :
    writtenAt id (history ++ events.map fun event => (now, event)) =
      writtenAt id history ++ written now (eventHistory id events) := by
  unfold writtenAt written eventHistory Table.concerning
  rw [List.filterMap_append, List.filterMap_map, List.filterMap_filterMap]
  congr 1
  refine List.filterMap_congr fun event _ => ?_
  cases event with
  | written id' => by_cases here : id' = id <;> simp [Option.guard, Event.subject, here]
  | _ =>
    simp only [Option.guard]
    split <;> rfl

/-- A row keeps the time at which it was written. -/
theorem Paced.kept {now : Time} {times more : List Time} {stored : Option OutboxRow}
    {created : Time} (paced : Paced skew limit now (times ++ more) stored)
    (before : times = [created]) : times ++ more = [created] := by
  subst before
  cases stored with
  | none => cases paced
  | some row =>
    obtain ⟨other, once, -⟩ := paced
    rw [once, (List.cons.inj once).1]

/-- A step keeps all rows on schedule. -/
theorem onSchedule_step (positive : 0 < limit) (onSchedule : OnSchedule skew limit history state)
    (taken : steps skew limit state observed next) :
    OnSchedule skew limit (history ++ observed) next := by
  obtain ⟨action, punctual, taken⟩ := taken
  cases action with
  | elapse later =>
    simp only [step, Option.ite_none_right_eq_some, Option.some.injEq, Prod.mk.injEq] at taken
    obtain ⟨forward, rfl, rfl⟩ := taken
    rw [List.append_nil]
    refine ⟨onSchedule.current, onSchedule.told, fun id => ?_, onSchedule.claims⟩
    have paced := onSchedule.paced id
    cases stored : state.server.outbox.lookup id with
    | none => simpa only [stored, Paced] using paced
    | some row =>
      rw [stored] at paced
      obtain ⟨created, once, scheduled⟩ := paced
      exact ⟨created, once, scheduled.aged forward⟩
  | engine action =>
    simp only [step, Option.map_eq_some_iff, Prod.mk.injEq] at taken
    obtain ⟨⟨server, events⟩, stepped, rfl, rfl⟩ := taken
    have change (id : EventId) := engine_timed onSchedule.current onSchedule.told punctual stepped id
    have paced (id : EventId) : Paced skew limit state.now
        (writtenAt id (history ++ events.map fun event => (state.now, event)))
        (server.outbox.lookup id) := by
      rw [writtenAt_append]
      exact paced_change positive (onSchedule.paced id) (change id)
    refine ⟨step_reads onSchedule.current ⟨action, trivial, stepped⟩,
      engine_told onSchedule.told punctual stepped, paced, fun time row member => ?_⟩
    rcases List.mem_append.mp member with old | new
    · obtain ⟨created, once, waited⟩ := onSchedule.claims time row old
      have kept := paced row.id
      rw [writtenAt_append] at kept ⊢
      exact ⟨created, kept.kept once, waited⟩
    · obtain ⟨event, claims, same⟩ := List.mem_map.mp new
      obtain ⟨rfl, rfl⟩ := Prod.mk.inj same
      have about : .claimed row ∈ eventHistory row.id events :=
        List.mem_filterMap.mpr ⟨_, claims, by simp [Option.guard, Event.subject]⟩
      obtain ⟨created, once, waited⟩ :=
        claim_waited (onSchedule.paced row.id) (change row.id) about
      have kept := paced row.id
      rw [writtenAt_append] at kept ⊢
      exact ⟨created, kept.kept once, waited⟩

/-- A run keeps them there from an empty outbox on. -/
theorem run_onSchedule {start : Time} (positive : 0 < limit)
    (run : Run (steps skew limit) ⟨start, Server.idle .empty⟩ history state) :
    OnSchedule skew limit history state := by
  refine run.invariant (OnSchedule skew limit) ?_
    fun _ onSchedule taken => onSchedule_step positive onSchedule taken
  exact ⟨idle_reads .empty, fun _ member => absurd member List.not_mem_nil, fun _ => rfl,
    fun _ _ member => absurd member List.not_mem_nil⟩

/-- Every event that is stored was written once, and what has been written is stored. A claim after
so many failures comes when all their delays have passed since then, and an event is given up with
its last failure, when all delays but the last have passed. -/
theorem outbox_paced {start : Time} (positive : 0 < limit)
    (run : Run (steps skew limit) ⟨start, Server.idle .empty⟩ history state) :
    (∀ row ∈ state.server.outbox.rows, ∃ created,
      writtenAt row.id history = [created] ∧ created ≤ state.now) ∧
    (∀ id, state.server.outbox.lookup id = none → writtenAt id history = []) ∧
    (∀ time row, (time, .claimed row) ∈ history → ∃ created,
      writtenAt row.id history = [created] ∧
        created + backoffMs row.deliveryAttempt ≤ time + row.deliveryAttempt * skew) ∧
    ∀ row ∈ state.server.outbox.rows, row.status = .deadLetter →
      row.deliveryAttempt = limit ∧ ∃ created, writtenAt row.id history = [created] ∧
        created + backoffMs (limit - 1) ≤ state.now + (limit - 1 : Nat) * skew := by
  have onSchedule := run_onSchedule positive run
  have paced (row : OutboxRow) (stored : row ∈ state.server.outbox.rows) :
      ∃ created, writtenAt row.id history = [created] ∧
        Scheduled skew limit created state.now row := by
    have paced := onSchedule.paced row.id
    rwa [Table.mem_lookup stored] at paced
  refine ⟨fun row stored => ?_, fun id missing => ?_, onSchedule.claims, fun row stored dead => ?_⟩
  · obtain ⟨created, once, scheduled⟩ := paced row stored
    exact ⟨created, once, scheduled.started⟩
  · have paced := onSchedule.paced id
    rwa [missing] at paced
  · obtain ⟨created, once, scheduled⟩ := paced row stored
    obtain ⟨all, waited⟩ := scheduled.dead dead
    exact ⟨all, created, once, waited⟩

end Runs

section Outage

instance (skew limit : Nat) (state : Clocked) :
    (action : Action) → Decidable (Punctual skew limit state action)
  | .elapse _ => inferInstanceAs (Decidable True)
  | .engine (.writeOutboxEvent event) => inferInstanceAs (Decidable (event.createdAt = state.now))
  | .engine (.claimOutboxBatch _ _ now _ _) => inferInstanceAs (Decidable (now = state.now))
  | .engine (.commitOutboxFailureSelect _ thrown maxAttempts) =>
    inferInstanceAs (Decidable (maxAttempts = limit ∧ thrown.forceDeadLetter = false))
  | .engine (.commitOutboxFailureUpdate _ clock _) =>
    inferInstanceAs (Decidable (state.now ≤ clock + skew))
  | .engine (.deliver _) => inferInstanceAs (Decidable True)
  | .engine (.commitOutboxSuccess _ _) => inferInstanceAs (Decidable True)
  | .engine (.reclaimExpiredOutboxLeases _) => inferInstanceAs (Decidable True)

/-- One delivery that fails as soon as the event may be claimed. -/
def failedDelivery (failures : Nat) : List Action :=
  let now : Time := (backoffMs failures : Nat)
  [.elapse now, .engine (.claimOutboxBatch ⟨"relay", 1, none⟩ now now (fun _ => false) id),
    .engine (.commitOutboxFailureSelect ⟨1, "relay", failures + 1⟩ (.error "target down" none false) 10),
    .engine (.commitOutboxFailureUpdate 0 now now)]

/-- A target that is down for as long as the event lasts. -/
def outage : List Action :=
  .engine (.writeOutboxEvent ⟨1, "booking", "b1", 1, none, 10, 0⟩) ::
    (List.range 10).flatMap failedDelivery

/-- The engine goes through all of it. -/
theorem outage_accepted : (execute (restrict step (Punctual 0 10))
    ⟨0, Server.idle .empty⟩ outage).isSome := by decide +kernel

/-- The event is given up with its tenth failure, 511 seconds after it was written. -/
theorem outage_outlasted : ∃ history state row,
    Run (steps 0 10) ⟨0, Server.idle .empty⟩ history state ∧
    row ∈ state.server.outbox.rows ∧ row.status = .deadLetter ∧ state.now = 511000 ∧
    row.deliveryAttempt = 10 ∧ ∃ created, writtenAt row.id history = [created] ∧
      created + 511000 ≤ state.now := by
  have run : Run (steps 0 10) ⟨0, Server.idle .empty⟩ _ _ :=
    run_of_restricted outage outage_accepted
  obtain ⟨all, created, once, waited⟩ :=
    (outbox_paced (by decide) run).2.2.2 _ (List.mem_singleton.mpr rfl) rfl
  have delays : backoffMs (10 - 1) = 511000 := by decide
  rw [delays] at waited
  refine ⟨_, _, _, run, List.mem_singleton.mpr rfl, rfl, rfl, all, created, once, ?_⟩
  simpa using waited

end Outage

end PlanBuddy.RetrySchedule
