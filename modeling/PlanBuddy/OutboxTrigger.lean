import PlanBuddy.Outbox

/-!
# Outbox writes under the wakeup trigger

The two ways to write an outbox event, as one INSERT with its AFTER INSERT trigger.
`notify_queue_wakeup` is installed on four tables and reads three columns of the new
row; the outbox has only one of them. A reference to a missing column raises, whatever
the row holds, and the statement takes the caller's transaction with it. Only an
INSERT that `ON CONFLICT` turns into nothing fires no trigger.

The parameters of a statement are values of the column types. The id, the sequence
number and the time are drawn by the database. A timestamp is given to a trigger as a
number, which no trigger reads.
-/

namespace PlanBuddy.OutboxTrigger

open Outbox (EventId OutboxRow OutboxStatus OutboxEvents NewEvent)

/-- The message of a raised exception. -/
abbrev Raised := String

section Wakeups

/-- The tables on which `notify_queue_wakeup` is installed. -/
inductive QueueTable where
  | webhookEvents
  | emailJobs
  | refundJobs
  | outboxEvents

def QueueTable.name : QueueTable → String
  | .webhookEvents => "webhook_events"
  | .emailJobs => "email_jobs"
  | .refundJobs => "refund_jobs"
  | .outboxEvents => "outbox_events"

def QueueTable.columns : QueueTable → List String
  | .webhookEvents =>
    ["id", "event_type", "target_url", "payload", "idempotency_key", "shard_key", "region_id",
      "origin_region", "trace_id", "correlation_id", "status", "priority", "run_after", "leased_by",
      "lease_expires_at", "lease_version", "attempt_count", "error", "error_stack", "result",
      "processed_at", "alerted_at", "created_at", "updated_at"]
  | .emailJobs =>
    ["id", "to_address", "from_address", "subject", "html_body", "text_body", "reply_to",
      "custom_headers", "idempotency_key", "shard_key", "region_id", "trace_id", "correlation_id",
      "status", "priority", "run_after", "leased_by", "lease_expires_at", "lease_version",
      "attempt_count", "error", "error_stack", "result", "processed_at", "alerted_at", "created_at",
      "updated_at"]
  | .refundJobs =>
    ["id", "payment_id", "amount", "currency", "notes", "idempotency_key", "shard_key", "region_id",
      "trace_id", "correlation_id", "status", "priority", "run_after", "leased_by",
      "lease_expires_at", "lease_version", "attempt_count", "error", "error_stack", "result",
      "processed_at", "alerted_at", "created_at", "updated_at"]
  | .outboxEvents =>
    ["id", "aggregate_type", "aggregate_id", "event_type", "event_version", "sequence_number",
      "payload", "metadata", "idempotency_key", "status", "target_topic", "delivery_attempt",
      "max_attempts", "run_after", "delivered_at", "last_error", "leased_by", "lease_expires_at",
      "lease_version", "alerted_at", "created_at", "updated_at"]

/-- A new row as a trigger sees it, with a value under every column of its table. -/
structure NewRecord (table : QueueTable) where
  fields : List (String × Json)
  shape : fields.map Prod.fst = table.columns

structure Notification where
  channel : String
  payload : Json

def missingField (column : String) : Raised := "record \"new\" has no field \"" ++ column ++ "\""

/-- `NEW.column`. -/
def NewRecord.field {table : QueueTable} (new : NewRecord table) (column : String) :
    Except Raised Json :=
  match new.fields.lookup column with
  | some value => .ok value
  | none => .error (missingField column)

def notifyQueueWakeup {table : QueueTable} (new : NewRecord table) : Except Raised Notification := do
  let shardKey ← new.field "shard_key"
  let priority ← new.field "priority"
  let id ← new.field "id"
  .ok ⟨"queue_wakeup", .obj [("table", .str table.name), ("shard_key", shardKey),
    ("priority", priority), ("id", id)]⟩

/-- A record has the columns of its fields. -/
theorem lookup_column (fields : List (String × Json)) (column : String) :
    (fields.lookup column).isSome = true ↔ column ∈ fields.map Prod.fst := by
  rw [List.lookup_isSome_iff, List.mem_map]
  simp only [beq_iff_eq]
  exact exists_congr fun field => and_congr_right fun _ => eq_comm

/-- A field can be read exactly when the table has the column. -/
theorem field_ok_iff {table : QueueTable} (new : NewRecord table) (column : String) :
    (∃ value, new.field column = .ok value) ↔ column ∈ table.columns := by
  rw [← new.shape, ← lookup_column]
  unfold NewRecord.field
  split
  · next value found => simp [found]
  · next missing => simp [missing]

/-- Asking it for another one raises an error. -/
theorem field_missing {table : QueueTable} (new : NewRecord table) {column : String}
    (absent : column ∉ table.columns) : new.field column = .error (missingField column) := by
  unfold NewRecord.field
  split
  · next value found =>
    refine absurd ?_ absent
    rw [← new.shape, ← lookup_column, found]
    rfl
  · rfl

/-- The trigger lets a row of any of its tables but the outbox through. -/
theorem wakeup_ok {table : QueueTable} (new : NewRecord table) (other : table ≠ .outboxEvents) :
    ∃ notification, notifyQueueWakeup new = .ok notification := by
  have columns : ∀ column ∈ ["shard_key", "priority", "id"], column ∈ table.columns := by
    cases table with
    | outboxEvents => exact absurd rfl other
    | webhookEvents | emailJobs | refundJobs => decide
  obtain ⟨shardKey, readsShard⟩ := (field_ok_iff new "shard_key").mpr (columns _ (by simp))
  obtain ⟨priority, readsPriority⟩ := (field_ok_iff new "priority").mpr (columns _ (by simp))
  obtain ⟨id, readsId⟩ := (field_ok_iff new "id").mpr (columns _ (by simp))
  exact ⟨_, by simp only [notifyQueueWakeup, readsShard, readsPriority, readsId]; rfl⟩

/-- It objects to every row of the outbox, which has no `shard_key`. -/
theorem outbox_wakeup_raises (new : NewRecord .outboxEvents) :
    notifyQueueWakeup new = .error (missingField "shard_key") := by
  have missing := field_missing new (by decide : "shard_key" ∉ QueueTable.outboxEvents.columns)
  simp only [notifyQueueWakeup, missing]
  rfl

end Wakeups

section Inserts

/-- A row of `outbox_events` with all its columns. -/
structure EventRow extends OutboxRow where
  eventType : String
  eventVersion : Int
  payload : Json
  metadata : Option Json
  targetTopic : Option String
  alertedAt : Option Time
  createdAt : Time

def statusText : OutboxStatus → String
  | .pending => "pending"
  | .processing => "processing"
  | .delivered => "delivered"
  | .deadLetter => "dead_letter"

def orNull {α : Type} (json : α → Json) : Option α → Json
  | none => .null
  | some value => json value

def instant (time : Time) : Json := .num time

/-- The row as a trigger sees it. -/
def EventRow.record (row : EventRow) : NewRecord .outboxEvents where
  fields :=
    [("id", .num row.id), ("aggregate_type", .str row.aggregateType),
      ("aggregate_id", .str row.aggregateId), ("event_type", .str row.eventType),
      ("event_version", .num row.eventVersion), ("sequence_number", .num row.sequenceNumber),
      ("payload", row.payload), ("metadata", row.metadata.getD .null),
      ("idempotency_key", orNull .str row.idempotencyKey), ("status", .str (statusText row.status)),
      ("target_topic", orNull .str row.targetTopic), ("delivery_attempt", .num row.deliveryAttempt),
      ("max_attempts", .num row.maxAttempts), ("run_after", orNull instant row.runAfter),
      ("delivered_at", orNull instant row.deliveredAt), ("last_error", orNull .str row.lastError),
      ("leased_by", orNull .str row.leasedBy),
      ("lease_expires_at", orNull instant row.leaseExpiresAt), ("lease_version", .num row.leaseVersion),
      ("alerted_at", orNull instant row.alertedAt), ("created_at", instant row.createdAt),
      ("updated_at", instant row.updatedAt)]
  shape := rfl

/-- The table under its primary key and its unique index. -/
structure OutboxTable where
  rows : Table fun row : EventRow => row.id
  keysUnique : (rows.rows.map fun row => row.idempotencyKey).reduceOption.Nodup

def OutboxTable.empty : OutboxTable := ⟨Table.empty, by simp [Table.empty]⟩

/-- The key is in the unique index; null never is. -/
def OutboxTable.Used (table : OutboxTable) (idempotencyKey : Option String) : Prop :=
  ∃ key, idempotencyKey = some key ∧ ∃ row ∈ table.rows.rows, row.idempotencyKey = some key

instance (table : OutboxTable) : (idempotencyKey : Option String) →
    Decidable (table.Used idempotencyKey)
  | none => isFalse (by rintro ⟨key, same, -⟩; cases same)
  | some key => decidable_of_iff (∃ row ∈ table.rows.rows, row.idempotencyKey = some key)
    (by simp [OutboxTable.Used])

def OutboxTable.append (table : OutboxTable) (row : EventRow)
    (freshId : row.id ∉ table.rows.rows.map fun row => row.id)
    (freshKey : ¬ table.Used row.idempotencyKey) : OutboxTable where
  rows := ⟨table.rows.rows ++ [row], by
    rw [List.map_append, List.nodup_append]
    refine ⟨table.rows.unique, List.nodup_singleton _, ?_⟩
    intro old present new member same
    rw [List.map_singleton, List.mem_singleton] at member
    exact freshId (member ▸ same ▸ present)⟩
  keysUnique := by
    rw [List.map_append, List.map_singleton, List.reduceOption_append, List.nodup_append]
    refine ⟨table.keysUnique, ?_, ?_⟩
    · cases isKey : row.idempotencyKey <;> simp [List.reduceOption]
    · intro key present new member same
      subst same
      rw [List.reduceOption_mem_iff] at present member
      obtain ⟨old, stored, oldKey⟩ := List.mem_map.mp present
      exact freshKey ⟨key, (List.mem_singleton.mp member).symm, old, stored, oldKey⟩

def duplicateId : Raised :=
  "duplicate key value violates unique constraint \"outbox_events_pkey\""

/-- What a statement leaves: the table, the id it returns, and the notifications it sends. -/
structure Inserted where
  table : OutboxTable
  returned : Option EventId
  notified : List Notification

/-- `INSERT … ON CONFLICT (idempotency_key) DO NOTHING RETURNING id`, with a trigger after
the insertion. -/
def insertEvent (trigger : NewRecord .outboxEvents → Except Raised Notification)
    (table : OutboxTable) (row : EventRow) : Except Raised Inserted :=
  if freshKey : table.Used row.idempotencyKey then .ok ⟨table, none, []⟩
  else if freshId : row.id ∈ table.rows.rows.map (fun row => row.id) then .error duplicateId
  else do
    let notification ← trigger row.record
    .ok ⟨table.append row freshId freshKey, some row.id, [notification]⟩

end Inserts

section Writes

/-- What the database supplies to a new row. -/
structure Drawn where
  id : EventId
  sequenceNumber : Nat
  now : Time

/-- The argument of `writeOutboxEvent`. -/
structure Event where
  aggregateType : String
  aggregateId : String
  eventType : String
  payload : Json
  targetTopic : Option String := none
  idempotencyKey : Option String := none
  metadata : Option Json := none
  eventVersion : Int := 1

/-- The row of the engine's model that an event and the schema defaults make. -/
def Event.newEvent (event : Event) (drawn : Drawn) : NewEvent where
  id := drawn.id
  aggregateType := event.aggregateType
  aggregateId := event.aggregateId
  sequenceNumber := drawn.sequenceNumber
  idempotencyKey := event.idempotencyKey
  createdAt := drawn.now

def Event.row (event : Event) (drawn : Drawn) : EventRow where
  toOutboxRow := (event.newEvent drawn).row
  eventType := event.eventType
  eventVersion := event.eventVersion
  payload := event.payload
  metadata := event.metadata
  targetTopic := event.targetTopic
  alertedAt := none
  createdAt := drawn.now

/-- Metadata that JavaScript takes for absent becomes null. -/
def writeOutboxEvent (event : Event) (drawn : Drawn) (table : OutboxTable) :
    Except Raised Inserted :=
  insertEvent notifyQueueWakeup table
    ({ event with metadata := storedJson event.metadata }.row drawn)

/-- The database function `outbox_write`, whose arguments are the fields of an event. -/
def outboxWrite (event : Event) (drawn : Drawn) (table : OutboxTable) : Except Raised Inserted :=
  insertEvent notifyQueueWakeup table (event.row drawn)

/-- What a write owes its caller: one new pending row and its id, or nothing where the
key is used already. -/
def Succeeds (table : OutboxTable) (idempotencyKey : Option String)
    (result : Except Raised Inserted) : Prop :=
  ∃ inserted, result = .ok inserted ∧
    if table.Used idempotencyKey then
      inserted.table = table ∧ inserted.returned = none
    else ∃ row : EventRow, row.status = .pending ∧ row.idempotencyKey = idempotencyKey ∧
      inserted.table.rows.rows = table.rows.rows ++ [row] ∧ inserted.returned = some row.id

/-- Under the wakeup trigger an INSERT does nothing or raises. -/
theorem insertEvent_wakeup (table : OutboxTable) (row : EventRow) :
    (table.Used row.idempotencyKey ∧
      insertEvent notifyQueueWakeup table row = .ok ⟨table, none, []⟩) ∨
    (¬ table.Used row.idempotencyKey ∧
      ∃ raised, insertEvent notifyQueueWakeup table row = .error raised) := by
  by_cases used : table.Used row.idempotencyKey
  · exact .inl ⟨used, dif_pos used⟩
  · refine .inr ⟨used, ?_⟩
    by_cases present : row.id ∈ table.rows.rows.map fun row => row.id
    · exact ⟨duplicateId, by rw [insertEvent, dif_neg used, dif_pos present]⟩
    · refine ⟨missingField "shard_key", ?_⟩
      rw [insertEvent, dif_neg used, dif_neg present, outbox_wakeup_raises]
      rfl

/-- The INSERT serves its caller exactly where it inserts nothing. -/
theorem insert_succeeds_iff (table : OutboxTable) (row : EventRow) :
    Succeeds table row.idempotencyKey (insertEvent notifyQueueWakeup table row) ↔
      table.Used row.idempotencyKey := by
  rcases insertEvent_wakeup table row with ⟨used, nothing⟩ | ⟨unused, raised, aborted⟩
  · refine ⟨fun _ => used, fun _ => ⟨_, nothing, ?_⟩⟩
    rw [if_pos used]
    exact ⟨rfl, rfl⟩
  · constructor
    · rintro ⟨inserted, done, -⟩
      rw [aborted] at done
      cases done
    · intro used
      exact absurd used unused

/-- So does a write. -/
theorem writeOutboxEvent_cases (event : Event) (drawn : Drawn) (table : OutboxTable) :
    (table.Used event.idempotencyKey ∧
      writeOutboxEvent event drawn table = .ok ⟨table, none, []⟩) ∨
    (¬ table.Used event.idempotencyKey ∧
      ∃ raised, writeOutboxEvent event drawn table = .error raised) :=
  insertEvent_wakeup table ({ event with metadata := storedJson event.metadata }.row drawn)

/-- Both writes keep their promise if and only if the event carries a key that is used
already: in every other case, in every table, the trigger raises. -/
theorem outbox_write_succeeds_iff (table : OutboxTable) (event : Event) (drawn : Drawn) :
    (Succeeds table event.idempotencyKey (writeOutboxEvent event drawn table) ↔
      ∃ key, event.idempotencyKey = some key ∧
        ∃ row ∈ table.rows.rows, row.idempotencyKey = some key) ∧
    (Succeeds table event.idempotencyKey (outboxWrite event drawn table) ↔
      ∃ key, event.idempotencyKey = some key ∧
        ∃ row ∈ table.rows.rows, row.idempotencyKey = some key) :=
  ⟨insert_succeeds_iff table ({ event with metadata := storedJson event.metadata }.row drawn),
    insert_succeeds_iff table (event.row drawn)⟩

/-- The first refund event of an empty outbox. -/
theorem first_event_raises :
    writeOutboxEvent ⟨"refund", "rf_1", "refund.initiated", .obj [], none, none, none, 1⟩ ⟨1, 1, 0⟩
        .empty = .error "record \"new\" has no field \"shard_key\"" ∧
      ¬ Succeeds .empty none
        (writeOutboxEvent ⟨"refund", "rf_1", "refund.initiated", .obj [], none, none, none, 1⟩
          ⟨1, 1, 0⟩ .empty) := by
  have raises : writeOutboxEvent
      ⟨"refund", "rf_1", "refund.initiated", .obj [], none, none, none, 1⟩ ⟨1, 1, 0⟩ .empty =
        .error "record \"new\" has no field \"shard_key\"" := rfl
  refine ⟨raises, ?_⟩
  rintro ⟨inserted, done, -⟩
  rw [raises] at done
  cases done

end Writes

section Engine

/-- The table as the engine's statements see it. -/
def OutboxTable.engine (table : OutboxTable) : OutboxEvents :=
  ⟨table.rows.rows.map EventRow.toOutboxRow, by
    rw [List.map_map]
    exact table.rows.unique⟩

/-- The engine has a key exactly when the table has. -/
theorem used_engine (table : OutboxTable) (idempotencyKey : Option String) :
    table.engine.rows.any (fun row =>
      row.idempotencyKey.isSome && decide (row.idempotencyKey = idempotencyKey)) = true ↔
        table.Used idempotencyKey := by
  simp only [List.any_eq_true, Bool.and_eq_true, decide_eq_true_eq]
  constructor
  · rintro ⟨row, member, present, same⟩
    obtain ⟨stored, isStored, rfl⟩ := List.mem_map.mp member
    obtain ⟨key, isKey⟩ := Option.isSome_iff_exists.mp present
    exact ⟨key, same ▸ isKey, stored, isStored, isKey⟩
  · rintro ⟨key, rfl, row, stored, isKey⟩
    exact ⟨row.toOutboxRow, List.mem_map_of_mem stored, by rw [isKey]; rfl, isKey⟩

/-- Under a trigger that lets everything through, the INSERT is the engine's write. -/
theorem insert_untriggered {trigger : NewRecord .outboxEvents → Except Raised Notification}
    (silent : ∀ new, ∃ notification, trigger new = .ok notification) (table : OutboxTable)
    (event : Event) (drawn : Drawn)
    (fresh : (event.row drawn).id ∉ table.rows.rows.map fun row => row.id) :
    ∃ inserted, insertEvent trigger table (event.row drawn) = .ok inserted ∧
      (inserted.table.engine, inserted.returned.isSome) =
        Outbox.writeOutboxEvent (event.newEvent drawn) table.engine := by
  have engineUsed := used_engine table (event.newEvent drawn).idempotencyKey
  by_cases used : table.Used (event.row drawn).idempotencyKey
  · refine ⟨_, dif_pos used, ?_⟩
    rw [Outbox.writeOutboxEvent, if_pos (engineUsed.mpr used)]
    rfl
  · obtain ⟨notification, lets⟩ := silent (event.row drawn).record
    have inserts : insertEvent trigger table (event.row drawn) =
        .ok ⟨table.append (event.row drawn) fresh used, some (event.row drawn).id,
          [notification]⟩ := by
      rw [insertEvent, dif_neg used, dif_neg fresh, lets]
      rfl
    have freshEngine : (event.newEvent drawn).row.id ∉
        table.engine.rows.map fun row => row.id := by
      rw [OutboxTable.engine, List.map_map]
      exact fresh
    have appended : (table.append (event.row drawn) fresh used).engine.rows =
        table.engine.rows ++ [(event.newEvent drawn).row] := by
      simp only [OutboxTable.engine, OutboxTable.append, List.map_append, List.map_singleton]
      rfl
    refine ⟨_, inserts, ?_⟩
    rw [Outbox.writeOutboxEvent, if_neg (fun any => used (engineUsed.mp any)), Table.insert,
      dif_neg freshEngine, Prod.mk.injEq]
    exact ⟨Table.eq_of_rows appended, rfl⟩

end Engine

section Transactions

variable {σ : Type}

/-- A transaction of the caller: it changes its own state and writes an event. -/
structure Business (σ : Type) where
  change : σ → Except Raised σ
  event : Event
  drawn : Drawn

/-- A raised exception undoes both. -/
def Business.run (business : Business σ) (before : σ × OutboxTable) : σ × OutboxTable :=
  match (do
    let state ← business.change before.1
    let inserted ← writeOutboxEvent business.event business.drawn before.2
    .ok (state, inserted.table) : Except Raised (σ × OutboxTable)) with
  | .ok after => after
  | .error _ => before

/-- An event whose key is not used yet undoes the business it belongs to. -/
theorem business_undone (business : Business σ) (before : σ × OutboxTable)
    (unused : ¬ before.2.Used business.event.idempotencyKey) : business.run before = before := by
  rcases writeOutboxEvent_cases business.event business.drawn before.2 with
    ⟨used, -⟩ | ⟨-, raised, aborted⟩
  · exact absurd used unused
  · unfold Business.run
    cases business.change before.1 with
    | error other => rfl
    | ok state =>
      rw [aborted]
      rfl

/-- The business part of a transaction does not touch the outbox. -/
theorem business_table (business : Business σ) (before : σ × OutboxTable) :
    (business.run before).2 = before.2 := by
  rcases writeOutboxEvent_cases business.event business.drawn before.2 with
    ⟨used, nothing⟩ | ⟨unused, -⟩
  · unfold Business.run
    cases business.change before.1 with
    | error other => rfl
    | ok state =>
      rw [nothing]
      rfl
  · rw [business_undone business before unused]

/-- The outbox never receives a row: over every sequence of transactions it stays as it
was when the triggers were installed. -/
theorem outbox_never_grows (businesses : List (Business σ)) (before : σ × OutboxTable) :
    (businesses.foldl (fun state business => business.run state) before).2 = before.2 := by
  induction businesses generalizing before with
  | nil => rfl
  | cons business rest inductionHypothesis =>
    rw [List.foldl_cons, inductionHypothesis, business_table]

/-- On a new database no business that reports an event is ever done. -/
theorem nothing_done (businesses : List (Business σ)) (state : σ) :
    businesses.foldl (fun state business => business.run state) (state, .empty) =
      (state, .empty) := by
  induction businesses with
  | nil => rfl
  | cons business rest inductionHypothesis =>
    have unused : ¬ OutboxTable.empty.Used business.event.idempotencyKey := by
      rintro ⟨key, -, row, stored, -⟩
      cases stored
    rw [List.foldl_cons, business_undone business (state, .empty) unused]
    exact inductionHypothesis

end Transactions

end PlanBuddy.OutboxTrigger
