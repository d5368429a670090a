import PlanBuddy.OutboxTrigger
import PlanBuddy.PollTimers
import PlanBuddy.WakeupDebounce

/-!
# From an insert to a poll

`notify_queue_wakeup` names the table it fires on in its payload, and a worker compares
that name with its own table. A row trigger of a partitioned table fires on the partition
that received the row. `webhook_events` is partitioned by the month of `created_at`; the
other tables of queues are not.

The text of a payload is read back as the value it was written from. A row of
`webhook_events` outside every partition is not inserted.
-/

namespace PlanBuddy.WakeupRouting

open OutboxTrigger (NewRecord Notification QueueTable Raised notifyQueueWakeup)
open WakeupDebounce (Message Payload)

section Partitions

/-- The first day of a month. -/
structure Month where
  year : Nat
  month : Nat
deriving DecidableEq

def Month.before (one other : Month) : Bool :=
  one.year < other.year || (one.year == other.year && one.month < other.month)

/-- `lpad(text, length, fill)`. -/
def lpad (text : String) (length : Nat) (fill : Char) : String :=
  if length ≤ text.length then String.ofList (text.toList.take length)
  else String.ofList (List.replicate (length - text.length) fill) ++ text

structure Partition where
  name : String
  fromDate : Month
  toDate : Month
deriving DecidableEq

def partition (y m : Nat) : Partition where
  name := "webhook_events_" ++ (toString y ++ "_" ++ lpad (toString m) 2 '0')
  fromDate := ⟨y, m⟩
  toDate := if m = 12 then ⟨y + 1, 1⟩ else ⟨y, m + 1⟩

/-- `FOR y IN 2025..2026`, `FOR m IN 1..12`. -/
def partitions : List Partition :=
  (List.range' 2025 2).flatMap fun y => (List.range' 1 12).map fun m => partition y m

/-- The relation that receives a row, by the month of its `created_at`. -/
def receiver (createdAt : Month) : QueueTable → Option String
  | .webhookEvents =>
    (partitions.find? fun partition =>
      !createdAt.before partition.fromDate && createdAt.before partition.toDate).map (·.name)
  | table => some table.name

/-- Only a partition has another name than its table. -/
theorem receiver_name_iff {createdAt : Month} {table : QueueTable} {relation : String}
    (receives : receiver createdAt table = some relation) :
    relation = table.name ↔ table ≠ .webhookEvents := by
  cases table with
  | webhookEvents =>
    obtain ⟨stored, found, rfl⟩ := Option.map_eq_some_iff.mp receives
    have member := List.mem_of_find?_eq_some found
    simp only [partitions, List.mem_flatMap, List.mem_map] at member
    obtain ⟨y, -, m, -, rfl⟩ := member
    refine iff_of_false ?_ (fun other => other rfl)
    intro same
    have lengths : ("webhook_events_" ++ (toString y ++ "_" ++ lpad (toString m) 2 '0')).length =
        "webhook_events".length := congrArg String.length same
    have longer : "webhook_events_".length = "webhook_events".length + 1 := rfl
    rw [String.length_append] at lengths
    omega
  | emailJobs | refundJobs | outboxEvents =>
    cases receives
    simp

end Partitions

section Wakeup

/-- `notify_queue_wakeup` where `TG_TABLE_NAME` is a relation of the table. -/
def notifyQueueWakeupOn (tgTableName : String) {table : QueueTable} (new : NewRecord table) :
    Except Raised Notification := do
  let shardKey ← new.field "shard_key"
  let priority ← new.field "priority"
  let id ← new.field "id"
  .ok ⟨"queue_wakeup", .obj [("table", .str tgTableName), ("shard_key", shardKey),
    ("priority", priority), ("id", id)]⟩

/-- On a table without partitions it is the trigger of that table. -/
theorem notifyQueueWakeupOn_name {table : QueueTable} (new : NewRecord table) :
    notifyQueueWakeupOn table.name new = notifyQueueWakeup new := rfl

/-- The trigger of the relation that received the row. -/
def insertNotifies (createdAt : Month) {table : QueueTable} (new : NewRecord table) :
    Option (Except Raised Notification) :=
  (receiver createdAt table).map fun relation => notifyQueueWakeupOn relation new

/-- `JSON.parse`, where the payload has a table and an integer or no shard. -/
def readPayload : Json → Option Payload
  | .obj fields =>
    match fields.lookup "table", fields.lookup "shard_key" with
    | some (.str table), some (.num shardKey) =>
      if shardKey.den = 1 then some { table, shardKey := some shardKey.num, others := fields }
      else none
    | some (.str table), some .null => some { table, shardKey := none, others := fields }
    | some (.str table), none => some { table, shardKey := none, others := fields }
    | _, _ => none
  | _ => none

/-- What reaches the listener. -/
def received (notification : Notification) : Message where
  channel := notification.channel
  payload := readPayload notification.payload

/-- A worker on the listener's wakeups. Its shards are those it computed in `start()`. -/
structure Subscriber where
  tableName : String
  shardKeys : Option (List Int)
  loop : PollTimers.Worker

/-- `_matchesWakeup`. -/
def Subscriber.matchesWakeup (worker : Subscriber) (payload : Payload) : Bool :=
  if payload.table ≠ worker.tableName then false
  else
    match payload.shardKey with
    | none => true
    | some shardKey => worker.shardKeys.any fun shardKeys => shardKeys.contains shardKey

/-- The handler of `wakeup`. -/
def Subscriber.onWakeup (worker : Subscriber) (payload : Payload) : Subscriber :=
  if worker.matchesWakeup payload then
    { worker with loop := PollTimers.triggerImmediatePoll worker.loop }
  else worker

/-- The wakeup passes the filter, and its handler has set the timer of an immediate poll. -/
def Wakes (payload : Payload) (worker : Subscriber) : Prop :=
  worker.matchesWakeup payload = true ∧
    (worker.onWakeup payload).loop.pollTimer = some worker.loop.timers ∧
      worker.loop.timers ∈ (worker.onWakeup payload).loop.pending

end Wakeup

section Routing

variable {table : QueueTable} {worker : Subscriber} {payload : Payload}

/-- A worker that serves and runs is woken by all that passes its filter. -/
theorem wakes_iff (runs : worker.loop.running = true) (serves : worker.loop.draining = false) :
    Wakes payload worker ↔ worker.matchesWakeup payload = true := by
  refine ⟨And.left, fun passes => ⟨passes, ?_⟩⟩
  simp [Subscriber.onWakeup, passes, PollTimers.triggerImmediatePoll, runs, serves,
    PollTimers.setPollTimer, PollTimers.clearPollTimer]

/-- A worker of the shard is selected by the name of its table alone. -/
theorem matchesWakeup_iff {shardKey : Int} {shardKeys : List Int}
    (assigned : worker.shardKeys = some shardKeys) (owns : shardKey ∈ shardKeys)
    (keyed : payload.shardKey = some shardKey) :
    worker.matchesWakeup payload = true ↔ payload.table = worker.tableName := by
  simp [Subscriber.matchesWakeup, keyed, assigned, owns]

/-- Every row is notified, with the relation's name and its own shard. -/
theorem insert_notifies (queue : table ≠ .outboxEvents) (new : NewRecord table) (relation : String)
    {shardKey : Int} (keyed : new.field "shard_key" = .ok (.num shardKey)) :
    ∃ notification, notifyQueueWakeupOn relation new = .ok notification ∧
      (received notification).channel = WakeupDebounce.channel ∧
      (received notification).parsed.table = relation ∧
      (received notification).parsed.shardKey = some shardKey := by
  have columns : ∀ column ∈ ["priority", "id"], column ∈ table.columns := by
    cases table with
    | outboxEvents => exact absurd rfl queue
    | webhookEvents | emailJobs | refundJobs => decide
  obtain ⟨priority, readsPriority⟩ :=
    (OutboxTrigger.field_ok_iff new "priority").mpr (columns _ (by simp))
  obtain ⟨id, readsId⟩ := (OutboxTrigger.field_ok_iff new "id").mpr (columns _ (by simp))
  refine ⟨_, by simp only [notifyQueueWakeupOn, keyed, readsPriority, readsId]; rfl, rfl, ?_, ?_⟩
  · simp [received, Message.parsed, readPayload, List.lookup_cons]
  · simp [received, Message.parsed, readPayload, List.lookup_cons]

/-- A row wakes the workers of its shard exactly when its table is not `webhook_events`: every
wakeup that the notification can lead to has its table and shard. -/
theorem insert_wakes_iff (queue : table ≠ .outboxEvents) (new : NewRecord table)
    {createdAt : Month} {relation : String} (inserted : receiver createdAt table = some relation)
    {shardKey : Int} (keyed : new.field "shard_key" = .ok (.num shardKey))
    (forTable : worker.tableName = table.name) (runs : worker.loop.running = true)
    (serves : worker.loop.draining = false) {shardKeys : List Int}
    (assigned : worker.shardKeys = some shardKeys) (owns : shardKey ∈ shardKeys) :
    ∃ notification, insertNotifies createdAt new = some (.ok notification) ∧
      ((∀ emitted, (received notification).parsed.SameQueue emitted → Wakes emitted worker) ↔
        table ≠ .webhookEvents) := by
  obtain ⟨notification, notifies, -, named, sharded⟩ := insert_notifies queue new relation keyed
  refine ⟨notification, by rw [insertNotifies, inserted, Option.map_some, notifies], ?_⟩
  rw [← receiver_name_iff inserted]
  constructor
  · intro wakes
    have passes := (wakes_iff runs serves).mp (wakes _ ⟨rfl, rfl⟩)
    rw [matchesWakeup_iff assigned owns sharded, named, forTable] at passes
    exact passes
  · rintro same emitted ⟨tables, shards⟩
    have keyedEmitted := shards.symm.trans sharded
    rw [wakes_iff runs serves, matchesWakeup_iff assigned owns keyedEmitted, ← tables, named, same,
      forTable]

end Routing

section Sample

/-- An event of March 2025 in shard 3. -/
def webhookRow : NewRecord .webhookEvents where
  fields :=
    [("id", .str "7f0d6c52-92f4-4a6e-9d0b-6b0b3c4f1a11"), ("event_type", .str "booking.created"),
      ("target_url", .str "https://partner.example/hook"), ("payload", .obj []),
      ("idempotency_key", .null), ("shard_key", .num (3 : Int)), ("region_id", .str "us-east-1"),
      ("origin_region", .str "us-east-1"), ("trace_id", .null), ("correlation_id", .null),
      ("status", .str "pending"), ("priority", .num 0), ("run_after", .null), ("leased_by", .null),
      ("lease_expires_at", .null), ("lease_version", .num 0), ("attempt_count", .num 0),
      ("error", .null), ("error_stack", .null), ("result", .null), ("processed_at", .null),
      ("alerted_at", .null), ("created_at", .str "2025-03-14T09:00:00+00:00"),
      ("updated_at", .str "2025-03-14T09:00:00+00:00")]
  shape := rfl

/-- A refund in shard 1. -/
def refundRow : NewRecord .refundJobs where
  fields :=
    [("id", .str "0b7c9a4e-5d1f-4c3e-8a51-2f1d3b9c7e20"), ("payment_id", .str "pay_29QQoUBi66xm2f"),
      ("amount", .num 50000), ("currency", .str "INR"), ("notes", .null), ("idempotency_key", .null),
      ("shard_key", .num (1 : Int)), ("region_id", .str "us-east-1"), ("trace_id", .null),
      ("correlation_id", .null), ("status", .str "pending"), ("priority", .num 0),
      ("run_after", .null), ("leased_by", .null), ("lease_expires_at", .null),
      ("lease_version", .num 0), ("attempt_count", .num 0), ("error", .null), ("error_stack", .null),
      ("result", .null), ("processed_at", .null), ("alerted_at", .null),
      ("created_at", .str "2025-03-14T09:00:00+00:00"),
      ("updated_at", .str "2025-03-14T09:00:00+00:00")]
  shape := rfl

/-- The only worker of a table: it has every shard. -/
def onlyWorker (table : QueueTable) (shards : Nat) : Subscriber where
  tableName := table.name
  shardKeys := some ((List.range shards).map Int.ofNat)
  loop := PollTimers.schedulePoll { PollTimers.Worker.listening with starting := false }

/-- The refund of the sample wakes its worker. -/
theorem insert_wakes_iff_refund : ∃ notification,
    insertNotifies ⟨2025, 3⟩ refundRow = some (.ok notification) ∧
      ((∀ emitted, (received notification).parsed.SameQueue emitted →
        Wakes emitted (onlyWorker .refundJobs 2)) ↔ QueueTable.refundJobs ≠ .webhookEvents) := by
  have queue : QueueTable.refundJobs ≠ .outboxEvents := nofun
  have shard : (1 : Int) ∈ (List.range 2).map Int.ofNat := by decide
  exact insert_wakes_iff queue refundRow rfl rfl rfl rfl rfl rfl shard

/-- The event is stored in the partition of its month, whose name is in its notification. -/
theorem webhook_insert_sleeps :
    ¬ ∀ (table : QueueTable) (new : NewRecord table) (createdAt : Month) (shardKey : Int)
        (notification : Notification) (worker : Subscriber) (shardKeys : List Int),
      table ≠ .outboxEvents → new.field "shard_key" = .ok (.num shardKey) →
      insertNotifies createdAt new = some (.ok notification) → worker.tableName = table.name →
      worker.loop.running = true → worker.loop.draining = false →
      worker.shardKeys = some shardKeys → shardKey ∈ shardKeys →
        Wakes (received notification).parsed worker := by
  intro wakes
  have queue : QueueTable.webhookEvents ≠ .outboxEvents := nofun
  have shard : (3 : Int) ∈ (List.range 8).map Int.ofNat := by decide
  have woken := wakes .webhookEvents webhookRow ⟨2025, 3⟩ 3 _ (onlyWorker .webhookEvents 8) _ queue
    rfl rfl rfl rfl rfl rfl shard
  exact absurd woken.1 (by decide)

end Sample

end PlanBuddy.WakeupRouting
