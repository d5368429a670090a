import PlanBuddy.JobEngine
import PlanBuddy.ParseInt
import Mathlib.Data.Finset.Basic

/-!
# Shards and the workers that claim them

A job belongs to the shard that the first eight digits of its hash name, modulo the
number of shards of its queue. A worker takes the shards that leave its index as the
remainder by the number of workers, or every shard when none does, and claims only rows
of its shards.

So the shards are partitioned among the workers where there are no more workers than
shards. With more of them each shard has a worker of its own, and the workers left over
take every shard.

The hash is a parameter that yields the thirty-two octets of a digest, and the table of
shard counts is one too. The registration of an affinity is a record that no claim reads.
-/

namespace PlanBuddy.Shards

open ParseInt

section Model

abbrev Digest := Vector UInt8 32

/-- `TOTAL_SHARDS`. -/
def totalShards : QueueKey → Option Nat
  | .webhookEvents => some 8
  | .emailDispatch => some 4
  | .refundRetry => some 2
  | .bookingExpiry => some 2
  | .paymentReconciliation => some 2
  | .outboxRelay => some 4

/-- `TOTAL_SHARDS[queueKey] ?? 8`. -/
def total (shards : QueueKey → Option Nat) (queueKey : QueueKey) : Nat :=
  (shards queueKey).getD 8

/-- `digest('hex')`. -/
def hex (digest : Digest) : List Char :=
  digest.toList.flatMap fun byte => [Nat.digitChar (byte.toNat / 16), Nat.digitChar (byte.toNat % 16)]

/-- `none` is NaN. -/
def computeShardKey (shards : QueueKey → Option Nat) (sha256 : String → Digest) (id : String)
    (queueKey : QueueKey) : Option Int := do
  let hash := (hex (sha256 id)).take 8
  let number ← parseInt (some 16) hash
  remainder number (total shards queueKey)

/-- `s % totalWorkers === workerIndex`. -/
def owns (workerIndex totalWorkers shard : Nat) : Bool :=
  decide (remainder shard totalWorkers = some (workerIndex : Int))

def computeWorkerShards (shards : QueueKey → Option Nat) (workerIndex totalWorkers : Nat)
    (queueKey : QueueKey) : List Nat :=
  let owned := (List.range (total shards queueKey)).filter (owns workerIndex totalWorkers)
  if 0 < owned.length then owned else List.range (total shards queueKey)

/-- The options of a worker that bear on its claims. -/
structure Options where
  queueKey : QueueKey
  workerId : WorkerId
  workerIndex : Option Nat
  totalWorkers : Option Nat

structure BaseWorker where
  queueKey : QueueKey
  workerId : WorkerId
  workerIndex : Nat
  totalWorkers : Nat
  batchSize : Nat
  regionId : String
  running : Bool
  shardKeys : Option (List Int)

/-- The constructor. -/
def BaseWorker.new (config : QueueConfig) (options : Options) : BaseWorker where
  queueKey := options.queueKey
  workerId := options.workerId
  workerIndex := options.workerIndex.getD 0
  totalWorkers := options.totalWorkers.getD 1
  batchSize := (config.batchSize options.queueKey).getD 20
  regionId := config.currentRegion
  running := false
  shardKeys := none

/-- A second call finds the worker running and changes nothing. -/
def BaseWorker.start (shards : QueueKey → Option Nat) (worker : BaseWorker) : BaseWorker :=
  if worker.running then worker
  else { worker with
    running := true
    shardKeys := some ((computeWorkerShards shards worker.workerIndex worker.totalWorkers
      worker.queueKey).map Int.ofNat) }

/-- What `_poll` asks the engine for, with so many slots free. -/
def BaseWorker.request (worker : BaseWorker) (available : Nat) : JobEngine.ClaimRequest where
  batchSize := min available worker.batchSize
  workerId := worker.workerId
  shardKeys := worker.shardKeys
  regionId := some worker.regionId

/-- The row passes the filter of the claim with which the worker polls. -/
def BaseWorker.accepts (worker : BaseWorker) (config : QueueConfig) (available : Nat) (now : Time)
    (row : JobEngine.JobRow) : Bool :=
  let request := worker.request available
  JobEngine.claimable request (request.regionId.getD config.currentRegion) now row

/-- One of so many workers of a queue, started. -/
def started (config : QueueConfig) (shards : QueueKey → Option Nat) (queueKey : QueueKey)
    (workers : Nat) (name : Nat → WorkerId) (index : Nat) : BaseWorker :=
  (BaseWorker.new config ⟨queueKey, name index, some index, some workers⟩).start shards

/-- A pending row of the region that may run. -/
def Due (config : QueueConfig) (now : Time) (row : JobEngine.JobRow) : Prop :=
  row.status = .pending ∧ (∀ due, row.runAfter = some due → due ≤ now) ∧
    row.regionId = config.currentRegion

end Model

section Keys

variable {shards : QueueKey → Option Nat} {queueKey : QueueKey}

/-- Half an octet is written as a digit of radix sixteen. -/
theorem digitValue_digitChar {nibble : Nat} (small : nibble < 16) :
    digitValue (Nat.digitChar nibble) = some nibble := by
  revert nibble
  decide

/-- The digest is written in digits of radix sixteen. -/
theorem hex_digits (digest : Digest) :
    ∀ char ∈ hex digest, ∃ digit < 16, digitValue char = some digit := by
  intro char member
  simp only [hex, List.mem_flatMap, List.mem_cons, List.not_mem_nil, or_false] at member
  obtain ⟨byte, -, rfl | rfl⟩ := member
  · have small : byte.toNat / 16 < 16 := by have := byte.toNat_lt; omega
    exact ⟨_, small, digitValue_digitChar small⟩
  · have small : byte.toNat % 16 < 16 := Nat.mod_lt _ (by decide)
    exact ⟨_, small, digitValue_digitChar small⟩

/-- It has 64 of them. -/
theorem hex_length (digest : Digest) : (hex digest).length = 64 := by
  simp [hex, List.length_flatMap]

/-- Every job has a shard of its queue. -/
theorem computeShardKey_shard (sha256 : String → Digest) (id : String)
    (counted : 0 < total shards queueKey) :
    ∃ shard < total shards queueKey, computeShardKey shards sha256 id queueKey = some (shard : Int) := by
  have digits : ∀ char ∈ (hex (sha256 id)).take 8, ∃ digit < 16, digitValue char = some digit :=
    fun char member => hex_digits _ char (List.mem_of_mem_take member)
  have nonempty : (hex (sha256 id)).take 8 ≠ [] := by
    intro empty
    have := congrArg List.length empty
    simp [hex_length] at this
  obtain ⟨number, read⟩ := parseInt_digits (by decide) digits nonempty
  refine ⟨number % total shards queueKey, Nat.mod_lt _ counted, ?_⟩
  simp [computeShardKey, read, remainder_natCast counted]

end Keys

section Ownership

variable {shards : QueueKey → Option Nat} {queueKey : QueueKey} {workers index shard : Nat}

/-- Nobody is left without shards. -/
theorem computeWorkerShards_nonempty (counted : 0 < total shards queueKey) :
    computeWorkerShards shards index workers queueKey ≠ [] := by
  rw [computeWorkerShards]
  split
  case isTrue owned => exact List.ne_nil_of_length_pos owned
  case isFalse => simpa using Nat.ne_of_gt counted

/-- A worker owns the shards with its remainder. -/
theorem owns_iff (staffed : 0 < workers) : owns index workers shard ↔ shard % workers = index := by
  simp only [owns, remainder_natCast staffed, Option.some.injEq, decide_eq_true_eq]
  omega

/-- A worker below the number of shards owns those with its remainder, its own index among
them. -/
theorem worker_below (staffed : 0 < workers) (inside : index < workers)
    (below : index < total shards queueKey) :
    computeWorkerShards shards index workers queueKey =
      (List.range (total shards queueKey)).filter (owns index workers) := by
  have itself : index ∈ (List.range (total shards queueKey)).filter (owns index workers) :=
    List.mem_filter.mpr ⟨List.mem_range.mpr below, (owns_iff staffed).mpr (Nat.mod_eq_of_lt inside)⟩
  rw [computeWorkerShards, if_pos (List.length_pos_of_mem itself)]

/-- A worker from the number of shards on owns all of them. -/
theorem worker_above (staffed : 0 < workers) (above : total shards queueKey ≤ index) :
    computeWorkerShards shards index workers queueKey = List.range (total shards queueKey) := by
  have nothing : (List.range (total shards queueKey)).filter (owns index workers) = [] := by
    rw [List.filter_eq_nil_iff]
    intro shard member
    rw [owns_iff staffed]
    have below := List.mem_range.mp member
    have atMost := Nat.mod_le shard workers
    omega
  simp [computeWorkerShards, nothing]

/-- Either way, in one line. -/
theorem mem_computeWorkerShards (staffed : 0 < workers) (inside : index < workers)
    (known : shard < total shards queueKey) :
    shard ∈ computeWorkerShards shards index workers queueKey ↔
      total shards queueKey ≤ index ∨ shard % workers = index := by
  rcases Nat.lt_or_ge index (total shards queueKey) with below | above
  · have notAbove : ¬ total shards queueKey ≤ index := Nat.not_le_of_lt below
    simp [worker_below staffed inside below, owns_iff staffed, known, notAbove]
  · simp [worker_above staffed above, known, above]

/-- With more workers than shards each shard has a worker of its own. -/
theorem worker_alone (more : total shards queueKey < workers)
    (below : index < total shards queueKey) :
    computeWorkerShards shards index workers queueKey = [index] := by
  have staffed : 0 < workers := by omega
  have single : ∀ shard ∈ List.range (total shards queueKey),
      owns index workers shard = decide (shard = index) := by
    intro shard member
    have remains : shard % workers = shard :=
      Nat.mod_eq_of_lt (Nat.lt_trans (List.mem_range.mp member) more)
    rw [Bool.eq_iff_iff, owns_iff staffed, remains, decide_eq_true_eq]
  rw [worker_below staffed (by omega) below, List.filter_congr single, List.filter_eq,
    List.count_range, if_pos below]
  rfl

end Ownership

section Claims

variable {config : QueueConfig} {shards : QueueKey → Option Nat} {queueKey : QueueKey}
  {name : Nat → WorkerId} {workers index shard available : Nat} {now : Time} {row : JobEngine.JobRow}

/-- A started worker filters by the shards computed for its index. -/
theorem started_request :
    ((started config shards queueKey workers name index).request available).shardKeys =
      some ((computeWorkerShards shards index workers queueKey).map Int.ofNat) := rfl

/-- A due row passes the filter of the workers that own its shard. -/
theorem accepts_iff (staffed : 0 < workers) (inside : index < workers)
    (known : shard < total shards queueKey) (due : Due config now row)
    (keyed : row.shardKey = (shard : Int)) :
    (started config shards queueKey workers name index).accepts config available now row ↔
      total shards queueKey ≤ index ∨ shard % workers = index := by
  obtain ⟨pending, ready, here⟩ := due
  rw [← mem_computeWorkerShards staffed inside known]
  have region : ((started config shards queueKey workers name index).request available).regionId =
      some config.currentRegion := rfl
  have runnable : row.runAfter.all (fun due => decide (due ≤ now)) = true := by
    cases after : row.runAfter with
    | none => rfl
    | some due => simpa using ready due after
  have member : row.shardKey ∈ (computeWorkerShards shards index workers queueKey).map Int.ofNat ↔
      shard ∈ computeWorkerShards shards index workers queueKey := by
    rw [keyed]
    simp
  simp only [BaseWorker.accepts, JobEngine.claimable, started_request, region, pending, runnable, here,
    Option.getD_some, decide_true, Bool.true_and, Bool.and_true]
  cases owned : computeWorkerShards shards index workers queueKey with
  | nil => exact absurd owned (computeWorkerShards_nonempty (by omega))
  | cons first rest =>
    rw [owned] at member
    simpa using member

/-- No more workers than shards: one worker meets either condition, the remainder. -/
theorem one_owner (staffed : 0 < workers) (few : workers ≤ total shards queueKey) :
    (index < workers ∧ (total shards queueKey ≤ index ∨ shard % workers = index)) ↔
      index = shard % workers := by
  have inside := Nat.mod_lt shard staffed
  omega

/-- Jobs are spread over the shards, shards over the workers, and no due row is left
out. -/
theorem shards_partitioned (config : QueueConfig) (shards : QueueKey → Option Nat)
    (sha256 : String → Digest) (queueKey : QueueKey) (workers : Nat) (name : Nat → WorkerId)
    (counted : 0 < total shards queueKey) (staffed : 0 < workers) :
    (∀ id, ∃ shard < total shards queueKey,
      computeShardKey shards sha256 id queueKey = some (shard : Int)) ∧
    (workers ≤ total shards queueKey → ∀ shard < total shards queueKey,
      ∃! index, index < workers ∧ shard ∈ computeWorkerShards shards index workers queueKey) ∧
    (total shards queueKey < workers →
      (∀ index < total shards queueKey,
        computeWorkerShards shards index workers queueKey = [index]) ∧
      ∀ index < workers, total shards queueKey ≤ index →
        computeWorkerShards shards index workers queueKey = List.range (total shards queueKey)) ∧
    ∀ row now available, ∀ shard < total shards queueKey, Due config now row →
      row.shardKey = (shard : Int) →
      (∃ index < workers,
        (started config shards queueKey workers name index).accepts config available now row) ∧
      (workers ≤ total shards queueKey → ∃! index, index < workers ∧
        (started config shards queueKey workers name index).accepts config available now row) := by
  refine ⟨fun id => computeShardKey_shard sha256 id counted, ?_, ?_, ?_⟩
  · intro few shard known
    refine ⟨shard % workers, ⟨Nat.mod_lt _ staffed, ?_⟩, ?_⟩
    · exact (mem_computeWorkerShards staffed (Nat.mod_lt _ staffed) known).mpr (.inr rfl)
    · rintro index ⟨inside, member⟩
      have owner := (mem_computeWorkerShards staffed inside known).mp member
      exact (one_owner staffed few).mp ⟨inside, owner⟩
  · intro more
    exact ⟨fun index below => worker_alone more below,
      fun index _ above => worker_above staffed above⟩
  · intro row now available shard known due keyed
    have owner : (started config shards queueKey workers name (shard % workers)).accepts config
        available now row :=
      (accepts_iff staffed (Nat.mod_lt _ staffed) known due keyed).mpr (.inr rfl)
    refine ⟨⟨_, Nat.mod_lt _ staffed, owner⟩, fun few => ⟨_, ⟨Nat.mod_lt _ staffed, owner⟩, ?_⟩⟩
    rintro index ⟨inside, accepted⟩
    exact (one_owner staffed few).mp
      ⟨inside, (accepts_iff staffed inside known due keyed).mp accepted⟩

/-- The hash of one job's identifier; others are not asked for. -/
def sampleSha256 (id : String) : Digest :=
  if id = "00000000-0000-4000-8000-000000000002" then
    #v[0xe7, 0x9a, 0xcd, 0x97, 0xac, 0x88, 0x08, 0x66, 0x65, 0xd8, 0x5a, 0x76,
      0x2f, 0x43, 0xd5, 0x33, 0xa4, 0x51, 0x95, 0xb6, 0xba, 0xc5, 0x96, 0x1a,
      0x99, 0x3e, 0x6e, 0xd3, 0x62, 0x47, 0x14, 0x39]
  else Vector.replicate 32 0

/-- A refund to be tried again, in the second shard. -/
def dueRow : JobEngine.JobRow :=
  ({ id := 1, shardKey := 1, createdAt := 0 } : JobEngine.NewJob).row

/-- Two workers share the refunds to be tried again, and one of them accepts the row. -/
theorem shards_partitioned_refundRetry :
    0 < total totalShards .refundRetry ∧ 0 < 2 ∧
      (∀ id, ∃ shard < total totalShards .refundRetry,
        computeShardKey totalShards sampleSha256 id .refundRetry = some (shard : Int)) ∧
      (∀ shard < total totalShards .refundRetry,
        ∃! index, index < 2 ∧ shard ∈ computeWorkerShards totalShards index 2 .refundRetry) ∧
      ∃! index, index < 2 ∧
        (started queues totalShards .refundRetry 2 (fun _ => "refund_retry") index).accepts queues 10
          0 dueRow := by
  obtain ⟨keys, partition, -, owned⟩ := shards_partitioned queues totalShards sampleSha256
    .refundRetry 2 (fun _ => "refund_retry") (by decide) (by decide)
  have due : Due queues 0 dueRow := ⟨rfl, by rintro _ ⟨⟩, rfl⟩
  exact ⟨by decide, by decide, keys, partition (by decide),
    (owned dueRow 0 10 1 (by decide) due rfl).2 (by decide)⟩

end Claims

end PlanBuddy.Shards
