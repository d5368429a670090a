import PlanBuddy.ShardRouter

/-!
# Shards whose worker is down

The router promises that shards without an owner are claimed by any available worker.
Each worker filters by the shards computed from its own index when it starts, and nothing
tells it which others run. So the rows of a shard are taken over only by a worker whose
index is not below the number of shards, for such a worker takes every shard; otherwise
they wait for the one worker whose index the shard leaves as a remainder.
-/

namespace PlanBuddy.Shards

/-- Some worker of those that run takes the due rows of a job exactly if one of them is
left over by the shards, or the worker the job's shard belongs to is among them. -/
theorem failover_iff (config : QueueConfig) (shards : QueueKey → Option Nat)
    (sha256 : String → Digest) (queueKey : QueueKey) (workers : Nat) (name : Nat → WorkerId)
    (live : Finset Nat) (id : String) (shardKey : Int) (now : Time) (row : JobEngine.JobRow)
    (available : Nat) (counted : 0 < total shards queueKey) (staffed : 0 < workers)
    (known : ∀ index ∈ live, index < workers)
    (computed : computeShardKey shards sha256 id queueKey = some shardKey)
    (due : Due config now row) (keyed : row.shardKey = shardKey) :
    (∃ index ∈ live,
      (started config shards queueKey workers name index).accepts config available now row) ↔
      (∃ index ∈ live, total shards queueKey ≤ index) ∨ (shardKey % workers).toNat ∈ live := by
  obtain ⟨shard, inside, shardOf⟩ := computeShardKey_shard sha256 id counted
  obtain rfl : shardKey = (shard : Int) := Option.some.inj (computed.symm.trans shardOf)
  have owner : ((shard : Int) % (workers : Int)).toNat = shard % workers := by
    rw [← Int.natCast_emod, Int.toNat_natCast]
  rw [owner]
  constructor
  · rintro ⟨index, member, accepted⟩
    rcases (accepts_iff staffed (known index member) inside due keyed).mp accepted with above | mine
    · exact .inl ⟨index, member, above⟩
    · exact .inr (mine ▸ member)
  · rintro (⟨index, member, above⟩ | member)
    · exact ⟨index, member, (accepts_iff staffed (known index member) inside due keyed).mpr (.inl above)⟩
    · exact ⟨_, member, (accepts_iff staffed (known _ member) inside due keyed).mpr (.inr rfl)⟩

/-- A refund job of the shard that belongs to the second of two workers. -/
def secondShardRow : JobEngine.JobRow :=
  JobEngine.NewJob.row { id := 2, shardKey := 1, createdAt := 0 }

/-- The job of the sample is in the second shard. -/
theorem secondShard_computed :
    computeShardKey totalShards sampleSha256 "00000000-0000-4000-8000-000000000002" .refundRetry =
      some 1 := by
  decide

/-- Its row is due. -/
theorem secondShardRow_due : Due queues 0 secondShardRow := by
  refine ⟨rfl, ?_, rfl⟩
  intro due after
  cases after

/-- The first worker alone does not accept it. -/
theorem failover_iff_first :
    (∃ index ∈ ({0} : Finset Nat),
      (started queues totalShards .refundRetry 2 (fun _ => "refund_retry") index).accepts queues
        3 0 secondShardRow) ↔
      (∃ index ∈ ({0} : Finset Nat), total totalShards .refundRetry ≤ index) ∨
        ((1 : Int) % (2 : Nat)).toNat ∈ ({0} : Finset Nat) :=
  failover_iff queues totalShards sampleSha256 .refundRetry 2 (fun _ => "refund_retry") {0}
    "00000000-0000-4000-8000-000000000002" 1 0 secondShardRow 3 (by decide) (by decide)
    (by simp) secondShard_computed secondShardRow_due rfl

/-- With the second of two workers down nobody claims its jobs. -/
theorem second_shard_orphaned :
    ¬ ∀ live : Finset Nat, live.Nonempty → (∀ index ∈ live, index < 2) →
      ∀ id shardKey, computeShardKey totalShards sampleSha256 id .refundRetry = some shardKey →
        ∀ now row available, Due queues now row → row.shardKey = shardKey →
          ∃ index ∈ live, (started queues totalShards .refundRetry 2 (fun _ => "refund_retry")
            index).accepts queues available now row := by
  intro failover
  obtain ⟨index, member, accepted⟩ := failover {0} (by simp) (by simp) _ 1 secondShard_computed 0
    secondShardRow 3 secondShardRow_due rfl
  obtain rfl : index = 0 := by simpa using member
  exact absurd accepted (by decide)

end PlanBuddy.Shards
