import PlanBuddy.RegionLeader
import PlanBuddy.Tokens

/-!
# Epochs of the leader lock

A run is any sequence of calls of `acquire_region_leader`, each alone on the tables and
each with a lease and a reading of `NOW()` of its own; nothing relates the readings of two
calls. The lock row is a numbered owner: a first acquisition grants epoch 1, a renewal
grants the current epoch again, and a steal grants the next one, also to the region that
let its own lease expire.
-/

namespace PlanBuddy.Regions

open Tokens (Token)

/-- One call, with the time it reads. -/
structure Acquisition where
  regionId : RegionId
  leaseMs : Int
  now : Time

/-- The region and the epoch of the lock row. -/
def Store.token (store : Store) : Option (Token RegionId) :=
  store.lock.map fun lock => ⟨lock.regionId, lock.epoch⟩

/-- What a call that answered TRUE has granted. -/
def grants (granted : Bool) (store : Store) : List (Token RegionId) :=
  if granted then store.token.toList else []

/-- A call never fails; a TRUE is recorded with the epoch it left in the row. -/
def elect (store : Store) (call : Acquisition) : Option (Store × List (Token RegionId)) :=
  let (next, granted) := acquireRegionLeader call.regionId call.leaseMs call.now store
  some (next, grants granted next)

/-- A call either keeps the owner and the number or takes the lock over. -/
theorem acquire_numbered {regionId : RegionId} {leaseMs : Int} {now : Time} {store next : Store}
    {granted : Bool} (acquired : Acquires regionId leaseMs now store next granted) :
    Tokens.Step store.token (grants granted next) next.token := by
  cases acquired with
  | first absent =>
    have none : store.token = none := by rw [Store.token, absent, Option.map_none]
    rw [none]
    exact .first ⟨regionId, 1⟩
  | renewed lock found own unexpired =>
    have held : store.token = some ⟨lock.regionId, lock.epoch⟩ := by
      rw [Store.token, found, Option.map_some]
    rw [held]
    exact .renew ⟨lock.regionId, lock.epoch⟩
  | stolen lock found expired =>
    have held : store.token = some ⟨lock.regionId, lock.epoch⟩ := by
      rw [Store.token, found, Option.map_some]
    rw [held]
    exact .take ⟨lock.regionId, lock.epoch⟩ regionId
  | refused => exact .keep store.token

/-- An election numbers its tokens. -/
theorem elect_numbered {store next : Store} {observed : List (Token RegionId)}
    (taken : takes elect anyAction store observed next) :
    Tokens.Step store.token observed next.token := by
  obtain ⟨call, -, taken⟩ := taken
  simp only [elect, Option.some.injEq, Prod.mk.injEq] at taken
  obtain ⟨rfl, rfl⟩ := taken
  exact acquire_numbered (acquire_cases rfl)

/-- The numbers of a run of calls are those of a numbered owner. -/
theorem elections_numbered {start final : Store} {history : List (Token RegionId)}
    (run : Run (takes elect anyAction) start history final) :
    Run Tokens.Step start.token history final.token := by
  have numbered := run.simulates Store.token some (fun _ taken => by
    rw [List.filterMap_some]
    exact elect_numbered taken)
  rwa [List.filterMap_some] at numbered

/-- What a call does to a lock row: taken over under the next epoch once it has expired,
otherwise kept under its epoch, and granted to its own region only. -/
structure Answered (regionId : RegionId) (now : Time) (lock after : LeaderLock) (granted : Bool) :
    Prop where
  expired : lock.expiresAt ≤ now →
    granted = true ∧ after.regionId = regionId ∧ after.epoch = lock.epoch + 1
  unexpired : now < lock.expiresAt →
    (granted = true ↔ lock.regionId = regionId) ∧ after.regionId = lock.regionId ∧
      after.epoch = lock.epoch

/-- A call is answered by the lock it finds. -/
theorem acquire_answered {regionId : RegionId} {leaseMs : Int} {now : Time} {store next : Store}
    {granted : Bool} {lock : LeaderLock}
    (acquired : Acquires regionId leaseMs now store next granted) (locked : store.lock = some lock) :
    ∃ after, next.lock = some after ∧ Answered regionId now lock after granted := by
  cases acquired with
  | first absent =>
    rw [absent] at locked
    cases locked
  | renewed old found own unexpired =>
    obtain rfl : old = lock := Option.some.inj (found.symm.trans locked)
    refine ⟨_, rfl, ?_, ?_⟩
    · intro expired
      exact absurd unexpired (Int.not_lt.mpr expired)
    · intro _
      exact ⟨iff_of_true rfl own, rfl, rfl⟩
  | stolen old found expired =>
    obtain rfl : old = lock := Option.some.inj (found.symm.trans locked)
    refine ⟨_, rfl, ?_, ?_⟩
    · intro _
      exact ⟨rfl, rfl, rfl⟩
    · intro unexpired
      exact absurd unexpired (Int.not_lt.mpr expired)
  | refused old found foreign unexpired =>
    obtain rfl : old = lock := Option.some.inj (found.symm.trans locked)
    refine ⟨old, found, ?_, ?_⟩
    · intro expired
      exact absurd unexpired (Int.not_lt.mpr expired)
    · intro _
      exact ⟨iff_of_false (by decide) foreign, rfl, rfl⟩

/-- In every run of calls, whatever their leases and clocks: the next call raises the
epoch by one if it finds the lease expired and otherwise leaves it, no later state has a
smaller epoch, and no epoch was granted to two regions. -/
theorem leader_epochs_fence {start state : Store} {history : List (Token RegionId)}
    (run : Run (takes elect anyAction) start history state) :
    (∀ (regionId : RegionId) (leaseMs : Int) (now : Time) (lock : LeaderLock),
      state.lock = some lock →
        ∃ after, (acquireRegionLeader regionId leaseMs now state).1.lock = some after ∧
          Answered regionId now lock after (acquireRegionLeader regionId leaseMs now state).2) ∧
    (∀ later final, Run (takes elect anyAction) state later final →
      ∀ lock, state.lock = some lock →
        ∃ after, final.lock = some after ∧ lock.epoch ≤ after.epoch) ∧
    (∀ one ∈ history, ∀ other ∈ history, one.number = other.number → one.owner = other.owner) := by
  refine ⟨?_, ?_, ?_⟩
  · intro regionId leaseMs now lock locked
    exact acquire_answered (acquire_cases rfl) locked
  · intro later final continued lock locked
    have held : state.token = some ⟨lock.regionId, lock.epoch⟩ := by
      rw [Store.token, locked, Option.map_some]
    obtain ⟨token, reached, bound⟩ := Tokens.run_grows (elections_numbered continued) held
    obtain ⟨after, found, rfl⟩ := Option.map_eq_some_iff.mp reached
    exact ⟨after, found, bound⟩
  · exact Tokens.run_owned (elections_numbered run)

section Sample

/-- A first acquisition, a refusal, a renewal read at an earlier time, a steal, and the
thief stealing its own expired lease. -/
theorem leader_epochs_fence_five :
    ∃ history state, Run (takes elect anyAction) unlocked history state ∧
      history.map Token.number = [1, 1, 2, 3] ∧
      ∀ one ∈ history, ∀ other ∈ history, one.number = other.number → one.owner = other.owner := by
  have run : Run (takes elect anyAction) unlocked _ _ :=
    run_of_schedule [⟨"us-east-1", 30, 0⟩, ⟨"eu-west-1", 30, 20⟩, ⟨"us-east-1", 30, 10⟩,
      ⟨"eu-west-1", 30, 40⟩, ⟨"eu-west-1", 30, 90⟩] rfl
  exact ⟨_, _, run, by decide, (leader_epochs_fence run).2.2⟩

end Sample

end PlanBuddy.Regions
