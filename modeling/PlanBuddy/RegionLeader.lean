import PlanBuddy.Queues
import PlanBuddy.Table

/-!
# The leader lock of the regions

`acquire_region_leader` on its two tables. The lock table has a single row, which may be
absent; the registry has a row for each region. The function reads the lock FOR UPDATE
and then inserts, renews, steals or refuses. What follows the read is a definition of
its own, so that the two can be taken together or with other transactions in between.

`NOW()` is the start of the transaction and an argument throughout.
-/

namespace PlanBuddy.Regions

/-- A region is named by text. -/
abbrev RegionId := String

inductive RegionRole where
  | primary
  | secondary
  | draining
deriving DecidableEq

/-- The row of `region_leader_lock` under `global_leader`. -/
structure LeaderLock where
  regionId : RegionId
  epoch : Nat
  acquiredAt : Time
  expiresAt : Time

/-- The columns of `region_registry` that are written here. -/
structure RegistryRow where
  regionId : RegionId
  role : RegionRole
  epoch : Nat
  lastHeartbeat : Time

abbrev Registry := Table RegistryRow.regionId

structure Store where
  lock : Option LeaderLock
  registry : Registry

/-- The tables before any region has started. -/
def unlocked : Store := ⟨none, .empty⟩

/-- The lock row is the region's, whether or not it has expired. -/
def Store.heldBy (store : Store) (regionId : RegionId) : Prop :=
  ∃ lock, store.lock = some lock ∧ lock.regionId = regionId

/-- One region holds the lock. -/
theorem held_unique {store : Store} {one other : RegionId} (heldOne : store.heldBy one)
    (heldOther : store.heldBy other) : one = other := by
  obtain ⟨lock, present, region⟩ := heldOne
  obtain ⟨same, presentSame, regionSame⟩ := heldOther
  obtain rfl : lock = same := Option.some.inj (present.symm.trans presentSame)
  exact region.symm.trans regionSame

section Registry

/-- `UPDATE region_registry SET role = 'secondary' WHERE region_id = $1`. -/
def demote (regionId : RegionId) (registry : Registry) : Registry :=
  registry.update (fun row => decide (row.regionId = regionId))
    (fun row => { row with role := .secondary })

/-- `INSERT … ON CONFLICT (region_id) DO UPDATE`, as the steal writes its own region. -/
def promote (regionId : RegionId) (epoch : Nat) (now : Time) (registry : Registry) : Registry :=
  if (registry.lookup regionId).isSome then
    registry.update (fun row => decide (row.regionId = regionId))
      (fun row => { row with role := .primary, epoch, lastHeartbeat := now })
  else (registry.insert ⟨regionId, .primary, epoch, now⟩).1

end Registry

section Acquire

variable (regionId : RegionId) (leaseMs : Int) (now : Time)

/-- The branch in which the read found no row. The INSERT does nothing when another
transaction has inserted the row meanwhile; the function returns TRUE all the same. -/
def firstAcquisition (store : Store) : Store × Bool :=
  match store.lock with
  | none => ({ store with lock := some ⟨regionId, 1, now, now + leaseMs⟩ }, true)
  | some _ => (store, true)

/-- The branches after the read found the row `seen`, which stays locked. -/
def lockedAcquisition (seen : LeaderLock) (store : Store) : Store × Bool :=
  if seen.regionId = regionId ∧ now < seen.expiresAt then
    ({ store with lock := store.lock.map fun lock => { lock with expiresAt := now + leaseMs } }, true)
  else if seen.expiresAt ≤ now then
    let epoch := seen.epoch + 1
    ({ lock := store.lock.map fun lock =>
          { lock with regionId, epoch, acquiredAt := now, expiresAt := now + leaseMs }
       registry := promote regionId epoch now (demote seen.regionId store.registry) }, true)
  else (store, false)

/-- The whole function, with no other transaction in between. -/
def acquireRegionLeader (store : Store) : Store × Bool :=
  match store.lock with
  | none => firstAcquisition regionId leaseMs now store
  | some seen => lockedAcquisition regionId leaseMs now seen store

end Acquire

/-- All that one call of the function can do. -/
inductive Acquires (regionId : RegionId) (leaseMs : Int) (now : Time) (store : Store) :
    Store → Bool → Prop
  | first (absent : store.lock = none) :
      Acquires regionId leaseMs now store
        { store with lock := some ⟨regionId, 1, now, now + leaseMs⟩ } true
  | renewed (lock : LeaderLock) (found : store.lock = some lock) (own : lock.regionId = regionId)
      (unexpired : now < lock.expiresAt) :
      Acquires regionId leaseMs now store
        { store with lock := some { lock with expiresAt := now + leaseMs } } true
  | stolen (lock : LeaderLock) (found : store.lock = some lock) (expired : lock.expiresAt ≤ now) :
      Acquires regionId leaseMs now store
        { lock := some ⟨regionId, lock.epoch + 1, now, now + leaseMs⟩
          registry := promote regionId (lock.epoch + 1) now (demote lock.regionId store.registry) }
        true
  | refused (lock : LeaderLock) (found : store.lock = some lock) (foreign : lock.regionId ≠ regionId)
      (unexpired : now < lock.expiresAt) : Acquires regionId leaseMs now store store false

/-- A call is one of these. -/
theorem acquire_cases {regionId : RegionId} {leaseMs : Int} {now : Time} {store next : Store}
    {granted : Bool} (called : acquireRegionLeader regionId leaseMs now store = (next, granted)) :
    Acquires regionId leaseMs now store next granted := by
  unfold acquireRegionLeader at called
  split at called
  · next absent =>
    simp only [firstAcquisition, absent, Prod.mk.injEq] at called
    obtain ⟨rfl, rfl⟩ := called
    exact .first absent
  · next lock found =>
    simp only [lockedAcquisition, found, Option.map_some] at called
    split at called
    · next own =>
      cases called
      exact .renewed lock found own.1 own.2
    · next other =>
      split at called
      · next expired =>
        cases called
        exact .stolen lock found expired
      · next unexpired =>
        cases called
        have alive := Int.not_le.mp unexpired
        exact .refused lock found (fun own => other ⟨own, alive⟩) alive

end PlanBuddy.Regions
