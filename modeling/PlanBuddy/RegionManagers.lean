import PlanBuddy.RegionEpochs
import PlanBuddy.Parties

/-!
# Region managers

`RegionManager` of any number of regions on one database. A tick sends its statements one
after another: the call of `acquire_region_leader`, the SELECT of the epoch, the UPDATE of
the region's registry row. The database executes a statement at one moment and the manager
sees the answer at a later one, with ticks of all regions in between; a tick may also fail
at any statement, before or after it was executed, and the `catch` keeps what the manager
has stored so far.

The clock is the database's. Timers do not wait for a tick to finish, so one manager may
have several ticks under way. `start` registers the region and takes a first tick; after
`stop` no tick begins. Ticks may begin at any moment here, so `_running` is left out.
-/

namespace PlanBuddy.Regions

open Tokens (Token)

/-- `LEADER_LEASE_MS`, the same for every region. -/
def leaderLeaseMs : Int := 30000

/-- What a manager stores: `_isPrimary` and `_epoch`. -/
structure Manager where
  isPrimary : Bool
  epoch : Nat

def Manager.isLocalRegionPrimary (manager : Manager) : Bool := manager.isPrimary

/-- A manager as constructed. -/
def Manager.new : Manager := ⟨false, 0⟩

/-- The statement a tick has sent, and the answer once the database has executed it. -/
inductive TickPhase where
  | acquiring
  | acquired (verdict : Bool)
  | readingEpoch
  | epochRead (epoch : Option Nat)
  | updating (role : RegionRole) (epoch : Nat)
  | updated
  | ended
deriving DecidableEq

/-- One call of `_tryAcquireLeadership`. -/
structure Tick where
  regionId : RegionId
  phase : TickPhase

structure Fleet where
  clock : Time
  store : Store
  managers : RegionId → Manager
  ticks : List Tick

inductive FleetAction where
  | tick (regionId : RegionId)
  | execute (index : Nat)
  | reply (index : Nat)
  | fail (index : Nat)
  | register (regionId : RegionId)
  | drain (regionId : RegionId)
  | advance (elapsed : Nat)

/-- A lease granted by the database, and the end of a tick that reached its end. -/
inductive FleetEvent where
  | granted (token : Token RegionId)
  | ended (regionId : RegionId)

section Registry

variable (regionId : RegionId) (now : Time)

/-- `_register`. -/
def register (registry : Registry) : Registry :=
  if (registry.lookup regionId).isSome then
    registry.update (fun row => decide (row.regionId = regionId))
      (fun row => { row with
        lastHeartbeat := now
        role := if row.role = .draining then .secondary else row.role })
  else (registry.insert ⟨regionId, .secondary, 1, now⟩).1

/-- The UPDATE of `stop`. -/
def drain (registry : Registry) : Registry :=
  registry.update (fun row => decide (row.regionId = regionId))
    (fun row => { row with role := .draining, lastHeartbeat := now })

/-- The UPDATE at the end of a tick. -/
def report (role : RegionRole) (epoch : Nat) (registry : Registry) : Registry :=
  registry.update (fun row => decide (row.regionId = regionId))
    (fun row => { row with role, epoch, lastHeartbeat := now })

end Registry

section Ticks

variable (fleet : Fleet) (index : Nat) (tick : Tick)

/-- The tables after a statement. -/
def Fleet.commit (store : Store) : Fleet := { fleet with store }

/-- The tick goes on to another statement or answer. -/
def Fleet.move (phase : TickPhase) : Fleet :=
  { fleet with ticks := fleet.ticks.set index { tick with phase } }

/-- The manager of the tick stores new values. -/
def Fleet.assign (manager : Manager) : Fleet :=
  { fleet with
    managers := fun regionId =>
      if regionId = tick.regionId then manager else fleet.managers regionId }

/-- The database executes the statement that the tick has sent. -/
def Fleet.execute : Option (Fleet × List FleetEvent) :=
  match tick.phase with
  | .acquiring =>
    let (store, verdict) := acquireRegionLeader tick.regionId leaderLeaseMs fleet.clock fleet.store
    some ((fleet.commit store).move index tick (.acquired verdict),
      (grants verdict store).map .granted)
  | .readingEpoch =>
    some (fleet.move index tick (.epochRead (fleet.store.lock.map LeaderLock.epoch)), [])
  | .updating role epoch =>
    let registry := report tick.regionId fleet.clock role epoch fleet.store.registry
    some ((fleet.commit { fleet.store with registry }).move index tick .updated, [])
  | _ => none

/-- The manager takes the answer and sends the next statement. -/
def Fleet.reply : Option (Fleet × List FleetEvent) :=
  let manager := fleet.managers tick.regionId
  match tick.phase with
  | .acquired verdict =>
    some ((fleet.assign tick { manager with isPrimary := verdict }).move index tick .readingEpoch, [])
  | .epochRead read =>
    let epoch := read.getD manager.epoch
    let role := if manager.isPrimary then RegionRole.primary else .secondary
    some ((fleet.assign tick { manager with epoch }).move index tick (.updating role epoch), [])
  | .updated => some (fleet.move index tick .ended, [.ended tick.regionId])
  | _ => none

/-- The statement or its answer is lost. -/
def Fleet.fail : Option (Fleet × List FleetEvent) :=
  if tick.phase = .ended then none else some (fleet.move index tick .ended, [])

end Ticks

/-- The manager of the tick's region is replaced. -/
theorem assign_own {fleet : Fleet} {tick : Tick} {regionId : RegionId}
    (own : regionId = tick.regionId) (manager : Manager) :
    (fleet.assign tick manager).managers regionId = manager :=
  if_pos own

/-- The others stay. -/
theorem assign_other {fleet : Fleet} {tick : Tick} {regionId : RegionId}
    (foreign : regionId ≠ tick.regionId) (manager : Manager) :
    (fleet.assign tick manager).managers regionId = fleet.managers regionId :=
  if_neg foreign

/-- One step of a tick, or a statement of `start` and `stop`. -/
def operate (fleet : Fleet) : FleetAction → Option (Fleet × List FleetEvent)
  | .tick regionId => some ({ fleet with ticks := fleet.ticks ++ [⟨regionId, .acquiring⟩] }, [])
  | .execute index => (fleet.ticks[index]?).bind (fleet.execute index)
  | .reply index => (fleet.ticks[index]?).bind (fleet.reply index)
  | .fail index => (fleet.ticks[index]?).bind (fleet.fail index)
  | .register regionId =>
    let registry := register regionId fleet.clock fleet.store.registry
    some (fleet.commit { fleet.store with registry }, [])
  | .drain regionId =>
    let registry := drain regionId fleet.clock fleet.store.registry
    some (fleet.commit { fleet.store with registry }, [])
  | .advance elapsed => some ({ fleet with clock := fleet.clock + elapsed }, [])

section Cases

/-- All that the database can do for a tick. -/
inductive Executes (fleet : Fleet) (index : Nat) (tick : Tick) : Fleet → List FleetEvent → Prop
  | acquire (sent : tick.phase = .acquiring) {store : Store} {verdict : Bool}
      (acquires : Acquires tick.regionId leaderLeaseMs fleet.clock fleet.store store verdict) :
      Executes fleet index tick ((fleet.commit store).move index tick (.acquired verdict))
        ((grants verdict store).map .granted)
  | read (sent : tick.phase = .readingEpoch) :
      Executes fleet index tick
        (fleet.move index tick (.epochRead (fleet.store.lock.map LeaderLock.epoch))) []
  | update (role : RegionRole) (epoch : Nat) (sent : tick.phase = .updating role epoch) :
      Executes fleet index tick
        ((fleet.commit { fleet.store with
          registry := report tick.regionId fleet.clock role epoch fleet.store.registry }).move index
          tick .updated) []

/-- A statement that is executed is one of these. -/
theorem execute_cases {fleet next : Fleet} {index : Nat} {tick : Tick} {observed : List FleetEvent}
    (executed : fleet.execute index tick = some (next, observed)) :
    Executes fleet index tick next observed := by
  unfold Fleet.execute at executed
  split at executed
  · next sent =>
    generalize called : acquireRegionLeader tick.regionId leaderLeaseMs fleet.clock fleet.store =
      outcome at executed
    obtain ⟨store, verdict⟩ := outcome
    cases executed
    exact .acquire sent (acquire_cases called)
  · next sent =>
    cases executed
    exact .read sent
  · next role epoch sent =>
    cases executed
    exact .update role epoch sent
  · cases executed

/-- The state after a tick has taken an expired lease over. -/
def Fleet.steal (fleet : Fleet) (index : Nat) (tick : Tick) (lock : LeaderLock) : Fleet :=
  (fleet.commit ⟨some ⟨tick.regionId, lock.epoch + 1, fleet.clock, fleet.clock + leaderLeaseMs⟩,
    promote tick.regionId (lock.epoch + 1) fleet.clock
      (demote lock.regionId fleet.store.registry)⟩).move index tick (.acquired true)

/-- A call that finds the lease expired takes it over. -/
theorem expired_stolen {fleet next : Fleet} {index : Nat} {tick : Tick} {lock : LeaderLock}
    {observed : List FleetEvent} (sent : tick.phase = .acquiring)
    (found : fleet.store.lock = some lock) (expired : lock.expiresAt ≤ fleet.clock)
    (executed : fleet.execute index tick = some (next, observed)) :
    next = fleet.steal index tick lock ∧ observed = [.granted ⟨tick.regionId, lock.epoch + 1⟩] := by
  cases execute_cases executed with
  | acquire _ acquires =>
    cases acquires with
    | first absent =>
      rw [absent] at found
      cases found
    | renewed held foundHeld own unexpired =>
      obtain rfl : held = lock := Option.some.inj (foundHeld.symm.trans found)
      exact absurd unexpired (Int.not_lt.mpr expired)
    | refused held foundHeld foreign unexpired =>
      obtain rfl : held = lock := Option.some.inj (foundHeld.symm.trans found)
      exact absurd unexpired (Int.not_lt.mpr expired)
    | stolen held foundHeld =>
      obtain rfl : held = lock := Option.some.inj (foundHeld.symm.trans found)
      exact ⟨rfl, rfl⟩
  | read reading =>
    rw [sent] at reading
    cases reading
  | update role epoch updating =>
    rw [sent] at updating
    cases updating

/-- All that a manager can do with an answer. -/
inductive Replies (fleet : Fleet) (index : Nat) (tick : Tick) : Fleet → List FleetEvent → Prop
  | acquired (verdict : Bool) (answered : tick.phase = .acquired verdict) :
      Replies fleet index tick
        ((fleet.assign tick { fleet.managers tick.regionId with isPrimary := verdict }).move index
          tick .readingEpoch) []
  | epochRead (read : Option Nat) (answered : tick.phase = .epochRead read) :
      Replies fleet index tick
        ((fleet.assign tick { fleet.managers tick.regionId with
            epoch := read.getD (fleet.managers tick.regionId).epoch }).move index tick
          (.updating (if (fleet.managers tick.regionId).isPrimary then .primary else .secondary)
            (read.getD (fleet.managers tick.regionId).epoch))) []
  | updated (answered : tick.phase = .updated) :
      Replies fleet index tick (fleet.move index tick .ended) [.ended tick.regionId]

/-- An answer is one of these. -/
theorem reply_cases {fleet next : Fleet} {index : Nat} {tick : Tick} {observed : List FleetEvent}
    (replied : fleet.reply index tick = some (next, observed)) :
    Replies fleet index tick next observed := by
  unfold Fleet.reply at replied
  split at replied
  · next verdict answered =>
    cases replied
    exact .acquired verdict answered
  · next read answered =>
    cases replied
    exact .epochRead read answered
  · next answered =>
    cases replied
    exact .updated answered
  · cases replied

/-- A failure ends the tick. -/
theorem fail_cases {fleet next : Fleet} {index : Nat} {tick : Tick} {observed : List FleetEvent}
    (failed : fleet.fail index tick = some (next, observed)) :
    next = fleet.move index tick .ended ∧ observed = [] := by
  unfold Fleet.fail at failed
  split at failed
  · cases failed
  · cases failed
    exact ⟨rfl, rfl⟩

end Cases

end PlanBuddy.Regions
