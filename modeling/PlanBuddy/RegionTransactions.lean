import PlanBuddy.Parties
import PlanBuddy.RegionLeader
import PlanBuddy.Runs

/-!
# Leader elections as concurrent transactions

Each call of `acquire_region_leader` is a transaction of its own: it reads `NOW()` when
it starts, later takes its SELECT … FOR UPDATE, and then writes and commits. The SELECT
waits while another transaction has the row locked; where there is no row it locks
nothing and several transactions go on to insert.

A grant is answered TRUE at the COMMIT and says until when the region may lead. Leases
exclude each other as long as the lock row outlives every grant that has not expired.
Two writes break that: an INSERT that met a row and is answered TRUE all the same, and a
renewal that shortens the lease because its transaction started first and wrote last.
-/

namespace PlanBuddy.Regions

/-- Where a call stands between two of its statements. -/
inductive CallPhase where
  | selecting
  | missed
  | locked (seen : LeaderLock)
  | ended (granted : Bool)

/-- One call, with the start of its transaction. -/
structure Call where
  regionId : RegionId
  leaseMs : Int
  now : Time
  phase : CallPhase

/-- The end of the lease that the call asks for. -/
def Call.expiresAt (call : Call) : Time := call.now + call.leaseMs

/-- The call holds the row lock. -/
def Call.locks (call : Call) : Bool :=
  match call.phase with
  | .locked _ => true
  | _ => false

structure Server where
  clock : Time
  store : Store
  calls : List Call

inductive ServerAction where
  | call (regionId : RegionId) (leaseMs : Int)
  | select (index : Nat)
  | write (index : Nat)
  | abort (index : Nat)
  | advance (elapsed : Nat)

/-- A TRUE, with the lease it stands for. -/
structure Grant where
  regionId : RegionId
  expiresAt : Time

section Server

variable (server : Server) (index : Nat) (call : Call)

/-- The call has read and the tables are as before. -/
def Server.read : Server := { server with calls := server.calls.set index call }

/-- The SELECT … FOR UPDATE. -/
def Server.select : Option (Server × List Grant) :=
  match call.phase, server.store.lock with
  | .selecting, none => some (server.read index { call with phase := .missed }, [])
  | .selecting, some seen =>
    if server.calls.any Call.locks then none
    else some (server.read index { call with phase := .locked seen }, [])
  | _, _ => none

/-- The end of the transaction and its answer. -/
def Server.finish (written : Store × Bool) : Server × List Grant :=
  ({ server with
      store := written.1
      calls := server.calls.set index { call with phase := .ended written.2 } },
    if written.2 then [⟨call.regionId, call.expiresAt⟩] else [])

/-- The INSERT or the UPDATE that follows the SELECT. -/
def Server.write : Option (Server × List Grant) :=
  match call.phase with
  | .missed =>
    some (server.finish index call
      (firstAcquisition call.regionId call.leaseMs call.now server.store))
  | .locked seen =>
    some (server.finish index call
      (lockedAcquisition call.regionId call.leaseMs call.now seen server.store))
  | _ => none

/-- The transaction fails and its row lock is gone. -/
def Server.abort : Option (Server × List Grant) :=
  match call.phase with
  | .ended _ => none
  | _ => some (server.finish index call (server.store, false))

end Server

/-- One statement of any transaction. -/
def transact (server : Server) : ServerAction → Option (Server × List Grant)
  | .call regionId leaseMs =>
    some ({ server with
      calls := server.calls ++ [⟨regionId, leaseMs, server.clock, .selecting⟩] }, [])
  | .select index => (server.calls[index]?).bind (server.select index)
  | .write index => (server.calls[index]?).bind (server.write index)
  | .abort index => (server.calls[index]?).bind (server.abort index)
  | .advance elapsed => some ({ server with clock := server.clock + elapsed }, [])

/-- At the given time no two regions hold a lease that has not expired. -/
def LeasesExclude (history : List Grant) (clock : Time) : Prop :=
  ∀ one ∈ history, ∀ other ∈ history, clock < one.expiresAt → clock < other.expiresAt →
    one.regionId = other.regionId

/-- An INSERT that meets a row finds its own region's, with a lease at least as long as
the one it is about to be granted; a renewal does not shorten a lease. Leases that have
expired do not matter. -/
def Call.ordered (call : Call) (clock : Time) (lock : Option LeaderLock) : Prop :=
  match call.phase with
  | .missed =>
    clock < call.expiresAt → ∀ held ∈ lock,
      held.regionId = call.regionId ∧ call.expiresAt ≤ held.expiresAt
  | .locked seen =>
    seen.regionId = call.regionId → clock < seen.expiresAt → seen.expiresAt ≤ call.expiresAt
  | _ => True

def Orderly (server : Server) : ServerAction → Prop
  | .write index => ∀ call ∈ server.calls[index]?, call.ordered server.clock server.store.lock
  | _ => True

instance (clock : Time) (lock : Option LeaderLock) :
    (call : Call) → Decidable (call.ordered clock lock)
  | ⟨_, _, _, .missed⟩ => inferInstanceAs (Decidable (_ → ∀ held ∈ lock, _))
  | ⟨_, _, _, .locked _⟩ => inferInstanceAs (Decidable (_ → _ → _))
  | ⟨_, _, _, .selecting⟩ | ⟨_, _, _, .ended _⟩ => inferInstanceAs (Decidable True)

instance (server : Server) : (action : ServerAction) → Decidable (Orderly server action)
  | .write index =>
    inferInstanceAs (Decidable (∀ call ∈ server.calls[index]?, call.ordered _ _))
  | .call _ _ | .select _ | .abort _ | .advance _ => inferInstanceAs (Decidable True)

section Writes

/-- All that a write can do. Only the second case differs from the function taken alone. -/
inductive Writes (call : Call) (store : Store) : Store → Bool → Prop
  | inserted (missed : call.phase = .missed) (absent : store.lock = none) :
      Writes call store
        { store with lock := some ⟨call.regionId, 1, call.now, call.expiresAt⟩ } true
  | ignored (missed : call.phase = .missed) (held : LeaderLock) (present : store.lock = some held) :
      Writes call store store true
  | acquired {next : Store} {granted : Bool} (seen : LeaderLock) (locked : call.phase = .locked seen)
      (present : store.lock = some seen)
      (acquires : Acquires call.regionId call.leaseMs call.now store next granted) :
      Writes call store next granted

/-- A write is one of these. -/
theorem write_cases {server next : Server} {index : Nat} {call : Call} {observed : List Grant}
    (current : ∀ seen, call.phase = .locked seen → server.store.lock = some seen)
    (written : server.write index call = some (next, observed)) :
    ∃ store granted, Writes call server.store store granted ∧
      server.finish index call (store, granted) = (next, observed) := by
  unfold Server.write at written
  split at written
  · next missed =>
    generalize outcome : firstAcquisition call.regionId call.leaseMs call.now server.store = after
      at written
    refine ⟨after.1, after.2, ?_, Option.some.inj written⟩
    unfold firstAcquisition at outcome
    split at outcome <;> subst outcome
    · next absent => exact .inserted missed absent
    · next held present => exact .ignored missed held present
  · next seen locked =>
    have present := current seen locked
    generalize outcome : lockedAcquisition call.regionId call.leaseMs call.now seen server.store =
      after at written
    refine ⟨after.1, after.2, .acquired seen locked present ?_, Option.some.inj written⟩
    apply acquire_cases
    rw [acquireRegionLeader, present]
    exact outcome
  · cases written

/-- A grant that has not expired is the lock row's region's, and the row outlives it. -/
def Covered (clock : Time) (lock : Option LeaderLock) (grant : Grant) : Prop :=
  clock < grant.expiresAt →
    ∃ held, lock = some held ∧ held.regionId = grant.regionId ∧ grant.expiresAt ≤ held.expiresAt

/-- Nothing that has not expired is covered by an expired row or by none. -/
theorem covered_expired {clock : Time} {lock after : Option LeaderLock} {grant : Grant}
    (covered : Covered clock lock grant) (expired : ∀ held, lock = some held → held.expiresAt ≤ clock) :
    Covered clock after grant := by
  intro unexpired
  obtain ⟨held, present, -, bound⟩ := covered unexpired
  have past : clock < clock :=
    Int.lt_of_lt_of_le unexpired (Int.le_trans bound (expired held present))
  exact absurd past (Int.lt_irrefl clock)

/-- An orderly write leaves every grant covered, its own included. -/
theorem writes_covered {call : Call} {clock : Time} {store next : Store} {granted : Bool}
    {history : List Grant} (covered : ∀ grant ∈ history, Covered clock store.lock grant)
    (started : call.now ≤ clock) (ordered : call.ordered clock store.lock)
    (writes : Writes call store next granted) :
    (∀ grant ∈ history, Covered clock next.lock grant) ∧
      (granted = true → Covered clock next.lock ⟨call.regionId, call.expiresAt⟩) := by
  cases writes with
  | inserted missed absent =>
    constructor
    · intro grant member
      apply covered_expired (covered grant member)
      intro held present
      rw [absent] at present
      cases present
    · intro _ _
      exact ⟨_, rfl, rfl, Int.le_refl _⟩
  | ignored missed held present =>
    constructor
    · exact covered
    · intro _ unexpired
      rw [Call.ordered, missed] at ordered
      obtain ⟨own, bound⟩ := ordered unexpired held present
      exact ⟨held, present, own, bound⟩
  | acquired seen locked present acquires =>
    rw [Call.ordered, locked] at ordered
    cases acquires with
    | first absent =>
      rw [absent] at present
      cases present
    | renewed lock found own unexpired =>
      obtain rfl : lock = seen := Option.some.inj (found.symm.trans present)
      constructor
      · intro grant member fresh
        obtain ⟨held, heldPresent, region, bound⟩ := covered grant member fresh
        obtain rfl : lock = held := Option.some.inj (found.symm.trans heldPresent)
        have longer := ordered own (Int.lt_of_lt_of_le fresh bound)
        exact ⟨_, rfl, region, Int.le_trans bound longer⟩
      · intro _ _
        exact ⟨_, rfl, own, Int.le_refl _⟩
    | stolen lock found expired =>
      constructor
      · intro grant member
        apply covered_expired (covered grant member)
        intro held heldPresent
        obtain rfl : lock = held := Option.some.inj (found.symm.trans heldPresent)
        exact Int.le_trans expired started
      · intro _ _
        exact ⟨_, rfl, rfl, Int.le_refl _⟩
    | refused => exact ⟨covered, fun granted => by cases granted⟩

end Writes

section Steps

/-- At most one of the two calls holds the row lock. -/
def FreeOf (one other : Call) : Prop := one.locks = false ∨ other.locks = false

/-- Two calls are free of each other both ways. -/
theorem FreeOf.symm {one other : Call} (free : FreeOf one other) : FreeOf other one :=
  Or.symm free

/-- What every state of an orderly run satisfies: the grants are covered, and what a call
has read under the row lock is still there. -/
structure Disciplined (history : List Grant) (server : Server) : Prop where
  covered : ∀ grant ∈ history, Covered server.clock server.store.lock grant
  current : ∀ call ∈ server.calls, ∀ seen, call.phase = .locked seen →
    server.store.lock = some seen
  alone : Parties.Apart FreeOf server.calls
  started : ∀ call ∈ server.calls, call.now ≤ server.clock

variable {history : List Grant} {server : Server} {index : Nat} {call : Call}

/-- A call that has found the row holds its lock. -/
theorem locked_locks {seen : LeaderLock} (locked : call.phase = .locked seen) :
    call.locks = true := by
  rw [Call.locks, locked]

/-- A new call disturbs nothing. -/
theorem called_disciplined (disciplined : Disciplined history server) (regionId : RegionId)
    (leaseMs : Int) :
    Disciplined history
      { server with calls := server.calls ++ [⟨regionId, leaseMs, server.clock, .selecting⟩] } := by
  constructor
  · exact disciplined.covered
  · intro call member seen locked
    rcases List.mem_append.mp member with old | new
    · exact disciplined.current call old seen locked
    · rw [List.mem_singleton.mp new] at locked
      cases locked
  · apply Parties.apart_append FreeOf.symm disciplined.alone
    intro other _
    exact Or.inl rfl
  · exact forall_mem_snoc disciplined.started (Int.le_refl _)

/-- A call has read, and has locked only a row that no other call holds. -/
theorem read_disciplined {phase : CallPhase} (disciplined : Disciplined history server)
    (stored : server.calls[index]? = some call)
    (reads : ∀ seen, phase = .locked seen →
      server.store.lock = some seen ∧ server.calls.any Call.locks = false) :
    Disciplined history (server.read index { call with phase }) := by
  constructor
  · exact disciplined.covered
  · intro other member seen locked
    rcases List.mem_or_eq_of_mem_set member with old | rfl
    · exact disciplined.current other old seen locked
    · exact (reads seen locked).1
  · apply Parties.apart_set FreeOf.symm disciplined.alone
    intro position other _ old
    cases phase with
    | locked seen =>
      have free := List.any_eq_false.mp (reads seen rfl).2 other (List.mem_of_getElem? old)
      exact Or.inr (Bool.eq_false_iff.mpr free)
    | _ => exact Or.inl rfl
  · intro other member
    rcases List.mem_or_eq_of_mem_set member with old | rfl
    · exact disciplined.started other old
    · exact disciplined.started call (List.mem_of_getElem? stored)

/-- Nor does a SELECT. -/
theorem selected_disciplined {next : Server} {observed : List Grant}
    (disciplined : Disciplined history server) (stored : server.calls[index]? = some call)
    (selected : server.select index call = some (next, observed)) :
    Disciplined (history ++ observed) next := by
  unfold Server.select at selected
  split at selected
  · cases selected
    rw [List.append_nil]
    exact read_disciplined disciplined stored (fun seen locked => by cases locked)
  · next seen _ present =>
    split at selected
    · cases selected
    · next free =>
      cases selected
      rw [List.append_nil]
      apply read_disciplined disciplined stored
      rintro read ⟨rfl⟩
      exact ⟨present, Bool.eq_false_iff.mpr free⟩
  · cases selected

/-- A transaction that has ended holds no lock. -/
theorem finished_alone (alone : Parties.Apart FreeOf server.calls) (outcome : Store × Bool) :
    Parties.Apart FreeOf (server.finish index call outcome).1.calls := by
  apply Parties.apart_set FreeOf.symm alone
  intro position other _ _
  exact Or.inl rfl

/-- The end of a transaction that left the row alone, inserted it or held its lock. -/
theorem finished_disciplined {store : Store} {granted : Bool}
    (disciplined : Disciplined history server) (stored : server.calls[index]? = some call)
    (covered : ∀ grant ∈ history, Covered server.clock store.lock grant)
    (own : granted = true → Covered server.clock store.lock ⟨call.regionId, call.expiresAt⟩)
    (wrote : store.lock = server.store.lock ∨ server.store.lock = none ∨ call.locks = true) :
    Disciplined (history ++ (server.finish index call (store, granted)).2)
      (server.finish index call (store, granted)).1 := by
  constructor
  · intro grant member
    rcases List.mem_append.mp member with old | new
    · exact covered grant old
    · cases granted with
      | false => cases new
      | true =>
        rw [List.mem_singleton.mp new]
        exact own rfl
  · intro other member seen locked
    rcases Parties.mem_set_cases member with rfl | ⟨position, away, old⟩
    · cases locked
    · have read := disciplined.current other (List.mem_of_getElem? old) seen locked
      rcases wrote with same | absent | holds
      · exact same.trans read
      · rw [absent] at read
        cases read
      · rcases disciplined.alone index position call other away.symm stored old with free | free
        · rw [holds] at free
          cases free
        · rw [locked_locks locked] at free
          cases free
  · exact finished_alone disciplined.alone _
  · intro other member
    rcases List.mem_or_eq_of_mem_set member with old | rfl
    · exact disciplined.started other old
    · exact disciplined.started call (List.mem_of_getElem? stored)

/-- Nor does a write in order. -/
theorem written_disciplined {next : Server} {observed : List Grant}
    (disciplined : Disciplined history server) (stored : server.calls[index]? = some call)
    (ordered : call.ordered server.clock server.store.lock)
    (written : server.write index call = some (next, observed)) :
    Disciplined (history ++ observed) next := by
  have member := List.mem_of_getElem? stored
  obtain ⟨store, granted, writes, finished⟩ := write_cases (disciplined.current call member) written
  obtain ⟨covered, own⟩ :=
    writes_covered disciplined.covered (disciplined.started call member) ordered writes
  have wrote : store.lock = server.store.lock ∨ server.store.lock = none ∨ call.locks = true := by
    cases writes with
    | inserted missed absent => exact Or.inr (Or.inl absent)
    | ignored => exact Or.inl rfl
    | acquired seen locked => exact Or.inr (Or.inr (locked_locks locked))
  have kept := finished_disciplined disciplined stored covered own wrote
  rwa [finished] at kept

/-- Leases only expire as time passes. -/
theorem advanced_disciplined (disciplined : Disciplined history server) (elapsed : Nat) :
    Disciplined history { server with clock := server.clock + elapsed } := by
  have later : server.clock ≤ server.clock + elapsed := Int.le_add_of_nonneg_right (Int.natCast_nonneg _)
  constructor
  · intro grant member unexpired
    exact disciplined.covered grant member (Int.lt_of_le_of_lt later unexpired)
  · exact disciplined.current
  · exact disciplined.alone
  · intro call member
    exact Int.le_trans (disciplined.started call member) later

/-- Nor does any orderly step. -/
theorem step_disciplined {next : Server} {observed : List Grant}
    (disciplined : Disciplined history server)
    (taken : takes transact Orderly server observed next) :
    Disciplined (history ++ observed) next := by
  obtain ⟨action, orderly, taken⟩ := taken
  cases action with
  | call regionId leaseMs =>
    cases taken
    rw [List.append_nil]
    exact called_disciplined disciplined regionId leaseMs
  | select index =>
    obtain ⟨call, stored, selected⟩ := Option.bind_eq_some_iff.mp taken
    exact selected_disciplined disciplined stored selected
  | write index =>
    obtain ⟨call, stored, written⟩ := Option.bind_eq_some_iff.mp taken
    exact written_disciplined disciplined stored (orderly call stored) written
  | abort index =>
    obtain ⟨call, stored, aborted⟩ := Option.bind_eq_some_iff.mp taken
    have kept : Disciplined (history ++ (server.finish index call (server.store, false)).2)
        (server.finish index call (server.store, false)).1 :=
      finished_disciplined disciplined stored disciplined.covered
        (fun granted => absurd granted Bool.false_ne_true) (Or.inl rfl)
    unfold Server.abort at aborted
    split at aborted <;> cases aborted
    exact kept
  | advance elapsed =>
    cases taken
    rw [List.append_nil]
    exact advanced_disciplined disciplined elapsed

end Steps

/-- Without calls there is nothing to disturb. -/
theorem start_disciplined (clock : Time) (store : Store) : Disciplined [] ⟨clock, store, []⟩ := by
  constructor
  · intro grant member
    cases member
  · intro call member
    cases member
  · intro left right one other _ found
    cases found
  · intro call member
    cases member

/-- An orderly run is disciplined. -/
theorem run_disciplined {clock : Time} {store : Store} {history : List Grant} {server : Server}
    (run : Run (takes transact Orderly) ⟨clock, store, []⟩ history server) :
    Disciplined history server := by
  apply run.invariant Disciplined (start_disciplined clock store)
  intro _ _ _ _ _ disciplined taken
  exact step_disciplined disciplined taken

/-- Covered grants that have not expired are all the lock row's region's. -/
theorem covered_exclude {history : List Grant} {server : Server}
    (covered : ∀ grant ∈ history, Covered server.clock server.store.lock grant) :
    LeasesExclude history server.clock := by
  intro one memberOne other memberOther freshOne freshOther
  obtain ⟨held, present, own, -⟩ := covered one memberOne freshOne
  obtain ⟨same, presentSame, ownOther, -⟩ := covered other memberOther freshOther
  exact held_unique ⟨held, present, own⟩ ⟨same, presentSame, ownOther⟩

end PlanBuddy.Regions
