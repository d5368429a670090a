import PlanBuddy.RegionTransactions

/-!
# Overlapping leases

Where the lock row came from grants only, each disorderly write does end in an overlap. It
leaves a lease that is granted and not covered; the row expires while that lease still
runs, some other region takes the row over, and both lead.
-/

namespace PlanBuddy.Regions

/-- Some continuation reaches a state in which two regions hold unexpired leases. -/
def Overlaps (history : List Grant) (server : Server) : Prop :=
  ∃ later final, Run (takes transact anyAction) server later final ∧
    ¬ LeasesExclude (history ++ later) final.clock

section Continuations

variable {history : List Grant} {server : Server} {lock : LeaderLock} {grant : Grant}
  {regionId : RegionId}

/-- An overlap is reached from where a step leads to one. -/
theorem step_overlaps {action : ServerAction} {next : Server} {observed : List Grant}
    (taken : transact server action = some (next, observed))
    (overlaps : Overlaps (history ++ observed) next) : Overlaps history server := by
  obtain ⟨later, final, run, overlap⟩ := overlaps
  have first : Run (takes transact anyAction) server ([] ++ observed) next :=
    Run.start.step ⟨action, trivial, taken⟩
  refine ⟨_, final, first.trans run, ?_⟩
  rwa [List.nil_append, ← List.append_assoc]

/-- There is more than one region. -/
theorem another_region (regionId : RegionId) : ∃ other, regionId ≠ other := by
  by_cases empty : regionId = ""
  · exact ⟨"a", by rw [empty]; decide⟩
  · exact ⟨"", empty⟩

/-- A step that nobody observes does not lead away from an overlap. -/
theorem silent_overlaps {action : ServerAction} {next : Server}
    (taken : transact server action = some (next, [])) (overlaps : Overlaps history next) :
    Overlaps history server := by
  apply step_overlaps taken
  rwa [List.append_nil]

/-- Leases of two regions overlap already. -/
theorem granted_overlaps {other : Grant} (member : grant ∈ history)
    (memberOther : other ∈ history) (fresh : server.clock < grant.expiresAt)
    (freshOther : server.clock < other.expiresAt) (foreign : grant.regionId ≠ other.regionId) :
    Overlaps history server := by
  refine ⟨[], server, .start, ?_⟩
  rw [List.append_nil]
  intro exclude
  exact foreign (exclude grant member other memberOther fresh freshOther)

/-- Another region takes the expired row over while a granted lease still runs. -/
theorem stolen_overlaps (present : server.store.lock = some lock)
    (expired : lock.expiresAt ≤ server.clock) (free : server.calls.any Call.locks = false)
    (member : grant ∈ history) (fresh : server.clock < grant.expiresAt)
    (foreign : grant.regionId ≠ regionId) : Overlaps history server := by
  let call : Call := ⟨regionId, 1, server.clock, .selecting⟩
  let called : Server := { server with calls := server.calls ++ [call] }
  let locked : Call := { call with phase := .locked lock }
  have started : transact server (.call regionId 1) = some (called, []) := rfl
  have joined : called.calls[server.calls.length]? = some call := List.getElem?_concat_length
  have unlocked : called.calls.any Call.locks = false := by
    simp only [called, List.any_append, free, List.any_cons, List.any_nil, Bool.or_false]
    rfl
  have selected : transact called (.select server.calls.length) =
      some (called.read server.calls.length locked, []) := by
    simp only [transact, joined, Option.bind_some, Server.select, call]
    rw [present]
    simp only [unlocked, Bool.false_eq_true, if_false]
    rfl
  have waiting : (called.read server.calls.length locked).calls[server.calls.length]? = some locked :=
    Parties.set_moved locked joined
  have granted : (lockedAcquisition regionId 1 server.clock lock server.store).2 = true := by
    simp [lockedAcquisition, expired, Int.not_lt.mpr expired]
  have written : transact (called.read server.calls.length locked) (.write server.calls.length) =
      some ((called.read server.calls.length locked).finish server.calls.length locked
        (lockedAcquisition regionId 1 server.clock lock server.store)) := by
    simp only [transact, waiting, Option.bind_some, Server.write, locked]
    rfl
  apply silent_overlaps started
  apply silent_overlaps selected
  apply step_overlaps written
  have led : (⟨regionId, server.clock + 1⟩ : Grant) ∈ history ++
      ((called.read server.calls.length locked).finish server.calls.length locked
        (lockedAcquisition regionId 1 server.clock lock server.store)).2 := by
    simp only [Server.finish, granted, if_true]
    exact List.mem_append_right history (List.mem_singleton_self _)
  exact granted_overlaps (List.mem_append_left _ member) led fresh (Int.lt_succ server.clock) foreign

/-- The one transaction that may hold the row lock can fail. -/
theorem freed_overlaps (alone : Parties.Apart FreeOf server.calls)
    (overlaps : ∀ calls : List Call, calls.any Call.locks = false →
      Overlaps history { server with calls }) : Overlaps history server := by
  cases free : server.calls.any Call.locks with
  | false => exact overlaps server.calls free
  | true =>
    obtain ⟨call, member, holds⟩ := List.any_eq_true.mp free
    obtain ⟨index, stored⟩ := List.mem_iff_getElem?.mp member
    have aborted : transact server (.abort index) =
        some ({ server with calls := server.calls.set index { call with phase := .ended false } },
          []) := by
      simp only [transact, stored, Option.bind_some, Server.abort]
      cases phase : call.phase with
      | ended granted => rw [Call.locks, phase] at holds; cases holds
      | _ => rfl
    apply silent_overlaps aborted
    apply overlaps
    rw [List.any_eq_false]
    intro other kept
    rcases Parties.mem_set_cases kept with rfl | ⟨position, away, old⟩
    · exact Bool.false_ne_true
    · rcases alone index position call other away.symm stored old with held | idle
      · rw [holds] at held
        cases held
      · rw [idle]
        exact Bool.false_ne_true

/-- The lock row expires while a granted lease still runs. -/
theorem expiring_overlaps (present : server.store.lock = some lock)
    (alone : Parties.Apart FreeOf server.calls) (member : grant ∈ history)
    (fresh : server.clock < grant.expiresAt) (shorter : lock.expiresAt < grant.expiresAt) :
    Overlaps history server := by
  obtain ⟨regionId, foreign⟩ := another_region grant.regionId
  rcases Int.le_total lock.expiresAt server.clock with expired | running
  · apply freed_overlaps alone
    intro calls free
    exact stolen_overlaps present expired free member fresh foreign
  · obtain ⟨elapsed, reached⟩ := Int.le.dest running
    let later : Server := { server with clock := lock.expiresAt }
    have advanced : transact server (.advance elapsed) = some (later, []) := by
      rw [transact, reached]
    have alone : Parties.Apart FreeOf later.calls := alone
    apply silent_overlaps advanced
    apply freed_overlaps alone
    intro calls free
    exact stolen_overlaps present (Int.le_refl _) free member shorter foreign

/-- An unexpired lease that the lock row does not cover overlaps with the row's own lease or
with the one that follows it. -/
theorem uncovered_overlaps (present : server.store.lock = some lock)
    (alone : Parties.Apart FreeOf server.calls)
    (recorded : ⟨lock.regionId, lock.expiresAt⟩ ∈ history) (member : grant ∈ history)
    (fresh : server.clock < grant.expiresAt)
    (uncovered : lock.regionId = grant.regionId → lock.expiresAt < grant.expiresAt) :
    Overlaps history server := by
  by_cases own : lock.regionId = grant.regionId
  · exact expiring_overlaps present alone member fresh (uncovered own)
  · by_cases running : server.clock < lock.expiresAt
    · exact granted_overlaps recorded member running fresh own
    · have expired := Int.not_lt.mp running
      exact expiring_overlaps present alone member fresh (Int.lt_of_le_of_lt expired fresh)

end Continuations

section Disorder

variable {history observed : List Grant} {server next : Server} {index : Nat} {call : Call}

/-- The lock row stands for a grant. -/
def Recorded (history : List Grant) (lock : Option LeaderLock) : Prop :=
  ∀ held, lock = some held → ⟨held.regionId, held.expiresAt⟩ ∈ history

/-- A write records the lease it grants. -/
theorem writes_recorded {store after : Store} {granted : Bool}
    (recorded : Recorded history store.lock) (writes : Writes call store after granted) :
    Recorded (history ++ if granted then [⟨call.regionId, call.expiresAt⟩] else []) after.lock := by
  intro held present
  cases writes with
  | inserted missed absent =>
    cases present
    exact List.mem_append_right history (List.mem_singleton_self _)
  | ignored missed same found => exact List.mem_append_left _ (recorded held present)
  | acquired seen locked found acquires =>
    cases acquires with
    | first absent =>
      rw [absent] at found
      cases found
    | renewed lock found own unexpired =>
      cases present
      rw [own]
      exact List.mem_append_right history (List.mem_singleton_self _)
    | stolen lock found expired =>
      cases present
      exact List.mem_append_right history (List.mem_singleton_self _)
    | refused => exact List.mem_append_left _ (recorded held present)

/-- An orderly step keeps all leases recorded. -/
theorem step_recorded (disciplined : Disciplined history server)
    (recorded : Recorded history server.store.lock)
    (taken : takes transact Orderly server observed next) :
    Recorded (history ++ observed) next.store.lock := by
  have kept : Recorded (history ++ []) server.store.lock := by rwa [List.append_nil]
  obtain ⟨action, -, taken⟩ := taken
  cases action with
  | write index =>
    obtain ⟨call, stored, written⟩ := Option.bind_eq_some_iff.mp taken
    obtain ⟨store, granted, writes, finished⟩ :=
      write_cases (disciplined.current call (List.mem_of_getElem? stored)) written
    cases finished
    exact writes_recorded recorded writes
  | select index =>
    obtain ⟨call, stored, selected⟩ := Option.bind_eq_some_iff.mp taken
    unfold Server.select at selected
    split at selected
    · cases selected
      exact kept
    · split at selected <;> cases selected
      exact kept
    · cases selected
  | abort index =>
    obtain ⟨call, stored, aborted⟩ := Option.bind_eq_some_iff.mp taken
    unfold Server.abort at aborted
    split at aborted <;> cases aborted
    exact kept
  | call regionId leaseMs =>
    cases taken
    exact kept
  | advance elapsed =>
    cases taken
    exact kept

/-- So does an orderly run. -/
theorem run_recorded {clock : Time} {store : Store} (absent : store.lock = none)
    (run : Run (takes transact Orderly) ⟨clock, store, []⟩ history server) :
    Recorded history server.store.lock := by
  apply run.invariant (fun history server => Recorded history server.store.lock)
  · intro held present
    rw [absent] at present
    cases present
  · intro _ _ _ _ before recorded taken
    exact step_recorded (run_disciplined before) recorded taken

/-- A write that is not orderly leaves a lease that the row does not cover. -/
theorem disordered_overlaps (disciplined : Disciplined history server)
    (recorded : Recorded history server.store.lock) (stored : server.calls[index]? = some call)
    (disordered : ¬ call.ordered server.clock server.store.lock)
    (written : server.write index call = some (next, observed)) :
    Overlaps (history ++ observed) next := by
  have member := List.mem_of_getElem? stored
  obtain ⟨store, granted, writes, finished⟩ := write_cases (disciplined.current call member) written
  have alone : Parties.Apart FreeOf (server.finish index call (store, granted)).1.calls :=
    finished_alone disciplined.alone _
  rw [finished] at alone
  let grant : Grant := ⟨call.regionId, call.expiresAt⟩
  have led : grant ∈ history ++ [grant] := List.mem_append_right history (List.mem_singleton_self _)
  cases finished
  cases writes with
  | inserted missed absent =>
    rw [Call.ordered, missed, absent] at disordered
    exact absurd (fun _ held present => by cases present) disordered
  | ignored missed same present =>
    rw [Call.ordered, missed] at disordered
    obtain ⟨fresh, held, found, broken⟩ := by
      simpa only [Classical.not_imp, not_forall, exists_prop] using disordered
    obtain rfl : held = same := Option.some.inj (found.symm.trans present)
    have uncovered : held.regionId = call.regionId → held.expiresAt < call.expiresAt := by
      intro own
      exact Int.not_le.mp fun longer => broken ⟨own, longer⟩
    have before := List.mem_append_left [grant] (recorded held present)
    exact uncovered_overlaps present alone before led fresh uncovered
  | acquired seen locked present acquires =>
    rw [Call.ordered, locked] at disordered
    obtain ⟨own, fresh, shortened⟩ := by
      simpa only [Classical.not_imp, not_forall, exists_prop, not_le] using disordered
    cases acquires with
    | first absent =>
      rw [absent] at present
      cases present
    | renewed lock found _ _ =>
      obtain rfl : lock = seen := Option.some.inj (found.symm.trans present)
      have renewed : ⟨lock.regionId, call.expiresAt⟩ ∈ history ++ [grant] := own ▸ led
      have before := List.mem_append_left [grant] (recorded lock found)
      exact uncovered_overlaps rfl alone renewed before fresh (fun _ => shortened)
    | stolen lock found expired =>
      obtain rfl : lock = seen := Option.some.inj (found.symm.trans present)
      have past := Int.lt_of_lt_of_le fresh (Int.le_trans expired (disciplined.started call member))
      exact absurd past (Int.lt_irrefl server.clock)
    | refused lock found foreign unexpired =>
      obtain rfl : lock = seen := Option.some.inj (found.symm.trans present)
      exact absurd own foreign

end Disorder

/-- In every run of concurrent transactions whose writes are orderly, and from any tables,
no two regions ever hold leases that have not expired. Where there was no lock row at the
start, every write that would not be orderly leads to two regions that do. -/
theorem leader_leases_exclude {clock : Time} {store : Store} {history : List Grant}
    {server : Server} (run : Run (takes transact Orderly) ⟨clock, store, []⟩ history server) :
    LeasesExclude history server.clock ∧
      (store.lock = none → ∀ action next observed,
        transact server action = some (next, observed) → ¬ Orderly server action →
          Overlaps (history ++ observed) next) := by
  have disciplined := run_disciplined run
  constructor
  · exact covered_exclude disciplined.covered
  · intro absent action next observed taken disorderly
    have recorded := run_recorded absent run
    cases action with
    | write index =>
      obtain ⟨call, stored, written⟩ := Option.bind_eq_some_iff.mp taken
      apply disordered_overlaps disciplined recorded stored _ written
      intro ordered
      apply disorderly
      intro other found
      obtain rfl : call = other := Option.some.inj (stored.symm.trans found)
      exact ordered
    | call | select | abort | advance => exact absurd trivial disorderly

section Sample

/-- Two regions look for the row before either has inserted it. Both are told TRUE. -/
theorem both_regions_elected :
    ¬ ∀ (clock : Time) (store : Store) (history : List Grant) (server : Server),
      Run (takes transact anyAction) ⟨clock, store, []⟩ history server →
        LeasesExclude history server.clock := by
  intro exclude
  have run : Run (takes transact anyAction) ⟨0, unlocked, []⟩ _ _ :=
    run_of_schedule [.call "us-east-1" 30000, .call "eu-west-1" 30000, .select 0, .select 1,
      .write 0, .write 1] rfl
  have same := exclude _ _ _ _ run ⟨"us-east-1", 30000⟩ (.head _) ⟨"eu-west-1", 30000⟩
    (.tail _ (.head _))
  exact absurd (same (by decide) (by decide)) (by decide)

/-- The second region waits for the first, is refused, and takes the expired lease over. -/
theorem leader_leases_exclude_takeover :
    ∃ history server, Run (takes transact Orderly) ⟨0, unlocked, []⟩ history server ∧
      history.map Grant.regionId = ["us-east-1", "us-east-1", "eu-west-1"] ∧
      LeasesExclude history server.clock := by
  have run : Run (takes transact Orderly) ⟨0, unlocked, []⟩ _ _ :=
    run_of_restricted [.call "us-east-1" 30000, .select 0, .write 0, .advance 10000,
      .call "us-east-1" 30000, .select 1, .call "eu-west-1" 30000, .write 1, .select 2, .write 2,
      .advance 30000, .call "eu-west-1" 30000, .select 3, .write 3] rfl
  exact ⟨_, _, run, by decide, (leader_leases_exclude run).1⟩

end Sample

end PlanBuddy.Regions
