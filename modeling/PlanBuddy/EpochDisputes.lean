import PlanBuddy.PrimaryEpochs

/-!
# Disputed takeovers

Whatever a takeover finds that it should not, the ticks that are under way carry on to a
report that is wrong. An exposed tick reads the thief's epoch, or writes a second primary
row; an informed tick of the region that took the lease over ends with the epoch it read
before. So being undisputed is not only enough for truthful reports but needed.
-/

namespace PlanBuddy.Regions

/-- Some continuation ends with a step that reports what is not so. -/
def Misleads (history : List FleetEvent) (fleet : Fleet) : Prop :=
  ∃ later reached observed final, Run (takes operate anyAction) fleet later reached ∧
    takes operate anyAction reached observed final ∧ ¬ Truthful (history ++ later) observed final

section Continuations

variable {history : List FleetEvent} {fleet next : Fleet} {action : FleetAction} {index : Nat}
  {tick : Tick}

/-- A step that nobody observes does not lead away from a wrong report. -/
theorem silent_misleads (taken : operate fleet action = some (next, []))
    (misleads : Misleads history next) : Misleads history fleet := by
  obtain ⟨later, reached, observed, final, run, last, wrong⟩ := misleads
  have first : Run (takes operate anyAction) fleet ([] ++ []) next :=
    Run.start.step ⟨action, trivial, taken⟩
  exact ⟨_, reached, observed, final, first.trans run, last, wrong⟩

/-- A tick ends under a primary manager whose epoch is not its own. -/
theorem updated_misleads (stored : fleet.ticks[index]? = some tick)
    (answered : tick.phase = .updated)
    (primary : (fleet.managers tick.regionId).isPrimary = true)
    (differs : lastGrant tick.regionId history ≠ some (fleet.managers tick.regionId).epoch) :
    Misleads history fleet := by
  have replied : operate fleet (.reply index) =
      some (fleet.move index tick .ended, [.ended tick.regionId]) := by
    simp only [operate, stored, Option.bind_some, Fleet.reply, answered]
  refine ⟨[], fleet, _, _, .start, ⟨.reply index, trivial, replied⟩, ?_⟩
  intro truthful
  have known := truthful.epoch tick.regionId (.head _) primary
  rw [List.append_nil, lastGrant_ended] at known
  exact differs known

/-- The UPDATE of a manager that takes itself for primary under another epoch ends with a wrong
report. -/
theorem updating_misleads {role : RegionRole} {epoch : Nat}
    (stored : fleet.ticks[index]? = some tick) (sent : tick.phase = .updating role epoch)
    (primary : (fleet.managers tick.regionId).isPrimary = true)
    (differs : lastGrant tick.regionId history ≠ some (fleet.managers tick.regionId).epoch) :
    Misleads history fleet := by
  have executed : operate fleet (.execute index) =
      some ((fleet.commit { fleet.store with
        registry := report tick.regionId fleet.clock role epoch fleet.store.registry }).move index
          tick .updated, []) := by
    simp only [operate, stored, Option.bind_some, Fleet.execute, sent]
  exact silent_misleads executed
    (updated_misleads (Parties.set_moved _ stored) rfl primary differs)

/-- So does the answer with such an epoch. -/
theorem epochRead_misleads {read : Option Nat} (stored : fleet.ticks[index]? = some tick)
    (answered : tick.phase = .epochRead read)
    (primary : (fleet.managers tick.regionId).isPrimary = true)
    (differs : lastGrant tick.regionId history ≠
      some (read.getD (fleet.managers tick.regionId).epoch)) : Misleads history fleet := by
  have replied : operate fleet (.reply index) =
      some ((fleet.assign tick { fleet.managers tick.regionId with
          epoch := read.getD (fleet.managers tick.regionId).epoch }).move index tick
        (.updating (if (fleet.managers tick.regionId).isPrimary then .primary else .secondary)
          (read.getD (fleet.managers tick.regionId).epoch)), []) := by
    simp only [operate, stored, Option.bind_some, Fleet.reply, answered]
  apply silent_misleads replied
  apply updating_misleads (Parties.set_moved _ stored) rfl
  · simpa [Fleet.move, Fleet.assign] using primary
  · simpa [Fleet.move, Fleet.assign] using differs

/-- So does the SELECT that finds one. -/
theorem reading_misleads {lock : LeaderLock} (stored : fleet.ticks[index]? = some tick)
    (sent : tick.phase = .readingEpoch)
    (primary : (fleet.managers tick.regionId).isPrimary = true)
    (found : fleet.store.lock = some lock)
    (differs : lastGrant tick.regionId history ≠ some lock.epoch) : Misleads history fleet := by
  have executed : operate fleet (.execute index) =
      some (fleet.move index tick (.epochRead (some lock.epoch)), []) := by
    simp only [operate, stored, Option.bind_some, Fleet.execute, sent, found, Option.map_some]
  exact silent_misleads executed
    (epochRead_misleads (Parties.set_moved _ stored) rfl primary differs)

/-- So does the answer to a call whose lock has another epoch. -/
theorem acquired_misleads {lock : LeaderLock} (stored : fleet.ticks[index]? = some tick)
    (answered : tick.phase = .acquired true) (found : fleet.store.lock = some lock)
    (differs : lastGrant tick.regionId history ≠ some lock.epoch) : Misleads history fleet := by
  have replied : operate fleet (.reply index) =
      some ((fleet.assign tick { fleet.managers tick.regionId with isPrimary := true }).move index
        tick .readingEpoch, []) := by
    simp only [operate, stored, Option.bind_some, Fleet.reply, answered]
  apply silent_misleads replied
  apply reading_misleads (Parties.set_moved _ stored) rfl
  · simp [Fleet.move, Fleet.assign]
  · exact found
  · exact differs

end Continuations

section Registry

variable {regionId : RegionId} {now : Time} {registry : Registry} {epoch : Nat}

/-- An UPSERT leaves a row of its region. -/
theorem register_present : ∃ row ∈ (register regionId now registry).rows, row.regionId = regionId := by
  unfold register
  split
  · next present =>
    obtain ⟨old, found⟩ := Option.isSome_iff_exists.mp present
    have own : old.regionId = regionId := Table.lookup_key found
    exact ⟨_, Table.mem_update.mpr ⟨old, Table.lookup_mem found, if_pos (decide_eq_true own)⟩, own⟩
  · have found := Table.lookup_insert registry ⟨regionId, .secondary, 1, now⟩ regionId
    rw [if_pos rfl] at found
    exact ⟨_, Table.lookup_mem found, Table.lookup_key found⟩

/-- A promoted region has a primary row. -/
theorem promote_present :
    ∃ row ∈ (promote regionId epoch now registry).rows, row.regionId = regionId ∧
      row.role = .primary := by
  unfold promote
  split
  · next present =>
    obtain ⟨old, found⟩ := Option.isSome_iff_exists.mp present
    have own : old.regionId = regionId := Table.lookup_key found
    exact ⟨_, Table.mem_update.mpr ⟨old, Table.lookup_mem found, if_pos (decide_eq_true own)⟩, own,
      rfl⟩
  · next absent =>
    have found := Table.lookup_insert registry ⟨regionId, .primary, epoch, now⟩ regionId
    rw [if_pos rfl, Option.not_isSome_iff_eq_none.mp absent, Option.getD_none] at found
    exact ⟨_, Table.lookup_mem found, rfl, rfl⟩

/-- The rows of the other regions stay as they are. -/
theorem register_other {row : RegistryRow} (stored : row ∈ registry.rows)
    (foreign : row.regionId ≠ regionId) : row ∈ (register regionId now registry).rows := by
  unfold register
  split
  · exact Table.mem_update.mpr ⟨row, stored, if_neg (by simpa using foreign)⟩
  · have kept := Table.lookup_insert registry ⟨regionId, .secondary, 1, now⟩ row.regionId
    rw [if_neg foreign.symm, Table.mem_lookup stored] at kept
    exact Table.lookup_mem kept

/-- A report rewrites the region's own row. -/
theorem report_present {role : RegionRole} {row : RegistryRow} (stored : row ∈ registry.rows)
    (own : row.regionId = regionId) :
    { row with role, epoch, lastHeartbeat := now } ∈
      (report regionId now role epoch registry).rows := by
  unfold report
  exact Table.mem_update.mpr ⟨row, stored, if_pos (decide_eq_true own)⟩

/-- It leaves the others. -/
theorem report_other {role : RegionRole} {row : RegistryRow} (stored : row ∈ registry.rows)
    (foreign : row.regionId ≠ regionId) :
    row ∈ (report regionId now role epoch registry).rows := by
  unfold report
  exact Table.mem_update.mpr ⟨row, stored, if_neg (by simpa using foreign)⟩

end Registry

section Rows

variable {history : List FleetEvent} {fleet : Fleet} {index : Nat} {tick : Tick} {row : RegistryRow}

/-- A tick that reports itself primary beside a primary row of another region. -/
theorem updating_disputes {epoch : Nat} (stored : fleet.ticks[index]? = some tick)
    (sent : tick.phase = .updating .primary epoch) (present : row ∈ fleet.store.registry.rows)
    (foreign : row.regionId ≠ tick.regionId) (primary : row.role = .primary) :
    Misleads history fleet := by
  have registered : operate fleet (.register tick.regionId) =
      some (fleet.commit { fleet.store with
        registry := register tick.regionId fleet.clock fleet.store.registry }, []) := rfl
  apply silent_misleads registered
  have executed : operate (fleet.commit { fleet.store with
        registry := register tick.regionId fleet.clock fleet.store.registry }) (.execute index) =
      some (((fleet.commit { fleet.store with
        registry := register tick.regionId fleet.clock fleet.store.registry }).commit
          { fleet.store with
            registry := report tick.regionId fleet.clock .primary epoch
              (register tick.regionId fleet.clock fleet.store.registry) }).move index tick .updated,
        []) := by
    simp only [operate, Fleet.commit, stored, Option.bind_some, Fleet.execute, sent]
  refine ⟨[], _, _, _, .start, ⟨.execute index, trivial, executed⟩, ?_⟩
  intro truthful
  obtain ⟨own, ownPresent, region⟩ : ∃ own ∈ (register tick.regionId fleet.clock
      fleet.store.registry).rows, own.regionId = tick.regionId := register_present
  have same := truthful.registry _ (report_present ownPresent region) row
    (report_other (register_other present foreign) foreign) rfl primary
  exact foreign (same ▸ region)

/-- So does an answer to a primary manager while the row of another region is primary. -/
theorem epochRead_disputes {read : Option Nat} (stored : fleet.ticks[index]? = some tick)
    (answered : tick.phase = .epochRead read)
    (exposed : (fleet.managers tick.regionId).isPrimary = true)
    (present : row ∈ fleet.store.registry.rows) (foreign : row.regionId ≠ tick.regionId)
    (primary : row.role = .primary) : Misleads history fleet := by
  have replied : operate fleet (.reply index) =
      some ((fleet.assign tick { fleet.managers tick.regionId with
          epoch := read.getD (fleet.managers tick.regionId).epoch }).move index tick
        (.updating .primary (read.getD (fleet.managers tick.regionId).epoch)), []) := by
    simp only [operate, stored, Option.bind_some, Fleet.reply, answered, exposed, if_true]
  exact silent_misleads replied
    (updating_disputes (Parties.set_moved _ stored) rfl present foreign primary)

end Rows

section Bounds

/-- The epoch of the lock row, zero before the first acquisition. -/
def Store.epoch (store : Store) : Nat := store.lock.elim 0 LeaderLock.epoch

/-- Nobody has read an epoch that was not yet granted. -/
structure Bounded (fleet : Fleet) : Prop where
  managers : ∀ regionId, (fleet.managers regionId).epoch ≤ fleet.store.epoch
  read : ∀ tick ∈ fleet.ticks, ∀ epoch, tick.phase = .epochRead (some epoch) →
    epoch ≤ fleet.store.epoch

variable {fleet : Fleet} {index : Nat} {tick : Tick}

/-- Epochs only grow. -/
theorem acquires_grows {store : Store} {verdict : Bool}
    (acquires : Acquires tick.regionId leaderLeaseMs fleet.clock fleet.store store verdict) :
    fleet.store.epoch ≤ store.epoch := by
  cases acquires with
  | first absent =>
    rw [Store.epoch, absent]
    exact Nat.zero_le _
  | renewed lock found own unexpired =>
    rw [Store.epoch, found]
    exact Nat.le_refl _
  | stolen lock found expired =>
    rw [Store.epoch, found]
    exact Nat.le_succ _
  | refused => exact Nat.le_refl _

/-- The epoch of the lock row does not fall. -/
theorem committed_bounded {store : Store} (bounded : Bounded fleet)
    (grows : fleet.store.epoch ≤ store.epoch) : Bounded (fleet.commit store) := by
  constructor
  · intro regionId
    exact Nat.le_trans (bounded.managers regionId) grows
  · intro other member epoch was
    exact Nat.le_trans (bounded.read other member epoch was) grows

/-- A tick that goes on has read no epoch beyond the lock's. -/
theorem moved_bounded {phase : TickPhase} (bounded : Bounded fleet)
    (read : ∀ epoch, phase = .epochRead (some epoch) → epoch ≤ fleet.store.epoch) :
    Bounded (fleet.move index tick phase) := by
  refine ⟨bounded.managers, ?_⟩
  intro other member epoch was
  rcases List.mem_or_eq_of_mem_set member with old | rfl
  · exact bounded.read other old epoch was
  · exact read epoch was

/-- A manager stores none beyond it. -/
theorem assigned_bounded {manager : Manager} (bounded : Bounded fleet)
    (epoch : manager.epoch ≤ fleet.store.epoch) : Bounded (fleet.assign tick manager) := by
  refine ⟨?_, bounded.read⟩
  intro regionId
  simp only [Fleet.assign]
  split
  · exact epoch
  · exact bounded.managers regionId

/-- What an answer leaves in `_epoch`. -/
theorem answered_bounded {read : Option Nat} (bounded : Bounded fleet)
    (member : tick ∈ fleet.ticks) (answered : tick.phase = .epochRead read) :
    read.getD (fleet.managers tick.regionId).epoch ≤ fleet.store.epoch := by
  cases read with
  | none => exact bounded.managers tick.regionId
  | some epoch => exact bounded.read tick member epoch answered

/-- A step keeps all epochs within the lock's. -/
theorem step_bounded {next : Fleet} {observed : List FleetEvent} {action : FleetAction}
    (bounded : Bounded fleet) (taken : operate fleet action = some (next, observed)) :
    Bounded next := by
  cases action with
  | tick regionId =>
    cases taken
    refine ⟨bounded.managers, ?_⟩
    intro other member epoch was
    rcases List.mem_append.mp member with old | new
    · exact bounded.read other old epoch was
    · rw [List.mem_singleton.mp new] at was
      cases was
  | execute index =>
    obtain ⟨tick, stored, executed⟩ := Option.bind_eq_some_iff.mp taken
    cases execute_cases executed with
    | acquire sent acquires =>
      apply moved_bounded
      · exact committed_bounded bounded (acquires_grows acquires)
      · intro epoch was
        cases was
    | read sent =>
      apply moved_bounded bounded
      intro epoch was
      obtain ⟨lock, found, rfl⟩ := Option.map_eq_some_iff.mp (TickPhase.epochRead.inj was)
      rw [Store.epoch, found]
      exact Nat.le_refl _
    | update role epoch sent =>
      apply moved_bounded
      · exact committed_bounded bounded (Nat.le_refl _)
      · intro epoch was
        cases was
  | reply index =>
    obtain ⟨tick, stored, replied⟩ := Option.bind_eq_some_iff.mp taken
    cases reply_cases replied with
    | acquired verdict answered =>
      apply moved_bounded
      · exact assigned_bounded bounded (bounded.managers tick.regionId)
      · intro epoch was
        cases was
    | epochRead read answered =>
      have member := List.mem_of_getElem? stored
      apply moved_bounded
      · exact assigned_bounded bounded (answered_bounded bounded member answered)
      · intro epoch was
        cases was
    | updated answered =>
      apply moved_bounded bounded
      intro epoch was
      cases was
  | fail index =>
    obtain ⟨tick, stored, failed⟩ := Option.bind_eq_some_iff.mp taken
    obtain ⟨rfl, -⟩ := fail_cases failed
    apply moved_bounded bounded
    intro epoch was
    cases was
  | _ =>
    cases taken
    exact ⟨bounded.managers, bounded.read⟩

end Bounds

section Disputes

variable {history : List FleetEvent} {fleet : Fleet} {index position : Nat} {tick other : Tick}
  {lock : LeaderLock}

/-- An exposed tick of the region that lost the lease misreports it. -/
theorem exposed_misleads (informed : Informed history fleet)
    (stored : fleet.ticks[index]? = some tick) (found : fleet.store.lock = some lock)
    (waiting : fleet.ticks[position]? = some other) (loser : other.regionId = lock.regionId)
    (foreign : lock.regionId ≠ tick.regionId)
    (exposed : other.exposed (fleet.managers other.regionId) = true) :
    Misleads (history ++ [.granted ⟨tick.regionId, lock.epoch + 1⟩])
      (fleet.steal index tick lock) := by
  have different : other ≠ tick := by
    rintro rfl
    exact foreign loser.symm
  have remains : (fleet.steal index tick lock).ticks[position]? = some other :=
    Parties.set_other _ stored waiting different
  have thief : tick.regionId ≠ other.regionId := fun same => foreign (loser.symm.trans same.symm)
  have differs : lastGrant other.regionId (history ++ [.granted ⟨tick.regionId, lock.epoch + 1⟩]) ≠
      some (lock.epoch + 1) := by
    have current := informed.current lock found
    rw [lastGrant_other history thief, loser, current]
    simp
  obtain ⟨row, present, region, primary⟩ : ∃ row ∈ (fleet.steal index tick
      lock).store.registry.rows, row.regionId = tick.regionId ∧ row.role = .primary :=
    promote_present
  have beside : row.regionId ≠ other.regionId := region ▸ thief
  unfold Tick.exposed at exposed
  split at exposed
  · next verdict answered =>
    exact acquired_misleads remains (exposed ▸ answered) rfl differs
  · next sent => exact reading_misleads remains sent exposed rfl differs
  · next read answered => exact epochRead_disputes remains answered exposed present beside primary
  · next role epoch sent =>
    rw [of_decide_eq_true exposed] at sent
    exact updating_disputes remains sent present beside primary
  · cases exposed

/-- An informed tick of the region that took the lease ends under the epoch it read before. -/
theorem informed_misleads (bounded : Bounded fleet) (stored : fleet.ticks[index]? = some tick)
    (sent : tick.phase = .acquiring) (found : fleet.store.lock = some lock)
    (waiting : fleet.ticks[position]? = some other) (own : other.regionId = tick.regionId)
    (read : other.informed = true) :
    Misleads (history ++ [.granted ⟨tick.regionId, lock.epoch + 1⟩])
      (fleet.steal index tick lock) := by
  have silent : tick.informed = false := by simp [Tick.informed, Tick.reports, sent]
  have different : other ≠ tick := by
    rintro rfl
    rw [silent] at read
    cases read
  -- The TRUE arrives first, so the manager is primary when the other tick goes on.
  let granted : Tick := { tick with phase := .acquired true }
  have moved : (fleet.steal index tick lock).ticks[index]? = some granted :=
    Parties.set_moved granted stored
  have remains : (fleet.steal index tick lock).ticks[position]? = some other :=
    Parties.set_other granted stored waiting different
  have replied : operate (fleet.steal index tick lock) (.reply index) =
      some (((fleet.steal index tick lock).assign granted
        { fleet.managers tick.regionId with isPrimary := true }).move index granted .readingEpoch,
        []) := by
    simp only [operate, moved, Option.bind_some, Fleet.reply, granted]
    rfl
  apply silent_misleads replied
  have still := Parties.set_other { granted with phase := .readingEpoch } moved remains (by
    rintro rfl
    cases read)
  have manager : (((fleet.steal index tick lock).assign granted { fleet.managers tick.regionId with
      isPrimary := true }).move index granted .readingEpoch).managers other.regionId =
        { fleet.managers other.regionId with isPrimary := true } :=
    (assign_own own _).trans (own ▸ rfl)
  have epoch : fleet.store.epoch = lock.epoch := by
    rw [Store.epoch, found]
    rfl
  have behind : ∀ known, known ≤ fleet.store.epoch →
      lastGrant other.regionId (history ++ [.granted ⟨tick.regionId, lock.epoch + 1⟩]) ≠
        some known := by
    intro known bound
    rw [own, lastGrant_own history, epoch] at *
    simp only [ne_eq, Option.some.injEq]
    omega
  unfold Tick.informed at read
  split at read
  · next reading answered =>
    apply epochRead_misleads still answered
    · rw [manager]
    · rw [manager]
      exact behind _ (answered_bounded bounded (List.mem_of_getElem? waiting) answered)
  · unfold Tick.reports at read
    split at read
    · next role reported updating =>
      apply updating_misleads still updating
      · rw [manager]
      · rw [manager]
        exact behind _ (bounded.managers other.regionId)
    · next updated =>
      apply updated_misleads still updated
      · rw [manager]
      · rw [manager]
        exact behind _ (bounded.managers other.regionId)
    · cases read

/-- A disputed takeover can be continued to a wrong report. -/
theorem disputed_misleads {next : Fleet} {observed : List FleetEvent} {action : FleetAction}
    (informed : Informed history fleet) (bounded : Bounded fleet)
    (taken : operate fleet action = some (next, observed)) (disputed : ¬ Undisputed fleet action) :
    Misleads (history ++ observed) next := by
  cases action with
  | execute index =>
    simp only [Undisputed, Tick.undisputed, not_forall, exists_prop] at disputed
    obtain ⟨tick, stored, sent, lock, found, expired, disputed⟩ := disputed
    obtain ⟨same, storedSame, executed⟩ := Option.bind_eq_some_iff.mp taken
    obtain rfl : tick = same := Option.some.inj (Eq.trans stored.symm storedSame)
    obtain ⟨rfl, rfl⟩ := expired_stolen sent found expired executed
    rcases not_and_or.mp disputed with overtaken | exposed
    · simp only [not_forall, Bool.not_eq_false] at overtaken
      obtain ⟨other, member, own, read⟩ := overtaken
      obtain ⟨position, waiting⟩ := List.mem_iff_getElem?.mp member
      exact informed_misleads bounded stored sent found waiting own read
    · simp only [not_forall, Bool.not_eq_false] at exposed
      obtain ⟨foreign, other, member, loser, exposed⟩ := exposed
      obtain ⟨position, waiting⟩ := List.mem_iff_getElem?.mp member
      exact exposed_misleads informed stored found waiting loser foreign exposed
  | _ => exact absurd trivial disputed

end Disputes

/-- In every run whose takeovers are undisputed, whatever statements fail, each step reports
the truth: when a tick has reached its end and its manager is primary, the manager's epoch
is that of the region's own most recent grant, and the registry never has two primary rows.
After any other takeover some continuation ends with a wrong report. -/
theorem primary_knows_epoch {clock : Time} {registry : Registry}
    (secondary : ∀ row ∈ registry.rows, row.role ≠ .primary) {history : List FleetEvent}
    {fleet : Fleet}
    (run : Run (takes operate Undisputed) ⟨clock, ⟨none, registry⟩, fun _ => .new, []⟩ history
      fleet) :
    (∀ observed next, takes operate Undisputed fleet observed next →
      Truthful history observed next) ∧
    (∀ action observed next, operate fleet action = some (next, observed) →
      ¬ Undisputed fleet action → Misleads (history ++ observed) next) := by
  have informed : Informed history fleet :=
    run.invariant Informed (start_informed secondary)
      (fun _ informed taken => step_informed informed taken)
  have unread : Bounded ⟨clock, ⟨none, registry⟩, fun _ => .new, []⟩ :=
    ⟨fun _ => Nat.le_refl 0, fun tick member => by cases member⟩
  have bounded : Bounded fleet :=
    run.invariant (fun _ fleet => Bounded fleet) unread
      (fun _ bounded ⟨_, _, taken⟩ => step_bounded bounded taken)
  constructor
  · intro observed next taken
    exact step_truthful informed taken
  · intro action observed next taken disputed
    exact disputed_misleads informed bounded taken disputed

section Sample

/-- The lease of a region expires between its grant and its SELECT: the region stores the
epoch of the one that took the lease over and reports itself primary beside it. -/
theorem overtaken_primary_misinformed :
    ¬ ∀ (clock : Time) (registry : Registry), (∀ row ∈ registry.rows, row.role ≠ .primary) →
      ∀ (history observed : List FleetEvent) (fleet next : Fleet),
        Run (takes operate anyAction) ⟨clock, ⟨none, registry⟩, fun _ => .new, []⟩ history fleet →
        takes operate anyAction fleet observed next → Truthful history observed next := by
  intro truthful
  have run : Run (takes operate anyAction) ⟨0, unlocked, fun _ => .new, []⟩ _ _ :=
    run_of_schedule [.register "us-east-1", .tick "us-east-1", .execute 0, .reply 0,
      .advance 30000, .register "eu-west-1", .tick "eu-west-1", .execute 1, .execute 0, .reply 0,
      .execute 0] rfl
  have misled := (truthful 0 .empty (by simp [Table.empty]) _ _ _ _ run
    ⟨.reply 0, trivial, rfl⟩).epoch "us-east-1" (.head _) rfl
  exact absurd misled (by decide)

/-- The lease of a region expires after its tick. The region that takes it over ends its own
tick under the next epoch. -/
theorem primary_knows_epoch_takeover :
    ∃ history observed fleet next,
      Run (takes operate Undisputed) ⟨0, unlocked, fun _ => .new, []⟩ history fleet ∧
      takes operate Undisputed fleet observed next ∧
      lastGrant "eu-west-1" (history ++ observed) = some (next.managers "eu-west-1").epoch ∧
      (next.managers "eu-west-1").epoch = 2 := by
  have run : Run (takes operate Undisputed) ⟨0, unlocked, fun _ => .new, []⟩ _ _ :=
    run_of_restricted [.register "us-east-1", .tick "us-east-1", .execute 0, .reply 0, .execute 0,
      .reply 0, .execute 0, .reply 0, .advance 30000, .register "eu-west-1", .tick "eu-west-1",
      .execute 1, .reply 1, .execute 1, .reply 1, .execute 1] rfl
  have truthful := (primary_knows_epoch (by simp [Table.empty]) run).1 _ _
    ⟨.reply 1, trivial, rfl⟩
  exact ⟨_, _, _, _, run, ⟨.reply 1, trivial, rfl⟩, truthful.epoch "eu-west-1" (.head _) rfl, rfl⟩

end Sample

end PlanBuddy.Regions
