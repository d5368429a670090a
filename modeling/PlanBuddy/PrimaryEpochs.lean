import PlanBuddy.RegionManagers

/-!
# The epoch of a primary

A tick that was granted the lease reads the epoch in a second statement and writes it,
with its role, to the registry in a third. Neither looks at whose lease it is. When the
lease expires and is taken over in between, the region stores the thief's epoch and
reports itself primary beside it; a region that takes its own lease over again overtakes
in the same way the ticks that have already read.

A tick is exposed when it may still lead to such a report, and informed once it has read.
In runs whose takeovers find neither, each point of a tick determines what its manager
knows, and the registry's only primary row is the lock row's region's.
-/

namespace PlanBuddy.Regions

open Tokens (Token)

/-- The epochs granted to the region, oldest first. -/
def grantsTo (regionId : RegionId) (history : List FleetEvent) : List Nat :=
  history.filterMap fun
    | .granted token => if token.owner = regionId then some token.number else none
    | .ended _ => none

/-- The epoch of the region's own most recent grant. -/
def lastGrant (regionId : RegionId) (history : List FleetEvent) : Option Nat :=
  (grantsTo regionId history).getLast?

/-- After a step: a manager that is primary when one of its ticks has reached its end has the
epoch of its own most recent grant, and the registry has at most one primary row. -/
structure Truthful (history observed : List FleetEvent) (next : Fleet) : Prop where
  epoch : ∀ regionId, .ended regionId ∈ observed → (next.managers regionId).isPrimary = true →
    lastGrant regionId (history ++ observed) = some (next.managers regionId).epoch
  registry : ∀ one ∈ next.store.registry.rows, ∀ other ∈ next.store.registry.rows,
    one.role = .primary → other.role = .primary → one = other

/-- The tick has been granted the lease and may still report itself primary. -/
def Tick.exposed (tick : Tick) (manager : Manager) : Bool :=
  match tick.phase with
  | .acquired verdict => verdict
  | .readingEpoch => manager.isPrimary
  | .epochRead _ => manager.isPrimary
  | .updating role _ => decide (role = .primary)
  | _ => false

/-- The manager has taken the epoch that the tick has read. -/
def Tick.reports (tick : Tick) : Bool :=
  match tick.phase with
  | .updating _ _ => true
  | .updated => true
  | _ => false

/-- The tick has read an epoch and not ended. -/
def Tick.informed (tick : Tick) : Bool :=
  match tick.phase with
  | .epochRead _ => true
  | _ => tick.reports

/-- An expired lease is taken over while no tick of the region that takes it is informed,
and no tick of another region that loses it is exposed. -/
def Tick.undisputed (tick : Tick) (fleet : Fleet) : Prop :=
  ∀ lock ∈ fleet.store.lock, lock.expiresAt ≤ fleet.clock →
    (∀ other ∈ fleet.ticks, other.regionId = tick.regionId → other.informed = false) ∧
    (lock.regionId ≠ tick.regionId → ∀ other ∈ fleet.ticks, other.regionId = lock.regionId →
      other.exposed (fleet.managers other.regionId) = false)

def Undisputed (fleet : Fleet) : FleetAction → Prop
  | .execute index =>
    ∀ tick ∈ fleet.ticks[index]?, tick.phase = .acquiring → tick.undisputed fleet
  | _ => True

instance (tick : Tick) (fleet : Fleet) : Decidable (tick.undisputed fleet) := by
  unfold Tick.undisputed
  infer_instance

instance (fleet : Fleet) : (action : FleetAction) → Decidable (Undisputed fleet action)
  | .execute index => inferInstanceAs (Decidable (∀ tick ∈ fleet.ticks[index]?, _ → _))
  | .tick _ | .reply _ | .fail _ | .register _ | .drain _ | .advance _ =>
    inferInstanceAs (Decidable True)

section Grants

variable {regionId : RegionId} (history : List FleetEvent)

/-- The last grant of a region after one to itself. -/
theorem lastGrant_own (epoch : Nat) :
    lastGrant regionId (history ++ [.granted ⟨regionId, epoch⟩]) = some epoch := by
  simp [lastGrant, grantsTo]

/-- A grant to another one does not count. -/
theorem lastGrant_other {token : Token RegionId} (different : token.owner ≠ regionId) :
    lastGrant regionId (history ++ [.granted token]) = lastGrant regionId history := by
  simp [lastGrant, grantsTo, different]

/-- Nor does the end of a tick. -/
theorem lastGrant_ended (ended : RegionId) :
    lastGrant regionId (history ++ [.ended ended]) = lastGrant regionId history := by
  simp [lastGrant, grantsTo]

end Grants

/-- What a tick and its manager know at each of the tick's phases. -/
structure Sound (history : List FleetEvent) (store : Store) (manager : Manager) (tick : Tick) :
    Prop where
  holds : tick.exposed manager = true → store.heldBy tick.regionId
  led : store.lock = none → tick.phase = .acquiring ∨ tick.phase = .ended
  read : ∀ epoch, tick.phase = .epochRead epoch → ∀ lock, store.lock = some lock →
    lock.regionId = tick.regionId → epoch = some lock.epoch
  known : tick.reports = true → ∀ lock, store.lock = some lock →
    lock.regionId = tick.regionId → manager.epoch = lock.epoch
  granted : tick.reports = true → manager.isPrimary = true →
    lastGrant tick.regionId history = some manager.epoch

/-- What every state of an undisputed run satisfies. -/
structure Informed (history : List FleetEvent) (fleet : Fleet) : Prop where
  ticks : ∀ tick ∈ fleet.ticks, Sound history fleet.store (fleet.managers tick.regionId) tick
  current : ∀ lock, fleet.store.lock = some lock →
    lastGrant lock.regionId history = some lock.epoch
  registry : ∀ row ∈ fleet.store.registry.rows, row.role = .primary →
    fleet.store.heldBy row.regionId

section Knowledge

variable {history : List FleetEvent} {store : Store} {manager : Manager} {tick : Tick}

/-- A tick that reports is informed. -/
theorem reports_informed (reports : tick.reports = true) : tick.informed = true := by
  unfold Tick.informed
  split
  · rfl
  · exact reports

/-- A tick that has not been answered, or has ended, knows nothing. -/
theorem idle_sound (idle : tick.phase = .acquiring ∨ tick.phase = .ended) :
    Sound history store manager tick := by
  have hidden : tick.exposed manager = false := by
    rcases idle with phase | phase <;> simp [Tick.exposed, phase]
  have silent : tick.reports = false := by
    rcases idle with phase | phase <;> simp [Tick.reports, phase]
  constructor
  · intro exposed
    rw [hidden] at exposed
    cases exposed
  · intro _
    exact idle
  · intro epoch was
    rcases idle with phase | phase <;> rw [phase] at was <;> cases was
  · intro reports
    rw [silent] at reports
    cases reports
  · intro reports
    rw [silent] at reports
    cases reports

/-- A tick does not notice what leaves the lock row and its region's grants alone. -/
theorem sound_unchanged {later : List FleetEvent} {after : Store}
    (sound : Sound history store manager tick) (lock : after.lock = store.lock)
    (last : lastGrant tick.regionId later = lastGrant tick.regionId history) :
    Sound later after manager tick := by
  constructor
  · intro exposed
    obtain ⟨held, present, region⟩ := sound.holds exposed
    exact ⟨held, lock.trans present, region⟩
  · intro absent
    exact sound.led (lock.symm.trans absent)
  · intro epoch was held present
    exact sound.read epoch was held (lock.symm.trans present)
  · intro reports held present
    exact sound.known reports held (lock.symm.trans present)
  · intro reports primary
    exact last.trans (sound.granted reports primary)

/-- A tick does not notice a renewal, except that the epoch it knows is granted again. -/
theorem renewed_sound {lock held : LeaderLock} {after : Store}
    (sound : Sound history store manager tick) (found : store.lock = some lock)
    (renewed : after.lock = some held) (region : held.regionId = lock.regionId)
    (epoch : held.epoch = lock.epoch) :
    Sound (history ++ [.granted ⟨held.regionId, held.epoch⟩]) after manager tick := by
  have known : tick.reports = true → lock.regionId = tick.regionId → manager.epoch = lock.epoch :=
    fun reports => sound.known reports lock found
  constructor
  · intro exposed
    exact ⟨held, renewed, region.trans (held_unique ⟨lock, found, rfl⟩ (sound.holds exposed))⟩
  · intro absent
    rw [renewed] at absent
    cases absent
  · intro read was current present own
    obtain rfl : held = current := Option.some.inj (renewed.symm.trans present)
    rw [epoch]
    exact sound.read read was lock found (region.symm.trans own)
  · intro reports current present own
    obtain rfl : held = current := Option.some.inj (renewed.symm.trans present)
    rw [epoch]
    exact known reports (region.symm.trans own)
  · intro reports primary
    by_cases own : held.regionId = tick.regionId
    · rw [own, epoch, known reports (region.symm.trans own)]
      exact lastGrant_own history lock.epoch
    · rw [lastGrant_other history own]
      exact sound.granted reports primary

/-- Nor does it notice that the lease is taken over, if it has read nothing of a region that
takes the lease and is not exposed in one that loses it. -/
theorem stolen_sound {lock held : LeaderLock} {after : Store}
    (sound : Sound history store manager tick) (found : store.lock = some lock)
    (unexposed : lock.regionId ≠ held.regionId → tick.exposed manager = true →
      lock.regionId ≠ tick.regionId)
    (behind : tick.informed = true → held.regionId ≠ tick.regionId)
    (stolen : after.lock = some held) {token : Token RegionId}
    (granted : token.owner = held.regionId) :
    Sound (history ++ [.granted token]) after manager tick := by
  constructor
  · intro exposed
    have holder : lock.regionId = tick.regionId :=
      held_unique ⟨lock, found, rfl⟩ (sound.holds exposed)
    by_cases same : lock.regionId = held.regionId
    · exact ⟨held, stolen, same.symm.trans holder⟩
    · exact absurd holder (unexposed same exposed)
  · intro absent
    rw [stolen] at absent
    cases absent
  · intro read was current present own
    obtain rfl : held = current := Option.some.inj (stolen.symm.trans present)
    exact absurd own (behind (by rw [Tick.informed, was]))
  · intro reports current present own
    obtain rfl : held = current := Option.some.inj (stolen.symm.trans present)
    exact absurd own (behind (reports_informed reports))
  · intro reports primary
    have foreign : token.owner ≠ tick.regionId := granted.symm ▸ behind (reports_informed reports)
    rw [lastGrant_other history foreign]
    exact sound.granted reports primary

/-- Whether a tick is exposed depends on its manager's flag at most. -/
theorem exposed_flag (exposed : tick.exposed manager = true) (other : Manager) :
    manager.isPrimary = true ∨ tick.exposed other = true := by
  unfold Tick.exposed at exposed ⊢
  split <;> simp_all

/-- A tick that has been answered and has not read an epoch. -/
theorem unread_sound (unread : tick.informed = false) (led : store.lock ≠ none)
    (holds : tick.exposed manager = true → store.heldBy tick.regionId) :
    Sound history store manager tick := by
  have silent : tick.reports = false := by
    by_contra reports
    rw [reports_informed (Bool.of_not_eq_false reports)] at unread
    cases unread
  refine ⟨holds, fun absent => absurd absent led, ?_, ?_, ?_⟩
  · intro epoch was
    rw [Tick.informed, was] at unread
    cases unread
  · intro reports
    rw [silent] at reports
    cases reports
  · intro reports
    rw [silent] at reports
    cases reports

/-- A tick that has been answered finds a lock row. -/
theorem sound_led (sound : Sound history store manager tick) (answered : tick.phase ≠ .acquiring)
    (unended : tick.phase ≠ .ended) : store.lock ≠ none := by
  intro absent
  rcases sound.led absent with waiting | ended
  · exact answered waiting
  · exact unended ended

end Knowledge

section Registry

variable {regionId holder : RegionId} {now : Time} {registry : Registry} {epoch : Nat}

/-- After a steal the region that took the lease over has the only primary row. -/
theorem promote_primary
    (lawful : ∀ row ∈ registry.rows, row.role = .primary → holder = row.regionId) :
    ∀ row ∈ (promote regionId epoch now (demote holder registry)).rows, row.role = .primary →
      regionId = row.regionId := by
  have demoted : ∀ row ∈ (demote holder registry).rows, row.role = .primary →
      regionId = row.regionId := by
    intro row member primary
    obtain ⟨old, stored, rfl⟩ := Table.mem_update.mp member
    split at primary
    · cases primary
    · next other => exact absurd (decide_eq_true (lawful old stored primary).symm) other
  unfold promote
  split
  · apply Table.forall_update demoted
    intro row _ matched _ _
    exact (of_decide_eq_true matched).symm
  · exact Table.forall_insert demoted (fun _ _ => rfl)

variable {leader : RegionId → Prop}

/-- A registration makes no primary row. -/
theorem register_primary (lawful : ∀ row ∈ registry.rows, row.role = .primary → leader row.regionId) :
    ∀ row ∈ (register regionId now registry).rows, row.role = .primary → leader row.regionId := by
  unfold register
  split
  · apply Table.forall_update lawful
    intro row _ _ law primary
    apply law
    by_cases draining : row.role = .draining
    · simp [draining] at primary
    · simpa [draining] using primary
  · apply Table.forall_insert lawful
    intro _ primary
    cases primary

/-- Nor does the UPDATE of `stop`. -/
theorem drain_primary (lawful : ∀ row ∈ registry.rows, row.role = .primary → leader row.regionId) :
    ∀ row ∈ (drain regionId now registry).rows, row.role = .primary → leader row.regionId := by
  apply Table.forall_update lawful
  intro row _ _ _ primary
  cases primary

/-- A report makes one for a leader only. -/
theorem report_primary {role : RegionRole}
    (lawful : ∀ row ∈ registry.rows, row.role = .primary → leader row.regionId)
    (own : role = .primary → leader regionId) :
    ∀ row ∈ (report regionId now role epoch registry).rows, row.role = .primary →
      leader row.regionId := by
  apply Table.forall_update lawful
  intro row _ matched _ primary
  rw [of_decide_eq_true matched]
  exact own primary

end Registry

section Steps

variable {history observed : List FleetEvent} {fleet : Fleet} {index : Nat} {tick : Tick}

/-- A step that nobody observes grants nothing. -/
theorem lastGrant_silent (history : List FleetEvent) (regionId : RegionId) :
    lastGrant regionId (history ++ []) = lastGrant regionId history := by
  rw [List.append_nil]

/-- A tick moves on, and nothing is granted. -/
theorem moved_informed {phase : TickPhase} (informed : Informed history fleet)
    (silent : ∀ regionId, lastGrant regionId (history ++ observed) = lastGrant regionId history)
    (sound : Sound history fleet.store (fleet.managers tick.regionId) { tick with phase }) :
    Informed (history ++ observed) (fleet.move index tick phase) := by
  constructor
  · intro other member
    rcases List.mem_or_eq_of_mem_set member with old | rfl
    · exact sound_unchanged (informed.ticks other old) rfl (silent _)
    · exact sound_unchanged sound rfl (silent _)
  · intro lock present
    exact (silent _).trans (informed.current lock present)
  · exact informed.registry

/-- A tick begins. -/
theorem began_informed (informed : Informed history fleet) (regionId : RegionId) :
    Informed history { fleet with ticks := fleet.ticks ++ [⟨regionId, .acquiring⟩] } := by
  have begun : Sound history fleet.store (fleet.managers regionId) ⟨regionId, .acquiring⟩ :=
    idle_sound (Or.inl rfl)
  exact ⟨forall_mem_snoc informed.ticks begun, informed.current, informed.registry⟩

/-- The registry is rewritten without a foreign primary row. -/
theorem registered_informed {registry : Registry} (informed : Informed history fleet)
    (lawful : ∀ row ∈ registry.rows, row.role = .primary → fleet.store.heldBy row.regionId) :
    Informed history (fleet.commit { fleet.store with registry }) := by
  refine ⟨?_, informed.current, lawful⟩
  intro other member
  exact sound_unchanged (informed.ticks other member) rfl rfl

/-- A manager stores what it was told: it is primary only as the region of the lock row,
and the epoch is the lock row's or the one it had. -/
theorem assigned_informed {manager : Manager} (informed : Informed history fleet)
    (primary : manager.isPrimary = true → fleet.store.heldBy tick.regionId)
    (epoch : ∀ lock, fleet.store.lock = some lock → lock.regionId = tick.regionId →
      manager.epoch = lock.epoch ∨ manager.epoch = (fleet.managers tick.regionId).epoch) :
    Informed history (fleet.assign tick manager) := by
  refine ⟨?_, informed.current, informed.registry⟩
  intro other member
  have sound := informed.ticks other member
  by_cases own : other.regionId = tick.regionId
  · rw [assign_own own]
    have known : other.reports = true → ∀ lock, fleet.store.lock = some lock →
        lock.regionId = other.regionId → manager.epoch = lock.epoch := by
      intro reports lock present region
      rcases epoch lock present (region.trans own) with read | kept
      · exact read
      · rw [kept, ← own]
        exact sound.known reports lock present region
    refine ⟨?_, sound.led, sound.read, known, ?_⟩
    · intro exposed
      rcases exposed_flag exposed (fleet.managers other.regionId) with flag | before
      · exact own.symm ▸ primary flag
      · exact sound.holds before
    · intro reports flag
      obtain ⟨lock, present, region⟩ := primary flag
      have region : lock.regionId = other.regionId := region.trans own.symm
      rw [known reports lock present region, ← region]
      exact informed.current lock present
  · rw [assign_other own]
    exact sound

/-- The manager takes an answer. -/
theorem replies_informed {next : Fleet} (informed : Informed history fleet)
    (stored : fleet.ticks[index]? = some tick) (replies : Replies fleet index tick next observed) :
    Informed (history ++ observed) next := by
  have sound := informed.ticks tick (List.mem_of_getElem? stored)
  cases replies with
  | acquired verdict answered =>
    have exposed : verdict = true → fleet.store.heldBy tick.regionId := by
      rintro rfl
      apply sound.holds
      rw [Tick.exposed, answered]
    have assigned : Informed history
        (fleet.assign tick { fleet.managers tick.regionId with isPrimary := verdict }) := by
      apply assigned_informed informed
      · exact exposed
      · intro _ _ _
        exact Or.inr rfl
    apply moved_informed assigned (lastGrant_silent history)
    apply unread_sound rfl
    · exact sound_led sound (by simp [answered]) (by simp [answered])
    · intro flag
      apply exposed
      simpa [Tick.exposed, Fleet.assign] using flag
  | epochRead read answered =>
    have exposed : (fleet.managers tick.regionId).isPrimary = true →
        fleet.store.heldBy tick.regionId := by
      intro primary
      apply sound.holds
      rw [Tick.exposed, answered]
      exact primary
    have known : ∀ lock, fleet.store.lock = some lock → lock.regionId = tick.regionId →
        read.getD (fleet.managers tick.regionId).epoch = lock.epoch := by
      intro lock present region
      rw [sound.read read answered lock present region, Option.getD_some]
    have assigned : Informed history (fleet.assign tick { fleet.managers tick.regionId with
        epoch := read.getD (fleet.managers tick.regionId).epoch }) := by
      apply assigned_informed informed
      · exact exposed
      · intro lock present region
        exact Or.inl (known lock present region)
    apply moved_informed assigned (lastGrant_silent history)
    rw [assign_own rfl]
    constructor
    · intro reported
      apply exposed
      by_contra secondary
      simp [Tick.exposed, secondary] at reported
    · intro absent
      exact absurd absent (sound_led sound (by simp [answered]) (by simp [answered]))
    · intro epoch was
      cases was
    · intro _
      exact known
    · intro _ primary
      obtain ⟨lock, present, region⟩ := exposed primary
      have current := informed.current lock present
      rw [region] at current
      rw [known lock present region]
      exact current
  | updated answered =>
    apply moved_informed informed (fun regionId => lastGrant_ended history tick.regionId)
    exact idle_sound (Or.inr rfl)

section Acquire

variable {store : Store} {verdict : Bool}

/-- A lock row exists after any acquire, and after a TRUE it is the caller's. -/
theorem acquires_led (acquires : Acquires tick.regionId leaderLeaseMs fleet.clock fleet.store store
    verdict) : store.lock ≠ none ∧ (verdict = true → store.heldBy tick.regionId) := by
  cases acquires with
  | first absent => exact ⟨by simp, fun _ => ⟨_, rfl, rfl⟩⟩
  | renewed lock found own unexpired => exact ⟨by simp, fun _ => ⟨_, rfl, own⟩⟩
  | stolen lock found expired => exact ⟨by simp, fun _ => ⟨_, rfl, rfl⟩⟩
  | refused lock found foreign unexpired => exact ⟨by simp [found], fun granted => by cases granted⟩

/-- An acquire disturbs no other tick, unless it takes a lease over from one that is exposed
or overtakes one that is informed. -/
theorem acquires_sound {other : Tick} (informed : Informed history fleet)
    (member : other ∈ fleet.ticks) (undisputed : tick.undisputed fleet)
    (acquires : Acquires tick.regionId leaderLeaseMs fleet.clock fleet.store store verdict) :
    Sound (history ++ (grants verdict store).map .granted) store (fleet.managers other.regionId)
      other := by
  have sound := informed.ticks other member
  cases acquires with
  | first absent => exact idle_sound (sound.led absent)
  | renewed lock found own unexpired => exact renewed_sound sound found rfl rfl rfl
  | stolen lock found expired =>
    obtain ⟨unread, unexposed⟩ := undisputed lock found expired
    have behind : other.informed = true → tick.regionId ≠ other.regionId := by
      intro informedOther same
      rw [unread other member same.symm] at informedOther
      cases informedOther
    refine stolen_sound sound found ?_ behind rfl rfl
    intro foreign exposed loser
    rw [unexposed foreign other member loser.symm] at exposed
    cases exposed
  | refused lock found foreign unexpired =>
    exact sound_unchanged sound rfl (by simp [grants])

/-- The lock has the epoch that its holder was granted last. -/
theorem acquires_current (informed : Informed history fleet)
    (acquires : Acquires tick.regionId leaderLeaseMs fleet.clock fleet.store store verdict) :
    ∀ lock, store.lock = some lock →
      lastGrant lock.regionId (history ++ (grants verdict store).map .granted) = some lock.epoch := by
  cases acquires with
  | first absent =>
    rintro lock ⟨rfl⟩
    exact lastGrant_own history 1
  | renewed held found own unexpired =>
    rintro lock ⟨rfl⟩
    exact lastGrant_own history held.epoch
  | stolen held found expired =>
    rintro lock ⟨rfl⟩
    exact lastGrant_own history (held.epoch + 1)
  | refused held found foreign unexpired =>
    intro lock present
    rw [grants, if_neg (by decide), List.map_nil, List.append_nil]
    exact informed.current lock present

/-- The primary row is the holder's. -/
theorem acquires_registry (informed : Informed history fleet)
    (acquires : Acquires tick.regionId leaderLeaseMs fleet.clock fleet.store store verdict) :
    ∀ row ∈ store.registry.rows, row.role = .primary → store.heldBy row.regionId := by
  cases acquires with
  | first absent =>
    intro row member primary
    obtain ⟨lock, present, -⟩ := informed.registry row member primary
    rw [absent] at present
    cases present
  | renewed lock found own unexpired =>
    intro row member primary
    obtain ⟨held, present, region⟩ := informed.registry row member primary
    obtain rfl : lock = held := Option.some.inj (found.symm.trans present)
    exact ⟨_, rfl, region⟩
  | stolen lock found expired =>
    have lawful : ∀ row ∈ fleet.store.registry.rows, row.role = .primary →
        lock.regionId = row.regionId := by
      intro row member primary
      exact held_unique ⟨lock, found, rfl⟩ (informed.registry row member primary)
    intro row member primary
    exact ⟨_, rfl, promote_primary lawful row member primary⟩
  | refused => exact informed.registry

end Acquire

/-- The database executes a statement. -/
theorem executes_informed {next : Fleet} (informed : Informed history fleet)
    (stored : fleet.ticks[index]? = some tick)
    (undisputed : tick.phase = .acquiring → tick.undisputed fleet)
    (executes : Executes fleet index tick next observed) :
    Informed (history ++ observed) next := by
  have sound := informed.ticks tick (List.mem_of_getElem? stored)
  cases executes with
  | acquire sent acquires =>
    refine ⟨?_, acquires_current informed acquires, acquires_registry informed acquires⟩
    intro other member
    rcases List.mem_or_eq_of_mem_set member with old | rfl
    · have kept := acquires_sound informed old (undisputed sent) acquires
      exact kept
    · exact unread_sound rfl (acquires_led acquires).1 (acquires_led acquires).2
  | read sent =>
    apply moved_informed informed (lastGrant_silent history)
    constructor
    · intro exposed
      apply sound.holds
      rw [Tick.exposed, sent]
      exact exposed
    · intro absent
      exact absurd absent (sound_led sound (by simp [sent]) (by simp [sent]))
    · rintro epoch ⟨rfl⟩ lock present _
      rw [present, Option.map_some]
    · intro reports
      cases reports
    · intro reports
      cases reports
  | update role epoch sent =>
    have exposed : role = .primary → fleet.store.heldBy tick.regionId := by
      intro primary
      apply sound.holds
      rw [Tick.exposed, sent]
      exact decide_eq_true primary
    have reports : tick.reports = true := by rw [Tick.reports, sent]
    have led := sound_led sound (by simp [sent]) (by simp [sent])
    apply moved_informed (registered_informed informed (report_primary informed.registry exposed))
      (lastGrant_silent history)
    constructor
    · intro exposed
      cases exposed
    · intro absent
      exact absurd absent led
    · intro epoch was
      cases was
    · intro _
      exact sound.known reports
    · intro _
      exact sound.granted reports

/-- An undisputed step keeps all ticks informed. -/
theorem step_informed {next : Fleet} (informed : Informed history fleet)
    (taken : takes operate Undisputed fleet observed next) : Informed (history ++ observed) next := by
  obtain ⟨action, undisputed, taken⟩ := taken
  cases action with
  | tick regionId =>
    cases taken
    rw [List.append_nil]
    exact began_informed informed regionId
  | execute index =>
    obtain ⟨tick, stored, executed⟩ := Option.bind_eq_some_iff.mp taken
    exact executes_informed informed stored (undisputed tick stored) (execute_cases executed)
  | reply index =>
    obtain ⟨tick, stored, replied⟩ := Option.bind_eq_some_iff.mp taken
    exact replies_informed informed stored (reply_cases replied)
  | fail index =>
    obtain ⟨tick, stored, failed⟩ := Option.bind_eq_some_iff.mp taken
    obtain ⟨rfl, rfl⟩ := fail_cases failed
    apply moved_informed informed
    · intro regionId
      rw [List.append_nil]
    · exact idle_sound (Or.inr rfl)
  | register regionId =>
    cases taken
    rw [List.append_nil]
    exact registered_informed informed (register_primary informed.registry)
  | drain regionId =>
    cases taken
    rw [List.append_nil]
    exact registered_informed informed (drain_primary informed.registry)
  | advance elapsed =>
    cases taken
    rw [List.append_nil]
    exact ⟨informed.ticks, informed.current, informed.registry⟩

end Steps

/-- Only the last answer of a tick ends it. -/
theorem ended_cases {fleet next : Fleet} {action : FleetAction} {observed : List FleetEvent}
    {regionId : RegionId} (taken : operate fleet action = some (next, observed))
    (ended : .ended regionId ∈ observed) :
    next.managers = fleet.managers ∧ observed = [.ended regionId] ∧
      ∃ tick ∈ fleet.ticks, tick.regionId = regionId ∧ tick.phase = .updated := by
  cases action with
  | execute index =>
    obtain ⟨tick, stored, executed⟩ := Option.bind_eq_some_iff.mp taken
    cases execute_cases executed with
    | acquire =>
      obtain ⟨token, -, same⟩ := List.mem_map.mp ended
      cases same
    | read => cases ended
    | update => cases ended
  | reply index =>
    obtain ⟨tick, stored, replied⟩ := Option.bind_eq_some_iff.mp taken
    cases reply_cases replied with
    | acquired => cases ended
    | epochRead => cases ended
    | updated answered =>
      obtain rfl : regionId = tick.regionId := FleetEvent.ended.inj (List.mem_singleton.mp ended)
      exact ⟨rfl, rfl, tick, List.mem_of_getElem? stored, rfl, answered⟩
  | fail index =>
    obtain ⟨tick, stored, failed⟩ := Option.bind_eq_some_iff.mp taken
    rw [(fail_cases failed).2] at ended
    cases ended
  | _ =>
    cases taken
    cases ended

/-- A fleet of secondaries is informed. -/
theorem start_informed {clock : Time} {registry : Registry}
    (secondary : ∀ row ∈ registry.rows, row.role ≠ .primary) :
    Informed [] ⟨clock, ⟨none, registry⟩, fun _ => .new, []⟩ := by
  constructor
  · intro tick member
    cases member
  · intro lock present
    cases present
  · intro row member primary
    exact absurd primary (secondary row member)

/-- What an undisputed step reports is true. -/
theorem step_truthful {history observed : List FleetEvent} {fleet next : Fleet}
    (informed : Informed history fleet) (taken : takes operate Undisputed fleet observed next) :
    Truthful history observed next := by
  have informedNext := step_informed informed taken
  constructor
  · intro regionId ended primary
    obtain ⟨action, -, operated⟩ := taken
    obtain ⟨managers, rfl, tick, member, rfl, answered⟩ := ended_cases operated ended
    rw [managers] at primary ⊢
    rw [lastGrant_ended]
    exact (informed.ticks tick member).granted (by rw [Tick.reports, answered]) primary
  · intro one memberOne other memberOther primaryOne primaryOther
    have same : one.regionId = other.regionId :=
      held_unique (informedNext.registry one memberOne primaryOne)
        (informedNext.registry other memberOther primaryOther)
    have found := Table.mem_lookup memberOne
    rw [same, Table.mem_lookup memberOther] at found
    exact (Option.some.inj found).symm

end PlanBuddy.Regions
