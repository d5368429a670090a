import PlanBuddy.RegionManagers

/-!
# At most one local primary

`isLocalRegionPrimary` returns what the last answer to an acquire said. The lease behind
that answer expires without the manager noticing, and another region may take it over at
once, so two managers are primary until the first one's next tick is answered.

A region leads from the moment a TRUE is on its way to it until a FALSE reaches it. As
long as no expired lease is taken over from a region that leads, whoever leads is the
region of the lock row, and there is one. Any other takeover can be continued to a state
with two primaries, by nothing but the answers that are already on their way.
-/

namespace PlanBuddy.Regions

/-- The manager is primary, or a TRUE is on its way to it. -/
def Fleet.leads (fleet : Fleet) (regionId : RegionId) : Prop :=
  (fleet.managers regionId).isPrimary = true ∨
    ∃ tick ∈ fleet.ticks, tick.regionId = regionId ∧ tick.phase = .acquired true

instance (fleet : Fleet) (regionId : RegionId) : Decidable (fleet.leads regionId) := by
  unfold Fleet.leads
  infer_instance

/-- An expired lease is taken over from a region that does not lead. -/
def HandsOver (fleet : Fleet) : FleetAction → Prop
  | .execute index =>
    ∀ tick ∈ fleet.ticks[index]?, tick.phase = .acquiring → ∀ lock ∈ fleet.store.lock,
      lock.expiresAt ≤ fleet.clock → lock.regionId ≠ tick.regionId → ¬ fleet.leads lock.regionId
  | _ => True

instance (fleet : Fleet) : (action : FleetAction) → Decidable (HandsOver fleet action)
  | .execute index =>
    inferInstanceAs (Decidable (∀ tick ∈ fleet.ticks[index]?, _ → ∀ lock ∈ fleet.store.lock, _))
  | .tick _ | .reply _ | .fail _ | .register _ | .drain _ | .advance _ =>
    inferInstanceAs (Decidable True)

def OnePrimary (fleet : Fleet) : Prop :=
  ∀ one other, (fleet.managers one).isLocalRegionPrimary = true →
    (fleet.managers other).isLocalRegionPrimary = true → one = other

/-- Whoever leads holds the lock row. -/
def Led (fleet : Fleet) : Prop := ∀ regionId, fleet.leads regionId → fleet.store.heldBy regionId

section Leading

variable {fleet : Fleet} {index : Nat} {tick : Tick} {phase : TickPhase} {regionId : RegionId}

/-- A tick that moves leads at most its own region, with a TRUE. -/
theorem move_leads (leading : (fleet.move index tick phase).leads regionId) :
    fleet.leads regionId ∨ (tick.regionId = regionId ∧ phase = .acquired true) := by
  rcases leading with primary | ⟨other, member, own, pending⟩
  · exact Or.inl (Or.inl primary)
  · rcases List.mem_or_eq_of_mem_set member with old | rfl
    · exact Or.inl (Or.inr ⟨other, old, own, pending⟩)
    · exact Or.inr ⟨own, pending⟩

/-- Any other move makes nobody lead. -/
theorem moved_leads (silent : phase ≠ .acquired true)
    (leading : (fleet.move index tick phase).leads regionId) : fleet.leads regionId :=
  (move_leads leading).resolve_right fun granted => silent granted.2

/-- A manager that stores what its tick has been told leads no more than before. -/
theorem assign_leads {manager : Manager} (told : manager.isPrimary = true → fleet.leads tick.regionId)
    (leading : (fleet.assign tick manager).leads regionId) : fleet.leads regionId := by
  rcases leading with primary | pending
  · simp only [Fleet.assign] at primary
    split at primary
    · next same => exact same ▸ told primary
    · exact Or.inl primary
  · exact Or.inr pending

/-- An answer makes nobody lead who did not before. -/
theorem replies_led {next : Fleet} {observed : List FleetEvent} (led : Led fleet)
    (stored : fleet.ticks[index]? = some tick) (replies : Replies fleet index tick next observed) :
    Led next := by
  intro regionId leading
  cases replies with
  | acquired verdict answered =>
    apply led regionId
    apply assign_leads _ (moved_leads (by decide) leading)
    intro told
    have told : verdict = true := told
    exact Or.inr ⟨tick, List.mem_of_getElem? stored, rfl, told ▸ answered⟩
  | epochRead read answered =>
    apply led regionId
    apply assign_leads _ (moved_leads (fun granted => by cases granted) leading)
    intro told
    exact Or.inl told
  | updated answered => exact led regionId (moved_leads (by decide) leading)

/-- The database makes nobody lead but the region it grants the lock row to, and takes the
row from nobody who leads. -/
theorem executes_led {next : Fleet} {observed : List FleetEvent} (led : Led fleet)
    (handsOver : tick.phase = .acquiring → ∀ lock ∈ fleet.store.lock,
      lock.expiresAt ≤ fleet.clock → lock.regionId ≠ tick.regionId → ¬ fleet.leads lock.regionId)
    (executes : Executes fleet index tick next observed) : Led next := by
  intro regionId leading
  cases executes with
  | acquire sent acquires =>
    rcases move_leads leading with before | ⟨own, -⟩
    · obtain ⟨held, present, region⟩ := led regionId before
      cases acquires with
      | first absent =>
        rw [absent] at present
        cases present
      | renewed lock found own unexpired =>
        obtain rfl : lock = held := Option.some.inj (found.symm.trans present)
        exact ⟨_, rfl, region⟩
      | stolen lock found expired =>
        obtain rfl : lock = held := Option.some.inj (found.symm.trans present)
        by_cases same : lock.regionId = tick.regionId
        · exact ⟨_, rfl, same.symm.trans region⟩
        · exact absurd (region ▸ before) (handsOver sent lock found expired same)
      | refused => exact ⟨held, present, region⟩
    · cases acquires with
      | first absent => exact ⟨_, rfl, own⟩
      | renewed lock found held unexpired => exact ⟨_, rfl, held.trans own⟩
      | stolen lock found expired => exact ⟨_, rfl, own⟩
      | refused => exact led regionId (moved_leads (by decide) leading)
  | read sent => exact led regionId (moved_leads (fun granted => by cases granted) leading)
  | update role epoch sent => exact led regionId (moved_leads (by decide) leading)

/-- A new tick has been told nothing. -/
theorem began_led (led : Led fleet) (regionId : RegionId) :
    Led { fleet with ticks := fleet.ticks ++ [⟨regionId, .acquiring⟩] } := by
  rintro leader (primary | ⟨tick, member, own, pending⟩)
  · exact led leader (Or.inl primary)
  · rcases List.mem_append.mp member with old | new
    · exact led leader (Or.inr ⟨tick, old, own, pending⟩)
    · rw [List.mem_singleton.mp new] at pending
      cases pending

/-- As long as leaders hand over, a step leaves one leader. -/
theorem step_led {next : Fleet} {observed : List FleetEvent} (led : Led fleet)
    (taken : takes operate HandsOver fleet observed next) : Led next := by
  obtain ⟨action, handsOver, taken⟩ := taken
  cases action with
  | tick regionId =>
    cases taken
    exact began_led led regionId
  | execute index =>
    obtain ⟨tick, stored, executed⟩ := Option.bind_eq_some_iff.mp taken
    exact executes_led led (handsOver tick stored) (execute_cases executed)
  | reply index =>
    obtain ⟨tick, stored, replied⟩ := Option.bind_eq_some_iff.mp taken
    exact replies_led led stored (reply_cases replied)
  | fail index =>
    obtain ⟨tick, stored, failed⟩ := Option.bind_eq_some_iff.mp taken
    obtain ⟨rfl, -⟩ := fail_cases failed
    intro regionId leading
    exact led regionId (moved_leads (by decide) leading)
  | register regionId =>
    cases taken
    exact led
  | drain regionId =>
    cases taken
    exact led
  | advance elapsed =>
    cases taken
    exact led

end Leading

section Splits

/-- A region that leads becomes primary by an answer that is on its way, which leaves the
other regions as they are. -/
theorem leads_informed {fleet : Fleet} {regionId : RegionId} (leading : fleet.leads regionId) :
    ∃ later final, Run (takes operate anyAction) fleet later final ∧
      (final.managers regionId).isPrimary = true ∧
      ∀ other, other ≠ regionId → final.managers other = fleet.managers other ∧
        (fleet.leads other → final.leads other) := by
  rcases leading with primary | ⟨tick, member, own, pending⟩
  · exact ⟨[], fleet, .start, primary, fun other _ => ⟨rfl, id⟩⟩
  · obtain ⟨index, stored⟩ := List.mem_iff_getElem?.mp member
    have replied : operate fleet (.reply index) =
        some ((fleet.assign tick { fleet.managers tick.regionId with isPrimary := true }).move index
          tick .readingEpoch, []) := by
      simp only [operate, stored, Option.bind_some, Fleet.reply, pending]
    have told : Run (takes operate anyAction) fleet ([] ++ []) _ :=
      Run.start.step ⟨.reply index, trivial, replied⟩
    refine ⟨_, _, told, ?_, ?_⟩
    · simp [Fleet.move, Fleet.assign, own]
    · intro other different
      have kept : ∀ manager, (fleet.assign tick manager).managers other = fleet.managers other :=
        assign_other fun same => different (same.trans own)
      refine ⟨kept _, ?_⟩
      rintro (primary | ⟨waiting, present, ownOther, pendingOther⟩)
      · exact Or.inl ((congrArg Manager.isPrimary (kept _)).trans primary)
      · refine Or.inr ⟨waiting, ?_, ownOther, pendingOther⟩
        apply Parties.mem_set_other stored present
        rintro rfl
        exact different (ownOther.symm.trans own)

/-- Two regions that lead can both become primary. -/
theorem leaders_split {fleet : Fleet} {one other : RegionId} (different : one ≠ other)
    (leadingOne : fleet.leads one) (leadingOther : fleet.leads other) :
    ∃ later final, Run (takes operate anyAction) fleet later final ∧ ¬ OnePrimary final := by
  obtain ⟨first, middle, told, primaryOne, rest⟩ := leads_informed leadingOne
  obtain ⟨second, final, toldOther, primaryOther, others⟩ :=
    leads_informed ((rest other different.symm).2 leadingOther)
  refine ⟨first ++ second, final, told.trans toldOther, ?_⟩
  intro unique
  apply different
  apply unique one other _ primaryOther
  rw [(others one different).1]
  exact primaryOne

/-- After any other takeover two regions lead. -/
theorem takeover_splits {fleet next : Fleet} {action : FleetAction} {observed : List FleetEvent}
    (taken : operate fleet action = some (next, observed)) (rushed : ¬ HandsOver fleet action) :
    ∃ later final, Run (takes operate anyAction) next later final ∧ ¬ OnePrimary final := by
  cases action with
  | execute index =>
    simp only [HandsOver, not_forall, not_not, exists_prop] at rushed
    obtain ⟨tick, stored, sent, lock, found, expired, foreign, leading⟩ := rushed
    obtain ⟨same, storedSame, executed⟩ := Option.bind_eq_some_iff.mp taken
    obtain rfl : tick = same := Option.some.inj (Eq.trans stored.symm storedSame)
    obtain ⟨rfl, -⟩ := expired_stolen sent found expired executed
    apply leaders_split foreign
    · rcases leading with primary | ⟨waiting, present, own, pending⟩
      · exact Or.inl primary
      · refine Or.inr ⟨waiting, ?_, own, pending⟩
        apply Parties.mem_set_other stored present
        rintro rfl
        exact foreign own.symm
    · exact Or.inr ⟨_, List.mem_of_getElem? (Parties.set_moved _ stored), rfl, rfl⟩
  | _ => exact absurd trivial rushed

end Splits

/-- From the start of any number of managers on any tables: in every run in which expired
leases are taken over from regions that do not lead, at most one manager is primary. After
a step that takes a lease over from a region that leads, two can become primary. -/
theorem one_local_primary {clock : Time} {store : Store} {history : List FleetEvent} {fleet : Fleet}
    (run : Run (takes operate HandsOver) ⟨clock, store, fun _ => .new, []⟩ history fleet) :
    OnePrimary fleet ∧
    ∀ action next observed, operate fleet action = some (next, observed) →
      ¬ HandsOver fleet action →
        ∃ later final, Run (takes operate anyAction) next later final ∧ ¬ OnePrimary final := by
  have idle : Led ⟨clock, store, fun _ => .new, []⟩ := by
    rintro regionId (primary | ⟨tick, member, -⟩)
    · cases primary
    · cases member
  have led : Led fleet :=
    run.invariant (fun _ fleet => Led fleet) idle (fun _ led taken => step_led led taken)
  constructor
  · intro one other primaryOne primaryOther
    exact held_unique (led one (Or.inl primaryOne)) (led other (Or.inl primaryOther))
  · intro action next observed taken rushed
    exact takeover_splits taken rushed

section Sample

/-- The lease of the first region expires between two of its ticks. The second region takes
it over, and the first is not told before its next tick. -/
theorem expired_primary_remains :
    ¬ ∀ (clock : Time) (store : Store) (history : List FleetEvent) (fleet : Fleet),
      Run (takes operate anyAction) ⟨clock, store, fun _ => .new, []⟩ history fleet →
        OnePrimary fleet := by
  intro unique
  have run : Run (takes operate anyAction) ⟨0, unlocked, fun _ => .new, []⟩ _ _ :=
    run_of_schedule [.register "us-east-1", .tick "us-east-1", .execute 0, .reply 0, .execute 0,
      .reply 0, .execute 0, .reply 0, .advance 30000, .register "eu-west-1", .tick "eu-west-1",
      .execute 1, .reply 1] rfl
  exact absurd (unique _ _ _ _ run "us-east-1" "eu-west-1" rfl rfl) (by decide)

/-- The answer to the first region is lost, so it never was primary, and the second region
takes the lease over when it has expired. -/
theorem one_local_primary_lost_answer :
    ∃ history fleet, Run (takes operate HandsOver) ⟨0, unlocked, fun _ => .new, []⟩ history fleet ∧
      (fleet.managers "eu-west-1").isLocalRegionPrimary = true ∧ OnePrimary fleet := by
  have run : Run (takes operate HandsOver) ⟨0, unlocked, fun _ => .new, []⟩ _ _ :=
    run_of_restricted [.tick "us-east-1", .execute 0, .fail 0, .advance 30000, .tick "eu-west-1",
      .execute 1, .reply 1, .tick "us-east-1", .execute 2, .reply 2] rfl
  exact ⟨_, _, run, rfl, (one_local_primary run).1⟩

end Sample

end PlanBuddy.Regions
