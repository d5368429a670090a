import PlanBuddy.WorkerFleet

/-!
# Recovery of the worker circuit

The gate of a half open circuit spends a probe for every poll it lets through,
and only an outcome reported by an item moves the circuit on. Between the two
stand exits that report nothing. A circuit whose probes are spent waits for the
polls and items still pending; it is stuck for good when the last of them ends
without deciding it.

The theorem names those ends and excludes exactly them. It is about whole runs
of any number of workers, and about every later clock reading.
-/

namespace PlanBuddy.WorkerFleet

open AdaptiveController

/-- Ends of a poll or an item that leave an exhausted circuit undecided: a refused rate
limit, a claim that fails or finds nothing, a lost item, a success that is not the
last one required, and a failure below the threshold. -/
def Undecided (config : QueueConfig) (queueKey : QueueKey) (fleet : Fleet) : Action → Prop
  | .acquireRateLimit _ allowed => allowed = false
  | .atomicClaim _ claimed => claimed.getD 0 = 0
  | .executeItem _ .succeeded _ =>
    fleet.control.halfOpenSuccesses + 1 < probeLimit config queueKey
  | .executeItem _ .failed _ =>
    fleet.control.consecutiveFailures + 1 < failureThreshold config queueKey
  | .executeItem _ .lost _ => True
  | _ => False

instance (config : QueueConfig) (queueKey : QueueKey) (fleet : Fleet) :
    (action : Action) → Decidable (Undecided config queueKey fleet action)
  | .start _ | .stop _ | .drain _ | .poll _ _ => inferInstanceAs (Decidable False)
  | .acquireRateLimit _ _ => inferInstanceAs (Decidable (_ = _))
  | .atomicClaim _ _ => inferInstanceAs (Decidable (_ = _))
  | .executeItem _ .succeeded _ => inferInstanceAs (Decidable (_ < _))
  | .executeItem _ .failed _ => inferInstanceAs (Decidable (_ < _))
  | .executeItem _ .lost _ => inferInstanceAs (Decidable True)

/-- The last poll or item that an exhausted circuit waits for does not end undecided. -/
def Decides (config : QueueConfig) (queueKey : QueueKey) (fleet : Fleet) (action : Action) : Prop :=
  Exhausted config queueKey fleet.control → fleet.polls.length + fleet.items.length = 1 →
    ¬ Undecided config queueKey fleet action

instance (config : QueueConfig) (queueKey : QueueKey) (fleet : Fleet) (action : Action) :
    Decidable (Decides config queueKey fleet action) :=
  inferInstanceAs (Decidable (_ → _ → ¬ _))

/-- An exhausted circuit has a poll or an item pending. -/
def Awaited (config : QueueConfig) (queueKey : QueueKey) (fleet : Fleet) : Prop :=
  Exhausted config queueKey fleet.control → fleet.polls ≠ [] ∨ fleet.items ≠ []

/-- Slots count the items in flight, and concurrency is positive. So a worker without a
free slot has an item in flight. -/
structure Sound (fleet : Fleet) : Prop where
  counted : ∀ worker, (fleet.workers worker).activeSlots = fleet.items.count worker
  positive : Positive fleet.control

/-- The configured bounds on probes and concurrency. -/
structure Bounded (config : QueueConfig) (queueKey : QueueKey) : Prop where
  probes : 1 ≤ probeLimit config queueKey
  lower : 1 ≤ minConcurrency config queueKey
  upper : 1 ≤ (config.concurrencyMax queueKey).getD 20
  initial : 1 ≤ initialConcurrency config queueKey

/-- The shipped settings are positive. -/
theorem queues_bounded (queueKey : QueueKey) : Bounded queues queueKey := by
  cases queueKey <;> exact ⟨by decide, by decide, by decide, by decide⟩

section Soundness

variable {config : QueueConfig} {queueKey : QueueKey}

/-- A fleet begins sound. -/
theorem initial_sound (bounded : Bounded config queueKey) :
    Sound (Fleet.initial config queueKey) :=
  ⟨fun _ => rfl, bounded.initial⟩

/-- It stays so whatever polls there are. -/
theorem Sound.withPolls {fleet : Fleet} (sound : Sound fleet) (polls : List Poll) :
    Sound { fleet with polls := polls } :=
  ⟨sound.counted, sound.positive⟩

/-- It stays so with positive counts. -/
theorem Sound.withControl {fleet : Fleet} (sound : Sound fleet) {control : QueueControl}
    (positive : Positive control) : Sound { fleet with control := control } :=
  ⟨sound.counted, positive⟩

/-- A poll that looks for slots keeps it so. -/
theorem seekSlots_sound {fleet : Fleet} (sound : Sound fleet) (worker : Nat) :
    Sound (seekSlots config queueKey worker fleet) := by
  simp only [seekSlots]
  split
  · exact sound
  · exact sound.withPolls _

/-- So does the beginning of a poll. -/
theorem startPoll_sound {fleet : Fleet} (sound : Sound fleet) (worker : Nat) (clock : Time) :
    Sound (startPoll config queueKey worker clock fleet).1 := by
  have gated : Sound { fleet with
      control := (canProcess config queueKey clock fleet.control).1 } :=
    sound.withControl (positive_canProcess sound.positive clock)
  simp only [startPoll]
  split
  · exact sound
  · split
    · exact sound
    · split
      · exact gated
      · split
        · exact gated.withPolls _
        · exact seekSlots_sound gated worker

/-- A worker's entry may change in any way that keeps its slots. -/
theorem setWorker_sound {fleet : Fleet} (sound : Sound fleet) (worker : Nat) (value : Worker)
    (same : value.activeSlots = (fleet.workers worker).activeSlots) :
    Sound (setWorker worker value fleet) := by
  refine ⟨?_, sound.positive⟩
  intro other
  simp only [setWorker, Function.update_apply]
  split
  · rename_i here
    rw [same, here, sound.counted worker]
  · exact sound.counted other

/-- So does the start of items. -/
theorem startItems_sound {fleet : Fleet} (sound : Sound fleet) (worker count : Nat) :
    Sound (startItems worker count fleet) := by
  refine ⟨?_, sound.positive⟩
  intro other
  have counted := sound.counted other
  simp only [startItems, Function.update_apply, List.count_append, List.count_replicate]
  by_cases here : other = worker
  · subst here
    simp [counted]
  · simp [here, Ne.symm here, counted]

/-- So does the end of one. -/
theorem finishItem_sound (bounded : Bounded config queueKey) {fleet : Fleet} (sound : Sound fleet)
    {position worker : Nat} (present : fleet.items[position]? = some worker) (outcome : Outcome)
    (clock : Time) : Sound (finishItem config queueKey position worker outcome clock fleet) := by
  constructor
  · intro other
    have counted := sound.counted other
    obtain ⟨inside, here⟩ := List.getElem?_eq_some_iff.mp present
    have removed := (List.getElem_cons_eraseIdx_perm inside).count_eq other
    rw [here, List.count_cons] at removed
    simp only [finishItem, Function.update_apply]
    by_cases same : other = worker
    · subst same
      simp only [if_true, counted]
      simp only [beq_self_eq_true, if_true] at removed
      omega
    · simp only [if_neg same, counted]
      simp only [beq_iff_eq, Ne.symm same, if_false] at removed
      omega
  · cases outcome with
    | succeeded => exact positive_onSuccess bounded.lower bounded.upper sound.positive
    | failed => exact positive_onFailure bounded.lower clock
    | lost => exact sound.positive

/-- Every step keeps slots and items in agreement, and concurrency positive. -/
theorem step_sound (bounded : Bounded config queueKey) {fleet next : Fleet} {action : Action}
    {observed : List Event} (sound : Sound fleet)
    (taken : step config queueKey fleet action = some (next, observed)) : Sound next := by
  cases stepped taken with
  | marked _ worker value kind kept => exact setWorker_sound sound worker value kept
  | drained worker => exact sound
  | drains worker =>
    exact setWorker_sound
      (sound.withControl (positive_setDraining bounded.lower sound.positive true)) worker _ rfl
  | polled worker clock => exact startPoll_sound sound worker clock
  | granted position worker present => exact seekSlots_sound (sound.withPolls _) worker
  | limited position worker present =>
    exact (sound.withPolls (fleet.polls.eraseIdx position)).withControl
      (positive_onRateLimited bounded.lower)
  | unclaimed position worker batch present => exact sound.withPolls _
  | claimed position worker batch count fits present =>
    exact startItems_sound (sound.withPolls _) worker count
  | finished position worker outcome clock present =>
    exact finishItem_sound bounded sound present outcome clock

end Soundness

section Recovery

variable {config : QueueConfig} {queueKey : QueueKey}

/-- A worker without a free slot has an item in flight, so looking for a slot leaves
something pending either way. -/
theorem seekSlots_pending {fleet : Fleet} (sound : Sound fleet) (worker : Nat) :
    (seekSlots config queueKey worker fleet).polls ≠ [] ∨
      (seekSlots config queueKey worker fleet).items ≠ [] := by
  simp only [seekSlots]
  split
  · rename_i full
    refine Or.inr ?_
    intro empty
    have counted := sound.counted worker
    have positive : 1 ≤ fleet.control.currentConcurrency := sound.positive
    rw [empty, List.count_nil] at counted
    omega
  · exact Or.inl (by simp)

/-- A poll that begins is awaited. -/
theorem startPoll_awaited (bounded : Bounded config queueKey) {fleet : Fleet} (sound : Sound fleet)
    (awaited : Awaited config queueKey fleet) (worker : Nat) (clock : Time) :
    Awaited config queueKey (startPoll config queueKey worker clock fleet).1 := by
  have gated : Sound { fleet with
      control := (canProcess config queueKey clock fleet.control).1 } :=
    sound.withControl (positive_canProcess sound.positive clock)
  simp only [startPoll]
  split
  · exact awaited
  · split
    · exact awaited
    · split
      · rename_i refused
        rw [refused_unchanged bounded.probes refused]
        exact awaited
      · split
        · exact fun _ => Or.inl (by simp)
        · exact fun _ => seekSlots_pending gated worker

/-- Removing a pending poll leaves something pending unless it was the last. -/
theorem poll_removed {fleet : Fleet} {position : Nat} {poll : Poll}
    (present : fleet.polls[position]? = some poll) :
    (fleet.polls.eraseIdx position ≠ [] ∨ fleet.items ≠ []) ↔
      fleet.polls.length + fleet.items.length ≠ 1 := by
  obtain ⟨inside, -⟩ := List.getElem?_eq_some_iff.mp present
  simp only [← List.length_pos_iff, List.length_eraseIdx_of_lt inside]
  omega

/-- Something is left unless the item was the last. -/
theorem item_removed {fleet : Fleet} {position worker : Nat}
    (present : fleet.items[position]? = some worker) :
    (fleet.polls ≠ [] ∨ fleet.items.eraseIdx position ≠ []) ↔
      fleet.polls.length + fleet.items.length ≠ 1 := by
  obtain ⟨inside, -⟩ := List.getElem?_eq_some_iff.mp present
  simp only [← List.length_pos_iff, List.length_eraseIdx_of_lt inside]
  omega

/-- A reported outcome leaves an exhausted circuit exhausted exactly when it does not
decide it. -/
theorem report_exhausted (fleet : Fleet) (position : Nat) (outcome : Outcome) (clock : Time) :
    Exhausted config queueKey (report config queueKey outcome clock fleet.control) ↔
      Exhausted config queueKey fleet.control ∧
        Undecided config queueKey fleet (.executeItem position outcome clock) := by
  cases outcome with
  | succeeded => exact exhausted_onSuccess
  | failed => exact exhausted_onFailure clock
  | lost => simp [report, Undecided]

/-- From an awaited state, a step leads to an awaited state if and only if it does not
end the last pending poll or item undecided. -/
theorem step_awaited_iff (bounded : Bounded config queueKey) {fleet next : Fleet} {action : Action}
    {observed : List Event} (sound : Sound fleet) (awaited : Awaited config queueKey fleet)
    (taken : step config queueKey fleet action = some (next, observed)) :
    Awaited config queueKey next ↔ Decides config queueKey fleet action := by
  have harmless : Awaited config queueKey next →
      ¬ Undecided config queueKey fleet action →
        (Awaited config queueKey next ↔ Decides config queueKey fleet action) :=
    fun kept decided => iff_of_true kept (fun _ _ => decided)
  cases stepped taken with
  | marked _ worker value kind kept =>
    refine harmless awaited ?_
    rcases kind with rfl | rfl <;> exact id
  | drained worker => exact harmless awaited id
  | drains worker => exact harmless awaited id
  | polled worker clock => exact harmless (startPoll_awaited bounded sound awaited worker clock) id
  | granted position worker present =>
    refine harmless (fun _ => seekSlots_pending (sound.withPolls _) worker) ?_
    simp [Undecided]
  | limited position worker present =>
    have removed := poll_removed present
    simp only [Awaited, Decides, Undecided, exhausted_rateLimited, removed]
    simp
  | unclaimed position worker batch present =>
    have removed := poll_removed present
    simp only [Awaited, Decides, Undecided, removed]
    simp
  | claimed position worker batch count fits present =>
    have removed := poll_removed present
    cases count with
    | zero =>
      simp only [Awaited, Decides, Undecided, startItems, List.replicate_zero, List.append_nil,
        removed]
      simp
    | succ more =>
      refine harmless (fun _ => Or.inr ?_) ?_
      · simp [startItems, List.replicate_succ]
      · simp [Undecided]
  | finished position worker outcome clock present =>
    have removed := item_removed present
    have reported : Exhausted config queueKey (report config queueKey outcome clock fleet.control) ↔
        _ := report_exhausted fleet position outcome clock
    simp only [Awaited, Decides, finishItem, reported, removed]
    constructor
    · intro kept exhausted last undecided
      exact kept ⟨exhausted, undecided⟩ last
    · rintro decides ⟨exhausted, undecided⟩ last
      exact decides exhausted last undecided

/-- With nothing pending, being awaited is to recover. -/
theorem awaited_iff (bounded : Bounded config queueKey) {fleet : Fleet} :
    Awaited config queueKey fleet ↔
      (fleet.polls = [] → fleet.items = [] → Recovers config queueKey fleet.control) := by
  rw [Awaited, recovers_iff bounded.probes]
  constructor
  · intro awaited noPoll noItem exhausted
    rcases awaited exhausted with polling | working
    · exact polling noPoll
    · exact working noItem
  · intro recovers exhausted
    by_contra nothing
    rw [not_or, not_not, not_not] at nothing
    exact recovers nothing.1 nothing.2 exhausted

/-- What holds along a run in which no last outcome is lost. -/
theorem run_awaited (bounded : Bounded config queueKey) {history : List Event} {fleet : Fleet}
    (run : Run (takes (step config queueKey) (Decides config queueKey))
      (Fleet.initial config queueKey) history fleet) :
    Sound fleet ∧ Awaited config queueKey fleet := by
  refine run.invariant (fun _ fleet => Sound fleet ∧ Awaited config queueKey fleet)
    ⟨initial_sound bounded, fun exhausted => by cases exhausted.1⟩ ?_
  rintro _ _ fleet next _ ⟨sound, awaited⟩ ⟨action, decides, taken⟩
  exact ⟨step_sound bounded sound taken,
    (step_awaited_iff bounded sound awaited taken).mpr decides⟩

/-- The circuit of a queue recovers in every run in which the last poll or item that an
exhausted circuit waits for does not end undecided: whenever nothing is pending, some
later clock reading lets a poll through, and the circuit is not half open with its
probes used up. Exactly those ends are excluded: in each state so reached, a step leads
to a state with this property if and only if it is none of them. -/
theorem circuit_recovers (queueKey : QueueKey) {history : List Event} {fleet : Fleet}
    (run : Run (takes (step queues queueKey) (Decides queues queueKey))
      (Fleet.initial queues queueKey) history fleet) :
    (fleet.polls = [] → fleet.items = [] →
      Recovers queues queueKey fleet.control ∧ ¬ Exhausted queues queueKey fleet.control) ∧
    (∀ action next observed, step queues queueKey fleet action = some (next, observed) →
      ((next.polls = [] → next.items = [] → Recovers queues queueKey next.control) ↔
        Decides queues queueKey fleet action)) := by
  have bounded := queues_bounded queueKey
  obtain ⟨sound, awaited⟩ := run_awaited bounded run
  constructor
  · intro noPoll noItem
    have recovers := (awaited_iff bounded).mp awaited noPoll noItem
    exact ⟨recovers, (recovers_iff bounded.probes).mp recovers⟩
  · intro action next observed taken
    rw [← awaited_iff bounded]
    exact step_awaited_iff bounded sound awaited taken

/-- A worker whose three items fail, so that the circuit opens. -/
def threeFailures : List Action :=
  [.start 0, .poll 0 0, .atomicClaim 0 (some 1), .executeItem 0 .failed 10,
    .poll 0 1000, .atomicClaim 0 (some 1), .executeItem 0 .failed 1010,
    .poll 0 2000, .atomicClaim 0 (some 1), .executeItem 0 .failed 2010]

/-- After the open timeout the only probe finds an empty queue. The circuit then stays
half open with no probe left and nothing pending, whatever the clock says. -/
theorem empty_claim_wedges :
    ∃ history fleet, Run (takes (step queues .bookingExpiry) anyAction)
        (Fleet.initial queues .bookingExpiry) history fleet ∧
      fleet.polls = [] ∧ fleet.items = [] ∧ ¬ Recovers queues .bookingExpiry fleet.control := by
  refine ⟨_, _, run_of_schedule (threeFailures ++ [.poll 0 32010, .atomicClaim 0 (some 0)]) rfl,
    rfl, rfl, ?_⟩
  rw [recovers_iff (queues_bounded .bookingExpiry).probes, not_not]
  exact ⟨rfl, by decide⟩

/-- A probe that claims an item and succeeds closes the circuit again. -/
theorem circuit_recovers_probe :
    ∃ history fleet, Run (takes (step queues .bookingExpiry) (Decides queues .bookingExpiry))
        (Fleet.initial queues .bookingExpiry) history fleet ∧ history.length = 4 ∧
      Recovers queues .bookingExpiry fleet.control := by
  have run : Run (takes (step queues .bookingExpiry) (Decides queues .bookingExpiry))
      (Fleet.initial queues .bookingExpiry) _ _ :=
    run_of_restricted (threeFailures ++
      [.poll 0 32010, .atomicClaim 0 (some 1), .executeItem 0 .succeeded 32020]) rfl
  exact ⟨_, _, run, rfl, ((circuit_recovers .bookingExpiry run).1 rfl rfl).1⟩

end Recovery

end PlanBuddy.WorkerFleet
