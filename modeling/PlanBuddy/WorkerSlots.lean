import PlanBuddy.Spending
import PlanBuddy.WorkerLoop

/-!
# The slots of a worker

A poll asks for as many items as there are free slots, and starts them two awaits later.
The slots it asked for are not taken before that, so another poll, brought on by a wakeup
in the meantime, may ask for the same ones.
-/

namespace PlanBuddy.Workers

section Slots

/-- The items a poll may still start on its claim. -/
def Poll.slots : Poll → Nat
  | .checking batch | .checked batch (some false) | .claiming batch => batch
  | .claimed count => count.getD 0
  | _ => 0

def Worker.claims (worker : Worker) : Nat := Parties.shares Poll.slots worker.polls

/-- The batch asked for in this step. -/
def asked (config : Config) (worker : Worker) (action : Action) : Nat :=
  if seeks config worker action then
    min (action.concurrency - worker.activeSlots) config.batchSize
  else 0

/-- Items are started as their claim returns. -/
def Event.started : Event → Nat
  | .begun _ => 0
  | .returned _ count => count

def started (history : List Event) : Nat := Spending.spent Event.started history

variable {config : Config} {limit concurrency : Nat} {worker next : Worker}
  {observed history : List Event}

/-- A poll that looks for slots takes the free ones, up to a batch. -/
theorem seekSlots_slots (activeSlots : Nat) :
    (seekSlots config concurrency activeSlots).slots =
      min (concurrency - activeSlots) config.batchSize := by
  simp only [seekSlots]
  split
  · next full => simp [Poll.slots, full]
  · rfl

/-- It starts no items yet. -/
theorem seekSlots_started (index activeSlots : Nat) :
    started ((Poll.limited true).observed index (seekSlots config concurrency activeSlots)) = 0 := by
  simp only [seekSlots]
  split <;> rfl

/-- An answer takes no more slots. -/
theorem answers_slots {index : Nat} {action : Action} {before after : Poll}
    (answers : Answers index action before after) :
    after.slots ≤ before.slots := by
  cases answers with
  | limited allowed => exact Nat.le_refl _
  | checked batch drainRequested => cases drainRequested with
    | none => exact Nat.zero_le _
    | some drainRequested => cases drainRequested with
      | false => exact Nat.le_refl _
      | true => exact Nat.zero_le _
  | claimed batch count bounded => exact bounded

/-- Except where it computes its slots, a poll starts what it gives up. -/
theorem resume_slots (index : Nat) {count : Nat} {before after : Poll}
    (continues : before.resume config concurrency worker.activeSlots = some (after, count)) :
    started (before.observed index after) = count ∧
      ((before = .limited true ∧ count = 0 ∧
          after = seekSlots config concurrency worker.activeSlots) ∨
        count + after.slots = before.slots) := by
  cases before with
  | limited allowed => cases allowed with
    | false =>
      cases continues
      exact ⟨rfl, .inr rfl⟩
    | true =>
      cases continues
      exact ⟨seekSlots_started index _, .inl ⟨rfl, rfl, rfl⟩⟩
  | checked batch drainRequested => cases drainRequested with
    | none =>
      cases continues
      exact ⟨rfl, .inr rfl⟩
    | some drainRequested => cases drainRequested with
      | false =>
        cases continues
        exact ⟨rfl, .inr (Nat.zero_add batch)⟩
      | true =>
        cases continues
        exact ⟨rfl, .inr rfl⟩
  | claimed count =>
    cases continues
    cases count <;> exact ⟨rfl, .inr rfl⟩
  | limiting | checking | claiming | ended => cases continues

/-- One more poll claims its own slots. -/
theorem claims_append (joined : Poll) (armed : Bool) :
    ({ worker with pollTimer := armed, polls := worker.polls ++ [joined] } : Worker).claims =
      worker.claims + joined.slots := Parties.shares_append joined

/-- A poll that moves claims its new slots in place of its old ones. -/
theorem claims_set {index : Nat} {before : Poll} (after : Poll)
    (stored : worker.polls[index]? = some before) :
    (setPoll index after worker).claims + before.slots = worker.claims + after.slots :=
  Parties.shares_set after stored

/-- A notification touches no slots. -/
theorem notifyDrainIfIdle_activeSlots :
    (notifyDrainIfIdle worker).activeSlots = worker.activeSlots := by
  unfold notifyDrainIfIdle
  split <;> rfl

/-- Nor does it touch what polls claim. -/
theorem notifyDrainIfIdle_claims : (notifyDrainIfIdle worker).claims = worker.claims := by
  unfold notifyDrainIfIdle
  split <;> rfl

/-- A step starts what was claimed, claims what it asks for, and takes a slot for each item
it starts. -/
theorem step_slots {action : Action}
    (stepped : step config worker action = some (next, observed)) :
    started observed + next.claims ≤ worker.claims + asked config worker action ∧
      next.activeSlots ≤ worker.activeSlots + started observed := by
  have silent : started [] = 0 := rfl
  cases step_cases stepped with
  | timed | stopped | drained | deregistered =>
    rw [silent, Nat.zero_add]
    exact ⟨Nat.le_add_right _ _, Nat.le_refl _⟩
  | joined concurrency runs serves =>
    rw [claims_append, silent, Nat.zero_add]
    exact ⟨Nat.le_add_right _ _, Nat.le_refl _⟩
  | sought concurrency armed runs serves unlimited next same =>
    have sought : seeks config worker (.timeout true concurrency) = true := by
      simp [seeks, runs, serves, unlimited]
    rw [claims_append, same, seekSlots_slots, seekSlots_started, asked, if_pos sought,
      Nat.zero_add]
    exact ⟨Nat.le_refl _, Nat.le_refl _⟩
  | answered action index before after stored answers =>
    have moved := claims_set after stored
    have fewer := answers_slots answers
    rw [silent, Nat.zero_add]
    exact ⟨by omega, Nat.le_refl _⟩
  | resumed index concurrency armed before after count stored continues =>
    obtain ⟨same, asks⟩ := resume_slots index continues
    have moved : Parties.shares Poll.slots (worker.polls.set index after) + before.slots =
      worker.claims + after.slots := claims_set after stored
    rw [same]
    refine ⟨?_, Nat.le_refl _⟩
    simp only [Worker.claims] at moved ⊢
    rcases asks with ⟨rfl, rfl, rfl⟩ | even
    · have sought : seeks config worker (.resume index concurrency) = true := by
        simp [seeks, stored]
      rw [seekSlots_slots] at moved
      simp only [Poll.slots] at moved
      rw [asked, if_pos sought]
      simp only [Action.concurrency]
      omega
    · omega
  | finished busy =>
    rw [notifyDrainIfIdle_activeSlots, notifyDrainIfIdle_claims, silent, Nat.zero_add]
    exact ⟨Nat.le_add_right _ _, Nat.sub_le _ _⟩

/-- Where a poll computes its slots, it claims just what it asks for, and starts nothing. -/
theorem step_asks {action : Action} (sought : seeks config worker action = true)
    (stepped : step config worker action = some (next, observed)) :
    next.activeSlots = worker.activeSlots ∧
      next.claims = worker.claims + asked config worker action ∧ started observed = 0 := by
  rw [asked, if_pos sought]
  cases action with
  | timeout admitted concurrency =>
    simp only [seeks, Bool.and_eq_true, Bool.not_eq_true'] at sought
    obtain ⟨⟨⟨rfl, runs⟩, serves⟩, unlimited⟩ := sought
    simp only [step, Option.ite_none_right_eq_some, poll, runs, serves, unlimited] at stepped
    obtain ⟨before, after, count, armed, stored, continues, rfl, rfl⟩ :=
      resumePoll_cases (by simpa using stepped.2)
    obtain rfl : before = .limited true := by simpa using stored.symm
    cases continues
    have slots : (seekSlots config concurrency worker.activeSlots).slots =
        min (concurrency - worker.activeSlots) config.batchSize := seekSlots_slots _
    refine ⟨rfl, ?_, seekSlots_started _ _⟩
    rw [Action.concurrency, ← slots, ← claims_append _ armed]
    simp [Worker.claims]
  | resume index concurrency =>
    obtain ⟨before, after, count, armed, stored, continues, rfl, rfl⟩ := resumePoll_cases stepped
    obtain rfl : before = .limited true := by simpa [seeks, stored] using sought
    cases continues
    have moved := claims_set (seekSlots config concurrency worker.activeSlots) stored
    rw [seekSlots_slots] at moved
    exact ⟨rfl, moved, seekSlots_started _ _⟩
  | start | wakeup | acquireRateLimit | selectDrain | claim | finish | stop | drain | deregister =>
    cases sought

end Slots

section Serving

/-- The moves that serve a claim, under one concurrency. -/
def Serves (limit : Nat) : Action → Prop
  | .selectDrain _ _ | .claim _ _ => True
  | .resume _ concurrency => concurrency = limit
  | _ => False

variable {config : Config} {limit : Nat} {worker : Worker}

/-- A claim of `count` items can be returned in full, and they are then started. -/
def Returns (config : Config) (limit count : Nat) (worker : Worker) : Prop :=
  ∃ history next, Run (takes (step config) fun _ => Serves limit) worker history next ∧
    started history = count ∧ next.activeSlots = worker.activeSlots + count ∧
    next.claims + count = worker.claims

/-- What slots a poll may still take after a step it may take before it. -/
theorem Returns.before {count index : Nat} {before : Poll} (action : Action) (after : Poll)
    (serves : Serves limit action) (stored : worker.polls[index]? = some before)
    (stepped : step config worker action = some (setPoll index after worker, []))
    (same : after.slots = before.slots)
    (returns : Returns config limit count (setPoll index after worker)) :
    Returns config limit count worker := by
  obtain ⟨history, next, run, starts, slots, claims⟩ := returns
  have moved := claims_set after stored
  have kept : (setPoll index after worker).claims = worker.claims := by omega
  exact ⟨_, next, .after ⟨action, serves, stepped⟩ run, starts, slots, claims.trans kept⟩

/-- Claimed rows take their slots. -/
theorem claimed_returns {index count : Nat}
    (stored : worker.polls[index]? = some (.claimed (some count))) :
    Returns config limit count worker :=
  ⟨_, _, .after ⟨.resume index limit, rfl, step_claimed limit stored⟩ .start, rfl, rfl,
    claims_set .ended stored⟩

/-- A poll that claims may get all rows it asks for. -/
theorem claiming_returns {index batch : Nat}
    (stored : worker.polls[index]? = some (.claiming batch)) : Returns config limit batch worker :=
  .before (.claim index (some batch)) (.claimed (some batch)) trivial stored
    (step_claim (Nat.le_refl batch) stored) rfl (claimed_returns (Parties.set_moved _ stored))

/-- A poll that need not drain claims. -/
theorem checked_returns {index batch : Nat}
    (stored : worker.polls[index]? = some (.checked batch (some false))) :
    Returns config limit batch worker :=
  .before (.resume index limit) (.claiming batch) rfl stored
    (step_checked limit stored) rfl (claiming_returns (Parties.set_moved _ stored))

/-- A poll that asks whether to drain may go on. -/
theorem checking_returns {index batch : Nat}
    (stored : worker.polls[index]? = some (.checking batch)) : Returns config limit batch worker :=
  .before (.selectDrain index (some false)) (.checked batch (some false)) trivial stored
    (step_selectDrain (some false) stored) rfl (checked_returns (Parties.set_moved _ stored))

/-- Nothing takes no slot. -/
theorem nothing_returns : Returns config limit 0 worker := ⟨[], worker, .start, rfl, rfl, rfl⟩

/-- Whatever a poll has asked for. -/
theorem slots_return {index : Nat} {before : Poll} (stored : worker.polls[index]? = some before) :
    Returns config limit before.slots worker := by
  cases before with
  | limiting | limited | ended => exact nothing_returns
  | checking batch => exact checking_returns stored
  | checked batch drainRequested => cases drainRequested with
    | none => exact nothing_returns
    | some drainRequested => cases drainRequested with
      | false => exact checked_returns stored
      | true => exact nothing_returns
  | claiming batch => exact claiming_returns stored
  | claimed count => cases count with
    | none => exact nothing_returns
    | some count => exact claimed_returns stored

/-- And then all polls together. -/
theorem claims_return (worker : Worker) : Returns config limit worker.claims worker := by
  rcases Nat.eq_zero_or_pos worker.claims with none | some
  · rw [none]
    exact nothing_returns
  · obtain ⟨poll, member, asks⟩ := Parties.exists_share some
    obtain ⟨index, stored⟩ := List.mem_iff_getElem?.mp member
    obtain ⟨history, next, run, starts, slots, claims⟩ : Returns config limit poll.slots worker :=
      slots_return stored
    obtain ⟨later, final, rest, startsRest, slotsRest, claimsRest⟩ := claims_return next
    refine ⟨_, final, run.trans rest, ?_, by omega, by omega⟩
    rw [started, Spending.spent_append, ← started, ← started]
    omega
termination_by worker.claims
decreasing_by omega

end Serving

section Bound

/-- The controller answers one and the same concurrency. -/
def Constant (limit : Nat) : Action → Prop
  | .timeout _ concurrency | .resume _ concurrency => concurrency = limit
  | _ => True

/-- A poll that computes its free slots asks for no more than is left beside the slots in
use and the claims that other polls of the worker have in flight. -/
def Fits (config : Config) (limit : Nat) (worker : Worker) (action : Action) : Prop :=
  seeks config worker action = true →
    worker.activeSlots + worker.claims + asked config worker action ≤ limit

instance (limit : Nat) (action : Action) : Decidable (Constant limit action) :=
  match action with
  | .timeout _ concurrency | .resume _ concurrency =>
    inferInstanceAs (Decidable (concurrency = limit))
  | .start | .wakeup | .acquireRateLimit _ _ | .selectDrain _ _ | .claim _ _ | .finish | .stop
  | .drain | .deregister _ => .isTrue trivial

instance (config : Config) (limit : Nat) (worker : Worker) (action : Action) :
    Decidable (Fits config limit worker action) := inferInstanceAs (Decidable (_ → _))

variable {config : Config} {limit : Nat} {worker : Worker} {history : List Event}

/-- The slots in use and the slots asked for stay within the limit together. -/
theorem run_claims
    (run : Run (takes (step config) fun worker action =>
      Constant limit action ∧ Fits config limit worker action) .listening history worker) :
    worker.activeSlots + worker.claims ≤ limit := by
  apply run.invariant fun _ worker => worker.activeSlots + worker.claims ≤ limit
  · exact Nat.zero_le limit
  · intro _ observed worker next _ bounded taken
    obtain ⟨action, ⟨-, fits⟩, stepped⟩ := taken
    obtain ⟨claims, slots⟩ := step_slots stepped
    by_cases sought : seeks config worker action = true
    · have room := fits sought
      omega
    · rw [asked, if_neg sought] at claims
      omega

/-- Serving under a limit keeps the limit. -/
theorem serves_constant {action : Action} (serves : Serves limit action) :
    Constant limit action := by
  cases action with
  | resume index concurrency => exact serves
  | selectDrain | claim => trivial
  | start | wakeup | timeout | acquireRateLimit | finish | stop | drain | deregister => cases serves

/-- Runs in which every poll's batch fits keep the limit. A poll whose batch does not fit
can be served, with all others, to break it. -/
theorem worker_slots_bounded
    (run : Run (takes (step config) fun worker action =>
      Constant limit action ∧ Fits config limit worker action) .listening history worker) :
    worker.activeSlots ≤ limit ∧
      ∀ (action : Action) (next : Worker) (observed : List Event), Constant limit action →
        step config worker action = some (next, observed) → ¬ Fits config limit worker action →
          ∃ later final, Run (takes (step config) fun _ => Constant limit) next later final ∧
            limit < final.activeSlots := by
  have bounded : worker.activeSlots + worker.claims ≤ limit := run_claims run
  refine ⟨by omega, ?_⟩
  intro action next observed constant stepped unfit
  simp only [Fits, Classical.not_imp, Nat.not_le] at unfit
  obtain ⟨sought, beyond⟩ := unfit
  obtain ⟨slots, claims, -⟩ := step_asks sought stepped
  obtain ⟨later, final, rest, -, returned, -⟩ : Returns config limit next.claims next :=
    claims_return next
  refine ⟨later, final, rest.mono ?_, by omega⟩
  rintro state after seen ⟨move, serves, moved⟩
  exact ⟨move, serves_constant serves, moved⟩

/-- A wakeup starts a second poll while the first awaits its claim. -/
def overlappingPolls : List Action :=
  [.start, .timeout true 5, .wakeup, .timeout true 5, .selectDrain 0 (some false), .resume 0 5,
    .selectDrain 1 (some false), .resume 1 5, .claim 0 (some 5), .resume 0 5, .claim 1 (some 5),
    .resume 1 5]

/-- Two polls that overlap take ten slots where five are allowed. -/
theorem overlapping_polls_exceed :
    ∃ history worker, Run (takes (step expiryConfig) fun _ => Constant 5) .listening history worker ∧
      worker.activeSlots = 10 := by
  have run : Run (takes (step expiryConfig) fun _ => Constant 5) .listening _ _ :=
    run_of_restricted overlappingPolls rfl
  exact ⟨_, _, run, rfl⟩

/-- A single poll stays within the five. -/
theorem worker_slots_bounded_single :
    ∃ history worker, Run (takes (step expiryConfig) fun worker action =>
        Constant 5 action ∧ Fits expiryConfig 5 worker action) .listening history worker ∧
      0 < worker.activeSlots ∧ worker.activeSlots ≤ 5 := by
  have run : Run (takes (step expiryConfig) fun worker action =>
      Constant 5 action ∧ Fits expiryConfig 5 worker action) .listening _ _ :=
    run_of_restricted (overlappingPolls.take 2 ++ [.selectDrain 0 (some false), .resume 0 5,
      .claim 0 (some 3), .resume 0 5, .timeout true 5]) rfl
  exact ⟨_, _, run, by decide, (worker_slots_bounded run).1⟩

end Bound

end PlanBuddy.Workers
