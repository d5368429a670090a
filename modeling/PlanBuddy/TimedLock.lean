import PlanBuddy.Runs
import Mathlib.Logic.Function.Basic

/-!
# Locks that expire

A lock cell names its owner and the time at which it expires; from then on the
cell counts as absent. Acquiring needs an absent cell. A deletion empties the
cell unconditionally, whoever asks for it, and that is the hazard: a worker that
was too slow deletes the lock of its successor.

The discipline that makes unconditional deletion safe is stated as a condition on
the state before it: the deleter acquired the lock less than the lifetime ago, or
there is no lock to delete. Under it every deletion removes at most the deleter's
own lock, and the workers whose lifetime has not run out are never two. In each
state so reached the condition is also necessary.
-/

namespace PlanBuddy.TimedLock

universe u
variable {ω : Type u}

structure Cell (ω : Type u) where
  owner : ω
  expiresAt : Int

/-- The clock, the cell, and when each worker acquired a lock it has not deleted since. -/
structure State (ω : Type u) where
  now : Int
  cell : Option (Cell ω)
  since : ω → Option Int

/-- The owner of a lock that has not expired. -/
def State.holder (state : State ω) : Option ω :=
  (state.cell.filter (fun cell => decide (state.now < cell.expiresAt))).map Cell.owner

inductive Event (ω : Type u) where
  | acquired (worker : ω)
  | deleted (worker : ω) (removed : Option ω)

/-- The worker acquired the lock and its lifetime has not run out. -/
def Current (lifetime : Int) (state : State ω) (worker : ω) : Prop :=
  ∃ acquired, state.since worker = some acquired ∧ state.now < acquired + lifetime

/-- The deleter's own lock has not expired, or there is none. -/
def OwnDelete (lifetime : Int) (state : State ω) (worker : ω) : Prop :=
  state.holder = none ∨ Current lifetime state worker

instance (lifetime : Int) (state : State ω) (worker : ω) :
    Decidable (Current lifetime state worker) :=
  decidable_of_iff
    ((state.since worker).any (fun acquired => decide (state.now < acquired + lifetime)) = true)
    (by simp [Current, Option.any_eq_true])

instance (lifetime : Int) (state : State ω) (worker : ω) [DecidableEq ω] :
    Decidable (OwnDelete lifetime state worker) :=
  inferInstanceAs (Decidable (_ ∨ _))

/-- A worker within its lifetime owns the cell, and the cell's owner acquired it one
lifetime before it expires. -/
structure Kept (lifetime : Int) (state : State ω) : Prop where
  guarded : ∀ worker acquired, state.since worker = some acquired →
    state.now < acquired + lifetime → state.cell = some ⟨worker, acquired + lifetime⟩
  owned : ∀ cell, state.cell = some cell →
    state.since cell.owner = some (cell.expiresAt - lifetime)

/-- A lock is held until it expires. -/
theorem holder_iff {state : State ω} {worker : ω} :
    state.holder = some worker ↔
      ∃ cell, state.cell = some cell ∧ state.now < cell.expiresAt ∧ cell.owner = worker := by
  simp [State.holder, Option.filter_eq_some_iff, and_assoc]

/-- A worker within its lifetime is the holder. -/
theorem current_holder {lifetime : Int} {state : State ω} (kept : Kept lifetime state) {worker : ω}
    (current : Current lifetime state worker) : state.holder = some worker := by
  obtain ⟨acquired, since, unexpired⟩ := current
  exact holder_iff.mpr ⟨_, kept.guarded worker acquired since unexpired, unexpired, rfl⟩

/-- The holder is within its lifetime. -/
theorem holder_current {lifetime : Int} {state : State ω} (kept : Kept lifetime state) {worker : ω}
    (held : state.holder = some worker) : Current lifetime state worker := by
  obtain ⟨cell, stored, unexpired, rfl⟩ := holder_iff.mp held
  exact ⟨cell.expiresAt - lifetime, kept.owned cell stored, by omega⟩

/-- At most one worker is within its lifetime. -/
theorem current_unique {lifetime : Int} {state : State ω} (kept : Kept lifetime state)
    {worker other : ω} (current : Current lifetime state worker)
    (also : Current lifetime state other) : worker = other := by
  have first := current_holder kept current
  have second := current_holder kept also
  exact Option.some.inj (first.symm.trans second)

/-- A deletion removes at most the deleter's own lock if and only if it follows the
discipline. -/
theorem delete_own_iff {lifetime : Int} {state : State ω} (kept : Kept lifetime state)
    (worker : ω) :
    (∀ removed, state.holder = some removed → removed = worker) ↔
      OwnDelete lifetime state worker := by
  constructor
  · intro own
    cases held : state.holder with
    | none => exact Or.inl held
    | some removed =>
      have same : removed = worker := own removed held
      exact Or.inr (holder_current kept (same ▸ held))
  · rintro (free | current) removed held
    · rw [free] at held
      cases held
    · rw [current_holder kept current] at held
      exact (Option.some.inj held).symm

/-- Nobody is within its lifetime while the lock is free. -/
theorem free_expired {lifetime : Int} {state : State ω} (kept : Kept lifetime state)
    (free : state.holder = none) (worker : ω) : ¬ Current lifetime state worker := by
  intro current
  rw [current_holder kept current] at free
  cases free

variable [DecidableEq ω]

def State.acquire (state : State ω) (lifetime : Int) (worker : ω) : State ω :=
  { state with
    cell := some ⟨worker, state.now + lifetime⟩
    since := Function.update state.since worker (some state.now) }

def State.delete (state : State ω) (worker : ω) : State ω :=
  { state with cell := none, since := Function.update state.since worker none }

/-- Steps under the deletion discipline. Time passes by any amount. -/
inductive Step (lifetime : Int) : State ω → List (Event ω) → State ω → Prop
  | idle (state : State ω) : Step lifetime state [] state
  | pass (state : State ω) (later : Int) (passed : state.now ≤ later) :
      Step lifetime state [] { state with now := later }
  | acquire (state : State ω) (worker : ω) (free : state.holder = none) :
      Step lifetime state [.acquired worker] (state.acquire lifetime worker)
  | delete (state : State ω) (worker : ω) (own : OwnDelete lifetime state worker) :
      Step lifetime state [.deleted worker state.holder] (state.delete worker)

/-- A step keeps to the lifetime of the lock. -/
theorem step_kept {lifetime : Int} {state next : State ω} {observed : List (Event ω)}
    (kept : Kept lifetime state) (step : Step lifetime state observed next) :
    Kept lifetime next := by
  cases step with
  | idle => exact kept
  | pass later passed =>
    refine ⟨?_, kept.owned⟩
    intro worker acquired since unexpired
    have earlier : state.now < acquired + lifetime := by
      simp only at unexpired
      omega
    exact kept.guarded worker acquired since earlier
  | acquire worker free =>
    constructor
    · intro other acquired since unexpired
      simp only [State.acquire, Function.update_apply] at since unexpired ⊢
      by_cases here : other = worker
      · subst here
        rw [if_pos rfl, Option.some.injEq] at since
        rw [since]
      · rw [if_neg here] at since
        exact absurd ⟨acquired, since, unexpired⟩ (free_expired kept free other)
    · intro cell stored
      simp only [State.acquire, Option.some.injEq] at stored
      subst stored
      simp [State.acquire]
  | delete worker own =>
    constructor
    · intro other acquired since unexpired
      simp only [State.delete, Function.update_apply] at since unexpired
      by_cases here : other = worker
      · rw [if_pos here] at since
        cases since
      · rw [if_neg here] at since
        have held := current_holder kept ⟨acquired, since, unexpired⟩
        exact absurd ((delete_own_iff kept worker).mpr own other held) here
    · intro cell stored
      cases stored

/-- Every deletion of a history removed no lock, or the deleter's own. -/
def OwnDeletions (history : List (Event ω)) : Prop :=
  ∀ worker removed, .deleted worker (some removed) ∈ history → removed = worker

/-- It deletes only what is its own. -/
theorem step_deletions {lifetime : Int} {state next : State ω} {observed : List (Event ω)}
    (kept : Kept lifetime state) (step : Step lifetime state observed next) :
    OwnDeletions observed := by
  intro worker removed member
  cases step with
  | delete deleter disciplined =>
    simp only [List.mem_singleton, Event.deleted.injEq] at member
    obtain ⟨rfl, held⟩ := member
    exact (delete_own_iff kept worker).mpr disciplined removed held.symm
  | _ => simp at member

/-- What the discipline guarantees along a whole run. -/
theorem run_kept {lifetime : Int} {start state : State ω} {history : List (Event ω)}
    (initially : Kept lifetime start) (run : Run (Step lifetime) start history state) :
    OwnDeletions history ∧ Kept lifetime state := by
  refine run.invariant (fun history state => OwnDeletions history ∧ Kept lifetime state)
    ⟨by simp [OwnDeletions], initially⟩ ?_
  rintro _ history observed before after ⟨own, kept⟩ step
  refine ⟨?_, step_kept kept step⟩
  intro worker removed member
  rcases List.mem_append.mp member with old | new
  · exact own worker removed old
  · exact step_deletions kept step worker removed new

end PlanBuddy.TimedLock
