/-!
# Runs with a recorded history

A transition relation takes a state to a next state and to the list of events
observed on the way. A run is any finite sequence of transitions from a start
state; its history is the concatenation of what was observed. Interleaving needs
no further notion: when the state holds every party, a transition is one step of
one of them.

Three rules carry every later argument. An invariant on the history and the
state that each transition preserves holds at the end of every run. Two runs
compose. A transition-by-transition simulation, by a relation or by a view, turns a
run into a run of the simulated system, whose history is the image of the original
one.
-/

namespace PlanBuddy

universe u v w x
variable {σ : Type u} {ε : Type v}

/-- States connected by transitions, with what was observed from the start on. -/
inductive Run (transition : σ → List ε → σ → Prop) (start : σ) : List ε → σ → Prop
  | start : Run transition start [] start
  | step {history observed : List ε} {state next : σ}
      (before : Run transition start history state)
      (taken : transition state observed next) :
      Run transition start (history ++ observed) next

namespace Run

variable {transition : σ → List ε → σ → Prop} {start state : σ} {history : List ε}

/-- What holds at the start and is preserved by every transition of the run holds
at its end. The step may use that its source state was reached. -/
theorem invariant (holds : List ε → σ → Prop) (initially : holds [] start)
    (preserved : ∀ {history observed : List ε} {state next : σ},
      Run transition start history state → holds history state →
        transition state observed next → holds (history ++ observed) next)
    (run : Run transition start history state) : holds history state := by
  induction run with
  | start => exact initially
  | step before taken inductionHypothesis => exact preserved before inductionHypothesis taken

/-- A run may be continued from the state it reached. -/
theorem trans {later : List ε} {final : σ} (first : Run transition start history state)
    (second : Run transition state later final) :
    Run transition start (history ++ later) final := by
  induction second with
  | start => simpa using first
  | step before taken inductionHypothesis =>
    rw [← List.append_assoc]
    exact inductionHypothesis.step taken

/-- A transition may be followed by a run. -/
theorem after {observed later : List ε} {next final : σ} (taken : transition start observed next)
    (rest : Run transition next later final) : Run transition start (observed ++ later) final := by
  have first : Run transition start ([] ++ observed) next := Run.start.step taken
  exact first.trans rest

/-- A run whose transitions all belong to a larger relation is a run of it. -/
theorem mono {wider : σ → List ε → σ → Prop}
    (included : ∀ {state next : σ} {observed : List ε},
      transition state observed next → wider state observed next)
    (run : Run transition start history state) : Run wider start history state := by
  induction run with
  | start => exact .start
  | step before taken inductionHypothesis => exact inductionHypothesis.step (included taken)

/-- A simulation carries a whole run over: states by a relation, histories by keeping
the image of each event that has one. The simulated step may use reachability. -/
theorem refines {τ : Type w} {δ : Type x} {abstract : τ → List δ → τ → Prop} {origin : τ}
    (related : σ → τ → Prop) (image : ε → Option δ) (initially : related start origin)
    (matched : ∀ {history observed : List ε} {state next : σ} {seen : τ},
      Run transition start history state → related state seen → transition state observed next →
        ∃ later, abstract seen (observed.filterMap image) later ∧ related next later)
    (run : Run transition start history state) :
    ∃ final, Run abstract origin (history.filterMap image) final ∧ related state final := by
  induction run with
  | start => exact ⟨origin, .start, initially⟩
  | step before taken inductionHypothesis =>
    obtain ⟨seen, abstractly, relates⟩ := inductionHypothesis
    obtain ⟨later, stepped, relatesLater⟩ := matched before relates taken
    rw [List.filterMap_append]
    exact ⟨later, abstractly.step stepped, relatesLater⟩

/-- The same with a view that determines the abstract state. -/
theorem simulates {τ : Type w} {δ : Type x} {abstract : τ → List δ → τ → Prop}
    (view : σ → τ) (image : ε → Option δ)
    (matched : ∀ {history observed : List ε} {state next : σ},
      Run transition start history state → transition state observed next →
        abstract (view state) (observed.filterMap image) (view next))
    (run : Run transition start history state) :
    Run abstract (view start) (history.filterMap image) (view state) := by
  obtain ⟨final, abstractly, rfl⟩ := run.refines (fun state seen => view state = seen) image rfl
    (by
      rintro history observed state next _ before rfl taken
      exact ⟨view next, matched before taken, rfl⟩)
  exact abstractly

end Run

section Histories

/-- What holds of the events of a history and of the one after it holds of all of them. -/
theorem forall_mem_snoc {holds : ε → Prop} {history : List ε} {last : ε}
    (before : ∀ event ∈ history, holds event) (now : holds last) :
    ∀ event ∈ history ++ [last], holds event := by
  intro event member
  rcases List.mem_append.mp member with old | new
  · exact before event old
  · exact List.mem_singleton.mp new ▸ now

/-- An event of a longer history is the last one, or is in the history before. -/
theorem snoc_split {history earlier later : List ε} {last event : ε}
    (split : history ++ [last] = earlier ++ event :: later) :
    (later = [] ∧ last = event ∧ history = earlier) ∨
      ∃ between, later = between ++ [last] ∧ history = earlier ++ event :: between := by
  rcases later.eq_nil_or_concat with rfl | ⟨between, final, rfl⟩
  · obtain ⟨same, ends⟩ := List.append_inj' split rfl
    exact .inl ⟨rfl, List.singleton_inj.mp ends, same⟩
  · rw [List.concat_eq_append, ← List.cons_append, ← List.append_assoc] at split
    obtain ⟨same, ends⟩ := List.append_inj' split rfl
    rw [List.concat_eq_append, List.singleton_inj.mp ends]
    exact .inr ⟨between, rfl, same⟩

end Histories

section Machines

variable {α : Type w}

/-- Transitions of a machine that either refuses an action or determines the next
state and the events observed. `allowed` restricts the states an action is taken in. -/
def takes (machine : σ → α → Option (σ × List ε)) (allowed : σ → α → Prop) :
    σ → List ε → σ → Prop :=
  fun state observed next =>
    ∃ action, allowed state action ∧ machine state action = some (next, observed)

/-- Any action in any state. -/
def anyAction : σ → α → Prop := fun _ _ => True

/-- Take the listed actions in order, stopping at the first refusal. -/
def execute (machine : σ → α → Option (σ × List ε)) :
    σ → List α → Option (σ × List ε)
  | state, [] => some (state, [])
  | state, action :: rest =>
    (machine state action).bind fun (next, observed) =>
      (execute machine next rest).map fun (final, later) => (final, observed ++ later)

/-- An executed schedule is a run of the machine. -/
theorem run_of_execute {machine : σ → α → Option (σ × List ε)} {schedule : List α}
    {state final : σ} {history : List ε}
    (executed : execute machine state schedule = some (final, history)) :
    Run (takes machine anyAction) state history final := by
  induction schedule generalizing state history with
  | nil =>
    simp only [execute, Option.some.injEq, Prod.mk.injEq] at executed
    obtain ⟨rfl, rfl⟩ := executed
    exact .start
  | cons action rest inductionHypothesis =>
    simp only [execute, Option.bind_eq_some_iff, Option.map_eq_some_iff, Prod.exists,
      Prod.mk.injEq] at executed
    obtain ⟨next, observed, taken, last, later, remaining, rfl, rfl⟩ := executed
    exact Run.after ⟨action, trivial, taken⟩ (inductionHypothesis remaining)

/-- A schedule that is not refused yields a run to where it ends. -/
theorem run_of_schedule {machine : σ → α → Option (σ × List ε)} {start : σ} (schedule : List α)
    (accepted : (execute machine start schedule).isSome) :
    Run (takes machine anyAction) start ((execute machine start schedule).get accepted).2
      ((execute machine start schedule).get accepted).1 :=
  run_of_execute (Option.some_get accepted).symm

variable {allowed : σ → α → Prop} [∀ state action, Decidable (allowed state action)]

/-- The machine that also refuses what is not allowed. -/
def restrict (machine : σ → α → Option (σ × List ε)) (allowed : σ → α → Prop)
    [∀ state action, Decidable (allowed state action)] : σ → α → Option (σ × List ε) :=
  fun state action => if allowed state action then machine state action else none

/-- A schedule of allowed actions that is not refused yields a run of them. -/
theorem run_of_restricted {machine : σ → α → Option (σ × List ε)} {start : σ}
    (schedule : List α) (accepted : (execute (restrict machine allowed) start schedule).isSome) :
    Run (takes machine allowed) start
      ((execute (restrict machine allowed) start schedule).get accepted).2
      ((execute (restrict machine allowed) start schedule).get accepted).1 := by
  refine (run_of_schedule schedule accepted).mono ?_
  rintro state next observed ⟨action, -, taken⟩
  rw [restrict, Option.ite_none_right_eq_some] at taken
  exact ⟨action, taken.1, taken.2⟩

end Machines

end PlanBuddy
