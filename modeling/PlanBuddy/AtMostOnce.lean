import PlanBuddy.Runs

/-!
# At most one success

What a front that removes duplicates stands for. Many requests ask for one piece
of work. The work may be attempted until an attempt succeeds and not afterwards.
A request is turned away with a fixed answer, or it is given the result of the
successful attempt, or the result of its own.

The state is the list of results so far. That a run has at most one success, and
that each of its answers is one of the three, is proved here once; a program is
compared with these steps by a simulation.
-/

namespace PlanBuddy.AtMostOnce

universe u v
variable {ω : Type u} {ρ : Type v}

inductive Event (ω : Type u) (ρ : Type v) where
  | executed (request : ω) (result : ρ)
  | refused (request : ω) (answer : ρ)
  | replayed (request : ω) (answer : ρ)
  | returned (request : ω) (answer : ρ)

variable (successful : ρ → Bool) (busy : ρ)

/-- One attempt, or one answer. The open work is what `execute` needs. -/
inductive Step : List (ω × ρ) → List (Event ω ρ) → List (ω × ρ) → Prop
  | idle (results : List (ω × ρ)) : Step results [] results
  | execute (results : List (ω × ρ)) (request : ω) (result : ρ)
      (unfinished : ∀ entry ∈ results, successful entry.2 = false) :
      Step results [.executed request result] (results ++ [(request, result)])
  | refuse (results : List (ω × ρ)) (request : ω) :
      Step results [.refused request busy] results
  | replay (results : List (ω × ρ)) (request winner : ω) (answer : ρ)
      (finished : (winner, answer) ∈ results) (success : successful answer = true) :
      Step results [.replayed request answer] results
  | give (results : List (ω × ρ)) (request : ω) (answer : ρ) (own : (request, answer) ∈ results) :
      Step results [.returned request answer] results

def execution : Event ω ρ → Option (ω × ρ)
  | .executed request result => some (request, result)
  | _ => none

/-- The successful attempts of a history. -/
def successes (history : List (Event ω ρ)) : List (ω × ρ) :=
  (history.filterMap execution).filter (fun entry => successful entry.2)

/-- The successes of a longer history. -/
theorem successes_append (before after : List (Event ω ρ)) :
    successes successful (before ++ after) =
      successes successful before ++ successes successful after := by
  simp [successes]

variable {successful busy} {history : List (Event ω ρ)} {results : List (ω × ρ)}

/-- The state of a run is what its history executed. -/
theorem run_results (run : Run (Step successful busy) [] history results) :
    results = history.filterMap execution := by
  refine run.invariant (fun history results => results = history.filterMap execution) rfl ?_
  rintro history observed state next - rfl step
  rw [List.filterMap_append]
  cases step <;> simp [execution]

/-- A run has at most one successful attempt. -/
theorem run_once (run : Run (Step successful busy) [] history results) :
    (successes successful history).length ≤ 1 := by
  refine run.invariant (fun history _ => (successes successful history).length ≤ 1)
    (by simp [successes]) ?_
  intro history observed state next before once step
  rw [successes_append]
  cases step with
  | execute request result unfinished =>
    -- the attempt that may succeed is made while no other has
    have none : successes successful history = [] := by
      rw [successes, ← run_results before, List.filter_eq_nil_iff]
      intro entry member
      simp [unfinished entry member]
    rw [none, List.nil_append]
    exact Nat.le_trans (List.length_filter_le _ _) (by simp [execution])
  | _ => simpa [successes, execution, List.filterMap_cons] using once

/-- A success is the only one. -/
theorem only_success (run : Run (Step successful busy) [] history results) {winner : ω} {result : ρ}
    (success : (winner, result) ∈ successes successful history) :
    successes successful history = [(winner, result)] := by
  have once := run_once run
  match successes successful history, success, once with
  | [_], success, _ => rw [List.mem_singleton.mp success]

/-- What an answer rests on. -/
def Grounded (successful : ρ → Bool) (busy : ρ) (history : List (Event ω ρ)) : Event ω ρ → Prop
  | .executed _ _ => True
  | .refused _ answer => answer = busy
  | .replayed _ answer => ∃ winner, (winner, answer) ∈ successes successful history
  | .returned request answer => (request, answer) ∈ history.filterMap execution

/-- What has its grounds keeps them. -/
theorem grounded_append {event : Event ω ρ} (later : List (Event ω ρ))
    (grounded : Grounded successful busy history event) :
    Grounded successful busy (history ++ later) event := by
  cases event with
  | executed request result => trivial
  | refused request answer => exact grounded
  | replayed request answer =>
    obtain ⟨winner, member⟩ := grounded
    rw [Grounded, successes_append]
    exact ⟨winner, List.mem_append_left _ member⟩
  | returned request answer =>
    rw [Grounded, List.filterMap_append]
    exact List.mem_append_left _ grounded

/-- A step has its grounds. -/
theorem step_grounded {observed : List (Event ω ρ)} {next : List (ω × ρ)}
    (run : Run (Step successful busy) [] history results)
    (step : Step successful busy results observed next) :
    ∀ event ∈ observed, Grounded successful busy history event := by
  have same := run_results run
  cases step with
  | idle => simp
  | execute request result unfinished => simp [Grounded]
  | refuse request => simp [Grounded]
  | replay request winner answer finished success =>
    rw [List.forall_mem_singleton]
    exact ⟨winner, List.mem_filter.mpr ⟨same ▸ finished, success⟩⟩
  | give request answer own =>
    rw [List.forall_mem_singleton, Grounded, ← same]
    exact own

/-- Every answer of a run is the refusal, the result of a success, or the result of the
request's own attempt. -/
theorem run_grounded (run : Run (Step successful busy) [] history results) :
    ∀ event ∈ history, Grounded successful busy history event := by
  refine run.invariant (fun history _ => ∀ event ∈ history, Grounded successful busy history event)
    (by simp) ?_
  intro history observed state next before grounded step event member
  refine grounded_append observed ?_
  rcases List.mem_append.mp member with old | new
  · exact grounded event old
  · exact step_grounded before step event new

/-- The success behind a replay is the only one. -/
theorem replayed_success (run : Run (Step successful busy) [] history results) {request : ω}
    {answer : ρ} (member : .replayed request answer ∈ history) :
    ∃ winner, successes successful history = [(winner, answer)] := by
  obtain ⟨winner, success⟩ := run_grounded run _ member
  exact ⟨winner, only_success run success⟩

/-- A request given the result of its own attempt made the only success, or failed. -/
theorem returned_success (run : Run (Step successful busy) [] history results) {request : ω}
    {answer : ρ} (member : .returned request answer ∈ history) :
    successes successful history = [(request, answer)] ∨
      (request, answer) ∈ history.filterMap execution ∧ successful answer = false := by
  have own : (request, answer) ∈ history.filterMap execution := run_grounded run _ member
  cases outcome : successful answer with
  | false => exact Or.inr ⟨own, rfl⟩
  | true => exact Or.inl (only_success run (List.mem_filter.mpr ⟨own, outcome⟩))

end PlanBuddy.AtMostOnce
