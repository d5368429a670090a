import PlanBuddy.Runs
import Mathlib.Logic.Function.Basic

/-!
# The cache of active users

`isUserActive` and `invalidateUserActiveCache` of `middleware/index.js`, for one user and with
Redis working. A call asks the cache, reads the row after a miss, and returns while the SET
that fills the cache is still on its way; it may reach Redis at any later time. NULL in
`is_active` counts as false. The lifetime of the key may end at any time.
-/

namespace PlanBuddy.ActiveCache

section Model

/-- Where a call is. -/
inductive Phase where
  | unborn
  | getting
  | querying
  | done

inductive Stage where
  | active
  | deactivated
  | invalidated
deriving DecidableEq

structure World where
  row : Option Bool
  cache : Option String
  /-- The SETs on their way. -/
  fills : List String
  calls : Nat → Phase
  next : Nat
  stage : Stage

inductive Event where
  | begun (call : Nat)
  | returned (call : Nat) (answer : Bool)

def flag (isActive : Bool) : String := if isActive then "1" else "0"

/-- What a call returns from the cache. -/
def fromCache (cached : String) : Bool := decide (cached = "1")

/-- What a call returns from the row, and the SET that it sends. -/
def fromRow : Option Bool → Bool × Option String
  | none => (false, none)
  | some isActive => (isActive, some (flag isActive))

def World.moved (world : World) (call : Nat) (phase : Phase) : World :=
  { world with calls := Function.update world.calls call phase }

def begin (world : World) : World :=
  { world.moved world.next .getting with next := world.next + 1 }

def deactivate (world : World) : World :=
  { world with row := world.row.map fun _ => false, stage := .deactivated }

/-- `invalidateUserActiveCache`. -/
def invalidate (world : World) : World := { world with cache := none, stage := .invalidated }

inductive Step : World → List Event → World → Prop
  | begun (world : World) : Step world [.begun world.next] (begin world)
  | hit {world : World} {call : Nat} {cached : String} (asks : world.calls call = .getting)
      (stored : world.cache = some cached) :
      Step world [.returned call (fromCache cached)] (world.moved call .done)
  | missed {world : World} {call : Nat} (asks : world.calls call = .getting)
      (absent : world.cache = none) : Step world [] (world.moved call .querying)
  | queried {world : World} {call : Nat} (asks : world.calls call = .querying) :
      Step world [.returned call (fromRow world.row).1]
        { world.moved call .done with fills := world.fills ++ (fromRow world.row).2.toList }
  | failed {world : World} {call : Nat} (asks : world.calls call = .querying) :
      Step world [.returned call false] (world.moved call .done)
  | filled {world : World} {before after : List String} {value : String}
      (sent : world.fills = before ++ value :: after) :
      Step world [] { world with cache := some value, fills := before ++ after }
  | expired (world : World) : Step world [] { world with cache := none }
  | deactivated {world : World} (first : world.stage = .active) : Step world [] (deactivate world)
  | invalidated {world : World} (second : world.stage = .deactivated) :
      Step world [] (invalidate world)

/-- Every call that is begun has returned false, or may still do so and has not returned. -/
def Refused (history : List Event) (world : World) : Prop :=
  ∀ call, .begun call ∈ history → .returned call true ∉ history ∧
    (.returned call false ∈ history ∨
      ∃ later final, Run Step world later final ∧ .returned call false ∈ later)

/-- However it goes on after the DEL, every call begun from then on is refused. -/
def Settled (world : World) : Prop :=
  ∀ later final, Run Step (invalidate world) later final → Refused later final

end Model

section Runs

variable {start world final : World} {history later : List Event}

/-- From the deactivation on the row is not active. -/
def Deactivated (world : World) : Prop := world.stage ≠ .active → world.row ≠ some true

/-- A deactivated account stays so. -/
theorem step_deactivated {observed : List Event} {next : World} (inactive : Deactivated world)
    (step : Step world observed next) : Deactivated next := by
  cases step with
  | begun | hit asks stored | missed asks absent | queried asks | failed asks | filled sent
  | expired => exact inactive
  | deactivated first =>
    intro _
    cases row : world.row <;> simp [deactivate, row]
  | invalidated second =>
    intro _
    exact inactive (by simp [second])

/-- After the DEL nothing is left that says that the user is active. -/
structure Forgotten (world : World) : Prop where
  stage : world.stage = .invalidated
  row : world.row ≠ some true
  cache : world.cache ≠ some "1"
  fills : "1" ∉ world.fills

/-- Its row is answered and cached as inactive. -/
theorem fromRow_inactive {row : Option Bool} (inactive : row ≠ some true) :
    (fromRow row).1 = false ∧ "1" ∉ (fromRow row).2.toList := by
  cases row with
  | none => simp [fromRow]
  | some isActive =>
    obtain rfl : isActive = false := by simpa using inactive
    simp [fromRow, flag]

/-- A world that has forgotten stays so, and returns false. -/
theorem step_forgotten {observed : List Event} {next : World} (forgotten : Forgotten world)
    (step : Step world observed next) :
    Forgotten next ∧ ∀ call, .returned call true ∉ observed := by
  obtain ⟨stage, row, cache, fills⟩ := forgotten
  have refused := fromRow_inactive row
  cases step with
  | begun => exact ⟨⟨stage, row, cache, fills⟩, by simp⟩
  | @hit call cached asks stored =>
    refine ⟨⟨stage, row, cache, fills⟩, ?_⟩
    have other : cached ≠ "1" := by
      rintro rfl
      exact cache stored
    simp [fromCache, other]
  | missed asks absent => exact ⟨⟨stage, row, cache, fills⟩, by simp⟩
  | queried asks =>
    refine ⟨⟨stage, row, cache, ?_⟩, by simp [refused.1]⟩
    exact fun member => (List.mem_append.mp member).elim fills refused.2
  | failed asks => exact ⟨⟨stage, row, cache, fills⟩, by simp⟩
  | @filled before after value sent =>
    rw [sent] at fills
    refine ⟨⟨stage, row, ?_, ?_⟩, by simp⟩
    · rintro same
      exact fills (List.mem_append_right _ (Option.some.inj same ▸ List.mem_cons_self ..))
    · intro member
      rcases List.mem_append.mp member with old | new
      · exact fills (List.mem_append_left _ old)
      · exact fills (List.mem_append_right _ (List.mem_cons_of_mem _ new))
  | expired => exact ⟨⟨stage, row, by simp, fills⟩, by simp⟩
  | deactivated first =>
    rw [stage] at first
    cases first
  | invalidated second =>
    rw [stage] at second
    cases second

/-- Once nothing remembers it as active, no call answers so. -/
theorem run_forgotten (forgotten : Forgotten world) (run : Run Step world later final) :
    Forgotten final ∧ ∀ call, .returned call true ∉ later := by
  refine run.invariant (fun later final => Forgotten final ∧ ∀ call, .returned call true ∉ later)
    ⟨forgotten, by simp⟩ ?_
  rintro history observed state next - ⟨forgotten, refused⟩ step
  obtain ⟨after, alsoRefused⟩ := step_forgotten forgotten step
  refine ⟨after, ?_⟩
  intro call member
  exact (List.mem_append.mp member).elim (refused call) (alsoRefused call)

/-- A call that is begun is under way or has returned. -/
def Accounted (history : List Event) (world : World) : Prop :=
  ∀ call, .begun call ∈ history → world.calls call = .getting ∨ world.calls call = .querying ∨
    ∃ answer, .returned call answer ∈ history

/-- A call that moves is accounted for. -/
theorem moved_accounted {mover : Nat} {phase : Phase} {observed : List Event}
    (accounted : Accounted history world)
    (mine : phase = .getting ∨ phase = .querying ∨ ∃ answer, .returned mover answer ∈ observed)
    (begun : ∀ call, .begun call ∈ observed → call = mover) :
    ∀ call, .begun call ∈ history ++ observed → (world.moved mover phase).calls call = .getting ∨
      (world.moved mover phase).calls call = .querying ∨
        ∃ answer, .returned call answer ∈ history ++ observed := by
  intro call member
  by_cases same : call = mover
  · subst same
    simp only [World.moved, Function.update_self]
    exact mine.imp_right (Or.imp_right fun ⟨answer, returned⟩ =>
      ⟨answer, List.mem_append_right _ returned⟩)
  · have before : .begun call ∈ history :=
      (List.mem_append.mp member).resolve_right fun new => same (begun call new)
    simp only [World.moved, Function.update_of_ne same]
    exact (accounted call before).imp_right (Or.imp_right fun ⟨answer, returned⟩ =>
      ⟨answer, List.mem_append_left _ returned⟩)

/-- So is every call after a step. -/
theorem step_accounted {observed : List Event} {next : World}
    (accounted : Accounted history world) (step : Step world observed next) :
    Accounted (history ++ observed) next := by
  cases step with
  | begun => exact moved_accounted accounted (.inl rfl) (by simp)
  | hit asks stored =>
    exact moved_accounted accounted (.inr (.inr ⟨_, List.mem_singleton_self _⟩)) (by simp)
  | missed asks absent => exact moved_accounted accounted (.inr (.inl rfl)) (by simp)
  | queried asks =>
    exact moved_accounted accounted (.inr (.inr ⟨_, List.mem_singleton_self _⟩)) (by simp)
  | failed asks =>
    exact moved_accounted accounted (.inr (.inr ⟨_, List.mem_singleton_self _⟩)) (by simp)
  | filled sent | expired | deactivated first | invalidated second =>
    rw [List.append_nil]
    exact accounted

/-- So is every call after a run. -/
theorem run_accounted (run : Run Step world later final) : Accounted later final :=
  run.invariant Accounted (by simp [Accounted]) fun _ accounted step =>
    step_accounted accounted step

/-- A call that asks the database of a deactivated user returns false. -/
theorem querying_refused {world : World} {call : Nat} (row : world.row ≠ some true)
    (asks : world.calls call = .querying) :
    ∃ later final, Run Step world later final ∧ .returned call false ∈ later := by
  refine ⟨_, _, Run.after (.queried asks) .start, ?_⟩
  rw [(fromRow_inactive row).1]
  exact List.mem_cons_self ..

/-- A call that asks the cache may be refused. -/
theorem getting_refused {call : Nat} (forgotten : Forgotten world)
    (asks : world.calls call = .getting) :
    ∃ later final, Run Step world later final ∧ .returned call false ∈ later := by
  cases cache : world.cache with
  | none =>
    have moved : (world.moved call .querying).calls call = .querying := Function.update_self ..
    have row : (world.moved call .querying).row ≠ some true := forgotten.row
    obtain ⟨later, final, run, returned⟩ := querying_refused row moved
    exact ⟨_, _, Run.after (.missed asks cache) run, returned⟩
  | some cached =>
    have other : cached ≠ "1" := by
      rintro rfl
      exact forgotten.cache cache
    have answer : fromCache cached = false := decide_eq_false other
    refine ⟨_, _, Run.after (.hit asks cache) .start, ?_⟩
    rw [answer]
    exact List.mem_cons_self ..

/-- A SET that the DEL overtakes makes the next call return true. -/
theorem overtaken_accepted (sent : "1" ∈ world.fills) : ¬ Settled world := by
  obtain ⟨before, after, fills⟩ := List.append_of_mem sent
  let filled : World := { invalidate world with cache := some "1", fills := before ++ after }
  have lands : Step (invalidate world) [] filled := .filled fills
  have hits : Step (begin filled) [.returned world.next (fromCache "1")]
      ((begin filled).moved world.next .done) := .hit (Function.update_self ..) rfl
  intro settled
  have refused := settled _ _ (Run.after lands (Run.after (.begun filled) (Run.after hits .start)))
  exact (refused world.next (List.mem_cons_self ..)).1
    (List.mem_cons_of_mem _ (List.mem_cons_self ..))

/-- The calls begun after the DEL return false whatever comes, exactly if no SET to active is
on its way at the DEL. -/
theorem invalidation_iff (active : start.stage = .active) (run : Run Step start history world)
    (deactivated : world.stage = .deactivated) :
    Settled world ↔ "1" ∉ world.fills := by
  have inactive : Deactivated world :=
    run.invariant (fun _ => Deactivated) (fun other => absurd active other)
      fun _ before step => step_deactivated before step
  constructor
  · intro settled sent
    exact overtaken_accepted sent settled
  · intro unsent later final run call begun
    have forgotten : Forgotten (invalidate world) :=
      ⟨rfl, inactive (by simp [deactivated]), by simp [invalidate], unsent⟩
    obtain ⟨forgets, refused⟩ := run_forgotten forgotten run
    refine ⟨refused call, ?_⟩
    rcases run_accounted run call begun with getting | querying | ⟨answer, returned⟩
    · exact .inr (getting_refused forgets getting)
    · exact .inr (querying_refused forgets.row querying)
    · cases answer with
      | false => exact .inl returned
      | true => exact absurd returned (refused call)

/-- An active user, an empty cache and no call so far. -/
def sampleStart : World := ⟨some true, none, [], fun _ => .unborn, 0, .active⟩

/-- A call has read the row when the user is deactivated. -/
def sampleRead : World :=
  deactivate { (begin sampleStart).moved 0 .querying |>.moved 0 .done with fills := ["1"] }

/-- A call reads the row of the sample. -/
theorem sample_run : Run Step sampleStart [.begun 0, .returned 0 true] sampleRead :=
  Run.after (Step.begun sampleStart) (Run.after (Step.missed rfl rfl)
    (Run.after (Step.queried rfl) (Run.after (Step.deactivated rfl) .start)))

/-- The SET of the call reaches Redis after the DEL, and the next call finds it. -/
theorem read_unsettled : ¬ ∀ (start world : World) (history : List Event),
    start.stage = .active → Run Step start history world → world.stage = .deactivated →
      Settled world := by
  intro settled
  have sent : "1" ∈ sampleRead.fills := List.mem_singleton_self _
  exact overtaken_accepted sent (settled sampleStart sampleRead _ rfl sample_run rfl)

/-- Without calls the account is deactivated. -/
theorem idle_run : Run Step sampleStart [] (deactivate sampleStart) :=
  Run.after (Step.deactivated rfl) .start

/-- A user who is deactivated while no SET is on its way is refused. -/
theorem idle_settled : Settled (deactivate sampleStart) :=
  (invalidation_iff rfl idle_run rfl).mpr (by simp [deactivate, sampleStart])

end Runs

end PlanBuddy.ActiveCache
