import PlanBuddy.Runs

/-!
# Numbered ownership

A resource has at most one owner and a number. The owner may be confirmed under the
current number; anybody who takes the resource over raises the number by one. Every
grant is recorded with the owner and the number it was made under.

No number is ever granted to two owners: a grant under the current number is the
current owner's, and taking over leaves that number behind for good. This is what makes
the number usable as a fencing token.
-/

namespace PlanBuddy.Tokens

universe u
variable {ω : Type u}

structure Token (ω : Type u) where
  owner : ω
  number : Nat

inductive Step : Option (Token ω) → List (Token ω) → Option (Token ω) → Prop
  | keep (current : Option (Token ω)) : Step current [] current
  | first (token : Token ω) : Step none [token] (some token)
  | renew (token : Token ω) : Step (some token) [token] (some token)
  | take (token : Token ω) (owner : ω) :
      Step (some token) [⟨owner, token.number + 1⟩] (some ⟨owner, token.number + 1⟩)

/-- No grant is ahead of the current number, and one under it is the owner's. -/
structure Fenced (history : List (Token ω)) (current : Option (Token ω)) : Prop where
  bounded : ∀ grant ∈ history, ∃ token, current = some token ∧ grant.number ≤ token.number ∧
    (grant.number = token.number → grant = token)
  owned : ∀ one ∈ history, ∀ other ∈ history, one.number = other.number → one.owner = other.owner

/-- A token that every earlier grant is bounded by may be granted next. -/
theorem fenced_grant {history : List (Token ω)} {token : Token ω}
    (bounded : ∀ grant ∈ history, grant.number ≤ token.number ∧
      (grant.number = token.number → grant = token))
    (owned : ∀ one ∈ history, ∀ other ∈ history, one.number = other.number →
      one.owner = other.owner) : Fenced (history ++ [token]) (some token) := by
  have latest : ∀ grant ∈ history ++ [token], grant.number ≤ token.number ∧
      (grant.number = token.number → grant = token) :=
    forall_mem_snoc bounded ⟨Nat.le_refl _, fun _ => rfl⟩
  constructor
  · intro grant member
    exact ⟨token, rfl, latest grant member⟩
  · intro one memberOne other memberOther same
    rcases List.mem_append.mp memberOne with oldOne | newOne
    · rcases List.mem_append.mp memberOther with oldOther | newOther
      · exact owned one oldOne other oldOther same
      · rw [List.mem_singleton.mp newOther] at same ⊢
        rw [(bounded one oldOne).2 same]
    · rw [List.mem_singleton.mp newOne] at same ⊢
      rw [(latest other memberOther).2 same.symm]

/-- Every step keeps the numbers fenced. -/
theorem step_fenced {history observed : List (Token ω)} {before after : Option (Token ω)}
    (fenced : Fenced history before) (step : Step before observed after) :
    Fenced (history ++ observed) after := by
  cases step with
  | keep => simpa using fenced
  | first token =>
    apply fenced_grant _ fenced.owned
    intro grant member
    obtain ⟨current, absent, -⟩ := fenced.bounded grant member
    cases absent
  | renew token =>
    apply fenced_grant _ fenced.owned
    intro grant member
    obtain ⟨current, same, bound⟩ := fenced.bounded grant member
    exact Option.some.inj same ▸ bound
  | take token owner =>
    apply fenced_grant _ fenced.owned
    intro grant member
    obtain ⟨current, same, bound, -⟩ := fenced.bounded grant member
    have below : grant.number ≤ token.number := Option.some.inj same ▸ bound
    constructor
    · exact Nat.le_succ_of_le below
    · intro ahead
      have ahead : grant.number = token.number + 1 := ahead
      omega

/-- In a run, no number is granted to two owners. -/
theorem run_owned {start final : Option (Token ω)} {history : List (Token ω)}
    (run : Run Step start history final) :
    ∀ one ∈ history, ∀ other ∈ history, one.number = other.number → one.owner = other.owner := by
  have fenced : Fenced history final := by
    apply run.invariant Fenced
    · constructor <;> intro grant member <;> cases member
    · intro history observed before after _ fenced step
      exact step_fenced fenced step
  exact fenced.owned

/-- A current number never decreases. -/
theorem run_grows {start final : Option (Token ω)} {history : List (Token ω)}
    (run : Run Step start history final) {token : Token ω} (held : start = some token) :
    ∃ after, final = some after ∧ token.number ≤ after.number := by
  induction run with
  | start => exact ⟨token, held, Nat.le_refl _⟩
  | step before taken inductionHypothesis =>
    obtain ⟨middle, rfl, bound⟩ := inductionHypothesis
    cases taken with
    | keep => exact ⟨middle, rfl, bound⟩
    | renew => exact ⟨middle, rfl, bound⟩
    | take _ owner => exact ⟨_, rfl, Nat.le_succ_of_le bound⟩

end PlanBuddy.Tokens
