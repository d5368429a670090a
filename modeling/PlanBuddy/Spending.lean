import Mathlib.Algebra.Order.BigOperators.Group.List
import PlanBuddy.Runs

/-!
# Spending against a potential

Every event of a run has a price, which may be negative, and every state a potential.
When no transition spends more than the potential drops by, a whole run spends at most
what the potential has dropped by since its start.
-/

namespace PlanBuddy.Spending

universe u v w
variable {σ : Type u} {ε : Type v} {κ : Type w} [AddCommMonoid κ]

/-- The price of a whole history. -/
def spent (price : ε → κ) (history : List ε) : κ := (history.map price).sum

variable {price : ε → κ}

/-- Without events nothing is spent. -/
@[simp] theorem spent_nil : spent price [] = 0 := rfl

/-- Events add up. -/
theorem spent_append (earlier later : List ε) :
    spent price (earlier ++ later) = spent price earlier + spent price later := by
  rw [spent, List.map_append, List.sum_append, spent, spent]

/-- One event costs its price. -/
theorem spent_singleton (event : ε) : spent price [event] = price event := by
  rw [spent, List.map_singleton, List.sum_singleton]

variable [PartialOrder κ] [IsOrderedAddMonoid κ] {transition : σ → List ε → σ → Prop}
  {start state : σ} {history : List ε}

/-- What is spent and what is left never exceed what there was. -/
theorem run_spent (potential : σ → κ)
    (paid : ∀ {history observed : List ε} {state next : σ}, Run transition start history state →
      transition state observed next → spent price observed + potential next ≤ potential state)
    (run : Run transition start history state) :
    spent price history + potential state ≤ potential start := by
  apply run.invariant (fun history state => spent price history + potential state ≤ potential start)
  · rw [spent_nil, zero_add]
  · intro history observed state next before bound taken
    calc spent price (history ++ observed) + potential next
        = spent price history + (spent price observed + potential next) := by
          rw [spent_append, add_assoc]
      _ ≤ spent price history + potential state := add_le_add_right (paid before taken) _
      _ ≤ potential start := bound

end PlanBuddy.Spending
