import Mathlib.Data.List.MinMax
import Mathlib.Logic.Relation

/-!
# Locks taken in a fixed order

Parties wait for each other. If every party waits only for parties of a greater rank,
as when locks are taken in a fixed order of their classes, then no chain of waits
returns to where it started, and among finitely many unfinished parties one does not
wait at all.
-/

namespace PlanBuddy.LockOrder

universe u
variable {α : Type u} {waits : α → α → Prop} {rank : α → Nat}

/-- Along a chain of waits the rank increases. -/
theorem chain_rises (rises : ∀ waiter holder, waits waiter holder → rank waiter < rank holder)
    {first last : α} (chain : Relation.TransGen waits first last) : rank first < rank last := by
  induction chain with
  | single waiting => exact rises _ _ waiting
  | tail _ waiting inductionHypothesis => exact inductionHypothesis.trans (rises _ _ waiting)

/-- No party waits for itself through others. -/
theorem no_cycle (rises : ∀ waiter holder, waits waiter holder → rank waiter < rank holder)
    (party : α) : ¬ Relation.TransGen waits party party :=
  fun chain => Nat.lt_irrefl _ (chain_rises rises chain)

/-- Among finitely many parties that wait for each other only, one does not wait: a
party of the greatest rank. -/
theorem exists_unblocked
    (rises : ∀ waiter holder, waits waiter holder → rank waiter < rank holder)
    {parties : List α} (closed : ∀ waiter ∈ parties, ∀ holder, waits waiter holder → holder ∈ parties)
    (unfinished : parties ≠ []) : ∃ party ∈ parties, ∀ holder, ¬ waits party holder := by
  have present : parties.argmax rank ≠ none :=
    fun missing => unfinished (List.argmax_eq_none.mp missing)
  obtain ⟨top, isTop⟩ := Option.ne_none_iff_exists'.mp present
  have member : top ∈ parties := List.argmax_mem isTop
  refine ⟨top, member, ?_⟩
  intro holder waiting
  have bounded : rank holder ≤ rank top := List.le_of_mem_argmax (closed top member holder waiting) isTop
  have above := rises top holder waiting
  omega

end PlanBuddy.LockOrder
