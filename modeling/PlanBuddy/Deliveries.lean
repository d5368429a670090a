import Mathlib.Data.Multiset.Basic

/-!
# Deliveries of events

Events that happened some number of times each are delivered at least that often,
in any order. Where the steps for any two of the events commute and each is
idempotent, the state a delivery ends in depends on nothing but which events
happened. The rules are about arbitrary steps on an arbitrary state.
-/

namespace PlanBuddy

universe u v
variable {σ : Type u} {ε : Type v}

/-- Every event that happened arrives at least as often as it happened, and no other. -/
structure Delivers (happened : Multiset ε) (delivered : List ε) : Prop where
  atLeastOnce : happened ≤ (delivered : Multiset ε)
  nothingElse : ∀ event ∈ delivered, event ∈ happened

/-- What was delivered is what happened, multiplicities apart. -/
theorem Delivers.mem_iff {happened : Multiset ε} {delivered : List ε}
    (delivers : Delivers happened delivered) {event : ε} : event ∈ delivered ↔ event ∈ happened := by
  constructor
  · exact delivers.nothingElse event
  · intro occurred
    exact Multiset.mem_coe.mp (Multiset.mem_of_le delivers.atLeastOnce occurred)

/-- Each event exactly as often as it happened, in some order. -/
theorem delivers_perm {happened delivered : List ε} (order : delivered.Perm happened) :
    Delivers (happened : Multiset ε) delivered := by
  refine ⟨(Multiset.coe_le.mpr order.symm.subperm), ?_⟩
  intro event member
  exact Multiset.mem_coe.mpr (order.mem_iff.mp member)

section Confluence

variable {step : σ → ε → σ} {events : List ε}

/-- An event that the rest of the delivery contains may be taken once more in front:
it commutes up to its own place, where it is absorbed. -/
theorem foldl_absorb
    (commute : ∀ one ∈ events, ∀ other ∈ events, ∀ state,
      step (step state one) other = step (step state other) one)
    (idempotent : ∀ event ∈ events, ∀ state, step (step state event) event = step state event)
    {event : ε} (member : event ∈ events) (state : σ) :
    events.foldl step (step state event) = events.foldl step state := by
  obtain ⟨earlier, later, rfl⟩ := List.append_of_mem member
  have front : (earlier ++ event :: later).Perm (event :: (earlier ++ later)) := List.perm_middle
  rw [front.foldl_eq' commute, front.foldl_eq' commute, List.foldl_cons, List.foldl_cons,
    idempotent event member]

/-- Events that all occur in a delivery change nothing when they come in front of it. -/
theorem foldl_absorb_all
    (commute : ∀ one ∈ events, ∀ other ∈ events, ∀ state,
      step (step state one) other = step (step state other) one)
    (idempotent : ∀ event ∈ events, ∀ state, step (step state event) event = step state event)
    {repeated : List ε} (members : ∀ event ∈ repeated, event ∈ events) (state : σ) :
    events.foldl step (repeated.foldl step state) = events.foldl step state := by
  induction repeated generalizing state with
  | nil => rfl
  | cons event rest inductionHypothesis =>
    have absorbed := foldl_absorb commute idempotent (members event List.mem_cons_self) state
    rw [List.foldl_cons, ← absorbed]
    exact inductionHypothesis (fun event member => members event (List.mem_cons_of_mem _ member)) _

/-- Under commuting and idempotent steps two deliveries of the same events end in the
same state: each absorbs the other, and the two together commute. -/
theorem foldl_same_members
    (commute : ∀ one ∈ events, ∀ other ∈ events, ∀ state,
      step (step state one) other = step (step state other) one)
    (idempotent : ∀ event ∈ events, ∀ state, step (step state event) event = step state event)
    {others : List ε} (same : ∀ event, event ∈ others ↔ event ∈ events) (state : σ) :
    others.foldl step state = events.foldl step state := by
  have exchanged : (events ++ others).foldl step state = (others ++ events).foldl step state := by
    refine List.perm_append_comm.foldl_eq' ?_ state
    intro one memberOne other memberOther
    rw [List.mem_append, same, or_self] at memberOne memberOther
    exact commute one memberOne other memberOther
  rw [List.foldl_append, List.foldl_append] at exchanged
  calc others.foldl step state
      = others.foldl step (events.foldl step state) := by
        refine (foldl_absorb_all ?_ ?_ (fun event member => (same event).mpr member) state).symm
        · intro one memberOne other memberOther
          exact commute one ((same one).mp memberOne) other ((same other).mp memberOther)
        · intro event member
          exact idempotent event ((same event).mp member)
    _ = events.foldl step (others.foldl step state) := exchanged
    _ = events.foldl step state :=
        foldl_absorb_all commute idempotent (fun event member => (same event).mp member) state

end Confluence

end PlanBuddy
