/-!
# Parties at the positions of a list

A concurrent system keeps its parties in a list: a new party joins at the end, a step
moves the party at one position. What holds of any two parties at different positions
is kept by a step once it holds between the party that moved and each of the others.
-/

namespace PlanBuddy.Parties

universe u
variable {α : Type u}

/-- A party has either not moved or is the one at the moved position. -/
theorem set_cases {parties : List α} {index position : Nat} {moved other : α}
    (found : (parties.set index moved)[position]? = some other) :
    (position = index ∧ other = moved) ∨ (position ≠ index ∧ parties[position]? = some other) := by
  rw [List.getElem?_set] at found
  split at found
  · next same =>
    split at found
    · exact Or.inl ⟨same.symm, (Option.some.inj found).symm⟩
    · cases found
  · next different => exact Or.inr ⟨fun same => different same.symm, found⟩

/-- The same without its own position. -/
theorem mem_set_cases {parties : List α} {index : Nat} {moved other : α}
    (member : other ∈ parties.set index moved) :
    other = moved ∨ ∃ position, position ≠ index ∧ parties[position]? = some other := by
  obtain ⟨position, found⟩ := List.mem_iff_getElem?.mp member
  rcases set_cases found with ⟨-, same⟩ | ⟨away, old⟩
  · exact Or.inl same
  · exact Or.inr ⟨position, away, old⟩

/-- The party that moved is where it was. -/
theorem set_moved {parties : List α} {index : Nat} {moving : α} (moved : α)
    (stored : parties[index]? = some moving) : (parties.set index moved)[index]? = some moved :=
  List.getElem?_set_self (List.getElem?_eq_some_iff.mp stored).1

/-- So are the parties that did not move. -/
theorem set_other {parties : List α} {index position : Nat} {moving other : α} (moved : α)
    (stored : parties[index]? = some moving) (found : parties[position]? = some other)
    (different : other ≠ moving) : (parties.set index moved)[position]? = some other := by
  have away : index ≠ position := by
    rintro rfl
    exact different (Option.some.inj (found.symm.trans stored))
  exact (List.getElem?_set_ne away).trans found

/-- The same for membership. -/
theorem mem_set_other {parties : List α} {index : Nat} {moving moved other : α}
    (stored : parties[index]? = some moving) (member : other ∈ parties)
    (different : other ≠ moving) : other ∈ parties.set index moved := by
  obtain ⟨position, found⟩ := List.mem_iff_getElem?.mp member
  exact List.mem_of_getElem? (set_other moved stored found different)

/-- What holds of some party, and still holds of the one that moved, holds of some party. -/
theorem exists_set {parties : List α} {holds : α → Prop} {index : Nat} {moving moved : α}
    (stored : parties[index]? = some moving) (keeps : holds moving → holds moved)
    (before : ∃ party ∈ parties, holds party) : ∃ party ∈ parties.set index moved, holds party := by
  obtain ⟨party, member, held⟩ := before
  obtain ⟨position, found⟩ := List.mem_iff_getElem?.mp member
  by_cases here : index = position
  · subst here
    obtain rfl : moving = party := Option.some.inj (stored.symm.trans found)
    exact ⟨moved, List.mem_of_getElem? (set_moved moved stored), keeps held⟩
  · refine ⟨party, List.mem_of_getElem? (i := position) ?_, held⟩
    rw [List.getElem?_set_ne here]
    exact found

/-- A party was there before or has just joined. -/
theorem append_cases {parties : List α} {position : Nat} {joined other : α}
    (found : (parties ++ [joined])[position]? = some other) :
    (position = parties.length ∧ other = joined) ∨ parties[position]? = some other := by
  rw [List.getElem?_append] at found
  split at found
  · exact Or.inr found
  · have last := List.mem_of_getElem? found
    have inside := (List.getElem?_eq_some_iff.mp found).1
    rw [List.mem_singleton] at last
    rw [List.length_singleton] at inside
    exact Or.inl ⟨by omega, last⟩

section Apart

variable {law : α → α → Prop} {parties : List α}

/-- The law holds between any two parties. -/
def Apart (law : α → α → Prop) (parties : List α) : Prop :=
  ∀ (left right : Nat) (one other : α), left ≠ right → parties[left]? = some one →
    parties[right]? = some other → law one other

/-- Parties stay apart when one of them moves within the law. -/
theorem apart_set {index : Nat} {moved : α}
    (symmetric : ∀ {one other : α}, law one other → law other one) (apart : Apart law parties)
    (lawful : ∀ position other, position ≠ index → parties[position]? = some other →
      law moved other) : Apart law (parties.set index moved) := by
  intro left right one other different foundOne foundOther
  rcases set_cases foundOne with ⟨rfl, rfl⟩ | ⟨awayOne, oldOne⟩
  · rcases set_cases foundOther with ⟨same, -⟩ | ⟨away, old⟩
    · exact absurd same.symm different
    · exact lawful right other away old
  · rcases set_cases foundOther with ⟨rfl, rfl⟩ | ⟨awayOther, oldOther⟩
    · exact symmetric (lawful left one awayOne oldOne)
    · exact apart left right one other different oldOne oldOther

/-- They stay apart when a lawful one joins. -/
theorem apart_append {joined : α}
    (symmetric : ∀ {one other : α}, law one other → law other one) (apart : Apart law parties)
    (lawful : ∀ other ∈ parties, law joined other) : Apart law (parties ++ [joined]) := by
  intro left right one other different foundOne foundOther
  rcases append_cases foundOne with ⟨rfl, rfl⟩ | oldOne
  · rcases append_cases foundOther with ⟨same, -⟩ | oldOther
    · exact absurd same.symm different
    · exact lawful other (List.mem_of_getElem? oldOther)
  · rcases append_cases foundOther with ⟨rfl, rfl⟩ | oldOther
    · exact symmetric (lawful one (List.mem_of_getElem? oldOne))
    · exact apart left right one other different oldOne oldOther

end Apart

section Shares

/-- What all parties have together. -/
def shares (share : α → Nat) : List α → Nat
  | [] => 0
  | first :: rest => share first + shares share rest

variable {share : α → Nat} {parties : List α}

/-- It brings its share. -/
theorem shares_append (joined : α) :
    shares share (parties ++ [joined]) = shares share parties + share joined := by
  induction parties with
  | nil => exact Nat.add_comm _ _
  | cons first rest inductionHypothesis =>
    simp only [List.cons_append, shares, inductionHypothesis]
    omega

/-- A step changes the total by the share of the party that moved. -/
theorem shares_set {index : Nat} {moving : α} (moved : α)
    (stored : parties[index]? = some moving) :
    shares share (parties.set index moved) + share moving =
      shares share parties + share moved := by
  induction parties generalizing index with
  | nil => simp at stored
  | cons first rest inductionHypothesis =>
    cases index with
    | zero =>
      obtain rfl : first = moving := by simpa using stored
      simp only [shares, List.set_cons_zero]
      omega
    | succ index =>
      have moved := inductionHypothesis (by simpa using stored)
      simp only [shares, List.set_cons_succ] at moved ⊢
      omega

/-- What is there is somebody's. -/
theorem exists_share (some : 0 < shares share parties) : ∃ party ∈ parties, 0 < share party := by
  induction parties with
  | nil => cases some
  | cons first rest inductionHypothesis =>
    rcases Nat.eq_zero_or_pos (share first) with none | own
    · simp only [shares, none, Nat.zero_add] at some
      obtain ⟨party, member, positive⟩ := inductionHypothesis some
      exact ⟨party, .tail first member, positive⟩
    · exact ⟨first, .head rest, own⟩

end Shares

end PlanBuddy.Parties
