import Mathlib.Data.List.Basic
import Mathlib.Data.Nat.Notation

/-!
# Texts used as keys

A key is joined from parts with a separator between them. The parts are determined by the key
when the separator occurs in none before the last, and a number is determined by its decimal
text.
-/

namespace PlanBuddy.TextKeys

section Joined

variable {α : Type} {separator : α} {first other rest later : List α}

/-- The part before the first separator is determined. -/
theorem cut_unique (inFirst : separator ∉ first) (inOther : separator ∉ other)
    (same : first ++ separator :: rest = other ++ separator :: later) :
    first = other ∧ rest = later := by
  induction first generalizing other with
  | nil =>
    cases other with
    | nil => simpa using same
    | cons head tail =>
      rw [List.nil_append, List.cons_append, List.cons.injEq] at same
      exact absurd (same.1 ▸ List.mem_cons_self) inOther
  | cons head tail inductionHypothesis =>
    cases other with
    | nil =>
      rw [List.nil_append, List.cons_append, List.cons.injEq] at same
      exact absurd (same.1 ▸ List.mem_cons_self) inFirst
    | cons otherHead otherTail =>
      rw [List.cons_append, List.cons_append, List.cons.injEq] at same
      obtain ⟨sameHead, sameTail⟩ := same
      obtain ⟨tails, rests⟩ := inductionHypothesis (List.not_mem_of_not_mem_cons inFirst)
        (List.not_mem_of_not_mem_cons inOther) sameTail
      exact ⟨sameHead ▸ tails ▸ rfl, rests⟩

end Joined

section Decimal

/-- A number is written in digits. -/
theorem repr_digit {number : Nat} {char : Char} (member : char ∈ number.repr.toList) :
    char.isDigit = true := by
  rw [Nat.toList_repr] at member
  exact Nat.isDigit_of_mem_toDigits (by decide) (by decide) member

/-- Numbers are told apart by their digits. -/
theorem natRepr_injective {one other : Nat} (same : one.repr = other.repr) : one = other := by
  have digits := congrArg (fun text => Nat.ofDigitChars 10 text.toList 0) same
  simpa only [Nat.toList_repr, Nat.ofDigitChars_ten_toDigits] using digits

/-- The characters of an integer are digits, and a sign. -/
theorem intRepr_chars {number : Int} {char : Char} (member : char ∈ number.repr.toList) :
    char.isDigit = true ∨ char = '-' := by
  cases number with
  | ofNat size => exact .inl (repr_digit member)
  | negSucc size =>
    have split : char = '-' ∨ char ∈ (size + 1).repr.toList := by simpa [Int.repr] using member
    exact split.symm.imp_left repr_digit

/-- A sign is no digit. -/
theorem intRepr_injective {one other : Int} (same : one.repr = other.repr) : one = other := by
  have signed : ∀ size negative : Nat, Int.repr (.ofNat size) ≠ Int.repr (.negSucc negative) := by
    intro size negative text
    have sign : '-' ∈ (Int.repr (.negSucc negative)).toList := by simp [Int.repr]
    rw [← text] at sign
    exact absurd (repr_digit sign) (by decide)
  cases one with
  | ofNat size =>
    cases other with
    | ofNat otherSize => exact congrArg Int.ofNat (natRepr_injective same)
    | negSucc negative => exact absurd same (signed size negative)
  | negSucc negative =>
    cases other with
    | ofNat size => exact absurd same.symm (signed size negative)
    | negSucc otherNegative =>
      have sizes := natRepr_injective ((String.append_right_inj _).mp same)
      rw [Nat.succ.inj sizes]

end Decimal

end PlanBuddy.TextKeys
