import PlanBuddy.Runs
import Mathlib.Data.List.Pairwise

/-!
# Leases fenced by a version counter

A lease has at most one holder and a version. Granting it raises the version and
names the holder; the holder settles it under the current version; an owner of
the resource may revoke it at any time, raising the version again. Renewals do
not appear, since they change neither field.

Over a whole run the granted versions strictly increase, and so do the settled
ones. Hence no two grants share a version and each version is settled at most
once, however grants, settlements and revocations interleave. Several schemas
carry such a lease in different columns; the laws below are stated once for all
of them and know none.

A holder may read a count under its version and write it back later. The last
section says why the count is still the stored one whenever the write is let through.
-/

namespace PlanBuddy.Fencing

universe u
variable {ω : Type u}

structure Lease (ω : Type u) where
  holder : Option ω
  version : Nat

inductive Event (ω : Type u) where
  | granted (worker : ω) (version : Nat)
  | settled (worker : ω) (version : Nat)

/-- A grant needs a free lease; a settlement needs the holder and its version. -/
inductive Step : Lease ω → List (Event ω) → Lease ω → Prop
  | keep (lease : Lease ω) : Step lease [] lease
  | grant (worker : ω) (version : Nat) :
      Step ⟨none, version⟩ [.granted worker (version + 1)] ⟨some worker, version + 1⟩
  | settle (worker : ω) (version : Nat) :
      Step ⟨some worker, version⟩ [.settled worker version] ⟨none, version⟩
  | revoke (holder : Option ω) (version : Nat) : Step ⟨holder, version⟩ [] ⟨none, version + 1⟩

def grantedVersion : Event ω → Option Nat
  | .granted _ version => some version
  | .settled _ _ => none

def settledVersion : Event ω → Option Nat
  | .granted _ _ => none
  | .settled _ version => some version

/-- Versions granted during a history, oldest first. -/
def grants (history : List (Event ω)) : List Nat := history.filterMap grantedVersion

/-- Versions settled during a history, oldest first. -/
def settlements (history : List (Event ω)) : List Nat := history.filterMap settledVersion

/-- What a history says about the versions used so far. A held lease has not been
settled under its current version, which is the whole reason for the counter. -/
structure Ordered (history : List (Event ω)) (lease : Lease ω) : Prop where
  grantsIncrease : (grants history).Pairwise (· < ·)
  grantsBound : ∀ version ∈ grants history, version ≤ lease.version
  settlementsIncrease : (settlements history).Pairwise (· < ·)
  settlementsBound : ∀ version ∈ settlements history, version ≤ lease.version
  unsettled : lease.holder.isSome → ∀ version ∈ settlements history, version < lease.version

/-- Appending a value above all earlier ones keeps a list strictly increasing. -/
theorem increasing_append {values : List Nat} {next : Nat}
    (increasing : values.Pairwise (· < ·)) (above : ∀ value ∈ values, value < next) :
    (values ++ [next]).Pairwise (· < ·) := by
  rw [List.pairwise_append]
  refine ⟨increasing, List.pairwise_singleton _ _, ?_⟩
  intro value member last same
  rw [List.mem_singleton] at same
  exact same ▸ above value member

/-- Every step keeps the record in order. A grant uses a version above all earlier
ones; a settlement uses the version of a held lease, not settled before; a
revocation only raises the version. -/
theorem step_ordered {history observed : List (Event ω)} {before after : Lease ω}
    (ordered : Ordered history before) (step : Step before observed after) :
    Ordered (history ++ observed) after := by
  cases step with
  | keep lease => simpa using ordered
  | grant worker version =>
    have fresh : ∀ earlier ∈ grants history, earlier < version + 1 :=
      fun earlier member => Nat.lt_succ_of_le (ordered.grantsBound earlier member)
    have settledBelow : ∀ earlier ∈ settlements history, earlier < version + 1 :=
      fun earlier member => Nat.lt_succ_of_le (ordered.settlementsBound earlier member)
    have grown : grants (history ++ [.granted worker (version + 1)]) =
        grants history ++ [version + 1] := by simp [grants, grantedVersion]
    have kept : settlements (history ++ [.granted worker (version + 1)]) =
        settlements history := by simp [settlements, settledVersion]
    constructor
    · rw [grown]
      exact increasing_append ordered.grantsIncrease fresh
    · rw [grown]
      refine forall_mem_snoc ?_ (Nat.le_refl _)
      exact fun earlier member => Nat.le_of_lt (fresh earlier member)
    · rw [kept]
      exact ordered.settlementsIncrease
    · rw [kept]
      exact fun earlier member => Nat.le_of_lt (settledBelow earlier member)
    · rw [kept]
      exact fun _ => settledBelow
  | settle worker version =>
    have fresh : ∀ earlier ∈ settlements history, earlier < version := ordered.unsettled rfl
    have kept : grants (history ++ [.settled worker version]) = grants history := by
      simp [grants, grantedVersion]
    have grown : settlements (history ++ [.settled worker version]) =
        settlements history ++ [version] := by simp [settlements, settledVersion]
    constructor
    · rw [kept]
      exact ordered.grantsIncrease
    · rw [kept]
      exact ordered.grantsBound
    · rw [grown]
      exact increasing_append ordered.settlementsIncrease fresh
    · rw [grown]
      refine forall_mem_snoc ?_ (Nat.le_refl _)
      exact fun earlier member => Nat.le_of_lt (fresh earlier member)
    · intro held
      simp at held
  | revoke holder version =>
    rw [List.append_nil]
    refine ⟨ordered.grantsIncrease, ?_, ordered.settlementsIncrease, ?_, ?_⟩
    · exact fun earlier member => Nat.le_succ_of_le (ordered.grantsBound earlier member)
    · exact fun earlier member =>
        Nat.le_succ_of_le (ordered.settlementsBound earlier member)
    · intro held
      simp at held

/-- The record of a whole run is in order, whatever lease it started from. -/
theorem run_ordered {start final : Lease ω} {history : List (Event ω)}
    (run : Run Step start history final) : Ordered history final :=
  run.invariant Ordered
    ⟨List.Pairwise.nil, by simp [grants], List.Pairwise.nil, by simp [settlements],
      by simp [settlements]⟩
    (fun _ ordered step => step_ordered ordered step)

/-- No two grants of a run carry the same version. -/
theorem grants_nodup {start final : Lease ω} {history : List (Event ω)}
    (run : Run Step start history final) : (grants history).Nodup :=
  (run_ordered run).grantsIncrease.imp Nat.ne_of_lt

/-- No version is settled twice in a run. -/
theorem settlements_nodup {start final : Lease ω} {history : List (Event ω)}
    (run : Run Step start history final) : (settlements history).Nodup :=
  (run_ordered run).settlementsIncrease.imp Nat.ne_of_lt

section Reads

variable {ρ : Type u} {version : ρ → Nat} {active : ρ → Prop} {count : ρ → Nat}

/-- How a row may change between the two halves of a read and a later write. Its version
never decreases, and under an unchanged version an active row was active before, with
the same count. -/
def Succeeds (version : ρ → Nat) (active : ρ → Prop) (count : ρ → Nat) (row next : ρ) : Prop :=
  version row ≤ version next ∧
    (version next = version row → active next → active row ∧ count next = count row)

/-- A next count, determined by a read under a version: that version is a lower bound, and
as long as it is the version of an active row the next count is one above the stored one. -/
def Reads (version : ρ → Nat) (active : ρ → Prop) (count : ρ → Nat) (fence following : Nat)
    (row : ρ) : Prop :=
  fence ≤ version row ∧ (version row = fence → active row → following = count row + 1)

/-- A count that has been read stays current. -/
theorem reads_succeeds {fence following : Nat} {row next : ρ}
    (reads : Reads version active count fence following row)
    (succeeds : Succeeds version active count row next) :
    Reads version active count fence following next := by
  obtain ⟨bound, current⟩ := reads
  obtain ⟨grows, keeps⟩ := succeeds
  refine ⟨Nat.le_trans bound grows, ?_⟩
  intro same activeNext
  have unchanged : version next = version row := by omega
  obtain ⟨activeRow, sameCount⟩ := keeps unchanged activeNext
  rw [sameCount]
  exact current (by omega) activeRow

end Reads

end PlanBuddy.Fencing
