import Mathlib.Data.List.Dedup
import Mathlib.Data.List.Nodup
import PlanBuddy.Table

/-!
# Outer joins and groups of rows

`LEFT JOIN … ON` keeps a row without a partner, with nulls in the partner's place, and repeats
a row for each partner it has. Where a unique index admits at most one partner, the joined rows
are the rows on the left, each once and in their order. `GROUP BY` with a sum has one row for
each key that occurs. Nothing here names a particular table.
-/

namespace PlanBuddy.Joins

universe u v w
variable {α : Type u} {β : Type v} {κ : Type w}

/-- `rows LEFT JOIN others ON matching`. -/
def leftJoin (rows : List α) (others : List β) (matching : α → β → Bool) : List (α × Option β) :=
  rows.flatMap fun row =>
    match others.filter (matching row) with
    | [] => [(row, none)]
    | found => found.map fun other => (row, some other)

/-- A row is repeated for each partner, and stays without one. -/
theorem leftJoin_cons (row : α) (rows : List α) (others : List β) (matching : α → β → Bool) :
    leftJoin (row :: rows) others matching =
      (match others.filter (matching row) with
        | [] => [(row, none)]
        | found => found.map fun other => (row, some other)) ++ leftJoin rows others matching :=
  List.flatMap_cons

/-- With at most one partner each, every row is joined once, with the first partner found. -/
theorem leftJoin_single {rows : List α} {others : List β} {matching : α → β → Bool}
    (single : ∀ row ∈ rows, (others.filter (matching row)).length ≤ 1) :
    leftJoin rows others matching = rows.map fun row => (row, others.find? (matching row)) := by
  induction rows with
  | nil => rfl
  | cons row rest inductionHypothesis =>
    obtain ⟨one, single⟩ := List.forall_mem_cons.mp single
    rw [leftJoin_cons, inductionHypothesis single, List.map_cons, ← List.head?_filter]
    cases found : others.filter (matching row) with
    | nil => rfl
    | cons other more =>
      rw [found, List.length_cons] at one
      have last : more = [] := List.length_eq_zero_iff.mp (Nat.le_zero.mp (Nat.le_of_succ_le_succ one))
      rw [last]
      rfl

/-- So the rows on the left stay as they are. -/
theorem leftJoin_left {rows : List α} {others : List β} {matching : α → β → Bool}
    (single : ∀ row ∈ rows, (others.filter (matching row)).length ≤ 1) :
    (leftJoin rows others matching).map Prod.fst = rows := by
  rw [leftJoin_single single, List.map_map]
  exact List.map_id rows

/-- Conditions on the left may be tested before the join. -/
theorem leftJoin_filter (rows : List α) (others : List β) (matching : α → β → Bool)
    (chosen : α → Bool) :
    (leftJoin rows others matching).filter (fun joined => chosen joined.1) =
      leftJoin (rows.filter chosen) others matching := by
  induction rows with
  | nil => rfl
  | cons row rest inductionHypothesis =>
    rw [leftJoin_cons, List.filter_append, inductionHypothesis]
    cases hit : chosen row with
    | true =>
      rw [List.filter_cons_of_pos hit, leftJoin_cons]
      congr 1
      cases others.filter (matching row) <;> simp [hit]
    | false =>
      rw [List.filter_cons_of_neg (by simp [hit])]
      cases others.filter (matching row) <;> simp [hit]

/-- No row on the left is lost. -/
theorem mem_leftJoin_left {rows : List α} {others : List β} {matching : α → β → Bool} {row : α} :
    row ∈ (leftJoin rows others matching).map Prod.fst ↔ row ∈ rows := by
  induction rows with
  | nil => exact Iff.rfl
  | cons first rest inductionHypothesis =>
    rw [leftJoin_cons, List.map_append, List.mem_append, inductionHypothesis, List.mem_cons]
    refine or_congr_left ?_
    cases others.filter (matching first) with
    | nil => simp
    | cons other more =>
      simp only [List.map_map, Function.comp_def, List.mem_map]
      exact ⟨fun ⟨_, _, same⟩ => same.symm, fun same => ⟨other, List.mem_cons_self, same.symm⟩⟩

/-- A sum over the joined rows, where a missing partner adds nothing. -/
theorem leftJoin_sum (rows : List α) (others : List β) (matching : α → β → Bool) (weight : β → Int) :
    ((leftJoin rows others matching).map fun joined => (joined.2.map weight).getD 0).sum =
      (rows.map fun row => ((others.filter (matching row)).map weight).sum).sum := by
  induction rows with
  | nil => rfl
  | cons row rest inductionHypothesis =>
    rw [leftJoin_cons, List.map_append, List.sum_append, inductionHypothesis, List.map_cons,
      List.sum_cons]
    congr 1
    cases others.filter (matching row) with
    | nil => rfl
    | cons other more => simp [Function.comp_def]

/-- Rows under one value of a unique column are at most one. -/
theorem unique_filter {rows : List β} {column : β → κ} (unique : (rows.map column).Nodup)
    {matching : β → Bool} (wanted : κ) (only : ∀ row, matching row = true → column row = wanted) :
    (rows.filter matching).length ≤ 1 := by
  have distinct : ((rows.filter matching).map column).Nodup :=
    unique.sublist (List.filter_sublist.map column)
  have level : (rows.filter matching).map column =
      List.replicate (rows.filter matching).length wanted := by
    rw [List.map_eq_replicate_iff]
    exact fun row member => only row (List.mem_filter.mp member).2
  rw [level] at distinct
  exact List.nodup_replicate.mp distinct

section Groups

variable [DecidableEq κ]

/-- `SELECT key, SUM(weight) … GROUP BY key`. -/
def groupSums (key : α → κ) (weight : α → Int) (rows : List α) : List (κ × Int) :=
  (rows.map key).dedup.map fun value =>
    (value, ((rows.filter fun row => decide (key row = value)).map weight).sum)

/-- The groups are the keys, each once. -/
theorem groupSums_keys (key : α → κ) (weight : α → Int) (rows : List α) :
    (groupSums key weight rows).map Prod.fst = (rows.map key).dedup := by
  rw [groupSums, List.map_map]
  exact List.map_id _

/-- The group of a key is there exactly if the key occurs, with the sum over its rows. -/
theorem find_groupSums (key : α → κ) (weight : α → Int) (rows : List α) (wanted : κ) :
    (groupSums key weight rows).find? (fun group => decide (group.1 = wanted)) =
      if wanted ∈ rows.map key then
        some (wanted, ((rows.filter fun row => decide (key row = wanted)).map weight).sum)
      else none := by
  rw [groupSums, List.find?_map]
  have first : ∀ keys : List κ, keys.find? (fun value => decide (value = wanted)) =
      if wanted ∈ keys then some wanted else none := by
    intro keys
    induction keys with
    | nil => rfl
    | cons value rest inductionHypothesis =>
      by_cases here : value = wanted
      · simp [here]
      · simp [here, inductionHypothesis, Ne.symm here]
  simp only [Function.comp_def, first, List.mem_dedup]
  split <;> rfl

/-- Grouped by a key of the rows on the left that tells them apart, the join has one group for
each of them, with the sum over its partners. -/
theorem groupSums_leftJoin {rows : List α} {key : α → κ} (unique : (rows.map key).Nodup)
    (others : List β) (matching : α → β → Bool) (weight : β → Int) :
    (groupSums (fun joined => key joined.1) (fun joined => (joined.2.map weight).getD 0)
      (leftJoin rows others matching)).Perm
        (rows.map fun row => (key row, ((others.filter (matching row)).map weight).sum)) := by
  have keys : (((leftJoin rows others matching).map fun joined => key joined.1).dedup).Perm
      (rows.map key) := by
    refine (List.perm_ext_iff_of_nodup (List.nodup_dedup _) unique).mpr fun value => ?_
    have split : ((leftJoin rows others matching).map fun joined => key joined.1) =
        ((leftJoin rows others matching).map Prod.fst).map key := List.map_map.symm
    rw [List.mem_dedup, split, List.mem_map, List.mem_map]
    simp only [mem_leftJoin_left]
  refine (keys.map _).trans (List.Perm.of_eq ?_)
  rw [List.map_map]
  refine List.map_congr_left fun row member => ?_
  have alone : rows.filter (fun other => decide (key other = key row)) = [row] :=
    let table : Table key := ⟨rows, unique⟩
    Table.select_single (show row ∈ table.rows from member) (decide_eq_true rfl)
      fun other found same =>
        List.inj_on_of_nodup_map unique found member (of_decide_eq_true same)
  have group := leftJoin_filter rows others matching fun other => decide (key other = key row)
  rw [Function.comp_apply, group, alone, leftJoin_sum, List.map_singleton, List.sum_singleton]

end Groups

end PlanBuddy.Joins
