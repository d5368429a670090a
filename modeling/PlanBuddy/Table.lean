import Mathlib.Algebra.Order.BigOperators.Group.List
import Mathlib.Algebra.Order.Group.Int
import Mathlib.Algebra.Ring.Int.Defs
import Mathlib.Data.List.Nodup
import Mathlib.Data.List.Pairwise
import Mathlib.Data.List.ReduceOption

/-!
# Keyed tables under single SQL statements

A table is a finite list of rows whose primary keys are distinct; the constraint
is a field, so no statement can leave a table that violates it. An UPDATE visits
every row, rewrites the matching ones and leaves the others as they were. An
INSERT with `ON CONFLICT DO NOTHING` adds a row only under a new key.

Because keys are distinct, every statement is described by what it does to the
row found under one key. The list order stands for the physical row order; only
scans that sort or limit their rows depend on it. Nothing here names a
particular schema.
-/

namespace PlanBuddy

universe u v w
variable {κ : Type u} {ρ : Type v} {key : ρ → κ}

/-- Rows in physical order, no two of them under the same primary key. -/
structure Table (key : ρ → κ) where
  rows : List ρ
  unique : (rows.map key).Nodup

namespace Table

def empty : Table key := ⟨[], List.nodup_nil⟩

/-- Rows that satisfy a WHERE clause, in physical order. -/
def select (table : Table key) (matching : ρ → Bool) : List ρ :=
  table.rows.filter matching

/-- An UPDATE that keeps the key of each row keeps the keys. -/
theorem rewrite_keys (rows : List ρ) (matching : ρ → Bool) (assign : ρ → ρ)
    (keeps : ∀ row, key (assign row) = key row) :
    (rows.map (fun row => if matching row then assign row else row)).map key = rows.map key := by
  rw [List.map_map]
  apply List.map_congr_left
  intro row _
  by_cases hit : matching row = true
  · simp [hit, keeps]
  · simp [hit]

/-- `UPDATE … SET assign WHERE matching`. The assignment may not touch the key. -/
def update (table : Table key) (matching : ρ → Bool) (assign : ρ → ρ)
    (keeps : ∀ row, key (assign row) = key row := by intro row; rfl) : Table key :=
  ⟨table.rows.map (fun row => if matching row then assign row else row), by
    rw [rewrite_keys table.rows matching assign keeps]
    exact table.unique⟩

/-- The rewritten rows an UPDATE reports through `RETURNING *`. -/
def returning (table : Table key) (matching : ρ → Bool) (assign : ρ → ρ) : List ρ :=
  (table.select matching).map assign

/-- What a BEFORE ROW trigger raises during an UPDATE. It sees each rewritten row, in
physical order, and the first row it objects to aborts the statement. -/
def vetoed {ε : Type u} (table : Table key) (matching : ρ → Bool) (assign : ρ → ρ)
    (trigger : ρ → Option ε) : Option ε :=
  (table.returning matching assign).findSome? trigger

/-- `DELETE … WHERE matching`. -/
def delete (table : Table key) (matching : ρ → Bool) : Table key :=
  ⟨table.rows.filter fun row => !matching row, table.unique.sublist (List.filter_sublist.map key)⟩

/-- The rows that a DELETE leaves. -/
theorem mem_delete {table : Table key} {matching : ρ → Bool} {row : ρ} :
    row ∈ (table.delete matching).rows ↔ row ∈ table.rows ∧ matching row = false := by
  simp [delete]

/-- Tables of the same rows are the same. -/
theorem eq_of_rows {left right : Table key} (same : left.rows = right.rows) : left = right := by
  cases left
  cases right
  cases same
  rfl

/-- A statement whose WHERE clause holds of no row changes nothing. -/
theorem update_unmatched (table : Table key) (matching : ρ → Bool) (assign : ρ → ρ)
    (keeps : ∀ row, key (assign row) = key row)
    (unmatched : ∀ row ∈ table.rows, matching row = false) :
    table.update matching assign keeps = table := by
  apply eq_of_rows
  conv_rhs => rw [← List.map_id table.rows]
  apply List.map_congr_left
  intro row member
  simp [unmatched row member]

/-- The rows that a SELECT returns. -/
theorem mem_select {table : Table key} {matching : ρ → Bool} {row : ρ} :
    row ∈ table.select matching ↔ row ∈ table.rows ∧ matching row = true := by
  simp [select]

/-- A row after an UPDATE is an old row, rewritten exactly when the WHERE clause held of it. -/
theorem mem_update {table : Table key} {matching : ρ → Bool} {assign : ρ → ρ}
    {keeps : ∀ row, key (assign row) = key row} {row : ρ} :
    row ∈ (table.update matching assign keeps).rows ↔
      ∃ old ∈ table.rows, (if matching old then assign old else old) = row :=
  List.mem_map

/-- A law of single rows survives an UPDATE whose assignment keeps it where the WHERE
clause holds. -/
theorem forall_update {law : ρ → Prop} {table : Table key} {matching : ρ → Bool} {assign : ρ → ρ}
    {keeps : ∀ row, key (assign row) = key row} (lawful : ∀ row ∈ table.rows, law row)
    (kept : ∀ row ∈ table.rows, matching row = true → law row → law (assign row)) :
    ∀ row ∈ (table.update matching assign keeps).rows, law row := by
  intro row member
  obtain ⟨old, stored, rfl⟩ := mem_update.mp member
  split
  · next matched => exact kept old stored matched (lawful old stored)
  · exact lawful old stored

/-- A unique index over a nullable column determines the row under each value; rows
where the column is null are not constrained. -/
theorem indexed_unique {β : Type v} {rows : List ρ} {column : ρ → Option β}
    (distinct : (rows.map column).reduceOption.Nodup) {value : β} {left right : ρ}
    (memberLeft : left ∈ rows) (memberRight : right ∈ rows)
    (valueLeft : column left = some value) (valueRight : column right = some value) :
    left = right := by
  rw [List.reduceOption, List.filterMap_map, List.Nodup, List.pairwise_filterMap] at distinct
  have symmetric : Std.Symm fun one other : ρ =>
      ∀ a, (id ∘ column) one = some a → ∀ b, (id ∘ column) other = some b → a ≠ b :=
    ⟨fun _ _ apart a foundA b foundB same => apart b foundB a foundA same.symm⟩
  by_contra different
  exact distinct.forall memberLeft memberRight different value valueLeft value valueRight rfl

/-- A WHERE clause that holds of one stored row and of no other selects it alone. -/
theorem select_single {table : Table key} {matching : ρ → Bool} {row : ρ}
    (member : row ∈ table.rows) (hit : matching row = true)
    (only : ∀ other ∈ table.rows, matching other = true → other = row) :
    table.select matching = [row] := by
  have distinct : (table.select matching).Nodup :=
    (List.Nodup.of_map key table.unique).filter matching
  have same : ∀ other, other ∈ table.select matching ↔ other ∈ [row] := by
    intro other
    rw [mem_select, List.mem_singleton]
    constructor
    · rintro ⟨stored, matched⟩
      exact only other stored matched
    · rintro rfl
      exact ⟨member, hit⟩
  exact List.perm_singleton.mp
    ((List.perm_ext_iff_of_nodup distinct (List.nodup_singleton row)).mpr same)

/-- It returns none where none matches. -/
theorem select_none {table : Table key} {matching : ρ → Bool}
    (unmatched : ∀ row ∈ table.rows, matching row = false) : table.select matching = [] :=
  List.filter_eq_nil_iff.mpr fun row member => Bool.eq_false_iff.mp (unmatched row member)

/-- Fewer rows than the limit come strictly before a row that `ORDER BY … LIMIT` yields:
whatever follows it in the order is not strictly before it, nor is the row itself. -/
theorem limit_rank {before : ρ → ρ → Prop} [DecidableRel before] (reflexive : ∀ row, before row row)
    {rows : List ρ} (sorted : rows.Pairwise before) {limit : Nat} {row : ρ}
    (taken : row ∈ rows.take limit) :
    (rows.filter fun other => decide ¬ before row other).length < limit := by
  obtain ⟨earlier, later, split⟩ := List.append_of_mem taken
  have whole : rows = earlier ++ row :: (later ++ rows.drop limit) := by
    rw [← List.cons_append, ← List.append_assoc, ← split, List.take_append_drop]
  have behind : ∀ other ∈ row :: (later ++ rows.drop limit), before row other := by
    intro other member
    rcases List.mem_cons.mp member with rfl | after
    · exact reflexive other
    · rw [whole] at sorted
      exact List.rel_of_pairwise_cons (List.pairwise_append.mp sorted).2.1 after
  have none : (row :: (later ++ rows.drop limit)).filter (fun other => decide ¬ before row other) = [] := by
    apply List.filter_eq_nil_iff.mpr
    intro other member
    simp [behind other member]
  calc (rows.filter fun other => decide ¬ before row other).length
      = (earlier.filter fun other => decide ¬ before row other).length := by
        conv_lhs => rw [whole, List.filter_append, none, List.append_nil]
    _ ≤ earlier.length := List.length_filter_le _ _
    _ < (rows.take limit).length := by rw [split]; simp
    _ ≤ limit := List.length_take_le limit rows

/-- Conversely, `LIMIT` cuts off no row that fewer rows than the limit come strictly
before, if no other row stands level with it. -/
theorem rank_limit {before : ρ → ρ → Prop} [DecidableRel before] {rows : List ρ}
    (sorted : rows.Pairwise before) {limit : Nat} {row : ρ} (member : row ∈ rows)
    (alone : ∀ other ∈ rows, before row other → before other row → other = row)
    (within : (rows.filter fun other => decide ¬ before row other).length < limit) :
    row ∈ rows.take limit := by
  by_contra cut
  have dropped : row ∈ rows.drop limit := by
    rw [← List.take_append_drop limit rows, List.mem_append] at member
    exact member.resolve_left cut
  have ahead : ∀ other ∈ rows.take limit, ¬ before row other := by
    intro other taken behind
    rw [← List.take_append_drop limit rows] at sorted
    have first := (List.pairwise_append.mp sorted).2.2 other taken row dropped
    have same := alone other (List.mem_of_mem_take taken) behind first
    exact cut (same ▸ taken)
  have kept : (rows.take limit).filter (fun other => decide ¬ before row other) = rows.take limit :=
    List.filter_eq_self.mpr fun other taken => decide_eq_true (ahead other taken)
  have full : (rows.take limit).length = limit := by
    have longer := List.length_pos_of_mem dropped
    rw [List.length_drop] at longer
    rw [List.length_take]
    omega
  have bound := ((List.take_sublist limit rows).filter fun other => decide ¬ before row other).length_le
  rw [kept, full] at bound
  omega

/-- The sum of a column over all rows. -/
def total (table : Table key) (weight : ρ → Int) : Int := (table.rows.map weight).sum

/-- With no negative weight, one row weighs at most the total. -/
theorem weight_le_total (table : Table key) (weight : ρ → Int) (positive : ∀ row, 0 ≤ weight row)
    {row : ρ} (member : row ∈ table.rows) : weight row ≤ table.total weight := by
  apply List.single_le_sum
  · intro value present
    obtain ⟨other, _, rfl⟩ := List.mem_map.mp present
    exact positive other
  · exact List.mem_map_of_mem member

variable [DecidableEq κ]

/-- The row stored under a key. -/
def lookup (table : Table key) (wanted : κ) : Option ρ :=
  table.rows.find? (fun row => decide (key row = wanted))

/-- `INSERT … ON CONFLICT DO NOTHING`: the new row is appended when its key is
free, and the flag says whether it was. -/
def insert (table : Table key) (row : ρ) : Table key × Bool :=
  if fresh : key row ∈ table.rows.map key then (table, false)
  else (⟨table.rows ++ [row], by
    rw [List.map_append, List.nodup_append]
    refine ⟨table.unique, List.nodup_singleton _, ?_⟩
    intro old present new member same
    rw [List.map_singleton, List.mem_singleton] at member
    exact fresh (member ▸ same ▸ present)⟩, true)

/-- A row found under a key carries that key. -/
theorem lookup_key {table : Table key} {wanted : κ} {row : ρ}
    (found : table.lookup wanted = some row) : key row = wanted := by
  simpa using List.find?_some found

/-- A row that is found is in the table. -/
theorem lookup_mem {table : Table key} {wanted : κ} {row : ρ}
    (found : table.lookup wanted = some row) : row ∈ table.rows :=
  List.mem_of_find?_eq_some found

/-- Every stored row is the one found under its own key: a search for that key
cannot fail, and distinctness makes its answer the row itself. -/
theorem mem_lookup {table : Table key} {row : ρ} (member : row ∈ table.rows) :
    table.lookup (key row) = some row := by
  cases found : table.lookup (key row) with
  | none =>
    have missed : ∀ other ∈ table.rows, key other ≠ key row := by
      simpa [lookup, List.find?_eq_none] using found
    exact False.elim (missed row member rfl)
  | some other =>
    have same : other = row :=
      List.inj_on_of_nodup_map table.unique (lookup_mem found) member (lookup_key found)
    rw [same]

/-- It is the row of that key. -/
theorem lookup_iff {table : Table key} {wanted : κ} {row : ρ} :
    table.lookup wanted = some row ↔ row ∈ table.rows ∧ key row = wanted := by
  constructor
  · intro found
    exact ⟨lookup_mem found, lookup_key found⟩
  · rintro ⟨member, rfl⟩
    exact mem_lookup member

/-- Among the rows a WHERE clause selects, those under one key are the row found
there, when it matches, and nothing else. -/
theorem select_under (table : Table key) (matching : ρ → Bool) (wanted : κ) :
    (table.select matching).filter (fun row => decide (key row = wanted)) =
      ((table.lookup wanted).filter matching).toList := by
  have under : ∀ rows : List ρ, (rows.map key).Nodup →
      rows.filter (fun row => decide (key row = wanted)) =
        (rows.find? (fun row => decide (key row = wanted))).toList := by
    intro rows unique
    induction rows with
    | nil => rfl
    | cons head rest inductionHypothesis =>
      rw [List.map_cons, List.nodup_cons] at unique
      by_cases here : key head = wanted
      · have none : ∀ row ∈ rest, ¬ decide (key row = wanted) = true := by
          intro row member same
          exact unique.1 (here ▸ (of_decide_eq_true same) ▸ List.mem_map_of_mem member)
        simp [here, List.filter_eq_nil_iff.mpr none]
      · simp [here, inductionHypothesis unique.2]
  calc (table.select matching).filter (fun row => decide (key row = wanted))
      = (table.rows.filter (fun row => decide (key row = wanted))).filter matching := by
        simp only [select, List.filter_filter, Bool.and_comm]
    _ = (table.lookup wanted).toList.filter matching := by
        rw [under table.rows table.unique, lookup]
    _ = ((table.lookup wanted).filter matching).toList := by
        cases table.lookup wanted with
        | none => rfl
        | some row => by_cases hit : matching row = true <;> simp [Option.filter, hit]

/-- A key that is not found is no row's. -/
theorem lookup_none_iff {table : Table key} {wanted : κ} :
    table.lookup wanted = none ↔ wanted ∉ table.rows.map key := by
  simp [lookup, List.find?_eq_none]

/-- An UPDATE acts on the row under one key exactly as its assignment and WHERE
clause say, and on no other row. -/
theorem lookup_update (table : Table key) (matching : ρ → Bool) (assign : ρ → ρ)
    (keeps : ∀ row, key (assign row) = key row) (wanted : κ) :
    (table.update matching assign keeps).lookup wanted =
      (table.lookup wanted).map (fun row => if matching row then assign row else row) := by
  have keyed : (fun row => decide (key row = wanted)) ∘
      (fun row => if matching row then assign row else row) =
        fun row => decide (key row = wanted) := by
    funext row
    by_cases hit : matching row = true
    · simp [hit, keeps]
    · simp [hit]
  simp only [lookup, update, List.find?_map, keyed]

section Puts

/-- The row under the key of this one is replaced by it. -/
def put (table : Table key) (row : ρ) : Table key :=
  ⟨table.rows.map (fun other => if key other = key row then row else other), by
    have same : (table.rows.map (fun other => if key other = key row then row else other)).map key =
        table.rows.map key := by
      rw [List.map_map]
      apply List.map_congr_left
      intro other _
      by_cases here : key other = key row
      · simp [here]
      · simp [here]
    exact same.symm ▸ table.unique⟩

/-- A row that is put takes the place of the one with its key. -/
theorem mem_put_self {table : Table key} {row stored : ρ} (member : stored ∈ table.rows)
    (same : key row = key stored) : row ∈ (table.put row).rows :=
  List.mem_map.mpr ⟨stored, member, if_pos same.symm⟩

/-- The others stay. -/
theorem mem_put_other {table : Table key} {row other : ρ} (member : other ∈ table.rows)
    (different : key other ≠ key row) : other ∈ (table.put row).rows :=
  List.mem_map.mpr ⟨other, member, if_neg different⟩

/-- They are found as before. -/
theorem lookup_put_other {table : Table key} {row other : ρ} (member : other ∈ table.rows)
    (different : key other ≠ key row) :
    (table.put row).lookup (key other) = table.lookup (key other) := by
  rw [mem_lookup member, mem_lookup (mem_put_other member different)]

/-- Putting a stored row back changes nothing. -/
theorem put_self {table : Table key} {row : ρ} (member : row ∈ table.rows) :
    table.put row = table := by
  apply eq_of_rows
  conv_rhs => rw [← List.map_id table.rows]
  apply List.map_congr_left
  intro other stored
  by_cases here : key other = key row
  · rw [if_pos here]
    exact List.inj_on_of_nodup_map table.unique member stored here.symm
  · exact if_neg here

/-- The second of two rows under one key stays. -/
theorem put_put (table : Table key) {first second : ρ} (same : key first = key second) :
    (table.put first).put second = table.put second := by
  apply eq_of_rows
  simp only [put, List.map_map]
  apply List.map_congr_left
  intro other _
  by_cases here : key other = key second
  · simp [here, same]
  · simp [here, same]

/-- Rows under different keys are put in either order. -/
theorem put_comm (table : Table key) {one other : ρ} (different : key one ≠ key other) :
    (table.put one).put other = (table.put other).put one := by
  apply eq_of_rows
  simp only [put, List.map_map]
  apply List.map_congr_left
  intro row _
  by_cases here : key row = key one
  · simp [here, different]
  · by_cases there : key row = key other
    · simp [there, different.symm]
    · simp [here, there]

/-- An UPDATE that matches one row puts the rewritten row. -/
theorem update_single {table : Table key} {matching : ρ → Bool} {assign : ρ → ρ}
    (keeps : ∀ row, key (assign row) = key row) {row : ρ} (member : row ∈ table.rows)
    (hit : matching row = true) (only : ∀ other ∈ table.rows, matching other = true → other = row) :
    table.update matching assign keeps = table.put (assign row) := by
  apply eq_of_rows
  apply List.map_congr_left
  intro other stored
  by_cases here : key other = key row
  · have same : other = row := List.inj_on_of_nodup_map table.unique stored member here
    rw [same, if_pos hit, if_pos (keeps row).symm]
  · have missed : ¬ matching other = true := fun matched => here (only other stored matched ▸ rfl)
    rw [if_neg missed, if_neg (fun same => here (same.trans (keeps row)))]

/-- What a put row is mapped to is all that its table's image depends on. -/
theorem map_put {β : Type w} (table : Table key) (view : ρ → β) {one other : ρ}
    (sameKey : key one = key other) (same : view one = view other) :
    (table.put one).rows.map view = (table.put other).rows.map view := by
  simp only [put, List.map_map]
  apply List.map_congr_left
  intro row _
  by_cases here : key row = key other
  · simp [here, sameKey, same]
  · simp [here, sameKey]

end Puts

section Totals

/-- Rewriting the row under one key changes a total by the difference it makes there. -/
theorem total_update (table : Table key) (weight : ρ → Int) (assign : ρ → ρ)
    (keeps : ∀ row, key (assign row) = key row) {row : ρ} (member : row ∈ table.rows) :
    (table.update (fun other => decide (key other = key row)) assign keeps).total weight =
      table.total weight - weight row + weight (assign row) := by
  have split : ∀ rows : List ρ, (rows.map key).Nodup → row ∈ rows →
      ((rows.map fun other => if decide (key other = key row) then assign other else other).map
        weight).sum = (rows.map weight).sum - weight row + weight (assign row) := by
    intro rows unique member
    induction rows with
    | nil => cases member
    | cons head rest inductionHypothesis =>
      rw [List.map_cons, List.nodup_cons] at unique
      rcases List.mem_cons.mp member with rfl | inRest
      · have others : (rest.map fun other => if decide (key other = key row) then assign other
            else other) = rest := by
          conv_rhs => rw [← List.map_id rest]
          apply List.map_congr_left
          intro other stored
          have different : key other ≠ key row :=
            fun same => unique.1 (same ▸ List.mem_map_of_mem stored)
          simp [different]
        simp only [List.map_cons, List.sum_cons, others, decide_true, if_true]
        omega
      · have different : key head ≠ key row :=
          fun same => unique.1 (same ▸ List.mem_map_of_mem inRest)
        have inductionHypothesis := inductionHypothesis unique.2 inRest
        simp only [List.map_cons, List.sum_cons, different, decide_false, Bool.false_eq_true, if_false]
        omega
  exact split table.rows table.unique member

end Totals

section Statements

variable {ε : Type w}

/-- The events about one key, in order. -/
def concerning (subject : ε → κ) (wanted : κ) (history : List ε) : List ε :=
  history.filterMap (Option.guard (fun event => decide (subject event = wanted)))

/-- The events of a statement about one key: that of the row stored there, when the
WHERE clause matches it. -/
theorem statement_events (table : Table key) (matching : ρ → Bool) (event : ρ → ε)
    (subject : ε → κ) (named : ∀ row, matching row = true → subject (event row) = key row)
    (wanted : κ) :
    concerning subject wanted ((table.select matching).map event) =
      ((table.lookup wanted).filter matching).toList.map event := by
  rw [← select_under, concerning, List.filterMap_eq_filter, List.filter_map]
  congr 1
  apply List.filter_congr
  intro row member
  simp [named row (mem_select.mp member).2]

/-- A statement changes the row under a key as its SET clause says, if its WHERE clause
matches there; otherwise the row and its events are idle. -/
theorem statement_change (change : Option ρ → List ε → Option ρ → Prop)
    (idle : ∀ row, change row [] row) (table : Table key) (matching : ρ → Bool) (assign : ρ → ρ)
    (keeps : ∀ row, key (assign row) = key row) (event : ρ → ε) (subject : ε → κ)
    (named : ∀ row, matching row = true → subject (event row) = key row) (wanted : κ)
    (changes : ∀ row, table.lookup wanted = some row → matching row = true →
      change (some row) [event row] (some (assign row))) :
    change (table.lookup wanted) (concerning subject wanted ((table.select matching).map event))
      ((table.update matching assign keeps).lookup wanted) := by
  rw [statement_events table matching event subject named wanted, lookup_update]
  cases found : table.lookup wanted with
  | none => exact idle none
  | some row =>
    by_cases hit : matching row = true
    · simpa [Option.filter, hit] using changes row found hit
    · simpa [Option.filter, hit] using idle (some row)

end Statements

/-- A key that is taken lets nothing in. -/
theorem insert_conflict {table : Table key} {row : ρ} {old : ρ}
    (taken : table.lookup (key row) = some old) : table.insert row = (table, false) := by
  have present : key row ∈ table.rows.map key :=
    lookup_key taken ▸ List.mem_map_of_mem (lookup_mem taken)
  simp only [insert, dif_pos present]

/-- A row is inserted exactly when its key is free. -/
theorem insert_inserted {table : Table key} {row : ρ} :
    (table.insert row).2 = true ↔ table.lookup (key row) = none := by
  rw [lookup_none_iff]
  by_cases present : key row ∈ table.rows.map key
  · simp [insert, present]
  · simp [insert, present]

/-- A law of single rows survives an INSERT that adds none but a lawful row. -/
theorem forall_insert {law : ρ → Prop} {table : Table key} {row : ρ}
    (lawful : ∀ old ∈ table.rows, law old) (admitted : (table.insert row).2 = true → law row) :
    ∀ stored ∈ (table.insert row).1.rows, law stored := by
  intro stored member
  by_cases present : key row ∈ table.rows.map key
  · rw [insert, dif_pos present] at member
    exact lawful stored member
  · have added : (table.insert row).2 = true := by rw [insert, dif_neg present]
    rw [insert, dif_neg present] at member
    rcases List.mem_append.mp member with old | new
    · exact lawful stored old
    · exact List.mem_singleton.mp new ▸ admitted added

/-- It is the last one then. -/
theorem insert_fresh {table : Table key} {row : ρ} (free : table.lookup (key row) = none) :
    (table.insert row).1.rows = table.rows ++ [row] := by
  rw [insert, dif_neg (lookup_none_iff.mp free)]

/-- A row that was inserted is stored. -/
theorem mem_insert {table : Table key} {row : ρ} (added : (table.insert row).2 = true) :
    row ∈ (table.insert row).1.rows := by
  by_cases present : key row ∈ table.rows.map key
  · rw [insert, dif_pos present] at added
    cases added
  · rw [insert, dif_neg present]
    exact List.mem_append_right _ (List.mem_singleton_self row)

/-- A successful INSERT adds exactly its own row; a conflicting one adds none. -/
theorem lookup_insert (table : Table key) (row : ρ) (wanted : κ) :
    (table.insert row).1.lookup wanted =
      if key row = wanted then some ((table.lookup wanted).getD row) else table.lookup wanted := by
  by_cases present : key row ∈ table.rows.map key
  · have unchanged : (table.insert row).1 = table := by simp only [insert, dif_pos present]
    rw [unchanged]
    split
    · rename_i same
      subst same
      obtain ⟨old, member, sameKey⟩ := List.mem_map.mp present
      have found : table.lookup (key row) = some old := lookup_iff.mpr ⟨member, sameKey⟩
      simp [found]
    · rfl
  · have appended : (table.insert row).1.rows = table.rows ++ [row] := by
      simp only [insert, dif_neg present]
    have absent : table.lookup (key row) = none := lookup_none_iff.mpr present
    simp only [lookup, appended, List.find?_append]
    split
    · rename_i same
      subst same
      simp only [lookup] at absent
      simp [absent]
    · rename_i different
      simp [different]

/-- An INSERT whose key is free is seen at its own row; any other row, and every row of a
conflicting INSERT, is idle. -/
theorem insert_change {ε : Type w} (change : Option ρ → List ε → Option ρ → Prop)
    (idle : ∀ row, change row [] row) (table : Table key) (row : ρ) (event : ε) (subject : ε → κ)
    (named : subject event = key row) (wanted : κ) (inserts : change none [event] (some row)) :
    change (table.lookup wanted)
      (concerning subject wanted (if (table.insert row).2 then [event] else []))
      ((table.insert row).1.lookup wanted) := by
  cases taken : table.lookup (key row) with
  | some old =>
    rw [insert_conflict taken]
    exact idle _
  | none =>
    have inserted : (table.insert row).2 = true := insert_inserted.mpr taken
    rw [lookup_insert]
    by_cases here : key row = wanted
    · subst here
      simpa [inserted, concerning, named, taken] using inserts
    · simpa [inserted, concerning, named, here] using idle (table.lookup wanted)

end Table

end PlanBuddy
