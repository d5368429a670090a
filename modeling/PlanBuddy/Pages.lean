import Mathlib.Data.List.Nodup
import Mathlib.Data.List.Pairwise
import Mathlib.Data.List.Sort
import Mathlib.Order.Defs.LinearOrder

/-!
# Pages of a sorted listing

A query sorts its rows by an instant, latest first, and returns a page of them. Rows of
equal instants come in an order that each run of the query chooses anew. Pages taken from
different runs therefore fit together exactly where no group of equal instants lies across
the boundary between two pages: then the rows before the boundary are the same in every
run. Nothing here names a particular table.
-/

namespace PlanBuddy.Pages

universe u v w
variable {α : Type u} {τ : Type v} {κ : Type w} [LinearOrder τ] {instant : α → τ}

section Orders

/-- Latest first; rows of equal instants in either order. -/
def NotEarlier (instant : α → τ) (left right : α) : Prop := instant right ≤ instant left

instance : DecidableRel (NotEarlier instant) := fun left right =>
  inferInstanceAs (Decidable (instant right ≤ instant left))

instance : Std.Total (NotEarlier instant) := ⟨fun left right => le_total (instant right) (instant left)⟩

instance : IsTrans α (NotEarlier instant) := ⟨fun _ _ _ first second => le_trans second first⟩

/-- How a run of a query with `ORDER BY instant DESC` arranges the rows it has selected. -/
structure ScanOrder (instant : α → τ) where
  arrange : List α → List α
  perm : ∀ rows, (arrange rows).Perm rows
  sorted : ∀ rows, (arrange rows).Pairwise (NotEarlier instant)

/-- Equal instants in the order in which the rows were met. -/
def ScanOrder.forward (instant : α → τ) : ScanOrder instant where
  arrange rows := rows.insertionSort (NotEarlier instant)
  perm rows := List.perm_insertionSort (NotEarlier instant) rows
  sorted rows := List.pairwise_insertionSort (NotEarlier instant) rows

/-- The same for rows that are met from the last to the first. -/
def ScanOrder.backward (instant : α → τ) : ScanOrder instant where
  arrange rows := rows.reverse.insertionSort (NotEarlier instant)
  perm rows := (List.perm_insertionSort (NotEarlier instant) rows.reverse).trans rows.reverse_perm
  sorted rows := List.pairwise_insertionSort (NotEarlier instant) rows.reverse

/-- An order that arranges one list of rows in a given way. -/
def ScanOrder.with [DecidableEq α] (order : ScanOrder instant) (rows arranged : List α)
    (perm : arranged.Perm rows) (sorted : arranged.Pairwise (NotEarlier instant)) :
    ScanOrder instant where
  arrange other := if other = rows then arranged else order.arrange other
  perm other := by
    split
    · next same => exact same ▸ perm
    · exact order.perm other
  sorted other := by
    split
    · exact sorted
    · exact order.sorted other

/-- An order that was chosen is used. -/
@[simp]
theorem with_arrange [DecidableEq α] (order : ScanOrder instant) (rows arranged : List α)
    (perm : arranged.Perm rows) (sorted : arranged.Pairwise (NotEarlier instant)) :
    (order.with rows arranged perm sorted).arrange rows = arranged := if_pos rfl

end Orders

section Pages

/-- `LIMIT limit OFFSET index * limit`. -/
def page (order : ScanOrder instant) (rows : List α) (limit index : Nat) : List α :=
  ((order.arrange rows).drop (index * limit)).take limit

/-- `Math.ceil(total / limit)`. -/
def pageCount (total limit : Nat) : Nat := (total + limit - 1) / limit

/-- Pages start before the end of the rows. -/
theorem lt_pageCount {total limit index : Nat} (positive : 1 ≤ limit) :
    index < pageCount total limit ↔ index * limit < total := by
  rw [pageCount, Nat.lt_iff_add_one_le, Nat.le_div_iff_mul_le positive, Nat.add_one_mul]
  omega

/-- Exactly so many rows are from some instant on: no group of equal instants lies across
this position. -/
def Separated (instant : α → τ) (rows : List α) (position : Nat) : Prop :=
  ∃ since, rows.countP (fun row => decide (since ≤ instant row)) = position

end Pages

section Fitting

/-- The rows from an instant on are the first ones. -/
theorem filter_sorted {rows : List α} (sorted : rows.Pairwise (NotEarlier instant)) (since : τ) :
    rows.filter (fun row => decide (since ≤ instant row)) =
      rows.take (rows.countP fun row => decide (since ≤ instant row)) := by
  induction rows with
  | nil => rfl
  | cons first rest inductionHypothesis =>
    obtain ⟨latest, sorted⟩ := List.pairwise_cons.mp sorted
    by_cases recent : since ≤ instant first
    · simp [recent, inductionHypothesis sorted]
    · have none : ∀ row ∈ rest, ¬ since ≤ instant row :=
        fun row member late => recent (le_trans late (latest row member))
      have nothing : rest.filter (fun row => decide (since ≤ instant row)) = [] := by
        simpa [List.filter_eq_nil_iff] using none
      rw [inductionHypothesis sorted, List.take_eq_nil_iff] at nothing
      rcases nothing with zero | rfl
      · simp [recent, inductionHypothesis sorted, zero]
      · simp [recent]

/-- Before a separated position every run has the same rows. -/
theorem take_perm {rows : List α} {position : Nat} (separated : Separated instant rows position)
    (left right : ScanOrder instant) :
    ((left.arrange rows).take position).Perm ((right.arrange rows).take position) := by
  obtain ⟨since, rfl⟩ := separated
  have first : ∀ order : ScanOrder instant,
      ((order.arrange rows).take (rows.countP fun row => decide (since ≤ instant row))).Perm
        (rows.filter fun row => decide (since ≤ instant row)) := by
    intro order
    rw [← (order.perm rows).countP_eq, ← filter_sorted (order.sorted rows)]
    exact (order.perm rows).filter _
  exact (first left).trans (first right).symm

/-- The pages up to a separated position are the rows before it, and past the last row they
are all rows. -/
theorem pages_perm {rows : List α} {limit : Nat} (positive : 1 ≤ limit)
    (orders : Nat → ScanOrder instant)
    (separated : ∀ index, 1 ≤ index → index < pageCount rows.length limit →
      Separated instant rows (index * limit))
    (count : Nat) (order : ScanOrder instant) :
    ((List.range count).flatMap fun index => page (orders index) rows limit index).Perm
      ((order.arrange rows).take (count * limit)) := by
  induction count generalizing order with
  | zero => simp
  | succ count inductionHypothesis =>
    have joined : ((List.range (count + 1)).flatMap fun index =>
        page (orders index) rows limit index).Perm
        (((orders count).arrange rows).take ((count + 1) * limit)) := by
      rw [List.range_succ, List.flatMap_append, List.flatMap_singleton, Nat.add_one_mul,
        List.take_add]
      exact (inductionHypothesis (orders count)).append_right _
    refine joined.trans ?_
    by_cases inside : count + 1 < pageCount rows.length limit
    · exact take_perm (separated (count + 1) (Nat.le_add_left 1 count) inside) _ _
    · rw [lt_pageCount positive] at inside
      have whole : ∀ order : ScanOrder instant,
          (order.arrange rows).take ((count + 1) * limit) = order.arrange rows := fun order =>
        List.take_of_length_le ((order.perm rows).length_eq ▸ Nat.le_of_not_lt inside)
      rw [whole, whole]
      exact ((orders count).perm rows).trans (order.perm rows).symm

end Fitting

section Straddling

/-- Where no position is separated, the rows before and after it are of one instant. -/
theorem level_of_inseparable {earlier later : List α} {left right : α}
    (sorted : (earlier ++ left :: right :: later).Pairwise (NotEarlier instant))
    (inseparable : ¬ Separated instant (earlier ++ left :: right :: later) (earlier.length + 1)) :
    instant left ≤ instant right := by
  refine le_of_not_gt fun apart => inseparable ⟨instant left, ?_⟩
  obtain ⟨-, tail, before⟩ := List.pairwise_append.mp sorted
  obtain ⟨-, tail⟩ := List.pairwise_cons.mp tail
  obtain ⟨after, -⟩ := List.pairwise_cons.mp tail
  have all : earlier.countP (fun row => decide (instant left ≤ instant row)) = earlier.length := by
    rw [List.countP_eq_length]
    intro row member
    exact decide_eq_true (before row member left List.mem_cons_self)
  have none : later.countP (fun row => decide (instant left ≤ instant row)) = 0 := by
    rw [List.countP_eq_zero]
    intro row member late
    exact absurd (le_trans (of_decide_eq_true late) (after row member)) (not_le_of_gt apart)
  simp [all, none, not_le_of_gt apart]

/-- Two neighbours of one instant may change places. -/
theorem swapped_sorted {earlier later : List α} {left right : α}
    (sorted : (earlier ++ left :: right :: later).Pairwise (NotEarlier instant))
    (level : instant left ≤ instant right) :
    (earlier ++ right :: left :: later).Pairwise (NotEarlier instant) := by
  simp only [List.pairwise_append, List.pairwise_cons, List.mem_cons, NotEarlier] at sorted ⊢
  obtain ⟨ahead, ⟨first, second, tail⟩, before⟩ := sorted
  refine ⟨ahead, ⟨?_, ?_, tail⟩, ?_⟩
  · rintro row (rfl | member)
    · exact level
    · exact second row member
  · exact fun row member => first row (.inr member)
  · rintro row member other (rfl | rfl | behind)
    · exact before row member other (.inr (.inl rfl))
    · exact before row member other (.inl rfl)
    · exact before row member other (.inr (.inr behind))

/-- A row at a position is on the page of that position. -/
theorem mem_page {order : ScanOrder instant} {rows : List α} {limit index : Nat} {row : α}
    (inner : Nat) (inside : inner < limit) (found : (order.arrange rows)[index * limit + inner]? = some row) :
    row ∈ page order rows limit index := by
  apply List.mem_of_getElem? (i := inner)
  rw [page, List.getElem?_take, if_pos inside, List.getElem?_drop]
  exact found

/-- Runs may put one row on both sides of a position that is not separated. -/
theorem separated_of_covered {rows : List α} {key : α → κ} {limit : Nat} (positive : 1 ≤ limit)
    (covered : ∀ orders : Nat → ScanOrder instant,
      ((List.range (pageCount rows.length limit)).flatMap fun index =>
        (page (orders index) rows limit index).map key).Nodup)
    (index : Nat) (later : 1 ≤ index) (inside : index < pageCount rows.length limit) :
    Separated instant rows (index * limit) := by
  classical
  let base := ScanOrder.forward instant
  obtain ⟨before, rfl⟩ := Nat.exists_eq_add_of_le' later
  have within := (lt_pageCount positive).mp inside
  have length : (base.arrange rows).length = rows.length := (base.perm rows).length_eq
  -- the position lies between the rows `left` and `right` of one arrangement
  obtain ⟨earlier, left, right, rest, split, count⟩ : ∃ earlier left right rest,
      base.arrange rows = earlier ++ left :: right :: rest ∧
        earlier.length + 1 = (before + 1) * limit := by
    have start : (before + 1) * limit - 1 + 1 = (before + 1) * limit := by
      have : 1 ≤ (before + 1) * limit := Nat.mul_pos (Nat.succ_pos before) positive
      omega
    refine ⟨(base.arrange rows).take ((before + 1) * limit - 1),
      (base.arrange rows)[(before + 1) * limit - 1], (base.arrange rows)[(before + 1) * limit],
      (base.arrange rows).drop ((before + 1) * limit + 1), ?_, ?_⟩
    · conv_lhs => rw [← List.take_append_drop ((before + 1) * limit - 1) (base.arrange rows)]
      rw [List.drop_eq_getElem_cons (by omega), start, List.drop_eq_getElem_cons (by omega)]
    · rw [List.length_take]
      omega
  by_contra inseparable
  have sorted := base.sorted rows
  have perm := base.perm rows
  rw [split] at sorted perm
  have unsplit : ¬ Separated instant (earlier ++ left :: right :: rest) (earlier.length + 1) := by
    rintro ⟨since, found⟩
    exact inseparable ⟨since, by rw [← perm.countP_eq, found, count]⟩
  have level := level_of_inseparable sorted unsplit
  have swap : (earlier ++ right :: left :: rest).Perm rows :=
    ((List.Perm.swap left right rest).append_left earlier).trans perm
  let swapped := base.with rows _ swap (swapped_sorted sorted level)
  -- `left` closes the page before the position in one run and starts the next page in another
  have distinct := (List.nodup_flatMap.mp
    (covered fun turn => if turn = before then base else swapped)).2
  have apart := List.pairwise_iff_getElem.mp distinct before (before + 1)
    (by rw [List.length_range]; omega) (by rw [List.length_range]; exact inside)
    (Nat.lt_succ_self before)
  simp only [List.getElem_range, Function.onFun, if_true, Nat.succ_ne_self, if_false] at apart
  have product : (before + 1) * limit = before * limit + limit := Nat.add_one_mul before limit
  refine apart (a := key left) (List.mem_map_of_mem ?_) (List.mem_map_of_mem ?_)
  · refine mem_page (limit - 1) (by omega) ?_
    have place : before * limit + (limit - 1) = earlier.length := by omega
    rw [split, place]
    simp
  · refine mem_page 0 positive ?_
    have place : (before + 1) * limit + 0 = earlier.length + 1 := by omega
    rw [with_arrange, place]
    simp

end Straddling

section Covering

/-- Pages taken from arbitrary runs contain every row exactly once, whatever the runs are,
exactly if every boundary between two of them is separated. -/
theorem covered_iff (instant : α → τ) {rows : List α} {key : α → κ} {limit : Nat}
    (positive : 1 ≤ limit) (unique : (rows.map key).Nodup) :
    (∀ orders : Nat → ScanOrder instant,
      ((List.range (pageCount rows.length limit)).flatMap fun index =>
        (page (orders index) rows limit index).map key).Perm (rows.map key)) ↔
      ∀ index, 1 ≤ index → index < pageCount rows.length limit →
        Separated instant rows (index * limit) := by
  constructor
  · intro covered
    exact separated_of_covered positive fun orders => (covered orders).nodup_iff.mpr unique
  · intro separated orders
    have order := orders 0
    have joined := pages_perm positive orders separated (pageCount rows.length limit) order
    have whole : (order.arrange rows).take (pageCount rows.length limit * limit) =
        order.arrange rows := by
      apply List.take_of_length_le
      rw [(order.perm rows).length_eq]
      exact Nat.le_of_not_lt ((lt_pageCount positive).not.mp (Nat.lt_irrefl _))
    rw [whole] at joined
    rw [← List.map_flatMap]
    exact (joined.trans (order.perm rows)).map key

end Covering

end PlanBuddy.Pages
