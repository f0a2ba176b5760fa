import Mathlib.Data.List.Sort
import Tabula.Query.RowSet

/-!
# The order of row sets

Union and intersection of ascending lists without repetitions are ascending lists
without repetitions. Such a list is determined by its members, so on rows chosen by
predicates the two operations are disjunction and conjunction.
-/

namespace Tabula.Query.RowSet

theorem dropRepeats_ascending {rows : List Nat} (sorted : rows.Pairwise (· ≤ ·)) :
    (dropRepeats rows).Pairwise (· < ·) := by
  fun_induction dropRepeats rows with
  | case1 => exact .nil
  | case2 row => exact List.pairwise_singleton _ row
  | case3 next rest ih => exact ih sorted.tail
  | case4 row next rest different ih =>
      refine List.pairwise_cons.2 ⟨?_, ih sorted.tail⟩
      intro other member
      have above := (List.pairwise_cons.1 sorted).1
      have fromNext := (List.pairwise_cons.1 sorted.tail).1
      have below : row ≤ next := above next List.mem_cons_self
      rcases List.mem_cons.1 (mem_dropRepeats_iff.1 member) with rfl | inRest
      · exact Nat.lt_of_le_of_ne below different
      · exact Nat.lt_of_lt_of_le (Nat.lt_of_le_of_ne below different) (fromNext other inRest)

theorem union_ascending {left right : List Nat} (leftSorted : left.Pairwise (· ≤ ·))
    (rightSorted : right.Pairwise (· ≤ ·)) : (union left right).Pairwise (· < ·) := by
  apply dropRepeats_ascending
  simpa using leftSorted.merge rightSorted

theorem union_nil_left {rows : List Nat} (ascending : rows.Pairwise (· < ·)) :
    union [] rows = rows := by
  refine List.Pairwise.eq_of_mem_iff
    (union_ascending .nil (ascending.imp Nat.le_of_lt)) ascending ?_
  intro row
  simp [mem_union_iff]

theorem union_nil_right {rows : List Nat} (ascending : rows.Pairwise (· < ·)) :
    union rows [] = rows := by
  refine List.Pairwise.eq_of_mem_iff
    (union_ascending (ascending.imp Nat.le_of_lt) .nil) ascending ?_
  intro row
  simp [mem_union_iff]

theorem union_self {rows : List Nat} (ascending : rows.Pairwise (· < ·)) :
    union rows rows = rows := by
  have sorted := ascending.imp Nat.le_of_lt
  refine List.Pairwise.eq_of_mem_iff (union_ascending sorted sorted) ascending ?_
  intro row
  simp [mem_union_iff]

theorem intersection_ascending (left : List Nat) {right : List Nat}
    (rightSorted : right.Pairwise (· < ·)) : (intersection left right).Pairwise (· < ·) :=
  rightSorted.filter _

/-- The rows of a table with so many rows that satisfy a predicate. -/
def rowsWhere (count : Nat) (accepts : Nat → Prop) [DecidablePred accepts] : List Nat :=
  (List.range count).filter fun row => accepts row

section Where

variable {count : Nat} {first second : Nat → Prop} [DecidablePred first] [DecidablePred second]

theorem mem_rowsWhere_iff {row : Nat} : row ∈ rowsWhere count first ↔ row < count ∧ first row := by
  simp [rowsWhere]

theorem rowsWhere_ascending (count : Nat) (accepts : Nat → Prop) [DecidablePred accepts] :
    (rowsWhere count accepts).Pairwise (· < ·) :=
  List.pairwise_lt_range.filter _

theorem rowsWhere_congr (same : ∀ row, first row ↔ second row) :
    rowsWhere count first = rowsWhere count second := by
  apply List.filter_congr
  intro row _
  simp [same row]

theorem union_rowsWhere :
    union (rowsWhere count first) (rowsWhere count second) =
      rowsWhere count fun row => first row ∨ second row := by
  have sorted : ∀ accepts : Nat → Prop, [DecidablePred accepts] →
      (rowsWhere count accepts).Pairwise (· ≤ ·) :=
    fun accepts => (rowsWhere_ascending count accepts).imp Nat.le_of_lt
  refine List.Pairwise.eq_of_mem_iff (union_ascending (sorted first) (sorted second))
    (rowsWhere_ascending count _) ?_
  intro row
  rw [mem_union_iff, mem_rowsWhere_iff, mem_rowsWhere_iff, mem_rowsWhere_iff, and_or_left]

theorem intersection_rowsWhere :
    intersection (rowsWhere count first) (rowsWhere count second) =
      rowsWhere count fun row => first row ∧ second row := by
  refine List.Pairwise.eq_of_mem_iff (intersection_ascending _ (rowsWhere_ascending count second))
    (rowsWhere_ascending count _) ?_
  intro row
  rw [mem_intersection_iff, mem_rowsWhere_iff, mem_rowsWhere_iff, mem_rowsWhere_iff]
  exact and_and_left.symm

end Where

end Tabula.Query.RowSet
