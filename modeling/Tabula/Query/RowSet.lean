import Std.Data.HashSet.Lemmas

/-!
# Row sets

Sets of row numbers as ascending lists without repetitions. Union merges two
lists and drops neighbours that are equal; intersection keeps the members of the
right list that the left list has.
-/

namespace Tabula.Query.RowSet

/-- Drops every number that follows itself. -/
def dropRepeats : List Nat → List Nat
  | [] => []
  | [row] => [row]
  | row :: next :: rest =>
      if row = next then dropRepeats (next :: rest) else row :: dropRepeats (next :: rest)

/-- The rows of either list. -/
def union (left right : List Nat) : List Nat :=
  dropRepeats (left.merge right fun first second => first ≤ second)

/-- The rows of the right list that the left list has as well. -/
def intersection (left right : List Nat) : List Nat :=
  let present := Std.HashSet.ofList left
  right.filter fun row => present.contains row

theorem mem_intersection_iff {left right : List Nat} {row : Nat} :
    row ∈ intersection left right ↔ row ∈ left ∧ row ∈ right := by
  simp [intersection, and_comm]

theorem intersection_eq_filter (left right : List Nat) :
    intersection left right = right.filter fun row => left.contains row := by
  simp [intersection]

theorem mem_dropRepeats_iff {rows : List Nat} {row : Nat} :
    row ∈ dropRepeats rows ↔ row ∈ rows := by
  fun_induction dropRepeats rows with
  | case1 => simp
  | case2 => simp
  | case3 next rest ih => simpa using ih
  | case4 first next rest different ih => simp [ih]

theorem mem_union_iff {left right : List Nat} {row : Nat} :
    row ∈ union left right ↔ row ∈ left ∨ row ∈ right := by
  simp [union, mem_dropRepeats_iff, List.mem_merge]

end Tabula.Query.RowSet
