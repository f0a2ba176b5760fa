import Mathlib.Data.List.Chain
import Tabula.Proofs.Query.RowSet

/-!
# Laws of row sets

The union of two lists can be worked out in one sweep over both: the smaller of the two
next rows is taken, and it is left out if it was the last one taken. Whatever the lists
are, this is the merged list without repeated neighbours, so nothing is lost and no two
neighbours are equal. On lists without descents it is the ascending list of the rows of
either, and on ascending lists both operations have the laws of sets.
-/

namespace Tabula.Query.RowSet

/-- Adds a row behind those found, unless it is the last of them. -/
def add (found : List Nat) (row : Nat) : List Nat :=
  if found.getLast? = some row then found else found ++ [row]

/-- Goes through two lists at once and adds the smaller of the two next rows, that of the
left list if they are equal. -/
def sweep (found : List Nat) : List Nat → List Nat → List Nat
  | [], [] => found
  | row :: left, [] => sweep (add found row) left []
  | [], row :: right => sweep (add found row) [] right
  | first :: left, second :: right =>
      if first ≤ second then sweep (add found first) left (second :: right)
      else sweep (add found second) (first :: left) right
termination_by left right => left.length + right.length

/-! ## Rows added one by one -/

/-- The step: a row makes a difference unless it repeats the last one. -/
theorem add_concat (found : List Nat) (last row : Nat) :
    add (found ++ [last]) row = if last = row then found ++ [last] else found ++ [last] ++ [row] := by
  simp [add]

/-- The run: behind a row, the rows that do not repeat it or each other are added. -/
theorem foldl_add_concat (found rows : List Nat) (last : Nat) :
    rows.foldl add (found ++ [last]) = found ++ dropRepeats (last :: rows) := by
  induction rows generalizing found last with
  | nil => rfl
  | cons row rest ih =>
      rw [List.foldl_cons, add_concat, dropRepeats]
      by_cases repeated : last = row
      · rw [if_pos repeated, if_pos repeated, repeated, ih]
      · rw [if_neg repeated, if_neg repeated, ih, List.append_assoc, List.singleton_append]

theorem foldl_add_nil (rows : List Nat) : rows.foldl add [] = dropRepeats rows := by
  cases rows with
  | nil => rfl
  | cons row rest => exact foldl_add_concat [] rest row

/-- A sweep adds the rows in the order in which the lists are merged. -/
theorem sweep_eq_foldl (found left right : List Nat) :
    sweep found left right =
      (left.merge right fun first second => first ≤ second).foldl add found := by
  fun_induction sweep found left right with
  | case1 found => simp
  | case2 found row left ih => simpa using ih
  | case3 found row right ih => simpa using ih
  | case4 found first left second right inOrder ih =>
      rw [ih, List.cons_merge_cons, if_pos (decide_eq_true inOrder), List.foldl_cons]
  | case5 found first left second right outOfOrder ih =>
      rw [ih, List.cons_merge_cons, if_neg (by simpa using outOfOrder), List.foldl_cons]

theorem sweep_nil (left right : List Nat) : sweep [] left right = union left right := by
  rw [sweep_eq_foldl, foldl_add_nil, union]

/-! ## Neighbours -/

/-- The step: a row is not added behind itself. -/
theorem add_isChain {found : List Nat} (chain : found.IsChain (· ≠ ·)) (row : Nat) :
    (add found row).IsChain (· ≠ ·) := by
  unfold add
  split
  · exact chain
  · rename_i different
    apply List.isChain_append.2
    refine ⟨chain, .singleton row, ?_⟩
    intro last isLast first isFirst lastEq
    cases Option.some.inj isFirst
    exact different (lastEq ▸ isLast)

/-- The run: no two neighbours are equal, in whatever order the rows come. -/
theorem foldl_add_isChain {found : List Nat} (chain : found.IsChain (· ≠ ·)) (rows : List Nat) :
    (rows.foldl add found).IsChain (· ≠ ·) := by
  induction rows generalizing found with
  | nil => exact chain
  | cons row rest ih => exact ih (add_isChain chain row)

theorem union_isChain (left right : List Nat) : (union left right).IsChain (· ≠ ·) := by
  rw [union, ← foldl_add_nil]
  exact foldl_add_isChain .nil _

/-! ## Laws of sets -/

/-- Whether an operation on row sets is commutative, associative and idempotent. -/
structure IsSemilattice (operation : List Nat → List Nat → List Nat) : Prop where
  comm : ∀ first second, first.Pairwise (· < ·) → second.Pairwise (· < ·) →
    operation first second = operation second first
  assoc : ∀ first second third, first.Pairwise (· < ·) → second.Pairwise (· < ·) →
    third.Pairwise (· < ·) →
      operation (operation first second) third = operation first (operation second third)
  self : ∀ rows, rows.Pairwise (· < ·) → operation rows rows = rows

/-- An operation on row sets has the laws of the connective that its members are given by,
for a row set is determined by its members. -/
theorem isSemilattice_of_mem_iff {operation : List Nat → List Nat → List Nat}
    {connective : Prop → Prop → Prop} [Std.Commutative connective]
    [Std.Associative connective] [Std.IdempotentOp connective]
    (ascending : ∀ {left right}, left.Pairwise (· < ·) → right.Pairwise (· < ·) →
      (operation left right).Pairwise (· < ·))
    (mem_iff : ∀ {left right row},
      row ∈ operation left right ↔ connective (row ∈ left) (row ∈ right)) :
    IsSemilattice operation where
  comm first second firstAscends secondAscends := by
    apply List.Pairwise.eq_of_mem_iff (ascending firstAscends secondAscends)
      (ascending secondAscends firstAscends)
    intro row
    have swapped : connective (row ∈ first) (row ∈ second) =
        connective (row ∈ second) (row ∈ first) := Std.Commutative.comm _ _
    rw [mem_iff, mem_iff, swapped]
  assoc first second third firstAscends secondAscends thirdAscends := by
    apply List.Pairwise.eq_of_mem_iff
      (ascending (ascending firstAscends secondAscends) thirdAscends)
      (ascending firstAscends (ascending secondAscends thirdAscends))
    intro row
    have regrouped : connective (connective (row ∈ first) (row ∈ second)) (row ∈ third) =
        connective (row ∈ first) (connective (row ∈ second) (row ∈ third)) :=
      Std.Associative.assoc _ _ _
    rw [mem_iff, mem_iff, mem_iff, mem_iff, regrouped]
  self rows ascends := by
    apply List.Pairwise.eq_of_mem_iff (ascending ascends ascends) ascends
    intro row
    have same : connective (row ∈ rows) (row ∈ rows) = (row ∈ rows) :=
      Std.IdempotentOp.idempotent _
    rw [mem_iff, same]

theorem union_isSemilattice : IsSemilattice union :=
  isSemilattice_of_mem_iff
    (fun leftAscends rightAscends =>
      union_ascending (leftAscends.imp Nat.le_of_lt) (rightAscends.imp Nat.le_of_lt))
    mem_union_iff

theorem intersection_isSemilattice : IsSemilattice intersection :=
  isSemilattice_of_mem_iff (fun _ rightAscends => intersection_ascending _ rightAscends)
    mem_intersection_iff

/-- The union is what one sweep over both lists finds: exactly the rows of either list, no
two neighbours equal, and strictly ascending if neither list descends. The intersection of
strictly ascending lists is strictly ascending and has exactly the common rows. On such lists
both operations are commutative, associative and idempotent. -/
theorem union_and_intersection_laws :
    (∀ left right : List Nat, left.Pairwise (· ≤ ·) → right.Pairwise (· ≤ ·) →
        (union left right).Pairwise (· < ·)) ∧
      (∀ left right, sweep [] left right = union left right ∧
        (∀ row, row ∈ union left right ↔ row ∈ left ∨ row ∈ right) ∧
          (union left right).IsChain (· ≠ ·)) ∧
      (∀ left right : List Nat, left.Pairwise (· < ·) → right.Pairwise (· < ·) →
        (intersection left right).Pairwise (· < ·) ∧
          ∀ row, row ∈ intersection left right ↔ row ∈ left ∧ row ∈ right) ∧
      IsSemilattice union ∧ IsSemilattice intersection := by
  refine ⟨?_, ?_, ?_, union_isSemilattice, intersection_isSemilattice⟩
  · intro left right leftSorted rightSorted
    exact union_ascending leftSorted rightSorted
  · intro left right
    exact ⟨sweep_nil left right, fun row => mem_union_iff, union_isChain left right⟩
  · intro left right _ rightAscends
    exact ⟨intersection_ascending left rightAscends, fun row => mem_intersection_iff⟩

/-- Repetitions in a list and across the lists, and a row that only one of them has. -/
theorem union_and_intersection_repeated :
    [1, 2, 2].Pairwise (· ≤ ·) ∧ [2, 2, 3].Pairwise (· ≤ ·) ∧
      (union [1, 2, 2] [2, 2, 3]).Pairwise (· < ·) ∧
      [1, 2].Pairwise (· < ·) ∧ [2, 3].Pairwise (· < ·) ∧
      (intersection [1, 2] [2, 3]).Pairwise (· < ·) ∧
      union [1, 2] [2, 3] = union [2, 3] [1, 2] := by
  have leftSorted : [1, 2, 2].Pairwise (· ≤ ·) := by decide
  have rightSorted : [2, 2, 3].Pairwise (· ≤ ·) := by decide
  have leftAscends : [1, 2].Pairwise (· < ·) := by decide
  have rightAscends : [2, 3].Pairwise (· < ·) := by decide
  obtain ⟨ascending, _, common, joins, _⟩ := union_and_intersection_laws
  exact ⟨leftSorted, rightSorted, ascending _ _ leftSorted rightSorted, leftAscends,
    rightAscends, (common _ _ leftAscends rightAscends).1,
    joins.comm _ _ leftAscends rightAscends⟩

end Tabula.Query.RowSet
