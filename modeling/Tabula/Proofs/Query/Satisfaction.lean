import Tabula.Proofs.Query.RowSet
import Tabula.Proofs.Table.Columns
import Tabula.Proofs.Table.Work
import Tabula.Query.Rows

/-!
# Satisfaction of filters

A filter holds at a row or it does not, and this has nothing to do with the order in
which rows are looked at. Working a filter out, without cancellation, gives either
the rows at which it holds, in ascending order, or the fault of the first comparison
visited that has one. Whether a comparison has a fault depends only on the
declarations of the columns and on whether there are rows at all.
-/

namespace Tabula

/-- Whether a comparison holds between a cell and a literal. Numbers compare as their signed
ranks do, so NaN with nothing. A text is equal to itself, and texts have no order. -/
inductive Comparison.Holds : Comparison → Value → Value → Prop
  | equalNumbers {cell literal : Binary64} {rank : Int} (cellRank : cell.signedRank = some rank)
      (literalRank : literal.signedRank = some rank) : Holds .equal (.number cell) (.number literal)
  | less {cell literal : Binary64} {lower upper : Int} (cellRank : cell.signedRank = some lower)
      (literalRank : literal.signedRank = some upper) (below : lower < upper) :
      Holds .less (.number cell) (.number literal)
  | greater {cell literal : Binary64} {lower upper : Int} (cellRank : cell.signedRank = some upper)
      (literalRank : literal.signedRank = some lower) (below : lower < upper) :
      Holds .greater (.number cell) (.number literal)
  | equalTexts (text : String) : Holds .equal (.text text) (.text text)

namespace Value

/-- Comparing says of a comparison that it holds exactly if it does. -/
theorem compare_eq_ok_true_iff {cell literal : Value} {comparison : Comparison} :
    cell.compare literal comparison = .ok true ↔ comparison.Holds cell literal := by
  constructor
  · intro compared
    cases cell with
    | number left =>
        cases literal with
        | text _ => cases compared
        | number right =>
            have answer := Except.ok.inj compared
            cases comparison with
            | equal =>
                obtain ⟨_, cellRank, literalRank⟩ := Binary64.equals_iff.1 answer
                exact .equalNumbers cellRank literalRank
            | less =>
                obtain ⟨_, _, cellRank, literalRank, below⟩ := Binary64.isBelow_iff.1 answer
                exact .less cellRank literalRank below
            | greater =>
                obtain ⟨_, _, literalRank, cellRank, below⟩ := Binary64.isBelow_iff.1 answer
                exact .greater cellRank literalRank below
    | text left =>
        cases literal with
        | number _ => cases compared
        | text right =>
            cases comparison with
            | equal =>
                obtain rfl : left = right := by simpa [compare] using compared
                exact .equalTexts left
            | less | greater => cases compared
  · intro holds
    cases holds with
    | equalNumbers cellRank literalRank =>
        exact congrArg Except.ok (Binary64.equals_iff.2 ⟨_, cellRank, literalRank⟩)
    | less cellRank literalRank below =>
        exact congrArg Except.ok (Binary64.isBelow_iff.2 ⟨_, _, cellRank, literalRank, below⟩)
    | greater cellRank literalRank below =>
        exact congrArg Except.ok (Binary64.isBelow_iff.2 ⟨_, _, literalRank, cellRank, below⟩)
    | equalTexts text => simp [compare]

instance (comparison : Comparison) (cell literal : Value) :
    Decidable (comparison.Holds cell literal) :=
  decidable_of_iff _ compare_eq_ok_true_iff

theorem compare_eq_mismatch {cell literal : Value} (typeNe : cell.type ≠ literal.type)
    (comparison : Comparison) :
    cell.compare literal comparison = .error (.typeMismatch cell.type literal.type) := by
  cases cell <;> cases literal <;> simp_all [compare, type]

theorem compare_eq_unsupported {cell literal : Value} {comparison : Comparison}
    (cellText : cell.type = .text) (literalText : literal.type = .text)
    (notEqual : comparison ≠ .equal) :
    cell.compare literal comparison = .error (.unsupportedComparison comparison .text) := by
  cases cell <;> cases literal <;> simp_all [compare, type]

theorem exists_compare_eq_ok {cell literal : Value} {comparison : Comparison}
    (typeEq : cell.type = literal.type) (ordered : ¬(cell.type = .text ∧ comparison ≠ .equal)) :
    ∃ holds, cell.compare literal comparison = .ok holds := by
  cases cell <;> cases literal <;> simp_all [compare, type]

end Value

namespace Query

open RowSet

/-- A comparison of a column with a literal, as it stands in a condition. -/
structure Leaf where
  field : String
  comparison : Comparison
  literal : Value
  deriving DecidableEq

namespace Leaf

/-- Whether the comparison holds between the cell of the named column and the literal. -/
def Holds (table : Table) (row : Nat) (leaf : Leaf) : Prop :=
  ∃ column ∈ table.columns, column.name = leaf.field ∧
    ∃ cell ∈ column.cell? row, leaf.comparison.Holds cell leaf.literal

instance (table : Table) (row : Nat) (leaf : Leaf) : Decidable (leaf.Holds table row) :=
  inferInstanceAs (Decidable (∃ column ∈ table.columns, _ ∧ _))

/-- Why the comparison cannot be made. A table without rows makes none. -/
def fault? (table : Table) (leaf : Leaf) : Option TableError :=
  match table.column leaf.field with
  | .error error => some error
  | .ok column =>
      if table.rowCount = 0 then none
      else if column.type ≠ leaf.literal.type then
        some (.typeMismatch column.type leaf.literal.type)
      else if column.type = .text ∧ leaf.comparison ≠ .equal then
        some (.unsupportedComparison leaf.comparison .text)
      else none

end Leaf

namespace Filter

/-- Whether a filter holds at a row. -/
def Holds (table : Table) (row : Nat) : Filter → Prop
  | .everything => True
  | .compare field comparison literal => Leaf.Holds table row ⟨field, comparison, literal⟩
  | .both left right => left.Holds table row ∧ right.Holds table row
  | .either left right => left.Holds table row ∨ right.Holds table row

instance decidableHolds (table : Table) (row : Nat) :
    (filter : Filter) → Decidable (filter.Holds table row)
  | .everything => inferInstanceAs (Decidable True)
  | .compare _ _ _ => inferInstanceAs (Decidable (Leaf.Holds table row _))
  | .both left right =>
      have := decidableHolds table row left
      have := decidableHolds table row right
      inferInstanceAs (Decidable (_ ∧ _))
  | .either left right =>
      have := decidableHolds table row left
      have := decidableHolds table row right
      inferInstanceAs (Decidable (_ ∨ _))

/-- The rows of a table at which a filter holds. -/
def satisfying (table : Table) (filter : Filter) : List Nat :=
  rowsWhere table.rowCount fun row => filter.Holds table row

/-- The comparisons that are made, from left to right: all but those on the right of
an `and` whose left side holds at no row. -/
def visited (table : Table) : Filter → List Leaf
  | .everything => []
  | .compare field comparison literal => [⟨field, comparison, literal⟩]
  | .both left right =>
      left.visited table ++ if left.satisfying table = [] then [] else right.visited table
  | .either left right => left.visited table ++ right.visited table

/-- The fault of the first comparison visited that has one. -/
def fault? (table : Table) (filter : Filter) : Option TableError :=
  (filter.visited table).findSome? (Leaf.fault? table)

/-- The fault, or the rows where there is none. -/
def report (fault : Option TableError) (rows : List Nat) : Except TableError (List Nat) :=
  match fault with
  | some error => .error error
  | none => .ok rows

theorem mem_satisfying_iff {table : Table} {filter : Filter} {row : Nat} :
    row ∈ filter.satisfying table ↔ row < table.rowCount ∧ filter.Holds table row :=
  mem_rowsWhere_iff

theorem satisfying_ascending (table : Table) (filter : Filter) :
    (filter.satisfying table).Pairwise (· < ·) :=
  rowsWhere_ascending table.rowCount _

/-! ## One comparison -/

/-- A column is gone through to its end when every cell can be compared. -/
theorem outcome_scan {comparison : Comparison} {literal : Value} (accepts : Nat → Prop)
    [DecidablePred accepts] {cells : List Value} {row : Nat} (found : List Nat)
    (decided : ∀ index, (bound : index < cells.length) →
      cells[index].compare literal comparison = .ok (decide (accepts (row + index)))) :
    (scan comparison literal found row cells).outcome =
      .ok (found.reverse ++ (List.range' row cells.length).filter fun row => accepts row) := by
  induction cells generalizing row found with
  | nil => simp [scan]
  | cons cell rest ih =>
      have here : cell.compare literal comparison = .ok (decide (accepts row)) :=
        decided 0 (Nat.zero_lt_succ _)
      have later : ∀ index, (bound : index < rest.length) →
          rest[index].compare literal comparison = .ok (decide (accepts (row + 1 + index))) := by
        intro index bound
        have next := decided (index + 1) (Nat.succ_lt_succ bound)
        rwa [List.getElem_cons_succ, Nat.add_comm index 1, ← Nat.add_assoc] at next
      rw [scan]
      by_cases accepted : accepts row
      · simp [here, accepted, ih (row :: found) later, Except.bind, List.range'_succ]
      · simp [here, accepted, ih found later, Except.bind, List.range'_succ]

/-- A column is given up at its first cell when that cannot be compared. -/
theorem outcome_scan_of_error {comparison : Comparison} {literal cell : Value}
    {error : TableError} (failed : cell.compare literal comparison = .error error)
    (found : List Nat) (row : Nat) (rest : List Value) :
    (scan comparison literal found row (cell :: rest)).outcome = .error error := by
  simp [scan, failed, Except.bind]

end Filter

namespace Leaf

variable {table : Table} {column : Column} {leaf : Leaf}

/-- A leaf holds at a row exactly if its column's cell compares so. -/
theorem holds_iff_of_column (found : table.column leaf.field = .ok column) (row : Nat) :
    leaf.Holds table row ↔
      ∃ cell ∈ column.cell? row, cell.compare leaf.literal leaf.comparison = .ok true := by
  obtain ⟨member, nameEq⟩ := Table.column_eq_ok_iff.1 found
  simp only [Value.compare_eq_ok_true_iff]
  constructor
  · rintro ⟨other, otherMember, otherName, holds⟩
    rwa [Table.column_unique otherMember member (otherName.trans nameEq.symm)] at holds
  · intro holds
    exact ⟨column, member, nameEq, holds⟩

/-- Cells have the declared type, so each of them can be compared when the literal
fits the declaration. -/
theorem compare_cells (found : table.column leaf.field = .ok column)
    (typeEq : column.type = leaf.literal.type)
    (ordered : ¬(column.type = .text ∧ leaf.comparison ≠ .equal))
    (index : Nat) (bound : index < column.cells.toList.length) :
    column.cells.toList[index].compare leaf.literal leaf.comparison =
      .ok (decide (leaf.Holds table (0 + index))) := by
  have cellFound : column.cell? index = some column.cells.toList[index] := by
    rw [Column.cell?, Array.getElem?_eq_getElem (by simpa using bound), Array.getElem_toList]
  have cellType : (column.cells.toList[index]).type = column.type :=
    table.sound.typed column (Table.column_eq_ok_iff.1 found).1 _
      (Array.mem_of_getElem? cellFound)
  obtain ⟨holds, compared⟩ := Value.exists_compare_eq_ok (cellType.trans typeEq)
    (cellType.symm ▸ ordered)
  have holdsEq : leaf.Holds table index ↔ holds = true := by
    rw [holds_iff_of_column found, cellFound]
    simp only [Option.mem_def, Option.some.injEq, exists_eq_left', compared, Except.ok.injEq]
  rw [compared, Nat.zero_add]
  simp [holdsEq]

end Leaf

namespace Filter

/-- Only cells of one type are in a column, so all of them can be compared or, if there
are any, the first one cannot. -/
theorem outcome_scan_column {table : Table} {column : Column} (leaf : Leaf)
    (found : table.column leaf.field = .ok column) :
    (scan leaf.comparison leaf.literal [] 0 column.cells.toList).outcome =
      report (leaf.fault? table) (rowsWhere table.rowCount fun row => leaf.Holds table row) := by
  have member := (Table.column_eq_ok_iff.1 found).1
  have length : column.cells.toList.length = table.rowCount := table.size_eq_rowCount member
  simp only [Leaf.fault?, found]
  by_cases noRows : table.rowCount = 0
  · have noCells : column.cells.toList = [] :=
      List.eq_nil_of_length_eq_zero (length.trans noRows)
    rw [noCells, if_pos noRows, noRows]
    rfl
  · rw [if_neg noRows]
    obtain ⟨first, rest, cellsEq⟩ := List.exists_cons_of_length_pos
      (length ▸ Nat.pos_of_ne_zero noRows)
    have firstType : first.type = column.type :=
      table.sound.typed column member first
        (Array.mem_toList_iff.1 (cellsEq ▸ List.mem_cons_self))
    by_cases typeEq : column.type = leaf.literal.type
    · rw [if_neg (not_not_intro typeEq)]
      by_cases unordered : column.type = .text ∧ leaf.comparison ≠ .equal
      · rw [if_pos unordered, cellsEq]
        exact outcome_scan_of_error
          (Value.compare_eq_unsupported (firstType.trans unordered.1)
            (typeEq.symm.trans unordered.1) unordered.2) [] 0 rest
      · rw [if_neg unordered,
          outcome_scan (fun row => leaf.Holds table row) []
            (Leaf.compare_cells found typeEq unordered), length]
        simp [report, rowsWhere, List.range_eq_range']
    · have failed := Value.compare_eq_mismatch
        (firstType ▸ typeEq : first.type ≠ leaf.literal.type) leaf.comparison
      rw [firstType] at failed
      rw [if_pos typeEq, cellsEq]
      exact outcome_scan_of_error failed [] 0 rest

/-! ## Whole filters -/

section Parts

variable (table : Table) (left right : Filter)

theorem satisfying_everything : everything.satisfying table = List.range table.rowCount := by
  apply List.filter_eq_self.2
  intro row _
  exact decide_eq_true trivial

theorem satisfying_compare (field : String) (comparison : Comparison) (literal : Value) :
    (compare field comparison literal).satisfying table =
      rowsWhere table.rowCount fun row => Leaf.Holds table row ⟨field, comparison, literal⟩ :=
  rowsWhere_congr fun _ => Iff.rfl

theorem satisfying_both :
    (both left right).satisfying table =
      intersection (left.satisfying table) (right.satisfying table) := by
  rw [satisfying, satisfying, satisfying, intersection_rowsWhere]
  exact rowsWhere_congr fun _ => Iff.rfl

theorem satisfying_either :
    (either left right).satisfying table =
      union (left.satisfying table) (right.satisfying table) := by
  rw [satisfying, satisfying, satisfying, union_rowsWhere]
  exact rowsWhere_congr fun _ => Iff.rfl

theorem fault?_compare (field : String) (comparison : Comparison) (literal : Value) :
    (compare field comparison literal).fault? table =
      Leaf.fault? table ⟨field, comparison, literal⟩ := by
  simp [fault?, visited]

theorem fault?_both :
    (both left right).fault? table =
      (left.fault? table).or
        (if left.satisfying table = [] then none else right.fault? table) := by
  rw [fault?, visited, List.findSome?_append]
  split <;> rfl

theorem fault?_either :
    (either left right).fault? table = (left.fault? table).or (right.fault? table) := by
  rw [fault?, visited, List.findSome?_append]
  rfl

end Parts

/-- Without cancellation, a filter is worked out to the first fault visited or to the
rows at which it holds. The short cuts of `and` and `or` make no difference to the
rows, since an empty side settles what the operation would give. -/
theorem outcome_rows (table : Table) (filter : Filter) :
    (filter.rows table).outcome = report (filter.fault? table) (filter.satisfying table) := by
  induction filter with
  | everything =>
      rw [rows, Work.outcome_pure, satisfying_everything]
      rfl
  | compare field comparison literal =>
      rw [rows, Work.outcome_bind, Work.outcome_ofExcept, fault?_compare, satisfying_compare]
      cases found : table.column field with
      | error error => simp [Except.bind, Leaf.fault?, found, report]
      | ok column => exact outcome_scan_column ⟨field, comparison, literal⟩ found
  | both left right leftOutcome rightOutcome =>
      rw [rows, Work.outcome_bind, leftOutcome, fault?_both, satisfying_both]
      cases left.fault? table with
      | some error => rfl
      | none =>
          by_cases leftEmpty : left.satisfying table = []
          · simp [report, Except.bind, leftEmpty, intersection]
          · simp only [report, Except.bind, List.isEmpty_iff, leftEmpty, if_false,
              Work.outcome_bind, rightOutcome, Option.none_or]
            cases right.fault? table with
            | some error => rfl
            | none =>
                by_cases rightEmpty : right.satisfying table = []
                · simp [rightEmpty, intersection]
                · simp [rightEmpty]
  | either left right leftOutcome rightOutcome =>
      rw [rows, Work.outcome_bind, leftOutcome, fault?_either, satisfying_either]
      cases left.fault? table with
      | some error => rfl
      | none =>
          simp only [report, Except.bind, Work.outcome_bind, rightOutcome, Option.none_or]
          cases right.fault? table with
          | some error => rfl
          | none =>
              by_cases leftEmpty : left.satisfying table = []
              · simp [leftEmpty, union_nil_left (right.satisfying_ascending table)]
              · by_cases rightEmpty : right.satisfying table = []
                · simp [leftEmpty, rightEmpty, union_nil_right (left.satisfying_ascending table)]
                · simp [leftEmpty, rightEmpty]

theorem fault?_eq_none_of_outcome {table : Table} {filter : Filter} {rows : List Nat}
    (worked : (filter.rows table).outcome = .ok rows) :
    filter.fault? table = none ∧ rows = filter.satisfying table := by
  rw [outcome_rows] at worked
  cases fault : filter.fault? table with
  | some error =>
      rw [fault] at worked
      cases worked
  | none =>
      rw [fault] at worked
      cases worked
      exact ⟨rfl, rfl⟩

/-- Rows that are found are exactly those at which the filter holds, each once and in
ascending order. -/
theorem ascending_and_mem_rows_iff {table : Table} {filter : Filter} {rows : List Nat}
    (worked : (filter.rows table).outcome = .ok rows) :
    rows.Pairwise (· < ·) ∧
      ∀ row, row ∈ rows ↔ row < table.rowCount ∧ filter.Holds table row := by
  obtain ⟨_, rfl⟩ := fault?_eq_none_of_outcome worked
  exact ⟨filter.satisfying_ascending table, fun row => mem_satisfying_iff⟩

/-- A table of three rows. -/
def colours : Table where
  name := "colours"
  columns := [⟨⟨"name", .text⟩, #[.text "red", .text "blue", .text "red"]⟩]
  sound := ⟨by simp [rowCountOf], by simp [Value.type, Column.type], by simp⟩

/-- A filter of which one side is skipped and the other is the result. -/
def redOrMissing : Filter :=
  .either (.compare "name" .equal (.text "red"))
    (.both (.compare "name" .equal (.text "green")) (.compare "missing" .equal (.text "red")))

theorem mem_rows_colours_iff :
    (redOrMissing.rows colours).outcome = .ok [0, 2] ∧ [0, 2].Pairwise (· < ·) ∧
      ∀ row, row ∈ [0, 2] ↔ row < colours.rowCount ∧ redOrMissing.Holds colours row :=
  have worked : (redOrMissing.rows colours).outcome = .ok [0, 2] := rfl
  ⟨worked, ascending_and_mem_rows_iff worked⟩

end Filter

end Query

end Tabula
