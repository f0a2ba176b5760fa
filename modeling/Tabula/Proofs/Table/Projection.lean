import Tabula.Proofs.Table.Work
import Tabula.Table.Projection

/-!
# Rows and columns that exist

Picking rows fails at the first row that the table does not have, and keeping columns
at the first name that no column has. Neither can fail in another way, and the order
in which rows are picked and columns are kept makes no difference.
-/

namespace Tabula.Table

variable {table : Table} {names : List String}

/-- Only a row behind the last one stops the check. -/
theorem outcome_checkRows (table : Table) (rows : List Nat) :
    (table.checkRows rows).outcome =
      match rows.find? fun row => table.rowCount ≤ row with
      | none => .ok ()
      | some row => .error (.rowOutOfRange table.name row table.rowCount) := by
  induction rows with
  | nil => rfl
  | cons row rest ih =>
      rw [checkRows, Work.outcome_bind, Work.outcome_check, Except.bind]
      by_cases outside : table.rowCount ≤ row
      · simp [outside]
      · simp [outside, ih]

theorem noneOutside_iff {rows : List Nat} :
    rows.find? (fun row => table.rowCount ≤ row) = none ↔ ∀ row ∈ rows, row < table.rowCount := by
  simp

theorem outcome_selectRows {rows : List Nat} (inTable : ∀ row ∈ rows, row < table.rowCount) :
    (table.selectRows rows).outcome = .ok (table.pick rows) := by
  rw [selectRows, Work.outcome_bind, outcome_checkRows, noneOutside_iff.2 inTable]
  rfl

theorem outcome_selectRows_of_outside {rows : List Nat} {row : Nat}
    (outside : rows.find? (fun row => table.rowCount ≤ row) = some row) :
    (table.selectRows rows).outcome =
      .error (.rowOutOfRange table.name row table.rowCount) := by
  rw [selectRows, Work.outcome_bind, outcome_checkRows, outside]
  rfl

/-- Whether every name is the name of a column. -/
def HasColumns (table : Table) (names : List String) : Prop :=
  ∀ name ∈ names, ∃ column ∈ table.columns, column.name = name

theorem hasColumns_iff :
    table.HasColumns names ↔ names.find? (fun name => (table.position? name).isNone) = none := by
  simp [HasColumns, position?, List.find?_eq_none]

/-- Columns are kept exactly when all of them exist. -/
theorem selectFields_eq_ok_iff {result : Table} :
    table.selectFields names = .ok result ↔ table.HasColumns names ∧ result = table.keep names := by
  rw [hasColumns_iff, selectFields]
  cases names.find? fun name => (table.position? name).isNone with
  | none => simp [eq_comm]
  | some missing => simp

theorem hasColumns_pick (rows : List Nat) :
    (table.pick rows).HasColumns names ↔ table.HasColumns names := by
  have sameNames : ∀ name, (∃ column ∈ (table.pick rows).columns, column.name = name) ↔
      ∃ column ∈ table.columns, column.name = name := by
    intro name
    constructor
    · rintro ⟨picked, member, nameEq⟩
      obtain ⟨column, source, rfl⟩ := List.mem_map.1 member
      exact ⟨column, source, nameEq⟩
    · rintro ⟨column, source, nameEq⟩
      exact ⟨column.pick rows, List.mem_map_of_mem source, nameEq⟩
  simp only [HasColumns, sameNames]

/-- Columns of picked rows are the picked rows of the columns. -/
theorem keep_pick (rows : List Nat) :
    (table.pick rows).keep names = (table.keep names).pick rows := by
  have sameColumns : (table.columns.map fun column => column.pick rows).filter
        (fun column => names.contains column.name) =
      (table.columns.filter fun column => names.contains column.name).map
        fun column => column.pick rows :=
    List.filter_map
  simp only [keep, pick, sameColumns]

end Tabula.Table
