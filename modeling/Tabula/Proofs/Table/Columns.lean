import Tabula.Proofs.Named
import Tabula.Table.Projection

/-!
# Columns by name

Looking a name up in a table finds the one column of that name, and fails when there
is none.
-/

namespace Tabula.Table

variable {table : Table} {name : String}

/-- A table has at most one column of a name. -/
theorem column_unique {first second : Column} (firstMember : first ∈ table.columns)
    (secondMember : second ∈ table.columns) (nameEq : first.name = second.name) :
    first = second :=
  List.inj_on_of_nodup_map table.sound.distinct firstMember secondMember nameEq

theorem column_eq_ok_iff {column : Column} :
    table.column name = .ok column ↔ column ∈ table.columns ∧ column.name = name := by
  rw [← find?_key_eq_some_iff table.sound.distinct, Table.column]
  cases table.columns.find? fun candidate => candidate.name = name <;> simp

theorem column_eq_error_iff {error : TableError} :
    table.column name = .error error ↔
      (∀ column ∈ table.columns, column.name ≠ name) ∧
        error = .columnNotFound table.name name := by
  rw [← find?_key_eq_none_iff, Table.column]
  cases table.columns.find? fun candidate => candidate.name = name <;> simp [eq_comm]

end Tabula.Table
