import Tabula.Proofs.Query.Satisfaction
import Tabula.Proofs.Table.Projection
import Tabula.Query.Answer

/-!
# Execution of statements

Without cancellation, a statement is executed in two steps: its filter is worked out,
and then rows are picked and columns kept. The second step cannot fail on account of
the rows, since the first one finds only rows of the table.
-/

namespace Tabula.Query

namespace Selection

/-- The columns that are asked for, in the order of the table. -/
def keep (table : Table) : Selection → Table
  | .all => table
  | .fields names => table.keep names

/-- Whether a column of a name is asked for. -/
def wants (name : String) : Selection → Bool
  | .all => true
  | .fields names => names.contains name

theorem keep_name (selection : Selection) (table : Table) :
    (selection.keep table).name = table.name := by
  cases selection <;> rfl

theorem keep_columns (selection : Selection) (table : Table) :
    (selection.keep table).columns =
      table.columns.filter fun column => selection.wants column.name := by
  cases selection with
  | all => exact (List.filter_eq_self.2 fun _ _ => rfl).symm
  | fields names => rfl

/-- Columns are kept alike in a table and in rows picked from it. -/
theorem keep_pick (selection : Selection) (table : Table) (rows : List Nat) :
    selection.keep (table.pick rows) = (selection.keep table).pick rows := by
  cases selection with
  | all => rfl
  | fields names => exact Table.keep_pick rows

end Selection

theorem mapError_eq_ok_iff {ε δ α : Type} {result : Except ε α} {wrap : ε → δ} {value : α} :
    result.mapError wrap = .ok value ↔ result = .ok value := by
  cases result <;> simp [Except.mapError]

theorem mapError_eq_error_iff {ε δ α : Type} {result : Except ε α} {wrap : ε → δ} {error : δ} :
    result.mapError wrap = .error error ↔ ∃ cause, result = .error cause ∧ wrap cause = error := by
  cases result <;> simp [Except.mapError]

namespace Statement

variable {table : Table}

/-- Rows are picked and columns kept exactly when the columns asked for exist. -/
theorem outcome_project_eq_ok_iff {rows : List Nat} (inTable : ∀ row ∈ rows, row < table.rowCount)
    (statement : Statement) {result : Table} :
    (project table rows statement.projection).outcome = .ok result ↔
      table.HasColumns statement.selection.names ∧
        result = (statement.selection.keep table).pick rows := by
  rw [project, Work.outcome_bind, Table.outcome_selectRows inTable, projection]
  cases statement.selection with
  | all => simp [Except.bind, Selection.names, Selection.keep, Table.HasColumns, eq_comm]
  | fields names =>
      change (table.pick rows).selectFields names = .ok result ↔ _
      rw [Table.selectFields_eq_ok_iff, Table.hasColumns_pick, Table.keep_pick]
      rfl

/-- Without cancellation, a statement is executed in two steps, each of which may
fail. -/
theorem runLowered_execute (statement : Statement) (table : Table) :
    (statement.execute table).runLowered =
      ((statement.filter.rows table).outcome.mapError .ofEvaluation).bind fun rows =>
        (project table rows statement.projection).outcome.mapError .ofProjection := by
  rw [execute, Polled.runLowered_bind, Work.outcome]
  cases (ExceptT.run (statement.filter.rows table)).runLowered with
  | error error => rfl
  | ok rows =>
      change Polled.runLowered (_ >>= _) = (Work.outcome _).mapError _
      rw [Polled.runLowered_bind, Work.outcome]
      cases (ExceptT.run (project table rows statement.projection)).runLowered with
      | error error => rfl
      | ok answer => rfl

/-- A statement has an answer exactly when no comparison that is visited has a fault
and the columns asked for exist. -/
theorem runLowered_execute_eq_ok_iff (statement : Statement) {result : Table} :
    (statement.execute table).runLowered = .ok result ↔
      statement.filter.fault? table = none ∧ table.HasColumns statement.selection.names ∧
        result = (statement.selection.keep table).pick (statement.filter.satisfying table) := by
  have inTable : ∀ row ∈ statement.filter.satisfying table, row < table.rowCount :=
    fun row member => (Filter.mem_satisfying_iff.1 member).1
  rw [runLowered_execute, Filter.outcome_rows, ← outcome_project_eq_ok_iff inTable]
  cases statement.filter.fault? table with
  | some error => simp [Filter.report, Except.mapError, Except.bind]
  | none =>
      rw [eq_self_iff_true, true_and]
      exact mapError_eq_ok_iff

end Statement

end Tabula.Query
