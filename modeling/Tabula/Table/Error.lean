import Tabula.Value

/-!
# What can go wrong with tables

The causes for which a comparison, a table, the register of tables or a
cancelled computation fails, and the message of each.
-/

namespace Tabula

/-- Why columns do not make a table. -/
inductive ColumnFault where
  /-- A column is not as long as the first one. -/
  | length (column : String) (count expected : Nat)
  /-- A cell is not of its column's declared type. -/
  | cellType (column : String) (row : Nat) (declared : CellType)
  /-- Two columns have one name. -/
  | repeatedName (name : String)
  deriving DecidableEq, Repr

namespace ColumnFault

/-- The fault in words. -/
def message : ColumnFault → String
  | .length column count expected =>
      s!"Column '{column}' has {count} values, expected {expected}"
  | .cellType column row declared =>
      s!"Column '{column}' row {row} is not of declared type {declared.word}"
  | .repeatedName name => s!"Duplicate field name: {name}"

end ColumnFault

/-- Why an operation on values or tables fails. -/
inductive TableError where
  | typeMismatch (expected got : CellType)
  | unsupportedComparison (comparison : Comparison) (type : CellType)
  | columnNotFound (table column : String)
  | rowOutOfRange (table : String) (row rowCount : Nat)
  | invalidColumns (fault : ColumnFault)
  | tableNotFound (name : String)
  | tableExists (name : String)
  | blankName (name : String)
  | cancelled
  deriving DecidableEq, Repr

namespace TableError

/-- The error in words. -/
def message : TableError → String
  | .typeMismatch expected got =>
      s!"Type mismatch: expected {expected.word}, got {got.word}"
  | .unsupportedComparison comparison type =>
      s!"Operator '{comparison.symbol}' is not supported for type {type.word}"
  | .columnNotFound table column => s!"Column '{column}' not found in table '{table}'"
  | .rowOutOfRange table row rowCount =>
      s!"Row {row} out of range for table '{table}' with {rowCount} rows"
  | .invalidColumns fault => s!"Invalid schema: {fault.message}"
  | .tableNotFound name => s!"Table '{name}' doesn't exist"
  | .tableExists name => s!"Table '{name}' already exists"
  | .blankName name => s!"Invalid table name: '{name}'"
  | .cancelled => "Operation cancelled"

end TableError

namespace Value

/-- Tests a cell against a literal. -/
def compare (cell literal : Value) (comparison : Comparison) : Except TableError Bool :=
  match cell, literal with
  | .number left, .number right =>
      .ok <| match comparison with
        | .equal => left.equals right
        | .less => left.isBelow right
        | .greater => right.isBelow left
  | .text left, .text right =>
      if comparison = .equal then .ok (left == right)
      else .error (.unsupportedComparison comparison .text)
  | cell, literal => .error (.typeMismatch cell.type literal.type)

/-- Only a difference of types or an order of texts makes a comparison fail. -/
theorem compare_isOk_iff {cell literal : Value} {comparison : Comparison} :
    (cell.compare literal comparison).isOk = true ↔
      cell.type = literal.type ∧ (cell.type = .number ∨ comparison = .equal) := by
  cases cell <;> cases literal <;> cases comparison <;>
    simp [compare, type, Except.isOk, Except.toBool]

end Value

end Tabula
