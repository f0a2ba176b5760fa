import Tabula.Query.Filter
import Tabula.Query.RowSet
import Tabula.Table.Projection

/-!
# The rows that satisfy a filter

A comparison goes through its column row by row, polling before each, and fails
at the first cell that cannot be compared. The right side of an `and` is left out
when no row satisfies the left side; both sides of an `or` are always worked out.
-/

namespace Tabula.Query.Filter

/-- The rows of the cells that satisfy a comparison, given the number of the first
cell and the rows found before it, the latest first. -/
def scan (comparison : Comparison) (literal : Value) (found : List Nat) (row : Nat) :
    List Value → Work (List Nat)
  | [] => return found.reverse
  | cell :: rest => do
      Work.check
      if ← Work.ofExcept (cell.compare literal comparison) then
        scan comparison literal (row :: found) (row + 1) rest
      else scan comparison literal found (row + 1) rest

/-- The rows of a table that satisfy a filter, in ascending order. -/
def rows (table : Table) : Filter → Work (List Nat)
  | .everything => return List.range table.rowCount
  | .compare field comparison literal => do
      let column ← Work.ofExcept (table.column field)
      scan comparison literal [] 0 column.cells.toList
  | .both left right => do
      let leftRows ← rows table left
      if leftRows.isEmpty then return leftRows
      let rightRows ← rows table right
      if rightRows.isEmpty then return rightRows
      return RowSet.intersection leftRows rightRows
  | .either left right => do
      let leftRows ← rows table left
      let rightRows ← rows table right
      if leftRows.isEmpty then return rightRows
      if rightRows.isEmpty then return leftRows
      return RowSet.union leftRows rightRows

end Tabula.Query.Filter
