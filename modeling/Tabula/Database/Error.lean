import Tabula.Query.Answer
import Tabula.TableFile

/-!
# What can go wrong with a database

The causes for which loading, dropping or querying fails, their messages, and which
of them are cancellations.
-/

namespace Tabula

/-- Why an operation on a database fails. -/
inductive DatabaseError where
  | query (error : Query.QueryError)
  /-- The registry of tables refuses the operation. -/
  | catalog (error : TableError)
  | load (error : LoadError)
  /-- The answer of a query could not be drawn. -/
  | format (error : TableError)
  | timeout (milliseconds : Nat)
  deriving DecidableEq, Repr

namespace DatabaseError

/-- The error in words. -/
def message : DatabaseError → String
  | .query error => error.message
  | .catalog error => error.message
  | .load error => s!"error when loading table: {error.message}"
  | .format error => s!"error when formatting result: {error.message}"
  | .timeout milliseconds => s!"query timed out after {milliseconds} ms"

/-- Whether the operation was stopped before it was complete. -/
def isCancellation : DatabaseError → Bool
  | .timeout _ | .query .cancelled | .format .cancelled => true
  | _ => false

end DatabaseError

end Tabula
