import Tabula.Query.Rows
import Tabula.Query.Statement

/-!
# Answering queries

A query is read, its table is looked up, the rows that satisfy its filter are
picked, and its columns are kept. The first step that fails is the answer; a
cancellation is reported as such, in whichever step it happens.
-/

namespace Tabula.Query

/-- Why a query has no answer. -/
inductive QueryError where
  | lexing (error : LexError)
  | grammar (error : GrammarError)
  /-- The table could not be looked up. -/
  | source (error : TableError)
  /-- The filter could not be worked out. -/
  | evaluation (error : TableError)
  /-- The rows or columns could not be taken. -/
  | projection (error : TableError)
  | cancelled
  deriving DecidableEq, Repr

namespace QueryError

/-- The error in words. -/
def message : QueryError → String
  | .lexing error => s!"Lexer error: {error.message}"
  | .grammar error => s!"Syntax error: {error.message}"
  | .source error => error.message
  | .evaluation error => s!"Filter error: {error.message}"
  | .projection error => s!"Projection error: {error.message}"
  | .cancelled => "Query cancelled"

/-- The error of a failed filter. -/
def ofEvaluation (error : TableError) : QueryError :=
  if error = .cancelled then .cancelled else .evaluation error

/-- The error of a failed projection. -/
def ofProjection (error : TableError) : QueryError :=
  if error = .cancelled then .cancelled else .projection error

end QueryError

/-- The statement of a query. -/
def parse (query : String) : Except QueryError Statement :=
  match tokenize query with
  | .error error => .error (.lexing error)
  | .ok tokens =>
      match Statement.ofTokens tokens with
      | .error error => .error (.grammar error)
      | .ok statement => .ok statement

/-- Takes rows of a table, and of these the columns asked for; all columns are
kept when none are asked for. -/
def project (table : Table) (rows : List Nat) (fields : Option (List String)) : Work Table := do
  let picked ← table.selectRows rows
  match fields with
  | none => return picked
  | some names => Work.ofExcept (picked.selectFields names)

namespace Statement

/-- The answer of a statement on its table. -/
def execute (statement : Statement) (table : Table) : Polled (Except QueryError Table) := do
  match ← (statement.filter.rows table).run with
  | .error error => return .error (.ofEvaluation error)
  | .ok rows =>
      match ← (project table rows statement.projection).run with
      | .error error => return .error (.ofProjection error)
      | .ok answer => return .ok answer

end Statement

/-- The answer of a query on the tables that `lookup` finds. -/
def answer (lookup : String → Except TableError Table) (query : String) :
    Polled (Except QueryError Table) :=
  match parse query with
  | .error error => return .error error
  | .ok statement =>
      match lookup statement.table with
      | .error error => return .error (.source error)
      | .ok table => statement.execute table

end Tabula.Query
