import Tabula.Value

/-!
# Filters

The condition of a query as a tree: comparisons of a column with a literal,
joined by `and` and `or`. A query without a condition has the filter that every
row satisfies.
-/

namespace Tabula.Query

/-- A condition on rows. -/
inductive Filter where
  | everything
  | compare (field : String) (comparison : Comparison) (literal : Value)
  | both (left right : Filter)
  | either (left right : Filter)
  deriving DecidableEq, Repr

namespace Filter

/-- Whether a filter is the one of a query without a condition. -/
def isEverything : Filter → Bool
  | .everything => true
  | _ => false

/-- A literal as it is shown in a filter: texts stand in quotes. -/
def literalText : Value → String
  | .number value => value.text
  | .text value => s!"'{value}'"

/-- A filter with all its brackets. -/
def display : Filter → String
  | .everything => "true"
  | .compare field comparison literal =>
      s!"{field} {comparison.symbol} {literalText literal}"
  | .both left right => s!"({left.display} and {right.display})"
  | .either left right => s!"({left.display} or {right.display})"

/-- The number of comparisons. -/
def comparisons : Filter → Nat
  | .everything => 0
  | .compare .. => 1
  | .both left right | .either left right => left.comparisons + right.comparisons

end Filter

end Tabula.Query
