import Tabula.Value

/-!
# Tokens of a query

The units that a query is made of, with their kinds and the priorities by which
operators bind.
-/

namespace Tabula.Query

/-- The words that open the sections of a query: the select list, the source and the
condition. -/
inductive Keyword where
  | select
  | source
  | condition
  deriving DecidableEq, Repr

namespace Keyword

/-- The keyword as it is written in lower case. -/
def word : Keyword → String
  | .select => "select"
  | .source => "from"
  | .condition => "where"

/-- The keyword that a lower-case word stands for. -/
def ofWord? (word : String) : Option Keyword :=
  if word = "select" then some .select
  else if word = "from" then some .source
  else if word = "where" then some .condition
  else none

@[simp]
theorem ofWord?_word (keyword : Keyword) : ofWord? keyword.word = some keyword := by
  cases keyword <;> rfl

end Keyword

/-- A token. -/
inductive Token where
  | keyword (keyword : Keyword)
  /-- The name of a column or a table, or the sign for all columns. -/
  | identifier (name : String)
  | text (text : String)
  | number (number : Binary64)
  | compare (comparison : Comparison)
  | and
  | or
  | openBracket
  | closeBracket
  /-- A word of no other kind. -/
  | unknown (word : String)
  deriving DecidableEq, Repr

namespace Token

/-- What a token is, without what it says. -/
inductive Kind where
  | keyword
  | identifier
  | text
  | number
  | compare (comparison : Comparison)
  | and
  | or
  | openBracket
  | closeBracket
  | unknown
  deriving DecidableEq, Repr

/-- The name of a kind in messages. -/
def Kind.description : Kind → String
  | .keyword => "keyword"
  | .identifier => "identifier"
  | .text => "string literal"
  | .number => "number literal"
  | .compare comparison => s!"'{comparison.symbol}'"
  | .and => "'and'"
  | .or => "'or'"
  | .openBracket => "'('"
  | .closeBracket => "')'"
  | .unknown => "unknown token"

/-- The kind of a token. -/
def kind : Token → Kind
  | .keyword _ => .keyword
  | .identifier _ => .identifier
  | .text _ => .text
  | .number _ => .number
  | .compare comparison => .compare comparison
  | .and => .and
  | .or => .or
  | .openBracket => .openBracket
  | .closeBracket => .closeBracket
  | .unknown _ => .unknown

/-- How tightly a token binds: brackets, then comparisons, then `and`, then `or`. -/
def priority : Token → Nat
  | .openBracket | .closeBracket => 4
  | .compare _ => 3
  | .and => 2
  | .or => 1
  | _ => 0

/-- Whether a token waits for its operands. -/
def isOperator : Token → Bool
  | .compare _ | .and | .or | .openBracket | .closeBracket => true
  | _ => false

/-- The value of a literal. -/
def literal? : Token → Option Value
  | .number value => some (.number value)
  | .text value => some (.text value)
  | _ => none

/-- Operators are the tokens with a priority. -/
theorem isOperator_eq_true_iff {token : Token} : token.isOperator = true ↔ 0 < token.priority := by
  cases token <;> simp [isOperator, priority]

end Token

end Tabula.Query
