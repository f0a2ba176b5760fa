import Tabula.Query.Filter
import Tabula.Query.Token

/-!
# Filters from postfix order

Operands wait until a comparison takes the last two; a comparison leaves a filter
behind, and `and` and `or` join the last two filters, the later one on the left.
Exactly one filter must remain. The sign of a comparison is kept as it was
written, on whichever side the column stands.
-/

namespace Tabula.Query

/-- Why tokens are no statement. -/
inductive GrammarError where
  | selectNotFirst
  | sourceWithoutSelect
  | emptySelectList
  | mixedSelectList
  | conditionWithoutSource
  | missingTableName
  | secondTableName
  | missingSource
  | unexpectedToken (kind : Token.Kind)
  | malformedCondition
  /-- The condition reduces to a number of filters other than one. -/
  | unreducedCondition (roots : Nat)
  deriving DecidableEq, Repr

namespace GrammarError

/-- The error in words. -/
def message : GrammarError → String
  | .selectNotFirst => "select should be the first word"
  | .sourceWithoutSelect => "from section should be after select"
  | .emptySelectList => "fields should be specified after select"
  | .mixedSelectList => "invalid select list: '*' cannot be combined with fields"
  | .conditionWithoutSource => "where section should be after from"
  | .missingTableName => "tablename should be specified after from"
  | .secondTableName => "tablename specified twice"
  | .missingSource => "from section is missing"
  | .unexpectedToken kind => s!"unexpected {kind.description} before where section"
  | .malformedCondition => "invalid where format"
  | .unreducedCondition roots =>
      s!"invalid where format: expression reduces to {roots} conditions instead of one"

end GrammarError

namespace Filter

/-- The comparison of two operands, one of which names a column while the other is
a literal. If both could be the name, the first one is. -/
def ofOperands (first second : Token) (comparison : Comparison) : Except GrammarError Filter :=
  match first, second with
  | .identifier field, other | other, .identifier field =>
      match other.literal? with
      | some literal => .ok (.compare field comparison literal)
      | none => .error .malformedCondition
  | _, _ => .error .malformedCondition

/-- The filters that tokens leave behind, given the operands and the filters that
wait, the latest first. -/
def reduce (operands : List Token) (filters : List Filter) :
    List Token → Except GrammarError (List Filter)
  | [] => .ok filters
  | .compare comparison :: rest =>
      match operands with
      | second :: first :: below =>
          match ofOperands first second comparison with
          | .ok filter => reduce below (filter :: filters) rest
          | .error error => .error error
      | _ => .error .malformedCondition
  | .and :: rest =>
      match filters with
      | left :: right :: below => reduce operands (.both left right :: below) rest
      | _ => .error .malformedCondition
  | .or :: rest =>
      match filters with
      | left :: right :: below => reduce operands (.either left right :: below) rest
      | _ => .error .malformedCondition
  | token :: rest => reduce (token :: operands) filters rest

/-- The filter of a condition in postfix order. -/
def ofPostfix (tokens : List Token) : Except GrammarError Filter :=
  match reduce [] [] tokens with
  | .ok [filter] => .ok filter
  | .ok filters => .error (.unreducedCondition filters.length)
  | .error error => .error error

end Filter

end Tabula.Query
