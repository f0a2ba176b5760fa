import Tabula.Query.Grammar
import Tabula.Query.Postfix

/-!
# Statements

A statement selects columns of a table and the rows that satisfy a filter. Its
tokens come section by section: the select list, the name of the table, and the
condition, whose tokens are kept until the end because they are in postfix order.
A token that cannot follow is refused and changes nothing.
-/

namespace Tabula.Query

/-- Which columns a statement asks for. -/
inductive Selection where
  | all
  | fields (names : List String)
  deriving DecidableEq, Repr

namespace Selection

/-- The names in a select list, which the sign for all columns is not. -/
def names : Selection → List String
  | .all => []
  | .fields names => names

/-- Whether nothing has been selected. -/
def isEmpty (selection : Selection) : Bool :=
  selection = .fields []

end Selection

/-- A statement. -/
structure Statement where
  selection : Selection
  table : String
  filter : Filter
  deriving DecidableEq, Repr

/-- The sign for all columns. -/
def allColumnsSign : String := "*"

namespace Statement

/-- The part of a statement that has been read. -/
inductive Draft where
  | blank
  | selecting (selection : Selection)
  | sourcing (selection : Selection) (table : Option String)
  | filtering (selection : Selection) (table : String) (condition : List Token)
  deriving DecidableEq, Repr

namespace Draft

/-- Begins the section of a keyword. -/
def pushKeyword (draft : Draft) : Keyword → Except GrammarError Draft
  | .select =>
      match draft with
      | .blank => .ok (.selecting (.fields []))
      | _ => .error .selectNotFirst
  | .source =>
      match draft with
      | .selecting selection =>
          if selection.isEmpty then .error .emptySelectList else .ok (.sourcing selection none)
      | _ => .error .sourceWithoutSelect
  | .condition =>
      match draft with
      | .sourcing selection (some table) => .ok (.filtering selection table [])
      | .sourcing _ none => .error .missingTableName
      | _ => .error .conditionWithoutSource

/-- Adds a name to a select list, which is either the sign for all columns or a
list of other names. -/
def addField (name : String) : Selection → Except GrammarError Selection
  | .all => .error .mixedSelectList
  | .fields names =>
      if name = allColumnsSign then
        if names.isEmpty then .ok .all else .error .mixedSelectList
      else .ok (.fields (names ++ [name]))

/-- Takes a name: a column of the select list, the table, or an operand. -/
def pushIdentifier (draft : Draft) (name : String) : Except GrammarError Draft :=
  match draft with
  | .blank => .error .selectNotFirst
  | .selecting selection => (addField name selection).map .selecting
  | .sourcing selection none => .ok (.sourcing selection (some name))
  | .sourcing _ (some _) => .error .secondTableName
  | .filtering selection table condition =>
      .ok (.filtering selection table (condition ++ [.identifier name]))

/-- Takes the next token. -/
def push (draft : Draft) : Token → Except GrammarError Draft
  | .keyword keyword => draft.pushKeyword keyword
  | .identifier name => draft.pushIdentifier name
  | token =>
      match draft with
      | .filtering selection table condition =>
          .ok (.filtering selection table (condition ++ [token]))
      | .blank => .error .selectNotFirst
      | _ => .error (.unexpectedToken token.kind)

/-- The filter of a condition, which may be empty. -/
def filterOf (condition : List Token) : Except GrammarError Filter :=
  if condition.isEmpty then .ok .everything else Filter.ofPostfix condition

/-- The statement, which must have a table. -/
def build : Draft → Except GrammarError Statement
  | .blank => .error .selectNotFirst
  | .selecting _ => .error .missingSource
  | .sourcing _ none => .error .missingTableName
  | .sourcing selection (some table) => .ok ⟨selection, table, .everything⟩
  | .filtering selection table condition =>
      (filterOf condition).map fun filter => ⟨selection, table, filter⟩

/-- Takes tokens up to the first that is refused. -/
def pushAll (draft : Draft) : List Token → Except GrammarError Draft
  | [] => .ok draft
  | token :: rest =>
      match draft.push token with
      | .ok next => next.pushAll rest
      | .error error => .error error

/-- The draft after a token, which stays the same if the token is refused. -/
def offer (draft : Draft) (token : Token) : Draft :=
  match draft.push token with
  | .ok next => next
  | .error _ => draft

end Draft

/-- The statement of tokens in postfix order. -/
def ofTokens (tokens : List Token) : Except GrammarError Statement :=
  match Draft.blank.pushAll tokens with
  | .ok draft => draft.build
  | .error error => .error error

/-- The names of a projection; all columns are kept without one. -/
def projection (statement : Statement) : Option (List String) :=
  match statement.selection with
  | .all => none
  | .fields names => some names

end Statement

end Tabula.Query
