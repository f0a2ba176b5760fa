import Tabula.Proofs.Query.Precedence
import Tabula.Proofs.Query.Sections
import Tabula.Proofs.Query.Spelling

/-!
# Requests

What a query asks for, as it is meant: columns, a table and perhaps a condition. Its
tokens, in whatever way they are written down, are read as the statement that asks
for the same. Only the tokens of the condition change their order on the way, for
everything before them passes at once.
-/

namespace Tabula.Query

/-- No keyword can get into a condition. -/
theorem Condition.kind_of_mem_postfixCode {level : Level} {condition : Condition level}
    {token : Token} (member : token ∈ condition.postfixCode) : token.kind ≠ .keyword := by
  have notLiteral : ∀ literal, (literalToken literal).kind ≠ .keyword := by
    intro literal
    cases literal <;> simp [literalToken, Token.kind]
  induction condition with
  | fieldFirst field comparison literal =>
      simp only [postfixCode, List.mem_cons, List.not_mem_nil, or_false] at member
      rcases member with rfl | rfl | rfl
      · simp [Token.kind]
      · exact notLiteral literal
      · simp [Token.kind]
  | literalFirst literal comparison field =>
      simp only [postfixCode, List.mem_cons, List.not_mem_nil, or_false] at member
      rcases member with rfl | rfl | rfl
      · exact notLiteral literal
      · simp [Token.kind]
      · simp [Token.kind]
  | bracketed inner ih => exact ih member
  | single atom ih => exact ih member
  | and left right inLeft inRight =>
      simp only [postfixCode, List.mem_append, List.mem_singleton] at member
      rcases member with (leftMember | rightMember) | rfl
      · exact inLeft leftMember
      · exact inRight rightMember
      · simp [Token.kind]
  | lone conjunction ih => exact ih member
  | or left right inLeft inRight =>
      simp only [postfixCode, List.mem_append, List.mem_singleton] at member
      rcases member with (leftMember | rightMember) | rfl
      · exact inLeft leftMember
      · exact inRight rightMember
      · simp [Token.kind]

theorem Statement.Draft.filterOf_of_ofPostfix {tokens : List Token} {filter : Filter}
    (read : Filter.ofPostfix tokens = .ok filter) : filterOf tokens = .ok filter := by
  rw [filterOf]
  cases tokens with
  | nil => cases read
  | cons first rest => exact read

/-- What a query asks for. The sign for all columns is not among the names of a
select list. -/
structure Request where
  selection : Selection
  table : String
  condition : Option (Condition .disjunction)
  nonempty : selection ≠ .fields []
  noSign : allColumnsSign ∉ selection.names

namespace Request

/-- The tokens of the select list and of the source. -/
def opening (request : Request) : List Token :=
  .keyword .select :: (request.selection.tokens ++ [.keyword .source, .identifier request.table])

/-- The tokens of a request. -/
def tokens (request : Request) : List Token :=
  match request.condition with
  | none => request.opening
  | some condition => request.opening ++ .keyword .condition :: condition.tokens

/-- The tokens of a request in postfix order. -/
def postfixCode (request : Request) : List Token :=
  match request.condition with
  | none => request.opening
  | some condition => request.opening ++ .keyword .condition :: condition.postfixCode

/-- The filter that a request means. -/
def filter (request : Request) : Filter :=
  match request.condition with
  | none => .everything
  | some condition => condition.tree

/-- The statement that a request is read as. -/
def statement (request : Request) : Statement :=
  ⟨request.selection, request.table, request.filter⟩

theorem operand_of_mem_opening {request : Request} {token : Token}
    (member : token ∈ request.opening) : token.isOperator = false := by
  simp only [opening, List.mem_cons, List.mem_append, List.not_mem_nil, or_false] at member
  rcases member with rfl | inList | rfl | rfl
  · rfl
  · obtain ⟨name, rfl⟩ := Selection.exists_of_mem_tokens inList
    rfl
  · rfl
  · rfl

/-- The tokens of a request pass through the reordering into its postfix code. -/
theorem exists_pushTokens_finish (request : Request) :
    ∃ order, Postfix.empty.pushTokens request.tokens = some order ∧
      order.finish = request.postfixCode := by
  have operands : ∀ token ∈ request.opening, token.isOperator = false :=
    fun _ member => operand_of_mem_opening member
  have openingTaken := Postfix.pushTokens_operands operands .empty
  cases conditionEq : request.condition with
  | none =>
      refine ⟨⟨request.opening, []⟩, ?_, ?_⟩
      · rw [tokens, conditionEq]
        exact openingTaken
      · rw [Postfix.finish, postfixCode, conditionEq, List.append_nil]
  | some condition =>
      obtain ⟨order, taken, finished⟩ :=
        condition.exists_pushTokens_finish (request.opening ++ [.keyword .condition])
      refine ⟨order, ?_, ?_⟩
      · rw [tokens, conditionEq, Postfix.pushTokens_append, openingTaken, Option.bind_some,
          Postfix.pushTokens_cons, Postfix.push_operand rfl, Option.bind_some]
        exact taken
      · rw [finished, postfixCode, conditionEq, List.append_assoc]
        rfl

/-! ## Section by section -/

theorem pushAll_opening (request : Request) (rest : List Token) :
    Statement.Draft.blank.pushAll (request.opening ++ rest) =
      (Statement.Draft.sourcing request.selection (some request.table)).pushAll rest := by
  have listed := Statement.Draft.pushAll_selection request.noSign
  have sourced : (Statement.Draft.selecting request.selection).push (.keyword .source) =
      .ok (.sourcing request.selection none) := by
    simp [Statement.Draft.push, Statement.Draft.pushKeyword, Selection.isEmpty, request.nonempty]
  rw [opening, List.cons_append, List.append_assoc, Statement.Draft.pushAll_cons_of_ok rfl,
    Statement.Draft.pushAll_append_of_ok listed, List.cons_append,
    Statement.Draft.pushAll_cons_of_ok sourced, List.cons_append,
    Statement.Draft.pushAll_cons_of_ok rfl, List.nil_append]

/-- The postfix code of a request is read as its statement. -/
theorem ofTokens_postfixCode (request : Request) :
    Statement.ofTokens request.postfixCode = .ok request.statement := by
  rw [Statement.ofTokens, postfixCode, statement, filter]
  cases request.condition with
  | none =>
      have read := request.pushAll_opening []
      rw [List.append_nil] at read
      rw [read]
      rfl
  | some condition =>
      have noKeyword : ∀ token ∈ condition.postfixCode, token.kind ≠ .keyword :=
        fun _ member => Condition.kind_of_mem_postfixCode member
      have kept := Statement.Draft.pushAll_condition noKeyword request.selection request.table []
      have filtered := Statement.Draft.filterOf_of_ofPostfix condition.ofPostfix_postfixCode
      simp only [pushAll_opening]
      rw [Statement.Draft.pushAll_cons_of_ok rfl, kept, List.nil_append]
      simp only [Statement.Draft.build, filtered]
      rfl

end Request

end Tabula.Query
