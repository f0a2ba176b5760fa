import Tabula.Proofs.Query.Reordering
import Tabula.Query.Grammar

/-!
# Precedence of conditions

Conditions in infix notation are the derivations of a grammar in which `and` binds
tighter than `or`, both join to the left, and brackets may stand around anything.
Taking the tokens of a condition and reading the filter off their postfix order
gives the tree of the derivation, in which the later operand is the left one.

Between two tokens of a condition the reordering is in the midst of operands that
have been passed on and operators that wait. The invariant names both for every
derivation: `emitted` and `waiting` together are the postfix code.
-/

namespace Tabula.Query

/-- The nonterminals of the grammar of conditions. -/
inductive Level where
  | atom
  | conjunction
  | disjunction

/-- The priority of the operator that joins conditions of a level. -/
def Level.priority : Level → Nat
  | .atom => 3
  | .conjunction => 2
  | .disjunction => 1

/-- The token of a literal. -/
def literalToken : Value → Token
  | .number value => .number value
  | .text value => .text value

@[simp]
theorem literalToken_isOperator (literal : Value) : (literalToken literal).isOperator = false := by
  cases literal <;> rfl

/-- A condition in infix notation. -/
inductive Condition : Level → Type where
  | fieldFirst (field : String) (comparison : Comparison) (literal : Value) : Condition .atom
  | literalFirst (literal : Value) (comparison : Comparison) (field : String) : Condition .atom
  | bracketed (inner : Condition .disjunction) : Condition .atom
  | single (atom : Condition .atom) : Condition .conjunction
  | and (left : Condition .conjunction) (right : Condition .atom) : Condition .conjunction
  | lone (conjunction : Condition .conjunction) : Condition .disjunction
  | or (left : Condition .disjunction) (right : Condition .conjunction) : Condition .disjunction

namespace Condition

/-- The condition as it is written. -/
def tokens : {level : Level} → Condition level → List Token
  | _, .fieldFirst field comparison literal =>
      [.identifier field, .compare comparison, literalToken literal]
  | _, .literalFirst literal comparison field =>
      [literalToken literal, .compare comparison, .identifier field]
  | _, .bracketed inner => .openBracket :: (inner.tokens ++ [.closeBracket])
  | _, .single atom => atom.tokens
  | _, .and left right => left.tokens ++ .and :: right.tokens
  | _, .lone conjunction => conjunction.tokens
  | _, .or left right => left.tokens ++ .or :: right.tokens

/-- The filter that the condition means, the later operand on the left. -/
def tree : {level : Level} → Condition level → Filter
  | _, .fieldFirst field comparison literal => .compare field comparison literal
  | _, .literalFirst literal comparison field => .compare field comparison literal
  | _, .bracketed inner => inner.tree
  | _, .single atom => atom.tree
  | _, .and left right => .both right.tree left.tree
  | _, .lone conjunction => conjunction.tree
  | _, .or left right => .either right.tree left.tree

/-- The postfix code: both operands, then their operator. -/
def postfixCode : {level : Level} → Condition level → List Token
  | _, .fieldFirst field comparison literal =>
      [.identifier field, literalToken literal, .compare comparison]
  | _, .literalFirst literal comparison field =>
      [literalToken literal, .identifier field, .compare comparison]
  | _, .bracketed inner => inner.postfixCode
  | _, .single atom => atom.postfixCode
  | _, .and left right => left.postfixCode ++ right.postfixCode ++ [.and]
  | _, .lone conjunction => conjunction.postfixCode
  | _, .or left right => left.postfixCode ++ right.postfixCode ++ [.or]

/-- The operators that wait after the last token, the latest first. A closing
bracket leaves none. -/
def waiting : {level : Level} → Condition level → List Token
  | _, .fieldFirst _ comparison _ => [.compare comparison]
  | _, .literalFirst _ comparison _ => [.compare comparison]
  | _, .bracketed _ => []
  | _, .single atom => atom.waiting
  | _, .and _ right => right.waiting ++ [.and]
  | _, .lone conjunction => conjunction.waiting
  | _, .or _ right => right.waiting ++ [.or]

/-- The tokens that have been passed on after the last one was taken. -/
def emitted : {level : Level} → Condition level → List Token
  | _, .fieldFirst field _ literal => [.identifier field, literalToken literal]
  | _, .literalFirst literal _ field => [literalToken literal, .identifier field]
  | _, .bracketed inner => inner.postfixCode
  | _, .single atom => atom.emitted
  | _, .and left right => left.postfixCode ++ right.emitted
  | _, .lone conjunction => conjunction.emitted
  | _, .or left right => left.postfixCode ++ right.emitted

variable {level : Level}

theorem emitted_append_waiting (condition : Condition level) :
    condition.emitted ++ condition.waiting = condition.postfixCode := by
  induction condition with
  | fieldFirst field comparison literal => rfl
  | literalFirst literal comparison field => rfl
  | bracketed inner ih => simp [emitted, waiting, postfixCode]
  | single atom ih => simpa [emitted, waiting, postfixCode] using ih
  | and left right _ ih => simp [emitted, waiting, postfixCode, ← ih]
  | lone conjunction ih => simpa [emitted, waiting, postfixCode] using ih
  | or left right _ ih => simp [emitted, waiting, postfixCode, ← ih]

/-- What waits after a condition binds at least as tightly as its level. -/
theorem priority_of_mem_waiting {condition : Condition level} {token : Token}
    (member : token ∈ condition.waiting) :
    token ≠ .openBracket ∧ level.priority ≤ token.priority := by
  induction condition with
  | fieldFirst field comparison literal =>
      have tokenEq : token = .compare comparison := by simpa [waiting] using member
      subst tokenEq
      exact ⟨by simp, Nat.le_refl 3⟩
  | literalFirst literal comparison field =>
      have tokenEq : token = .compare comparison := by simpa [waiting] using member
      subst tokenEq
      exact ⟨by simp, Nat.le_refl 3⟩
  | bracketed inner ih => simp [waiting] at member
  | single atom ih =>
      have bound := ih member
      exact ⟨bound.1, Nat.le_of_succ_le bound.2⟩
  | and left right _ ih =>
      rcases List.mem_append.1 member with inRight | last
      · have bound := ih inRight
        exact ⟨bound.1, Nat.le_of_succ_le bound.2⟩
      · have tokenEq : token = .and := List.mem_singleton.1 last
        subst tokenEq
        exact ⟨by simp, Nat.le_refl 2⟩
  | lone conjunction ih =>
      have bound := ih member
      exact ⟨bound.1, Nat.le_of_succ_le bound.2⟩
  | or left right _ ih =>
      rcases List.mem_append.1 member with inRight | last
      · have bound := ih inRight
        exact ⟨bound.1, Nat.le_of_succ_le bound.2⟩
      · have tokenEq : token = .or := List.mem_singleton.1 last
        subst tokenEq
        exact ⟨by simp, Nat.le_refl 1⟩

end Condition

/-! ## Taking the tokens of a condition -/

namespace Level

/-- No operator of the level releases what waits on the stack. -/
def Keeps (level : Level) (stack : List Token) : Prop :=
  ∀ top ∈ stack.head?, top = .openBracket ∨ top.priority < level.priority

theorem keeps_nil (level : Level) : level.Keeps [] := by
  intro top member
  cases member

theorem keeps_cons_iff {level : Level} {top : Token} {below : List Token} :
    level.Keeps (top :: below) ↔ top = .openBracket ∨ top.priority < level.priority := by
  simp [Keeps]

/-- A level keeps what a looser one keeps. -/
theorem Keeps.tighten {loose tight : Level} {stack : List Token} (keeps : loose.Keeps stack)
    (order : loose.priority ≤ tight.priority) : tight.Keeps stack := by
  intro top member
  rcases keeps top member with bracket | looser
  · exact .inl bracket
  · exact .inr (Nat.lt_of_lt_of_le looser order)

theorem Keeps.releases_eq_false {level : Level} {stack : List Token} (keeps : level.Keeps stack)
    {token : Token} (priority : token.priority = level.priority) :
    ∀ top ∈ stack.head?, Postfix.releases token top = false := by
  intro top member
  rcases keeps top member with bracket | looser
  · simp [Postfix.releases, bracket]
  · simp [Postfix.releases, priority, looser]

/-- An opening bracket can stand wherever a condition can. -/
theorem Keeps.openBracket {level : Level} {stack : List Token} (keeps : level.Keeps stack) :
    ∀ top ∈ stack.head?, Postfix.releases .openBracket top = false := by
  intro top member
  apply Postfix.releases_openBracket
  rintro rfl
  rcases keeps _ member with bracket | looser
  · cases bracket
  · cases level <;> simp [Token.priority, Level.priority] at looser

end Level

namespace Condition

variable {level : Level}

/-- An operator of a level releases what waits after a condition of the level. -/
theorem releases_of_mem_waiting (condition : Condition level) {operator : Token}
    (priority : operator.priority = level.priority) :
    ∀ token ∈ condition.waiting, Postfix.releases operator token = true := by
  intro token member
  have bound := priority_of_mem_waiting member
  simp [Postfix.releases, bound.1, priority, bound.2]

/-- The step of the reordering over a comparison. -/
theorem pushTokens_comparison {first second : Token} (firstOperand : first.isOperator = false)
    (secondOperand : second.isOperator = false) (comparison : Comparison) {order : Postfix}
    (keeps : Level.atom.Keeps order.stack) :
    order.pushTokens [first, .compare comparison, second] =
      some ⟨order.output ++ [first, second], .compare comparison :: order.stack⟩ := by
  rw [Postfix.pushTokens_cons, Postfix.push_operand firstOperand, Option.bind_some,
    Postfix.pushTokens_cons,
    Postfix.push_operator_alone _ rfl (by simp) (keeps.releases_eq_false rfl), Option.bind_some,
    Postfix.pushTokens_cons, Postfix.push_operand secondOperand]
  simp

/-- The step of the reordering over an operator and its right operand. -/
theorem pushTokens_join {left : Condition level} {operator : Token} {right : List Token}
    {order : Postfix} (isOperator : operator.isOperator = true)
    (priority : operator.priority = level.priority) (notClosing : operator ≠ .closeBracket)
    (keeps : level.Keeps order.stack)
    (taken : order.pushTokens left.tokens =
      some ⟨order.output ++ left.emitted, left.waiting ++ order.stack⟩) :
    order.pushTokens (left.tokens ++ operator :: right) =
      Postfix.pushTokens ⟨order.output ++ left.postfixCode, operator :: order.stack⟩ right := by
  have pushed := Postfix.push_operator (order.output ++ left.emitted) isOperator
    notClosing (left.releases_of_mem_waiting priority) (keeps.releases_eq_false priority)
  rw [Postfix.pushTokens_append, taken, Option.bind_some, Postfix.pushTokens_cons, pushed,
    Option.bind_some, List.append_assoc, emitted_append_waiting]

/-- A condition is taken as a whole: afterwards its operands and the operators that
it has released are passed on, and the others wait above what waited before. -/
theorem pushTokens_tokens (condition : Condition level) {order : Postfix}
    (keeps : level.Keeps order.stack) :
    order.pushTokens condition.tokens =
      some ⟨order.output ++ condition.emitted, condition.waiting ++ order.stack⟩ := by
  induction condition generalizing order with
  | fieldFirst field comparison literal =>
      exact pushTokens_comparison rfl (literalToken_isOperator literal) comparison keeps
  | literalFirst literal comparison field =>
      exact pushTokens_comparison (literalToken_isOperator literal) rfl comparison keeps
  | bracketed inner ih =>
      have opened : order.push .openBracket = some ⟨order.output, .openBracket :: order.stack⟩ :=
        Postfix.push_operator_alone order.output rfl (by simp) keeps.openBracket
      have taken : Postfix.pushTokens ⟨order.output, .openBracket :: order.stack⟩ inner.tokens =
          some ⟨order.output ++ inner.emitted, inner.waiting ++ .openBracket :: order.stack⟩ :=
        ih (Level.keeps_cons_iff.2 (.inl rfl))
      have closed : Postfix.push ⟨order.output ++ inner.emitted,
            inner.waiting ++ .openBracket :: order.stack⟩ .closeBracket =
          some ⟨order.output ++ inner.emitted ++ inner.waiting, order.stack⟩ :=
        Postfix.push_closeBracket_of_open (order.output ++ inner.emitted)
          fun token member => (priority_of_mem_waiting member).1
      rw [tokens, Postfix.pushTokens_cons, opened, Option.bind_some, Postfix.pushTokens_append,
        taken, Option.bind_some, Postfix.pushTokens_cons, closed, Option.bind_some,
        List.append_assoc, emitted_append_waiting]
      rfl
  | single atom ih => exact ih (keeps.tighten (Nat.le_succ _))
  | and left right leftTaken rightTaken =>
      rw [tokens, pushTokens_join rfl rfl (by simp) keeps (leftTaken keeps),
        rightTaken (Level.keeps_cons_iff.2 (.inr (Nat.lt_succ_self _)))]
      simp [emitted, waiting]
  | lone conjunction ih => exact ih (keeps.tighten (Nat.le_succ _))
  | or left right leftTaken rightTaken =>
      rw [tokens, pushTokens_join rfl rfl (by simp) keeps (leftTaken keeps),
        rightTaken (Level.keeps_cons_iff.2 (.inr (Nat.lt_succ_self _)))]
      simp [emitted, waiting]

/-- The tokens of a condition pass through the reordering into its postfix code. -/
theorem exists_pushTokens_finish (condition : Condition level) (output : List Token) :
    ∃ order, Postfix.pushTokens ⟨output, []⟩ condition.tokens = some order ∧
      order.finish = output ++ condition.postfixCode := by
  refine ⟨_, condition.pushTokens_tokens (level.keeps_nil), ?_⟩
  rw [Postfix.finish, List.append_nil, List.append_assoc, emitted_append_waiting]

/-! ## Reading the filter -/

theorem reduce_operand {token : Token} (operand : token.isOperator = false)
    (operands : List Token) (filters : List Filter) (rest : List Token) :
    Filter.reduce operands filters (token :: rest) =
      Filter.reduce (token :: operands) filters rest := by
  cases token <;> first | rfl | simp [Token.isOperator] at operand

/-- The postfix code of a condition leaves its tree behind, whatever comes before
and after. -/
theorem reduce_postfixCode (condition : Condition level) (operands : List Token)
    (filters : List Filter) (rest : List Token) :
    Filter.reduce operands filters (condition.postfixCode ++ rest) =
      Filter.reduce operands (condition.tree :: filters) rest := by
  induction condition generalizing filters rest with
  | fieldFirst field comparison literal =>
      rw [postfixCode, List.cons_append, reduce_operand rfl, List.cons_append,
        reduce_operand (literalToken_isOperator literal)]
      cases literal <;> rfl
  | literalFirst literal comparison field =>
      rw [postfixCode, List.cons_append, reduce_operand (literalToken_isOperator literal),
        List.cons_append, reduce_operand rfl]
      cases literal <;> rfl
  | bracketed inner ih => exact ih filters rest
  | single atom ih => exact ih filters rest
  | and left right leftRead rightRead =>
      rw [postfixCode, List.append_assoc, List.append_assoc, leftRead, rightRead]
      rfl
  | lone conjunction ih => exact ih filters rest
  | or left right leftRead rightRead =>
      rw [postfixCode, List.append_assoc, List.append_assoc, leftRead, rightRead]
      rfl

theorem ofPostfix_postfixCode (condition : Condition level) :
    Filter.ofPostfix condition.postfixCode = .ok condition.tree := by
  have read := condition.reduce_postfixCode [] [] []
  rw [List.append_nil] at read
  rw [Filter.ofPostfix, read]
  rfl

/-- Every condition of the grammar is compiled to its tree: no token is refused, and
the postfix order reduces to exactly one filter. -/
theorem exists_pushTokens_ofPostfix (condition : Condition .disjunction) :
    ∃ order, Postfix.empty.pushTokens condition.tokens = some order ∧
      Filter.ofPostfix order.finish = .ok condition.tree := by
  obtain ⟨order, taken, finished⟩ := condition.exists_pushTokens_finish []
  rw [List.nil_append] at finished
  exact ⟨order, taken, finished ▸ condition.ofPostfix_postfixCode⟩

end Condition

end Tabula.Query
