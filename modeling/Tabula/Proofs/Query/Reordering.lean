import Tabula.Query.Postfix

/-!
# Reordering token by token

What taking a token does to a reordering. An operand passes at once. An operator
releases the operators on top of the stack that bind as tightly and then waits.
A closing bracket releases everything down to the latest opening bracket,
whatever the priorities are.
-/

namespace Tabula.Query

namespace Postfix

/-- Takes tokens one after the other, if none of them is refused. -/
def pushTokens (order : Postfix) (tokens : List Token) : Option Postfix :=
  tokens.foldlM push order

/-- The tokens of a text in postfix order, or the error of the closing bracket that
is refused. -/
def arrange (tokens : List Placed) : Except LexError (List Token) :=
  match empty.pushAll tokens with
  | .ok order => .ok order.finish
  | .error position => .error ⟨.unmatchedBracket, position⟩

@[simp]
theorem pushTokens_nil (order : Postfix) : order.pushTokens [] = some order :=
  rfl

theorem pushTokens_cons (order : Postfix) (token : Token) (tokens : List Token) :
    order.pushTokens (token :: tokens) =
      (order.push token).bind fun next => next.pushTokens tokens :=
  rfl

theorem pushTokens_append (order : Postfix) (first second : List Token) :
    order.pushTokens (first ++ second) =
      (order.pushTokens first).bind fun next => next.pushTokens second := by
  simp [pushTokens, List.foldlM_append]

/-- Positions do not matter for what is taken, only for the error. -/
theorem toOption_pushAll (order : Postfix) (placed : List Placed) :
    (order.pushAll placed).toOption = order.pushTokens (placed.map Placed.token) := by
  induction placed generalizing order with
  | nil => rfl
  | cons first rest ih =>
      rw [List.map_cons, pushTokens_cons, pushAll]
      cases order.push first.token with
      | none => rfl
      | some next => exact ih next

theorem pushAll_eq_ok {order next : Postfix} {placed : List Placed}
    (taken : order.pushTokens (placed.map Placed.token) = some next) :
    order.pushAll placed = .ok next := by
  rw [← toOption_pushAll] at taken
  cases pushed : order.pushAll placed with
  | error position => simp [pushed, Except.toOption] at taken
  | ok last => simpa [pushed, Except.toOption] using taken

/-! ## One token -/

theorem push_operand {token : Token} (operand : token.isOperator = false) (order : Postfix) :
    order.push token = some { order with output := order.output ++ [token] } := by
  simp [push, operand]

/-- Operands pass all at once. -/
theorem pushTokens_operands {tokens : List Token}
    (operands : ∀ token ∈ tokens, token.isOperator = false) (order : Postfix) :
    order.pushTokens tokens = some { order with output := order.output ++ tokens } := by
  induction tokens generalizing order with
  | nil => simp
  | cons first rest ih =>
      have firstOperand := operands first List.mem_cons_self
      have restOperands : ∀ token ∈ rest, token.isOperator = false :=
        fun token member => operands token (List.mem_cons_of_mem first member)
      rw [pushTokens_cons, push_operand firstOperand, Option.bind_some, ih restOperands]
      simp

/-- An operator other than a closing bracket waits on top of what it does not
release. -/
theorem push_operator (output : List Token) {token : Token} {released below : List Token}
    (operator : token.isOperator = true) (notClosing : token ≠ .closeBracket)
    (looser : ∀ waiting ∈ released, releases token waiting = true)
    (tighter : ∀ waiting ∈ below.head?, releases token waiting = false) :
    push ⟨output, released ++ below⟩ token = some ⟨output ++ released, token :: below⟩ := by
  have nothingMore : below.takeWhile (releases token) = [] ∧
      below.dropWhile (releases token) = below := by
    cases below with
    | nil => exact ⟨rfl, rfl⟩
    | cons top rest =>
        have kept := tighter top rfl
        simp [kept]
  simp [push, operator, notClosing, List.takeWhile_append_of_pos looser,
    List.dropWhile_append_of_pos looser, nothingMore]

/-- An operator that releases nothing only waits. -/
theorem push_operator_alone (output : List Token) {token : Token} {stack : List Token}
    (operator : token.isOperator = true) (notClosing : token ≠ .closeBracket)
    (tighter : ∀ waiting ∈ stack.head?, releases token waiting = false) :
    push ⟨output, stack⟩ token = some ⟨output, token :: stack⟩ := by
  have pushed : push ⟨output, [] ++ stack⟩ token = some ⟨output ++ [], token :: stack⟩ :=
    push_operator output operator notClosing (by simp) tighter
  rwa [List.nil_append, List.append_nil] at pushed

theorem takeWhile_append_takeWhile_dropWhile {α : Type} {narrow wide : α → Bool}
    (included : ∀ item, narrow item = true → wide item = true) (items : List α) :
    items.takeWhile narrow ++ (items.dropWhile narrow).takeWhile wide = items.takeWhile wide := by
  induction items with
  | nil => rfl
  | cons first rest ih =>
      by_cases inNarrow : narrow first = true
      · simp [inNarrow, included first inNarrow, ih]
      · simp [inNarrow]

theorem dropWhile_dropWhile {α : Type} {narrow wide : α → Bool}
    (included : ∀ item, narrow item = true → wide item = true) (items : List α) :
    (items.dropWhile narrow).dropWhile wide = items.dropWhile wide := by
  induction items with
  | nil => rfl
  | cons first rest ih =>
      by_cases inNarrow : narrow first = true
      · simp [inNarrow, included first inNarrow, ih]
      · simp [inNarrow]

/-- The priority of a closing bracket releases nothing that the search for its
opening bracket would not release. -/
theorem push_closeBracket (order : Postfix) : order.push .closeBracket = order.close := by
  have included : ∀ waiting : Token, releases .closeBracket waiting = true →
      decide (waiting ≠ .openBracket) = true := by
    intro waiting released
    simp only [releases, Bool.and_eq_true] at released
    exact released.1
  simp only [push, close, Token.isOperator, Bool.not_true, Bool.false_eq_true, if_false, if_true]
  rw [dropWhile_dropWhile included, List.append_assoc,
    takeWhile_append_takeWhile_dropWhile included]

/-- A closing bracket releases what waits above its opening bracket. -/
theorem push_closeBracket_of_open (output : List Token) {released below : List Token}
    (above : ∀ waiting ∈ released, waiting ≠ .openBracket) :
    push ⟨output, released ++ .openBracket :: below⟩ .closeBracket =
      some ⟨output ++ released, below⟩ := by
  have taken : ∀ waiting ∈ released, decide (waiting ≠ .openBracket) = true := by
    simpa using above
  rw [push_closeBracket, close, List.dropWhile_append_of_pos taken,
    List.takeWhile_append_of_pos taken]
  simp

/-- An opening bracket releases nothing, for no other operator binds as tightly. -/
theorem releases_openBracket {waiting : Token} (notClosing : waiting ≠ .closeBracket) :
    releases .openBracket waiting = false := by
  cases waiting <;> simp_all [releases, Token.priority]

end Postfix

end Tabula.Query
