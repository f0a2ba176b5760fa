import Mathlib.Data.List.TakeWhile
import Tabula.Proofs.Query.Brackets

/-!
# What a reordering keeps

Taking a token moves tokens from the stack to the output and adds the token to one of the
two, or matches it with an opening bracket. Hence only operators ever wait, no token but a
bracket is lost or invented, and the tokens passed on earlier have no influence.
-/

namespace Tabula.Query.Postfix

/-- What taking a token makes of a reordering. -/
inductive Takes (order : Postfix) : Token → Postfix → Prop
  | operand {token : Token} (operand : token.isOperator = false) :
      Takes order token ⟨order.output ++ [token], order.stack⟩
  | closing {released below : List Token}
      (stackEq : order.stack = released ++ .openBracket :: below)
      (above : ∀ waiting ∈ released, waiting ≠ .openBracket) :
      Takes order .closeBracket ⟨order.output ++ released, below⟩
  | operator {token : Token} {released below : List Token} (operator : token.isOperator = true)
      (notClosing : token ≠ .closeBracket) (stackEq : order.stack = released ++ below)
      (looser : ∀ waiting ∈ released, releases token waiting = true)
      (tighter : ∀ waiting ∈ below.head?, releases token waiting = false) :
      Takes order token ⟨order.output ++ released, token :: below⟩

theorem takes_of_close {order next : Postfix} (closed : order.close = some next) :
    order.Takes .closeBracket next := by
  have stackEq := order.stack.takeWhile_append_dropWhile (p := fun token => token ≠ .openBracket)
  have above : ∀ waiting ∈ order.stack.takeWhile (· ≠ .openBracket), waiting ≠ .openBracket := by
    intro waiting member
    simpa using List.mem_takeWhile_imp member
  have stops := List.head?_dropWhile_not (fun token => decide (token ≠ .openBracket)) order.stack
  unfold close at closed
  split at closed
  · cases closed
  · rename_i top below dropped
    rw [dropped] at stackEq stops
    have topOpen : top = .openBracket := by simpa using stops
    cases closed
    exact .closing (topOpen ▸ stackEq.symm) above

theorem takes_of_push {order next : Postfix} {token : Token}
    (taken : order.push token = some next) : order.Takes token next := by
  by_cases closing : token = .closeBracket
  · subst closing
    rw [push_closeBracket] at taken
    exact takes_of_close taken
  · cases operator : token.isOperator with
    | false =>
        rw [push_operand operator] at taken
        cases taken
        exact .operand operator
    | true =>
        rw [push_waiting operator closing] at taken
        cases taken
        refine .operator operator closing List.takeWhile_append_dropWhile.symm ?_ ?_
        · exact fun waiting member => List.mem_takeWhile_imp member
        · intro waiting isTop
          have stops := List.head?_dropWhile_not (releases token) order.stack
          rw [Option.mem_def.1 isTop] at stops
          simpa using stops

/-! ## Only operators wait -/

/-- Whether everything that waits is an operator. -/
def OperatorsWait (order : Postfix) : Prop :=
  ∀ token ∈ order.stack, token.isOperator = true

theorem Takes.operatorsWait {order next : Postfix} {token : Token} (takes : order.Takes token next)
    (before : order.OperatorsWait) : next.OperatorsWait := by
  intro waiting member
  cases takes with
  | operand _ => exact before waiting member
  | closing stackEq _ => exact before waiting (by simp [stackEq, member])
  | operator operator _ stackEq _ _ =>
      rcases List.mem_cons.1 member with rfl | below
      · exact operator
      · exact before waiting (by simp [stackEq, below])

theorem operatorsWait_pushTokens {order next : Postfix} {tokens : List Token}
    (before : order.OperatorsWait) (taken : order.pushTokens tokens = some next) :
    next.OperatorsWait := by
  induction tokens generalizing order with
  | nil =>
      cases taken
      exact before
  | cons token rest ih =>
      obtain ⟨middle, pushed, later⟩ := Option.bind_eq_some_iff.1 taken
      exact ih ((takes_of_push pushed).operatorsWait before) later

/-! ## No token but a bracket is lost or invented -/

section Counts

variable {kept : Token} (notOpening : kept ≠ .openBracket) (notClosing : kept ≠ .closeBracket)
include notOpening notClosing

/-- The step: a token but a bracket is there once more than before. -/
theorem Takes.count_finish {order next : Postfix} {token : Token}
    (takes : order.Takes token next) :
    next.finish.count kept = order.finish.count kept + [token].count kept := by
  cases takes with
  | operand _ =>
      simp only [finish, List.count_append]
      omega
  | closing stackEq _ => simp [finish, stackEq, notOpening.symm, notClosing.symm]
  | operator _ _ stackEq _ _ =>
      simp only [finish, stackEq, List.count_append, List.count_cons, List.count_nil]
      omega

/-- The run: the tokens but brackets are there as often as they were taken. -/
theorem count_finish_pushTokens {order next : Postfix} {tokens : List Token}
    (taken : order.pushTokens tokens = some next) :
    next.finish.count kept = order.finish.count kept + tokens.count kept := by
  induction tokens generalizing order with
  | nil =>
      cases taken
      rfl
  | cons token rest ih =>
      rcases Option.bind_eq_some_iff.1 taken with ⟨middle, pushed, later⟩
      rw [ih later, (takes_of_push pushed).count_finish notOpening notClosing, Nat.add_assoc,
        ← List.count_append]
      rfl

theorem mem_finish_pushTokens_iff {order next : Postfix} {tokens : List Token}
    (taken : order.pushTokens tokens = some next) :
    kept ∈ next.finish ↔ kept ∈ order.finish ∨ kept ∈ tokens := by
  have counted := count_finish_pushTokens notOpening notClosing taken
  rw [← List.count_pos_iff, ← List.count_pos_iff, ← List.count_pos_iff]
  omega

end Counts

/-! ## What has been passed on has no influence -/

/-- The same reordering behind tokens that were passed on before. -/
def behind (passed : List Token) (order : Postfix) : Postfix :=
  { order with output := passed ++ order.output }

@[simp]
theorem finish_behind (passed : List Token) (order : Postfix) :
    (order.behind passed).finish = passed ++ order.finish := by
  simp [behind, finish]

theorem push_behind (passed : List Token) (order : Postfix) (token : Token) :
    (order.behind passed).push token = (order.push token).map (behind passed) := by
  by_cases closing : token = .closeBracket
  · subst closing
    rw [push_closeBracket, push_closeBracket, close, close, behind]
    cases order.stack.dropWhile (· ≠ .openBracket) with
    | nil => rfl
    | cons top below => simp [behind]
  · cases operator : token.isOperator with
    | false => simp [push_operand operator, behind]
    | true => simp [push_waiting operator closing, behind]

theorem pushTokens_behind (passed : List Token) (order : Postfix) (tokens : List Token) :
    (order.behind passed).pushTokens tokens = (order.pushTokens tokens).map (behind passed) := by
  induction tokens generalizing order with
  | nil => rfl
  | cons token rest ih =>
      rw [pushTokens_cons, pushTokens_cons, push_behind]
      cases order.push token with
      | none => rfl
      | some next => exact ih next

end Tabula.Query.Postfix
