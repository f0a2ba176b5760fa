import Tabula.Proofs.Query.Reordering

/-!
# Brackets that wait

The opening brackets on the stack are those that no closing bracket has matched yet:
operators come and go above and between them by their priorities, but only brackets
change their number. A token is refused exactly when it is a closing bracket and no
opening bracket waits.
-/

namespace Tabula.Query.Postfix

/-- The number of opening brackets that wait. -/
def openBrackets (order : Postfix) : Nat :=
  order.stack.count .openBracket

theorem count_dropWhile_of_neg {α : Type} [DecidableEq α] {test : α → Bool} {item : α}
    (kept : test item = false) (items : List α) :
    (items.dropWhile test).count item = items.count item := by
  induction items with
  | nil => rfl
  | cons first rest ih =>
      cases dropped : test first with
      | false => rw [List.dropWhile_cons_of_neg (by simp [dropped])]
      | true =>
          have different : first ≠ item := by
            rintro rfl
            rw [kept] at dropped
            cases dropped
          rw [List.dropWhile_cons_of_pos dropped, List.count_cons_of_ne different, ih]

/-- The search for an opening bracket passes none. -/
theorem count_search (stack : List Token) :
    (stack.dropWhile (· ≠ .openBracket)).count .openBracket = stack.count .openBracket :=
  count_dropWhile_of_neg (by simp) stack

/-- A closing bracket takes the latest opening bracket from the stack. -/
theorem openBrackets_close {order next : Postfix} (closed : order.close = some next) :
    next.openBrackets + 1 = order.openBrackets := by
  have counted := count_search order.stack
  unfold close at closed
  split at closed
  · cases closed
  · rename_i top below dropped
    have topOpen : top = .openBracket := by
      have stops := List.head?_dropWhile_not (fun token => decide (token ≠ .openBracket)) order.stack
      rw [dropped] at stops
      simpa using stops
    cases closed
    rw [dropped, topOpen, List.count_cons_self] at counted
    exact counted

theorem close_eq_none_iff {order : Postfix} : order.close = none ↔ order.openBrackets = 0 := by
  have counted := count_search order.stack
  constructor
  · intro refused
    unfold close at refused
    split at refused
    · rename_i dropped
      rw [dropped] at counted
      exact counted.symm
    · cases refused
  · intro noneOpen
    cases closed : order.close with
    | none => rfl
    | some next =>
        have taken := openBrackets_close closed
        omega

/-- An operator waits on top of what it does not release. -/
theorem push_waiting {token : Token} (operator : token.isOperator = true)
    (notClosing : token ≠ .closeBracket) (order : Postfix) :
    order.push token =
      some ⟨order.output ++ order.stack.takeWhile (releases token),
        token :: order.stack.dropWhile (releases token)⟩ := by
  simp [push, operator, notClosing]

/-- Only a closing bracket without an opening one is refused. -/
theorem push_eq_none_iff {order : Postfix} {token : Token} :
    order.push token = none ↔ token = .closeBracket ∧ order.openBrackets = 0 := by
  by_cases closing : token = .closeBracket
  · subst closing
    simp [push_closeBracket, close_eq_none_iff]
  · cases operator : token.isOperator with
    | false => simp [push_operand operator, closing]
    | true => simp [push_waiting operator closing, closing]

/-- The opening brackets that wait and the closing ones that were taken make up the
opening ones that were taken. -/
theorem openBrackets_push {order next : Postfix} {token : Token}
    (taken : order.push token = some next) :
    next.openBrackets + [token].count .closeBracket =
      order.openBrackets + [token].count .openBracket := by
  by_cases closing : token = .closeBracket
  · subst closing
    rw [push_closeBracket] at taken
    simpa using openBrackets_close taken
  · rw [List.count_singleton, if_neg (by simpa using closing), Nat.add_zero]
    cases operator : token.isOperator with
    | false =>
        have notOpening : token ≠ .openBracket := by
          rintro rfl
          cases operator
        rw [push_operand operator] at taken
        cases taken
        rw [List.count_singleton, if_neg (by simpa using notOpening)]
        rfl
    | true =>
        rw [push_waiting operator closing] at taken
        cases taken
        have kept : releases token .openBracket = false := rfl
        rw [openBrackets, ← List.singleton_append, List.count_append, count_dropWhile_of_neg kept,
          Nat.add_comm]
        rfl

/-- Tokens that are no brackets are all taken and leave the waiting brackets alone. -/
theorem exists_pushAll_of_no_brackets {placed : List Placed}
    (noBrackets : ∀ item ∈ placed, item.token ≠ .openBracket ∧ item.token ≠ .closeBracket)
    (order : Postfix) :
    ∃ next, order.pushAll placed = .ok next ∧ next.openBrackets = order.openBrackets := by
  induction placed generalizing order with
  | nil => exact ⟨order, rfl, rfl⟩
  | cons first rest ih =>
      obtain ⟨notOpening, notClosing⟩ := noBrackets first List.mem_cons_self
      cases taken : order.push first.token with
      | none => exact absurd (push_eq_none_iff.1 taken).1 notClosing
      | some middle =>
          have same := openBrackets_push taken
          rw [List.count_singleton, if_neg (by simpa using notClosing), List.count_singleton,
            if_neg (by simpa using notOpening)] at same
          obtain ⟨next, pushed, sameLater⟩ :=
            ih (fun item member => noBrackets item (List.mem_cons_of_mem first member)) middle
          refine ⟨next, ?_, sameLater.trans same⟩
          rw [pushAll, taken]
          exact pushed

end Tabula.Query.Postfix
