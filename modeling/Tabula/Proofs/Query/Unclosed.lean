import Tabula.Proofs.Query.Precedence

/-!
# Brackets that are not closed

A condition may leave its last closing brackets out. Their opening brackets are then still on
the stack in the end and are passed on among the operators. Every comparison that waits is
released before them, so when they come to lie on the operands all comparisons have been made,
and the operators that are left join filters only. The filter is that of the whole condition.
-/

namespace Tabula.Query.Condition

variable {level : Level}

/-- Whether a code leaves a filter behind and so many opening brackets on the operands,
whatever comes before and after. -/
def Leaves (code : List Token) (filter : Filter) (unclosed : Nat) : Prop :=
  ∀ operands filters rest, Filter.reduce operands filters (code ++ rest) =
    Filter.reduce (List.replicate unclosed .openBracket ++ operands) (filter :: filters) rest

theorem leaves_postfixCode (condition : Condition level) :
    Leaves condition.postfixCode condition.tree 0 :=
  condition.reduce_postfixCode

/-- An opening bracket behind a code is one more operand. -/
theorem Leaves.openBracket {code : List Token} {filter : Filter} {unclosed : Nat}
    (leaves : Leaves code filter unclosed) :
    Leaves (code ++ [.openBracket]) filter (unclosed + 1) := by
  intro operands filters rest
  rw [List.append_assoc, leaves, List.replicate_succ]
  rfl

/-- An operator joins what two codes leave, although brackets lie on the operands. -/
theorem Leaves.join {leftCode rightCode : List Token} {left right joined : Filter}
    {unclosed : Nat} {operator : Token}
    (joins : ∀ operands filters rest,
      Filter.reduce operands (right :: left :: filters) (operator :: rest) =
        Filter.reduce operands (joined :: filters) rest)
    (leftLeaves : Leaves leftCode left 0) (rightLeaves : Leaves rightCode right unclosed) :
    Leaves (leftCode ++ rightCode ++ [operator]) joined unclosed := by
  intro operands filters rest
  rw [List.append_assoc, List.append_assoc, leftLeaves, rightLeaves]
  exact joins _ _ _

theorem Leaves.ofPostfix {code : List Token} {filter : Filter} {unclosed : Nat}
    (leaves : Leaves code filter unclosed) : Filter.ofPostfix code = .ok filter := by
  have read := leaves [] [] []
  rw [List.append_nil] at read
  rw [Filter.ofPostfix, read]
  rfl

/-! ## Leaving brackets out -/

/-- What is left out at the end stands behind the last token of another kind. -/
theorem exists_rest_of_append_cons (before : List Token) {after front : List Token}
    {token : Token} {unclosed : Nat} (notClosing : token ≠ .closeBracket)
    (ends : before ++ token :: after = front ++ List.replicate unclosed .closeBracket) :
    ∃ rest, front = before ++ token :: rest ∧
      after = rest ++ List.replicate unclosed .closeBracket := by
  have kept : token ∉ List.replicate unclosed Token.closeBracket :=
    fun member => notClosing (List.eq_of_mem_replicate member)
  rcases List.append_eq_append_iff.1 ends with ⟨rest, frontEq, split⟩ | ⟨gap, -, split⟩
  · cases rest with
    | nil =>
        rw [List.nil_append] at split
        exact absurd (split ▸ List.mem_cons_self) kept
    | cons first rest =>
        rw [List.cons_append, List.cons.injEq] at split
        rcases split with ⟨rfl, afterEq⟩
        exact ⟨rest, frontEq, afterEq⟩
  · exact absurd (split ▸ List.mem_append_right gap List.mem_cons_self) kept

/-- No bracket can be left out behind a comparison. -/
theorem pushTokens_comparison_of_unclosed {first second : Token} {comparison : Comparison}
    {front : List Token} {unclosed : Nat} (firstOperand : first.isOperator = false)
    (secondOperand : second.isOperator = false)
    (ends : [first, .compare comparison, second] =
      front ++ List.replicate unclosed .closeBracket) {order : Postfix}
    (keeps : Level.atom.Keeps order.stack) :
    unclosed = 0 ∧ order.pushTokens front =
      some ⟨order.output ++ [first, second], .compare comparison :: order.stack⟩ := by
  have notClosing : second ≠ .closeBracket := by
    rintro rfl
    cases secondOperand
  rcases exists_rest_of_append_cons [first, .compare comparison] notClosing ends with
    ⟨rest, frontEq, restEq⟩
  rcases List.append_eq_nil_iff.1 restEq.symm with ⟨rfl, noneLeft⟩
  rw [frontEq]
  exact ⟨(List.replicate_eq_nil_iff _).1 noneLeft,
    pushTokens_comparison firstOperand secondOperand comparison keeps⟩

/-- The step over an operator and a right operand that leaves brackets out. -/
theorem exists_pushTokens_join {left : Condition level} {operator : Token} {rest : List Token}
    {right joined : Filter} {unclosed : Nat} {order : Postfix}
    (isOperator : operator.isOperator = true) (priority : operator.priority = level.priority)
    (notClosing : operator ≠ .closeBracket) (keeps : level.Keeps order.stack)
    (joins : ∀ operands filters rest,
      Filter.reduce operands (right :: left.tree :: filters) (operator :: rest) =
        Filter.reduce operands (joined :: filters) rest)
    (rightTaken : ∃ passed waiting,
      Postfix.pushTokens ⟨order.output ++ left.postfixCode, operator :: order.stack⟩ rest =
          some ⟨order.output ++ left.postfixCode ++ passed, waiting ++ operator :: order.stack⟩ ∧
        Leaves (passed ++ waiting) right unclosed) :
    ∃ passed waiting,
      order.pushTokens (left.tokens ++ operator :: rest) =
          some ⟨order.output ++ passed, waiting ++ order.stack⟩ ∧
        Leaves (passed ++ waiting) joined unclosed := by
  rcases rightTaken with ⟨passed, waiting, taken, leaves⟩
  refine ⟨left.postfixCode ++ passed, waiting ++ [operator], ?_, ?_⟩
  · rw [pushTokens_join isOperator priority notClosing keeps (left.pushTokens_tokens keeps), taken]
    simp
  · have joined := Leaves.join joins left.leaves_postfixCode leaves
    rw [← List.append_assoc, List.append_assoc left.postfixCode]
    exact joined

/-- Without its last closing brackets, a condition is taken as a whole too, and what it passes
on and leaves waiting is a code of its tree. -/
theorem exists_pushTokens_of_unclosed (condition : Condition level) {front : List Token}
    {unclosed : Nat} (ends : condition.tokens = front ++ List.replicate unclosed .closeBracket)
    {order : Postfix} (keeps : level.Keeps order.stack) :
    ∃ passed waiting,
      order.pushTokens front = some ⟨order.output ++ passed, waiting ++ order.stack⟩ ∧
        Leaves (passed ++ waiting) condition.tree unclosed := by
  induction condition generalizing front unclosed order with
  | fieldFirst field comparison literal =>
      rcases pushTokens_comparison_of_unclosed rfl (literalToken_isOperator literal) ends keeps with
        ⟨rfl, taken⟩
      exact ⟨_, [.compare comparison], taken,
        (fieldFirst field comparison literal).leaves_postfixCode⟩
  | literalFirst literal comparison field =>
      rcases pushTokens_comparison_of_unclosed (literalToken_isOperator literal) rfl ends keeps with
        ⟨rfl, taken⟩
      exact ⟨_, [.compare comparison], taken,
        (literalFirst literal comparison field).leaves_postfixCode⟩
  | bracketed inner ih =>
      rcases exists_rest_of_append_cons [] (by decide) ends with ⟨rest, rfl, innerEnds⟩
      cases unclosed with
      | zero =>
          rw [List.replicate_zero, List.append_nil] at ends
          refine ⟨inner.postfixCode, [], ends ▸ pushTokens_tokens (bracketed inner) keeps, ?_⟩
          rw [List.append_nil]
          exact leaves_postfixCode (bracketed inner)
      | succ unclosed =>
          rw [List.replicate_succ', ← List.append_assoc] at innerEnds
          have opened : order.push .openBracket = some ⟨order.output, .openBracket :: order.stack⟩ :=
            Postfix.push_operator_alone order.output rfl (by simp) keeps.openBracket
          have innerKeeps : Level.disjunction.Keeps (.openBracket :: order.stack) :=
            Level.keeps_cons_iff.2 (.inl rfl)
          rcases @ih _ _ (List.append_cancel_right innerEnds)
            ⟨order.output, .openBracket :: order.stack⟩ innerKeeps with
            ⟨passed, waiting, taken, leaves⟩
          refine ⟨passed, waiting ++ [.openBracket], ?_, ?_⟩
          · rw [List.nil_append, Postfix.pushTokens_cons, opened, Option.bind_some, taken]
            simp
          · rw [← List.append_assoc]
            exact leaves.openBracket
  | single atom ih => exact ih ends (keeps.tighten (Nat.le_succ _))
  | and left right _ ih =>
      rcases exists_rest_of_append_cons left.tokens (by decide) ends with ⟨rest, rfl, rightEnds⟩
      exact exists_pushTokens_join rfl rfl (by decide) keeps (fun _ _ _ => rfl)
        (ih rightEnds (Level.keeps_cons_iff.2 (.inr (Nat.lt_succ_self _))))
  | lone conjunction ih => exact ih ends (keeps.tighten (Nat.le_succ _))
  | or left right _ ih =>
      rcases exists_rest_of_append_cons left.tokens (by decide) ends with ⟨rest, rfl, rightEnds⟩
      exact exists_pushTokens_join rfl rfl (by decide) keeps (fun _ _ _ => rfl)
        (ih rightEnds (Level.keeps_cons_iff.2 (.inr (Nat.lt_succ_self _))))

/-- Of the closing brackets at the end of a condition any number may be left out: no token is
refused, and the tree is that of the whole condition. -/
theorem ofPostfix_of_unclosed (condition : Condition .disjunction) {front : List Token}
    {closing unclosed : Nat}
    (ends : condition.tokens = front ++ List.replicate closing .closeBracket)
    (atMost : unclosed ≤ closing) :
    ∃ cut complete,
      Postfix.empty.pushTokens (front ++ List.replicate (closing - unclosed) .closeBracket) =
          some cut ∧
        Postfix.empty.pushTokens condition.tokens = some complete ∧
        Filter.ofPostfix cut.finish = .ok condition.tree ∧
        Filter.ofPostfix complete.finish = .ok condition.tree := by
  have cutEnds : condition.tokens =
      front ++ List.replicate (closing - unclosed) .closeBracket ++
        List.replicate unclosed .closeBracket := by
    rw [ends, List.append_assoc, List.replicate_append_replicate, Nat.sub_add_cancel atMost]
  have keeps : Level.disjunction.Keeps Postfix.empty.stack := Level.keeps_nil _
  rcases condition.exists_pushTokens_of_unclosed cutEnds keeps with ⟨passed, waiting, taken, leaves⟩
  rcases condition.exists_pushTokens_finish [] with ⟨complete, completeTaken, finished⟩
  refine ⟨_, complete, taken, completeTaken, ?_, ?_⟩
  · have cutFinished : Postfix.finish ⟨[] ++ passed, waiting ++ []⟩ = passed ++ waiting := by
      simp [Postfix.finish]
    exact (congrArg Filter.ofPostfix cutFinished).trans leaves.ofPostfix
  · rw [finished, List.nil_append]
    exact condition.ofPostfix_postfixCode

/-- A condition that ends with three closing brackets. -/
def nested : Condition .disjunction :=
  .lone (.single (.bracketed (.lone (.and
    (.single (.fieldFirst "a" .equal (.text "x")))
    (.bracketed (.or
      (.lone (.single (.fieldFirst "b" .equal (.text "y"))))
      (.single (.bracketed (.lone (.single (.literalFirst (.text "z") .equal "c")))))))))))

/-- The tokens before its closing brackets. -/
def nestedFront : List Token :=
  [.openBracket, .identifier "a", .compare .equal, .text "x", .and,
    .openBracket, .identifier "b", .compare .equal, .text "y", .or,
    .openBracket, .text "z", .compare .equal, .identifier "c"]

/-- Two of three closing brackets are left out. -/
theorem ofPostfix_of_unclosed_nested :
    nested.tokens = nestedFront ++ List.replicate 3 .closeBracket ∧ 2 ≤ 3 ∧
      ∃ cut complete,
        Postfix.empty.pushTokens (nestedFront ++ List.replicate (3 - 2) .closeBracket) = some cut ∧
          Postfix.empty.pushTokens nested.tokens = some complete ∧
          Filter.ofPostfix cut.finish = .ok nested.tree ∧
          Filter.ofPostfix complete.finish = .ok nested.tree := by
  have ends : nested.tokens = nestedFront ++ List.replicate 3 .closeBracket := rfl
  have atMost : 2 ≤ 3 := by decide
  exact ⟨ends, atMost, nested.ofPostfix_of_unclosed ends atMost⟩

end Tabula.Query.Condition
