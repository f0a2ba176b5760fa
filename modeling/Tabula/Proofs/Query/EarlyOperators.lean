import Mathlib.Data.List.Basic
import Tabula.Proofs.Query.Conservation
import Tabula.Proofs.Query.StatementForm
import Tabula.Query.Answer

/-!
# Operators before a condition

Words and names pass through the reordering at once, whereas operators wait. So the grammar
meets an operator that is written before `where` in its place only if it is passed on there.
If it still waits when `where` passes it becomes part of the condition, and a pair of
brackets that holds no operator is never met at all. A query with such operators is refused
if one of them is passed on early, or if there is no `where` behind which it could go;
otherwise what matters is whether they complete the condition.
-/

namespace Tabula.Query

/-- The words and signs of a query as they are written. -/
def written (query : String) : List Token :=
  (Lexemes.scan query.toList).tokens.map Placed.token

/-- What is written before the first `where`. -/
def beforeCondition (tokens : List Token) : List Token :=
  tokens.takeWhile (· ≠ .keyword .condition)

/-- What is written from the first `where` on. -/
def fromCondition (tokens : List Token) : List Token :=
  tokens.dropWhile (· ≠ .keyword .condition)

/-- Whether an operator is written behind `select` and before the first `where`. -/
def HasEarlyOperator (query : String) : Prop :=
  ∃ before between, beforeCondition (written query) = before ++ .keyword .select :: between ∧
    ∃ token ∈ between, token.isOperator = true

/-- Whether an operator is passed on before `where` comes. -/
def PassesOperatorOn (query : String) : Prop :=
  ∃ order, Postfix.empty.pushTokens (beforeCondition (written query)) = some order ∧
    ∃ token ∈ order.output, token.isOperator = true

/-- Whether a token joins operands or conditions: the operators that are no brackets. -/
def Token.Joins (token : Token) : Prop :=
  token.isOperator = true ∧ token ≠ .openBracket ∧ token ≠ .closeBracket

/-- What the statement rules ask of a query: that it is refused if it has an operator
before its condition. -/
def RefusesEarlyOperators (query : String) : Prop :=
  HasEarlyOperator query → ∃ error, parse query = .error error

/-- How a query comes to be read as a statement: what is passed on before the condition is
the opening of the statement, and the operators that still wait then go into the clause. -/
structure ReadsAs (query : String) (statement : Statement) (clause : List Token) : Prop where
  terminated : (Lexemes.scan query.toList).ending = .terminated
  isListed : statement.selection.IsListed
  isClause : Clause clause statement.filter
  exists_waiting : ∃ waiting order,
    Postfix.empty.pushTokens (beforeCondition (written query)) =
        some ⟨statement.opening, waiting⟩ ∧
      Postfix.pushTokens ⟨[], waiting⟩ (fromCondition (written query)) = some order ∧
      order.finish = clause

/-! ## Splitting at `where` -/

theorem condition_notMem_beforeCondition (tokens : List Token) :
    .keyword .condition ∉ beforeCondition tokens := by
  intro member
  simpa using List.mem_takeWhile_imp member

theorem fromCondition_cases (tokens : List Token) :
    fromCondition tokens = [] ∨ ∃ rest, fromCondition tokens = .keyword .condition :: rest := by
  have stops := List.head?_dropWhile_not (fun token => decide (token ≠ .keyword .condition)) tokens
  cases dropped : fromCondition tokens with
  | nil => exact .inl rfl
  | cons first rest =>
      rw [fromCondition] at dropped
      rw [dropped] at stops
      have isCondition : first = .keyword .condition := by simpa using stops
      exact .inr ⟨rest, by rw [isCondition]⟩

theorem Clause.eq_nil_or_cons {clause : List Token} {filter : Filter}
    (isClause : Clause clause filter) :
    clause = [] ∨ ∃ condition, clause = .keyword .condition :: condition ∧ NoKeywords condition := by
  cases isClause with
  | absent => exact .inl rfl
  | empty => exact .inr ⟨[], rfl, nofun⟩
  | condition noKeywords _ _ => exact .inr ⟨_, rfl, noKeywords⟩

/-- Where a statement is read from what was passed on before `where` and from the rest, the
first part is its opening. A rest that does not begin with `where` consists of operators. -/
theorem eq_opening_of_append {passed rest clause : List Token} {statement : Statement}
    {filter : Filter} (noCondition : .keyword .condition ∉ passed)
    (restForm : (∃ more, rest = .keyword .condition :: more) ∨
      ∀ token ∈ rest, token.isOperator = true)
    (isClause : Clause clause filter) (same : passed ++ rest = statement.opening ++ clause) :
    passed = statement.opening ∧ rest = clause := by
  have notOpening : .keyword .condition ∉ statement.opening :=
    fun member => (Statement.operand_of_mem_opening member).2 rfl
  rcases restForm with ⟨more, rfl⟩ | operators
  · rcases isClause.eq_nil_or_cons with rfl | ⟨condition, rfl, noKeywords⟩
    · rw [List.append_nil] at same
      exact absurd (same ▸ by simp) notOpening
    · have notBehind : .keyword .condition ∉ condition := fun member => noKeywords _ member rfl
      obtain ⟨rfl, _, rfl⟩ := (List.append_cons_inj_of_notMem notOpening notBehind).1 same.symm
      exact ⟨rfl, rfl⟩
  · have notInRest : .keyword .condition ∉ rest := by
      intro member
      cases operators _ member
    rcases isClause.eq_nil_or_cons with rfl | ⟨condition, rfl, _⟩
    · rw [List.append_nil] at same
      have noRest : rest = [] := by
        apply List.eq_nil_iff_forall_not_mem.2
        intro token member
        have inOpening : token ∈ statement.opening := same ▸ List.mem_append_right passed member
        have isOperator := operators token member
        rw [(Statement.operand_of_mem_opening inOpening).1] at isOperator
        cases isOperator
      rw [noRest, List.append_nil] at same
      exact ⟨same, noRest⟩
    · have inBoth : .keyword .condition ∈ passed ++ rest := same ▸ by simp
      exact absurd inBoth (by simp [noCondition, notInRest])

/-! ## Reading a query -/

theorem tokenize_eq_ok_iff {query : String} {tokens : List Token} :
    tokenize query = .ok tokens ↔
      (Lexemes.scan query.toList).ending = .terminated ∧
        ∃ order, Postfix.empty.pushTokens (written query) = some order ∧ order.finish = tokens := by
  rw [tokenize, written, ← Postfix.toOption_pushAll]
  cases Postfix.empty.pushAll (Lexemes.scan query.toList).tokens with
  | error position => simp [Except.toOption]
  | ok order =>
      cases (Lexemes.scan query.toList).ending with
      | terminated => simp [Ending.error?, Except.toOption]
      | unclosed delimiter position => cases delimiter <;> simp [Ending.error?]
      | unterminated length => simp [Ending.error?]

theorem parse_eq_ok_iff {query : String} {statement : Statement} :
    parse query = .ok statement ↔
      ∃ tokens, tokenize query = .ok tokens ∧ Statement.ofTokens tokens = .ok statement := by
  rw [parse]
  cases tokenize query with
  | error error => simp
  | ok tokens =>
      cases read : Statement.ofTokens tokens with
      | error error => simp [read]
      | ok other => simp [read]

/-- What waits at `where` and what is written from there on is put in order behind what
was passed on before. -/
theorem pushTokens_written {query : String} {order : Postfix} :
    Postfix.empty.pushTokens (written query) = some order ↔
      ∃ passed waiting rest,
        Postfix.empty.pushTokens (beforeCondition (written query)) = some ⟨passed, waiting⟩ ∧
          Postfix.pushTokens ⟨[], waiting⟩ (fromCondition (written query)) = some rest ∧
            order = rest.behind passed := by
  have apart : Postfix.empty.pushTokens (written query) =
      (Postfix.empty.pushTokens (beforeCondition (written query))).bind
        fun middle => middle.pushTokens (fromCondition (written query)) := by
    rw [← Postfix.pushTokens_append, beforeCondition, fromCondition,
      List.takeWhile_append_dropWhile]
  have moved : ∀ middle : Postfix,
      middle.pushTokens (fromCondition (written query)) =
        (Postfix.pushTokens ⟨[], middle.stack⟩ (fromCondition (written query))).map
          (Postfix.behind middle.output) := by
    intro middle
    rw [← Postfix.pushTokens_behind, Postfix.behind, List.append_nil]
  rw [apart, Option.bind_eq_some_iff]
  constructor
  · rintro ⟨⟨passed, waiting⟩, before, later⟩
    rw [moved, Option.map_eq_some_iff] at later
    obtain ⟨rest, taken, rfl⟩ := later
    exact ⟨passed, waiting, rest, before, taken, rfl⟩
  · rintro ⟨passed, waiting, rest, before, taken, rfl⟩
    refine ⟨⟨passed, waiting⟩, before, ?_⟩
    rw [moved, taken, Option.map_some]

section Before

variable {query : String} {passed waiting : List Token}

theorem operatorsWait_of_before
    (before : Postfix.empty.pushTokens (beforeCondition (written query)) = some ⟨passed, waiting⟩) :
    ∀ token ∈ waiting, token.isOperator = true := by
  have nothingWaits : Postfix.empty.OperatorsWait := nofun
  exact Postfix.operatorsWait_pushTokens nothingWaits before

/-- Before the condition no token but a bracket is lost or invented. -/
theorem mem_or_mem_iff_of_before {token : Token} (notOpening : token ≠ .openBracket)
    (notClosing : token ≠ .closeBracket)
    (before : Postfix.empty.pushTokens (beforeCondition (written query)) = some ⟨passed, waiting⟩) :
    token ∈ passed ∨ token ∈ waiting ↔ token ∈ beforeCondition (written query) := by
  have kept := Postfix.mem_finish_pushTokens_iff notOpening notClosing before
  simpa [Postfix.finish, Postfix.empty] using kept

theorem condition_notMem_of_before
    (before : Postfix.empty.pushTokens (beforeCondition (written query)) = some ⟨passed, waiting⟩) :
    .keyword .condition ∉ passed := by
  intro member
  have notOpening : Token.keyword .condition ≠ .openBracket := nofun
  have written := (mem_or_mem_iff_of_before notOpening nofun before).1 (.inl member)
  exact condition_notMem_beforeCondition _ written

end Before

/-- From `where` on the tokens begin with that word, and without it they are the
operators that wait. -/
theorem finish_fromCondition_cases {tokens waiting : List Token} {rest : Postfix}
    (onlyOperators : ∀ token ∈ waiting, token.isOperator = true)
    (taken : Postfix.pushTokens ⟨[], waiting⟩ (fromCondition tokens) = some rest) :
    (∃ more, rest.finish = .keyword .condition :: more) ∨
      ∀ token ∈ rest.finish, token.isOperator = true := by
  rcases fromCondition_cases tokens with absent | ⟨after, present⟩
  · rw [absent] at taken
    cases taken
    exact .inr onlyOperators
  · have passes : Postfix.push ⟨[], waiting⟩ (.keyword .condition) =
        some (Postfix.behind [.keyword .condition] ⟨[], waiting⟩) :=
      Postfix.push_operand rfl _
    rw [present, Postfix.pushTokens_cons, passes, Option.bind_some, Postfix.pushTokens_behind,
      Option.map_eq_some_iff] at taken
    obtain ⟨later, _, rfl⟩ := taken
    exact .inl ⟨later.finish, Postfix.finish_behind _ _⟩

/-- A query is read as a statement in no other way. -/
theorem parse_eq_ok_iff_readsAs {query : String} {statement : Statement} :
    parse query = .ok statement ↔ ∃ clause, ReadsAs query statement clause := by
  rw [parse_eq_ok_iff]
  constructor
  · rintro ⟨tokens, tokenized, read⟩
    obtain ⟨terminated, order, ordered, rfl⟩ := tokenize_eq_ok_iff.1 tokenized
    obtain ⟨passed, waiting, rest, before, taken, rfl⟩ := pushTokens_written.1 ordered
    obtain ⟨isListed, clause, isClause, same⟩ := Statement.ofTokens_eq_ok_iff.1 read
    rw [Postfix.finish_behind] at same
    obtain ⟨rfl, finished⟩ := eq_opening_of_append (condition_notMem_of_before before)
      (finish_fromCondition_cases (operatorsWait_of_before before) taken) isClause same
    exact ⟨clause, terminated, isListed, isClause, waiting, rest, before, taken, finished⟩
  · rintro ⟨clause, terminated, isListed, isClause, waiting, rest, before, taken, rfl⟩
    refine ⟨statement.opening ++ rest.finish, ?_, ?_⟩
    · refine tokenize_eq_ok_iff.2 ⟨terminated, rest.behind statement.opening, ?_, ?_⟩
      · exact pushTokens_written.2 ⟨statement.opening, waiting, rest, before, taken, rfl⟩
      · exact Postfix.finish_behind _ _
    · exact Statement.ofTokens_eq_ok_iff.2 ⟨isListed, rest.finish, isClause, rfl⟩

/-! ## Operators before the condition -/

namespace ReadsAs

variable {query : String} {statement : Statement} {clause : List Token}

theorem not_passesOperatorOn (reads : ReadsAs query statement clause) :
    ¬PassesOperatorOn query := by
  rintro ⟨order, taken, token, member, isOperator⟩
  obtain ⟨waiting, _, before, _⟩ := reads.exists_waiting
  rw [before] at taken
  cases taken
  rw [(Statement.operand_of_mem_opening member).1] at isOperator
  cases isOperator

/-- What joins before `where` waits for it and goes into the clause. -/
theorem mem_clause_of_joins (reads : ReadsAs query statement clause) {token : Token}
    (member : token ∈ beforeCondition (written query)) (joins : token.Joins) : token ∈ clause := by
  obtain ⟨isOperator, notOpening, notClosing⟩ := joins
  obtain ⟨waiting, order, before, later, rfl⟩ := reads.exists_waiting
  have waits : token ∈ waiting := by
    rcases (mem_or_mem_iff_of_before notOpening notClosing before).2 member with passed | waits
    · rw [(Statement.operand_of_mem_opening passed).1] at isOperator
      cases isOperator
    · exact waits
  exact (Postfix.mem_finish_pushTokens_iff notOpening notClosing later).2 (.inl waits)

/-- Without `where` there is no clause, and nothing that joins can be written. -/
theorem not_joins_of_fromCondition_eq_nil (reads : ReadsAs query statement clause)
    (noCondition : fromCondition (written query) = []) {token : Token}
    (member : token ∈ beforeCondition (written query)) : ¬token.Joins := by
  intro joins
  have inClause := reads.mem_clause_of_joins member joins
  obtain ⟨waiting, order, before, later, rfl⟩ := reads.exists_waiting
  rw [noCondition] at later
  cases later
  have onlyOperators : ∀ waiter ∈ Postfix.finish ⟨[], waiting⟩, waiter.isOperator = true :=
    operatorsWait_of_before before
  rcases reads.isClause.eq_nil_or_cons with empty | ⟨condition, begins, _⟩
  · rw [empty] at inClause
    cases inClause
  · rw [begins] at onlyOperators
    cases onlyOperators _ List.mem_cons_self

end ReadsAs

theorem exists_error_iff {query : String} :
    (∃ error, parse query = .error error) ↔ ∀ statement clause, ¬ReadsAs query statement clause := by
  constructor
  · rintro ⟨error, refused⟩ statement clause reads
    have read := parse_eq_ok_iff_readsAs.2 ⟨clause, reads⟩
    rw [refused] at read
    cases read
  · intro unread
    cases parsed : parse query with
    | error error => exact ⟨error, rfl⟩
    | ok statement =>
        obtain ⟨clause, reads⟩ := parse_eq_ok_iff_readsAs.1 parsed
        exact absurd reads (unread statement clause)

/-- A query keeps the rule exactly if it has no operator before its condition or cannot be
read with these operators in the clause. That is so if one of them is passed on before
`where`, and if one of them joins and there is no `where`; but in a query that is read,
everything that joins before `where` is part of the clause. -/
theorem refusesEarlyOperators_iff (query : String) :
    (RefusesEarlyOperators query ↔
        (HasEarlyOperator query → ∀ statement clause, ¬ReadsAs query statement clause)) ∧
      (PassesOperatorOn query → RefusesEarlyOperators query) ∧
      (fromCondition (written query) = [] →
        (∃ token ∈ beforeCondition (written query), token.Joins) → RefusesEarlyOperators query) ∧
      ∀ statement clause, ReadsAs query statement clause →
        ∀ token ∈ beforeCondition (written query), token.Joins → token ∈ clause := by
  refine ⟨imp_congr_right fun _ => exists_error_iff, ?_, ?_, ?_⟩
  · intro passesOn _
    exact exists_error_iff.2 fun statement clause reads => reads.not_passesOperatorOn passesOn
  · rintro noCondition ⟨token, member, joins⟩ _
    exact exists_error_iff.2 fun statement clause reads =>
      reads.not_joins_of_fromCondition_eq_nil noCondition member joins
  · intro statement clause reads token member joins
    exact reads.mem_clause_of_joins member joins

/-- A comparison in brackets is passed on when the bracket is closed. -/
def bracketedComparison : String := "select (a = b) from t where c = 'x';"

theorem refusesEarlyOperators_bracketedComparison :
    HasEarlyOperator bracketedComparison ∧ RefusesEarlyOperators bracketedComparison := by
  have words : beforeCondition (written bracketedComparison) =
      [] ++ .keyword .select :: [.openBracket, .identifier "a", .compare .equal, .identifier "b",
        .closeBracket, .keyword .source, .identifier "t"] := by
    rfl
  refine ⟨⟨[], _, words, .compare .equal, by simp, rfl⟩, ?_⟩
  have passed : Postfix.empty.pushTokens (beforeCondition (written bracketedComparison)) =
      some ⟨[.keyword .select, .identifier "a", .identifier "b", .compare .equal, .keyword .source,
        .identifier "t"], []⟩ := by
    rw [words]
    rfl
  exact (refusesEarlyOperators_iff bracketedComparison).2.1
    ⟨_, passed, .compare .equal, by simp, rfl⟩

/-- A sign of comparison that stands before `where` and is missing behind it. -/
def waitingComparison : String := "select a = from t where b 'x';"

/-- The rule is broken: the sign is taken for that of the condition. -/
theorem not_refusesEarlyOperators_waitingComparison :
    HasEarlyOperator waitingComparison ∧
      parse waitingComparison = .ok ⟨.fields ["a"], "t", .compare "b" .equal (.text "x")⟩ ∧
      ¬RefusesEarlyOperators waitingComparison := by
  have words : beforeCondition (written waitingComparison) =
      [] ++ .keyword .select :: [.identifier "a", .compare .equal, .keyword .source,
        .identifier "t"] := by
    rfl
  have early : HasEarlyOperator waitingComparison :=
    ⟨[], _, words, .compare .equal, by simp, rfl⟩
  have read : parse waitingComparison =
      .ok ⟨.fields ["a"], "t", .compare "b" .equal (.text "x")⟩ := by
    rfl
  refine ⟨early, read, fun refuses => ?_⟩
  obtain ⟨error, refused⟩ := refuses early
  rw [read] at refused
  cases refused

-- Brackets are matched with each other before the grammar meets either of them.
example : parse "select (a) from t;" = .ok ⟨.fields ["a"], "t", .everything⟩ := by
  rfl

end Tabula.Query
