import Tabula.Proofs.Query.Precedence

/-!
# The operands of a condition

Reading a condition keeps two stacks, one of operands and one of filters, and only the
second one is looked at in the end. Nothing is lost on the way: the tokens that are kept as
operands are those in the comparisons of the filter together with those that are left on
the stack. So every operand is compared exactly if nothing but opening brackets is left,
and a condition that leaves other operands is accepted without them. Nothing is made up
either: the filter is put together from comparisons.
-/

namespace Tabula.Query

namespace Token

/-- Whether a condition in postfix order keeps a token as an operand. -/
def isKept : Token → Bool
  | .compare _ | .and | .or => false
  | _ => true

/-- Whether a token of a condition is to be an operand of a comparison. -/
def isComparand : Token → Bool
  | .compare _ | .and | .or | .openBracket => false
  | _ => true

end Token

namespace Filter

/-- The operands of the comparisons in a filter. -/
def operands : Filter → List Token
  | .everything => []
  | .compare field _ literal => [.identifier field, literalToken literal]
  | .both left right | .either left right => left.operands ++ right.operands

theorem length_operands (filter : Filter) : filter.operands.length = 2 * filter.comparisons := by
  induction filter with
  | everything => rfl
  | compare field comparison literal => rfl
  | both left right leftLength rightLength =>
      rw [operands, comparisons, List.length_append, leftLength, rightLength, Nat.mul_add]
  | either left right leftLength rightLength =>
      rw [operands, comparisons, List.length_append, leftLength, rightLength, Nat.mul_add]

theorem ne_openBracket_of_mem_operands {filter : Filter} {token : Token}
    (member : token ∈ filter.operands) : token ≠ .openBracket := by
  induction filter with
  | everything => cases member
  | compare field comparison literal =>
      rcases List.mem_cons.1 member with rfl | isLiteral
      · exact nofun
      · rw [List.mem_singleton.1 isLiteral]
        cases literal <;> exact nofun
  | both left right inLeft inRight => exact (List.mem_append.1 member).elim inLeft inRight
  | either left right inLeft inRight => exact (List.mem_append.1 member).elim inLeft inRight

theorem literalToken_of_literal? {token : Token} {literal : Value}
    (isLiteral : token.literal? = some literal) : literalToken literal = token := by
  cases token <;> cases isLiteral <;> rfl

/-- A comparison is made of its two operands and of nothing else. -/
theorem exists_compare_of_ofOperands {first second : Token} {comparison : Comparison}
    {filter : Filter} (made : ofOperands first second comparison = .ok filter) :
    ∃ field literal, filter = .compare field comparison literal ∧
      filter.operands.Perm [first, second] := by
  unfold ofOperands at made
  split at made
  · split at made
    · rename_i field _ literal isLiteral
      cases made
      refine ⟨field, literal, rfl, ?_⟩
      rw [operands, literalToken_of_literal? isLiteral]
    · cases made
  · split at made
    · rename_i field _ _ literal isLiteral
      cases made
      refine ⟨field, literal, rfl, ?_⟩
      rw [operands, literalToken_of_literal? isLiteral]
      exact .swap _ _ []
    · cases made
  · cases made

/-! ## Both stacks -/

/-- The operands and the filters that wait, the latest first. -/
structure Stacks where
  operands : List Token
  filters : List Filter

/-- What a token does to the stacks. -/
inductive Reduces : Stacks → Token → Stacks → Prop
  | compare {first second : Token} {comparison : Comparison} {filter : Filter}
      (made : ofOperands first second comparison = .ok filter) (operands : List Token)
      (filters : List Filter) :
      Reduces ⟨second :: first :: operands, filters⟩ (.compare comparison)
        ⟨operands, filter :: filters⟩
  | and (left right : Filter) (operands : List Token) (filters : List Filter) :
      Reduces ⟨operands, left :: right :: filters⟩ .and ⟨operands, .both left right :: filters⟩
  | or (left right : Filter) (operands : List Token) (filters : List Filter) :
      Reduces ⟨operands, left :: right :: filters⟩ .or ⟨operands, .either left right :: filters⟩
  | operand {token : Token} (isKept : token.isKept = true) (operands : List Token)
      (filters : List Filter) :
      Reduces ⟨operands, filters⟩ token ⟨token :: operands, filters⟩

/-- What tokens do to the stacks, one after the other. -/
inductive ReducesAll : Stacks → List Token → Stacks → Prop
  | nil (waiting : Stacks) : ReducesAll waiting [] waiting
  | cons {before middle after : Stacks} {token : Token} {rest : List Token}
      (step : Reduces before token middle) (run : ReducesAll middle rest after) :
      ReducesAll before (token :: rest) after

/-- The reading of a condition goes through these steps. -/
theorem exists_reducesAll {operands tokens : List Token} {filters roots : List Filter}
    (reduced : reduce operands filters tokens = .ok roots) :
    ∃ left, ReducesAll ⟨operands, filters⟩ tokens ⟨left, roots⟩ := by
  fun_induction reduce operands filters tokens with
  | case1 operands filters =>
      cases reduced
      exact ⟨operands, .nil _⟩
  | case2 filters comparison rest second first below filter made ih =>
      obtain ⟨left, run⟩ := ih reduced
      exact ⟨left, .cons (.compare made below filters) run⟩
  | case3 => cases reduced
  | case4 => cases reduced
  | case5 operands rest leftFilter rightFilter below ih =>
      obtain ⟨left, run⟩ := ih reduced
      exact ⟨left, .cons (.and leftFilter rightFilter operands below) run⟩
  | case6 => cases reduced
  | case7 operands rest leftFilter rightFilter below ih =>
      obtain ⟨left, run⟩ := ih reduced
      exact ⟨left, .cons (.or leftFilter rightFilter operands below) run⟩
  | case8 => cases reduced
  | case9 operands filters token rest notCompare notAnd notOr ih =>
      obtain ⟨left, run⟩ := ih reduced
      have isKept : token.isKept = true := by
        cases token with
        | compare comparison => exact absurd rfl (notCompare comparison)
        | and => exact absurd rfl notAnd
        | or => exact absurd rfl notOr
        | _ => rfl
      exact ⟨left, .cons (.operand isKept operands filters) run⟩

theorem exists_reducesAll_of_ofPostfix {tokens : List Token} {filter : Filter}
    (read : ofPostfix tokens = .ok filter) :
    ∃ left, ReducesAll ⟨[], []⟩ tokens ⟨left, [filter]⟩ := by
  unfold ofPostfix at read
  split at read
  · rename_i root reduced
    cases read
    exact exists_reducesAll reduced
  · cases read
  · cases read

/-! ## Filters of comparisons -/

/-- Whether a filter is put together from comparisons alone. -/
def OfComparisons : Filter → Prop
  | .everything => False
  | .compare .. => True
  | .both left right | .either left right => left.OfComparisons ∧ right.OfComparisons

/-- The step: filters are made only of comparisons and of filters. -/
theorem Reduces.ofComparisons {before after : Stacks} {token : Token}
    (step : Reduces before token after) (given : ∀ filter ∈ before.filters, filter.OfComparisons) :
    ∀ filter ∈ after.filters, filter.OfComparisons := by
  cases step with
  | compare made operands filters =>
      obtain ⟨field, literal, rfl, _⟩ := exists_compare_of_ofOperands made
      exact List.forall_mem_cons.2 ⟨trivial, given⟩
  | and left right operands filters | or left right operands filters =>
      obtain ⟨givenLeft, givenRest⟩ := List.forall_mem_cons.1 given
      obtain ⟨givenRight, givenBelow⟩ := List.forall_mem_cons.1 givenRest
      exact List.forall_mem_cons.2 ⟨⟨givenLeft, givenRight⟩, givenBelow⟩
  | operand _ operands filters => exact given

/-- The run: whatever is read, the filters are put together from comparisons. -/
theorem ReducesAll.ofComparisons {before after : Stacks} {tokens : List Token}
    (run : ReducesAll before tokens after)
    (given : ∀ filter ∈ before.filters, filter.OfComparisons) :
    ∀ filter ∈ after.filters, filter.OfComparisons := by
  induction run with
  | nil waiting => exact given
  | cons step _ ih => exact ih (step.ofComparisons given)

theorem ofComparisons_ofPostfix {tokens : List Token} {filter : Filter}
    (read : ofPostfix tokens = .ok filter) : filter.OfComparisons := by
  obtain ⟨left, run⟩ := exists_reducesAll_of_ofPostfix read
  exact run.ofComparisons nofun filter List.mem_cons_self

/-! ## No operand is lost -/

namespace Stacks

/-- The operands on the stacks, also those in filters. -/
def content (waiting : Stacks) : List Token :=
  waiting.operands ++ waiting.filters.flatMap Filter.operands

end Stacks

/-- The step: a token adds itself to the operands if it is kept, and nothing else. -/
theorem Reduces.perm_content {before after : Stacks} {token : Token}
    (step : Reduces before token after) :
    after.content.Perm (before.content ++ [token].filter Token.isKept) := by
  rw [List.perm_iff_count]
  intro item
  cases step with
  | compare made operands filters =>
      obtain ⟨_, _, _, perm⟩ := exists_compare_of_ofOperands made
      have same := perm.count_eq item
      simp only [Stacks.content, List.flatMap_cons, List.count_append, List.count_cons,
        List.count_nil] at same ⊢
      simp only [Token.isKept, List.filter_cons, List.filter_nil, Bool.false_eq_true, if_false,
        List.count_nil]
      omega
  | and left right operands filters =>
      simp [Stacks.content, Filter.operands, Token.isKept]
  | or left right operands filters =>
      simp [Stacks.content, Filter.operands, Token.isKept]
  | operand isKept operands filters =>
      simp only [Stacks.content, List.filter_cons_of_pos isKept, List.filter_nil,
        List.count_append, List.count_cons, List.count_nil]
      omega

/-- The run: the operands in the end are the tokens that are kept on the way. -/
theorem ReducesAll.perm_content {before after : Stacks} {tokens : List Token}
    (run : ReducesAll before tokens after) :
    after.content.Perm (before.content ++ tokens.filter Token.isKept) := by
  induction run with
  | nil waiting => simp
  | @cons before middle after token rest step _ ih =>
      have split : (token :: rest).filter Token.isKept =
          [token].filter Token.isKept ++ rest.filter Token.isKept :=
        List.filter_append [token] rest
      rw [split, ← List.append_assoc]
      exact ih.trans (step.perm_content.append_right _)

theorem filter_isComparand (tokens : List Token) :
    tokens.filter Token.isComparand =
      (tokens.filter Token.isKept).filter fun token => token ≠ .openBracket := by
  rw [List.filter_filter]
  apply List.filter_congr
  intro token _
  cases token <;> rfl

/-- Of a condition that is accepted, the tokens kept as operands are those of its
comparisons and those left on the stack. All that should be compared is compared exactly
if only opening brackets are left. -/
theorem exists_left_of_ofPostfix {tokens : List Token} {filter : Filter}
    (read : ofPostfix tokens = .ok filter) :
    ∃ left, ReducesAll ⟨[], []⟩ tokens ⟨left, [filter]⟩ ∧
      (tokens.filter Token.isKept).Perm (filter.operands ++ left) ∧
      ((tokens.filter Token.isComparand).length = 2 * filter.comparisons ↔
        ∀ token ∈ left, token = .openBracket) := by
  obtain ⟨left, run⟩ := exists_reducesAll_of_ofPostfix read
  have conserved : (tokens.filter Token.isKept).Perm (filter.operands ++ left) := by
    have perm := run.perm_content
    simp only [Stacks.content, List.flatMap_cons, List.flatMap_nil, List.append_nil,
      List.nil_append] at perm
    exact perm.symm.trans List.perm_append_comm
  refine ⟨left, run, conserved, ?_⟩
  have compared : filter.operands.filter (fun token => token ≠ .openBracket) = filter.operands := by
    apply List.filter_eq_self.2
    intro token member
    simpa using ne_openBracket_of_mem_operands member
  have counted : (tokens.filter Token.isComparand).length =
      2 * filter.comparisons + (left.filter fun token => token ≠ .openBracket).length := by
    rw [filter_isComparand, (conserved.filter _).length_eq, List.filter_append, compared,
      List.length_append, length_operands]
  rw [counted, Nat.add_eq_left, List.length_eq_zero_iff, List.filter_eq_nil_iff]
  simp

/-- A comparison behind an opening bracket that is never closed. -/
def bracketLeft : List Token := [.identifier "a", .text "x", .compare .equal, .openBracket]

theorem exists_left_of_bracketLeft :
    ofPostfix bracketLeft = .ok (.compare "a" .equal (.text "x")) ∧
      ∃ left, ReducesAll ⟨[], []⟩ bracketLeft ⟨left, [.compare "a" .equal (.text "x")]⟩ ∧
        (bracketLeft.filter Token.isKept).Perm ([.identifier "a", .text "x"] ++ left) ∧
        ∀ token ∈ left, token = .openBracket := by
  have read : ofPostfix bracketLeft = .ok (.compare "a" .equal (.text "x")) := rfl
  obtain ⟨left, run, conserved, compared⟩ := exists_left_of_ofPostfix read
  exact ⟨read, left, run, conserved, compared.1 rfl⟩

/-- A name that stands before a comparison is accepted and makes no difference. -/
theorem ofPostfix_stray_name :
    ofPostfix [.identifier "stray", .identifier "a", .text "x", .compare .equal] =
        .ok (.compare "a" .equal (.text "x")) ∧
      ([Token.identifier "stray", .identifier "a", .text "x", .compare .equal].filter
          Token.isComparand).length ≠
        2 * (Filter.compare "a" .equal (.text "x")).comparisons :=
  ⟨rfl, by decide⟩

end Filter

end Tabula.Query
