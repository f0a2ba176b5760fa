import Tabula.Proofs.Query.Conservation
import Tabula.Proofs.Query.PostfixCode

/-!
# What becomes of the tokens

Whatever tokens are taken, grammatical or not, their postfix order is made of the same
tokens. The operands come in their old order, and the signs in some order. Of the brackets
only the opening ones are left that no later closing bracket closes. To say which these
are, brackets are matched by themselves: an opening bracket is closed if the tokens behind
it go on with a stretch whose brackets all match, and then with a closing bracket.
-/

namespace Tabula.Query

theorem count_cons_eq_add (item first : Token) (rest : List Token) :
    (first :: rest).count item = [first].count item + rest.count item := by
  rw [← List.singleton_append, List.count_append]

theorem count_filter_eq (test : Token → Bool) (tokens : List Token) (item : Token) :
    (tokens.filter test).count item = if test item then tokens.count item else 0 := by
  split
  · rename_i passes
    exact List.count_filter passes
  · rename_i fails
    exact List.count_eq_zero.2 fun member => fails (List.mem_filter.1 member).2

/-- Without closing brackets, tokens are operands, signs and opening brackets. -/
theorem perm_parts {tokens : List Token} (noClosing : .closeBracket ∉ tokens) :
    tokens.Perm (tokens.filter (!·.isOperator) ++ tokens.filter Token.isSign ++
      List.replicate (tokens.count .openBracket) .openBracket) := by
  rw [List.perm_iff_count]
  intro item
  rw [List.count_append, List.count_append, count_filter_eq, count_filter_eq, List.count_replicate]
  cases item with
  | closeBracket => exact List.count_eq_zero.2 noClosing
  | _ => simp [Token.isOperator, Token.isSign, Token.isComparison, Token.isJunction]

/-! ## Matching brackets -/

namespace Brackets

/-- Whether all brackets of a stretch match: no beginning of it closes more than it opens,
and the whole closes as many as it opens. -/
structure AllMatch (stretch : List Token) : Prop where
  beginnings : ∀ beginning, beginning <+: stretch →
    beginning.count .closeBracket ≤ beginning.count .openBracket
  whole : stretch.count .closeBracket = stretch.count .openBracket

/-- Whether the given tokens close a bracket that was opened right before them. -/
def CloseFirst (tokens : List Token) : Prop :=
  ∃ inside after, tokens = inside ++ .closeBracket :: after ∧ AllMatch inside

/-- Whether an opening bracket stands at a place and no later bracket closes it. -/
def IsUnclosed (tokens : List Token) (place : Nat) : Prop :=
  tokens[place]? = some .openBracket ∧ ¬ CloseFirst (tokens.drop (place + 1))

/-- The same with more brackets open: the tokens go on with a stretch that closes so many
brackets more than it opens, and then they close one more. -/
def CloseBelow (depth : Nat) (tokens : List Token) : Prop :=
  ∃ inside after, tokens = inside ++ .closeBracket :: after ∧
    (∀ beginning, beginning <+: inside →
      beginning.count .closeBracket ≤ beginning.count .openBracket + depth) ∧
    inside.count .closeBracket = inside.count .openBracket + depth

theorem closeFirst_iff {tokens : List Token} : CloseFirst tokens ↔ CloseBelow 0 tokens := by
  constructor
  · rintro ⟨inside, after, split, allMatch⟩
    exact ⟨inside, after, split, allMatch.beginnings, allMatch.whole⟩
  · rintro ⟨inside, after, split, beginnings, whole⟩
    exact ⟨inside, after, split, beginnings, whole⟩

/-- A token in front that does not close the bracket itself changes the depth. -/
theorem closeBelow_cons {depth later : Nat} {token : Token} {rest : List Token}
    (counted : later + [token].count .closeBracket = depth + [token].count .openBracket) :
    CloseBelow depth (token :: rest) ↔ CloseBelow later rest := by
  have closes := count_cons_eq_add .closeBracket token
  have opens := count_cons_eq_add .openBracket token
  constructor
  · rintro ⟨inside, after, split, beginnings, whole⟩
    rcases List.cons_eq_append_iff.1 split with ⟨rfl, same⟩ | ⟨others, rfl, rfl⟩
    · obtain rfl : token = .closeBracket := (List.cons.inj same).1.symm
      simp at counted whole
      omega
    · rw [closes, opens] at whole
      refine ⟨others, after, rfl, ?_, by omega⟩
      intro beginning isPrefix
      have bound := beginnings (token :: beginning) (List.prefix_cons_inj token |>.2 isPrefix)
      rw [closes, opens] at bound
      omega
  · rintro ⟨inside, after, rfl, beginnings, whole⟩
    refine ⟨token :: inside, after, rfl, ?_, ?_⟩
    · intro beginning isPrefix
      rcases List.prefix_cons_iff.1 isPrefix with rfl | ⟨others, rfl, othersPrefix⟩
      · simp
      · have bound := beginnings others othersPrefix
        rw [closes, opens]
        omega
    · rw [closes, opens]
      omega

/-- The number of closing brackets that have no opening one before them. -/
def unopened : List Token → Nat
  | [] => 0
  | token :: rest => unopened rest + [token].count .closeBracket - [token].count .openBracket

theorem closeBelow_iff {depth : Nat} {tokens : List Token} :
    CloseBelow depth tokens ↔ depth < unopened tokens := by
  induction tokens generalizing depth with
  | nil => simp [CloseBelow, unopened]
  | cons token rest ih =>
      by_cases here : token = .closeBracket ∧ depth = 0
      · rcases here with ⟨rfl, rfl⟩
        have closes : CloseBelow 0 (.closeBracket :: rest) := ⟨[], rest, rfl, by simp, rfl⟩
        simp [closes, unopened]
      · have small : [token].count .closeBracket ≤ depth := by
          by_cases closing : token = .closeBracket
          · subst closing
            exact Nat.pos_of_ne_zero fun none => here ⟨rfl, none⟩
          · simp [closing]
        have counted : depth + [token].count .openBracket - [token].count .closeBracket +
            [token].count .closeBracket = depth + [token].count .openBracket := by omega
        rw [closeBelow_cons counted, ih, unopened]
        omega

theorem isUnclosed_cons_zero {token : Token} {rest : List Token} :
    IsUnclosed (token :: rest) 0 ↔ token = .openBracket ∧ unopened rest = 0 := by
  simp [IsUnclosed, closeFirst_iff, closeBelow_iff]

theorem isUnclosed_cons_succ {token : Token} {rest : List Token} {place : Nat} :
    IsUnclosed (token :: rest) (place + 1) ↔ IsUnclosed rest place := by
  simp [IsUnclosed]

/-- The brackets left open and those that were closed are those that were opened, apart from
the closing brackets without an opening one. -/
theorem exists_unclosed (tokens : List Token) :
    ∃ places : List Nat, places.Pairwise (· < ·) ∧
      (∀ place, place ∈ places ↔ IsUnclosed tokens place) ∧
      places.length + tokens.count .closeBracket =
        tokens.count .openBracket + unopened tokens := by
  induction tokens with
  | nil => exact ⟨[], .nil, by simp [IsUnclosed], rfl⟩
  | cons token rest ih =>
      rcases ih with ⟨places, ascending, isUnclosed, counted⟩
      have later : ∀ place, place + 1 ∈ places.map (· + 1) ↔
          IsUnclosed (token :: rest) (place + 1) := by
        intro place
        rw [isUnclosed_cons_succ, ← isUnclosed]
        simp
      have laterAscending : (places.map (· + 1)).Pairwise (· < ·) := by
        rw [List.pairwise_map]
        exact ascending.imp Nat.succ_lt_succ
      rw [count_cons_eq_add .closeBracket, count_cons_eq_add .openBracket token, unopened]
      by_cases left : token = .openBracket ∧ unopened rest = 0
      · refine ⟨0 :: places.map (· + 1), ?_, ?_, ?_⟩
        · apply List.pairwise_cons.2
          constructor
          · simp
          · exact laterAscending
        · intro place
          cases place with
          | zero => simpa [isUnclosed_cons_zero] using left
          | succ place => simpa using later place
        · rcases left with ⟨rfl, noneUnopened⟩
          simp
          omega
      · refine ⟨places.map (· + 1), laterAscending, ?_, ?_⟩
        · intro place
          cases place with
          | zero => simpa [isUnclosed_cons_zero] using left
          | succ place => exact later place
        · by_cases opening : token = .openBracket
          · subst opening
            have someUnopened : unopened rest ≠ 0 := fun none => left ⟨rfl, none⟩
            simp
            omega
          · simp [List.count_singleton, opening]
            omega

end Brackets

namespace Postfix

open Brackets (IsUnclosed exists_unclosed unopened)

/-! ## What is passed on and what waits -/

/-- Where the tokens that were taken are found again. -/
structure Accounts (taken : List Token) (order : Postfix) : Prop where
  waiting : order.OperatorsWait
  noBrackets : ∀ token ∈ order.output, token ≠ .openBracket ∧ token ≠ .closeBracket
  noClosing : .closeBracket ∉ order.stack
  operands : order.output.filter (!·.isOperator) = taken.filter (!·.isOperator)
  brackets : order.openBrackets + taken.count .closeBracket = taken.count .openBracket

theorem accounts_empty : Accounts [] empty where
  waiting := by simp [OperatorsWait, empty]
  noBrackets := by simp [empty]
  noClosing := by simp [empty]
  operands := rfl
  brackets := rfl

theorem ne_openBracket {token waiting : Token} (released : releases token waiting = true) :
    waiting ≠ .openBracket := by
  simp only [releases, Bool.and_eq_true, decide_eq_true_eq] at released
  exact released.1

/-- What is released are operators other than brackets. -/
theorem Accounts.released {taken released below : List Token} {order : Postfix}
    (accounts : Accounts taken order) (stackEq : order.stack = released ++ below)
    (notOpening : ∀ waiting ∈ released, waiting ≠ .openBracket) :
    (∀ token ∈ order.output ++ released, token ≠ .openBracket ∧ token ≠ .closeBracket) ∧
      released.filter (!·.isOperator) = [] := by
  have waits : ∀ token ∈ released, token ∈ order.stack :=
    fun token member => stackEq ▸ List.mem_append_left below member
  constructor
  · intro token member
    rcases List.mem_append.1 member with old | isReleased
    · exact accounts.noBrackets token old
    · constructor
      · exact notOpening token isReleased
      · rintro rfl
        exact accounts.noClosing (waits _ isReleased)
  · rw [List.filter_eq_nil_iff]
    intro token isReleased
    simp [accounts.waiting token (waits token isReleased)]

/-- The step: every token that is taken is accounted for. -/
theorem Accounts.push {taken : List Token} {order next : Postfix} {token : Token}
    (accounts : Accounts taken order) (pushed : order.push token = some next) :
    Accounts (taken ++ [token]) next := by
  have takes := takes_of_push pushed
  have waiting := takes.operatorsWait accounts.waiting
  have brackets : next.openBrackets + (taken ++ [token]).count .closeBracket =
      (taken ++ [token]).count .openBracket := by
    have here := openBrackets_push pushed
    have before := accounts.brackets
    rw [List.count_append, List.count_append]
    omega
  cases takes with
  | operand operand =>
      refine ⟨waiting, ?_, accounts.noClosing, ?_, brackets⟩
      · intro kept member
        rcases List.mem_append.1 member with old | isNew
        · exact accounts.noBrackets kept old
        · rw [List.mem_singleton.1 isNew]
          constructor <;> rintro rfl <;> cases operand
      · rw [List.filter_append, List.filter_append, accounts.operands]
  | closing stackEq above =>
      rcases accounts.released stackEq above with ⟨noBrackets, noOperands⟩
      refine ⟨waiting, noBrackets, ?_, ?_, brackets⟩
      · intro member
        exact accounts.noClosing (by simp [stackEq, member])
      · rw [List.filter_append, List.filter_append, accounts.operands, noOperands]
        rfl
  | operator operator notClosing stackEq looser _ =>
      have notOpening := fun waiting isReleased => ne_openBracket (looser waiting isReleased)
      rcases accounts.released stackEq notOpening with ⟨noBrackets, noOperands⟩
      refine ⟨waiting, noBrackets, ?_, ?_, brackets⟩
      · intro member
        rcases List.mem_cons.1 member with same | below
        · exact notClosing same.symm
        · exact accounts.noClosing (by simp [stackEq, below])
      · rw [List.filter_append, List.filter_append, accounts.operands, noOperands]
        simp [operator]

/-- The run: all tokens that are taken are accounted for. -/
theorem Accounts.pushTokens {earlier tokens : List Token} {order next : Postfix}
    (accounts : Accounts earlier order) (taken : order.pushTokens tokens = some next) :
    Accounts (earlier ++ tokens) next := by
  induction tokens generalizing earlier order with
  | nil =>
      cases taken
      rwa [List.append_nil]
  | cons token rest ih =>
      rcases Option.bind_eq_some_iff.1 taken with ⟨middle, pushed, later⟩
      have whole := ih (accounts.push pushed) later
      rwa [List.append_assoc] at whole

/-- Every closing bracket that is taken closes one that was opened. -/
theorem unopened_le_openBrackets {order next : Postfix} {tokens : List Token}
    (taken : order.pushTokens tokens = some next) : unopened tokens ≤ order.openBrackets := by
  induction tokens generalizing order with
  | nil => exact Nat.zero_le _
  | cons token rest ih =>
      rcases Option.bind_eq_some_iff.1 taken with ⟨middle, pushed, later⟩
      have here := openBrackets_push pushed
      have behind := ih later
      rw [unopened]
      omega

/-! ## The tokens in postfix order -/

/-- The postfix order of tokens that are all taken has their operands in the old order and
their signs, and for each opening bracket that no later bracket closes an opening bracket.
It has no closing bracket and nothing else. -/
theorem finish_accounts_for_tokens {tokens : List Token} {order : Postfix}
    (taken : empty.pushTokens tokens = some order) :
    order.finish.filter (!·.isOperator) = tokens.filter (!·.isOperator) ∧
      (order.finish.filter Token.isSign).Perm (tokens.filter Token.isSign) ∧
      .closeBracket ∉ order.finish ∧
      ∃ unclosed : List Nat, unclosed.Pairwise (· < ·) ∧
        (∀ place, place ∈ unclosed ↔ IsUnclosed tokens place) ∧
        order.finish.Perm (tokens.filter (!·.isOperator) ++ tokens.filter Token.isSign ++
          List.replicate unclosed.length .openBracket) := by
  have accounts := accounts_empty.pushTokens taken
  rw [List.nil_append] at accounts
  have noClosing : .closeBracket ∉ order.finish := by
    intro member
    rcases List.mem_append.1 member with passed | waits
    · exact (accounts.noBrackets _ passed).2 rfl
    · exact accounts.noClosing waits
  have operands : order.finish.filter (!·.isOperator) = tokens.filter (!·.isOperator) := by
    have noneWaits : order.stack.filter (!·.isOperator) = [] := by
      rw [List.filter_eq_nil_iff]
      intro token member
      simp [accounts.waiting token member]
    rw [finish, List.filter_append, accounts.operands, noneWaits, List.append_nil]
  have signs : (order.finish.filter Token.isSign).Perm (tokens.filter Token.isSign) := by
    rw [List.perm_iff_count]
    intro kept
    rw [count_filter_eq, count_filter_eq]
    split
    · rename_i isSign
      have notOpening : kept ≠ .openBracket := by
        rintro rfl
        cases isSign
      have notClosing : kept ≠ .closeBracket := by
        rintro rfl
        cases isSign
      exact (count_finish_pushTokens notOpening notClosing taken).trans (Nat.zero_add _)
    · rfl
  rcases exists_unclosed tokens with ⟨places, ascending, isUnclosed, counted⟩
  have opened : order.finish.count .openBracket = places.length := by
    have nonePassed : order.output.count .openBracket = 0 := by
      rw [List.count_eq_zero]
      exact fun passed => (accounts.noBrackets _ passed).1 rfl
    have allOpened : unopened tokens = 0 := Nat.le_zero.1 (unopened_le_openBrackets taken)
    have brackets := accounts.brackets
    rw [openBrackets] at brackets
    rw [finish, List.count_append]
    omega
  refine ⟨operands, signs, noClosing, places, ascending, isUnclosed, ?_⟩
  have parts := perm_parts noClosing
  rw [operands, opened] at parts
  exact parts.trans ((signs.append_left _).append_right _)

/-- Tokens that are no statement. The brackets at the first and the last place are not
closed, and the one before the comparison is. -/
def muddled : List Token :=
  [.openBracket, .identifier "a", .or, .openBracket, .compare .less, .keyword .condition, .and,
    .closeBracket, .text "x", .and, .openBracket]

/-- Their order, in which the brackets left open wait. -/
def muddledOrder : Postfix :=
  ⟨[.identifier "a", .keyword .condition, .compare .less, .and, .text "x"],
    [.openBracket, .and, .or, .openBracket]⟩

theorem finish_accounts_for_muddled :
    empty.pushTokens muddled = some muddledOrder ∧
      muddledOrder.finish.filter (!·.isOperator) = muddled.filter (!·.isOperator) ∧
      (muddledOrder.finish.filter Token.isSign).Perm (muddled.filter Token.isSign) ∧
      .closeBracket ∉ muddledOrder.finish ∧
      ∃ unclosed : List Nat, unclosed.Pairwise (· < ·) ∧
        (∀ place, place ∈ unclosed ↔ IsUnclosed muddled place) ∧
        muddledOrder.finish.Perm (muddled.filter (!·.isOperator) ++
          muddled.filter Token.isSign ++ List.replicate unclosed.length .openBracket) := by
  have taken : empty.pushTokens muddled = some muddledOrder := by decide
  exact ⟨taken, finish_accounts_for_tokens taken⟩

end Postfix

end Tabula.Query
