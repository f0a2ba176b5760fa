import Mathlib.Data.List.Chain
import Mathlib.Data.List.Perm.Subperm
import Tabula.Proofs.Query.Accounting

/-!
# Layers of operators

An operator that is taken releases the operators on top that bind as tightly, and then
waits above the first that binds looser or above an opening bracket. So from an opening
bracket upwards ever tighter operators wait until the next one, and as there are three
priorities besides that of brackets, no more than three of them, however many tokens have
been taken. The rule holds of neighbours on the stack, and no more than this rule and the
kinds of the tokens can be said: every stack for which they hold comes up.
-/

namespace Tabula.Query

/-- Signs have the three priorities below that of brackets. -/
theorem Token.priority_mem_of_isSign {token : Token} (sign : token.isSign = true) :
    token.priority ∈ [1, 2, 3] := by
  cases token with
  | compare _ => simp [priority]
  | and | or => decide
  | _ => cases sign

/-- The operators that may wait are all but the closing bracket. -/
theorem Token.isSign_or_eq_openBracket_iff {token : Token} :
    token.isSign = true ∨ token = .openBracket ↔
      token.isOperator = true ∧ token ≠ .closeBracket := by
  cases token <;> simp [isSign, isComparison, isJunction, isOperator]

namespace Postfix

/-- Whether a token may wait right above another one. -/
def MayWaitOn (upper lower : Token) : Prop :=
  upper = .openBracket ∨ lower = .openBracket ∨ lower.priority < upper.priority

/-- What may wait, the latest first: signs and opening brackets, and no operator above one
that binds as tightly. -/
structure IsLayered (stack : List Token) : Prop where
  kinds : ∀ token ∈ stack, token.isSign = true ∨ token = .openBracket
  neighbours : stack.IsChain MayWaitOn

/-- Whether tokens wait one above the other without an opening bracket among them. -/
def IsStretch (stack stretch : List Token) : Prop :=
  stretch <:+: stack ∧ .openBracket ∉ stretch

theorem isLayered_nil : IsLayered [] := by
  constructor <;> simp

/-- An operator may wait on what it does not release. -/
theorem mayWaitOn_of_not_releases {token waiting : Token}
    (kept : releases token waiting = false) : MayWaitOn token waiting := by
  simp only [releases, Bool.and_eq_false_iff, decide_eq_false_iff_not, not_not] at kept
  rcases kept with opening | looser
  · exact .inr (.inl opening)
  · exact .inr (.inr (Nat.lt_of_not_le looser))

namespace IsLayered

theorem tail {token : Token} {below : List Token} (layered : IsLayered (token :: below)) :
    IsLayered below where
  kinds := fun waiting member => layered.kinds waiting (List.mem_cons_of_mem token member)
  neighbours := layered.neighbours.tail

theorem right_of_append {released below : List Token}
    (layered : IsLayered (released ++ below)) : IsLayered below where
  kinds := fun waiting member => layered.kinds waiting (List.mem_append_right released member)
  neighbours := layered.neighbours.right_of_append

/-! ## Layers are kept -/

/-- The step: what a token leaves on the stack is layered. -/
theorem takes {order next : Postfix} {token : Token} (layered : IsLayered order.stack)
    (takes : order.Takes token next) : IsLayered next.stack := by
  cases takes with
  | operand _ => exact layered
  | closing stackEq _ =>
      rw [stackEq] at layered
      exact layered.right_of_append.tail
  | operator operator notClosing stackEq _ tighter =>
      rw [stackEq] at layered
      have below := layered.right_of_append
      constructor
      · intro waiting member
        rcases List.mem_cons.1 member with rfl | old
        · exact Token.isSign_or_eq_openBracket_iff.2 ⟨operator, notClosing⟩
        · exact below.kinds waiting old
      · apply below.neighbours.cons
        exact fun top isTop => mayWaitOn_of_not_releases (tighter top isTop)

/-- The run: all tokens that are taken leave a layered stack. -/
theorem pushTokens {order next : Postfix} {tokens : List Token}
    (layered : IsLayered order.stack) (taken : order.pushTokens tokens = some next) :
    IsLayered next.stack := by
  induction tokens generalizing order with
  | nil =>
      cases taken
      exact layered
  | cons token rest ih =>
      rcases Option.bind_eq_some_iff.1 taken with ⟨middle, pushed, later⟩
      exact ih (layered.takes (takes_of_push pushed)) later

/-- A layered stack is what its tokens leave that are taken from the lowest to the top. -/
theorem pushTokens_reverse {stack : List Token} (layered : IsLayered stack) :
    empty.pushTokens stack.reverse = some ⟨[], stack⟩ := by
  induction stack with
  | nil => rfl
  | cons top below ih =>
      have operator := Token.isSign_or_eq_openBracket_iff.1 (layered.kinds top List.mem_cons_self)
      have kept : ∀ waiting ∈ below.head?, releases top waiting = false := by
        intro waiting isNext
        have member : waiting ∈ below := List.mem_of_mem_head? isNext
        have waits := Token.isSign_or_eq_openBracket_iff.1 (layered.tail.kinds waiting member)
        rcases layered.neighbours.rel_head? isNext with rfl | rfl | looser
        · exact releases_openBracket waits.2
        · rfl
        · simp [releases, looser]
      rw [List.reverse_cons, pushTokens_append, ih layered.tail, Option.bind_some,
        pushTokens_cons, push_operator_alone [] operator.1 operator.2 kept, Option.bind_some,
        pushTokens_nil]

/-! ## Stretches without brackets -/

theorem stretch {stack stretch : List Token} (layered : IsLayered stack)
    (isStretch : IsStretch stack stretch) :
    (∀ token ∈ stretch, token.isSign = true) ∧
      (stretch.map Token.priority).Pairwise (· > ·) := by
  rcases isStretch with ⟨within, noBracket⟩
  constructor
  · intro token member
    rcases layered.kinds token (within.subset member) with sign | rfl
    · exact sign
    · exact absurd member noBracket
  · rcases within with ⟨above, below, rfl⟩
    have neighbours := layered.neighbours.left_of_append.right_of_append
    have descends : stretch.IsChain fun upper lower => upper.priority > lower.priority := by
      apply neighbours.imp_of_mem_imp
      intro upper lower upperMember lowerMember mayWait
      rcases mayWait with rfl | rfl | looser
      · exact absurd upperMember noBracket
      · exact absurd lowerMember noBracket
      · exact looser
    rw [← List.isChain_iff_pairwise, List.isChain_map]
    exact descends

/-- There are three priorities for the operators of a stretch. -/
theorem length_stretch_le {stack stretch : List Token} (layered : IsLayered stack)
    (isStretch : IsStretch stack stretch) : stretch.length ≤ 3 := by
  rcases layered.stretch isStretch with ⟨signs, descends⟩
  have different : (stretch.map Token.priority).Nodup := descends.imp fun greater => greater.ne'
  have three : stretch.map Token.priority ⊆ [1, 2, 3] := by
    intro priority member
    rcases List.mem_map.1 member with ⟨token, inStretch, rfl⟩
    exact Token.priority_mem_of_isSign (signs token inStretch)
  have bound := (different.subperm three).length_le
  rwa [List.length_map] at bound

end IsLayered

/-- The stacks that come up are the layered ones. -/
theorem exists_pushTokens_stack_iff {stack : List Token} :
    (∃ tokens output, empty.pushTokens tokens = some ⟨output, stack⟩) ↔ IsLayered stack := by
  constructor
  · rintro ⟨tokens, output, taken⟩
    exact isLayered_nil.pushTokens taken
  · intro layered
    exact ⟨stack.reverse, [], layered.pushTokens_reverse⟩

/-- After any tokens that are all taken, signs and opening brackets wait, of the brackets as
many as have been opened and not closed. Where no bracket comes between, at most three
operators wait, the tightest on top. The next token is refused only if it is a closing
bracket and no opening one waits. -/
theorem stretches_of_pushTokens {tokens : List Token} {order : Postfix}
    (taken : empty.pushTokens tokens = some order) :
    (∀ token ∈ order.stack,
        (∃ comparison, token = .compare comparison) ∨ token = .and ∨ token = .or ∨
          token = .openBracket) ∧
      order.stack.count .openBracket + tokens.count .closeBracket = tokens.count .openBracket ∧
      (∀ stretch, IsStretch order.stack stretch →
        (stretch.map Token.priority).Pairwise (· > ·) ∧ stretch.length ≤ 3) ∧
      ∀ token, order.push token = none ↔ token = .closeBracket ∧ .openBracket ∉ order.stack := by
  have layered : IsLayered order.stack := isLayered_nil.pushTokens taken
  refine ⟨?_, ?_, ?_, ?_⟩
  · intro token member
    rcases layered.kinds token member with sign | rfl
    · cases token with
      | compare comparison => exact .inl ⟨comparison, rfl⟩
      | and => exact .inr (.inl rfl)
      | or => exact .inr (.inr (.inl rfl))
      | _ => cases sign
    · exact .inr (.inr (.inr rfl))
  · exact (accounts_empty.pushTokens taken).brackets
  · intro stretch isStretch
    exact ⟨(layered.stretch isStretch).2, layered.length_stretch_le isStretch⟩
  · intro token
    rw [push_eq_none_iff, openBrackets, List.count_eq_zero]

/-- Tokens of an unfinished condition. Behind its last bracket the `or` releases the `and`
before it, and the second comparison the first. -/
def nestedOperators : List Token :=
  [.or, .openBracket, .closeBracket, .and, .compare .less, .openBracket, .identifier "a", .and,
    .or, .text "x", .and, .compare .equal, .compare .greater]

/-- Their order, with three operators on both sides of the bracket that waits. -/
def nestedOrder : Postfix :=
  ⟨[.identifier "a", .and, .text "x", .compare .equal],
    [.compare .greater, .and, .or, .openBracket, .compare .less, .and, .or]⟩

theorem stretches_of_nestedOperators :
    empty.pushTokens nestedOperators = some nestedOrder ∧
      (∀ token ∈ nestedOrder.stack,
        (∃ comparison, token = .compare comparison) ∨ token = .and ∨ token = .or ∨
          token = .openBracket) ∧
      nestedOrder.stack.count .openBracket + nestedOperators.count .closeBracket =
        nestedOperators.count .openBracket ∧
      (∀ stretch, IsStretch nestedOrder.stack stretch →
        (stretch.map Token.priority).Pairwise (· > ·) ∧ stretch.length ≤ 3) ∧
      ∀ token, nestedOrder.push token = none ↔
        token = .closeBracket ∧ .openBracket ∉ nestedOrder.stack := by
  have taken : empty.pushTokens nestedOperators = some nestedOrder := by decide
  exact ⟨taken, stretches_of_pushTokens taken⟩

end Postfix

end Tabula.Query
