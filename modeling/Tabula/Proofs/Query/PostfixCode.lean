import Tabula.Proofs.Query.Operands

/-!
# Decoding postfix order

A filter that is put together from comparisons is read back from its postfix code. Other
tokens may hold stray operands, brackets and keywords, and what is read from them is a
matter of their signs alone: a comparison adds a filter and a junction takes one away, so
the filters in the end are as many as the comparisons less the junctions. In a filter that
is read, the nodes are the signs in their order, the right side before the left one, and a
comparison is made of a name and a literal that stand before its sign.
-/

namespace Tabula.Query

namespace Token

/-- Whether a token is the sign of a comparison. -/
def isComparison : Token → Bool
  | .compare _ => true
  | _ => false

/-- Whether a token joins two conditions. -/
def isJunction : Token → Bool
  | .and | .or => true
  | _ => false

/-- Whether a token stands for a node of a filter. -/
def isSign (token : Token) : Bool :=
  token.isComparison || token.isJunction

/-- Operands are no signs. -/
theorem no_sign_of_isKept {token : Token} (isKept : token.isKept = true) :
    token.isComparison = false ∧ token.isJunction = false := by
  cases token <;> first | exact ⟨rfl, rfl⟩ | cases isKept

end Token

namespace Filter

/-- A node of a filter, without its sides. -/
inductive Node where
  | compare (field : String) (comparison : Comparison) (literal : Value)
  | and
  | or

/-- The token that stands for a node. -/
def Node.sign : Node → Token
  | .compare _ comparison _ => .compare comparison
  | .and => .and
  | .or => .or

theorem Node.isSign_sign (node : Node) : node.sign.isSign = true := by
  cases node <;> rfl

/-- The nodes of a filter in the order in which they are made: those of the right side,
those of the left side, and the node that joins them. -/
def nodes : Filter → List Node
  | .everything => []
  | .compare field comparison literal => [.compare field comparison literal]
  | .both left right => right.nodes ++ left.nodes ++ [.and]
  | .either left right => right.nodes ++ left.nodes ++ [.or]

/-- The postfix code of a filter: the code of the right side, the code of the left side,
and the sign that joins them. The filter that every row satisfies has no code. -/
def postfixCode : Filter → List Token
  | .everything => []
  | .compare field comparison literal =>
      [.identifier field, literalToken literal, .compare comparison]
  | .both left right => right.postfixCode ++ left.postfixCode ++ [.and]
  | .either left right => right.postfixCode ++ left.postfixCode ++ [.or]

/-! ## From a filter to tokens and back -/

/-- The code of a filter leaves the filter behind, whatever comes before and after. -/
theorem reduce_postfixCode {filter : Filter} (ofComparisons : filter.OfComparisons)
    (operands : List Token) (filters : List Filter) (rest : List Token) :
    reduce operands filters (filter.postfixCode ++ rest) =
      reduce operands (filter :: filters) rest := by
  induction filter generalizing filters rest with
  | everything => cases ofComparisons
  | compare field comparison literal => cases literal <;> rfl
  | both left right leftRead rightRead =>
      rw [postfixCode, List.append_assoc, List.append_assoc, rightRead ofComparisons.2,
        leftRead ofComparisons.1]
      rfl
  | either left right leftRead rightRead =>
      rw [postfixCode, List.append_assoc, List.append_assoc, rightRead ofComparisons.2,
        leftRead ofComparisons.1]
      rfl

theorem ofPostfix_postfixCode {filter : Filter} (ofComparisons : filter.OfComparisons) :
    ofPostfix filter.postfixCode = .ok filter := by
  have read := reduce_postfixCode ofComparisons [] [] []
  rw [List.append_nil] at read
  rw [ofPostfix, read]
  rfl

/-! ## The number of filters -/

/-- The step: a comparison adds a filter, and a junction takes one away. -/
theorem Reduces.length_filters {before after : Stacks} {token : Token}
    (step : Reduces before token after) :
    after.filters.length + [token].countP Token.isJunction =
      before.filters.length + [token].countP Token.isComparison := by
  cases step with
  | compare made operands filters => rfl
  | and left right operands filters => rfl
  | or left right operands filters => rfl
  | operand isKept operands filters =>
      obtain ⟨notComparison, notJunction⟩ := Token.no_sign_of_isKept isKept
      simp [notComparison, notJunction]

/-- The run: the filters are counted by the signs. -/
theorem ReducesAll.length_filters {before after : Stacks} {tokens : List Token}
    (run : ReducesAll before tokens after) :
    after.filters.length + tokens.countP Token.isJunction =
      before.filters.length + tokens.countP Token.isComparison := by
  induction run with
  | nil waiting => rfl
  | @cons before middle after token rest step _ ih =>
      have here := step.length_filters
      rw [← List.singleton_append, List.countP_append, List.countP_append]
      omega

/-! ## The order of the nodes -/

/-- Whether nodes are made by tokens: they are their signs in order, and the name and the
literal of each comparison stand before its sign. -/
structure MadeBy (nodes : List Node) (tokens : List Token) : Prop where
  signs : nodes.map Node.sign = tokens.filter Token.isSign
  operands : ∀ place field comparison literal,
    nodes[place]? = some (.compare field comparison literal) →
      ∃ before after, tokens = before ++ .compare comparison :: after ∧
        before.countP Token.isSign = place ∧ .identifier field ∈ before ∧
          literalToken literal ∈ before

namespace MadeBy

variable {nodes : List Node} {tokens : List Token}

theorem nil : MadeBy [] [] where
  signs := rfl
  operands := by
    intro place _ _ _ found
    cases found

theorem countP_isSign (made : MadeBy nodes tokens) :
    tokens.countP Token.isSign = nodes.length := by
  rw [List.countP_eq_length_filter, ← made.signs, List.length_map]

/-- A comparison that is there keeps its operands, whatever token follows. -/
theorem exists_operands_concat (made : MadeBy nodes tokens) (token : Token) {place : Nat}
    {field : String} {comparison : Comparison} {literal : Value}
    (found : nodes[place]? = some (.compare field comparison literal)) :
    ∃ before after, tokens ++ [token] = before ++ .compare comparison :: after ∧
      before.countP Token.isSign = place ∧ .identifier field ∈ before ∧
        literalToken literal ∈ before := by
  obtain ⟨before, after, rfl, rest⟩ := made.operands place field comparison literal found
  exact ⟨before, after ++ [token], by simp, rest⟩

/-- A token that is no sign makes no node. -/
theorem operand (made : MadeBy nodes tokens) {token : Token} (noSign : token.isSign = false) :
    MadeBy nodes (tokens ++ [token]) where
  signs := by simp [made.signs, noSign]
  operands _ _ _ _ found := made.exists_operands_concat token found

/-- A sign makes a node. A comparison must find its operands. -/
theorem sign (made : MadeBy nodes tokens) (node : Node)
    (compared : ∀ field comparison literal, node = .compare field comparison literal →
      .identifier field ∈ tokens ∧ literalToken literal ∈ tokens) :
    MadeBy (nodes ++ [node]) (tokens ++ [node.sign]) where
  signs := by simp [made.signs, node.isSign_sign]
  operands := by
    intro place field comparison literal found
    -- The new node comes last, so its place is the number of signs before its own.
    rcases Nat.lt_trichotomy place nodes.length with old | rfl | beyond
    · rw [List.getElem?_append_left old] at found
      exact made.exists_operands_concat _ found
    · rw [List.getElem?_concat_length] at found
      obtain rfl := Option.some.inj found
      exact ⟨tokens, [], rfl, made.countP_isSign, compared field comparison literal rfl⟩
    · have past : (nodes ++ [node]).length ≤ place := by
        rw [List.length_append]
        exact beyond
      rw [List.getElem?_eq_none past] at found
      cases found

theorem junction (made : MadeBy nodes tokens) (node : Node)
    (isJunction : node.sign.isJunction = true) :
    MadeBy (nodes ++ [node]) (tokens ++ [node.sign]) := by
  apply made.sign
  rintro field comparison literal rfl
  cases isJunction

end MadeBy

/-- Whether stacks come from tokens: the operands are among them, and they make the nodes
of the filters, the earliest filter first. -/
structure Stacks.ComeFrom (waiting : Stacks) (tokens : List Token) : Prop where
  operands : ∀ operand ∈ waiting.operands, operand ∈ tokens
  nodes : MadeBy (waiting.filters.reverse.flatMap Filter.nodes) tokens

/-- The step: a token becomes an operand or makes the next node. -/
theorem Reduces.comeFrom {before after : Stacks} {token : Token} {tokens : List Token}
    (step : Reduces before token after) (given : before.ComeFrom tokens) :
    after.ComeFrom (tokens ++ [token]) := by
  have kept : ∀ operand ∈ before.operands, operand ∈ tokens ++ [token] := by
    intro operand member
    exact List.mem_append_left _ (given.operands operand member)
  have nodes := given.nodes
  -- Joining two filters leaves their nodes in place, the earlier filter's first: it is the
  -- right side.
  cases step with
  | @compare first second comparison filter made operands filters =>
      obtain ⟨field, literal, rfl, perm⟩ := exists_compare_of_ofOperands made
      have taken : ∀ operand ∈ [Token.identifier field, literalToken literal],
          operand ∈ tokens := by
        intro operand member
        apply given.operands operand
        rcases List.mem_cons.1 (perm.mem_iff.1 member) with rfl | isSecond
        · exact List.mem_cons_of_mem _ List.mem_cons_self
        · exact List.mem_singleton.1 isSecond ▸ List.mem_cons_self
      constructor
      · intro operand member
        exact kept operand (List.mem_cons_of_mem _ (List.mem_cons_of_mem _ member))
      · have next := nodes.sign (.compare field comparison literal) (by
          rintro _ _ _ ⟨⟩
          exact ⟨taken _ List.mem_cons_self, taken _ (List.mem_cons_of_mem _ List.mem_cons_self)⟩)
        simpa [Filter.nodes, Node.sign] using next
  | and left right operands filters =>
      constructor
      · exact kept
      · simpa [Filter.nodes, Node.sign] using nodes.junction .and rfl
  | or left right operands filters =>
      constructor
      · exact kept
      · simpa [Filter.nodes, Node.sign] using nodes.junction .or rfl
  | operand isKept operands filters =>
      obtain ⟨notComparison, notJunction⟩ := Token.no_sign_of_isKept isKept
      constructor
      · exact List.forall_mem_cons.2 ⟨List.mem_append_right _ List.mem_cons_self, kept⟩
      · exact nodes.operand (by simp [Token.isSign, notComparison, notJunction])

/-- The run: the stacks come from all tokens that are read. -/
theorem ReducesAll.comeFrom {before after : Stacks} {tokens rest : List Token}
    (run : ReducesAll before rest after) (given : before.ComeFrom tokens) :
    after.ComeFrom (tokens ++ rest) := by
  induction run generalizing tokens with
  | nil waiting => rwa [List.append_nil]
  | @cons before middle after token rest step _ ih =>
      have next := ih (step.comeFrom given)
      rwa [List.append_assoc, List.singleton_append] at next

theorem madeBy_of_ofPostfix {tokens : List Token} {filter : Filter}
    (read : ofPostfix tokens = .ok filter) : MadeBy filter.nodes tokens := by
  obtain ⟨left, run⟩ := exists_reducesAll_of_ofPostfix read
  have start : Stacks.ComeFrom ⟨[], []⟩ [] := ⟨List.forall_mem_nil _, .nil⟩
  have nodes := (run.comeFrom start).nodes
  simpa using nodes

/-! ## What is read from tokens -/

theorem ofOperands_eq_error {first second : Token} {comparison : Comparison} {error : GrammarError}
    (failed : ofOperands first second comparison = .error error) : error = .malformedCondition := by
  unfold ofOperands at failed
  split at failed
  · split at failed <;> cases failed
    rfl
  · split at failed <;> cases failed
    rfl
  · cases failed
    rfl

/-- Signs that find too few operands or filters, or operands that cannot be compared, are
the only reason to stop early. -/
theorem reduce_eq_error {operands tokens : List Token} {filters : List Filter}
    {error : GrammarError} (failed : reduce operands filters tokens = .error error) :
    error = .malformedCondition := by
  fun_induction reduce operands filters tokens with
  | case1 => cases failed
  | case2 _ _ _ _ _ _ _ _ ih => exact ih failed
  | case3 _ _ _ _ _ _ _ stopped =>
      cases failed
      exact ofOperands_eq_error stopped
  | case4 => exact (Except.error.inj failed).symm
  | case5 _ _ _ _ _ ih => exact ih failed
  | case6 => exact (Except.error.inj failed).symm
  | case7 _ _ _ _ _ ih => exact ih failed
  | case8 => exact (Except.error.inj failed).symm
  | case9 _ _ _ _ _ _ _ ih => exact ih failed

theorem ofPostfix_of_reduce {tokens : List Token} {roots : List Filter}
    (reduced : reduce [] [] tokens = .ok roots) (notSingle : roots.length ≠ 1) :
    ofPostfix tokens = .error (.unreducedCondition roots.length) := by
  rw [ofPostfix, reduced]
  cases roots with
  | nil => rfl
  | cons first rest =>
      cases rest with
      | nil => exact absurd rfl notSingle
      | cons second rest => rfl

/-- A filter of comparisons, and no other, is read back from its code. Of whatever tokens,
either none is read because the condition is malformed, or the filters in the end are the
comparisons less the junctions: if these are not one, their number is the error, and if
they are, the filter is made of comparisons by the tokens. -/
theorem decodes_postfixCode :
    (∀ filter : Filter, ofPostfix filter.postfixCode = .ok filter ↔ filter.OfComparisons) ∧
      ∀ tokens : List Token,
        ofPostfix tokens = .error .malformedCondition ∨
          (∃ roots, ofPostfix tokens = .error (.unreducedCondition roots) ∧ roots ≠ 1 ∧
            tokens.countP Token.isComparison = tokens.countP Token.isJunction + roots) ∨
          ∃ filter, ofPostfix tokens = .ok filter ∧
            tokens.countP Token.isComparison = tokens.countP Token.isJunction + 1 ∧
            filter.OfComparisons ∧ MadeBy filter.nodes tokens := by
  constructor
  · intro filter
    exact ⟨ofComparisons_ofPostfix, ofPostfix_postfixCode⟩
  · intro tokens
    cases reduced : reduce [] [] tokens with
    | error error =>
        left
        rw [ofPostfix, reduced, reduce_eq_error reduced]
    | ok roots =>
        right
        obtain ⟨left, run⟩ := exists_reducesAll reduced
        have counted : tokens.countP Token.isComparison =
            tokens.countP Token.isJunction + roots.length := by
          have lengths := run.length_filters
          rw [List.length_nil, Nat.zero_add] at lengths
          rw [← lengths, Nat.add_comm]
        by_cases single : roots.length = 1
        · right
          obtain ⟨filter, rfl⟩ := List.length_eq_one_iff.1 single
          have read : ofPostfix tokens = .ok filter := by rw [ofPostfix, reduced]
          exact ⟨filter, read, counted, ofComparisons_ofPostfix read, madeBy_of_ofPostfix read⟩
        · left
          exact ⟨roots.length, ofPostfix_of_reduce reduced single, single, counted⟩

/-- Two comparisons, one of them with the literal first, behind a stray name and with a
bracket in between. -/
def strayAndBracket : List Token :=
  [.identifier "stray", .identifier "a", .text "x", .compare .equal, .openBracket, .text "y",
    .identifier "b", .compare .less, .or]

theorem decodes_strayAndBracket :
    ofPostfix strayAndBracket =
        .ok (.either (.compare "b" .less (.text "y")) (.compare "a" .equal (.text "x"))) ∧
      MadeBy [.compare "a" .equal (.text "x"), .compare "b" .less (.text "y"), .or]
        strayAndBracket := by
  have read : ofPostfix strayAndBracket =
      .ok (.either (.compare "b" .less (.text "y")) (.compare "a" .equal (.text "x"))) := rfl
  rcases decodes_postfixCode.2 strayAndBracket with
    malformed | ⟨roots, unreduced, _⟩ | ⟨filter, isRead, _, _, made⟩
  · rw [read] at malformed
    cases malformed
  · rw [read] at unreduced
    cases unreduced
  · rw [read] at isRead
    cases isRead
    exact ⟨read, made⟩

end Filter

end Tabula.Query
