import Tabula.Proofs.Query.Execution
import Tabula.Proofs.Query.Request
import Tabula.Proofs.Table.PickedRows
import Tabula.Proofs.TableMap

/-!
# The meaning of queries

A condition in infix notation holds at a row or not, comparison by comparison, and a
request asks for some columns of the rows at which its condition holds. However the
request is written down, its answer is the table of just these: the scanner, the
reordering, the tree of the condition with its short cuts and both projections leave
no trace.
-/

namespace Tabula.Query

open RowSet

/-! ## Comparisons that can be made -/

namespace Leaf

/-- Whether a comparison names a column that its literal fits. A table without rows
has no cells that could differ from the literal. -/
def Fits (table : Table) (leaf : Leaf) : Prop :=
  ∃ column ∈ table.columns, column.name = leaf.field ∧
    (0 < table.rowCount →
      column.type = leaf.literal.type ∧ (column.type = .text → leaf.comparison = .equal))

theorem fault?_eq_none {table : Table} {leaf : Leaf} (fits : leaf.Fits table) :
    leaf.fault? table = none := by
  obtain ⟨column, member, nameEq, suits⟩ := fits
  simp only [fault?, Table.column_eq_ok_iff.2 ⟨member, nameEq⟩]
  by_cases noRows : table.rowCount = 0
  · rw [if_pos noRows]
  · obtain ⟨typeEq, ordered⟩ := suits (Nat.pos_of_ne_zero noRows)
    have comparable : ¬(column.type = .text ∧ leaf.comparison ≠ .equal) := by
      rintro ⟨isText, notEqual⟩
      exact notEqual (ordered isText)
    rw [if_neg noRows, if_neg (not_not_intro typeEq), if_neg comparable]

end Leaf

/-! ## Conditions -/

namespace Condition

variable {level : Level} {table : Table}

/-- Whether a condition holds at a row. -/
def Holds (table : Table) (row : Nat) : {level : Level} → Condition level → Prop
  | _, .fieldFirst field comparison literal => Leaf.Holds table row ⟨field, comparison, literal⟩
  | _, .literalFirst literal comparison field => Leaf.Holds table row ⟨field, comparison, literal⟩
  | _, .bracketed inner => inner.Holds table row
  | _, .single atom => atom.Holds table row
  | _, .and left right => left.Holds table row ∧ right.Holds table row
  | _, .lone conjunction => conjunction.Holds table row
  | _, .or left right => left.Holds table row ∨ right.Holds table row

/-- The comparisons in a condition. -/
def leaves : {level : Level} → Condition level → List Leaf
  | _, .fieldFirst field comparison literal => [⟨field, comparison, literal⟩]
  | _, .literalFirst literal comparison field => [⟨field, comparison, literal⟩]
  | _, .bracketed inner => inner.leaves
  | _, .single atom => atom.leaves
  | _, .and left right => left.leaves ++ right.leaves
  | _, .lone conjunction => conjunction.leaves
  | _, .or left right => left.leaves ++ right.leaves

/-- The tree of a condition swaps operands, which makes no difference to rows. -/
theorem holds_tree_iff (condition : Condition level) (row : Nat) :
    condition.tree.Holds table row ↔ condition.Holds table row := by
  induction condition with
  | fieldFirst field comparison literal => exact Iff.rfl
  | literalFirst literal comparison field => exact Iff.rfl
  | bracketed inner ih => exact ih
  | single atom ih => exact ih
  | and left right leftIff rightIff => exact (and_congr rightIff leftIff).trans and_comm
  | lone conjunction ih => exact ih
  | or left right leftIff rightIff => exact (or_congr rightIff leftIff).trans or_comm

/-- Only comparisons of the condition are made. -/
theorem mem_leaves_of_mem_visited {condition : Condition level} {leaf : Leaf}
    (member : leaf ∈ condition.tree.visited table) : leaf ∈ condition.leaves := by
  induction condition with
  | fieldFirst field comparison literal => exact member
  | literalFirst literal comparison field => exact member
  | bracketed inner ih => exact ih member
  | single atom ih => exact ih member
  | and left right inLeft inRight =>
      rw [tree, Filter.visited] at member
      rcases List.mem_append.1 member with rightMember | leftMember
      · exact List.mem_append_right _ (inRight rightMember)
      · split at leftMember
        · cases leftMember
        · exact List.mem_append_left _ (inLeft leftMember)
  | lone conjunction ih => exact ih member
  | or left right inLeft inRight =>
      rw [tree, Filter.visited] at member
      rcases List.mem_append.1 member with rightMember | leftMember
      · exact List.mem_append_right _ (inRight rightMember)
      · exact List.mem_append_left _ (inLeft leftMember)

end Condition

/-! ## Requests -/

namespace Request

variable {table : Table}

/-- Whether the condition of a request holds at a row. -/
def Holds (table : Table) (row : Nat) (request : Request) : Prop :=
  match request.condition with
  | none => True
  | some condition => condition.Holds table row

theorem holds_filter_iff (request : Request) (row : Nat) :
    request.filter.Holds table row ↔ request.Holds table row := by
  rw [filter, Holds]
  cases request.condition with
  | none => exact Iff.rfl
  | some condition => exact condition.holds_tree_iff row

instance (table : Table) (row : Nat) (request : Request) : Decidable (request.Holds table row) :=
  decidable_of_iff _ (request.holds_filter_iff row)

/-- The comparisons in the condition of a request. -/
def leaves (request : Request) : List Leaf :=
  match request.condition with
  | none => []
  | some condition => condition.leaves

/-- Whether a table has the columns of a request and its literals fit them. -/
structure Fits (request : Request) (table : Table) : Prop where
  selected : table.HasColumns request.selection.names
  compared : ∀ leaf ∈ request.leaves, leaf.Fits table

/-- The rows at which the condition of a request holds, in ascending order. -/
def rows (request : Request) (table : Table) : List Nat :=
  rowsWhere table.rowCount fun row => request.Holds table row

/-- What the answer of a request must be: of the table that shows the rows at which the
condition holds, the columns that are asked for. -/
structure Answers (request : Request) (table result : Table) : Prop where
  name : result.name = table.name
  columns : ∃ picked, table.ShowsRows picked (request.rows table) ∧
    result.columns = picked.columns.filter fun column => request.selection.wants column.name

/-- A request has one answer. -/
theorem Answers.unique {request : Request} {result other : Table}
    (answers : request.Answers table result) (otherAnswers : request.Answers table other) :
    result = other := by
  obtain ⟨picked, shows, columnsEq⟩ := answers.columns
  obtain ⟨otherPicked, otherShows, otherEq⟩ := otherAnswers.columns
  rw [otherShows.unique shows] at otherEq
  exact Table.eq_of_parts (answers.name.trans otherAnswers.name.symm)
    (columnsEq.trans otherEq.symm)

theorem fault?_filter_eq_none {request : Request} (fits : request.Fits table) :
    request.filter.fault? table = none := by
  have compared := fits.compared
  rw [Filter.fault?, List.findSome?_eq_none_iff]
  intro leaf visited
  rw [filter] at visited
  rw [leaves] at compared
  cases conditionEq : request.condition with
  | none =>
      rw [conditionEq] at visited
      cases visited
  | some condition =>
      rw [conditionEq] at visited compared
      exact Leaf.fault?_eq_none (compared leaf (Condition.mem_leaves_of_mem_visited visited))

/-- What the statement of a request gives has the rows and columns of its answer. -/
theorem answers_of_execute {request : Request} {result : Table}
    (executed : (request.statement.execute table).runLowered = .ok result) :
    request.Answers table result := by
  obtain ⟨_, _, rfl⟩ := (request.statement.runLowered_execute_eq_ok_iff).1 executed
  have sameRows : request.filter.satisfying table = request.rows table :=
    rowsWhere_congr request.holds_filter_iff
  have inTable : ∀ row ∈ request.rows table, row < table.rowCount :=
    fun row member => (mem_rowsWhere_iff.1 member).1
  constructor
  · exact request.selection.keep_name table
  · refine ⟨table.pick (request.rows table), Table.showsRows_pick inTable, ?_⟩
    rw [← Selection.keep_columns, Selection.keep_pick, ← sameRows]
    rfl

/-- Whatever the spelling, a written request is read as its statement. -/
theorem parse_chars {request : Request} {rendering : Rendering} (gaps : rendering.GapsIn isGap)
    (apart : rendering.pieces.IsChain Rendering.Apart)
    (spelled : List.Forall₂ Spells rendering.lexemes request.tokens) :
    parse (String.ofList (rendering.chars ++ [';'])) = .ok request.statement := by
  obtain ⟨order, taken, finished⟩ := request.exists_pushTokens_finish
  rw [← map_token_of_spells spelled, ← rendering.placed_token] at taken
  rw [parse, tokenize, String.toList_ofList, Rendering.scan_chars gaps.separated apart]
  simp only [Postfix.pushAll_eq_ok taken, Ending.error?, finished, request.ofTokens_postfixCode]

/-- The answer of a written request. Without a table of the name that is the error;
otherwise there is an answer when the table fits the request, and an answer has the
columns asked for and the rows at which the condition holds. -/
theorem runLowered_answer (map : TableMap) (request : Request) {rendering : Rendering}
    (gaps : rendering.GapsIn isGap) (apart : rendering.pieces.IsChain Rendering.Apart)
    (spelled : List.Forall₂ Spells rendering.lexemes request.tokens) :
    let given := (answer map.lookup (String.ofList (rendering.chars ++ [';']))).runLowered
    ((∀ table ∈ map.tables, table.name ≠ request.table) →
        given = .error (.source (.tableNotFound request.table))) ∧
      ∀ table ∈ map.tables, table.name = request.table →
        (request.Fits table → ∃ result, given = .ok result) ∧
          ∀ result, given = .ok result → request.Answers table result := by
  intro given
  have parsed := parse_chars gaps apart spelled
  constructor
  · intro absent
    have missing : map.lookup request.statement.table = .error (.tableNotFound request.table) :=
      TableMap.lookup_of_absent absent
    simp only [given, answer, parsed, missing]
    rfl
  · intro table member nameEq
    have found : map.lookup request.statement.table = .ok table := by
      change map.lookup request.table = .ok table
      rw [← nameEq, TableMap.lookup_of_mem member]
    have executed : given = (request.statement.execute table).runLowered := by
      simp only [given, answer, parsed, found]
    rw [executed]
    constructor
    · intro fits
      exact ⟨_, request.statement.runLowered_execute_eq_ok_iff.2
        ⟨fault?_filter_eq_none fits, fits.selected, rfl⟩⟩
    · intro result ok
      exact answers_of_execute ok

/-- A table of three rows. -/
def fruit : Table where
  name := "fruit"
  columns :=
    [⟨⟨"name", .text⟩, #[.text "apple", .text "pear", .text "fig"]⟩,
     ⟨⟨"price", .number⟩, #[.ofInt 1, .ofInt 2, .ofInt 3]⟩]
  sound := ⟨by simp [rowCountOf, Column.size], by simp [Value.type, Column.type, Value.ofInt],
    by decide⟩

/-- The numeral 1.5. -/
def oneAndHalf : Numeral := ⟨['1'], some ['5'], rfl, fun _ found => Option.some.inj found ▸ rfl⟩

/-- The names of what is cheap or a fig. -/
def cheapOrFig : Request where
  selection := .fields ["name"]
  table := "fruit"
  condition := some <|
    .or (.lone (.single (.fieldFirst "price" .less (.number oneAndHalf.value))))
      (.single (.literalFirst (.text "fig") .equal "name"))
  nonempty := by decide
  noSign := by decide

/-- What is cheap or a fig: the apple and the fig. -/
def appleAndFig : Table where
  name := "fruit"
  columns := [⟨⟨"name", .text⟩, #[.text "apple", .text "fig"]⟩]
  sound := ⟨by simp [rowCountOf], by simp [Value.type, Column.type], by simp⟩

/-- One way to write it. -/
def cheapOrFigText : Rendering where
  pieces :=
    [([], .word ['S', 'E', 'L', 'E', 'C', 'T'] rfl),
     ([' '], .quoted .identifier ['n', 'a', 'm', 'e'] (fun _ => nofun)),
     ([], .word ['f', 'r', 'o', 'm'] rfl),
     ([], .quoted .identifier ['f', 'r', 'u', 'i', 't'] (fun _ => nofun)),
     ([], .word ['W', 'h', 'e', 'r', 'e'] rfl),
     ([], .quoted .identifier ['p', 'r', 'i', 'c', 'e'] (fun _ => nofun)),
     ([], .sign (.compare .less)),
     ([' '], .word oneAndHalf.chars rfl),
     ([' ', ','], .word ['O', 'R'] rfl),
     ([], .quoted .text ['f', 'i', 'g'] nofun),
     ([], .sign (.compare .equal)),
     ([], .quoted .identifier ['n', 'a', 'm', 'e'] (fun _ => nofun))]
  last := [' ']

theorem runLowered_answer_cheapOrFig :
    cheapOrFigText.GapsIn isGap ∧ cheapOrFigText.pieces.IsChain Rendering.Apart ∧
      List.Forall₂ Spells cheapOrFigText.lexemes cheapOrFig.tokens ∧
      cheapOrFig.Fits fruit ∧ cheapOrFig.Answers fruit appleAndFig ∧
      (answer (TableMap.lookup ⟨[fruit], List.pairwise_singleton _ _⟩)
        "SELECT \"name\"from\"fruit\"Where\"price\"< 1.5 ,OR'fig'=\"name\" ;").runLowered =
          .ok appleAndFig := by
  have gaps : cheapOrFigText.GapsIn isGap := ⟨by decide, by decide⟩
  have apart : cheapOrFigText.pieces.IsChain Rendering.Apart := by
    simp [cheapOrFigText, Rendering.Apart, Lexeme.isWord]
  have spelled : List.Forall₂ Spells cheapOrFigText.lexemes cheapOrFig.tokens :=
    .cons (.keyword .select _ rfl) <| .cons (.name _) <|
    .cons (.keyword .source _ rfl) <| .cons (.name _) <|
    .cons (.keyword .condition _ rfl) <| .cons (.name _) <|
    .cons (.sign (.compare .less)) <| .cons (.number oneAndHalf _) <|
    .cons (.or _ rfl) <| .cons (.text _) <| .cons (.sign (.compare .equal)) <|
    .cons (.name _) .nil
  have fits : cheapOrFig.Fits fruit := by
    constructor
    · intro name member
      exact ⟨_, List.mem_cons_self, (List.mem_singleton.1 member).symm⟩
    · intro leaf member
      rcases List.mem_cons.1 member with rfl | other
      · exact ⟨_, List.mem_cons_of_mem _ List.mem_cons_self, rfl,
          fun _ => ⟨rfl, by intro isText; cases isText⟩⟩
      · rw [List.mem_singleton.1 other]
        exact ⟨_, List.mem_cons_self, rfl, fun _ => ⟨rfl, fun _ => rfl⟩⟩
  -- The apple costs less than the numeral, and the fig has the name.
  have rowsEq : cheapOrFig.rows fruit = [0, 2] := by decide +kernel
  have answers : cheapOrFig.Answers fruit appleAndFig := by
    refine ⟨rfl, fruit.pick [0, 2], ?_, by decide⟩
    rw [rowsEq]
    exact Table.showsRows_pick (by decide)
  have written : String.ofList (cheapOrFigText.chars ++ [';']) =
      "SELECT \"name\"from\"fruit\"Where\"price\"< 1.5 ,OR'fig'=\"name\" ;" := by decide
  obtain ⟨answered, right⟩ := (runLowered_answer ⟨[fruit], List.pairwise_singleton _ _⟩ cheapOrFig
    gaps apart spelled).2 fruit List.mem_cons_self rfl
  rw [written] at answered right
  obtain ⟨result, ok⟩ := answered fits
  rw [(right result ok).unique answers] at ok
  exact ⟨gaps, apart, spelled, fits, answers, ok⟩

end Request

end Tabula.Query
