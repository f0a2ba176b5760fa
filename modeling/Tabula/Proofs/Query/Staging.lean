import Tabula.Proofs.Query.Execution
import Tabula.Proofs.Query.Faults
import Tabula.Proofs.Table.PickedRows

/-!
# Filtering in stages

A filter says the same of a picked row as of the row that it was picked from, although the
two have different numbers, and it has no fault in picked rows if it has none in the table.
So a conjunction can be worked out in stages: the rows that satisfy one side are picked, and
the other side is worked out on these alone.
-/

namespace Tabula

/-! ## Rows of picked rows -/

namespace Column

theorem pick_pick {column : Column} {rows : List Nat} (inColumn : ∀ row ∈ rows, row < column.size)
    (places : List Nat) :
    (column.pick rows).pick places = column.pick (places.filterMap fun place => rows[place]?) := by
  have cells : places.filterMap (column.pick rows).cell? =
      (places.filterMap fun place => rows[place]?).filterMap column.cell? := by
    rw [List.filterMap_filterMap]
    exact List.filterMap_congr fun place _ => cell?_pick inColumn place
  exact congrArg (fun cells => Column.mk column.field cells.toArray) cells

end Column

namespace Table

variable {table : Table} {rows : List Nat}

theorem pick_pick (inTable : ∀ row ∈ rows, row < table.rowCount) (places : List Nat) :
    (table.pick rows).pick places = table.pick (places.filterMap fun place => rows[place]?) := by
  apply eq_of_parts
  · rfl
  · change (table.columns.map _).map _ = table.columns.map _
    rw [List.map_map]
    apply List.map_congr_left
    intro column member
    exact Column.pick_pick (size_eq_rowCount member ▸ inTable) places

end Table

/-- The items at the places that pass a test are the items that pass it. -/
theorem filterMap_getElem?_filter_range {α : Type} {items : List α} {test : Nat → Bool}
    {accepts : α → Bool} (same : ∀ place item, items[place]? = some item → test place = accepts item) :
    ((List.range items.length).filter test).filterMap (fun place => items[place]?) =
      items.filter accepts := by
  induction items generalizing test with
  | nil => rfl
  | cons first rest ih =>
      have here : test 0 = accepts first := same 0 first rfl
      have later := ih fun place item isItem => same (place + 1) item isItem
      rw [List.length_cons, List.range_succ_eq_map, List.filter_cons, List.filter_cons, here,
        List.filter_map]
      split
      · have found : (first :: rest)[0]? = some first := rfl
        rw [List.filterMap_cons_some found, List.filterMap_map]
        exact congrArg (first :: ·) later
      · rw [List.filterMap_map]
        exact later

namespace Query

variable {table : Table} {rows : List Nat}

/-! ## Satisfaction on picked rows -/

theorem Leaf.holds_pick {leaf : Leaf} (inTable : ∀ row ∈ rows, row < table.rowCount)
    {place row : Nat} (isRow : rows[place]? = some row) :
    leaf.Holds (table.pick rows) place ↔ leaf.Holds table row := by
  have cells : ∀ column ∈ table.columns, (column.pick rows).cell? place = column.cell? row := by
    intro column member
    rw [Column.cell?_pick (Table.size_eq_rowCount member ▸ inTable), isRow, Option.bind_some]
  constructor
  · rintro ⟨picked, member, nameEq, holds⟩
    obtain ⟨column, source, rfl⟩ := List.mem_map.1 member
    rw [cells column source] at holds
    exact ⟨column, source, nameEq, holds⟩
  · rintro ⟨column, source, nameEq, holds⟩
    rw [← cells column source] at holds
    exact ⟨column.pick rows, List.mem_map_of_mem source, nameEq, holds⟩

namespace Filter

/-- What a filter says of a picked row is what it says of the row. -/
theorem holds_pick {filter : Filter} (inTable : ∀ row ∈ rows, row < table.rowCount)
    {place row : Nat} (isRow : rows[place]? = some row) :
    filter.Holds (table.pick rows) place ↔ filter.Holds table row := by
  induction filter with
  | everything => exact Iff.rfl
  | compare field comparison literal => exact Leaf.holds_pick inTable isRow
  | both left right leftIff rightIff => exact and_congr leftIff rightIff
  | either left right leftIff rightIff => exact or_congr leftIff rightIff

theorem satisfying_pick {filter : Filter} (inTable : ∀ row ∈ rows, row < table.rowCount) :
    (filter.satisfying (table.pick rows)).filterMap (fun place => rows[place]?) =
      rows.filter fun row => filter.Holds table row := by
  rw [satisfying, RowSet.rowsWhere, Table.rowCount_pick inTable]
  apply filterMap_getElem?_filter_range
  intro place row isRow
  exact decide_eq_decide.2 (holds_pick inTable isRow)

theorem satisfying_pick_eq_nil {filter : Filter} (inTable : ∀ row ∈ rows, row < table.rowCount)
    (nowhere : filter.satisfying table = []) : filter.satisfying (table.pick rows) = [] := by
  apply List.eq_nil_iff_forall_not_mem.2
  intro place member
  obtain ⟨bound, holds⟩ := mem_satisfying_iff.1 member
  rw [Table.rowCount_pick inTable] at bound
  have isRow : rows[place]? = some rows[place] := List.getElem?_eq_getElem bound
  have satisfied : rows[place] ∈ filter.satisfying table :=
    mem_satisfying_iff.2
      ⟨inTable _ (List.getElem_mem bound), (holds_pick inTable isRow).1 holds⟩
  rw [nowhere] at satisfied
  cases satisfied

end Filter

/-! ## Faults on picked rows -/

/-- A comparison that can be made in a table can be made in picked rows. -/
theorem Leaf.fault?_pick {leaf : Leaf} (inTable : ∀ row ∈ rows, row < table.rowCount)
    (works : leaf.fault? table = none) : leaf.fault? (table.pick rows) = none := by
  have rowsImp : 0 < (table.pick rows).rowCount → 0 < table.rowCount := by
    intro picked
    rw [Table.rowCount_pick inTable] at picked
    exact Nat.zero_lt_of_lt (inTable _ (List.getElem_mem picked))
  cases fault : leaf.fault? (table.pick rows) with
  | none => rfl
  | some error =>
      have faulty : leaf.Faulty table error :=
        (faulty_of_fault? fault).mono (Table.pick_name table rows) (Table.pick_fields table rows)
          rowsImp
      rw [fault?_of_faulty faulty] at works
      cases works

namespace Filter

/-- A filter that can be worked out in a table can be worked out in picked rows. There may be
comparisons that are not visited any more, but there are none that are visited for the first
time: a side that no row of the table satisfies is satisfied by no picked row. -/
theorem fault?_pick {filter : Filter} (inTable : ∀ row ∈ rows, row < table.rowCount)
    (works : filter.fault? table = none) : filter.fault? (table.pick rows) = none := by
  induction filter with
  | everything => rfl
  | compare field comparison literal =>
      rw [fault?_compare] at works ⊢
      exact Leaf.fault?_pick inTable works
  | both left right leftWorks rightWorks =>
      rw [fault?_both, Option.or_eq_none_iff] at works ⊢
      rcases works with ⟨inLeft, inRight⟩
      refine ⟨leftWorks inLeft, ?_⟩
      by_cases nowhere : left.satisfying table = []
      · rw [if_pos (satisfying_pick_eq_nil inTable nowhere)]
      · rw [if_neg nowhere] at inRight
        rw [rightWorks inRight, ite_self]
  | either left right leftWorks rightWorks =>
      rw [fault?_either, Option.or_eq_none_iff] at works ⊢
      exact ⟨leftWorks works.1, rightWorks works.2⟩

/-! ## Conjunctions -/

/-- The rows of a conjunction are those of one side that satisfy the other side. -/
theorem satisfying_both_eq_filter (first second : Filter) :
    (both first second).satisfying table =
      (first.satisfying table).filter fun row => second.Holds table row := by
  rw [satisfying, satisfying, RowSet.rowsWhere, RowSet.rowsWhere, List.filter_filter]
  apply List.filter_congr
  intro row _
  rw [← Bool.decide_and]
  exact decide_eq_decide.2 and_comm

theorem satisfying_both_comm (first second : Filter) :
    (both first second).satisfying table = (both second first).satisfying table :=
  RowSet.rowsWhere_congr fun _ => and_comm

theorem fault?_both_eq_none {first second : Filter} (firstWorks : first.fault? table = none)
    (secondWorks : second.fault? table = none) : (both first second).fault? table = none := by
  rw [fault?_both, firstWorks, secondWorks, ite_self]
  rfl

/-- Picking the rows of one side and, of these, the rows of the other side is picking the
rows of the conjunction. -/
theorem pick_satisfying_pick (first second : Filter) :
    (table.pick (first.satisfying table)).pick
        (second.satisfying (table.pick (first.satisfying table))) =
      table.pick ((both first second).satisfying table) := by
  have inTable : ∀ row ∈ first.satisfying table, row < table.rowCount :=
    fun row member => (mem_satisfying_iff.1 member).1
  rw [Table.pick_pick inTable, satisfying_pick inTable, satisfying_both_eq_filter]

end Filter

namespace Statement

/-- Filters that can be worked out in a table may be put together by `and` in either order,
and they may be worked out in stages: the rows of the first one are picked, all columns are
kept, and the second one is worked out in the table of these rows, where it has no fault even
if there are none. The answer is the same each time. -/
theorem execute_both_eq_staged {first second : Filter} {firstRows secondRows : List Nat}
    (firstWorks : (first.rows table).outcome = .ok firstRows)
    (secondWorks : (second.rows table).outcome = .ok secondRows) (selection : Selection)
    (exist : table.HasColumns selection.names) (source : String) :
    ∃ filtered found answer,
      (execute ⟨.all, source, first⟩ table).runLowered = .ok filtered ∧
        (second.rows filtered).outcome = .ok found ∧
        (execute ⟨selection, source, second⟩ filtered).runLowered = .ok answer ∧
        (execute ⟨selection, source, .both first second⟩ table).runLowered = .ok answer ∧
        (execute ⟨selection, source, .both second first⟩ table).runLowered = .ok answer := by
  obtain ⟨firstFault, rfl⟩ := Filter.fault?_eq_none_of_outcome firstWorks
  obtain ⟨secondFault, rfl⟩ := Filter.fault?_eq_none_of_outcome secondWorks
  have inTable : ∀ row ∈ first.satisfying table, row < table.rowCount :=
    fun row member => (Filter.mem_satisfying_iff.1 member).1
  have noNames : table.HasColumns [] := by
    intro name member
    cases member
  have stagedFault : second.fault? (table.pick (first.satisfying table)) = none :=
    Filter.fault?_pick inTable secondFault
  refine ⟨table.pick (first.satisfying table),
    second.satisfying (table.pick (first.satisfying table)),
    (selection.keep table).pick ((Filter.both first second).satisfying table), ?_, ?_, ?_, ?_, ?_⟩
  · apply (runLowered_execute_eq_ok_iff _).2
    exact ⟨firstFault, noNames, rfl⟩
  · rw [Filter.outcome_rows, stagedFault]
    rfl
  · apply (runLowered_execute_eq_ok_iff _).2
    refine ⟨stagedFault, (Table.hasColumns_pick _).2 exist, ?_⟩
    rw [← Selection.keep_pick, ← Selection.keep_pick, Filter.pick_satisfying_pick]
  · apply (runLowered_execute_eq_ok_iff _).2
    exact ⟨Filter.fault?_both_eq_none firstFault secondFault, exist, rfl⟩
  · apply (runLowered_execute_eq_ok_iff _).2
    refine ⟨Filter.fault?_both_eq_none secondFault firstFault, exist, ?_⟩
    rw [Filter.satisfying_both_comm]

/-- A filter of one comparison. -/
def red : Filter := .compare "name" .equal (.text "red")

/-- The rows of one side and, of these, the rows of a side that leaves a comparison with a
missing column out. -/
theorem execute_both_eq_staged_colours :
    (red.rows Filter.colours).outcome = .ok [0, 2] ∧
      (Filter.redOrMissing.rows Filter.colours).outcome = .ok [0, 2] ∧
      Filter.colours.HasColumns ["name"] ∧
      ∃ filtered found answer,
        (execute ⟨.all, "colours", red⟩ Filter.colours).runLowered = .ok filtered ∧
          (Filter.redOrMissing.rows filtered).outcome = .ok found ∧
          (execute ⟨.fields ["name"], "colours", Filter.redOrMissing⟩ filtered).runLowered =
            .ok answer ∧
          (execute ⟨.fields ["name"], "colours", .both red Filter.redOrMissing⟩
            Filter.colours).runLowered = .ok answer ∧
          (execute ⟨.fields ["name"], "colours", .both Filter.redOrMissing red⟩
            Filter.colours).runLowered = .ok answer := by
  have redWorks : (red.rows Filter.colours).outcome = .ok [0, 2] := rfl
  have orWorks : (Filter.redOrMissing.rows Filter.colours).outcome = .ok [0, 2] := rfl
  have exist : Filter.colours.HasColumns ["name"] := by
    simp [Table.HasColumns, Filter.colours, Column.name]
  exact ⟨redWorks, orWorks, exist,
    execute_both_eq_staged redWorks orWorks (.fields ["name"]) exist "colours"⟩

end Statement

end Query

end Tabula
