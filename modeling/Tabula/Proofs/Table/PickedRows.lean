import Tabula.Proofs.Table.Derived
import Tabula.Proofs.Table.Projection

/-!
# Picked rows

A table is known by its name, the declarations of its columns and its cells. Picking rows
succeeds for rows that exist, and the cells are then those of the picked rows in their
order. So picking rows of picked rows is picking them directly, and picking every row in
turn changes nothing.
-/

namespace Tabula

namespace Column

/-- Columns with one declaration and the same cells are the same. -/
theorem eq_of_cells {left right : Column} (fieldEq : left.field = right.field)
    (cellsEq : ∀ row, left.cell? row = right.cell? row) : left = right := by
  obtain ⟨leftField, leftCells⟩ := left
  obtain ⟨rightField, rightCells⟩ := right
  obtain rfl : leftField = rightField := fieldEq
  obtain rfl : leftCells = rightCells := Array.ext_getElem? cellsEq
  rfl

theorem cell?_eq_none {column : Column} {row : Nat} (beyond : column.size ≤ row) :
    column.cell? row = none :=
  Array.getElem?_eq_none beyond

theorem cell?_pick {column : Column} {rows : List Nat}
    (inColumn : ∀ row ∈ rows, row < column.size) (index : Nat) :
    (column.pick rows).cell? index = rows[index]?.bind column.cell? := by
  simp only [pick, cell?, List.getElem?_toArray]
  induction rows generalizing index with
  | nil => rfl
  | cons row rest ih =>
      obtain ⟨bound, inRest⟩ := List.forall_mem_cons.1 inColumn
      have here : column.cell? row = some column.cells[row] := Array.getElem?_eq_getElem bound
      rw [List.filterMap_cons_some here]
      cases index with
      | zero => exact here.symm
      | succ index => exact ih inRest index

end Column

namespace Table

/-- The cell in the column of a place and a row. -/
def cell? (table : Table) (place row : Nat) : Option Value :=
  table.columns[place]?.bind fun column => column.cell? row

theorem eq_of_parts {left right : Table} (nameEq : left.name = right.name)
    (columnsEq : left.columns = right.columns) : left = right := by
  cases left
  cases right
  rw [Table.mk.injEq]
  exact ⟨nameEq, columnsEq⟩

/-- Tables with one name, the same declarations and the same cells are the same. -/
theorem eq_of_cells {left right : Table} (nameEq : left.name = right.name)
    (fieldsEq : left.fields = right.fields)
    (cellsEq : ∀ place row, left.cell? place row = right.cell? place row) : left = right := by
  have columnsEq : left.columns = right.columns := by
    apply List.ext_getElem?
    intro place
    have fieldEq : left.columns[place]?.map Column.field = right.columns[place]?.map Column.field := by
      rw [← List.getElem?_map, ← List.getElem?_map]
      exact congrArg (·[place]?) fieldsEq
    have cells := cellsEq place
    simp only [cell?] at cells
    cases isLeft : left.columns[place]? with
    | none =>
        rw [isLeft] at fieldEq
        exact (Option.map_eq_none_iff.1 fieldEq.symm).symm
    | some leftColumn =>
        rw [isLeft] at fieldEq cells
        obtain ⟨rightColumn, isRight, sameField⟩ := Option.map_eq_some_iff.1 fieldEq.symm
        rw [isRight] at cells ⊢
        rw [Column.eq_of_cells sameField.symm cells]
  exact eq_of_parts nameEq columnsEq

/-- Whether a table shows the rows of another table in the given order. -/
structure ShowsRows (table picked : Table) (rows : List Nat) : Prop where
  name_eq : picked.name = table.name
  fields_eq : picked.fields = table.fields
  cell?_eq : ∀ place row, picked.cell? place row = rows[row]?.bind (table.cell? place)

variable {table picked : Table} {rows : List Nat}

theorem showsRows_pick (inTable : ∀ row ∈ rows, row < table.rowCount) :
    ShowsRows table (table.pick rows) rows where
  name_eq := rfl
  fields_eq := pick_fields table rows
  cell?_eq := by
    intro place row
    have picked : (table.pick rows).columns[place]? =
        table.columns[place]?.map fun column => column.pick rows :=
      List.getElem?_map
    rw [cell?, picked]
    unfold cell?
    cases found : table.columns[place]? with
    | none => cases rows[row]? <;> rfl
    | some column =>
        have size := table.size_eq_rowCount (List.mem_of_getElem? found)
        exact Column.cell?_pick (size ▸ inTable) row

/-- The table of some rows is determined by them. -/
theorem ShowsRows.unique {other : Table} (shows : ShowsRows table picked rows)
    (otherShows : ShowsRows table other rows) : picked = other := by
  apply eq_of_cells
  · rw [shows.name_eq, otherShows.name_eq]
  · rw [shows.fields_eq, otherShows.fields_eq]
  · intro place row
    rw [shows.cell?_eq, otherShows.cell?_eq]

/-- Rows of picked rows are rows of the table. -/
theorem ShowsRows.of_places {direct : Table} {places : List (Fin rows.length)}
    (shows : ShowsRows table picked rows)
    (directShows : ShowsRows table direct (places.map rows.get)) :
    ShowsRows picked direct (places.map Fin.val) where
  name_eq := directShows.name_eq.trans shows.name_eq.symm
  fields_eq := directShows.fields_eq.trans shows.fields_eq.symm
  cell?_eq := by
    intro place row
    rw [directShows.cell?_eq, List.getElem?_map, List.getElem?_map]
    cases places[row]? with
    | none => rfl
    | some index =>
        change table.cell? place (rows.get index) = picked.cell? place index
        rw [shows.cell?_eq, List.getElem?_eq_getElem index.isLt]
        rfl

theorem showsRows_range (table : Table) : ShowsRows table table (List.range table.rowCount) where
  name_eq := rfl
  fields_eq := rfl
  cell?_eq := by
    intro place row
    rcases Nat.lt_or_ge row table.rowCount with inside | beyond
    · rw [List.getElem?_range inside]
      rfl
    · rw [List.getElem?_eq_none (List.length_range ▸ beyond), cell?]
      cases found : table.columns[place]? with
      | none => rfl
      | some column =>
          have size := table.size_eq_rowCount (List.mem_of_getElem? found)
          exact Column.cell?_eq_none (size ▸ beyond)

/-- There are as many picked rows as were asked for: of a table without columns, none can
be asked for. -/
theorem rowCount_pick (inTable : ∀ row ∈ rows, row < table.rowCount) :
    (table.pick rows).rowCount = rows.length := by
  change rowCountOf (table.columns.map fun column => column.pick rows) = rows.length
  unfold rowCount at inTable
  cases columns : table.columns with
  | nil =>
      rw [columns] at inTable
      have noRows : rows = [] :=
        List.eq_nil_iff_forall_not_mem.2 fun row member => Nat.not_lt_zero row (inTable row member)
      rw [noRows]
      rfl
  | cons column rest =>
      rw [columns] at inTable
      have all : rows.filter (· < column.size) = rows :=
        List.filter_eq_self.2 fun row member => decide_eq_true (inTable row member)
      rw [List.map_cons, rowCountOf, Column.pick_size, all]

/-! ## Picking with success and without -/

theorem selectRows_eq_ok_iff :
    (table.selectRows rows).outcome = .ok picked ↔
      (∀ row ∈ rows, row < table.rowCount) ∧ ShowsRows table picked rows := by
  constructor
  · intro selected
    cases outside : rows.find? fun row => table.rowCount ≤ row with
    | none =>
        have inTable := noneOutside_iff.1 outside
        rw [outcome_selectRows inTable] at selected
        cases selected
        exact ⟨inTable, showsRows_pick inTable⟩
    | some row =>
        rw [outcome_selectRows_of_outside outside] at selected
        cases selected
  · rintro ⟨inTable, shows⟩
    rw [outcome_selectRows inTable, shows.unique (showsRows_pick inTable)]

/-- The first row that the table does not have is the error. -/
theorem selectRows_eq_error_iff {error : TableError} :
    (table.selectRows rows).outcome = .error error ↔
      ∃ before row after, rows = before ++ row :: after ∧
        (∀ earlier ∈ before, earlier < table.rowCount) ∧ table.rowCount ≤ row ∧
          error = .rowOutOfRange table.name row table.rowCount := by
  constructor
  · intro failed
    cases outside : rows.find? fun row => table.rowCount ≤ row with
    | none =>
        rw [outcome_selectRows (noneOutside_iff.1 outside)] at failed
        cases failed
    | some row =>
        rw [outcome_selectRows_of_outside outside] at failed
        cases failed
        obtain ⟨isOutside, before, after, rowsEq, inside⟩ :=
          List.find?_eq_some_iff_append.1 outside
        exact ⟨before, row, after, rowsEq, by simpa using inside, by simpa using isOutside, rfl⟩
  · rintro ⟨before, row, after, rfl, inside, isOutside, rfl⟩
    apply outcome_selectRows_of_outside
    apply List.find?_eq_some_iff_append.2
    exact ⟨by simpa using isOutside, before, after, rfl, by simpa using inside⟩

/-- Picking rows of picked rows is picking them directly. -/
theorem selectRows_places (selected : (table.selectRows rows).outcome = .ok picked)
    (places : List (Fin rows.length)) :
    (picked.selectRows (places.map Fin.val)).outcome =
      (table.selectRows (places.map rows.get)).outcome := by
  obtain ⟨inTable, shows⟩ := selectRows_eq_ok_iff.1 selected
  have direct : ∀ row ∈ places.map rows.get, row < table.rowCount := by
    intro row member
    obtain ⟨place, _, rfl⟩ := List.mem_map.1 member
    exact inTable _ (List.get_mem rows place)
  have inPicked : ∀ row ∈ places.map Fin.val, row < picked.rowCount := by
    intro row member
    obtain ⟨place, _, rfl⟩ := List.mem_map.1 member
    rw [shows.unique (showsRows_pick inTable), rowCount_pick inTable]
    exact place.isLt
  rw [outcome_selectRows direct]
  exact selectRows_eq_ok_iff.2 ⟨inPicked, shows.of_places (showsRows_pick direct)⟩

/-- Copying a table in storage row by row has the same outcome. -/
theorem outcome_selectRows_stored (table : Table) (rows : List Nat) :
    (table.stored.selectRows rows).outcome =
      (table.selectRows rows).outcome.map fun picked => some picked.stored := by
  rw [StoredTable.selectRows_stored, map_eq_pure_bind, Work.outcome_bind]
  cases (table.selectRows rows).outcome <;> rfl

/-- Rows are picked exactly if all of them exist, and then the table keeps its name and its
declarations and shows the cells of these rows in their order; otherwise the first row that
does not exist is the error. Picking again comes to picking the rows of the table, picking
every row in turn comes to the table itself, and copying row by row to the same. -/
theorem selectRows_shows_and_composes (table : Table) :
    (∀ rows picked, (table.selectRows rows).outcome = .ok picked ↔
        (∀ row ∈ rows, row < table.rowCount) ∧ ShowsRows table picked rows) ∧
      (∀ rows error, (table.selectRows rows).outcome = .error error ↔
        ∃ before row after, rows = before ++ row :: after ∧
          (∀ earlier ∈ before, earlier < table.rowCount) ∧ table.rowCount ≤ row ∧
            error = .rowOutOfRange table.name row table.rowCount) ∧
      (∀ rows picked, (table.selectRows rows).outcome = .ok picked →
        ∀ places : List (Fin rows.length),
          (picked.selectRows (places.map Fin.val)).outcome =
            (table.selectRows (places.map rows.get)).outcome) ∧
      (table.selectRows (List.range table.rowCount)).outcome = .ok table ∧
      ∀ rows, (table.stored.selectRows rows).outcome =
        (table.selectRows rows).outcome.map fun picked => some picked.stored := by
  refine ⟨fun rows picked => selectRows_eq_ok_iff, fun rows error => selectRows_eq_error_iff,
    fun rows picked => selectRows_places, ?_, outcome_selectRows_stored table⟩
  apply selectRows_eq_ok_iff.2
  constructor
  · intro row member
    exact List.mem_range.1 member
  · exact showsRows_range table

/-- Rows in another order and with a repetition, and of these the last two, the other way
around. -/
theorem selectRows_measures :
    (StoredTable.measures.selectRows [1, 0, 1]).outcome =
        .ok (StoredTable.measures.pick [1, 0, 1]) ∧
      ShowsRows StoredTable.measures (StoredTable.measures.pick [1, 0, 1]) [1, 0, 1] ∧
      ((StoredTable.measures.pick [1, 0, 1]).selectRows [2, 1]).outcome =
        (StoredTable.measures.selectRows [1, 0]).outcome := by
  obtain ⟨picks, _, composes, _, _⟩ := selectRows_shows_and_composes StoredTable.measures
  have selected : (StoredTable.measures.selectRows [1, 0, 1]).outcome =
      .ok (StoredTable.measures.pick [1, 0, 1]) := rfl
  exact ⟨selected, ((picks _ _).1 selected).2, composes _ _ selected [2, 1]⟩

end Table

end Tabula
