import Tabula.Box
import Tabula.Proofs.Query.Execution
import Tabula.Proofs.Table.Cancellation

/-!
# Cancellation of queries

A statement is executed all or nothing: however deep in the filter or late in the
projection the flag is raised, no part of a result is taken for the whole, and a failure
found before is not hidden. The same holds of drawing a table. A flag raised beforehand
stops every statement on a table that has rows and none on a table that has no rows.
-/

namespace Tabula

open Polled (Heeds)

namespace Value

/-- Comparing is never cancelled. -/
theorem compare_ne_cancelled (cell literal : Value) (comparison : Comparison) :
    cell.compare literal comparison ≠ .error .cancelled := by
  intro compared
  unfold compare at compared
  split at compared
  · cases compared
  · split at compared <;> cases compared
  · cases compared

end Value

namespace Table

variable {table : Table}

theorem column_ne_cancelled (name : String) : table.column name ≠ .error .cancelled := by
  intro found
  unfold column at found
  split at found <;> cases found

theorem selectFields_ne_cancelled (names : List String) :
    table.selectFields names ≠ .error .cancelled := by
  intro selected
  unfold selectFields at selected
  split at selected <;> cases selected

theorem heedsFlag_checkRows (rows : List Nat) : (table.checkRows rows).HeedsFlag := by
  induction rows with
  | nil => exact Work.heedsFlag_pure ()
  | cons row rest ih =>
      refine Work.heedsFlag_check.bind fun _ => ?_
      split
      · exact Work.heedsFlag_throw nofun
      · exact ih

theorem heedsFlag_selectRows (rows : List Nat) : (table.selectRows rows).HeedsFlag :=
  (heedsFlag_checkRows rows).bind fun _ => Work.heedsFlag_pure (table.pick rows)

end Table

namespace Query

namespace Filter

variable {table : Table}

theorem heedsFlag_scan (comparison : Comparison) (literal : Value) (found : List Nat) (row : Nat)
    (cells : List Value) : (scan comparison literal found row cells).HeedsFlag := by
  induction cells generalizing found row with
  | nil => exact Work.heedsFlag_pure found.reverse
  | cons cell rest ih =>
      refine Work.heedsFlag_check.bind fun _ => ?_
      refine (Work.heedsFlag_ofExcept
        (cell.compare_ne_cancelled literal comparison)).bind fun holds => ?_
      split
      · exact ih (row :: found) (row + 1)
      · exact ih found (row + 1)

theorem heedsFlag_rows (filter : Filter) : (filter.rows table).HeedsFlag := by
  induction filter with
  | everything => exact Work.heedsFlag_pure (List.range table.rowCount)
  | compare field comparison literal =>
      refine (Work.heedsFlag_ofExcept (table.column_ne_cancelled field)).bind fun column => ?_
      exact heedsFlag_scan comparison literal [] 0 column.cells.toList
  | both left right leftHeeds rightHeeds =>
      refine leftHeeds.bind fun leftRows => ?_
      split
      · exact Work.heedsFlag_pure leftRows
      · refine rightHeeds.bind fun rightRows => ?_
        split
        · exact Work.heedsFlag_pure rightRows
        · exact Work.heedsFlag_pure (RowSet.intersection leftRows rightRows)
  | either left right leftHeeds rightHeeds =>
      refine leftHeeds.bind fun leftRows => ?_
      refine rightHeeds.bind fun rightRows => ?_
      split
      · exact Work.heedsFlag_pure rightRows
      · split
        · exact Work.heedsFlag_pure leftRows
        · exact Work.heedsFlag_pure (RowSet.union leftRows rightRows)

end Filter

theorem heedsFlag_project (table : Table) (rows : List Nat) (fields : Option (List String)) :
    (project table rows fields).HeedsFlag := by
  refine (table.heedsFlag_selectRows rows).bind fun picked => ?_
  cases fields with
  | none => exact Work.heedsFlag_pure picked
  | some names => exact Work.heedsFlag_ofExcept (picked.selectFields_ne_cancelled names)

namespace QueryError

theorem ofEvaluation_ne_cancelled {error : TableError} (notCancelled : error ≠ .cancelled) :
    ofEvaluation error ≠ .cancelled := by
  simp [ofEvaluation, notCancelled]

theorem ofProjection_ne_cancelled {error : TableError} (notCancelled : error ≠ .cancelled) :
    ofProjection error ≠ .cancelled := by
  simp [ofProjection, notCancelled]

/-- A cancellation is always reported as such. -/
theorem ofEvaluation_ne (error : TableError) :
    ofEvaluation error ≠ .evaluation .cancelled ∧ ofEvaluation error ≠ .projection .cancelled := by
  by_cases isCancelled : error = .cancelled <;> simp [ofEvaluation, isCancelled]

theorem ofProjection_ne (error : TableError) :
    ofProjection error ≠ .evaluation .cancelled ∧ ofProjection error ≠ .projection .cancelled := by
  by_cases isCancelled : error = .cancelled <;> simp [ofProjection, isCancelled]

end QueryError

namespace Statement

variable {table : Table}

theorem heeds_execute (statement : Statement) (table : Table) :
    Heeds QueryError.cancelled (statement.execute table) := by
  rw [execute]
  refine Heeds.bind statement.filter.heedsFlag_rows ?_ ?_
  · rfl
  · intro evaluated evaluatedNe
    cases evaluated with
    | error error =>
        have notCancelled : error ≠ .cancelled := fun same => evaluatedNe (congrArg Except.error same)
        exact .done fun same =>
          QueryError.ofEvaluation_ne_cancelled notCancelled (Except.error.inj same)
    | ok rows =>
        refine Heeds.bind (heedsFlag_project table rows statement.projection) ?_ ?_
        · rfl
        · intro projected projectedNe
          cases projected with
          | error error =>
              have notCancelled : error ≠ .cancelled :=
                fun same => projectedNe (congrArg Except.error same)
              exact .done fun same =>
                QueryError.ofProjection_ne_cancelled notCancelled (Except.error.inj same)
          | ok answer =>
              apply Heeds.done
              intro same
              cases same

end Statement

end Query

namespace Box

theorem heedsFlag_checkTimes (count : Nat) : (checkTimes count).HeedsFlag := by
  induction count with
  | zero => exact Work.heedsFlag_pure ()
  | succ count ih => exact Work.heedsFlag_check.bind fun _ => ih

theorem heedsFlag_render (table : Table) : (render table).HeedsFlag := by
  unfold render
  split
  · exact Work.heedsFlag_pure ""
  · exact (heedsFlag_checkTimes table.rowCount).bind fun _ => Work.heedsFlag_pure (draw table)

theorem outcome_checkTimes (count : Nat) : (checkTimes count).outcome = .ok () := by
  induction count with
  | zero => rfl
  | succ count ih => rw [checkTimes, Work.outcome_bind, Work.outcome_check, Except.bind, ih]

/-- What is drawn without cancellation is the complete drawing. -/
theorem outcome_render (table : Table) : (render table).outcome = .ok (draw table) := by
  unfold render
  split
  · rename_i noColumns
    rw [draw, if_pos noColumns]
    rfl
  · rw [Work.outcome_bind, outcome_checkTimes]
    rfl

end Box

namespace Query

/-! ## A flag raised beforehand -/

namespace Filter

variable {table : Table}

theorem isSilent_rows (noRows : table.rowCount = 0) (filter : Filter) :
    (filter.rows table).IsSilent := by
  induction filter with
  | everything => exact Work.isSilent_pure (List.range table.rowCount)
  | compare field comparison literal =>
      refine (Work.isSilent_ofExcept _).bind fun column found => ?_
      have isColumn : table.column field = .ok column := Polled.done.inj found
      have length : column.cells.toList.length = table.rowCount :=
        table.size_eq_rowCount (Table.column_eq_ok_iff.1 isColumn).1
      have noCells : column.cells.toList = [] := List.eq_nil_of_length_eq_zero (length.trans noRows)
      rw [noCells]
      exact Work.isSilent_pure _
  | both left right leftSilent rightSilent =>
      refine leftSilent.bind fun leftRows _ => ?_
      split
      · exact Work.isSilent_pure leftRows
      · refine rightSilent.bind fun rightRows _ => ?_
        split
        · exact Work.isSilent_pure rightRows
        · exact Work.isSilent_pure (RowSet.intersection leftRows rightRows)
  | either left right leftSilent rightSilent =>
      refine leftSilent.bind fun leftRows _ => ?_
      refine rightSilent.bind fun rightRows _ => ?_
      split
      · exact Work.isSilent_pure rightRows
      · split
        · exact Work.isSilent_pure leftRows
        · exact Work.isSilent_pure (RowSet.union leftRows rightRows)

/-- A filter that makes no comparison at all keeps every row. -/
theorem eq_range_of_run_rows (hasRows : 0 < table.rowCount) {filter : Filter} {rows : List Nat}
    (done : ExceptT.run (filter.rows table) = .done (.ok rows)) :
    rows = List.range table.rowCount := by
  have notEmpty : (List.range table.rowCount).isEmpty = false := by
    simp [Nat.ne_of_gt hasRows]
  induction filter generalizing rows with
  | everything => exact (Except.ok.inj (Polled.done.inj done)).symm
  | compare field comparison literal =>
      obtain ⟨column, found, scanned⟩ := Work.run_bind_eq_done_iff.1 done
      have isColumn : table.column field = .ok column := Polled.done.inj found
      have length : column.cells.toList.length = table.rowCount :=
        table.size_eq_rowCount (Table.column_eq_ok_iff.1 isColumn).1
      obtain ⟨first, rest, cellsEq⟩ := List.exists_cons_of_length_pos (length ▸ hasRows)
      rw [cellsEq] at scanned
      cases scanned
  | both left right leftRange rightRange =>
      obtain ⟨leftRows, leftDone, afterLeft⟩ := Work.run_bind_eq_done_iff.1 done
      obtain rfl := leftRange leftDone
      rw [if_neg (by simp [notEmpty])] at afterLeft
      obtain ⟨rightRows, rightDone, afterRight⟩ := Work.run_bind_eq_done_iff.1 afterLeft
      obtain rfl := rightRange rightDone
      rw [if_neg (by simp [notEmpty])] at afterRight
      rw [← Except.ok.inj (Polled.done.inj afterRight), RowSet.intersection_eq_filter]
      simp
  | either left right leftRange rightRange =>
      obtain ⟨leftRows, leftDone, afterLeft⟩ := Work.run_bind_eq_done_iff.1 done
      obtain rfl := leftRange leftDone
      obtain ⟨rightRows, rightDone, afterRight⟩ := Work.run_bind_eq_done_iff.1 afterLeft
      obtain rfl := rightRange rightDone
      rw [if_neg (by simp [notEmpty]), if_neg (by simp [notEmpty])] at afterRight
      rw [← Except.ok.inj (Polled.done.inj afterRight)]
      exact RowSet.union_self List.pairwise_lt_range

end Filter

theorem isSilent_project_nil (table : Table) (fields : Option (List String)) :
    (project table [] fields).IsSilent := by
  cases fields with
  | none => exact ⟨.ok (table.pick []), rfl⟩
  | some names => exact ⟨(table.pick []).selectFields names, rfl⟩

namespace Statement

variable {table : Table}

theorem exists_execute_eq_done (noRows : table.rowCount = 0) (statement : Statement) :
    ∃ result, statement.execute table = .done result := by
  obtain ⟨evaluated, rowsDone⟩ := Filter.isSilent_rows noRows statement.filter
  cases evaluated with
  | error error =>
      refine ⟨.error (.ofEvaluation error), ?_⟩
      rw [execute, rowsDone]
      rfl
  | ok rows =>
      have worked : (statement.filter.rows table).outcome = .ok rows := by
        rw [Work.outcome, rowsDone]
        rfl
      obtain ⟨_, rowsEq⟩ := Filter.fault?_eq_none_of_outcome worked
      have noneFound : rows = [] := by
        rw [rowsEq, Filter.satisfying, noRows]
        rfl
      obtain ⟨projected, projectDone⟩ := isSilent_project_nil table statement.projection
      rw [execute, rowsDone, Polled.done_bind, noneFound]
      cases projected with
      | error error => exact ⟨.error (.ofProjection error), by simp only [projectDone]; rfl⟩
      | ok answer => exact ⟨.ok answer, by simp only [projectDone]; rfl⟩

/-- Either the filter polls, or it keeps all rows and the projection polls. -/
theorem execute_ne_done (hasRows : 0 < table.rowCount) (statement : Statement) (result : Table) :
    statement.execute table ≠ .done (.ok result) := by
  intro done
  rw [execute, Polled.bind_eq_done_iff] at done
  obtain ⟨evaluated, rowsDone, afterRows⟩ := done
  cases evaluated with
  | error error => cases afterRows
  | ok rows =>
      obtain rfl := Filter.eq_range_of_run_rows hasRows rowsDone
      obtain ⟨projected, projectDone, _⟩ := Polled.bind_eq_done_iff.1 afterRows
      obtain ⟨first, rest, rangeEq⟩ := List.exists_cons_of_length_pos
        (List.length_range.symm ▸ hasRows : 0 < (List.range table.rowCount).length)
      rw [rangeEq] at projectDone
      cases projectDone

/-- A cancellation is never reported as a failure of the filter or of the projection. -/
theorem runLowered_execute_ne (statement : Statement) (table : Table) :
    (statement.execute table).runLowered ≠ .error (.evaluation .cancelled) ∧
      (statement.execute table).runLowered ≠ .error (.projection .cancelled) := by
  rw [runLowered_execute]
  cases (statement.filter.rows table).outcome with
  | error error =>
      have reported := QueryError.ofEvaluation_ne error
      simp [Except.mapError, Except.bind, reported]
  | ok rows =>
      simp only [Except.mapError, Except.bind]
      cases (project table rows statement.projection).outcome with
      | error error =>
          have reported := QueryError.ofProjection_ne error
          simp [reported]
      | ok answer => simp

end Statement

open Polled (AllOrNothing)

/-- Whatever the flag answers and whenever it is raised, executing a statement and drawing
a table are all or nothing, and a cancellation is reported as such. A flag that is raised
beforehand leaves no result of a table that has rows and changes nothing otherwise. -/
theorem allOrNothing_execute_and_render :
    (∀ (statement : Statement) (table : Table),
      AllOrNothing QueryError.cancelled (statement.execute table) ∧
        (∀ answers,
          (statement.execute table).run answers ≠ .error (.evaluation .cancelled) ∧
            (statement.execute table).run answers ≠ .error (.projection .cancelled)) ∧
        (0 < table.rowCount → ∀ result, (statement.execute table).runWith true ≠ .ok result) ∧
        (table.rowCount = 0 →
          (statement.execute table).runWith true = (statement.execute table).runLowered)) ∧
      ∀ table : Table,
        AllOrNothing TableError.cancelled (ExceptT.run (Box.render table)) ∧
          (Box.render table).outcome = .ok (Box.draw table) := by
  constructor
  · intro statement table
    have heeds := statement.heeds_execute table
    refine ⟨heeds.allOrNothing, ?_, ?_, ?_⟩
    · intro answers
      obtain ⟨cancelledIff, otherwise⟩ := heeds.allOrNothing answers
      by_cases raised : true ∈ (statement.execute table).heard answers
      · rw [cancelledIff.2 raised]
        simp
      · rw [otherwise raised]
        exact statement.runLowered_execute_ne table
    · intro hasRows result ran
      exact statement.execute_ne_done hasRows result (heeds.eq_done_of_runWith ran)
    · intro noRows
      obtain ⟨result, done⟩ := statement.exists_execute_eq_done noRows
      exact Polled.run_eq_runLowered_of_done done _
  · intro table
    exact ⟨(Box.heedsFlag_render table).allOrNothing, Box.outcome_render table⟩

/-- A statement that goes through three rows and takes two of them. -/
def redOnes : Statement := ⟨.all, "colours", .compare "name" .equal (.text "red")⟩

/-- The flag is raised before the last of five polls, before all of them, or where there
are none. -/
theorem allOrNothing_redOnes :
    true ∈ (redOnes.execute Filter.colours).heard (fun index => 4 ≤ index) ∧
      (redOnes.execute Filter.colours).runRaisedAfter 4 = .error .cancelled ∧
      true ∉ (redOnes.execute Filter.colours).heard (fun index => 5 ≤ index) ∧
      (redOnes.execute Filter.colours).runRaisedAfter 5 =
        (redOnes.execute Filter.colours).runLowered ∧
      0 < Filter.colours.rowCount ∧
      (∀ result, (redOnes.execute Filter.colours).runWith true ≠ .ok result) ∧
      (Filter.colours.pick []).rowCount = 0 ∧
      (redOnes.execute (Filter.colours.pick [])).runWith true =
        (redOnes.execute (Filter.colours.pick [])).runLowered := by
  obtain ⟨whole, _, withRows, _⟩ := allOrNothing_execute_and_render.1 redOnes Filter.colours
  have heard : true ∈ (redOnes.execute Filter.colours).heard (fun index => 4 ≤ index) := by decide
  have notHeard : true ∉ (redOnes.execute Filter.colours).heard (fun index => 5 ≤ index) := by
    decide
  have hasRows : 0 < Filter.colours.rowCount := by decide
  exact ⟨heard, (whole _).1.2 heard, notHeard, (whole _).2 notHeard, hasRows, withRows hasRows,
    rfl, (allOrNothing_execute_and_render.1 redOnes (Filter.colours.pick [])).2.2.2 rfl⟩

end Query

end Tabula
