import Mathlib.Data.List.Perm.Subperm
import Tabula.Proofs.Table.PickedRows

/-!
# Kept columns

Keeping columns succeeds for names that are names of columns. What is kept is then a matter
of the set of names: the columns of these names, with all their cells and in the order of
the table. So keeping fewer of the kept columns is keeping these at once, and it makes no
difference whether columns are kept before or after rows are picked, as long as a column is
kept at all: a table without columns has no rows.
-/

namespace Tabula.Table

variable {table kept : Table} {names : List String}

/-- Whether a table shows the columns of another table that have one of the names. -/
structure ShowsColumns (table kept : Table) (names : List String) : Prop where
  name_eq : kept.name = table.name
  sublist : kept.columns.Sublist table.columns
  mem_iff : ∀ column ∈ table.columns, column ∈ kept.columns ↔ column.name ∈ names

theorem showsColumns_keep (table : Table) (names : List String) :
    ShowsColumns table (table.keep names) names where
  name_eq := rfl
  sublist := List.filter_sublist
  mem_iff := by
    intro column member
    simp [keep, member]

/-- The table of the columns of some names is determined by the names. -/
theorem ShowsColumns.eq_keep (shows : ShowsColumns table kept names) :
    kept = table.keep names := by
  -- Both are parts of a list without repetitions, in its order, and have the same members.
  have inNames : kept.columns.filter (fun column => names.contains column.name) = kept.columns := by
    apply List.filter_eq_self.2
    intro column member
    simpa using (shows.mem_iff column (shows.sublist.subset member)).1 member
  have sublist : kept.columns.Sublist (table.keep names).columns :=
    inNames ▸ shows.sublist.filter _
  have nodup : (table.keep names).columns.Nodup := (table.keep names).sound.distinct.of_map
  have allKept : (table.keep names).columns ⊆ kept.columns := by
    intro column member
    have inTable := (showsColumns_keep table names).sublist.subset member
    exact (shows.mem_iff column inTable).2
      (((showsColumns_keep table names).mem_iff column inTable).1 member)
  have columnsEq := sublist.eq_of_length_le (nodup.subperm allKept).length_le
  exact eq_of_parts shows.name_eq columnsEq

/-! ## Keeping with success and without -/

theorem selectFields_eq_ok_iff_shows :
    table.selectFields names = .ok kept ↔
      table.HasColumns names ∧ ShowsColumns table kept names := by
  rw [selectFields_eq_ok_iff]
  constructor
  · rintro ⟨exist, rfl⟩
    exact ⟨exist, showsColumns_keep table names⟩
  · rintro ⟨exist, shows⟩
    exact ⟨exist, shows.eq_keep⟩

theorem isNone_position?_iff {name : String} :
    (table.position? name).isNone = true ↔ ∀ column ∈ table.columns, column.name ≠ name := by
  simp [position?]

/-- The first name that no column has is the error. -/
theorem selectFields_eq_error_iff {error : TableError} :
    table.selectFields names = .error error ↔
      ∃ before name after, names = before ++ name :: after ∧ table.HasColumns before ∧
        (∀ column ∈ table.columns, column.name ≠ name) ∧
          error = .columnNotFound table.name name := by
  constructor
  · intro failed
    rw [selectFields] at failed
    cases found : names.find? fun name => (table.position? name).isNone with
    | none =>
        rw [found] at failed
        cases failed
    | some name =>
        rw [found] at failed
        cases failed
        obtain ⟨missing, before, after, namesEq, exist⟩ := List.find?_eq_some_iff_append.1 found
        have noneMissing : before.find? (fun name => (table.position? name).isNone) = none := by
          apply List.find?_eq_none.2
          intro other member isMissing
          have isThere := exist other member
          rw [isMissing] at isThere
          cases isThere
        exact ⟨before, name, after, namesEq, hasColumns_iff.2 noneMissing,
          isNone_position?_iff.1 missing, rfl⟩
  · rintro ⟨before, name, after, rfl, exist, missing, rfl⟩
    have found : (before ++ name :: after).find? (fun name => (table.position? name).isNone) =
        some name := by
      rw [List.find?_append, hasColumns_iff.1 exist, Option.none_or]
      exact List.find?_cons_of_pos (isNone_position?_iff.2 missing)
    rw [selectFields, found]

/-- Only the set of the names matters for what is kept. -/
theorem selectFields_eq_ok_congr {others : List String}
    (sameNames : ∀ name, name ∈ others ↔ name ∈ names) :
    table.selectFields others = .ok kept ↔ table.selectFields names = .ok kept := by
  have sameKept : table.keep others = table.keep names := by
    apply ShowsColumns.eq_keep
    constructor
    · rfl
    · exact (showsColumns_keep table others).sublist
    · intro column member
      rw [(showsColumns_keep table others).mem_iff column member, sameNames]
  simp only [selectFields_eq_ok_iff, HasColumns, sameNames, sameKept]

/-! ## Keeping and picking one after the other -/

theorem hasColumns_keep {fewer : List String} (exist : table.HasColumns fewer)
    (subset : fewer ⊆ names) : (table.keep names).HasColumns fewer := by
  intro name member
  obtain ⟨column, inTable, rfl⟩ := exist name member
  exact ⟨column, ((showsColumns_keep table names).mem_iff column inTable).2 (subset member), rfl⟩

/-- Keeping fewer of the kept columns is keeping these at once. -/
theorem selectFields_fewer {fewer : List String} (selected : table.selectFields names = .ok kept)
    (subset : fewer ⊆ names) : kept.selectFields fewer = table.selectFields fewer := by
  obtain ⟨exist, rfl⟩ := selectFields_eq_ok_iff.1 selected
  have fewerExist : table.HasColumns fewer := fun name member => exist name (subset member)
  have direct : table.selectFields fewer = .ok (table.keep fewer) :=
    selectFields_eq_ok_iff.2 ⟨fewerExist, rfl⟩
  rw [direct]
  apply selectFields_eq_ok_iff.2
  refine ⟨hasColumns_keep fewerExist subset, eq_of_parts rfl ?_⟩
  change _ = (table.columns.filter _).filter _
  rw [List.filter_filter]
  apply List.filter_congr
  intro column _
  by_cases inFewer : column.name ∈ fewer
  · simp [inFewer, subset inFewer]
  · simp [inFewer]

/-- Picked rows have the columns of the table. -/
theorem selectFields_pick (table : Table) (names : List String) (rows : List Nat) :
    (table.pick rows).selectFields names = (table.selectFields names).map (·.pick rows) := by
  cases selected : table.selectFields names with
  | error error =>
      obtain ⟨before, name, after, rfl, exist, missing, rfl⟩ := selectFields_eq_error_iff.1 selected
      apply selectFields_eq_error_iff.2
      refine ⟨before, name, after, rfl, (hasColumns_pick rows).2 exist, ?_, rfl⟩
      intro column member
      obtain ⟨source, inTable, rfl⟩ := List.mem_map.1 member
      exact missing source inTable
  | ok kept =>
      obtain ⟨exist, rfl⟩ := selectFields_eq_ok_iff.1 selected
      exact selectFields_eq_ok_iff.2 ⟨(hasColumns_pick rows).2 exist, (keep_pick rows).symm⟩

/-- A column that is kept has all rows. -/
theorem rowCount_keep (exist : table.HasColumns names) (nonempty : names ≠ []) :
    (table.keep names).rowCount = table.rowCount := by
  obtain ⟨name, member⟩ := List.exists_mem_of_ne_nil names nonempty
  obtain ⟨column, inTable, rfl⟩ := exist name member
  have isKept : column ∈ (table.keep names).columns :=
    ((showsColumns_keep table names).mem_iff column inTable).2 member
  rw [← size_eq_rowCount isKept, size_eq_rowCount inTable]

theorem selectFields_selectRows_comm {rows : List Nat} (nonempty : names ≠ [])
    (inTable : ∀ row ∈ rows, row < table.rowCount) :
    ((table.selectFields names).bind fun kept => (kept.selectRows rows).outcome) =
      (table.selectRows rows).outcome.bind fun picked => picked.selectFields names := by
  rw [outcome_selectRows inTable]
  change _ = (table.pick rows).selectFields names
  rw [selectFields_pick]
  cases selected : table.selectFields names with
  | error error => rfl
  | ok kept =>
      obtain ⟨exist, rfl⟩ := selectFields_eq_ok_iff.1 selected
      exact outcome_selectRows (rowCount_keep exist nonempty ▸ inTable)

/-- Columns are kept exactly if all names are names of columns, and then the table keeps its
name and shows the columns of these names in its own order; otherwise the first name that
no column has is the error. Only the set of names matters for what is kept, keeping fewer
of the kept columns is keeping these at once, and if any column is asked for, rows may be
picked before or after. -/
theorem selectFields_shows_and_commutes (table : Table) (names : List String) :
    (∀ kept, table.selectFields names = .ok kept ↔
        table.HasColumns names ∧ ShowsColumns table kept names) ∧
      (∀ error, table.selectFields names = .error error ↔
        ∃ before name after, names = before ++ name :: after ∧ table.HasColumns before ∧
          (∀ column ∈ table.columns, column.name ≠ name) ∧
            error = .columnNotFound table.name name) ∧
      (∀ others, (∀ name, name ∈ others ↔ name ∈ names) → ∀ kept,
        table.selectFields others = .ok kept ↔ table.selectFields names = .ok kept) ∧
      (∀ kept, table.selectFields names = .ok kept → ∀ fewer, fewer ⊆ names →
        kept.selectFields fewer = table.selectFields fewer) ∧
      (names ≠ [] → ∀ rows, (∀ row ∈ rows, row < table.rowCount) →
        ((table.selectFields names).bind fun kept => (kept.selectRows rows).outcome) =
          (table.selectRows rows).outcome.bind fun picked => picked.selectFields names) := by
  refine ⟨fun kept => selectFields_eq_ok_iff_shows, fun error => selectFields_eq_error_iff,
    ?_, ?_, ?_⟩
  · intro others sameNames kept
    exact selectFields_eq_ok_congr sameNames
  · intro kept selected fewer subset
    exact selectFields_fewer selected subset
  · intro nonempty rows inTable
    exact selectFields_selectRows_comm nonempty inTable

/-- Both columns in another order and with a repetition, one of them, and rows of both. -/
theorem selectFields_measures :
    StoredTable.measures.selectFields ["unit", "amount"] =
        .ok (StoredTable.measures.keep ["unit", "amount"]) ∧
      StoredTable.measures.selectFields ["unit", "amount", "amount"] =
        .ok (StoredTable.measures.keep ["unit", "amount"]) ∧
      (StoredTable.measures.keep ["unit", "amount"]).selectFields ["unit"] =
        StoredTable.measures.selectFields ["unit"] ∧
      ((StoredTable.measures.selectFields ["unit", "amount"]).bind
          fun kept => (kept.selectRows [1, 1]).outcome) =
        (StoredTable.measures.selectRows [1, 1]).outcome.bind
          fun picked => picked.selectFields ["unit", "amount"] := by
  obtain ⟨_, _, sameSet, fewer, commutes⟩ :=
    selectFields_shows_and_commutes StoredTable.measures ["unit", "amount"]
  have selected : StoredTable.measures.selectFields ["unit", "amount"] =
      .ok (StoredTable.measures.keep ["unit", "amount"]) := rfl
  have repeated := (sameSet ["unit", "amount", "amount"] (by simp) _).2 selected
  exact ⟨selected, repeated, fewer _ selected ["unit"] (by simp),
    commutes (by simp) [1, 1] (by decide)⟩

/-- Without a column there is no row left to pick. -/
example : ((StoredTable.measures.selectFields []).bind
    fun kept => (kept.selectRows [0]).outcome) = .error (.rowOutOfRange "measures" 0 0) := rfl

end Tabula.Table
