import Tabula.Proofs.Table.Storage

/-!
# Derived tables

Of the stored tables that come from new ones by picking rows and keeping columns, all
are sound, the map names the place of every column, and whatever is fetched is there. So
they stand for tables, although none of them but the first has been checked.
-/

namespace Tabula

namespace StoredTable

/-- The stored tables that come from a new one by picking rows and keeping columns, with
success each time and whatever the flag answers in between. -/
inductive Derived : StoredTable → Prop
  | new {name : String} {columns : List Column} {stored : StoredTable}
      (created : create name columns = .ok stored) : Derived stored
  | rows {stored picked : StoredTable} {rows : List Nat} {answers : Nat → Bool}
      (derived : Derived stored)
      (selected : (stored.selectRows rows).run.run answers = .ok (some picked)) : Derived picked
  | fields {stored kept : StoredTable} {names : List String} (derived : Derived stored)
      (selected : stored.selectFields names = .ok kept) : Derived kept

/-- What makes the unchecked operations on a stored table safe. -/
structure Consistent (stored : StoredTable) : Prop where
  sound : SoundColumns stored.columns
  placed : ∀ name place, stored.position? name = some place ↔
    ∃ column, stored.columns[place]? = some column ∧ column.name = name
  columnFound : ∀ name, stored.column name ≠ none
  cellsFound : ∀ rows answers, (stored.selectRows rows).run.run answers ≠ .ok none
  accepted : create stored.name stored.columns = .ok stored

/-- A stored table stands for a table if the operations on both come to the same. -/
structure StandsFor (stored : StoredTable) (table : Table) : Prop where
  stored_eq : stored = table.stored
  column_eq : ∀ name, stored.column name = some (table.column name)
  selectRows_eq : ∀ rows, stored.selectRows rows =
    (fun picked => some picked.stored) <$> table.selectRows rows
  selectFields_eq : ∀ names, stored.selectFields names = (table.selectFields names).map Table.stored

variable (table : Table)

theorem create_stored : create table.name table.columns = .ok table.stored := by
  rw [create_eq, Table.ofColumns_eq_ok table.sound]
  rfl

theorem standsFor_stored : table.stored.StandsFor table where
  stored_eq := rfl
  column_eq := column_stored table
  selectRows_eq := selectRows_stored table
  selectFields_eq := selectFields_stored table

theorem run_selectRows_stored (rows : List Nat) (answers : Nat → Bool) :
    (table.stored.selectRows rows).run.run answers =
      ((table.selectRows rows).run.run answers).map fun picked => some picked.stored := by
  rw [selectRows_stored, ExceptT.run_map, Polled.run_map]

theorem consistent_stored : table.stored.Consistent where
  sound := table.sound
  placed := by
    intro name place
    rw [position?_stored]
    exact position?_eq_some_iff table
  columnFound := by
    intro name
    rw [column_stored]
    exact Option.some_ne_none _
  cellsFound := by
    intro rows answers
    rw [run_selectRows_stored]
    cases (table.selectRows rows).run.run answers <;> simp [Except.map]
  accepted := create_stored table

/-- Every derived stored table is a table in storage. -/
theorem Derived.exists_table {stored : StoredTable} (derived : Derived stored) :
    ∃ table : Table, stored = table.stored := by
  induction derived with
  | @new name columns stored created =>
      rw [create_eq] at created
      cases checked : Table.ofColumns name columns with
      | error error =>
          rw [checked] at created
          cases created
      | ok table =>
          rw [checked] at created
          exact ⟨table, (Except.ok.inj created).symm⟩
  | @rows stored picked rows answers _ selected ih =>
      obtain ⟨table, rfl⟩ := ih
      rw [run_selectRows_stored] at selected
      cases result : (table.selectRows rows).run.run answers with
      | error error =>
          rw [result] at selected
          cases selected
      | ok next =>
          rw [result] at selected
          exact ⟨next, (Option.some.inj (Except.ok.inj selected)).symm⟩
  | @fields stored kept names _ selected ih =>
      obtain ⟨table, rfl⟩ := ih
      rw [selectFields_stored] at selected
      cases result : table.selectFields names with
      | error error =>
          rw [result] at selected
          cases selected
      | ok next =>
          rw [result] at selected
          exact ⟨next, (Except.ok.inj selected).symm⟩

/-- Columns can be stored as a new table exactly if they are sound. Whatever is derived
from a new table without a check is consistent and stands for a table. -/
theorem create_iff_and_derived_consistent :
    (∀ name columns, (∃ stored, create name columns = .ok stored) ↔ SoundColumns columns) ∧
      ∀ stored, Derived stored → stored.Consistent ∧ ∃ table, stored.StandsFor table := by
  constructor
  · intro name columns
    constructor
    · rintro ⟨stored, created⟩
      rw [← @Table.ofColumns_isOk_iff name]
      rw [create_eq] at created
      cases checked : Table.ofColumns name columns with
      | error error =>
          rw [checked] at created
          cases created
      | ok table => rfl
    · intro sound
      exact ⟨_, create_stored ⟨name, columns, sound⟩⟩
  · intro stored derived
    obtain ⟨table, rfl⟩ := derived.exists_table
    exact ⟨consistent_stored table, table, standsFor_stored table⟩

/-- Two columns of different types. -/
def measures : Table where
  name := "measures"
  columns :=
    [⟨⟨"amount", .number⟩, #[.ofInt 3, .ofInt 5]⟩,
      ⟨⟨"unit", .text⟩, #[.text "m", .text "kg"]⟩]
  sound := ⟨by simp [rowCountOf, Column.size], by simp [Value.ofInt, Value.type, Column.type],
    by simp [Column.name]⟩

/-- Rows are repeated, and then the second column is kept, which is in the first place now. -/
theorem derived_consistent_measures :
    Derived ((measures.pick [1, 0, 1]).keep ["unit"]).stored ∧
      ((measures.pick [1, 0, 1]).keep ["unit"]).stored.Consistent ∧
      ((measures.pick [1, 0, 1]).keep ["unit"]).stored.position? "unit" = some 0 ∧
      ((measures.pick [1, 0, 1]).keep ["unit"]).stored.columns =
        [⟨⟨"unit", .text⟩, #[.text "kg", .text "m", .text "kg"]⟩] ∧
      ∃ table, ((measures.pick [1, 0, 1]).keep ["unit"]).stored.StandsFor table := by
  have picked : (measures.stored.selectRows [1, 0, 1]).run.run (fun _ => false) =
      .ok (some (measures.pick [1, 0, 1]).stored) := by
    rw [run_selectRows_stored]
    rfl
  have kept : (measures.pick [1, 0, 1]).stored.selectFields ["unit"] =
      .ok ((measures.pick [1, 0, 1]).keep ["unit"]).stored := by
    rw [selectFields_stored]
    rfl
  have derived := Derived.fields (.rows (.new (create_stored measures)) picked) kept
  obtain ⟨consistent, standsFor⟩ := create_iff_and_derived_consistent.2 _ derived
  exact ⟨derived, consistent, (consistent.placed "unit" 0).2 ⟨_, rfl, rfl⟩, rfl, standsFor⟩

end StoredTable

end Tabula
