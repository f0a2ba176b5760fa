import Tabula.Table.Basic
import Tabula.Table.Work

/-!
# Rows and columns of a table

Picking rows gives a table with the chosen rows in the chosen order, and keeping
columns one with the chosen columns in the order of the table. Both keep the name
and the invariants of a table.
-/

namespace Tabula

namespace SoundColumns

/-- Picking the same rows of every column keeps columns sound. -/
theorem pick {columns : List Column} (sound : SoundColumns columns) (rows : List Nat) :
    SoundColumns (columns.map fun column => column.pick rows) where
  sameLength := by
    intro column member
    obtain ⟨source, sourceMember, rfl⟩ := List.mem_map.1 member
    cases columns with
    | nil => cases sourceMember
    | cons first rest =>
        simp only [List.map_cons, rowCountOf, Column.pick_size]
        rw [sound.sameLength source sourceMember]
        rfl
  typed := by
    intro column member value cell
    obtain ⟨source, sourceMember, rfl⟩ := List.mem_map.1 member
    exact sound.typed source sourceMember value (Column.mem_pick_cells cell)
  distinct := by
    simpa [List.map_map, Function.comp_def] using sound.distinct

/-- Leaving columns out keeps columns sound. -/
theorem filter {columns : List Column} (sound : SoundColumns columns) (keep : Column → Bool) :
    SoundColumns (columns.filter keep) where
  sameLength := by
    intro column member
    have source := (List.mem_filter.1 member).1
    cases kept : columns.filter keep with
    | nil => rw [kept] at member; cases member
    | cons first rest =>
        have firstSource : first ∈ columns :=
          (List.mem_filter.1 (kept ▸ List.mem_cons_self : first ∈ columns.filter keep)).1
        rw [rowCountOf, sound.sameLength column source, sound.sameLength first firstSource]
  typed := by
    intro column member
    exact sound.typed column (List.mem_filter.1 member).1
  distinct := sound.distinct.sublist (List.filter_sublist.map _)

end SoundColumns

namespace Table

/-- The table of the given rows in the given order. Rows that the table does not
have are left out. -/
def pick (table : Table) (rows : List Nat) : Table :=
  ⟨table.name, table.columns.map fun column => column.pick rows, table.sound.pick rows⟩

/-- The table of the columns whose names occur in the list. -/
def keep (table : Table) (names : List String) : Table :=
  ⟨table.name, table.columns.filter fun column => names.contains column.name,
    table.sound.filter _⟩

/-- Checks rows one by one, polling before each. -/
def checkRows (table : Table) : List Nat → Work Unit
  | [] => pure ()
  | row :: rest => do
      Work.check
      if table.rowCount ≤ row then
        throw (.rowOutOfRange table.name row table.rowCount)
      else checkRows table rest

/-- The table of the given rows, all of which must exist; repetitions and any
order are allowed. -/
def selectRows (table : Table) (rows : List Nat) : Work Table := do
  table.checkRows rows
  return table.pick rows

/-- The table of the named columns, all of which must exist. They keep the order
of the table. -/
def selectFields (table : Table) (names : List String) : Except TableError Table :=
  match names.find? fun name => (table.position? name).isNone with
  | some missing => .error (.columnNotFound table.name missing)
  | none => .ok (table.keep names)

@[simp]
theorem pick_name (table : Table) (rows : List Nat) : (table.pick rows).name = table.name :=
  rfl

@[simp]
theorem keep_name (table : Table) (names : List String) : (table.keep names).name = table.name :=
  rfl

@[simp]
theorem pick_fields (table : Table) (rows : List Nat) :
    (table.pick rows).fields = table.fields := by
  simp [fields, pick, List.map_map, Function.comp_def]

end Table

end Tabula
