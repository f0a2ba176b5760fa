import Tabula.Table.Error

/-!
# Tables

A table has a name and columns of one length, each with a declared type that all
its cells have, under distinct names. The columns of a value of type `Table` are
always of that kind: building a table from columns checks them and reports the
first fault, and picking rows or keeping columns cannot introduce one.
-/

namespace Tabula

/-- The declaration of a column. -/
structure Field where
  name : String
  type : CellType
  deriving DecidableEq, Repr

/-- A column: its declaration and its cells from the first row to the last. -/
structure Column where
  field : Field
  cells : Array Value
  deriving DecidableEq, Repr

namespace Column

/-- The name of a column. -/
def name (column : Column) : String :=
  column.field.name

/-- The declared type of a column. -/
def type (column : Column) : CellType :=
  column.field.type

/-- The number of cells. -/
def size (column : Column) : Nat :=
  column.cells.size

/-- The cell of a row. -/
def cell? (column : Column) (row : Nat) : Option Value :=
  column.cells[row]?

/-- The column of the cells at the given rows, in the given order. Rows that the
column does not have are left out. -/
def pick (column : Column) (rows : List Nat) : Column :=
  { column with cells := (rows.filterMap column.cell?).toArray }

/-- Sameness of declarations and of contents. -/
def same (left right : Column) : Bool :=
  left.field = right.field && left.size == right.size &&
    (left.cells.zip right.cells).all fun pair => pair.1.same pair.2

@[simp]
theorem pick_field (column : Column) (rows : List Nat) : (column.pick rows).field = column.field :=
  rfl

@[simp]
theorem pick_name (column : Column) (rows : List Nat) : (column.pick rows).name = column.name :=
  rfl

/-- A column has a cell for each of the rows below its size. -/
theorem pick_size {column : Column} {rows : List Nat} :
    (column.pick rows).size = (rows.filter (· < column.size)).length := by
  simp only [pick, size, List.size_toArray]
  induction rows with
  | nil => rfl
  | cons row rest ih =>
      by_cases bound : row < column.cells.size
      · simp [cell?, bound, ih]
      · simp [cell?, bound, ih]

theorem mem_pick_cells {column : Column} {rows : List Nat} {value : Value}
    (member : value ∈ (column.pick rows).cells) : value ∈ column.cells := by
  simp only [pick, List.mem_toArray, List.mem_filterMap, cell?] at member
  obtain ⟨row, _, found⟩ := member
  exact Array.mem_of_getElem? found

end Column

/-- The number of rows of columns of one length. -/
def rowCountOf : List Column → Nat
  | [] => 0
  | column :: _ => column.size

/-- What makes columns a table. -/
structure SoundColumns (columns : List Column) : Prop where
  sameLength : ∀ column ∈ columns, column.size = rowCountOf columns
  typed : ∀ column ∈ columns, ∀ value ∈ column.cells, value.type = column.type
  distinct : (columns.map Column.name).Nodup

/-- The first name that has occurred before, given the names seen so far. -/
def repeatedNameFrom (seen : List String) : List String → Option String
  | [] => none
  | name :: rest => if name ∈ seen then some name else repeatedNameFrom (name :: seen) rest

theorem repeatedNameFrom_eq_none_iff {seen names : List String} :
    repeatedNameFrom seen names = none ↔ names.Nodup ∧ ∀ name ∈ names, name ∉ seen := by
  induction names generalizing seen with
  | nil => simp [repeatedNameFrom]
  | cons name rest ih =>
      by_cases member : name ∈ seen
      · simp [repeatedNameFrom, member]
      · simp only [repeatedNameFrom, member, if_false, ih, List.nodup_cons, List.mem_cons, not_or]
        grind

namespace Column

/-- What is wrong with one column of a table with the given number of rows. -/
def fault? (rowCount : Nat) (column : Column) : Option ColumnFault :=
  if column.size ≠ rowCount then some (.length column.name column.size rowCount)
  else
    (column.cells.findIdx? fun value => value.type ≠ column.type).map fun row =>
      .cellType column.name row column.type

theorem fault?_eq_none_iff {rowCount : Nat} {column : Column} :
    column.fault? rowCount = none ↔
      column.size = rowCount ∧ ∀ value ∈ column.cells, value.type = column.type := by
  by_cases size : column.size = rowCount <;> simp [fault?, size, Array.findIdx?_eq_none_iff]

end Column

/-- The first fault of columns: one column after the other is checked for its
length and its cells, and the names at the end. -/
def columnsFault? (columns : List Column) : Option ColumnFault :=
  (columns.findSome? (Column.fault? (rowCountOf columns))).or
    ((repeatedNameFrom [] (columns.map Column.name)).map .repeatedName)

/-- The check finds no fault exactly in the columns of tables. -/
theorem columnsFault?_eq_none_iff {columns : List Column} :
    columnsFault? columns = none ↔ SoundColumns columns := by
  simp only [columnsFault?, Option.or_eq_none_iff, List.findSome?_eq_none_iff,
    Column.fault?_eq_none_iff, Option.map_eq_none_iff, repeatedNameFrom_eq_none_iff]
  constructor
  · rintro ⟨each, distinct, _⟩
    exact ⟨fun column member => (each column member).1, fun column member => (each column member).2,
      distinct⟩
  · rintro ⟨sameLength, typed, distinct⟩
    exact ⟨fun column member => ⟨sameLength column member, typed column member⟩, distinct, by simp⟩

/-- A table. -/
structure Table where
  name : String
  columns : List Column
  sound : SoundColumns columns
  deriving DecidableEq

namespace Table

/-- The table of the given columns, or their first fault. -/
def ofColumns (name : String) (columns : List Column) : Except TableError Table :=
  match checked : columnsFault? columns with
  | some fault => .error (.invalidColumns fault)
  | none => .ok ⟨name, columns, columnsFault?_eq_none_iff.1 checked⟩

/-- The number of rows; a table without columns has none. -/
def rowCount (table : Table) : Nat :=
  rowCountOf table.columns

/-- The declarations of the columns, in order. -/
def fields (table : Table) : List Field :=
  table.columns.map Column.field

/-- The place of the column of a name. -/
def position? (table : Table) (name : String) : Option Nat :=
  table.columns.findIdx? fun column => column.name = name

/-- The column of a name. -/
def column (table : Table) (name : String) : Except TableError Column :=
  match table.columns.find? fun column => column.name = name with
  | some column => .ok column
  | none => .error (.columnNotFound table.name name)

/-- Sameness of names, declarations and contents. -/
def same (left right : Table) : Bool :=
  left.name == right.name && left.columns.length == right.columns.length &&
    (left.columns.zip right.columns).all fun pair => pair.1.same pair.2

theorem size_eq_rowCount {table : Table} {column : Column} (member : column ∈ table.columns) :
    column.size = table.rowCount :=
  table.sound.sameLength column member

/-- Columns are accepted exactly when they are sound. -/
theorem ofColumns_isOk_iff {name : String} {columns : List Column} :
    (ofColumns name columns).isOk = true ↔ SoundColumns columns := by
  rw [← columnsFault?_eq_none_iff]
  unfold ofColumns
  split <;> simp_all [Except.isOk, Except.toBool]

/-- Sound columns are kept as they are. -/
theorem ofColumns_eq_ok {name : String} {columns : List Column} (sound : SoundColumns columns) :
    ofColumns name columns = .ok ⟨name, columns, sound⟩ := by
  unfold ofColumns
  split
  · rename_i found
    rw [columnsFault?_eq_none_iff.2 sound] at found
    cases found
  · rfl

end Table

end Tabula
