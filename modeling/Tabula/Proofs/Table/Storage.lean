import Std.Data.HashMap.Lemmas
import Tabula.Proofs.Polled
import Tabula.Proofs.Table.Columns

/-!
# Tables in storage

A stored table is a list of columns, of which nothing is known, together with a map from
names to places. Only a new table is checked. Picking rows and keeping columns store
their results without a check, and a column is fetched by its place and a cell by its
row whether it is there or not.

On a table in storage the operations come to the same as on the table itself: a name is
at its place, and whatever is fetched is there.
-/

namespace Tabula

/-- Columns as they are stored, with the places of their names. -/
structure StoredTable where
  name : String
  columns : List Column
  places : Std.HashMap String Nat

namespace StoredTable

/-- Enters the names of columns, the first of which has the given place. A name that is
entered again keeps its last place. -/
def enter (places : Std.HashMap String Nat) (place : Nat) : List Column → Std.HashMap String Nat
  | [] => places
  | column :: rest => enter (places.insert column.name place) (place + 1) rest

/-- Stores columns without a check. -/
def ofColumns (name : String) (columns : List Column) : StoredTable :=
  ⟨name, columns, enter ∅ 0 columns⟩

/-- Stores columns after a check. Repeated names show in the number of names that have
been entered. -/
def create (name : String) (columns : List Column) : Except TableError StoredTable :=
  match columns.findSome? (Column.fault? (rowCountOf columns)) with
  | some fault => .error (.invalidColumns fault)
  | none =>
      if (ofColumns name columns).places.size = columns.length then .ok (ofColumns name columns)
      else
        .error (.invalidColumns
          (.repeatedName ((repeatedNameFrom [] (columns.map Column.name)).getD "")))

/-- The place of the column of a name. -/
def position? (stored : StoredTable) (name : String) : Option Nat :=
  stored.places[name]?

/-- The column of a name. There is no answer if there is no column at its place. -/
def column (stored : StoredTable) (name : String) : Option (Except TableError Column) :=
  match stored.position? name with
  | none => some (.error (.columnNotFound stored.name name))
  | some place => stored.columns[place]?.map .ok

/-- Copies the cells of a row behind those copied before, from column to column. There
is no answer if a column does not have the row. -/
def copyRow (row : Nat) : List (Column × Array Value) → Option (List (Column × Array Value))
  | [] => some []
  | (column, cells) :: rest =>
      match column.cells[row]?, copyRow row rest with
      | some value, some copied => some ((column, cells.push value) :: copied)
      | _, _ => none

/-- Copies rows one by one, polling before each. -/
def copyRows (stored : StoredTable) (copied : List (Column × Array Value)) :
    List Nat → Work (Option (List (Column × Array Value)))
  | [] => pure (some copied)
  | row :: rest => do
      Work.check
      if rowCountOf stored.columns ≤ row then
        throw (.rowOutOfRange stored.name row (rowCountOf stored.columns))
      else
        match copyRow row copied with
        | some more => stored.copyRows more rest
        | none => pure none

/-- The stored table of the given rows. There is no answer if a cell is missing. -/
def selectRows (stored : StoredTable) (rows : List Nat) : Work (Option StoredTable) := do
  let copied ← stored.copyRows (stored.columns.map (·, #[])) rows
  return copied.map fun columns =>
    ofColumns stored.name (columns.map fun entry => ⟨entry.1.field, entry.2⟩)

/-- The stored table of the named columns. -/
def selectFields (stored : StoredTable) (names : List String) : Except TableError StoredTable :=
  match names.find? fun name => !stored.places.contains name with
  | some missing => .error (.columnNotFound stored.name missing)
  | none =>
      .ok (ofColumns stored.name (stored.columns.filter fun column => names.contains column.name))

/-! ## Places -/

theorem getElem?_enter {columns : List Column} (distinct : (columns.map Column.name).Nodup)
    (places : Std.HashMap String Nat) (start : Nat) (name : String) :
    (enter places start columns)[name]? =
      ((columns.findIdx? fun column => column.name = name).map (start + ·)).or places[name]? := by
  induction columns generalizing places start with
  | nil => simp [enter]
  | cons column rest ih =>
      obtain ⟨notLater, restDistinct⟩ := List.nodup_cons.1 distinct
      rw [enter, ih restDistinct, List.findIdx?_cons, Std.HashMap.getElem?_insert]
      by_cases here : column.name = name
      · have absent : rest.findIdx? (fun other => other.name = name) = none := by
          rw [List.findIdx?_eq_none_iff]
          intro other member
          rw [decide_eq_false_iff_not]
          rintro rfl
          exact notLater (here ▸ List.mem_map_of_mem member)
        simp [here, absent]
      · simp [here, Option.map_map, Function.comp_def, Nat.add_assoc, Nat.add_comm 1]

/-- A column adds at most one name. -/
theorem size_enter_le (places : Std.HashMap String Nat) (start : Nat) (columns : List Column) :
    (enter places start columns).size ≤ places.size + columns.length := by
  induction columns generalizing places start with
  | nil => simp [enter]
  | cons column rest ih =>
      have later := ih (places.insert column.name start) (start + 1)
      have here := Std.HashMap.size_insert_le (m := places) (k := column.name) (v := start)
      rw [enter, List.length_cons]
      omega

/-- Every column adds a name exactly if all names are new and distinct. -/
theorem size_enter_eq_iff (places : Std.HashMap String Nat) (start : Nat) (columns : List Column) :
    (enter places start columns).size = places.size + columns.length ↔
      (columns.map Column.name).Nodup ∧ ∀ column ∈ columns, column.name ∉ places := by
  induction columns generalizing places start with
  | nil => simp [enter]
  | cons column rest ih =>
      have most := size_enter_le (places.insert column.name start) (start + 1) rest
      have full := ih (places.insert column.name start) (start + 1)
      rw [enter, List.length_cons, List.map_cons, List.nodup_cons]
      by_cases known : column.name ∈ places
      · rw [Std.HashMap.size_insert, if_pos known] at most
        constructor
        · intro all
          omega
        · rintro ⟨_, new⟩
          exact absurd known (new column List.mem_cons_self)
      · rw [Std.HashMap.size_insert, if_neg known] at full
        rw [← Nat.add_assoc, Nat.add_right_comm, full]
        simp only [Std.HashMap.mem_insert, List.forall_mem_cons, List.mem_map]
        constructor
        · rintro ⟨distinct, new⟩
          refine ⟨⟨?_, distinct⟩, known, ?_⟩
          · rintro ⟨other, member, same⟩
            exact new other member (.inl (by simp [same]))
          · intro other member isKnown
            exact new other member (.inr isKnown)
        · rintro ⟨⟨notLater, distinct⟩, _, new⟩
          refine ⟨distinct, ?_⟩
          rintro other member (same | isKnown)
          · exact notLater ⟨other, member, (beq_iff_eq.1 same).symm⟩
          · exact new other member isKnown

end StoredTable

theorem Table.ofColumns_eq_error {name : String} {columns : List Column} {fault : ColumnFault}
    (found : columnsFault? columns = some fault) :
    Table.ofColumns name columns = .error (.invalidColumns fault) := by
  unfold Table.ofColumns
  split
  · rename_i other isOther
    rw [found] at isOther
    cases isOther
    rfl
  · rename_i none
    rw [found] at none
    cases none

/-- A table in storage. -/
def Table.stored (table : Table) : StoredTable :=
  .ofColumns table.name table.columns

namespace StoredTable

/-! ## Operations on stored tables -/

/-- The entered names are as many as the columns exactly if no name is repeated. -/
theorem size_places_iff {name : String} {columns : List Column} :
    (ofColumns name columns).places.size = columns.length ↔
      repeatedNameFrom [] (columns.map Column.name) = none := by
  have counted := size_enter_eq_iff ∅ 0 columns
  simp only [Std.HashMap.size_empty, Nat.zero_add, Std.HashMap.not_mem_empty, not_false_iff,
    implies_true, and_true] at counted
  rw [ofColumns, counted]
  simp [repeatedNameFrom_eq_none_iff]

/-- A new stored table is a table in storage, and the check fails alike. -/
theorem create_eq (name : String) (columns : List Column) :
    create name columns = (Table.ofColumns name columns).map Table.stored := by
  cases checked : columnsFault? columns with
  | none =>
      obtain ⟨noFault, noRepeat⟩ := Option.or_eq_none_iff.1 checked
      rw [Option.map_eq_none_iff] at noRepeat
      rw [create, noFault, Table.ofColumns_eq_ok (columnsFault?_eq_none_iff.1 checked)]
      exact if_pos (size_places_iff.2 noRepeat)
  | some fault =>
      rw [create, Table.ofColumns_eq_error checked]
      rw [columnsFault?] at checked
      cases single : columns.findSome? (Column.fault? (rowCountOf columns)) with
      | some found =>
          rw [single] at checked
          cases checked
          rfl
      | none =>
          rw [single, Option.none_or, Option.map_eq_some_iff] at checked
          obtain ⟨repeated, isRepeated, rfl⟩ := checked
          have fewer : (ofColumns name columns).places.size ≠ columns.length := by
            rw [Ne, size_places_iff, isRepeated]
            simp
          rw [isRepeated]
          exact if_neg fewer

variable (table : Table)

theorem position?_stored (name : String) : table.stored.position? name = table.position? name := by
  change (enter ∅ 0 table.columns)[name]? = _
  rw [getElem?_enter table.sound.distinct, Table.position?]
  simp

theorem contains_places_stored (name : String) :
    table.stored.places.contains name = (table.position? name).isSome := by
  rw [← position?_stored]
  exact Std.HashMap.contains_eq_isSome_getElem?

/-- A column is at its place. -/
theorem position?_eq_some_iff {name : String} {place : Nat} :
    table.position? name = some place ↔
      ∃ column, table.columns[place]? = some column ∧ column.name = name := by
  rw [Table.position?, List.findIdx?_eq_some_iff_getElem]
  constructor
  · rintro ⟨bound, here, _⟩
    exact ⟨table.columns[place], List.getElem?_eq_getElem bound, by simpa using here⟩
  · rintro ⟨column, found, rfl⟩
    obtain ⟨bound, rfl⟩ := List.getElem?_eq_some_iff.1 found
    refine ⟨bound, by simp, ?_⟩
    intro earlier before same
    have placeBound : place < (table.columns.map Column.name).length := by simpa using bound
    have earlierBound : earlier < (table.columns.map Column.name).length :=
      Nat.lt_trans before placeBound
    have sameName : (table.columns.map Column.name)[earlier] =
        (table.columns.map Column.name)[place] := by
      simpa using same
    have samePlace := (List.Nodup.getElem_inj_iff table.sound.distinct).1 sameName
    omega

/-- The column of a name is there. -/
theorem column_stored (name : String) : table.stored.column name = some (table.column name) := by
  rw [column, position?_stored]
  cases found : table.position? name with
  | none =>
      have absent : ∀ column ∈ table.columns, column.name ≠ name := by
        simpa [Table.position?] using found
      rw [Table.column_eq_error_iff.2 ⟨absent, rfl⟩]
      rfl
  | some place =>
      obtain ⟨column, atPlace, nameEq⟩ := (position?_eq_some_iff table).1 found
      have member : column ∈ table.columns := List.mem_of_getElem? atPlace
      rw [Table.column_eq_ok_iff.2 ⟨member, nameEq⟩]
      change table.columns[place]?.map _ = _
      rw [atPlace]
      rfl

theorem selectFields_stored (names : List String) :
    table.stored.selectFields names = (table.selectFields names).map Table.stored := by
  rw [selectFields, Table.selectFields]
  simp only [contains_places_stored, Option.not_isSome]
  cases names.find? fun name => (table.position? name).isNone with
  | none => rfl
  | some missing => rfl

/-! ### Rows -/

/-- The cells of a row that every column has are copied. -/
theorem copyRow_pick {columns : List Column} {row : Nat}
    (inColumns : ∀ column ∈ columns, row < column.size) (done : List Nat) :
    copyRow row (columns.map fun column => (column, (column.pick done).cells)) =
      some (columns.map fun column => (column, (column.pick (done ++ [row])).cells)) := by
  induction columns with
  | nil => rfl
  | cons column rest ih =>
      have here : row < column.cells.size := inColumns column List.mem_cons_self
      have later := ih fun other member => inColumns other (List.mem_cons_of_mem column member)
      rw [List.map_cons, copyRow, later, Array.getElem?_eq_getElem here]
      simp [Column.pick, Column.cell?, here]

theorem copyRows_stored (done rows : List Nat) :
    table.stored.copyRows (table.columns.map fun column => (column, (column.pick done).cells)) rows =
      (fun _ => some (table.columns.map fun column => (column, (column.pick (done ++ rows)).cells))) <$>
        table.checkRows rows := by
  induction rows generalizing done with
  | nil => simp [copyRows, Table.checkRows]
  | cons row rest ih =>
      rw [copyRows, Table.checkRows, map_bind]
      congr 1
      funext _
      change (if table.rowCount ≤ row then _ else _) = _
      split
      · rfl
      · rename_i inside
        have inColumns : ∀ column ∈ table.columns, row < column.size := by
          intro column member
          rw [Table.size_eq_rowCount member]
          exact Nat.lt_of_not_le inside
        rw [copyRow_pick inColumns]
        change table.stored.copyRows _ rest = _
        rw [ih, List.append_assoc, List.singleton_append]

/-- Rows are picked alike, and every cell is there. -/
theorem selectRows_stored (rows : List Nat) :
    table.stored.selectRows rows = (fun picked => some picked.stored) <$> table.selectRows rows := by
  have copied := copyRows_stored table [] rows
  have nothing : ∀ column : Column, (column.pick []).cells = #[] := fun _ => rfl
  simp only [nothing, List.nil_append] at copied
  change table.stored.copyRows (table.columns.map (·, #[])) rows >>= _ = _
  rw [copied, Table.selectRows]
  simp only [bind_map_left, map_bind, map_pure]
  congr 1
  funext _
  simp only [Option.map_some, List.map_map]
  rfl

end StoredTable

end Tabula
