import Tabula.Csv.Load

/-!
# Columns of records

What a schema makes of the names and the records of a file, said without going through
them. All that can go wrong is listed field by field, and row by row for each field; the
first fault of the list is reported. If there is none, the cells of a field are those
below the last of the names that are its own.
-/

namespace Tabula.Csv

/-- The cell of a row below the last occurrence of a name. -/
def cellOf? (header row : List String) (name : String) : Option String :=
  ((header.zip row).filter fun cell => cell.1 = name).getLast?.map Prod.snd

/-- What is wrong with a cell of a field in the row of a number. The first row is on the
second line. -/
def cellFault? (field : Field) (row : Nat) (text : String) : Option ReadError :=
  if field.type = .number ∧ Binary64.read? text.toList = none then
    some (.invalidCell field.name (row + 2) text)
  else none

/-- What is wrong with the cells of a field, where the first row has the given number. -/
def cellFaults (header : List String) (field : Field) (first : Nat) (rows : List (List String)) :
    List ReadError :=
  (rows.zipIdx first).filterMap fun entry =>
    (cellOf? header entry.1 field.name).bind (cellFault? field entry.2)

/-- What is wrong with a field. -/
def fieldFaults (header : List String) (rows : List (List String)) (field : Field) :
    List ReadError :=
  if field.name ∈ header then cellFaults header field 0 rows else [.missingColumn field.name]

/-- The values of a field, one for every row if none is at fault: the numbers that the texts
of its cells read as, or these texts. -/
def fieldValues (header : List String) (rows : List (List String)) (field : Field) : List Value :=
  let texts := rows.filterMap fun row => cellOf? header row field.name
  match field.type with
  | .number => (texts.filterMap fun text => Binary64.read? text.toList).map .number
  | .text => texts.map .text

/-- The column of a field. -/
def fieldColumn (header : List String) (rows : List (List String)) (field : Field) : Column :=
  ⟨field, (fieldValues header rows field).toArray⟩

/-- The first fault, or else a value. -/
def firstFaultOr {α : Type} (faults : List ReadError) (value : α) : Except ReadError α :=
  match faults.head? with
  | some fault => .error fault
  | none => .ok value

/-- The table of a schema, made of the names and the rows of a file. -/
def load (schema : Schema) (header : List String) (rows : List (List String)) :
    Except ReadError Table :=
  (firstFaultOr (schema.fields.flatMap (fieldFaults header rows))
    (schema.fields.map (fieldColumn header rows))).bind fun columns =>
      (Table.ofColumns schema.name columns).mapError .table

/-! ## The first fault -/

theorem firstFaultOr_append {α : Type} (first second : List ReadError) (value : α) :
    firstFaultOr (first ++ second) value =
      (firstFaultOr first ()).bind fun _ => firstFaultOr second value := by
  cases first <;> rfl

theorem map_firstFaultOr {α β : Type} (make : α → β) (faults : List ReadError) (value : α) :
    (firstFaultOr faults value).map make = firstFaultOr faults (make value) := by
  cases faults <;> rfl

theorem load_of_head? {schema : Schema} {header : List String} {rows : List (List String)}
    {fault : ReadError}
    (found : (schema.fields.flatMap (fieldFaults header rows)).head? = some fault) :
    load schema header rows = .error fault := by
  rw [load, firstFaultOr, found]
  rfl

theorem load_of_no_faults {schema : Schema} {header : List String} {rows : List (List String)}
    (noFaults : schema.fields.flatMap (fieldFaults header rows) = []) :
    load schema header rows =
      (Table.ofColumns schema.name (schema.fields.map (fieldColumn header rows))).mapError
        .table := by
  rw [load, noFaults]
  rfl

/-! ## The last column of a name -/

theorem lastPosition?_eq_none_iff {name : String} {start : Nat} {header : List String} :
    lastPosition? name start header = none ↔ name ∉ header := by
  induction header generalizing start with
  | nil => simp [lastPosition?]
  | cons first rest ih =>
      rw [lastPosition?, Option.or_eq_none_iff, ih, List.mem_cons, not_or]
      by_cases here : first = name
      · simp [here]
      · simp [here, Ne.symm here]

theorem cellOf?_cons (first : String) (rest : List String) (cell : String) (cells : List String)
    (name : String) :
    cellOf? (first :: rest) (cell :: cells) name =
      (cellOf? rest cells name).or (if first = name then some cell else none) := by
  rw [cellOf?, cellOf?, List.zip_cons_cons, List.filter_cons]
  by_cases here : first = name
  · cases later : ((rest.zip cells).filter fun cell => cell.1 = name).getLast? <;>
      simp [here, List.getLast?_cons, later]
  · simp [here]

theorem cellOf?_eq_none {header row : List String} {name : String} (absent : name ∉ header) :
    cellOf? header row name = none := by
  rw [cellOf?, Option.map_eq_none_iff, List.getLast?_eq_none_iff, List.filter_eq_nil_iff]
  rintro ⟨other, text⟩ member isName
  exact absent (of_decide_eq_true isName ▸ (List.of_mem_zip member).1)

/-- A row as long as the header has its cell at the last position of the name. -/
theorem cellOf?_eq_some {header row : List String} {name : String} {start place : Nat}
    (sameWidth : row.length = header.length)
    (found : lastPosition? name start header = some place) :
    ∃ index, place = start + index ∧ cellOf? header row name = some (row[index]?.getD "") := by
  induction header generalizing row start with
  | nil => cases found
  | cons first rest ih =>
      cases row with
      | nil => cases sameWidth
      | cons cell cells =>
          rw [lastPosition?] at found
          rw [cellOf?_cons]
          cases later : lastPosition? name (start + 1) rest with
          | some further =>
              rw [later, Option.some_or] at found
              cases found
              obtain ⟨index, rfl, cellEq⟩ := ih (Nat.succ.inj sameWidth) later
              refine ⟨index + 1, by omega, ?_⟩
              rw [cellEq]
              rfl
          | none =>
              rw [later, Option.none_or] at found
              split at found
              · rename_i here
                cases found
                refine ⟨0, rfl, ?_⟩
                rw [cellOf?_eq_none (lastPosition?_eq_none_iff.1 later), if_pos here]
                rfl
              · cases found

/-! ## Reading columns -/

/-- A cell is at fault exactly if it has no value. -/
theorem cellFault?_eq (field : Field) (row : Nat) (text : String) :
    cellFault? field row text =
      if (parseCell? field.type text).isNone then some (.invalidCell field.name (row + 2) text)
      else none := by
  cases type : field.type <;> simp [cellFault?, parseCell?, type]

theorem fieldValues_nil (header : List String) (field : Field) :
    fieldValues header [] field = [] := by
  cases type : field.type <;> simp [fieldValues, type]

/-- A cell adds the value that it is read as, if there is one. -/
theorem fieldValues_cons {header row : List String} {field : Field} {text : String}
    (cellEq : cellOf? header row field.name = some text) (rest : List (List String)) :
    fieldValues header (row :: rest) field =
      (parseCell? field.type text).toList ++ fieldValues header rest field := by
  cases type : field.type with
  | text => simp [fieldValues, parseCell?, type, cellEq]
  | number =>
      cases number : Binary64.read? text.toList <;>
        simp [fieldValues, parseCell?, type, cellEq, number]

/-- The values of a field are read row by row up to the first fault. -/
theorem columnValues_eq {header : List String} {field : Field} {place : Nat}
    {rows : List (List String)} (cells : ∀ row ∈ rows,
      cellOf? header row field.name = some (row[place]?.getD "")) (first : Nat) :
    columnValues field place (first + 2) rows =
      firstFaultOr (cellFaults header field first rows) (fieldValues header rows field) := by
  induction rows generalizing first with
  | nil =>
      rw [fieldValues_nil]
      rfl
  | cons row rest ih =>
      obtain ⟨here, later⟩ := List.forall_mem_cons.1 cells
      rw [columnValues, cellFaults, fieldValues_cons here, List.zipIdx_cons, List.filterMap_cons,
        here, Option.bind_some, cellFault?_eq]
      cases parsed : parseCell? field.type (row[place]?.getD "") with
      | none => rfl
      | some value =>
          have rows := ih later (first + 1)
          rw [Nat.add_right_comm] at rows
          simp only [rows, map_firstFaultOr]
          rfl

/-- The columns of fields are read field by field up to the first fault. -/
theorem readColumns_eq {header : List String} {rows : List (List String)}
    (sameWidth : ∀ row ∈ rows, row.length = header.length) (fields : List Field) :
    readColumns header rows fields =
      firstFaultOr (fields.flatMap (fieldFaults header rows))
        (fields.map (fieldColumn header rows)) := by
  induction fields with
  | nil => rfl
  | cons field rest ih =>
      rw [readColumns, List.flatMap_cons, firstFaultOr_append, fieldFaults]
      cases found : lastPosition? field.name 0 header with
      | none =>
          rw [if_neg (lastPosition?_eq_none_iff.1 found)]
          rfl
      | some place =>
          have known : field.name ∈ header := by
            apply Decidable.not_not.1
            intro absent
            rw [lastPosition?_eq_none_iff.2 absent] at found
            cases found
          have cells : ∀ row ∈ rows,
              cellOf? header row field.name = some (row[place]?.getD "") := by
            intro row member
            obtain ⟨index, placeEq, cellEq⟩ := cellOf?_eq_some (sameWidth row member) found
            rw [placeEq, Nat.zero_add]
            exact cellEq
          have values := columnValues_eq cells 0
          rw [if_pos known]
          change columnValues field place firstRowLine rows = _ at values
          simp only [values, ih, map_firstFaultOr]
          cases cellFaults header field 0 rows <;> rfl

/-- The table of the names and the rows of a file. -/
theorem tableOf_eq_load {header : List String} {rows : List (List String)}
    (sameWidth : ∀ row ∈ rows, row.length = header.length) (schema : Schema) :
    tableOf schema (header :: rows) = load schema header rows := by
  rw [tableOf, readColumns_eq sameWidth, load]
  cases firstFaultOr (schema.fields.flatMap (fieldFaults header rows))
    (schema.fields.map (fieldColumn header rows)) with
  | error fault => rfl
  | ok columns =>
      simp only [Except.bind]
      cases Table.ofColumns schema.name columns <;> rfl

end Tabula.Csv
