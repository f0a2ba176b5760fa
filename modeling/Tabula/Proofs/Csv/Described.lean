import Tabula.Descriptor
import Tabula.Proofs.Csv.Beginnings
import Tabula.Proofs.Csv.Decoding

/-!
# Tables that descriptors describe

The names of the fields of a checked descriptor are distinct, and all rows of a file have
the length of its header. So the columns that are read of a file by a checked descriptor are
always those of a table: each of them has a value of its type for every record behind the
header, and the value is that of a cell that the record has.
-/

namespace Tabula

/-! ## Checked descriptors -/

namespace Descriptor

/-- The fields that pass have distinct names, none of which has been seen before. -/
theorem distinct_of_checkFields {seen : List String} {entries : List FieldEntry}
    {fields : List Field} (accepted : checkFields seen entries = .ok fields) :
    (fields.map Field.name).Nodup ∧ ∀ field ∈ fields, field.name ∉ seen := by
  induction entries generalizing seen fields with
  | nil =>
      cases accepted
      simp
  | cons entry rest ih =>
      rw [checkFields] at accepted
      split at accepted
      · cases accepted
      · rename_i type _
        split at accepted
        · cases accepted
        · rename_i unseen
          obtain ⟨later, laterAccepted, rfl⟩ := Csv.map_cons_eq_ok_iff.1 accepted
          obtain ⟨distinct, notSeen⟩ := ih laterAccepted
          constructor
          · rw [List.map_cons, List.nodup_cons]
            refine ⟨?_, distinct⟩
            intro repeated
            obtain ⟨field, member, nameEq⟩ := List.mem_map.1 repeated
            exact notSeen field member (nameEq ▸ List.mem_cons_self)
          · intro field member
            rcases List.mem_cons.1 member with rfl | isLater
            · exact unseen
            · exact fun wasSeen => notSeen field isLater (List.mem_cons_of_mem _ wasSeen)

theorem distinct_of_schema {descriptor : Descriptor} {schema : Csv.Schema}
    (accepted : descriptor.schema = .ok schema) : (schema.fields.map Field.name).Nodup := by
  rw [Descriptor.schema] at accepted
  split at accepted
  · cases accepted
  · split at accepted
    · cases accepted
    · cases checked : checkFields [] descriptor.fields with
      | error error =>
          rw [checked] at accepted
          cases accepted
      | ok fields =>
          rw [checked] at accepted
          cases accepted
          exact (distinct_of_checkFields checked).1

end Descriptor

namespace Csv

variable {header : List String} {rows : List (List String)} {field : Field} {fields : List Field}
  {columns : List Column} {position line : Nat}

/-! ## Cells of rows -/

/-- What the text of a cell is read as: as a number if the column declares numbers, and
otherwise as it is. -/
inductive ReadsAs : CellType → String → Value → Prop
  | number {text : String} {number : Binary64} (read : Binary64.read? text.toList = some number) :
      ReadsAs .number text (.number number)
  | text (text : String) : ReadsAs .text text (.text text)

theorem ReadsAs.type_eq {type : CellType} {text : String} {value : Value}
    (reads : ReadsAs type text value) : value.type = type := by
  cases reads <;> rfl

theorem parseCell?_eq_some_iff {type : CellType} {text : String} {value : Value} :
    parseCell? type text = some value ↔ ReadsAs type text value := by
  constructor
  · intro parsed
    cases type with
    | text =>
        cases parsed
        exact .text text
    | number =>
        obtain ⟨number, read, rfl⟩ := Option.map_eq_some_iff.1 parsed
        exact .number read
  · intro reads
    cases reads with
    | text => rfl
    | number read => exact Option.map_eq_some_iff.2 ⟨_, read, rfl⟩

theorem exists_index_of_lastPosition? {name : String} {start : Nat}
    (found : lastPosition? name start header = some position) :
    ∃ index, position = start + index ∧ header[index]? = some name := by
  induction header generalizing start with
  | nil => cases found
  | cons first rest ih =>
      rw [lastPosition?, Option.or_eq_some_iff] at found
      rcases found with later | ⟨_, here⟩
      · obtain ⟨index, rfl, nameEq⟩ := ih later
        exact ⟨index + 1, by omega, nameEq⟩
      · split at here
        · rename_i nameEq
          cases here
          exact ⟨0, rfl, congrArg some nameEq⟩
        · cases here

theorem columnValues_eq_ok_iff {values : List Value} :
    columnValues field position line rows = .ok values ↔
      List.Forall₂ (fun row value => ReadsAs field.type (row[position]?.getD "") value)
        rows values := by
  induction rows generalizing line values with
  | nil => simp [columnValues, eq_comm]
  | cons row rest ih =>
      rw [columnValues, List.forall₂_cons_left_iff]
      simp only [← parseCell?_eq_some_iff] at ih ⊢
      cases parsed : parseCell? field.type (row[position]?.getD "") with
      | none => simp
      | some value => simp [map_cons_eq_ok_iff, ih]

/-- The column of a field has the values of the cells below the last of its names. -/
def IsColumnOf (header : List String) (rows : List (List String)) (field : Field)
    (column : Column) : Prop :=
  ∃ position values, lastPosition? field.name 0 header = some position ∧
    List.Forall₂ (fun row value => ReadsAs field.type (row[position]?.getD "") value)
      rows values ∧
    column = ⟨field, values.toArray⟩

theorem readColumns_eq_ok_iff :
    readColumns header rows fields = .ok columns ↔
      List.Forall₂ (IsColumnOf header rows) fields columns := by
  induction fields generalizing columns with
  | nil => simp [readColumns, eq_comm]
  | cons field rest ih =>
      rw [readColumns, List.forall₂_cons_left_iff]
      cases found : lastPosition? field.name 0 header with
      | none => simp [IsColumnOf, found]
      | some position =>
          cases read : columnValues field position firstRowLine rows with
          | error error =>
              simp [IsColumnOf, found, ← @columnValues_eq_ok_iff _ _ _ firstRowLine, read]
          | ok values =>
              simp [IsColumnOf, found, ← @columnValues_eq_ok_iff _ _ _ firstRowLine, read,
                map_cons_eq_ok_iff, ih]

/-! ## No fault of a table -/

theorem columnValues_ne_table (fault : TableError) :
    columnValues field position line rows ≠ .error (.table fault) := by
  induction rows generalizing line with
  | nil => simp [columnValues]
  | cons row rest ih =>
      rw [columnValues]
      cases parseCell? field.type (row[position]?.getD "") with
      | none => simp
      | some value =>
          have later := @ih (line + 1)
          cases read : columnValues field position (line + 1) rest with
          | error error => simpa [read, Except.map] using later
          | ok values => simp [Except.map]

theorem readColumns_ne_table (fault : TableError) :
    readColumns header rows fields ≠ .error (.table fault) := by
  induction fields with
  | nil => simp [readColumns]
  | cons field rest ih =>
      rw [readColumns]
      cases lastPosition? field.name 0 header with
      | none => simp
      | some position =>
          have notHere := @columnValues_ne_table rows field position firstRowLine fault
          cases read : columnValues field position firstRowLine rows with
          | error error => simpa [read] using notHere
          | ok values =>
              cases later : readColumns header rows rest with
              | error error => simpa [later, read, Except.map] using ih
              | ok columns => simp [read, Except.map]

/-! ## Columns of rows -/

/-- A column has one value of its type for each row, and it is what the row's cell below the
last of the column's names reads as. -/
structure HoldsRows (header : List String) (rows : List (List String)) (column : Column) :
    Prop where
  size : column.size = rows.length
  typed : ∀ value ∈ column.cells, value.type = column.type
  cells : ∃ position, lastPosition? column.name 0 header = some position ∧
    header[position]? = some column.name ∧
    ∀ index row, rows[index]? = some row → ∃ text value, row[position]? = some text ∧
      ReadsAs column.type text value ∧ column.cell? index = some value

/-- Rows as long as the header have the cells that are read. -/
theorem IsColumnOf.holdsRows (sameWidth : ∀ row ∈ rows, row.length = header.length)
    {column : Column} (isColumn : IsColumnOf header rows field column) :
    column.field = field ∧ HoldsRows header rows column := by
  obtain ⟨position, values, found, reads, rfl⟩ := isColumn
  obtain ⟨index, rfl, nameEq⟩ := exists_index_of_lastPosition? found
  rw [Nat.zero_add] at found reads
  refine ⟨rfl, reads.length_eq.symm, ?_, index, found, nameEq, ?_⟩
  · intro value member
    obtain ⟨place, here⟩ := List.getElem?_of_mem (List.mem_toArray.1 member)
    obtain ⟨_, _, cellReads⟩ := exists_getElem?_of_forall₂ reads here
    exact cellReads.type_eq
  · intro place row here
    obtain ⟨value, valueHere, cellReads⟩ := exists_getElem?_of_forall₂ reads.flip here
    have wide : index < row.length := by
      rw [sameWidth row (List.mem_of_getElem? here)]
      exact (List.getElem?_eq_some_iff.1 nameEq).1
    have present : row[index]? = some row[index] := List.getElem?_eq_getElem wide
    rw [present, Option.getD_some] at cellReads
    exact ⟨row[index], value, present, cellReads, by simpa [Column.cell?] using valueHere⟩

theorem sound_of_isColumnOf (sameWidth : ∀ row ∈ rows, row.length = header.length)
    (distinct : (fields.map Field.name).Nodup)
    (areColumns : List.Forall₂ (IsColumnOf header rows) fields columns) :
    columns.map Column.field = fields ∧ (∀ column ∈ columns, HoldsRows header rows column) ∧
      SoundColumns columns := by
  have each : columns.map Column.field = fields ∧
      ∀ column ∈ columns, HoldsRows header rows column := by
    clear distinct
    induction areColumns with
    | nil => simp
    | cons isColumn _ ih =>
        obtain ⟨fieldEq, holds⟩ := isColumn.holdsRows sameWidth
        obtain ⟨fieldsEq, allHold⟩ := ih
        exact ⟨by rw [List.map_cons, fieldEq, fieldsEq], List.forall_mem_cons.2 ⟨holds, allHold⟩⟩
  obtain ⟨fieldsEq, allHold⟩ := each
  refine ⟨fieldsEq, allHold, ?_, fun column member => (allHold column member).typed, ?_⟩
  · intro column member
    cases columns with
    | nil => cases member
    | cons first rest =>
        rw [(allHold column member).size, rowCountOf, (allHold first List.mem_cons_self).size]
  · rw [← fieldsEq, List.map_map] at distinct
    exact distinct

theorem tableOf_of_readColumns {schema : Schema}
    (columnsRead : readColumns header rows schema.fields = .ok columns) :
    tableOf schema (header :: rows) = (Table.ofColumns schema.name columns).mapError .table := by
  simp only [tableOf, columnsRead]
  cases Table.ofColumns schema.name columns <;> rfl

/-- A file that is read by a checked descriptor does not fail for the table that its columns
make. What is read has the fields of the descriptor, and a value of its type for every record
behind the header: there are as many places where a record begins as rows and a header. -/
theorem read_described {descriptor : Descriptor} {schema : Schema}
    (accepted : descriptor.schema = .ok schema) (bytes : List UInt8) :
    (∃ error, read schema bytes = .error error ∧ ∀ fault, error ≠ .table fault) ∨
      ∃ table header rows, read schema bytes = .ok table ∧
        table.name = schema.name ∧ table.fields = schema.fields ∧
        decode (records schema.separatorByte bytes) = .ok (header :: rows) ∧
        (∀ index, index < rows.length + 1 ↔
          ∃! before, BeginsBehind schema.separatorByte bytes before ∧
            (records schema.separatorByte before).length = index) ∧
        (∀ row ∈ rows, row.length = header.length) ∧
        ∀ column ∈ table.columns, HoldsRows header rows column := by
  rcases read_cases schema bytes with ⟨fault, failed⟩ | ⟨fault, failed⟩ | ⟨texts, _, decoded, readEq⟩
  · exact .inl ⟨_, failed, by simp⟩
  · exact .inl ⟨_, failed, by simp⟩
  · cases texts with
    | nil => exact .inl ⟨.emptyFile, readEq, by simp⟩
    | cons header rows =>
        have sameWidth := sameWidth_of_decode decoded
        cases columnsRead : readColumns header rows schema.fields with
        | error error =>
            rw [tableOf, columnsRead] at readEq
            refine .inl ⟨error, readEq, ?_⟩
            rintro fault rfl
            exact readColumns_ne_table fault columnsRead
        | ok columns =>
            obtain ⟨fieldsEq, allHold, sound⟩ := sound_of_isColumnOf sameWidth
              (Descriptor.distinct_of_schema accepted) (readColumns_eq_ok_iff.1 columnsRead)
            rw [tableOf_of_readColumns columnsRead, Table.ofColumns_eq_ok sound] at readEq
            refine .inr ⟨_, header, rows, readEq, rfl, fieldsEq, decoded, ?_, sameWidth, allHold⟩
            intro index
            rw [← lt_length_records_iff, (decode_eq_ok_iff.1 decoded).1.length_eq, List.length_cons]

/-- A text and a number. -/
def pricesDescriptor : Descriptor where
  name := "prices"
  separator := ";"
  lazyQuotes := true
  fields := [⟨"n", "number"⟩, ⟨"k", "string"⟩]

/-- What the descriptor is checked to. -/
def pricesSchema : Schema where
  name := "prices"
  separator := ';'
  lazyQuotes := true
  fields := [⟨"n", .number⟩, ⟨"k", .text⟩]

/-- A file with one name for two columns, a column that is not described, and a blank line. -/
def pricesBytes : List UInt8 :=
  [0x6E, 0x3B, 0x6B, 0x3B, 0x6A, 0x3B, 0x6E, 0x0A, 0x0A, 0x78, 0x3B, 0x75, 0x3B, 0x3B, 0x37]

theorem read_described_prices :
    pricesDescriptor.schema = .ok pricesSchema ∧
      ∃ table header rows, read pricesSchema pricesBytes = .ok table ∧
        table.name = "prices" ∧ table.fields = pricesSchema.fields ∧
        decode (records 0x3B pricesBytes) = .ok (header :: rows) ∧ rows.length = 1 ∧
        ∀ column ∈ table.columns, HoldsRows header rows column := by
  have accepted : pricesDescriptor.schema = .ok pricesSchema := by rfl
  have texts : decode (records 0x3B pricesBytes) =
      .ok [["n", "k", "j", "n"], ["x", "u", "", "7"]] := by rfl
  obtain ⟨columns, columnsRead⟩ : ∃ columns, readColumns ["n", "k", "j", "n"]
      [["x", "u", "", "7"]] pricesSchema.fields = .ok columns := ⟨_, rfl⟩
  rcases read_described accepted pricesBytes with
    ⟨error, failed, notTable⟩ | ⟨table, header, rows, isRead, nameEq, fieldsEq, decoded, _, _, holds⟩
  · -- the columns are read, so that only the table could be at fault
    have failedTable := (tableOf_of_readColumns columnsRead).symm.trans failed
    cases created : Table.ofColumns pricesSchema.name columns with
    | error fault =>
        rw [created] at failedTable
        cases failedTable
        exact absurd rfl (notTable fault)
    | ok table =>
        rw [created] at failedTable
        cases failedTable
  · refine ⟨accepted, table, header, rows, isRead, nameEq, fieldsEq, decoded, ?_, holds⟩
    cases texts.symm.trans decoded
    rfl

end Csv

end Tabula
