import Tabula.Proofs.Csv.Checking
import Tabula.Proofs.Csv.Reading
import Tabula.Proofs.Csv.Selection
import Tabula.Proofs.Csv.Writing

/-!
# Loading written files

A well-written file is loaded as its texts say, in whichever way its cells have been
quoted and its lines ended: the quote check passes it, its records are those that have
been written, and their fields decode to the texts of the cells.
-/

namespace Tabula.Csv

/-! ## Decoding records -/

/-- Encoded texts are decoded. -/
theorem decodeFields_encode (index : Nat) (texts : List String) :
    decodeFields index (texts.map Text.Utf8.encode) = .ok texts := by
  induction texts generalizing index with
  | nil => rfl
  | cons text rest ih =>
      rw [List.map_cons, decodeFields, Text.Utf8.decode?_encode]
      simp only [ih]
      rfl

/-- Records of one length whose fields are encoded texts are decoded. -/
theorem decodeFrom_encode {records : List Record} {texts : List (List String)} {expected : Nat}
    (encoded : records.map Record.fields = texts.map (List.map Text.Utf8.encode))
    (sameWidth : ∀ row ∈ texts, row.length = expected) (number : Nat) :
    decodeFrom number expected records = .ok texts := by
  induction texts generalizing records number with
  | nil =>
      rw [List.map_eq_nil_iff.1 encoded]
      rfl
  | cons row rest ih =>
      obtain ⟨record, others, rfl, fieldsEq, laterEncoded⟩ := List.map_eq_cons_iff.1 encoded
      obtain ⟨here, later⟩ := List.forall_mem_cons.1 sameWidth
      have decoded : record.decode number expected = .ok row := by
        rw [Record.decode, fieldsEq, List.length_map, if_neg (absurd here), decodeFields_encode]
      rw [decodeFrom, decoded]
      simp only [ih laterEncoded later]
      rfl

/-! ## Loading files -/

variable {schema : Schema} {file : WrittenFile}

/-- The texts of a well-written file come back from its bytes. -/
theorem decode_records (sound : IsSeparatorSign schema.separator)
    (written : file.WellWritten schema.separator) :
    decode (records schema.separatorByte (file.bytes schema.separator)) =
      .ok (file.header.texts :: file.rows.map WrittenRecord.texts) := by
  have fields := map_fields_records sound.isSeparator (written.fileBytes sound)
    (written.withoutMark_bytes sound)
  change (records schema.separatorByte (file.bytes schema.separator)).map Record.fields = _
    at fields
  obtain ⟨first, rest, recordsEq, firstEq, _⟩ := List.map_eq_cons_iff.1 fields
  have encoded : (records schema.separatorByte (file.bytes schema.separator)).map Record.fields =
      (file.header.texts :: file.rows.map WrittenRecord.texts).map
        (List.map Text.Utf8.encode) := by
    rw [fields, WrittenFile.records, List.map_cons, List.map_cons, List.map_map]
    rfl
  have sameWidth : ∀ row ∈ file.header.texts :: file.rows.map WrittenRecord.texts,
      row.length = first.fields.length := by
    rw [firstEq, List.length_map]
    intro row member
    rcases List.mem_cons.1 member with rfl | inRows
    · rfl
    · exact written.length_texts inRows
  rw [recordsEq] at encoded ⊢
  exact decodeFrom_encode encoded sameWidth 0

/-- A well-written file is loaded as its texts say, whether its quotes are checked or
not. -/
theorem read_wellWritten (sound : IsSeparatorSign schema.separator)
    (written : file.WellWritten schema.separator) :
    read schema (file.bytes schema.separator) =
      load schema file.header.texts (file.rows.map WrittenRecord.texts) := by
  have checked : checkQuotes schema.separatorByte (file.bytes schema.separator) = .ok () :=
    checkQuotes_file sound.isSeparator (written.fileBytes sound)
  rw [read, checked, ite_self]
  simp only [decode_records sound written]
  exact tableOf_eq_load (fun row member => written.length_texts member) schema

/-- A name that occurs twice, cells between quotes with a separator, a quote and a line
feed in them, ends of both kinds and none at the end of the file. -/
def stock : WrittenFile where
  header :=
    ⟨[⟨"unit", false⟩, ⟨"size", true⟩, ⟨"price", false⟩, ⟨"unit", false⟩], some .returnFeed⟩
  rows :=
    [⟨[⟨"m", false⟩, ⟨"7", false⟩, ⟨"1.5", false⟩, ⟨"a;\"\n", true⟩], some .feed⟩,
      ⟨[⟨"", false⟩, ⟨"x", true⟩, ⟨"-3", true⟩, ⟨"", true⟩], none⟩]

/-- All columns of the file, the size as the given type. -/
def stockSchema (size : CellType) : Schema where
  name := "stock"
  separator := ';'
  lazyQuotes := false
  fields := [⟨"size", size⟩, ⟨"price", .number⟩, ⟨"unit", .text⟩]

theorem wellWritten_stock : stock.WellWritten ';' where
  records := by
    simp only [stock, WrittenFile.records, List.forall_mem_cons]
    refine ⟨⟨by simp, by simp [IsPlainSign], by simp⟩, ?_, ?_, by simp⟩
    · exact ⟨by simp, by simp [IsPlainSign], by simp⟩
    · exact ⟨by simp, by simp [IsPlainSign], by simp⟩
  sameWidth := by simp [stock]
  ended := by simp [stock, WrittenFile.records]
  unmarked := by
    intro cell rest cellsEq
    cases cellsEq
    simp

/-- What the file holds, with the sizes as texts: the prices are three halves and minus
three. -/
def stockTable : Table where
  name := "stock"
  columns :=
    [⟨⟨"size", .text⟩, #[.text "7", .text "x"]⟩,
      ⟨⟨"price", .number⟩, #[.number (.real false 0x3FF8000000000000),
        .number (.real true 0x4008000000000000)]⟩,
      ⟨⟨"unit", .text⟩, #[.text "a;\"\n", .text ""]⟩]
  sound := ⟨by simp [rowCountOf, Column.size], by simp [Value.type, Column.type],
    by simp [Column.name]⟩

/-- The last of two columns of a name is loaded, numbers are read, and a cell that is no
number is reported on the line of its row. -/
theorem read_stock :
    IsSeparatorSign ';' ∧ stock.WellWritten ';' ∧
      read (stockSchema .text) (stock.bytes ';') = .ok stockTable ∧
      read (stockSchema .number) (stock.bytes ';') = .error (.invalidCell "size" 3 "x") := by
  have sound : IsSeparatorSign ';' := ⟨by decide, by decide, by decide, by decide⟩
  have written := wellWritten_stock
  refine ⟨sound, written, ?_, ?_⟩
  · have loaded := @read_wellWritten (stockSchema .text) _ sound written
    have columnsEq : (stockSchema .text).fields.map
        (fieldColumn stock.header.texts (stock.rows.map WrittenRecord.texts)) =
          stockTable.columns := by
      decide +kernel
    have noFaults : (stockSchema .text).fields.flatMap
        (fieldFaults stock.header.texts (stock.rows.map WrittenRecord.texts)) = [] := by
      decide +kernel
    refine loaded.trans ?_
    rw [load_of_no_faults noFaults, columnsEq]
    exact congrArg (Except.mapError ReadError.table) (Table.ofColumns_eq_ok stockTable.sound)
  · have loaded := @read_wellWritten (stockSchema .number) _ sound written
    exact loaded.trans (by rfl)

end Tabula.Csv
