import Tabula.Proofs.Csv.Beginnings
import Tabula.Proofs.Csv.Decoding
import Tabula.Proofs.Csv.Selection

/-!
# The lines of cells that are no numbers

A cell that is no number is reported with the number of its record, counted from one, and
not with the line on which the record begins. The two are the same if as many line feeds as
records come before it, as in a file in which every line is a record. A line feed between
quotes and a blank line make the reported line too small, and a record that ends at a lone
carriage return makes it too great.
-/

namespace Tabula.Csv

/-! ## The first cell at fault -/

theorem exists_cell_of_head?_cellFaults {header : List String} {field : Field} {first : Nat}
    {rows : List (List String)} {error : ReadError}
    (found : (cellFaults header field first rows).head? = some error) :
    ∃ index row text, rows[index]? = some row ∧ cellOf? header row field.name = some text ∧
      cellFault? field (first + index) text = some error ∧
      ∀ earlier < index, ∀ other, rows[earlier]? = some other →
        ∀ otherText, cellOf? header other field.name = some otherText →
          field.type = .number → Binary64.read? otherText.toList ≠ none := by
  induction rows generalizing first with
  | nil => cases found
  | cons row rest ih =>
      rw [cellFaults, List.zipIdx_cons, List.filterMap_cons] at found
      cases here : (cellOf? header row field.name).bind (cellFault? field first) with
      | some fault =>
          rw [here] at found
          cases found
          obtain ⟨text, cellEq, faulty⟩ := Option.bind_eq_some_iff.1 here
          refine ⟨0, row, text, rfl, cellEq, faulty, ?_⟩
          intro earlier before
          exact absurd before (Nat.not_lt_zero earlier)
      | none =>
          rw [here] at found
          obtain ⟨index, later, text, laterHere, cellEq, faulty, readable⟩ := ih found
          rw [Nat.add_right_comm] at faulty
          refine ⟨index + 1, later, text, laterHere, cellEq, faulty, ?_⟩
          intro earlier before other otherHere otherText otherCell
          cases earlier with
          | succ earlier => exact readable earlier (by omega) other otherHere otherText otherCell
          | zero =>
              cases otherHere
              intro isNumber unreadable
              rw [otherCell, Option.bind_some, cellFault?, if_pos ⟨isNumber, unreadable⟩] at here
              cases here

theorem cellFault?_eq_some_iff {field : Field} {row : Nat} {text : String} {error : ReadError} :
    cellFault? field row text = some error ↔
      (field.type = .number ∧ Binary64.read? text.toList = none) ∧
        error = .invalidCell field.name (row + 2) text := by
  simp [cellFault?, eq_comm]

/-- A cell is reported for a field whose cells have a fault. -/
theorem exists_field_of_load {schema : Schema} {header : List String} {rows : List (List String)}
    {column value : String} {line : Nat}
    (failed : load schema header rows = .error (.invalidCell column line value)) :
    ∃ field ∈ schema.fields,
      (cellFaults header field 0 rows).head? = some (.invalidCell column line value) := by
  cases found : (schema.fields.flatMap (fieldFaults header rows)).head? with
  | none =>
      rw [load_of_no_faults (List.head?_eq_none_iff.1 found)] at failed
      cases created : Table.ofColumns schema.name (schema.fields.map (fieldColumn header rows)) with
      | error error =>
          rw [created] at failed
          cases failed
      | ok table =>
          rw [created] at failed
          cases failed
  | some fault =>
      rw [load_of_head? found] at failed
      cases failed
      rw [List.head?_flatMap] at found
      obtain ⟨field, member, foundHere⟩ := List.exists_of_findSome?_eq_some found
      rw [fieldFaults] at foundHere
      split at foundHere
      · exact ⟨field, member, foundHere⟩
      · cases foundHere

/-- The cell that is reported is the first one of a number field that is no number. -/
theorem exists_cell_of_load {schema : Schema} {header : List String} {rows : List (List String)}
    {column value : String} {line : Nat}
    (failed : load schema header rows = .error (.invalidCell column line value)) :
    (⟨column, .number⟩ : Field) ∈ schema.fields ∧ Binary64.read? value.toList = none ∧
      ∃ index row, line = index + 2 ∧ rows[index]? = some row ∧
        cellOf? header row column = some value ∧
        ∀ earlier < index, ∀ other, rows[earlier]? = some other →
          ∀ text, cellOf? header other column = some text → Binary64.read? text.toList ≠ none := by
  obtain ⟨field, member, found⟩ := exists_field_of_load failed
  obtain ⟨index, row, text, here, cellEq, faulty, readable⟩ := exists_cell_of_head?_cellFaults found
  obtain ⟨⟨isNumber, unreadable⟩, errorEq⟩ := cellFault?_eq_some_iff.1 faulty
  cases errorEq
  have fieldEq : (⟨field.name, .number⟩ : Field) = field := by rw [← isNumber]
  refine ⟨fieldEq ▸ member, unreadable, index, row, by omega, here, cellEq, ?_⟩
  intro earlier before other otherHere otherText otherCell unreadableToo
  exact readable earlier before other otherHere otherText otherCell isNumber unreadableToo

/-- A cell is reported only for what the schema makes of decoded rows. -/
theorem exists_rows_of_read {schema : Schema} {bytes : List UInt8} {column value : String}
    {line : Nat} (failed : read schema bytes = .error (.invalidCell column line value)) :
    ∃ header rows, (schema.lazyQuotes = false → checkQuotes schema.separatorByte bytes = .ok ()) ∧
      decode (records schema.separatorByte bytes) = .ok (header :: rows) ∧
      load schema header rows = .error (.invalidCell column line value) := by
  rcases read_cases schema bytes with ⟨fault, isError⟩ | ⟨fault, isError⟩ |
    ⟨texts, checked, decoded, readEq⟩
  · rw [isError] at failed
    cases failed
  · rw [isError] at failed
    cases failed
  · rw [readEq] at failed
    cases texts with
    | nil => cases failed
    | cons header rows =>
        rw [tableOf_eq_load (sameWidth_of_decode decoded)] at failed
        exact ⟨header, rows, checked, decoded, failed⟩

/-! ## Where the cell is -/

/-- The record that begins behind these bytes has a text as its cell below the last
occurrence of a name in the header. -/
structure HoldsCell (separator : UInt8) (bytes : List UInt8) (column text : String)
    (before : List UInt8) : Prop where
  beginning : BeginsBehind separator bytes before
  cell : ∃ header rows record later row, decode (records separator bytes) = .ok (header :: rows) ∧
    records separator bytes = records separator before ++ record :: later ∧
    record.HasTexts row ∧ cellOf? header row column = some text

variable {separator : UInt8} {bytes before : List UInt8} {column value : String}

/-- Of decoded rows, the one that holds the cell has as many before it as there are records
before the one that holds it. -/
theorem holdsCell_iff {header : List String} {rows : List (List String)}
    (decoded : decode (records separator bytes) = .ok (header :: rows)) :
    HoldsCell separator bytes column value before ↔ BeginsBehind separator bytes before ∧
      ∃ row, (header :: rows)[(records separator before).length]? = some row ∧
        cellOf? header row column = some value := by
  have texts := (decode_eq_ok_iff.1 decoded).1
  have recordHere : ∀ {record later},
      records separator bytes = records separator before ++ record :: later →
        (records separator bytes)[(records separator before).length]? = some record := by
    intro record later recordsEq
    rw [recordsEq, List.getElem?_append_right (Nat.le_refl _), Nat.sub_self]
    rfl
  constructor
  · rintro ⟨beginning, _, _, record, later, row, same, recordsEq, recordTexts, cellEq⟩
    cases decoded.symm.trans same
    obtain ⟨found, here, foundTexts⟩ := exists_getElem?_of_forall₂ texts.flip (recordHere recordsEq)
    obtain rfl : row = found := recordTexts.unique foundTexts
    exact ⟨beginning, row, here, cellEq⟩
  · rintro ⟨beginning, row, here, cellEq⟩
    obtain ⟨record, later, recordsEq⟩ := beginning.exists_records_eq
    obtain ⟨found, foundHere, foundTexts⟩ := exists_getElem?_of_forall₂ texts here
    cases (recordHere recordsEq).symm.trans foundHere
    exact ⟨beginning, header, rows, record, later, row, decoded, recordsEq, foundTexts, cellEq⟩

/-- Between the header and the record that begins behind these bytes, all cells below the last
occurrence of a name are numbers. -/
def NumbersUpTo (separator : UInt8) (bytes : List UInt8) (column : String) (before : List UInt8) :
    Prop :=
  ∀ other text, HoldsCell separator bytes column text other →
    0 < (records separator other).length →
    (records separator other).length < (records separator before).length →
    Binary64.read? text.toList ≠ none

/-! ## The line that is reported -/

/-- A cell that is reported is the first one of a number column, behind the header, that is no
number. The line that is reported is the number of its record, which is the line on which the
record begins exactly if there are as many line feeds as records before it. A strict quote
check has counted that line. -/
theorem read_invalidCell_line {schema : Schema} {line : Nat}
    (failed : read schema bytes = .error (.invalidCell column line value)) :
    (⟨column, .number⟩ : Field) ∈ schema.fields ∧ Binary64.read? value.toList = none ∧
      ∃ before, HoldsCell schema.separatorByte bytes column value before ∧
        NumbersUpTo schema.separatorByte bytes column before ∧
        0 < (records schema.separatorByte before).length ∧
        line = (records schema.separatorByte before).length + 1 ∧
        (line = lineBehind before ↔
          before.count lineFeed = (records schema.separatorByte before).length) ∧
        (schema.separatorByte ≠ lineFeed →
          Reader.IsLineByLine schema.separatorByte .recordStart (withoutMark bytes).1 →
          line = lineBehind before) ∧
        (schema.lazyQuotes = false → ∃ check,
          QuoteCheck.advance schema.separatorByte 1 .fieldStart before =
            .ok (lineBehind before, check)) := by
  obtain ⟨header, rows, checked, decoded, loadEq⟩ := exists_rows_of_read failed
  obtain ⟨isNumber, unreadable, index, row, lineEq, here, cellEq, readable⟩ :=
    exists_cell_of_load loadEq
  have bound : index + 1 < (records schema.separatorByte bytes).length := by
    rw [(decode_eq_ok_iff.1 decoded).1.length_eq, List.length_cons]
    have rowBound := (List.getElem?_eq_some_iff.1 here).1
    omega
  obtain ⟨before, beginning, count⟩ := exists_beginsBehind bound
  have holds : HoldsCell schema.separatorByte bytes column value before :=
    (holdsCell_iff decoded).2 ⟨beginning, row, count ▸ here, cellEq⟩
  refine ⟨isNumber, unreadable, before, holds, ?_, by omega, by omega, ?_, ?_, ?_⟩
  · intro other text otherHolds behindHeader earlier
    obtain ⟨_, otherRow, otherHere, otherCell⟩ := (holdsCell_iff decoded).1 otherHolds
    obtain ⟨place, placeEq⟩ := Nat.exists_eq_add_one.2 behindHeader
    rw [placeEq] at otherHere
    exact readable place (by omega) otherRow otherHere text otherCell
  · rw [lineBehind]
    omega
  · intro notFeed lines
    rw [beginning.lineBehind_eq notFeed lines]
    omega
  · intro strict
    obtain ⟨first, after, bytesEq, _⟩ := beginning.begins
    obtain ⟨later, check, advanced, _⟩ :=
      QuoteCheck.exists_advance_of_runFrom (checked strict) bytesEq
    have sameLine : later = lineBehind before := QuoteCheck.advance_line advanced
    exact ⟨check, sameLine ▸ advanced⟩

/-- A text and a number. -/
def keyedSchema : Schema where
  name := "keyed"
  separator := ';'
  lazyQuotes := false
  fields := [⟨"k", .text⟩, ⟨"n", .number⟩]

/-- Two records of one line each and a record that begins the third line. -/
def evenLines : List UInt8 :=
  [0x6B, 0x3B, 0x6E, 0x0A, 0x75, 0x3B, 0x31, 0x0A, 0x77, 0x3B, 0x78, 0x0A]

theorem read_invalidCell_line_evenLines :
    read keyedSchema evenLines = .error (.invalidCell "n" 3 "x") ∧
      Reader.IsLineByLine 0x3B .recordStart evenLines ∧
      ∃ before, HoldsCell 0x3B evenLines "n" "x" before ∧ 3 = lineBehind before := by
  have failed : read keyedSchema evenLines = .error (.invalidCell "n" 3 "x") := by rfl
  have lines : Reader.IsLineByLine 0x3B .recordStart evenLines := by decide
  obtain ⟨_, _, before, holds, _, _, _, _, isLine, _⟩ := read_invalidCell_line failed
  exact ⟨failed, lines, before, holds, isLine (by decide) lines⟩

/-- Two records, the second with a line feed between quotes. -/
def brokenBeginning : List UInt8 :=
  [0x6B, 0x3B, 0x6E, 0x0A, 0x22, 0x75, 0x0A, 0x76, 0x22, 0x3B, 0x31, 0x0A]

/-- A record that begins the fourth line. -/
def brokenRest : List UInt8 :=
  [0x77, 0x3B, 0x78, 0x0A]

theorem decode_broken :
    decode (records 0x3B (brokenBeginning ++ brokenRest)) =
      .ok [["k", "n"], ["u\nv", "1"], ["w", "x"]] := by
  rfl

theorem beginsBehind_brokenBeginning :
    BeginsBehind 0x3B (brokenBeginning ++ brokenRest) brokenBeginning where
  begins := ⟨0x77, [0x3B, 0x78, 0x0A], rfl, by decide⟩
  pastMark := by decide
  between := by decide

/-- The cell that is no number is in one record only, which begins the fourth line, and the
third line is reported. -/
theorem read_brokenLines :
    read keyedSchema (brokenBeginning ++ brokenRest) = .error (.invalidCell "n" 3 "x") ∧
      HoldsCell 0x3B (brokenBeginning ++ brokenRest) "n" "x" brokenBeginning ∧
      ∀ before, HoldsCell 0x3B (brokenBeginning ++ brokenRest) "n" "x" before →
        lineBehind before = 4 := by
  have counted : (records 0x3B brokenBeginning).length = 2 := by rfl
  refine ⟨by rfl, ?_, ?_⟩
  · rw [holdsCell_iff decode_broken, counted]
    exact ⟨beginsBehind_brokenBeginning, ["w", "x"], rfl, by decide⟩
  · intro before holds
    obtain ⟨beginning, row, here, cellEq⟩ := (holdsCell_iff decode_broken).1 holds
    have isThird : (records 0x3B before).length = 2 := by
      generalize (records 0x3B before).length = index at here
      rcases index with _ | _ | _ | index
      · cases here
        exact absurd cellEq (by decide)
      · cases here
        exact absurd cellEq (by decide)
      · rfl
      · cases here
    rw [beginning.unique beginsBehind_brokenBeginning (isThird.trans counted.symm)]
    rfl

end Tabula.Csv
