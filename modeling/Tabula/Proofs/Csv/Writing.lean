import Tabula.Proofs.Csv.Grammar
import Tabula.Proofs.Csv.Reader
import Tabula.Proofs.Text.Utf8

/-!
# Writing delimited files

A file is written cell by cell, each cell as it is or between quotes, and each line with
an end of its own. If no bare cell has a sign with a meaning, no record looks like a
blank line and the file does not begin like a byte order mark, then its bytes belong to
the grammar of files, and they hold the encoded texts of the cells.
-/

namespace Tabula.Csv

/-- A cell, and whether it is written between quotes. -/
structure WrittenCell where
  text : String
  isQuoted : Bool
  deriving DecidableEq, Repr

/-- The end of a line. -/
inductive LineEnd where
  | feed
  | returnFeed
  deriving DecidableEq, Repr

/-- The cells of a record, and how its line ends, if it does. -/
structure WrittenRecord where
  cells : List WrittenCell
  ending : Option LineEnd
  deriving DecidableEq, Repr

/-- The record of names and the records of a file. -/
structure WrittenFile where
  header : WrittenRecord
  rows : List WrittenRecord
  deriving DecidableEq, Repr

/-! ## Signs of files -/

/-- Signs with every quote doubled. -/
def doubleQuoteSigns (chars : List Char) : List Char :=
  chars.flatMap fun char => if char = '"' then ['"', '"'] else [char]

/-- A cell as it is written. -/
def WrittenCell.chars (cell : WrittenCell) : List Char :=
  if cell.isQuoted then '"' :: (doubleQuoteSigns cell.text.toList ++ ['"'])
  else cell.text.toList

/-- The end of a line as it is written. -/
def LineEnd.chars : LineEnd → List Char
  | .feed => ['\n']
  | .returnFeed => ['\r', '\n']

namespace WrittenRecord

/-- The texts of the cells. -/
def texts (record : WrittenRecord) : List String :=
  record.cells.map WrittenCell.text

/-- The cells of a record as they are written. -/
def content (separator : Char) (record : WrittenRecord) : List Char :=
  [separator].intercalate (record.cells.map WrittenCell.chars)

/-- A record as it is written. -/
def chars (separator : Char) (record : WrittenRecord) : List Char :=
  record.content separator ++ record.ending.elim [] LineEnd.chars

end WrittenRecord

/-- The bytes of records. -/
def recordsBytes (separator : Char) (records : List WrittenRecord) : List UInt8 :=
  Text.Utf8.encode (String.ofList (records.flatMap (WrittenRecord.chars separator)))

namespace WrittenFile

/-- All records of a file. -/
def records (file : WrittenFile) : List WrittenRecord :=
  file.header :: file.rows

/-- The bytes of a file. -/
def bytes (separator : Char) (file : WrittenFile) : List UInt8 :=
  recordsBytes separator file.records

end WrittenFile

/-! ## Well-written files -/

/-- Whether a sign can stand between cells. -/
structure IsSeparatorSign (separator : Char) : Prop where
  ascii : separator.toNat < 0x80
  ne_quote : separator ≠ '"'
  ne_lineFeed : separator ≠ '\n'
  ne_carriageReturn : separator ≠ '\r'

/-- Whether a sign has no meaning outside quotes. -/
def IsPlainSign (separator char : Char) : Prop :=
  char ≠ separator ∧ char ≠ '"' ∧ char ≠ '\n' ∧ char ≠ '\r'

instance (separator char : Char) : Decidable (IsPlainSign separator char) :=
  inferInstanceAs (Decidable (_ ∧ _))

namespace WrittenRecord

/-- A record is well written if its bare cells are plain and it is more than a blank
line. -/
structure WellWritten (separator : Char) (record : WrittenRecord) : Prop where
  nonempty : record.cells ≠ []
  plain : ∀ cell ∈ record.cells, cell.isQuoted = false →
    ∀ char ∈ cell.text.toList, IsPlainSign separator char
  visible : ∀ cell, record.cells = [cell] → cell.text = "" → cell.isQuoted = true

end WrittenRecord

namespace WrittenFile

/-- A file is well written if its records are, with as many cells in each, every line but
the last has an end, and no bare name at the beginning starts with the byte order mark. -/
structure WellWritten (separator : Char) (file : WrittenFile) : Prop where
  records : ∀ record ∈ file.records, record.WellWritten separator
  sameWidth : ∀ row ∈ file.rows, row.cells.length = file.header.cells.length
  ended : ∀ record ∈ file.records.dropLast, record.ending ≠ none
  unmarked : ∀ cell rest, file.header.cells = cell :: rest →
    cell.text.toList.head? = some '\uFEFF' → cell.isQuoted = true

end WrittenFile

/-! ## Bytes of cells -/

/-- The byte of a separator is a separator of bytes. -/
theorem IsSeparatorSign.isSeparator {separator : Char} (sound : IsSeparatorSign separator) :
    IsSeparator (UInt8.ofNat separator.toNat) := by
  have other : ∀ sign : Char, sign.toNat < 0x80 → separator ≠ sign →
      UInt8.ofNat separator.toNat ≠ UInt8.ofNat sign.toNat := by
    intro sign small different same
    apply different
    apply Text.Utf8.eq_of_mem_utf8EncodeChar small
    rw [Text.Utf8.utf8EncodeChar_of_ascii sound.ascii, same]
    exact List.mem_singleton_self _
  exact ⟨other '"' (by decide) sound.ne_quote, other '\n' (by decide) sound.ne_lineFeed,
    other '\r' (by decide) sound.ne_carriageReturn⟩

variable {separator : Char}

/-- No byte of a plain sign has a meaning. -/
theorem IsPlainSign.isPlain {char : Char} {byte : UInt8} (sound : IsSeparatorSign separator)
    (plain : IsPlainSign separator char) (member : byte ∈ String.utf8EncodeChar char) :
    IsPlain (UInt8.ofNat separator.toNat) byte := by
  have other : ∀ sign : Char, sign.toNat < 0x80 → char ≠ sign →
      byte ≠ UInt8.ofNat sign.toNat := by
    rintro sign small different rfl
    exact different (Text.Utf8.eq_of_mem_utf8EncodeChar small member)
  obtain ⟨notSeparator, notQuote, notFeed, notReturn⟩ := plain
  exact ⟨other separator sound.ascii notSeparator, other '"' (by decide) notQuote,
    other '\n' (by decide) notFeed, other '\r' (by decide) notReturn⟩

theorem doubleQuotes_append (first second : List UInt8) :
    doubleQuotes (first ++ second) = doubleQuotes first ++ doubleQuotes second :=
  List.flatMap_append

theorem doubleQuotes_of_no_quotes {bytes : List UInt8} (noQuote : quote ∉ bytes) :
    doubleQuotes bytes = bytes := by
  induction bytes with
  | nil => rfl
  | cons byte rest ih =>
      obtain ⟨notQuote, later⟩ := not_or.1 (mt List.mem_cons.2 noQuote)
      rw [doubleQuotes_cons, if_neg (Ne.symm notQuote), ih later]
      rfl

/-- Quotes are doubled in the bytes of a text if they are in the text. -/
theorem flatMap_doubleQuoteSigns (chars : List Char) :
    (doubleQuoteSigns chars).flatMap String.utf8EncodeChar =
      doubleQuotes (chars.flatMap String.utf8EncodeChar) := by
  induction chars with
  | nil => rfl
  | cons char rest ih =>
      have here : (if char = '"' then ['"', '"'] else [char]).flatMap String.utf8EncodeChar =
          doubleQuotes (String.utf8EncodeChar char) := by
        split
        · rename_i isQuote
          subst isQuote
          rfl
        · rename_i notQuote
          rw [doubleQuotes_of_no_quotes, List.flatMap_singleton]
          intro member
          have ascii : '"'.toNat < 0x80 := by decide
          exact notQuote (Text.Utf8.eq_of_mem_utf8EncodeChar ascii member)
      rw [List.flatMap_cons, doubleQuotes_append, ← ih, ← here, ← List.flatMap_append]
      rfl

/-- A cell is written as its encoded text is. -/
theorem WrittenCell.fieldBytes {cell : WrittenCell} (sound : IsSeparatorSign separator)
    (plain : cell.isQuoted = false → ∀ char ∈ cell.text.toList, IsPlainSign separator char) :
    FieldBytes (UInt8.ofNat separator.toNat) (Text.Utf8.encode cell.text)
      (cell.chars.flatMap String.utf8EncodeChar) := by
  rw [Text.Utf8.encode_eq_flatMap, chars]
  split
  · have written : ('"' :: (doubleQuoteSigns cell.text.toList ++ ['"'])).flatMap
          String.utf8EncodeChar =
        quote :: (doubleQuotes (cell.text.toList.flatMap String.utf8EncodeChar) ++ [quote]) := by
      rw [List.flatMap_cons, List.flatMap_append, flatMap_doubleQuoteSigns]
      rfl
    rw [written]
    exact .quoted
  · rename_i notQuoted
    apply FieldBytes.bare
    intro byte member
    obtain ⟨char, inText, inChar⟩ := List.mem_flatMap.1 member
    exact (plain (Bool.eq_false_iff.2 notQuoted) char inText).isPlain sound inChar

/-! ## Bytes of records -/

namespace WrittenRecord

/-- The cells of a record are written as its fields are. -/
theorem recordBytes_cells {cells : List WrittenCell} (sound : IsSeparatorSign separator)
    (nonempty : cells ≠ []) (plain : ∀ cell ∈ cells, cell.isQuoted = false →
      ∀ char ∈ cell.text.toList, IsPlainSign separator char) :
    RecordBytes (UInt8.ofNat separator.toNat)
      (cells.map fun cell => Text.Utf8.encode cell.text)
      (([separator].intercalate (cells.map WrittenCell.chars)).flatMap
        String.utf8EncodeChar) := by
  induction cells with
  | nil => exact absurd rfl nonempty
  | cons cell rest ih =>
      have here := WrittenCell.fieldBytes sound (plain cell List.mem_cons_self)
      cases rest with
      | nil =>
          rw [List.map_singleton, List.map_singleton, List.intercalate_singleton]
          exact .last here
      | cons next others =>
          have later := ih (List.cons_ne_nil next others) fun other member =>
            plain other (List.mem_cons_of_mem cell member)
          have separatorBytes := Text.Utf8.utf8EncodeChar_of_ascii sound.ascii
          have more : (next :: others).map WrittenCell.chars ≠ [] := by simp
          rw [List.map_cons, List.map_cons (f := WrittenCell.chars),
            List.intercalate_cons_of_ne_nil more, List.flatMap_append, List.flatMap_append,
            List.flatMap_singleton, separatorBytes, List.append_assoc]
          exact .cons here later

variable {record : WrittenRecord}

theorem WellWritten.recordBytes (sound : IsSeparatorSign separator)
    (written : record.WellWritten separator) :
    RecordBytes (UInt8.ofNat separator.toNat) (record.texts.map Text.Utf8.encode)
      ((record.content separator).flatMap String.utf8EncodeChar) := by
  rw [texts, List.map_map]
  exact recordBytes_cells sound written.nonempty written.plain

/-- The first cell of a record is written first, and a separator behind it if there are
more. -/
theorem content_of_cells_eq_cons {cell : WrittenCell} {rest : List WrittenCell}
    (cellsEq : record.cells = cell :: rest) :
    ∃ more, record.content separator = cell.chars ++ more ∧
      (rest ≠ [] → ∃ others, more = separator :: others) := by
  rw [content, cellsEq]
  cases rest with
  | nil => exact ⟨[], by simp, fun nonempty => absurd rfl nonempty⟩
  | cons next others =>
      have more : (next :: others).map WrittenCell.chars ≠ [] := by simp
      rw [List.map_cons, List.intercalate_cons_of_ne_nil more, List.append_assoc]
      exact ⟨_, rfl, fun _ => ⟨_, rfl⟩⟩

/-- Something is written for a record, and it begins with a quote, a separator or the
first sign of a bare cell. -/
theorem WellWritten.exists_content (written : record.WellWritten separator) :
    ∃ first others, record.content separator = first :: others ∧
      (first = '"' ∨ first = separator ∨ ∃ cell rest, record.cells = cell :: rest ∧
        cell.isQuoted = false ∧ cell.text.toList.head? = some first) := by
  obtain ⟨cell, rest, cellsEq⟩ := List.exists_cons_of_ne_nil written.nonempty
  obtain ⟨more, contentEq, separated⟩ := @content_of_cells_eq_cons separator _ _ _ cellsEq
  rw [contentEq, WrittenCell.chars]
  cases isQuoted : cell.isQuoted with
  | true => exact ⟨'"', _, rfl, .inl rfl⟩
  | false =>
      cases text : cell.text.toList with
      | cons first others =>
          exact ⟨first, _, rfl, .inr (.inr ⟨cell, rest, cellsEq, isQuoted, by simp [text]⟩)⟩
      | nil =>
          have notLast : rest ≠ [] := by
            rintro rfl
            rw [written.visible cell cellsEq (String.toList_eq_nil_iff.1 text)] at isQuoted
            cases isQuoted
          obtain ⟨others, moreEq⟩ := separated notLast
          exact ⟨separator, others, moreEq, .inr (.inl rfl)⟩

end WrittenRecord

/-! ## Bytes of files -/

theorem recordsBytes_nil : recordsBytes separator [] = [] := by
  rw [recordsBytes, Text.Utf8.encode_ofList]
  rfl

theorem recordsBytes_cons (record : WrittenRecord) (rest : List WrittenRecord) :
    recordsBytes separator (record :: rest) =
      (record.content separator).flatMap String.utf8EncodeChar ++
        ((record.ending.elim [] LineEnd.chars).flatMap String.utf8EncodeChar ++
          recordsBytes separator rest) := by
  rw [recordsBytes, recordsBytes, Text.Utf8.encode_ofList, Text.Utf8.encode_ofList,
    List.flatMap_cons, List.flatMap_append, WrittenRecord.chars, List.flatMap_append,
    List.append_assoc]

/-- Either end of a line separates records. -/
theorem LineEnd.fileBytes {byte : UInt8} {record : List (List UInt8)} {bytes others : List UInt8}
    {records : List (List (List UInt8))} (lineEnd : LineEnd)
    (written : RecordBytes byte record bytes) (visible : bytes ≠ [])
    (rest : FileBytes byte records others) :
    FileBytes byte (record :: records)
      (bytes ++ (lineEnd.chars.flatMap String.utf8EncodeChar ++ others)) := by
  cases lineEnd with
  | feed => exact .feed written visible rest
  | returnFeed => exact .returnFeed written visible rest

/-- Well-written records make a file of the grammar. -/
theorem fileBytes_recordsBytes {records : List WrittenRecord} (sound : IsSeparatorSign separator)
    (written : ∀ record ∈ records, record.WellWritten separator)
    (ended : ∀ record ∈ records.dropLast, record.ending ≠ none) :
    FileBytes (UInt8.ofNat separator.toNat)
      (records.map fun record => record.texts.map Text.Utf8.encode)
      (recordsBytes separator records) := by
  induction records with
  | nil =>
      rw [recordsBytes_nil]
      exact .empty
  | cons record rest ih =>
      have here := written record List.mem_cons_self
      have fields := here.recordBytes sound
      have visible : (record.content separator).flatMap String.utf8EncodeChar ≠ [] := by
        obtain ⟨first, others, contentEq, _⟩ := here.exists_content
        rw [contentEq, List.flatMap_cons]
        exact List.append_ne_nil_of_left_ne_nil (Text.Utf8.utf8EncodeChar_ne_nil first) _
      have restEnded : ∀ other ∈ rest.dropLast, other.ending ≠ none := by
        intro other member
        apply ended
        cases rest with
        | nil => cases member
        | cons next others => exact List.mem_cons_of_mem record member
      have later := ih (fun other member => written other (List.mem_cons_of_mem record member))
        restEnded
      rw [recordsBytes_cons, List.map_cons]
      cases ending : record.ending with
      | some lineEnd => exact lineEnd.fileBytes fields visible later
      | none =>
          cases rest with
          | cons next others => exact absurd ending (ended record List.mem_cons_self)
          | nil =>
              rw [recordsBytes_nil, Option.elim_none, List.flatMap_nil, List.append_nil,
                List.append_nil]
              exact .last fields visible

/-- Only one character begins with the byte order mark. -/
theorem toNat_of_utf8EncodeChar_append {char : Char} {rest others : List UInt8}
    (same : String.utf8EncodeChar char ++ rest = byteOrderMark ++ others) :
    char.toNat = 0xFEFF := by
  have value : char.val.toNat = char.toNat := rfl
  have firstMark : (0xEF : UInt8).toNat = 0xEF := rfl
  have secondMark : (0xBB : UInt8).toNat = 0xBB := rfl
  have thirdMark : (0xBF : UInt8).toNat = 0xBF := rfl
  unfold String.utf8EncodeChar byteOrderMark at same
  simp only at same
  repeat' split at same
  all_goals
    simp only [List.cons_append, List.nil_append, List.cons.injEq] at same
    have first := congrArg UInt8.toNat same.1
    rw [UInt8.toNat_ofNat', firstMark] at first
  · omega
  · omega
  · obtain ⟨_, secondEq, thirdEq, _⟩ := same
    have second := congrArg UInt8.toNat secondEq
    have third := congrArg UInt8.toNat thirdEq
    rw [UInt8.toNat_ofNat', secondMark] at second
    rw [UInt8.toNat_ofNat', thirdMark] at third
    omega
  · omega

namespace WrittenFile

variable {file : WrittenFile}

/-- All rows of a well-written file have as many texts as there are names. -/
theorem WellWritten.length_texts (written : file.WellWritten separator) {row : List String}
    (member : row ∈ file.rows.map WrittenRecord.texts) :
    row.length = file.header.texts.length := by
  obtain ⟨record, isRow, rfl⟩ := List.mem_map.1 member
  rw [WrittenRecord.texts, WrittenRecord.texts, List.length_map, List.length_map]
  exact written.sameWidth record isRow

/-- The bytes of a well-written file belong to the grammar. -/
theorem WellWritten.fileBytes (sound : IsSeparatorSign separator)
    (written : file.WellWritten separator) :
    FileBytes (UInt8.ofNat separator.toNat)
      (file.records.map fun record => record.texts.map Text.Utf8.encode)
      (file.bytes separator) :=
  fileBytes_recordsBytes sound written.records written.ended

/-- Nothing is left out at the beginning of a well-written file. -/
theorem WellWritten.withoutMark_bytes (sound : IsSeparatorSign separator)
    (written : file.WellWritten separator) :
    withoutMark (file.bytes separator) = (file.bytes separator, 0) := by
  rcases withoutMark_cases (file.bytes separator) with unmarked | ⟨others, marked, _⟩
  · exact unmarked
  · exfalso
    have header := written.records file.header List.mem_cons_self
    obtain ⟨first, more, contentEq, begins⟩ := header.exists_content
    rw [bytes, WrittenFile.records, recordsBytes_cons, contentEq, List.flatMap_cons,
      List.append_assoc] at marked
    have isMark := toNat_of_utf8EncodeChar_append marked
    rcases begins with rfl | rfl | ⟨cell, rest, cellsEq, isBare, firstEq⟩
    · exact absurd isMark (by decide)
    · have ascii := sound.ascii
      omega
    · have signEq : first = '\uFEFF' := Char.toNat_inj.1 isMark
      rw [signEq] at firstEq
      rw [written.unmarked cell rest cellsEq firstEq] at isBare
      cases isBare

end WrittenFile

end Tabula.Csv
