import Tabula.Csv.Text
import Tabula.Table.Basic

/-!
# Tables from delimited files

The first record of a file names its columns, and the others are the rows. A
schema says which columns make the table, in which order and of which types. Of
columns with one name the last one counts. Number cells must read as numbers.
-/

namespace Tabula.Csv

/-- What to make of a file. -/
structure Schema where
  name : String
  separator : Char
  /-- Whether quotes that are out of place are taken as they are. -/
  lazyQuotes : Bool
  fields : List Field
  deriving DecidableEq, Repr

/-- Why the bytes of a file do not make a table. -/
inductive ReadError where
  | emptyFile
  | missingColumn (column : String)
  | invalidCell (column : String) (line : Nat) (value : String)
  | quotes (fault : QuoteFault)
  | record (fault : RecordFault)
  | table (error : TableError)
  deriving DecidableEq, Repr

namespace ReadError

/-- The error in words. -/
def message : ReadError → String
  | .emptyFile => "empty file"
  | .missingColumn column => s!"column '{column}' not found in file"
  | .invalidCell column line value =>
      s!"error when parsing column {column}, line {line}: invalid number '{value}'"
  | .quotes (.bare line) => s!"parse error on line {line}: bare \" in non-quoted-field"
  | .quotes (.extraneous line) =>
      s!"parse error on line {line}: extraneous or missing \" in quoted-field"
  | .record fault => s!"CSV error: {fault.message}"
  | .table error => error.message

end ReadError

/-- The place of the last column of a name, given the place of the first name. -/
def lastPosition? (name : String) (position : Nat) : List String → Option Nat
  | [] => none
  | first :: rest =>
      (lastPosition? name (position + 1) rest).or (if first = name then some position else none)

/-- The value of a cell. -/
def parseCell? (type : CellType) (text : String) : Option Value :=
  match type with
  | .number => (Binary64.read? text.toList).map .number
  | .text => some (.text text)

/-- The values of a column of records, the first of which is on the given line. -/
def columnValues (field : Field) (position line : Nat) :
    List (List String) → Except ReadError (List Value)
  | [] => .ok []
  | record :: rest =>
      let text := record[position]?.getD ""
      match parseCell? field.type text with
      | none => .error (.invalidCell field.name line text)
      | some value => (columnValues field position (line + 1) rest).map (value :: ·)

/-- The line of the first record after the names. -/
def firstRowLine : Nat := 2

/-- The columns of the fields of a schema. -/
def readColumns (header : List String) (rows : List (List String)) :
    List Field → Except ReadError (List Column)
  | [] => .ok []
  | field :: rest =>
      match lastPosition? field.name 0 header with
      | none => .error (.missingColumn field.name)
      | some position =>
          match columnValues field position firstRowLine rows with
          | .error error => .error error
          | .ok values => (readColumns header rows rest).map (⟨field, values.toArray⟩ :: ·)

/-- The separator of a schema as a byte. -/
def Schema.separatorByte (schema : Schema) : UInt8 :=
  UInt8.ofNat schema.separator.toNat

/-- The table of the names and rows of a file. -/
def tableOf (schema : Schema) : List (List String) → Except ReadError Table
  | [] => .error .emptyFile
  | header :: rows =>
      match readColumns header rows schema.fields with
      | .error error => .error error
      | .ok columns =>
          match Table.ofColumns schema.name columns with
          | .error error => .error (.table error)
          | .ok table => .ok table

/-- The table that a schema makes of the bytes of a file. -/
def read (schema : Schema) (bytes : List UInt8) : Except ReadError Table :=
  let checked :=
    if schema.lazyQuotes then .ok () else checkQuotes schema.separatorByte bytes
  match checked with
  | .error fault => .error (.quotes fault)
  | .ok () =>
      match decode (records schema.separatorByte bytes) with
      | .error fault => .error (.record fault)
      | .ok texts => tableOf schema texts

end Tabula.Csv
