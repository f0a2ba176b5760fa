import Tabula.Csv.Record
import Tabula.Text.Utf8

/-!
# Records as text

All records of a file have as many fields as the first one, and every field is
encoded text. The first record that breaks a rule is reported with its number, the
line and the byte where it begins.
-/

namespace Tabula.Csv

/-- Why a record cannot be read. -/
inductive RecordFault where
  | unequalLength (record line byte count expected : Nat)
  /-- A field whose bytes are good up to the index only. -/
  | notText (record line byte field index : Nat)
  deriving DecidableEq, Repr

namespace RecordFault

/-- The fault in words. -/
def message : RecordFault → String
  | .unequalLength record line byte count expected =>
      s!"CSV error: record {record} (line: {line}, byte: {byte}): found record with {count} " ++
        s!"fields, but the previous record has {expected} fields"
  | .notText record line byte field index =>
      s!"CSV parse error: record {record} (line {line}, field: {field}, byte: {byte}): " ++
        s!"invalid utf-8: invalid UTF-8 in field {field} near byte index {index}"

end RecordFault

/-- The texts of fields, or the number of the first field that is no text and the
length of its good beginning. -/
def decodeFields (index : Nat) : List (List UInt8) → Except (Nat × Nat) (List String)
  | [] => .ok []
  | bytes :: rest =>
      match Text.Utf8.decode? bytes with
      | none => .error (index, Text.Utf8.validLength bytes)
      | some text => (decodeFields (index + 1) rest).map (text :: ·)

/-- The fields of a record, given its number and the number of fields expected. -/
def Record.decode (number expected : Nat) (record : Record) : Except RecordFault (List String) :=
  if record.fields.length ≠ expected then
    .error (.unequalLength number record.line record.byte record.fields.length expected)
  else
    match decodeFields 0 record.fields with
    | .ok fields => .ok fields
    | .error (field, index) => .error (.notText number record.line record.byte field index)

/-- The fields of records, the first of which has the given number. -/
def decodeFrom (number expected : Nat) : List Record → Except RecordFault (List (List String))
  | [] => .ok []
  | record :: rest =>
      match record.decode number expected with
      | .error fault => .error fault
      | .ok fields => (decodeFrom (number + 1) expected rest).map (fields :: ·)

/-- The fields of all records of a file. -/
def decode (records : List Record) : Except RecordFault (List (List String)) :=
  match records with
  | [] => .ok []
  | first :: _ => decodeFrom 0 first.fields.length records

end Tabula.Csv
