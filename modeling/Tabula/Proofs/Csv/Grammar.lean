import Tabula.Csv.Record

/-!
# The bytes of delimited files

A grammar of delimited files whose quotes are placed strictly. A field is written as it
is, if it has no byte with a meaning, or between quotes with its quotes doubled. A
separator stands between the fields of a record and a line feed, which a carriage
return may precede, behind every record but the last, where it is optional. No record
is written as a blank line.
-/

namespace Tabula.Csv

/-- Bytes with every quote doubled. -/
def doubleQuotes (bytes : List UInt8) : List UInt8 :=
  bytes.flatMap fun byte => if byte = quote then [quote, quote] else [byte]

/-- Whether a byte has no meaning outside quotes. -/
def IsPlain (separator byte : UInt8) : Prop :=
  byte ≠ separator ∧ byte ≠ quote ∧ byte ≠ lineFeed ∧ byte ≠ carriageReturn

/-- How a field is written. -/
inductive FieldBytes (separator : UInt8) (field : List UInt8) : List UInt8 → Prop
  | bare (plain : ∀ byte ∈ field, IsPlain separator byte) : FieldBytes separator field field
  | quoted : FieldBytes separator field (quote :: (doubleQuotes field ++ [quote]))

/-- How the fields of a record are written. -/
inductive RecordBytes (separator : UInt8) : List (List UInt8) → List UInt8 → Prop
  | last {field bytes : List UInt8} (written : FieldBytes separator field bytes) :
      RecordBytes separator [field] bytes
  | cons {field bytes : List UInt8} {fields : List (List UInt8)} {others : List UInt8}
      (written : FieldBytes separator field bytes) (rest : RecordBytes separator fields others) :
      RecordBytes separator (field :: fields) (bytes ++ separator :: others)

/-- How records are written. -/
inductive FileBytes (separator : UInt8) : List (List (List UInt8)) → List UInt8 → Prop
  | empty : FileBytes separator [] []
  | last {record : List (List UInt8)} {bytes : List UInt8}
      (written : RecordBytes separator record bytes) (visible : bytes ≠ []) :
      FileBytes separator [record] bytes
  | feed {record : List (List UInt8)} {bytes others : List UInt8}
      {records : List (List (List UInt8))} (written : RecordBytes separator record bytes)
      (visible : bytes ≠ []) (rest : FileBytes separator records others) :
      FileBytes separator (record :: records) (bytes ++ lineFeed :: others)
  | returnFeed {record : List (List UInt8)} {bytes others : List UInt8}
      {records : List (List (List UInt8))} (written : RecordBytes separator record bytes)
      (visible : bytes ≠ []) (rest : FileBytes separator records others) :
      FileBytes separator (record :: records) (bytes ++ carriageReturn :: lineFeed :: others)

/-- Whether a byte can stand between fields without being taken for something else. -/
structure IsSeparator (separator : UInt8) : Prop where
  ne_quote : separator ≠ quote
  ne_lineFeed : separator ≠ lineFeed
  ne_carriageReturn : separator ≠ carriageReturn

theorem doubleQuotes_cons (byte : UInt8) (bytes : List UInt8) :
    doubleQuotes (byte :: bytes) =
      (if byte = quote then [quote, quote] else [byte]) ++ doubleQuotes bytes :=
  rfl

/-- A written record does not begin with the end of a line. -/
theorem RecordBytes.isTerminator_eq_false {separator first : UInt8}
    {fields : List (List UInt8)} {bytes rest : List UInt8} (sound : IsSeparator separator)
    (written : RecordBytes separator fields bytes) (bytesEq : bytes = first :: rest) :
    Reader.isTerminator first = false := by
  have quoteBegins : Reader.isTerminator quote = false := by decide
  have fieldBegins : ∀ {field bytes rest : List UInt8},
      FieldBytes separator field bytes → bytes = first :: rest →
        Reader.isTerminator first = false := by
    intro field bytes rest written bytesEq
    cases written with
    | bare plain =>
        subst bytesEq
        obtain ⟨_, _, notFeed, notReturn⟩ := plain first List.mem_cons_self
        simp [Reader.isTerminator, notFeed, notReturn]
    | quoted =>
        cases bytesEq
        exact quoteBegins
  cases written with
  | last written => exact fieldBegins written bytesEq
  | @cons field bytes fields others written rest =>
      cases bytes with
      | nil =>
          cases bytesEq
          simp [Reader.isTerminator, sound.ne_lineFeed, sound.ne_carriageReturn]
      | cons byte more =>
          cases bytesEq
          exact fieldBegins written rfl

end Tabula.Csv
