import Tabula.Csv.Quotes

/-!
# Records of a delimited file

Splitting bytes into records and fields. A record ends at a line feed, a carriage
return or both; lines without a byte are no records. A field that begins with a
quote goes on to its closing quote, and a doubled quote inside stands for one.
Quotes elsewhere, and text after a closing quote, are taken as they are: these are
the lenient rules. A byte order mark at the beginning is left out.
-/

namespace Tabula.Csv

/-- A record: its fields, and the line and the byte at which reading it began. -/
structure Record where
  fields : List (List UInt8)
  line : Nat
  byte : Nat
  deriving DecidableEq, Repr

namespace Reader

/-- Where the reader stands. -/
inductive State where
  | recordStart
  | fieldStart
  | unquoted
  | quoted
  /-- After a quote inside quotes, which ends them or is the first of a pair. -/
  | quoteInQuoted
  /-- After a carriage return that ended a record. -/
  | afterReturn
  deriving DecidableEq, Repr

/-- What a byte does to the record being read. -/
inductive Action where
  | skip
  | keep
  | endField
  | endRecord
  deriving DecidableEq, Repr

/-- Whether a byte ends a line. -/
def isTerminator (byte : UInt8) : Bool :=
  byte = lineFeed || byte = carriageReturn

/-- The end of a record. -/
def terminate (byte : UInt8) : State × Action :=
  (if byte = carriageReturn then .afterReturn else .recordStart, .endRecord)

/-- A byte where a field begins. -/
def stepFieldStart (separator byte : UInt8) : State × Action :=
  if byte = quote then (.quoted, .skip)
  else if byte = separator then (.fieldStart, .endField)
  else if isTerminator byte then terminate byte
  else (.unquoted, .keep)

/-- A byte where a record begins. -/
def stepRecordStart (separator byte : UInt8) : State × Action :=
  if isTerminator byte then (.recordStart, .skip) else stepFieldStart separator byte

/-- The state after a byte and what the byte does. -/
def step (separator : UInt8) (state : State) (byte : UInt8) : State × Action :=
  match state with
  | .recordStart => stepRecordStart separator byte
  | .afterReturn =>
      if byte = lineFeed then (.recordStart, .skip) else stepRecordStart separator byte
  | .fieldStart => stepFieldStart separator byte
  | .unquoted =>
      if byte = separator then (.fieldStart, .endField)
      else if isTerminator byte then terminate byte
      else (.unquoted, .keep)
  | .quoted => if byte = quote then (.quoteInQuoted, .skip) else (.quoted, .keep)
  | .quoteInQuoted =>
      if byte = quote then (.quoted, .keep)
      else if byte = separator then (.fieldStart, .endField)
      else if isTerminator byte then terminate byte
      else (.unquoted, .keep)

/-- The record being read: its field and the fields before it, in reverse, and where
it began; and where the reader is. -/
structure Progress where
  field : List UInt8
  fields : List (List UInt8)
  startLine : Nat
  startByte : Nat
  line : Nat
  byte : Nat
  deriving DecidableEq, Repr

namespace Progress

/-- The reading of the next record begins where the reader is. -/
def startRecord (progress : Progress) : Progress :=
  { progress with
    field := []
    fields := []
    startLine := progress.line
    startByte := progress.byte }

/-- The record with the field being read as its last one. -/
def record (progress : Progress) : Record :=
  ⟨(progress.field.reverse :: progress.fields).reverse, progress.startLine, progress.startByte⟩

/-- The reader has gone past a byte. -/
def pass (progress : Progress) (byte : UInt8) : Progress :=
  { progress with
    line := if byte = lineFeed then progress.line + 1 else progress.line
    byte := progress.byte + 1 }

/-- The record after a byte that does not end it. -/
def apply (progress : Progress) (action : Action) (byte : UInt8) : Progress :=
  match action with
  | .keep => { progress with field := byte :: progress.field }
  | .endField => { progress with field := [], fields := progress.field.reverse :: progress.fields }
  | .skip | .endRecord => progress

end Progress

/-- The records of the bytes from a state on. At the end of the bytes a record that
has begun is complete. -/
def runFrom (separator : UInt8) (progress : Progress) (state : State) : List UInt8 → List Record
  | [] => if state = .recordStart || state = .afterReturn then [] else [progress.record]
  | byte :: rest =>
      match step separator state byte with
      | (next, .endRecord) =>
          progress.record ::
            runFrom separator (progress.pass byte).startRecord next rest
      | (next, action) => runFrom separator ((progress.apply action byte).pass byte) next rest

end Reader

/-- The bytes after a byte order mark, if there is one, and the number of bytes left
out. -/
def withoutMark : List UInt8 → List UInt8 × Nat
  | 0xEF :: 0xBB :: 0xBF :: rest => (rest, 3)
  | bytes => (bytes, 0)

/-- The records of a file. -/
def records (separator : UInt8) (bytes : List UInt8) : List Record :=
  let (content, skipped) := withoutMark bytes
  Reader.runFrom separator ⟨[], [], 1, 0, 1, skipped⟩ .recordStart content

end Tabula.Csv
