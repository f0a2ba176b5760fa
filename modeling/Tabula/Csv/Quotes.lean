/-!
# Where quotes may stand

A delimited file places its quotes strictly when a quote opens a field only at its
beginning, an inner quote is doubled, and a closing quote is followed by a
separator or the end of the line. The check goes through the bytes once and names
the line, counted by line feeds, of the first quote that is out of place.
-/

namespace Tabula.Csv

/-- The quote sign. -/
def quote : UInt8 := 0x22

/-- The line feed. -/
def lineFeed : UInt8 := 0x0A

/-- The carriage return. -/
def carriageReturn : UInt8 := 0x0D

/-- How a quote is out of place. -/
inductive QuoteFault where
  /-- A quote inside a field that does not begin with one. -/
  | bare (line : Nat)
  /-- A closing quote that is followed by more of the field, or is missing. -/
  | extraneous (line : Nat)
  deriving DecidableEq, Repr

namespace QuoteCheck

/-- Where the check stands. -/
inductive State where
  | fieldStart
  | unquoted
  | quoted
  /-- After a quote inside quotes, which ends them or is the first of a pair. -/
  | quoteInQuoted
  deriving DecidableEq, Repr

/-- The state after a byte, or the fault that the byte makes on the given line. -/
def step (separator : UInt8) (line : Nat) (state : State) (byte : UInt8) :
    Except QuoteFault State :=
  match state with
  | .quoted => .ok (if byte = quote then .quoteInQuoted else .quoted)
  | .quoteInQuoted =>
      if byte = quote then .ok .quoted
      else if byte = carriageReturn then .ok .quoteInQuoted
      else if byte = separator || byte = lineFeed then .ok .fieldStart
      else .error (.extraneous line)
  | .fieldStart =>
      if byte = quote then .ok .quoted
      else if byte = separator || byte = lineFeed then .ok .fieldStart
      else .ok .unquoted
  | .unquoted =>
      if byte = quote then .error (.bare line)
      else if byte = separator || byte = lineFeed then .ok .fieldStart
      else .ok .unquoted

/-- Checks the bytes from a line and a state on. -/
def runFrom (separator : UInt8) (line : Nat) (state : State) : List UInt8 → Except QuoteFault Unit
  | [] => if state = .quoted then .error (.extraneous line) else .ok ()
  | byte :: rest =>
      match step separator line state byte with
      | .ok next => runFrom separator (if byte = lineFeed then line + 1 else line) next rest
      | .error fault => .error fault

end QuoteCheck

/-- Checks where quotes stand in a file. -/
def checkQuotes (separator : UInt8) (bytes : List UInt8) : Except QuoteFault Unit :=
  QuoteCheck.runFrom separator 1 .fieldStart bytes

end Tabula.Csv
