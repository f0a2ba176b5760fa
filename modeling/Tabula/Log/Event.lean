/-!
# Log events

What the program reports while it runs: a level, the part of the program that
reports, a message and named details. An event is written as one line of JSON.
-/

namespace Tabula.Log

/-- How important an event is. -/
inductive Level where
  | error
  | warn
  | info
  | debug
  | trace
  deriving DecidableEq, Repr

namespace Level

/-- The name of a level in a log. -/
def name : Level → String
  | .error => "ERROR"
  | .warn => "WARN"
  | .info => "INFO"
  | .debug => "DEBUG"
  | .trace => "TRACE"

/-- How much a log must let through for the level to be recorded. -/
def verbosity : Level → Nat
  | .error => 1
  | .warn => 2
  | .info => 3
  | .debug => 4
  | .trace => 5

end Level

/-- A detail of an event. -/
inductive Detail where
  | text (text : String)
  | count (count : Nat)
  deriving DecidableEq, Repr

/-- An event. -/
structure Event where
  level : Level
  /-- The part of the program that reports. -/
  target : String
  message : String
  details : List (String × Detail)
  /-- Whether the event tells how long something took. -/
  timed : Bool
  deriving DecidableEq, Repr

/-- The hexadecimal digits. -/
def hexDigits : List Char :=
  "0123456789abcdef".toList

/-- A character inside a JSON string. -/
def escapeChar (char : Char) : List Char :=
  if char = '"' then ['\\', '"']
  else if char = '\\' then ['\\', '\\']
  else if char = '\n' then ['\\', 'n']
  else if char = '\r' then ['\\', 'r']
  else if char = '\t' then ['\\', 't']
  else if char = '\x08' then ['\\', 'b']
  else if char = '\x0C' then ['\\', 'f']
  else if char.toNat < 0x20 then
    ['\\', 'u', '0', '0', hexDigits.getD (char.toNat / 16) '0',
      hexDigits.getD (char.toNat % 16) '0']
  else [char]

/-- A text as a JSON string. -/
def quoted (text : String) : String :=
  String.ofList ('"' :: (text.toList.flatMap escapeChar ++ ['"']))

namespace Detail

/-- A detail in JSON. -/
def json : Detail → String
  | .text words => quoted words
  | .count number => String.ofList (Nat.toDigits 10 number)

end Detail

/-- A JSON object of named parts. -/
def object (parts : List (String × String)) : String :=
  "\x7b" ++ String.intercalate "," (parts.map fun part => quoted part.1 ++ ":" ++ part.2) ++ "\x7d"

namespace Event

/-- The message, the details and the time of an event, which took the given
milliseconds. -/
def fields (elapsed : Nat) (event : Event) : List (String × Detail) :=
  ("message", .text event.message) :: event.details ++
    (if event.timed then [("elapsed_ms", .count elapsed)] else [])

/-- The names of what an event tells. -/
def detailNames (event : Event) : List String :=
  (event.fields 0).map (·.1)

/-- The line of an event at a time. What took time took the given milliseconds. -/
def line (timestamp : String) (elapsed : Nat) (event : Event) : String :=
  object
    [("timestamp", quoted timestamp), ("level", quoted event.level.name),
      ("fields", object ((event.fields elapsed).map fun field => (field.1, field.2.json))),
      ("target", quoted event.target)] ++ "\n"

end Event

/-- A result with the events reported on the way to it. -/
structure Reported (α : Type) where
  events : List Event
  result : α

namespace Reported

/-- A result without events. -/
def silent {α : Type} (result : α) : Reported α :=
  ⟨[], result⟩

end Reported

end Tabula.Log
