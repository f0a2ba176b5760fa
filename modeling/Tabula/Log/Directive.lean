import Tabula.Binary64.Text
import Tabula.Log.Event
import Tabula.Log.Pattern
import Tabula.Text.Blank
import Tabula.Text.Utf8

/-!
# Directives of a log filter

A directive gives the verbosity for events: of the parts of the program whose names
begin with its target, and with the detail that it names. Either can be left out,
and so can the verbosity, which then is the highest. A directive that names a span
or the value of a detail is about spans.

Blanks around a directive are not read, but its parts are cut out of the whole piece
of text, at the distances in bytes at which they lie in the text without the blanks.
So blanks before a directive move its parts.
-/

namespace Tabula.Log

open Text.Utf8 (byteCount)

/-- The verbosity for some events. -/
structure Directive where
  /-- The beginning of the names of the parts of the program. -/
  target : Option String
  /-- The detail that the events have. -/
  detail : Option String
  verbosity : Nat
  deriving DecidableEq, Repr

namespace Directive

/-- The words for verbosities, in any letter case. -/
def words : List (String × Nat) :=
  [("off", 0), ("error", 1), ("warn", 2), ("info", 3), ("debug", 4), ("trace", 5)]

/-- The highest verbosity. -/
def highest : Nat := 5

/-- The verbosity that a word or a number stands for. -/
def verbosity? (word : List Char) : Option Nat :=
  let digits := if word.head? = some '+' then word.tail else word
  if !digits.isEmpty && digits.all Char.isDigit then
    some (digits.foldl (fun value digit => value * 10 + (digit.toNat - '0'.toNat)) 0)
      |>.filter (· ≤ highest)
  else words.lookup (String.ofList (word.map Char.toLower))

/-- A text without its first bytes. -/
def dropBytes : Nat → List Char → List Char
  | _, [] => []
  | count, char :: rest =>
      if count = 0 then char :: rest else dropBytes (count - char.utf8Size) rest

/-- The first bytes of a text. -/
def takeBytes : Nat → List Char → List Char
  | _, [] => []
  | count, char :: rest =>
      if count = 0 then [] else char :: takeBytes (count - char.utf8Size) rest

/-- Whether a character may begin a directive without a span. -/
def beginsTarget (char : Char) : Bool :=
  char = '-' || char = ':' || char = '_' || Text.isAlphabetic char || Text.isNumeric char

/-- The verbosity at the end of a piece, from the given distance on. -/
def readVerbosity (piece : List Char) (distance : Nat) : Option Nat :=
  match dropBytes distance piece with
  | [] => some highest
  | word => verbosity? word

/-- Reads what follows a closing bracket: nothing, or an equals sign and a verbosity. -/
def readLevel (piece : List Char) (distance : Nat) : List Char → Option Nat
  | [] => some highest
  | '=' :: _ => readVerbosity piece (distance + 1)
  | _ => none

/-- Reads the name of a detail, which a value may follow. The second result says whether
one does; it must be a number or a pattern. -/
def readDetail (text : List Char) : Option (String × Bool) :=
  let name := String.ofList (text.takeWhile (· ≠ '='))
  match text.dropWhile (· ≠ '=') with
  | [] => some (name, false)
  | _ :: rest =>
      let value := rest.takeWhile (· ≠ '=')
      if (Binary64.read? value).isSome || Pattern.isPattern value then some (name, true) else none

/-- Reads what follows an opening bracket: a span, a detail in braces, or both. A
directive about spans is read to nothing. -/
def readBrackets (piece : List Char) (target : Option String) (distance : Nat)
    (text : List Char) : Option (Option Directive) :=
  let span := text.takeWhile fun char => char ≠ ']' && char ≠ '{'
  let opened := distance + byteCount span + 1
  match text.drop span.length with
  | ']' :: rest => (readLevel piece opened rest).map fun _ => none
  | '{' :: body =>
      let width := byteCount (body.takeWhile (· ≠ '}'))
      match body.dropWhile (· ≠ '}') with
      | '}' :: ']' :: rest =>
          if width = 0 then none
          else do
            let (name, hasValue) ← readDetail (takeBytes width (dropBytes opened piece))
            let verbosity ← readLevel piece (opened + width + 2) rest
            return if span.isEmpty && !hasValue then some ⟨target, some name, verbosity⟩ else none
      | _ => none
  | _ => none

/-- Reads a directive. One about spans, to which no event belongs, is read to nothing. -/
def read? (piece : List Char) : Option (Option Directive) :=
  match Text.trim piece with
  | [] => none
  | '[' :: body => readBrackets piece none 1 body
  | first :: rest =>
      if !beginsTarget first then none
      else
        let name := (first :: rest).takeWhile fun char => char ≠ '=' && char ≠ '['
        let width := byteCount name
        let target := some (String.ofList (takeBytes width piece))
        match (first :: rest).drop name.length with
        | '[' :: body => readBrackets piece target (width + 1) body
        | _ :: _ =>
            (readVerbosity piece (width + 1)).map fun verbosity => some ⟨target, none, verbosity⟩
        | [] =>
            match verbosity? piece with
            | some verbosity => some (some ⟨none, none, verbosity⟩)
            | none => some (some ⟨some (String.ofList piece), none, highest⟩)

/-- Whether a directive is about an event. -/
def covers (directive : Directive) (event : Event) : Bool :=
  (directive.target.all fun target => target.toList.isPrefixOf event.target.toList) &&
    directive.detail.all event.detailNames.contains

/-- The length of the target. -/
def specificity (directive : Directive) : Nat :=
  match directive.target with
  | some target => target.utf8ByteSize + 1
  | none => 0

/-- Whether a detail counts for more than another one. -/
def detailOutranks : Option String → Option String → Bool
  | none, _ => false
  | some _, none => true
  | some name, some other => other < name

/-- Whether a directive counts for more than another one that is about the same event: a
longer target does, and with the same target a detail. -/
def outranks (directive other : Directive) : Bool :=
  other.specificity < directive.specificity ||
    (other.specificity = directive.specificity && detailOutranks directive.detail other.detail)

end Directive

end Tabula.Log
