import Tabula.Text.Utf8

/-!
# Lines of input

Bytes are cut into lines after every line feed. The line feed does not belong to its
line, nor does one carriage return before it. Bytes after the last line feed make a
line of their own, which keeps its carriage return. A line that is not UTF-8 cannot
be read, but the lines after it can.
-/

namespace Tabula.Input

/-- A line of input. -/
inductive Line where
  | text (text : String)
  /-- The bytes of the line are not UTF-8. -/
  | unreadable
  deriving DecidableEq, Repr

namespace Line

/-- The byte that ends a line. -/
def feed : UInt8 := 0x0A

/-- The byte that may stand before the end of a line. -/
def carriageReturn : UInt8 := 0x0D

/-- Takes away one carriage return at the beginning. -/
def dropReturn : List UInt8 → List UInt8
  | [] => []
  | byte :: rest => if byte = carriageReturn then rest else byte :: rest

/-- The lines of bytes, given the bytes of the first line read so far, the latest
first. -/
def cutFrom (line : List UInt8) : List UInt8 → List (List UInt8)
  | [] => if line.isEmpty then [] else [line.reverse]
  | byte :: rest =>
      if byte = feed then (dropReturn line).reverse :: cutFrom [] rest
      else cutFrom (byte :: line) rest

/-- The line of bytes without line feeds. -/
def ofBytes (bytes : List UInt8) : Line :=
  match Text.Utf8.decode? bytes with
  | some words => .text words
  | none => .unreadable

/-- The lines of bytes. -/
def all (bytes : List UInt8) : List Line :=
  (cutFrom [] bytes).map ofBytes

/-- The bytes up to the last line feed. -/
def finishedPart (bytes : List UInt8) : List UInt8 :=
  (bytes.reverse.dropWhile fun byte => byte ≠ feed).reverse

/-- The lines that are ended by a line feed. -/
def finished (bytes : List UInt8) : List Line :=
  all (finishedPart bytes)

end Line

end Tabula.Input
