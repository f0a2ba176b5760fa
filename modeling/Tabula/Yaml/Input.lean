import Tabula.Text.Utf8

/-!
# The characters of a YAML stream

A stream is UTF-8 and holds printable characters only, of which a byte order mark
is one. All line ends but two are one and the same; they are read as line feeds.
-/

namespace Tabula.Yaml

/-- The characters that YAML allows. -/
def isPrintable (char : Char) : Bool :=
  let code := char.toNat
  code == 0x09 || code == 0x0A || code == 0x0D || (0x20 ≤ code && code ≤ 0x7E) ||
    code == 0x85 || (0xA0 ≤ code && code ≤ 0xFFFD) || 0x10000 ≤ code

/-- Reads carriage returns and next line characters as line feeds, and a carriage
return with a line feed as one. -/
def unifyBreaks : List Char → List Char
  | '\r' :: '\n' :: rest => '\n' :: unifyBreaks rest
  | '\r' :: rest => '\n' :: unifyBreaks rest
  | '\u0085' :: rest => '\n' :: unifyBreaks rest
  | char :: rest => char :: unifyBreaks rest
  | [] => []

/-- The characters of a stream, if it is well encoded and printable. -/
def characters? (bytes : List UInt8) : Option (List Char) :=
  match Text.Utf8.decode? bytes with
  | some text => if text.toList.all isPrintable then some (unifyBreaks text.toList) else none
  | none => none

end Tabula.Yaml
