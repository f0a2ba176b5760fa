import Tabula.Yaml.Cursor

/-!
# The texts of YAML scalars

Plain and quoted scalars may go over several lines: a single line end inside them
is read as a blank, and further ones as line feeds. Block scalars keep their lines,
or fold them in the same way, and end where the indentation does.
-/

namespace Tabula.Yaml

/-- The text of a scalar so far, in reverse, and the blanks and line ends after it
that have not become part of it. -/
structure Folding where
  text : List Char
  blanks : List Char
  /-- The first line end, if one has been read and not escaped. -/
  leading : Option Char
  trailing : List Char
  /-- Whether the current line is a further one. -/
  broken : Bool

namespace Folding

/-- The text of no characters. -/
def start : Folding := ⟨[], [], none, [], false⟩

/-- Reads a blank, which counts only if no line has ended since the text. -/
def blank (folding : Folding) (char : Char) : Folding :=
  if folding.broken then folding else { folding with blanks := char :: folding.blanks }

/-- Reads a line end. -/
def lineBreak (folding : Folding) (char : Char) : Folding :=
  if folding.broken then { folding with trailing := char :: folding.trailing }
  else { folding with blanks := [], leading := some char, broken := true }

/-- Reads an escaped line end. -/
def escapedBreak (folding : Folding) : Folding :=
  { folding with blanks := [], leading := none, trailing := [], broken := true }

/-- Makes blanks and line ends part of the text. -/
def join (folding : Folding) : Folding :=
  let space :=
    if !folding.broken then folding.blanks
    else if folding.leading = some '\n' then
      if folding.trailing.isEmpty then [' '] else folding.trailing
    else folding.trailing ++ folding.leading.toList
  ⟨space ++ folding.text, [], none, [], false⟩

/-- Reads a character of the text. -/
def char (folding : Folding) (char : Char) : Folding :=
  let joined := folding.join
  { joined with text := char :: joined.text }

/-- The text. -/
def toString (folding : Folding) : String :=
  String.ofList folding.text.reverse

end Folding

namespace Scalar

/-- Whether a character ends plain scalars inside brackets and braces. -/
def isFlowSign (char : Char) : Bool :=
  char = ',' || char = '[' || char = ']' || char = '{' || char = '}'

/-- Whether a colon before the character cannot stand in a plain scalar inside
brackets and braces. -/
def isMisplacedAfterColon (char : Char) : Bool :=
  isFlowSign char || char = '?'

/-- Reads a plain scalar, in which the lines after the first are indented by at least
`indent`. The second result says whether its last line end is a further line's. -/
def plainFrom (inFlow : Bool) (indent : Int) (afterGap : Bool) (folding : Folding)
    (cursor : Cursor) : Option (Folding × Cursor) :=
  match _found : cursor.rest with
  | [] => some (folding, cursor)
  | char :: _ =>
      if isSpace char then
        if folding.broken && cursor.column < indent && char = '\t' then none
        else plainFrom inFlow indent true (folding.blank char) cursor.advance
      else if isBreak char then
        plainFrom inFlow indent true (folding.lineBreak char) cursor.advance
      else if afterGap &&
          ((!inFlow && cursor.column < indent) || cursor.isDocumentMarker || char = '#') then
        some (folding, cursor)
      else if inFlow && char = ':' && (cursor.peek 1).any isMisplacedAfterColon then none
      else if (char = ':' && isGap (cursor.peek 1)) || (inFlow && isFlowSign char) then
        some (folding, cursor)
      else plainFrom inFlow indent false (folding.char char) cursor.advance
termination_by cursor.rest.length
decreasing_by all_goals exact Cursor.advance_lt _found

/-- Reads a single-quoted scalar after its opening quote. -/
def singleQuotedFrom (folding : Folding) (cursor : Cursor) : Option (Folding × Cursor) :=
  match _found : cursor.rest with
  | [] => none
  | char :: _ =>
      if isSpace char then singleQuotedFrom (folding.blank char) cursor.advance
      else if isBreak char then singleQuotedFrom (folding.lineBreak char) cursor.advance
      else if cursor.isDocumentMarker then none
      else if char = '\'' then
        if cursor.peek 1 = some '\'' then
          singleQuotedFrom (folding.char '\'') (cursor.advanceBy 2)
        else some (folding.join, cursor.advance)
      else singleQuotedFrom (folding.char char) cursor.advance
termination_by cursor.rest.length
decreasing_by
  · exact Cursor.advance_lt _found
  · exact Cursor.advance_lt _found
  · exact Cursor.advanceBy_lt 1 _found
  · exact Cursor.advance_lt _found

/-- The characters that escapes of one character stand for. -/
def escapes : List (Char × Char) :=
  [('0', '\x00'), ('a', '\x07'), ('b', '\x08'), ('t', '\t'), ('\t', '\t'), ('n', '\n'),
   ('v', '\x0B'), ('f', '\x0C'), ('r', '\r'), ('e', '\x1B'), (' ', ' '), ('"', '"'),
   ('/', '/'), ('\\', '\\'), ('N', '\u0085'), ('_', '\u00A0'), ('L', '\u2028'),
   ('P', '\u2029')]

/-- The number of digits after the letter of a numeric escape. -/
def escapeDigits : List (Char × Nat) :=
  [('x', 2), ('u', 4), ('U', 8)]

/-- The value of a hexadecimal digit. -/
def hexDigit? (char : Char) : Option Nat :=
  if char.isDigit then some (char.toNat - '0'.toNat)
  else if 'a' ≤ char && char ≤ 'f' then some (char.toNat - 'a'.toNat + 10)
  else if 'A' ≤ char && char ≤ 'F' then some (char.toNat - 'A'.toNat + 10)
  else none

/-- The value of hexadecimal digits that follow a number already read. -/
def hexFrom (value : Nat) : List Char → Option Nat
  | [] => some value
  | digit :: rest =>
      match hexDigit? digit with
      | some amount => hexFrom (value * 16 + amount) rest
      | none => none

/-- The character of a numeric escape, given what follows its letter. -/
def numericEscape? (digits : Nat) (rest : List Char) : Option Char :=
  let taken := rest.take digits
  if taken.length < digits then none
  else
    match hexFrom 0 taken with
    | some code =>
        if (0xD800 ≤ code && code ≤ 0xDFFF) || 0x10FFFF < code then none
        else some (Char.ofNat code)
    | none => none

/-- Reads a double-quoted scalar after its opening quote. -/
def doubleQuotedFrom (folding : Folding) (cursor : Cursor) : Option (Folding × Cursor) :=
  match _found : cursor.rest with
  | [] => none
  | char :: after =>
      if isSpace char then doubleQuotedFrom (folding.blank char) cursor.advance
      else if isBreak char then doubleQuotedFrom (folding.lineBreak char) cursor.advance
      else if cursor.isDocumentMarker then none
      else if char = '"' then some (folding.join, cursor.advance)
      else if char = '\\' then
        match after with
        | [] => none
        | letter :: rest =>
            if isBreak letter then doubleQuotedFrom folding.join.escapedBreak (cursor.advanceBy 2)
            else match escapes.lookup letter with
              | some escaped => doubleQuotedFrom (folding.char escaped) (cursor.advanceBy 2)
              | none =>
                  match escapeDigits.lookup letter with
                  | none => none
                  | some digits =>
                      match numericEscape? digits rest with
                      | none => none
                      | some escaped =>
                          doubleQuotedFrom (folding.char escaped)
                            (cursor.advanceBy (digits + 1 + 1))
      else doubleQuotedFrom (folding.char char) cursor.advance
termination_by cursor.rest.length
decreasing_by
  · exact Cursor.advance_lt _found
  · exact Cursor.advance_lt _found
  · exact Cursor.advanceBy_lt 1 _found
  · exact Cursor.advanceBy_lt 1 _found
  · exact Cursor.advanceBy_lt (digits + 1) _found
  · exact Cursor.advance_lt _found

/-- What becomes of the line ends at the end of a block scalar. -/
inductive Chomping where
  | strip
  | clip
  | keep
  deriving DecidableEq

/-- Reads the empty lines before a line of a block scalar, and its indentation. While
the indentation is unknown, `indent` is zero. The results are the line ends in
reverse and the greatest indentation seen. -/
def blockGap (indent widest : Nat) (breaks : List Char) (cursor : Cursor) :
    Option (List Char × Nat × Cursor) :=
  match _found : cursor.rest with
  | [] => some (breaks, max widest cursor.column, cursor)
  | char :: _ =>
      let indenting := indent = 0 || cursor.column < indent
      if indenting && char = ' ' then blockGap indent widest breaks cursor.advance
      else if indenting && char = '\t' then none
      else if isBreak char then
        blockGap indent (max widest cursor.column) (char :: breaks) cursor.advance
      else some (breaks, max widest cursor.column, cursor)
termination_by cursor.rest.length
decreasing_by all_goals exact Cursor.advance_lt _found

/-- A block scalar being read: its text in reverse, the end of its last line, the line
ends of empty lines after it in reverse, and whether the last line began with a
blank. -/
structure Block where
  text : List Char
  leading : Option Char
  trailing : List Char
  blankLine : Bool

/-- Makes the line ends before a line part of the text. -/
def Block.join (block : Block) (folded blankLine : Bool) : List Char :=
  if folded && block.leading = some '\n' && !block.blankLine && !blankLine then
    (if block.trailing.isEmpty then [' '] else block.trailing) ++ block.text
  else block.trailing ++ (block.leading.toList ++ block.text)

/-- Reads the lines of a block scalar. Every line takes at least one of the `fuel`
characters. -/
def blockLines (fuel : Nat) (folded : Bool) (indent : Nat) (block : Block) (cursor : Cursor) :
    Option (Block × Cursor) :=
  match fuel, cursor.rest with
  | fuel + 1, first :: _ =>
      if cursor.column ≠ indent then some (block, cursor)
      else
        let blankLine := isSpace first
        let joined := block.join folded blankLine
        let (line, lineEnd) := cursor.takeWhile fun char => !isBreak char
        match blockGap indent 0 [] lineEnd.advance with
        | none => none
        | some (breaks, _, next) =>
            let block : Block := ⟨line.reverse ++ joined, lineEnd.peek 0, breaks, blankLine⟩
            blockLines fuel folded indent block next
  | _, _ => some (block, cursor)

/-- The indentation indicator of a block scalar: a digit other than zero. -/
def readIndicator (cursor : Cursor) : Option (Option Nat × Cursor) :=
  match cursor.peek 0 with
  | some char =>
      if char = '0' then none
      else if char.isDigit then some (some (char.toNat - '0'.toNat), cursor.advance)
      else some (none, cursor)
  | none => some (none, cursor)

/-- The chomping indicator of a block scalar. -/
def readChomping (cursor : Cursor) : Option Chomping × Cursor :=
  if cursor.peek 0 = some '+' then (some .keep, cursor.advance)
  else if cursor.peek 0 = some '-' then (some .strip, cursor.advance)
  else (none, cursor)

/-- Reads the indicators of a block scalar, which come in either order. -/
def readIndicators (cursor : Cursor) : Option (Chomping × Option Nat × Cursor) :=
  match readChomping cursor with
  | (some chomping, next) =>
      (readIndicator next).map fun (increment, after) => (chomping, increment, after)
  | (none, _) =>
      (readIndicator cursor).map fun (increment, next) =>
        if increment.isSome then
          ((readChomping next).1.getD .clip, increment, (readChomping next).2)
        else (.clip, none, next)

/-- Skips blanks and a comment up to the end of the line. -/
def skipToLineEnd (cursor : Cursor) : Option Cursor :=
  let next := cursor.skipWhile isSpace
  let lineEnd := if next.peek 0 = some '#' then next.skipWhile fun char => !isBreak char else next
  if (lineEnd.peek 0).all isBreak then some lineEnd.advance else none

/-- Reads a block scalar after its sign, inside a block of the given indentation. -/
def block (folded : Bool) (parentIndent : Int) (cursor : Cursor) : Option (String × Cursor) := do
  let (chomping, increment, afterIndicators) ← readIndicators cursor
  let content ← skipToLineEnd afterIndicators
  let known := match increment with
    | some amount => (max parentIndent 0).toNat + amount
    | none => 0
  let (breaks, widest, first) ← blockGap known 0 [] content
  let indent :=
    if known = 0 then max (max widest (parentIndent + 1).toNat) 1 else known
  let (result, next) ←
    blockLines (first.rest.length + 1) folded indent ⟨[], none, breaks, false⟩ first
  let tail := match chomping with
    | .strip => []
    | .clip => result.leading.toList
    | .keep => result.trailing ++ result.leading.toList
  return (String.ofList (tail ++ result.text).reverse, next)

end Scalar

end Tabula.Yaml
