/-!
# A place in a YAML stream

The characters that are still to be read, with the line, the column in characters
and the number of bytes before them.
-/

namespace Tabula.Yaml

/-- Whether a character ends a line. -/
def isBreak (char : Char) : Bool :=
  char = '\n' || char = '\u2028' || char = '\u2029'

/-- Whether a character is a blank inside a line. -/
def isSpace (char : Char) : Bool :=
  char = ' ' || char = '\t'

/-- Whether a character separates, or the stream has ended. -/
def isGap (char : Option Char) : Bool :=
  char.all fun char => isSpace char || isBreak char

/-- Whether a character may stand in the names of anchors, handles and directives. -/
def isNameChar (char : Char) : Bool :=
  char.isAlphanum || char = '-' || char = '_'

/-- A place in a stream. -/
structure Cursor where
  rest : List Char
  line : Nat
  column : Nat
  /-- The number of bytes before the place. -/
  offset : Nat
  deriving Repr

namespace Cursor

/-- The beginning of a stream. -/
def start (chars : List Char) : Cursor := ⟨chars, 0, 0, 0⟩

/-- The character some places further on. -/
def peek (cursor : Cursor) (distance : Nat) : Option Char :=
  cursor.rest[distance]?

/-- The place after the next character. -/
def advance (cursor : Cursor) : Cursor :=
  match cursor.rest with
  | [] => cursor
  | char :: rest =>
      if isBreak char then ⟨rest, cursor.line + 1, 0, cursor.offset + char.utf8Size⟩
      else ⟨rest, cursor.line, cursor.column + 1, cursor.offset + char.utf8Size⟩

/-- The place after a number of characters. -/
def advanceBy : Nat → Cursor → Cursor
  | 0, cursor => cursor
  | count + 1, cursor => (cursor.advanceBy count).advance

/-- Reads the characters that satisfy a test. -/
def takeWhile (cursor : Cursor) (test : Char → Bool) : List Char × Cursor :=
  let taken := cursor.rest.takeWhile test
  (taken, cursor.advanceBy taken.length)

/-- The place after the characters that satisfy a test. -/
def skipWhile (cursor : Cursor) (test : Char → Bool) : Cursor :=
  (cursor.takeWhile test).2

/-- Whether the line begins with three times a character, followed by a gap. -/
def isMarker (cursor : Cursor) (char : Char) : Bool :=
  cursor.column = 0 && cursor.rest.take 3 = [char, char, char] && isGap (cursor.peek 3)

/-- Whether the line begins or ends a document. -/
def isDocumentMarker (cursor : Cursor) : Bool :=
  cursor.isMarker '-' || cursor.isMarker '.'

theorem advance_rest (cursor : Cursor) : cursor.advance.rest = cursor.rest.tail := by
  rcases cursor with ⟨rest, line, column, offset⟩
  cases rest with
  | nil => rfl
  | cons char rest => by_cases ends : isBreak char <;> simp [advance, ends]

theorem advance_lt {cursor : Cursor} {char : Char} {rest : List Char}
    (found : cursor.rest = char :: rest) : cursor.advance.rest.length < cursor.rest.length := by
  rw [advance_rest, found]
  simp

theorem advanceBy_rest (count : Nat) (cursor : Cursor) :
    (cursor.advanceBy count).rest = cursor.rest.drop count := by
  induction count with
  | zero => rfl
  | succ count ih => rw [advanceBy, advance_rest, ih, List.tail_drop]

theorem advanceBy_lt {cursor : Cursor} {char : Char} {rest : List Char} (count : Nat)
    (found : cursor.rest = char :: rest) :
    (cursor.advanceBy (count + 1)).rest.length < cursor.rest.length := by
  rw [advanceBy_rest, found, List.length_drop, List.length_cons]
  omega

end Cursor

end Tabula.Yaml
