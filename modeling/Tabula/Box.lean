import Tabula.Table.Projection
import Tabula.Text.Case
import Tabula.Text.Columns

/-!
# Tables in boxes

A table is drawn with light box-drawing lines: a rule, the upper-cased names of
the columns, a rule, the rows, and a rule. A cell of several lines makes its row as
many lines high. Every column is as wide as its widest line, measured in terminal
columns, with a blank on both sides; numbers stand on the right, texts and names on
the left. A table without columns is drawn as nothing.

The length of a piece of a rule is kept in sixteen bits. So a rule covers columns of up to
65533 terminal columns with their blanks, and falls short of wider ones. What else comes of
the sixteen bits is not modelled: a line of a cell that is wider than 65535 terminal columns
is not broken there, and the blanks that fill a field beyond that width are not left out.
-/

namespace Tabula.Box

/-- A cell of the drawing: its lines, and whether they stand on the right. -/
structure Cell where
  lines : List (List Char)
  onRight : Bool
  deriving DecidableEq, Repr

namespace Cell

/-- The lines of a text, between its line feeds. -/
def linesFrom (line : List Char) : List Char → List (List Char)
  | [] => [line.reverse]
  | char :: rest =>
      if char = '\n' then line.reverse :: linesFrom [] rest else linesFrom (char :: line) rest

/-- The cell of a text. -/
def ofText (text : String) (onRight : Bool) : Cell :=
  ⟨linesFrom [] text.toList, onRight⟩

/-- The width of the widest line. -/
def width (cell : Cell) : Nat :=
  (cell.lines.map Text.columns).foldl max 0

/-- The number of lines. -/
def height (cell : Cell) : Nat :=
  cell.lines.length

/-- A line of the cell between blanks, filled up to a width. Lines that the cell
does not have are empty. -/
def paint (cell : Cell) (width line : Nat) : List Char :=
  let text := cell.lines[line]?.getD []
  let space := List.replicate (width - Text.columns text) ' '
  if cell.onRight then ' ' :: (space ++ text ++ [' ']) else ' ' :: (text ++ space ++ [' '])

end Cell

/-- The signs of a horizontal rule. -/
structure Rule where
  left : Char
  line : Char
  crossing : Char
  right : Char

/-- The rule above the names. -/
def topRule : Rule := ⟨'┌', '─', '┬', '┐'⟩

/-- The rule between the names and the rows. -/
def headRule : Rule := ⟨'├', '─', '┼', '┤'⟩

/-- The rule below the rows. -/
def bottomRule : Rule := ⟨'└', '─', '┴', '┘'⟩

/-- The sign between columns. -/
def bar : Char := '│'

/-- Joins pieces with a sign between them. -/
def joinWith (sign : Char) : List (List Char) → List Char
  | [] => []
  | [piece] => piece
  | piece :: rest => piece ++ sign :: joinWith sign rest

/-- The most signs that a rule has over one column. -/
def longestPiece : Nat := 0xFFFF

/-- A rule over columns of the given widths and the blanks beside them. -/
def Rule.draw (rule : Rule) (widths : List Nat) : List Char :=
  let pieces := widths.map fun width => List.replicate (min (width + 2) longestPiece) rule.line
  rule.left :: (joinWith rule.crossing pieces ++ [rule.right])

/-- One line of a row of cells. -/
def paintLine (widths : List Nat) (cells : List Cell) (line : Nat) : List Char :=
  let pieces := (widths.zip cells).map fun pair => pair.2.paint pair.1 line
  bar :: (joinWith bar pieces ++ [bar])

/-- The lines of a row of cells, as many as its tallest cell has. -/
def paintRow (widths : List Nat) (cells : List Cell) : List (List Char) :=
  (List.range ((cells.map Cell.height).foldl max 0)).map (paintLine widths cells)

/-- The cell of a column's name. -/
def headCell (column : Column) : Cell :=
  Cell.ofText (Text.upper column.name) false

/-- The cell of a column at a row. -/
def bodyCell (column : Column) (row : Nat) : Cell :=
  Cell.ofText (((column.cell? row).map Value.display).getD "") (column.type = .number)

/-- The width of a column, which is at least one. -/
def columnWidth (rowCount : Nat) (column : Column) : Nat :=
  ((List.range rowCount).map fun row => (bodyCell column row).width).foldl max
    (max 1 (headCell column).width)

/-- The lines of the drawing of a table. -/
def lines (table : Table) : List (List Char) :=
  let widths := table.columns.map (columnWidth table.rowCount)
  let body := (List.range table.rowCount).flatMap fun row =>
    paintRow widths (table.columns.map fun column => bodyCell column row)
  topRule.draw widths :: paintRow widths (table.columns.map headCell) ++
    headRule.draw widths :: body ++ [bottomRule.draw widths]

/-- The drawing of a table. -/
def draw (table : Table) : String :=
  if table.columns.isEmpty then ""
  else String.ofList (joinWith '\n' (lines table))

/-- Polls as many times as there are rows. -/
def checkTimes : Nat → Work Unit
  | 0 => pure ()
  | count + 1 => do
      Work.check
      checkTimes count

/-- Draws a table, polling once for every row. -/
def render (table : Table) : Work String := do
  if table.columns.isEmpty then return ""
  checkTimes table.rowCount
  return draw table

end Tabula.Box
