import Tabula.Binary64.Text

/-!
# Values

A cell of a table and a literal of a query are numbers or texts. This module
holds their types, the comparison signs of a condition, and the comparison of a
cell with a literal: both must have the same type, and texts can only be tested
for equality.
-/

namespace Tabula

/-- The type that a column declares. -/
inductive CellType where
  | number
  | text
  deriving DecidableEq, Repr

namespace CellType

/-- The word that stands for the type. -/
def word : CellType → String
  | .number => "number"
  | .text => "string"

/-- The type that a word stands for. -/
def ofWord? (word : String) : Option CellType :=
  if word = "number" then some .number
  else if word = "string" then some .text
  else none

@[simp]
theorem ofWord?_word (type : CellType) : ofWord? type.word = some type := by
  cases type <;> rfl

/-- Whether values of the type can be put in order. -/
def isOrdered (type : CellType) : Bool :=
  type = .number

end CellType

/-- The sign of a comparison. -/
inductive Comparison where
  | equal
  | less
  | greater
  deriving DecidableEq, Repr

namespace Comparison

/-- The sign as it is written. -/
def symbol : Comparison → Char
  | .equal => '='
  | .less => '<'
  | .greater => '>'

/-- The sign that a character stands for. -/
def ofChar? (char : Char) : Option Comparison :=
  if char = '=' then some .equal
  else if char = '<' then some .less
  else if char = '>' then some .greater
  else none

@[simp]
theorem ofChar?_symbol (comparison : Comparison) :
    ofChar? comparison.symbol = some comparison := by
  cases comparison <;> rfl

/-- Whether the sign asks for an order. -/
def isOrdering (comparison : Comparison) : Bool :=
  comparison ≠ .equal

end Comparison

/-- A cell of a table or a literal of a query. -/
inductive Value where
  | number (value : Binary64)
  | text (value : String)
  deriving DecidableEq, Repr

namespace Value

/-- The type of a value. -/
def type : Value → CellType
  | .number _ => .number
  | .text _ => .text

/-- The value as it is shown: numbers by their shortest text, texts as they are. -/
def display : Value → String
  | .number value => value.text
  | .text value => value

/-- Sameness of contents, for which NaN is the same as NaN. -/
def same : Value → Value → Bool
  | .number left, .number right => left.same right
  | .text left, .text right => left == right
  | _, _ => false

@[simp]
theorem same_self (value : Value) : value.same value = true := by
  cases value <;> simp [same]

/-- The value of an integer. -/
def ofInt (number : Int) : Value :=
  .number (Binary64.ofInt number)

end Value

end Tabula
