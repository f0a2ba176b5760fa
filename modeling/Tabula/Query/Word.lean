import Tabula.Query.Token
import Tabula.Text.Alphabetic
import Tabula.Text.Numeric
import Tabula.Text.Case

/-!
# Words of a query

Outside quotes a query is made of words and signs. A word is a run of letters,
numerals, points, underscores and asterisks, and is read in lower case. It is, in
this order, one of the words `and` and `or`, a number, a keyword, an identifier,
or unknown.
-/

namespace Tabula.Query

/-- Whether a character belongs to words. -/
def isWordChar (char : Char) : Bool :=
  Text.isAlphabetic char || Text.isNumeric char || char = '.' || char = '_' || char = '*'

/-- Whether characters are one or more decimal digits. -/
def areDigits (chars : List Char) : Bool :=
  !chars.isEmpty && chars.all Char.isDigit

/-- Reads a word as a number: digits, or digits, a point and digits. -/
def numberOfWord? (word : List Char) : Option Binary64 :=
  let whole := word.takeWhile (· ≠ '.')
  let wellFormed := areDigits whole && match word.dropWhile (· ≠ '.') with
    | [] => true
    | _ :: fraction => areDigits fraction
  if wellFormed then Binary64.read? word else none

/-- Whether a word is a letter followed by letters, numerals and underscores. -/
def isIdentifier : List Char → Bool
  | [] => false
  | first :: rest =>
      Text.isAlphabetic first &&
        rest.all fun char => Text.isAlphabetic char || Text.isNumeric char || char = '_'

/-- The token that a word stands for. -/
def Token.ofWord (word : String) : Token :=
  if word = "and" then .and
  else if word = "or" then .or
  else match numberOfWord? word.toList with
    | some value => .number value
    | none => match Keyword.ofWord? word with
      | some reserved => .keyword reserved
      | none =>
          if word = "*" || isIdentifier word.toList then .identifier word else .unknown word

/-- No word is a comparison sign or a bracket. -/
theorem Token.ofWord_isOperator {word : String} (operator : (Token.ofWord word).isOperator = true) :
    Token.ofWord word = .and ∨ Token.ofWord word = .or := by
  revert operator
  unfold Token.ofWord
  repeat' split
  all_goals simp [Token.isOperator]

end Tabula.Query
