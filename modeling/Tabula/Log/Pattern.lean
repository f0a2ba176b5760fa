import Tabula.Text.Alphabetic
import Tabula.Text.Numeric

/-!
# Patterns

The regular expressions that a log filter accepts: literals, classes in brackets,
groups with or without a name, flags, alternatives, repetitions and anchors at the
ends of a text. A pattern is accepted or refused; it is never matched, because the
values that it is about belong to spans, and the program has none.
-/

namespace Tabula.Log.Pattern

/-- What a backslash and the characters after it stand for. -/
inductive Escape where
  | literal (char : Char)
  | manyChars
  | anchor
  deriving DecidableEq, Repr

/-- Whether a backslash makes the character literal: all ASCII characters but letters,
numerals and angle brackets. -/
def isEscapable (char : Char) : Bool :=
  char.toNat < 0x80 && !char.isAlphanum && char ≠ '<' && char ≠ '>'

/-- The letters for control characters. -/
def controls : List (Char × Char) :=
  [('a', '\x07'), ('f', '\x0C'), ('t', '\t'), ('n', '\n'), ('r', '\r'), ('v', '\x0B')]

/-- The value of a hexadecimal numeral. -/
def hexValue? (char : Char) : Option Nat :=
  if char.isDigit then some (char.toNat - '0'.toNat)
  else if 'a' ≤ char.toLower && char.toLower ≤ 'f' then some (char.toLower.toNat - 'a'.toNat + 10)
  else none

/-- Reads a character that is given by a number of hexadecimal numerals. -/
def readCode (digits : Nat) (text : List Char) : Option (Escape × List Char) := do
  let taken := text.take digits
  if taken.length < digits then none
  let code ← taken.foldlM (fun value digit => (hexValue? digit).map (value * 16 + ·)) 0
  if code.isValidChar then some (.literal (Char.ofNat code), text.drop digits) else none

/-- Reads what follows a backslash. -/
def readEscape : List Char → Option (Escape × List Char)
  | [] => none
  | 'x' :: rest => readCode 2 rest
  | 'u' :: rest => readCode 4 rest
  | 'U' :: rest => readCode 8 rest
  | char :: rest =>
      if char = 'p' || char = 'P' then
        match rest with
        | name :: after =>
            if "LMNPSZC".toList.contains name.toUpper then some (.manyChars, after) else none
        | [] => none
      else if "dDsSwW".toList.contains char then some (.manyChars, rest)
      else if char = 'A' || char = 'z' then some (.anchor, rest)
      else match controls.lookup char with
        | some control => some (.literal control, rest)
        | none => if isEscapable char then some (.literal char, rest) else none

/-- Goes past the beginning of a class: the sign for its complement, hyphens, and a
closing bracket if it comes first. -/
def enterClass (text : List Char) : List Char :=
  let body := if text.head? = some '^' then text.tail else text
  if body.head? = some '-' then body.dropWhile (· = '-')
  else if body.head? = some ']' then body.tail
  else body

/-- The names of classes of ASCII characters. -/
def asciiClasses : List String :=
  ["alnum", "alpha", "ascii", "blank", "cntrl", "digit", "graph", "lower", "print", "punct",
   "space", "upper", "word", "xdigit"]

/-- Reads the name of a class between colons, after its opening bracket. -/
def readAsciiClass (text : List Char) : Option (List Char) :=
  match text with
  | ':' :: body =>
      let named := if body.head? = some '^' then body.tail else body
      let name := named.takeWhile (· ≠ ':')
      match named.dropWhile (· ≠ ':') with
      | ':' :: ']' :: rest => if asciiClasses.contains (String.ofList name) then some rest else none
      | _ => none
  | _ => none

/-- Reads an item of a class: one character, or an escape for many. -/
def readItem : List Char → Option (Option Char × List Char)
  | [] => none
  | '\\' :: rest =>
      match readEscape rest with
      | some (.literal char, after) => some (some char, after)
      | some (.manyChars, after) => some (none, after)
      | _ => none
  | char :: rest => some (some char, rest)

/-- Reads an item of a class or a range of characters, which must not run backwards. -/
def readRange (text : List Char) : Option (List Char) :=
  match readItem text with
  | none => none
  | some (first, rest) =>
      match rest with
      | '-' :: ']' :: _ | '-' :: '-' :: _ => some rest
      | '-' :: after =>
          match first, readItem after with
          | some first, some (some last, remaining) =>
              if first ≤ last then some remaining else none
          | _, _ => none
      | _ => some rest

/-- Goes past the rest of a class inside `depth` other ones. Every step takes at least
one of the `fuel` characters. -/
def leaveClass : Nat → Nat → List Char → Option (List Char)
  | 0, _, _ => none
  | fuel + 1, depth, text =>
      match text with
      | [] => none
      | ']' :: rest => if depth = 0 then some rest else leaveClass fuel (depth - 1) rest
      | '[' :: rest =>
          match readAsciiClass rest with
          | some after => leaveClass fuel depth after
          | none => leaveClass fuel (depth + 1) (enterClass rest)
      | '&' :: '&' :: rest | '-' :: '-' :: rest | '~' :: '~' :: rest => leaveClass fuel depth rest
      | _ =>
          match readRange text with
          | some rest => leaveClass fuel depth rest
          | none => none

/-- Whether a text can be the name of a group. -/
def isGroupName : List Char → Bool
  | [] => false
  | first :: rest =>
      (first = '_' || Text.isAlphabetic first) &&
        rest.all fun char =>
          char = '_' || char = '.' || char = '[' || char = ']' || Text.isAlphabetic char ||
            Text.isNumeric char

/-- Whether the text is a list of flags, each given once, of which those after a hyphen
are turned off. -/
def areFlags (flags : List Char) : Bool :=
  flags.all ("imsUuRx-".toList.contains ·) && decide flags.Nodup && flags.getLast? ≠ some '-'

/-- Reads the beginning of a group after its bracket. The first result says whether a
group is open: flags alone are a group that is closed at once. -/
def readGroup (text : List Char) : Option (Bool × List Char) :=
  match text with
  | '?' :: 'P' :: '<' :: body | '?' :: '<' :: body =>
      match body.dropWhile (· ≠ '>') with
      | '>' :: rest => if isGroupName (body.takeWhile (· ≠ '>')) then some (true, rest) else none
      | _ => none
  | '?' :: body =>
      let flags := body.takeWhile fun char => char ≠ ':' && char ≠ ')'
      if areFlags flags then
        match body.drop flags.length with
        | ':' :: rest => some (true, rest)
        | _ :: rest => if flags.isEmpty then none else some (false, rest)
        | [] => none
      else none
  | _ => some (true, text)

/-- Whether the text is the rest of a pattern inside `depth` groups. A repetition needs
an operand before it. Every step takes at least one of the `fuel` characters. -/
def isRest : Nat → Nat → Bool → List Char → Bool
  | 0, _, _, _ => false
  | fuel + 1, depth, operand, text =>
      match text with
      | [] => depth = 0
      | '(' :: body =>
          match readGroup body with
          | some (true, rest) => isRest fuel (depth + 1) false rest
          | some (false, rest) => isRest fuel depth false rest
          | none => false
      | ')' :: rest => depth ≠ 0 && isRest fuel (depth - 1) true rest
      | '|' :: rest => isRest fuel depth false rest
      | '[' :: body =>
          match leaveClass (body.length + 1) 0 (enterClass body) with
          | some rest => isRest fuel depth true rest
          | none => false
      | '\\' :: body =>
          match readEscape body with
          | some (_, rest) => isRest fuel depth true rest
          | none => false
      | '{' :: _ => false
      | char :: rest =>
          if char = '*' || char = '+' || char = '?' then operand && isRest fuel depth true rest
          else isRest fuel depth true rest

/-- Whether a text without a closing brace is a pattern: no repetition can be counted in
it. -/
def isPattern (text : List Char) : Bool :=
  isRest (text.length + 1) 0 false text

end Tabula.Log.Pattern
