import Tabula.Query.Word

/-!
# From text to tokens

Reading a query from left to right up to its terminating semicolon. Quoted text
is taken as it is, with a backslash before a character that would end it; single
quotes hold texts and double quotes identifiers. Every character that is neither
part of a word nor a sign separates words and is otherwise ignored, and so is
everything after the semicolon.
-/

namespace Tabula.Query

/-- A token and the position, in bytes, where it was completed. -/
structure Placed where
  token : Token
  position : Nat
  deriving DecidableEq, Repr

/-- The two kinds of quoted text. -/
inductive Quote where
  | text
  | identifier
  deriving DecidableEq, Repr

namespace Quote

/-- The character on both sides of quoted text. -/
def char : Quote → Char
  | .text => '\''
  | .identifier => '"'

/-- The token for quoted characters; an empty identifier is no token. -/
def token? : Quote → List Char → Option Token
  | .text, chars => some (.text (String.ofList chars))
  | .identifier, [] => none
  | .identifier, chars => some (.identifier (String.ofList chars))

end Quote

/-- How reading a query ends. -/
inductive Ending where
  /-- At the terminating semicolon. -/
  | terminated
  /-- Inside quoted text that was opened at the position. -/
  | unclosed (quote : Quote) (position : Nat)
  /-- At the end of the text, which has this many bytes. -/
  | unterminated (length : Nat)
  deriving DecidableEq, Repr

/-- The tokens of a text and the end of its reading. -/
structure Lexemes where
  tokens : List Placed
  ending : Ending
  deriving DecidableEq, Repr

namespace Lexemes

/-- The same reading after further tokens. -/
def after (tokens : List Placed) (lexemes : Lexemes) : Lexemes :=
  { lexemes with tokens := tokens ++ lexemes.tokens }

/-- What the characters before the current one have begun. Characters that are
still to be put into a token are kept in reverse. -/
inductive Mode where
  /-- Outside quotes, after the characters of a word, which may be none. -/
  | plain (word : List Char)
  /-- Inside quotes; `escaped` holds after a backslash. -/
  | quoted (quote : Quote) (start : Nat) (chars : List Char) (escaped : Bool)
  deriving DecidableEq, Repr

/-- The token of the word that a separator ends, if there is a word. -/
def wordToken (word : List Char) (position : Nat) : List Placed :=
  if word.isEmpty then [] else [⟨Token.ofWord (String.ofList word.reverse), position⟩]

/-- The token that a sign stands for. -/
def signToken? (char : Char) : Option Token :=
  if char = '(' then some .openBracket
  else if char = ')' then some .closeBracket
  else (Comparison.ofChar? char).map .compare

/-- Reads the rest of a text from a position on. -/
def scanFrom (position : Nat) (mode : Mode) : List Char → Lexemes
  | [] =>
      match mode with
      | .plain _ => ⟨[], .unterminated position⟩
      | .quoted quote start _ _ => ⟨[], .unclosed quote start⟩
  | char :: rest =>
      let next := position + char.utf8Size
      match mode with
      | .quoted quote start chars true =>
          scanFrom next (.quoted quote start (char :: chars) false) rest
      | .quoted quote start chars false =>
          if char = '\\' then scanFrom next (.quoted quote start chars true) rest
          else if char = quote.char then
            (scanFrom next (.plain []) rest).after
              ((quote.token? chars.reverse).map (⟨·, start⟩)).toList
          else scanFrom next (.quoted quote start (char :: chars) false) rest
      | .plain word =>
          if char = ';' then ⟨wordToken word position, .terminated⟩
          else if char = Quote.text.char then
            (scanFrom next (.quoted .text position [] false) rest).after (wordToken word position)
          else if char = Quote.identifier.char then
            (scanFrom next (.quoted .identifier position [] false) rest).after
              (wordToken word position)
          else match signToken? char with
            | some sign =>
                (scanFrom next (.plain []) rest).after
                  (wordToken word position ++ [⟨sign, position⟩])
            | none =>
                if isWordChar char then
                  scanFrom next (.plain ((Text.lowerChar char).reverse ++ word)) rest
                else (scanFrom next (.plain []) rest).after (wordToken word position)

/-- Reads a text. -/
def scan (text : List Char) : Lexemes :=
  scanFrom 0 (.plain []) text

end Lexemes

end Tabula.Query
