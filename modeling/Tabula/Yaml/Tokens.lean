import Tabula.Text.Utf8
import Tabula.Yaml.Scalar
import Tabula.Yaml.Token

/-!
# From characters to YAML tokens

The tokens of a stream are read one after the other. Outside brackets and braces
the indentation of a token begins and ends blocks. A token that a colon follows on
the same line is the key of a mapping, which is known only when the colon is read:
the token that begins a key is then put in front of it.
-/

namespace Tabula.Yaml

/-- A place where a key may have begun. -/
structure PossibleKey where
  /-- Whether nothing but a key can stand there. -/
  required : Bool
  /-- The number of tokens before it. -/
  place : Nat
  line : Nat
  column : Nat
  /-- The number of bytes before it. -/
  offset : Nat
  deriving Repr

/-- The state of reading tokens. -/
structure Scanner where
  cursor : Cursor
  tokens : Array Token
  /-- The column of the current block, and those of the blocks around it. -/
  indent : Int
  outerIndents : List Int
  /-- Whether a key may begin here. -/
  keyAllowed : Bool
  /-- The possible key of every open bracket or brace, the innermost first, and that
  of the block around them. -/
  keys : List (Option PossibleKey)
  deriving Repr

namespace Scanner

/-- Before the first token. -/
def start (chars : List Char) : Scanner :=
  ⟨.start chars, #[], -1, [], true, [none]⟩

/-- Whether some bracket or brace is open. -/
def inFlow (scanner : Scanner) : Bool :=
  1 < scanner.keys.length

/-- Adds a token. -/
def emit (token : Token) (scanner : Scanner) : Scanner :=
  { scanner with tokens := scanner.tokens.push token }

/-- Puts a token in front of those that come after a number of tokens. -/
def insert (place : Nat) (token : Token) (scanner : Scanner) : Scanner :=
  { scanner with tokens := scanner.tokens.insertIdxIfInBounds place token }

/-- Goes past the next characters. -/
def skip (count : Nat) (scanner : Scanner) : Scanner :=
  { scanner with cursor := scanner.cursor.advanceBy count }

/-- Says whether a key may begin next. -/
def allowKey (allowed : Bool) (scanner : Scanner) : Scanner :=
  { scanner with keyAllowed := allowed }

/-- The mark that may stand at the beginning of a line. -/
def byteOrderMark : Char := '\uFEFF'

/-- Skips blanks, comments and line ends, and a byte order mark at the beginning of a
line, where it takes up a column. Outside brackets and braces a key may begin on a
new line, and where one may begin a tab is no blank. -/
def skipGap (inFlow inComment allowed : Bool) (cursor : Cursor) : Cursor × Bool :=
  match _found : cursor.rest with
  | [] => (cursor, allowed)
  | char :: _ =>
      if isBreak char then skipGap inFlow false (allowed || !inFlow) cursor.advance
      else if inComment then skipGap inFlow true allowed cursor.advance
      else if cursor.column = 0 && char = byteOrderMark then
        skipGap inFlow false allowed cursor.advance
      else if char = ' ' || (char = '\t' && (inFlow || !allowed)) then
        skipGap inFlow false allowed cursor.advance
      else if char = '#' then skipGap inFlow true allowed cursor.advance
      else (cursor, allowed)
termination_by cursor.rest.length
decreasing_by all_goals exact Cursor.advance_lt _found

/-- The most bytes that a key can have. -/
def keyLimit : Nat := 1024

/-- Gives up possible keys that began on an earlier line or too far back; a required
key cannot be given up. -/
def dropStaleKeys (scanner : Scanner) : Option Scanner := do
  let keys ← scanner.keys.mapM fun key =>
    match key with
    | none => some none
    | some possible =>
        if possible.line < scanner.cursor.line || possible.offset + keyLimit < scanner.cursor.offset
        then (if possible.required then none else some none)
        else some (some possible)
  return { scanner with keys := keys }

/-- Gives up the possible key of the innermost level. -/
def removeKey (scanner : Scanner) : Option Scanner :=
  match scanner.keys with
  | some key :: outer => if key.required then none else some { scanner with keys := none :: outer }
  | _ => some scanner

/-- Notes that a key may begin here. In a block it must, at the column of the block. -/
def saveKey (scanner : Scanner) : Option Scanner :=
  if scanner.keyAllowed then do
    let cleared ← scanner.removeKey
    let key : PossibleKey :=
      { required := !scanner.inFlow && scanner.indent == scanner.cursor.column
        place := scanner.tokens.size
        line := scanner.cursor.line
        column := scanner.cursor.column
        offset := scanner.cursor.offset }
    return { cleared with keys := some key :: cleared.keys.tail }
  else some scanner

/-- Begins a block at a column that is further to the right, with a token put after
the first `place` ones. -/
def indentTo (column place : Nat) (token : Token) (scanner : Scanner) : Scanner :=
  if !scanner.inFlow && scanner.indent < column then
    { scanner.insert place token with
      indent := column
      outerIndents := scanner.indent :: scanner.outerIndents }
  else scanner

/-- The blocks that end before a column: how many, and the column of the block that
remains with those around it. -/
def endedBlocks (column indent : Int) : List Int → Nat × Int × List Int
  | [] => (0, indent, [])
  | outer :: rest =>
      if column < indent then
        let (count, remaining) := endedBlocks column outer rest
        (count + 1, remaining)
      else (0, indent, outer :: rest)

/-- Ends the blocks that lie to the right of a column. -/
def unindentTo (column : Int) (scanner : Scanner) : Scanner :=
  if scanner.inFlow then scanner
  else
    let (count, indent, outer) := endedBlocks column scanner.indent scanner.outerIndents
    { scanner with
      tokens := scanner.tokens ++ List.replicate count Token.blockEnd
      indent := indent
      outerIndents := outer }

/-- Ends all blocks; no key may begin before the next line. -/
def endBlocks (scanner : Scanner) : Option Scanner :=
  (scanner.unindentTo (-1)).removeKey.map (allowKey false)

/-- Reads the value of digits, of which there are at most nine. -/
def readNumber (cursor : Cursor) : Option (Nat × Cursor) :=
  let (digits, next) := cursor.takeWhile Char.isDigit
  if digits.isEmpty || 9 < digits.length then none
  else some (digits.foldl (fun value digit => value * 10 + (digit.toNat - '0'.toNat)) 0, next)

/-- The characters of tags apart from those of names and escapes. -/
def isTagSign (inUri : Bool) (char : Char) : Bool :=
  ";/?:@&=+$.!~*'()".toList.contains char || (inUri && [',', '[', ']'].contains char)

/-- The number of bytes of an encoded character with the given first byte. -/
def encodedLength? (first : Nat) : Option Nat :=
  if first < 0x80 then some 1
  else if first < 0xC0 then none
  else if first < 0xE0 then some 2
  else if first < 0xF0 then some 3
  else if first < 0xF8 then some 4
  else none

/-- The byte of an escape. -/
def escapedByte? : List Char → Option Nat
  | '%' :: high :: low :: _ => Scalar.hexFrom 0 [high, low]
  | _ => none

/-- The characters of bytes that have the form of one encoded character. -/
def decodedChars (bytes : List Nat) : List Char :=
  match Text.Utf8.decode? (bytes.map UInt8.ofNat) with
  | some text => text.toList
  | none => ['\uFFFD']

/-- Reads a character that is written as escaped bytes. -/
def readEscapedChar (cursor : Cursor) : Option (List Char × Cursor) := do
  let first ← escapedByte? cursor.rest
  let length ← encodedLength? first
  let others ← (List.range (length - 1)).mapM fun index =>
    escapedByte? (cursor.rest.drop (3 * (index + 1)))
  if !(others.all fun byte => 0x80 ≤ byte && byte < 0xC0) then none
  return (decodedChars (first :: others), cursor.advanceBy (3 * length))

/-- Reads the characters of a tag. Each takes at least one of the `fuel` characters. -/
def readUriFrom (fuel : Nat) (inUri : Bool) (read : List Char) (cursor : Cursor) :
    Option (List Char × Cursor) :=
  match fuel, cursor.rest with
  | fuel + 1, char :: _ =>
      if char = '%' then
        match readEscapedChar cursor with
        | some (chars, next) => readUriFrom fuel inUri (chars.reverse ++ read) next
        | none => none
      else if isNameChar char || isTagSign inUri char then
        readUriFrom fuel inUri (char :: read) cursor.advance
      else some (read.reverse, cursor)
  | _, _ => some (read.reverse, cursor)

/-- Reads the characters of a tag, after those of its beginning. A null character ends
the tag. -/
def readUri (inUri : Bool) (beginning : List Char) (cursor : Cursor) : Option (String × Cursor) :=
  match readUriFrom cursor.rest.length inUri [] cursor with
  | some (chars, next) =>
      if beginning.isEmpty && chars.isEmpty then none
      else some (String.ofList ((beginning.drop 1 ++ chars).takeWhile (· ≠ '\x00')), next)
  | none => none

/-- Reads the handle of a tag: an exclamation mark, and a name with another one. -/
def readHandle (cursor : Cursor) : Option (List Char × Cursor) :=
  if cursor.peek 0 = some '!' then
    let (name, next) := cursor.advance.takeWhile isNameChar
    if next.peek 0 = some '!' then some ('!' :: name ++ ['!'], next.advance)
    else some ('!' :: name, next)
  else none

/-- Reads a tag. -/
def readTag (inFlow : Bool) (cursor : Cursor) : Option (Token × Cursor) := do
  let (token, next) ←
    if cursor.peek 1 = some '<' then do
      let (suffix, next) ← readUri true [] (cursor.advanceBy 2)
      if next.peek 0 = some '>' then some (Token.tag "" suffix, next.advance) else none
    else do
      let (handle, afterHandle) ← readHandle cursor
      if 2 ≤ handle.length && handle.getLast? = some '!' then do
        let (suffix, next) ← readUri false [] afterHandle
        some (Token.tag (String.ofList handle) suffix, next)
      else do
        let (suffix, next) ← readUri false handle afterHandle
        some (if suffix.isEmpty then Token.tag "" "!" else Token.tag "!" suffix, next)
  if (inFlow && next.peek 0 = some ',') || isGap (next.peek 0) then some (token, next) else none

/-- Reads the name of an anchor or an alias. -/
def readAnchor (cursor : Cursor) : Option (String × Cursor) :=
  let (name, next) := cursor.advance.takeWhile isNameChar
  if name.isEmpty then none
  else if isGap (next.peek 0) || (next.peek 0).any ("?:,]\x7d%@`".toList.contains ·) then
    some (String.ofList name, next)
  else none

/-- Reads a directive, which is the version of YAML or the meaning of a tag handle. -/
def readDirective (cursor : Cursor) : Option (Token × Cursor) := do
  let (name, afterName) := cursor.advance.takeWhile isNameChar
  let content := afterName.skipWhile isSpace
  if !isGap (afterName.peek 0) then none
  let (token, next) ←
    if name = "YAML".toList then do
      let (major, afterMajor) ← readNumber content
      if afterMajor.peek 0 ≠ some '.' then none
      let (minor, next) ← readNumber afterMajor.advance
      some (Token.versionDirective major minor, next)
    else if name = "TAG".toList then do
      let (handle, afterHandle) ← readHandle content
      if handle ≠ ['!'] && handle.getLast? ≠ some '!' then none
      if !(afterHandle.peek 0).any isSpace then none
      let (beginning, next) ← readUri true [] (afterHandle.skipWhile isSpace)
      if !isGap (next.peek 0) then none
      some (Token.tagDirective (String.ofList handle) beginning, next)
    else none
  let lineEnd ← Scalar.skipToLineEnd next
  return (token, lineEnd)

/-- Reads a scalar that may be a key. -/
def readScalar (style : Style) (result : Option (Folding × Cursor)) (scanner : Scanner) :
    Option Scanner := do
  let saved ← scanner.saveKey
  let (folding, next) ← result
  return { (saved.emit (.scalar folding.toString style)) with
    cursor := next
    keyAllowed := style = .plain && folding.broken }

/-- Reads a colon. If it follows a possible key, the key begins there. -/
def readValue (scanner : Scanner) : Option Scanner :=
  match scanner.keys with
  | some key :: outer =>
      let keyed := { scanner with keys := none :: outer }
      some <|
        (((keyed.insert key.place .key).indentTo key.column key.place .blockMappingStart).allowKey
          false |>.emit .value).skip 1
  | _ =>
      if !scanner.inFlow && !scanner.keyAllowed then none
      else
        let indented :=
          scanner.indentTo scanner.cursor.column scanner.tokens.size .blockMappingStart
        some (((indented.allowKey (!scanner.inFlow)).emit .value).skip 1)

/-- Reads a dash or a question mark that begins a part of a block. -/
def readEntry (start token : Token) (allowedInFlow : Bool) (scanner : Scanner) : Option Scanner :=
  if !scanner.inFlow && !scanner.keyAllowed then none
  else do
    let indented := scanner.indentTo scanner.cursor.column scanner.tokens.size start
    let cleared ← indented.removeKey
    return ((cleared.allowKey (!scanner.inFlow || allowedInFlow)).emit token).skip 1

/-- Reads the beginning or the end of a document. -/
def readMarker (token : Token) (scanner : Scanner) : Option Scanner :=
  scanner.endBlocks.map fun ended => (ended.emit token).skip 3

/-- Reads an opening bracket or brace. -/
def openFlow (token : Token) (scanner : Scanner) : Option Scanner :=
  scanner.saveKey.map fun saved =>
    ((({ saved with keys := none :: saved.keys }).allowKey true).emit token).skip 1

/-- Reads a closing bracket or brace. -/
def closeFlow (token : Token) (scanner : Scanner) : Option Scanner :=
  scanner.removeKey.map fun cleared =>
    let outer := if cleared.inFlow then { cleared with keys := cleared.keys.tail } else cleared
    ((outer.allowKey false).emit token).skip 1

/-- Whether a plain scalar can begin with a character, given the next one. -/
def beginsPlain (inFlow : Bool) (char : Char) (next : Option Char) : Bool :=
  !(isSpace char || isBreak char || "-?:,[]\x7b\x7d#&*!|>'\"%@`".toList.contains char) ||
    (char = '-' && !next.any isSpace) ||
    (!inFlow && (char = '?' || char = ':') && !isGap next)

/-- Reads the token that begins with a character. -/
def readToken (char : Char) (scanner : Scanner) : Option Scanner :=
  let cursor := scanner.cursor
  let next := cursor.peek 1
  if cursor.column = 0 && char = '%' then do
    let ended ← scanner.endBlocks
    let (token, after) ← readDirective cursor
    return { ended.emit token with cursor := after }
  else if cursor.isMarker '-' then scanner.readMarker .documentStart
  else if cursor.isMarker '.' then scanner.readMarker .documentEnd
  else if char = '[' then scanner.openFlow .flowSequenceStart
  else if char = '{' then scanner.openFlow .flowMappingStart
  else if char = ']' then scanner.closeFlow .flowSequenceEnd
  else if char = '}' then scanner.closeFlow .flowMappingEnd
  else if char = ',' then
    scanner.removeKey.map fun cleared => ((cleared.allowKey true).emit .flowEntry).skip 1
  else if char = '-' && isGap next then
    scanner.readEntry .blockSequenceStart .blockEntry true
  else if char = '?' && (scanner.inFlow || isGap next) then
    scanner.readEntry .blockMappingStart .key false
  else if char = ':' && (scanner.inFlow || isGap next) then scanner.readValue
  else if char = '*' || char = '&' then do
    let saved ← scanner.saveKey
    let (name, after) ← readAnchor cursor
    let token := if char = '*' then Token.alias name else Token.anchor name
    return { (saved.allowKey false).emit token with cursor := after }
  else if char = '!' then do
    let saved ← scanner.saveKey
    let (token, after) ← readTag scanner.inFlow cursor
    return { (saved.allowKey false).emit token with cursor := after }
  else if (char = '|' || char = '>') && !scanner.inFlow then do
    let cleared ← scanner.removeKey
    let (text, after) ← Scalar.block (char = '>') scanner.indent cursor.advance
    let style := if char = '>' then Style.folded else Style.literal
    return { (cleared.allowKey true).emit (.scalar text style) with cursor := after }
  else if char = '\'' then
    scanner.readScalar .quoted (Scalar.singleQuotedFrom .start cursor.advance)
  else if char = '"' then
    scanner.readScalar .quoted (Scalar.doubleQuotedFrom .start cursor.advance)
  else if beginsPlain scanner.inFlow char next then
    scanner.readScalar .plain
      (Scalar.plainFrom scanner.inFlow (scanner.indent + 1) false .start cursor)
  else none

/-- Reads all tokens of a stream. Each takes at least one of the `fuel` characters. -/
def run (fuel : Nat) (scanner : Scanner) : Option (Array Token) := do
  let (cursor, allowed) := skipGap scanner.inFlow false scanner.keyAllowed scanner.cursor
  let placed := { scanner with cursor := cursor, keyAllowed := allowed }
  let fresh ← placed.dropStaleKeys
  let unindented := fresh.unindentTo cursor.column
  match cursor.rest with
  | [] => return (← unindented.endBlocks).tokens
  | char :: _ =>
      match fuel with
      | 0 => none
      | fuel + 1 => run fuel (← unindented.readToken char)

end Scanner

/-- The tokens of a stream. -/
def tokens? (chars : List Char) : Option (List Token) :=
  (Scanner.run (chars.length + 1) (Scanner.start chars)).map Array.toList

end Tabula.Yaml
