import Tabula.Yaml.Input
import Tabula.Yaml.Node
import Tabula.Yaml.Tokens

/-!
# Values from YAML documents

Reading nodes as texts, truth values, numbers, lists and records. An alias is read as
the node that it stands for. What a plain scalar means depends on what is asked for:
as a text it is taken as it stands, and without text it is an empty list or an empty
record. A record must not repeat a key that is asked for. Reading gives up when it has
followed many more aliases than the document has parts.
-/

namespace Tabula.Yaml

/-- The tag of a standard type. -/
def standardTag (name : String) : String :=
  "tag:yaml.org,2002:" ++ name

/-- The value of digits in a base. -/
def digits? (base : Nat) (digits : List Char) : Option Nat :=
  if digits.isEmpty then none
  else
    digits.foldlM (fun value digit =>
      match Scalar.hexDigit? digit with
      | some amount => if amount < base then some (value * base + amount) else none
      | none => none) 0

/-- Reads digits without a leading zero, or digits in the base that the beginning
gives. -/
def magnitude? : List Char → Option Nat
  | '0' :: 'x' :: digits => digits? 16 digits
  | '0' :: 'o' :: digits => digits? 8 digits
  | '0' :: 'b' :: digits => digits? 2 digits
  | '0' :: _ :: _ => none
  | digits => digits? 10 digits

/-- Reads a natural number, which may have a plus sign. -/
def natural? : List Char → Option Nat
  | '+' :: unsigned => magnitude? unsigned
  | unsigned => magnitude? unsigned

/-- Whether a text stands for no value. -/
def isNullWord (text : String) : Bool :=
  ["null", "Null", "NULL", "~"].contains text

/-- Reading that may fail and that counts the aliases which it follows. -/
abbrev Decoder := StateT Nat Option

namespace Document

/-- The document of the bytes of a stream. -/
def ofBytes? (bytes : List UInt8) : Option Document := do
  let chars ← characters? bytes
  let tokens ← tokens? chars
  ofTokens? tokens

/-- The node that a node stands for. -/
def resolve (document : Document) (node : Node) : Decoder Node :=
  match node with
  | .alias number => do
      modify (· + 1)
      return (document.numbered.lookup number).getD node
  | node => return node

/-- Reads the text of a scalar. -/
def text (document : Document) (node : Node) : Decoder String := do
  match ← document.resolve node with
  | .scalar text _ _ => return text
  | _ => failure

/-- Reads the text of a scalar that is plain, or a literal block with the tag of the
type. -/
def plainText (document : Document) (typeName : String) (node : Node) : Decoder String := do
  match ← document.resolve node with
  | .scalar text .plain _ => return text
  | .scalar text .literal (some tag) => if tag = standardTag typeName then return text else failure
  | _ => failure

/-- Reads a truth value. -/
def truth (document : Document) (node : Node) : Decoder Bool := do
  let text ← document.plainText "bool" node
  if ["true", "True", "TRUE"].contains text then return true
  else if ["false", "False", "FALSE"].contains text then return false
  else failure

/-- Reads a natural number that fits into 64 bits. -/
def word64 (document : Document) (node : Node) : Decoder Nat := do
  let text ← document.plainText "int" node
  match natural? text.toList with
  | some value => if value < UInt64.size then return value else failure
  | none => failure

/-- Reads a value that may be left out, by an empty plain scalar or a word for none. -/
def optional {α : Type} (document : Document) (read : Node → Decoder α) (node : Node) :
    Decoder (Option α) := do
  let node ← document.resolve node
  match node with
  | .scalar text .plain (some tag) =>
      if tag = standardTag "null" then (if isNullWord text then return none else failure)
      else some <$> read node
  | .scalar text .plain none =>
      if text = "" || isNullWord text then return none else some <$> read node
  | _ => some <$> read node

/-- Reads the items of a sequence. -/
def items (document : Document) (node : Node) : Decoder (List Node) := do
  match ← document.resolve node with
  | .sequence items => return items
  | .scalar "" .plain _ => return []
  | _ => failure

/-- Reads the pairs of a record, whose keys are texts. -/
def entries (document : Document) (node : Node) : Decoder (List (String × Node)) := do
  match ← document.resolve node with
  | .mapping entries => entries.mapM fun entry => (·, entry.2) <$> document.text entry.1
  | .scalar "" .plain _ => return []
  | _ => failure

/-- How many aliases reading may follow for every part of a document. -/
def aliasesPerPart : Nat := 100

/-- Reads a document, with no more aliases than its size allows. -/
def decode? {α : Type} (document : Document) (read : Node → Decoder α) : Option α :=
  match (read document.root).run 0 with
  | some (value, followed) =>
      if followed ≤ aliasesPerPart * document.root.partCount then some value else none
  | none => none

end Document

/-- Reads the value of a key of a record, which may be missing but not repeated. -/
def field {α : Type} (key : String) (read : Node → Decoder α) (entries : List (String × Node)) :
    Decoder (Option α) :=
  match entries.filter fun entry => entry.1 = key with
  | [] => return none
  | [entry] => some <$> read entry.2
  | _ => failure

end Tabula.Yaml
