import Tabula.Csv.Load
import Tabula.Files
import Tabula.Text.Blank
import Tabula.Yaml.Decode

/-!
# Table descriptors

A descriptor says in YAML how a delimited file becomes a table: the name of the
table, the separator, the treatment of quotes, and the columns to load with their
types. A descriptor is checked before it is used: its name must not be blank, its
separator is one ASCII character, its types are known and its columns are distinct.
-/

namespace Tabula

/-- A column as a descriptor names it. -/
structure FieldEntry where
  name : String
  typeWord : String
  deriving DecidableEq, Repr

/-- A descriptor as it is written. -/
structure Descriptor where
  name : String
  separator : String
  lazyQuotes : Bool
  fields : List FieldEntry
  deriving DecidableEq, Repr

/-- Why a descriptor cannot be used. -/
inductive DescriptorError where
  | notFound (path : String)
  | undecodable
  | unreadable (reason : String)
  | emptyName
  | invalidSeparator (separator : String)
  | unknownType (field typeWord : String)
  | repeatedField (field : String)
  deriving DecidableEq, Repr

namespace DescriptorError

/-- The error in words. -/
def message : DescriptorError → String
  | .notFound path => s!"Descriptor not found: {path}"
  | .undecodable => "Error when decoding descriptor: not a descriptor in YAML"
  | .unreadable reason => s!"I/O error: {reason}"
  | .emptyName => "name cannot be empty"
  | .invalidSeparator separator =>
      s!"sep should be a single ASCII character, got '{separator}'"
  | .unknownType field typeWord => s!"unknown type '{typeWord}' for field '{field}'"
  | .repeatedField field => s!"field '{field}' declared twice"

end DescriptorError

namespace FieldEntry

/-- Reads a column of a descriptor, whose name and type must be given. -/
def decode (document : Yaml.Document) (node : Yaml.Node) : Yaml.Decoder FieldEntry := do
  let entries ← document.entries node
  match ← Yaml.field "name" document.text entries, ← Yaml.field "type" document.text entries with
  | some name, some typeWord => return ⟨name, typeWord⟩
  | _, _ => failure

end FieldEntry

namespace Descriptor

/-- The separator of a descriptor that does not name one. -/
def defaultSeparator : String := ";"

/-- Reads a descriptor. What is not given has no name, the default separator, strict
quotes and no columns. -/
def decode (document : Yaml.Document) (node : Yaml.Node) : Yaml.Decoder Descriptor := do
  let entries ← document.entries node
  let name ← Yaml.field "name" document.text entries
  let separator ← Yaml.field "sep" document.text entries
  let lazyQuotes ← Yaml.field "lazyQuotes" document.truth entries
  let readFields (node : Yaml.Node) : Yaml.Decoder (List FieldEntry) := do
    (← document.items node).mapM (FieldEntry.decode document)
  let fields ← Yaml.field "fields" readFields entries
  return ⟨name.getD "", separator.getD defaultSeparator, lazyQuotes.getD false, fields.getD []⟩

/-- Reads a descriptor from the bytes of a YAML stream. -/
def ofBytes? (bytes : List UInt8) : Option Descriptor :=
  (Yaml.Document.ofBytes? bytes).bind fun document => document.decode? (decode document)

/-- Reads a descriptor from an opened file. -/
def ofFile (path : String) : Opened → Except DescriptorError Descriptor
  | .absent => .error (.notFound path)
  | .refused reason => .error (.unreadable reason)
  | .unreadable _ => .error .undecodable
  | .contents bytes =>
      match ofBytes? bytes with
      | some descriptor => .ok descriptor
      | none => .error .undecodable

/-- The separator character of a descriptor. -/
def separatorChar? (separator : String) : Option Char :=
  match separator.toList with
  | [char] => if char.toNat < 0x80 then some char else none
  | _ => none

/-- The columns of a descriptor, given the names before them. -/
def checkFields (seen : List String) : List FieldEntry → Except DescriptorError (List Field)
  | [] => .ok []
  | entry :: rest =>
      match CellType.ofWord? entry.typeWord with
      | none => .error (.unknownType entry.name entry.typeWord)
      | some type =>
          if entry.name ∈ seen then .error (.repeatedField entry.name)
          else (checkFields (entry.name :: seen) rest).map (⟨entry.name, type⟩ :: ·)

/-- Checks a descriptor: its name, its separator, and its columns one after the
other. -/
def schema (descriptor : Descriptor) : Except DescriptorError Csv.Schema :=
  if Text.isAllBlank descriptor.name then .error .emptyName
  else
    match separatorChar? descriptor.separator with
    | none => .error (.invalidSeparator descriptor.separator)
    | some separator =>
        (checkFields [] descriptor.fields).map fun fields =>
          ⟨descriptor.name, separator, descriptor.lazyQuotes, fields⟩

end Descriptor

end Tabula
