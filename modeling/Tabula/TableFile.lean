import Tabula.Descriptor
import Tabula.Log.Event

/-!
# Tables from files

A table is loaded from two files: a descriptor, which is read and checked first, and
a delimited file, which is read as the descriptor says.
-/

namespace Tabula

/-- Why a table cannot be loaded from files. -/
inductive LoadError where
  | descriptor (error : DescriptorError)
  | fileNotFound (path : String)
  | unreadable (reason : String)
  | read (error : Csv.ReadError)
  deriving DecidableEq, Repr

namespace LoadError

/-- The error in words. -/
def message : LoadError → String
  | .descriptor error => error.message
  | .fileNotFound path => s!"File not found: {path}"
  | .unreadable reason => s!"I/O error: {reason}"
  | .read error => error.message

end LoadError

namespace TableFile

/-- The part of the program that reports loaded tables. -/
def reporter : String := "sift_loader::reader"

/-- The event of a table that has been loaded from a file. -/
def loaded (table : Table) (path : String) : Log.Event :=
  { level := .debug
    target := reporter
    message := "loaded table from csv"
    details :=
      [("table", .text table.name), ("path", .text path), ("rows", .count table.rowCount),
        ("columns", .count table.columns.length)]
    timed := false }

/-- Makes a table of an opened delimited file. -/
def ofOpened (schema : Csv.Schema) (path : String) : Opened → Except LoadError Table
  | .absent => .error (.fileNotFound path)
  | .refused reason | .unreadable reason => .error (.unreadable reason)
  | .contents bytes =>
      match Csv.read schema bytes with
      | .error error => .error (.read error)
      | .ok table => .ok table

/-- Loads the table of a delimited file. -/
def load (openPath : String → Opened) (schema : Csv.Schema) (path : String) :
    Log.Reported (Except LoadError Table) :=
  match ofOpened schema path (openPath path) with
  | .error error => .silent (.error error)
  | .ok table => ⟨[loaded table path], .ok table⟩

/-- The schema of a descriptor file. -/
def schemaOf (openPath : String → Opened) (path : String) : Except LoadError Csv.Schema :=
  match (Descriptor.ofFile path (openPath path)).bind Descriptor.schema with
  | .error error => .error (.descriptor error)
  | .ok schema => .ok schema

/-- Loads the table of a delimited file that a descriptor describes. -/
def loadDescribed (openPath : String → Opened) (path descriptorPath : String) :
    Log.Reported (Except LoadError Table) :=
  match schemaOf openPath descriptorPath with
  | .error error => .silent (.error error)
  | .ok schema => load openPath schema path

end TableFile

end Tabula
