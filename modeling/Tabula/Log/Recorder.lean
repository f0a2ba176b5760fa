import Tabula.Files
import Tabula.Log.Filter
import Tabula.Text.Utf8

/-!
# Log files

Errors are recorded in one file and all other events in another, each on a line of
its own at the end of the file, if the filter lets them through.
-/

namespace Tabula.Log

/-- The two files of a log with their filter. -/
structure Recorder where
  accessPath : String
  errorPath : String
  filter : Filter
  deriving DecidableEq, Repr

/-- Why a log cannot be opened. -/
structure OpenError where
  path : String
  reason : String
  deriving DecidableEq, Repr

namespace OpenError

/-- The error in words. -/
def message (error : OpenError) : String :=
  s!"error when opening log file {error.path}: {error.reason}"

end OpenError

namespace Recorder

/-- The file in which an event is recorded, if it is. -/
def path? (recorder : Recorder) (event : Event) : Option String :=
  if recorder.filter.allows event then
    some (if event.level = .error then recorder.errorPath else recorder.accessPath)
  else none

/-- Opens a file for appending, which creates it. -/
def openOne (tree : FileNode) (path : String) : Except OpenError FileNode :=
  (Files.append tree path []).mapError (⟨path, ·⟩)

/-- Opens both files, first the one for events that are no errors. A file that has been
created stays even if the other one cannot be opened. -/
def openAll (recorder : Recorder) (tree : FileNode) : FileNode × Except OpenError Unit :=
  match openOne tree recorder.accessPath with
  | .error error => (tree, .error error)
  | .ok opened =>
      match openOne opened recorder.errorPath with
      | .error error => (opened, .error error)
      | .ok both => (both, .ok ())

/-- Records an event at the given time. -/
def record (recorder : Recorder) (timestamp : String) (tree : FileNode) (event : Event) :
    FileNode :=
  match recorder.path? event with
  | none => tree
  | some path =>
      match Files.append tree path (Text.Utf8.encode (event.line timestamp 0)) with
      | .ok changed => changed
      | .error _ => tree

end Recorder

end Tabula.Log
