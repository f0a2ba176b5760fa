/-!
# Files

A tree of files and folders below the current folder, as far as a program sees it:
opening a path tells an absent file from one that cannot be opened, a folder opens but
has no contents, and text can be appended to a file, which is created if it is absent.
-/

namespace Tabula

/-- What opening a path gives. -/
inductive Opened where
  | absent
  /-- Opening fails for another reason. -/
  | refused (reason : String)
  /-- Opening succeeds but reading fails. -/
  | unreadable (reason : String)
  | contents (bytes : List UInt8)
  deriving DecidableEq, Repr

/-- An entry of a folder. -/
inductive FileNode where
  | file (bytes : List UInt8)
  | folder (entries : List (String × FileNode))
  deriving Repr

namespace FileNode

/-- The entry of a name. -/
def child? (node : FileNode) (name : String) : Option FileNode :=
  match node with
  | .file _ => none
  | .folder entries => entries.lookup name

/-- Puts an entry under a name, where it replaces an earlier one. -/
def setEntry (node : FileNode) (name : String) (child : FileNode) : FileNode :=
  match node with
  | .file bytes => .file bytes
  | .folder entries => .folder ((name, child) :: entries.filter fun entry => entry.1 ≠ name)

end FileNode

namespace Files

/-- Why a path leads to nothing that can be opened. -/
inductive PathError where
  | absent
  /-- The path goes through a file. -/
  | throughFile
  /-- A folder cannot be read or written. -/
  | folder
  /-- No folder can hold a name of the path. -/
  | tooLong
  /-- The path has a null character. -/
  | hasNull
  deriving DecidableEq, Repr

namespace PathError

/-- The error in words. -/
def reason : PathError → String
  | .absent => "No such file or directory (os error 2)"
  | .throughFile => "Not a directory (os error 20)"
  | .folder => "Is a directory (os error 21)"
  | .tooLong => "File name too long (os error 36)"
  | .hasNull => "file name contained an unexpected NUL byte"

end PathError

/-- The greatest number of bytes in a name. -/
def longestName : Nat := 255

/-- The greatest number of bytes in a path. -/
def longestPath : Nat := 4095

/-- The parts of a path between its slashes. -/
def partsFrom (part : List Char) : List Char → List String
  | [] => [String.ofList part.reverse]
  | char :: rest =>
      if char = '/' then String.ofList part.reverse :: partsFrom [] rest
      else partsFrom (char :: part) rest

/-- The parts of a path. -/
def parts (path : String) : List String :=
  partsFrom [] path.toList

/-- The parts of a path that matter: an empty part counts at the beginning only, where
it stands for the root, and so does a point. -/
def steps (path : String) : List String :=
  match parts path with
  | [] => []
  | [""] => []
  | first :: rest => first :: rest.filter fun part => part ≠ "" && part ≠ "."

/-- The tree of a single file below folders. -/
def nest (node : FileNode) : List String → FileNode
  | [] => node
  | name :: rest => .folder [(name, nest node rest)]

/-- Puts a node at the end of a path, with the folders on the way to it. -/
def put (child node : FileNode) : List String → FileNode
  | [] => child
  | name :: rest =>
      match node with
      | .file _ => nest child (name :: rest)
      | .folder entries =>
          match entries.lookup name with
          | some inner => node.setEntry name (put child inner rest)
          | none => node.setEntry name (nest child rest)

/-- The node that names lead to, of which the innermost comes first. Two points lead out
of the current folder, into folders in which nothing else is known to be. -/
def node? (tree : FileNode) : List String → Option FileNode
  | [] => some tree
  | name :: outer =>
      match (node? tree outer).bind (·.child? name) with
      | some node => some node
      | none => if name = ".." then some (.folder []) else none

/-- The names that lead to the folder around a node. -/
def around : List String → List String
  | [] => [".."]
  | name :: outer => if name = ".." then ".." :: name :: outer else outer

/-- Follows the parts of a path from a node on, which must be a folder if there are any.
An empty part or a point stays at the folder, and two points go up. -/
def follow (tree : FileNode) (names : List String) : List String → Except PathError (List String)
  | [] => .ok names
  | part :: rest =>
      match node? tree names with
      | none => .error .absent
      | some (.file _) => .error .throughFile
      | some (.folder _) =>
          if part = "" || part = "." then follow tree names rest
          else if part = ".." then follow tree (around names) rest
          else if longestName < part.utf8ByteSize then .error .tooLong
          else follow tree (part :: names) rest

/-- The names that a path leads to. Nothing is known of the folders of paths that begin
with a slash. -/
def locate (tree : FileNode) (path : String) : Except PathError (List String) :=
  if path.toList.contains '\x00' then .error .hasNull
  else if longestPath < path.utf8ByteSize then .error .tooLong
  else if path = "" || path.toList.head? = some '/' then .error .absent
  else follow tree [] (parts path)

/-- The file that is always empty. -/
def emptyFile : String := "/dev/null"

/-- Whether a path is the folder around all others. -/
def isRoot (path : String) : Bool :=
  path.toList.head? = some '/' &&
    (parts path).all fun part => part = "" || part = "." || part = ".."

/-- Opens a path for reading. -/
def openPath (tree : FileNode) (path : String) : Opened :=
  if path = emptyFile then .contents []
  else if isRoot path then .unreadable PathError.folder.reason
  else
    match locate tree path with
    | .error .absent => .absent
    | .error error => .refused error.reason
    | .ok names =>
        match node? tree names with
        | none => .absent
        | some (.folder _) => .unreadable PathError.folder.reason
        | some (.file bytes) => .contents bytes

/-- Puts bytes at the end of a file, which is created if it is absent. -/
def append (tree : FileNode) (path : String) (bytes : List UInt8) : Except String FileNode :=
  if path = emptyFile then .ok tree
  else
    match locate tree path with
    | .error error => .error error.reason
    | .ok names =>
        match node? tree names with
        | some (.folder _) => .error PathError.folder.reason
        | some (.file old) => .ok (put (.file (old ++ bytes)) tree names.reverse)
        | none => .ok (put (.file bytes) tree names.reverse)

end Files

end Tabula
