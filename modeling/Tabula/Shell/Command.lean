import Tabula.Text.Blank

/-!
# Commands

A line of input is a command that begins with a backslash, a query, or nothing.
Blanks at both ends of a line do not count, and the words of a command are separated
by blanks.
-/

namespace Tabula.Shell

/-- What a line of input asks for. -/
inductive Command where
  | quit
  | help
  | list
  | load (path descriptorPath : String)
  | drop (table : String)
  | query (query : String)
  | empty
  deriving DecidableEq, Repr

/-- Why a line of input is no command. -/
inductive UsageError where
  | load (line : String)
  | drop (line : String)
  | unknown (name : String)
  deriving DecidableEq, Repr

namespace UsageError

/-- The error in words. -/
def message : UsageError → String
  | .load line => s!"wrong syntax for \\load: '{line}'"
  | .drop line => s!"wrong syntax for \\drop: '{line}'"
  | .unknown name => s!"unknown command '{name}', type \\help for the list"

end UsageError

namespace Command

/-- The command of a name and its arguments in the given line. -/
def ofWords (line name : String) (arguments : List String) : Except UsageError Command :=
  match name, arguments with
  | "\\q", [] => .ok .quit
  | "\\help", [] => .ok .help
  | "\\list", [] => .ok .list
  | "\\load", [path, descriptorPath] => .ok (.load path descriptorPath)
  | "\\load", _ => .error (.load line)
  | "\\drop", [table] => .ok (.drop table)
  | "\\drop", _ => .error (.drop line)
  | name, _ => .error (.unknown name)

/-- The command of a line. -/
def ofLine (line : String) : Except UsageError Command :=
  let text := Text.trim line.toList
  match text with
  | [] => .ok .empty
  | '\\' :: _ =>
      let words := (Text.words text).map String.ofList
      ofWords (String.ofList text) (words.headD "") words.tail
  | _ => .ok (.query (String.ofList text))

end Command

end Tabula.Shell
