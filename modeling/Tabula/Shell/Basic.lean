import Tabula.Database.Basic
import Tabula.Input.Line
import Tabula.Shell.Command

/-!
# The shell

The shell prompts for a line, handles it and prompts again. A failure is shown and
reported, and the shell goes on; it ends at the command to quit, at the end of the
input, when it is interrupted, or, without a farewell, at a line that cannot be read.
-/

namespace Tabula.Shell

/-- What the shell writes when it waits for a line. -/
def prompt : String := "~# "

/-- What the shell writes when it ends. -/
def farewell : String := "Bye-bye!\n"

/-- The summary of the commands. -/
def helpText : String :=
  "\\load <csv> <descriptor>  load a CSV file described by a YAML descriptor\n" ++
  "\\drop <table>             drop a loaded table\n" ++
  "\\list                     list loaded tables\n" ++
  "\\help                     show this help\n" ++
  "\\q                        quit\n" ++
  "select <fields>|* from <table> [where <condition>];\n"

/-- The part of the program that reports what happens in the shell. -/
def reporter : String := "sift_cli::shell"

/-- An event of the shell. -/
def event (level : Log.Level) (message : String) (details : List (String × Log.Detail)) :
    Log.Event :=
  ⟨level, reporter, message, details, false⟩

/-- The event of an interrupted shell. -/
def interrupted : Log.Event := event .info "shell has been interrupted" []

/-- The event of a shell that has come to its end. -/
def stopped : Log.Event := event .info "shell has been stopped" []

/-- Whether the shell goes on after a line. -/
inductive Flow where
  | goOn
  | quit
  deriving DecidableEq, Repr

/-- What handling a line has led to. -/
structure Handled where
  database : Database
  flow : Flow
  output : String
  events : List Log.Event

/-- How a failure is shown. -/
def complaint (message : String) : String :=
  s!"error: {message}\n"

/-- The outcome of a command that has failed. -/
def failed (database : Database) (events : List Log.Event) (error : DatabaseError)
    (message : String) (details : List (String × Log.Detail)) : Handled :=
  let report := event .error message (details ++ [("error", .text error.message)])
  ⟨database, .goOn, complaint error.message, events ++ [report]⟩

/-- The outcome of loading a table. -/
def loaded (database : Database) (openPath : String → Opened) (path descriptorPath : String) :
    Handled :=
  let report := database.load openPath path descriptorPath
  match report.result with
  | .ok (_, database) => ⟨database, .goOn, "", report.events⟩
  | .error error =>
      failed database report.events error "error when loading table"
        [("csv", .text path), ("descriptor", .text descriptorPath)]

/-- The outcome of dropping a table. -/
def dropped (database : Database) (table : String) : Handled :=
  let report := database.drop table
  match report.result with
  | .ok database => ⟨database, .goOn, "", report.events⟩
  | .error error =>
      failed database report.events error "error when dropping table" [("table", .text table)]

/-- The outcome of a query. -/
def answered (database : Database) (query : String) (report : Database.Report String) : Handled :=
  match report.result with
  | .ok text => ⟨database, .goOn, text ++ "\n", report.events⟩
  | .error error =>
      failed database report.events error "error executing query" [("query", .text query)]

/-- What the shell does about a line: either it is done with it, or a query is to be
answered. -/
inductive Reaction where
  | handled (handled : Handled)
  | query (query : String)

/-- The names of the tables, one on a line. -/
def listing (names : List String) : String :=
  String.join (names.map (· ++ "\n"))

/-- The reaction to a command. -/
def obey (database : Database) (openPath : String → Opened) : Command → Reaction
  | .empty => .handled ⟨database, .goOn, "", []⟩
  | .quit => .handled ⟨database, .quit, "", []⟩
  | .help => .handled ⟨database, .goOn, helpText, []⟩
  | .list => .handled ⟨database, .goOn, listing database.tableNames, []⟩
  | .load path descriptorPath => .handled (loaded database openPath path descriptorPath)
  | .drop table => .handled (dropped database table)
  | .query query => .query query

/-- The reaction to a line. -/
def react (database : Database) (openPath : String → Opened) (line : String) : Reaction :=
  match Command.ofLine line with
  | .error error => .handled ⟨database, .goOn, complaint error.message, []⟩
  | .ok command => obey database openPath command

/-- Handles a line while the shell's flag is raised or not. -/
def handle (database : Database) (openPath : String → Opened) (raised : Bool) (line : String) :
    Handled :=
  match react database openPath line with
  | .handled handled => handled
  | .query query => answered database query (database.render query raised)

end Tabula.Shell
