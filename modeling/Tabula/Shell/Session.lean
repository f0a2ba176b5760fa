import Tabula.Shell.Basic

/-!
# Sessions

A session is a run of the shell over lines of input. What the shell meets outside is
a world in which files can be opened and events are recorded.
-/

namespace Tabula.Shell

/-- What can be done with the world outside. -/
structure Outside (World : Type) where
  openPath : World → String → Opened
  record : World → Log.Event → World

namespace Outside

variable {World : Type}

/-- Records events one after the other. -/
def recordAll (outside : Outside World) (world : World) (events : List Log.Event) : World :=
  events.foldl outside.record world

/-- A world of files in which no events are recorded. -/
def quiet : Outside FileNode := ⟨Files.openPath, fun tree _ => tree⟩

end Outside

/-- A line that arrives at the shell. -/
structure Arrival where
  line : Input.Line
  /-- Whether the shell's flag is raised when the line has arrived. -/
  raised : Bool
  deriving DecidableEq, Repr

namespace Arrival

/-- Lines that arrive while nobody interrupts the shell. -/
def undisturbed (lines : List Input.Line) : List Arrival :=
  lines.map (⟨·, false⟩)

/-- Lines of which the one of the given number arrives while the flag is raised. The
flag stays raised. -/
def interruptedAt (index : Nat) (lines : List Input.Line) : List Arrival :=
  lines.zipIdx.map fun (line, place) => ⟨line, index ≤ place⟩

end Arrival

/-- What a session has come to. -/
structure Session (World : Type) where
  world : World
  database : Database
  output : String
  /-- Whether every line could be read. -/
  readable : Bool

variable {World : Type}

namespace Session

/-- Puts earlier output in front. -/
def after (session : Session World) (output : String) : Session World :=
  { session with output := output ++ session.output }

end Session

/-- Ends a session with a farewell. -/
def close (outside : Outside World) (world : World) (database : Database) : Session World :=
  ⟨outside.record world stopped, database, farewell, true⟩

/-- Runs the shell over lines, given whether its flag is raised at the beginning. -/
def run (outside : Outside World) (world : World) (database : Database) (raised : Bool)
    (arrivals : List Arrival) : Session World :=
  if raised then close outside (outside.record world interrupted) database
  else
    match arrivals with
    | [] => (close outside world database).after (prompt ++ "\n")
    | ⟨.unreadable, _⟩ :: _ => ⟨world, database, prompt, false⟩
    | ⟨.text line, raisedNow⟩ :: rest =>
        let handled := handle database (outside.openPath world) raisedNow line
        let output := prompt ++ handled.output
        let world := outside.recordAll world handled.events
        match handled.flow with
        | .quit => (close outside world handled.database).after output
        | .goOn => (run outside world handled.database raisedNow rest).after output

/-- Runs the shell over lines while nobody interrupts it. -/
def runUndisturbed (outside : Outside World) (world : World) (database : Database)
    (lines : List Input.Line) : Session World :=
  run outside world database false (Arrival.undisturbed lines)

end Tabula.Shell
