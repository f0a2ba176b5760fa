import Std.Time.Format
import Tabula.Program

/-!
# The program at a terminal

Here the program meets the outside: its arguments, its input and output, the files
that commands name, the log, and the clock that makes queries time out. What it does
is decided elsewhere.
-/

namespace Tabula.Terminal

/-- Reads an opened file. -/
def readOpened (handle : IO.FS.Handle) : IO Opened := do
  match ← handle.readBinToEnd.toBaseIO with
  | .ok bytes => return .contents bytes.toList
  | .error error => return .unreadable (toString error)

/-- Opens a file and reads it. -/
def openFile (path : String) : IO Opened := do
  match ← (IO.FS.Handle.mk path .read).toBaseIO with
  | .ok handle => readOpened handle
  | .error (.noFileOrDirectory ..) => return .absent
  | .error error => return .refused (toString error)

/-- The files that are named by a command, which are opened beforehand. -/
def openNamed (line : String) : IO (String → Opened) := do
  match Shell.Command.ofLine line with
  | .ok (.load path descriptorPath) =>
      let table ← openFile path
      let descriptor ← openFile descriptorPath
      return fun name => if name = descriptorPath then descriptor else table
  | _ => return fun _ => .absent

/-- An open log. -/
structure Journal where
  recorder : Log.Recorder
  access : IO.FS.Handle
  error : IO.FS.Handle

/-- Opens one file of a log for appending. -/
def openLogFile (path : String) : IO (Except Log.OpenError IO.FS.Handle) := do
  match ← (IO.FS.Handle.mk path .append).toBaseIO with
  | .ok handle => return .ok handle
  | .error error => return .error ⟨path, toString error⟩

/-- Opens a log. -/
def openLog (recorder : Log.Recorder) : IO (Except Log.OpenError Journal) := do
  match ← openLogFile recorder.accessPath with
  | .error error => return .error error
  | .ok access =>
      match ← openLogFile recorder.errorPath with
      | .error error => return .error error
      | .ok error => return .ok ⟨recorder, access, error⟩

/-- The time of day as it stands in a log. -/
def timestamp : IO String := do
  let time ← Std.Time.Timestamp.now
  return (Std.Time.DateTime.ofTimestampWithZone time .UTC).format
    "uuuu-MM-dd'T'HH:mm:ss.SSSSSS'Z'"

/-- Records events, the timed ones with the given duration. -/
def Journal.record (journal : Journal) (elapsed : Nat) (events : List Log.Event) : IO Unit := do
  for event in events do
    if let some path := journal.recorder.path? event then
      let handle := if path = journal.recorder.errorPath then journal.error else journal.access
      handle.putStr (event.line (← timestamp) elapsed)
      handle.flush

/-- Lets a call take its steps until it is done. The timer elapses at the first look at
the clock that is not before the deadline. -/
partial def attend {α : Type} (deadline : Option Nat) (state : Deadline.State α) :
    IO (Deadline.State α) := do
  let now ← IO.monoMsNow
  let state := if deadline.any (· ≤ now) then state.step .elapse else state
  match state.call with
  | .done _ => return state
  | .poll _ => attend deadline (state.step .check)

/-- Answers a query by the clock. -/
def answer (journal : Journal) (database : Database) (query : String) : IO Shell.Handled := do
  let start ← IO.monoMsNow
  let deadline := database.config.effectiveTimeout.map (start + ·)
  let state ← attend deadline (database.start (database.textCall Box.render query) false)
  let handled := Shell.answered database query (database.conclude query state.settle)
  journal.record ((← IO.monoMsNow) - start) handled.events
  return handled

/-- Handles a line. -/
def handle (journal : Journal) (database : Database) (line : String) : IO Shell.Handled := do
  match Shell.react database (← openNamed line) line with
  | .query query => answer journal database query
  | .handled handled =>
      journal.record 0 handled.events
      return handled

/-- Reads the bytes of a line with its line feed; there are none at the end of the
input. -/
partial def readLine (input : IO.FS.Stream) (read : ByteArray) : IO ByteArray := do
  let byte ← input.read 1
  if byte.isEmpty then return read
  let read := read ++ byte
  if byte.toList = [Input.Line.feed] then return read
  readLine input read

/-- Writes text at once. -/
def write (output : IO.FS.Stream) (text : String) : IO Unit := do
  output.putStr text
  output.flush

/-- Tells why the program fails. -/
def fail (failure : Program.Failure) : IO UInt32 := do
  write (← IO.getStderr) failure.complaint
  return UInt32.ofNat failure.status

/-- Prompts for lines and handles them until the shell ends. -/
partial def converse (journal : Journal) (database : Database) : IO UInt32 := do
  let output ← IO.getStdout
  let close : IO UInt32 := do
    write output Shell.farewell
    journal.record 0 [Shell.stopped]
    return 0
  write output Shell.prompt
  match Input.Line.all (← readLine (← IO.getStdin) .empty).toList with
  | [] => do
      write output "\n"
      close
  | .unreadable :: _ => fail .unreadableInput
  | .text line :: _ => do
      let handled ← handle journal database line
      write output handled.output
      match handled.flow with
      | .quit => close
      | .goOn => converse journal handled.database

/-- Runs the program with its settings. -/
def start (config : Config) : IO UInt32 := do
  match ← openLog (Program.recorderOf config (← IO.getEnv "RUST_LOG")) with
  | .error error => fail (.log error)
  | .ok journal =>
      journal.record 0 (Program.starting config)
      converse journal (.empty config)

/-- Runs the program with the values of its arguments. -/
def configure (values : CommandLine.Values) : IO UInt32 := do
  let opened ← match values.config with
    | some path => openFile path
    | none => pure .absent
  match Program.settings (fun _ => opened) values with
  | .error error => fail (.config error)
  | .ok config => start config

end Tabula.Terminal

/-- Runs the program. -/
def main (arguments : List String) : IO UInt32 := do
  match Tabula.CommandLine.read arguments with
  | .error error => Tabula.Terminal.fail (.arguments error)
  | .ok .help => do
      Tabula.Terminal.write (← IO.getStdout) Tabula.CommandLine.helpText
      return 0
  | .ok .version => do
      Tabula.Terminal.write (← IO.getStdout) Tabula.CommandLine.versionText
      return 0
  | .ok (.start values) => Tabula.Terminal.configure values
