import Tabula.CommandLine
import Tabula.Log.Recorder
import Tabula.Shell.Session

/-!
# The program

The program reads its arguments and its settings, opens its log, and runs the shell
over its input. It fails with status 2 if the arguments are wrong, and with status 1
if the settings or the log are, or if a line of the input cannot be read.
-/

namespace Tabula.Program

/-- Why the program fails. -/
inductive Failure where
  | arguments (error : CommandLine.ArgumentError)
  | config (error : ConfigError)
  | log (error : Log.OpenError)
  | unreadableInput
  deriving DecidableEq, Repr

namespace Failure

/-- The error in words. -/
def message : Failure → String
  | .arguments error => error.message
  | .config error => error.message
  | .log error => error.message
  | .unreadableInput => "stream did not contain valid UTF-8"

/-- The exit status. -/
def status : Failure → Nat
  | .arguments _ => 2
  | .config _ | .log _ | .unreadableInput => 1

/-- What the program writes about the failure. -/
def complaint (failure : Failure) : String :=
  s!"error: {failure.message}\n"

end Failure

/-- The part of the program that reports the start. -/
def reporter : String := "sift"

/-- A timeout in a log. -/
def timeoutText : Option Nat → String
  | none => "None"
  | some milliseconds => s!"Some({milliseconds})"

/-- The events of a program that starts. -/
def starting (config : Config) : List Log.Event :=
  [⟨.info, reporter, "starting sift", [("timeout_ms", .text (timeoutText config.queryTimeout))],
      false⟩,
    ⟨.info, reporter, "sift is ready to accept queries", [], false⟩]

/-- The settings of the arguments: those of the named file with another timeout, if
one is given. -/
def settings (openPath : String → Opened) (values : CommandLine.Values) :
    Except ConfigError Config :=
  let named := match values.config with
    | some path => Config.ofFile path (openPath path)
    | none => .ok Config.default
  named.map fun config =>
    match values.timeout with
    | some milliseconds => config.withQueryTimeout milliseconds
    | none => config

/-- The recorder of settings and a filter, which may be missing or wrong. -/
def recorderOf (config : Config) (filter : Option String) : Log.Recorder :=
  ⟨config.accessLog, config.errorLog, (filter.bind Log.Filter.read?).getD .default⟩

/-- What a run of the program has come to. -/
structure Outcome where
  status : Nat
  output : String
  errorOutput : String
  files : FileNode

namespace Outcome

/-- The outcome of a failure. -/
def ofFailure (failure : Failure) (output : String) (files : FileNode) : Outcome :=
  ⟨failure.status, output, failure.complaint, files⟩

end Outcome

/-- Runs the shell over lines of input. -/
def runShell (recorder : Log.Recorder) (timestamp : String) (config : Config)
    (lines : List Input.Line) (files : FileNode) : Outcome :=
  let outside : Shell.Outside FileNode := ⟨Files.openPath, recorder.record timestamp⟩
  let world := outside.recordAll files (starting config)
  let session := Shell.runUndisturbed outside world (.empty config) lines
  if session.readable then ⟨0, session.output, "", session.world⟩
  else .ofFailure .unreadableInput session.output session.world

/-- Runs the program with its settings. -/
def runWith (filter : Option String) (timestamp : String) (config : Config)
    (input : List UInt8) (files : FileNode) : Outcome :=
  let recorder := recorderOf config filter
  match recorder.openAll files with
  | (files, .error error) => .ofFailure (.log error) "" files
  | (files, .ok ()) => runShell recorder timestamp config (Input.Line.all input) files

/-- Runs the program: its arguments, the filter of its log, the time at which
everything happens, its input and the files around it. -/
def run (arguments : List String) (filter : Option String) (timestamp : String)
    (input : List UInt8) (files : FileNode) : Outcome :=
  match CommandLine.read arguments with
  | .error error => .ofFailure (.arguments error) "" files
  | .ok .help => ⟨0, CommandLine.helpText, "", files⟩
  | .ok .version => ⟨0, CommandLine.versionText, "", files⟩
  | .ok (.start values) =>
      match settings (Files.openPath files) values with
      | .error error => .ofFailure (.config error) "" files
      | .ok config => runWith filter timestamp config input files

end Tabula.Program
