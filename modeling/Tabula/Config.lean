import Tabula.Files
import Tabula.Yaml.Decode

/-!
# Configuration

The settings of the program, read from YAML: how long a query may take and where
events are logged. What is not given has its default.
-/

namespace Tabula

/-- The settings. -/
structure Config where
  /-- The longest a query may take, in milliseconds. -/
  queryTimeout : Option Nat
  /-- The file for events that are no errors. -/
  accessLog : String
  /-- The file for errors. -/
  errorLog : String
  deriving DecidableEq, Repr

/-- Why settings cannot be read. -/
inductive ConfigError where
  | notFound (path : String)
  | undecodable
  | unreadable (reason : String)
  deriving DecidableEq, Repr

namespace ConfigError

/-- The error in words. -/
def message : ConfigError → String
  | .notFound path => s!"Config not found: {path}"
  | .undecodable => "Error when decoding app config: not a configuration in YAML"
  | .unreadable reason => s!"I/O error: {reason}"

end ConfigError

namespace Config

/-- The settings that are used when none are given. -/
def default : Config := ⟨none, "access.log", "error.log"⟩

/-- Reads settings. -/
def decode (document : Yaml.Document) (node : Yaml.Node) : Yaml.Decoder Config := do
  let entries ← document.entries node
  let queryTimeout ← Yaml.field "query_timeout" (document.optional document.word64) entries
  let accessLog ← Yaml.field "access_log" document.text entries
  let errorLog ← Yaml.field "error_log" document.text entries
  return ⟨queryTimeout.getD none, accessLog.getD default.accessLog,
    errorLog.getD default.errorLog⟩

/-- Reads settings from the bytes of a YAML stream. -/
def ofBytes (bytes : List UInt8) : Except ConfigError Config :=
  match (Yaml.Document.ofBytes? bytes).bind fun document => document.decode? (decode document) with
  | some config => .ok config
  | none => .error .undecodable

/-- Reads settings from an opened file. -/
def ofFile (path : String) : Opened → Except ConfigError Config
  | .absent => .error (.notFound path)
  | .refused reason => .error (.unreadable reason)
  | .unreadable _ => .error .undecodable
  | .contents bytes => ofBytes bytes

/-- Whether these are the settings that are used when none are given. Paths are the
same if they have the same steps. -/
def isDefault (config : Config) : Bool :=
  config.queryTimeout = default.queryTimeout &&
    Files.steps config.accessLog = Files.steps default.accessLog &&
    Files.steps config.errorLog = Files.steps default.errorLog

/-- The settings with another timeout. -/
def withQueryTimeout (config : Config) (milliseconds : Nat) : Config :=
  { config with queryTimeout := some milliseconds }

/-- The timeout that is kept; zero means none. -/
def effectiveTimeout (config : Config) : Option Nat :=
  config.queryTimeout.filter (0 < ·)

end Config

end Tabula
