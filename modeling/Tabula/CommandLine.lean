import Tabula.Binary64.Text

/-!
# The command line

The arguments are read from left to right. `--config` and `--timeout-ms` take a
value, either after an equals sign or as the next argument, which must not look like
an option; each may be given once. A request for help or for the version is granted
as soon as it is read, if everything before it was right. After `--` nothing is an
option, and nothing else may be given.
-/

namespace Tabula.CommandLine

/-- An option that takes a value. -/
inductive Setting where
  | config
  | timeout
  deriving DecidableEq, Repr

namespace Setting

/-- The long name of an option. -/
def name : Setting → String
  | .config => "config"
  | .timeout => "timeout-ms"

/-- The options that take a value. -/
def all : List Setting := [.config, .timeout]

/-- The option of a long name. -/
def ofName? (name : String) : Option Setting :=
  all.find? fun setting => setting.name = name

end Setting

/-- The values that the arguments give. -/
structure Values where
  config : Option String
  timeout : Option Nat
  deriving DecidableEq, Repr

/-- What the arguments ask for. -/
inductive Request where
  | help
  | version
  | start (values : Values)
  deriving DecidableEq, Repr

/-- Why arguments are refused. -/
inductive ArgumentError where
  | unexpected (argument : String)
  | missingValue (setting : Setting)
  | invalidTimeout (value : String)
  | repeated (setting : Setting)
  deriving DecidableEq, Repr

namespace ArgumentError

/-- The error in words. -/
def message : ArgumentError → String
  | .unexpected argument => s!"unexpected argument '{argument}' found"
  | .missingValue setting => s!"a value is required for '--{setting.name}'"
  | .invalidTimeout value => s!"invalid value '{value}' for '--timeout-ms'"
  | .repeated setting => s!"the argument '--{setting.name}' cannot be used multiple times"

end ArgumentError

/-- Reads a natural number of at most 64 bits, which may have a plus sign. -/
def word64? (text : List Char) : Option Nat :=
  let digits := match text with
    | '+' :: rest => rest
    | text => text
  if digits.isEmpty || !digits.all Char.isDigit then none
  else
    let value := Decimal.digitsFrom 0 digits
    if value < UInt64.size then some value else none

namespace Values

/-- The values when none are given. -/
def none : Values := ⟨.none, .none⟩

/-- Takes the value of an option. -/
def give (values : Values) (setting : Setting) (value : String) :
    Except ArgumentError Values :=
  match setting with
  | .config =>
      if value = "" then .error (.missingValue .config)
      else if values.config.isSome then .error (.repeated .config)
      else .ok { values with config := some value }
  | .timeout =>
      if values.timeout.isSome then .error (.repeated .timeout)
      else
        match word64? value.toList with
        | some milliseconds => .ok { values with timeout := some milliseconds }
        | .none => .error (.invalidTimeout value)

end Values

/-- An argument by its looks. -/
inductive Argument where
  /-- The sign that no options follow. -/
  | terminator
  /-- A name after two hyphens, with what follows an equals sign. -/
  | long (name : String) (value : Option String)
  /-- Letters after one hyphen. -/
  | short (first : Char)
  | plain
  deriving DecidableEq, Repr

namespace Argument

/-- The part before the first equals sign, and the part after it. -/
def splitValue (text : List Char) : List Char × Option (List Char) :=
  match text.dropWhile (· ≠ '=') with
  | [] => (text, none)
  | _ :: value => (text.takeWhile (· ≠ '='), some value)

/-- The looks of an argument. -/
def ofText (argument : String) : Argument :=
  match argument.toList with
  | ['-', '-'] => .terminator
  | '-' :: '-' :: text =>
      let (name, value) := splitValue text
      .long (String.ofList name) (value.map String.ofList)
  | '-' :: first :: _ => .short first
  | _ => .plain

end Argument

/-- Reads arguments, given the values before them and the option that waits for its
value. -/
def readFrom (values : Values) (pending : Option Setting) :
    List String → Except ArgumentError Request
  | [] =>
      match pending with
      | some setting => .error (.missingValue setting)
      | none => .ok (.start values)
  | argument :: rest =>
      match Argument.ofText argument, pending with
      | .plain, some setting =>
          match values.give setting argument with
          | .error error => .error error
          | .ok values => readFrom values none rest
      | _, some setting => .error (.missingValue setting)
      | .plain, none => .error (.unexpected argument)
      | .terminator, none =>
          match rest with
          | [] => .ok (.start values)
          | extra :: _ => .error (.unexpected extra)
      | .short first, none =>
          if first = 'h' then .ok .help
          else if first = 'V' then .ok .version
          else .error (.unexpected argument)
      | .long name value, none =>
          match Setting.ofName? name, value with
          | some setting, some text =>
              match values.give setting text with
              | .error error => .error error
              | .ok values => readFrom values none rest
          | some setting, none => readFrom values (some setting) rest
          | none, some _ => .error (.unexpected argument)
          | none, none =>
              if name = "help" then .ok .help
              else if name = "version" then .ok .version
              else .error (.unexpected argument)

/-- Reads the arguments. -/
def read (arguments : List String) : Except ArgumentError Request :=
  readFrom .none none arguments

/-- The name and version of the program. -/
def versionText : String := "sift 0.1.0\n"

/-- The summary of the options. -/
def helpText : String :=
  "Interactive shell for the sift query engine\n\n" ++
  "Usage: sift [OPTIONS]\n\n" ++
  "Options:\n" ++
  "      --config <CONFIG>          Path to the YAML application config\n" ++
  "      --timeout-ms <TIMEOUT_MS>  " ++
  "Per-query timeout in milliseconds; overrides the config file\n" ++
  "  -h, --help                     Print help\n" ++
  "  -V, --version                  Print version\n"

end Tabula.CommandLine
