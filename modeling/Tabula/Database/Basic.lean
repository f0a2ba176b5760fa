import Tabula.Box
import Tabula.Config
import Tabula.Database.Deadline
import Tabula.Registry

/-!
# The database

A registry of tables together with the settings. Tables are registered, loaded from
files and dropped; a query is answered under the deadline of the settings, either as
a table or drawn by a formatter. Every operation reports what it did.
-/

namespace Tabula

/-- The registered tables and the settings. -/
structure Database where
  registry : Registry
  config : Config

namespace Database

/-- The result of an operation with the events reported on the way to it. -/
abbrev Report (α : Type) := Log.Reported (Except DatabaseError α)

/-- The part of the program that reports what happens to a database. -/
def reporter : String := "sift_database::database"

/-- An event of the database that takes no time. -/
def event (level : Log.Level) (message : String) (details : List (String × Log.Detail)) :
    Log.Event :=
  ⟨level, reporter, message, details, false⟩

/-- The database without tables. -/
def empty (config : Config) : Database := ⟨.empty, config⟩

/-- The names of the tables in ascending order. -/
def tableNames (database : Database) : List String :=
  database.registry.names

/-- The number of tables. -/
def tableCount (database : Database) : Nat :=
  database.registry.size

/-- The table of a name. -/
def table (database : Database) (name : String) : Except DatabaseError Table :=
  (database.registry.table name).mapError .catalog

/-- Registers a table under its own name. -/
def register (database : Database) (table : Table) : Report Database :=
  match database.registry.load table with
  | .error error => .silent (.error (.catalog error))
  | .ok registry =>
      let details : List (String × Log.Detail) :=
        [("table", .text table.name), ("rows", .count table.rowCount),
          ("columns", .count table.columns.length)]
      ⟨[event .info "table has been loaded" details], .ok { database with registry }⟩

/-- Loads a table from files and registers it. -/
def load (database : Database) (openPath : String → Opened) (path descriptorPath : String) :
    Report (Table × Database) :=
  let loaded := TableFile.loadDescribed openPath path descriptorPath
  match loaded.result with
  | .error error => ⟨loaded.events, .error (.load error)⟩
  | .ok table =>
      let registered := database.register table
      ⟨loaded.events ++ registered.events, registered.result.map (table, ·)⟩

/-- Drops the table of a name. -/
def drop (database : Database) (name : String) : Report Database :=
  match database.registry.drop name with
  | .error error => .silent (.error (.catalog error))
  | .ok registry =>
      ⟨[event .info "table has been dropped" [("table", .text name)]],
        .ok { database with registry }⟩

/-- The event of an answered query. -/
def answered (query : String) : Except DatabaseError Table → Log.Event
  | .ok table =>
      ⟨.info, reporter, "query has been executed",
        [("query", .text query), ("table", .text table.name), ("rows", .count table.rowCount)],
        true⟩
  | .error error =>
      ⟨.warn, reporter, "query failed", [("query", .text query), ("error", .text error.message)],
        true⟩

/-- The call that answers a query as a table. -/
def tableCall (database : Database) (query : String) : Polled (Report Table) := do
  let answer ← Query.answer database.registry.table query
  let result := answer.mapError .query
  return ⟨[answered query result], result⟩

/-- The call that answers a query as a text. -/
def textCall (database : Database) (format : Table → Work String) (query : String) :
    Polled (Report String) := do
  let answer ← database.tableCall query
  match answer.result with
  | .error error => return ⟨answer.events, .error error⟩
  | .ok table =>
      let text ← (format table).run
      return ⟨answer.events, text.mapError .format⟩

/-- A call before its first step, under the deadline of the settings. -/
def start {α : Type} (database : Database) (call : Polled (Report α)) (raised : Bool) :
    Deadline.State (Report α) :=
  .start call database.config.effectiveTimeout raised

/-- The event of a query that has been stopped by its deadline. -/
def timedOut (query : String) (milliseconds : Nat) : Log.Event :=
  event .warn "query has been cancelled by timeout"
    [("query", .text query), ("timeout_ms", .count milliseconds)]

/-- What a call under a deadline has come to, for its caller. -/
def conclude {α : Type} (database : Database) (query : String)
    (outcome : Deadline.State.Outcome (Report α)) : Report α :=
  let timeout := database.config.effectiveTimeout
  let result := outcome.result.result
  let late := (Deadline.expiry? timeout outcome.fired result).map (timedOut query)
  ⟨outcome.result.events ++ late.toList, Deadline.verdict timeout outcome.fired result⟩

/-- The result of a call on a query when the given moments pass before the rest of
the call runs undisturbed. -/
def perform {α : Type} (database : Database) (query : String) (call : Polled (Report α))
    (raised : Bool) (moments : List Deadline.Moment) : Report α :=
  database.conclude query ((database.start call raised).run moments).settle

/-- Answers a query as a table while nothing disturbs it. -/
def execute (database : Database) (query : String) (raised : Bool) : Report Table :=
  database.perform query (database.tableCall query) raised []

/-- Answers a query as a drawn table while nothing disturbs it. -/
def render (database : Database) (query : String) (raised : Bool) : Report String :=
  database.perform query (database.textCall Box.render query) raised []

end Database

end Tabula
