import Tabula.Database.Basic

/-!
# Serving the clients of a database

What clients ask of a database and how it replies. A step takes effect on the registry as
a whole: a query looks its table up once, and whatever happens while it runs concerns the
query alone.
-/

namespace Tabula.Database

/-- A step of a client. -/
inductive Step where
  | register (table : Table)
  | load (openPath : String → Opened) (path descriptorPath : String)
  | drop (name : String)
  | table (name : String)
  /-- A query that is answered as a table while the given moments pass. -/
  | execute (query : String) (raised : Bool) (moments : List Deadline.Moment)
  /-- A query that is answered as a text while the given moments pass. -/
  | render (query : String) (format : Table → Work String) (raised : Bool)
      (moments : List Deadline.Moment)

/-- The reply to a step. -/
inductive Reply where
  /-- The table that has been registered, looked up or answered. -/
  | table (result : Except DatabaseError Table)
  | dropped (result : Except DatabaseError Unit)
  | text (result : Except DatabaseError String)

/-- The reply to a step and the database after it. -/
def serve (database : Database) : Step → Reply × Database
  | .register table =>
      match (database.register table).result with
      | .ok next => (.table (.ok table), next)
      | .error error => (.table (.error error), database)
  | .load openPath path descriptorPath =>
      match (database.load openPath path descriptorPath).result with
      | .ok (table, next) => (.table (.ok table), next)
      | .error error => (.table (.error error), database)
  | .drop name =>
      match (database.drop name).result with
      | .ok next => (.dropped (.ok ()), next)
      | .error error => (.dropped (.error error), database)
  | .table name => (.table (database.table name), database)
  | .execute query raised moments =>
      (.table (database.perform query (database.tableCall query) raised moments).result, database)
  | .render query format raised moments =>
      (.text (database.perform query (database.textCall format query) raised moments).result,
        database)

/-- The database after several steps. -/
def after (database : Database) (steps : List Step) : Database :=
  steps.foldl (fun current step => (current.serve step).2) database

end Tabula.Database
