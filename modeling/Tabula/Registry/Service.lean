import Tabula.Query.Answer
import Tabula.Registry

/-!
# Serving the clients of a registry

What clients ask of a registry and how it replies. Each step is taken as a whole, so that
one list of steps stands for the order in which the steps of all clients take effect.
-/

namespace Tabula.Registry

/-- A step of a client. -/
inductive Step where
  | load (table : Table)
  | drop (name : String)
  | get (name : String)
  | contains (name : String)
  | clear
  /-- A query, whose polls are answered in turn. -/
  | query (text : String) (answers : Nat → Bool)

/-- The reply to a step. -/
inductive Reply where
  /-- The table that has been loaded, dropped or looked up. -/
  | table (result : Except TableError Table)
  | contained (result : Bool)
  | cleared
  | answered (result : Except Query.QueryError Table)

/-- The reply to a step and the registry after it. -/
def serve (registry : Registry) : Step → Reply × Registry
  | .load table =>
      match registry.load table with
      | .ok next => (.table (.ok table), next)
      | .error error => (.table (.error error), registry)
  | .drop name =>
      match registry.drop name with
      | .ok next => (.table (registry.table name), next)
      | .error error => (.table (.error error), registry)
  | .get name => (.table (registry.table name), registry)
  | .contains name => (.contained (registry.contains name), registry)
  | .clear => (.cleared, registry.clear)
  | .query text answers =>
      (.answered ((Query.answer registry.table text).run answers), registry)

/-- The registry after several steps. -/
def after (registry : Registry) (steps : List Step) : Registry :=
  steps.foldl (fun current step => (current.serve step).2) registry

end Tabula.Registry
