import Tabula.TableMap
import Tabula.Text.Blank

/-!
# The registry of loaded tables

Tables are loaded under their own names and dropped by name. A name can be loaded
once only and must not be blank; everything else about a registry is the map of
its tables.
-/

namespace Tabula

/-- The loaded tables, none of which has a blank name. -/
structure Registry where
  map : TableMap
  named : ∀ table ∈ map.tables, Text.isAllBlank table.name = false

namespace Registry

/-- The registry without tables. -/
def empty : Registry := ⟨.empty, by simp [TableMap.empty]⟩

/-- The names of the loaded tables in ascending order. -/
def names (registry : Registry) : List String :=
  registry.map.names

/-- The number of loaded tables. -/
def size (registry : Registry) : Nat :=
  registry.map.size

/-- Whether a table of the name is loaded. -/
def contains (registry : Registry) (name : String) : Bool :=
  registry.map.contains name

/-- The loaded table of a name. -/
def table (registry : Registry) (name : String) : Except TableError Table :=
  registry.map.lookup name

/-- Loads a table under its name, which must be new and not blank. -/
def load (registry : Registry) (table : Table) : Except TableError Registry :=
  if blank : Text.isAllBlank table.name then .error (.blankName table.name)
  else if registry.contains table.name then .error (.tableExists table.name)
  else .ok
    { map := registry.map.put table
      named := by
        intro other member
        rcases TableMap.mem_putInto member with rfl | old
        · simpa using blank
        · exact registry.named other old }

/-- Drops the table of a name, which must be loaded and not blank. -/
def drop (registry : Registry) (name : String) : Except TableError Registry :=
  if Text.isAllBlank name then .error (.blankName name)
  else if registry.contains name then
    .ok
      { map := registry.map.erase name
        named := fun table member => registry.named table (List.mem_filter.1 member).1 }
  else .error (.tableNotFound name)

/-- Drops every table. -/
def clear (_ : Registry) : Registry :=
  empty

end Registry

end Tabula
