import Tabula.Table.Basic

/-!
# Tables by name

A finite map from names to tables, in which every table stands under its own
name. The tables are kept in ascending order of their names, which is the order of
code points and therefore also that of the encoded bytes.
-/

namespace Tabula

/-- Tables with distinct names, ordered by name. -/
structure TableMap where
  tables : List Table
  ascending : tables.Pairwise fun left right => left.name < right.name

namespace TableMap

/-- The map without tables. -/
def empty : TableMap := ⟨[], .nil⟩

/-- The names in ascending order. -/
def names (map : TableMap) : List String :=
  map.tables.map Table.name

/-- The number of tables. -/
def size (map : TableMap) : Nat :=
  map.tables.length

/-- The table of a name. -/
def find? (map : TableMap) (name : String) : Option Table :=
  map.tables.find? fun table => table.name = name

/-- Whether there is a table of a name. -/
def contains (map : TableMap) (name : String) : Bool :=
  (map.find? name).isSome

/-- Puts a table at its place among ascending ones, where it replaces a table of
the same name. -/
def putInto (table : Table) : List Table → List Table
  | [] => [table]
  | first :: rest =>
      if table.name < first.name then table :: first :: rest
      else if table.name = first.name then table :: rest
      else first :: putInto table rest

theorem mem_putInto {table other : Table} {tables : List Table}
    (member : other ∈ putInto table tables) : other = table ∨ other ∈ tables := by
  induction tables with
  | nil => simpa [putInto] using member
  | cons first rest ih =>
      unfold putInto at member
      split at member
      · simpa using member
      · split at member
        · rcases List.mem_cons.1 member with rfl | inRest
          · exact .inl rfl
          · exact .inr (List.mem_cons_of_mem _ inRest)
        · rcases List.mem_cons.1 member with rfl | inRest
          · exact .inr List.mem_cons_self
          · exact (ih inRest).imp_right (List.mem_cons_of_mem _)

theorem putInto_ascending {table : Table} {tables : List Table}
    (ascending : tables.Pairwise fun left right => left.name < right.name) :
    (putInto table tables).Pairwise fun left right => left.name < right.name := by
  induction tables with
  | nil => simp [putInto]
  | cons first rest ih =>
      have parts := List.pairwise_cons.1 ascending
      unfold putInto
      split
      · rename_i below
        refine List.pairwise_cons.2 ⟨?_, ascending⟩
        intro other member
        rcases List.mem_cons.1 member with rfl | inRest
        · exact below
        · exact String.lt_trans below (parts.1 other inRest)
      · rename_i notBelow
        split
        · rename_i equal
          exact List.pairwise_cons.2 ⟨fun other member => equal ▸ parts.1 other member, parts.2⟩
        · rename_i different
          refine List.pairwise_cons.2 ⟨?_, ih parts.2⟩
          intro other member
          rcases mem_putInto member with rfl | inRest
          · have above : first.name ≤ other.name := String.not_lt.1 notBelow
            rcases Std.le_iff_lt_or_eq.1 above with less | equal
            · exact less
            · exact absurd equal.symm different
          · exact parts.1 other inRest

/-- Puts a table under its name, where it replaces an earlier one. -/
def put (map : TableMap) (table : Table) : TableMap :=
  ⟨putInto table map.tables, putInto_ascending map.ascending⟩

/-- Takes away the table of a name. -/
def erase (map : TableMap) (name : String) : TableMap :=
  ⟨map.tables.filter fun table => table.name ≠ name, map.ascending.filter _⟩

/-- The table of a name, or the error that there is none. -/
def lookup (map : TableMap) (name : String) : Except TableError Table :=
  match map.find? name with
  | some table => .ok table
  | none => .error (.tableNotFound name)

/-- The map of tables that come one after the other. -/
def ofList (tables : List Table) : TableMap :=
  tables.foldl put empty

end TableMap

end Tabula
