import Mathlib.Data.List.Induction
import Mathlib.Logic.Function.Basic
import Tabula.Proofs.TableMap
import Tabula.Proofs.Text.ByteOrder
import Tabula.Registry.Service

/-!
# What a registry contains

The changes that have been made, and nothing else, say which table stands under which
name. A registry holds these tables if its readings agree with them and if it takes and
drops exactly the tables that they allow. Every step of a client makes at most one change,
and it makes none unless it is a load, a drop or a clearing with success.
-/

namespace Tabula.Registry

/-- A change of what is registered. -/
inductive Change where
  | loaded (table : Table)
  | dropped (name : String)
  | cleared

namespace Change

/-- Whether a change concerns a name. -/
def Touches (name : String) : Change → Prop
  | .loaded table => table.name = name
  | .dropped other => other = name
  | .cleared => True

/-- The tables by name after a change. -/
def apply (contents : String → Option Table) : Change → String → Option Table
  | .loaded table => Function.update contents table.name (some table)
  | .dropped name => Function.update contents name none
  | .cleared => fun _ => none

end Change

/-- The tables by name that changes leave where nothing was registered before. -/
def contents (changes : List Change) : String → Option Table :=
  changes.foldl Change.apply fun _ => none

theorem contents_concat (changes : List Change) (change : Change) :
    contents (changes ++ [change]) = change.apply (contents changes) := by
  simp [contents]

variable {registry next : Registry}

theorem load_eq_ok_iff {table : Table} :
    registry.load table = .ok next ↔
      Text.isAllBlank table.name = false ∧ registry.map.find? table.name = none ∧
        next.map = registry.map.put table := by
  obtain ⟨nextMap, nextNamed⟩ := next
  unfold load
  split
  · rename_i blank
    simp [blank]
  · rename_i notBlank
    rw [Bool.not_eq_true] at notBlank
    cases found : registry.map.find? table.name with
    | some other => simp [contains, TableMap.contains, found]
    | none => simp [contains, TableMap.contains, found, notBlank, eq_comm]

theorem drop_eq_ok_iff {name : String} :
    registry.drop name = .ok next ↔
      (registry.map.find? name).isSome = true ∧ next.map = registry.map.erase name := by
  obtain ⟨nextMap, nextNamed⟩ := next
  unfold drop
  cases found : registry.map.find? name with
  | none => cases blank : Text.isAllBlank name <;> simp [contains, TableMap.contains, found]
  | some table =>
      obtain ⟨member, nameEq⟩ := TableMap.find?_eq_some_iff.1 found
      have notBlank := registry.named table member
      rw [nameEq] at notBlank
      simp [contains, TableMap.contains, found, notBlank, eq_comm]

/-- What is taken can be dropped. -/
theorem exists_drop_eq_ok_iff {name : String} :
    (∃ next, registry.drop name = .ok next) ↔ (registry.map.find? name).isSome = true := by
  constructor
  · rintro ⟨next, dropped⟩
    exact (drop_eq_ok_iff.1 dropped).1
  · intro taken
    rcases Option.isSome_iff_exists.1 taken with ⟨table, found⟩
    rcases TableMap.find?_eq_some_iff.1 found with ⟨member, nameEq⟩
    have notBlank := nameEq ▸ registry.named table member
    have isTaken : registry.contains name = true := taken
    exact ⟨_, by rw [drop, if_neg (by simp [notBlank]), if_pos isTaken]⟩

theorem table_eq_ok_iff {name : String} {table : Table} :
    registry.table name = .ok table ↔ registry.map.find? name = some table := by
  unfold Registry.table TableMap.lookup
  cases registry.map.find? name <;> simp

/-- What a registry can do about a change: nothing, or just that change. -/
inductive Moves (registry : Registry) : Option Change → Registry → Prop
  | stays : Moves registry none registry
  | load {table : Table} {next : Registry} (loaded : registry.load table = .ok next) :
      Moves registry (some (.loaded table)) next
  | drop {name : String} {next : Registry} (dropped : registry.drop name = .ok next) :
      Moves registry (some (.dropped name)) next
  | clear : Moves registry (some .cleared) registry.clear

/-- A name that a move sets free has been dropped, or everything has been cleared. -/
theorem Moves.change_eq_of_gone {change : Option Change} (moves : Moves registry change next)
    {name : String} (taken : (registry.map.find? name).isSome = true)
    (gone : next.map.find? name = none) :
    change = some (.dropped name) ∨ change = some .cleared := by
  cases moves with
  | stays => simp [gone] at taken
  | load loaded =>
      rcases load_eq_ok_iff.1 loaded with ⟨_, _, put⟩
      rw [put, TableMap.find?_put] at gone
      split at gone
      · cases gone
      · simp [gone] at taken
  | @drop other _ dropped =>
      rcases drop_eq_ok_iff.1 dropped with ⟨_, erased⟩
      rw [erased, TableMap.find?_erase] at gone
      split at gone
      · rename_i same
        exact .inl (by rw [same])
      · simp [gone] at taken
  | clear => exact .inr rfl

/-- A move keeps a registry in agreement with the changes. -/
theorem Moves.find? {change : Option Change} (moves : Moves registry change next)
    {changes : List Change} (agrees : registry.map.find? = contents changes) :
    next.map.find? = contents (changes ++ change.toList) := by
  cases moves with
  | stays => simpa using agrees
  | load loaded =>
      obtain ⟨_, _, put⟩ := load_eq_ok_iff.1 loaded
      funext name
      rw [put, TableMap.find?_put, agrees, Option.toList_some, contents_concat, Change.apply,
        Function.update_apply]
  | drop dropped =>
      obtain ⟨_, erased⟩ := drop_eq_ok_iff.1 dropped
      funext name
      rw [erased, TableMap.find?_erase, agrees, Option.toList_some, contents_concat, Change.apply,
        Function.update_apply]
  | clear =>
      rw [Option.toList_some, contents_concat]
      rfl

/-! ## Agreement with the changes -/

/-- A registry holds the tables that changes have left: they stand under their own names,
none of which is blank, every reading agrees with them, and a table can be loaded if its
name is not blank and free and dropped if its name is taken. -/
structure Holds (registry : Registry) (changes : List Change) : Prop where
  table_eq : ∀ name,
    registry.table name = (contents changes name).elim (.error (.tableNotFound name)) .ok
  lastLoaded : ∀ name table, registry.table name = .ok table ↔
    ∃ before after, changes = before ++ .loaded table :: after ∧ table.name = name ∧
      ∀ change ∈ after, ¬ change.Touches name
  contains_eq : ∀ name, registry.contains name = (contents changes name).isSome
  mem_names : ∀ name, name ∈ registry.names ↔ (contents changes name).isSome = true
  names_ascending : registry.names.Pairwise fun first second =>
    Text.Utf8.encode first < Text.Utf8.encode second
  size_eq : registry.size = registry.names.length
  ownName : ∀ name table, contents changes name = some table →
    table.name = name ∧ Text.isAllBlank name = false
  canLoad : ∀ table, (∃ next, registry.load table = .ok next) ↔
    Text.isAllBlank table.name = false ∧ contents changes table.name = none
  canDrop : ∀ name, (∃ next, registry.drop name = .ok next) ↔
    (contents changes name).isSome = true

/-- The change that a step has made, to judge by its reply. -/
def Step.change? : Step → Reply → Option Change
  | .load _, .table (.ok table) => some (.loaded table)
  | .drop name, .table (.ok _) => some (.dropped name)
  | .clear, .cleared => some .cleared
  | _, _ => none

/-- The changes that steps make, in order. -/
def changes (registry : Registry) : List Step → List Change
  | [] => []
  | step :: rest =>
      (step.change? (registry.serve step).1).toList ++ (registry.serve step).2.changes rest

theorem moves_serve (registry : Registry) (step : Step) :
    registry.Moves (step.change? (registry.serve step).1) (registry.serve step).2 := by
  cases step with
  | load table =>
      rw [serve]
      cases loaded : registry.load table with
      | error error => exact .stays
      | ok next => exact .load loaded
  | drop name =>
      rw [serve]
      cases dropped : registry.drop name with
      | error error => exact .stays
      | ok next =>
          obtain ⟨table, found⟩ := Option.isSome_iff_exists.1 (drop_eq_ok_iff.1 dropped).1
          rw [table_eq_ok_iff.2 found]
          exact .drop dropped
  | get name => exact .stays
  | contains name => exact .stays
  | clear => exact .clear
  | query text answers => exact .stays

end Tabula.Registry
