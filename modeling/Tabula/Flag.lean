import Tabula.Table.Error

/-!
# Cancellation flags

A flag shares a cell with its clones and has the cells of the flags from which it
descends above it. Raising a flag marks its own cell for good; a flag reports
cancellation once one of its cells is marked.
-/

namespace Tabula

/-- A flag: its own cell and the cells of its ancestors, the nearest first. -/
structure Flag where
  cell : Nat
  ancestors : List Nat
  deriving DecidableEq, Repr

namespace Flag

/-- The cell of a flag and those of its ancestors. -/
def cells (flag : Flag) : List Nat :=
  flag.cell :: flag.ancestors

end Flag

/-- The flags that have been created, in order, and the marked cells. New cells are
numbered on from `freshCell`. -/
structure FlagStore where
  flags : List Flag
  freshCell : Nat
  marked : List Nat
  deriving DecidableEq, Repr

namespace FlagStore

/-- The store without flags. -/
def empty : FlagStore := ⟨[], 0, []⟩

/-- Creates a flag that is not raised and has no parent. -/
def create (store : FlagStore) : FlagStore :=
  { store with flags := store.flags ++ [⟨store.freshCell, []⟩], freshCell := store.freshCell + 1 }

/-- Creates another flag of the same cells. -/
def clone (store : FlagStore) (index : Nat) : FlagStore :=
  match store.flags[index]? with
  | some flag => { store with flags := store.flags ++ [flag] }
  | none => store

/-- Creates a flag with a cell of its own below those of another flag. -/
def child (store : FlagStore) (index : Nat) : FlagStore :=
  match store.flags[index]? with
  | some flag =>
      { store with
        flags := store.flags ++ [⟨store.freshCell, flag.cells⟩]
        freshCell := store.freshCell + 1 }
  | none => store

/-- Raises a flag. -/
def raise (store : FlagStore) (index : Nat) : FlagStore :=
  match store.flags[index]? with
  | some flag => { store with marked := flag.cell :: store.marked }
  | none => store

/-- Whether a flag reports cancellation. -/
def reports (store : FlagStore) (flag : Flag) : Bool :=
  flag.cells.any store.marked.contains

/-- Whether the flag of a number reports cancellation. -/
def isRaised (store : FlagStore) (index : Nat) : Bool :=
  store.flags[index]?.any store.reports

/-- What each flag reports, in order of creation. -/
def reported (store : FlagStore) : List Bool :=
  store.flags.map store.reports

/-- Fails as cancelled once the flag of a number reports cancellation. -/
def check (store : FlagStore) (index : Nat) : Except TableError Unit :=
  if store.isRaised index then .error .cancelled else .ok ()

/-- What can be done with flags, which go by their numbers. -/
inductive Action where
  | create
  | clone (index : Nat)
  | child (index : Nat)
  | raise (index : Nat)
  deriving DecidableEq, Repr

/-- The flag that an action starts from. -/
def Action.subject? : Action → Option Nat
  | .create => none
  | .clone index | .child index | .raise index => some index

/-- The store after an action. -/
def act (store : FlagStore) : Action → FlagStore
  | .create => store.create
  | .clone index => store.clone index
  | .child index => store.child index
  | .raise index => store.raise index

/-- The store after several actions. -/
def run (store : FlagStore) (actions : List Action) : FlagStore :=
  actions.foldl act store

end FlagStore

end Tabula
