import Tabula.Log.Directive

/-!
# Which events are recorded

A log filter is a list of directives, separated by commas. Of those about an event
the most specific one counts. A filter without directives records nothing.
-/

namespace Tabula.Log

/-- The directives of a log. -/
structure Filter where
  directives : List Directive
  deriving DecidableEq, Repr

namespace Filter

/-- The filter that is used when none is given or it cannot be read. -/
def default : Filter := ⟨[⟨none, none, 3⟩]⟩

/-- Splits a text at commas. -/
def splitFrom (piece : List Char) : List Char → List (List Char)
  | [] => [piece.reverse]
  | char :: rest =>
      if char = ',' then piece.reverse :: splitFrom [] rest else splitFrom (char :: piece) rest

/-- Reads a filter; empty pieces are left out. -/
def read? (text : String) : Option Filter :=
  (((splitFrom [] text.toList).filter fun piece => !piece.isEmpty).mapM Directive.read?).map
    fun directives => ⟨directives.filterMap id⟩

/-- The directive that counts for an event, of several equally specific ones the last. -/
def best (event : Event) : List Directive → Option Directive
  | [] => none
  | directive :: rest =>
      match best event rest with
      | none => if directive.covers event then some directive else none
      | some other =>
          if directive.covers event && directive.outranks other then some directive
          else some other

/-- Whether an event is recorded. -/
def allows (filter : Filter) (event : Event) : Bool :=
  match best event filter.directives with
  | some directive => event.level.verbosity ≤ directive.verbosity
  | none => false

end Filter

end Tabula.Log
