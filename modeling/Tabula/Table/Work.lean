import Tabula.Polled
import Tabula.Table.Error

/-!
# Cancellable work on tables

Work is a polled computation that may fail; the answer that the flag is raised
makes it fail as cancelled at once.
-/

namespace Tabula

/-- Work on tables that polls a cancellation flag. -/
abbrev Work := ExceptT TableError Polled

namespace Work

/-- Polls the flag and stops if it is raised. -/
def check : Work Unit :=
  ExceptT.mk <| .poll fun raised => .done (if raised then .error .cancelled else .ok ())

/-- A result that needs no polling. -/
def ofExcept {α : Type} (result : Except TableError α) : Work α :=
  ExceptT.mk (.done result)

end Work

end Tabula
