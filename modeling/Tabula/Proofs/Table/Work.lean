import Tabula.Table.Work

/-!
# Work that is never cancelled

Under a flag that is never raised, a computation is its result and work on tables is
the value or the error that it ends with: asking the flag has no effect and steps
follow each other as plain computations that may fail.
-/

namespace Tabula

universe u

namespace Polled

variable {α β : Type u}

/-- When all questions are answered alike, it does not matter which one is the next. -/
theorem runFrom_const (raised : Bool) (computation : Polled α) (first second : Nat) :
    computation.runFrom (fun _ => raised) first = computation.runFrom (fun _ => raised) second := by
  induction computation generalizing first second with
  | done result => rfl
  | poll next ih => exact ih raised (first + 1) (second + 1)

theorem runLowered_poll (next : Bool → Polled α) :
    (Polled.poll next).runLowered = (next false).runLowered :=
  runFrom_const false (next false) 1 0

theorem runLowered_bind (computation : Polled α) (next : α → Polled β) :
    (computation >>= next).runLowered = (next computation.runLowered).runLowered := by
  induction computation with
  | done result => rfl
  | poll continuation ih => rw [poll_bind, runLowered_poll, ih, runLowered_poll]

end Polled

namespace Work

variable {α β : Type}

/-- What work ends with when it is never cancelled. -/
def outcome (work : Work α) : Except TableError α :=
  (ExceptT.run work).runLowered

@[simp]
theorem outcome_pure (result : α) : outcome (pure result) = .ok result :=
  rfl

@[simp]
theorem outcome_throw (error : TableError) : outcome (throw error : Work α) = .error error :=
  rfl

@[simp]
theorem outcome_check : outcome check = .ok () :=
  rfl

@[simp]
theorem outcome_ofExcept (result : Except TableError α) : outcome (ofExcept result) = result :=
  rfl

@[simp]
theorem outcome_bind (work : Work α) (next : α → Work β) :
    outcome (work >>= next) = work.outcome.bind fun result => (next result).outcome := by
  have steps : outcome (work >>= next) =
      Polled.runLowered (ExceptT.bindCont next (ExceptT.run work).runLowered) :=
    Polled.runLowered_bind (ExceptT.run work) (ExceptT.bindCont next)
  rw [steps]
  change _ = Except.bind (ExceptT.run work).runLowered _
  cases (ExceptT.run work).runLowered with
  | error error => rfl
  | ok result => rfl

end Work

end Tabula
