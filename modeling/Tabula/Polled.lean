/-!
# Polled computations

A long computation asks now and then whether it has been cancelled. It is
modelled by the questions that it asks: a polled computation is either finished
or waits for the answer to its next question. Nothing else about the outside can
influence it, so what a computation may return is a matter of the answers alone.
-/

namespace Tabula

universe u v

/-- A computation that polls a cancellation flag. The answer `true` says that the
flag is raised. -/
inductive Polled (α : Type u) where
  | done (result : α)
  | poll (next : Bool → Polled α)

namespace Polled

variable {α : Type u} {β : Type u}

/-- Goes on with `next` once the computation is finished. -/
def bind : Polled α → (α → Polled β) → Polled β
  | .done result, next => next result
  | .poll continuation, next => .poll fun raised => (continuation raised).bind next

instance : Monad Polled where
  pure := .done
  bind := Polled.bind

@[simp]
theorem pure_eq (result : α) : (pure result : Polled α) = .done result := rfl

@[simp]
theorem done_bind (result : α) (next : α → Polled β) :
    (Polled.done result >>= next) = next result :=
  rfl

@[simp]
theorem poll_bind (continuation : Bool → Polled α) (next : α → Polled β) :
    (Polled.poll continuation >>= next) = .poll fun raised => continuation raised >>= next :=
  rfl

/-- Whether the flag is raised. -/
def isRaised : Polled Bool :=
  .poll .done

/-- The result when the polls are answered in turn, from the given one on. -/
def runFrom (answers : Nat → Bool) : Nat → Polled α → α
  | _, .done result => result
  | index, .poll next => runFrom answers (index + 1) (next (answers index))

/-- The result when the poll number `n`, counted from zero, is answered by
`answers n`. -/
def run (answers : Nat → Bool) (computation : Polled α) : α :=
  computation.runFrom answers 0

/-- The result under a flag that is never raised. -/
def runLowered (computation : Polled α) : α :=
  computation.run fun _ => false

/-- The result under a flag that answers `count` polls before it is raised. -/
def runRaisedAfter (count : Nat) (computation : Polled α) : α :=
  computation.run fun index => count ≤ index

/-- The result under a flag that is raised beforehand or never. -/
def runWith (raised : Bool) (computation : Polled α) : α :=
  computation.run fun _ => raised

/-- How many polls are made while all of them are answered by "not raised". -/
def pollCount : Polled α → Nat
  | .done _ => 0
  | .poll next => (next false).pollCount + 1

/-- Whether the computation is finished. -/
def isDone : Polled α → Bool
  | .done _ => true
  | .poll _ => false

end Polled

end Tabula
