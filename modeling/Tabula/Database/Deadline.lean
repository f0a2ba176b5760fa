import Tabula.Database.Error
import Tabula.Polled

/-!
# Calls with a deadline

A call runs under a flag of its own below the flag of its caller. A timer raises
the call's own flag when it elapses, unless it is stopped first, which happens after
the call has ended. Call, timer and caller take their steps in any order; a run is
the list of these moments. A call that ends as cancelled after the timer has fired is
reported as timed out, and every other result is passed on.

The moments of a run only ever raise the call's own flag or the caller's, so the
caller's flag shows nothing of the timer.
-/

namespace Tabula.Deadline

universe u

variable {α : Type u}

/-- What has become of the timer. -/
inductive Timer where
  | waiting
  | fired
  | stopped
  deriving DecidableEq, Repr

/-- A call with what can influence it. -/
structure State (α : Type u) where
  /-- What is left of the call. -/
  call : Polled α
  timer : Timer
  /-- Whether the flag of the call itself is raised. -/
  own : Bool
  /-- Whether the flag of the caller is raised. -/
  caller : Bool

/-- A step of the call, the timer, the caller, or the end of the timer. -/
inductive Moment where
  | check
  | elapse
  | interrupt
  | stop
  deriving DecidableEq, Repr

namespace State

/-- A call before its first step. Without a timeout the timer is stopped from the
beginning. -/
def start (call : Polled α) (timeout : Option Nat) (caller : Bool) : State α :=
  ⟨call, if timeout.isSome then .waiting else .stopped, false, caller⟩

/-- What the call sees when it looks at its flag. -/
def flag (state : State α) : Bool :=
  state.own || state.caller

/-- The call looks at its flag and goes on. -/
def check (state : State α) : State α :=
  match state.call with
  | .done _ => state
  | .poll next => { state with call := next state.flag }

/-- The time is over. -/
def elapse (state : State α) : State α :=
  match state.timer with
  | .waiting => { state with timer := .fired, own := true }
  | .fired | .stopped => state

/-- The timer is stopped, which waits for the end of the call. -/
def stop (state : State α) : State α :=
  match state.timer, state.call with
  | .waiting, .done _ => { state with timer := .stopped }
  | _, _ => state

/-- The state after a moment. -/
def step (state : State α) : Moment → State α
  | .check => state.check
  | .elapse => state.elapse
  | .interrupt => { state with caller := true }
  | .stop => state.stop

/-- The state after several moments. -/
def run (state : State α) (moments : List Moment) : State α :=
  moments.foldl step state

/-- What a call has come to. -/
structure Outcome (α : Type u) where
  result : α
  /-- Whether the timer fired before it was stopped. -/
  fired : Bool
  /-- Whether the flag of the caller is raised. -/
  caller : Bool
  deriving DecidableEq, Repr

/-- Lets the call come to its end while nothing else happens. -/
def settle (state : State α) : Outcome α :=
  ⟨state.call.runWith state.flag, state.timer = .fired, state.caller⟩

end State

/-- The timeout to which a result is due: the timer fired and the call ended as
cancelled. -/
def expiry? {β : Type} (timeout : Option Nat) (fired : Bool) :
    Except DatabaseError β → Option Nat
  | .error error => if fired && error.isCancellation then timeout else none
  | .ok _ => none

/-- The result of a call for its caller. -/
def verdict {β : Type} (timeout : Option Nat) (fired : Bool) (result : Except DatabaseError β) :
    Except DatabaseError β :=
  match expiry? timeout fired result with
  | some milliseconds => .error (.timeout milliseconds)
  | none => result

end Tabula.Deadline
