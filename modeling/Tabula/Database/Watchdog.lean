import Tabula.Database.Basic
import Tabula.Flag

/-!
# The watchdog of a call

A call under a deadline as its parties see it. The call runs with a child of the flag of
its caller. A watchdog holds a clone of that child and waits for a message or for the end
of the time, whichever comes first; when the time is over it raises the flag. The message
is sent once the call has ended, and then the end of the watchdog is awaited, which tells
whether it has raised the flag.

Every moment is a step of one party, and the rest of the program goes on with its own
flags in the meantime. A moment that is not possible leaves everything as it is.
-/

namespace Tabula

namespace Watchdog

universe u

variable {α : Type u}

/-- How far the watchdog has come. -/
inductive Phase where
  | waiting
  /-- The time is over, and the flag has not been raised yet. -/
  | overdue
  /-- The watchdog has raised the flag and ended. -/
  | fired
  /-- The watchdog has received the message and ended, or there is none. -/
  | stopped
  deriving DecidableEq, Repr

/-- A call with its watchdog and the flags of the whole program. -/
structure State (α : Type u) where
  /-- What is left of the call. -/
  call : Polled α
  store : FlagStore
  /-- The number of the caller's flag. -/
  caller : Nat
  /-- The number of the flag that the call looks at. -/
  own : Nat
  /-- The number of the flag that the watchdog raises. -/
  held : Nat
  phase : Phase
  /-- Whether the message has been sent. -/
  sent : Bool

/-- A step of one of the parties. -/
inductive Moment where
  /-- The call looks at its flag and goes on. -/
  | check
  /-- The time of the watchdog is over. -/
  | elapse
  /-- The watchdog raises the flag. -/
  | raise
  /-- The message is sent. -/
  | send
  /-- The watchdog receives the message. -/
  | receive
  /-- The caller or anybody else uses a flag, if it is not one of the call and its watchdog,
  which nobody else knows. -/
  | act (action : FlagStore.Action)
  deriving DecidableEq, Repr

namespace State

/-- A call before its first step, with a flag below that of its caller, and with a watchdog
if there is a timeout. -/
def start (call : Polled α) (timeout : Option Nat) (store : FlagStore) (caller : Nat) : State α :=
  let own := store.flags.length
  match timeout with
  | none => ⟨call, store.child caller, caller, own, own, .stopped, false⟩
  | some _ => ⟨call, (store.child caller).clone own, caller, own, own + 1, .waiting, false⟩

/-- The call looks at its flag and goes on. -/
def check (state : State α) : State α :=
  match state.call with
  | .done _ => state
  | .poll next => { state with call := next (state.store.isRaised state.own) }

/-- The state after a moment. -/
def step (state : State α) : Moment → State α
  | .check => state.check
  | .elapse => if state.phase = .waiting then { state with phase := .overdue } else state
  | .raise =>
      if state.phase = .overdue then
        { state with store := state.store.raise state.held, phase := .fired }
      else state
  | .send => if state.call.isDone then { state with sent := true } else state
  | .receive =>
      if state.sent ∧ state.phase = .waiting then { state with phase := .stopped } else state
  | .act action =>
      if action.subject? = some state.own ∨ action.subject? = some state.held then state
      else { state with store := state.store.act action }

/-- The state after several moments. -/
def run (state : State α) (moments : List Moment) : State α :=
  moments.foldl step state

/-- What the call has come to, once both the call and its watchdog have ended. -/
def outcome? (state : State α) : Option (Deadline.State.Outcome α) :=
  match state.call, state.phase with
  | .done result, .fired => some ⟨result, true, state.store.isRaised state.caller⟩
  | .done result, .stopped => some ⟨result, false, state.store.isRaised state.caller⟩
  | _, _ => none

end State

end Watchdog

/-- A call before its first step, watched over under the deadline of the settings. The
caller's flag has the given number. That a watchdog cannot be started for want of resources,
which fails the call before its first step, is left out. -/
def Database.watch {α : Type} (database : Database) (call : Polled (Report α))
    (store : FlagStore) (caller : Nat) : Watchdog.State (Report α) :=
  .start call database.config.effectiveTimeout store caller

end Tabula
