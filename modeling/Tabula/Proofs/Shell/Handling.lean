import Tabula.Proofs.Database.Contents
import Tabula.Proofs.Database.Deadline
import Tabula.Shell.Basic

/-!
# Handling a line

Only the command to quit ends the shell, whatever goes wrong with the others. A line does to
the database what the step does for which its command asks, and it does nothing if it is no
command or its command asks for no step. As long as queries may take their time and nobody
raises a flag, it does not matter what else happens while a query is answered.
-/

namespace Tabula.Deadline.State

/-- A timer that is stopped and a caller that does not interrupt make no difference. -/
theorem settle_run_of_stopped {α : Type} {state : State α} (stopped : state.timer = .stopped)
    {moments : List Moment} (undisturbed : .interrupt ∉ moments) :
    (state.run moments).settle = state.settle := by
  induction moments generalizing state with
  | nil => rfl
  | cons moment rest ih =>
      rw [List.mem_cons, not_or] at undisturbed
      have later := ih (timer_stopped_run stopped [moment]) undisturbed.2
      refine later.trans ?_
      cases moment with
      | check => exact settle_check state
      | elapse => simp [run, step, elapse, stopped]
      | interrupt => exact absurd rfl undisturbed.1
      | stop => simp [run, step, stop, stopped]

end Tabula.Deadline.State

namespace Tabula.Shell

variable {database : Database} {openPath : String → Opened} {raised : Bool} {line : String}

/-! ## Whether the shell goes on -/

theorem flow_loaded (database : Database) (openPath : String → Opened)
    (path descriptorPath : String) :
    (loaded database openPath path descriptorPath).flow = .goOn := by
  rw [loaded]
  split <;> rfl

theorem flow_dropped (database : Database) (table : String) :
    (dropped database table).flow = .goOn := by
  rw [dropped]
  split <;> rfl

theorem flow_answered (database : Database) (query : String)
    (report : Database.Report String) : (answered database query report).flow = .goOn := by
  rw [answered]
  split <;> rfl

/-- Only the command to quit ends the shell. -/
theorem flow_handle_eq_quit_iff :
    (handle database openPath raised line).flow = .quit ↔ Command.ofLine line = .ok .quit := by
  rw [handle, react]
  cases Command.ofLine line with
  | error error => simp
  | ok command =>
      cases command with
      | load path descriptorPath => simp [obey, flow_loaded]
      | drop table => simp [obey, flow_dropped]
      | query query => simp [obey, flow_answered]
      | _ => simp [obey]

/-- The command to quit does nothing else. -/
theorem handle_of_quit (parsed : Command.ofLine line = .ok .quit) :
    handle database openPath raised line = ⟨database, .quit, "", []⟩ := by
  rw [handle, react, parsed]
  rfl

/-! ## What becomes of the database -/

/-- The step on a database for which a command asks. -/
def Command.step? (openPath : String → Opened) : Command → Option Database.Step
  | .load path descriptorPath => some (.load openPath path descriptorPath)
  | .drop table => some (.drop table)
  | .quit | .help | .list | .query _ | .empty => none

theorem database_loaded (database : Database) (openPath : String → Opened)
    (path descriptorPath : String) :
    (loaded database openPath path descriptorPath).database =
      (database.serve (.load openPath path descriptorPath)).2 := by
  rw [loaded, Database.serve]
  cases (database.load openPath path descriptorPath).result <;> rfl

theorem database_dropped (database : Database) (table : String) :
    (dropped database table).database = (database.serve (.drop table)).2 := by
  rw [dropped, Database.serve]
  cases (database.drop table).result <;> rfl

theorem database_answered (database : Database) (query : String)
    (report : Database.Report String) : (answered database query report).database = database := by
  rw [answered]
  split <;> rfl

/-- A line that is a command does what its step does. -/
theorem database_handle_of_step {command : Command} {step : Database.Step}
    (parsed : Command.ofLine line = .ok command) (asks : command.step? openPath = some step) :
    (handle database openPath raised line).database = (database.serve step).2 := by
  rw [handle, react, parsed]
  cases command with
  | load path descriptorPath =>
      cases asks
      exact database_loaded ..
  | drop table =>
      cases asks
      exact database_dropped ..
  | _ => cases asks

/-- A line without a step leaves the database as it is. -/
theorem database_handle_of_none
    (noStep : ∀ command, Command.ofLine line = .ok command → command.step? openPath = none) :
    (handle database openPath raised line).database = database := by
  rw [handle, react]
  cases parsed : Command.ofLine line with
  | error error => rfl
  | ok command =>
      have asks := noStep command parsed
      cases command with
      | load path descriptorPath => cases asks
      | drop table => cases asks
      | query query => exact database_answered ..
      | _ => rfl

theorem database_handle_cases (database : Database) (openPath : String → Opened) (raised : Bool)
    (line : String) :
    (handle database openPath raised line).database = database ∨
      ∃ command step, Command.ofLine line = .ok command ∧ command.step? openPath = some step ∧
        (handle database openPath raised line).database = (database.serve step).2 := by
  by_cases hasStep : ∃ command step, Command.ofLine line = .ok command ∧
      command.step? openPath = some step
  · rcases hasStep with ⟨command, step, parsed, asks⟩
    exact .inr ⟨command, step, parsed, asks, database_handle_of_step parsed asks⟩
  · apply Or.inl
    apply database_handle_of_none
    intro command parsed
    cases asks : command.step? openPath with
    | none => rfl
    | some step => exact absurd ⟨command, step, parsed, asks⟩ hasStep

/-- The settings stay as they are. -/
theorem config_handle (database : Database) (openPath : String → Opened) (raised : Bool)
    (line : String) : (handle database openPath raised line).database.config = database.config := by
  rcases database_handle_cases database openPath raised line with same | ⟨_, step, _, _, served⟩
  · rw [same]
  · rw [served]
    exact (database.moves_serve step).2

/-! ## Handling while something happens -/

/-- Handles a line of a shell whose flag is down, while moments pass for a query. -/
def handleAmid (database : Database) (openPath : String → Opened)
    (moments : List Deadline.Moment) (line : String) : Handled :=
  match react database openPath line with
  | .handled handled => handled
  | .query query =>
      answered database query
        (database.perform query (database.textCall Box.render query) false moments)

/-- Without a timeout, only an interrupt could make a difference. -/
theorem handleAmid_eq (untimed : database.config.effectiveTimeout = none)
    {moments : List Deadline.Moment} (undisturbed : .interrupt ∉ moments) :
    handleAmid database openPath moments line = handle database openPath false line := by
  rw [handleAmid, handle]
  cases react database openPath line with
  | handled handled => rfl
  | query query =>
      have stopped : (database.start (database.textCall Box.render query) false).timer =
          .stopped := by
        simp [Database.start, Deadline.State.start, untimed]
      simp only [Database.render, Database.perform,
        Deadline.State.settle_run_of_stopped stopped undisturbed]
      rfl

end Tabula.Shell
