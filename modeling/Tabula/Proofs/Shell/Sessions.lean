import Tabula.Proofs.Shell.Handling
import Tabula.Shell.Session

/-!
# Sessions one after the other

A session over some lines and a session over further lines on the database that the first one
has left come to what one session over all the lines comes to, unless the first one quits; a
session that quits does not meet the further lines. Between the lines, nothing but the database
is handed on, as long as the files do not change.
-/

namespace Tabula.Shell

variable {World : Type} {outside : Outside World} {world : World} {database : Database}
  {line : String} {first second : List String}

/-- Whether recorded events leave the files as they are. -/
def Outside.IsSteady (outside : Outside World) : Prop :=
  ∀ world event, outside.openPath (outside.record world event) = outside.openPath world

theorem Outside.IsSteady.openPath_recordAll (steady : outside.IsSteady) (world : World)
    (events : List Log.Event) :
    outside.openPath (outside.recordAll world events) = outside.openPath world := by
  induction events generalizing world with
  | nil => rfl
  | cons event rest ih => exact (ih (outside.record world event)).trans (steady world event)

/-! ## Sessions of lines of text -/

/-- A session over lines that can be read, while nobody interrupts the shell. -/
def session (outside : Outside World) (world : World) (database : Database)
    (lines : List String) : Session World :=
  runUndisturbed outside world database (lines.map .text)

theorem session_nil (outside : Outside World) (world : World) (database : Database) :
    session outside world database [] = (close outside world database).after (prompt ++ "\n") := by
  rfl

/-- The session goes on with the database that the line has left. -/
theorem session_cons {handled : Handled}
    (handles : handle database (outside.openPath world) false line = handled)
    (notQuit : Command.ofLine line ≠ .ok .quit) (rest : List String) :
    session outside world database (line :: rest) =
      (session outside (outside.recordAll world handled.events) handled.database rest).after
        (prompt ++ handled.output) := by
  have goesOn : handled.flow = .goOn := by
    cases flow : handled.flow with
    | goOn => rfl
    | quit =>
        rw [← handles] at flow
        exact absurd (flow_handle_eq_quit_iff.1 flow) notQuit
  simp only [session, runUndisturbed, Arrival.undisturbed, List.map_cons]
  rw [run]
  simp only [handles, goesOn]
  rfl

theorem session_quit (quits : Command.ofLine line = .ok .quit) (rest : List String) :
    session outside world database (line :: rest) =
      (close outside world database).after prompt := by
  simp only [session, runUndisturbed, Arrival.undisturbed, List.map_cons]
  rw [run]
  simp only [handle_of_quit quits]
  rfl

/-- Every session over lines that can be read comes to its farewell. -/
theorem readable_session (outside : Outside World) (world : World) (database : Database)
    (lines : List String) : (session outside world database lines).readable = true := by
  induction lines generalizing world database with
  | nil => rfl
  | cons line rest ih =>
      by_cases quits : Command.ofLine line = .ok .quit
      · rw [session_quit quits]
        rfl
      · rw [session_cons rfl quits]
        exact ih _ _

/-! ## The world outside -/

/-- Whether two sessions have come to the same but for what was recorded. -/
structure Session.Agrees (session other : Session World) : Prop where
  database : session.database = other.database
  output : session.output = other.output

theorem Session.after_after (session : Session World) (first second : String) :
    (session.after second).after first = session.after (first ++ second) :=
  congrArg (Session.mk session.world session.database · session.readable)
    String.append_assoc.symm

theorem Session.Agrees.after {session other : Session World} (agrees : session.Agrees other)
    (output : String) : (session.after output).Agrees (other.after output) :=
  ⟨agrees.database, congrArg (output ++ ·) agrees.output⟩

/-- Of the world outside, a session needs to know the files only. -/
theorem session_agrees (steady : outside.IsSteady) {other : World}
    (sameFiles : outside.openPath world = outside.openPath other) (database : Database)
    (lines : List String) :
    (session outside world database lines).Agrees (session outside other database lines) := by
  induction lines generalizing world other database with
  | nil => exact ⟨rfl, rfl⟩
  | cons line rest ih =>
      by_cases quits : Command.ofLine line = .ok .quit
      · rw [session_quit quits, session_quit quits]
        exact ⟨rfl, rfl⟩
      · rw [session_cons rfl quits, session_cons rfl quits, sameFiles]
        apply Session.Agrees.after
        apply ih
        rw [steady.openPath_recordAll, steady.openPath_recordAll, sameFiles]

/-! ## Further lines -/

/-- A session that quits does not meet further lines. -/
theorem session_append_of_quit (outside : Outside World) (world : World) (database : Database)
    (quits : ∃ line ∈ first, Command.ofLine line = .ok .quit) (second : List String) :
    session outside world database (first ++ second) = session outside world database first := by
  induction first generalizing world database with
  | nil => simp at quits
  | cons line rest ih =>
      by_cases quitsHere : Command.ofLine line = .ok .quit
      · rw [List.cons_append, session_quit quitsHere, session_quit quitsHere]
      · have quitsLater : ∃ line ∈ rest, Command.ofLine line = .ok .quit := by
          simpa [quitsHere] using quits
        rw [List.cons_append, session_cons rfl quitsHere, session_cons rfl quitsHere,
          ih _ _ quitsLater]

/-- A session that does not quit ends where a session over the further lines begins. -/
theorem session_append (steady : outside.IsSteady) (world : World) (database : Database)
    (noQuit : ∀ line ∈ first, Command.ofLine line ≠ .ok .quit) (second : List String) :
    ∃ output,
      (session outside world database first).output = output ++ (prompt ++ "\n" ++ farewell) ∧
      (session outside world database (first ++ second)).Agrees
        ((session outside (session outside world database first).world
          (session outside world database first).database second).after output) := by
  induction first generalizing world database with
  | nil =>
      rw [session_nil]
      refine ⟨"", (String.empty_append ..).symm, ?_⟩
      -- What the first session records at its end is the only difference, and no file shows it.
      have agrees := session_agrees steady (steady world stopped).symm database second
      exact ⟨agrees.database, agrees.output.trans (String.empty_append ..).symm⟩
  | cons line rest ih =>
      rw [List.forall_mem_cons] at noQuit
      generalize handles : handle database (outside.openPath world) false line = handled
      rw [List.cons_append, session_cons handles noQuit.1, session_cons handles noQuit.1]
      rcases ih (outside.recordAll world handled.events) handled.database noQuit.2 with
        ⟨output, ends, agrees⟩
      refine ⟨prompt ++ handled.output ++ output, ?_, ?_⟩
      · rw [String.append_assoc, ← ends]
        rfl
      · have later := agrees.after (prompt ++ handled.output)
        rw [Session.after_after] at later
        exact later

/-- Sessions compose: what happens in one is handed on in its database only. -/
theorem sessions_compose (steady : outside.IsSteady) (world : World) (database : Database)
    (untimed : database.config.effectiveTimeout = none) (first second : List String) :
    ((∀ line ∈ first, Command.ofLine line ≠ .ok .quit) →
      ∃ output,
        (session outside world database first).output = output ++ "~# \nBye-bye!\n" ∧
        (session outside world database (first ++ second)).output =
          output ++ (session outside (session outside world database first).world
            (session outside world database first).database second).output ∧
        (session outside world database (first ++ second)).database =
          (session outside (session outside world database first).world
            (session outside world database first).database second).database) ∧
    ((∃ line ∈ first, Command.ofLine line = .ok .quit) →
      (session outside world database (first ++ second)).output =
          (session outside world database first).output ∧
        (session outside world database (first ++ second)).database =
          (session outside world database first).database) ∧
    (session outside world database (first ++ second)).readable = true ∧
    ∀ (later : Database) (openPath : String → Opened) (line : String),
      later.config = database.config →
        ((handle later openPath false line).flow = .quit ↔ Command.ofLine line = .ok .quit) ∧
        (handle later openPath false line).database.config = database.config ∧
        ∀ moments, .interrupt ∉ moments →
          handleAmid later openPath moments line = handle later openPath false line := by
  refine ⟨?_, ?_, readable_session .., ?_⟩
  · intro noQuit
    rcases session_append steady world database noQuit second with ⟨output, ends, agrees⟩
    exact ⟨output, ends, agrees.output, agrees.database⟩
  · intro quits
    rw [session_append_of_quit outside world database quits]
    exact ⟨rfl, rfl⟩
  · intro later openPath line sameConfig
    refine ⟨flow_handle_eq_quit_iff, (config_handle ..).trans sameConfig, ?_⟩
    intro moments undisturbed
    apply handleAmid_eq _ undisturbed
    rw [sameConfig]
    exact untimed

/-- Files beside a list of everything that is recorded. -/
def journaled : Outside (FileNode × List Log.Event) :=
  ⟨fun world => Files.openPath world.1, fun world event => (world.1, world.2 ++ [event])⟩

/-- A database with one table, which has no columns. -/
def withFigs : Database :=
  (Database.empty .default).after [.register (Database.bare "figs")]

/-- The errors of a session are forgotten, and what a session drops stays dropped. -/
theorem sessions_compose_figs :
    journaled.IsSteady ∧ withFigs.config.effectiveTimeout = none ∧
    (∃ output,
      "~# error: Table 'plums' doesn't exist\n" ++
          "~# error: wrong syntax for \\load: '\\load x'\n" ++ "~# \nBye-bye!\n" =
        output ++ "~# \nBye-bye!\n" ∧
      (session journaled (.folder [], []) withFigs
          (["\\drop plums", "\\load x"] ++ ["\\list", "\\q", "\\list"])).output =
        output ++ "~# figs\n~# Bye-bye!\n") ∧
    (session journaled (.folder [], []) withFigs
        (["\\drop figs", "\\q"] ++ ["\\list"])).output = "~# ~# Bye-bye!\n" := by
  have steady : journaled.IsSteady := fun _ _ => rfl
  refine ⟨steady, rfl, ?_, ?_⟩
  · rcases (sessions_compose steady (.folder [], []) withFigs rfl ["\\drop plums", "\\load x"]
      ["\\list", "\\q", "\\list"]).1 (by decide) with ⟨output, ends, composed, _⟩
    exact ⟨output, ends, composed⟩
  · exact ((sessions_compose steady (.folder [], []) withFigs rfl ["\\drop figs", "\\q"]
      ["\\list"]).2.1 (by decide)).1

end Tabula.Shell
