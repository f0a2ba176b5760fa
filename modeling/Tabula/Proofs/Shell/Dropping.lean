import Tabula.Proofs.Shell.Sessions
import Tabula.Proofs.Text.Words

/-!
# Dropping tables

A line takes just one table out of a database if it is the command to drop this table, and
no other line does. The command names a word. So a table whose name has no blanks can be
dropped, and a table whose name has blanks stays as long as the shell runs.
-/

namespace Tabula

namespace Shell.Command

variable {line name table : String} {arguments : List String}

theorem ofWords_eq_drop_iff :
    ofWords line name arguments = .ok (.drop table) ↔ name = "\\drop" ∧ arguments = [table] := by
  unfold ofWords
  split <;> simp_all

/-- What is to be dropped is a word. -/
theorem isWord_of_ofLine_eq_drop (parsed : ofLine line = .ok (.drop table)) :
    Text.IsWord table.toList := by
  unfold ofLine at parsed
  simp only at parsed
  split at parsed
  · cases parsed
  · rcases ofWords_eq_drop_iff.1 parsed with ⟨_, tailEq⟩
    have member : table ∈ (Text.words (Text.trim line.toList)).map String.ofList := by
      apply List.mem_of_mem_tail
      rw [tailEq]
      exact List.mem_singleton.2 rfl
    rcases List.mem_map.1 member with ⟨word, isWord, rfl⟩
    rw [String.toList_ofList]
    exact Text.isWord_of_mem_words isWord
  · cases parsed

/-- Every word can be named. -/
theorem ofLine_drop (isWord : Text.IsWord table.toList) :
    ofLine ("\\drop " ++ table) = .ok (.drop table) := by
  have firstWord : Text.IsWord "\\drop".toList := ⟨by decide, by simp [Text.isBlank]⟩
  have spelled : ("\\drop " ++ table).toList = "\\drop".toList ++ ' ' :: table.toList := by
    rw [String.toList_append]
    rfl
  rcases List.eq_nil_or_concat table.toList with isEmpty | ⟨before, last, split⟩
  · exact absurd isEmpty isWord.1
  · have notBlank : Text.isBlank last = false := by
      apply isWord.2
      rw [split]
      simp
    have ends : ("\\drop".toList ++ ' ' :: table.toList).getLast? = some last := by
      rw [split, List.concat_eq_append, ← List.cons_append, ← List.append_assoc]
      exact List.getLast?_concat
    have whole : Text.trim ("\\drop".toList ++ ' ' :: table.toList) =
        "\\drop".toList ++ ' ' :: table.toList :=
      Text.trim_eq_self rfl ends (by decide) notBlank
    have wordsEq : (Text.words ("\\drop".toList ++ ' ' :: table.toList)).map String.ofList =
        ["\\drop", table] := by
      rw [firstWord.words_append, isWord.words]
      simp
    rw [ofLine, spelled, whole]
    simp only [wordsEq]
    rfl

end Shell.Command

namespace Database

/-- Whether a database lacks the table of one name and has all other tables of another
database. -/
def IsWithout (next database : Database) (name : String) : Prop :=
  ∀ other, next.registry.map.find? other =
    if other = name then none else database.registry.map.find? other

end Database

namespace Shell

variable {database : Database} {openPath : String → Opened} {raised : Bool} {line name : String}

theorem isWithout_of_ofLine_eq_drop (taken : (database.registry.map.find? name).isSome = true)
    (parsed : Command.ofLine line = .ok (.drop name)) :
    (handle database openPath raised line).database.IsWithout database name := by
  rcases Registry.exists_drop_eq_ok_iff.2 taken with ⟨next, dropped⟩
  have served : (database.serve (.drop name)).2 = { database with registry := next } := by
    rw [Database.serve, Database.drop_result, dropped]
  intro other
  rw [database_handle_of_step parsed rfl, served, (Registry.drop_eq_ok_iff.1 dropped).2]
  exact TableMap.find?_erase ..

/-- Whatever takes just one table away is the command to drop it. -/
theorem isWithout_handle_iff (taken : (database.registry.map.find? name).isSome = true) :
    (handle database openPath raised line).database.IsWithout database name ↔
      Command.ofLine line = .ok (.drop name) := by
  refine ⟨?_, isWithout_of_ofLine_eq_drop taken⟩
  intro without
  have gone := (without name).trans (if_pos rfl)
  rcases database_handle_cases database openPath raised line with
    same | ⟨command, step, parsed, asks, served⟩
  · rw [same] at gone
    simp [gone] at taken
  · rw [served] at gone
    have change := (database.moves_serve step).1.change_eq_of_gone taken gone
    have isDrop := Database.Step.eq_drop change
    rw [parsed]
    cases command with
    | load path descriptorPath =>
        cases asks
        cases isDrop
    | drop table =>
        cases asks
        cases isDrop
        rfl
    | _ => cases asks

theorem toList_ne_nil_of_taken (taken : (database.registry.map.find? name).isSome = true) :
    name.toList ≠ [] := by
  intro isEmpty
  rcases Option.isSome_iff_exists.1 taken with ⟨table, found⟩
  rcases TableMap.find?_eq_some_iff.1 found with ⟨member, nameEq⟩
  have notBlank := database.registry.named table member
  simp [nameEq, Text.isAllBlank, isEmpty] at notBlank

/-- A table can be dropped by a line exactly if its name has no blanks, and the line does
nothing else: it is the command followed by the name. -/
theorem drops_exactly_words (database : Database) (name : String)
    (taken : name ∈ database.tableNames) :
    ((∀ char ∈ name.toList, Text.isBlank char = false) →
      '\n' ∉ ("\\drop " ++ name).toList ∧ ∀ openPath raised,
        (handle database openPath raised ("\\drop " ++ name)).database.IsWithout database name) ∧
    ((∃ char ∈ name.toList, Text.isBlank char = true) →
      ∀ line openPath raised,
        ¬ (handle database openPath raised line).database.IsWithout database name) := by
  have taken' := TableMap.mem_names_iff.1 taken
  constructor
  · intro noBlank
    have isWord : Text.IsWord name.toList := ⟨toList_ne_nil_of_taken taken', noBlank⟩
    refine ⟨?_, ?_⟩
    · have feedBlank : Text.isBlank '\n' = true := by decide
      intro member
      rw [String.toList_append, List.mem_append] at member
      rcases member with inCommand | inName
      · revert inCommand
        decide
      · rw [noBlank '\n' inName] at feedBlank
        cases feedBlank
    · intro openPath raised
      exact isWithout_of_ofLine_eq_drop taken' (Command.ofLine_drop isWord)
  · rintro ⟨char, member, isBlank⟩ line openPath raised without
    have parsed := (isWithout_handle_iff taken').1 without
    have notBlank := (Command.isWord_of_ofLine_eq_drop parsed).2 char member
    rw [isBlank] at notBlank
    cases notBlank

/-- The files of two tables, one of which has a blank in its name. -/
def figFiles : FileNode :=
  .folder
    [("figs.csv", .file (Text.Utf8.encode "v\n1\n")),
      ("figs.yaml", .file (Text.Utf8.encode
        "name: figs\nfields:\n  - name: v\n    type: number\n")),
      ("spaced.yaml", .file (Text.Utf8.encode
        "name: 'new figs'\nfields:\n  - name: v\n    type: number\n"))]

/-- The database in which they have been loaded. -/
def withSpaced : Database :=
  (session Outside.quiet figFiles (.empty .default)
    ["\\load figs.csv figs.yaml", "\\load figs.csv spaced.yaml"]).database

theorem tableNames_withSpaced : withSpaced.tableNames = ["figs", "new figs"] := by
  decide +kernel

/-- A table that has been loaded stays, whatever the line is. -/
theorem not_drops_spaced :
    "new figs" ∈ withSpaced.tableNames ∧ ∀ line openPath raised,
      ¬ (handle withSpaced openPath raised line).database.IsWithout withSpaced "new figs" := by
  have taken : "new figs" ∈ withSpaced.tableNames := by
    rw [tableNames_withSpaced]
    decide
  refine ⟨taken, ?_⟩
  intro line openPath raised without
  have parsed := (isWithout_handle_iff (TableMap.mem_names_iff.1 taken)).1 without
  have notBlank := (Command.isWord_of_ofLine_eq_drop parsed).2 ' ' (by decide)
  revert notBlank
  decide

theorem drops_exactly_words_figs :
    withSpaced.tableNames = ["figs", "new figs"] ∧
      ('\n' ∉ "\\drop figs".toList ∧ ∀ openPath raised,
        (handle withSpaced openPath raised "\\drop figs").database.IsWithout withSpaced "figs") ∧
      ∀ line openPath raised,
        ¬ (handle withSpaced openPath raised line).database.IsWithout withSpaced "new figs" := by
  have taken : "figs" ∈ withSpaced.tableNames := by
    rw [tableNames_withSpaced]
    decide
  have spacedTaken : "new figs" ∈ withSpaced.tableNames := by
    rw [tableNames_withSpaced]
    decide
  exact ⟨tableNames_withSpaced,
    (drops_exactly_words withSpaced "figs" taken).1 (by simp [Text.isBlank]),
    (drops_exactly_words withSpaced "new figs" spacedTaken).2 ⟨' ', by decide, by decide⟩⟩

end Shell

end Tabula
