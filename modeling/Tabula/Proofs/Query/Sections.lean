import Tabula.Query.Statement

/-!
# Sections of a statement

What a draft makes of the tokens of a whole section: of a select list, and of a
condition, which is kept token by token as long as no keyword interrupts it.
-/

namespace Tabula.Query

/-- The tokens of a select list. -/
def Selection.tokens : Selection → List Token
  | .all => [.identifier allColumnsSign]
  | .fields names => names.map .identifier

/-- A select list holds names only. -/
theorem Selection.exists_of_mem_tokens {selection : Selection} {token : Token}
    (member : token ∈ selection.tokens) : ∃ name, token = .identifier name := by
  cases selection with
  | all => exact ⟨allColumnsSign, List.mem_singleton.1 member⟩
  | fields names =>
      obtain ⟨name, _, rfl⟩ := List.mem_map.1 member
      exact ⟨name, rfl⟩

namespace Statement.Draft

theorem pushAll_cons_of_ok {draft next : Draft} {token : Token}
    (taken : draft.push token = .ok next) (tokens : List Token) :
    draft.pushAll (token :: tokens) = next.pushAll tokens := by
  rw [pushAll, taken]

theorem pushAll_append_of_ok {draft next : Draft} {first : List Token}
    (taken : draft.pushAll first = .ok next) (second : List Token) :
    draft.pushAll (first ++ second) = next.pushAll second := by
  induction first generalizing draft with
  | nil =>
      cases taken
      rfl
  | cons token rest ih =>
      cases pushed : draft.push token with
      | error error =>
          rw [pushAll, pushed] at taken
          cases taken
      | ok middle =>
          rw [pushAll_cons_of_ok pushed] at taken
          rw [List.cons_append, pushAll_cons_of_ok pushed, ih taken]

/-- Names other than the sign for all columns add up to a list. -/
theorem pushAll_names {names : List String} (noSign : allColumnsSign ∉ names)
    (before : List String) :
    (selecting (.fields before)).pushAll (names.map .identifier) =
      .ok (.selecting (.fields (before ++ names))) := by
  induction names generalizing before with
  | nil => simp [pushAll]
  | cons name rest ih =>
      rw [List.mem_cons, not_or] at noSign
      have taken : (selecting (.fields before)).push (.identifier name) =
          .ok (.selecting (.fields (before ++ [name]))) := by
        simp [push, pushIdentifier, addField, Ne.symm noSign.1, Except.map]
      rw [List.map_cons, pushAll_cons_of_ok taken, ih noSign.2, List.append_assoc]
      rfl

theorem pushAll_selection {selection : Selection} (noSign : allColumnsSign ∉ selection.names) :
    (selecting (.fields [])).pushAll selection.tokens = .ok (.selecting selection) := by
  cases selection with
  | all => rfl
  | fields names => exact pushAll_names noSign []

/-- After `where` every token but a keyword is kept. -/
theorem pushAll_condition {tokens : List Token}
    (noKeyword : ∀ token ∈ tokens, token.kind ≠ .keyword) (selection : Selection)
    (table : String) (before : List Token) :
    (filtering selection table before).pushAll tokens =
      .ok (.filtering selection table (before ++ tokens)) := by
  induction tokens generalizing before with
  | nil => simp [pushAll]
  | cons token rest ih =>
      have here := noKeyword token List.mem_cons_self
      have later : ∀ other ∈ rest, other.kind ≠ .keyword :=
        fun other member => noKeyword other (List.mem_cons_of_mem token member)
      have taken : (filtering selection table before).push token =
          .ok (.filtering selection table (before ++ [token])) := by
        cases token <;> first | rfl | exact absurd rfl here
      rw [pushAll_cons_of_ok taken, ih later, List.append_assoc]
      rfl

end Statement.Draft

end Tabula.Query
