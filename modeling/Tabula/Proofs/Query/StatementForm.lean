import Tabula.Proofs.Query.Operands
import Tabula.Proofs.Query.Sections

/-!
# The form of statements

Tokens are a statement exactly if they are a select list, the name of a table and perhaps
a condition, each behind its keyword. A draft is determined by the tokens that it was made
from, and only drafts whose sections are in order can be made: what one token does to a
draft is what it does to the tokens.
-/

namespace Tabula.Query

/-! ## Sections in order -/

/-- Whether a selection can be written as a select list: something is selected, and the
sign for all columns is not among the names. -/
def Selection.IsListed (selection : Selection) : Prop :=
  selection ≠ .fields [] ∧ allColumnsSign ∉ selection.names

/-- Whether tokens are kept as a condition. -/
def NoKeywords (tokens : List Token) : Prop :=
  ∀ token ∈ tokens, token.kind ≠ .keyword

theorem noKeywords_concat {tokens : List Token} {token : Token} :
    NoKeywords (tokens ++ [token]) ↔ NoKeywords tokens ∧ token.kind ≠ .keyword := by
  simp [NoKeywords, List.mem_append, or_imp, forall_and]

/-- The tokens behind the name of the table and the filter that they stand for. -/
inductive Clause : List Token → Filter → Prop
  | absent : Clause [] .everything
  | empty : Clause [.keyword .condition] .everything
  | condition {tokens : List Token} {filter : Filter} (noKeywords : NoKeywords tokens)
      (nonempty : tokens ≠ []) (read : Filter.ofPostfix tokens = .ok filter) :
      Clause (.keyword .condition :: tokens) filter

namespace Statement

/-! ## Drafts and their tokens -/

namespace Draft

/-- The tokens that a draft is made from. -/
def tokens : Draft → List Token
  | .blank => []
  | .selecting selection => .keyword .select :: selection.tokens
  | .sourcing selection table =>
      .keyword .select ::
        (selection.tokens ++ .keyword .source :: (table.map Token.identifier).toList)
  | .filtering selection table condition =>
      .keyword .select ::
        (selection.tokens ++
          .keyword .source :: .identifier table :: .keyword .condition :: condition)

/-- Whether the sections of a draft are in order. -/
def Sound : Draft → Prop
  | .blank => True
  | .selecting selection => allColumnsSign ∉ selection.names
  | .sourcing selection _ => selection.IsListed
  | .filtering selection _ condition => selection.IsListed ∧ NoKeywords condition

/-- What a token makes of a draft. -/
def Follows (draft : Draft) (token : Token) (next : Draft) : Prop :=
  next.Sound ∧ next.tokens = draft.tokens ++ [token]

variable {draft next : Draft}

theorem follows_keyword {keyword : Keyword} (sound : draft.Sound)
    (taken : draft.pushKeyword keyword = .ok next) : draft.Follows (.keyword keyword) next := by
  cases keyword with
  | select =>
      cases draft <;> cases taken
      exact ⟨by simp [Sound, Selection.names], rfl⟩
  | source =>
      cases draft with
      | selecting selection =>
          simp only [pushKeyword] at taken
          split at taken
          · cases taken
          · rename_i selected
            cases taken
            exact ⟨⟨by simpa [Selection.isEmpty] using selected, sound⟩, rfl⟩
      | _ => cases taken
  | condition =>
      cases draft with
      | sourcing selection table =>
          cases table with
          | none => cases taken
          | some table =>
              cases taken
              exact ⟨⟨sound, nofun⟩, by simp [tokens]⟩
      | _ => cases taken

theorem follows_field {selection : Selection} {name : String} (sound : (selecting selection).Sound)
    (taken : (addField name selection).map selecting = .ok next) :
    (selecting selection).Follows (.identifier name) next := by
  cases selection with
  | all => cases taken
  | fields names =>
      by_cases isSign : name = allColumnsSign
      · cases names with
        | nil =>
            simp only [addField, isSign, if_true, List.isEmpty_nil, Except.map] at taken
            cases taken
            exact ⟨by simp [Sound, Selection.names], by simp [tokens, Selection.tokens, isSign]⟩
        | cons first rest =>
            simp only [addField, isSign, if_true, List.isEmpty_cons] at taken
            cases taken
      · simp only [addField, isSign, if_false, Except.map] at taken
        cases taken
        refine ⟨?_, by simp [tokens, Selection.tokens]⟩
        simpa [Sound, Selection.names, Ne.symm isSign] using sound

theorem follows_identifier {name : String} (sound : draft.Sound)
    (taken : draft.pushIdentifier name = .ok next) : draft.Follows (.identifier name) next := by
  cases draft with
  | blank => cases taken
  | selecting selection => exact follows_field sound taken
  | sourcing selection table =>
      cases table with
      | none =>
          cases taken
          exact ⟨sound, by simp [tokens]⟩
      | some table => cases taken
  | filtering selection table condition =>
      cases taken
      exact ⟨⟨sound.1, noKeywords_concat.2 ⟨sound.2, nofun⟩⟩, by simp [tokens]⟩

theorem push_other {token : Token} (noKeyword : token.kind ≠ .keyword)
    (noName : token.kind ≠ .identifier) :
    draft.push token =
      match draft with
      | .filtering selection table condition =>
          .ok (.filtering selection table (condition ++ [token]))
      | .blank => .error .selectNotFirst
      | _ => .error (.unexpectedToken token.kind) := by
  cases token with
  | keyword keyword => exact absurd rfl noKeyword
  | identifier name => exact absurd rfl noName
  | _ => cases draft <;> rfl

/-- A token of another kind is only taken into a condition. -/
theorem follows_other {token : Token} (sound : draft.Sound) (noKeyword : token.kind ≠ .keyword)
    (noName : token.kind ≠ .identifier) (taken : draft.push token = .ok next) :
    draft.Follows token next := by
  rw [push_other noKeyword noName] at taken
  cases draft with
  | filtering selection table condition =>
      cases taken
      exact ⟨⟨sound.1, noKeywords_concat.2 ⟨sound.2, noKeyword⟩⟩, by simp [tokens]⟩
  | _ => cases taken

/-- The step: a token that is taken is added to the tokens of the draft. -/
theorem follows_of_push {token : Token} (sound : draft.Sound)
    (taken : draft.push token = .ok next) : draft.Follows token next := by
  cases kind : token.kind with
  | keyword =>
      cases token <;> cases kind
      exact follows_keyword sound taken
  | identifier =>
      cases token <;> cases kind
      exact follows_identifier sound taken
  | _ => exact follows_other sound (by simp [kind]) (by simp [kind]) taken

/-- The run: a draft is made from its tokens. -/
theorem tokens_of_pushAll {rest : List Token} (sound : draft.Sound)
    (taken : draft.pushAll rest = .ok next) : next.Sound ∧ next.tokens = draft.tokens ++ rest := by
  induction rest generalizing draft with
  | nil =>
      cases taken
      exact ⟨sound, (List.append_nil _).symm⟩
  | cons token rest ih =>
      cases pushed : draft.push token with
      | error error =>
          rw [pushAll, pushed] at taken
          cases taken
      | ok middle =>
          obtain ⟨middleSound, middleTokens⟩ := follows_of_push sound pushed
          rw [pushAll_cons_of_ok pushed] at taken
          obtain ⟨nextSound, nextTokens⟩ := ih middleSound taken
          exact ⟨nextSound, by rw [nextTokens, middleTokens]; simp⟩

/-- Every draft whose sections are in order can be made. -/
theorem pushAll_tokens (sound : draft.Sound) : blank.pushAll draft.tokens = .ok draft := by
  have listed : ∀ selection : Selection, allColumnsSign ∉ selection.names → ∀ rest,
      blank.pushAll (.keyword .select :: (selection.tokens ++ rest)) =
        (selecting selection).pushAll rest := by
    intro selection noSign rest
    rw [pushAll_cons_of_ok rfl, pushAll_append_of_ok (pushAll_selection noSign)]
  have sourced : ∀ selection : Selection, selection.IsListed → ∀ rest,
      blank.pushAll (.keyword .select :: (selection.tokens ++ .keyword .source :: rest)) =
        (sourcing selection none).pushAll rest := by
    intro selection isListed rest
    have begun : (selecting selection).push (.keyword .source) = .ok (.sourcing selection none) := by
      simp [push, pushKeyword, Selection.isEmpty, isListed.1]
    rw [listed selection isListed.2, pushAll_cons_of_ok begun]
  cases draft with
  | blank => rfl
  | selecting selection =>
      have made := listed selection sound []
      rwa [List.append_nil] at made
  | sourcing selection table =>
      rw [tokens, sourced selection sound]
      cases table <;> rfl
  | filtering selection table condition =>
      rw [tokens, sourced selection sound.1, pushAll_cons_of_ok rfl, pushAll_cons_of_ok rfl,
        pushAll_condition sound.2, List.nil_append]

theorem pushAll_blank_eq_ok_iff {rest : List Token} :
    blank.pushAll rest = .ok next ↔ next.Sound ∧ next.tokens = rest := by
  constructor
  · exact tokens_of_pushAll trivial
  · rintro ⟨sound, rfl⟩
    exact pushAll_tokens sound

end Draft

/-! ## Statements and their tokens -/

/-- The tokens of the select list and of the table. -/
def opening (statement : Statement) : List Token :=
  .keyword .select ::
    (statement.selection.tokens ++ [.keyword .source, .identifier statement.table])

theorem operand_of_mem_opening {statement : Statement} {token : Token}
    (member : token ∈ statement.opening) :
    token.isOperator = false ∧ token ≠ .keyword .condition := by
  simp only [opening, List.mem_cons, List.mem_append, List.not_mem_nil, or_false] at member
  rcases member with rfl | inList | rfl | rfl
  · exact ⟨rfl, nofun⟩
  · obtain ⟨name, rfl⟩ := Selection.exists_of_mem_tokens inList
    exact ⟨rfl, nofun⟩
  · exact ⟨rfl, nofun⟩
  · exact ⟨rfl, nofun⟩

theorem ofTokens_eq_ok_iff_draft {tokens : List Token} {statement : Statement} :
    ofTokens tokens = .ok statement ↔
      ∃ draft : Draft, draft.Sound ∧ draft.tokens = tokens ∧ draft.build = .ok statement := by
  constructor
  · intro read
    rw [ofTokens] at read
    cases taken : Draft.blank.pushAll tokens with
    | error error =>
        rw [taken] at read
        cases read
    | ok draft =>
        rw [taken] at read
        obtain ⟨sound, tokensEq⟩ := Draft.pushAll_blank_eq_ok_iff.1 taken
        exact ⟨draft, sound, tokensEq, read⟩
  · rintro ⟨draft, sound, tokensEq, built⟩
    rw [ofTokens, Draft.pushAll_blank_eq_ok_iff.2 ⟨sound, tokensEq⟩]
    exact built

/-- The tokens of a statement are its opening and a clause for its filter. -/
theorem ofTokens_eq_ok_iff {tokens : List Token} {statement : Statement} :
    ofTokens tokens = .ok statement ↔
      statement.selection.IsListed ∧
        ∃ clause, Clause clause statement.filter ∧ tokens = statement.opening ++ clause := by
  rw [ofTokens_eq_ok_iff_draft]
  constructor
  · rintro ⟨draft, sound, rfl, built⟩
    cases draft with
    | blank => cases built
    | selecting selection => cases built
    | sourcing selection table =>
        cases table with
        | none => cases built
        | some table =>
            cases built
            exact ⟨sound, [], .absent, by simp [Draft.tokens, opening]⟩
    | filtering selection table condition =>
        obtain ⟨isListed, noKeywords⟩ := sound
        cases condition with
        | nil =>
            cases built
            exact ⟨isListed, _, .empty, by simp [Draft.tokens, opening]⟩
        | cons first rest =>
            have read : (Filter.ofPostfix (first :: rest)).map
                (fun filter => Statement.mk selection table filter) = .ok statement := built
            cases ofPostfix : Filter.ofPostfix (first :: rest) with
            | error error =>
                rw [ofPostfix] at read
                cases read
            | ok filter =>
                rw [ofPostfix] at read
                cases read
                exact ⟨isListed, _, .condition noKeywords nofun ofPostfix,
                  by simp [Draft.tokens, opening]⟩
  · obtain ⟨selection, table, filter⟩ := statement
    rintro ⟨isListed, clause, isClause, rfl⟩
    cases isClause with
    | absent =>
        exact ⟨.sourcing selection (some table), isListed, by simp [Draft.tokens, opening], rfl⟩
    | empty =>
        exact ⟨.filtering selection table [], ⟨isListed, nofun⟩, by simp [Draft.tokens, opening],
          rfl⟩
    | @condition condition _ noKeywords nonempty read =>
        refine ⟨.filtering selection table condition, ⟨isListed, noKeywords⟩,
          by simp [Draft.tokens, opening], ?_⟩
        rw [Draft.build, Draft.filterOf, if_neg (by simpa using nonempty), read]
        rfl

/-- Tokens are accepted exactly if they are a select list and a table, each behind its
keyword, and nothing else, or only the keyword of a condition, or a condition without
keywords that is read as a filter, which is then put together from comparisons. -/
theorem ofTokens_eq_ok_iff_sections {tokens : List Token} {statement : Statement} :
    ofTokens tokens = .ok statement ↔
      statement.selection.IsListed ∧
        ((statement.filter = .everything ∧
            (tokens = statement.opening ∨ tokens = statement.opening ++ [.keyword .condition])) ∨
          (statement.filter.OfComparisons ∧
            ∃ condition, condition ≠ [] ∧ NoKeywords condition ∧
              Filter.ofPostfix condition = .ok statement.filter ∧
              tokens = statement.opening ++ .keyword .condition :: condition)) := by
  rw [ofTokens_eq_ok_iff]
  apply and_congr_right
  intro _
  obtain ⟨selection, table, filter⟩ := statement
  constructor
  · rintro ⟨clause, isClause, rfl⟩
    cases isClause with
    | absent => exact .inl ⟨rfl, .inl (List.append_nil _)⟩
    | empty => exact .inl ⟨rfl, .inr rfl⟩
    | condition noKeywords nonempty read =>
        exact .inr ⟨Filter.ofComparisons_ofPostfix read, _, nonempty, noKeywords, read, rfl⟩
  · rintro (⟨rfl, rfl | rfl⟩ | ⟨_, condition, nonempty, noKeywords, read, rfl⟩)
    · exact ⟨[], .absent, (List.append_nil _).symm⟩
    · exact ⟨_, .empty, rfl⟩
    · exact ⟨_, .condition noKeywords nonempty read, rfl⟩

end Statement

end Tabula.Query
