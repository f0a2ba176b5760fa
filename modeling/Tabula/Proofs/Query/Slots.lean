import Tabula.Proofs.Query.StatementForm

/-!
# Slots of a statement

A statement can also be put together in a record that has a slot for each of its sections.
The slots are independent of each other, so most records are no part of a statement, and a
token that is refused may leave behind what was entered before the refusal. Neither
happens: the record goes through the same stages as a draft, and whatever is refused makes
no difference to the statement in the end.
-/

namespace Tabula.Query

/-- Either all columns are selected or some are, by their names. -/
theorem Selection.IsListed.cases {selection : Selection} (isListed : selection.IsListed) :
    (decide (selection = .all) = true ∧ selection.names = []) ∨
      (decide (selection = .all) = false ∧ selection.names ≠ []) := by
  cases selection with
  | all => exact .inl ⟨rfl, rfl⟩
  | fields names =>
      right
      constructor
      · rfl
      · rintro rfl
        exact isListed.1 rfl

namespace Statement

/-- What has been entered for each section of a statement. The keyword is the latest one. -/
structure Slots where
  keyword : Option Keyword
  everyColumn : Bool
  fields : List String
  table : Option String
  condition : List Token

/-- A change of slots that may be refused halfway and then stops as it is. -/
abbrev Entry := EStateM GrammarError Slots

/-- A statement with its columns in a list and a mark that stands for all of them. -/
structure FlatStatement where
  fields : List String
  everyColumn : Bool
  table : String
  filter : Filter

/-- The columns of a statement in a list, which is empty if all of them are marked. -/
def flat (statement : Statement) : FlatStatement :=
  ⟨statement.selection.names, statement.selection = .all, statement.table, statement.filter⟩

namespace Slots

/-- Before the first token. -/
def empty : Slots := ⟨none, false, [], none, []⟩

/-- Enters a keyword. -/
def enterKeyword (keyword : Keyword) : Entry Unit := do
  let slots ← get
  match keyword with
  | .select =>
      if slots.keyword.isSome then throw .selectNotFirst
  | .source =>
      if slots.keyword ≠ some .select then throw .sourceWithoutSelect
      if slots.fields.isEmpty && !slots.everyColumn then throw .emptySelectList
  | .condition =>
      if slots.keyword ≠ some .source then throw .conditionWithoutSource
      if slots.table.isNone then throw .missingTableName
  set { slots with keyword := some keyword }

/-- Enters a name into the section of the latest keyword. -/
def enterName (name : String) : Entry Unit := do
  let slots ← get
  match slots.keyword with
  | none => throw .selectNotFirst
  | some .select =>
      if slots.everyColumn then throw .mixedSelectList
      if name = allColumnsSign then
        if !slots.fields.isEmpty then throw .mixedSelectList
        set { slots with everyColumn := true }
      else
        set { slots with fields := slots.fields ++ [name] }
  | some .source =>
      if slots.table.isSome then throw .secondTableName
      set { slots with table := some name }
  | some .condition => set { slots with condition := slots.condition ++ [Token.identifier name] }

/-- Enters a token. -/
def enter : Token → Entry Unit
  | .keyword keyword => enterKeyword keyword
  | .identifier name => enterName name
  | token => do
      let slots ← get
      match slots.keyword with
      | some .condition => set { slots with condition := slots.condition ++ [token] }
      | none => throw .selectNotFirst
      | some _ => throw (.unexpectedToken token.kind)

/-- The statement of the slots, which must have a table. -/
def build (slots : Slots) : Except GrammarError FlatStatement :=
  match slots.table, slots.keyword with
  | some table, _ =>
      (Draft.filterOf slots.condition).map fun filter =>
        ⟨slots.fields, slots.everyColumn, table, filter⟩
  | none, none => .error .selectNotFirst
  | none, some .select => .error .missingSource
  | none, some _ => .error .missingTableName

/-- The slots after a token has been offered, whether it is taken or refused. -/
def offer (slots : Slots) (token : Token) : Slots :=
  match (enter token).run slots with
  | .ok _ after => after
  | .error _ after => after

/-- The tokens that are taken when tokens are offered one after the other. -/
def taken (slots : Slots) : List Token → List Token
  | [] => []
  | token :: rest =>
      match (enter token).run slots with
      | .ok _ after => token :: after.taken rest
      | .error _ after => after.taken rest

/-- Whether slots agree with each other. -/
structure InOrder (slots : Slots) : Prop where
  everyColumn : slots.everyColumn = true → slots.fields = []
  noSign : allColumnsSign ∉ slots.fields
  listed : slots.table ≠ none ∨ slots.keyword = some .source →
    slots.everyColumn = true ∨ slots.fields ≠ []
  sourced : slots.keyword = some .condition → slots.table ≠ none
  condition : slots.condition ≠ [] → slots.keyword = some .condition

end Slots

namespace Draft

/-- The slots of a draft. -/
def slots : Draft → Slots
  | .blank => .empty
  | .selecting selection => ⟨some .select, selection = .all, selection.names, none, []⟩
  | .sourcing selection table => ⟨some .source, selection = .all, selection.names, table, []⟩
  | .filtering selection table condition =>
      ⟨some .condition, selection = .all, selection.names, some table, condition⟩

/-- How an entry ends on the slots of a draft: as the draft does, without a trace of what is
refused. -/
def settled (draft : Draft) : Except GrammarError Draft → EStateM.Result GrammarError Slots Unit
  | .ok next => .ok () next.slots
  | .error error => .error error draft.slots

variable (draft : Draft)

theorem run_enterKeyword_slots (keyword : Keyword) :
    (Slots.enterKeyword keyword).run draft.slots =
      draft.settled (draft.pushKeyword keyword) := by
  cases keyword with
  | select => cases draft <;> rfl
  | source =>
      cases draft with
      | selecting selection =>
          cases selection with
          | all => rfl
          | fields names => cases names <;> rfl
      | _ => rfl
  | condition =>
      cases draft with
      | sourcing selection table => cases table <;> rfl
      | _ => rfl

theorem run_enterName_slots (name : String) :
    (Slots.enterName name).run draft.slots =
      draft.settled (draft.pushIdentifier name) := by
  cases draft with
  | selecting selection =>
      cases selection with
      | all => rfl
      | fields names =>
          by_cases isSign : name = allColumnsSign
          · subst isSign
            cases names <;> rfl
          · rw [pushIdentifier, addField, if_neg isSign]
            exact congrFun (if_neg isSign) (selecting (.fields names)).slots
  | sourcing selection table => cases table <;> rfl
  | _ => rfl

/-- The step: slots take a token if the draft does, and stay as they are if it does not. -/
theorem run_enter_slots (token : Token) :
    (Slots.enter token).run draft.slots =
      draft.settled (draft.push token) := by
  cases token with
  | keyword keyword => exact draft.run_enterKeyword_slots keyword
  | identifier name => exact draft.run_enterName_slots name
  | _ => cases draft <;> rfl

theorem eq_slots_of_refused {token : Token} {error : GrammarError} {after : Slots}
    (refused : (Slots.enter token).run draft.slots = .error error after) : after = draft.slots := by
  rw [run_enter_slots] at refused
  cases pushed : draft.push token with
  | ok next =>
      rw [pushed] at refused
      cases refused
  | error _ =>
      rw [pushed] at refused
      cases refused
      rfl

theorem offer_slots (token : Token) : draft.slots.offer token = (draft.offer token).slots := by
  rw [Slots.offer, run_enter_slots, offer]
  cases draft.push token <;> rfl

/-- The run: the slots are those of the draft, whatever is refused. -/
theorem foldl_offer_slots (tokens : List Token) :
    tokens.foldl Slots.offer draft.slots = (tokens.foldl offer draft).slots := by
  induction tokens generalizing draft with
  | nil => rfl
  | cons token rest ih => rw [List.foldl_cons, List.foldl_cons, offer_slots, ih]

/-- The tokens that are taken lead to the same draft without a refusal. -/
theorem pushAll_taken_slots (tokens : List Token) :
    draft.pushAll (draft.slots.taken tokens) = .ok (tokens.foldl offer draft) := by
  -- A refused token is missing on the left and changes nothing on the right.
  induction tokens generalizing draft with
  | nil => rfl
  | cons token rest ih =>
      rw [Slots.taken, run_enter_slots, List.foldl_cons, offer]
      cases pushed : draft.push token with
      | ok next => exact (pushAll_cons_of_ok pushed _).trans (ih next)
      | error error => exact ih draft

theorem build_slots : draft.slots.build = draft.build.map flat := by
  cases draft with
  | blank => rfl
  | selecting selection => rfl
  | sourcing selection table => cases table <;> rfl
  | filtering selection table condition =>
      change (filterOf condition).map _ = ((filterOf condition).map _).map flat
      cases filterOf condition <;> rfl

/-- The slots of a draft agree with each other if its sections are in order. -/
theorem inOrder_slots {draft : Draft} (sound : draft.Sound) : draft.slots.InOrder := by
  have marked : ∀ selection : Selection, decide (selection = .all) = true →
      selection.names = [] := by
    intro selection isAll
    rw [of_decide_eq_true isAll]
    rfl
  have listed : ∀ selection : Selection, selection.IsListed →
      decide (selection = .all) = true ∨ selection.names ≠ [] := by
    intro selection isListed
    rcases isListed.cases with all | names
    · exact .inl all.1
    · exact .inr names.2
  cases draft with
  | blank => constructor <;> simp [slots, Slots.empty]
  | selecting selection =>
      exact ⟨marked selection, sound, by simp [slots], by simp [slots], by simp [slots]⟩
  | sourcing selection table =>
      exact ⟨marked selection, sound.2, fun _ => listed selection sound, by simp [slots],
        by simp [slots]⟩
  | filtering selection table condition =>
      exact ⟨marked selection, sound.1.2, fun _ => listed selection sound.1, by simp [slots],
        by simp [slots]⟩

end Draft

/-- Whatever is offered, slots do not change when a token is refused, they agree with each
other and are those of the draft, and they make the statement of the tokens that are
taken, which has all columns marked and none listed or some listed and none marked. -/
theorem refusals_make_no_difference (tokens : List Token) :
    (∀ token error after,
        (Slots.enter token).run (tokens.foldl Slots.offer .empty) = .error error after →
          after = tokens.foldl Slots.offer .empty) ∧
      (tokens.foldl Slots.offer .empty).InOrder ∧
      tokens.foldl Slots.offer .empty = (tokens.foldl Draft.offer .blank).slots ∧
      (tokens.foldl Slots.offer .empty).build =
        (ofTokens (Slots.empty.taken tokens)).map flat ∧
      ∀ statement, (tokens.foldl Slots.offer .empty).build = .ok statement →
        (statement.everyColumn = true ∧ statement.fields = []) ∨
          (statement.everyColumn = false ∧ statement.fields ≠ []) := by
  have isSlots : tokens.foldl Slots.offer .empty = (tokens.foldl Draft.offer .blank).slots :=
    Draft.blank.foldl_offer_slots tokens
  have made : Draft.blank.pushAll (Slots.empty.taken tokens) =
      .ok (tokens.foldl Draft.offer .blank) :=
    Draft.blank.pushAll_taken_slots tokens
  have sound := (Draft.pushAll_blank_eq_ok_iff.1 made).1
  have built : (tokens.foldl Slots.offer .empty).build =
      (ofTokens (Slots.empty.taken tokens)).map flat := by
    rw [isSlots, Draft.build_slots, ofTokens, made]
  refine ⟨?_, isSlots ▸ Draft.inOrder_slots sound, isSlots, built, ?_⟩
  · intro token error after refused
    rw [isSlots] at refused ⊢
    exact Draft.eq_slots_of_refused _ refused
  · intro statement isBuilt
    rw [built] at isBuilt
    cases read : ofTokens (Slots.empty.taken tokens) with
    | error error =>
        rw [read] at isBuilt
        cases isBuilt
    | ok whole =>
        rw [read] at isBuilt
        cases isBuilt
        exact (ofTokens_eq_ok_iff.1 read).1.cases

/-- A select list in which a name is refused behind the sign for all columns, and a second
table that is refused as well. -/
def refusedNames : List Token :=
  [.keyword .select, .identifier "*", .identifier "a", .keyword .source, .identifier "t",
    .identifier "u", .keyword .source]

theorem refusals_refusedNames :
    (Slots.enter (.identifier "v")).run (refusedNames.foldl Slots.offer .empty) =
        .error .secondTableName ⟨some .source, true, [], some "t", []⟩ ∧
      ⟨some .source, true, [], some "t", []⟩ = refusedNames.foldl Slots.offer .empty ∧
      (refusedNames.foldl Slots.offer .empty).build = .ok ⟨[], true, "t", .everything⟩ ∧
      (ofTokens (Slots.empty.taken refusedNames)).map flat = .ok ⟨[], true, "t", .everything⟩ := by
  have refused : (Slots.enter (.identifier "v")).run (refusedNames.foldl Slots.offer .empty) =
      .error .secondTableName ⟨some .source, true, [], some "t", []⟩ := rfl
  have built : (refusedNames.foldl Slots.offer .empty).build = .ok ⟨[], true, "t", .everything⟩ :=
    rfl
  obtain ⟨unchanged, _, _, buildEq, _⟩ := refusals_make_no_difference refusedNames
  exact ⟨refused, unchanged _ _ _ refused, built, buildEq ▸ built⟩

end Statement

end Tabula.Query
