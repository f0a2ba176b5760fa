import Tabula.Proofs.Csv.Grammar
import Tabula.Proofs.Csv.Quotes

/-!
# Written files pass the quote check

The check finds no fault in a file of the grammar: it stands outside quotes at the end
of every field and where a field begins after every separator and every line feed. The
carriage return before a line feed makes no difference to it.
-/

namespace Tabula.Csv

namespace QuoteCheck

/-- The states at the end of a field. -/
def IsFieldEnd (state : State) : Prop :=
  state = .fieldStart ∨ state = .unquoted ∨ state = .quoteInQuoted

namespace Leads

variable {separator : UInt8} {state next : State} {bytes : List UInt8}

/-- What is passed at the end of a field is passed where the next one begins. -/
theorem endSeparator (sound : IsSeparator separator) (atEnd : IsFieldEnd state)
    (rest : Leads separator .fieldStart bytes next) :
    Leads separator state (separator :: bytes) next := by
  apply cons _ rest
  intro line
  rcases atEnd with rfl | rfl | rfl <;>
    simp [step, sound.ne_quote, sound.ne_carriageReturn]

theorem endLineFeed (atEnd : IsFieldEnd state) (rest : Leads separator .fieldStart bytes next) :
    Leads separator state (lineFeed :: bytes) next := by
  apply cons _ rest
  intro line
  rcases atEnd with rfl | rfl | rfl <;>
    simp [step, quote_ne_lineFeed.symm, carriageReturn_ne_lineFeed.symm]

/-- A carriage return at the end of a field is taken for a part of it. -/
theorem endReturn (sound : IsSeparator separator) (atEnd : IsFieldEnd state) :
    ∃ middle, IsFieldEnd middle ∧
      ∀ line, step separator line state carriageReturn = .ok middle := by
  rcases atEnd with rfl | rfl | rfl
  · refine ⟨.unquoted, .inr (.inl rfl), ?_⟩
    simp [step, quote_ne_carriageReturn.symm, sound.ne_carriageReturn.symm,
      carriageReturn_ne_lineFeed]
  · refine ⟨.unquoted, .inr (.inl rfl), ?_⟩
    simp [step, quote_ne_carriageReturn.symm, sound.ne_carriageReturn.symm,
      carriageReturn_ne_lineFeed]
  · refine ⟨.quoteInQuoted, .inr (.inr rfl), ?_⟩
    simp [step, quote_ne_carriageReturn.symm]

/-- Inside quotes, doubled quotes are passed. -/
theorem doubleQuotes (separator : UInt8) (bytes : List UInt8) :
    Leads separator .quoted (Csv.doubleQuotes bytes) .quoted := by
  induction bytes with
  | nil => exact nil separator .quoted
  | cons byte bytes ih =>
      rw [doubleQuotes_cons]
      by_cases isQuote : byte = quote
      · rw [if_pos isQuote]
        exact cons (fun _ => rfl) (cons (fun _ => rfl) ih)
      · rw [if_neg isQuote]
        apply cons _ ih
        intro line
        simp [step, isQuote]

/-- A written field is passed up to its end. -/
theorem field {field bytes : List UInt8} (written : FieldBytes separator field bytes) :
    ∃ next, IsFieldEnd next ∧ Leads separator .fieldStart bytes next := by
  cases written with
  | bare plain =>
      obtain ⟨next, outside, passed⟩ := @of_no_quotes separator _ _
        (fun byte member => (plain byte member).2.1) (.inl rfl)
      exact ⟨next, outside.imp_right .inl, passed⟩
  | quoted =>
      refine ⟨.quoteInQuoted, .inr (.inr rfl), ?_⟩
      apply cons (fun _ => rfl)
      exact (doubleQuotes separator field).append (cons (fun _ => rfl) (nil separator _))

/-- A written record is passed up to the end of its last field. -/
theorem record {record : List (List UInt8)} {bytes : List UInt8}
    (sound : IsSeparator separator) (written : RecordBytes separator record bytes) :
    ∃ next, IsFieldEnd next ∧ Leads separator .fieldStart bytes next := by
  induction written with
  | last written => exact field written
  | cons written _ ih =>
      obtain ⟨middle, atEnd, passed⟩ := field written
      obtain ⟨next, atLast, rest⟩ := ih
      exact ⟨next, atLast, passed.append (.endSeparator sound atEnd rest)⟩

/-- A written file is passed. -/
theorem file {written : List (List (List UInt8))} {bytes : List UInt8}
    (sound : IsSeparator separator) (file : FileBytes separator written bytes) :
    ∃ next, IsFieldEnd next ∧ Leads separator .fieldStart bytes next := by
  induction file with
  | empty => exact ⟨.fieldStart, .inl rfl, nil separator _⟩
  | last written _ => exact record sound written
  | feed written _ _ ih =>
      obtain ⟨middle, atEnd, passed⟩ := record sound written
      obtain ⟨next, atLast, rest⟩ := ih
      exact ⟨next, atLast, passed.append (.endLineFeed atEnd rest)⟩
  | returnFeed written _ _ ih =>
      obtain ⟨middle, atEnd, passed⟩ := record sound written
      obtain ⟨next, atLast, rest⟩ := ih
      obtain ⟨behind, stillAtEnd, returned⟩ := endReturn sound atEnd
      exact ⟨next, atLast, passed.append (.cons returned (.endLineFeed stillAtEnd rest))⟩

end Leads

end QuoteCheck

/-- The check finds no fault in a written file. -/
theorem checkQuotes_file {separator : UInt8} {written : List (List (List UInt8))}
    {bytes : List UInt8} (sound : IsSeparator separator)
    (file : FileBytes separator written bytes) : checkQuotes separator bytes = .ok () := by
  obtain ⟨next, atEnd, passed⟩ := QuoteCheck.Leads.file sound file
  obtain ⟨later, advanced⟩ := passed 1
  have whole := QuoteCheck.runFrom_append separator 1 .fieldStart bytes []
  rw [List.append_nil, advanced] at whole
  rw [checkQuotes, whole]
  rcases atEnd with rfl | rfl | rfl <;> rfl

end Tabula.Csv
