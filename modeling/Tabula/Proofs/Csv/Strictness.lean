import Mathlib.Data.List.Infix
import Tabula.Proofs.Csv.Reader

/-!
# Checked quotes are read strictly

The quote check and the record reader are two machines over the same bytes. They differ
on carriage returns, which end a record for the reader only, on blank lines and on the
byte order mark, but as long as the check finds no fault they are inside quotes at the
same places. So a reader of checked bytes never needs a lenient rule, whatever byte
separates the fields.
-/

namespace Tabula.Csv

namespace Reader

/-- The lenient rules for a byte: a quote inside an unquoted field is taken as it is, and
a field goes on after its closing quote. -/
def IsLenient (separator : UInt8) (state : State) (byte : UInt8) : Prop :=
  (state = .unquoted ∧ byte = quote) ∨
    (state = .quoteInQuoted ∧ byte ≠ quote ∧ byte ≠ separator ∧ byte ≠ lineFeed ∧
      byte ≠ carriageReturn)

/-- Whether the reader needs no lenient rule for what comes next, which is a byte or the
end. At the end, the lenient rule closes a quoted field. -/
def IsStrict (separator : UInt8) (state : State) : List UInt8 → Prop
  | [] => state ≠ .quoted
  | byte :: _ => ¬IsLenient separator state byte

end Reader

/-- The states in which the reader can be when the check is in a state. -/
def InStep (separator : UInt8) : QuoteCheck.State → Reader.State → Prop
  | .fieldStart, reader => reader = .recordStart ∨ reader = .fieldStart
  | .unquoted, reader => reader ≠ .quoted ∧ reader ≠ .quoteInQuoted
  | .quoted, reader => reader = .quoted
  | .quoteInQuoted, reader =>
      reader = .quoteInQuoted ∨ reader = .recordStart ∨ reader = .afterReturn ∨
        (reader = .fieldStart ∧ separator = carriageReturn)

namespace InStep

variable {separator byte : UInt8} {line : Nat} {check next : QuoteCheck.State}
  {reader : Reader.State}

/-- A reader that has read nothing is in step with a check outside quotes. -/
theorem start (separator : UInt8) (outside : check = .fieldStart ∨ check = .unquoted) :
    InStep separator check .recordStart := by
  rcases outside with rfl | rfl
  · exact .inl rfl
  · exact ⟨by simp, by simp⟩

/-- Both machines are inside quotes or neither is. -/
theorem quoted_iff (inStep : InStep separator check reader) :
    check = .quoted ↔ reader = .quoted := by
  cases check <;> cases reader <;> simp_all [InStep]

/-- The check waits for the end of the line after a carriage return behind a closing
quote, where the reader has ended the record, or the field if that is the separator. -/
theorem step_return (inStep : InStep separator .quoteInQuoted reader) :
    InStep separator .quoteInQuoted (Reader.step separator reader carriageReturn).1 := by
  have ends : Reader.isTerminator carriageReturn = true := by decide
  rcases inStep with rfl | rfl | rfl | ⟨rfl, rfl⟩
  · by_cases separates : carriageReturn = separator
    · simp [InStep, Reader.step, quote_ne_carriageReturn.symm, ← separates]
    · simp [InStep, Reader.step, Reader.terminate, quote_ne_carriageReturn.symm, separates, ends]
  · simp [InStep, Reader.step, Reader.stepRecordStart, ends]
  · simp [InStep, Reader.step, Reader.stepRecordStart, ends, carriageReturn_ne_lineFeed]
  · simp [InStep, Reader.step, Reader.stepFieldStart, quote_ne_carriageReturn.symm]

/-- A byte that the check passes keeps the machines in step. -/
theorem step (inStep : InStep separator check reader)
    (passed : QuoteCheck.step separator line check byte = .ok next) :
    InStep separator next (Reader.step separator reader byte).1 := by
  by_cases isQuote : byte = quote
  · subst isQuote
    cases check with
    | quoted =>
        cases passed
        obtain rfl : reader = .quoted := inStep
        left
        rfl
    | unquoted => cases passed
    | fieldStart | quoteInQuoted =>
        cases passed
        apply Reader.step_quote
        · rintro rfl
          simp [InStep] at inStep
        · rintro rfl
          simp [InStep] at inStep
  · have notQuoted : check ≠ .quoted → reader ≠ .quoted := by
      intro outside inside
      exact outside (inStep.quoted_iff.2 inside)
    have broken : check ≠ .quoted → byte = separator ∨ byte = lineFeed →
        InStep separator .fieldStart (Reader.step separator reader byte).1 := by
      intro outside isBreak
      by_cases isSeparator : byte = separator
      · subst isSeparator
        exact Reader.step_separator isQuote (notQuoted outside)
      · obtain rfl := isBreak.resolve_left isSeparator
        exact .inl (Reader.step_lineFeed isSeparator (notQuoted outside))
    cases check with
    | quoted =>
        obtain rfl : reader = .quoted := inStep
        simp only [QuoteCheck.step, if_neg isQuote] at passed
        cases passed
        simp [InStep, Reader.step, isQuote]
    | unquoted | fieldStart =>
        simp only [QuoteCheck.step, if_neg isQuote] at passed
        split at passed
        · rename_i isBreak
          cases passed
          exact broken (by decide) (by simpa using isBreak)
        · cases passed
          exact Reader.step_plain isQuote (notQuoted (by decide))
    | quoteInQuoted =>
        simp only [QuoteCheck.step, if_neg isQuote] at passed
        split at passed
        · rename_i isReturn
          cases passed
          subst isReturn
          exact inStep.step_return
        · split at passed
          · rename_i isBreak
            cases passed
            exact broken (by decide) (by simpa using isBreak)
          · cases passed

/-- Bytes that the check passes keep the machines in step. -/
theorem advance {later : Nat} {bytes : List UInt8} (inStep : InStep separator check reader)
    (passed : QuoteCheck.advance separator line check bytes = .ok (later, next)) :
    InStep separator next (Reader.stateAfter separator reader bytes) := by
  induction bytes generalizing line check reader with
  | nil =>
      cases passed
      exact inStep
  | cons byte rest ih =>
      rw [QuoteCheck.advance] at passed
      cases stepped : QuoteCheck.step separator line check byte with
      | error fault =>
          rw [stepped] at passed
          cases passed
      | ok middle =>
          rw [stepped] at passed
          exact ih (inStep.step stepped) passed

/-- The check has passed no lenient rule. -/
theorem not_isLenient (inStep : InStep separator check reader)
    (passed : QuoteCheck.step separator line check byte = .ok next) :
    ¬Reader.IsLenient separator reader byte := by
  rintro (⟨rfl, rfl⟩ | ⟨rfl, notQuote, notSeparator, notFeed, notReturn⟩)
  · cases check with
    | unquoted => cases passed
    | fieldStart | quoted | quoteInQuoted => simp [InStep] at inStep
  · cases check with
    | quoteInQuoted =>
        simp [QuoteCheck.step, notQuote, notSeparator, notFeed, notReturn] at passed
    | fieldStart | quoted | unquoted => simp [InStep] at inStep

end InStep

/-! ## A file -/

/-- Before each byte of a file the machines are in step, also inside the byte order
mark, which the reader passes over and the check takes for a field. -/
theorem inStep_stateAt {separator : UInt8} {bytes before after : List UInt8} {line : Nat}
    {check : QuoteCheck.State} (split : bytes = before ++ after)
    (passed : QuoteCheck.advance separator 1 .fieldStart before = .ok (line, check)) :
    InStep separator check (Reader.stateAt separator bytes before) := by
  rcases withoutMark_cases bytes with whole | ⟨rest, marked, skipped⟩
  · rw [Reader.stateAt, whole, List.drop_zero]
    exact (InStep.start separator (.inl rfl)).advance passed
  · rw [Reader.stateAt, skipped]
    have noQuotes : ∀ byte ∈ byteOrderMark, byte ≠ quote := by
      rintro byte member rfl
      exact absurd member (by decide)
    have isBeginning : before <+: bytes := ⟨after, split.symm⟩
    have markIsBeginning : byteOrderMark <+: bytes := ⟨rest, marked.symm⟩
    rcases List.prefix_or_prefix_of_prefix isBeginning markIsBeginning with inMark | ⟨read, rfl⟩
    · have nothingRead : before.drop 3 = [] := List.drop_eq_nil_of_le inMark.length_le
      obtain ⟨next, outside, passes⟩ := @QuoteCheck.Leads.of_no_quotes separator _ before
        (fun byte member => noQuotes byte (inMark.subset member)) (.inl rfl)
      obtain ⟨_, advanced⟩ := passes 1
      rw [advanced] at passed
      cases passed
      rw [nothingRead]
      exact InStep.start separator outside
    · obtain ⟨next, outside, passes⟩ :=
        @QuoteCheck.Leads.of_no_quotes separator _ _ noQuotes (.inl rfl)
      obtain ⟨later, advanced⟩ := passes 1
      rw [QuoteCheck.advance_append, advanced] at passed
      exact (InStep.start separator outside).advance passed

/-- The records of a file go on from the state of the reader before each of its bytes. -/
theorem exists_records_append {separator : UInt8} {bytes before after : List UInt8}
    (split : bytes = before ++ after) (read : (withoutMark bytes).2 ≤ before.length) :
    ∃ complete progress, records separator bytes =
      complete ++ Reader.runFrom separator progress (Reader.stateAt separator bytes before) after := by
  simp only [records, withoutMark_fst_eq split read]
  exact Reader.exists_runFrom_append separator _ _ _ after

/-- In a file that the check passes, the check and the reader are inside quotes at the
same places, and the reader needs no lenient rule anywhere. -/
theorem checkQuotes_strict {separator : UInt8} {bytes : List UInt8}
    (passed : checkQuotes separator bytes = .ok ()) (before after : List UInt8)
    (split : bytes = before ++ after) :
    (∃ line check, QuoteCheck.advance separator 1 .fieldStart before = .ok (line, check) ∧
        (check = .quoted ↔ Reader.stateAt separator bytes before = .quoted)) ∧
      ((withoutMark bytes).2 ≤ before.length →
        (∃ complete progress, records separator bytes = complete ++
          Reader.runFrom separator progress (Reader.stateAt separator bytes before) after) ∧
        Reader.IsStrict separator (Reader.stateAt separator bytes before) after) := by
  rw [checkQuotes, split, QuoteCheck.runFrom_append] at passed
  cases advanced : QuoteCheck.advance separator 1 .fieldStart before with
  | error fault =>
      rw [advanced] at passed
      cases passed
  | ok reached =>
      rcases reached with ⟨line, check⟩
      rw [advanced] at passed
      have inStep := inStep_stateAt split advanced
      refine ⟨⟨line, check, rfl, inStep.quoted_iff⟩, ?_⟩
      intro read
      refine ⟨exists_records_append split read, ?_⟩
      cases after with
      | nil =>
          intro inside
          obtain rfl := inStep.quoted_iff.2 inside
          cases passed
      | cons byte rest =>
          simp only [QuoteCheck.runFrom] at passed
          cases stepped : QuoteCheck.step separator line check byte with
          | error fault =>
              rw [stepped] at passed
              cases passed
          | ok next => exact inStep.not_isLenient stepped

/-- The beginning of a file, with a byte order mark and a doubled quote. -/
def markedBeginning : List UInt8 :=
  [0xEF, 0xBB, 0xBF, 0x6E, 0x3B, 0x22, 0x71, 0x22, 0x22, 0x3B, 0x22, 0x0D]

/-- The rest of the file, which begins with a quote after a carriage return. -/
def markedRest : List UInt8 :=
  [0x22, 0x73, 0x0A, 0x22, 0x0D, 0x0A]

theorem checkQuotes_strict_marked :
    checkQuotes 0x3B (markedBeginning ++ markedRest) = .ok () ∧
      (∃ line check,
        QuoteCheck.advance 0x3B 1 .fieldStart markedBeginning = .ok (line, check) ∧
          (check = .quoted ↔
            Reader.stateAt 0x3B (markedBeginning ++ markedRest) markedBeginning = .quoted)) ∧
      ((withoutMark (markedBeginning ++ markedRest)).2 ≤ markedBeginning.length →
        (∃ complete progress, records 0x3B (markedBeginning ++ markedRest) = complete ++
          Reader.runFrom 0x3B progress
            (Reader.stateAt 0x3B (markedBeginning ++ markedRest) markedBeginning) markedRest) ∧
        Reader.IsStrict 0x3B
          (Reader.stateAt 0x3B (markedBeginning ++ markedRest) markedBeginning) markedRest) := by
  have passed : checkQuotes 0x3B (markedBeginning ++ markedRest) = .ok () := rfl
  exact ⟨passed, checkQuotes_strict passed markedBeginning markedRest rfl⟩

end Tabula.Csv
