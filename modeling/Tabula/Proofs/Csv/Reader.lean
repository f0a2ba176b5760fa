import Tabula.Csv.Record
import Tabula.Proofs.Csv.Quotes

/-!
# The states of the record reader

Where the reader of a file stands after a stretch of bytes, and what one more byte leads
to: only quotes lead into quotes and to their end, and a separator or a line feed outside
quotes leads to where a field or a record begins.
-/

namespace Tabula.Csv

/-! ## The byte order mark -/

/-- The byte order mark. -/
def byteOrderMark : List UInt8 := [0xEF, 0xBB, 0xBF]

theorem withoutMark_cases (bytes : List UInt8) :
    withoutMark bytes = (bytes, 0) ∨
      ∃ rest, bytes = byteOrderMark ++ rest ∧ withoutMark bytes = (rest, 3) := by
  unfold withoutMark
  split
  · right
    exact ⟨_, rfl, rfl⟩
  · left
    rfl

variable {bytes before after : List UInt8}

theorem withoutMark_append (bytesEq : bytes = before ++ after)
    (pastMark : (withoutMark bytes).2 ≤ before.length) :
    withoutMark before = (before.drop (withoutMark bytes).2, (withoutMark bytes).2) := by
  rcases withoutMark_cases bytes with whole | ⟨rest, marked, skipped⟩
  · rw [whole, List.drop_zero]
    rcases withoutMark_cases before with unmarked | ⟨others, isMarked, _⟩
    · exact unmarked
    · have isSkipped : (withoutMark bytes).2 = 3 := by
        rw [bytesEq, isMarked]
        rfl
      rw [whole] at isSkipped
      cases isSkipped
  · rw [skipped] at pastMark ⊢
    have taken := congrArg (List.take 3) (bytesEq.symm.trans marked)
    rw [List.take_append_of_le_length pastMark] at taken
    have beforeEq : before = byteOrderMark ++ before.drop 3 := by
      rw [← List.take_append_drop 3 before, taken]
      simp [byteOrderMark]
    rw [beforeEq]
    rfl

/-- What is read of a file, in parts. -/
theorem withoutMark_fst_eq (bytesEq : bytes = before ++ after)
    (pastMark : (withoutMark bytes).2 ≤ before.length) :
    (withoutMark bytes).1 = before.drop (withoutMark bytes).2 ++ after := by
  rcases withoutMark_cases bytes with whole | ⟨rest, marked, skipped⟩
  · rw [whole, List.drop_zero]
    exact bytesEq
  · rw [skipped] at pastMark ⊢
    have dropped := congrArg (List.drop 3) (marked.symm.trans bytesEq)
    rw [List.drop_append_of_le_length pastMark] at dropped
    exact dropped

theorem take_append_withoutMark (bytes : List UInt8) :
    bytes.take (withoutMark bytes).2 ++ (withoutMark bytes).1 = bytes ∧
      (withoutMark bytes).2 ≤ bytes.length := by
  rcases withoutMark_cases bytes with whole | ⟨rest, marked, skipped⟩
  · simp [whole]
  · rw [skipped, marked]
    simp [byteOrderMark]

/-- There is no line feed in the mark. -/
theorem count_withoutMark (bytes : List UInt8) :
    (withoutMark bytes).1.count lineFeed = bytes.count lineFeed := by
  rcases withoutMark_cases bytes with whole | ⟨rest, marked, skipped⟩
  · rw [whole]
  · rw [skipped, marked, List.count_append]
    have noFeed : byteOrderMark.count lineFeed = 0 := by decide
    rw [noFeed, Nat.zero_add]

/-! ## The states of the reader -/

namespace Reader

/-- The state of the reader after bytes. -/
def stateAfter (separator : UInt8) (state : State) (bytes : List UInt8) : State :=
  bytes.foldl (fun state byte => (step separator state byte).1) state

/-- The records of bytes go on from the state of the reader after their beginning. -/
theorem exists_runFrom_append (separator : UInt8) (progress : Progress) (state : State)
    (first second : List UInt8) :
    ∃ complete later, runFrom separator progress state (first ++ second) =
      complete ++ runFrom separator later (stateAfter separator state first) second := by
  induction first generalizing progress state with
  | nil => exact ⟨[], progress, rfl⟩
  | cons byte rest ih =>
      rw [List.cons_append, runFrom]
      cases stepped : step separator state byte with
      | mk next action =>
          have goesOn : stateAfter separator state (byte :: rest) =
              stateAfter separator next rest := by
            simp [stateAfter, stepped]
          rw [goesOn]
          cases action with
          | endRecord =>
              obtain ⟨complete, later, same⟩ := ih (progress.pass byte).startRecord next
              exact ⟨progress.record :: complete, later, by simp [same]⟩
          | skip => exact ih ((progress.apply .skip byte).pass byte) next
          | keep => exact ih ((progress.apply .keep byte).pass byte) next
          | endField => exact ih ((progress.apply .endField byte).pass byte) next

/-- The state of the reader of a file after some of its bytes. The byte order mark is
passed over. -/
def stateAt (separator : UInt8) (bytes before : List UInt8) : State :=
  stateAfter separator .recordStart (before.drop (withoutMark bytes).2)

/-! ## What a byte leads to -/

variable {separator byte : UInt8} {state : State}

theorem isTerminator_quote : isTerminator quote = false := by decide

/-- A quote opens a field where one begins, and one after a closing quote is the second
of a pair. -/
theorem step_quote (notQuoted : state ≠ .quoted) (notUnquoted : state ≠ .unquoted) :
    (step separator state quote).1 = .quoted := by
  cases state <;>
    simp_all [step, stepRecordStart, stepFieldStart, isTerminator_quote, quote_ne_lineFeed]

/-- Outside quotes a separator leads to a new field; between records it can be a part of
a blank line. -/
theorem step_separator (notQuote : separator ≠ quote) (notQuoted : state ≠ .quoted) :
    (step separator state separator).1 = .recordStart ∨
      (step separator state separator).1 = .fieldStart := by
  cases state with
  | quoted => exact absurd rfl notQuoted
  | fieldStart | unquoted | quoteInQuoted => simp [step, stepFieldStart, notQuote]
  | recordStart =>
      by_cases blank : isTerminator separator = true
      · simp [step, stepRecordStart, blank]
      · simp [step, stepRecordStart, stepFieldStart, blank, notQuote]
  | afterReturn =>
      by_cases blank : isTerminator separator = true
      · by_cases feed : separator = lineFeed <;> simp [step, stepRecordStart, blank, feed]
      · by_cases feed : separator = lineFeed <;>
          simp [step, stepRecordStart, stepFieldStart, blank, notQuote, feed]

/-- Outside quotes a line feed that does not separate fields leads to a new record. -/
theorem step_lineFeed (notSeparator : lineFeed ≠ separator) (notQuoted : state ≠ .quoted) :
    (step separator state lineFeed).1 = .recordStart := by
  have ends : isTerminator lineFeed = true := by decide
  cases state with
  | quoted => exact absurd rfl notQuoted
  | recordStart | fieldStart | unquoted | quoteInQuoted | afterReturn =>
      simp [step, stepRecordStart, stepFieldStart, terminate, ends, notSeparator,
        quote_ne_lineFeed.symm, carriageReturn_ne_lineFeed.symm]

/-- No byte but a quote leads into quotes, nor to the end of a quoted field. -/
theorem step_plain (notQuote : byte ≠ quote) (notQuoted : state ≠ .quoted) :
    (step separator state byte).1 ≠ .quoted ∧ (step separator state byte).1 ≠ .quoteInQuoted := by
  have fieldStart : (stepFieldStart separator byte).1 ≠ .quoted ∧
      (stepFieldStart separator byte).1 ≠ .quoteInQuoted := by
    rw [stepFieldStart, if_neg notQuote, terminate]
    repeat' split
    all_goals simp
  have recordStart : (stepRecordStart separator byte).1 ≠ .quoted ∧
      (stepRecordStart separator byte).1 ≠ .quoteInQuoted := by
    rw [stepRecordStart]
    split
    · simp
    · exact fieldStart
  cases state with
  | quoted => exact absurd rfl notQuoted
  | recordStart => exact recordStart
  | fieldStart => exact fieldStart
  | afterReturn =>
      rw [step]
      split
      · simp
      · exact recordStart
  | unquoted | quoteInQuoted =>
      simp only [step, notQuote, if_false, terminate]
      repeat' split
      all_goals simp

end Reader

end Tabula.Csv
