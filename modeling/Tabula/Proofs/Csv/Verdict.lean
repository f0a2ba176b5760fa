import Tabula.Proofs.Csv.Grammar
import Tabula.Proofs.Csv.Strictness

/-!
# The verdict of the quote check

The check passes exactly the files that are read without a lenient rule and do not mislead
it. A file misleads the check where it takes the byte order mark for the beginning of a bare
field, and where it takes a carriage return, which ends a record for the reader, for a part
of the field before it: a quote behind either is out of place for the check although it
opens a field, and so is whatever begins a bare field behind the carriage return after a
closing quote.
-/

namespace Tabula.Csv

namespace Reader

/-- Whether the reader of a file needs no lenient rule anywhere. -/
def IsReadStrictly (separator : UInt8) (bytes : List UInt8) : Prop :=
  ∀ before after, (withoutMark bytes).1 = before ++ after →
    IsStrict separator (stateAfter separator .recordStart before) after

instance (separator : UInt8) (state : State) (byte : UInt8) :
    Decidable (IsLenient separator state byte) :=
  inferInstanceAs (Decidable (_ ∨ _))

instance decidableIsStrict (separator : UInt8) (state : State) :
    (after : List UInt8) → Decidable (IsStrict separator state after)
  | [] => inferInstanceAs (Decidable (state ≠ .quoted))
  | byte :: _ => inferInstanceAs (Decidable ¬IsLenient separator state byte)

theorem isReadStrictly_iff {separator : UInt8} {bytes : List UInt8} :
    IsReadStrictly separator bytes ↔ ∀ count < (withoutMark bytes).1.length + 1,
      IsStrict separator (stateAfter separator .recordStart ((withoutMark bytes).1.take count))
        ((withoutMark bytes).1.drop count) := by
  constructor
  · intro strict count _
    exact strict _ _ (List.take_append_drop count _).symm
  · intro strict before after split
    have bound : before.length < (withoutMark bytes).1.length + 1 := by
      rw [split, List.length_append]
      omega
    simpa [split] using strict before.length bound

instance (separator : UInt8) (bytes : List UInt8) : Decidable (IsReadStrictly separator bytes) :=
  decidable_of_iff' _ isReadStrictly_iff

/-- Whether a quoted field has been closed and only carriage returns have come since. -/
def ClosedBehind (separator : UInt8) (before : List UInt8) : Prop :=
  ∃ closed returns, before = closed ++ returns ∧ (∀ byte ∈ returns, byte = carriageReturn) ∧
    stateAfter separator .recordStart closed = .quoteInQuoted

variable {separator byte : UInt8} {state : State} {before : List UInt8}

theorem stateAfter_concat (separator : UInt8) (state : State) (before : List UInt8)
    (byte : UInt8) :
    stateAfter separator state (before ++ [byte]) =
      (step separator (stateAfter separator state before) byte).1 := by
  rw [stateAfter, List.foldl_append]
  rfl

/-- A closing quote is a quote inside quotes. -/
theorem step_eq_quoteInQuoted_iff :
    (step separator state byte).1 = .quoteInQuoted ↔ state = .quoted ∧ byte = quote := by
  by_cases inside : state = .quoted
  · subst inside
    by_cases isQuote : byte = quote <;> simp [step, isQuote]
  · simp only [inside, false_and, iff_false]
    by_cases isQuote : byte = quote
    · subst isQuote
      by_cases unquoted : state = .unquoted
      · subst unquoted
        by_cases separates : quote = separator <;> simp [step, separates, isTerminator_quote]
      · simp [step_quote inside unquoted]
    · exact (step_plain isQuote inside).2

/-- A byte without a meaning is a part of a bare field, or is taken for one after a closing
quote. -/
theorem step_content (notQuoted : state ≠ .quoted) (plain : IsPlain separator byte) :
    (step separator state byte).1 = .unquoted := by
  obtain ⟨notSeparator, notQuote, notFeed, notReturn⟩ := plain
  cases state with
  | quoted => exact absurd rfl notQuoted
  | recordStart | fieldStart | unquoted | quoteInQuoted | afterReturn =>
      simp [step, stepRecordStart, stepFieldStart, isTerminator, notSeparator, notQuote, notFeed,
        notReturn]

theorem closedBehind_concat_iff :
    ClosedBehind separator (before ++ [byte]) ↔
      (byte = carriageReturn ∧ ClosedBehind separator before) ∨
        stateAfter separator .recordStart (before ++ [byte]) = .quoteInQuoted := by
  constructor
  · rintro ⟨closed, returns, split, areReturns, atEnd⟩
    rcases List.eq_nil_or_concat' returns with rfl | ⟨front, last, rfl⟩
    · right
      rwa [split, List.append_nil]
    · left
      rw [← List.append_assoc] at split
      obtain ⟨rfl, lastEq⟩ := List.append_inj' split rfl
      obtain rfl : byte = last := List.singleton_inj.1 lastEq
      refine ⟨areReturns byte (by simp), closed, front, rfl, ?_, atEnd⟩
      intro other member
      exact areReturns other (List.mem_append_left _ member)
  · rintro (⟨rfl, closed, returns, rfl, areReturns, atEnd⟩ | atEnd)
    · refine ⟨closed, returns ++ [carriageReturn], by simp, ?_, atEnd⟩
      intro other member
      rcases List.mem_append.1 member with inReturns | isLast
      · exact areReturns other inReturns
      · exact List.mem_singleton.1 isLast
    · exact ⟨before ++ [byte], [], by simp, by simp, atEnd⟩

theorem not_closedBehind_nil : ¬ClosedBehind separator [] := by
  rintro ⟨closed, returns, split, _, atEnd⟩
  rw [(List.append_eq_nil_iff.1 split.symm).1] at atEnd
  cases atEnd

end Reader

namespace QuoteCheck

variable {separator byte : UInt8} {line : Nat} {state : State}

/-- Outside quotes, a byte that is neither a quote nor a line feed begins a field or goes on
with one. -/
theorem step_outside (outside : state = .fieldStart ∨ state = .unquoted) (notQuote : byte ≠ quote)
    (notFeed : byte ≠ lineFeed) :
    step separator line state byte =
      .ok (if byte = separator then .fieldStart else .unquoted) := by
  rcases outside with rfl | rfl <;>
    by_cases separates : byte = separator <;> simp_all [step]

theorem step_eq_quoteInQuoted_iff :
    step separator line state byte = .ok .quoteInQuoted ↔
      (byte = carriageReturn ∧ state = .quoteInQuoted) ∨ (state = .quoted ∧ byte = quote) := by
  cases state with
  | quoted => by_cases isQuote : byte = quote <;> simp [step, isQuote]
  | quoteInQuoted =>
      by_cases isQuote : byte = quote
      · simp [step, isQuote, quote_ne_carriageReturn]
      · by_cases isReturn : byte = carriageReturn
        · simp [step, isReturn, quote_ne_carriageReturn.symm]
        · simp only [step, isQuote, isReturn, if_false]
          split <;> simp
  | fieldStart | unquoted =>
      simp only [step]
      repeat' split
      all_goals simp

theorem step_eq_unquoted_iff :
    step separator line state byte = .ok .unquoted ↔
      (state = .fieldStart ∨ state = .unquoted) ∧ byte ≠ quote ∧ byte ≠ separator ∧
        byte ≠ lineFeed := by
  cases state with
  | quoted => by_cases isQuote : byte = quote <;> simp [step, isQuote]
  | quoteInQuoted =>
      simp only [step]
      repeat' split
      all_goals simp
  | fieldStart | unquoted =>
      by_cases isQuote : byte = quote
      · simp [step, isQuote]
      · by_cases isBreak : byte = separator ∨ byte = lineFeed
        · rcases isBreak with rfl | rfl <;> simp [step, isQuote]
        · simp [step, isQuote, not_or.1 isBreak]

/-- A byte is out of place if it is a quote in a bare field or goes on with a field after its
closing quote. -/
theorem cases_of_step_eq_error {fault : QuoteFault}
    (failed : step separator line state byte = .error fault) :
    (state = .unquoted ∧ byte = quote) ∨
      (state = .quoteInQuoted ∧ IsPlain separator byte) := by
  cases state with
  | quoted => cases failed
  | fieldStart =>
      simp only [step] at failed
      repeat' split at failed
      all_goals cases failed
  | unquoted =>
      by_cases isQuote : byte = quote
      · exact .inl ⟨rfl, isQuote⟩
      · simp only [step, isQuote, if_false] at failed
        split at failed <;> cases failed
  | quoteInQuoted =>
      right
      simp only [step] at failed
      repeat' split at failed
      · cases failed
      · cases failed
      · cases failed
      · rename_i notQuote notReturn notBreak
        simp only [Bool.or_eq_true, decide_eq_true_eq, not_or] at notBreak
        exact ⟨rfl, notBreak.1, notQuote, notBreak.2, notReturn⟩

/-- Outside quotes, the last of bytes that are neither quotes nor line feeds decides whether
the check stands at the beginning of a field. -/
theorem advance_outside {bytes : List UInt8} (outside : state = .fieldStart ∨ state = .unquoted)
    (free : ∀ byte ∈ bytes, byte ≠ quote ∧ byte ≠ lineFeed) :
    advance separator line state bytes =
      .ok (line, bytes.getLast?.elim state fun last =>
        if last = separator then .fieldStart else .unquoted) := by
  induction bytes generalizing state with
  | nil => rfl
  | cons byte rest ih =>
      obtain ⟨⟨notQuote, notFeed⟩, later⟩ := List.forall_mem_cons.1 free
      have stillOutside : (if byte = separator then State.fieldStart else .unquoted) = .fieldStart ∨
          (if byte = separator then State.fieldStart else .unquoted) = .unquoted := by
        split
        · exact .inl rfl
        · exact .inr rfl
      rw [advance, step_outside outside notQuote notFeed, if_neg notFeed]
      simp only [ih stillOutside later, List.getLast?_cons, Option.elim_some]
      cases rest.getLast? <;> rfl

/-- What a fault means: bytes are passed up to one that is out of place, or to their end
inside quotes. -/
theorem exists_of_runFrom_ne_ok {bytes : List UInt8}
    (failed : runFrom separator line state bytes ≠ .ok ()) :
    ∃ before after later check, bytes = before ++ after ∧
      advance separator line state before = .ok (later, check) ∧
      ((after = [] ∧ check = .quoted) ∨ ∃ byte rest fault, after = byte :: rest ∧
        step separator later check byte = .error fault) := by
  induction bytes generalizing line state with
  | nil =>
      refine ⟨[], [], line, state, rfl, rfl, .inl ⟨rfl, ?_⟩⟩
      by_contra outside
      exact failed (if_neg outside)
  | cons byte rest ih =>
      rw [runFrom] at failed
      cases stepped : step separator line state byte with
      | error fault =>
          exact ⟨[], byte :: rest, line, state, rfl, rfl, .inr ⟨byte, rest, fault, rfl, stepped⟩⟩
      | ok next =>
          rw [stepped] at failed
          obtain ⟨before, after, later, check, split, advanced, cause⟩ := ih failed
          refine ⟨byte :: before, after, later, check, by rw [split]; rfl, ?_, cause⟩
          rw [advance, stepped]
          exact advanced

/-- The last of the bytes that are passed. -/
theorem exists_step_of_advance_concat {bytes : List UInt8} {later : Nat} {next : State}
    (passed : advance separator line state (bytes ++ [byte]) = .ok (later, next)) :
    ∃ middle check, advance separator line state bytes = .ok (middle, check) ∧
      step separator middle check byte = .ok next := by
  rw [advance_append] at passed
  cases advanced : advance separator line state bytes with
  | error fault =>
      rw [advanced] at passed
      cases passed
  | ok reached =>
      refine ⟨reached.1, reached.2, rfl, ?_⟩
      rw [advanced] at passed
      simp only [advance] at passed
      cases stepped : step separator reached.1 reached.2 byte with
      | error fault =>
          rw [stepped] at passed
          cases passed
      | ok last =>
          rw [stepped] at passed
          cases passed
          rfl

end QuoteCheck

/-! ## Where a file misleads the check -/

/-- What misleads the check in a file. -/
inductive Misleads (separator : UInt8) (bytes : List UInt8) : Prop
  /-- A quote opens the first field directly behind the byte order mark. -/
  | mark {rest : List UInt8} (bytesEq : bytes = byteOrderMark ++ quote :: rest)
      (notSeparator : byteOrderMark.getLast? ≠ some separator)
  /-- A quote opens a field directly behind a carriage return, which is taken for a part of a
  bare field. -/
  | opens {before after : List UInt8}
      (contentEq : (withoutMark bytes).1 = before ++ carriageReturn :: quote :: after)
      (notSeparator : carriageReturn ≠ separator)
      (outside : Reader.stateAfter separator .recordStart before ≠ .quoted)
      (notClosed : ¬Reader.ClosedBehind separator before)
  /-- A bare field begins directly behind a carriage return that is taken for a part of a
  quoted field. -/
  | goesOn {before after : List UInt8} {byte : UInt8}
      (contentEq : (withoutMark bytes).1 = before ++ carriageReturn :: byte :: after)
      (closed : Reader.ClosedBehind separator before) (plain : IsPlain separator byte)

namespace QuoteCheck

variable {separator : UInt8} {start check : State} {line later : Nat} {before after : List UInt8}

/-- The check stands behind a closing quote where the reader has closed a quoted field and
has come upon nothing but carriage returns since. -/
theorem eq_quoteInQuoted_iff (outside : start = .fieldStart ∨ start = .unquoted)
    (passed : advance separator line start before = .ok (later, check)) :
    check = .quoteInQuoted ↔ Reader.ClosedBehind separator before := by
  induction before using List.reverseRecOn generalizing later check with
  | nil =>
      cases passed
      simp only [Reader.not_closedBehind_nil, iff_false]
      rcases outside with rfl | rfl <;> simp
  | append_singleton before byte ih =>
      obtain ⟨middle, earlier, advanced, stepped⟩ := exists_step_of_advance_concat passed
      have inStep := (InStep.start separator outside).advance advanced
      have checkIff : check = .quoteInQuoted ↔
          step separator middle earlier byte = .ok .quoteInQuoted := by
        rw [stepped, Except.ok.injEq]
      rw [checkIff, step_eq_quoteInQuoted_iff, Reader.closedBehind_concat_iff,
        Reader.stateAfter_concat, Reader.step_eq_quoteInQuoted_iff, ih advanced,
        inStep.quoted_iff]

/-- Where the check stands in a bare field and the reader does not, there is nothing before
or a carriage return. -/
theorem cases_of_advance_unquoted (outside : start = .fieldStart ∨ start = .unquoted)
    (passed : advance separator line start before = .ok (later, .unquoted)) :
    (before = [] ∧ start = .unquoted) ∨
      Reader.stateAfter separator .recordStart before = .unquoted ∨
      ∃ front, before = front ++ [carriageReturn] ∧ carriageReturn ≠ separator ∧
        Reader.stateAfter separator .recordStart front ≠ .quoted ∧
        ¬Reader.ClosedBehind separator front := by
  rcases List.eq_nil_or_concat' before with rfl | ⟨front, byte, rfl⟩
  · left
    cases passed
    exact ⟨rfl, rfl⟩
  · right
    obtain ⟨middle, earlier, advanced, stepped⟩ := exists_step_of_advance_concat passed
    obtain ⟨bare, notQuote, notSeparator, notFeed⟩ := step_eq_unquoted_iff.1 stepped
    have inStep := (InStep.start separator outside).advance advanced
    have notQuoted : Reader.stateAfter separator .recordStart front ≠ .quoted := by
      rw [Ne, ← inStep.quoted_iff]
      rcases bare with rfl | rfl <;> simp
    by_cases isReturn : byte = carriageReturn
    · right
      subst isReturn
      refine ⟨front, rfl, notSeparator, notQuoted, ?_⟩
      rw [← eq_quoteInQuoted_iff outside advanced]
      rcases bare with rfl | rfl <;> simp
    · left
      rw [Reader.stateAfter_concat]
      exact Reader.step_content notQuoted ⟨notSeparator, notQuote, notFeed, isReturn⟩

end QuoteCheck

/-! ## A file -/

variable {separator : UInt8} {bytes : List UInt8}

/-- The check takes the byte order mark for the beginning of a bare field, unless the last
byte of it separates fields. -/
theorem advance_byteOrderMark (separator : UInt8) :
    QuoteCheck.advance separator 1 .fieldStart byteOrderMark =
      .ok (1, if byteOrderMark.getLast? = some separator then .fieldStart else .unquoted) := by
  have free : ∀ byte ∈ byteOrderMark, byte ≠ quote ∧ byte ≠ lineFeed := by
    simp [byteOrderMark, quote, lineFeed]
  rw [QuoteCheck.advance_outside (.inl rfl) free]
  simp [byteOrderMark]

/-- The check of a file goes on behind the byte order mark. -/
theorem exists_checkQuotes_eq (separator : UInt8) (bytes : List UInt8) :
    ∃ start, (start = .fieldStart ∨ start = .unquoted) ∧
      checkQuotes separator bytes =
        QuoteCheck.runFrom separator 1 start (withoutMark bytes).1 ∧
      (start = .unquoted ↔ bytes = byteOrderMark ++ (withoutMark bytes).1 ∧
        byteOrderMark.getLast? ≠ some separator) := by
  rcases withoutMark_cases bytes with whole | ⟨rest, marked, skipped⟩
  · refine ⟨.fieldStart, .inl rfl, by rw [whole]; rfl, ?_⟩
    have unmarked : bytes ≠ byteOrderMark ++ bytes := by
      intro same
      have lengths := congrArg List.length same
      rw [List.length_append] at lengths
      simp [byteOrderMark] at lengths
    rw [whole]
    simp [unmarked]
  · refine ⟨if byteOrderMark.getLast? = some separator then .fieldStart else .unquoted, ?_, ?_, ?_⟩
    · split
      · exact .inl rfl
      · exact .inr rfl
    · rw [checkQuotes, marked, QuoteCheck.runFrom_append, advance_byteOrderMark, ← marked, skipped]
    · rw [skipped]
      simp [marked]

/-- What the check passes is read without a lenient rule. -/
theorem isReadStrictly_of_passed (passed : checkQuotes separator bytes = .ok ()) :
    Reader.IsReadStrictly separator bytes := by
  obtain ⟨start, outside, checkEq, _⟩ := exists_checkQuotes_eq separator bytes
  rw [checkEq] at passed
  intro before after contentEq
  obtain ⟨later, check, advanced, rest⟩ := QuoteCheck.exists_advance_of_runFrom passed contentEq
  have inStep := (InStep.start separator outside).advance advanced
  cases after with
  | nil =>
      intro inside
      obtain rfl := inStep.quoted_iff.2 inside
      cases rest
  | cons byte after =>
      rw [QuoteCheck.runFrom] at rest
      cases stepped : QuoteCheck.step separator later check byte with
      | error fault =>
          rw [stepped] at rest
          cases rest
      | ok next => exact inStep.not_isLenient stepped

/-- What the check passes does not mislead it. -/
theorem not_misleads_of_passed (passed : checkQuotes separator bytes = .ok ()) :
    ¬Misleads separator bytes := by
  obtain ⟨start, outside, checkEq, unquotedIff⟩ := exists_checkQuotes_eq separator bytes
  rw [checkEq] at passed
  intro misleads
  cases misleads with
  | @mark rest bytesEq notSeparator =>
      have contentEq : (withoutMark bytes).1 = quote :: rest := by
        rw [bytesEq]
        rfl
      rw [contentEq] at passed unquotedIff
      rw [unquotedIff.2 ⟨bytesEq, notSeparator⟩] at passed
      cases passed
  | opens contentEq notSeparator notQuoted notClosed =>
      obtain ⟨later, check, advanced, rest⟩ :=
        QuoteCheck.exists_advance_of_runFrom passed contentEq
      rw [← QuoteCheck.eq_quoteInQuoted_iff outside advanced] at notClosed
      have inStep := (InStep.start separator outside).advance advanced
      rw [Ne, ← inStep.quoted_iff] at notQuoted
      have bare : check = .fieldStart ∨ check = .unquoted := by
        cases check <;> simp_all
      rw [QuoteCheck.runFrom, QuoteCheck.step_outside bare quote_ne_carriageReturn.symm
        carriageReturn_ne_lineFeed, if_neg notSeparator] at rest
      cases rest
  | @goesOn _ _ byte contentEq closed plain =>
      obtain ⟨later, check, advanced, rest⟩ :=
        QuoteCheck.exists_advance_of_runFrom passed contentEq
      obtain rfl := (QuoteCheck.eq_quoteInQuoted_iff outside advanced).2 closed
      obtain ⟨notSeparator, notQuote, notFeed, notReturn⟩ := plain
      have returned : QuoteCheck.step separator later .quoteInQuoted carriageReturn =
          .ok .quoteInQuoted :=
        QuoteCheck.step_eq_quoteInQuoted_iff.2 (.inl ⟨rfl, rfl⟩)
      rw [QuoteCheck.runFrom, returned] at rest
      simp [QuoteCheck.runFrom, QuoteCheck.step, notQuote, notReturn, notSeparator, notFeed] at rest

/-- A file that is read without a lenient rule and does not mislead the check is passed: the
check can reach a fault only where it does not stand with the reader. -/
theorem passed_of_isReadStrictly (strict : Reader.IsReadStrictly separator bytes)
    (notMisleads : ¬Misleads separator bytes) : checkQuotes separator bytes = .ok () := by
  obtain ⟨start, outside, checkEq, unquotedIff⟩ := exists_checkQuotes_eq separator bytes
  rw [checkEq]
  by_contra failed
  obtain ⟨before, after, later, check, contentEq, advanced, cause⟩ :=
    QuoteCheck.exists_of_runFrom_ne_ok failed
  have inStep := (InStep.start separator outside).advance advanced
  have strictHere := strict before after contentEq
  rcases cause with ⟨rfl, rfl⟩ | ⟨byte, rest, fault, rfl, stepped⟩
  · exact strictHere (inStep.quoted_iff.1 rfl)
  · apply notMisleads
    rcases QuoteCheck.cases_of_step_eq_error stepped with ⟨rfl, rfl⟩ | ⟨rfl, plain⟩
    · rcases QuoteCheck.cases_of_advance_unquoted outside advanced with
        ⟨rfl, isUnquoted⟩ | isUnquoted | ⟨front, rfl, notSeparator, notQuoted, notClosed⟩
      · obtain ⟨marked, notSeparator⟩ := unquotedIff.1 isUnquoted
        rw [contentEq] at marked
        exact .mark marked notSeparator
      · exact absurd (.inl ⟨isUnquoted, rfl⟩) strictHere
      · rw [List.append_assoc] at contentEq
        exact .opens contentEq notSeparator notQuoted notClosed
    · have closed := (QuoteCheck.eq_quoteInQuoted_iff outside advanced).1 rfl
      rcases List.eq_nil_or_concat' before with rfl | ⟨front, last, rfl⟩
      · exact absurd closed Reader.not_closedBehind_nil
      · rcases Reader.closedBehind_concat_iff.1 closed with ⟨rfl, closedFront⟩ | atEnd
        · rw [List.append_assoc] at contentEq
          exact .goesOn contentEq closedFront plain
        · obtain ⟨notSeparator, notQuote, notFeed, notReturn⟩ := plain
          exact absurd (.inr ⟨atEnd, notQuote, notSeparator, notFeed, notReturn⟩) strictHere

/-- The check passes exactly the files that are read without a lenient rule and do not
mislead it. -/
theorem checkQuotes_eq_ok_iff (separator : UInt8) (bytes : List UInt8) :
    checkQuotes separator bytes = .ok () ↔
      Reader.IsReadStrictly separator bytes ∧ ¬Misleads separator bytes := by
  constructor
  · intro passed
    exact ⟨isReadStrictly_of_passed passed, not_misleads_of_passed passed⟩
  · rintro ⟨strict, notMisleads⟩
    exact passed_of_isReadStrictly strict notMisleads

/-- A file that begins with the byte order mark and a quoted name. -/
def markedName : List UInt8 :=
  [0xEF, 0xBB, 0xBF, 0x22, 0x61, 0x22, 0x0A, 0x31, 0x0A]

/-- The quote that opens the first field is in its place for the reader and out of place for
the check. -/
theorem checkQuotes_markedName :
    Reader.IsReadStrictly 0x3B markedName ∧ checkQuotes 0x3B markedName = .error (.bare 1) := by
  exact ⟨by decide, rfl⟩

end Tabula.Csv
