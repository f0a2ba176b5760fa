import Tabula.Csv.Quotes

/-!
# The states of the quote check

Where the check of a file stands after a stretch of bytes, from where it goes on with
the bytes that follow. Bytes without a quote are no fault outside quotes, whatever they
are.
-/

namespace Tabula.Csv

theorem quote_ne_lineFeed : quote ≠ lineFeed := by decide

theorem quote_ne_carriageReturn : quote ≠ carriageReturn := by decide

theorem carriageReturn_ne_lineFeed : carriageReturn ≠ lineFeed := by decide

namespace QuoteCheck

/-- The line and the state of the check after bytes, or the fault that they make. -/
def advance (separator : UInt8) (line : Nat) (state : State) :
    List UInt8 → Except QuoteFault (Nat × State)
  | [] => .ok (line, state)
  | byte :: rest =>
      match step separator line state byte with
      | .ok next => advance separator (if byte = lineFeed then line + 1 else line) next rest
      | .error fault => .error fault

/-- The check of bytes goes on from where the check of their beginning stands. -/
theorem runFrom_append (separator : UInt8) (line : Nat) (state : State)
    (first second : List UInt8) :
    runFrom separator line state (first ++ second) =
      match advance separator line state first with
      | .ok (later, next) => runFrom separator later next second
      | .error fault => .error fault := by
  induction first generalizing line state with
  | nil => rfl
  | cons byte rest ih =>
      rw [List.cons_append, runFrom, advance]
      cases step separator line state byte with
      | error fault => rfl
      | ok next => exact ih _ next

theorem advance_append (separator : UInt8) (line : Nat) (state : State)
    (first second : List UInt8) :
    advance separator line state (first ++ second) =
      match advance separator line state first with
      | .ok (later, next) => advance separator later next second
      | .error fault => .error fault := by
  induction first generalizing line state with
  | nil => rfl
  | cons byte rest ih =>
      rw [List.cons_append, advance, advance]
      cases step separator line state byte with
      | error fault => rfl
      | ok next => exact ih _ next

/-- A check without a fault passes every beginning. -/
theorem exists_advance_of_runFrom {separator : UInt8} {line : Nat} {state : State}
    {bytes before after : List UInt8}
    (passed : runFrom separator line state bytes = .ok ()) (split : bytes = before ++ after) :
    ∃ later check, advance separator line state before = .ok (later, check) ∧
      runFrom separator later check after = .ok () := by
  rw [split, runFrom_append] at passed
  cases advanced : advance separator line state before with
  | error fault =>
      rw [advanced] at passed
      cases passed
  | ok reached =>
      rw [advanced] at passed
      exact ⟨reached.1, reached.2, rfl, passed⟩

/-- The check counts lines by their line feeds. -/
theorem advance_line {separator : UInt8} {line later : Nat}
    {state next : State} {bytes : List UInt8}
    (advanced : advance separator line state bytes = .ok (later, next)) :
    later = bytes.count lineFeed + line := by
  induction bytes generalizing line state with
  | nil =>
      cases advanced
      simp
  | cons byte rest ih =>
      rw [advance] at advanced
      cases stepped : step separator line state byte with
      | error fault =>
          rw [stepped] at advanced
          cases advanced
      | ok middle =>
          rw [stepped] at advanced
          rw [ih advanced, List.count_cons]
          by_cases isFeed : byte = lineFeed
          · simp [isFeed]
            omega
          · simp [isFeed]

/-- From any line, bytes without a fault lead from a state to another. -/
def Leads (separator : UInt8) (state : State) (bytes : List UInt8) (next : State) : Prop :=
  ∀ line, ∃ later, advance separator line state bytes = .ok (later, next)

namespace Leads

variable {separator : UInt8} {state middle next : State}

theorem nil (separator : UInt8) (state : State) : Leads separator state [] state :=
  fun line => ⟨line, rfl⟩

theorem cons {byte : UInt8} {bytes : List UInt8}
    (passed : ∀ line, step separator line state byte = .ok middle)
    (rest : Leads separator middle bytes next) : Leads separator state (byte :: bytes) next := by
  intro line
  rw [advance, passed]
  exact rest _

theorem append {first second : List UInt8} (one : Leads separator state first middle)
    (other : Leads separator middle second next) :
    Leads separator state (first ++ second) next := by
  intro line
  obtain ⟨later, advanced⟩ := one line
  rw [advance_append, advanced]
  exact other later

/-- Outside quotes, bytes without a quote are passed, and the check stays outside. -/
theorem of_no_quotes {bytes : List UInt8} (noQuotes : ∀ byte ∈ bytes, byte ≠ quote)
    (outside : state = .fieldStart ∨ state = .unquoted) :
    ∃ next, (next = .fieldStart ∨ next = .unquoted) ∧ Leads separator state bytes next := by
  induction bytes generalizing state with
  | nil => exact ⟨state, outside, nil separator state⟩
  | cons byte rest ih =>
      have notQuote := noQuotes byte List.mem_cons_self
      obtain ⟨middle, stillOutside, passed⟩ : ∃ middle,
          (middle = State.fieldStart ∨ middle = State.unquoted) ∧
            ∀ line, step separator line state byte = .ok middle := by
        by_cases isBreak : byte = separator ∨ byte = lineFeed
        · refine ⟨.fieldStart, .inl rfl, ?_⟩
          rcases outside with rfl | rfl <;> simp [step, notQuote, isBreak]
        · refine ⟨.unquoted, .inr rfl, ?_⟩
          rcases outside with rfl | rfl <;> simp [step, notQuote, isBreak]
      obtain ⟨next, atLast, later⟩ :=
        ih (fun other member => noQuotes other (List.mem_cons_of_mem byte member)) stillOutside
      exact ⟨next, atLast, cons passed later⟩

end Leads

end QuoteCheck

end Tabula.Csv
