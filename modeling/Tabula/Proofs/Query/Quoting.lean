import Mathlib.Data.List.Infix
import Tabula.Query.Lexeme

/-!
# Inside and outside quotes

A text is read from left to right. A quote outside quotes opens a segment, and the
segment goes on to the next quote of its kind that is not escaped by a backslash. The
rule says of every stretch of text whether its end is outside quotes, and with that
which of its characters are.
-/

namespace Tabula.Query

namespace Quote

/-- The quote that a character is. -/
def ofChar? (char : Char) : Option Quote :=
  if char = text.char then some .text
  else if char = identifier.char then some .identifier
  else none

@[simp]
theorem ofChar?_char (quote : Quote) : ofChar? quote.char = some quote := by
  cases quote <;> rfl

theorem ofChar?_eq_some_iff {char : Char} {quote : Quote} :
    ofChar? char = some quote ↔ char = quote.char := by
  constructor
  · intro found
    unfold ofChar? at found
    split at found
    · cases found
      assumption
    · split at found
      · cases found
        assumption
      · cases found
  · rintro rfl
    exact ofChar?_char quote

theorem ofChar?_eq_none_iff {char : Char} :
    ofChar? char = none ↔ ∀ quote : Quote, char ≠ quote.char := by
  simp [Option.eq_none_iff_forall_ne_some, ofChar?_eq_some_iff]

theorem char_injective {first second : Quote} (same : first.char = second.char) :
    first = second := by
  have found := ofChar?_char first
  rw [same, ofChar?_char] at found
  exact (Option.some.inj found).symm

theorem char_ne_backslash (quote : Quote) : quote.char ≠ '\\' := by
  cases quote <;> decide

end Quote

/-- How the end of a stretch of text stands to quotes. -/
inductive Quoting where
  | outside
  /-- In a segment; `escaped` holds after a backslash. -/
  | inside (quote : Quote) (escaped : Bool)
  deriving DecidableEq, Repr

namespace Quoting

/-- After one more character. -/
def next : Quoting → Char → Quoting
  | .outside, char =>
      match Quote.ofChar? char with
      | some quote => .inside quote false
      | none => .outside
  | .inside quote true, _ => .inside quote false
  | .inside quote false, char =>
      if char = '\\' then .inside quote true
      else if char = quote.char then .outside
      else .inside quote false

/-- After more characters. -/
def after (quoting : Quoting) (chars : List Char) : Quoting :=
  chars.foldl next quoting

/-- The characters outside quotes. An opening quote is one of them, a closing quote is
not. -/
def unquoted (quoting : Quoting) : List Char → List Char
  | [] => []
  | char :: rest =>
      if quoting = .outside then char :: (quoting.next char).unquoted rest
      else (quoting.next char).unquoted rest

/-- Whether a stretch of text does not get outside quotes anywhere. -/
def StaysInside (quoting : Quoting) (chars : List Char) : Prop :=
  ∀ beginning, beginning <+: chars → quoting.after beginning ≠ .outside

@[simp]
theorem after_nil (quoting : Quoting) : quoting.after [] = quoting :=
  rfl

@[simp]
theorem after_cons (quoting : Quoting) (char : Char) (chars : List Char) :
    quoting.after (char :: chars) = (quoting.next char).after chars :=
  rfl

@[simp]
theorem after_append (quoting : Quoting) (first second : List Char) :
    quoting.after (first ++ second) = (quoting.after first).after second :=
  List.foldl_append

@[simp]
theorem next_quote (quote : Quote) : Quoting.outside.next quote.char = .inside quote false := by
  simp [next]

theorem next_plain {char : Char} (noQuote : Quote.ofChar? char = none) :
    Quoting.outside.next char = .outside := by
  simp [next, noQuote]

@[simp]
theorem next_close (quote : Quote) : (Quoting.inside quote false).next quote.char = .outside := by
  simp [next, quote.char_ne_backslash]

theorem next_backslash (quote : Quote) :
    (Quoting.inside quote false).next '\\' = .inside quote true := by
  simp [next]

theorem next_inside {quote : Quote} {char : Char} (noBackslash : char ≠ '\\')
    (notClosing : char ≠ quote.char) :
    (Quoting.inside quote false).next char = .inside quote false := by
  simp [next, noBackslash, notClosing]

theorem unquoted_append (quoting : Quoting) (first second : List Char) :
    quoting.unquoted (first ++ second) =
      quoting.unquoted first ++ (quoting.after first).unquoted second := by
  induction first generalizing quoting with
  | nil => rfl
  | cons char rest ih =>
      simp only [List.cons_append, unquoted, after_cons, ih]
      split <;> rfl

theorem staysInside_nil {quoting : Quoting} : quoting.StaysInside [] ↔ quoting ≠ .outside := by
  simp [StaysInside]

theorem staysInside_concat {quoting : Quoting} {chars : List Char} {char : Char} :
    quoting.StaysInside (chars ++ [char]) ↔
      quoting.StaysInside chars ∧ quoting.after (chars ++ [char]) ≠ .outside := by
  constructor
  · intro stays
    constructor
    · intro beginning isBeginning
      exact stays beginning (isBeginning.trans (List.prefix_append chars [char]))
    · exact stays _ List.prefix_rfl
  · rintro ⟨stays, inside⟩ beginning isBeginning
    rcases List.prefix_concat_iff.1 isBeginning with rfl | earlier
    · exact inside
    · exact stays beginning earlier

end Quoting

end Tabula.Query
