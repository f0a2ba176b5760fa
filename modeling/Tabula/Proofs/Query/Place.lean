import Tabula.Proofs.Query.Quoting
import Tabula.Query.Postfix
import Tabula.Text.Utf8

/-!
# Places that decide

Three things at a place of a query decide how reading it ends: a semicolon outside
quotes ends it well, and a closing bracket outside quotes without an opening one before
it and a quote that is never closed are errors at that place. The first place that
decides counts, and if none does the semicolon is missing. The rule speaks of the text
alone, and it gives every text one outcome.
-/

namespace Tabula.Query

open Text.Utf8 (byteCount)

/-- The fault of a segment that is never closed. -/
def Quote.unclosedFault : Quote → LexFault
  | .text => .unclosedText
  | .identifier => .unclosedIdentifier

/-- A place in a text: the character there and the stretches on both sides of it. -/
structure Place (text : List Char) where
  before : List Char
  char : Char
  rest : List Char
  split : text = before ++ char :: rest

namespace Place

variable {text : List Char}

/-- The byte of a place. -/
def position (place : Place text) : Nat :=
  byteCount place.before

/-- Whether a place is outside quotes. -/
def IsUnquoted (place : Place text) : Prop :=
  Quoting.outside.after place.before = .outside

/-- How often a character stands outside quotes before a place. -/
def countBefore (place : Place text) (char : Char) : Nat :=
  (Quoting.outside.unquoted place.before).count char

/-- How reading ends, as far as a place alone decides it. -/
inductive Decides (place : Place text) : Except LexError Unit → Prop
  | semicolon (unquoted : place.IsUnquoted) (here : place.char = ';') : place.Decides (.ok ())
  | bracket (unquoted : place.IsUnquoted) (here : place.char = ')')
      (surplus : place.countBefore '(' < place.countBefore ')' + 1) :
      place.Decides (.error ⟨.unmatchedBracket, place.position⟩)
  | quote (quote : Quote) (unquoted : place.IsUnquoted) (here : place.char = quote.char)
      (unclosed : (Quoting.inside quote false).StaysInside place.rest) :
      place.Decides (.error ⟨quote.unclosedFault, place.position⟩)

theorem Decides.isUnquoted {place : Place text} {verdict : Except LexError Unit}
    (decides : place.Decides verdict) : place.IsUnquoted := by
  cases decides <;> assumption

/-- A place decides in one way only. -/
theorem Decides.unique {place : Place text} {first second : Except LexError Unit}
    (one : place.Decides first) (other : place.Decides second) : first = second := by
  have quotesDiffer : ∀ quote : Quote, quote.char ≠ ';' ∧ quote.char ≠ ')' := by
    intro quote
    cases quote <;> decide
  cases one with
  | semicolon _ here =>
      cases other with
      | semicolon _ _ => rfl
      | bracket _ alsoHere _ => exact absurd (here.symm.trans alsoHere) (by decide)
      | quote quote _ alsoHere _ => exact absurd (alsoHere.symm.trans here) (quotesDiffer quote).1
  | bracket _ here _ =>
      cases other with
      | semicolon _ alsoHere => exact absurd (here.symm.trans alsoHere) (by decide)
      | bracket _ _ _ => rfl
      | quote quote _ alsoHere _ => exact absurd (alsoHere.symm.trans here) (quotesDiffer quote).2
  | quote quote _ here _ =>
      cases other with
      | semicolon _ alsoHere => exact absurd (here.symm.trans alsoHere) (quotesDiffer quote).1
      | bracket _ alsoHere _ => exact absurd (here.symm.trans alsoHere) (quotesDiffer quote).2
      | quote second _ alsoHere _ => rw [Quote.char_injective (here.symm.trans alsoHere)]

/-- A character that is no quote decides as a semicolon or as a closing bracket, or not
at all. -/
theorem not_decides {place : Place text} (notEnd : place.char ≠ ';')
    (noQuote : Quote.ofChar? place.char = none)
    (matched : place.char = ')' → place.countBefore ')' < place.countBefore '(')
    (verdict : Except LexError Unit) : ¬place.Decides verdict := by
  intro decides
  cases decides with
  | semicolon _ here => exact notEnd here
  | bracket _ here surplus =>
      have enough := matched here
      omega
  | quote quote _ here _ => exact Quote.ofChar?_eq_none_iff.1 noQuote quote here

/-- There is one place after a number of characters. -/
theorem eq_of_length_eq {first second : Place text}
    (sameLength : first.before.length = second.before.length) : first = second := by
  rcases first with ⟨before, char, rest, split⟩
  rcases second with ⟨otherBefore, otherChar, otherRest, otherSplit⟩
  obtain ⟨rfl, tails⟩ := List.append_inj (split.symm.trans otherSplit) sameLength
  cases tails
  rfl

end Place

/-- Whether no place among the first ones decides. -/
def Undecided (text : List Char) (length : Nat) : Prop :=
  ∀ place : Place text, place.before.length < length → ∀ verdict, ¬place.Decides verdict

/-- How reading a query ends: as the first place decides that decides at all. -/
inductive Outcome (query : String) : Except LexError Unit → Prop
  | decided (place : Place query.toList) {verdict : Except LexError Unit}
      (decides : place.Decides verdict)
      (first : Undecided query.toList place.before.length) : Outcome query verdict
  | undecided (noPlace : ∀ (place : Place query.toList) (verdict : Except LexError Unit),
      ¬place.Decides verdict) : Outcome query (.error ⟨.unterminated, query.utf8ByteSize⟩)

/-- Reading ends in one way only. -/
theorem Outcome.unique {query : String} {first second : Except LexError Unit}
    (one : Outcome query first) (other : Outcome query second) : first = second := by
  cases one with
  | decided place decides earliest =>
      cases other with
      | decided second alsoDecides alsoEarliest =>
          have notBefore : ¬place.before.length < second.before.length := by
            intro before
            exact alsoEarliest place before _ decides
          have notBehind : ¬second.before.length < place.before.length := by
            intro behind
            exact earliest second behind _ alsoDecides
          have same : place = second := Place.eq_of_length_eq (by omega)
          subst same
          exact decides.unique alsoDecides
      | undecided noPlace => exact absurd decides (noPlace place _)
  | undecided noPlace =>
      cases other with
      | decided second alsoDecides _ => exact absurd alsoDecides (noPlace second _)
      | undecided _ => rfl

namespace Undecided

variable {text : List Char}

theorem zero : Undecided text 0 := by
  intro place before
  exact absurd before (Nat.not_lt_zero _)

/-- One more place that does not decide. -/
theorem succ (place : Place text) (undecided : Undecided text place.before.length)
    (notHere : ∀ verdict, ¬place.Decides verdict) :
    Undecided text (place.before.length + 1) := by
  intro other before verdict decides
  rcases Nat.lt_succ_iff_lt_or_eq.1 before with earlier | same
  · exact undecided other earlier verdict decides
  · rw [Place.eq_of_length_eq same] at decides
    exact notHere verdict decides

/-- A quote whose segment is closed does not decide, nor does any place in the segment. -/
theorem closed {opening : Place text} {quote : Quote} {segment rest : List Char}
    (here : opening.char = quote.char) (unquoted : opening.IsUnquoted)
    (restEq : opening.rest = segment ++ quote.char :: rest)
    (stays : (Quoting.inside quote false).StaysInside segment)
    (state : (Quoting.inside quote false).after segment = .inside quote false)
    (undecided : Undecided text opening.before.length) :
    Undecided text (opening.before ++ quote.char :: segment ++ [quote.char]).length := by
  have textEq : text = opening.before ++ [quote.char] ++ segment ++ [quote.char] ++ rest := by
    have split := opening.split
    rw [here, restEq] at split
    simpa using split
  intro place within verdict decides
  rcases Nat.lt_trichotomy place.before.length opening.before.length with earlier | same | later
  · exact undecided place earlier verdict decides
  · obtain rfl := Place.eq_of_length_eq same
    cases decides with
    | semicolon _ isSemicolon =>
        rw [here] at isSemicolon
        cases quote <;> cases isSemicolon
    | bracket _ isBracket _ =>
        rw [here] at isBracket
        cases quote <;> cases isBracket
    | quote other _ isQuote unclosed =>
        obtain rfl := Quote.char_injective (here.symm.trans isQuote)
        apply unclosed (segment ++ [quote.char])
        · rw [restEq]
          exact ⟨rest, by simp⟩
        · simp [state]
  · -- what stands before the place ends in a beginning of the segment
    have placePrefix : place.before <+: text := ⟨place.char :: place.rest, place.split.symm⟩
    have openingPrefix : opening.before ++ [quote.char] <+: text :=
      ⟨segment ++ [quote.char] ++ rest, by simp [textEq]⟩
    have segmentPrefix : opening.before ++ [quote.char] ++ segment <+: text :=
      ⟨[quote.char] ++ rest, by simp [textEq]⟩
    obtain ⟨beginning, beforeEq⟩ : opening.before ++ [quote.char] <+: place.before :=
      List.prefix_of_prefix_length_le openingPrefix placePrefix (by simp; omega)
    have isBeginning : beginning <+: segment := by
      have inSegment : place.before <+: opening.before ++ [quote.char] ++ segment :=
        List.prefix_of_prefix_length_le placePrefix segmentPrefix (by simp at within ⊢; omega)
      rw [← beforeEq] at inSegment
      exact (List.prefix_append_right_inj _).1 inSegment
    apply stays beginning isBeginning
    have outside := decides.isUnquoted
    rw [Place.IsUnquoted, ← beforeEq] at outside
    rw [Place.IsUnquoted] at unquoted
    simpa [unquoted] using outside

end Undecided

end Tabula.Query
