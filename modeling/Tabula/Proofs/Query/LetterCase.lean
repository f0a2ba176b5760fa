import Mathlib.Data.List.Forall2
import Tabula.Proofs.Query.Segments
import Tabula.Proofs.Text.Characters

/-!
# Letter case

Outside quotes the case of a letter makes no difference. Two texts that have the same
letters but for their case, and the same quoted segments in the same places, are read in
step: a letter goes on with the same word in both, every other character outside quotes is
the same in both, and a segment is either closed in both or in neither. What is read is
the same, errors and their positions included.
-/

namespace Tabula.Query

open Text.Utf8 (utf8Size_of_ascii)

/-- Whether characters are the same but for the case of an ASCII letter. -/
def SameLetter (char other : Char) : Prop :=
  char = other ∨ char.isAlpha = true ∧ other.isAlpha = true ∧ char.toLower = other.toLower

instance (char other : Char) : Decidable (SameLetter char other) :=
  inferInstanceAs (Decidable (_ ∨ _))

/-- Whether two texts differ only in the case of letters outside quoted segments: they have
the same letters, and wherever the first has a segment the second has the same. -/
structure AlikeButCase (first second : List Char) : Prop where
  letters : List.Forall₂ SameLetter first second
  segments : ∀ segment : Segment first, segment.chars <+: second.drop segment.before.length

/-! ## Letters -/

section Letter

variable {char : Char} (isLetter : char.isAlpha = true)
include isLetter

theorem isWordChar_of_isAlpha : isWordChar char = true := by
  rw [isWordChar, Text.isAlphabetic_of_ascii (Text.ascii_of_isAlpha isLetter), isLetter]
  rfl

/-- A letter goes on with the word and is put in lower case. -/
theorem Lexemes.scanFrom_letter (position : Nat) (word rest : List Char) :
    scanFrom position (.plain word) (char :: rest) =
      scanFrom (position + 1) (.plain (char.toLower :: word)) rest := by
  have ascii := Text.ascii_of_isAlpha isLetter
  have inWord := isWordChar_of_isAlpha isLetter
  rw [scanFrom_plain (not_mem_reservedChars inWord), if_pos inWord, utf8Size_of_ascii ascii,
    Text.lowerChar_of_ascii ascii]
  rfl

/-- A letter opens no segment and closes none, whichever it is. -/
theorem Quoting.next_letter (quoting : Quoting) : quoting.next char = quoting.next 'a' := by
  have notReserved := not_mem_reservedChars (isWordChar_of_isAlpha isLetter)
  have notQuote : ∀ quote : Quote, char ≠ quote.char := by
    rintro quote rfl
    exact notReserved (by cases quote <;> decide)
  have notBackslash : char ≠ '\\' := by
    rintro rfl
    cases isLetter
  cases quoting with
  | outside => exact next_plain (Quote.ofChar?_eq_none_iff.2 notQuote)
  | inside quote escaped =>
      have other : 'a' ≠ quote.char := by cases quote <;> decide
      cases escaped <;> simp [next, notBackslash, notQuote quote, other]

end Letter

/-! ## Segments of both texts -/

namespace SameLetter

theorem eq_of_not_isAlpha {char other : Char} (same : SameLetter char other)
    (noLetter : char.isAlpha = false) : other = char := by
  rcases same with rfl | ⟨isLetter, -, -⟩
  · rfl
  · rw [noLetter] at isLetter
    cases isLetter

theorem next {char other : Char} (same : SameLetter char other) (quoting : Quoting) :
    quoting.next char = quoting.next other := by
  rcases same with rfl | ⟨isLetter, otherLetter, -⟩
  · rfl
  · rw [Quoting.next_letter isLetter, Quoting.next_letter otherLetter]

theorem staysInside {first second : List Char} (same : List.Forall₂ SameLetter first second)
    {quoting : Quoting} (stays : quoting.StaysInside first) : quoting.StaysInside second := by
  induction same generalizing quoting with
  | nil => exact stays
  | cons here _ ih =>
      rw [Quoting.staysInside_cons] at stays ⊢
      exact ⟨stays.1, ih (here.next quoting ▸ stays.2)⟩

/-- Outside quotes a letter does the same in either case, whatever follows. -/
theorem exists_scanFrom {char other : Char} (same : SameLetter char other)
    (notEnd : char ≠ ';') (noQuote : Quote.ofChar? char = none) (position : Nat)
    (word : List Char) :
    ∃ tokens next later, ∀ rest,
      Lexemes.scanFrom position (.plain word) (char :: rest) =
          (Lexemes.scanFrom next (.plain later) rest).after tokens ∧
        Lexemes.scanFrom position (.plain word) (other :: rest) =
          (Lexemes.scanFrom next (.plain later) rest).after tokens := by
  rcases same with rfl | ⟨isLetter, otherLetter, lower⟩
  · have goesOn : (Lexemes.Mode.plain word).quoting = .outside → char ≠ ';' := fun _ => notEnd
    rcases Lexemes.exists_scanFrom_cons goesOn position with ⟨tokens, mode, state, scanned⟩
    obtain ⟨later, rfl⟩ := Lexemes.Mode.eq_plain (state.trans (Quoting.next_plain noQuote))
    exact ⟨tokens, _, later, fun rest => ⟨scanned rest, scanned rest⟩⟩
  · refine ⟨[], position + 1, char.toLower :: word, fun rest => ⟨?_, ?_⟩⟩
    · rw [Lexemes.scanFrom_letter isLetter, Lexemes.after_nil]
    · rw [Lexemes.scanFrom_letter otherLetter, ← lower, Lexemes.after_nil]

end SameLetter

namespace AlikeButCase

variable {first second : List Char}

/-- Texts are alike if they have the same letters, and the same characters wherever the
first is inside quotes. -/
theorem of_inside_eq (letters : List.Forall₂ SameLetter first second)
    (inside : ∀ place < first.length, Quoting.outside.after (first.take place) ≠ .outside →
      second[place]? = first[place]?) : AlikeButCase first second where
  letters := letters
  segments := by
    rintro ⟨before, quote, inner, rest, rfl, opens, _, stays, _⟩
    have behind := List.forall₂_drop before.length letters
    rw [List.drop_left] at behind
    rcases List.forall₂_cons_left_iff.1 behind with ⟨other, others, same, -, split⟩
    change quote.char :: (inner ++ [quote.char]) <+: second.drop before.length
    rw [split, same.eq_of_not_isAlpha (by cases quote <;> rfl), List.prefix_cons_inj,
      List.prefix_iff_getElem?]
    intro depth within
    have shallow : depth ≤ inner.length := by
      rw [List.length_append] at within
      exact Nat.le_of_lt_succ within
    -- behind its opening quote, every character of a segment is inside quotes
    have isInside : Quoting.outside.after
        ((before ++ quote.char :: (inner ++ quote.char :: rest)).take
          (before.length + (depth + 1))) ≠ .outside := by
      rw [List.take_length_add_append, List.take_succ_cons, List.take_append_of_le_length shallow,
        Quoting.after_append, opens, Quoting.after_cons, Quoting.next_quote]
      exact stays _ (List.take_prefix depth inner)
    have kept := inside _ (by simp; omega) isInside
    have here : others[depth]? = second[before.length + (depth + 1)]? := by
      rw [← List.getElem?_drop, split, List.getElem?_cons_succ]
    rw [here, kept, ← List.getElem?_drop, List.drop_left, List.getElem?_cons_succ,
      List.append_cons, List.getElem?_append_left within, List.getElem?_eq_getElem within]

/-- What follows on stretches of one length is alike, if the first stretch leads outside
quotes and does not end the query. -/
theorem behind {passed otherPassed : List Char}
    (alike : AlikeButCase (passed ++ first) (otherPassed ++ second))
    (sameLength : passed.length = otherPassed.length)
    (opens : Quoting.outside.after passed = .outside)
    (unended : ';' ∉ Quoting.outside.unquoted passed) : AlikeButCase first second where
  letters := by
    have behind := List.forall₂_drop passed.length alike.letters
    rwa [List.drop_left, sameLength, List.drop_left] at behind
  segments := by
    intro segment
    have whole := alike.segments
      { before := passed ++ segment.before
        quote := segment.quote
        inner := segment.inner
        rest := segment.rest
        split := by rw [List.append_assoc, ← segment.split]
        opens := by rw [Quoting.after_append, opens, segment.opens]
        unended := by
          rw [Quoting.unquoted_append, opens, List.mem_append, not_or]
          exact ⟨unended, segment.unended⟩
        stays := segment.stays
        closes := segment.closes }
    rwa [List.length_append, sameLength, List.drop_length_add_append] at whole

/-- What follows on a character is alike, if it opens no segment and does not end the
query. -/
theorem behind_char {char other : Char} (alike : AlikeButCase (char :: first) (other :: second))
    (notEnd : char ≠ ';') (noQuote : Quote.ofChar? char = none) : AlikeButCase first second := by
  have whole : AlikeButCase ([char] ++ first) ([other] ++ second) := alike
  apply whole.behind rfl (Quoting.next_plain noQuote)
  simpa [Quoting.unquoted] using notEnd.symm

/-- A segment stands in both texts, and what follows on it is alike. -/
theorem exists_behind_segment {quote : Quote} {inner : List Char}
    (alike : AlikeButCase (quote.char :: (inner ++ quote.char :: first)) second)
    (stays : (Quoting.inside quote false).StaysInside inner)
    (closes : (Quoting.inside quote false).after inner = .inside quote false) :
    ∃ later, second = quote.char :: (inner ++ quote.char :: later) ∧
      AlikeButCase first later := by
  rcases alike.segments ⟨[], quote, inner, first, rfl, rfl, by simp [Quoting.unquoted], stays,
    closes⟩ with ⟨later, secondEq⟩
  have passed : quote.char :: (inner ++ quote.char :: first) =
      (quote.char :: (inner ++ [quote.char])) ++ first := by simp
  obtain rfl : quote.char :: (inner ++ [quote.char]) ++ later = second := secondEq
  rw [passed] at alike
  refine ⟨later, by simp, alike.behind rfl ?_ ?_⟩
  · simp [closes]
  · rw [Quoting.unquoted_segment stays closes]
    cases quote <;> decide

open Lexemes (scanFrom scanFrom_segment scanFrom_unclosed)

/-- From a quote on alike texts are read in the same way, if shorter ones are. -/
theorem scanFrom_quote_eq {quote : Quote}
    (alike : AlikeButCase (quote.char :: first) (quote.char :: second))
    (shorter : ∀ rest later, rest.length < (quote.char :: first).length →
      AlikeButCase rest later → ∀ position word,
        scanFrom position (.plain word) rest = scanFrom position (.plain word) later)
    (position : Nat) (word : List Char) :
    scanFrom position (.plain word) (quote.char :: first) =
      scanFrom position (.plain word) (quote.char :: second) := by
  by_cases stays : (Quoting.inside quote false).StaysInside first
  · have otherStays := SameLetter.staysInside (List.forall₂_cons.1 alike.letters).2 stays
    rw [scanFrom_unclosed stays, scanFrom_unclosed otherStays]
  · rcases Quoting.exists_close stays with ⟨inner, rest, rfl, innerStays, closes⟩
    rcases alike.exists_behind_segment innerStays closes with ⟨later, secondEq, behind⟩
    have less : rest.length < (quote.char :: (inner ++ quote.char :: rest)).length := by
      simp only [List.length_cons, List.length_append]
      omega
    rw [secondEq, scanFrom_segment innerStays closes, scanFrom_segment innerStays closes,
      shorter rest later less behind]

/-- Alike texts are read in the same way, from any word on. -/
theorem scanFrom_eq (alike : AlikeButCase first second) (position : Nat) (word : List Char) :
    scanFrom position (.plain word) first = scanFrom position (.plain word) second := by
  -- a segment is passed at once, so what is left may be shorter by any number of characters
  induction size : first.length using Nat.strong_induction_on
    generalizing first second position word with
  | _ size ih =>
      subst size
      cases first with
      | nil =>
          cases alike.letters
          rfl
      | cons char first =>
          cases second with
          | nil => cases alike.letters
          | cons other second =>
              have same := (List.forall₂_cons.1 alike.letters).1
              by_cases isEnd : char = ';'
              · subst isEnd
                rw [same.eq_of_not_isAlpha rfl]
                simp [scanFrom]
              · cases found : Quote.ofChar? char with
                | some quote =>
                    obtain rfl := Quote.ofChar?_eq_some_iff.1 found
                    obtain rfl := same.eq_of_not_isAlpha (by cases quote <;> rfl)
                    apply alike.scanFrom_quote_eq
                    exact fun rest later less behind position word =>
                      ih rest.length less behind position word rfl
                | none =>
                    rcases same.exists_scanFrom isEnd found position word with
                      ⟨tokens, next, later, scanned⟩
                    have behind := alike.behind_char isEnd found
                    rw [(scanned first).1, (scanned second).2,
                      ih first.length (Nat.lt_succ_self _) behind next later rfl]

end AlikeButCase

/-- Queries that differ only in the case of letters outside quoted segments are read as the
same tokens or with the same error at the same position, and so are their statements. What
a segment says is kept as it is, which is all that stands between its quotes where no
backslash does. -/
theorem tokenize_eq_and_parse_eq_of_alikeButCase {first second : String}
    (alike : AlikeButCase first.toList second.toList) :
    tokenize first = tokenize second ∧ parse first = parse second ∧
      ∀ segment : Segment first.toList,
        ('\\' ∉ segment.inner → segment.content = segment.inner) ∧
          ∀ tokens, tokenize first = .ok tokens →
            (segment.quote = .text → .text (String.ofList segment.content) ∈ tokens) ∧
              (segment.quote = .identifier → segment.content ≠ [] →
                .identifier (String.ofList segment.content) ∈ tokens) := by
  have sameScan : Lexemes.scan first.toList = Lexemes.scan second.toList := alike.scanFrom_eq 0 []
  have sameTokens : tokenize first = tokenize second := by rw [tokenize, tokenize, sameScan]
  refine ⟨sameTokens, by rw [parse, parse, sameTokens], ?_⟩
  intro segment
  refine ⟨segment.content_eq_inner, fun tokens tokenized => ⟨?_, ?_⟩⟩
  · intro isText
    apply segment.mem_tokens _ tokenized
    rw [isText, Quote.token?]
  · intro isIdentifier nonempty
    apply segment.mem_tokens _ tokenized
    rcases List.exists_cons_of_ne_nil nonempty with ⟨char, rest, contentEq⟩
    rw [isIdentifier, contentEq]
    rfl

/-- A query in capitals. A quote is escaped in the text, and what stands behind the semicolon
is not read. -/
def shouted : String := "SELECT \"Age\" FROM T WHERE A='It\\'s' OR Zoë>1E;AND \"Or"

/-- The same query in small letters. -/
def whispered : String := "select \"Age\" from t where a='It\\'s' or zoë>1e;and \"Or"

/-- Its tokens in postfix order. -/
def spokenTokens : List Token :=
  [.keyword .select, .identifier "Age", .keyword .source, .identifier "t", .keyword .condition,
    .identifier "a", .text "It's", .compare .equal, .identifier "zoë", .unknown "1e",
    .compare .greater, .or]

/-- The text in the query. -/
def shoutedText : Segment shouted.toList where
  before := "SELECT \"Age\" FROM T WHERE A=".toList
  quote := .text
  inner := ['I', 't', '\\', '\'', 's']
  rest := " OR Zoë>1E;AND \"Or".toList
  split := by decide +kernel
  opens := by decide +kernel
  unended := by decide +kernel
  stays := by simp [Quoting.staysInside_cons, Quoting.staysInside_nil, Quoting.next, Quote.char]
  closes := by decide

theorem tokenize_eq_and_parse_eq_shouted :
    AlikeButCase shouted.toList whispered.toList ∧
      tokenize shouted = tokenize whispered ∧ parse shouted = parse whispered ∧
      tokenize shouted = .ok spokenTokens ∧ shoutedText.quote = .text ∧
      .text (String.ofList shoutedText.content) ∈ spokenTokens := by
  have alike : AlikeButCase shouted.toList whispered.toList :=
    AlikeButCase.of_inside_eq (by decide +kernel) (by decide +kernel)
  have tokenized : tokenize shouted = .ok spokenTokens := by decide +kernel
  rcases tokenize_eq_and_parse_eq_of_alikeButCase alike with ⟨sameTokens, sameStatement, kept⟩
  exact ⟨alike, sameTokens, sameStatement, tokenized, rfl,
    ((kept shoutedText).2 spokenTokens tokenized).1 rfl⟩

end Tabula.Query
