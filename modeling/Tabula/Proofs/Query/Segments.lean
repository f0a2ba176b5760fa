import Tabula.Proofs.Query.EarlyOperators
import Tabula.Proofs.Query.Ending

/-!
# Quoted segments

A quote outside quotes opens a segment, and the next quote of its kind that no backslash
escapes closes it. Reading takes a segment as a whole: whatever stands on both sides of it,
its characters become one token, in which only the backslashes that escape are left out.
Whether a segment is closed at all is known at its end, and if it is not, nothing of the
rest is read.
-/

namespace Tabula.Query

open Text.Utf8 (byteCount)

/-- The characters that are written between quotes, without the backslashes that escape the
character behind them; `escaped` holds behind such a backslash. -/
def unescape (escaped : Bool) : List Char → List Char
  | [] => []
  | char :: rest =>
      if char = '\\' ∧ escaped = false then unescape true rest
      else char :: unescape false rest

/-- Characters other than backslashes are kept as they are. -/
theorem unescape_eq_self {chars : List Char} (noBackslash : '\\' ∉ chars) :
    unescape false chars = chars := by
  induction chars with
  | nil => rfl
  | cons char rest ih =>
      rw [List.mem_cons, not_or] at noBackslash
      rw [unescape, if_neg fun both => noBackslash.1 both.1.symm, ih noBackslash.2]

/-! ## Where a segment ends -/

namespace Quoting

theorem staysInside_cons {quoting : Quoting} {char : Char} {rest : List Char} :
    quoting.StaysInside (char :: rest) ↔
      quoting ≠ .outside ∧ (quoting.next char).StaysInside rest := by
  constructor
  · intro stays
    constructor
    · exact stays [] List.nil_prefix
    · intro beginning isBeginning
      exact stays (char :: beginning) ((List.prefix_cons_inj char).2 isBeginning)
  · rintro ⟨inside, stays⟩ beginning isBeginning
    rcases List.prefix_cons_iff.1 isBeginning with rfl | ⟨others, rfl, othersBeginning⟩
    · exact inside
    · exact stays others othersBeginning

theorem not_staysInside_outside (chars : List Char) : ¬Quoting.outside.StaysInside chars :=
  fun stays => stays [] List.nil_prefix rfl

/-- A character in a segment closes it, or the segment goes on. -/
theorem next_inside_cases (quote : Quote) (escaped : Bool) (char : Char) :
    (escaped = false ∧ char = quote.char) ∨
      ∃ later, (Quoting.inside quote escaped).next char = .inside quote later := by
  cases escaped with
  | true => exact .inr ⟨false, rfl⟩
  | false =>
      by_cases backslash : char = '\\'
      · subst backslash
        exact .inr ⟨true, next_backslash quote⟩
      · by_cases closing : char = quote.char
        · exact .inl ⟨rfl, closing⟩
        · exact .inr ⟨false, next_inside backslash closing⟩

/-- A segment that does not go on for ever is closed by its quote. -/
theorem exists_close {quote : Quote} {escaped : Bool} {chars : List Char}
    (leaves : ¬(Quoting.inside quote escaped).StaysInside chars) :
    ∃ inner rest, chars = inner ++ quote.char :: rest ∧
      (Quoting.inside quote escaped).StaysInside inner ∧
      (Quoting.inside quote escaped).after inner = .inside quote false := by
  induction chars generalizing escaped with
  | nil => exact (leaves (staysInside_nil.2 (by simp))).elim
  | cons char chars ih =>
      rcases next_inside_cases quote escaped char with ⟨rfl, rfl⟩ | ⟨later, goesOn⟩
      · exact ⟨[], chars, rfl, staysInside_nil.2 (by simp), rfl⟩
      · rw [staysInside_cons, goesOn] at leaves
        rcases ih fun stays => leaves ⟨by simp, stays⟩ with ⟨inner, rest, rfl, stays, closes⟩
        refine ⟨char :: inner, rest, rfl, ?_, ?_⟩
        · rw [staysInside_cons, goesOn]
          exact ⟨by simp, stays⟩
        · rw [after_cons, goesOn, closes]

/-- No character of a segment is outside quotes. -/
theorem unquoted_eq_nil {quoting : Quoting} {chars : List Char}
    (stays : quoting.StaysInside chars) : quoting.unquoted chars = [] := by
  induction chars generalizing quoting with
  | nil => rfl
  | cons char rest ih =>
      rw [staysInside_cons] at stays
      rw [unquoted, if_neg stays.1, ih stays.2]

/-- Of a segment with its quotes, only the opening quote is outside. -/
theorem unquoted_segment {quote : Quote} {inner : List Char}
    (stays : (Quoting.inside quote false).StaysInside inner)
    (closes : (Quoting.inside quote false).after inner = .inside quote false) :
    Quoting.outside.unquoted (quote.char :: (inner ++ [quote.char])) = [quote.char] := by
  rw [unquoted, if_pos rfl, next_quote, unquoted_append, unquoted_eq_nil stays, closes]
  rfl

end Quoting

namespace Lexemes

/-- Characters in a segment are collected as long as it is not closed. -/
theorem exists_scanFrom_inside {quote : Quote} {escaped : Bool} {inner : List Char}
    (stays : (Quoting.inside quote escaped).StaysInside inner) (position start : Nat)
    (chars rest : List Char) :
    ∃ later, (Quoting.inside quote escaped).after inner = .inside quote later ∧
      scanFrom position (.quoted quote start chars escaped) (inner ++ rest) =
        scanFrom (position + byteCount inner)
          (.quoted quote start ((unescape escaped inner).reverse ++ chars) later) rest := by
  induction inner generalizing escaped position chars with
  | nil => exact ⟨escaped, rfl, rfl⟩
  | cons char inner ih =>
      rw [Quoting.staysInside_cons] at stays
      rcases stays with ⟨-, stays⟩
      cases escaped with
      | true =>
          rcases ih stays (position + char.utf8Size) (char :: chars) with ⟨later, state, scanned⟩
          refine ⟨later, state, ?_⟩
          rw [List.cons_append, scanFrom, scanned]
          simp [unescape, Nat.add_assoc]
      | false =>
          by_cases backslash : char = '\\'
          · subst backslash
            rw [Quoting.next_backslash] at stays
            rcases ih stays (position + '\\'.utf8Size) chars with ⟨later, state, scanned⟩
            refine ⟨later, by rw [Quoting.after_cons, Quoting.next_backslash, state], ?_⟩
            rw [List.cons_append, scanFrom, if_pos rfl, scanned]
            simp [unescape, Nat.add_assoc]
          · by_cases closing : char = quote.char
            · subst closing
              rw [Quoting.next_close] at stays
              exact absurd stays (Quoting.not_staysInside_outside inner)
            · have next := Quoting.next_inside backslash closing
              rw [next] at stays
              rcases ih stays (position + char.utf8Size) (char :: chars) with
                ⟨later, state, scanned⟩
              refine ⟨later, by rw [Quoting.after_cons, next, state], ?_⟩
              rw [List.cons_append, scanFrom, if_neg backslash, if_neg closing, scanned]
              simp [unescape, backslash, Nat.add_assoc]

/-- A closed segment is one token at its opening quote, or none if it is an empty
identifier. -/
theorem scanFrom_segment {quote : Quote} {inner : List Char}
    (stays : (Quoting.inside quote false).StaysInside inner)
    (closes : (Quoting.inside quote false).after inner = .inside quote false)
    (position : Nat) (word rest : List Char) :
    scanFrom position (.plain word) (quote.char :: (inner ++ quote.char :: rest)) =
      (scanFrom (position + byteCount (quote.char :: (inner ++ [quote.char])))
          (.plain []) rest).after
        (wordToken word position ++
          ((quote.token? (unescape false inner)).map (⟨·, position⟩)).toList) := by
  rcases exists_scanFrom_inside stays (position + quote.char.utf8Size) position []
    (quote.char :: rest) with ⟨later, state, scanned⟩
  obtain rfl : later = false := by
    rw [closes] at state
    cases state
    rfl
  rw [scanFrom_open, scanned, scanFrom, if_neg quote.char_ne_backslash, if_pos rfl, after_after]
  simp [Nat.add_assoc]

/-- Behind a quote that opens a segment without an end nothing is read. -/
theorem scanFrom_unclosed {quote : Quote} {rest : List Char}
    (stays : (Quoting.inside quote false).StaysInside rest) (position : Nat)
    (word : List Char) :
    scanFrom position (.plain word) (quote.char :: rest) =
      ⟨wordToken word position, .unclosed quote position⟩ := by
  rcases exists_scanFrom_inside stays (position + quote.char.utf8Size) position [] [] with
    ⟨later, -, scanned⟩
  rw [List.append_nil] at scanned
  rw [scanFrom_open, scanned]
  simp [scanFrom, after]

/-! ## What stands before a segment -/

/-- How a place that is reached in a mode stands to quotes. -/
def Mode.quoting : Mode → Quoting
  | .plain _ => .outside
  | .quoted quote _ _ escaped => .inside quote escaped

theorem Mode.eq_plain {mode : Mode} (outside : mode.quoting = .outside) :
    ∃ word, mode = .plain word := by
  cases mode with
  | plain word => exact ⟨word, rfl⟩
  | quoted quote start chars escaped => cases outside

/-- The step: reading goes on behind a character, if it does not end the query, whatever
follows. -/
theorem exists_scanFrom_cons {mode : Mode} {char : Char}
    (goesOn : mode.quoting = .outside → char ≠ ';') (position : Nat) :
    ∃ tokens later, later.quoting = mode.quoting.next char ∧
      ∀ rest, scanFrom position mode (char :: rest) =
        (scanFrom (position + char.utf8Size) later rest).after tokens := by
  cases mode with
  | quoted quote start chars escaped =>
      cases escaped with
      | true => exact ⟨[], .quoted quote start (char :: chars) false, rfl, fun _ => rfl⟩
      | false =>
          by_cases backslash : char = '\\'
          · subst backslash
            refine ⟨[], .quoted quote start chars true, (Quoting.next_backslash quote).symm, ?_⟩
            simp [scanFrom]
          · by_cases closing : char = quote.char
            · refine ⟨((quote.token? chars.reverse).map (⟨·, start⟩)).toList, .plain [], ?_, ?_⟩
              · simp [Mode.quoting, closing]
              · intro rest
                rw [scanFrom, if_neg backslash, if_pos closing]
            · refine ⟨[], .quoted quote start (char :: chars) false, ?_, ?_⟩
              · exact (Quoting.next_inside backslash closing).symm
              · simp [scanFrom, backslash, closing]
  | plain word =>
      have notEnd := goesOn rfl
      cases found : Quote.ofChar? char with
      | some quote =>
          obtain rfl := Quote.ofChar?_eq_some_iff.1 found
          refine ⟨wordToken word position, .quoted quote position [] false, ?_, ?_⟩
          · exact (Quoting.next_quote quote).symm
          · exact scanFrom_open quote position word
      | none =>
          have quotes := Quote.ofChar?_eq_none_iff.1 found
          have outside : Quoting.outside = (Mode.plain word).quoting.next char :=
            (Quoting.next_plain found).symm
          cases isSign : signToken? char with
          | some sign =>
              refine ⟨wordToken word position ++ [⟨sign, position⟩], .plain [], outside, ?_⟩
              simp [scanFrom, notEnd, quotes, isSign]
          | none =>
              by_cases inWord : isWordChar char = true
              · refine ⟨[], .plain ((Text.lowerChar char).reverse ++ word), outside, ?_⟩
                simp [scanFrom, notEnd, quotes, isSign, inWord]
              · refine ⟨wordToken word position, .plain [], outside, ?_⟩
                simp [scanFrom, notEnd, quotes, isSign, inWord]

/-- The run: reading goes on behind a text in which nothing ends the query, whatever
follows. -/
theorem exists_scanFrom_append {mode : Mode} {before : List Char}
    (goesOn : ';' ∉ mode.quoting.unquoted before) (position : Nat) :
    ∃ tokens later, later.quoting = mode.quoting.after before ∧
      ∀ rest, scanFrom position mode (before ++ rest) =
        (scanFrom (position + byteCount before) later rest).after tokens := by
  induction before generalizing mode position with
  | nil => exact ⟨[], mode, rfl, fun _ => rfl⟩
  | cons char before ih =>
      have here : mode.quoting = .outside → char ≠ ';' := by
        rintro outside rfl
        exact goesOn (by simp [Quoting.unquoted, outside])
      rcases exists_scanFrom_cons here position with ⟨tokens, middle, state, scanned⟩
      have behind : ';' ∉ middle.quoting.unquoted before := by
        intro member
        rw [state] at member
        apply goesOn
        rw [Quoting.unquoted]
        split
        · exact List.mem_cons_of_mem char member
        · exact member
      rcases ih behind (position + char.utf8Size) with ⟨others, later, laterState, laterScanned⟩
      refine ⟨tokens ++ others, later, ?_, ?_⟩
      · rw [laterState, state, Quoting.after_cons]
      · intro rest
        rw [List.cons_append, scanned, laterScanned, after_after]
        simp [Nat.add_assoc]

end Lexemes

/-! ## Segments of a text -/

/-- A quoted segment of a text: a quote outside quotes, the quote that closes it and what
stands between them. A query has no segments behind the semicolon that ends it. -/
structure Segment (text : List Char) where
  before : List Char
  quote : Quote
  inner : List Char
  rest : List Char
  split : text = before ++ quote.char :: (inner ++ quote.char :: rest)
  opens : Quoting.outside.after before = .outside
  unended : ';' ∉ Quoting.outside.unquoted before
  stays : (Quoting.inside quote false).StaysInside inner
  closes : (Quoting.inside quote false).after inner = .inside quote false

namespace Segment

variable {text : List Char}

/-- The segment as it is written, with its quotes. -/
def chars (segment : Segment text) : List Char :=
  segment.quote.char :: (segment.inner ++ [segment.quote.char])

/-- What the segment says. -/
def content (segment : Segment text) : List Char :=
  unescape false segment.inner

theorem content_eq_inner (segment : Segment text) (noBackslash : '\\' ∉ segment.inner) :
    segment.content = segment.inner :=
  unescape_eq_self noBackslash

/-- The byte of the opening quote. -/
def position (segment : Segment text) : Nat :=
  byteCount segment.before

/-- A segment is read as the token of what it says. -/
theorem mem_tokens_scan (segment : Segment text) {token : Token}
    (isToken : segment.quote.token? segment.content = some token) :
    ⟨token, segment.position⟩ ∈ (Lexemes.scan text).tokens := by
  have goesOn : ';' ∉ (Lexemes.Mode.plain []).quoting.unquoted segment.before := segment.unended
  rcases Lexemes.exists_scanFrom_append goesOn 0 with ⟨tokens, later, state, scanned⟩
  obtain ⟨word, rfl⟩ := Lexemes.Mode.eq_plain (state.trans segment.opens)
  have whole : Lexemes.scan text =
      Lexemes.scanFrom 0 (.plain []) (segment.before ++
        segment.quote.char :: (segment.inner ++ segment.quote.char :: segment.rest)) := by
    rw [← segment.split, Lexemes.scan]
  rw [content] at isToken
  rw [whole, scanned, Lexemes.scanFrom_segment segment.stays segment.closes, isToken]
  simp [Lexemes.after, position]

/-- Where a query is read, the tokens of its segments are among its tokens. -/
theorem mem_tokens {query : String} {tokens : List Token} (segment : Segment query.toList)
    {token : Token} (isToken : segment.quote.token? segment.content = some token)
    (tokenized : tokenize query = .ok tokens) : token ∈ tokens := by
  have member := segment.mem_tokens_scan isToken
  have noBrackets := segment.quote.token?_no_brackets segment.content segment.position
    ⟨token, segment.position⟩ (by simp [isToken])
  rcases tokenize_eq_ok_iff.1 tokenized with ⟨-, order, taken, rfl⟩
  apply (Postfix.mem_finish_pushTokens_iff noBrackets.1 noBrackets.2 taken).2
  exact .inr (List.mem_map.2 ⟨_, member, rfl⟩)

end Segment

end Tabula.Query
