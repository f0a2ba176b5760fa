import Tabula.Proofs.Query.Brackets
import Tabula.Proofs.Query.Place
import Tabula.Proofs.Query.Scanning
import Tabula.Proofs.Text.Utf8

/-!
# How reading a query ends

Reading a query ends as the first place decides that decides at all. Reading goes on
from character to character, and between two of them the brackets that wait are those
that the text before has opened and not closed, whatever operators wait among them. No
place before has decided; of the quote that opened the segment in which the reading
stands, this is only known once the segment is closed.
-/

namespace Tabula.Query

open Text.Utf8 (byteCount byteCount_toList)

namespace Postfix

/-- The answer to a query of which the rest is read as given. -/
def conclude (order : Postfix) (lexemes : Lexemes) : Except LexError (List Token) :=
  match order.pushAll lexemes.tokens with
  | .error position => .error ⟨.unmatchedBracket, position⟩
  | .ok last =>
      match lexemes.ending.error? with
      | some error => .error error
      | none => .ok last.finish

theorem pushAll_append (order : Postfix) (first second : List Placed) :
    order.pushAll (first ++ second) =
      match order.pushAll first with
      | .ok next => next.pushAll second
      | .error position => .error position := by
  induction first generalizing order with
  | nil => rfl
  | cons placed rest ih =>
      rw [List.cons_append, pushAll, pushAll]
      cases order.push placed.token with
      | none => rfl
      | some next => exact ih next

theorem conclude_after {order next : Postfix} {tokens : List Placed}
    (taken : order.pushAll tokens = .ok next) (lexemes : Lexemes) :
    order.conclude (lexemes.after tokens) = next.conclude lexemes := by
  simp only [conclude, Lexemes.after, pushAll_append, taken]

theorem conclude_after_of_error {order : Postfix} {tokens : List Placed} {position : Nat}
    (refused : order.pushAll tokens = .error position) (lexemes : Lexemes) :
    order.conclude (lexemes.after tokens) = .error ⟨.unmatchedBracket, position⟩ := by
  simp only [conclude, Lexemes.after, pushAll_append, refused]

end Postfix

/-- Quoted text is never a bracket. -/
theorem Quote.token?_no_brackets (quote : Quote) (chars : List Char) (position : Nat) :
    ∀ item ∈ ((quote.token? chars).map (Placed.mk · position)).toList,
      item.token ≠ .openBracket ∧ item.token ≠ .closeBracket := by
  intro item member
  obtain ⟨token, found, rfl⟩ := Option.map_eq_some_iff.1 (Option.mem_toList.1 member)
  cases quote with
  | text =>
      cases found
      simp
  | identifier =>
      cases chars with
      | nil => cases found
      | cons first others =>
          cases found
          simp

namespace Lexemes

/-- A quote outside quotes ends a word and opens a segment. -/
theorem scanFrom_open (quote : Quote) (position : Nat) (word rest : List Char) :
    scanFrom position (.plain word) (quote.char :: rest) =
      (scanFrom (position + quote.char.utf8Size) (.quoted quote position [] false) rest).after
        (wordToken word position) := by
  cases quote <;> simp [scanFrom, Quote.char]

/-- What stands for a word is never a bracket. -/
theorem wordToken_no_brackets (word : List Char) (position : Nat) :
    ∀ item ∈ wordToken word position,
      item.token ≠ .openBracket ∧ item.token ≠ .closeBracket := by
  intro item member
  have isWord : item.token = Token.ofWord (String.ofList word.reverse) := by
    unfold wordToken at member
    split at member
    · cases member
    · rw [List.mem_singleton.1 member]
  rw [isWord]
  have logical := @Token.ofWord_isOperator (String.ofList word.reverse)
  constructor
  · intro opening
    rw [opening] at logical
    simp [Token.isOperator] at logical
  · intro closing
    rw [closing] at logical
    simp [Token.isOperator] at logical

/-- Brackets are written as such. -/
theorem signToken?_eq_some {char : Char} {sign : Token} (isSign : signToken? char = some sign) :
    (sign = .openBracket ↔ char = '(') ∧ (sign = .closeBracket ↔ char = ')') ∧ char ≠ ';' ∧
      Quote.ofChar? char = none := by
  unfold signToken? at isSign
  split at isSign
  · rename_i opening
    cases isSign
    subst opening
    decide
  · split at isSign
    · rename_i closing
      cases isSign
      subst closing
      decide
    · rename_i notOpening notClosing
      obtain ⟨comparison, isComparison, rfl⟩ := Option.map_eq_some_iff.1 isSign
      have isSymbol : char = comparison.symbol := by
        unfold Comparison.ofChar? at isComparison
        split at isComparison
        · cases isComparison; assumption
        · split at isComparison
          · cases isComparison; assumption
          · split at isComparison
            · cases isComparison; assumption
            · cases isComparison
      subst isSymbol
      cases comparison <;> decide

end Lexemes

/-- The brackets that wait are those that the text has opened and not closed. -/
def Balanced (before : List Char) (order : Postfix) : Prop :=
  order.openBrackets + (Quoting.outside.unquoted before).count ')' =
    (Quoting.outside.unquoted before).count '('

/-- Where reading a text stands between two characters: what stands before, the tokens
that have been taken and what the scanner is in. -/
inductive Reached (text before : List Char) (order : Postfix) : Lexemes.Mode → Prop
  | outside (word : List Char) (unquoted : Quoting.outside.after before = .outside)
      (balanced : Balanced before order) (undecided : Undecided text before.length) :
      Reached text before order (.plain word)
  | inside (opening : Place text) {quote : Quote} {segment : List Char} (chars : List Char)
      {escaped : Bool} (here : opening.char = quote.char) (unquoted : opening.IsUnquoted)
      (beforeEq : before = opening.before ++ quote.char :: segment)
      (stays : (Quoting.inside quote false).StaysInside segment)
      (state : (Quoting.inside quote false).after segment = .inside quote escaped)
      (balanced : Balanced before order) (undecided : Undecided text opening.before.length) :
      Reached text before order (.quoted quote opening.position chars escaped)

/-- The end that a query comes to from somewhere on. -/
def Postfix.verdict (order : Postfix) (lexemes : Lexemes) : Except LexError Unit :=
  (order.conclude lexemes).map fun _ => ()

namespace Reached

open Lexemes (scanFrom)

variable {text before rest : List Char} {order next : Postfix} {char : Char}

theorem start (text : List Char) : Reached text [] .empty (.plain []) :=
  .outside [] rfl rfl .zero

/-- One more character outside quotes that is no quote and decides nothing. -/
theorem outside_concat (split : text = before ++ char :: rest)
    (unquoted : Quoting.outside.after before = .outside)
    (balanced : Balanced before order) (undecided : Undecided text before.length)
    (noQuote : Quote.ofChar? char = none)
    (notHere : ∀ verdict, ¬(Place.mk before char rest split).Decides verdict)
    (taken : next.openBrackets + [char].count ')' = order.openBrackets + [char].count '(')
    (word : List Char) : Reached text (before ++ [char]) next (.plain word) := by
  apply Reached.outside
  · simp [unquoted, Quoting.next_plain noQuote]
  · have added : Quoting.outside.unquoted (before ++ [char]) =
        Quoting.outside.unquoted before ++ [char] := by
      simp [Quoting.unquoted_append, unquoted, Quoting.unquoted]
    rw [Balanced, added, List.count_append, List.count_append]
    rw [Balanced] at balanced
    omega
  · simpa using undecided.succ ⟨before, char, rest, split⟩ notHere

/-- Characters inside quotes are not counted. -/
theorem balanced_concat {quote : Quote} {escaped : Bool} (balanced : Balanced before order)
    (inside : Quoting.outside.after before = .inside quote escaped)
    (same : next.openBrackets = order.openBrackets) : Balanced (before ++ [char]) next := by
  have added : Quoting.outside.unquoted (before ++ [char]) = Quoting.outside.unquoted before := by
    simp [Quoting.unquoted_append, inside, Quoting.unquoted]
  rw [Balanced, added, same]
  exact balanced

end Reached

/-- What the next character does: a place decides, or reading goes on behind the
character. -/
inductive Advances (text before rest : List Char) (char : Char) (order : Postfix)
    (mode : Lexemes.Mode) : Prop
  | decided (place : Place text) (undecided : Undecided text place.before.length)
      (decides : place.Decides
        (order.verdict (Lexemes.scanFrom (byteCount before) mode (char :: rest))))
  | goesOn {next : Postfix} {later : Lexemes.Mode}
      (reached : Reached text (before ++ [char]) next later)
      (same : order.verdict (Lexemes.scanFrom (byteCount before) mode (char :: rest)) =
        next.verdict (Lexemes.scanFrom (byteCount (before ++ [char])) later rest))

namespace Reached

open Lexemes (scanFrom)

variable {text before rest : List Char} {order next : Postfix} {char : Char}

theorem verdict_after {tokens : List Placed} (taken : order.pushAll tokens = .ok next)
    (lexemes : Lexemes) : order.verdict (lexemes.after tokens) = next.verdict lexemes := by
  rw [Postfix.verdict, Postfix.conclude_after taken]
  rfl

/-- Inside quotes nothing is decided. -/
theorem advances_quoted {quote : Quote} {start : Nat} {chars : List Char} {escaped : Bool}
    (reached : Reached text before order (.quoted quote start chars escaped))
    (split : text = before ++ char :: rest) :
    Advances text before rest char order (.quoted quote start chars escaped) := by
  have bytes : byteCount before + char.utf8Size = byteCount (before ++ [char]) := by simp
  cases reached with
  | @inside opening _ segment _ _ here unquoted beforeEq stays state balanced undecided =>
      have inside : Quoting.outside.after before = .inside quote escaped := by
        rw [Place.IsUnquoted] at unquoted
        simp [beforeEq, unquoted, state]
      have restEq : opening.rest = segment ++ char :: rest := by
        have whole := split
        rw [beforeEq, List.append_assoc, List.cons_append] at whole
        exact (List.cons.inj (List.append_cancel_left (opening.split.symm.trans whole))).2
      -- a segment that goes on is the same segment with one more character
      have onward : ∀ (chars : List Char) (later : Bool),
          (Quoting.inside quote escaped).next char = .inside quote later →
          Reached text (before ++ [char]) order (.quoted quote opening.position chars later) := by
        intro chars later stillInside
        have stateLater : (Quoting.inside quote false).after (segment ++ [char]) =
            .inside quote later := by
          simp [state, stillInside]
        apply Reached.inside opening chars here unquoted (by simp [beforeEq]) ?_ stateLater
          (balanced_concat balanced inside rfl) undecided
        exact Quoting.staysInside_concat.2 ⟨stays, by simp [stateLater]⟩
      cases escaped with
      | true =>
          apply Advances.goesOn (onward (char :: chars) false rfl)
          rw [← bytes]
          rfl
      | false =>
          by_cases backslash : char = '\\'
          · apply Advances.goesOn (onward chars true (by simp [Quoting.next, backslash]))
            rw [← bytes, scanFrom, if_pos backslash]
          · by_cases closing : char = quote.char
            · obtain ⟨next, taken, same⟩ := order.exists_pushAll_of_no_brackets
                (quote.token?_no_brackets chars.reverse opening.position)
              have closed := undecided.closed here unquoted (closing ▸ restEq) stays state
              rw [← beforeEq, ← closing] at closed
              have outside : Reached text (before ++ [char]) next (.plain []) := by
                apply Reached.outside
                · simp [inside, closing]
                · exact balanced_concat balanced inside same
                · exact closed
              apply Advances.goesOn outside
              rw [← bytes, scanFrom, if_neg backslash, if_pos closing, verdict_after taken]
            · apply Advances.goesOn
                (onward (char :: chars) false (by simp [Quoting.next, backslash, closing]))
              rw [← bytes, scanFrom, if_neg backslash, if_neg closing]

section Outside

variable (word : List Char) (split : text = before ++ char :: rest)
  (unquoted : Quoting.outside.after before = .outside) (balanced : Balanced before order)
  (undecided : Undecided text before.length)

include split unquoted undecided in
theorem advances_semicolon (isEnd : char = ';') :
    Advances text before rest char order (.plain word) := by
  obtain ⟨middle, taken, _⟩ := order.exists_pushAll_of_no_brackets
    (Lexemes.wordToken_no_brackets word (byteCount before))
  have scanned : scanFrom (byteCount before) (.plain word) (char :: rest) =
      Lexemes.after (Lexemes.wordToken word (byteCount before)) ⟨[], .terminated⟩ := by
    simp [scanFrom, isEnd, Lexemes.after]
  apply Advances.decided ⟨before, char, rest, split⟩ undecided
  rw [scanned, verdict_after taken]
  exact .semicolon unquoted isEnd

include split unquoted balanced undecided in
/-- An opening quote decides nothing before it is known whether its segment is closed. -/
theorem advances_quote (quote : Quote) (isQuote : char = quote.char) :
    Advances text before rest char order (.plain word) := by
  subst isQuote
  obtain ⟨next, taken, same⟩ := order.exists_pushAll_of_no_brackets
    (Lexemes.wordToken_no_brackets word (byteCount before))
  have added : Quoting.outside.unquoted (before ++ [quote.char]) =
      Quoting.outside.unquoted before ++ [quote.char] := by
    simp [Quoting.unquoted_append, unquoted, Quoting.unquoted]
  have opened : Reached text (before ++ [quote.char]) next
      (.quoted quote (byteCount before) [] false) := by
    apply Reached.inside ⟨before, quote.char, rest, split⟩ [] rfl unquoted rfl
    · exact Quoting.staysInside_nil.2 (by simp)
    · rfl
    · rw [Balanced, added, same]
      cases quote <;> simpa [Quote.char, Balanced] using balanced
    · exact undecided
  apply Advances.goesOn opened
  rw [Lexemes.scanFrom_open, verdict_after taken]
  simp

include split unquoted balanced undecided in
/-- A sign is refused exactly where a closing bracket decides. -/
theorem advances_sign {sign : Token} (isSign : Lexemes.signToken? char = some sign) :
    Advances text before rest char order (.plain word) := by
  obtain ⟨opens, closes, notEnd, noQuote⟩ := Lexemes.signToken?_eq_some isSign
  obtain ⟨middle, wordTaken, same⟩ := order.exists_pushAll_of_no_brackets
    (Lexemes.wordToken_no_brackets word (byteCount before))
  have scanned : scanFrom (byteCount before) (.plain word) (char :: rest) =
      ((scanFrom (byteCount (before ++ [char])) (.plain []) rest).after
        [⟨sign, byteCount before⟩]).after (Lexemes.wordToken word (byteCount before)) := by
    rw [Quote.ofChar?_eq_none_iff] at noQuote
    simp [scanFrom, notEnd, noQuote, isSign, Lexemes.after_after]
  cases taken : middle.push sign with
  | none =>
      obtain ⟨closing, noneOpen⟩ := Postfix.push_eq_none_iff.1 taken
      have refused : middle.pushAll [⟨sign, byteCount before⟩] = .error (byteCount before) := by
        simp [Postfix.pushAll, taken]
      have surplus : (Quoting.outside.unquoted before).count '(' <
          (Quoting.outside.unquoted before).count ')' + 1 := by
        rw [Balanced] at balanced
        omega
      apply Advances.decided ⟨before, char, rest, split⟩ undecided
      rw [scanned, verdict_after wordTaken, Postfix.verdict,
        Postfix.conclude_after_of_error refused]
      exact .bracket unquoted (closes.1 closing) surplus
  | some next =>
      have pushed : middle.pushAll [⟨sign, byteCount before⟩] = .ok next := by
        simp [Postfix.pushAll, taken]
      have counted : next.openBrackets + [char].count ')' =
          order.openBrackets + [char].count '(' := by
        have change := Postfix.openBrackets_push taken
        simp only [List.count_singleton, beq_iff_eq, opens, closes] at change ⊢
        omega
      have matched : char = ')' → (Quoting.outside.unquoted before).count ')' <
          (Quoting.outside.unquoted before).count '(' := by
        rintro rfl
        simp only [List.count_singleton_self, List.count_singleton] at counted
        rw [Balanced] at balanced
        simp at counted
        omega
      apply Advances.goesOn (outside_concat split unquoted balanced undecided noQuote
        (Place.not_decides notEnd noQuote matched) counted [])
      rw [scanned, verdict_after wordTaken, verdict_after pushed]

include split unquoted balanced undecided in
/-- Any other character goes on with the word or ends it. -/
theorem advances_other (notEnd : char ≠ ';') (noQuote : Quote.ofChar? char = none)
    (noSign : Lexemes.signToken? char = none) :
    Advances text before rest char order (.plain word) := by
  have noBracket : char ≠ ')' ∧ char ≠ '(' := by
    constructor <;> rintro rfl <;> cases noSign
  have notHere : ∀ verdict, ¬(Place.mk before char rest split).Decides verdict :=
    Place.not_decides notEnd noQuote fun closing => absurd closing noBracket.1
  have uncounted : [char].count ')' = 0 ∧ [char].count '(' = 0 := by
    simp [noBracket]
  have quotes := Quote.ofChar?_eq_none_iff.1 noQuote
  by_cases inWord : isWordChar char = true
  · have scanned : scanFrom (byteCount before) (.plain word) (char :: rest) =
        scanFrom (byteCount (before ++ [char])) (.plain ((Text.lowerChar char).reverse ++ word))
          rest := by
      simp [scanFrom, notEnd, quotes, noSign, inWord]
    have kept : order.openBrackets + [char].count ')' = order.openBrackets + [char].count '(' := by
      omega
    apply Advances.goesOn
      (outside_concat split unquoted balanced undecided noQuote notHere kept _)
    rw [scanned]
  · obtain ⟨next, taken, same⟩ := order.exists_pushAll_of_no_brackets
      (Lexemes.wordToken_no_brackets word (byteCount before))
    have scanned : scanFrom (byteCount before) (.plain word) (char :: rest) =
        (scanFrom (byteCount (before ++ [char])) (.plain []) rest).after
          (Lexemes.wordToken word (byteCount before)) := by
      simp [scanFrom, notEnd, quotes, noSign, inWord]
    have kept : next.openBrackets + [char].count ')' = order.openBrackets + [char].count '(' := by
      omega
    apply Advances.goesOn
      (outside_concat split unquoted balanced undecided noQuote notHere kept [])
    rw [scanned, verdict_after taken]

end Outside

/-- Every character decides or leads on. -/
theorem advances {mode : Lexemes.Mode} (reached : Reached text before order mode)
    (split : text = before ++ char :: rest) : Advances text before rest char order mode := by
  cases mode with
  | quoted quote start chars escaped => exact advances_quoted reached split
  | plain word =>
      cases reached with
      | outside _ unquoted balanced undecided =>
          by_cases isEnd : char = ';'
          · exact advances_semicolon word split unquoted undecided isEnd
          · cases found : Quote.ofChar? char with
            | some quote =>
                exact advances_quote word split unquoted balanced undecided quote
                  (Quote.ofChar?_eq_some_iff.1 found)
            | none =>
                cases isSign : Lexemes.signToken? char with
                | some sign => exact advances_sign word split unquoted balanced undecided isSign
                | none =>
                    exact advances_other word split unquoted balanced undecided isEnd found isSign

/-- At the end of the text the segment in which the reading stands is never closed, or
nothing has decided. -/
theorem outcome_at_end {query : String} {mode : Lexemes.Mode}
    (reached : Reached query.toList query.toList order mode) :
    Outcome query (order.verdict (scanFrom (byteCount query.toList) mode [])) := by
  cases reached with
  | outside word unquoted balanced undecided =>
      rw [byteCount_toList]
      apply Outcome.undecided
      intro place verdict
      apply undecided place
      have split := congrArg List.length place.split
      rw [List.length_append, List.length_cons] at split
      omega
  | @inside opening quote segment chars escaped here unquoted beforeEq stays state balanced
      undecided =>
      have restEq : opening.rest = segment := by
        have split := opening.split.symm.trans beforeEq
        rw [List.append_cancel_left_eq] at split
        exact (List.cons.inj split).2
      have ended : order.verdict (scanFrom (byteCount query.toList)
            (.quoted quote opening.position chars escaped) []) =
          .error ⟨quote.unclosedFault, opening.position⟩ := by
        cases quote <;> rfl
      rw [ended]
      exact .decided opening (.quote quote unquoted here (restEq ▸ stays)) undecided

/-- Reading on from anywhere ends as the first place decides. -/
theorem outcome {query : String} {mode : Lexemes.Mode}
    (reached : Reached query.toList before order mode) (split : query.toList = before ++ rest) :
    Outcome query (order.verdict (scanFrom (byteCount before) mode rest)) := by
  induction rest generalizing before order mode with
  | nil =>
      rw [List.append_nil] at split
      subst split
      exact outcome_at_end reached
  | cons char rest ih =>
      cases reached.advances split with
      | decided place undecided decides => exact .decided place decides undecided
      | goesOn reached same =>
          rw [same]
          exact ih reached (by simpa using split)

end Reached

/-- Reading a query ends as its first deciding place decides, and with a missing
semicolon if there is none. A word that is finished is never refused. -/
theorem tokenize_outcome_iff (query : String) :
    (∀ verdict, (tokenize query).map (fun _ => ()) = verdict ↔ Outcome query verdict) ∧
      ∀ (order : Postfix) (word : String), ∃ next, order.push (Token.ofWord word) = some next := by
  have outcome : Outcome query ((tokenize query).map fun _ => ()) :=
    (Reached.start query.toList).outcome rfl
  constructor
  · intro verdict
    constructor
    · rintro rfl
      exact outcome
    · exact outcome.unique
  · intro order word
    cases taken : order.push (Token.ofWord word) with
    | some next => exact ⟨next, rfl⟩
    | none =>
        have closing := (Postfix.push_eq_none_iff.1 taken).1
        have logical := @Token.ofWord_isOperator word
        rw [closing] at logical
        simp [Token.isOperator] at logical

end Tabula.Query
