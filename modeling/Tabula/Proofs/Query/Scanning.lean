import Tabula.Query.Lexeme
import Tabula.Text.Utf8

/-!
# Scanning piece by piece

What reading does with a stretch of text, whatever follows it: with the characters of
a word, with separators, with a sign and with a quoted text. A word is finished by
the first character that is not part of it, and what that character is makes no
difference to the word.
-/

namespace Tabula.Query

open Text.Utf8 (byteCount byteCount_cons)

/-- The characters outside quotes that are neither part of a word nor skipped. -/
def reservedChars : List Char :=
  [';', '\'', '"', '=', '<', '>', '(', ')']

/-- Whether a character outside quotes only keeps words apart. -/
def isSeparator (char : Char) : Bool :=
  !isWordChar char && !reservedChars.contains char

theorem isWordChar_of_mem_reservedChars {char : Char} (reserved : char ∈ reservedChars) :
    isWordChar char = false := by
  have none : reservedChars.all (fun char => !isWordChar char) = true := rfl
  simpa using List.all_eq_true.1 none char reserved

theorem not_mem_reservedChars {char : Char} (inWord : isWordChar char = true) :
    char ∉ reservedChars := by
  intro reserved
  rw [isWordChar_of_mem_reservedChars reserved] at inWord
  cases inWord

theorem isSeparator_iff {char : Char} :
    isSeparator char = true ↔ isWordChar char = false ∧ char ∉ reservedChars := by
  simp [isSeparator]

/-- Whether characters make a word. -/
def makeWord (chars : List Char) : Bool :=
  !chars.isEmpty && chars.all isWordChar

theorem makeWord_iff {chars : List Char} :
    makeWord chars = true ↔ chars ≠ [] ∧ ∀ char ∈ chars, isWordChar char = true := by
  simp [makeWord]

/-- A text as it is written between quotes: a backslash stands before each backslash
and before each of these quotes. -/
def Quote.escape (quote : Quote) (chars : List Char) : List Char :=
  chars.flatMap fun char => if char = '\\' ∨ char = quote.char then ['\\', char] else [char]

namespace Lexemes

@[simp]
theorem after_nil (lexemes : Lexemes) : lexemes.after [] = lexemes :=
  rfl

theorem after_after (lexemes : Lexemes) (first second : List Placed) :
    (lexemes.after second).after first = lexemes.after (first ++ second) := by
  simp [after]

@[simp]
theorem wordToken_nil (position : Nat) : wordToken [] position = [] :=
  rfl

theorem signToken?_eq_none {char : Char} (notReserved : char ∉ reservedChars) :
    signToken? char = none := by
  simp only [reservedChars, List.mem_cons, List.not_mem_nil, or_false, not_or] at notReserved
  simp [signToken?, Comparison.ofChar?, notReserved]

/-- Outside quotes, a character without a meaning of its own either goes on with the
word or ends it. -/
theorem scanFrom_plain {char : Char} (notReserved : char ∉ reservedChars) (position : Nat)
    (word rest : List Char) :
    scanFrom position (.plain word) (char :: rest) =
      if isWordChar char then
        scanFrom (position + char.utf8Size) (.plain ((Text.lowerChar char).reverse ++ word)) rest
      else
        (scanFrom (position + char.utf8Size) (.plain []) rest).after (wordToken word position) := by
  have noSign := signToken?_eq_none notReserved
  simp only [reservedChars, List.mem_cons, List.not_mem_nil, or_false, not_or] at notReserved
  simp [scanFrom, Quote.char, noSign, notReserved]

/-- The characters of a word are put in lower case and kept. -/
theorem scanFrom_word {chars : List Char} (inWord : ∀ char ∈ chars, isWordChar char = true)
    (position : Nat) (word rest : List Char) :
    scanFrom position (.plain word) (chars ++ rest) =
      scanFrom (position + byteCount chars)
        (.plain ((chars.flatMap Text.lowerChar).reverse ++ word)) rest := by
  induction chars generalizing position word with
  | nil => rfl
  | cons char chars ih =>
      have here := inWord char List.mem_cons_self
      have later : ∀ other ∈ chars, isWordChar other = true :=
        fun other member => inWord other (List.mem_cons_of_mem char member)
      rw [List.cons_append, scanFrom_plain (not_mem_reservedChars here), if_pos here, ih later]
      simp [Nat.add_assoc]

/-- Separators after a finished word are skipped. -/
theorem scanFrom_gap {gap : List Char} (separators : ∀ char ∈ gap, isSeparator char = true)
    (position : Nat) (rest : List Char) :
    scanFrom position (.plain []) (gap ++ rest) =
      scanFrom (position + byteCount gap) (.plain []) rest := by
  induction gap generalizing position with
  | nil => rfl
  | cons char gap ih =>
      have here := isSeparator_iff.1 (separators char List.mem_cons_self)
      have later : ∀ other ∈ gap, isSeparator other = true :=
        fun other member => separators other (List.mem_cons_of_mem char member)
      rw [List.cons_append, scanFrom_plain here.2, if_neg (by simp [here.1]), wordToken_nil,
        after_nil, ih later, byteCount_cons, Nat.add_assoc]

/-- A word is finished by any character that is not part of it. -/
theorem scanFrom_finish_word {char : Char} (outside : isWordChar char = false) (position : Nat)
    (word rest : List Char) :
    scanFrom position (.plain word) (char :: rest) =
      (scanFrom position (.plain []) (char :: rest)).after (wordToken word position) := by
  simp only [scanFrom]
  split
  · simp [after]
  · split
    · rw [wordToken_nil, after_nil]
    · split
      · rw [wordToken_nil, after_nil]
      · split
        · rw [after_after, wordToken_nil, List.nil_append]
        · simp only [outside, Bool.false_eq_true, if_false, wordToken_nil, after_nil]

theorem scanFrom_sign {char : Char} {sign : Token} (isSign : signToken? char = some sign)
    (position : Nat) (rest : List Char) :
    scanFrom position (.plain []) (char :: rest) =
      (scanFrom (position + char.utf8Size) (.plain []) rest).after [⟨sign, position⟩] := by
  have notEnd : char ≠ ';' ∧ char ≠ '\'' ∧ char ≠ '"' := by
    refine ⟨?_, ?_, ?_⟩ <;> rintro rfl <;> cases isSign
  simp [scanFrom, Quote.char, isSign, notEnd]

/-! ## Quoted text -/

/-- Between quotes an escaped text is taken as it was before it was escaped. -/
theorem scanFrom_escape (quote : Quote) (start : Nat) (chars : List Char) (position : Nat)
    (before rest : List Char) :
    scanFrom position (.quoted quote start before false) (quote.escape chars ++ rest) =
      scanFrom (position + byteCount (quote.escape chars))
        (.quoted quote start (chars.reverse ++ before) false) rest := by
  induction chars generalizing position before with
  | nil => rfl
  | cons char chars ih =>
      have split : quote.escape (char :: chars) =
          (if char = '\\' ∨ char = quote.char then ['\\', char] else [char]) ++
            quote.escape chars := rfl
      rw [split]
      by_cases escaped : char = '\\' ∨ char = quote.char
      · simp [scanFrom, escaped, ih, Nat.add_assoc]
      · rw [if_neg escaped]
        rw [not_or] at escaped
        simp [scanFrom, escaped, ih, Nat.add_assoc]

/-- A quoted text is one token at its opening quote, or none if it is an empty
identifier. -/
theorem scanFrom_quoted (quote : Quote) (chars : List Char) (position : Nat)
    (rest : List Char) :
    scanFrom position (.plain [])
        (quote.char :: (quote.escape chars ++ quote.char :: rest)) =
      (scanFrom (position + byteCount (quote.char :: (quote.escape chars ++ [quote.char])))
          (.plain []) rest).after ((quote.token? chars).map (⟨·, position⟩)).toList := by
  have opened : scanFrom position (.plain [])
        (quote.char :: (quote.escape chars ++ quote.char :: rest)) =
      scanFrom (position + quote.char.utf8Size) (.quoted quote position [] false)
        (quote.escape chars ++ quote.char :: rest) := by
    cases quote <;> simp [scanFrom, Quote.char]
  have notBackslash : quote.char ≠ '\\' := by cases quote <;> decide
  rw [opened, scanFrom_escape, scanFrom]
  simp [notBackslash, Nat.add_assoc]

end Lexemes

end Tabula.Query
