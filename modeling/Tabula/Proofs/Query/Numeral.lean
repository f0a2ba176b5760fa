import Mathlib.Data.List.Basic
import Mathlib.Data.List.TakeWhile
import Tabula.Proofs.Text.Characters
import Tabula.Query.Word

/-!
# Numerals

Numbers as a query writes them: digits, or digits, a point and digits. Every numeral
is a word that stands for a number, namely for the double that is read off it.
-/

namespace Tabula.Query

theorem areDigits_iff {chars : List Char} :
    areDigits chars = true ↔ chars ≠ [] ∧ ∀ char ∈ chars, char.isDigit = true := by
  simp [areDigits]

theorem flatMap_lowerChar_digits {digits : List Char} (areDigits : areDigits digits = true) :
    digits.flatMap Text.lowerChar = digits := by
  have each := (areDigits_iff.1 areDigits).2
  rw [List.flatMap_congr fun char member => Text.lowerChar_digit (each char member)]
  simp

/-- A number as it is written: digits, or digits, a point and digits. -/
structure Numeral where
  whole : List Char
  fraction : Option (List Char)
  whole_digits : areDigits whole = true
  fraction_digits : ∀ digits ∈ fraction, areDigits digits = true

namespace Numeral

/-- The point and the digits behind it. -/
def tail (numeral : Numeral) : List Char :=
  match numeral.fraction with
  | none => []
  | some digits => '.' :: digits

/-- The characters of a numeral. -/
def chars (numeral : Numeral) : List Char :=
  numeral.whole ++ numeral.tail

theorem exists_whole_eq_cons (numeral : Numeral) :
    ∃ digit rest, numeral.whole = digit :: rest ∧ digit.isDigit = true := by
  obtain ⟨nonempty, digits⟩ := areDigits_iff.1 numeral.whole_digits
  obtain ⟨digit, rest, wholeEq⟩ := List.exists_cons_of_ne_nil nonempty
  exact ⟨digit, rest, wholeEq, digits digit (wholeEq ▸ List.mem_cons_self)⟩

/-- Whatever goes on over digits and stops at a point splits a numeral at its point. -/
theorem span_chars (numeral : Numeral) (goesOn : Char → Bool)
    (digits : ∀ char, char.isDigit = true → goesOn char = true) (point : goesOn '.' = false) :
    numeral.chars.takeWhile goesOn = numeral.whole ∧
      numeral.chars.dropWhile goesOn = numeral.tail := by
  have inWhole : ∀ char ∈ numeral.whole, goesOn char = true :=
    fun char member => digits char ((areDigits_iff.1 numeral.whole_digits).2 char member)
  rw [chars, List.takeWhile_append_of_pos inWhole, List.dropWhile_append_of_pos inWhole]
  cases fraction : numeral.fraction with
  | none => simp [tail, fraction]
  | some digits => simp [tail, fraction, point]

theorem isSome_decimal_read? (numeral : Numeral) : (Decimal.read? numeral.chars).isSome = true := by
  obtain ⟨wholeSpan, tailSpan⟩ := numeral.span_chars Char.isDigit
    (fun _ isDigit => isDigit) rfl
  have nonempty := (areDigits_iff.1 numeral.whole_digits).1
  simp only [Decimal.read?, wholeSpan, tailSpan]
  cases fraction : numeral.fraction with
  | none => simp [tail, fraction, nonempty, Decimal.readExponent?]
  | some digits =>
      have noMore : digits.dropWhile Char.isDigit = [] := by
        rw [List.dropWhile_eq_nil_iff]
        exact (areDigits_iff.1 (numeral.fraction_digits digits fraction)).2
      simp [tail, fraction, nonempty, noMore, Decimal.readExponent?]

/-- Every numeral is read as a number. -/
theorem isSome_read? (numeral : Numeral) : (Binary64.read? numeral.chars).isSome = true := by
  have unsigned : (Binary64.readUnsigned? false numeral.chars).isSome = true := by
    rw [Binary64.readUnsigned?]
    split
    · rfl
    · split
      · rfl
      · rw [Option.isSome_map]
        exact numeral.isSome_decimal_read?
  obtain ⟨digit, rest, wholeEq, isDigit⟩ := numeral.exists_whole_eq_cons
  have charsEq : numeral.chars = digit :: (rest ++ numeral.tail) := by rw [chars, wholeEq]; rfl
  rw [charsEq] at unsigned ⊢
  unfold Binary64.read?
  split
  · rename_i equal
    cases equal
    cases isDigit
  · rename_i equal
    cases equal
    cases isDigit
  · exact unsigned

/-- The number that a numeral stands for. -/
def value (numeral : Numeral) : Binary64 :=
  (Binary64.read? numeral.chars).get numeral.isSome_read?

theorem flatMap_lowerChar_chars (numeral : Numeral) :
    numeral.chars.flatMap Text.lowerChar = numeral.chars := by
  have tailKept : numeral.tail.flatMap Text.lowerChar = numeral.tail := by
    cases fraction : numeral.fraction with
    | none => simp [tail, fraction]
    | some digits =>
        have kept := flatMap_lowerChar_digits (numeral.fraction_digits digits fraction)
        have point : Text.lowerChar '.' = ['.'] := rfl
        simp [tail, fraction, kept, point]
  rw [chars, List.flatMap_append, flatMap_lowerChar_digits numeral.whole_digits,
    tailKept]

theorem numberOfWord?_chars (numeral : Numeral) :
    numberOfWord? numeral.chars = some numeral.value := by
  have noPoint : ∀ char : Char, char.isDigit = true → decide (char ≠ '.') = true := by
    intro char isDigit
    rw [decide_eq_true_eq]
    rintro rfl
    cases isDigit
  obtain ⟨wholeSpan, tailSpan⟩ := numeral.span_chars (· ≠ '.') noPoint rfl
  have read : numberOfWord? numeral.chars = Binary64.read? numeral.chars := by
    simp only [numberOfWord?, wholeSpan, tailSpan, numeral.whole_digits, Bool.true_and]
    cases fraction : numeral.fraction with
    | none => simp [tail, fraction]
    | some digits => simp [tail, fraction, numeral.fraction_digits digits fraction]
  rw [read]
  exact (Option.some_get numeral.isSome_read?).symm

/-- A numeral is a word that stands for its number. -/
theorem ofWord_chars (numeral : Numeral) :
    Token.ofWord (String.ofList (numeral.chars.flatMap Text.lowerChar)) =
      .number numeral.value := by
  obtain ⟨digit, rest, wholeEq, isDigit⟩ := numeral.exists_whole_eq_cons
  have noLetters : ∀ letter letters, letter.isDigit = false →
      String.ofList numeral.chars ≠ String.ofList (letter :: letters) := by
    intro letter letters notDigit equal
    have charsEq := String.ofList_injective equal
    rw [chars, wholeEq, List.cons_append, List.cons.injEq] at charsEq
    rw [← charsEq.1, isDigit] at notDigit
    cases notDigit
  have notAnd := noLetters 'a' ['n', 'd'] rfl
  have notOr := noLetters 'o' ['r'] rfl
  rw [flatMap_lowerChar_chars, Token.ofWord, if_neg notAnd, if_neg notOr, String.toList_ofList,
    numberOfWord?_chars]

end Numeral

end Tabula.Query
