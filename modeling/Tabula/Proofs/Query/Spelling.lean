import Tabula.Proofs.Query.Numeral
import Tabula.Proofs.Query.Rendering
import Tabula.Query.Statement

/-!
# Spellings of tokens

How the tokens of a query may be written: keywords in any letter case, names between
double quotes, texts between single quotes, and numbers as digits with an optional
fraction. White space and commas may stand between them.
-/

namespace Tabula.Query

/-! ## Spellings -/

/-- The ways in which a lexeme may stand for a token. -/
inductive Spells : Lexeme → Token → Prop where
  | keyword (keyword : Keyword) {chars : List Char} (made : makeWord chars = true)
      (letters : chars.map Char.toLower = keyword.word.toList) :
      Spells (.word chars made) (.keyword keyword)
  | and {chars : List Char} (made : makeWord chars = true)
      (letters : chars.map Char.toLower = ['a', 'n', 'd']) :
      Spells (.word chars made) .and
  | or {chars : List Char} (made : makeWord chars = true)
      (letters : chars.map Char.toLower = ['o', 'r']) :
      Spells (.word chars made) .or
  | number (numeral : Numeral) (made : makeWord numeral.chars = true) :
      Spells (.word numeral.chars made) (.number numeral.value)
  | allColumns (made : makeWord ['*'] = true) :
      Spells (.word ['*'] made) (.identifier allColumnsSign)
  | name {chars : List Char} (nonempty : Quote.identifier = .identifier → chars ≠ []) :
      Spells (.quoted .identifier chars nonempty) (.identifier (String.ofList chars))
  | text {chars : List Char} (nonempty : Quote.text = .identifier → chars ≠ []) :
      Spells (.quoted .text chars nonempty) (.text (String.ofList chars))
  | sign (mark : Sign) : Spells (.sign mark) mark.token

/-- A word of ASCII letters is read as if they were all in lower case. -/
theorem Lexeme.token_word {chars letters : List Char} (made : makeWord chars = true)
    (spelled : chars.map Char.toLower = letters)
    (ascii : letters.all (fun char => char.toNat < 0x80) = true) :
    (Lexeme.word chars made).token = .ofWord (String.ofList letters) := by
  rw [token, Text.flatMap_lowerChar spelled ascii]

theorem Spells.token_eq {lexeme : Lexeme} {token : Token} (spells : Spells lexeme token) :
    lexeme.token = token := by
  cases spells with
  | keyword keyword made letters =>
      rw [Lexeme.token_word made letters (by cases keyword <;> rfl)]
      cases keyword <;> rfl
  | and made letters => exact Lexeme.token_word made letters rfl
  | or made letters => exact Lexeme.token_word made letters rfl
  | number numeral made => exact numeral.ofWord_chars
  | allColumns made => exact Lexeme.token_word made rfl rfl
  | name nonempty => rfl
  | text nonempty => rfl
  | sign mark => rfl

theorem map_token_of_spells {lexemes : List Lexeme} {tokens : List Token}
    (spelled : List.Forall₂ Spells lexemes tokens) : lexemes.map Lexeme.token = tokens := by
  induction spelled with
  | nil => rfl
  | cons first _ ih => rw [List.map_cons, first.token_eq, ih]

/-! ## Gaps -/

/-- Whether a character may stand between tokens. -/
def isGap (char : Char) : Bool :=
  Text.isBlank char || char = ','

theorem isSeparator_of_isBlank {char : Char} (blank : Text.isBlank char = true) :
    isSeparator char = true := by
  have separators : ∀ range ∈ Text.blankRanges,
      ∀ code ∈ List.range' range.1 (range.2 + 1 - range.1),
        isSeparator (Char.ofNat code) = true := by decide +kernel
  obtain ⟨range, member, low, high⟩ :=
    Text.RangeTable.holds_eq_true_iff.1 (Text.isBlank_iff_holds.1 blank)
  have inRange : char.toNat ∈ List.range' range.1 (range.2 + 1 - range.1) := by
    rw [List.mem_range'_1]
    omega
  rw [← Char.ofNat_toNat char]
  exact separators range member char.toNat inRange

theorem isSeparator_of_isGap {char : Char} (gap : isGap char = true) : isSeparator char = true := by
  rw [isGap, Bool.or_eq_true, decide_eq_true_eq] at gap
  rcases gap with blank | rfl
  · exact isSeparator_of_isBlank blank
  · rfl

theorem Rendering.GapsIn.separated {rendering : Rendering} (gaps : rendering.GapsIn isGap) :
    rendering.GapsIn isSeparator := by
  have each : ∀ {gap : List Char}, gap.all isGap = true → gap.all isSeparator = true := by
    intro gap inGap
    rw [List.all_eq_true] at inGap ⊢
    intro char member
    exact isSeparator_of_isGap (inGap char member)
  exact ⟨fun piece member => each (gaps.1 piece member), each gaps.2⟩

end Tabula.Query
