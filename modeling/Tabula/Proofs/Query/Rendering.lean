import Mathlib.Data.List.Chain
import Tabula.Proofs.Query.Reordering
import Tabula.Proofs.Query.Scanning
import Tabula.Proofs.Text.Characters

/-!
# Rendered queries

A query can be written down lexeme by lexeme, with separators between lexemes as one
likes; only two words need a separator between them. Reading such a text up to its
semicolon gives the tokens of the lexemes, in their order, to the reordering, and
what stands after the semicolon makes no difference.
-/

namespace Tabula

namespace Query

open Text.Utf8 (byteCount)

/-- A sign: a comparison or a bracket. -/
inductive Sign where
  | compare (comparison : Comparison)
  | openBracket
  | closeBracket
  deriving DecidableEq

namespace Sign

/-- The sign as it is written. -/
def char : Sign → Char
  | .compare comparison => comparison.symbol
  | .openBracket => '('
  | .closeBracket => ')'

/-- The token of a sign. -/
def token : Sign → Token
  | .compare comparison => .compare comparison
  | .openBracket => .openBracket
  | .closeBracket => .closeBracket

theorem signToken?_char (sign : Sign) : Lexemes.signToken? sign.char = some sign.token := by
  rcases sign with ⟨_ | _ | _⟩ | _ | _ <;> rfl

theorem char_mem_reservedChars (sign : Sign) : sign.char ∈ reservedChars := by
  rcases sign with ⟨_ | _ | _⟩ | _ | _ <;> decide

end Sign

/-- What a text is made of: words, quoted texts that stand for a token, and signs. -/
inductive Lexeme where
  | word (chars : List Char) (made : makeWord chars = true)
  | quoted (quote : Quote) (chars : List Char) (nonempty : quote = .identifier → chars ≠ [])
  | sign (mark : Sign)

namespace Lexeme

/-- The lexeme as it is written. -/
def chars : Lexeme → List Char
  | .word chars _ => chars
  | .quoted quote chars _ => quote.char :: (quote.escape chars ++ [quote.char])
  | .sign mark => [mark.char]

/-- The token of a lexeme. A word is read in lower case and a quoted text as it is. -/
def token : Lexeme → Token
  | .word chars _ => .ofWord (String.ofList (chars.flatMap Text.lowerChar))
  | .quoted .text chars _ => .text (String.ofList chars)
  | .quoted .identifier chars _ => .identifier (String.ofList chars)
  | .sign mark => mark.token

/-- Whether the lexeme is a word. -/
def isWord : Lexeme → Bool
  | .word .. => true
  | _ => false

/-- The token of a lexeme that begins at a position. A word is completed behind its
last character, every other lexeme where it begins. -/
def placed (position : Nat) (lexeme : Lexeme) : Placed :=
  ⟨lexeme.token, if lexeme.isWord then position + byteCount lexeme.chars else position⟩

/-- A lexeme that is no word begins with a character that is in no word. -/
theorem exists_chars_eq_cons {lexeme : Lexeme} (notWord : lexeme.isWord = false) :
    ∃ char tail, lexeme.chars = char :: tail ∧ isWordChar char = false := by
  cases lexeme with
  | word chars made => cases notWord
  | quoted quote chars nonempty =>
      exact ⟨_, _, rfl, isWordChar_of_mem_reservedChars (by cases quote <;> decide)⟩
  | sign mark =>
      exact ⟨_, _, rfl, isWordChar_of_mem_reservedChars mark.char_mem_reservedChars⟩

/-- Reading a lexeme gives its token. A word must be followed by a character that is
not part of it. -/
theorem scanFrom_chars (lexeme : Lexeme) (position : Nat) {rest : List Char}
    (ends : lexeme.isWord = true →
      ∃ char tail, rest = char :: tail ∧ isWordChar char = false) :
    Lexemes.scanFrom position (.plain []) (lexeme.chars ++ rest) =
      (Lexemes.scanFrom (position + byteCount lexeme.chars) (.plain []) rest).after
        [lexeme.placed position] := by
  cases lexeme with
  | word chars made =>
      obtain ⟨nonempty, inWord⟩ := makeWord_iff.1 made
      obtain ⟨char, tail, rfl, outside⟩ := ends rfl
      have kept : chars.flatMap Text.lowerChar ≠ [] := by
        obtain ⟨first, others, rfl⟩ := List.exists_cons_of_ne_nil nonempty
        simp [Text.lowerChar_ne_nil]
      have finished : Lexemes.wordToken (chars.flatMap Text.lowerChar).reverse
            (position + byteCount chars) =
          [(Lexeme.word chars made).placed position] := by
        rw [Lexemes.wordToken, if_neg (by simpa using kept), List.reverse_reverse]
        rfl
      rw [Lexeme.chars, Lexemes.scanFrom_word inWord, List.append_nil,
        Lexemes.scanFrom_finish_word outside, finished]
  | quoted quote chars nonempty =>
      have token : (quote.token? chars).map (⟨·, position⟩) =
          some ((Lexeme.quoted quote chars nonempty).placed position) := by
        cases quote with
        | text => rfl
        | identifier =>
            obtain ⟨first, others, rfl⟩ := List.exists_cons_of_ne_nil (nonempty rfl)
            rfl
      rw [Lexeme.chars, List.cons_append, List.append_assoc, List.singleton_append,
        Lexemes.scanFrom_quoted, token]
      rfl
  | sign mark => exact Lexemes.scanFrom_sign mark.signToken?_char position rest

end Lexeme

/-- A text up to its semicolon: lexemes, each with the gap before it, and the gap at
the end. -/
structure Rendering where
  pieces : List (List Char × Lexeme)
  last : List Char

namespace Rendering

/-- The characters of lexemes and the gaps before them. -/
def pieceChars (pieces : List (List Char × Lexeme)) : List Char :=
  pieces.flatMap fun piece => piece.1 ++ piece.2.chars

/-- The tokens of lexemes, the first of which stands with its gap at a position. -/
def placedFrom (position : Nat) : List (List Char × Lexeme) → List Placed
  | [] => []
  | (gap, lexeme) :: rest =>
      lexeme.placed (position + byteCount gap) ::
        placedFrom (position + byteCount gap + byteCount lexeme.chars) rest

/-- The characters before the semicolon. -/
def chars (rendering : Rendering) : List Char :=
  pieceChars rendering.pieces ++ rendering.last

/-- The lexemes in their order. -/
def lexemes (rendering : Rendering) : List Lexeme :=
  rendering.pieces.map Prod.snd

/-- The tokens in their order, with their positions. -/
def placed (rendering : Rendering) : List Placed :=
  placedFrom 0 rendering.pieces

/-- Whether the gaps have no other characters than those that are allowed. -/
def GapsIn (allowed : Char → Bool) (rendering : Rendering) : Prop :=
  (∀ piece ∈ rendering.pieces, piece.1.all allowed = true) ∧ rendering.last.all allowed = true

/-- A gap is needed between two words. -/
def Apart (first second : List Char × Lexeme) : Prop :=
  first.2.isWord = true → second.2.isWord = true → second.1 ≠ []

theorem placedFrom_token (position : Nat) (pieces : List (List Char × Lexeme)) :
    (placedFrom position pieces).map Placed.token = pieces.map fun piece => piece.2.token := by
  induction pieces generalizing position with
  | nil => rfl
  | cons piece rest ih =>
      rw [placedFrom, List.map_cons, List.map_cons, ih]
      rfl

theorem placed_token (rendering : Rendering) :
    rendering.placed.map Placed.token = rendering.lexemes.map Lexeme.token := by
  rw [placed, placedFrom_token, lexemes, List.map_map]
  rfl

section Reading

variable {last : List Char} (lastSeparated : ∀ char ∈ last, isSeparator char = true)
  (trailing : List Char)

include lastSeparated in
/-- What follows a word begins with a character that is not part of it. -/
theorem exists_pieceChars_eq_cons {pieces : List (List Char × Lexeme)}
    (separated : ∀ piece ∈ pieces, ∀ char ∈ piece.1, isSeparator char = true)
    (apart : ∀ next ∈ pieces.head?, next.2.isWord = true → next.1 ≠ []) :
    ∃ char tail, pieceChars pieces ++ (last ++ ';' :: trailing) = char :: tail ∧
      isWordChar char = false := by
  cases pieces with
  | nil =>
      cases last with
      | nil => exact ⟨';', trailing, rfl, rfl⟩
      | cons char others =>
          exact ⟨char, _, rfl, (isSeparator_iff.1 (lastSeparated char List.mem_cons_self)).1⟩
  | cons piece rest =>
      rcases piece with ⟨gap, lexeme⟩
      cases gap with
      | nil =>
          have notWord : lexeme.isWord = false := by
            rw [Bool.eq_false_iff]
            intro isWord
            exact apart ([], lexeme) rfl isWord rfl
          obtain ⟨char, tail, charsEq, outside⟩ := Lexeme.exists_chars_eq_cons notWord
          refine ⟨char, tail ++ (pieceChars rest ++ (last ++ ';' :: trailing)), ?_, outside⟩
          simp [pieceChars, charsEq]
      | cons char others =>
          have separator := separated (char :: others, lexeme) List.mem_cons_self char
            List.mem_cons_self
          refine ⟨char, others ++ lexeme.chars ++ (pieceChars rest ++ (last ++ ';' :: trailing)),
            ?_, (isSeparator_iff.1 separator).1⟩
          simp [pieceChars]

include lastSeparated in
/-- Lexemes that are kept apart are read one by one. -/
theorem scanFrom_pieceChars {pieces : List (List Char × Lexeme)}
    (separated : ∀ piece ∈ pieces, ∀ char ∈ piece.1, isSeparator char = true)
    (apart : pieces.IsChain Apart) (position : Nat) :
    Lexemes.scanFrom position (.plain []) (pieceChars pieces ++ (last ++ ';' :: trailing)) =
      ⟨placedFrom position pieces, .terminated⟩ := by
  induction pieces generalizing position with
  | nil =>
      change Lexemes.scanFrom position (.plain []) (last ++ ';' :: trailing) = _
      rw [Lexemes.scanFrom_gap lastSeparated]
      rfl
  | cons piece rest ih =>
      rcases piece with ⟨gap, lexeme⟩
      obtain ⟨next, restApart⟩ := List.isChain_cons.1 apart
      have gapSeparated := separated (gap, lexeme) List.mem_cons_self
      have restSeparated : ∀ piece ∈ rest, ∀ char ∈ piece.1, isSeparator char = true :=
        fun piece member => separated piece (List.mem_cons_of_mem _ member)
      have ends : lexeme.isWord = true → ∃ char tail,
          pieceChars rest ++ (last ++ ';' :: trailing) = char :: tail ∧
            isWordChar char = false :=
        fun isWord => exists_pieceChars_eq_cons lastSeparated trailing restSeparated
          fun other member => next other member isWord
      have split : pieceChars ((gap, lexeme) :: rest) ++ (last ++ ';' :: trailing) =
          gap ++ (lexeme.chars ++ (pieceChars rest ++ (last ++ ';' :: trailing))) := by
        simp [pieceChars]
      rw [split, Lexemes.scanFrom_gap gapSeparated, lexeme.scanFrom_chars _ ends,
        ih restSeparated restApart]
      rfl

end Reading

theorem scan_chars {rendering : Rendering} (separated : rendering.GapsIn isSeparator)
    (apart : rendering.pieces.IsChain Apart) (trailing : List Char) :
    Lexemes.scan (rendering.chars ++ ';' :: trailing) = ⟨rendering.placed, .terminated⟩ := by
  have gapsSeparated : ∀ piece ∈ rendering.pieces, ∀ char ∈ piece.1, isSeparator char = true :=
    fun piece member => List.all_eq_true.1 (separated.1 piece member)
  rw [chars, List.append_assoc]
  exact scanFrom_pieceChars (List.all_eq_true.1 separated.2) trailing gapsSeparated apart 0

/-- Reading a rendered text is reordering the tokens of its lexemes: the answer is
their postfix order or the error of the closing bracket that is refused. -/
theorem tokenize_chars {rendering : Rendering} (separated : rendering.GapsIn isSeparator)
    (apart : rendering.pieces.IsChain Apart) (trailing : List Char) :
    rendering.placed.map Placed.token = rendering.lexemes.map Lexeme.token ∧
      tokenize (String.ofList (rendering.chars ++ ';' :: trailing)) =
        Postfix.arrange rendering.placed := by
  refine ⟨rendering.placed_token, ?_⟩
  rw [tokenize, String.toList_ofList, scan_chars separated apart, Postfix.arrange]
  cases Postfix.empty.pushAll rendering.placed <;> rfl

/-- A text in which lexemes of all kinds meet without a gap, with an escaped quote. -/
def crowded : Rendering where
  pieces :=
    [([' '], .word ['A'] rfl), ([], .sign (.compare .equal)),
     ([','], .quoted .text ['i', '\'', 's'] nofun), ([], .word ['O', 'r'] rfl),
     ([], .quoted .identifier [';'] (fun _ => nofun)), ([], .sign .openBracket)]
  last := ['-']

theorem tokenize_crowded :
    crowded.GapsIn isSeparator ∧ crowded.pieces.IsChain Apart ∧
      String.ofList (crowded.chars ++ [';', ')']) = " A=,'i\\'s'Or\";\"(-;)" ∧
      (crowded.placed.map Placed.token = crowded.lexemes.map Lexeme.token ∧
        tokenize (String.ofList (crowded.chars ++ [';', ')'])) =
          Postfix.arrange crowded.placed) := by
  have separated : crowded.GapsIn isSeparator := ⟨by decide, by decide⟩
  have apart : crowded.pieces.IsChain Apart := by simp [crowded, Apart, Lexeme.isWord]
  exact ⟨separated, apart, by decide, tokenize_chars separated apart [')']⟩

end Rendering

end Query

end Tabula
