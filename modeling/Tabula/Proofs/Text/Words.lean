import Tabula.Text.Blank

/-!
# Words

The words of a text have no blanks and are not empty, and a text without blanks is a word.
A text that begins and ends with other characters is not trimmed.
-/

namespace Tabula.Text

/-- Whether a text is a word: it is not empty and has no blanks. -/
def IsWord (text : List Char) : Prop :=
  text ≠ [] ∧ ∀ char ∈ text, isBlank char = false

theorem isWord_reverse {current : List Char} (noBlank : ∀ char ∈ current, isBlank char = false)
    (notEmpty : ¬ current.isEmpty = true) : IsWord current.reverse :=
  ⟨by simpa using notEmpty, by simpa using noBlank⟩

theorem isWord_of_mem_wordsFrom {current text word : List Char}
    (noBlank : ∀ char ∈ current, isBlank char = false)
    (member : word ∈ wordsFrom current text) : IsWord word := by
  induction text generalizing current with
  | nil =>
      rw [wordsFrom] at member
      split at member
      · cases member
      · rename_i notEmpty
        rw [List.mem_singleton.1 member]
        exact isWord_reverse noBlank notEmpty
  | cons char rest ih =>
      have nothing : ∀ char ∈ ([] : List Char), isBlank char = false := by simp
      rw [wordsFrom] at member
      split at member
      · split at member
        · exact ih nothing member
        · rename_i notEmpty
          rcases List.mem_cons.1 member with rfl | inRest
          · exact isWord_reverse noBlank notEmpty
          · exact ih nothing inRest
      · rename_i notBlank
        apply ih _ member
        rw [List.forall_mem_cons]
        exact ⟨Bool.eq_false_iff.2 notBlank, noBlank⟩

theorem isWord_of_mem_words {text word : List Char} (member : word ∈ words text) : IsWord word :=
  isWord_of_mem_wordsFrom (by simp) member

theorem wordsFrom_append {word : List Char} (noBlank : ∀ char ∈ word, isBlank char = false)
    (current rest : List Char) :
    wordsFrom current (word ++ rest) = wordsFrom (word.reverse ++ current) rest := by
  induction word generalizing current with
  | nil => rfl
  | cons char word ih =>
      rw [List.forall_mem_cons] at noBlank
      rw [List.cons_append, wordsFrom, if_neg (by simp [noBlank.1]), ih noBlank.2]
      simp

theorem IsWord.words {word : List Char} (isWord : IsWord word) : words word = [word] := by
  have read := wordsFrom_append isWord.2 [] []
  rw [List.append_nil, List.append_nil] at read
  rw [Text.words, read, wordsFrom, if_neg (by simp [isWord.1]), List.reverse_reverse]

/-- A word before a space is the first word. -/
theorem IsWord.words_append {word : List Char} (isWord : IsWord word) (rest : List Char) :
    Text.words (word ++ ' ' :: rest) = word :: Text.words rest := by
  have space : isBlank ' ' = true := by decide
  rw [Text.words, wordsFrom_append isWord.2, List.append_nil, wordsFrom, if_pos space,
    if_neg (by simp [isWord.1]), List.reverse_reverse]
  rfl

theorem dropWhile_eq_self {first : Char} {text : List Char} (begins : text.head? = some first)
    (notBlank : isBlank first = false) : text.dropWhile isBlank = text := by
  cases text with
  | nil => rfl
  | cons char rest =>
      cases begins
      rw [List.dropWhile_cons_of_neg (by simp [notBlank])]

/-- There is nothing to cut off around a text between characters that are not blank. -/
theorem trim_eq_self {first last : Char} {text : List Char} (begins : text.head? = some first)
    (ends : text.getLast? = some last) (firstNotBlank : isBlank first = false)
    (lastNotBlank : isBlank last = false) : trim text = text := by
  rw [List.getLast?_eq_head?_reverse] at ends
  rw [trim, dropWhile_eq_self begins firstNotBlank, dropWhile_eq_self ends lastNotBlank,
    List.reverse_reverse]

end Tabula.Text
