import Tabula.Text.Columns.Table

/-!
# Terminal columns

How many columns of a terminal a text takes. Most characters take one, wide
characters two and marks none; control characters count as one. Some sequences
are drawn as a single sign and are counted as such: characters with a variation
selector, emoji with a skin tone, emoji joined by a zero width joiner, and pairs of
letters that some scripts write as one.

What a character adds depends on how the text after it opens, so a text is
measured from its end. A blank joins nothing: texts with a blank between them are
counted apart (`columns_append_blank`).
-/

namespace Tabula.Text.Columns

/-- The columns of a character that stands alone. -/
def ofChar (char : Char) : Nat :=
  if char.toNat ≤ 0xA0 then 1
  else if char.toNat = 0x17D8 then 3
  else if zeroWidth.holds char then 0
  else if wide.holds char then 2
  else 1

/-- The variation selector that asks for text. -/
def textSelector : Char := '\uFE0E'

/-- The variation selector that asks for an emoji. -/
def emojiSelector : Char := '\uFE0F'

/-- The variation selector that asks for the full-width form of a quotation mark. -/
def wideSelector : Char := '\uFE01'

/-- The zero width joiner. -/
def joiner : Char := '\u200D'

/-- The mark that makes a key of the sign before it. -/
def keycap : Char := '\u20E3'

/-- Whether a code point is in a range. -/
def isWithin (first last : Nat) (char : Char) : Bool :=
  first ≤ char.toNat && char.toNat ≤ last

/-- Whether a character is one of the five skin tones. -/
def isSkinTone : Char → Bool := isWithin 0x1F3FB 0x1F3FF

/-- Whether a character is one of the letters of which flags are pairs. -/
def isIndicator : Char → Bool := isWithin 0x1F1E6 0x1F1FF

/-- Whether a character is a letter of the name of a region in a flag. -/
def isTagLetter : Char → Bool := isWithin 0xE0061 0xE007A

/-- Whether a character is a digit of the name of a region in a flag. -/
def isTagDigit : Char → Bool := isWithin 0xE0030 0xE0039

/-- Whether a selector can ask for the character as an emoji. -/
def hasEmojiForm (char : Char) : Bool :=
  textEmoji.holds char || dualEmoji.holds char

/-- Whether a selector can ask for the character as a narrow text. Enclosed
ideographs stay wide. -/
def hasNarrowForm (char : Char) : Bool :=
  dualEmoji.holds char && !isWithin 0x1F200 0x1F2FF char

/-- Whether a selector can ask for the full-width form of the character. -/
def hasWideForm (char : Char) : Bool :=
  char = '\u2018' || char = '\u2019' || char = '\u201C' || char = '\u201D'

/-- Letters that form one sign with a letter before them. -/
inductive Letter where
  /-- The Hebrew letter lamed, after alef and a joiner. -/
  | lamed
  /-- The Buginese letter ya, after two vowel signs and a joiner. -/
  | ya
  /-- A Tifinagh consonant, after another one and a joiner. -/
  | consonant
  /-- The Old Turkic letter i, after nd and a joiner. -/
  | turkic
  deriving DecidableEq, Repr

/-- How a text opens, as far as it matters to the character before it. -/
inductive Opening where
  /-- With nothing that joins the character before it. -/
  | plain
  | skinTone
  /-- With one letter of a flag. -/
  | indicator
  /-- With several letters of flags. -/
  | indicators
  | emoji
  /-- With a joiner and an emoji. -/
  | joinedEmoji
  /-- With a keycap before a joiner and an emoji. -/
  | joinedKeycap
  /-- With one letter of a flag before a joiner and an emoji. -/
  | joinedIndicator
  /-- With flags before a joiner and an emoji. -/
  | joinedFlags
  /-- With a letter of a flag before such flags. -/
  | joinedFlagsIndicator
  /-- With the end of the name of a region before a joiner and an emoji. -/
  | joinedTags (letters digits : Nat)
  /-- With an Arabic alef. -/
  | alef
  /-- With a letter, or a joiner and that letter. -/
  | letter (which : Letter) (joined : Bool)
  /-- With the later of two Buginese vowel signs, a joiner and ya. -/
  | joinedVowel
  /-- With the Tifinagh consonant joiner and a consonant. -/
  | joinedConsonant
  /-- With a Lisu tone letter that can be the later one of two. -/
  | toneLetter
  /-- With a Khmer letter that has a subscript form. -/
  | subscriptLetter
  /-- With the Kirat Rai vowel sign e, which is also the later part of ai and au. -/
  | vowelE
  /-- With the Kirat Rai vowel sign ai, which is also the later part of au. -/
  | vowelAi
  deriving DecidableEq, Repr

namespace Opening

/-- Columns that are not counted yet because the character before the text may
take them back. -/
def held : Opening → Nat
  | .joinedIndicator | .joinedFlagsIndicator | .joinedConsonant | .subscriptLetter => 1
  | _ => 0

/-- Whether a text opens with a letter that joins across selectors. -/
def isLetter : Opening → Bool
  | .alef | .letter .. | .joinedVowel | .joinedConsonant | .toneLetter | .subscriptLetter => true
  | _ => false

/-- Whether a text opens with a joiner that an emoji with a selector can precede. -/
def isJoined : Opening → Bool
  | .joinedEmoji | .joinedKeycap => true
  | _ => false

/-- The opening with a joiner before a letter. -/
def tie : Opening → Opening
  | .letter which _ => .letter which true
  | opening => opening

/-- The columns that a character adds when it joins the opening of a text, and the
opening of both. -/
def join? (char : Char) : Opening → Option (Nat × Opening)
  | .plain | .joinedKeycap => none
  | .skinTone =>
      if modifierBase.holds char then some (0, .emoji)
      else if char = joiner then some (0, .joinedEmoji)
      else none
  | .indicator => if isIndicator char then some (1, .indicators) else none
  | .indicators =>
      if isIndicator char then some (1, .indicators)
      else if char = joiner then some (0, .joinedEmoji)
      else none
  | .emoji => if char = joiner then some (0, .joinedEmoji) else none
  | .joinedEmoji =>
      if char = keycap then some (0, .joinedKeycap)
      else if isIndicator char then some (0, .joinedIndicator)
      else if isSkinTone char then some (0, .skinTone)
      else if char.toNat = 0xE007F then some (0, .joinedTags 0 0)
      else if pictureEmoji.holds char then some (0, .emoji)
      else none
  | .joinedIndicator => if isIndicator char then some (0, .joinedFlags) else none
  | .joinedFlags =>
      if isIndicator char then some (2, .joinedFlagsIndicator)
      else if char = joiner then some (0, .joinedEmoji)
      else none
  | .joinedFlagsIndicator =>
      if isIndicator char then some (0, .joinedFlags)
      else if char = joiner then some (1, .joinedEmoji)
      else none
  | .joinedTags letters digits =>
      if isTagLetter char && letters < 6 && digits = 0 then some (0, .joinedTags (letters + 1) 0)
      else if isTagDigit char && letters ≤ 4 && digits < 3 then
        some (0, .joinedTags letters (digits + 1))
      else if char.toNat = 0x1F3F4 && (digits = 3 || digits = 0 && 3 ≤ letters) then
        some (0, .emoji)
      else none
  | .alef =>
      if lamForms.holds char then some (0, .plain)
      else if zeroWidth.holds char && transparent.holds char then some (0, .alef)
      else none
  | .letter .lamed joined => if joined && char = '\u05D0' then some (0, .plain) else none
  | .letter .ya joined => if joined && char = '\u1A17' then some (0, .joinedVowel) else none
  | .letter .consonant joined =>
      if char = '\u2D7F' then some (0, .joinedConsonant)
      else if joined && consonants.holds char then some (0, .plain)
      else none
  | .letter .turkic joined => if joined && char.toNat = 0x10C32 then some (0, .plain) else none
  | .joinedVowel => if char = '\u1A15' then some (0, .plain) else none
  | .joinedConsonant => if consonants.holds char then some (0, .plain) else none
  | .toneLetter => if isWithin 0xA4F8 0xA4FB char then some (0, .plain) else none
  | .subscriptLetter => if char = '\u17D2' then some (0, .plain) else none
  | .vowelE =>
      if char.toNat = 0x16D63 || char.toNat = 0x16D69 then some (0, .plain)
      else if char.toNat = 0x16D67 then some (0, .vowelAi)
      else if char.toNat = 0x16D68 then some (1, .vowelE)
      else none
  | .vowelAi => if char.toNat = 0x16D63 then some (0, .plain) else none

/-- The columns of a character that joins nothing, and the opening that it is. -/
def ofChar (char : Char) : Nat × Opening :=
  if char = '\u05DC' then (1, .letter .lamed false)
  else if alefForms.holds char then (1, .alef)
  else if subscriptLetters.holds char then (0, .subscriptLetter)
  else if char = '\u1A10' then (1, .letter .ya false)
  else if consonants.holds char then (1, .letter .consonant false)
  else if isWithin 0xA4FC 0xA4FD char then (1, .toneLetter)
  else if char.toNat = 0x10C03 then (1, .letter .turkic false)
  else if char.toNat = 0x16D67 then (1, .vowelE)
  else if char.toNat = 0x16D68 then (1, .vowelAi)
  else if isIndicator char then (1, .indicator)
  else if isSkinTone char then (2, .skinTone)
  else if pictureEmoji.holds char then (2, .emoji)
  else (Columns.ofChar char, .plain)

end Opening

/-- The front of a text: how it opens, and whether variation selectors come before
that. -/
structure Front where
  opening : Opening
  asEmoji : Bool
  asText : Bool
  asWide : Bool
  deriving DecidableEq, Repr

namespace Front

/-- The front of an opening without selectors. -/
def of (opening : Opening) : Front :=
  ⟨opening, false, false, false⟩

/-- The front without a selector for an emoji. Only letters are kept behind a
selector that nothing takes up. -/
def dropEmoji (front : Front) : Front :=
  if !front.asEmoji then front
  else if front.opening.isLetter then { front with asEmoji := false }
  else of .plain

/-- Puts the selector for an emoji in front. -/
def selectEmoji (front : Front) : Nat × Front :=
  if front.opening.isLetter || front.opening.isJoined then (0, { front with asEmoji := true })
  else (front.opening.held, { of .plain with asEmoji := true })

/-- Puts the selector for text in front. -/
def selectText (front : Front) : Nat × Front :=
  if front.opening.isLetter then (0, { front with asText := true })
  else (front.opening.held, { of .plain with asText := true })

/-- Puts the selector for a full-width form in front. -/
def selectWide (front : Front) : Nat × Front :=
  if front.opening.isLetter then (0, { front with asWide := true })
  else (front.opening.held, { of .plain with asWide := true })

/-- Puts a character that is no selector before an opening. -/
def attach (char : Char) (opening : Opening) : Nat × Front :=
  if opening.isLetter && opening ≠ .alef && joinControls.holds char then
    (0, of (if char = joiner then opening.tie else opening))
  else match opening.join? char with
    | some (count, joined) => (count, of joined)
    | none => ((Opening.ofChar char).1 + opening.held, of (Opening.ofChar char).2)

/-- Puts a character in front of a text: the columns that are counted for it, and
the new front. -/
def advance (char : Char) (front : Front) : Nat × Front :=
  if front.asEmoji && hasEmojiForm char then
    ((if front.opening.isJoined then 0 else 2) + front.opening.held, of .emoji)
  else if char.toNat ≤ 0xA0 then (1 + front.opening.held, of .plain)
  else
    let rest := front.dropEmoji
    if char = emojiSelector then rest.selectEmoji
    else if char = textSelector then rest.selectText
    else if char = wideSelector then rest.selectWide
    else if rest.asText && hasNarrowForm char then (1 + rest.opening.held, of .plain)
    else if rest.asWide && hasWideForm char then (2 + rest.opening.held, of .plain)
    else attach char rest.opening

end Front

/-- The columns that are counted for a text put in front of another, and the front
of both. -/
def measure (text : List Char) (front : Front) : Nat × Front :=
  text.foldr
    (fun char rest =>
      let added := rest.2.advance char
      (rest.1 + added.1, added.2))
    (0, front)

theorem measure_append (left right : List Char) (front : Front) :
    measure (left ++ right) front =
      ((measure right front).1 + (measure left (measure right front).2).1,
        (measure left (measure right front).2).2) := by
  induction left with
  | nil => simp [measure]
  | cons char rest ih =>
      simp only [measure, List.cons_append, List.foldr_cons] at ih ⊢
      rw [ih]
      exact Prod.ext (Nat.add_assoc _ _ _) rfl

/-- A blank takes a column of its own and joins nothing. -/
theorem advance_blank (front : Front) :
    front.advance ' ' = (1 + front.opening.held, .of .plain) := by
  have alone : hasEmojiForm ' ' = false := by decide
  simp [Front.advance, alone]

end Columns

/-- The number of terminal columns that a text takes. -/
def columns (text : List Char) : Nat :=
  let measured := Columns.measure text (.of .plain)
  measured.1 + measured.2.opening.held

@[simp]
theorem columns_nil : columns [] = 0 := rfl

/-- Texts on both sides of a blank are counted apart. -/
theorem columns_append_blank (left right : List Char) :
    columns (left ++ ' ' :: right) = columns left + 1 + columns right := by
  have blank : Columns.measure (' ' :: right) (.of .plain) =
      (columns right + 1, .of .plain) := by
    simp only [Columns.measure, List.foldr_cons, Columns.advance_blank]
    exact Prod.ext (by simp [columns, Columns.measure]; omega) rfl
  simp only [columns, Columns.measure_append, blank]
  omega

end Tabula.Text
