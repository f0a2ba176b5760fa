import Tabula.Binary64.Nearest

/-!
# The text of a double

Reading takes an optional sign and either digits with an optional point and
exponent or one of the words for infinity and NaN, and rounds to the nearest
double. Writing gives the fewest digits that read back to the same double, in
positional notation without an exponent.
-/

namespace Tabula

namespace Decimal

/-- The value of decimal digits that follow a number already read. -/
def digitsFrom (value : Nat) : List Char → Nat
  | [] => value
  | digit :: rest => digitsFrom (10 * value + (digit.toNat - '0'.toNat)) rest

/-- Reads an exponent: nothing, or the letter e, an optional sign and digits. -/
def readExponent? : List Char → Option Int
  | [] => some 0
  | letter :: rest =>
      if letter = 'e' || letter = 'E' then
        match rest with
        | '-' :: digits => (magnitude? digits).map fun value => -(value : Int)
        | '+' :: digits => (magnitude? digits).map Int.ofNat
        | digits => (magnitude? digits).map Int.ofNat
      else none
where
  /-- The value of a non-empty run of digits. -/
  magnitude? (digits : List Char) : Option Nat :=
    if digits.isEmpty || !digits.all Char.isDigit then none else some (digitsFrom 0 digits)

/-- Reads digits with an optional point, on at least one side of which there is a
digit, and an optional exponent. -/
def read? (text : List Char) : Option Decimal :=
  let whole := text.takeWhile Char.isDigit
  let afterWhole := text.dropWhile Char.isDigit
  let (fraction, afterFraction) := match afterWhole with
    | '.' :: rest => (rest.takeWhile Char.isDigit, rest.dropWhile Char.isDigit)
    | rest => ([], rest)
  if whole.isEmpty && fraction.isEmpty then none
  else
    (readExponent? afterFraction).map fun exponent =>
      ⟨digitsFrom 0 (whole ++ fraction), exponent - fraction.length⟩

/-- The decimal without the zeros at the end of its digits. At most `fuel` zeros
are taken off. -/
def withoutZeros (fuel : Nat) (decimal : Decimal) : Decimal :=
  match fuel with
  | 0 => decimal
  | fuel + 1 =>
      if decimal.digits % 10 = 0 then withoutZeros fuel ⟨decimal.digits / 10, decimal.exponent + 1⟩
      else decimal

/-- Positional notation: zeros up to the point, or the digits around it. -/
def positional (decimal : Decimal) : List Char :=
  let digits := digitChars decimal.digits
  match decimal.exponent with
  | .ofNat exponent => digits ++ List.replicate exponent '0'
  | .negSucc exponent =>
      let places := exponent + 1
      if places < digits.length then
        digits.take (digits.length - places) ++ '.' :: digits.drop (digits.length - places)
      else '0' :: '.' :: (List.replicate (places - digits.length) '0' ++ digits)

end Decimal

namespace Binary64

namespace Rank

/-- A finite magnitude as a quotient. -/
def quotient (rank : Rank) : Nat × Nat :=
  scale rank.significand.1 1 rank.significand.2

/-- The largest power of ten that is not above a positive quotient. -/
def floorLog10 (numerator denominator : Nat) : Int :=
  if denominator ≤ numerator then
    ((Decimal.digitChars (numerator / denominator)).length : Int) - 1
  else
    let places := (Decimal.digitChars (denominator / numerator)).length
    if denominator ≤ numerator * Nat.pow 10 (places - 1) then -((places : Int) - 1)
    else -(places : Int)

/-- The decimal of the given number of digits that reads back to the rank and is
nearest to it, the greater of two equally near ones. Only the two neighbours of
the exact value can qualify. -/
def decimalOf? (rank : Rank) (digitCount : Nat) : Option Decimal :=
  let (numerator, denominator) := rank.quotient
  let exponent := floorLog10 numerator denominator + 1 - digitCount
  let (scaled, unit) := match exponent with
    | .ofNat power => (numerator, denominator * Nat.pow 10 power)
    | .negSucc power => (numerator * Nat.pow 10 (power + 1), denominator)
  let below : Decimal := ⟨scaled / unit, exponent⟩
  let above : Decimal := ⟨scaled / unit + 1, exponent⟩
  let belowFits := below.nearestRank == rank
  let aboveFits := above.nearestRank == rank
  if belowFits && (!aboveFits || 2 * (scaled % unit) < unit) then some below
  else if aboveFits then some above
  else none

/-- The shortest decimal that reads back to the rank; seventeen digits always
suffice. -/
def shortest (rank : Rank) : Decimal :=
  (((List.range 17).findSome? fun index => rank.decimalOf? (index + 1)).getD ⟨0, 0⟩).withoutZeros 17

end Rank

/-- The text of a magnitude. -/
def magnitudeText (rank : Rank) : List Char :=
  if rank = infinite then ['i', 'n', 'f']
  else if rank.val = 0 then ['0']
  else rank.shortest.positional

/-- The text of a double. -/
def text : Binary64 → String
  | .nan => "NaN"
  | .real negative rank =>
      String.ofList (if negative then '-' :: magnitudeText rank else magnitudeText rank)

/-- Reads the part after the sign. -/
def readUnsigned? (negative : Bool) (body : List Char) : Option Binary64 :=
  let word := String.ofList (body.map Char.toLower)
  if word = "inf" || word = "infinity" then some (.real negative infinite)
  else if word = "nan" then some .nan
  else (Decimal.read? body).map fun decimal => .real negative decimal.nearestRank

/-- Reads a double. -/
def read? (text : List Char) : Option Binary64 :=
  match text with
  | '-' :: body => readUnsigned? true body
  | '+' :: body => readUnsigned? false body
  | body => readUnsigned? false body

/-- The double of an integer. -/
def ofInt (number : Int) : Binary64 :=
  .real (number < 0) (Decimal.nearestRank ⟨number.natAbs, 0⟩)

end Binary64

end Tabula
