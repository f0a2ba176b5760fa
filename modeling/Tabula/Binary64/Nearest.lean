import Tabula.Binary64.Basic

/-!
# The nearest double

The double nearest to a quotient of natural numbers, and to a decimal. A value
half way between two doubles goes to the one with even rank; beyond the largest
double it goes to infinity.
-/

namespace Tabula

namespace Binary64

/-- The quotient rounded to the nearest natural number, a half to the even one. -/
def roundHalfEven (numerator denominator : Nat) : Nat :=
  let quotient := numerator / denominator
  let rest := numerator % denominator
  if denominator < 2 * rest || (2 * rest == denominator && quotient % 2 == 1) then quotient + 1
  else quotient

/-- The quotient times a power of two, as a quotient. -/
def scale (numerator denominator : Nat) (power : Int) : Nat × Nat :=
  match power with
  | .ofNat exponent => (numerator * Nat.pow 2 exponent, denominator)
  | .negSucc exponent => (numerator, denominator * Nat.pow 2 (exponent + 1))

/-- The largest power of two that is not above a positive quotient. -/
def floorLog2 (numerator denominator : Nat) : Int :=
  let guess : Int := numerator.log2 - denominator.log2
  let scaled := scale numerator denominator (-guess)
  if scaled.1 < scaled.2 then guess - 1 else guess

/-- The rank nearest to a quotient. The significand has 53 bits, fewer where the
exponent has reached its lower end. -/
def Rank.nearest (numerator denominator : Nat) : Rank :=
  if numerator = 0 then Rank.ofNat 0
  else
    let exponent := max (floorLog2 numerator denominator - 52) (-1074)
    let scaled := scale numerator denominator (-exponent)
    Rank.ofNat
      ((exponent + 1074).toNat * fractionCount + roundHalfEven scaled.1 scaled.2)

end Binary64

/-- The decimal number `digits * 10 ^ exponent`. -/
structure Decimal where
  digits : Nat
  exponent : Int
  deriving DecidableEq, Repr

namespace Decimal

/-- The digits of a natural number, the most significant first. -/
def digitChars (number : Nat) : List Char :=
  Nat.toDigits 10 number

/-- A decimal as a quotient. -/
def quotient (decimal : Decimal) : Nat × Nat :=
  match decimal.exponent with
  | .ofNat exponent => (decimal.digits * Nat.pow 10 exponent, 1)
  | .negSucc exponent => (decimal.digits, Nat.pow 10 (exponent + 1))

/-- The rank nearest to a decimal. Decimals of more than 310 places before the
point are infinite and those below `10 ^ (-330)` are zero, so powers of ten stay
small. -/
def nearestRank (decimal : Decimal) : Binary64.Rank :=
  let places := decimal.exponent + (digitChars decimal.digits).length
  if decimal.digits = 0 || places < -330 then Binary64.Rank.ofNat 0
  else if 310 < places then Binary64.infinite
  else Binary64.Rank.nearest decimal.quotient.1 decimal.quotient.2

end Decimal

end Tabula
