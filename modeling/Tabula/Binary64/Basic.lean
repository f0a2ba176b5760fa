/-!
# Double precision numbers

A double other than NaN is a sign and a rank, the number of non-negative doubles
below its magnitude. The order of doubles is the order of the signed ranks, so
comparisons need no arithmetic on fractions; the two zeros have the same signed
rank and NaN has none.
-/

namespace Tabula

namespace Binary64

/-- The number of finite magnitudes, which is the rank of infinity. -/
def infinityRank : Nat := 0x7FF0000000000000

/-- The number of fractions that go with one exponent. -/
def fractionCount : Nat := 0x10000000000000

/-- The ranks of the magnitudes, infinity included. -/
abbrev Rank := Fin (infinityRank + 1)

end Binary64

/-- A double precision number; all NaNs are one. -/
inductive Binary64 where
  | nan
  | real (negative : Bool) (rank : Binary64.Rank)
  deriving DecidableEq, Repr

namespace Binary64

/-- The rank of infinity as a rank. -/
def infinite : Rank := ⟨infinityRank, Nat.lt_succ_self _⟩

/-- The rank of a count of doubles, infinity from there on. -/
def Rank.ofNat (count : Nat) : Rank :=
  if bound : count < infinityRank + 1 then ⟨count, bound⟩ else infinite

/-- The rank with the sign; NaN has none. -/
def signedRank : Binary64 → Option Int
  | .nan => none
  | .real true rank => some (-rank.val)
  | .real false rank => some rank.val

/-- The integer part of the fraction that a rank stands for, and the power of two
that it is multiplied with. -/
def Rank.significand (rank : Rank) : Nat × Int :=
  let exponent : Nat := rank.val / fractionCount
  let fraction : Nat := rank.val % fractionCount
  if exponent = 0 then (fraction, -1074) else (fraction + fractionCount, (exponent : Int) - 1075)

/-- Numeric equality: NaN equals nothing and the zeros are equal. -/
def equals (left right : Binary64) : Bool :=
  match left.signedRank, right.signedRank with
  | some leftRank, some rightRank => leftRank == rightRank
  | _, _ => false

/-- Numeric order: NaN is neither below nor above anything. -/
def isBelow (left right : Binary64) : Bool :=
  match left.signedRank, right.signedRank with
  | some leftRank, some rightRank => leftRank < rightRank
  | _, _ => false

/-- Sameness of contents: numeric equality, but NaN is the same as NaN. -/
def same (left right : Binary64) : Bool :=
  left.signedRank == right.signedRank

theorem signedRank_eq_none_iff {number : Binary64} :
    number.signedRank = none ↔ number = .nan := by
  cases number with
  | nan => simp [signedRank]
  | real negative rank => cases negative <;> simp [signedRank]

@[simp]
theorem same_self (number : Binary64) : number.same number = true := by
  simp [same]

theorem same_comm (left right : Binary64) : left.same right = right.same left := by
  rw [same, same, Bool.beq_comm]

/-- Away from NaN, contents are the same exactly when the numbers are equal. -/
theorem same_eq_equals {left right : Binary64} (notNan : left ≠ .nan) :
    left.same right = left.equals right := by
  cases leftRank : left.signedRank with
  | none => exact absurd (signedRank_eq_none_iff.1 leftRank) notNan
  | some rank => cases rightRank : right.signedRank <;> simp [same, equals, leftRank, rightRank]

theorem equals_iff {left right : Binary64} :
    left.equals right = true ↔
      ∃ rank, left.signedRank = some rank ∧ right.signedRank = some rank := by
  unfold equals
  split
  · rename_i leftRank rightRank isLeft isRight
    simp [isLeft, isRight, eq_comm (a := leftRank)]
  · rename_i notBoth
    simpa using fun rank isLeft isRight => notBoth rank rank isLeft isRight

theorem isBelow_iff {left right : Binary64} :
    left.isBelow right = true ↔
      ∃ lower upper, left.signedRank = some lower ∧ right.signedRank = some upper ∧
        lower < upper := by
  cases leftRank : left.signedRank <;> cases rightRank : right.signedRank <;>
    simp [isBelow, leftRank, rightRank]

theorem isBelow_irrefl (number : Binary64) : number.isBelow number = false := by
  cases rank : number.signedRank <;> simp [isBelow, rank]

end Binary64

end Tabula
