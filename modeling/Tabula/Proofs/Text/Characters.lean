import Tabula.Text.Blank
import Tabula.Text.Case
import Tabula.Text.RangeTable

/-!
# Characters

Letters and digits in lower case, and white space as a table of ranges.
-/

namespace Tabula.Text

/-! ## Letter case -/

theorem ascii_of_toLower {char : Char} (ascii : char.toLower.toNat < 0x80) :
    char.toNat < 0x80 := by
  delta Char.toLower at ascii
  split at ascii
  · rename_i upper
    have bound : char.toNat ≤ 'Z'.toNat := UInt32.le_iff_toNat_le.1 upper.2
    exact Nat.lt_of_le_of_lt bound (by decide)
  · exact ascii

theorem ascii_of_isAlpha {char : Char} (isLetter : char.isAlpha = true) : char.toNat < 0x80 := by
  delta Char.isAlpha Char.isUpper Char.isLower at isLetter
  simp only [Bool.or_eq_true, Bool.and_eq_true, decide_eq_true_eq] at isLetter
  rcases isLetter with ⟨_, upper⟩ | ⟨_, lower⟩
  · have bound : char.toNat ≤ 'Z'.toNat := UInt32.le_iff_toNat_le.1 upper
    exact Nat.lt_of_le_of_lt bound (by decide)
  · have bound : char.toNat ≤ 'z'.toNat := UInt32.le_iff_toNat_le.1 lower
    exact Nat.lt_of_le_of_lt bound (by decide)

/-- Characters that are some ASCII letters but for their case are read as these. -/
theorem flatMap_lowerChar {chars letters : List Char}
    (spelled : chars.map Char.toLower = letters)
    (ascii : letters.all (fun char => char.toNat < 0x80) = true) :
    chars.flatMap lowerChar = letters := by
  subst spelled
  induction chars with
  | nil => rfl
  | cons char rest ih =>
      rw [List.map_cons, List.all_cons, Bool.and_eq_true, decide_eq_true_eq] at ascii
      have here := ascii_of_toLower ascii.1
      rw [List.flatMap_cons, lowerChar_of_ascii here, ih ascii.2]
      rfl

theorem lowerChar_digit {char : Char} (isDigit : char.isDigit = true) :
    lowerChar char = [char] := by
  obtain ⟨_, above⟩ := Char.isDigit_iff_toNat.1 isDigit
  have nine : '9'.toNat = 57 := rfl
  have capital : 'A'.val.toNat = 65 := rfl
  have noCapital : ¬(char.val ≥ 'A'.val ∧ char.val ≤ 'Z'.val) := by
    rintro ⟨atLeast, _⟩
    have bound := UInt32.le_iff_toNat_le.1 atLeast
    change 'A'.val.toNat ≤ char.toNat at bound
    omega
  have kept : char.toLower = char := dif_neg noCapital
  rw [lowerChar_of_ascii (by omega), kept]

/-- A table without empty images leaves no character out. -/
theorem CaseTable.map_ne_nil {table : CaseTable} (images : ∀ entry ∈ table.longer, entry.2 ≠ [])
    (char : Char) : table.map char ≠ [] := by
  rw [CaseTable.map]
  split
  · simp
  · split
    · rename_i image found
      obtain ⟨before, after, longerEq, _⟩ := List.lookup_eq_some_iff.1 found
      have member : (char.toNat, image) ∈ table.longer := by simp [longerEq]
      simpa using images _ member
    · simp

theorem lowerChar_ne_nil (char : Char) : lowerChar char ≠ [] := by
  rw [lowerChar]
  split
  · simp
  · exact CaseTable.map_ne_nil (by simp [lowerTable]) char

/-! ## White space -/

/-- The code points of white space. -/
def blankRanges : RangeTable :=
  [(0x9, 0xD), (0x20, 0x20), (0x85, 0x85), (0xA0, 0xA0), (0x1680, 0x1680), (0x2000, 0x200A),
   (0x2028, 0x2028), (0x2029, 0x2029), (0x202F, 0x202F), (0x205F, 0x205F), (0x3000, 0x3000)]

theorem isBlank_iff_holds {char : Char} :
    isBlank char = true ↔ blankRanges.holds char = true := by
  have alone : ∀ low code : Nat, low ≤ code ∧ code ≤ low ↔ code = low := by omega
  simp only [isBlank, RangeTable.holds, blankRanges, List.any_cons, List.any_nil, Bool.or_eq_true,
    Bool.and_eq_true, decide_eq_true_eq, beq_iff_eq, alone, Bool.false_eq_true, or_false, or_assoc]

end Tabula.Text
