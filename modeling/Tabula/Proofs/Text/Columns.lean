import Tabula.Text.Columns

/-!
# Texts that are counted apart

A text that opens plainly joins nothing before it, so it is counted apart from what it is
put behind. That holds of every text with a blank in front and of texts of plain characters,
each of which takes one column.
-/

namespace Tabula.Text

namespace Columns

/-- Whether a text opens with nothing that joins the character before it. -/
def OpensPlainly (text : List Char) : Prop :=
  (measure text (.of .plain)).2 = .of .plain

/-- Whether a character before a text that opens plainly takes one column and opens plainly. -/
def IsPlain (char : Char) : Prop :=
  Front.advance char (.of .plain) = (1, .of .plain)

instance : DecidablePred IsPlain :=
  fun char => inferInstanceAs (Decidable (Front.advance char (.of .plain) = (1, .of .plain)))

theorem measure_cons (char : Char) (text : List Char) (front : Front) :
    measure (char :: text) front =
      ((measure text front).1 + ((measure text front).2.advance char).1,
        ((measure text front).2.advance char).2) :=
  rfl

theorem isPlain_blank : IsPlain ' ' :=
  advance_blank (.of .plain)

theorem opensPlainly_nil : OpensPlainly [] :=
  rfl

theorem opensPlainly_blank (text : List Char) : OpensPlainly (' ' :: text) := by
  rw [OpensPlainly, measure_cons, advance_blank]

theorem OpensPlainly.cons {char : Char} {text : List Char} (opens : OpensPlainly text)
    (plain : IsPlain char) : OpensPlainly (char :: text) := by
  rw [OpensPlainly, measure_cons, opens, plain]

theorem OpensPlainly.append {left right : List Char} (leftOpens : OpensPlainly left)
    (rightOpens : OpensPlainly right) : OpensPlainly (left ++ right) := by
  rw [OpensPlainly, measure_append, rightOpens]
  exact leftOpens

theorem opensPlainly_of_plain {text : List Char} (plain : ∀ char ∈ text, IsPlain char) :
    OpensPlainly text := by
  induction text with
  | nil => exact opensPlainly_nil
  | cons char rest ih =>
      rcases List.forall_mem_cons.1 plain with ⟨charPlain, restPlain⟩
      exact (ih restPlain).cons charPlain

theorem OpensPlainly.measure_eq {text : List Char} (opens : OpensPlainly text) :
    measure text (.of .plain) = (columns text, .of .plain) := by
  have count : columns text = (measure text (.of .plain)).1 := by
    rw [columns, opens]
    rfl
  exact Prod.ext count.symm opens

end Columns

open Columns

/-- A text that opens plainly is counted apart from what stands before it. -/
theorem columns_append_of_opensPlainly (left : List Char) {right : List Char}
    (opens : OpensPlainly right) : columns (left ++ right) = columns left + columns right := by
  have measured := measure_append left right (.of .plain)
  rw [opens.measure_eq] at measured
  rw [columns, measured]
  change columns right + (measure left (.of .plain)).1 +
    (measure left (.of .plain)).2.opening.held = columns left + columns right
  rw [Nat.add_assoc, Nat.add_comm]
  rfl

theorem columns_cons_of_isPlain {char : Char} (plain : IsPlain char) {text : List Char}
    (opens : OpensPlainly text) : columns (char :: text) = 1 + columns text := by
  have measured : measure [char] (.of .plain) = (1, .of .plain) := by
    rw [measure_cons]
    change (0 + (Front.advance char (.of .plain)).1, (Front.advance char (.of .plain)).2) = _
    rw [plain, Nat.zero_add]
  have alone : columns [char] = 1 := by
    rw [columns, measured]
    rfl
  rw [← List.singleton_append, columns_append_of_opensPlainly [char] opens, alone]

theorem columns_replicate {char : Char} (plain : IsPlain char) (count : Nat) :
    columns (List.replicate count char) = count := by
  induction count with
  | zero => rfl
  | succ count ih =>
      have opens : OpensPlainly (List.replicate count char) :=
        opensPlainly_of_plain fun other member => List.eq_of_mem_replicate member ▸ plain
      rw [List.replicate_succ, columns_cons_of_isPlain plain opens, ih, Nat.add_comm]

theorem columns_append_blanks (text : List Char) (count : Nat) :
    columns (text ++ List.replicate count ' ') = columns text + count := by
  have opens : OpensPlainly (List.replicate count ' ') :=
    opensPlainly_of_plain fun other member => List.eq_of_mem_replicate member ▸ isPlain_blank
  rw [columns_append_of_opensPlainly text opens, columns_replicate isPlain_blank]

theorem columns_blanks_append (count : Nat) (text : List Char) :
    columns (List.replicate count ' ' ++ text) = count + columns text := by
  induction count with
  | zero => simp
  | succ count ih =>
      have split : List.replicate (count + 1) ' ' ++ text =
          [] ++ ' ' :: (List.replicate count ' ' ++ text) := rfl
      rw [split, columns_append_blank, ih, columns_nil]
      omega

theorem columns_between_blanks (text : List Char) :
    columns (' ' :: text ++ [' ']) = columns text + 2 := by
  have front := columns_blanks_append 1 text
  have behind := columns_append_blanks (' ' :: text) 1
  rw [List.replicate_one, List.singleton_append] at front
  rw [List.replicate_one, front] at behind
  rw [behind, Nat.add_comm 1, Nat.add_assoc]

end Tabula.Text
