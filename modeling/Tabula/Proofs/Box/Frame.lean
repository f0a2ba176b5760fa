import Mathlib.Algebra.GroupWithZero.Nat
import Mathlib.Data.List.Forall2
import Tabula.Proofs.Box.Width
import Tabula.Proofs.Text.Columns

/-!
# Lines in frames

A line of a drawing is a frame around fields with a sign between them. The signs are counted
apart from the fields, because every field opens with a blank or a sign of a rule; so a line
is as wide as its fields and signs together. A block of lines shows the texts of one row.
-/

namespace Tabula.Box

open Text.Columns

/-! ## Frames -/

/-- A line of fields with a sign on the left, between two fields, and on the right. -/
def framed (left crossing right : Char) (fields : List (List Char)) : List Char :=
  left :: ([crossing].intercalate fields ++ [right])

/-- Whether a character can be part of a frame: it takes one column and ends no line. -/
structure IsSign (sign : Char) : Prop where
  plain : IsPlain sign
  notFeed : sign ≠ '\n'

instance : DecidablePred IsSign := fun sign =>
  decidable_of_iff (IsPlain sign ∧ sign ≠ '\n')
    ⟨fun both => ⟨both.1, both.2⟩, fun isSign => ⟨isSign.plain, isSign.notFeed⟩⟩

/-- Whether a field takes some number of columns wherever it is put in a frame. -/
structure IsFieldOf (size : Nat) (field : List Char) : Prop where
  columns : Text.columns field = size
  opens : OpensPlainly field
  noFeed : '\n' ∉ field

/-- Whether a line is a frame around fields of the given numbers of columns. -/
inductive IsFrameOf (sizes : List Nat) : List Char → Prop where
  | mk {left crossing right : Char} {fields : List (List Char)} (leftSign : IsSign left)
      (crossingSign : IsSign crossing) (rightSign : IsSign right)
      (fit : List.Forall₂ IsFieldOf sizes fields) :
      IsFrameOf sizes (framed left crossing right fields)

section Joined

variable {crossing right : Char} {sizes : List Nat} {fields : List (List Char)}

theorem joined_cons_cons (field next : List Char) (rest : List (List Char)) :
    [crossing].intercalate (field :: next :: rest) ++ [right] =
      field ++ crossing :: ([crossing].intercalate (next :: rest) ++ [right]) := by
  rw [List.intercalate_cons_cons, List.append_assoc, List.append_assoc, List.singleton_append]

theorem opensPlainly_joined (crossingPlain : IsPlain crossing) (rightPlain : IsPlain right)
    (fit : List.Forall₂ IsFieldOf sizes fields) :
    OpensPlainly ([crossing].intercalate fields ++ [right]) := by
  induction fit with
  | nil => exact opensPlainly_nil.cons rightPlain
  | cons first rest ih =>
      cases rest with
      | nil =>
          rw [List.intercalate_singleton]
          exact first.opens.append (opensPlainly_nil.cons rightPlain)
      | cons second later =>
          rw [joined_cons_cons]
          exact first.opens.append (ih.cons crossingPlain)

theorem columns_joined (crossingPlain : IsPlain crossing) (rightPlain : IsPlain right)
    (fit : List.Forall₂ IsFieldOf sizes fields) (nonempty : sizes ≠ []) :
    Text.columns ([crossing].intercalate fields ++ [right]) = (sizes.map (· + 1)).sum := by
  induction fit with
  | nil => exact absurd rfl nonempty
  | cons first rest ih =>
      have rightOpens : OpensPlainly [right] := opensPlainly_nil.cons rightPlain
      cases rest with
      | nil =>
          rw [List.intercalate_singleton, Text.columns_append_of_opensPlainly _ rightOpens,
            first.columns, Text.columns_cons_of_isPlain rightPlain opensPlainly_nil]
          simp
      | cons second later =>
          have restOpens := opensPlainly_joined crossingPlain rightPlain (.cons second later)
          rw [List.map_cons, List.sum_cons, joined_cons_cons,
            Text.columns_append_of_opensPlainly _ (restOpens.cons crossingPlain),
            Text.columns_cons_of_isPlain crossingPlain restOpens, first.columns,
            ih (List.cons_ne_nil _ _), Nat.add_assoc]

theorem feed_notMem_joined (crossingSign : IsSign crossing) (rightSign : IsSign right)
    (fit : List.Forall₂ IsFieldOf sizes fields) :
    '\n' ∉ [crossing].intercalate fields ++ [right] := by
  induction fit with
  | nil => simpa using rightSign.notFeed.symm
  | cons first rest ih =>
      cases rest with
      | nil => simpa using ⟨first.noFeed, rightSign.notFeed.symm⟩
      | cons second later =>
          rw [joined_cons_cons, List.mem_append, List.mem_cons, not_or, not_or]
          exact ⟨first.noFeed, crossingSign.notFeed.symm, ih⟩

end Joined

namespace IsFrameOf

variable {sizes : List Nat} {line : List Char}

/-- A frame is one column wider than its fields with a sign behind each of them. -/
theorem columns_eq (isFrame : IsFrameOf sizes line) (nonempty : sizes ≠ []) :
    Text.columns line = 1 + (sizes.map (· + 1)).sum := by
  rcases isFrame with ⟨leftSign, crossingSign, rightSign, fit⟩
  have opens := opensPlainly_joined crossingSign.plain rightSign.plain fit
  rw [framed, Text.columns_cons_of_isPlain leftSign.plain opens,
    columns_joined crossingSign.plain rightSign.plain fit nonempty]

theorem feed_notMem (isFrame : IsFrameOf sizes line) : '\n' ∉ line := by
  rcases isFrame with ⟨leftSign, crossingSign, rightSign, fit⟩
  rw [framed, List.mem_cons, not_or]
  exact ⟨leftSign.notFeed.symm, feed_notMem_joined crossingSign rightSign fit⟩

end IsFrameOf

/-! ## Rules -/

namespace Rule

/-- Whether a rule consists of signs. -/
structure IsDrawable (rule : Rule) : Prop where
  left : IsSign rule.left
  line : IsSign rule.line
  crossing : IsSign rule.crossing
  right : IsSign rule.right

/-- A rule over fields of the given numbers of columns. -/
def across (rule : Rule) (sizes : List Nat) : List Char :=
  framed rule.left rule.crossing rule.right (sizes.map fun size => List.replicate size rule.line)

theorem isFrameOf_across {rule : Rule} (isDrawable : rule.IsDrawable) (sizes : List Nat) :
    IsFrameOf sizes (rule.across sizes) := by
  apply IsFrameOf.mk isDrawable.left isDrawable.crossing isDrawable.right
  rw [List.forall₂_map_right_iff, List.forall₂_same]
  intro size _
  constructor
  · exact Text.columns_replicate isDrawable.line.plain size
  · apply opensPlainly_of_plain
    intro char member
    rw [List.eq_of_mem_replicate member]
    exact isDrawable.line.plain
  · intro member
    exact isDrawable.line.notFeed (List.eq_of_mem_replicate member).symm

theorem draw_eq_across (rule : Rule) (widths : List Nat) :
    rule.draw widths = rule.across (widths.map fun width => min (width + 2) longestPiece) := by
  rw [draw, joinWith_eq, across, List.map_map]
  rfl

end Rule

theorem isDrawable_topRule : topRule.IsDrawable := by
  constructor <;> decide +kernel

theorem isDrawable_headRule : headRule.IsDrawable := by
  constructor <;> decide +kernel

theorem isDrawable_bottomRule : bottomRule.IsDrawable := by
  constructor <;> decide +kernel

theorem isSign_bar : IsSign bar := by
  decide +kernel

/-! ## Blocks -/

/-- What a row shows in one of its columns: a text, the width it is filled up to, and whether
it stands on the right. -/
structure Entry where
  text : String
  width : Nat
  onRight : Bool

namespace Entry

/-- A line of the text. The lines behind the last one are empty. -/
def line (entry : Entry) (index : Nat) : List Char :=
  (linesOf entry.text)[index]?.getD []

/-- Whether a field shows a line of the text: as it is, filled up with blanks on one side, and
between two blanks. -/
def IsShownBy (entry : Entry) (index : Nat) (field : List Char) : Prop :=
  ∃ space, Text.columns (entry.line index) + space = entry.width ∧
    field = ' ' :: (if entry.onRight then List.replicate space ' ' ++ entry.line index
      else entry.line index ++ List.replicate space ' ') ++ [' ']

/-- Whether the lines of the text are not wider than the entry. -/
def Fits (entry : Entry) : Prop :=
  ∀ line ∈ linesOf entry.text, Text.columns line ≤ entry.width

/-- The cell that draws an entry. -/
def cell (entry : Entry) : Cell :=
  Cell.ofText entry.text entry.onRight

theorem line_eq_nil_or_mem (entry : Entry) (index : Nat) :
    entry.line index = [] ∨ entry.line index ∈ linesOf entry.text := by
  rw [line]
  cases found : (linesOf entry.text)[index]? with
  | none => exact Or.inl rfl
  | some line => exact Or.inr (List.mem_of_getElem? found)

theorem feed_notMem_line (entry : Entry) (index : Nat) : '\n' ∉ entry.line index := by
  rcases entry.line_eq_nil_or_mem index with isEmpty | member
  · rw [isEmpty]
    exact List.not_mem_nil
  · exact feed_notMem_of_mem_linesOf member

theorem Fits.columns_line_le {entry : Entry} (fits : entry.Fits) (index : Nat) :
    Text.columns (entry.line index) ≤ entry.width := by
  rcases entry.line_eq_nil_or_mem index with isEmpty | member
  · rw [isEmpty]
    exact Nat.zero_le entry.width
  · exact fits _ member

theorem Fits.isShownBy_paint {entry : Entry} (fits : entry.Fits) (index : Nat) :
    entry.IsShownBy index (entry.cell.paint entry.width index) := by
  refine ⟨entry.width - Text.columns (entry.line index),
    Nat.add_sub_of_le (fits.columns_line_le index), ?_⟩
  have lineEq : entry.cell.lines[index]?.getD [] = entry.line index := by
    rw [line, cell, lines_ofText]
  rw [Cell.paint, lineEq, cell, Cell.ofText]
  split <;> rfl

/-- A field is two columns wider than its entry. -/
theorem IsShownBy.isFieldOf {entry : Entry} {index : Nat} {field : List Char}
    (isShown : entry.IsShownBy index field) : IsFieldOf (entry.width + 2) field := by
  rcases isShown with ⟨space, filled, rfl⟩
  constructor
  · rw [Text.columns_between_blanks]
    split
    · rw [Text.columns_blanks_append]
      omega
    · rw [Text.columns_append_blanks, filled]
  · exact opensPlainly_blank _
  · have noFeed := entry.feed_notMem_line index
    split <;> simp [noFeed]

end Entry

/-- Whether lines are a block that shows the texts of entries: there are as many lines as the
tallest text has, and each shows the lines of that number in the texts, from left to right. -/
structure IsBlock (entries : List Entry) (lines : List (List Char)) : Prop where
  covers : ∀ entry ∈ entries, (linesOf entry.text).length ≤ lines.length
  attained : ∃ entry ∈ entries, (linesOf entry.text).length = lines.length
  shows : ∀ index line, lines[index]? = some line →
    ∃ fields, List.Forall₂ (fun entry field => entry.IsShownBy index field) entries fields ∧
      line = framed bar bar bar fields

theorem IsBlock.isFrameOf {entries : List Entry} {lines : List (List Char)}
    (isBlock : IsBlock entries lines) {line : List Char} (member : line ∈ lines) :
    IsFrameOf (entries.map fun entry => entry.width + 2) line := by
  rcases List.getElem?_of_mem member with ⟨index, found⟩
  rcases isBlock.shows index line found with ⟨fields, shown, rfl⟩
  apply IsFrameOf.mk isSign_bar isSign_bar isSign_bar
  rw [List.forall₂_map_left_iff]
  exact shown.imp fun entry field isShown => isShown.isFieldOf

theorem paintLine_eq_framed (entries : List Entry) (index : Nat) :
    paintLine (entries.map Entry.width) (entries.map Entry.cell) index =
      framed bar bar bar (entries.map fun entry => entry.cell.paint entry.width index) := by
  rw [paintLine, joinWith_eq, List.zip_map', List.map_map]
  rfl

theorem getElem?_map_range_eq_some_iff {α : Type} {item : Nat → α} {count index : Nat} {value : α} :
    ((List.range count).map item)[index]? = some value ↔ index < count ∧ item index = value := by
  rw [List.getElem?_map, Option.map_eq_some_iff]
  constructor
  · rintro ⟨place, isPlace, rfl⟩
    rcases List.getElem?_eq_some_iff.1 isPlace with ⟨bound, rfl⟩
    rw [List.length_range] at bound
    rw [List.getElem_range]
    exact ⟨bound, rfl⟩
  · rintro ⟨bound, rfl⟩
    exact ⟨index, List.getElem?_range bound, rfl⟩

/-- A row of cells is painted as a block where its texts fit. -/
theorem isBlock_paintRow {entries : List Entry} (nonempty : entries ≠ [])
    (fits : ∀ entry ∈ entries, entry.Fits) :
    IsBlock entries (paintRow (entries.map Entry.width) (entries.map Entry.cell)) := by
  have heights : (entries.map Entry.cell).map Cell.height =
      entries.map fun entry => (linesOf entry.text).length := by
    rw [List.map_map]
    apply List.map_congr_left
    intro entry _
    exact congrArg List.length (lines_ofText entry.text entry.onRight)
  have count : (paintRow (entries.map Entry.width) (entries.map Entry.cell)).length =
      (entries.map fun entry => (linesOf entry.text).length).foldl max 0 := by
    rw [paintRow, List.length_map, List.length_range, heights]
  constructor
  · intro entry member
    rw [count]
    exact (foldl_max_le_iff.1 (Nat.le_refl _)).2 _ (List.mem_map_of_mem member)
  · rw [count]
    rcases List.mem_map.1 (foldl_max_mem (List.map_eq_nil_iff.not.2 nonempty)) with
      ⟨entry, member, heightEq⟩
    exact ⟨entry, member, heightEq⟩
  · intro index line found
    rcases getElem?_map_range_eq_some_iff.1 found with ⟨_, rfl⟩
    refine ⟨_, ?_, paintLine_eq_framed entries index⟩
    rw [List.forall₂_map_right_iff, List.forall₂_same]
    intro entry member
    exact (fits entry member).isShownBy_paint index

end Tabula.Box
