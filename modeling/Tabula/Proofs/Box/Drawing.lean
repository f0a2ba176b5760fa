import Mathlib.Algebra.Order.BigOperators.Group.List
import Mathlib.Algebra.Order.Group.Nat
import Tabula.Proofs.Box.Frame
import Tabula.Proofs.Query.Cancellation

/-!
# Drawings of tables

The lines of a drawing are a rule, a block of the upper-cased names, a rule, a block for each
row, and a rule. When the rules are as long as the lines of the blocks, the drawing is a
rectangle. The length of a piece of a rule has an upper bound, so this is the case exactly
when no column is wider than that bound without the two blanks (`render_draws_iff`).
-/

namespace Tabula.Box

/-! ## Specification -/

/-- The entry of a column in the block of names. -/
def nameEntry (width : Column → Nat) (column : Column) : Entry :=
  ⟨Text.upper column.name, width column, false⟩

/-- The entry of a column in the block of a row. -/
def cellEntry (width : Column → Nat) (row : Nat) (column : Column) : Entry :=
  ⟨cellText column row, width column, column.type = .number⟩

/-- Whether lines are stacked from the rules over fields of the given sizes, the block of
names and the blocks of the rows. -/
def IsStack (table : Table) (width : Column → Nat) (sizes : List Nat)
    (lines : List (List Char)) : Prop :=
  ∃ (head : List (List Char)) (rows : List (List (List Char))),
    lines = topRule.across sizes :: (head ++
      headRule.across sizes :: (rows.flatten ++ [bottomRule.across sizes])) ∧
    IsBlock (table.columns.map (nameEntry width)) head ∧
    rows.length = table.rowCount ∧
    ∀ row block, rows[row]? = some block → IsBlock (table.columns.map (cellEntry width row)) block

/-- Whether lines draw a table with the given widths of its columns. -/
structure Draws (table : Table) (width : Column → Nat) (lines : List (List Char)) : Prop where
  widths : ∀ column ∈ table.columns, IsWidthOf column (width column)
  stacked : IsStack table width (table.columns.map fun column => width column + 2) lines
  fields : ∀ line ∈ lines, ∃ left crossing right fields, line = framed left crossing right fields ∧
    List.Forall₂ (fun column field => Text.columns field = width column + 2) table.columns fields
  rectangular : ∀ line ∈ lines,
    Text.columns line = 1 + (table.columns.map fun column => width column + 3).sum

theorem IsStack.forall_mem {table : Table} {width : Column → Nat} {sizes : List Nat}
    {lines : List (List Char)} (isStack : IsStack table width sizes lines)
    {property : List Char → Prop} (ofRules : ∀ line, IsFrameOf sizes line → property line)
    (ofBlocks : ∀ line, IsFrameOf (table.columns.map fun column => width column + 2) line →
      property line) :
    ∀ line ∈ lines, property line := by
  rcases isStack with ⟨head, rows, rfl, isHead, _, areRows⟩
  have ofRule (rule : Rule) (isDrawable : rule.IsDrawable) : property (rule.across sizes) :=
    ofRules _ (Rule.isFrameOf_across isDrawable sizes)
  have ofBlock (entry : Column → Entry) (widthEq : ∀ column, (entry column).width = width column)
      (block : List (List Char)) (isBlock : IsBlock (table.columns.map entry) block) :
      ∀ line ∈ block, property line := by
    intro line member
    apply ofBlocks
    have isFrame := isBlock.isFrameOf member
    simpa only [List.map_map, Function.comp_def, widthEq] using isFrame
  simp only [List.forall_mem_cons, List.forall_mem_append, List.mem_flatten, List.mem_singleton,
    forall_eq]
  refine ⟨ofRule _ isDrawable_topRule, ofBlock _ (fun _ => rfl) head isHead,
    ofRule _ isDrawable_headRule, ?_, ofRule _ isDrawable_bottomRule⟩
  rintro line ⟨block, isRow, member⟩
  rcases List.getElem?_of_mem isRow with ⟨row, found⟩
  exact ofBlock _ (fun _ => rfl) block (areRows row block found) line member

/-! ## Lines of the drawing -/

variable {table : Table}

theorem isWidthOf_of_mem {column : Column} (member : column ∈ table.columns) :
    IsWidthOf column (columnWidth table.rowCount column) := by
  rw [← Table.size_eq_rowCount member]
  exact isWidthOf_columnWidth column

theorem fits_nameEntry {column : Column} (member : column ∈ table.columns) :
    (nameEntry (columnWidth table.rowCount) column).Fits :=
  (isWidthOf_of_mem member).covers _ List.mem_cons_self

theorem fits_cellEntry {column : Column} (member : column ∈ table.columns) {row : Nat}
    (bound : row < table.rowCount) :
    (cellEntry (columnWidth table.rowCount) row column).Fits := by
  have covers := (isWidthOf_of_mem member).covers
  have ofCells : ∀ value ∈ column.cells, ∀ line ∈ linesOf value.display,
      Text.columns line ≤ columnWidth table.rowCount column := by
    intro value isCell
    apply covers
    exact List.mem_cons_of_mem _ (List.mem_map_of_mem (Array.mem_toList_iff.2 isCell))
  rw [← Table.size_eq_rowCount member] at bound
  exact (@forall_cellText_iff column fun text =>
    ∀ line ∈ linesOf text, Text.columns line ≤ columnWidth table.rowCount column).2 ofCells row bound

/-- The rules of a drawing may be shorter than the lines of its blocks. -/
theorem isStack_lines (hasColumns : table.columns ≠ []) :
    IsStack table (columnWidth table.rowCount)
      (table.columns.map fun column => min (columnWidth table.rowCount column + 2) longestPiece)
      (lines table) := by
  have block (entry : Column → Entry)
      (widthEq : ∀ column, (entry column).width = columnWidth table.rowCount column)
      (fits : ∀ column ∈ table.columns, (entry column).Fits) :
      IsBlock (table.columns.map entry) (paintRow (table.columns.map (columnWidth table.rowCount))
        (table.columns.map fun column => (entry column).cell)) := by
    have isBlock := isBlock_paintRow (List.map_eq_nil_iff.not.2 hasColumns)
      (List.forall_mem_map.2 fits)
    simpa only [List.map_map, Function.comp_def, widthEq] using isBlock
  refine ⟨_, (List.range table.rowCount).map fun row =>
    paintRow (table.columns.map (columnWidth table.rowCount))
      (table.columns.map fun column => bodyCell column row), ?_,
    block _ (fun _ => rfl) (fun _ => fits_nameEntry), ?_, ?_⟩
  · rw [lines, List.flatMap_def]
    simp only [Rule.draw_eq_across, List.map_map, Function.comp_def, List.cons_append,
      List.append_assoc]
    rfl
  · rw [List.length_map, List.length_range]
  · intro row rowLines found
    rcases getElem?_map_range_eq_some_iff.1 found with ⟨bound, rfl⟩
    exact block _ (fun _ => rfl) fun column member => fits_cellEntry member bound

theorem linesOf_draw (hasColumns : table.columns ≠ []) : linesOf (draw table) = lines table := by
  rw [draw, if_neg (List.isEmpty_iff.not.2 hasColumns), linesOf, String.toList_ofList, joinWith_eq]
  apply List.splitOn_intercalate
  · exact (isStack_lines hasColumns).forall_mem (fun _ isFrame => isFrame.feed_notMem)
      fun _ isFrame => isFrame.feed_notMem
  · exact List.cons_ne_nil _ _

/-! ## Rectangles -/

theorem draws_lines (hasColumns : table.columns ≠ [])
    (narrow : ∀ column ∈ table.columns, columnWidth table.rowCount column + 2 ≤ longestPiece) :
    Draws table (columnWidth table.rowCount) (lines table) := by
  have stacked := isStack_lines hasColumns
  have sizesEq : (table.columns.map fun column =>
      min (columnWidth table.rowCount column + 2) longestPiece) =
        table.columns.map fun column => columnWidth table.rowCount column + 2 :=
    List.map_congr_left fun column member => Nat.min_eq_left (narrow column member)
  rw [sizesEq] at stacked
  have areFrames := stacked.forall_mem (fun _ isFrame => isFrame) fun _ isFrame => isFrame
  constructor
  case widths => exact fun column member => isWidthOf_of_mem member
  case stacked => exact stacked
  case fields =>
    intro line member
    rcases areFrames line member with ⟨_, _, _, fit⟩
    rw [List.forall₂_map_left_iff] at fit
    exact ⟨_, _, _, _, rfl, fit.imp fun column field isField => isField.columns⟩
  case rectangular =>
    intro line member
    rw [(areFrames line member).columns_eq (List.map_eq_nil_iff.not.2 hasColumns), List.map_map]
    rfl

/-- A rule whose pieces are cut off is shorter than the lines of the blocks. -/
theorem add_two_le_of_draws (hasColumns : table.columns ≠ []) {width : Column → Nat}
    (draws : Draws table width (lines table)) :
    ∀ column ∈ table.columns, columnWidth table.rowCount column + 2 ≤ longestPiece := by
  rcases isStack_lines hasColumns with ⟨head, rows, linesEq, _⟩
  -- The top rule is as wide as a rectangle with these widths, of which there are no others.
  have ofRule := draws.rectangular _ (linesEq ▸ List.mem_cons_self)
  have totalEq : (table.columns.map fun column => width column + 3) =
      table.columns.map fun column => columnWidth table.rowCount column + 3 := by
    apply List.map_congr_left
    intro column member
    rw [(draws.widths column member).unique (isWidthOf_of_mem member)]
  rw [(Rule.isFrameOf_across isDrawable_topRule _).columns_eq (List.map_eq_nil_iff.not.2 hasColumns),
    List.map_map, totalEq] at ofRule
  intro column member
  apply Classical.byContradiction
  intro tooWide
  have shorter := List.sum_lt_sum (l := table.columns)
    (fun column => min (columnWidth table.rowCount column + 2) longestPiece + 1)
    (fun column => columnWidth table.rowCount column + 3)
    (fun column _ => by omega) ⟨column, member, by omega⟩
  exact absurd ofRule (Nat.ne_of_lt (Nat.add_lt_add_left shorter 1))

theorem add_two_le_longestPiece_iff {column : Column} (member : column ∈ table.columns) :
    columnWidth table.rowCount column + 2 ≤ longestPiece ↔
      ∀ text ∈ texts column, ∀ line ∈ linesOf text, Text.columns line ≤ 65533 := by
  rw [← Table.size_eq_rowCount member, longestPiece]
  have widthIff := @columnWidth_le_iff column 65533
  rw [and_iff_right (by decide)] at widthIff
  rw [← widthIff]
  omega

theorem narrow_of_render_draws (hasColumns : table.columns ≠ [])
    (drawn : ∃ text width, (render table).outcome = .ok text ∧ Draws table width (linesOf text)) :
    ∀ column ∈ table.columns, ∀ text ∈ texts column, ∀ line ∈ linesOf text,
      Text.columns line ≤ 65533 := by
  rcases drawn with ⟨text, width, rendered, draws⟩
  rw [outcome_render] at rendered
  rw [← Except.ok.inj rendered, linesOf_draw hasColumns] at draws
  intro column member
  exact (add_two_le_longestPiece_iff member).1 (add_two_le_of_draws hasColumns draws column member)

/-- A drawing is a rectangle that shows every text exactly when no line is wider than the
longest piece of a rule without its two blanks. -/
theorem render_draws_iff (hasColumns : table.columns ≠ []) :
    (∃ text width, (render table).outcome = .ok text ∧ Draws table width (linesOf text)) ↔
      ∀ column ∈ table.columns, ∀ text ∈ texts column, ∀ line ∈ linesOf text,
        Text.columns line ≤ 65533 := by
  constructor
  · exact narrow_of_render_draws hasColumns
  · intro narrow
    refine ⟨draw table, columnWidth table.rowCount, outcome_render table, ?_⟩
    rw [linesOf_draw hasColumns]
    apply draws_lines hasColumns
    intro column member
    exact (add_two_le_longestPiece_iff member).2 (narrow column member)

/-- A table with wide characters, a text of two lines, and numbers. -/
def cities : Table where
  name := "cities"
  columns := [⟨⟨"city", .text⟩, #[.text "東京", .text "New\nYork"]⟩,
    ⟨⟨"n", .number⟩, #[.number .nan, .number (.real true Binary64.infinite)]⟩]
  sound := ⟨by simp [rowCountOf, Column.size], by simp [Value.type, Column.type],
    by simp [Column.name]⟩

/-- The numbers stand on the right, and the last row is two lines high. -/
example : (lines cities).map String.ofList =
    ["┌──────┬──────┐", "│ CITY │ N    │", "├──────┼──────┤", "│ 東京 │  NaN │",
      "│ New  │ -inf │", "│ York │      │", "└──────┴──────┘"] := by
  decide +kernel

theorem render_draws_iff_cities :
    cities.columns ≠ [] ∧
      (∀ column ∈ cities.columns, ∀ text ∈ texts column, ∀ line ∈ linesOf text,
        Text.columns line ≤ 65533) ∧
      ∃ text width, (render cities).outcome = .ok text ∧ Draws cities width (linesOf text) := by
  have hasColumns : cities.columns ≠ [] := List.cons_ne_nil _ _
  have narrow : ∀ column ∈ cities.columns, ∀ text ∈ texts column, ∀ line ∈ linesOf text,
      Text.columns line ≤ 65533 := by
    decide +kernel
  exact ⟨hasColumns, narrow, (render_draws_iff hasColumns).2 narrow⟩

/-! ## A name that is too wide -/

/-- A column without cells under a name of the given number of letters. -/
def longColumn (count : Nat) : Column :=
  ⟨⟨String.ofList (List.replicate count 'A'), .text⟩, #[]⟩

/-- The table of that column. -/
def longNamed (count : Nat) : Table :=
  ⟨"t", [longColumn count], ⟨by simp [rowCountOf], by simp [longColumn], by simp⟩⟩

theorem texts_longColumn (count : Nat) :
    texts (longColumn count) = [String.ofList (List.replicate count 'A')] := by
  have upperA : Text.upperChar 'A' = ['A'] := by decide
  have flat : (List.replicate count 'A').flatMap Text.upperChar = List.replicate count 'A' := by
    induction count with
    | zero => rfl
    | succ count ih => rw [List.replicate_succ, List.flatMap_cons, ih, upperA, List.singleton_append]
  change [Text.upper (String.ofList (List.replicate count 'A'))] = _
  rw [Text.upper, String.toList_ofList, flat]

theorem forall_line_longNamed_iff {count : Nat} {property : List Char → Prop} :
    (∀ column ∈ (longNamed count).columns, ∀ text ∈ texts column, ∀ line ∈ linesOf text,
      property line) ↔ property (List.replicate count 'A') := by
  have noFeed : '\n' ∉ List.replicate count 'A' := fun member =>
    absurd (List.eq_of_mem_replicate member) (by decide)
  rw [longNamed, List.forall_mem_singleton, texts_longColumn, List.forall_mem_singleton, linesOf,
    String.toList_ofList, List.splitOn_eq_singleton noFeed, List.forall_mem_singleton]

/-- The rules over a name of 65534 letters are shorter than the line of the name. -/
theorem not_draws_longNamed :
    (longNamed 65534).columns ≠ [] ∧
      (∀ column ∈ (longNamed 65534).columns, ∀ text ∈ texts column, ∀ line ∈ linesOf text,
        Text.columns line ≤ 65535) ∧
      ¬∃ text width, (render (longNamed 65534)).outcome = .ok text ∧
        Draws (longNamed 65534) width (linesOf text) := by
  have hasColumns : (longNamed 65534).columns ≠ [] := List.cons_ne_nil _ _
  refine ⟨hasColumns, ?_, ?_⟩
  · rw [forall_line_longNamed_iff, Text.columns_replicate (by decide)]
    decide
  · intro drawn
    have narrow := narrow_of_render_draws hasColumns drawn
    rw [forall_line_longNamed_iff, Text.columns_replicate (by decide)] at narrow
    exact absurd narrow (by decide)

end Tabula.Box
