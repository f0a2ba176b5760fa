import Tabula.Box

/-!
# The widths of columns

The lines of a text are what stands between its line feeds. A column of a drawing is as wide
as the widest line among the texts in it, which are its upper-cased name and what its cells
show, but at least one terminal column wide.
-/

namespace Tabula.Box

/-! ## Lines -/

/-- The lines of a text. -/
def linesOf (text : String) : List (List Char) :=
  text.toList.splitOn '\n'

theorem linesFrom_eq (line text : List Char) :
    Cell.linesFrom line text = (text.splitOn '\n').modifyHead (line.reverse ++ ·) := by
  induction text generalizing line with
  | nil => simp [Cell.linesFrom]
  | cons char rest ih =>
      have restEq : Cell.linesFrom [] rest = rest.splitOn '\n' := by
        rw [ih]
        exact congrFun List.modifyHead_id _
      rw [Cell.linesFrom, List.splitOn_cons_eq_if_modifyHead]
      by_cases isFeed : char = '\n'
      · simp [isFeed, restEq]
      · simp [isFeed, ih, List.modifyHead_modifyHead, Function.comp_def]

theorem lines_ofText (text : String) (onRight : Bool) :
    (Cell.ofText text onRight).lines = linesOf text := by
  change Cell.linesFrom [] text.toList = _
  rw [linesFrom_eq]
  exact congrFun List.modifyHead_id _

theorem feed_notMem_of_mem_linesFrom {line text : List Char} (fresh : '\n' ∉ line)
    {found : List Char} (member : found ∈ Cell.linesFrom line text) : '\n' ∉ found := by
  induction text generalizing line with
  | nil =>
      rw [List.mem_singleton.1 member]
      simpa using fresh
  | cons char rest ih =>
      rw [Cell.linesFrom] at member
      split at member
      · rcases List.mem_cons.1 member with rfl | later
        · simpa using fresh
        · exact ih (by simp) later
      · rename_i noFeed
        apply ih _ member
        simp [fresh, Ne.symm noFeed]

theorem feed_notMem_of_mem_linesOf {text : String} {line : List Char}
    (member : line ∈ linesOf text) : '\n' ∉ line := by
  rw [← lines_ofText text false] at member
  exact feed_notMem_of_mem_linesFrom (by simp) member

theorem joinWith_eq (sign : Char) (pieces : List (List Char)) :
    joinWith sign pieces = [sign].intercalate pieces := by
  fun_induction joinWith sign pieces with
  | case1 => rfl
  | case2 piece => exact List.intercalate_singleton.symm
  | case3 piece rest notLast ih =>
      cases rest with
      | nil => exact absurd rfl notLast
      | cons next later => simp [ih]

/-! ## The widest line -/

theorem foldl_max_le_iff {values : List Nat} {start bound : Nat} :
    values.foldl max start ≤ bound ↔ start ≤ bound ∧ ∀ value ∈ values, value ≤ bound := by
  induction values generalizing start with
  | nil => simp
  | cons value rest ih => rw [List.foldl_cons, ih, Nat.max_le, List.forall_mem_cons, and_assoc]

theorem foldl_max_eq_or_mem (values : List Nat) (start : Nat) :
    values.foldl max start = start ∨ values.foldl max start ∈ values := by
  induction values generalizing start with
  | nil => exact Or.inl rfl
  | cons value rest ih =>
      rw [List.foldl_cons]
      rcases ih (max start value) with isStart | later
      · rw [isStart]
        rcases Nat.le_total start value with le | ge
        · rw [Nat.max_eq_right le]
          exact Or.inr List.mem_cons_self
        · exact Or.inl (Nat.max_eq_left ge)
      · exact Or.inr (List.mem_cons_of_mem value later)

theorem foldl_max_mem {values : List Nat} (nonempty : values ≠ []) :
    values.foldl max 0 ∈ values := by
  rcases foldl_max_eq_or_mem values 0 with isZero | member
  · rcases List.exists_mem_of_ne_nil values nonempty with ⟨value, member⟩
    have valueLe := (foldl_max_le_iff.1 (Nat.le_of_eq isZero)).2 value member
    rw [isZero, ← Nat.le_zero.1 valueLe]
    exact member
  · exact member

theorem Cell.width_le_iff {cell : Cell} {bound : Nat} :
    cell.width ≤ bound ↔ ∀ line ∈ cell.lines, Text.columns line ≤ bound := by
  rw [Cell.width, foldl_max_le_iff]
  simp

theorem Cell.width_ofText_le_iff {text : String} {onRight : Bool} {bound : Nat} :
    (Cell.ofText text onRight).width ≤ bound ↔ ∀ line ∈ linesOf text, Text.columns line ≤ bound := by
  rw [Cell.width_le_iff, lines_ofText]

/-- The text of a column at a row. -/
def cellText (column : Column) (row : Nat) : String :=
  ((column.cell? row).map Value.display).getD ""

/-- The texts in a column: its upper-cased name and what its cells show. -/
def texts (column : Column) : List String :=
  Text.upper column.name :: column.cells.toList.map Value.display

theorem forall_cellText_iff {column : Column} {property : String → Prop} :
    (∀ row < column.size, property (cellText column row)) ↔
      ∀ value ∈ column.cells, property value.display := by
  constructor
  · intro ofRows value member
    rcases Array.mem_iff_getElem.1 member with ⟨row, bound, rfl⟩
    have found : column.cell? row = some column.cells[row] := Array.getElem?_eq_getElem bound
    have shown := ofRows row bound
    rwa [cellText, found] at shown
  · intro ofCells row bound
    have found : column.cell? row = some column.cells[row] := Array.getElem?_eq_getElem bound
    rw [cellText, found]
    exact ofCells _ (Array.getElem_mem bound)

/-- The width of a column is the least bound of its lines that is not zero. -/
theorem columnWidth_le_iff {column : Column} {bound : Nat} :
    columnWidth column.size column ≤ bound ↔
      1 ≤ bound ∧ ∀ text ∈ texts column, ∀ line ∈ linesOf text, Text.columns line ≤ bound := by
  have cells := @forall_cellText_iff column fun text =>
    ∀ line ∈ linesOf text, Text.columns line ≤ bound
  rw [columnWidth, foldl_max_le_iff, Nat.max_le, and_assoc, texts, List.forall_mem_cons, headCell,
    Cell.width_ofText_le_iff, List.forall_mem_map, List.forall_mem_map]
  simp only [List.mem_range, bodyCell, Cell.width_ofText_le_iff, Array.mem_toList_iff, ← cells,
    cellText]

/-- Whether a column has a width: that of its widest line, but at least one. -/
structure IsWidthOf (column : Column) (width : Nat) : Prop where
  positive : 1 ≤ width
  covers : ∀ text ∈ texts column, ∀ line ∈ linesOf text, Text.columns line ≤ width
  attained : width = 1 ∨ ∃ text ∈ texts column, ∃ line ∈ linesOf text, Text.columns line = width

theorem isWidthOf_columnWidth (column : Column) :
    IsWidthOf column (columnWidth column.size column) := by
  rcases columnWidth_le_iff.1 (Nat.le_refl (columnWidth column.size column)) with
    ⟨positive, covers⟩
  refine ⟨positive, covers, ?_⟩
  apply Classical.byContradiction
  intro notAttained
  rw [not_or] at notAttained
  rcases notAttained with ⟨notOne, noLine⟩
  have smaller : columnWidth column.size column ≤ columnWidth column.size column - 1 := by
    apply columnWidth_le_iff.2
    constructor
    · omega
    · intro text member line isLine
      have bound := covers text member line isLine
      have different : Text.columns line ≠ columnWidth column.size column :=
        fun widthEq => noLine ⟨text, member, line, isLine, widthEq⟩
      omega
  omega

theorem IsWidthOf.unique {column : Column} {width other : Nat} (isWidth : IsWidthOf column width)
    (otherIsWidth : IsWidthOf column other) : width = other := by
  apply Nat.le_antisymm
  · rcases isWidth.attained with rfl | ⟨text, member, line, isLine, rfl⟩
    · exact otherIsWidth.positive
    · exact otherIsWidth.covers text member line isLine
  · rcases otherIsWidth.attained with rfl | ⟨text, member, line, isLine, rfl⟩
    · exact isWidth.positive
    · exact isWidth.covers text member line isLine

end Tabula.Box
