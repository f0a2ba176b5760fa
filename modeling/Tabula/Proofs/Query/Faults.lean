import Tabula.Proofs.Query.Satisfaction

/-!
# Where a filter fails

A part of a filter stands at a place, which is the way to it from the root, and of two
places that part somewhere the one that goes left comes first. Working a filter out fails
exactly if a comparison that is reached has a fault, and then with the fault of the first
such comparison. Which comparisons have a fault is a matter of the declarations of the
table and of whether it has rows; its cells decide only which comparisons are reached.
-/

namespace Tabula.Query

namespace Leaf

/-- Why a comparison cannot be made in a table. -/
inductive Faulty (table : Table) (leaf : Leaf) : TableError → Prop
  | missing (absent : ∀ declared ∈ table.fields, declared.name ≠ leaf.field) :
      Faulty table leaf (.columnNotFound table.name leaf.field)
  | mismatch {declared : Field} (member : declared ∈ table.fields)
      (nameEq : declared.name = leaf.field) (hasRows : 0 < table.rowCount)
      (typeNe : declared.type ≠ leaf.literal.type) :
      Faulty table leaf (.typeMismatch declared.type leaf.literal.type)
  | unsupported {declared : Field} (member : declared ∈ table.fields)
      (nameEq : declared.name = leaf.field) (hasRows : 0 < table.rowCount)
      (declaredText : declared.type = .text) (literalText : leaf.literal.type = .text)
      (notEqual : leaf.comparison ≠ .equal) :
      Faulty table leaf (.unsupportedComparison leaf.comparison .text)

variable {table other : Table} {leaf : Leaf} {error : TableError}

theorem fault?_of_faulty (faulty : leaf.Faulty table error) : leaf.fault? table = some error := by
  have found : ∀ {declared : Field}, declared ∈ table.fields → declared.name = leaf.field →
      ∃ column, table.column leaf.field = .ok column ∧ column.type = declared.type := by
    intro declared member nameEq
    obtain ⟨column, isColumn, rfl⟩ := List.mem_map.1 member
    exact ⟨column, Table.column_eq_ok_iff.2 ⟨isColumn, nameEq⟩, rfl⟩
  cases faulty with
  | missing absent =>
      have notFound : table.column leaf.field = .error (.columnNotFound table.name leaf.field) :=
        Table.column_eq_error_iff.2
          ⟨fun column member => absent column.field (List.mem_map_of_mem member), rfl⟩
      simp [fault?, notFound]
  | mismatch member nameEq hasRows typeNe =>
      obtain ⟨column, columnEq, typeEq⟩ := found member nameEq
      simp [fault?, columnEq, typeEq, hasRows.ne', typeNe]
  | unsupported member nameEq hasRows declaredText literalText notEqual =>
      obtain ⟨column, columnEq, typeEq⟩ := found member nameEq
      simp [fault?, columnEq, typeEq, hasRows.ne', declaredText, literalText, notEqual]

theorem faulty_of_fault? (fault : leaf.fault? table = some error) : leaf.Faulty table error := by
  rw [fault?] at fault
  cases found : table.column leaf.field with
  | error cause =>
      obtain ⟨absent, causeEq⟩ := Table.column_eq_error_iff.1 found
      rw [found, causeEq] at fault
      cases fault
      apply Faulty.missing
      intro declared member
      obtain ⟨column, isColumn, rfl⟩ := List.mem_map.1 member
      exact absent column isColumn
  | ok column =>
      obtain ⟨isColumn, nameEq⟩ := Table.column_eq_ok_iff.1 found
      have member : column.field ∈ table.fields := List.mem_map_of_mem isColumn
      simp only [found] at fault
      split at fault
      · cases fault
      · rename_i hasRows
        have hasRows := Nat.pos_of_ne_zero hasRows
        split at fault
        · rename_i typeNe
          cases fault
          exact .mismatch member nameEq hasRows typeNe
        · rename_i typeEq
          split at fault
          · rename_i unordered
            cases fault
            have literalText := (Decidable.not_not.1 typeEq).symm.trans unordered.1
            exact .unsupported member nameEq hasRows unordered.1 literalText unordered.2
          · cases fault

theorem fault?_eq_some_iff : leaf.fault? table = some error ↔ leaf.Faulty table error :=
  ⟨faulty_of_fault?, fault?_of_faulty⟩

/-- A comparison has a fault in a table with the same declarations too, if that has rows
where the other one has. -/
theorem Faulty.mono (nameEq : other.name = table.name) (fieldsEq : other.fields = table.fields)
    (rowsImp : 0 < other.rowCount → 0 < table.rowCount) (faulty : leaf.Faulty other error) :
    leaf.Faulty table error := by
  cases faulty with
  | missing absent => exact nameEq ▸ .missing (fieldsEq ▸ absent)
  | mismatch member nameEq hasRows typeNe =>
      exact .mismatch (fieldsEq ▸ member) nameEq (rowsImp hasRows) typeNe
  | unsupported member nameEq hasRows declaredText literalText notEqual =>
      exact .unsupported (fieldsEq ▸ member) nameEq (rowsImp hasRows) declaredText literalText
        notEqual

/-- The cells of a table have no part in whether a comparison has a fault. -/
theorem Faulty.congr (nameEq : other.name = table.name) (fieldsEq : other.fields = table.fields)
    (rowsIff : 0 < other.rowCount ↔ 0 < table.rowCount) :
    leaf.Faulty other error ↔ leaf.Faulty table error := by
  constructor
  · exact Faulty.mono nameEq fieldsEq rowsIff.1
  · exact Faulty.mono nameEq.symm fieldsEq.symm rowsIff.2

end Leaf

namespace Filter

/-! ## Places -/

/-- A side of an `and` or an `or`. -/
inductive Side where
  | left
  | right
  deriving DecidableEq, Repr

/-- The filter on a side. -/
def side? : Filter → Side → Option Filter
  | .both left _, .left | .either left _, .left => some left
  | .both _ right, .right | .either _ right, .right => some right
  | _, _ => none

/-- The part of a filter at a place. -/
def part? (filter : Filter) : List Side → Option Filter
  | [] => some filter
  | side :: place => (filter.side? side).bind fun part => part.part? place

/-- Whether a place comes before another one from left to right. -/
def Precedes (first second : List Side) : Prop :=
  ∃ common firstRest secondRest,
    first = common ++ .left :: firstRest ∧ second = common ++ .right :: secondRest

/-- Whether a place is reached: it is not on the right of an `and` whose left side holds at
no row. -/
def Reaches (table : Table) (filter : Filter) (place : List Side) : Prop :=
  ∀ above below left right, place = above ++ .right :: below →
    filter.part? above = some (.both left right) → ∃ row < table.rowCount, left.Holds table row

/-- A comparison that is reached at a place and has a fault. -/
def FaultyAt (table : Table) (filter : Filter) (place : List Side) (error : TableError) : Prop :=
  filter.Reaches table place ∧ ∃ field comparison literal,
    filter.part? place = some (.compare field comparison literal) ∧
      Leaf.Faulty table ⟨field, comparison, literal⟩ error

/-- The fault of the comparison that comes first among those that are reached and have
one. -/
def FirstFault (table : Table) (filter : Filter) (error : TableError) : Prop :=
  ∃ place, filter.FaultyAt table place error ∧
    ∀ earlier other, filter.FaultyAt table earlier other → ¬Precedes earlier place

section Places

variable {first second : List Side} {side : Side}

theorem Precedes.cons (precedes : Precedes first second) (side : Side) :
    Precedes (side :: first) (side :: second) := by
  obtain ⟨common, firstRest, secondRest, rfl, rfl⟩ := precedes
  exact ⟨side :: common, firstRest, secondRest, rfl, rfl⟩

theorem precedes_left_right (first second : List Side) :
    Precedes (.left :: first) (.right :: second) :=
  ⟨[], first, second, rfl, rfl⟩

theorem not_precedes_root : ¬Precedes [] second := by
  rintro ⟨common, _, _, isNil, _⟩
  cases common <;> cases isNil

/-- Places on one side are ordered as they are there, and the left side comes first. -/
theorem Precedes.cases {firstSide secondSide : Side}
    (precedes : Precedes (firstSide :: first) (secondSide :: second)) :
    (firstSide = .left ∧ secondSide = .right) ∨
      (firstSide = secondSide ∧ Precedes first second) := by
  obtain ⟨common, firstRest, secondRest, firstEq, secondEq⟩ := precedes
  cases common with
  | nil =>
      cases firstEq
      cases secondEq
      exact .inl ⟨rfl, rfl⟩
  | cons side common =>
      cases firstEq
      cases secondEq
      exact .inr ⟨rfl, common, firstRest, secondRest, rfl, rfl⟩

end Places

section Parts

variable {table : Table} {filter left right part : Filter} {side : Side} {place : List Side}
  {error : TableError}

/-- Whether the right side is worked out. -/
def OpensRight (table : Table) (filter : Filter) : Prop :=
  ∀ left right, filter = .both left right → ∃ row < table.rowCount, left.Holds table row

theorem reaches_cons_iff (sideEq : filter.side? side = some part) :
    filter.Reaches table (side :: place) ↔
      (side = .right → filter.OpensRight table) ∧ part.Reaches table place := by
  constructor
  · intro reaches
    constructor
    · rintro rfl left right rfl
      exact reaches [] place left right rfl rfl
    · rintro above below left right rfl partEq
      refine reaches (side :: above) below left right rfl ?_
      rw [part?, sideEq]
      exact partEq
  · rintro ⟨opens, reaches⟩ above below left right placeEq partEq
    cases above with
    | nil =>
        cases placeEq
        exact opens rfl left right (Option.some.inj partEq)
    | cons first above =>
        cases placeEq
        rw [part?, sideEq] at partEq
        exact reaches above below left right rfl partEq

theorem faultyAt_cons_iff (sideEq : filter.side? side = some part) :
    filter.FaultyAt table (side :: place) error ↔
      (side = .right → filter.OpensRight table) ∧ part.FaultyAt table place error := by
  rw [FaultyAt, FaultyAt, reaches_cons_iff sideEq, part?, sideEq, Option.bind_some, and_assoc]

theorem side?_isSome_of_faultyAt (faulty : filter.FaultyAt table (side :: place) error) :
    ∃ part, filter.side? side = some part := by
  obtain ⟨_, _, _, _, partEq, _⟩ := faulty
  obtain ⟨part, sideEq, _⟩ := Option.bind_eq_some_iff.1 partEq
  exact ⟨part, sideEq⟩

theorem faultyAt_compare_iff {field : String} {comparison : Comparison} {literal : Value} :
    (compare field comparison literal).FaultyAt table place error ↔
      place = [] ∧ Leaf.Faulty table ⟨field, comparison, literal⟩ error := by
  constructor
  · intro faulty
    cases place with
    | nil =>
        obtain ⟨_, _, _, _, partEq, leafFaulty⟩ := faulty
        cases partEq
        exact ⟨rfl, leafFaulty⟩
    | cons side place =>
        obtain ⟨_, sideEq⟩ := side?_isSome_of_faultyAt faulty
        cases sideEq
  · rintro ⟨rfl, leafFaulty⟩
    refine ⟨?_, field, comparison, literal, rfl, leafFaulty⟩
    intro above below left right isNil
    cases above <;> cases isNil

/-- What comes first in a filter with two sides comes first on the left, or else first on
the right if that side is reached. -/
theorem firstFault_iff_of_sides (leftEq : filter.side? .left = some left)
    (rightEq : filter.side? .right = some right) :
    filter.FirstFault table error ↔ left.FirstFault table error ∨
      (∀ place other, ¬left.FaultyAt table place other) ∧ filter.OpensRight table ∧
        right.FirstFault table error := by
  have fromLeft : ∀ {place error}, left.FaultyAt table place error →
      filter.FaultyAt table (.left :: place) error := by
    intro place error faulty
    exact (faultyAt_cons_iff leftEq).2 ⟨by simp, faulty⟩
  constructor
  · rintro ⟨place, faulty, isFirst⟩
    cases place with
    | nil =>
        obtain ⟨_, _, _, _, partEq, _⟩ := faulty
        cases partEq
        cases leftEq
    | cons side place =>
        cases side with
        | left =>
            left
            refine ⟨place, ((faultyAt_cons_iff leftEq).1 faulty).2, ?_⟩
            intro earlier other otherFaulty precedes
            exact isFirst _ other (fromLeft otherFaulty) (precedes.cons .left)
        | right =>
            right
            obtain ⟨opens, rightFaulty⟩ := (faultyAt_cons_iff rightEq).1 faulty
            refine ⟨?_, opens rfl, place, rightFaulty, ?_⟩
            · intro earlier other otherFaulty
              exact isFirst _ other (fromLeft otherFaulty) (precedes_left_right earlier place)
            · intro earlier other otherFaulty precedes
              exact isFirst _ other ((faultyAt_cons_iff rightEq).2 ⟨opens, otherFaulty⟩)
                (precedes.cons .right)
  · rintro (⟨place, faulty, isFirst⟩ | ⟨noneLeft, opens, place, faulty, isFirst⟩)
    · refine ⟨.left :: place, fromLeft faulty, ?_⟩
      intro earlier other otherFaulty precedes
      cases earlier with
      | nil => exact not_precedes_root precedes
      | cons side earlier =>
          rcases precedes.cases with ⟨_, impossible⟩ | ⟨rfl, later⟩
          · cases impossible
          · exact isFirst earlier other ((faultyAt_cons_iff leftEq).1 otherFaulty).2 later
    · refine ⟨.right :: place, (faultyAt_cons_iff rightEq).2 ⟨fun _ => opens, faulty⟩, ?_⟩
      intro earlier other otherFaulty precedes
      cases earlier with
      | nil => exact not_precedes_root precedes
      | cons side earlier =>
          rcases precedes.cases with ⟨rfl, _⟩ | ⟨rfl, later⟩
          · exact noneLeft earlier other ((faultyAt_cons_iff leftEq).1 otherFaulty).2
          · exact isFirst earlier other ((faultyAt_cons_iff rightEq).1 otherFaulty).2 later

/-- Without a fault on the left, and on the right if that is reached, there is none. -/
theorem not_faultyAt_of_sides (leftEq : filter.side? .left = some left)
    (rightEq : filter.side? .right = some right)
    (noneLeft : ∀ place other, ¬left.FaultyAt table place other)
    (noneRight : filter.OpensRight table → ∀ place other, ¬right.FaultyAt table place other) :
    ¬filter.FaultyAt table place error := by
  intro faulty
  cases place with
  | nil =>
      obtain ⟨_, _, _, _, partEq, _⟩ := faulty
      cases partEq
      cases leftEq
  | cons side place =>
      cases side with
      | left => exact noneLeft place error ((faultyAt_cons_iff leftEq).1 faulty).2
      | right =>
          obtain ⟨opens, rightFaulty⟩ := (faultyAt_cons_iff rightEq).1 faulty
          exact noneRight (opens rfl) place error rightFaulty

/-! ## The fault that is reported -/

theorem opensRight_both_iff :
    (both left right).OpensRight table ↔ left.satisfying table ≠ [] := by
  have holdsIff : left.satisfying table ≠ [] ↔ ∃ row < table.rowCount, left.Holds table row := by
    simp only [← mem_satisfying_iff]
    exact ⟨List.exists_mem_of_ne_nil _, fun ⟨_, member⟩ => List.ne_nil_of_mem member⟩
  rw [holdsIff]
  constructor
  · intro opens
    exact opens left right rfl
  · rintro holds _ _ same
    cases same
    exact holds

theorem opensRight_either : (either left right).OpensRight table := by
  intro _ _ same
  cases same

/-- The fault of a filter with two sides is that on the left, or else that on the right if
that side is reached. -/
theorem fault?_eq_some_iff_of_sides (leftEq : filter.side? .left = some left)
    (rightEq : filter.side? .right = some right) :
    filter.fault? table = some error ↔ left.fault? table = some error ∨
      left.fault? table = none ∧ filter.OpensRight table ∧ right.fault? table = some error := by
  cases filter with
  | everything | compare => cases leftEq
  | both =>
      cases leftEq
      cases rightEq
      rw [fault?_both, opensRight_both_iff]
      by_cases empty : left.satisfying table = [] <;>
        cases left.fault? table <;> simp [empty]
  | either =>
      cases leftEq
      cases rightEq
      rw [fault?_either]
      cases left.fault? table <;> simp [opensRight_either]

theorem fault?_eq_none_of_sides (leftEq : filter.side? .left = some left)
    (rightEq : filter.side? .right = some right) (noFault : filter.fault? table = none) :
    left.fault? table = none ∧ (filter.OpensRight table → right.fault? table = none) := by
  have noneLeft : left.fault? table = none := by
    apply Option.eq_none_iff_forall_ne_some.2
    intro other found
    rw [(fault?_eq_some_iff_of_sides leftEq rightEq).2 (.inl found)] at noFault
    cases noFault
  refine ⟨noneLeft, fun opens => Option.eq_none_iff_forall_ne_some.2 ?_⟩
  intro other found
  rw [(fault?_eq_some_iff_of_sides leftEq rightEq).2 (.inr ⟨noneLeft, opens, found⟩)] at noFault
  cases noFault

theorem not_faultyAt_of_fault?_eq_none (noFault : filter.fault? table = none) :
    ¬filter.FaultyAt table place error := by
  induction filter generalizing place error with
  | everything =>
      intro faulty
      cases place with
      | nil =>
          obtain ⟨_, _, _, _, partEq, _⟩ := faulty
          cases partEq
      | cons side place =>
          obtain ⟨_, sideEq⟩ := side?_isSome_of_faultyAt faulty
          cases sideEq
  | compare field comparison literal =>
      intro faulty
      rw [fault?_compare, Leaf.fault?_of_faulty (faultyAt_compare_iff.1 faulty).2] at noFault
      cases noFault
  | both left right leftIh rightIh | either left right leftIh rightIh =>
      obtain ⟨noneLeft, noneRight⟩ := fault?_eq_none_of_sides rfl rfl noFault
      exact not_faultyAt_of_sides rfl rfl (fun _ _ => leftIh noneLeft)
        (fun opens _ _ => rightIh (noneRight opens))

theorem fault?_eq_some_iff_firstFault_of_sides (leftEq : filter.side? .left = some left)
    (rightEq : filter.side? .right = some right)
    (leftIff : ∀ other, left.fault? table = some other ↔ left.FirstFault table other)
    (rightIff : right.fault? table = some error ↔ right.FirstFault table error) :
    filter.fault? table = some error ↔ filter.FirstFault table error := by
  have noneIff : left.fault? table = none ↔ ∀ place other, ¬left.FaultyAt table place other := by
    constructor
    · intro noFault place other
      exact not_faultyAt_of_fault?_eq_none noFault
    · intro noneLeft
      apply Option.eq_none_iff_forall_ne_some.2
      intro other found
      obtain ⟨place, faulty, _⟩ := (leftIff other).1 found
      exact noneLeft place other faulty
  rw [fault?_eq_some_iff_of_sides leftEq rightEq, firstFault_iff_of_sides leftEq rightEq,
    leftIff, rightIff, noneIff]

/-- The fault of a filter is that of the first comparison reached that has one. -/
theorem fault?_eq_some_iff : filter.fault? table = some error ↔ filter.FirstFault table error := by
  induction filter generalizing error with
  | everything =>
      constructor
      · intro found
        cases found
      · rintro ⟨place, faulty, _⟩
        exact absurd faulty (not_faultyAt_of_fault?_eq_none rfl)
  | compare field comparison literal =>
      rw [fault?_compare, Leaf.fault?_eq_some_iff]
      constructor
      · intro faulty
        refine ⟨[], faultyAt_compare_iff.2 ⟨rfl, faulty⟩, ?_⟩
        intro earlier other otherFaulty precedes
        rw [(faultyAt_compare_iff.1 otherFaulty).1] at precedes
        exact not_precedes_root precedes
      · rintro ⟨_, faulty, _⟩
        exact (faultyAt_compare_iff.1 faulty).2
  | both left right leftIh rightIh | either left right leftIh rightIh =>
      exact fault?_eq_some_iff_firstFault_of_sides rfl rfl (fun _ => leftIh) rightIh

theorem outcome_rows_eq_error_iff_firstFault :
    (filter.rows table).outcome = .error error ↔ filter.FirstFault table error := by
  rw [outcome_rows, ← fault?_eq_some_iff]
  cases filter.fault? table <;> simp [report]

end Parts

/-- Where the same comparisons are reached in tables of the same declarations, the same
faults are reported. -/
theorem FirstFault.congr {table other : Table} {filter : Filter} {error : TableError}
    (nameEq : other.name = table.name) (fieldsEq : other.fields = table.fields)
    (rowsIff : 0 < other.rowCount ↔ 0 < table.rowCount)
    (reachesIff : ∀ place, filter.Reaches other place ↔ filter.Reaches table place) :
    filter.FirstFault other error ↔ filter.FirstFault table error := by
  have faultyIff : ∀ place cause,
      filter.FaultyAt other place cause ↔ filter.FaultyAt table place cause := by
    intro place cause
    simp only [FaultyAt, reachesIff, Leaf.Faulty.congr nameEq fieldsEq rowsIff]
  simp only [FirstFault, faultyIff]

/-- Two tables reach the same places if the left sides of every `and` hold somewhere in both
or in neither. -/
theorem reaches_congr {table other : Table} {filter : Filter}
    (sameSides : ∀ above left right, filter.part? above = some (.both left right) →
      ((∃ row < other.rowCount, left.Holds other row) ↔
        ∃ row < table.rowCount, left.Holds table row)) (place : List Side) :
    filter.Reaches other place ↔ filter.Reaches table place := by
  constructor
  · intro reaches above below left right placeEq partEq
    exact (sameSides above left right partEq).1 (reaches above below left right placeEq partEq)
  · intro reaches above below left right placeEq partEq
    exact (sameSides above left right partEq).2 (reaches above below left right placeEq partEq)

/-- Without cancellation, working a filter out fails exactly if a comparison that is reached
has a fault, and the fault of the first one is reported. The cells of the table make a
difference only to which comparisons are reached. -/
theorem fails_iff_and_reports_first (table : Table) (filter : Filter) :
    ((∃ error, (filter.rows table).outcome = .error error) ↔
        ∃ place error, filter.FaultyAt table place error) ∧
      (∀ error, (filter.rows table).outcome = .error error ↔
        ∃ place, filter.FaultyAt table place error ∧
          ∀ earlier other, filter.FaultyAt table earlier other → ¬Precedes earlier place) ∧
      ∀ other : Table, other.name = table.name → other.fields = table.fields →
        (0 < other.rowCount ↔ 0 < table.rowCount) →
        (∀ place, filter.Reaches other place ↔ filter.Reaches table place) →
          ∀ error, (filter.rows other).outcome = .error error ↔
            (filter.rows table).outcome = .error error := by
  refine ⟨?_, fun error => outcome_rows_eq_error_iff_firstFault, ?_⟩
  · constructor
    · rintro ⟨error, failed⟩
      obtain ⟨place, faulty, _⟩ := outcome_rows_eq_error_iff_firstFault.1 failed
      exact ⟨place, error, faulty⟩
    · rintro ⟨place, error, faulty⟩
      cases fault : filter.fault? table with
      | none => exact absurd faulty (not_faultyAt_of_fault?_eq_none fault)
      | some first =>
          exact ⟨first, outcome_rows_eq_error_iff_firstFault.2 (fault?_eq_some_iff.1 fault)⟩
  · intro other nameEq fieldsEq rowsIff reachesIff error
    rw [outcome_rows_eq_error_iff_firstFault, outcome_rows_eq_error_iff_firstFault]
    exact FirstFault.congr nameEq fieldsEq rowsIff reachesIff

/-- Another table of the declarations of `colours`. -/
def otherColours : Table where
  name := "colours"
  columns := [⟨⟨"name", .text⟩, #[.text "pink", .text "red"]⟩]
  sound := ⟨by simp [rowCountOf], by simp [Value.type, Column.type], by simp⟩

/-- A filter with a comparison that is not reached and one behind it that is. -/
def redBelowOrMissing : Filter :=
  .either (.both (.compare "name" .equal (.text "green")) (.compare "missing" .equal (.text "red")))
    (.both (.compare "name" .equal (.text "red")) (.compare "name" .less (.text "red")))

/-- Red is found in both tables and green in none. -/
theorem reaches_redBelowOrMissing (place : List Side) :
    redBelowOrMissing.Reaches otherColours place ↔ redBelowOrMissing.Reaches colours place := by
  apply reaches_congr
  intro above left right partEq
  rcases above with _ | ⟨_ | _, _ | ⟨_ | _, _ | ⟨_, above⟩⟩⟩ <;> cases partEq
  · decide
  · decide

theorem fails_colours :
    otherColours.name = colours.name ∧ otherColours.fields = colours.fields ∧
      (0 < otherColours.rowCount ↔ 0 < colours.rowCount) ∧
      (∀ place, redBelowOrMissing.Reaches otherColours place ↔
        redBelowOrMissing.Reaches colours place) ∧
      (redBelowOrMissing.rows colours).outcome = .error (.unsupportedComparison .less .text) ∧
      (redBelowOrMissing.rows otherColours).outcome =
        .error (.unsupportedComparison .less .text) := by
  have rowsIff : 0 < otherColours.rowCount ↔ 0 < colours.rowCount := by decide
  have failed : (redBelowOrMissing.rows colours).outcome =
      .error (.unsupportedComparison .less .text) := rfl
  have alike := (fails_iff_and_reports_first colours redBelowOrMissing).2.2 otherColours rfl rfl
    rowsIff reaches_redBelowOrMissing (.unsupportedComparison .less .text)
  exact ⟨rfl, rfl, rowsIff, reaches_redBelowOrMissing, failed, alike.2 failed⟩

end Filter

end Tabula.Query
