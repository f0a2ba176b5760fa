import Tabula.Proofs.Csv.Grammar
import Tabula.Proofs.Csv.Reader

/-!
# Reading written files

The fields that the reader finds depend on the bytes alone, not on where the reader
stands in the file. In a file of the grammar they are those that have been written,
record by record.
-/

namespace Tabula.Csv

namespace Reader

/-- The fields of the records of bytes from a state on, after the given beginning of a
field and the given fields before it, in reverse. -/
def fieldsFrom (separator : UInt8) (field : List UInt8) (fields : List (List UInt8))
    (state : State) : List UInt8 → List (List (List UInt8))
  | [] =>
      if state = .recordStart || state = .afterReturn then []
      else [(field.reverse :: fields).reverse]
  | byte :: rest =>
      match step separator state byte with
      | (next, .skip) => fieldsFrom separator field fields next rest
      | (next, .keep) => fieldsFrom separator (byte :: field) fields next rest
      | (next, .endField) => fieldsFrom separator [] (field.reverse :: fields) next rest
      | (next, .endRecord) =>
          (field.reverse :: fields).reverse :: fieldsFrom separator [] [] next rest

theorem map_fields_runFrom (separator : UInt8) (progress : Progress) (state : State)
    (bytes : List UInt8) :
    (runFrom separator progress state bytes).map Record.fields =
      fieldsFrom separator progress.field progress.fields state bytes := by
  induction bytes generalizing progress state with
  | nil =>
      rw [runFrom, fieldsFrom]
      split <;> rfl
  | cons byte rest ih =>
      rw [runFrom, fieldsFrom]
      cases step separator state byte with
      | mk next action =>
          cases action with
          | skip | keep | endField => exact ih _ next
          | endRecord => exact congrArg (progress.record.fields :: ·) (ih _ next)

/-- The states at the end of a field. -/
def IsFieldEnd (state : State) : Prop :=
  state = .fieldStart ∨ state = .unquoted ∨ state = .quoteInQuoted

variable {separator : UInt8} {state : State} {field : List UInt8} {fields : List (List UInt8)}

section Ends

variable (sound : IsSeparator separator) (atEnd : IsFieldEnd state) (rest : List UInt8)

include sound atEnd

theorem fieldsFrom_separator :
    fieldsFrom separator field fields state (separator :: rest) =
      fieldsFrom separator [] (field.reverse :: fields) .fieldStart rest := by
  rcases atEnd with rfl | rfl | rfl <;>
    simp [fieldsFrom, step, stepFieldStart, sound.ne_quote]

theorem fieldsFrom_lineFeed :
    fieldsFrom separator field fields state (lineFeed :: rest) =
      (field.reverse :: fields).reverse :: fieldsFrom separator [] [] .recordStart rest := by
  have ends : isTerminator lineFeed = true := by decide
  rcases atEnd with rfl | rfl | rfl <;>
    simp [fieldsFrom, step, stepFieldStart, terminate, ends, sound.ne_lineFeed.symm,
      quote_ne_lineFeed.symm, carriageReturn_ne_lineFeed.symm]

theorem fieldsFrom_returnFeed :
    fieldsFrom separator field fields state (carriageReturn :: lineFeed :: rest) =
      (field.reverse :: fields).reverse :: fieldsFrom separator [] [] .recordStart rest := by
  have ends : isTerminator carriageReturn = true := by decide
  rcases atEnd with rfl | rfl | rfl <;>
    simp [fieldsFrom, step, stepFieldStart, terminate, ends, sound.ne_carriageReturn.symm,
      quote_ne_carriageReturn.symm]

omit sound in
theorem fieldsFrom_nil_of_isFieldEnd :
    fieldsFrom separator field fields state [] = [(field.reverse :: fields).reverse] := by
  rcases atEnd with rfl | rfl | rfl <;> rfl

end Ends

/-- A record that does not begin with the end of a line begins with a field. -/
theorem fieldsFrom_recordStart {first : UInt8} (notEnd : isTerminator first = false)
    (rest : List UInt8) :
    fieldsFrom separator field fields .recordStart (first :: rest) =
      fieldsFrom separator field fields .fieldStart (first :: rest) := by
  simp [fieldsFrom, step, stepRecordStart, notEnd]

/-- Plain bytes are kept. -/
theorem fieldsFrom_plain {bytes : List UInt8} (plain : ∀ byte ∈ bytes, IsPlain separator byte)
    (outside : state = .fieldStart ∨ state = .unquoted) :
    ∃ next, IsFieldEnd next ∧ ∀ rest, fieldsFrom separator field fields state (bytes ++ rest) =
      fieldsFrom separator (bytes.reverse ++ field) fields next rest := by
  induction bytes generalizing field state with
  | nil => exact ⟨state, outside.imp_right .inl, fun _ => rfl⟩
  | cons byte bytes ih =>
      obtain ⟨notSeparator, notQuote, notFeed, notReturn⟩ := plain byte List.mem_cons_self
      have later : ∀ other ∈ bytes, IsPlain separator other :=
        fun other member => plain other (List.mem_cons_of_mem byte member)
      obtain ⟨next, atEnd, same⟩ := @ih .unquoted (byte :: field) later (.inr rfl)
      refine ⟨next, atEnd, ?_⟩
      intro rest
      rw [List.reverse_cons, List.append_assoc, List.singleton_append, ← same rest]
      rcases outside with rfl | rfl <;>
        simp [fieldsFrom, step, stepFieldStart, isTerminator, notSeparator, notQuote, notFeed,
          notReturn]

/-- Inside quotes, doubled quotes stand for single ones. -/
theorem fieldsFrom_doubleQuotes (bytes rest : List UInt8) :
    fieldsFrom separator field fields .quoted (doubleQuotes bytes ++ rest) =
      fieldsFrom separator (bytes.reverse ++ field) fields .quoted rest := by
  induction bytes generalizing field with
  | nil => rfl
  | cons byte bytes ih =>
      rw [doubleQuotes_cons]
      by_cases isQuote : byte = quote
      · simp [fieldsFrom, step, isQuote, ih]
      · simp [fieldsFrom, step, isQuote, ih]

/-- A written field is read up to its end. -/
theorem fieldsFrom_field {bytes : List UInt8} (written : FieldBytes separator field bytes) :
    ∃ next, IsFieldEnd next ∧ ∀ rest, fieldsFrom separator [] fields .fieldStart (bytes ++ rest) =
      fieldsFrom separator field.reverse fields next rest := by
  cases written with
  | bare plain =>
      obtain ⟨next, atEnd, same⟩ := @fieldsFrom_plain _ _ [] fields _ plain (.inl rfl)
      rw [List.append_nil] at same
      exact ⟨next, atEnd, same⟩
  | quoted =>
      refine ⟨.quoteInQuoted, .inr (.inr rfl), ?_⟩
      intro rest
      have opened : fieldsFrom separator [] fields .fieldStart
            (quote :: (doubleQuotes field ++ [quote]) ++ rest) =
          fieldsFrom separator [] fields .quoted (doubleQuotes field ++ quote :: rest) := by
        simp [fieldsFrom, step, stepFieldStart]
      rw [opened, fieldsFrom_doubleQuotes]
      simp [fieldsFrom, step]

/-- A written record is read up to the end of its last field. -/
theorem fieldsFrom_record {record : List (List UInt8)} {bytes : List UInt8}
    (sound : IsSeparator separator) (written : RecordBytes separator record bytes)
    (before : List (List UInt8)) :
    ∃ field fields next, IsFieldEnd next ∧
      (field.reverse :: fields).reverse = before.reverse ++ record ∧
      ∀ rest, fieldsFrom separator [] before .fieldStart (bytes ++ rest) =
        fieldsFrom separator field fields next rest := by
  induction written generalizing before with
  | @last field bytes written =>
      obtain ⟨next, atEnd, same⟩ := @fieldsFrom_field _ _ before _ written
      exact ⟨field.reverse, before, next, atEnd, by simp, same⟩
  | @cons first bytes record others written _ ih =>
      obtain ⟨middle, atEnd, same⟩ := @fieldsFrom_field _ _ before _ written
      obtain ⟨field, fields, next, atLast, recordEq, sameLater⟩ := ih (first :: before)
      refine ⟨field, fields, next, atLast, by simp [recordEq], ?_⟩
      intro rest
      rw [List.append_assoc, List.cons_append, same, fieldsFrom_separator sound atEnd,
        List.reverse_reverse, sameLater]

/-- A written record is read whole where a record begins. -/
theorem fieldsFrom_visible {record : List (List UInt8)} {bytes : List UInt8}
    (sound : IsSeparator separator) (written : RecordBytes separator record bytes)
    (visible : bytes ≠ []) :
    ∃ field fields next, IsFieldEnd next ∧ (field.reverse :: fields).reverse = record ∧
      ∀ rest, fieldsFrom separator [] [] .recordStart (bytes ++ rest) =
        fieldsFrom separator field fields next rest := by
  obtain ⟨field, fields, next, atEnd, recordEq, same⟩ := fieldsFrom_record sound written []
  obtain ⟨first, others, rfl⟩ := List.exists_cons_of_ne_nil visible
  refine ⟨field, fields, next, atEnd, recordEq, ?_⟩
  intro rest
  rw [← same, List.cons_append]
  exact fieldsFrom_recordStart (written.isTerminator_eq_false sound rfl) _

/-- A written file is read record by record. -/
theorem fieldsFrom_file {written : List (List (List UInt8))} {bytes : List UInt8}
    (sound : IsSeparator separator) (file : FileBytes separator written bytes) :
    fieldsFrom separator [] [] .recordStart bytes = written := by
  induction file with
  | empty => rfl
  | last written visible =>
      obtain ⟨field, fields, next, atEnd, recordEq, same⟩ :=
        fieldsFrom_visible sound written visible
      have whole := same []
      rw [List.append_nil, fieldsFrom_nil_of_isFieldEnd atEnd, recordEq] at whole
      exact whole
  | feed written visible _ ih =>
      obtain ⟨field, fields, next, atEnd, recordEq, same⟩ :=
        fieldsFrom_visible sound written visible
      rw [same, fieldsFrom_lineFeed sound atEnd, recordEq, ih]
  | returnFeed written visible _ ih =>
      obtain ⟨field, fields, next, atEnd, recordEq, same⟩ :=
        fieldsFrom_visible sound written visible
      rw [same, fieldsFrom_returnFeed sound atEnd, recordEq, ih]

end Reader

/-- The records of a written file are those that have been written. -/
theorem map_fields_records {separator : UInt8} {written : List (List (List UInt8))}
    {bytes : List UInt8} (sound : IsSeparator separator)
    (file : FileBytes separator written bytes) (unmarked : withoutMark bytes = (bytes, 0)) :
    (records separator bytes).map Record.fields = written := by
  rw [records, unmarked, Reader.map_fields_runFrom]
  exact Reader.fieldsFrom_file sound file

end Tabula.Csv
