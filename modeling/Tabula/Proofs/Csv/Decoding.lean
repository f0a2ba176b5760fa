import Mathlib.Data.List.Forall2
import Tabula.Csv.Load

/-!
# Which records are decoded

Records are decoded if all of them have the same number of fields and every field is encoded
text, and not otherwise. The numbers by which records are reported have no part in it. What
is read of a file whose quotes pass is what its decoded records make.
-/

namespace Tabula.Csv

theorem map_cons_eq_ok_iff {ε α : Type} {first : α} {result : Except ε (List α)}
    {values : List α} :
    result.map (first :: ·) = .ok values ↔ ∃ later, result = .ok later ∧ values = first :: later := by
  cases result <;> simp [Except.map, eq_comm]

/-- Of related lists, an item of the second is related to the item of the first at its place. -/
theorem exists_getElem?_of_forall₂ {α β : Type} {related : α → β → Prop} {first : List α}
    {second : List β} (each : List.Forall₂ related first second) {index : Nat} {right : β}
    (here : second[index]? = some right) :
    ∃ left, first[index]? = some left ∧ related left right := by
  obtain ⟨rightBound, rightEq⟩ := List.getElem?_eq_some_iff.1 here
  have leftBound : index < first.length := each.length_eq ▸ rightBound
  refine ⟨first[index], List.getElem?_eq_getElem leftBound, ?_⟩
  have sameIndex := each.get leftBound rightBound
  rwa [List.get_eq_getElem, List.get_eq_getElem, rightEq] at sameIndex

/-- The fields of a record are these texts. -/
def Record.HasTexts (record : Record) (row : List String) : Prop :=
  List.Forall₂ (fun bytes text => Text.Utf8.decode? bytes = some text) record.fields row

theorem Record.HasTexts.unique {record : Record} {row other : List String}
    (texts : record.HasTexts row) (otherTexts : record.HasTexts other) : row = other := by
  refine List.right_unique_forall₂' ?_ texts otherTexts
  intro bytes text otherText isText isOther
  exact Option.some.inj (isText.symm.trans isOther)

section Rows

variable {number expected : Nat} {records : List Record} {rows : List (List String)}

theorem decodeFields_eq_ok_iff {index : Nat} {fields : List (List UInt8)} {row : List String} :
    decodeFields index fields = .ok row ↔
      List.Forall₂ (fun bytes text => Text.Utf8.decode? bytes = some text) fields row := by
  induction fields generalizing index row with
  | nil => simp [decodeFields, eq_comm]
  | cons bytes rest ih =>
      rw [decodeFields, List.forall₂_cons_left_iff]
      cases decoded : Text.Utf8.decode? bytes with
      | none => simp
      | some text => simp [map_cons_eq_ok_iff, ih]

theorem Record.decode_eq_ok_iff {record : Record} {row : List String} :
    record.decode number expected = .ok row ↔
      record.fields.length = expected ∧ record.HasTexts row := by
  rw [Record.decode, Record.HasTexts, ← @decodeFields_eq_ok_iff 0]
  by_cases sameWidth : record.fields.length = expected
  · cases decodeFields 0 record.fields <;> simp [sameWidth]
  · simp [sameWidth]

theorem decodeFrom_eq_ok_iff :
    decodeFrom number expected records = .ok rows ↔
      (∀ record ∈ records, record.fields.length = expected) ∧
        List.Forall₂ Record.HasTexts records rows := by
  rw [← List.forall₂_and_left]
  induction records generalizing number rows with
  | nil => simp [decodeFrom, eq_comm]
  | cons record rest ih =>
      rw [decodeFrom, List.forall₂_cons_left_iff]
      simp only [← @Record.decode_eq_ok_iff number]
      cases decoded : record.decode number expected with
      | error fault => simp
      | ok row => simp [map_cons_eq_ok_iff, ih, @Record.decode_eq_ok_iff number]

/-- Rows of one length are what records are decoded into. -/
theorem decode_eq_ok_iff :
    decode records = .ok rows ↔
      List.Forall₂ Record.HasTexts records rows ∧
        ∀ record ∈ records, ∀ other ∈ records, record.fields.length = other.fields.length := by
  cases records with
  | nil => simp [decode, eq_comm]
  | cons first rest =>
      rw [decode, decodeFrom_eq_ok_iff, and_comm]
      apply and_congr_right
      intro _
      constructor
      · intro sameWidth record member other otherMember
        rw [sameWidth record member, sameWidth other otherMember]
      · intro sameWidth record member
        exact sameWidth record member first List.mem_cons_self

/-- The rows of a file have the length of its header. -/
theorem sameWidth_of_decode {header : List String}
    (decoded : decode records = .ok (header :: rows)) : ∀ row ∈ rows, row.length = header.length := by
  obtain ⟨texts, sameWidth⟩ := decode_eq_ok_iff.1 decoded
  have found : ∀ row ∈ header :: rows, ∃ record ∈ records, record.fields.length = row.length := by
    intro row member
    obtain ⟨index, here⟩ := List.getElem?_of_mem member
    obtain ⟨record, recordHere, recordTexts⟩ := exists_getElem?_of_forall₂ texts here
    exact ⟨record, List.mem_of_getElem? recordHere, List.Forall₂.length_eq recordTexts⟩
  intro row member
  obtain ⟨first, firstMember, firstLength⟩ := found header List.mem_cons_self
  obtain ⟨record, recordMember, recordLength⟩ := found row (List.mem_cons_of_mem header member)
  rw [← firstLength, ← recordLength, sameWidth record recordMember first firstMember]

end Rows

/-- Reading comes to the rows of a file unless its quotes or a record are at fault. -/
theorem read_cases (schema : Schema) (bytes : List UInt8) :
    (∃ fault, read schema bytes = .error (.quotes fault)) ∨
      (∃ fault, read schema bytes = .error (.record fault)) ∨
      ∃ texts, (schema.lazyQuotes = false → checkQuotes schema.separatorByte bytes = .ok ()) ∧
        decode (records schema.separatorByte bytes) = .ok texts ∧
        read schema bytes = tableOf schema texts := by
  rw [read]
  cases checked : (if schema.lazyQuotes then .ok () else checkQuotes schema.separatorByte bytes) with
  | error fault => exact .inl ⟨fault, rfl⟩
  | ok _ =>
      cases decoded : decode (records schema.separatorByte bytes) with
      | error fault => exact .inr (.inl ⟨fault, rfl⟩)
      | ok texts =>
          refine .inr (.inr ⟨texts, ?_, rfl, rfl⟩)
          intro strict
          simpa [strict] using checked

end Tabula.Csv
