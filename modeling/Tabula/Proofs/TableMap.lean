import Tabula.Proofs.Named
import Tabula.TableMap

/-!
# Tables by name

Looking a name up in a map of tables finds the one table of that name, and fails when
there is none.
-/

namespace Tabula.TableMap

variable {map : TableMap} {name : String}

theorem names_nodup (map : TableMap) : map.names.Nodup := by
  rw [names, List.Nodup, List.pairwise_map]
  refine map.ascending.imp ?_
  intro left right below equal
  exact String.lt_irrefl _ (equal ▸ below)

theorem find?_eq_some_iff {table : Table} :
    map.find? name = some table ↔ table ∈ map.tables ∧ table.name = name :=
  find?_key_eq_some_iff map.names_nodup

theorem find?_eq_none_iff : map.find? name = none ↔ ∀ table ∈ map.tables, table.name ≠ name :=
  find?_key_eq_none_iff

theorem lookup_of_mem {table : Table} (member : table ∈ map.tables) :
    map.lookup table.name = .ok table := by
  rw [lookup, find?_eq_some_iff.2 ⟨member, rfl⟩]

theorem lookup_of_absent (absent : ∀ table ∈ map.tables, table.name ≠ name) :
    map.lookup name = .error (.tableNotFound name) := by
  rw [lookup, find?_eq_none_iff.2 absent]

/-! ## Putting and erasing -/

theorem mem_putInto_iff {table other : Table} {tables : List Table}
    (ascending : tables.Pairwise fun left right => left.name < right.name) :
    other ∈ putInto table tables ↔ other = table ∨ other ∈ tables ∧ other.name ≠ table.name := by
  induction tables with
  | nil => simp [putInto]
  | cons first rest ih =>
      obtain ⟨above, restAscending⟩ := List.pairwise_cons.1 ascending
      unfold putInto
      split
      · rename_i below
        have different : ∀ later ∈ first :: rest, later.name ≠ table.name := by
          intro later member same
          rcases List.mem_cons.1 member with rfl | inRest
          · exact String.lt_irrefl _ (same ▸ below)
          · exact String.lt_irrefl _ (same ▸ String.lt_trans below (above later inRest))
        rw [List.mem_cons]
        exact or_congr_right ⟨fun member => ⟨member, different other member⟩, And.left⟩
      · split
        · rename_i equal
          have different : ∀ later ∈ rest, later.name ≠ table.name := by
            intro later member same
            exact String.lt_irrefl _ ((same.trans equal) ▸ above later member)
          rw [List.mem_cons, List.mem_cons]
          refine or_congr_right ⟨fun member => ⟨.inr member, different other member⟩, ?_⟩
          rintro ⟨rfl | member, distinct⟩
          · exact absurd equal.symm distinct
          · exact member
        · rename_i different
          rw [List.mem_cons, ih restAscending, List.mem_cons]
          constructor
          · rintro (rfl | same | ⟨member, distinct⟩)
            · exact .inr ⟨.inl rfl, fun same => different same.symm⟩
            · exact .inl same
            · exact .inr ⟨.inr member, distinct⟩
          · rintro (same | ⟨same | member, distinct⟩)
            · exact .inr (.inl same)
            · exact .inl same
            · exact .inr (.inr ⟨member, distinct⟩)

theorem find?_put (map : TableMap) (table : Table) (name : String) :
    (map.put table).find? name = if name = table.name then some table else map.find? name := by
  split
  · rename_i same
    exact find?_eq_some_iff.2 ⟨(mem_putInto_iff map.ascending).2 (.inl rfl), same.symm⟩
  · rename_i different
    apply Option.ext
    intro other
    rw [find?_eq_some_iff, find?_eq_some_iff, put, mem_putInto_iff map.ascending]
    constructor
    · rintro ⟨rfl | ⟨member, _⟩, nameEq⟩
      · exact absurd nameEq.symm different
      · exact ⟨member, nameEq⟩
    · rintro ⟨member, nameEq⟩
      exact ⟨.inr ⟨member, fun same => different (nameEq.symm.trans same)⟩, nameEq⟩

theorem find?_erase (map : TableMap) (erased name : String) :
    (map.erase erased).find? name = if name = erased then none else map.find? name := by
  split
  · rename_i same
    refine find?_eq_none_iff.2 fun table member nameEq => ?_
    have kept := (List.mem_filter.1 member).2
    simp [nameEq, same] at kept
  · rename_i different
    apply Option.ext
    intro table
    rw [find?_eq_some_iff, find?_eq_some_iff, erase, List.mem_filter]
    constructor
    · rintro ⟨⟨member, _⟩, nameEq⟩
      exact ⟨member, nameEq⟩
    · rintro ⟨member, nameEq⟩
      exact ⟨⟨member, by simpa [nameEq] using different⟩, nameEq⟩

theorem mem_names_iff : name ∈ map.names ↔ (map.find? name).isSome = true := by
  rw [names, List.mem_map, Option.isSome_iff_exists]
  exact exists_congr fun _ => find?_eq_some_iff.symm

end Tabula.TableMap
