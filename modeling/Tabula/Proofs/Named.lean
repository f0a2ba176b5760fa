import Mathlib.Data.List.Nodup

/-!
# Items with distinct names

Where the names of items are distinct, a name stands for at most one item, and the
first item of a name is the only one.
-/

namespace Tabula

universe u v

variable {α : Type u} {β : Type v} [DecidableEq β] {key : α → β} {items : List α} {name : β}

theorem find?_key_eq_some_iff (distinct : (items.map key).Nodup) {item : α} :
    items.find? (fun candidate => key candidate = name) = some item ↔
      item ∈ items ∧ key item = name := by
  constructor
  · intro found
    exact ⟨List.mem_of_find?_eq_some found, by simpa using List.find?_some found⟩
  · rintro ⟨member, nameEq⟩
    cases found : items.find? fun candidate => key candidate = name with
    | none =>
        have absent := List.find?_eq_none.1 found item member
        exact absurd nameEq (by simpa using absent)
    | some first =>
        have firstName : key first = name := by simpa using List.find?_some found
        have same : first = item :=
          List.inj_on_of_nodup_map distinct (List.mem_of_find?_eq_some found) member
            (firstName.trans nameEq.symm)
        rw [same]

theorem find?_key_eq_none_iff :
    items.find? (fun candidate => key candidate = name) = none ↔
      ∀ item ∈ items, key item ≠ name := by
  simp

end Tabula
