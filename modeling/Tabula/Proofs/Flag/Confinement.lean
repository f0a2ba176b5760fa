import Tabula.Proofs.Flag.Reporting

/-!
# Flags that nobody else knows

The cell of a child that has just been made is new: no other flag has it, and it is not
marked. As long as the holders of such a flag are the only ones that use it, nobody else
comes by its cell, and raising it concerns nobody else.
-/

namespace Tabula.FlagStore

variable {store other : FlagStore} {action : Action} {cell : Nat} {holders : List Nat}

/-- Only the given flags have a cell. -/
def Confines (store : FlagStore) (cell : Nat) (holders : List Nat) : Prop :=
  ∀ index flag, store.flags[index]? = some flag → cell ∈ flag.cells → index ∈ holders

/-! ## What an action changes -/

/-- An action that starts from a flag that does not exist has no effect. -/
theorem act_of_unknown {index : Nat} (isSubject : action.subject? = some index)
    (unknown : store.flags[index]? = none) : store.act action = store := by
  cases action with
  | create => cases isSubject
  | clone subject | child subject | raise subject =>
      cases isSubject
      simp [act, clone, child, raise, unknown]

/-- Whatever happens to the flags of a history belongs to a longer history. -/
theorem History.exists_act (history : History) (action : Action) :
    ∃ later : History, later.store = history.store.act action := by
  have length := history.describes.length
  cases isSubject : action.subject? with
  | none =>
      have known : Known (history.actions ++ [action]) :=
        history.known.concat fun index same => by rw [isSubject] at same; cases same
      exact ⟨⟨history.actions ++ [action], known⟩, run_concat _⟩
  | some index =>
      by_cases inRange : index < history.store.flags.length
      · have known : Known (history.actions ++ [action]) := by
          apply history.known.concat
          intro subject same
          rw [isSubject] at same
          cases same
          exact length ▸ inRange
        exact ⟨⟨history.actions ++ [action], known⟩, run_concat _⟩
      · have unknown := List.getElem?_eq_none (Nat.le_of_not_lt inRange)
        exact ⟨history, (act_of_unknown isSubject unknown).symm⟩

/-- The flag that an action makes. -/
def made? (store : FlagStore) : Action → Option Flag
  | .create => some ⟨store.freshCell, []⟩
  | .clone index => store.flags[index]?
  | .child index => store.flags[index]?.map fun parent => ⟨store.freshCell, parent.cells⟩
  | .raise _ => none

theorem flags_act (store : FlagStore) (action : Action) :
    (store.act action).flags = store.flags ++ (store.made? action).toList := by
  cases action with
  | create => rfl
  | clone index =>
      rw [act, clone, made?]
      split <;> simp [*]
  | child index =>
      rw [act, child, made?]
      split <;> simp [*]
  | raise index =>
      rw [act, raise, made?]
      split <;> simp

/-- New flags and cells do not depend on what is marked. -/
theorem act_congr (sameFlags : store.flags = other.flags)
    (sameFresh : store.freshCell = other.freshCell) (action : Action) :
    (store.act action).flags = (other.act action).flags ∧
      (store.act action).freshCell = (other.act action).freshCell := by
  constructor
  · rw [flags_act, flags_act, sameFlags]
    cases action <;> simp [made?, sameFlags, sameFresh]
  · cases action with
    | create => simp [act, create, sameFresh]
    | clone index | child index | raise index =>
        simp only [act, clone, child, raise, sameFlags]
        split <;> simp [sameFresh]

/-- Marks come from raising flags. -/
theorem mem_marked_act {mark : Nat} :
    mark ∈ (store.act action).marked ↔ mark ∈ store.marked ∨
      ∃ index flag, action = .raise index ∧ store.flags[index]? = some flag ∧ flag.cell = mark := by
  cases action with
  | create => simp [act, create]
  | clone index =>
      rw [act, clone]
      split <;> simp
  | child index =>
      rw [act, child]
      split <;> simp
  | raise index =>
      rw [act, raise]
      split
      · rename_i flag found
        simp [found, or_comm, eq_comm]
      · rename_i unknown
        simp [unknown]

/-! ## Cells that are known to few -/

theorem Describes.lt_freshCell {actions : List Action} (describes : Describes store actions)
    {index : Nat} {flag : Flag} (found : store.flags[index]? = some flag) :
    ∀ known ∈ flag.cells, known < store.freshCell := by
  intro known isCell
  have below := describes.bounded flag (List.mem_of_getElem? found)
  rcases List.mem_cons.1 isCell with rfl | isAbove
  · exact below
  · exact Nat.lt_trans (describes.lt_cell_of_mem_ancestors found known isAbove) below

theorem Describes.marked_lt_freshCell {actions : List Action}
    (describes : Describes store actions) : ∀ mark ∈ store.marked, mark < store.freshCell := by
  intro mark isMarked
  obtain ⟨index, flag, _, found, rfl⟩ := (describes.marked mark).1 isMarked
  exact describes.lt_freshCell found _ List.mem_cons_self

/-- Actions that do not start from a holder make no further one. -/
theorem Confines.act (confines : store.Confines cell holders) (old : cell < store.freshCell)
    (foreign : ∀ holder ∈ holders, action.subject? ≠ some holder) :
    (store.act action).Confines cell holders := by
  intro index flag found isCell
  rw [flags_act, List.getElem?_append] at found
  split at found
  · exact confines index flag found isCell
  · have isNew : store.made? action = some flag := by
      have member := List.mem_of_getElem? found
      simpa using member
    -- The cells of a new flag are the fresh one and those of the flag it is made from.
    exfalso
    cases action with
    | create =>
        cases isNew
        simp only [Flag.cells, List.mem_singleton] at isCell
        omega
    | clone subject => exact foreign subject (confines subject flag isNew isCell) rfl
    | child subject =>
        obtain ⟨parent, isParent, rfl⟩ := Option.map_eq_some_iff.1 isNew
        rcases List.mem_cons.1 isCell with isFresh | isAbove
        · exact absurd isFresh (Nat.ne_of_lt old)
        · exact foreign subject (confines subject parent isParent isAbove) rfl
    | raise subject => cases isNew

/-- Actions that do not start from a holder do not mark the cell. -/
theorem Confines.mem_marked_act_iff (confines : store.Confines cell holders)
    (foreign : ∀ holder ∈ holders, action.subject? ≠ some holder) :
    cell ∈ (store.act action).marked ↔ cell ∈ store.marked := by
  rw [mem_marked_act]
  refine or_iff_left ?_
  rintro ⟨index, flag, rfl, found, rfl⟩
  exact foreign index (confines index flag found List.mem_cons_self) rfl

/-- Marks other than the cell decide what anybody but a holder reports. -/
theorem Confines.isRaised_congr (confines : store.Confines cell holders)
    (sameFlags : store.flags = other.flags)
    (sameMarks : ∀ mark ≠ cell, mark ∈ store.marked ↔ mark ∈ other.marked) {index : Nat}
    (stranger : index ∉ holders) : store.isRaised index = other.isRaised index := by
  rw [Bool.eq_iff_iff, isRaised_eq_true_iff, isRaised_eq_true_iff, ← sameFlags]
  refine exists_congr fun flag => and_congr_right fun found => exists_congr fun mark => ?_
  refine and_congr_right fun isCell => sameMarks mark ?_
  rintro rfl
  exact stranger (confines index flag found isCell)

end Tabula.FlagStore
