import Tabula.Proofs.Flag.Lineage

/-!
# Which flags report cancellation

A flag reports cancellation exactly if somebody has raised a flag that shares the cell of
the flag or of one of its ancestors, whether before or after the flags in question were
made. Raising therefore works downwards only: no ancestor, no sibling and no unrelated flag
ever notices, and what has been raised stays raised.
-/

namespace Tabula.FlagStore

variable {store : FlagStore} {actions : List Action}

/-- A flag hears of raising another one that shares its cell or that of an ancestor. -/
def Hears (actions : List Action) (index raised : Nat) : Prop :=
  SharesCell actions raised index ∨
    ∃ ancestor, Ancestor actions index ancestor ∧ SharesCell actions raised ancestor

/-- Two flags are siblings if they share their cells with different children of one flag
or of flags that share a cell. -/
def Siblings (actions : List Action) (first second : Nat) : Prop :=
  ∃ child child' parent parent',
    SharesCell actions first child ∧ SharesCell actions second child' ∧
      IsChild actions child parent ∧ IsChild actions child' parent' ∧
        SharesCell actions parent parent' ∧ child ≠ child'

theorem isRaised_eq_true_iff {index : Nat} :
    store.isRaised index = true ↔
      ∃ flag, store.flags[index]? = some flag ∧ ∃ cell ∈ flag.cells, cell ∈ store.marked := by
  simp [isRaised, reports, Option.any_eq_true]

/-- A flag notices that another one is raised if it has the cell of that one. -/
theorem isRaised_raise {index raised : Nat} :
    (store.raise raised).isRaised index = true ↔
      store.isRaised index = true ∨
        ∃ flag other, store.flags[index]? = some flag ∧ store.flags[raised]? = some other ∧
          other.cell ∈ flag.cells := by
  unfold raise
  cases isFlag : store.flags[raised]? with
  | none => simp
  | some other =>
      rw [isRaised_eq_true_iff, isRaised_eq_true_iff]
      constructor
      · rintro ⟨flag, found, cell, isCell, isMarked⟩
        rcases List.mem_cons.1 isMarked with rfl | old
        · exact .inr ⟨flag, other, found, rfl, isCell⟩
        · exact .inl ⟨flag, found, cell, isCell, old⟩
      · rintro (⟨flag, found, cell, isCell, old⟩ | ⟨flag, same, found, isSame, isCell⟩)
        · exact ⟨flag, found, cell, isCell, List.mem_cons_of_mem _ old⟩
        · obtain rfl := Option.some.inj isSame
          exact ⟨flag, found, _, isCell, List.mem_cons_self⟩

/-! ## What is raised stays raised -/

theorem grows_act (store : FlagStore) (action : Action) :
    store.flags <+: (store.act action).flags ∧ store.marked ⊆ (store.act action).marked := by
  cases action with
  | create => exact ⟨List.prefix_append _ _, List.Subset.refl _⟩
  | clone index =>
      rw [act, clone]
      split
      · exact ⟨List.prefix_append _ _, List.Subset.refl _⟩
      · exact ⟨List.prefix_refl _, List.Subset.refl _⟩
  | child index =>
      rw [act, child]
      split
      · exact ⟨List.prefix_append _ _, List.Subset.refl _⟩
      · exact ⟨List.prefix_refl _, List.Subset.refl _⟩
  | raise index =>
      rw [act, raise]
      split
      · exact ⟨List.prefix_refl _, List.subset_cons_self _ _⟩
      · exact ⟨List.prefix_refl _, List.Subset.refl _⟩

theorem isRaised_act {index : Nat} (isRaised : store.isRaised index = true) (action : Action) :
    (store.act action).isRaised index = true := by
  obtain ⟨flagsGrow, marksGrow⟩ := grows_act store action
  obtain ⟨flag, found, cell, isCell, isMarked⟩ := isRaised_eq_true_iff.1 isRaised
  obtain ⟨made, grown⟩ := flagsGrow
  refine isRaised_eq_true_iff.2 ⟨flag, ?_, cell, isCell, marksGrow isMarked⟩
  rw [← grown, List.getElem?_append_left (List.getElem?_eq_some_iff.1 found).1, found]

theorem isRaised_run {index : Nat} (isRaised : store.isRaised index = true)
    (actions : List Action) : (store.run actions).isRaised index = true := by
  induction actions generalizing store with
  | nil => exact isRaised
  | cons action rest ih => exact ih (isRaised_act isRaised action)

/-! ## Hearing is having the cell -/

namespace Describes

variable (describes : Describes store actions)
include describes

theorem hears_iff {index raised : Nat} {flag other : Flag}
    (found : store.flags[index]? = some flag) (isRaised : store.flags[raised]? = some other) :
    Hears actions index raised ↔ other.cell ∈ flag.cells := by
  rw [Hears, describes.sharesCell_iff isRaised found, Flag.cells, List.mem_cons]
  refine or_congr_right ?_
  constructor
  · rintro ⟨ancestor, higher, shares⟩
    obtain ⟨_, top, found', isTop, cells⟩ := describes.cells_of_ancestor higher
    obtain rfl := Option.some.inj (found.symm.trans found')
    apply cells
    rw [(describes.sharesCell_iff isRaised isTop).1 shares]
    exact List.mem_cons_self
  · intro isAbove
    obtain ⟨ancestor, top, higher, isTop, cellEq⟩ := describes.exists_ancestor found isAbove
    exact ⟨ancestor, higher, (describes.sharesCell_iff isRaised isTop).2 cellEq.symm⟩

/-- Only flags that exist hear of others. -/
theorem exists_flag_of_hears {index raised : Nat} {other : Flag}
    (hears : Hears actions index raised) (isRaised : store.flags[raised]? = some other) : ∃ flag, store.flags[index]? = some flag := by
  rcases hears with shares | ⟨ancestor, higher, _⟩
  · exact ⟨other, (describes.flag_of_sharesCell shares).symm.trans isRaised⟩
  · obtain ⟨flag, _, found, _⟩ := describes.cells_of_ancestor higher
    exact ⟨flag, found⟩

theorem isRaised_iff {index : Nat} :
    store.isRaised index = true ↔
      ∃ raised, Action.raise raised ∈ actions ∧ Hears actions index raised := by
  rw [isRaised_eq_true_iff]
  constructor
  · rintro ⟨flag, found, cell, isCell, isMarked⟩
    obtain ⟨raised, other, called, isRaised, rfl⟩ := (describes.marked cell).1 isMarked
    exact ⟨raised, called, (describes.hears_iff found isRaised).2 isCell⟩
  · rintro ⟨raised, called, hears⟩
    have isRaised := List.getElem?_eq_getElem (describes.raised raised called)
    obtain ⟨flag, found⟩ := describes.exists_flag_of_hears hears isRaised
    have isCell := (describes.hears_iff found isRaised).1 hears
    exact ⟨flag, found, _, isCell, (describes.marked _).2 ⟨raised, _, called, isRaised, rfl⟩⟩

/-- An ancestor does not hear: the cell of a flag is newer than all above it. -/
theorem not_hears_of_ancestor {index ancestor : Nat} (higher : Ancestor actions index ancestor) :
    ¬ Hears actions ancestor index := by
  intro hears
  obtain ⟨flag, top, found, isTop, cells⟩ := describes.cells_of_ancestor higher
  have isAbove := cells _ ((describes.hears_iff isTop found).1 hears)
  exact Nat.lt_irrefl _ (describes.lt_cell_of_mem_ancestors found _ isAbove)

/-- Siblings have different cells with the same ones above them. -/
theorem not_hears_of_siblings {first second : Nat} (siblings : Siblings actions first second) :
    ¬ Hears actions second first := by
  intro hears
  obtain ⟨child, child', parent, parent', shares, shares', isChild, isChild', sameParent,
    different⟩ := siblings
  obtain ⟨flag, above, isFlag, isParent, ancestors, isNew⟩ := describes.flag_of_isChild isChild
  obtain ⟨flag', above', isFlag', isParent', ancestors', isNew'⟩ :=
    describes.flag_of_isChild isChild'
  have isFirst := (describes.flag_of_sharesCell shares).trans isFlag
  have isSecond := (describes.flag_of_sharesCell shares').trans isFlag'
  have sameAbove : above = above' :=
    Option.some.inj <|
      isParent.symm.trans ((describes.flag_of_sharesCell sameParent).trans isParent')
  rcases List.mem_cons.1 ((describes.hears_iff isSecond isFirst).1 hears) with sameCell | isAbove
  · exact different (NewCell.unique isFlag isFlag' isNew isNew' sameCell)
  · rw [ancestors', ← sameAbove, ← ancestors] at isAbove
    exact Nat.lt_irrefl _ (describes.lt_cell_of_mem_ancestors isFlag _ isAbove)

end Describes

/-- After any history a flag reports cancellation, and its check fails, exactly if a flag
of which it hears has been raised. Whichever flag is raised next, those that do not hear
of it report what they did before, its ancestors and siblings among them; and a flag that
reports cancellation will do so whatever is done. -/
theorem isRaised_store_iff (history : History) :
    (∀ index,
      (history.store.isRaised index = true ↔
        ∃ raised, Action.raise raised ∈ history.actions ∧ Hears history.actions index raised) ∧
      (history.store.check index = .error .cancelled ↔ history.store.isRaised index = true) ∧
      (history.store.check index = .ok () ↔ history.store.isRaised index = false)) ∧
    (∀ raised other,
      Ancestor history.actions raised other ∨ Siblings history.actions raised other ∨
          ¬ Hears history.actions other raised →
        (history.store.raise raised).isRaised other = history.store.isRaised other) ∧
    ∀ index, history.store.isRaised index = true →
      ∀ later, (history.store.run later).isRaised index = true := by
  have describes := history.describes
  refine ⟨fun index => ⟨describes.isRaised_iff, ?_, ?_⟩, ?_, ?_⟩
  · cases isRaised : history.store.isRaised index <;> simp [check, isRaised]
  · cases isRaised : history.store.isRaised index <;> simp [check, isRaised]
  · intro raised other unheard
    have notHears : ¬ Hears history.actions other raised := by
      rcases unheard with higher | siblings | notHears
      · exact describes.not_hears_of_ancestor higher
      · exact describes.not_hears_of_siblings siblings
      · exact notHears
    rw [Bool.eq_iff_iff, isRaised_raise]
    constructor
    · rintro (before | ⟨flag, raisedFlag, found, isRaised, isCell⟩)
      · exact before
      · exact absurd ((describes.hears_iff found isRaised).2 isCell) notHears
    · exact .inl
  · intro index isRaised later
    exact isRaised_run isRaised later

/-- A flag with two children, of which the first is raised before it is cloned and the
clone has a child of its own. -/
def family : History :=
  ⟨[.create, .child 0, .raise 1, .clone 1, .child 0, .child 2], by decide⟩

/-- Raising the clone reaches neither the common parent nor the other child, and the child
of the clone reports cancellation from the beginning and for good. -/
theorem isRaised_family :
    (Ancestor family.actions 2 0 ∧
        (family.store.raise 2).isRaised 0 = family.store.isRaised 0) ∧
      (Siblings family.actions 2 3 ∧
        (family.store.raise 2).isRaised 3 = family.store.isRaised 3) ∧
      family.store.isRaised 4 = true ∧
      (family.store.run [.raise 3, .create]).isRaised 4 = true := by
  obtain ⟨_, unheard, stays⟩ := isRaised_store_iff family
  have isClone : IsClone family.actions 2 1 := rfl
  have higher : Ancestor family.actions 2 0 := .clone isClone (.parent rfl)
  have siblings : Siblings family.actions 2 3 :=
    ⟨1, 3, 0, 0, .rel _ _ isClone, .refl _, rfl, rfl, .refl _, by decide⟩
  have raised : family.store.isRaised 4 = true := by decide
  exact ⟨⟨higher, unheard 2 0 (.inl higher)⟩, ⟨siblings, unheard 2 3 (.inr (.inl siblings))⟩,
    raised, stays 4 raised _⟩

end Tabula.FlagStore
