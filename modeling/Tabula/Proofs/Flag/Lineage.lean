import Mathlib.Data.List.Induction
import Mathlib.Logic.Relation
import Tabula.Flag

/-!
# Where flags come from

The actions on flags alone say which flags share a cell and which flags are above
others: a clone shares the cell of its original and what is above it, and a child is
made below its parent with a cell of its own. The store agrees with this reading of the
actions, however many there are and in whichever order.
-/

namespace Tabula.FlagStore

namespace Action

/-- Whether an action makes a flag. -/
def makesFlag : Action → Bool
  | .create | .clone _ | .child _ => true
  | .raise _ => false

end Action

variable {actions before : List Action} {action : Action}

/-- The actions that make flags, in order: each flag has the number of its maker. -/
def makers (actions : List Action) : List Action :=
  actions.filter Action.makesFlag

/-- Every action starts from a flag that has been made before. -/
def Known (actions : List Action) : Prop :=
  ∀ position < actions.length, ∀ index ∈ actions[position]?.bind Action.subject?,
    index < (makers (actions.take position)).length

instance (actions : List Action) : Decidable (Known actions) :=
  inferInstanceAs (Decidable (∀ position < actions.length,
    ∀ index ∈ actions[position]?.bind Action.subject?,
      index < (makers (actions.take position)).length))

/-- Actions that can be taken one after the other, from no flags on. -/
structure History where
  actions : List Action
  known : Known actions

/-- The flags after a history. -/
def History.store (history : History) : FlagStore :=
  empty.run history.actions

/-- The one flag is a clone of the other. -/
def IsClone (actions : List Action) (copy original : Nat) : Prop :=
  (makers actions)[copy]? = some (.clone original)

/-- The one flag has been made as a child of the other. -/
def IsChild (actions : List Action) (child parent : Nat) : Prop :=
  (makers actions)[child]? = some (.child parent)

/-- Two flags share a cell if cloning leads from one to the other, in any number of
steps back and forth. -/
def SharesCell (actions : List Action) : Nat → Nat → Prop :=
  Relation.EqvGen (IsClone actions)

/-- The ancestors of a child are its parent and those of its parent, and the ancestors of
a clone are those of its original. -/
inductive Ancestor (actions : List Action) : Nat → Nat → Prop
  | parent {index parent : Nat} (child : IsChild actions index parent) :
      Ancestor actions index parent
  | above {index parent ancestor : Nat} (child : IsChild actions index parent)
      (higher : Ancestor actions parent ancestor) : Ancestor actions index ancestor
  | clone {index original ancestor : Nat} (copy : IsClone actions index original)
      (higher : Ancestor actions original ancestor) : Ancestor actions index ancestor

/-! ## Histories one action longer -/

theorem known_concat (known : Known (before ++ [action])) :
    Known before ∧ ∀ index, action.subject? = some index → index < (makers before).length := by
  constructor
  · intro position inRange index isSubject
    have kept := known position (Nat.lt_of_lt_of_le inRange (by simp)) index
    rw [List.getElem?_append_left inRange, List.take_append_of_le_length (Nat.le_of_lt inRange)]
      at kept
    exact kept isSubject
  · intro index isSubject
    simpa [isSubject] using known before.length (by simp) index

/-- An action that starts from a flag that has been made can follow. -/
theorem Known.concat (known : Known before)
    (isKnown : ∀ index, action.subject? = some index → index < (makers before).length) :
    Known (before ++ [action]) := by
  intro position inRange index isSubject
  rcases Nat.lt_or_ge position before.length with inside | atEnd
  · rw [List.getElem?_append_left inside] at isSubject
    rw [List.take_append_of_le_length (Nat.le_of_lt inside)]
    exact known position inside index isSubject
  · rw [List.length_append, List.length_singleton] at inRange
    obtain rfl : position = before.length := by omega
    rw [List.take_left]
    apply isKnown
    simpa using isSubject

theorem run_concat (store : FlagStore) :
    store.run (before ++ [action]) = (store.run before).act action := by
  simp [run]

theorem makers_concat_of_makes (makes : action.makesFlag = true) :
    makers (before ++ [action]) = makers before ++ [action] := by
  simp [makers, makes]

theorem makers_concat_raise (index : Nat) :
    makers (before ++ [.raise index]) = makers before := by
  simp [makers, Action.makesFlag]

/-! ## What the store knows -/

/-- The cell of a flag is newer than those of all flags before it. -/
def NewCell (flags : List Flag) (index : Nat) (flag : Flag) : Prop :=
  ∀ earlier other, earlier < index → flags[earlier]? = some other → other.cell < flag.cell

/-- A cell is new once only. -/
theorem NewCell.unique {flags : List Flag} {first second : Nat} {flag other : Flag}
    (isFirst : flags[first]? = some flag) (isSecond : flags[second]? = some other)
    (firstNew : NewCell flags first flag) (secondNew : NewCell flags second other)
    (sameCell : flag.cell = other.cell) : first = second := by
  rcases Nat.lt_trichotomy first second with below | same | above
  · have less := secondNew first flag below isFirst
    omega
  · exact same
  · have less := firstNew second other above isSecond
    omega

/-- A flag is as its maker says. -/
def Made (flags : List Flag) (index : Nat) (flag : Flag) : Action → Prop
  | .create => NewCell flags index flag ∧ flag.ancestors = []
  | .clone original => original < index ∧ flags[original]? = some flag
  | .child parent =>
      NewCell flags index flag ∧
        parent < index ∧ ∃ above, flags[parent]? = some above ∧ flag.ancestors = above.cells
  | .raise _ => False

/-- A store agrees with the actions that have led to it. -/
structure Describes (store : FlagStore) (actions : List Action) : Prop where
  length : store.flags.length = (makers actions).length
  made : ∀ index maker flag, (makers actions)[index]? = some maker →
    store.flags[index]? = some flag → Made store.flags index flag maker
  bounded : ∀ flag ∈ store.flags, flag.cell < store.freshCell
  raised : ∀ index, .raise index ∈ actions → index < store.flags.length
  marked : ∀ cell, cell ∈ store.marked ↔
    ∃ index flag, .raise index ∈ actions ∧ store.flags[index]? = some flag ∧ flag.cell = cell

theorem Made.append {flags : List Flag} {index : Nat} {flag : Flag} {maker : Action}
    (made : Made flags index flag maker) (old : index ≤ flags.length) (new : Flag) :
    Made (flags ++ [new]) index flag maker := by
  have same : ∀ earlier, earlier < index → (flags ++ [new])[earlier]? = flags[earlier]? :=
    fun earlier below => List.getElem?_append_left (Nat.lt_of_lt_of_le below old)
  have newCell : NewCell flags index flag → NewCell (flags ++ [new]) index flag := by
    intro isNew earlier other below found
    rw [same earlier below] at found
    exact isNew earlier other below found
  cases maker with
  | create => exact ⟨newCell made.1, made.2⟩
  | clone original =>
      refine ⟨made.1, ?_⟩
      rw [same original made.1]
      exact made.2
  | child parent =>
      obtain ⟨isNew, below, above, found, ancestors⟩ := made
      refine ⟨newCell isNew, below, above, ?_, ancestors⟩
      rw [same parent below]
      exact found
  | raise index => exact made

/-- Making one more flag. -/
theorem Describes.add {store : FlagStore} (describes : Describes store before) {new : Flag}
    {freshCell : Nat} (makes : action.makesFlag = true)
    (made : Made store.flags store.flags.length new action) (fresh : store.freshCell ≤ freshCell)
    (below : new.cell < freshCell) :
    Describes ⟨store.flags ++ [new], freshCell, store.marked⟩ (before ++ [action]) := by
  have notRaise : ∀ index, .raise index ∈ before ++ [action] ↔ .raise index ∈ before := by
    intro index
    cases action <;> simp_all [Action.makesFlag]
  have same : ∀ index, .raise index ∈ before →
      (store.flags ++ [new])[index]? = store.flags[index]? :=
    fun index isRaise => List.getElem?_append_left (describes.raised index isRaise)
  constructor
  · simp [makers_concat_of_makes makes, describes.length]
  · intro index maker flag isMaker found
    rw [makers_concat_of_makes makes] at isMaker
    rcases Nat.lt_trichotomy index store.flags.length with old | rfl | beyond
    · rw [List.getElem?_append_left (describes.length ▸ old)] at isMaker
      rw [List.getElem?_append_left old] at found
      exact (describes.made index maker flag isMaker found).append (Nat.le_of_lt old) new
    · rw [describes.length, List.getElem?_concat_length] at isMaker
      rw [List.getElem?_concat_length] at found
      obtain rfl := Option.some.inj isMaker
      obtain rfl := Option.some.inj found
      exact made.append (Nat.le_refl _) new
    · have short : (store.flags ++ [new]).length ≤ index := by
        rw [List.length_append]
        exact beyond
      rw [List.getElem?_eq_none short] at found
      cases found
  · intro flag member
    rcases List.mem_append.1 member with old | isNew
    · exact Nat.lt_of_lt_of_le (describes.bounded flag old) fresh
    · obtain rfl := List.mem_singleton.1 isNew
      exact below
  · intro index isRaise
    have old := describes.raised index ((notRaise index).1 isRaise)
    simp only [List.length_append, List.length_cons, List.length_nil]
    omega
  · intro cell
    rw [describes.marked cell]
    constructor
    · rintro ⟨index, flag, isRaise, found, cellEq⟩
      exact ⟨index, flag, (notRaise index).2 isRaise, (same index isRaise).trans found, cellEq⟩
    · rintro ⟨index, flag, isRaise, found, cellEq⟩
      have isOld := (notRaise index).1 isRaise
      exact ⟨index, flag, isOld, (same index isOld).symm.trans found, cellEq⟩

theorem Describes.newCell {store : FlagStore} (describes : Describes store before)
    (ancestors : List Nat) :
    NewCell store.flags store.flags.length ⟨store.freshCell, ancestors⟩ :=
  fun _ other _ found => describes.bounded other (List.mem_of_getElem? found)

/-- Raising a flag. -/
theorem Describes.mark {store : FlagStore} (describes : Describes store before) {index : Nat}
    {flag : Flag} (found : store.flags[index]? = some flag) :
    Describes { store with marked := flag.cell :: store.marked } (before ++ [.raise index]) := by
  constructor
  · simpa [makers_concat_raise] using describes.length
  · simpa [makers_concat_raise] using describes.made
  · exact describes.bounded
  · intro other isRaise
    rcases List.mem_append.1 isRaise with old | isNew
    · exact describes.raised other old
    · obtain rfl := Action.raise.inj (List.mem_singleton.1 isNew)
      exact (List.getElem?_eq_some_iff.1 found).1
  · intro cell
    rw [List.mem_cons, describes.marked cell]
    constructor
    · rintro (rfl | ⟨other, raised, isRaise, isFlag, cellEq⟩)
      · exact ⟨index, flag, by simp, found, rfl⟩
      · exact ⟨other, raised, List.mem_append_left _ isRaise, isFlag, cellEq⟩
    · rintro ⟨other, raised, isRaise, isFlag, cellEq⟩
      rcases List.mem_append.1 isRaise with old | isNew
      · exact .inr ⟨other, raised, old, isFlag, cellEq⟩
      · obtain rfl := Action.raise.inj (List.mem_singleton.1 isNew)
        left
        rw [← cellEq, Option.some.inj (found.symm.trans isFlag)]

theorem Describes.act {store : FlagStore} (describes : Describes store before)
    (known : ∀ index, action.subject? = some index → index < (makers before).length) :
    Describes (store.act action) (before ++ [action]) := by
  have found : ∀ index, action.subject? = some index →
      ∃ flag, store.flags[index]? = some flag ∧ index < store.flags.length := by
    intro index isSubject
    have inRange : index < store.flags.length := describes.length ▸ known index isSubject
    exact ⟨store.flags[index], List.getElem?_eq_getElem inRange, inRange⟩
  cases action with
  | create =>
      exact describes.add rfl ⟨describes.newCell [], rfl⟩ (Nat.le_succ _) (Nat.lt_succ_self _)
  | clone original =>
      obtain ⟨flag, isFlag, inRange⟩ := found original rfl
      rw [FlagStore.act, clone, isFlag]
      exact describes.add rfl ⟨inRange, isFlag⟩ (Nat.le_refl _)
        (describes.bounded flag (List.mem_of_getElem? isFlag))
  | child parent =>
      obtain ⟨flag, isFlag, inRange⟩ := found parent rfl
      rw [FlagStore.act, child, isFlag]
      exact describes.add rfl ⟨describes.newCell flag.cells, inRange, flag, isFlag, rfl⟩
        (Nat.le_succ _) (Nat.lt_succ_self _)
  | raise index =>
      obtain ⟨flag, isFlag, _⟩ := found index rfl
      rw [FlagStore.act, raise, isFlag]
      exact describes.mark isFlag

theorem describes_run (known : Known actions) : Describes (empty.run actions) actions := by
  induction actions using List.reverseRecOn with
  | nil =>
      constructor <;> simp [run, empty, makers]
  | append_singleton before action ih =>
      obtain ⟨knownBefore, knownAction⟩ := known_concat known
      rw [run_concat]
      exact (ih knownBefore).act knownAction

theorem History.describes (history : History) : Describes history.store history.actions :=
  describes_run history.known

/-! ## Cells and numbers -/

namespace Describes

variable {store : FlagStore} (describes : Describes store actions)
include describes

/-- Every flag has a maker, and every maker has made its flag. -/
theorem exists_maker {index : Nat} {flag : Flag} (found : store.flags[index]? = some flag) :
    ∃ maker, (makers actions)[index]? = some maker ∧ Made store.flags index flag maker := by
  have inRange : index < (makers actions).length :=
    describes.length ▸ (List.getElem?_eq_some_iff.1 found).1
  have isMaker := List.getElem?_eq_getElem inRange
  exact ⟨_, isMaker, describes.made index _ flag isMaker found⟩

theorem exists_flag {index : Nat} {maker : Action}
    (isMaker : (makers actions)[index]? = some maker) :
    ∃ flag, store.flags[index]? = some flag ∧ Made store.flags index flag maker := by
  have inRange : index < store.flags.length :=
    describes.length ▸ (List.getElem?_eq_some_iff.1 isMaker).1
  have found := List.getElem?_eq_getElem inRange
  exact ⟨_, found, describes.made index maker _ isMaker found⟩

theorem flag_of_isClone {copy original : Nat} (isClone : IsClone actions copy original) :
    store.flags[copy]? = store.flags[original]? := by
  obtain ⟨flag, found, _, isOriginal⟩ := describes.exists_flag isClone
  exact found.trans isOriginal.symm

theorem flag_of_isChild {child parent : Nat} (isChild : IsChild actions child parent) :
    ∃ flag above, store.flags[child]? = some flag ∧ store.flags[parent]? = some above ∧
      flag.ancestors = above.cells ∧ NewCell store.flags child flag := by
  obtain ⟨flag, found, isNew, _, above, isParent, ancestors⟩ := describes.exists_flag isChild
  exact ⟨flag, above, found, isParent, ancestors, isNew⟩

/-- Flags that share a cell are alike. -/
theorem flag_of_sharesCell {first second : Nat} (shares : SharesCell actions first second) :
    store.flags[first]? = store.flags[second]? := by
  induction shares with
  | rel _ _ isClone => exact describes.flag_of_isClone isClone
  | refl _ => rfl
  | symm _ _ _ ih => exact ih.symm
  | trans _ _ _ _ _ ih ih' => exact ih.trans ih'

/-- Going back from clone to original ends at a flag that has brought its own cell. -/
theorem exists_source {index : Nat} {flag : Flag} (found : store.flags[index]? = some flag) :
    ∃ source, SharesCell actions source index ∧ store.flags[source]? = some flag ∧
      NewCell store.flags source flag := by
  induction index using Nat.strongRecOn with
  | ind index ih =>
      obtain ⟨maker, isMaker, made⟩ := describes.exists_maker found
      cases maker with
      | create => exact ⟨index, .refl _, found, made.1⟩
      | child parent => exact ⟨index, .refl _, found, made.1⟩
      | clone original =>
          obtain ⟨source, shares, isSource, isNew⟩ := ih original made.1 made.2
          exact ⟨source, shares.trans _ _ _ (.symm _ _ (.rel _ _ isMaker)), isSource, isNew⟩
      | raise other => cases made

/-- Two flags share a cell exactly if they have the same one. -/
theorem sharesCell_iff {first second : Nat} {flag other : Flag}
    (isFirst : store.flags[first]? = some flag) (isSecond : store.flags[second]? = some other) :
    SharesCell actions first second ↔ flag.cell = other.cell := by
  constructor
  · intro shares
    have same := describes.flag_of_sharesCell shares
    rw [isFirst, isSecond] at same
    exact congrArg Flag.cell (Option.some.inj same)
  · intro sameCell
    obtain ⟨source, shares, isSource, isNew⟩ := describes.exists_source isFirst
    obtain ⟨source', shares', isSource', isNew'⟩ := describes.exists_source isSecond
    obtain rfl := NewCell.unique isSource isSource' isNew isNew' sameCell
    exact .trans _ _ _ (.symm _ _ shares) shares'

/-- A child's cell is newer than those above it. -/
theorem lt_cell_of_mem_ancestors {index : Nat} {flag : Flag}
    (found : store.flags[index]? = some flag) : ∀ cell ∈ flag.ancestors, cell < flag.cell := by
  induction index using Nat.strongRecOn generalizing flag with
  | ind index ih =>
      obtain ⟨maker, _, made⟩ := describes.exists_maker found
      cases maker with
      | create => simp [made.2]
      | clone original => exact ih original made.1 made.2
      | child parent =>
          obtain ⟨isNew, below, above, isParent, ancestors⟩ := made
          have parentBelow := isNew parent above below isParent
          rw [ancestors]
          intro cell member
          rcases List.mem_cons.1 member with rfl | higher
          · exact parentBelow
          · exact Nat.lt_trans (ih parent below isParent cell higher) parentBelow
      | raise other => cases made

/-- The cells of an ancestor are above a flag. -/
theorem cells_of_ancestor {index ancestor : Nat} (higher : Ancestor actions index ancestor) :
    ∃ flag top, store.flags[index]? = some flag ∧ store.flags[ancestor]? = some top ∧
      ∀ cell ∈ top.cells, cell ∈ flag.ancestors := by
  induction higher with
  | parent isChild =>
      obtain ⟨flag, above, found, isParent, ancestors, _⟩ := describes.flag_of_isChild isChild
      exact ⟨flag, above, found, isParent, fun cell member => ancestors ▸ member⟩
  | above isChild _ ih =>
      obtain ⟨flag, above, found, isParent, ancestors, _⟩ := describes.flag_of_isChild isChild
      obtain ⟨above', top, isParent', isTop, cells⟩ := ih
      obtain rfl := Option.some.inj (isParent.symm.trans isParent')
      refine ⟨flag, top, found, isTop, fun cell member => ?_⟩
      rw [ancestors]
      exact List.mem_cons_of_mem _ (cells cell member)
  | clone isClone _ ih =>
      obtain ⟨flag, top, isOriginal, isTop, cells⟩ := ih
      exact ⟨flag, top, (describes.flag_of_isClone isClone).trans isOriginal, isTop, cells⟩

/-- Every cell above a flag is the cell of an ancestor. -/
theorem exists_ancestor {index : Nat} {flag : Flag} (found : store.flags[index]? = some flag)
    {cell : Nat} (member : cell ∈ flag.ancestors) :
    ∃ ancestor top, Ancestor actions index ancestor ∧ store.flags[ancestor]? = some top ∧
      top.cell = cell := by
  induction index using Nat.strongRecOn generalizing flag with
  | ind index ih =>
      obtain ⟨maker, isMaker, made⟩ := describes.exists_maker found
      cases maker with
      | create => simp [made.2] at member
      | clone original =>
          obtain ⟨ancestor, top, higher, isTop, cellEq⟩ := ih original made.1 made.2 member
          exact ⟨ancestor, top, .clone isMaker higher, isTop, cellEq⟩
      | child parent =>
          obtain ⟨_, below, above, isParent, ancestors⟩ := made
          rw [ancestors] at member
          rcases List.mem_cons.1 member with isCell | higherCell
          · exact ⟨parent, above, .parent isMaker, isParent, isCell.symm⟩
          · obtain ⟨ancestor, top, higher, isTop, cellEq⟩ := ih parent below isParent higherCell
            exact ⟨ancestor, top, .above isMaker higher, isTop, cellEq⟩
      | raise other => cases made

end Describes

end Tabula.FlagStore
