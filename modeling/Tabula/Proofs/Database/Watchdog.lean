import Tabula.Database.Watchdog
import Tabula.Proofs.Database.Deadline
import Tabula.Proofs.Flag.Confinement

/-!
# A call with its watchdog

The watchdog of a call raises a flag that nobody else knows. A run of a call with its
watchdog therefore is a run under a deadline, moment by moment, and whatever the order of
the moments, neither the caller's flag nor any other one notices that the time is over.
-/

namespace Tabula

namespace Watchdog

/-- What has become of the timer of the deadline. -/
def Phase.timer : Phase → Deadline.Timer
  | .waiting | .overdue => .waiting
  | .fired => .fired
  | .stopped => .stopped

namespace State

open FlagStore (History)

variable {α : Type} {state other : State α} {above : Flag} {cell : Nat}

/-- The call and its watchdog have a flag below that of the caller which only they know, and
its cell is marked exactly if the watchdog has fired. The message is sent after the call has
ended. -/
structure Orderly (state : State α) (above : Flag) (cell : Nat) : Prop where
  reached : ∃ history : History, history.store = state.store
  callerFlag : state.store.flags[state.caller]? = some above
  ownFlag : state.store.flags[state.own]? = some ⟨cell, above.cells⟩
  heldFlag : state.store.flags[state.held]? = some ⟨cell, above.cells⟩
  stranger : state.caller ∉ [state.own, state.held]
  confines : state.store.Confines cell [state.own, state.held]
  marked : cell ∈ state.store.marked ↔ state.phase = .fired
  ended : state.sent = true → state.call.isDone = true

theorem Orderly.old (orderly : state.Orderly above cell) : cell < state.store.freshCell := by
  obtain ⟨history, reached⟩ := orderly.reached
  have describes := reached ▸ history.describes
  exact describes.lt_freshCell orderly.ownFlag cell List.mem_cons_self

theorem call_start (call : Polled α) (timeout : Option Nat) (store : FlagStore) (caller : Nat) :
    (start call timeout store caller).call = call := by
  cases timeout <;> rfl

theorem caller_start (call : Polled α) (timeout : Option Nat) (store : FlagStore) (caller : Nat) :
    (start call timeout store caller).caller = caller := by
  cases timeout <;> rfl

/-- A call starts with one or two copies of a new flag below the caller's. -/
theorem exists_copies (call : Polled α) (timeout : Option Nat) {store : FlagStore} {caller : Nat}
    (isCaller : store.flags[caller]? = some above) :
    ∃ copies ≤ 1,
      (start call timeout store caller).store = ⟨store.flags ++
        List.replicate (copies + 1) ⟨store.freshCell, above.cells⟩, store.freshCell + 1,
          store.marked⟩ ∧
      (start call timeout store caller).own = store.flags.length ∧
      (start call timeout store caller).held = store.flags.length + copies := by
  cases timeout with
  | none =>
      refine ⟨0, Nat.zero_le 1, ?_, rfl, rfl⟩
      simp [start, FlagStore.child, isCaller]
  | some milliseconds =>
      refine ⟨1, Nat.le_refl 1, ?_, rfl, rfl⟩
      simp [start, FlagStore.child, FlagStore.clone, isCaller]

/-- The store at the start is that of a longer history. -/
theorem exists_history_start (call : Polled α) (timeout : Option Nat) (history : History)
    (caller : Nat) :
    ∃ later : History, later.store = (start call timeout history.store caller).store := by
  obtain ⟨below, isBelow⟩ := history.exists_act (.child caller)
  cases timeout with
  | none => exact ⟨below, isBelow⟩
  | some milliseconds =>
      obtain ⟨watched, isWatched⟩ := below.exists_act (.clone history.store.flags.length)
      rw [isBelow] at isWatched
      exact ⟨watched, isWatched⟩

/-- A call starts with a flag that nobody else knows. -/
theorem orderly_start (call : Polled α) (timeout : Option Nat) (history : History) {caller : Nat}
    (isCaller : history.store.flags[caller]? = some above) :
    (start call timeout history.store caller).Orderly above history.store.freshCell := by
  obtain ⟨copies, atMost, storeEq, ownEq, heldEq⟩ := exists_copies call timeout isCaller
  have inRange : caller < history.store.flags.length := (List.getElem?_eq_some_iff.1 isCaller).1
  constructor
  · exact exists_history_start call timeout history caller
  · rw [storeEq, caller_start]
    exact (List.getElem?_append_left inRange).trans isCaller
  · rw [storeEq, ownEq]
    simp
  · rw [storeEq, heldEq]
    simp
  · rw [ownEq, heldEq, caller_start]
    simp only [List.mem_cons, List.not_mem_nil, or_false]
    omega
  · rw [storeEq, ownEq, heldEq]
    intro index flag found isCell
    have below := (List.getElem?_eq_some_iff.1 found).1
    rw [List.length_append, List.length_replicate] at below
    -- The flags that have been there before do not have the cell.
    have isNew : history.store.flags.length ≤ index := by
      by_contra isOld
      rw [List.getElem?_append_left (Nat.lt_of_not_le isOld)] at found
      exact Nat.lt_irrefl _ (history.describes.lt_freshCell found _ isCell)
    simp only [List.mem_cons, List.not_mem_nil, or_false]
    omega
  · have unmarked : history.store.freshCell ∉ history.store.marked :=
      fun isMarked => Nat.lt_irrefl _ (history.describes.marked_lt_freshCell _ isMarked)
    rw [storeEq]
    cases timeout <;> simpa [start] using unmarked
  · intro sent
    cases timeout <;> cases sent

theorem Orderly.check (orderly : state.Orderly above cell) :
    state.check.Orderly above cell := by
  rw [State.check]
  split
  · exact orderly
  · rename_i next isCall
    have unsent : state.sent ≠ true := by
      intro sent
      obtain ⟨result, isDone⟩ := Polled.isDone_iff.1 (orderly.ended sent)
      cases isCall.symm.trans isDone
    exact ⟨orderly.reached, orderly.callerFlag, orderly.ownFlag, orderly.heldFlag,
      orderly.stranger, orderly.confines, orderly.marked, fun sent => absurd sent unsent⟩

/-- The watchdog marks the cell and nothing else. -/
theorem Orderly.raise_held (orderly : state.Orderly above cell) :
    state.store.raise state.held =
      { state.store with marked := cell :: state.store.marked } := by
  rw [FlagStore.raise, orderly.heldFlag]

theorem Orderly.raise (orderly : state.Orderly above cell) :
    ({ state with store := state.store.raise state.held, phase := .fired } : State α).Orderly
      above cell := by
  obtain ⟨history, reached⟩ := orderly.reached
  have raised := orderly.raise_held
  constructor
  · rw [← reached]
    exact history.exists_act (.raise state.held)
  · rw [raised]
    exact orderly.callerFlag
  · rw [raised]
    exact orderly.ownFlag
  · rw [raised]
    exact orderly.heldFlag
  · exact orderly.stranger
  · rw [raised]
    exact orderly.confines
  · simp [raised]
  · exact orderly.ended

/-- What is done with other flags does not concern those of the call. -/
theorem Orderly.act (orderly : state.Orderly above cell) {action : FlagStore.Action}
    (foreign : ∀ holder ∈ [state.own, state.held], action.subject? ≠ some holder) :
    ({ state with store := state.store.act action } : State α).Orderly above cell := by
  obtain ⟨history, reached⟩ := orderly.reached
  have kept : ∀ (index : Nat) (flag : Flag), state.store.flags[index]? = some flag →
      (state.store.act action).flags[index]? = some flag := by
    intro index flag found
    rw [FlagStore.flags_act, List.getElem?_append_left (List.getElem?_eq_some_iff.1 found).1]
    exact found
  constructor
  · rw [← reached]
    exact history.exists_act action
  · exact kept _ _ orderly.callerFlag
  · exact kept _ _ orderly.ownFlag
  · exact kept _ _ orderly.heldFlag
  · exact orderly.stranger
  · exact orderly.confines.act orderly.old foreign
  · exact (orderly.confines.mem_marked_act_iff foreign).trans orderly.marked
  · exact orderly.ended

theorem Orderly.step (orderly : state.Orderly above cell) (moment : Moment) :
    (state.step moment).Orderly above cell := by
  have withPhase : ∀ phase, (state.phase = .fired ↔ phase = Phase.fired) →
      ({ state with phase := phase } : State α).Orderly above cell := fun phase same =>
    ⟨orderly.reached, orderly.callerFlag, orderly.ownFlag, orderly.heldFlag,
      orderly.stranger, orderly.confines, orderly.marked.trans same, orderly.ended⟩
  cases moment with
  | check => exact orderly.check
  | elapse =>
      rw [State.step]
      split
      · rename_i isWaiting
        apply withPhase
        simp [isWaiting]
      · exact orderly
  | raise =>
      rw [State.step]
      split
      · exact orderly.raise
      · exact orderly
  | send =>
      rw [State.step]
      split
      · rename_i ended
        exact ⟨orderly.reached, orderly.callerFlag, orderly.ownFlag, orderly.heldFlag,
          orderly.stranger, orderly.confines, orderly.marked, fun _ => ended⟩
      · exact orderly
  | receive =>
      rw [State.step]
      split
      · rename_i received
        apply withPhase
        simp [received.2]
      · exact orderly
  | act action =>
      rw [State.step]
      split
      · exact orderly
      · rename_i foreign
        apply orderly.act
        simpa using foreign

theorem Orderly.run (orderly : state.Orderly above cell) (moments : List Moment) :
    (state.run moments).Orderly above cell := by
  induction moments generalizing state with
  | nil => exact orderly
  | cons moment rest ih => exact ih (orderly.step moment)

/-! ## Runs under a deadline -/

/-- What the call sees when it looks at its flag. -/
theorem Orderly.isRaised_own (orderly : state.Orderly above cell) :
    state.store.isRaised state.own =
      (decide (state.phase = .fired) || state.store.isRaised state.caller) := by
  have isMarked : state.store.marked.contains cell = decide (state.phase = .fired) := by
    rw [Bool.eq_iff_iff, List.contains_iff_mem, decide_eq_true_iff]
    exact orderly.marked
  simp only [FlagStore.isRaised, orderly.ownFlag, orderly.callerFlag, Option.any_some,
    FlagStore.reports, Flag.cells, List.any_cons, isMarked]

/-- The state of the call under its deadline. -/
def underDeadline (state : State α) : Deadline.State α :=
  ⟨state.call, state.phase.timer, state.phase = .fired, state.store.isRaised state.caller⟩

theorem Orderly.flag_underDeadline (orderly : state.Orderly above cell) :
    state.underDeadline.flag = state.store.isRaised state.own :=
  orderly.isRaised_own.symm

theorem underDeadline_start (call : Polled α) (timeout : Option Nat) (history : History)
    {caller : Nat} (isCaller : history.store.flags[caller]? = some above) :
    (start call timeout history.store caller).underDeadline =
      .start call timeout (history.store.isRaised caller) := by
  obtain ⟨copies, _, storeEq, _⟩ := exists_copies call timeout isCaller
  have sameMarks := congrArg FlagStore.marked storeEq
  have isStill : (start call timeout history.store caller).store.flags[caller]? = some above := by
    have orderly := orderly_start call timeout history isCaller
    rw [← orderly.callerFlag, caller_start]
  have same : (start call timeout history.store caller).store.isRaised caller =
      history.store.isRaised caller := by
    simp only [FlagStore.isRaised, isCaller, isStill, Option.any_some, FlagStore.reports, sameMarks]
  cases timeout <;> simpa [underDeadline, Deadline.State.start, start, Phase.timer] using same

theorem settle_of_outcome? {outcome : Deadline.State.Outcome α}
    (ended : state.outcome? = some outcome) : state.underDeadline.settle = outcome := by
  unfold outcome? at ended
  split at ended
  · rename_i result isCall isPhase
    cases ended
    simp [underDeadline, Deadline.State.settle, isCall, isPhase, Phase.timer]
  · rename_i result isCall isPhase
    cases ended
    simp [underDeadline, Deadline.State.settle, isCall, isPhase, Phase.timer]
  · cases ended

/-- Nobody else notices that the watchdog raises the flag. -/
theorem Orderly.isRaised_raise_held (orderly : state.Orderly above cell) {index : Nat}
    (stranger : index ∉ [state.own, state.held]) :
    (state.store.raise state.held).isRaised index = state.store.isRaised index := by
  rw [orderly.raise_held]
  symm
  refine orderly.confines.isRaised_congr ?_ ?_ stranger
  · rfl
  · intro mark isOther
    simp [isOther]

theorem Orderly.underDeadline_check (orderly : state.Orderly above cell) :
    state.check.underDeadline = state.underDeadline.check := by
  rw [State.check, Deadline.State.check]
  cases isCall : state.call with
  | done result => simp [underDeadline, isCall]
  | poll next => simp only [underDeadline, isCall, ← orderly.flag_underDeadline]

/-- A moment is at most one moment under the deadline. The watchdog is overdue before it
raises the flag, but nobody can tell. -/
theorem Orderly.exists_step_eq (orderly : state.Orderly above cell) (moment : Moment) :
    ∃ moments, (state.step moment).underDeadline = state.underDeadline.run moments := by
  cases moment with
  | check =>
      exact ⟨[.check], orderly.underDeadline_check⟩
  | elapse =>
      refine ⟨[], ?_⟩
      rw [State.step]
      split
      · rename_i isWaiting
        simp [underDeadline, isWaiting, Phase.timer, Deadline.State.run]
      · rfl
  | raise =>
      rw [State.step]
      split
      · rename_i isOverdue
        refine ⟨[.elapse], ?_⟩
        have unnoticed := orderly.isRaised_raise_held orderly.stranger
        simp [underDeadline, isOverdue, Phase.timer, Deadline.State.run, Deadline.State.step,
          Deadline.State.elapse, unnoticed]
      · exact ⟨[], rfl⟩
  | send =>
      refine ⟨[], ?_⟩
      rw [State.step]
      split <;> rfl
  | receive =>
      rw [State.step]
      split
      · rename_i received
        obtain ⟨sent, isWaiting⟩ := received
        refine ⟨[.stop], ?_⟩
        obtain ⟨result, isCall⟩ := Polled.isDone_iff.1 (orderly.ended sent)
        simp [underDeadline, isWaiting, isCall, Phase.timer, Deadline.State.run,
          Deadline.State.step, Deadline.State.stop]
      · exact ⟨[], rfl⟩
  | act action =>
      rw [State.step]
      split
      · exact ⟨[], rfl⟩
      · cases isRaised : (state.store.act action).isRaised state.caller with
        | true =>
            refine ⟨[.interrupt], ?_⟩
            simp [underDeadline, Deadline.State.run, Deadline.State.step, isRaised]
        | false =>
            have before : state.store.isRaised state.caller = false := by
              by_contra raised
              rw [Bool.not_eq_false] at raised
              rw [FlagStore.isRaised_act raised action] at isRaised
              cases isRaised
            refine ⟨[], ?_⟩
            simp [underDeadline, Deadline.State.run, isRaised, before]

theorem Orderly.exists_run_eq (orderly : state.Orderly above cell) (moments : List Moment) :
    ∃ under, (state.run moments).underDeadline = state.underDeadline.run under := by
  induction moments generalizing state with
  | nil => exact ⟨[], rfl⟩
  | cons moment rest ih =>
      obtain ⟨first, stepEq⟩ := orderly.exists_step_eq moment
      obtain ⟨later, restEq⟩ := ih (orderly.step moment)
      refine ⟨first ++ later, ?_⟩
      rw [Deadline.State.run, List.foldl_append]
      exact restEq.trans (congrArg (Deadline.State.run · later) stepEq)

/-! ## Runs without the watchdog -/

/-- The flags of the call go by the same numbers all the time. -/
theorem names_step (state : State α) (moment : Moment) :
    (state.step moment).caller = state.caller ∧ (state.step moment).own = state.own ∧
      (state.step moment).held = state.held := by
  cases moment with
  | check =>
      rw [step, check]
      split <;> exact ⟨rfl, rfl, rfl⟩
  | elapse | raise | send | receive | act action =>
      rw [step]
      split <;> exact ⟨rfl, rfl, rfl⟩

theorem names_run (state : State α) (moments : List Moment) :
    (state.run moments).caller = state.caller ∧ (state.run moments).own = state.own ∧
      (state.run moments).held = state.held := by
  induction moments generalizing state with
  | nil => exact ⟨rfl, rfl, rfl⟩
  | cons moment rest ih =>
      obtain ⟨caller, own, held⟩ := state.names_step moment
      obtain ⟨caller', own', held'⟩ := ih (state.step moment)
      exact ⟨caller'.trans caller, own'.trans own, held'.trans held⟩

/-- The same flags, with the same marks but for the given cell. -/
structure Alike (state other : State α) (cell : Nat) : Prop where
  caller : state.caller = other.caller
  own : state.own = other.own
  held : state.held = other.held
  flags : state.store.flags = other.store.flags
  freshCell : state.store.freshCell = other.store.freshCell
  marks : ∀ mark ≠ cell, mark ∈ state.store.marked ↔ mark ∈ other.store.marked

/-- A moment that leaves the flags alone. -/
theorem Alike.of_same_flags {next : State α} (alike : state.Alike other cell)
    (sameStore : next.store = state.store)
    (sameNames : next.caller = state.caller ∧ next.own = state.own ∧ next.held = state.held) :
    next.Alike other cell := by
  obtain ⟨sameCaller, sameOwn, sameHeld⟩ := sameNames
  constructor
  · exact sameCaller.trans alike.caller
  · exact sameOwn.trans alike.own
  · exact sameHeld.trans alike.held
  · rw [sameStore]
    exact alike.flags
  · rw [sameStore]
    exact alike.freshCell
  · rw [sameStore]
    exact alike.marks

theorem Alike.symm (alike : state.Alike other cell) : other.Alike state cell :=
  ⟨alike.caller.symm, alike.own.symm, alike.held.symm, alike.flags.symm, alike.freshCell.symm,
    fun mark isOther => (alike.marks mark isOther).symm⟩

/-- Moments of the call, its timer and the message leave the flags alone. -/
theorem store_step (state : State α) {moment : Moment} (notRaise : moment ≠ .raise)
    (notAct : ∀ action, moment ≠ .act action) : (state.step moment).store = state.store := by
  cases moment with
  | check =>
      rw [step, check]
      split <;> rfl
  | elapse | send | receive =>
      rw [step]
      split <;> rfl
  | raise => exact absurd rfl notRaise
  | act action => exact absurd rfl (notAct action)

theorem Alike.step (alike : state.Alike other cell) {moment : Moment} (notRaise : moment ≠ .raise) :
    (state.step moment).Alike (other.step moment) cell := by
  by_cases isAct : ∃ action, moment = .act action
  · obtain ⟨action, rfl⟩ := isAct
    simp only [State.step, alike.own, alike.held]
    split
    · exact alike
    · obtain ⟨sameFlags, sameFresh⟩ := FlagStore.act_congr alike.flags alike.freshCell action
      refine ⟨alike.caller, rfl, rfl, sameFlags, sameFresh, fun mark isOther => ?_⟩
      simp only [FlagStore.mem_marked_act, alike.flags, alike.marks mark isOther]
  · have notAct : ∀ action, moment ≠ .act action := fun action same => isAct ⟨action, same⟩
    have forState := alike.of_same_flags (state.store_step notRaise notAct)
      (state.names_step moment)
    have forOther := forState.symm.of_same_flags (other.store_step notRaise notAct)
      (other.names_step moment)
    exact forOther.symm

theorem Alike.raise (alike : state.Alike other cell) (orderly : state.Orderly above cell) :
    (state.step .raise).Alike other cell := by
  rw [State.step]
  split
  · rw [orderly.raise_held]
    refine ⟨alike.caller, alike.own, alike.held, alike.flags, alike.freshCell, ?_⟩
    intro mark isOther
    simp [isOther, alike.marks mark isOther]
  · exact alike

/-- The flags of a run are those of the run in which the watchdog raises nothing. -/
theorem Alike.run (alike : state.Alike other cell) (orderly : state.Orderly above cell)
    (moments : List Moment) :
    (state.run moments).Alike (other.run (moments.filter (· ≠ .raise))) cell := by
  induction moments generalizing state other with
  | nil => exact alike
  | cons moment rest ih =>
      by_cases isRaise : moment = .raise
      · subst isRaise
        exact ih (alike.raise orderly) (orderly.step .raise)
      · rw [List.filter_cons_of_pos (by simpa using isRaise)]
        exact ih (alike.step isRaise) (orderly.step moment)

/-! ## When the time is over -/

/-- Only the end of the time makes a watchdog late. -/
theorem eq_elapse_of_late {moment : Moment}
    (wasInTime : ¬ (state.phase = .overdue ∨ state.phase = .fired))
    (isLate : (state.step moment).phase = .overdue ∨ (state.step moment).phase = .fired) :
    moment = .elapse ∧ state.phase = .waiting := by
  cases moment with
  | check =>
      rw [step, check] at isLate
      split at isLate <;> exact absurd isLate wasInTime
  | elapse =>
      rw [step] at isLate
      split at isLate
      · exact ⟨rfl, ‹_›⟩
      · exact absurd isLate wasInTime
  | raise =>
      rw [step] at isLate
      split at isLate
      · exact absurd (.inl ‹_›) wasInTime
      · exact absurd isLate wasInTime
  | send =>
      rw [step] at isLate
      split at isLate <;> exact absurd isLate wasInTime
  | receive =>
      rw [step] at isLate
      split at isLate
      · simp at isLate
      · exact absurd isLate wasInTime
  | act action =>
      rw [step] at isLate
      split at isLate <;> exact absurd isLate wasInTime

/-- A watchdog that is overdue or has fired has seen the end of its time while it waited. -/
theorem exists_elapse {start : State α} (inTime : start.phase = .waiting ∨ start.phase = .stopped)
    {moments : List Moment}
    (isLate : (start.run moments).phase = .overdue ∨ (start.run moments).phase = .fired) :
    ∃ before after, moments = before ++ .elapse :: after ∧ (start.run before).phase = .waiting := by
  induction moments using List.reverseRecOn with
  | nil =>
      rcases inTime with same | same <;> simp [run, same] at isLate
  | append_singleton before moment ih =>
      by_cases wasLate : (start.run before).phase = .overdue ∨ (start.run before).phase = .fired
      · obtain ⟨first, after, rfl, isWaiting⟩ := ih wasLate
        exact ⟨first, after ++ [moment], by simp, isWaiting⟩
      · rw [run, List.foldl_append, List.foldl_cons, List.foldl_nil, ← run] at isLate
        obtain ⟨rfl, isWaiting⟩ := eq_elapse_of_late wasLate isLate
        exact ⟨before, [], rfl, isWaiting⟩

end State

end Watchdog

end Tabula
