import Tabula.Proofs.Table.Work

/-!
# Heeding a cancellation

A computation heeds its flag if it fails as cancelled at the first poll that is answered
by "raised", and never otherwise. This is a matter of the computation alone and is kept
when computations follow one another. A run of such a computation is all or nothing: it
ends as if the flag were never raised, or it has heard that the flag is raised and is
cancelled.
-/

namespace Tabula

namespace Polled

variable {α β ε δ : Type}

/-- The answers that a run hears, from the poll with the given number on. -/
def answersFrom (answers : Nat → Bool) : Nat → Polled α → List Bool
  | _, .done _ => []
  | index, .poll next => answers index :: (next (answers index)).answersFrom answers (index + 1)

/-- The answers that a run hears, in turn. -/
def heard (answers : Nat → Bool) (computation : Polled α) : List Bool :=
  computation.answersFrom answers 0

/-! ## Runs in parts -/

theorem mem_answersFrom {answers : Nat → Bool} {answer : Bool} {index : Nat}
    {computation : Polled α} (isHeard : answer ∈ computation.answersFrom answers index) :
    ∃ number, answers number = answer := by
  induction computation generalizing index with
  | done result => cases isHeard
  | poll next ih =>
      rcases List.mem_cons.1 isHeard with rfl | later
      · exact ⟨index, rfl⟩
      · exact ih _ later

/-- A run from a later poll on is a run whose answers are counted from there. -/
theorem runFrom_add (answers : Nat → Bool) (index count : Nat) (computation : Polled α) :
    computation.runFrom answers (index + count) =
      computation.runFrom (fun number => answers (number + count)) index := by
  induction computation generalizing index with
  | done result => rfl
  | poll next ih =>
      have later := ih (answers (index + count)) (index + 1)
      rw [Nat.add_right_comm] at later
      exact later

theorem answersFrom_add (answers : Nat → Bool) (index count : Nat) (computation : Polled α) :
    computation.answersFrom answers (index + count) =
      computation.answersFrom (fun number => answers (number + count)) index := by
  induction computation generalizing index with
  | done result => rfl
  | poll next ih =>
      have later := ih (answers (index + count)) (index + 1)
      rw [Nat.add_right_comm] at later
      exact congrArg (answers (index + count) :: ·) later

theorem run_poll (answers : Nat → Bool) (next : Bool → Polled α) :
    (Polled.poll next).run answers =
      (next (answers 0)).run fun number => answers (number + 1) :=
  runFrom_add answers 0 1 (next (answers 0))

@[simp]
theorem runWith_done (raised : Bool) (result : α) :
    (Polled.done result).runWith raised = result :=
  rfl

theorem runWith_poll (raised : Bool) (next : Bool → Polled α) :
    (Polled.poll next).runWith raised = (next raised).runWith raised :=
  run_poll _ next

theorem isDone_iff {computation : Polled α} :
    computation.isDone = true ↔ ∃ result, computation = .done result := by
  cases computation <;> simp [isDone]

/-- The second computation hears what follows the answers that the first one has heard. -/
theorem runFrom_bind (answers : Nat → Bool) (index : Nat) (computation : Polled α)
    (next : α → Polled β) :
    (computation >>= next).runFrom answers index =
      (next (computation.runFrom answers index)).runFrom answers
        (index + (computation.answersFrom answers index).length) := by
  induction computation generalizing index with
  | done result => rfl
  | poll continuation ih =>
      rw [poll_bind, runFrom, ih, runFrom, answersFrom, List.length_cons]
      congr 1
      omega

theorem answersFrom_bind (answers : Nat → Bool) (index : Nat) (computation : Polled α)
    (next : α → Polled β) :
    (computation >>= next).answersFrom answers index =
      computation.answersFrom answers index ++
        (next (computation.runFrom answers index)).answersFrom answers
          (index + (computation.answersFrom answers index).length) := by
  induction computation generalizing index with
  | done result => rfl
  | poll continuation ih =>
      rw [poll_bind, answersFrom, ih, runFrom, answersFrom, List.cons_append, List.length_cons]
      congr 3
      omega

/-- A run in two parts, each with its own answers. -/
theorem exists_run_bind {whole : Polled β} {computation : Polled α} {next : α → Polled β}
    (isBind : whole = computation >>= next) (answers : Nat → Bool) :
    ∃ later, whole.run answers = (next (computation.run answers)).run later ∧
      whole.heard answers =
        computation.heard answers ++ (next (computation.run answers)).heard later := by
  subst isBind
  refine ⟨fun number => answers (number + (computation.heard answers).length), ?_, ?_⟩
  · rw [run, runFrom_bind, runFrom_add]
    rfl
  · rw [heard, answersFrom_bind, answersFrom_add]
    rfl

/-- Whatever the flag answers, the computation is cancelled exactly if it hears that the
flag is raised, and it ends as under a flag that is never raised if it does not. -/
def AllOrNothing (cancelled : ε) (computation : Polled (Except ε α)) : Prop :=
  ∀ answers : Nat → Bool,
    (computation.run answers = .error cancelled ↔ true ∈ computation.heard answers) ∧
      (true ∉ computation.heard answers → computation.run answers = computation.runLowered)

/-- A computation that is cancelled by the first poll answered by "raised", and only by
that. -/
inductive Heeds (cancelled : ε) : Polled (Except ε α) → Prop
  | done {result : Except ε α} (notCancelled : result ≠ .error cancelled) :
      Heeds cancelled (.done result)
  | poll {next : Bool → Polled (Except ε α)} (stops : next true = .done (.error cancelled))
      (goesOn : Heeds cancelled (next false)) : Heeds cancelled (.poll next)

namespace Heeds

variable {cancelled : ε} {computation : Polled (Except ε α)}

/-- What follows must report the cancellation of what comes before. -/
theorem bind {reported : δ} {next : Except ε α → Polled (Except δ β)}
    (heeds : Heeds cancelled computation)
    (stops : next (.error cancelled) = .done (.error reported))
    (goesOn : ∀ result, result ≠ .error cancelled → Heeds reported (next result)) :
    Heeds reported (computation >>= next) := by
  induction heeds with
  | done notCancelled => exact goesOn _ notCancelled
  | poll stopsHere _ ih =>
      refine .poll ?_ ih
      rw [stopsHere]
      exact stops

theorem runLowered_ne (heeds : Heeds cancelled computation) :
    computation.runLowered ≠ .error cancelled := by
  induction heeds with
  | done notCancelled => exact notCancelled
  | poll _ _ ih =>
      rw [runLowered_poll]
      exact ih

/-- A run from any poll on. -/
theorem runFrom_eq (heeds : Heeds cancelled computation) (answers : Nat → Bool) (index : Nat) :
    computation.runFrom answers index =
      if true ∈ computation.answersFrom answers index then .error cancelled
      else computation.runLowered := by
  induction heeds generalizing index with
  | done notCancelled => rfl
  | @poll next stops goesOn ih =>
      rw [runFrom, answersFrom, runLowered_poll]
      cases answers index with
      | true =>
          rw [stops]
          rfl
      | false =>
          rw [ih (index + 1)]
          simp

theorem allOrNothing (heeds : Heeds cancelled computation) :
    AllOrNothing cancelled computation := by
  intro answers
  have runEq : computation.run answers =
      if true ∈ computation.heard answers then .error cancelled else computation.runLowered :=
    heeds.runFrom_eq answers 0
  by_cases raised : true ∈ computation.heard answers
  · rw [runEq, if_pos raised]
    simp [raised]
  · rw [runEq, if_neg raised]
    simp [raised, heeds.runLowered_ne]

end Heeds

/-! ## Computations without polls -/

theorem bind_eq_done_iff {first : Polled α} {next : α → Polled β} {result : β} :
    first >>= next = .done result ↔ ∃ middle, first = .done middle ∧ next middle = .done result := by
  cases first with
  | done middle => simp
  | poll continuation => simp

/-- What makes no polls hears nothing. -/
theorem run_eq_runLowered_of_done {computation : Polled α} {result : α}
    (done : computation = .done result) (answers : Nat → Bool) :
    computation.run answers = computation.runLowered := by
  subst done
  rfl

/-- What hears only "raised" and is not cancelled has made no polls. -/
theorem Heeds.eq_done_of_runWith {cancelled : ε} {computation : Polled (Except ε α)} {result : α}
    (heeds : Heeds cancelled computation) (ran : computation.runWith true = .ok result) :
    computation = .done (.ok result) := by
  cases heeds with
  | done notCancelled => exact congrArg Polled.done ran
  | @poll next stops goesOn =>
      have stopped : runFrom (fun _ => true) 1 (next true) = .ok result := ran
      rw [stops] at stopped
      cases stopped

end Polled

namespace Work

open Polled (Heeds)

variable {α β : Type}

/-- Work that heeds the flag. -/
def HeedsFlag (work : Work α) : Prop :=
  Heeds TableError.cancelled (ExceptT.run work)

theorem heedsFlag_pure (result : α) : HeedsFlag (pure result) :=
  .done nofun

theorem heedsFlag_throw {error : TableError} (notCancelled : error ≠ .cancelled) :
    HeedsFlag (throw error : Work α) :=
  .done fun same => notCancelled (Except.error.inj same)

theorem heedsFlag_check : HeedsFlag check :=
  .poll rfl (.done nofun)

theorem heedsFlag_ofExcept {result : Except TableError α} (notCancelled : result ≠ .error .cancelled) :
    HeedsFlag (ofExcept result) :=
  .done notCancelled

theorem HeedsFlag.bind {work : Work α} {next : α → Work β} (heeds : work.HeedsFlag)
    (goesOn : ∀ result, (next result).HeedsFlag) : (work >>= next).HeedsFlag := by
  change Heeds TableError.cancelled (ExceptT.run work >>= ExceptT.bindCont next)
  refine Heeds.bind heeds ?_ ?_
  · rfl
  · intro result notCancelled
    cases result with
    | error error =>
        have notSame : error ≠ .cancelled := fun same => notCancelled (congrArg Except.error same)
        exact heedsFlag_throw notSame
    | ok result => exact goesOn result

/-- Two steps that make no polls and succeed. -/
theorem run_bind_eq_done_iff {work : Work α} {next : α → Work β} {result : β} :
    ExceptT.run (work >>= next) = .done (.ok result) ↔
      ∃ middle, ExceptT.run work = .done (.ok middle) ∧
        ExceptT.run (next middle) = .done (.ok result) := by
  have steps : ExceptT.run (work >>= next) = ExceptT.run work >>= ExceptT.bindCont next := rfl
  rw [steps, Polled.bind_eq_done_iff]
  constructor
  · rintro ⟨middle, first, second⟩
    cases middle with
    | error error => cases second
    | ok middle => exact ⟨middle, first, second⟩
  · rintro ⟨middle, first, second⟩
    exact ⟨.ok middle, first, second⟩

/-- Work that makes no polls. -/
def IsSilent (work : Work α) : Prop :=
  ∃ result, ExceptT.run work = .done result

theorem isSilent_pure (result : α) : IsSilent (pure result) :=
  ⟨.ok result, rfl⟩

theorem isSilent_ofExcept (result : Except TableError α) : IsSilent (ofExcept result) :=
  ⟨result, rfl⟩

theorem IsSilent.bind {work : Work α} {next : α → Work β} (silent : work.IsSilent)
    (goesOn : ∀ result, ExceptT.run work = .done (.ok result) → (next result).IsSilent) :
    (work >>= next).IsSilent := by
  obtain ⟨result, done⟩ := silent
  have steps : ExceptT.run (work >>= next) = ExceptT.run work >>= ExceptT.bindCont next := rfl
  cases result with
  | error error => exact ⟨.error error, by rw [steps, done]; rfl⟩
  | ok result =>
      obtain ⟨last, later⟩ := goesOn result done
      exact ⟨last, by rw [steps, done]; exact later⟩

end Work

end Tabula
