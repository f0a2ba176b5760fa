import Tabula.Database.Basic
import Tabula.Proofs.Query.Cancellation

/-!
# Honest calls and their deadlines

A call is honest if it ends as cancelled only after it has heard that its flag is raised,
and never claims itself that its time is over. Answering a query is honest, and so is
drawing the answer with a formatter that is. Under a deadline a call hears what its flag says
in the end at most.
-/

namespace Tabula

namespace Deadline.State

variable {α : Type} {state : State α}

/-! ## Steps under a deadline -/

theorem own_step (own : state.own = true) (moment : Moment) : (state.step moment).own = true := by
  cases moment with
  | check =>
      rw [step, check]
      split <;> exact own
  | elapse =>
      rw [step, elapse]
      split <;> simp [own]
  | interrupt => exact own
  | stop =>
      rw [step, stop]
      split <;> exact own

theorem caller_step (caller : state.caller = true) (moment : Moment) :
    (state.step moment).caller = true := by
  cases moment with
  | check =>
      rw [step, check]
      split <;> exact caller
  | elapse =>
      rw [step, elapse]
      split <;> exact caller
  | interrupt => rfl
  | stop =>
      rw [step, stop]
      split <;> exact caller

theorem flag_run (raised : state.flag = true) (moments : List Moment) :
    (state.run moments).flag = true := by
  induction moments generalizing state with
  | nil => exact raised
  | cons moment rest ih =>
      apply ih
      rcases Bool.or_eq_true_iff.1 raised with own | caller
      · exact Bool.or_eq_true_iff.2 (.inl (own_step own moment))
      · exact Bool.or_eq_true_iff.2 (.inr (caller_step caller moment))

theorem timer_stopped_run (stopped : state.timer = .stopped) (moments : List Moment) :
    (state.run moments).timer = .stopped := by
  induction moments generalizing state with
  | nil => exact stopped
  | cons moment rest ih =>
      apply ih
      cases moment with
      | check =>
          rw [step, check]
          split <;> exact stopped
      | elapse => simp [step, elapse, stopped]
      | interrupt => exact stopped
      | stop => simp [step, stop, stopped]

/-- Without a timeout nothing fires. -/
theorem exists_timeout_of_fired {call : Polled α} {timeout : Option Nat} {raised : Bool}
    {moments : List Moment} (fired : ((start call timeout raised).run moments).timer = .fired) :
    ∃ milliseconds, timeout = some milliseconds := by
  cases timeout with
  | none =>
      rw [timer_stopped_run rfl moments] at fired
      cases fired
  | some milliseconds => exact ⟨milliseconds, rfl⟩

/-- The call ends as it would with the answers of its flag, which says "raised" only if it
is raised in the end, too. -/
theorem exists_answers (state : State α) (moments : List Moment) :
    ∃ answers, (state.run moments).settle.result = state.call.run answers ∧
      ∀ number, answers number = true → (state.run moments).flag = true := by
  induction moments generalizing state with
  | nil => exact ⟨fun _ => state.flag, rfl, fun _ raised => raised⟩
  | cons moment rest ih =>
      obtain ⟨answers, ran, raised⟩ := ih (state.step moment)
      -- Only a check of a call that goes on asks for an answer.
      have unasked : (state.step moment).call = state.call →
          ∃ answers, ((state.step moment).run rest).settle.result = state.call.run answers ∧
            ∀ number, answers number = true → ((state.step moment).run rest).flag = true :=
        fun sameCall => ⟨answers, sameCall ▸ ran, raised⟩
      cases moment with
      | check =>
          cases isCall : state.call with
          | done result =>
              rw [← isCall]
              apply unasked
              simp [step, check, isCall]
          | poll next =>
              have goesOn : (state.step .check).call = next state.flag := by
                simp [step, check, isCall]
              refine ⟨fun number => if number = 0 then state.flag else answers (number - 1), ?_, ?_⟩
              · refine ran.trans ?_
                rw [goesOn, Polled.run_poll]
                simp
              · intro number isRaised
                cases number with
                | zero => exact flag_run isRaised (.check :: rest)
                | succ number => exact raised number isRaised
      | elapse =>
          apply unasked
          rw [step, elapse]
          split <;> rfl
      | interrupt => exact unasked rfl
      | stop =>
          apply unasked
          rw [step, stop]
          split <;> rfl

/-- Nothing that a call does on its own changes what it comes to. -/
theorem settle_check (state : State α) : state.check.settle = state.settle := by
  rw [check]
  cases isCall : state.call with
  | done result => rfl
  | poll next =>
      simp only [settle, flag, isCall, Polled.runWith_poll]

end Deadline.State

/-- A result is due to the timeout if the timer has fired and the call has been cancelled. -/
theorem Deadline.expiry?_eq_some_iff {β : Type} {timeout : Option Nat} {fired : Bool}
    {result : Except DatabaseError β} {milliseconds : Nat} :
    expiry? timeout fired result = some milliseconds ↔
      timeout = some milliseconds ∧ fired = true ∧
        ∃ error, result = .error error ∧ error.isCancellation = true := by
  cases result with
  | ok value => simp [expiry?]
  | error error => simp [expiry?, and_comm]

namespace Query

open Polled (Heeds)

theorem parse_ne_cancelled (query : String) : parse query ≠ .error .cancelled := by
  intro parsed
  unfold parse at parsed
  split at parsed
  · cases parsed
  · split at parsed <;> cases parsed

theorem heeds_answer (lookup : String → Except TableError Table) (query : String) :
    Heeds QueryError.cancelled (answer lookup query) := by
  unfold answer
  split
  · rename_i error parsed
    apply Heeds.done
    rintro ⟨⟩
    exact parse_ne_cancelled query parsed
  · split
    · exact .done nofun
    · exact Statement.heeds_execute _ _

end Query

namespace Work

variable {α : Type}

/-- Work that ends as cancelled only if it has heard that the flag is raised. -/
def IsHonest (work : Work α) : Prop :=
  ∀ answers, (ExceptT.run work).run answers = .error .cancelled →
    true ∈ (ExceptT.run work).heard answers

theorem HeedsFlag.isHonest {work : Work α} (heeds : work.HeedsFlag) : work.IsHonest :=
  fun answers => (heeds.allOrNothing answers).1.1

end Work

namespace Database

variable {α : Type}

/-- A call that ends in a cancellation only if it has heard that its flag is raised, and
that leaves it to others to speak of a timeout. -/
structure IsHonest (call : Polled (Report α)) : Prop where
  heard : ∀ answers error, (call.run answers).result = .error error →
    error.isCancellation = true → true ∈ call.heard answers
  untimed : ∀ answers milliseconds, (call.run answers).result ≠ .error (.timeout milliseconds)

theorem isCancellation_query_iff {error : Query.QueryError} :
    (DatabaseError.query error).isCancellation = true ↔ error = .cancelled := by
  cases error <;> simp [DatabaseError.isCancellation]

theorem isCancellation_format_iff {error : TableError} :
    (DatabaseError.format error).isCancellation = true ↔ error = .cancelled := by
  cases error <;> simp [DatabaseError.isCancellation]

/-- The answer of a query is reported as it is. -/
theorem run_tableCall (database : Database) (query : String) (answers : Nat → Bool) :
    ((database.tableCall query).run answers).result =
        ((Query.answer database.registry.table query).run answers).mapError .query ∧
      (database.tableCall query).heard answers =
        (Query.answer database.registry.table query).heard answers := by
  have isBind : database.tableCall query = Query.answer database.registry.table query >>= _ := rfl
  obtain ⟨later, ran, hears⟩ := Polled.exists_run_bind isBind answers
  constructor
  · exact congrArg Log.Reported.result ran
  · exact hears.trans (List.append_nil _)

theorem isHonest_tableCall (database : Database) (query : String) :
    IsHonest (database.tableCall query) := by
  have whole := (Query.heeds_answer database.registry.table query).allOrNothing
  constructor
  · intro answers error failed isCancellation
    obtain ⟨ran, hears⟩ := database.run_tableCall query answers
    obtain ⟨cause, unanswered, rfl⟩ := Query.mapError_eq_error_iff.1 (ran.symm.trans failed)
    obtain rfl := isCancellation_query_iff.1 isCancellation
    rw [hears]
    exact (whole answers).1.1 unanswered
  · intro answers milliseconds timedOut
    rw [(database.run_tableCall query answers).1, Query.mapError_eq_error_iff] at timedOut
    obtain ⟨cause, _, isTimeout⟩ := timedOut
    cases isTimeout

/-- Drawing an answer either repeats why there is none or goes on with the formatter, which
hears what follows. -/
theorem run_textCall (database : Database) (format : Table → Work String) (query : String)
    (answers : Nat → Bool) :
    (∃ error, ((database.tableCall query).run answers).result = .error error ∧
        ((database.textCall format query).run answers).result = .error error ∧
        (database.textCall format query).heard answers =
          (database.tableCall query).heard answers) ∨
      ∃ table later, ((database.tableCall query).run answers).result = .ok table ∧
        ((database.textCall format query).run answers).result =
          ((ExceptT.run (format table)).run later).mapError .format ∧
        (database.textCall format query).heard answers =
          (database.tableCall query).heard answers ++ (ExceptT.run (format table)).heard later := by
  have isBind : database.textCall format query = database.tableCall query >>= _ := rfl
  obtain ⟨second, ran, hears⟩ := Polled.exists_run_bind isBind answers
  cases answered : ((database.tableCall query).run answers).result with
  | error error =>
      rw [answered] at ran hears
      refine .inl ⟨error, rfl, ?_, ?_⟩
      · exact congrArg Log.Reported.result ran
      · exact hears.trans (List.append_nil _)
  | ok table =>
      rw [answered] at ran hears
      obtain ⟨last, drawn, hearsLast⟩ := Polled.exists_run_bind rfl second
      refine .inr ⟨table, second, rfl, ?_, ?_⟩
      · exact congrArg Log.Reported.result (ran.trans drawn)
      · refine hears.trans (congrArg _ (hearsLast.trans ?_))
        exact List.append_nil _

theorem isHonest_textCall (database : Database) {format : Table → Work String}
    (honest : ∀ table, (format table).IsHonest) (query : String) :
    IsHonest (database.textCall format query) := by
  have answering := database.isHonest_tableCall query
  constructor
  · intro answers error failed isCancellation
    rcases database.run_textCall format query answers with
      ⟨cause, unanswered, ran, hears⟩ | ⟨table, later, _, ran, hears⟩
    · obtain rfl := Except.error.inj (ran.symm.trans failed)
      rw [hears]
      exact answering.heard answers cause unanswered isCancellation
    · obtain ⟨cause, undrawn, rfl⟩ := Query.mapError_eq_error_iff.1 (ran.symm.trans failed)
      obtain rfl := isCancellation_format_iff.1 isCancellation
      rw [hears]
      exact List.mem_append_right _ (honest table later undrawn)
  · intro answers milliseconds timedOut
    rcases database.run_textCall format query answers with
      ⟨cause, unanswered, ran, _⟩ | ⟨table, later, _, ran, _⟩
    · obtain rfl := Except.error.inj (ran.symm.trans timedOut)
      exact answering.untimed answers milliseconds unanswered
    · rw [ran, Query.mapError_eq_error_iff] at timedOut
      obtain ⟨cause, _, isTimeout⟩ := timedOut
      cases isTimeout

end Database

end Tabula
