import Tabula.Proofs.Database.Watchdog

/-!
# Deadlines are safe

Whatever the order in which a call checks its flag, its watchdog runs out of time, raises
the flag or receives the message to stop, and the caller raises its flag, the verdict is the
right one: a call that has not been cancelled keeps its result, only a call whose time is
over is reported as timed out, and any other cancellation is the caller's.
-/

namespace Tabula

namespace Watchdog.State

open FlagStore (History)

variable {α : Type} {state : State α} {above : Flag} {cell : Nat}

/-! ## Every run under a deadline has its watchdog -/

theorem run_append (state : State α) (first later : List Moment) :
    state.run (first ++ later) = (state.run first).run later :=
  List.foldl_append

/-- A watchdog can follow any moment under the deadline, without being overdue in the end. -/
theorem Orderly.exists_moments (orderly : state.Orderly above cell)
    (inTime : state.phase ≠ .overdue) (moment : Deadline.Moment) :
    ∃ moments, (state.run moments).underDeadline = state.underDeadline.step moment ∧
      (state.run moments).phase ≠ .overdue := by
  cases moment with
  | check =>
      refine ⟨[.check], orderly.underDeadline_check, ?_⟩
      change state.check.phase ≠ .overdue
      rw [State.check]
      split <;> exact inTime
  | elapse =>
      -- A watchdog that waits runs out of time and raises the flag at once.
      cases isPhase : state.phase with
      | waiting =>
          have unnoticed := orderly.isRaised_raise_held orderly.stranger
          refine ⟨[.elapse, .raise], ?_, ?_⟩
          · simp [State.run, State.step, isPhase, underDeadline, Phase.timer, Deadline.State.step,
              Deadline.State.elapse, unnoticed]
          · simp [State.run, State.step, isPhase]
      | overdue => exact absurd isPhase inTime
      | fired | stopped =>
          refine ⟨[], ?_, inTime⟩
          simp [State.run, underDeadline, isPhase, Phase.timer, Deadline.State.step,
            Deadline.State.elapse]
  | interrupt =>
      have foreign : ¬ (state.caller = state.own ∨ state.caller = state.held) := by
        simpa using orderly.stranger
      have raised : (state.store.raise state.caller).isRaised state.caller = true :=
        FlagStore.isRaised_raise.2 (.inr ⟨above, above, orderly.callerFlag, orderly.callerFlag,
          List.mem_cons_self⟩)
      refine ⟨[.act (.raise state.caller)], ?_, ?_⟩
      · simp [State.run, State.step, FlagStore.Action.subject?, foreign, FlagStore.act,
          underDeadline, Deadline.State.step, raised]
      · simpa [State.run, State.step, FlagStore.Action.subject?, foreign] using inTime
  | stop =>
      -- The message is sent and received at once, if there is anybody to receive it.
      by_cases canStop : state.phase = .waiting ∧ state.call.isDone = true
      · obtain ⟨isWaiting, isDone⟩ := canStop
        refine ⟨[.send, .receive], ?_, ?_⟩
        · obtain ⟨result, isCall⟩ := Polled.isDone_iff.1 isDone
          simp [State.run, State.step, isCall, Polled.isDone, isWaiting, underDeadline,
            Phase.timer, Deadline.State.step, Deadline.State.stop]
        · simp [State.run, State.step, isDone, isWaiting]
      · refine ⟨[], ?_, inTime⟩
        change state.underDeadline = state.underDeadline.stop
        rw [Deadline.State.stop]
        split
        · rename_i result isTimer isCall
          have isWaiting : state.phase = .waiting := by
            cases isPhase : state.phase with
            | waiting => rfl
            | overdue => exact absurd isPhase inTime
            | fired | stopped => simp [underDeadline, isPhase, Phase.timer] at isTimer
          exact absurd ⟨isWaiting, Polled.isDone_iff.2 ⟨result, isCall⟩⟩ canStop
        · rfl

/-- The call and its watchdog come to an end if nothing else happens: the call checks its flag
until it has ended, and the message stops a watchdog that still waits. -/
theorem Orderly.exists_outcome?_eq (orderly : state.Orderly above cell)
    (inTime : state.phase ≠ .overdue) :
    ∃ moments, (state.run moments).outcome? = some state.underDeadline.settle := by
  induction isCall : state.call generalizing state with
  | done result =>
      cases isPhase : state.phase with
      | waiting =>
          refine ⟨[.send, .receive], ?_⟩
          simp [State.run, State.step, isCall, Polled.isDone, isPhase, outcome?, underDeadline,
            Phase.timer, Deadline.State.settle]
      | overdue => exact absurd isPhase inTime
      | fired | stopped =>
          refine ⟨[], ?_⟩
          simp [State.run, isCall, isPhase, outcome?, underDeadline, Phase.timer,
            Deadline.State.settle]
  | poll next ih =>
      have goesOn : state.check.call = next state.underDeadline.flag := by
        rw [State.check, isCall, orderly.flag_underDeadline]
      have stillInTime : state.check.phase ≠ .overdue := by
        rw [State.check, isCall]
        exact inTime
      obtain ⟨moments, ended⟩ := ih _ orderly.check stillInTime goesOn
      refine ⟨.check :: moments, ended.trans ?_⟩
      rw [orderly.underDeadline_check, Deadline.State.settle_check]

/-- So they do whatever has happened before. A watchdog that is overdue raises the flag. -/
theorem Orderly.exists_outcome? (orderly : state.Orderly above cell) :
    ∃ moments outcome, (state.run moments).outcome? = some outcome := by
  by_cases isOverdue : state.phase = .overdue
  · have raises : (state.step .raise).phase = .fired := by simp [State.step, isOverdue]
    obtain ⟨moments, ended⟩ := (orderly.step .raise).exists_outcome?_eq (by simp [raises])
    exact ⟨.raise :: moments, _, ended⟩
  · obtain ⟨moments, ended⟩ := orderly.exists_outcome?_eq isOverdue
    exact ⟨moments, _, ended⟩

theorem Orderly.exists_run (orderly : state.Orderly above cell) (inTime : state.phase ≠ .overdue)
    (under : List Deadline.Moment) :
    ∃ moments, (state.run moments).outcome? = some (state.underDeadline.run under).settle := by
  induction under generalizing state with
  | nil => exact orderly.exists_outcome?_eq inTime
  | cons moment rest ih =>
      obtain ⟨first, stepEq, stillInTime⟩ := orderly.exists_moments inTime moment
      obtain ⟨later, restEq⟩ := ih (orderly.run first) stillInTime
      refine ⟨first ++ later, ?_⟩
      rw [run_append, restEq, stepEq]
      rfl

/-! ## What the call has heard -/

theorem fired_iff_of_outcome? {outcome : Deadline.State.Outcome α}
    (ended : state.outcome? = some outcome) : outcome.fired = true ↔ state.phase = .fired := by
  unfold outcome? at ended
  split at ended
  · rename_i isPhase
    cases ended
    simp [isPhase]
  · rename_i isPhase
    cases ended
    simp [isPhase]
  · cases ended

/-- A watchdog fires only if there is a timeout. -/
theorem exists_timeout_of_fired {call : Polled α} {timeout : Option Nat} {history : History}
    {caller : Nat} (isCaller : history.store.flags[caller]? = some above) {moments : List Moment}
    (fired : ((start call timeout history.store caller).run moments).phase = .fired) :
    ∃ milliseconds, timeout = some milliseconds := by
  have orderly := orderly_start call timeout history isCaller
  obtain ⟨under, runEq⟩ := orderly.exists_run_eq moments
  rw [underDeadline_start call timeout history isCaller] at runEq
  have timerFired : ((start call timeout history.store caller).run
      moments).underDeadline.timer = .fired := by
    rw [underDeadline, fired]
    rfl
  rw [runEq] at timerFired
  exact Deadline.State.exists_timeout_of_fired timerFired

/-- A call hears that its flag is raised only if the watchdog has fired or the caller's flag
is raised. -/
theorem exists_answers_of_outcome? {call : Polled α} {timeout : Option Nat} {history : History}
    {caller : Nat} (isCaller : history.store.flags[caller]? = some above) {moments : List Moment}
    {outcome : Deadline.State.Outcome α}
    (ended : ((start call timeout history.store caller).run moments).outcome? = some outcome) :
    ∃ answers, outcome.result = call.run answers ∧
      (true ∈ call.heard answers → outcome.fired = true ∨
        ((start call timeout history.store caller).run moments).store.isRaised caller = true) := by
  have orderly := orderly_start call timeout history isCaller
  have lastOrderly := orderly.run moments
  obtain ⟨sameCaller, _⟩ := (start call timeout history.store caller).names_run moments
  obtain ⟨under, runEq⟩ := orderly.exists_run_eq moments
  rw [underDeadline_start call timeout history isCaller] at runEq
  obtain ⟨answers, ran, raised⟩ :=
    Deadline.State.exists_answers (.start call timeout (history.store.isRaised caller)) under
  rw [← runEq] at ran raised
  refine ⟨answers, ?_, ?_⟩
  · rw [← settle_of_outcome? ended]
    exact ran
  · intro isHeard
    obtain ⟨number, isAnswer⟩ := Polled.mem_answersFrom isHeard
    have isRaised := raised number isAnswer
    rw [lastOrderly.flag_underDeadline, lastOrderly.isRaised_own, Bool.or_eq_true_iff,
      decide_eq_true_iff, sameCaller, caller_start] at isRaised
    rcases isRaised with fired | callers
    · exact .inl ((fired_iff_of_outcome? ended).2 fired)
    · exact .inr callers

end Watchdog.State

namespace Database

open FlagStore (History)

variable {α : Type}

theorem orderly_watch (database : Database) (call : Polled (Report α)) (history : History)
    {caller : Nat} (inRange : caller < history.store.flags.length) :
    (database.watch call history.store caller).Orderly history.store.flags[caller]
      history.store.freshCell :=
  Watchdog.State.orderly_start call _ history (List.getElem?_eq_getElem inRange)

theorem underDeadline_watch (database : Database) (call : Polled (Report α)) (history : History)
    {caller : Nat} (inRange : caller < history.store.flags.length) :
    (database.watch call history.store caller).underDeadline =
      database.start call (history.store.isRaised caller) :=
  Watchdog.State.underDeadline_start call _ history (List.getElem?_eq_getElem inRange)

theorem caller_watch (database : Database) (call : Polled (Report α)) (store : FlagStore)
    (caller : Nat) : (database.watch call store caller).caller = caller :=
  Watchdog.State.caller_start call _ store caller

theorem phase_watch (database : Database) (call : Polled (Report α)) (store : FlagStore)
    (caller : Nat) :
    (database.watch call store caller).phase = .waiting ∨
      (database.watch call store caller).phase = .stopped := by
  cases timeout : database.config.effectiveTimeout <;>
    simp [watch, timeout, Watchdog.State.start]

/-- What a call with its watchdog comes to is what it may come to under its deadline, and
the other way round. -/
theorem conclude_watch_iff (database : Database) (query : String) (call : Polled (Report α))
    (history : History) {caller : Nat} (inRange : caller < history.store.flags.length)
    (report : Report α) :
    (∃ moments outcome,
        ((database.watch call history.store caller).run moments).outcome? = some outcome ∧
          database.conclude query outcome = report) ↔
      ∃ under, database.perform query call (history.store.isRaised caller) under = report := by
  have orderly := database.orderly_watch call history inRange
  have startEq := database.underDeadline_watch call history inRange
  constructor
  · rintro ⟨moments, outcome, ended, rfl⟩
    obtain ⟨under, runEq⟩ := orderly.exists_run_eq moments
    refine ⟨under, ?_⟩
    rw [perform, ← Watchdog.State.settle_of_outcome? ended, runEq, startEq]
  · rintro ⟨under, rfl⟩
    have inTime : (database.watch call history.store caller).phase ≠ .overdue := by
      rcases database.phase_watch call history.store caller with same | same <;> simp [same]
    obtain ⟨moments, ended⟩ := orderly.exists_run inTime under
    rw [startEq] at ended
    exact ⟨moments, _, ended, rfl⟩

/-! ## The verdict -/

/-- What the caller can rely on when a call with its watchdog has come to something. -/
structure KeepsDeadline (database : Database) (query : String)
    (first : Watchdog.State (Report α)) (moments : List Watchdog.Moment)
    (outcome : Deadline.State.Outcome (Report α)) : Prop where
  /-- The call has ended as it does with some answers of its flag. -/
  ran : ∃ answers, outcome.result = first.call.run answers
  /-- A success is returned unchanged, also if the watchdog has fired. -/
  success : ∀ value, outcome.result.result = .ok value →
    (database.conclude query outcome).result = .ok value
  /-- So is an error other than a cancellation. -/
  failure : ∀ error, outcome.result.result = .error error → error.isCancellation = false →
    (database.conclude query outcome).result = .error error
  /-- A timeout is that of the settings. The time was over before the watchdog received the
  message, and the call has been cancelled. -/
  timeout : ∀ milliseconds,
    (database.conclude query outcome).result = .error (.timeout milliseconds) →
      database.config.queryTimeout = some milliseconds ∧ 0 < milliseconds ∧
        (∃ before after, moments = before ++ .elapse :: after ∧
          (first.run before).phase = .waiting) ∧
        ∃ error, outcome.result.result = .error error ∧ error.isCancellation = true
  /-- Any other cancellation is the caller's. -/
  cancelled : (database.conclude query outcome).result = .error (.query .cancelled) ∨
      (database.conclude query outcome).result = .error (.format .cancelled) →
    (first.run moments).store.isRaised first.caller = true

/-- The verdict is a timeout or the result of the call. -/
theorem conclude_cases (database : Database) (query : String)
    (outcome : Deadline.State.Outcome (Report α)) :
    (∃ milliseconds, database.config.effectiveTimeout = some milliseconds ∧
        outcome.fired = true ∧
        (∃ error, outcome.result.result = .error error ∧ error.isCancellation = true) ∧
        (database.conclude query outcome).result = .error (.timeout milliseconds)) ∨
      (¬ ∃ milliseconds, database.config.effectiveTimeout = some milliseconds ∧
        outcome.fired = true ∧
        ∃ error, outcome.result.result = .error error ∧ error.isCancellation = true) ∧
      (database.conclude query outcome).result = outcome.result.result := by
  have verdictEq : (database.conclude query outcome).result =
      Deadline.verdict database.config.effectiveTimeout outcome.fired outcome.result.result := rfl
  rw [verdictEq, Deadline.verdict]
  cases expired : Deadline.expiry? database.config.effectiveTimeout outcome.fired
      outcome.result.result with
  | none =>
      refine .inr ⟨?_, rfl⟩
      rintro ⟨milliseconds, isDue⟩
      rw [Deadline.expiry?_eq_some_iff.2 isDue] at expired
      cases expired
  | some milliseconds =>
      obtain ⟨isTimeout, fired, isCancelled⟩ := Deadline.expiry?_eq_some_iff.1 expired
      exact .inl ⟨milliseconds, isTimeout, fired, isCancelled, rfl⟩

theorem effectiveTimeout_eq_some_iff {config : Config} {milliseconds : Nat} :
    config.effectiveTimeout = some milliseconds ↔
      config.queryTimeout = some milliseconds ∧ 0 < milliseconds := by
  simp [Config.effectiveTimeout, Option.filter_eq_some_iff]

/-- Whether a cancellation is reported as a timeout is a matter of the watchdog alone: it
makes no difference whose flag the call has heard. -/
theorem conclude_of_isCancellation (database : Database) (query : String)
    {call : Polled (Report α)} {history : History} {caller : Nat}
    (inRange : caller < history.store.flags.length) {moments : List Watchdog.Moment}
    {outcome : Deadline.State.Outcome (Report α)}
    (ended : ((database.watch call history.store caller).run moments).outcome? = some outcome)
    {error : DatabaseError} (failed : outcome.result.result = .error error)
    (isCancellation : error.isCancellation = true) :
    (((database.watch call history.store caller).run moments).phase ≠ .fired →
        (database.conclude query outcome).result = .error error) ∧
      (((database.watch call history.store caller).run moments).phase = .fired →
        ∃ milliseconds, database.config.effectiveTimeout = some milliseconds ∧
          (database.conclude query outcome).result = .error (.timeout milliseconds)) := by
  have firedIff := Watchdog.State.fired_iff_of_outcome? ended
  constructor
  · intro notFired
    rcases database.conclude_cases query outcome with ⟨_, _, fired, _⟩ | ⟨_, unchanged⟩
    · exact absurd (firedIff.1 fired) notFired
    · exact unchanged.trans failed
  · intro isLate
    rcases database.conclude_cases query outcome with
      ⟨milliseconds, isTimeout, _, _, verdictEq⟩ | ⟨notDue, _⟩
    · exact ⟨milliseconds, isTimeout, verdictEq⟩
    · obtain ⟨milliseconds, isTimeout⟩ :=
        Watchdog.State.exists_timeout_of_fired (List.getElem?_eq_getElem inRange) isLate
      exact absurd
        ⟨milliseconds, isTimeout, firedIff.2 isLate, error, failed, isCancellation⟩ notDue

/-- A database without tables whose calls may take five milliseconds. -/
def hasty : Database := empty (Config.default.withQueryTimeout 5)

/-- A call that looks at its flag once. -/
def glance : Polled (Report String) :=
  .poll fun raised => .done (.silent (if raised then .error (.format .cancelled) else .ok "seen"))

/-- A caller with one flag. -/
def alone : History := ⟨[.create], by decide⟩

/-- The call has heard its caller in time, and the time is over before the message is sent. -/
example :
    let last := (hasty.watch glance alone.store 0).run
      [.act (.raise 0), .check, .elapse, .raise, .send]
    last.outcome?.map (fun outcome => (hasty.conclude "" outcome).result) =
        some (.error (.timeout 5)) ∧ last.store.isRaised 0 = true :=
  ⟨rfl, rfl⟩

/-- The caller of an honest call can rely on the verdict: a call that is cancelled although its
watchdog has not fired has heard the caller. -/
theorem keepsDeadline (database : Database) (query : String) {call : Polled (Report α)}
    (honest : IsHonest call) (history : History) {caller : Nat}
    (inRange : caller < history.store.flags.length) (moments : List Watchdog.Moment)
    {outcome : Deadline.State.Outcome (Report α)}
    (ended : ((database.watch call history.store caller).run moments).outcome? = some outcome) :
    database.KeepsDeadline query (database.watch call history.store caller) moments outcome := by
  have isCaller := List.getElem?_eq_getElem inRange
  obtain ⟨answers, ran, heard⟩ := Watchdog.State.exists_answers_of_outcome? isCaller ended
  constructor
  · exact ⟨answers, by rw [watch, Watchdog.State.call_start, ran]⟩
  · intro value succeeded
    rcases database.conclude_cases query outcome with
      ⟨_, _, _, ⟨error, failed, _⟩, _⟩ | ⟨_, unchanged⟩
    · cases succeeded.symm.trans failed
    · exact unchanged.trans succeeded
  · intro error failed notCancelled
    rcases database.conclude_cases query outcome with
      ⟨_, _, _, ⟨cause, isCause, isCancellation⟩, _⟩ | ⟨_, unchanged⟩
    · cases failed.symm.trans isCause
      cases notCancelled.symm.trans isCancellation
    · exact unchanged.trans failed
  · intro milliseconds timedOut
    rcases database.conclude_cases query outcome with
      ⟨others, isTimeout, fired, isCancelled, verdictEq⟩ | ⟨_, unchanged⟩
    · cases verdictEq.symm.trans timedOut
      obtain ⟨isSet, positive⟩ := effectiveTimeout_eq_some_iff.1 isTimeout
      have isLate := (Watchdog.State.fired_iff_of_outcome? ended).1 fired
      exact ⟨isSet, positive,
        Watchdog.State.exists_elapse (database.phase_watch call _ caller) (.inr isLate),
        isCancelled⟩
    · rw [ran] at unchanged
      exact absurd (unchanged.symm.trans timedOut) (honest.untimed answers milliseconds)
  · intro isCancelled
    rw [caller_watch]
    have cancellation : ∃ error, (database.conclude query outcome).result = .error error ∧
        error.isCancellation = true ∧ ∀ milliseconds, error ≠ .timeout milliseconds := by
      rcases isCancelled with returned | returned <;> exact ⟨_, returned, rfl, nofun⟩
    obtain ⟨error, returned, isCancellation, notTimeout⟩ := cancellation
    have failed : outcome.result.result = .error error := by
      rcases database.conclude_cases query outcome with
        ⟨milliseconds, _, _, _, verdictEq⟩ | ⟨_, unchanged⟩
      · exact absurd (Except.error.inj (returned.symm.trans verdictEq)) (notTimeout milliseconds)
      · exact unchanged.symm.trans returned
    rcases heard (honest.heard answers error (ran ▸ failed) isCancellation) with fired | callers
    · -- A watchdog that has fired would have made a timeout of it.
      obtain ⟨milliseconds, _, verdictEq⟩ :=
        (database.conclude_of_isCancellation query inRange ended failed isCancellation).2
          ((Watchdog.State.fired_iff_of_outcome? ended).1 fired)
      exact absurd (Except.error.inj (returned.symm.trans verdictEq)) (notTimeout milliseconds)
    · exact callers

/-! ## The other flags -/

/-- Whatever the watchdog does, every flag but the two of the call reports what it would if
the watchdog had raised nothing. -/
theorem isRaised_watch (database : Database) (call : Polled (Report α)) (history : History)
    {caller : Nat} (inRange : caller < history.store.flags.length)
    (moments : List Watchdog.Moment) {index : Nat}
    (stranger : index ∉ [(database.watch call history.store caller).own,
      (database.watch call history.store caller).held]) :
    ((database.watch call history.store caller).run moments).store.isRaised index =
      ((database.watch call history.store caller).run
        (moments.filter (· ≠ .raise))).store.isRaised index := by
  have orderly := database.orderly_watch call history inRange
  have alike : (database.watch call history.store caller).Alike
      (database.watch call history.store caller) history.store.freshCell :=
    ⟨rfl, rfl, rfl, rfl, rfl, fun _ _ => Iff.rfl⟩
  have sameFlags := alike.run orderly moments
  obtain ⟨_, sameOwn, sameHeld⟩ := (database.watch call history.store caller).names_run moments
  refine (orderly.run moments).confines.isRaised_congr sameFlags.flags sameFlags.marks ?_
  rw [sameOwn, sameHeld]
  exact stranger

/-- The flag of a call says at the beginning what the caller's flag does. -/
theorem isRaised_own_watch (database : Database) (call : Polled (Report α)) (history : History)
    {caller : Nat} (inRange : caller < history.store.flags.length) :
    (database.watch call history.store caller).store.isRaised
        (database.watch call history.store caller).own =
      history.store.isRaised caller := by
  rw [← (database.orderly_watch call history inRange).flag_underDeadline,
    database.underDeadline_watch call history inRange]
  exact Bool.false_or _

/-- Deadlines are safe, in whatever order the moments follow one another. Every call can come
to an end, the caller can rely on the verdict, and neither the caller's flag nor any call
that follows under it notices what the watchdog has done. The database answers with these
verdicts and no others. -/
theorem deadlines_are_safe :
    (∀ database query, IsHonest (tableCall database query)) ∧
    (∀ database format query, (∀ table, (format table).IsHonest) →
      IsHonest (textCall database format query)) ∧
    ∀ (α : Type) (database : Database) (query : String) (call : Polled (Report α))
      (history : History) (caller : Nat) (moments : List Watchdog.Moment),
      IsHonest call → caller < history.store.flags.length →
        let first := database.watch call history.store caller
        let last := first.run moments
        let quiet := first.run (moments.filter (· ≠ .raise))
        (∀ outcome, last.outcome? = some outcome →
          database.KeepsDeadline query first moments outcome) ∧
        (∃ rest outcome, (last.run rest).outcome? = some outcome) ∧
        (∀ index, index ≠ first.own → index ≠ first.held →
          last.store.isRaised index = quiet.store.isRaised index) ∧
        last.store.isRaised caller = quiet.store.isRaised caller ∧
        (∀ (β : Type) (other : Database) (later : Polled (Report β)),
          (other.watch later last.store caller).store.isRaised
              (other.watch later last.store caller).own =
            quiet.store.isRaised caller) ∧
        (database.config.queryTimeout = none ∨ database.config.queryTimeout = some 0 →
          ∀ outcome milliseconds, last.outcome? = some outcome →
            (database.conclude query outcome).result ≠ .error (.timeout milliseconds)) ∧
        ∀ report,
          (∃ others outcome, (first.run others).outcome? = some outcome ∧
            database.conclude query outcome = report) ↔
          ∃ under, database.perform query call (history.store.isRaised caller) under = report := by
  refine ⟨isHonest_tableCall, ?_, ?_⟩
  · intro database format query honest
    exact database.isHonest_textCall honest query
  intro α database query call history caller moments honest inRange first last quiet
  have orderly := database.orderly_watch call history inRange
  have keeps : ∀ outcome, last.outcome? = some outcome →
      database.KeepsDeadline query first moments outcome :=
    fun outcome => database.keepsDeadline query honest history inRange moments
  have unnoticed : last.store.isRaised caller = quiet.store.isRaised caller := by
    apply database.isRaised_watch call history inRange moments
    have stranger := orderly.stranger
    rw [caller_watch] at stranger
    exact stranger
  refine ⟨keeps, (orderly.run moments).exists_outcome?, ?_, unnoticed, ?_, ?_,
    database.conclude_watch_iff query call history inRange⟩
  · intro index notOwn notHeld
    apply database.isRaised_watch call history inRange moments
    simpa using And.intro notOwn notHeld
  · intro β other later
    obtain ⟨longer, reached⟩ := (orderly.run moments).reached
    have sameCaller : last.caller = caller :=
      (first.names_run moments).1.trans (database.caller_watch call history.store caller)
    have stillThere := (List.getElem?_eq_some_iff.1 (orderly.run moments).callerFlag).1
    rw [← reached] at stillThere
    have said := other.isRaised_own_watch later longer (sameCaller ▸ stillThere)
    rw [reached] at said
    exact said.trans unnoticed
  · intro noTimeout outcome milliseconds ended timedOut
    obtain ⟨isSet, positive, _⟩ := (keeps outcome ended).timeout milliseconds timedOut
    rcases noTimeout with isNone | isZero
    · cases isNone.symm.trans isSet
    · cases isZero.symm.trans isSet
      exact Nat.lt_irrefl 0 positive

theorem isHonest_glance : IsHonest glance := by
  have ran : ∀ answers, (glance.run answers).result =
      if answers 0 then .error (.format .cancelled) else .ok "seen" := fun _ => rfl
  have heard : ∀ answers, glance.heard answers = [answers 0] := fun _ => rfl
  constructor
  · intro answers error failed _
    cases isRaised : answers 0 with
    | true => simp [heard, isRaised]
    | false =>
        rw [ran, isRaised] at failed
        cases failed
  · intro answers milliseconds timedOut
    rw [ran] at timedOut
    split at timedOut <;> cases timedOut

/-- The time is over before the call looks at its flag or afterwards, or the caller raises
the flag, or there is no timeout. -/
theorem deadlines_are_safe_glance :
    IsHonest (hasty.textCall Box.render "") ∧ IsHonest glance ∧ 0 < alone.store.flags.length ∧
      (let first := hasty.watch glance alone.store 0
      let late : List Watchdog.Moment := [.elapse, .raise, .check, .send]
      let spared : List Watchdog.Moment := [.check, .elapse, .raise, .send]
      let interrupted : List Watchdog.Moment := [.act (.raise 0), .check, .send, .receive]
      ((first.run late).outcome? = some ⟨.silent (.error (.format .cancelled)), true, false⟩ ∧
        hasty.KeepsDeadline "" first late ⟨.silent (.error (.format .cancelled)), true, false⟩ ∧
        (first.run late).store.isRaised 0 = false ∧
        ∃ under, hasty.perform "" glance (alone.store.isRaised 0) under =
          hasty.conclude "" ⟨.silent (.error (.format .cancelled)), true, false⟩) ∧
      ((first.run spared).outcome? = some ⟨.silent (.ok "seen"), true, false⟩ ∧
        (hasty.conclude "" ⟨.silent (.ok "seen"), true, false⟩).result = .ok "seen") ∧
      ((first.run interrupted).outcome? =
          some ⟨.silent (.error (.format .cancelled)), false, true⟩ ∧
        (first.run interrupted).store.isRaised 0 = true)) ∧
      (let first := (empty Config.default).watch glance alone.store 0
      (first.run [.check]).outcome? = some ⟨.silent (.ok "seen"), false, false⟩ ∧
        ((empty Config.default).conclude "" ⟨.silent (.ok "seen"), false, false⟩).result ≠
          .error (.timeout 5)) := by
  obtain ⟨_, drawing, safe⟩ := deadlines_are_safe
  have inRange : 0 < alone.store.flags.length := by decide
  refine ⟨drawing _ _ "" fun table => (Box.heedsFlag_render table).isHonest, isHonest_glance,
    inRange, ?_, ?_⟩
  · intro first late spared interrupted
    obtain ⟨keepsLate, _, _, unnoticed, _, _, answers⟩ :=
      safe String hasty "" glance alone 0 late isHonest_glance inRange
    obtain ⟨keepsSpared, _⟩ := safe String hasty "" glance alone 0 spared isHonest_glance inRange
    obtain ⟨keepsInterrupted, _⟩ :=
      safe String hasty "" glance alone 0 interrupted isHonest_glance inRange
    refine ⟨⟨rfl, keepsLate _ rfl, unnoticed.trans rfl, (answers _).1 ⟨late, _, rfl, rfl⟩⟩,
      ⟨rfl, ?_⟩, rfl, ?_⟩
    · exact (keepsSpared _ rfl).success "seen" rfl
    · exact (keepsInterrupted _ rfl).cancelled (.inr rfl)
  · intro first
    obtain ⟨_, _, _, _, _, never, _⟩ :=
      safe String (empty Config.default) "" glance alone 0 [.check] isHonest_glance inRange
    exact ⟨rfl, never (.inl rfl) _ 5 rfl⟩

end Database

end Tabula
