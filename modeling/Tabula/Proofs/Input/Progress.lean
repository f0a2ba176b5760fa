import Tabula.Proofs.Input.Delivery

/-!
# Progress of a delivery

A call that begins after the flag was raised is answered by no line as soon as the consumer
has taken its two steps. While nobody raises the flag and no party stops for good, an input
that ends is sent and closed, and then every call is answered. So the consumer gets all lines
and then the answer without a line.
-/

namespace Tabula.Input.Delivery

variable {delivery next : Delivery} {moment : Moment} {lines : List Line}

/-! ## What is kept and what is reached -/

theorem run_append (delivery : Delivery) (first second : List Moment) :
    delivery.run (first ++ second) = (delivery.run first).run second := by
  simp [run]

/-- Whether moments of a kind keep a property. -/
def IsKept (kind : Moment → Prop) (Holds : Delivery → Prop) : Prop :=
  ∀ ⦃delivery next moment⦄, delivery.Does moment next → kind moment → Holds delivery → Holds next

theorem IsKept.run {kind : Moment → Prop} {Holds : Delivery → Prop} (kept : IsKept kind Holds)
    {moments : List Moment} (ofKind : ∀ moment ∈ moments, kind moment) (holds : Holds delivery) :
    Holds (delivery.run moments) := by
  induction moments generalizing delivery with
  | nil => exact holds
  | cons moment rest ih =>
      rw [List.forall_mem_cons] at ofKind
      exact ih ofKind.2 (kept (delivery.does_step moment) ofKind.1 holds)

/-- What is kept until a moment, which brings about something else that is kept from then on,
leads to the latter by any moments with this one among them. -/
theorem IsKept.run_reaches {kind : Moment → Prop} {Before After : Delivery → Prop}
    (before : IsKept kind Before) (after : IsKept kind After)
    (acts : ∀ delivery, Before delivery → After (delivery.step moment)) {moments : List Moment}
    (ofKind : ∀ moment ∈ moments, kind moment) (among : moment ∈ moments)
    (holds : Before delivery) : After (delivery.run moments) := by
  rcases List.append_of_mem among with ⟨earlier, later, rfl⟩
  rw [List.forall_mem_append, List.forall_mem_cons] at ofKind
  have reached := after.run ofKind.2.2 (acts _ (before.run ofKind.1 holds))
  rw [run_append]
  exact reached

/-! ## What is answered -/

theorem Does.answers_cases (does : delivery.Does moment next) :
    next.answers = delivery.answers ∨ ∃ answer, next.answers = delivery.answers ++ [answer] := by
  cases does with
  | isStopped _ _ => exact .inr ⟨_, rfl⟩
  | receives _ _ => exact .inr ⟨_, rfl⟩
  | isEnded _ _ _ => exact .inr ⟨_, rfl⟩
  | _ => exact .inl rfl

theorem Does.length_answers (does : delivery.Does moment next) :
    delivery.answers.length ≤ next.answers.length ∧
      next.answers.length ≤ delivery.answers.length + 1 := by
  rcases does.answers_cases with same | ⟨answer, added⟩
  · rw [same]
    exact ⟨Nat.le_refl _, Nat.le_succ _⟩
  · rw [added, List.length_append]
    exact ⟨Nat.le_succ _, Nat.le_refl _⟩

/-- Whether more answers have been given than so many, or as many and the next one is near. -/
def Nears (count : Nat) (IsNear : Delivery → Prop) (delivery : Delivery) : Prop :=
  count ≤ delivery.answers.length ∧ (count < delivery.answers.length ∨ IsNear delivery)

theorem Nears.after {count : Nat} {IsNear IsNearer : Delivery → Prop}
    (nears : Nears count IsNear delivery) (does : delivery.Does moment next)
    (acts : IsNear delivery →
      IsNearer next ∨ delivery.answers.length < next.answers.length) :
    Nears count IsNearer next := by
  have more := does.length_answers.1
  refine ⟨Nat.le_trans nears.1 more, ?_⟩
  rcases nears.2 with answered | isNear
  · exact .inl (Nat.lt_of_lt_of_le answered more)
  · rcases acts isNear with nearer | answered
    · exact .inr nearer
    · exact .inl (Nat.lt_of_le_of_lt nears.1 answered)

/-- Whether moments of a kind keep a property until there is an answer. -/
def IsKeptUntilAnswer (kind : Moment → Prop) (IsNear : Delivery → Prop) : Prop :=
  ∀ ⦃delivery next moment⦄, delivery.Does moment next → kind moment → IsNear delivery →
    IsNear next ∨ delivery.answers.length < next.answers.length

theorem IsKeptUntilAnswer.isKept {kind : Moment → Prop} {IsNear : Delivery → Prop}
    (kept : IsKeptUntilAnswer kind IsNear) (count : Nat) : IsKept kind (Nears count IsNear) :=
  fun _ _ _ does ofKind nears => nears.after does (kept does ofKind)

/-- By a moment that brings the answer nearer it is nearer after any moments among which this
one is. -/
theorem Nears.run {kind : Moment → Prop} {IsNear IsNearer : Delivery → Prop} {count : Nat}
    (nears : Nears count IsNear delivery) (kept : IsKeptUntilAnswer kind IsNear)
    (keptNearer : IsKeptUntilAnswer kind IsNearer)
    (acts : ∀ delivery, IsNear delivery → IsNearer (delivery.step moment) ∨
      delivery.answers.length < (delivery.step moment).answers.length)
    {moments : List Moment} (ofKind : ∀ moment ∈ moments, kind moment)
    (among : moment ∈ moments) : Nears count IsNearer (delivery.run moments) :=
  (kept.isKept count).run_reaches (keptNearer.isKept count)
    (fun delivery nears => nears.after (delivery.does_step moment) (acts delivery)) ofKind among
    nears

theorem answer_more (delivery : Delivery) (line : Option Line) :
    delivery.answers.length < (delivery.answer line).answers.length := by
  simp [answer]

/-! ## A raised flag -/

/-- Whether the flag is raised and no call waits. -/
def IsStopping (delivery : Delivery) : Prop :=
  delivery.raised = true ∧ delivery.phase ≠ .waiting

/-- Whether the flag is raised and a call looks at it next. -/
def IsLooking (delivery : Delivery) : Prop :=
  delivery.raised = true ∧ delivery.phase = .checking

theorem isKept_isStopping : IsKeptUntilAnswer (fun _ => True) IsStopping := by
  intro delivery next moment does _ stopping
  rcases stopping with ⟨raised, notWaiting⟩
  cases does with
  | asks _ => exact .inl ⟨raised, by simp⟩
  | isStopped _ _ => exact .inr (answer_more _ _)
  | goesOn _ lowered => simp [raised] at lowered
  | receives _ _ => exact .inr (answer_more _ _)
  | isEnded _ _ _ => exact .inr (answer_more _ _)
  | expires _ _ _ => exact .inl ⟨raised, by simp⟩
  | raises => exact .inl ⟨rfl, notWaiting⟩
  | _ => exact .inl ⟨raised, notWaiting⟩

theorem isKept_isLooking : IsKeptUntilAnswer (fun _ => True) IsLooking := by
  intro delivery next moment does _ looking
  rcases looking with ⟨raised, checking⟩
  cases does with
  | asks _ => exact .inl ⟨raised, rfl⟩
  | isStopped _ _ => exact .inr (answer_more _ _)
  | goesOn _ lowered => simp [raised] at lowered
  | receives _ _ => exact .inr (answer_more _ _)
  | isEnded _ _ _ => exact .inr (answer_more _ _)
  | expires _ _ _ => exact .inl ⟨raised, rfl⟩
  | raises => exact .inl ⟨rfl, checking⟩
  | _ => exact .inl ⟨raised, checking⟩

/-- After a call has been asked for, a raised flag is answered when the consumer looks at it,
whatever happens between and afterwards. -/
theorem answers_of_raised (raised : delivery.raised = true) (idle : delivery.phase = .idle)
    {moments : List Moment} (called : [.ask, .check].Sublist moments) :
    delivery.answers.length < (delivery.run moments).answers.length := by
  rcases List.cons_sublist_iff.1 called with ⟨first, second, rfl, asked, looked⟩
  have stopping : Nears delivery.answers.length IsStopping delivery :=
    ⟨Nat.le_refl _, .inr ⟨raised, by simp [idle]⟩⟩
  have looking : Nears delivery.answers.length IsLooking (delivery.run first) := by
    apply stopping.run isKept_isStopping isKept_isLooking _ (fun _ _ => trivial) asked
    intro delivery stopping
    apply Or.inl
    cases phase : delivery.phase with
    | idle => simp [IsLooking, step, ask, phase, stopping.1]
    | checking => simp [IsLooking, step, ask, phase, stopping.1]
    | waiting => exact absurd phase stopping.2
  have answered : Nears delivery.answers.length (fun _ => False)
      (delivery.run (first ++ second)) := by
    rw [run_append]
    apply looking.run isKept_isLooking (fun _ _ _ _ _ never => never.elim) _ (fun _ _ => trivial)
      (List.singleton_sublist.1 looked)
    intro delivery looking
    apply Or.inr
    simp [step, check, looking.1, looking.2, answer]
  exact answered.2.resolve_right id

/-! ## An input that ends -/

/-- Whether the reader has closed the queue and nobody has raised the flag. -/
def IsSettled (delivery : Delivery) : Prop :=
  delivery.raised = false ∧ delivery.closed = true

/-- Whether a call is under way besides. -/
def IsCalling (delivery : Delivery) : Prop :=
  delivery.IsSettled ∧ delivery.phase ≠ .idle

/-- Whether the call waits for the queue besides. -/
def IsReceiving (delivery : Delivery) : Prop :=
  delivery.IsSettled ∧ delivery.phase = .waiting

theorem isKept_isSettled : IsKept (· ≠ .raise) IsSettled := by
  intro delivery next moment does undisturbed settled
  rcases settled with ⟨lowered, closed⟩
  cases does with
  | closes _ _ => exact ⟨lowered, rfl⟩
  | raises => exact absurd rfl undisturbed
  | _ => exact ⟨lowered, closed⟩

theorem isKept_isCalling : IsKeptUntilAnswer (· ≠ .raise) IsCalling := by
  intro delivery next moment does undisturbed calling
  rcases calling with ⟨settled, notIdle⟩
  have settledNext := isKept_isSettled does undisturbed settled
  cases does with
  | asks _ => exact .inl ⟨settledNext, by simp⟩
  | isStopped _ _ => exact .inr (answer_more _ _)
  | goesOn _ _ => exact .inl ⟨settledNext, by simp⟩
  | receives _ _ => exact .inr (answer_more _ _)
  | isEnded _ _ _ => exact .inr (answer_more _ _)
  | expires _ _ _ => exact .inl ⟨settledNext, by simp⟩
  | _ => exact .inl ⟨settledNext, notIdle⟩

theorem isKept_isReceiving : IsKeptUntilAnswer (· ≠ .raise) IsReceiving := by
  intro delivery next moment does undisturbed receiving
  rcases receiving with ⟨settled, waiting⟩
  have settledNext := isKept_isSettled does undisturbed settled
  cases does with
  | asks idle => simp [waiting] at idle
  | isStopped _ _ => exact .inr (answer_more _ _)
  | goesOn _ _ => exact .inl ⟨settledNext, rfl⟩
  | receives _ _ => exact .inr (answer_more _ _)
  | isEnded _ _ _ => exact .inr (answer_more _ _)
  | expires _ _ opened => simp [settled.2] at opened
  | _ => exact .inl ⟨settledNext, waiting⟩

/-- Once the queue is closed, asking, looking and receiving come to an answer. -/
theorem answers_of_settled (settled : delivery.IsSettled) {first second third : List Moment}
    (ofKind : ∀ moment ∈ first ++ second ++ third, moment ≠ .raise) (asked : .ask ∈ first)
    (looked : .check ∈ second) (received : .receive ∈ third) :
    delivery.answers.length < (delivery.run (first ++ second ++ third)).answers.length := by
  rw [List.forall_mem_append, List.forall_mem_append] at ofKind
  rcases ofKind with ⟨⟨firstKind, secondKind⟩, thirdKind⟩
  have calling : Nears delivery.answers.length IsCalling (delivery.run first) := by
    have near : Nears delivery.answers.length IsSettled delivery :=
      ⟨Nat.le_refl _, .inr settled⟩
    apply near.run (fun _ _ _ does undisturbed settled =>
      .inl (isKept_isSettled does undisturbed settled)) isKept_isCalling _ firstKind asked
    intro delivery settled
    have settledNext := isKept_isSettled (delivery.does_step .ask) (by simp) settled
    refine .inl ⟨settledNext, ?_⟩
    cases phase : delivery.phase <;> simp [step, ask, phase]
  have receiving : Nears delivery.answers.length IsReceiving
      ((delivery.run first).run second) := by
    apply calling.run isKept_isCalling isKept_isReceiving _ secondKind looked
    intro delivery calling
    have settledNext := isKept_isSettled (delivery.does_step .check) (by simp) calling.1
    refine .inl ⟨settledNext, ?_⟩
    cases phase : delivery.phase with
    | idle => exact absurd phase calling.2
    | checking => simp [step, check, phase, calling.1.1]
    | waiting => simp [step, check, phase]
  have answered : Nears delivery.answers.length (fun _ => False)
      (((delivery.run first).run second).run third) := by
    apply receiving.run isKept_isReceiving (fun _ _ _ _ _ never => never.elim) _ thirdKind received
    intro delivery receiving
    apply Or.inr
    cases queue : delivery.queue with
    | nil => simp [step, receive, receiving.2, queue, receiving.1.2, answer]
    | cons line rest => simp [step, receive, receiving.2, queue, answer]
  rw [run_append, run_append]
  exact answered.2.resolve_right id

/-! ## Schedules -/

/-- The first moments of a schedule. -/
def upTo (schedule : Nat → Moment) (time : Nat) : List Moment :=
  (List.range time).map schedule

/-- Whether reader and consumer take each of their steps again and again. -/
def IsFair (schedule : Nat → Moment) : Prop :=
  ∀ moment ∈ [Moment.send, .close, .ask, .check, .receive], ∀ time,
    ∃ later, time ≤ later ∧ schedule later = moment

section Schedule

variable {schedule : Nat → Moment} (fair : IsFair schedule)
  (undisturbed : ∀ time, schedule time ≠ .raise)

include undisturbed in
theorem raise_notMem_upTo (time : Nat) : .raise ∉ upTo schedule time := by
  intro member
  rcases List.mem_map.1 member with ⟨place, _, raises⟩
  exact undisturbed place raises

include fair undisturbed in
/-- From any time on, a fair schedule comes to each step of reader and consumer. -/
theorem exists_upTo_append (moment : Moment)
    (isStep : moment ∈ [Moment.send, .close, .ask, .check, .receive]) (time : Nat) :
    ∃ later window, upTo schedule later = upTo schedule time ++ window ∧ moment ∈ window ∧
      ∀ other ∈ window, other ≠ .raise := by
  rcases fair moment isStep time with ⟨later, after, taken⟩
  refine ⟨time + (later - time + 1),
    (List.range (later - time + 1)).map (schedule ∘ (time + ·)), ?_, ?_, ?_⟩
  · rw [upTo, List.range_add, List.map_append, List.map_map]
    rfl
  · apply List.mem_map.2
    refine ⟨later - time, List.mem_range.2 (Nat.lt_succ_self _), ?_⟩
    rw [Function.comp_apply, Nat.add_sub_cancel' after]
    exact taken
  · intro other member
    rcases List.mem_map.1 member with ⟨place, _, rfl⟩
    exact undisturbed (time + place)

include fair undisturbed in
/-- What a step of reader or consumer brings about is reached by a fair schedule. -/
theorem exists_reached {Before After : Delivery → Prop} (moment : Moment)
    (isStep : moment ∈ [Moment.send, .close, .ask, .check, .receive])
    (before : IsKept (· ≠ .raise) Before) (after : IsKept (· ≠ .raise) After)
    (acts : ∀ delivery, Before delivery → After (delivery.step moment)) {time : Nat}
    (holds : Before (delivery.run (upTo schedule time))) :
    ∃ later, After (delivery.run (upTo schedule later)) := by
  rcases exists_upTo_append fair undisturbed moment isStep time with
    ⟨later, window, split, among, ofKind⟩
  refine ⟨later, ?_⟩
  rw [split, run_append]
  exact before.run_reaches after acts ofKind among holds

theorem Does.unsent_le (does : delivery.Does moment next) :
    next.unsent.length ≤ delivery.unsent.length := by
  cases does with
  | sends unsentEq => simp [unsentEq]
  | _ => exact Nat.le_refl _

theorem isKept_unsent_le (kind : Moment → Prop) (count : Nat) :
    IsKept kind fun delivery => delivery.unsent.length ≤ count :=
  fun _ _ _ does _ few => Nat.le_trans does.unsent_le few

include fair undisturbed in
/-- The reader sends all lines. -/
theorem exists_sent (delivery : Delivery) (count time : Nat)
    (few : (delivery.run (upTo schedule time)).unsent.length ≤ count) :
    ∃ later, (delivery.run (upTo schedule later)).unsent = [] := by
  induction count generalizing time with
  | zero => exact ⟨time, List.eq_nil_of_length_eq_zero (Nat.le_zero.1 few)⟩
  | succ count ih =>
      have sent : ∀ delivery : Delivery, delivery.unsent.length ≤ count + 1 →
          (delivery.step .send).unsent.length ≤ count := by
        intro delivery few
        cases unsent : delivery.unsent with
        | nil => simp [step, send, unsent]
        | cons line rest => simpa [step, send, unsent] using few
      rcases exists_reached fair undisturbed .send (by simp) (isKept_unsent_le _ _)
        (isKept_unsent_le _ _) sent few with ⟨later, fewer⟩
      exact ih later fewer

/-- Whether the input has come to its end while nobody raised the flag. -/
def IsSent (delivery : Delivery) : Prop :=
  delivery.raised = false ∧ delivery.ends = true ∧ delivery.unsent = []

theorem isKept_isSent : IsKept (· ≠ .raise) IsSent := by
  intro delivery next moment does undisturbed sent
  rcases sent with ⟨lowered, ends, noneUnsent⟩
  have noMore := does.unsent_le
  rw [noneUnsent] at noMore
  exact ⟨(does.raised undisturbed).trans lowered, does.ends_eq.trans ends,
    List.eq_nil_of_length_eq_zero (Nat.le_zero.1 noMore)⟩

include fair undisturbed in
/-- The reader closes the queue of an input that ends. -/
theorem exists_settled (lines : List Line) :
    ∃ time, ((start lines true).run (upTo schedule time)).IsSettled := by
  rcases exists_sent fair undisturbed (start lines true) lines.length 0 (Nat.le_refl _) with
    ⟨time, noneUnsent⟩
  have lowered := raised_run (start lines true) (raise_notMem_upTo undisturbed time)
  have ends := ends_run (start lines true) (upTo schedule time)
  have closes : ∀ delivery : Delivery, delivery.IsSent → (delivery.step .close).IsSettled := by
    rintro delivery ⟨lowered, ends, noneUnsent⟩
    simp [IsSettled, step, close, noneUnsent, ends, lowered]
  exact exists_reached fair undisturbed .close (by simp) isKept_isSent isKept_isSettled closes
    ⟨lowered, ends, noneUnsent⟩

include fair undisturbed in
/-- There are ever more answers. -/
theorem exists_answers (lines : List Line) (count : Nat) :
    ∃ time, ((start lines true).run (upTo schedule time)).IsSettled ∧
      count ≤ ((start lines true).run (upTo schedule time)).answers.length := by
  induction count with
  | zero =>
      rcases exists_settled fair undisturbed lines with ⟨time, settled⟩
      exact ⟨time, settled, Nat.zero_le _⟩
  | succ count ih =>
      rcases ih with ⟨time, settled, enough⟩
      -- One more answer takes three steps, for which the schedule is followed three times.
      rcases exists_upTo_append fair undisturbed .ask (by simp) time with
        ⟨asked, first, firstSplit, isAsked, firstKind⟩
      rcases exists_upTo_append fair undisturbed .check (by simp) asked with
        ⟨looked, second, secondSplit, isLooked, secondKind⟩
      rcases exists_upTo_append fair undisturbed .receive (by simp) looked with
        ⟨received, third, thirdSplit, isReceived, thirdKind⟩
      have split : upTo schedule received = upTo schedule time ++ (first ++ second ++ third) := by
        rw [thirdSplit, secondSplit, firstSplit]
        simp only [List.append_assoc]
      have ofKind : ∀ moment ∈ first ++ second ++ third, moment ≠ .raise := by
        rw [List.forall_mem_append, List.forall_mem_append]
        exact ⟨⟨firstKind, secondKind⟩, thirdKind⟩
      refine ⟨received, ?_, ?_⟩
      · rw [split, run_append]
        exact isKept_isSettled.run ofKind settled
      · rw [split, run_append]
        exact Nat.le_trans (Nat.succ_le_succ enough)
          (answers_of_settled settled ofKind isAsked isLooked isReceived)

/-- What grows by one at a time comes to every number on its way. -/
theorem exists_time_eq {reading : Nat → Nat} (zero : reading 0 = 0)
    (slow : ∀ time, reading (time + 1) ≤ reading time + 1) {count time : Nat}
    (enough : count ≤ reading time) : ∃ earlier, reading earlier = count := by
  induction time with
  | zero => exact ⟨0, by omega⟩
  | succ time ih =>
      by_cases already : count ≤ reading time
      · exact ih already
      · have next := slow time
        exact ⟨time + 1, by omega⟩

include fair undisturbed in
/-- A fair schedule comes to the answer after the last line. -/
theorem exists_end (lines : List Line) :
    ∃ time, ((start lines true).run (upTo schedule time)).answers = lines.map some ++ [none] := by
  rcases exists_answers fair undisturbed lines (lines.length + 1) with ⟨time, _, enough⟩
  have slow : ∀ time, ((start lines true).run (upTo schedule (time + 1))).answers.length ≤
      ((start lines true).run (upTo schedule time)).answers.length + 1 := by
    intro time
    rw [upTo, List.range_succ, List.map_append, run_append]
    exact (does_step _ _).length_answers.2
  obtain ⟨time, count⟩ : ∃ time, ((start lines true).run (upTo schedule time)).answers.length =
      lines.length + 1 := exists_time_eq rfl slow enough
  refine ⟨time, ?_⟩
  rcases (delivers_start lines true).exists_run (upTo schedule time) with
    ⟨given, refusals, delivers⟩
  have lowered := raised_run (start lines true) (raise_notMem_upTo undisturbed time)
  rw [delivers.answers, List.length_append, List.length_map, List.length_replicate] at count
  have few := delivers.isPrefix.length_le
  rcases delivers.all_given lowered (by omega) with ⟨rfl, _⟩
  obtain rfl : refusals = 1 := by omega
  exact delivers.answers

end Schedule

/-! ## The delivery of an input -/

/-- The delivery of an input of which some bytes are known, and whether it ends with them. -/
def reading (bytes : List UInt8) (ends : Bool) : Delivery :=
  start (if ends then Line.all bytes else Line.finished bytes) ends

theorem isPrefix_all {bytes more : List UInt8} {ends : Bool} {given : List Line}
    (known : given <+: if ends then Line.all bytes else Line.finished bytes)
    (noMore : ends = true → more = []) : given <+: Line.all (bytes ++ more) := by
  cases ends with
  | true =>
      rw [noMore rfl, List.append_nil]
      exact known
  | false => exact known.trans (Line.finished_isPrefix bytes more)

theorem isKept_raised : IsKept (fun _ => True) fun delivery => delivery.raised = true := by
  intro delivery next moment does _ raised
  cases does with
  | raises => rfl
  | _ => exact raised

theorem raised_of_mem (delivery : Delivery) {moments : List Moment} (raise : .raise ∈ moments) :
    (delivery.run moments).raised = true := by
  have kept : IsKept (fun _ => True) fun _ => True := fun _ _ _ _ _ _ => trivial
  exact kept.run_reaches isKept_raised (fun _ _ => rfl) (fun _ _ => trivial) raise trivial

/-- What an input delivers, in whatever order the parties take their steps. -/
theorem reading_delivers (bytes : List UInt8) (ends : Bool) :
    Line.IsCutInto bytes (Line.all bytes) ∧
    (∀ moments, ∃ given refusals,
      ((reading bytes ends).run moments).answers =
        given.map some ++ List.replicate refusals none ∧
      given ++ ((reading bytes ends).run moments).queue ++
        ((reading bytes ends).run moments).unsent = (reading bytes ends).unsent ∧
      (∀ more, (ends = true → more = []) → given <+: Line.all (bytes ++ more)) ∧
      (.raise ∉ moments → 0 < refusals → ends = true ∧ given = Line.all bytes)) ∧
    (∀ moments later, .raise ∈ moments → ((reading bytes ends).run moments).phase = .idle →
      ∃ refusals, ((reading bytes ends).run (moments ++ later)).answers =
          ((reading bytes ends).run moments).answers ++ List.replicate refusals none ∧
        ([.ask, .check].Sublist later → 0 < refusals)) ∧
    (ends = true → ∀ schedule, IsFair schedule → (∀ time, schedule time ≠ .raise) →
      ∃ time, ((reading bytes ends).run (upTo schedule time)).answers =
        (Line.all bytes).map some ++ [none]) := by
  refine ⟨Line.isCutInto_iff.2 rfl, ?_, ?_, ?_⟩
  · intro moments
    rcases (delivers_start _ ends).exists_run moments with ⟨given, refusals, delivers⟩
    refine ⟨given, refusals, delivers.answers, delivers.whole, ?_, ?_⟩
    · intro more noMore
      exact isPrefix_all delivers.isPrefix noMore
    · intro undisturbed refused
      have lowered := raised_run (reading bytes ends) undisturbed
      rcases delivers.all_given lowered refused with ⟨all, isEnd⟩
      rw [ends_run] at isEnd
      cases isEnd
      exact ⟨rfl, all⟩
  · intro moments later raise idle
    have raised := raised_of_mem (reading bytes ends) raise
    have isOver : ((reading bytes ends).run moments).IsOver := .inr ⟨raised, by simp [idle]⟩
    rcases isOver.run later with ⟨refusals, answers⟩
    rw [run_append]
    refine ⟨refusals, answers, ?_⟩
    intro called
    have more := answers_of_raised raised idle called
    rw [answers, List.length_append, List.length_replicate] at more
    omega
  · rintro rfl schedule fair undisturbed
    exact exists_end fair undisturbed (Line.all bytes)

/-- The schedule in which everybody but who raises the flag has a turn after the other. -/
def roundRobin (time : Nat) : Moment :=
  match time % 6 with
  | 0 => .ask
  | 1 => .check
  | 2 => .expire
  | 3 => .send
  | 4 => .close
  | _ => .receive

theorem roundRobin_isFair : IsFair roundRobin := by
  intro moment isStep time
  have turn : ∃ place, place < 6 ∧ roundRobin place = moment := by
    revert isStep moment
    decide
  rcases turn with ⟨place, bound, taken⟩
  refine ⟨6 * time + place, by omega, ?_⟩
  rw [← taken, roundRobin, roundRobin, Nat.mul_add_mod]

theorem roundRobin_ne_raise (time : Nat) : roundRobin time ≠ .raise := by
  unfold roundRobin
  split <;> simp

/-- An input with a carriage return, a line that is no text and a line without a line feed. -/
def mixedInput : List UInt8 :=
  [0x5C, 0x71, 0x0D, 0x0A, 0xFF, 0x0A, 0x78]

theorem mixedInput_delivers :
    (.raise ∈ [Moment.send, .ask, .check, .receive, .send, .raise] ∧
      ∃ refusals, ((reading mixedInput true).run
          ([.send, .ask, .check, .receive, .send, .raise] ++ [.ask, .send, .check])).answers =
          [some (.text "\\q")] ++ List.replicate refusals none ∧ 0 < refusals) ∧
    IsFair roundRobin ∧ (∀ time, roundRobin time ≠ .raise) ∧
    ∃ time, ((reading mixedInput true).run (upTo roundRobin time)).answers =
      [some (.text "\\q"), some .unreadable, some (.text "x"), none] := by
  have all : Line.all mixedInput = [.text "\\q", .unreadable, .text "x"] := by decide
  rcases reading_delivers mixedInput true with ⟨_, _, stops, comes⟩
  constructor
  · refine ⟨by decide, ?_⟩
    rcases stops [.send, .ask, .check, .receive, .send, .raise] [.ask, .send, .check] (by decide)
      (by decide) with ⟨refusals, answers, refused⟩
    refine ⟨refusals, answers.trans ?_, refused (by decide)⟩
    congr 1
  · refine ⟨roundRobin_isFair, roundRobin_ne_raise, ?_⟩
    rcases comes rfl roundRobin roundRobin_isFair roundRobin_ne_raise with ⟨time, answers⟩
    rw [all] at answers
    exact ⟨time, answers⟩

end Tabula.Input.Delivery
