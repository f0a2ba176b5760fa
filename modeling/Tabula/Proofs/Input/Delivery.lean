import Tabula.Input.Delivery
import Tabula.Proofs.Input.Lines

/-!
# Delivery in order

However reader, consumer and whoever raises the flag take their steps, the consumer gets
lines from the beginning of the input in their order, and after the first answer without a
line only such answers. A call that begins after the flag was raised gets no line. While
nobody raises the flag, an input that ends is delivered as a whole before there is an
answer without a line, and a schedule that forgets no party comes to that answer.
-/

namespace Tabula.Input.Delivery

variable {delivery next : Delivery} {moment : Moment} {lines : List Line} {ends : Bool}

/-! ## What a moment does -/

/-- What a moment makes of a delivery. -/
inductive Does (delivery : Delivery) : Moment → Delivery → Prop
  | nothing (moment : Moment) : Does delivery moment delivery
  | sends {line : Line} {rest : List Line} (unsentEq : delivery.unsent = line :: rest) :
      Does delivery .send { delivery with unsent := rest, queue := delivery.queue ++ [line] }
  | closes (noneUnsent : delivery.unsent = []) (ends : delivery.ends = true) :
      Does delivery .close { delivery with closed := true }
  | asks (idle : delivery.phase = .idle) : Does delivery .ask { delivery with phase := .checking }
  | isStopped (checking : delivery.phase = .checking) (raised : delivery.raised = true) :
      Does delivery .check (delivery.answer none)
  | goesOn (checking : delivery.phase = .checking) (lowered : delivery.raised = false) :
      Does delivery .check { delivery with phase := .waiting }
  | receives {line : Line} {rest : List Line} (waiting : delivery.phase = .waiting)
      (queueEq : delivery.queue = line :: rest) :
      Does delivery .receive ({ delivery with queue := rest }.answer (some line))
  | isEnded (waiting : delivery.phase = .waiting) (drained : delivery.queue = [])
      (closed : delivery.closed = true) : Does delivery .receive (delivery.answer none)
  | expires (waiting : delivery.phase = .waiting) (drained : delivery.queue = [])
      (opened : delivery.closed = false) :
      Does delivery .expire { delivery with phase := .checking }
  | raises : Does delivery .raise { delivery with raised := true }

theorem does_step (delivery : Delivery) (moment : Moment) :
    delivery.Does moment (delivery.step moment) := by
  cases moment with
  | send =>
      rw [step, send]
      split
      · exact .nothing _
      · rename_i unsentEq
        exact .sends unsentEq
  | close =>
      rw [step, close]
      split
      · rename_i atEnd
        rw [Bool.and_eq_true, List.isEmpty_iff] at atEnd
        exact .closes atEnd.1 atEnd.2
      · exact .nothing _
  | ask =>
      rw [step, ask]
      split
      · rename_i idle
        exact .asks idle
      · exact .nothing _
      · exact .nothing _
  | check =>
      rw [step, check]
      split
      · rename_i checking
        split
        · rename_i raised
          exact .isStopped checking raised
        · rename_i lowered
          exact .goesOn checking (Bool.eq_false_iff.2 lowered)
      · exact .nothing _
      · exact .nothing _
  | receive =>
      rw [step, receive]
      split
      · rename_i waiting queueEq
        exact .receives waiting queueEq
      · rename_i waiting drained
        split
        · rename_i closed
          exact .isEnded waiting drained closed
        · exact .nothing _
      · exact .nothing _
  | expire =>
      rw [step, expire]
      split
      · rename_i waiting drained
        split
        · exact .nothing _
        · rename_i opened
          exact .expires waiting drained (Bool.eq_false_iff.2 opened)
      · exact .nothing _
  | raise => exact .raises

/-! ## No line after an answer without one -/

/-- Whether no line can be delivered any more: the queue is drained for good, or the flag is
raised and no call waits any longer. -/
def IsOver (delivery : Delivery) : Prop :=
  (delivery.unsent = [] ∧ delivery.queue = [] ∧ delivery.closed = true) ∨
    (delivery.raised = true ∧ delivery.phase ≠ .waiting)

theorem Does.isOver (does : delivery.Does moment next) (isOver : delivery.IsOver) :
    next.IsOver := by
  rcases isOver with ⟨noneUnsent, drained, closed⟩ | ⟨raised, notWaiting⟩
  · apply Or.inl
    cases does with
    | sends unsentEq =>
        rw [noneUnsent] at unsentEq
        cases unsentEq
    | receives _ queueEq =>
        rw [drained] at queueEq
        cases queueEq
    | closes _ _ => exact ⟨noneUnsent, drained, rfl⟩
    | _ => exact ⟨noneUnsent, drained, closed⟩
  · apply Or.inr
    cases does with
    | asks _ => exact ⟨raised, by simp⟩
    | isStopped _ _ => exact ⟨raised, by simp [answer]⟩
    | goesOn _ lowered =>
        rw [raised] at lowered
        cases lowered
    | receives waiting _ => exact absurd waiting notWaiting
    | isEnded waiting _ _ => exact absurd waiting notWaiting
    | expires waiting _ _ => exact absurd waiting notWaiting
    | raises => exact ⟨rfl, notWaiting⟩
    | _ => exact ⟨raised, notWaiting⟩

theorem IsOver.not_receives {line : Line} {rest : List Line} (isOver : delivery.IsOver)
    (waiting : delivery.phase = .waiting) : delivery.queue ≠ line :: rest := by
  rcases isOver with ⟨_, drained, _⟩ | ⟨_, notWaiting⟩
  · simp [drained]
  · exact absurd waiting notWaiting

/-- The step: what is answered when all is over is no line. -/
theorem Does.answers_of_isOver (does : delivery.Does moment next) (isOver : delivery.IsOver) :
    next.answers = delivery.answers ∨ next.answers = delivery.answers ++ [none] := by
  cases does with
  | isStopped _ _ => exact .inr rfl
  | isEnded _ _ _ => exact .inr rfl
  | receives waiting queueEq => exact absurd queueEq (isOver.not_receives waiting)
  | _ => exact .inl rfl

/-- The run: all later answers are no lines. -/
theorem IsOver.run (isOver : delivery.IsOver) (moments : List Moment) :
    ∃ refusals, (delivery.run moments).answers =
      delivery.answers ++ List.replicate refusals none := by
  induction moments generalizing delivery with
  | nil => exact ⟨0, (List.append_nil _).symm⟩
  | cons moment rest ih =>
      have does := delivery.does_step moment
      rcases ih (does.isOver isOver) with ⟨refusals, later⟩
      rcases does.answers_of_isOver isOver with same | refused
      · refine ⟨refusals, later.trans ?_⟩
        rw [same]
      · refine ⟨refusals + 1, later.trans ?_⟩
        rw [refused, List.append_assoc]
        rfl

/-! ## Lines in their order -/

/-- What has become of the lines of an input: those given to the consumer, those in the queue
and those not sent yet are the lines in their order. -/
structure Delivers (lines : List Line) (delivery : Delivery) (given : List Line)
    (refusals : Nat) : Prop where
  answers : delivery.answers = given.map some ++ List.replicate refusals none
  whole : given ++ delivery.queue ++ delivery.unsent = lines
  closed : delivery.closed = true → delivery.unsent = [] ∧ delivery.ends = true
  refused : 0 < refusals → delivery.IsOver

theorem delivers_start (lines : List Line) (ends : Bool) :
    Delivers lines (start lines ends) [] 0 where
  answers := rfl
  whole := rfl
  closed := by simp [start]
  refused := by simp

/-- The step: no line is lost, repeated or overtaken. -/
theorem Delivers.exists_step {given : List Line} {refusals : Nat}
    (delivers : Delivers lines delivery given refusals) (does : delivery.Does moment next) :
    ∃ given refusals, Delivers lines next given refusals := by
  have isOver := fun refused => does.isOver (delivers.refused refused)
  rcases delivers with ⟨answers, whole, closed, refusedBefore⟩
  cases does with
  | nothing moment => exact ⟨given, refusals, answers, whole, closed, isOver⟩
  | @sends line rest unsentEq =>
      refine ⟨given, refusals, answers, ?_, ?_, isOver⟩
      · rw [← whole, unsentEq]
        simp
      · intro isClosed
        rw [(closed isClosed).1] at unsentEq
        cases unsentEq
  | closes noneUnsent ends =>
      exact ⟨given, refusals, answers, whole, fun _ => ⟨noneUnsent, ends⟩, isOver⟩
  | asks _ => exact ⟨given, refusals, answers, whole, closed, isOver⟩
  | isStopped checking raised =>
      refine ⟨given, refusals + 1, ?_, whole, closed, fun _ => .inr ⟨raised, by simp [answer]⟩⟩
      rw [answer, answers, List.append_assoc, List.replicate_succ']
  | goesOn _ _ => exact ⟨given, refusals, answers, whole, closed, isOver⟩
  | @receives line rest waiting queueEq =>
      have noRefusal : refusals = 0 := by
        apply Nat.eq_zero_of_not_pos
        intro refused
        exact (refusedBefore refused).not_receives waiting queueEq
      subst noRefusal
      refine ⟨given ++ [line], 0, ?_, ?_, closed, isOver⟩
      · rw [answer, answers]
        simp
      · rw [← whole, queueEq]
        simp [answer]
  | isEnded _ drained isClosed =>
      refine ⟨given, refusals + 1, ?_, whole, closed, fun _ => .inl ?_⟩
      · rw [answer, answers, List.append_assoc, List.replicate_succ']
      · exact ⟨(closed isClosed).1, drained, isClosed⟩
  | expires _ _ _ => exact ⟨given, refusals, answers, whole, closed, isOver⟩
  | raises => exact ⟨given, refusals, answers, whole, closed, isOver⟩

/-- The run: whatever the moments are, lines are delivered in their order. -/
theorem Delivers.exists_run {given : List Line} {refusals : Nat}
    (delivers : Delivers lines delivery given refusals) (moments : List Moment) :
    ∃ given refusals, Delivers lines (delivery.run moments) given refusals := by
  induction moments generalizing delivery given refusals with
  | nil => exact ⟨given, refusals, delivers⟩
  | cons moment rest ih =>
      rcases delivers.exists_step (delivery.does_step moment) with ⟨_, _, later⟩
      exact ih later

theorem Delivers.isPrefix {given : List Line} {refusals : Nat}
    (delivers : Delivers lines delivery given refusals) : given <+: lines := by
  rw [← delivers.whole, List.append_assoc]
  exact List.prefix_append ..

/-! ## What stays -/

theorem Does.ends_eq (does : delivery.Does moment next) : next.ends = delivery.ends := by
  cases does with
  | _ => rfl

theorem ends_run (delivery : Delivery) (moments : List Moment) :
    (delivery.run moments).ends = delivery.ends := by
  induction moments generalizing delivery with
  | nil => rfl
  | cons moment rest ih => exact (ih _).trans (delivery.does_step moment).ends_eq

/-! ## While nobody raises the flag -/

theorem Does.raised (does : delivery.Does moment next) (undisturbed : moment ≠ .raise) :
    next.raised = delivery.raised := by
  cases does with
  | raises => exact absurd rfl undisturbed
  | _ => rfl

theorem raised_run (delivery : Delivery) {moments : List Moment} (undisturbed : .raise ∉ moments) :
    (delivery.run moments).raised = delivery.raised := by
  induction moments generalizing delivery with
  | nil => rfl
  | cons moment rest ih =>
      rw [List.mem_cons, not_or] at undisturbed
      have here := (delivery.does_step moment).raised (Ne.symm undisturbed.1)
      exact (ih _ undisturbed.2).trans here

/-- With the flag down, an answer without a line means that the input has ended and all its
lines have been given. -/
theorem Delivers.all_given {given : List Line} {refusals : Nat}
    (delivers : Delivers lines delivery given refusals) (lowered : delivery.raised = false)
    (refused : 0 < refusals) : given = lines ∧ delivery.ends = true := by
  rcases delivers.refused refused with ⟨noneUnsent, drained, closed⟩ | ⟨raised, _⟩
  · constructor
    · rw [← delivers.whole, noneUnsent, drained]
      simp
    · exact (delivers.closed closed).2
  · rw [raised] at lowered
    cases lowered

end Tabula.Input.Delivery
