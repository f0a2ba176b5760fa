import Tabula.Input.Line

/-!
# Delivery of lines

A reader sends the lines of an input into a queue and closes the queue at the end of
the input. A consumer asks for one line after the other: it looks at a flag, gets no
line if the flag is raised, and otherwise waits for the queue. When it has waited for
a while in vain it looks at the flag again. Reader, consumer and whoever raises the
flag take their steps in any order; a run is the list of these moments.
-/

namespace Tabula.Input

/-- What the consumer is doing. -/
inductive Phase where
  /-- It does not want a line. -/
  | idle
  /-- It is about to look at the flag. -/
  | checking
  /-- It waits for the queue. -/
  | waiting
  deriving DecidableEq, Repr

/-- A delivery under way. -/
structure Delivery where
  /-- The lines that the reader has not sent yet. -/
  unsent : List Line
  /-- Whether the input ends after these lines. -/
  ends : Bool
  /-- The lines that have been sent but not received, in the order of sending. -/
  queue : List Line
  /-- Whether the reader has closed the queue. -/
  closed : Bool
  /-- Whether the flag is raised. -/
  raised : Bool
  phase : Phase
  /-- The answers that the consumer has got, in order. -/
  answers : List (Option Line)
  deriving DecidableEq, Repr

namespace Delivery

/-- A step of the reader, the consumer, or whoever raises the flag. -/
inductive Moment where
  | send
  | close
  /-- The consumer asks for a line. -/
  | ask
  /-- The consumer looks at the flag. -/
  | check
  /-- The queue answers the consumer. -/
  | receive
  /-- The consumer has waited in vain. -/
  | expire
  | raise
  deriving DecidableEq, Repr

/-- The delivery of lines before its first step. -/
def start (lines : List Line) (ends : Bool) : Delivery :=
  ⟨lines, ends, [], false, false, .idle, []⟩

/-- Gives the consumer its answer. -/
def answer (delivery : Delivery) (line : Option Line) : Delivery :=
  { delivery with phase := .idle, answers := delivery.answers ++ [line] }

/-- The reader sends the next line. -/
def send (delivery : Delivery) : Delivery :=
  match delivery.unsent with
  | [] => delivery
  | line :: rest => { delivery with unsent := rest, queue := delivery.queue ++ [line] }

/-- The reader closes the queue, which it does at the end of the input. -/
def close (delivery : Delivery) : Delivery :=
  if delivery.unsent.isEmpty && delivery.ends then { delivery with closed := true } else delivery

/-- The consumer asks for a line, unless it has asked already. -/
def ask (delivery : Delivery) : Delivery :=
  match delivery.phase with
  | .idle => { delivery with phase := .checking }
  | .checking | .waiting => delivery

/-- The consumer looks at the flag. A raised flag is answered by no line. -/
def check (delivery : Delivery) : Delivery :=
  match delivery.phase with
  | .checking =>
      if delivery.raised then delivery.answer none else { delivery with phase := .waiting }
  | .idle | .waiting => delivery

/-- The queue gives the waiting consumer its first line, and no line if it is closed
and empty. -/
def receive (delivery : Delivery) : Delivery :=
  match delivery.phase, delivery.queue with
  | .waiting, line :: rest => { delivery with queue := rest }.answer (some line)
  | .waiting, [] => if delivery.closed then delivery.answer none else delivery
  | _, _ => delivery

/-- The consumer stops waiting for an empty queue and turns to the flag. It does not wait
for a queue that is closed. -/
def expire (delivery : Delivery) : Delivery :=
  match delivery.phase, delivery.queue with
  | .waiting, [] => if delivery.closed then delivery else { delivery with phase := .checking }
  | _, _ => delivery

/-- The delivery after a moment. -/
def step (delivery : Delivery) : Moment → Delivery
  | .send => delivery.send
  | .close => delivery.close
  | .ask => delivery.ask
  | .check => delivery.check
  | .receive => delivery.receive
  | .expire => delivery.expire
  | .raise => { delivery with raised := true }

/-- The delivery after several moments. -/
def run (delivery : Delivery) (moments : List Moment) : Delivery :=
  moments.foldl step delivery

/-- The lines that the consumer has got. -/
def delivered (delivery : Delivery) : List Line :=
  delivery.answers.filterMap id

/-- The moments at which a consumer asks for a line and gets its answer at once. -/
def asking : List Moment :=
  [.ask, .check, .receive]

/-- The moments at which a consumer asks for several lines. -/
def askingFor (count : Nat) : List Moment :=
  (List.replicate count asking).flatten

/-- The moments of an input that is read to its end. -/
def toTheEnd (count : Nat) : List Moment :=
  List.replicate count .send ++ .close :: askingFor (count + 1)

/-- The moments of an input that stays open and in which the flag is raised while the
consumer waits for a line beyond the last. -/
def untilInterrupted (count : Nat) : List Moment :=
  List.replicate count .send ++ askingFor count ++ [.ask, .check, .raise, .expire, .check]

end Delivery

end Tabula.Input
