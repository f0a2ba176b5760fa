import Mathlib.Logic.ExistsUnique
import Tabula.Proofs.Csv.Reader

/-!
# Where records begin

A record begins where the reader stands between records and the next byte does not end a
line. Every record of a file begins at one place and at no other, and the records before it
are those of the bytes before that place. Its line is told by the line feeds before it,
which is how the quote check counts; there are as many of them as records before it if
every line is a record.
-/

namespace Tabula.Csv

namespace Reader

/-! ## Steps between and inside records -/

/-- The states of the reader outside records. -/
def IsBetween (state : State) : Prop :=
  state = .recordStart ∨ state = .afterReturn

instance (state : State) : Decidable (IsBetween state) :=
  inferInstanceAs (Decidable (_ ∨ _))

variable {separator byte : UInt8} {state : State} {bytes before after : List UInt8}

/-- Between records, the end of a line is passed over. -/
theorem step_terminator (separator : UInt8) (between : IsBetween state) (ends : isTerminator byte = true) :
    step separator state byte = (.recordStart, .skip) := by
  rcases between with rfl | rfl
  · simp [step, stepRecordStart, ends]
  · by_cases isFeed : byte = lineFeed <;> simp [step, stepRecordStart, ends, isFeed]

/-- Between records, any other byte begins one. -/
theorem step_begins (separator : UInt8) (between : IsBetween state) (begins : isTerminator byte = false) :
    ¬IsBetween (step separator state byte).1 ∧ (step separator state byte).2 ≠ .endRecord := by
  have notFeed : byte ≠ lineFeed := by
    rintro rfl
    cases begins
  have opened : ¬IsBetween (stepFieldStart separator byte).1 ∧
      (stepFieldStart separator byte).2 ≠ .endRecord := by
    simp only [stepFieldStart, begins]
    repeat' split
    all_goals simp_all [IsBetween]
  rcases between with rfl | rfl <;> simpa [step, stepRecordStart, begins, notFeed] using opened

theorem isBetween_terminate (byte : UInt8) : IsBetween (terminate byte).1 := by
  rw [terminate]
  split
  · exact .inr rfl
  · exact .inl rfl

/-- A record ends with the byte that leads out of it. -/
theorem step_inside (inside : ¬IsBetween state) :
    (step separator state byte).2 = .endRecord ↔ IsBetween (step separator state byte).1 := by
  have terminated := isBetween_terminate byte
  cases state with
  | recordStart => exact absurd (.inl rfl) inside
  | afterReturn => exact absurd (.inr rfl) inside
  | fieldStart =>
      simp only [step, stepFieldStart]
      repeat' split
      all_goals simp_all [IsBetween, terminate]
  | unquoted | quoted | quoteInQuoted =>
      simp only [step]
      repeat' split
      all_goals simp_all [IsBetween, terminate]

/-- A record that does not end with a line feed ends with a carriage return. -/
theorem step_afterReturn (inside : ¬IsBetween state) (notFeed : byte ≠ lineFeed)
    (ends : (step separator state byte).2 = .endRecord) :
    (step separator state byte).1 = .afterReturn := by
  have returned : isTerminator byte = true → (terminate byte).1 = .afterReturn := by
    intro isEnd
    have isReturn : byte = carriageReturn := by simpa [isTerminator, notFeed] using isEnd
    simp [terminate, isReturn]
  cases state with
  | recordStart => exact absurd (.inl rfl) inside
  | afterReturn => exact absurd (.inr rfl) inside
  | fieldStart =>
      simp only [step, stepFieldStart] at ends ⊢
      repeat' split at ends
      all_goals simp_all
  | unquoted | quoted | quoteInQuoted =>
      simp only [step] at ends ⊢
      repeat' split at ends
      all_goals simp_all

/-! ## Records of bytes in parts -/

variable (separator : UInt8) (progress : Progress) (state : State)

/-- The first byte ends a record or does not, and the records of the bytes behind it do not
depend on which. -/
theorem runFrom_cons (byte : UInt8) : ∃ later, ∀ rest,
    runFrom separator progress state (byte :: rest) =
      (if (step separator state byte).2 = .endRecord then [progress.record] else []) ++
        runFrom separator later (step separator state byte).1 rest := by
  cases stepped : step separator state byte with
  | mk next action =>
      refine ⟨if action = .endRecord then (progress.pass byte).startRecord
        else (progress.apply action byte).pass byte, ?_⟩
      intro rest
      rw [runFrom, stepped]
      cases action <;> rfl

/-- Behind bytes that end between records, reading goes on with a new record. -/
theorem runFrom_append (first : List UInt8) (between : IsBetween (stateAfter separator state first)) :
    ∃ later, ∀ second, runFrom separator progress state (first ++ second) =
      runFrom separator progress state first ++
        runFrom separator later (stateAfter separator state first) second := by
  induction first generalizing progress state with
  | nil =>
      refine ⟨progress, ?_⟩
      intro second
      have none : runFrom separator progress state [] = [] := by
        rcases between with isStart | isReturn
        · simp_all [stateAfter, runFrom]
        · simp_all [stateAfter, runFrom]
      rw [none]
      rfl
  | cons byte rest ih =>
      obtain ⟨middle, split⟩ := runFrom_cons separator progress state byte
      obtain ⟨later, same⟩ := ih middle (step separator state byte).1 between
      refine ⟨later, ?_⟩
      intro second
      rw [List.cons_append, split, split, same, List.append_assoc]
      rfl

/-- Inside a record there is one to come. -/
theorem runFrom_ne_nil (inside : ¬IsBetween state) (bytes : List UInt8) :
    runFrom separator progress state bytes ≠ [] := by
  induction bytes generalizing progress state with
  | nil =>
      have notBetween : (state = .recordStart || state = .afterReturn) = false := by
        simpa [IsBetween] using inside
      simp [runFrom, notBetween]
  | cons byte rest ih =>
      obtain ⟨later, split⟩ := runFrom_cons separator progress state byte
      rw [split]
      by_cases ends : (step separator state byte).2 = .endRecord
      · simp [ends]
      · rw [if_neg ends, List.nil_append]
        exact ih later _ (mt (step_inside inside).2 ends)

/-- A byte that begins a record is followed by the end of the record. -/
theorem exists_runFrom_eq_cons (between : IsBetween state) {first : UInt8}
    (begins : isTerminator first = false) (rest : List UInt8) :
    ∃ record later, runFrom separator progress state (first :: rest) = record :: later := by
  obtain ⟨inside, notEnd⟩ := step_begins separator between begins
  obtain ⟨middle, split⟩ := runFrom_cons separator progress state first
  rw [split, if_neg notEnd, List.nil_append]
  exact List.exists_cons_of_ne_nil (runFrom_ne_nil separator middle _ inside rest)

/-- Every record that has not begun yet begins somewhere. -/
theorem exists_beginning (bytes : List UInt8) (index : Nat)
    (bound : index < (runFrom separator progress state bytes).length)
    (notBegun : IsBetween state ∨ 0 < index) :
    ∃ before first after, bytes = before ++ first :: after ∧ isTerminator first = false ∧
      IsBetween (stateAfter separator state before) ∧
      (runFrom separator progress state before).length = index := by
  induction bytes generalizing progress state index with
  | nil =>
      exfalso
      by_cases between : (state = .recordStart || state = .afterReturn) = true
      · simp [runFrom, between] at bound
      · have isFirst : index = 0 := by
          simpa [runFrom, between] using bound
        rcases notBegun with isBetween | later
        · exact between (by simpa [IsBetween] using isBetween)
        · omega
  | cons byte rest ih =>
      obtain ⟨middle, split⟩ := runFrom_cons separator progress state byte
      -- what is found behind the byte is found in the whole
      have behind : ∀ later,
          later < (runFrom separator middle (step separator state byte).1 rest).length →
          (IsBetween (step separator state byte).1 ∨ 0 < later) →
          (if (step separator state byte).2 = .endRecord then [progress.record] else []).length +
            later = index →
            ∃ before first after, byte :: rest = before ++ first :: after ∧
              isTerminator first = false ∧ IsBetween (stateAfter separator state before) ∧
              (runFrom separator progress state before).length = index := by
        intro later laterBound laterNotBegun indexEq
        obtain ⟨before, first, after, rfl, begins, between, count⟩ :=
          ih middle _ later laterBound laterNotBegun
        refine ⟨byte :: before, first, after, rfl, begins, between, ?_⟩
        rw [split, List.length_append, count, indexEq]
      rw [split, List.length_append] at bound
      by_cases between : IsBetween state
      · cases begins : isTerminator byte with
        | true =>
            have stepped := step_terminator separator between begins
            simp only [stepped] at bound behind
            exact behind index (by simpa using bound) (.inl (.inl rfl)) (by simp)
        | false =>
            obtain ⟨_, notEnd⟩ := step_begins separator between begins
            rw [if_neg notEnd] at bound behind
            rcases Nat.eq_zero_or_pos index with rfl | positive
            · refine ⟨[], byte, rest, rfl, begins, between, ?_⟩
              rcases between with rfl | rfl <;> rfl
            · exact behind index (by simpa using bound) (.inr positive) (by simp)
      · have positive := notBegun.resolve_left between
        by_cases ends : (step separator state byte).2 = .endRecord
        · rw [if_pos ends] at bound behind
          exact behind (index - 1) (by simp at bound; omega)
            (.inl ((step_inside between).1 ends)) (by simp; omega)
        · rw [if_neg ends] at bound behind
          exact behind index (by simpa using bound) (.inr positive) (by simp)

/-! ## Lines -/

/-- Whether every line of bytes is a record: a line feed ends a record, or follows the
carriage return that ends one, and no carriage return ends a record by itself. -/
def IsLineByLine (separator : UInt8) : State → List UInt8 → Prop
  | _, [] => True
  | state, byte :: rest =>
      (byte = lineFeed → state ≠ .recordStart ∧ state ≠ .quoted) ∧
        (state = .afterReturn → byte = lineFeed) ∧
        IsLineByLine separator (step separator state byte).1 rest

instance decidableIsLineByLine (separator : UInt8) :
    (state : State) → (bytes : List UInt8) → Decidable (IsLineByLine separator state bytes)
  | _, [] => inferInstanceAs (Decidable True)
  | state, byte :: rest =>
      have := decidableIsLineByLine separator (step separator state byte).1 rest
      inferInstanceAs (Decidable (_ ∧ _ ∧ _))

theorem IsLineByLine.append {separator : UInt8} {state : State} {first second : List UInt8}
    (lines : IsLineByLine separator state (first ++ second)) :
    IsLineByLine separator state first ∧
      IsLineByLine separator (stateAfter separator state first) second := by
  induction first generalizing state with
  | nil => exact ⟨trivial, lines⟩
  | cons byte rest ih =>
      obtain ⟨feed, returned, later⟩ := lines
      obtain ⟨front, back⟩ := ih later
      exact ⟨⟨feed, returned, front⟩, back⟩

/-- Line by line there are as many records as line feeds, but for a record that has not come
to its line feed yet. -/
theorem length_runFrom_of_isLineByLine {separator : UInt8} (notFeed : separator ≠ lineFeed)
    (progress : Progress) {state : State} {bytes : List UInt8}
    (lines : IsLineByLine separator state bytes) :
    (runFrom separator progress state bytes).length + (if state = .afterReturn then 1 else 0) =
      bytes.count lineFeed +
        (if stateAfter separator state bytes = .recordStart then 0 else 1) := by
  induction bytes generalizing progress state with
  | nil => cases state <;> rfl
  | cons byte rest ih =>
      obtain ⟨feed, returned, later⟩ := lines
      obtain ⟨middle, split⟩ := runFrom_cons separator progress state byte
      have behind := ih middle later
      have goesOn : stateAfter separator state (byte :: rest) =
          stateAfter separator (step separator state byte).1 rest := rfl
      rw [split, goesOn, List.length_append, List.count_cons]
      by_cases between : IsBetween state
      · rcases between with rfl | rfl
        · have notLineFeed : byte ≠ lineFeed := fun isFeed => (feed isFeed).1 rfl
          cases begins : isTerminator byte with
          | true =>
              have stepped := step_terminator separator (.inl rfl) begins
              simp_all
          | false =>
              obtain ⟨inside, notEnd⟩ := step_begins separator (.inl rfl) begins
              have notReturn : (step separator .recordStart byte).1 ≠ .afterReturn :=
                fun isReturn => inside (.inr isReturn)
              rw [if_neg notReturn] at behind
              simpa [notEnd, notLineFeed] using behind
        · obtain rfl := returned rfl
          have stepped : step separator .afterReturn lineFeed = (.recordStart, .skip) := rfl
          simp_all
          omega
      · have notReturn : state ≠ .afterReturn := fun isReturn => between (.inr isReturn)
        rw [if_neg notReturn]
        by_cases isFeed : byte = lineFeed
        · subst isFeed
          have next := step_lineFeed notFeed.symm (feed rfl).2
          have ends := (step_inside between).2 (.inl next)
          simp_all
          omega
        · by_cases ends : (step separator state byte).2 = .endRecord
          · have next := step_afterReturn between isFeed ends
            simp_all
            omega
          · have inside := mt (step_inside between).2 ends
            have goesInside : (step separator state byte).1 ≠ .afterReturn :=
              fun isReturn => inside (.inr isReturn)
            rw [if_neg goesInside] at behind
            simpa [ends, isFeed] using behind

end Reader

/-! ## Records of a file -/

/-- A record of the file begins behind these bytes. -/
structure BeginsBehind (separator : UInt8) (bytes before : List UInt8) : Prop where
  begins : ∃ first after, bytes = before ++ first :: after ∧ Reader.isTerminator first = false
  pastMark : (withoutMark bytes).2 ≤ before.length
  between : Reader.IsBetween (Reader.stateAt separator bytes before)

/-- The line behind bytes, where lines are ended by line feeds and counted from one. -/
def lineBehind (before : List UInt8) : Nat :=
  before.count lineFeed + 1

variable {separator : UInt8} {bytes before after : List UInt8}

theorem records_def (separator : UInt8) (bytes : List UInt8) :
    records separator bytes =
      Reader.runFrom separator ⟨[], [], 1, 0, 1, (withoutMark bytes).2⟩ .recordStart
        (withoutMark bytes).1 :=
  rfl

/-- Reading a part of a file is reading the bytes of the part behind the mark. -/
theorem records_eq (bytesEq : bytes = before ++ after)
    (pastMark : (withoutMark bytes).2 ≤ before.length) :
    records separator before =
      Reader.runFrom separator ⟨[], [], 1, 0, 1, (withoutMark bytes).2⟩ .recordStart
        (before.drop (withoutMark bytes).2) := by
  rw [records, withoutMark_append bytesEq pastMark]

/-- The records before the place where a record begins are those of the bytes before it. -/
theorem BeginsBehind.exists_records_eq (beginning : BeginsBehind separator bytes before) :
    ∃ record later, records separator bytes = records separator before ++ record :: later := by
  obtain ⟨⟨first, after, bytesEq, begins⟩, pastMark, between⟩ := beginning
  obtain ⟨progress, split⟩ := Reader.runFrom_append separator
    ⟨[], [], 1, 0, 1, (withoutMark bytes).2⟩ .recordStart _ between
  obtain ⟨record, later, recordEq⟩ :=
    Reader.exists_runFrom_eq_cons separator progress _ between begins after
  refine ⟨record, later, ?_⟩
  rw [records_eq bytesEq pastMark, records_def, withoutMark_fst_eq bytesEq pastMark, split,
    ← recordEq]
  rfl

/-- Every record of a file begins somewhere. -/
theorem exists_beginsBehind {index : Nat} (bound : index < (records separator bytes).length) :
    ∃ before, BeginsBehind separator bytes before ∧ (records separator before).length = index := by
  rw [records_def] at bound
  obtain ⟨before, first, after, contentEq, begins, between, count⟩ :=
    Reader.exists_beginning separator _ .recordStart _ index bound (.inl (.inl rfl))
  obtain ⟨whole, markBound⟩ := take_append_withoutMark bytes
  have markLength : (bytes.take (withoutMark bytes).2).length = (withoutMark bytes).2 :=
    List.length_take_of_le markBound
  have bytesEq : bytes = (bytes.take (withoutMark bytes).2 ++ before) ++ first :: after := by
    rw [List.append_assoc, ← contentEq, whole]
  have dropped : (bytes.take (withoutMark bytes).2 ++ before).drop (withoutMark bytes).2 =
      before :=
    List.drop_left' markLength
  have pastMark : (withoutMark bytes).2 ≤ (bytes.take (withoutMark bytes).2 ++ before).length := by
    rw [List.length_append, markLength]
    omega
  refine ⟨bytes.take (withoutMark bytes).2 ++ before, ⟨⟨first, after, bytesEq, begins⟩, pastMark,
    ?_⟩, ?_⟩
  · rw [Reader.stateAt, dropped]
    exact between
  · rw [records_eq bytesEq pastMark, dropped]
    exact count

/-- Of two places where records begin, the one before has fewer records before it. -/
theorem BeginsBehind.eq_of_append {middle : List UInt8}
    (firstBegins : BeginsBehind separator bytes before)
    (secondBegins : BeginsBehind separator bytes (before ++ middle))
    (sameCount : (records separator before).length = (records separator (before ++ middle)).length) :
    middle = [] := by
  obtain ⟨⟨first, after, bytesEq, begins⟩, pastMark, between⟩ := firstBegins
  obtain ⟨⟨second, later, splitEq, _⟩, secondPastMark, _⟩ := secondBegins
  cases middle with
  | nil => rfl
  | cons byte rest =>
      have skippedEq := congrArg Prod.snd (withoutMark_append splitEq secondPastMark)
      have firstEq : byte = first := by
        rw [splitEq, List.append_assoc] at bytesEq
        exact (List.cons.inj (List.append_cancel_left bytesEq)).1
      have inPart : BeginsBehind separator (before ++ byte :: rest) before := by
        refine ⟨⟨byte, rest, rfl, firstEq ▸ begins⟩, ?_, ?_⟩
        · rw [skippedEq]
          exact pastMark
        · rw [Reader.stateAt, skippedEq]
          exact between
      obtain ⟨record, others, recordsEq⟩ := inPart.exists_records_eq
      rw [recordsEq, List.length_append, List.length_cons] at sameCount
      omega

/-- A record begins at one place only. -/
theorem BeginsBehind.unique {first second : List UInt8}
    (firstBegins : BeginsBehind separator bytes first)
    (secondBegins : BeginsBehind separator bytes second)
    (sameCount : (records separator first).length = (records separator second).length) :
    first = second := by
  obtain ⟨firstByte, firstRest, firstEq, _⟩ := firstBegins.begins
  obtain ⟨secondByte, secondRest, secondEq, _⟩ := secondBegins.begins
  have firstIsBeginning : first <+: bytes := ⟨_, firstEq.symm⟩
  have secondIsBeginning : second <+: bytes := ⟨_, secondEq.symm⟩
  rcases List.prefix_or_prefix_of_prefix firstIsBeginning secondIsBeginning with
    ⟨middle, rfl⟩ | ⟨middle, rfl⟩
  · rw [firstBegins.eq_of_append secondBegins sameCount, List.append_nil]
  · rw [secondBegins.eq_of_append firstBegins sameCount.symm, List.append_nil]

/-- There are as many places where records begin as records. -/
theorem lt_length_records_iff {index : Nat} :
    index < (records separator bytes).length ↔
      ∃! before, BeginsBehind separator bytes before ∧ (records separator before).length = index := by
  constructor
  · intro bound
    obtain ⟨before, beginning, count⟩ := exists_beginsBehind bound
    refine ⟨before, ⟨beginning, count⟩, ?_⟩
    rintro other ⟨otherBeginning, otherCount⟩
    exact otherBeginning.unique beginning (otherCount.trans count.symm)
  · rintro ⟨before, ⟨beginning, rfl⟩, _⟩
    obtain ⟨record, later, recordsEq⟩ := beginning.exists_records_eq
    rw [recordsEq, List.length_append, List.length_cons]
    omega

/-- Line by line, a record is on the line of its number, counted from one. -/
theorem BeginsBehind.lineBehind_eq (beginning : BeginsBehind separator bytes before)
    (notFeed : separator ≠ lineFeed)
    (lines : Reader.IsLineByLine separator .recordStart (withoutMark bytes).1) :
    lineBehind before = (records separator before).length + 1 := by
  obtain ⟨⟨first, after, bytesEq, begins⟩, pastMark, between⟩ := beginning
  rw [withoutMark_fst_eq bytesEq pastMark] at lines
  obtain ⟨frontLines, backLines⟩ := lines.append
  have counted := Reader.length_runFrom_of_isLineByLine notFeed
    ⟨[], [], 1, 0, 1, (withoutMark bytes).2⟩ frontLines
  have isStart : Reader.stateAfter separator .recordStart (before.drop (withoutMark bytes).2) =
      .recordStart := by
    rcases between with isStart | isReturn
    · exact isStart
    · have isFeed := backLines.2.1 isReturn
      rw [isFeed] at begins
      cases begins
  have feeds := count_withoutMark before
  rw [withoutMark_append bytesEq pastMark] at feeds
  rw [lineBehind, ← feeds, records_eq bytesEq pastMark]
  simpa [isStart] using counted.symm

end Tabula.Csv
