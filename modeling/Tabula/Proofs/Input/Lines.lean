import Tabula.Input.Line
import Tabula.Proofs.Text.Utf8

/-!
# The lines of bytes

Bytes come in lines that end at line feeds. A line shows what stands before its line feed
and before one carriage return there, and the bytes behind the last line feed are a line
as they are. There is one way to cut bytes like this. What is cut off at a line feed does
not depend on the bytes behind it.
-/

namespace Tabula.Input.Line

open Text

/-! ## One line -/

/-- Whether a line stands for its content: the text that the content encodes, or the error
that it encodes none. -/
def Shows (line : Line) (content : List UInt8) : Prop :=
  match line with
  | .text words => Utf8.encode words = content
  | .unreadable => ∀ words, Utf8.encode words ≠ content

theorem shows_iff {line : Line} {content : List UInt8} :
    line.Shows content ↔ line = ofBytes content := by
  unfold ofBytes
  cases decoded : Utf8.decode? content with
  | none =>
      cases line with
      | text words => simp [Shows, ← Utf8.decode?_eq_some_iff, decoded]
      | unreadable => simp [Shows, ← Utf8.decode?_eq_some_iff, decoded]
  | some known =>
      cases line with
      | text words =>
          rw [Shows, ← Utf8.decode?_eq_some_iff, decoded, Option.some.injEq, text.injEq]
          exact eq_comm
      | unreadable => simp [Shows, ← Utf8.decode?_eq_some_iff, decoded]

/-! ## All lines -/

/-- Whether bytes are cut into lines. -/
inductive IsCutInto : List UInt8 → List Line → Prop
  | nothing : IsCutInto [] []
  /-- The last line, without a line feed. -/
  | unfinished {content : List UInt8} {line : Line} (notEmpty : content ≠ [])
      (noFeed : feed ∉ content) (shown : line.Shows content) : IsCutInto content [line]
  /-- A line before its line feed. -/
  | finished {content rest : List UInt8} {line : Line} {lines : List Line}
      (noFeed : feed ∉ content) (noReturn : content.getLast? ≠ some carriageReturn)
      (shown : line.Shows content) (later : IsCutInto rest lines) :
      IsCutInto (content ++ feed :: rest) (line :: lines)
  /-- A line before a carriage return and its line feed. -/
  | returned {content rest : List UInt8} {line : Line} {lines : List Line}
      (noFeed : feed ∉ content) (shown : line.Shows content) (later : IsCutInto rest lines) :
      IsCutInto (content ++ carriageReturn :: feed :: rest) (line :: lines)

theorem cutFrom_unfinished {content : List UInt8} (noFeed : feed ∉ content)
    (line : List UInt8) :
    cutFrom line content =
      if (content.reverse ++ line).isEmpty then [] else [(content.reverse ++ line).reverse] := by
  induction content generalizing line with
  | nil => rfl
  | cons byte rest ih =>
      have different : byte ≠ feed := fun same => noFeed (same ▸ List.mem_cons_self)
      rw [cutFrom, if_neg different, ih fun later => noFeed (List.mem_cons_of_mem byte later)]
      simp

theorem cutFrom_finished {content : List UInt8} (noFeed : feed ∉ content)
    (line rest : List UInt8) :
    cutFrom line (content ++ feed :: rest) =
      (dropReturn (content.reverse ++ line)).reverse :: cutFrom [] rest := by
  induction content generalizing line with
  | nil => simp [cutFrom]
  | cons byte content ih =>
      have different : byte ≠ feed := fun same => noFeed (same ▸ List.mem_cons_self)
      rw [List.cons_append, cutFrom, if_neg different,
        ih fun later => noFeed (List.mem_cons_of_mem byte later)]
      simp

theorem all_unfinished {content : List UInt8} (noFeed : feed ∉ content)
    (notEmpty : content ≠ []) : all content = [ofBytes content] := by
  rw [all, cutFrom_unfinished noFeed]
  simp [notEmpty]

theorem all_finished {content : List UInt8} (noFeed : feed ∉ content)
    (noReturn : content.getLast? ≠ some carriageReturn) (rest : List UInt8) :
    all (content ++ feed :: rest) = ofBytes content :: all rest := by
  have kept : dropReturn content.reverse = content.reverse := by
    rw [List.getLast?_eq_head?_reverse] at noReturn
    cases reversed : content.reverse with
    | nil => rfl
    | cons last before =>
        rw [reversed] at noReturn
        exact if_neg fun isReturn => noReturn (congrArg some isReturn)
  rw [all, cutFrom_finished noFeed, List.append_nil, kept, List.reverse_reverse]
  rfl

theorem all_returned {content : List UInt8} (noFeed : feed ∉ content) (rest : List UInt8) :
    all (content ++ carriageReturn :: feed :: rest) = ofBytes content :: all rest := by
  have noFeed' : feed ∉ content ++ [carriageReturn] := by
    have other : feed ≠ carriageReturn := by decide
    simp [noFeed, other]
  have split : content ++ carriageReturn :: feed :: rest =
      content ++ [carriageReturn] ++ feed :: rest := by simp
  rw [split, all, cutFrom_finished noFeed']
  simp [dropReturn, all]

/-- The lines of bytes are those into which they are cut. -/
theorem isCutInto_iff {bytes : List UInt8} {lines : List Line} :
    IsCutInto bytes lines ↔ lines = all bytes := by
  constructor
  · intro cut
    induction cut with
    | nothing => rfl
    | unfinished notEmpty noFeed shown =>
        rw [all_unfinished noFeed notEmpty, shows_iff.1 shown]
    | finished noFeed noReturn shown _ ih =>
        rw [all_finished noFeed noReturn, shows_iff.1 shown, ih]
    | returned noFeed shown _ ih =>
        rw [all_returned noFeed, shows_iff.1 shown, ih]
  · rintro rfl
    induction length : bytes.length using Nat.strongRecOn generalizing bytes with
    | ind length ih =>
        by_cases hasFeed : feed ∈ bytes
        · rcases List.eq_append_cons_of_mem hasFeed with ⟨content, rest, rfl, noFeed⟩
          have later : IsCutInto rest (all rest) := by
            apply ih rest.length _ rfl
            rw [← length, List.length_append, List.length_cons]
            omega
          by_cases isReturn : content.getLast? = some carriageReturn
          · rcases List.getLast?_eq_some_iff.1 isReturn with ⟨before, rfl⟩
            rw [List.append_assoc, List.singleton_append]
            have noFeed' : feed ∉ before := fun member => noFeed (List.mem_append_left _ member)
            rw [all_returned noFeed']
            exact .returned noFeed' (shows_iff.2 rfl) later
          · rw [all_finished noFeed isReturn]
            exact .finished noFeed isReturn (shows_iff.2 rfl) later
        · by_cases empty : bytes = []
          · subst empty
            exact .nothing
          · rw [all_unfinished hasFeed empty]
            exact .unfinished empty hasFeed (shows_iff.2 rfl)

/-! ## Lines that are finished -/

theorem all_append (before rest : List UInt8) :
    all (before ++ feed :: rest) = all (before ++ [feed]) ++ all rest := by
  have cut : ∀ line, cutFrom line (before ++ feed :: rest) =
      cutFrom line (before ++ [feed]) ++ cutFrom [] rest := by
    induction before with
    | nil => simp [cutFrom]
    | cons byte before ih =>
        intro line
        rw [List.cons_append, List.cons_append, cutFrom, cutFrom]
        split
        · rw [ih, List.cons_append]
        · exact ih _
  rw [all, cut, List.map_append]
  rfl

/-- Bytes go on behind their last line feed. -/
theorem exists_finishedPart (bytes : List UInt8) :
    ∃ rest, bytes = finishedPart bytes ++ rest ∧
      (finishedPart bytes = [] ∨ ∃ before, finishedPart bytes = before ++ [feed]) := by
  have parts := bytes.reverse.takeWhile_append_dropWhile (p := fun byte => byte ≠ feed)
  refine ⟨(bytes.reverse.takeWhile fun byte => byte ≠ feed).reverse, ?_, ?_⟩
  · rw [finishedPart, ← List.reverse_append, parts, List.reverse_reverse]
  · have stops := List.head?_dropWhile_not (fun byte => decide (byte ≠ feed)) bytes.reverse
    unfold finishedPart
    cases left : bytes.reverse.dropWhile fun byte => byte ≠ feed with
    | nil => exact .inl rfl
    | cons last before =>
        rw [left] at stops
        obtain rfl : last = feed := by simpa using stops
        exact .inr ⟨before.reverse, List.reverse_cons⟩

/-- Whatever comes behind bytes, their finished lines stay. -/
theorem finished_isPrefix (bytes more : List UInt8) : finished bytes <+: all (bytes ++ more) := by
  rcases exists_finishedPart bytes with ⟨rest, split, isEmpty | ⟨before, ends⟩⟩
  · rw [finished, isEmpty]
    exact List.nil_prefix
  · refine ⟨all (rest ++ more), ?_⟩
    have whole : bytes ++ more = before ++ feed :: (rest ++ more) := by
      rw [split, ends]
      simp
    rw [whole, all_append, finished, ends]

end Tabula.Input.Line
