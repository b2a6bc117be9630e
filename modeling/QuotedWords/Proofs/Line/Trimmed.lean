import QuotedWords.Proofs.Line.Cut
import QuotedWords.Proofs.Line.Outcome
import QuotedWords.Proofs.Text.Places

/-!
# Lines with and without their blanks

A line may be split without the blanks at both of its ends, without those at its
end alone, or as it is.  Blanks in front of the first word do nothing but move
positions, and blanks after the last one do nothing at all, so the ways agree
where they have to.
-/

namespace QuotedWords

open Grammar

/-!
# Blanks in front of a text
-/

namespace Text

/-- Trimmed at its end, a line that is not blank keeps the blanks at its start. -/
theorem trimEnd_eq_append_trim {line : Text}
    (solid : trim line ≠ []) :
    trimEnd line = line.takeWhile isBlank ++ trim line := by
  have parts : line.takeWhile isBlank ++ trimStart line = line :=
    List.takeWhile_append_dropWhile
  conv => lhs; rw [← parts]
  exact trimEnd_append_of_solid _ solid

theorem trimEnd_eq_nil_of_trim {line : Text}
    (empty : trim line = []) :
    trimEnd line = [] := by
  have parts : line.takeWhile isBlank ++ trimStart line = line :=
    List.takeWhile_append_dropWhile
  have inner : dropEndWhile isBlank (trimStart line) = [] := empty
  rw [← parts, trimEnd, dropEndWhile_append, if_pos inner]
  exact dropEndWhile_eq_nil fun _ member => passes_of_mem_takeWhile member

end Text

theorem Grammar.Line.blanks_append {dialect : Dialect} {blanks text : Text}
    {words : List Text}
    (all : Text.AllBlank blanks)
    (line : Line dialect text words) :
    Line dialect (blanks ++ text) words := by
  induction blanks with
  | nil => exact line
  | cons c rest ih =>
      rcases List.forall_mem_cons.mp all with ⟨blank, others⟩
      exact (ih others).cons_blank blank

namespace Dialect

variable {dialect : Dialect} {blanks text : Text}

/-- Blanks in front of a text move its failure past them. -/
theorem exists_words_blanks_append {failure : Failure}
    (all : Text.AllBlank blanks)
    (fails : dialect.words text = .error failure) :
    ∃ further, dialect.words (blanks ++ text) = .error further ∧
      failure.MovedPast blanks further := by
  have beginning : Beginning dialect ([] ++ blanks) [] none (.within .bare) :=
    Beginning.nil.append_blanks all
  rcases exists_words_append_of_beginning beginning fails with ⟨further, continues, resumes⟩
  exact ⟨further, continues, resumes.movedPast⟩

end Dialect

/-- The failure is the same one behind this text. -/
structure Failure.StandsBehind (before : Text) (failure further : Failure) : Prop where
  fault_eq : further.fault = failure.fault
  offset_eq : further.position.offset = failure.position.offset + before.length
  /-- Unless a newline stands before it, the line is the same. -/
  line_eq : '\n' ∉ before → further.position.line = failure.position.line
  /-- Columns are moved on the first line only. -/
  column_eq : '\n' ∉ before → further.position.column =
    if failure.position.line = 1 then failure.position.column + before.length
    else failure.position.column

theorem Failure.MovedPast.standsBehind {before : Text} {failure further : Failure}
    (moved : failure.MovedPast before further) :
    Failure.StandsBehind before failure further := by
  constructor
  · exact moved.fault_eq
  · exact moved.offset_eq
  · intro free
    rw [moved.line_eq, List.count_eq_zero.mpr free]
    exact Int.add_zero _
  · intro free
    rw [moved.column_eq, Text.lastLine_of_not_mem free]

/-!
# Outcomes that concur
-/

/-- Two outcomes concur: they are the same answer, or errors in this relation. -/
inductive Concur {ε δ α : Type} (related : ε → δ → Prop) : Except ε α → Except δ α → Prop where
  | answer (answer : α) : Concur related (.ok answer) (.ok answer)
  | error {one : ε} {other : δ}
      (same : related one other) :
      Concur related (.error one) (.error other)

theorem Concur.answers_or_errors {ε δ α : Type} {related : ε → δ → Prop}
    {outcome : Except ε α} {outcome' : Except δ α}
    (alike : Concur related outcome outcome') :
    (∃ answer, outcome = .ok answer ∧ outcome' = .ok answer) ∨
      ∃ one other, outcome = .error one ∧ outcome' = .error other ∧ related one other := by
  cases alike with
  | answer answer => exact Or.inl ⟨answer, rfl, rfl⟩
  | error same => exact Or.inr ⟨_, _, rfl, rfl, same⟩

/--
The failures complain about the same, and so with the same message, at the same
position; their sources may differ.
-/
structure Failure.Alike (failure other : Failure) : Prop where
  fault_eq : other.fault = failure.fault
  position_eq : other.position = failure.position

/-- What comes of finishing a splitter after it has been fed, unless the feeding was refused. -/
def Splitter.finishedAfter (fed : Splitter × Option Refusal) : Except Refusal (List Text) :=
  match fed with
  | (splitter, none) => splitter.finish.2
  | (_, some refusal) => .error refusal

theorem Splitter.finishedAfter_feedText (dialect : Dialect) (text : Text) :
    finishedAfter (fresh.feedText dialect text) = (dialect.words text).mapError .failed := by
  rw [feedText_eq_read rfl, Dialect.words_eq_wordsOf]
  cases reads : fresh.read dialect text with
  | mk last failure =>
      cases failure with
      | some failure =>
          rw [wordsOf_of_failed reads]
          rfl
      | none =>
          rw [wordsOf_of_read reads]
          exact congrArg Prod.snd (finish_eq_conclude (closed_eq_false_of_read rfl reads))

namespace Dialect

variable {dialect : Dialect}

/-- Blanks at the start of a line move its failure, and those at its end do nothing. -/
theorem concur_split_splitInPlace (dialect : Dialect) (line : Text) :
    Concur (Failure.StandsBehind (line.takeWhile Text.isBlank))
      (dialect.split line) (dialect.splitInPlace line) := by
  by_cases empty : Text.trim line = []
  · rw [split, splitInPlace, Text.trimEnd_eq_nil_of_trim empty, empty]
    exact .answer []
  · have all : Text.AllBlank (line.takeWhile Text.isBlank) :=
      fun _ member => passes_of_mem_takeWhile member
    rw [split, splitInPlace, Text.trimEnd_eq_append_trim empty]
    cases found : dialect.words (Text.trim line) with
    | ok words =>
        have whole := ((dialect.words_eq_ok_iff _ _).mp found).blanks_append all
        rw [(dialect.words_eq_ok_iff _ _).mpr whole]
        exact .answer words
    | error failure =>
        rcases exists_words_blanks_append all found with ⟨further, fails, moved⟩
        have behind := moved.standsBehind
        rw [fails]
        exact .error ⟨behind.fault_eq, behind.offset_eq, behind.line_eq, behind.column_eq⟩

/-- What a trimmed line stands for, the line stands for. -/
theorem words_of_split {line : Text} {words : List Text}
    (splits : dialect.split line = .ok words) :
    dialect.words line = .ok words := by
  have alike := dialect.concur_split_splitInPlace line
  rw [splits] at alike
  cases found : dialect.words (Text.trimEnd line) with
  | error failure =>
      rw [splitInPlace, found] at alike
      cases alike
  | ok others =>
      rw [splitInPlace, found] at alike
      cases alike
      rcases Text.exists_trimEnd_append line with ⟨dropped, parts, all⟩
      have whole := ((dialect.words_eq_ok_iff _ _).mp found).append_blanks all
      rw [← parts] at whole
      exact (dialect.words_eq_ok_iff _ _).mpr whole

theorem concur_split_feedLine (dialect : Dialect) (line : Text) :
    Concur (fun failure refusal => ∃ other, refusal = .failed other ∧ failure.Alike other)
      (dialect.split line)
      (Splitter.finishedAfter (Splitter.fresh.feedLine dialect line)) := by
  rw [split, Splitter.feedLine, Splitter.finishedAfter_feedText]
  cases dialect.words (Text.trim line) with
  | ok words => exact .answer words
  | error failure => exact .error ⟨failure, rfl, rfl, rfl⟩

/--
It does not matter how a line is split.  Splitting it with the dialect given aside
is splitting it by the dialect; a fresh splitter that is fed the line, trimmed, and
finished answers with the same words, or fails alike.  Splitting it in its place
does so behind the blanks in front of the line.  And if the line can be split, then
it can be fed as it is.
-/
theorem split_agrees_however_trimmed (dialect : Dialect) (line : Text) :
    QuotedWords.split line (some dialect) = dialect.split line ∧
    Concur (fun failure refusal => ∃ other, refusal = .failed other ∧ failure.Alike other)
      (dialect.split line)
      (Splitter.finishedAfter (Splitter.fresh.feedLine dialect line)) ∧
    Concur (Failure.StandsBehind (line.takeWhile Text.isBlank))
      (dialect.split line) (dialect.splitInPlace line) ∧
    ∀ words, dialect.split line = .ok words →
      Splitter.finishedAfter (Splitter.fresh.feedText dialect line) = .ok words := by
  refine ⟨rfl, dialect.concur_split_feedLine line, dialect.concur_split_splitInPlace line, ?_⟩
  intro words splits
  rw [Splitter.finishedAfter_feedText, words_of_split splits]
  rfl

/-- Blanks around a line, of which those at its start hold a newline. -/
theorem line_with_newline_in_front_agrees :
    let line := "\u2003\n a 'b c' \t".toList
    Dialect.shell.split line = .ok ["a".toList, "b c".toList] ∧
      Splitter.finishedAfter (Splitter.fresh.feedText Dialect.shell line) =
        .ok ["a".toList, "b c".toList] := by
  intro line
  have splits : Dialect.shell.split line = .ok ["a".toList, "b c".toList] := by decide
  exact ⟨splits, (split_agrees_however_trimmed Dialect.shell line).2.2.2 _ splits⟩

end Dialect
end QuotedWords
