import QuotedWords.Diagnostics
import QuotedWords.Proofs.Document.Unjoined
import QuotedWords.Proofs.Text.FileLines

/-!
# Diagnostics and the document of a file

The diagnostics of a text speak of its rows, and its document, when it is read
as a file, of its lines.  A line whose rows can all be split can be split as a
whole, since the breaks between them separate words.  The other way round it has
to be one row: a quotation may go on over a break, and every break counts a row.
-/

namespace QuotedWords

open Grammar

namespace Dialect

variable {dialect : Dialect} {text : Text} {failure : Failure}

/-!
# The first diagnostic
-/

theorem diagnoseRow_eq_none_iff {row : Text} (index : Nat) :
    dialect.diagnoseRow index row = none ↔ dialect.Splits row := by
  rw [diagnoseRow, Splits]
  cases dialect.splitInPlace row with
  | ok words => exact ⟨fun _ => ⟨words, rfl⟩, fun _ => rfl⟩
  | error failure =>
      constructor
      · nofun
      · rintro ⟨words, ⟨⟩⟩

/-- The diagnostics of rows, of which the first has the given number. -/
def diagnoseFrom (dialect : Dialect) (start : Nat) (rows : List Text) : List Diagnostic :=
  (rows.zipIdx start).filterMap fun entry => dialect.diagnoseRow entry.2 entry.1

theorem diagnoseFrom_cons (dialect : Dialect) (start : Nat) (row : Text) (rest : List Text) :
    dialect.diagnoseFrom start (row :: rest) =
      (dialect.diagnoseRow start row).toList ++ dialect.diagnoseFrom (start + 1) rest := by
  rw [diagnoseFrom, List.zipIdx_cons, List.filterMap_cons]
  cases dialect.diagnoseRow start row <;> rfl

theorem diagnoseFrom_append (dialect : Dialect) (start : Nat) (before after : List Text) :
    dialect.diagnoseFrom start (before ++ after) =
      dialect.diagnoseFrom start before ++
        dialect.diagnoseFrom (start + before.length) after := by
  rw [diagnoseFrom, List.zipIdx_append, List.filterMap_append]
  rfl

theorem diagnoseFrom_eq_nil_iff {start : Nat} {rows : List Text} :
    dialect.diagnoseFrom start rows = [] ↔ ∀ row ∈ rows, dialect.Splits row := by
  induction rows generalizing start with
  | nil => exact ⟨fun _ => List.forall_mem_nil _, fun _ => rfl⟩
  | cons row rest ih =>
      rw [diagnoseFrom_cons, List.append_eq_nil_iff, Option.toList_eq_nil_iff, ih,
        diagnoseRow_eq_none_iff, List.forall_mem_cons]

theorem diagnose_eq_nil_iff :
    dialect.diagnose text = [] ↔ ∀ row ∈ Text.rows text, dialect.Splits row :=
  diagnoseFrom_eq_nil_iff

/-- The first diagnostic is that of the first row that cannot be split. -/
theorem exists_rest_of_diagnose {before after : List Text} {row : Text}
    (cuts : Text.rows text = before ++ row :: after)
    (fine : ∀ earlier ∈ before, dialect.Splits earlier)
    (fails : dialect.splitInPlace row = .error failure) :
    ∃ rest, dialect.diagnose text = .ofFailure before.length failure :: rest := by
  have first : dialect.diagnoseRow before.length row =
      some (.ofFailure before.length failure) := by
    rw [diagnoseRow, fails]
  change ∃ rest, dialect.diagnoseFrom 0 (Text.rows text) = _
  rw [cuts, diagnoseFrom_append, diagnoseFrom_eq_nil_iff.mpr fine, List.nil_append,
    Nat.zero_add, diagnoseFrom_cons, first]
  exact ⟨_, rfl⟩

/-!
# Rows that can be split
-/

/-- A break between two rows separates words, so what can be split there can be joined there. -/
theorem Splits.append_row {row rest : Text} {c : Char}
    (first : dialect.Splits row)
    (blank : Text.isBlank c = true)
    (second : dialect.Splits rest) :
    dialect.Splits (row ++ c :: rest) := by
  rcases splits_iff.mp first with ⟨words, found⟩
  rcases splits_iff.mp second with ⟨more, follows⟩
  by_cases empty : Text.trimEnd rest = []
  · -- There is nothing in the rest, so it is trimmed together with the break.
    rcases Text.exists_trimEnd_append rest with ⟨dropped, parts, all⟩
    rw [empty, List.nil_append] at parts
    have blanks : Text.AllBlank (c :: rest) := (parts ▸ all).cons blank
    rw [splits_iff, Text.trimEnd_append_of_allBlank row blanks]
    exact ⟨words, found⟩
  · have tail : Text.trimEnd (c :: rest) = [c] ++ Text.trimEnd rest :=
      Text.trimEnd_append_of_solid [c] empty
    have solid : Text.trimEnd (c :: rest) ≠ [] := by
      rw [tail]
      exact List.cons_ne_nil _ _
    rw [words_eq_ok_iff] at found follows
    rcases Text.exists_trimEnd_append row with ⟨dropped, parts, all⟩
    have whole := found.append_blanks all
    rw [← parts] at whole
    have gap : Text.AllBlank [c] := Text.allBlank_nil.cons blank
    have joined := whole.append_gap gap (List.cons_ne_nil c []) follows
    rw [splits_iff, Text.trimEnd_append_of_solid row solid, tail, ← List.append_assoc]
    exact ⟨_, (dialect.words_eq_ok_iff _ _).mpr joined⟩

theorem splits_of_rows
    (noReturn : '\r' ∉ text)
    (fine : ∀ row ∈ Text.rows text, dialect.Splits row) :
    dialect.Splits text := by
  induction text using Text.cut_induction Text.isRowBreak with
  | last body free =>
      by_cases empty : body = []
      · rw [empty, splits_iff]
        exact ⟨[], rfl⟩
      · rw [Text.rows_of_free free empty] at fine
        exact fine body (List.mem_singleton_self body)
  | cut body c rest free breaks ih =>
      rw [List.mem_append, List.mem_cons, not_or, not_or] at noReturn
      rw [Text.rows_append_break free breaks (Ne.symm noReturn.2.1), List.forall_mem_cons]
        at fine
      exact fine.1.append_row (Text.isBlank_of_isRowBreak breaks) (ih noReturn.2.2 fine.2)

/-!
# Lines that are one row
-/

theorem rows_of_one_row_lines {lines : List Text}
    (one : ∀ line ∈ lines, Text.IsOneRow line)
    (fine : ∀ line ∈ lines, dialect.Splits line) :
    (lines.flatMap Text.rows).length = lines.length ∧
      ∀ row ∈ lines.flatMap Text.rows, dialect.Splits row := by
  induction lines with
  | nil => exact ⟨rfl, List.forall_mem_nil _⟩
  | cons line rest ih =>
      rcases List.forall_mem_cons.mp one with ⟨single, singles⟩
      rcases List.forall_mem_cons.mp fine with ⟨splits, others⟩
      rcases single.exists_row with ⟨row, cut, same⟩
      rcases ih singles others with ⟨length, later⟩
      have rowSplits : dialect.Splits row := by
        rw [Splits, splitInPlace_eq_of_trimEnd_eq same]
        exact splits
      rw [List.flatMap_cons, cut, List.singleton_append]
      constructor
      · rw [List.length_cons, List.length_cons, length]
      · exact List.forall_mem_cons.mpr ⟨rowSplits, later⟩

/--
A text without diagnostics can be read as a file and split line by line.  If it
can be split so, and each of its lines is one row, it has no diagnostics.  And if
it cannot, as long as each line up to the failing one is one row, the first
diagnostic is that of the failure, on the line of the failure.
-/
theorem diagnostics_agree_with_document (dialect : Dialect) (text : Text) :
    (dialect.diagnose text = [] →
      (dialect.document false (Text.fileLines text)).failure = none) ∧
    ((∀ line ∈ Text.fileLines text, Text.IsOneRow line) →
      (dialect.document false (Text.fileLines text)).failure = none →
      dialect.diagnose text = []) ∧
    ∀ failure, (dialect.document false (Text.fileLines text)).failure = some failure →
      (∀ line ∈ (Text.fileLines text).take failure.firstLine.toNat, Text.IsOneRow line) →
      ∃ (row : Nat) (rest : List Diagnostic), (row : Int) = failure.firstLine - 1 ∧
        dialect.diagnose text = .ofFailure row failure :: rest := by
  rw [diagnose_eq_nil_iff, document_unjoined_complete_iff, Text.rows_eq_flatMap_fileLines]
  refine ⟨?_, ?_, ?_⟩
  · intro fine line member
    apply splits_of_rows (Text.return_not_mem_of_mem_fileLines member)
    intro row isRow
    exact fine row (List.mem_flatMap.mpr ⟨line, member, isRow⟩)
  · intro one fine
    exact (rows_of_one_row_lines one fine).2
  · intro failure fails one
    rcases exists_failing_line fails with ⟨front, line, back, cause, parts, fine, failed, rfl⟩
    have number : (cause.startingOn (front.length + 1 : Nat)).firstLine.toNat =
        (front ++ [line]).length := by
      rw [List.length_append, List.length_singleton]
      rfl
    have split : Text.fileLines text = front ++ [line] ++ back := by simp [parts]
    rw [number, split, List.take_left, List.forall_mem_append] at one
    rcases rows_of_one_row_lines one.1 fine with ⟨length, rowsFine⟩
    rcases (one.2 line (List.mem_singleton_self line)).exists_row with ⟨row, cut, same⟩
    rw [← splitInPlace_eq_of_trimEnd_eq same] at failed
    have cuts : Text.rows text =
        front.flatMap Text.rows ++ row :: back.flatMap Text.rows := by
      rw [Text.rows_eq_flatMap_fileLines, parts, List.flatMap_append, List.flatMap_cons, cut]
      rfl
    rcases exists_rest_of_diagnose cuts rowsFine failed with ⟨rest, first⟩
    refine ⟨front.length, rest, ?_, ?_⟩
    · change (front.length : Int) = (front.length + 1 : Nat) - 1
      omega
    · rw [first, length]
      rfl

/-- The third line fails; neither the carriage returns nor the break after it matter. -/
theorem diagnostic_of_quotation_on_third_line :
    let dialect := Dialect.shell
    let text := "a\r\nb 'c' \r  d 'e\nf\x0bg".toList
    let failure : Failure :=
      { fault := .unterminatedQuote ['\'']
        position := ⟨1, 5, 4⟩
        source := "  d 'e".toList
        firstLine := 3 }
    (dialect.document false (Text.fileLines text)).failure = some failure ∧
      (∃ (row : Nat) (rest : List Diagnostic), (row : Int) = 2 ∧
        dialect.diagnose text = .ofFailure row failure :: rest) ∧
      (dialect.document false (Text.fileLines "a\x0bb\r'c'".toList)).failure = none ∧
      dialect.diagnose "a\r'c'".toList = [] := by
  intro dialect text failure
  have fails : (dialect.document false (Text.fileLines text)).failure = some failure := by
    decide
  have one : ∀ line ∈ (Text.fileLines text).take failure.firstLine.toNat, line.IsOneRow := by
    decide
  refine ⟨fails, ?_, ?_, ?_⟩
  · exact (diagnostics_agree_with_document dialect text).2.2 failure fails one
  · exact (diagnostics_agree_with_document dialect _).1 (by decide)
  · exact (diagnostics_agree_with_document dialect _).2.1 (by decide) (by decide)

/--
A break that is no newline counts a row but no line, so the diagnostic is not on
the line of the failure; and a quotation goes on over it, but not over rows.
-/
theorem diagnostics_disagree_after_vertical_tab :
    let dialect := Dialect.shell
    (∃ failure first rest,
      (dialect.document false (Text.fileLines "x\x0by\n'z".toList)).failure = some failure ∧
      dialect.diagnose "x\x0by\n'z".toList = first :: rest ∧
      (first.row : Int) ≠ failure.firstLine - 1) ∧
    (dialect.document false (Text.fileLines "'a\x0bb'".toList)).failure = none ∧
      dialect.diagnose "'a\x0bb'".toList ≠ [] := by
  refine ⟨⟨_, _, _, rfl, rfl, ?_⟩, ?_, ?_⟩
  · decide
  · decide
  · decide

end Dialect
end QuotedWords
