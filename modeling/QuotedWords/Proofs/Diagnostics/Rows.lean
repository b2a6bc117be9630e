import QuotedWords.Proofs.Diagnostics.Agreement
import QuotedWords.Proofs.Line.Trimmed

/-!
# The diagnostics of a text, row by row

A row gets a diagnostic if it cannot be split, and gets none if it can.  Rows are
diagnosed in their place, with the blanks in front of them, so the column of a
failure counts from the start of the row; and as no newline stands in a row, the
row is the only line that the failure knows of.
-/

namespace QuotedWords

theorem Text.newline_not_mem_of_mem_rows {text row : Text}
    (member : row ∈ rows text) :
    '\n' ∉ row := by
  intro inside
  rcases List.mem_map.mp member with ⟨whole, -, rfl⟩
  have passes := passes_of_mem_takeWhile inside
  have breaks : isRowBreak '\n' = true := by decide
  rw [breaks] at passes
  cases passes

namespace Dialect

variable {dialect : Dialect} {text row : Text} {failure : Failure}

/-!
# One row
-/

theorem exists_split_failure
    (fails : dialect.splitInPlace row = .error failure) :
    ∃ cause, dialect.split row = .error cause ∧ failure.fault = cause.fault := by
  rcases (dialect.concur_split_splitInPlace row).answers_or_errors with
    ⟨words, -, splits⟩ | ⟨cause, other, splits, here, behind⟩
  · cases splits.symm.trans fails
  · cases here.symm.trans fails
    exact ⟨cause, splits, behind.fault_eq⟩

theorem exists_splitInPlace_failure
    (fails : dialect.split row = .error failure) :
    ∃ further, dialect.splitInPlace row = .error further := by
  rcases (dialect.concur_split_splitInPlace row).answers_or_errors with
    ⟨words, splits, -⟩ | ⟨cause, further, -, here, -⟩
  · cases splits.symm.trans fails
  · exact ⟨further, here⟩

theorem exists_words_of_splitInPlace
    (fails : dialect.splitInPlace row = .error failure) :
    ∃ cause, dialect.words (Text.trimEnd row) = .error cause ∧
      failure = cause.attachSource (Text.trimEnd row) := by
  cases found : dialect.words (Text.trimEnd row) with
  | ok words => cases (splitInPlace_of_words found).symm.trans fails
  | error cause =>
      cases (splitInPlace_of_failure found).symm.trans fails
      exact ⟨cause, rfl, rfl⟩

/-- In a text of one line the column of a failure counts the characters before it. -/
theorem exists_column_of_splitInPlace
    (single : '\n' ∉ row)
    (fails : dialect.splitInPlace row = .error failure) :
    ∃ before c after, row = before ++ c :: after ∧
      failure.position.column = 1 + before.length ∧
      dialect.Blames c failure.fault := by
  rcases exists_words_of_splitInPlace fails with ⟨cause, failed, rfl⟩
  rcases exists_place_of_words failed with ⟨before, c, after, parts, follows, blames, -⟩
  rcases Text.exists_trimEnd_append row with ⟨dropped, whole, -⟩
  rw [parts, List.append_assoc, List.cons_append] at whole
  refine ⟨before, c, after ++ dropped, whole, ?_, blames⟩
  have free : '\n' ∉ before := by
    intro inside
    apply single
    rw [whole]
    exact List.mem_append_left _ inside
  show cause.position.column = 1 + before.length
  rw [follows.column_eq, Text.lastLine_of_not_mem free]

/-- The diagnostic marks the character of a row that the failure of the row complains about. -/
structure Marks (dialect : Dialect) (row : Text) (failure : Failure)
    (diagnostic : Diagnostic) : Prop where
  message_eq : diagnostic.message = failure.message
  first_nonneg : 0 ≤ diagnostic.first
  bound_eq : diagnostic.bound = diagnostic.first + 1
  bound_le : diagnostic.bound ≤ row.length
  blames : ∃ c, row[diagnostic.first.toNat]? = some c ∧ dialect.Blames c failure.fault

theorem marks_of_splitInPlace {cause : Failure} (index : Nat)
    (single : '\n' ∉ row)
    (fails : dialect.splitInPlace row = .error failure)
    (same : failure.fault = cause.fault) :
    dialect.Marks row cause (.ofFailure index failure) := by
  rcases exists_column_of_splitInPlace single fails with
    ⟨before, c, after, parts, column, blames⟩
  have first : (Diagnostic.ofFailure index failure).first = before.length := by
    show failure.position.column - 1 = before.length
    rw [column]
    omega
  constructor
  · exact congrArg Fault.message same
  · rw [first]
    exact Int.natCast_nonneg before.length
  · rfl
  · show (Diagnostic.ofFailure index failure).first + 1 ≤ row.length
    rw [first, parts, List.length_append, List.length_cons]
    omega
  · refine ⟨c, ?_, same ▸ blames⟩
    rw [first, Int.toNat_natCast, parts]
    simp

/-!
# All rows
-/

theorem diagnoseFrom_rows_sublist (dialect : Dialect) (start : Nat) (rows : List Text) :
    ((dialect.diagnoseFrom start rows).map Diagnostic.row).Sublist
      (List.range' start rows.length) := by
  induction rows generalizing start with
  | nil => exact List.Sublist.slnil
  | cons row rest ih =>
      rw [diagnoseFrom_cons, List.map_append, List.length_cons, List.range'_succ]
      cases outcome : dialect.splitInPlace row with
      | ok words =>
          rw [diagnoseRow, outcome]
          exact (ih (start + 1)).cons start
      | error failure =>
          rw [diagnoseRow, outcome]
          exact (ih (start + 1)).cons_cons start

theorem diagnose_rows_increase (dialect : Dialect) (text : Text) :
    ((dialect.diagnose text).map Diagnostic.row).Pairwise (· < ·) := by
  have sublist := dialect.diagnoseFrom_rows_sublist 0 (Text.rows text)
  apply List.Pairwise.sublist sublist
  exact List.pairwise_lt_range'

theorem mem_diagnose_iff {diagnostic : Diagnostic} :
    diagnostic ∈ dialect.diagnose text ↔
      ∃ index row failure, (Text.rows text)[index]? = some row ∧
        dialect.splitInPlace row = .error failure ∧
        diagnostic = .ofFailure index failure := by
  rw [diagnose, List.mem_filterMap]
  constructor
  · intro found
    rcases found with ⟨⟨row, index⟩, member, diagnosed⟩
    rw [List.mem_zipIdx_iff_getElem?] at member
    cases outcome : dialect.splitInPlace row with
    | ok words =>
        rw [diagnoseRow, outcome] at diagnosed
        cases diagnosed
    | error failure =>
        rw [diagnoseRow, outcome] at diagnosed
        cases diagnosed
        exact ⟨index, row, failure, member, outcome, rfl⟩
  · intro found
    rcases found with ⟨index, row, failure, isRow, fails, rfl⟩
    refine ⟨(row, index), List.mem_zipIdx_iff_getElem?.mpr isRow, ?_⟩
    rw [diagnoseRow, fails]

/--
The rows with a diagnostic are those that cannot be split, in their order, and each
of them has one.  It has the message of the failure with which splitting the row
fails, and marks the character of the row that this failure complains about.
-/
theorem diagnostics_are_of_failing_rows (dialect : Dialect) (text : Text) :
    ((dialect.diagnose text).map Diagnostic.row).Pairwise (· < ·) ∧
    (∀ index, index ∈ (dialect.diagnose text).map Diagnostic.row ↔
      ∃ row failure, (Text.rows text)[index]? = some row ∧
        dialect.split row = .error failure) ∧
    ∀ diagnostic ∈ dialect.diagnose text, ∃ row failure,
      (Text.rows text)[diagnostic.row]? = some row ∧
        dialect.split row = .error failure ∧ dialect.Marks row failure diagnostic := by
  refine ⟨dialect.diagnose_rows_increase text, ?_, ?_⟩
  · intro index
    rw [List.mem_map]
    constructor
    · intro diagnosed
      rcases diagnosed with ⟨diagnostic, member, rfl⟩
      rcases mem_diagnose_iff.mp member with ⟨index, row, failure, isRow, fails, rfl⟩
      rcases exists_split_failure fails with ⟨cause, splits, -⟩
      exact ⟨row, cause, isRow, splits⟩
    · intro failing
      rcases failing with ⟨row, failure, isRow, splits⟩
      rcases exists_splitInPlace_failure splits with ⟨further, fails⟩
      refine ⟨.ofFailure index further, ?_, rfl⟩
      exact mem_diagnose_iff.mpr ⟨index, row, further, isRow, fails, rfl⟩
  · intro diagnostic member
    rcases mem_diagnose_iff.mp member with ⟨index, row, failure, isRow, fails, rfl⟩
    rcases exists_split_failure fails with ⟨cause, splits, same⟩
    have single : '\n' ∉ row :=
      Text.newline_not_mem_of_mem_rows (List.mem_of_getElem? isRow)
    exact ⟨row, cause, isRow, splits, marks_of_splitInPlace index single fails same⟩

/-- The second and the fourth of four rows fail, the latter at an escape behind a tab. -/
theorem diagnostics_of_two_of_four_rows :
    let dialect := Style.c.dialect
    let text := "a\n b \"c\r\n\"d\"\u2028\t\\q e ".toList
    let first : Diagnostic := ⟨1, 3, 4, "unterminated quote '\"'".toList⟩
    let second : Diagnostic := ⟨3, 1, 2, "invalid escape sequence for 'q'".toList⟩
    dialect.diagnose text = [first, second] ∧
      (∃ failure, dialect.split " b \"c".toList = .error failure ∧
        dialect.Marks " b \"c".toList failure first) ∧
      ∃ failure, dialect.split "\t\\q e ".toList = .error failure ∧
        dialect.Marks "\t\\q e ".toList failure second := by
  intro dialect text first second
  have diagnosed : dialect.diagnose text = [first, second] := by decide +kernel
  have marked := (diagnostics_are_of_failing_rows dialect text).2.2
  rw [diagnosed, List.forall_mem_cons, List.forall_mem_singleton] at marked
  rcases marked with
    ⟨⟨row, failure, isRow, fails, marks⟩, other, cause, isOther, failsOther, marksOther⟩
  have one : (Text.rows text)[first.row]? = some " b \"c".toList := by decide
  have three : (Text.rows text)[second.row]? = some "\t\\q e ".toList := by decide
  cases isRow.symm.trans one
  cases isOther.symm.trans three
  exact ⟨diagnosed, ⟨failure, fails, marks⟩, cause, failsOther, marksOther⟩

end Dialect
end QuotedWords
