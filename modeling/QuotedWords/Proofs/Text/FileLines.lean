import QuotedWords.Proofs.Text.Rows

/-!
# The rows of a file

A file is read in newline-ended lines, and its text is shown in rows.  Every line
is cut into rows of its own: a newline always ends a row, and a carriage return
is a newline by the time that a file has been read.
-/

namespace QuotedWords
namespace Text

theorem isBlank_of_isRowBreak {c : Char}
    (breaks : isRowBreak c = true) :
    isBlank c = true := by
  simp only [isRowBreak, rowBreaks, isBlank, blanks, CodePoints.holds, List.any_cons,
    List.any_nil, Bool.or_false, Bool.or_eq_true, Bool.and_eq_true, decide_eq_true_eq]
    at breaks ⊢
  omega

/-!
# Rows, character by character
-/

theorem rows_cons_of_break {c : Char} {rest : Text}
    (breaks : isRowBreak c = true)
    (alone : ∀ later, c = '\r' → rest = '\n' :: later → False) :
    rows (c :: rest) = [] :: rows rest := by
  rw [rows, rowsWithBreaks, if_pos breaks]
  · simp [rows, breaks]
  · exact alone

theorem rows_cons_of_not_break {c : Char} (rest : Text)
    (inner : isRowBreak c = false) :
    rows (c :: rest) = consRow c (rows rest) := by
  rw [rows, rowsWithBreaks_cons_of_not_break rest inner, rows]
  cases rowsWithBreaks rest with
  | nil => simp [consRow, inner]
  | cons row others => simp [consRow, inner]

theorem rows_append_of_free {body rest first : Text} {others : List Text}
    (free : ∀ c ∈ body, isRowBreak c = false)
    (cuts : rows rest = first :: others) :
    rows (body ++ rest) = (body ++ first) :: others := by
  induction body with
  | nil => exact cuts
  | cons c body ih =>
      rcases List.forall_mem_cons.mp free with ⟨inner, later⟩
      rw [List.cons_append, rows_cons_of_not_break _ inner, ih later]
      rfl

theorem rows_append_break {body rest : Text} {c : Char}
    (free : ∀ d ∈ body, isRowBreak d = false)
    (breaks : isRowBreak c = true)
    (notReturn : c ≠ '\r') :
    rows (body ++ c :: rest) = body :: rows rest := by
  have last : rows (c :: rest) = [] :: rows rest :=
    rows_cons_of_break breaks fun _ same _ => notReturn same
  rw [rows_append_of_free free last, List.append_nil]

theorem rows_of_free {body : Text}
    (free : ∀ c ∈ body, isRowBreak c = false) (nonempty : body ≠ []) :
    rows body = [body] := by
  cases body using List.reverseRecOn with
  | nil => exact absurd rfl nonempty
  | append_singleton front c =>
      have inner : isRowBreak c = false := free c (by simp)
      have single : rows [c] = [[c]] := rows_cons_of_not_break [] inner
      exact rows_append_of_free (fun d member => free d (by simp [member])) single

theorem rows_unifyNewlines (text : Text) :
    rows (unifyNewlines text) = rows text := by
  have newline (rest : Text) : rows ('\n' :: rest) = [] :: rows rest :=
    rows_cons_of_break (by decide) nofun
  fun_induction unifyNewlines text with
  | case1 => rfl
  | case2 rest ih =>
      rw [newline, ih]
      rfl
  | case3 c rest alone ih =>
      by_cases isReturn : c = '\r'
      · have breaks : isRowBreak c = true := by
          rw [isReturn]
          decide
        rw [if_pos isReturn, newline, ih, rows_cons_of_break breaks alone]
      · rw [if_neg isReturn]
        have other : ∀ later, c = '\r' → unifyNewlines rest = '\n' :: later → False :=
          fun _ same _ => isReturn same
        cases breaks : isRowBreak c with
        | true => rw [rows_cons_of_break breaks other, rows_cons_of_break breaks alone, ih]
        | false => rw [rows_cons_of_not_break _ breaks, rows_cons_of_not_break _ breaks, ih]

theorem return_not_mem_unifyNewlines (text : Text) : '\r' ∉ unifyNewlines text := by
  fun_induction unifyNewlines text with
  | case1 => exact List.not_mem_nil
  | case2 rest ih => simp [ih]
  | case3 c rest alone ih =>
      by_cases isReturn : c = '\r'
      · simp [isReturn, ih]
      · simp [isReturn, Ne.symm isReturn, ih]

/-!
# The rows of a file are those of its lines
-/

/-- After a newline the rows are those of the rest, whatever stands before it. -/
theorem rows_append_newline {text : Text} (rest : Text)
    (noReturn : '\r' ∉ text) :
    rows (text ++ '\n' :: rest) = rows (text ++ ['\n']) ++ rows rest := by
  have newline : isRowBreak '\n' = true := by decide
  have notReturn : '\n' ≠ '\r' := by decide
  induction text using cut_induction isRowBreak with
  | last body free =>
      rw [rows_append_break free newline notReturn, rows_append_break free newline notReturn]
      rfl
  | cut body c later free breaks ih =>
      rw [List.mem_append, List.mem_cons, not_or, not_or] at noReturn
      have other : c ≠ '\r' := Ne.symm noReturn.2.1
      rw [List.append_assoc, List.cons_append, rows_append_break free breaks other,
        ih noReturn.2.2, List.append_assoc, List.cons_append,
        rows_append_break free breaks other]
      rfl

theorem rows_eq_flatMap_newlineEnded {text : Text}
    (noReturn : '\r' ∉ text) :
    rows text = (newlineEnded text).flatMap rows := by
  induction text using line_induction with
  | last body free =>
      rw [newlineEnded_of_not_mem free]
      split
      next empty => rw [empty, List.flatMap_nil]; rfl
      next => rw [List.flatMap_singleton]
  | line body rest free ih =>
      rw [List.mem_append, List.mem_cons, not_or, not_or] at noReturn
      rw [newlineEnded_append rest free, List.flatMap_cons, rows_append_newline rest noReturn.1,
        ih noReturn.2.2]

theorem rows_eq_flatMap_fileLines (text : Text) :
    rows text = (fileLines text).flatMap rows := by
  rw [fileLines, ← rows_eq_flatMap_newlineEnded (return_not_mem_unifyNewlines text),
    rows_unifyNewlines]

theorem return_not_mem_of_mem_fileLines {text line : Text}
    (member : line ∈ fileLines text) :
    '\r' ∉ line := by
  intro inside
  apply return_not_mem_unifyNewlines text
  rw [← flatten_newlineEnded (unifyNewlines text)]
  exact List.mem_flatten_of_mem member inside

/-!
# Lines that are one row
-/

/-- The line is one row, together with what breaks it. -/
def IsOneRow (line : Text) : Prop :=
  rowsWithBreaks line = [line]

instance (line : Text) : Decidable (IsOneRow line) :=
  inferInstanceAs (Decidable (rowsWithBreaks line = [line]))

/-- The breaks of a row stand at its end. -/
theorem exists_breaks_of_mem_rowsWithBreaks {text row : Text}
    (member : row ∈ rowsWithBreaks text) :
    ∃ breaks, row = (row.takeWhile fun c => !isRowBreak c) ++ breaks ∧
      ∀ c ∈ breaks, isRowBreak c = true := by
  fun_induction rowsWithBreaks text generalizing row with
  | case1 => cases member
  | case2 rest ih =>
      rcases List.mem_cons.mp member with rfl | later
      · refine ⟨['\r', '\n'], rfl, ?_⟩
        exact List.forall_mem_cons.mpr ⟨by decide, List.forall_mem_singleton.mpr (by decide)⟩
      · exact ih later
  | case3 c rest alone breaks ih =>
      rcases List.mem_cons.mp member with rfl | later
      · exact ⟨[c], by simp [breaks], by simpa using breaks⟩
      · exact ih later
  | case4 c rest alone inner ih =>
      rw [Bool.not_eq_true] at inner
      cases cuts : rowsWithBreaks rest with
      | nil =>
          rw [cuts] at member
          cases List.mem_singleton.mp member
          exact ⟨[], by simp [inner], List.forall_mem_nil _⟩
      | cons first others =>
          rw [cuts] at member ih
          rcases List.mem_cons.mp member with rfl | later
          · rcases ih List.mem_cons_self with ⟨breaks, parts, all⟩
            refine ⟨breaks, ?_, all⟩
            rw [List.takeWhile_cons_of_pos (by simp [inner]), List.cons_append, ← parts]
          · exact ih (List.mem_cons_of_mem _ later)

theorem IsOneRow.exists_row {line : Text}
    (one : IsOneRow line) :
    ∃ row, rows line = [row] ∧ trimEnd row = trimEnd line := by
  have member : line ∈ rowsWithBreaks line := by
    rw [one]
    exact List.mem_singleton_self line
  rcases exists_breaks_of_mem_rowsWithBreaks member with ⟨breaks, parts, all⟩
  refine ⟨_, by rw [rows, one, List.map_singleton], ?_⟩
  conv => rhs; rw [parts]
  exact (trimEnd_append_of_allBlank _ fun c inside => isBlank_of_isRowBreak (all c inside)).symm

end Text
end QuotedWords
