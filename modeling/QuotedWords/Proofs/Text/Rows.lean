import QuotedWords.Proofs.Text.Places

/-!
# Rows and lines

A newline ends a row, but so do other characters.  As far as the rows of a text
are its newline-ended lines, the row of a place is the line of the place: the
newlines before the place count both.
-/

namespace QuotedWords
namespace Text

/-!
# The first row
-/

theorem of_consRow_eq_cons {c : Char} {first : Text} {rows others : List Text}
    (same : consRow c rows = first :: others) :
    (rows = [] ∧ first = [c] ∧ others = []) ∨
      ∃ row, rows = row :: others ∧ first = c :: row := by
  cases rows with
  | nil =>
      cases same
      exact Or.inl ⟨rfl, rfl, rfl⟩
  | cons row rows =>
      cases same
      exact Or.inr ⟨row, rfl, rfl⟩

theorem rowsWithBreaks_cons_of_not_break {c : Char} (text : Text)
    (other : isRowBreak c = false) :
    rowsWithBreaks (c :: text) = consRow c (rowsWithBreaks text) := by
  have notReturn : c ≠ '\r' := by
    rintro rfl
    cases other
  rw [rowsWithBreaks, if_neg (Bool.eq_false_iff.mp other)]
  exact fun rest same _ => notReturn same

theorem exists_rowsWithBreaks_cons (c : Char) (text : Text) :
    ∃ row rows, rowsWithBreaks (c :: text) = (c :: row) :: rows := by
  generalize same : c :: text = whole
  fun_cases rowsWithBreaks whole with
  | case1 => cases same
  | case2 rest =>
      cases same
      exact ⟨['\n'], rowsWithBreaks rest, rfl⟩
  | case3 =>
      cases same
      exact ⟨[], rowsWithBreaks text, rfl⟩
  | case4 =>
      cases same
      cases rowsWithBreaks text with
      | nil => exact ⟨[], [], rfl⟩
      | cons row rows => exact ⟨row, rows, rfl⟩

/-- What follows a row that ends with a newline does not matter to it. -/
theorem rowsWithBreaks_append_of_newline {text row : Text} {rows : List Text}
    (cuts : rowsWithBreaks text = (row ++ ['\n']) :: rows) (rest : Text) :
    rowsWithBreaks (row ++ '\n' :: rest) = (row ++ ['\n']) :: rowsWithBreaks rest := by
  fun_induction rowsWithBreaks text generalizing row rows with
  | case1 => cases cuts
  | case2 later ih =>
      have first : ['\r'] ++ ['\n'] = row ++ ['\n'] := (List.cons.inj cuts).1
      cases (List.append_inj' first rfl).1
      rfl
  | case3 c later alone breaks ih =>
      have first : [] ++ [c] = row ++ ['\n'] := (List.cons.inj cuts).1
      cases (List.append_inj' first rfl).1
      cases (List.append_inj' first rfl).2
      rfl
  | case4 c later alone other ih =>
      -- The row is longer than this character, which is no newline.
      rw [Bool.not_eq_true] at other
      have notNewline : c ≠ '\n' := by
        rintro rfl
        cases other
      cases row with
      | nil =>
          rcases of_consRow_eq_cons cuts with ⟨-, first, -⟩ | ⟨front, -, first⟩
          · exact absurd (List.cons.inj first).1.symm notNewline
          · exact absurd (List.cons.inj first).1.symm notNewline
      | cons d row =>
          rcases of_consRow_eq_cons cuts with ⟨-, first, -⟩ | ⟨front, inner, first⟩
          · cases row <;> cases first
          · rcases List.cons.inj first with ⟨rfl, rfl⟩
            rw [List.cons_append, rowsWithBreaks_cons_of_not_break _ other, ih inner]
            rfl

/-- A row that no newline ends goes on with what its last character goes on with. -/
theorem rowsWithBreaks_append_of_single {c : Char} {body after row : Text}
    {rows : List Text}
    (notNewline : c ≠ '\n')
    (single : rowsWithBreaks (body ++ [c]) = [body ++ [c]])
    (cuts : rowsWithBreaks (c :: after) = row :: rows) :
    rowsWithBreaks (body ++ c :: after) = (body ++ row) :: rows := by
  induction body with
  | nil => exact cuts
  | cons d body ih =>
      revert single
      generalize same : d :: body ++ [c] = text
      fun_cases rowsWithBreaks text with
      | case1 => cases same
      | case2 rest =>
          intro single
          rcases List.cons.inj (List.cons.inj single).1 with ⟨-, rest⟩
          rcases List.cons.inj rest with ⟨-, rfl⟩
          have ended : body ++ [c] = [] ++ ['\n'] := (List.cons.inj same).2
          have last := (List.append_inj' ended rfl).2
          exact absurd (List.singleton_inj.mp last) notNewline
      | case3 =>
          intro single
          cases same
          have none : [] = body ++ [c] := (List.cons.inj (List.cons.inj single).1).2
          cases body <;> cases none
      | case4 d' rest alone other =>
          intro single
          cases same
          rw [Bool.not_eq_true] at other
          rcases of_consRow_eq_cons single with ⟨-, none, -⟩ | ⟨front, inner, first⟩
          · cases body <;> cases none
          · rcases List.cons.inj first with ⟨-, rfl⟩
            rw [List.cons_append, rowsWithBreaks_cons_of_not_break _ other, ih inner]
            rfl

theorem newline_not_mem_dropLast_of_mem_rowsWithBreaks {text row : Text}
    (member : row ∈ rowsWithBreaks text) :
    '\n' ∉ row.dropLast := by
  fun_induction rowsWithBreaks text generalizing row with
  | case1 => cases member
  | case2 rest ih =>
      rcases List.mem_cons.mp member with rfl | later
      · decide
      · exact ih later
  | case3 c rest alone breaks ih =>
      rcases List.mem_cons.mp member with rfl | later
      · exact List.not_mem_nil
      · exact ih later
  | case4 c rest alone other ih =>
      have notNewline : '\n' ≠ c := by
        rintro rfl
        exact other rfl
      cases cuts : rowsWithBreaks rest with
      | nil =>
          rw [cuts] at member
          cases List.mem_singleton.mp member
          exact List.not_mem_nil
      | cons first rows =>
          rw [cuts] at member ih
          rcases List.mem_cons.mp member with rfl | later
          · have front := ih List.mem_cons_self
            cases first with
            | nil => exact List.not_mem_nil
            | cons d first =>
                rw [List.dropLast_cons_cons]
                exact List.not_mem_cons_of_ne_of_not_mem notNewline front
          · exact ih (List.mem_cons_of_mem _ later)

/-!
# The row of a place
-/

/-- The rows of the text are its newline-ended lines. -/
def RowsAreLines (text : Text) : Prop :=
  rowsWithBreaks text = newlineEnded text

instance (text : Text) : Decidable (RowsAreLines text) :=
  inferInstanceAs (Decidable (rowsWithBreaks text = newlineEnded text))

theorem RowsAreLines.tail {body rest : Text}
    (same : RowsAreLines (body ++ '\n' :: rest))
    (free : '\n' ∉ body) :
    RowsAreLines rest ∧ ∀ other,
      rowsWithBreaks (body ++ '\n' :: other) = (body ++ ['\n']) :: rowsWithBreaks other := by
  have cuts : rowsWithBreaks (body ++ '\n' :: rest) = (body ++ ['\n']) :: newlineEnded rest :=
    same.trans (newlineEnded_append rest free)
  have first := rowsWithBreaks_append_of_newline cuts
  refine ⟨?_, first⟩
  exact (List.cons.inj ((first rest).symm.trans cuts)).2

theorem RowsAreLines.single {body : Text} {c : Char}
    (same : RowsAreLines (body ++ [c]))
    (free : '\n' ∉ body)
    (notNewline : c ≠ '\n') :
    rowsWithBreaks (body ++ [c]) = [body ++ [c]] := by
  have free : '\n' ∉ body ++ [c] := by simp [free, Ne.symm notNewline]
  rw [same, newlineEnded_of_not_mem free, if_neg (by simp)]

/-- Where rows are lines up to a character, its row is counted by newlines. -/
theorem rowsWithBreaks_place {c : Char} {after row : Text} {rows : List Text}
    (notNewline : c ≠ '\n')
    (cuts : rowsWithBreaks (c :: after) = row :: rows)
    (before : Text)
    (same : RowsAreLines (before ++ [c])) :
    (rowsWithBreaks (before ++ c :: after))[before.count '\n']? =
      some (lastLine before ++ row) := by
  refine getElem?_place (fun front => RowsAreLines (front ++ [c])) rows ?_ ?_ before same
  · intro body rest free same
    rw [List.append_assoc, List.cons_append] at same
    rcases same.tail free with ⟨later, first⟩
    refine ⟨later, body ++ ['\n'], ?_⟩
    rw [List.append_assoc, List.cons_append, first]
  · intro body free same
    exact rowsWithBreaks_append_of_single notNewline (same.single free notNewline) cuts

theorem first_row_of_ends {ends first : Text} {rows : List Text}
    (marks : ∀ c ∈ ends.head?, c = '\r' ∨ c = '\n')
    (cuts : rowsWithBreaks ends = first :: rows) :
    first ∈ [['\n'], ['\r'], ['\r', '\n']] := by
  revert cuts
  fun_cases rowsWithBreaks ends with
  | case1 => nofun
  | case2 rest =>
      rintro ⟨⟩
      simp
  | case3 c rest =>
      rintro ⟨⟩
      rcases marks c rfl with rfl | rfl
      · simp
      · simp
  | case4 c rest alone other =>
      rcases marks c rfl with rfl | rfl
      · exact absurd rfl other
      · exact absurd rfl other

/-- Line ends after a character that is none may belong to its row, and end it. -/
theorem exists_row_of_ends {c : Char} {ends : Text}
    (notReturn : c ≠ '\r')
    (marks : ∀ d ∈ ends.head?, d = '\r' ∨ d = '\n') :
    ∃ row rows, rowsWithBreaks (c :: ends) = (c :: row) :: rows ∧
      row ∈ [[], ['\n'], ['\r'], ['\r', '\n']] := by
  cases breaks : isRowBreak c with
  | true =>
      refine ⟨[], rowsWithBreaks ends, ?_, List.mem_cons_self⟩
      rw [rowsWithBreaks, if_pos breaks]
      exact fun rest same _ => notReturn same
  | false =>
      rw [rowsWithBreaks_cons_of_not_break ends breaks]
      cases cuts : rowsWithBreaks ends with
      | nil => exact ⟨[], [], rfl, List.mem_cons_self⟩
      | cons first rows =>
          exact ⟨first, rows, rfl, List.mem_cons_of_mem _ (first_row_of_ends marks cuts)⟩

theorem dropEndWhile_row {c : Char} {row : Text} (front : Text)
    (notNewline : c ≠ '\n') (notReturn : c ≠ '\r')
    (marks : row ∈ [[], ['\n'], ['\r'], ['\r', '\n']]) :
    dropEndWhile (· == '\r') (dropEndWhile (· == '\n') (front ++ c :: row)) =
      front ++ [c] := by
  simp only [List.mem_cons, List.mem_nil_iff, or_false] at marks
  rcases marks with rfl | rfl | rfl | rfl
  · simp [dropEndWhile, notNewline, notReturn]
  · simp [dropEndWhile, notNewline, notReturn]
  · simp [dropEndWhile, notReturn]
  · simp [dropEndWhile, notReturn]

theorem exists_row_of_line {before inner ends : Text} {c : Char}
    (free : '\n' ∉ inner)
    (notNewline : c ≠ '\n') (notReturn : c ≠ '\r')
    (marks : ∀ d ∈ ends.head?, d = '\r' ∨ d = '\n')
    (same : RowsAreLines (before ++ (inner ++ [c]))) :
    ∃ row, (rowsWithBreaks (before ++ (inner ++ c :: ends)))[before.count '\n']? = some row ∧
      dropEndWhile (· == '\r') (dropEndWhile (· == '\n') row) =
        lastLine before ++ (inner ++ [c]) := by
  rcases exists_row_of_ends notReturn marks with ⟨row, rows, cuts, lineEnd⟩
  rw [← List.append_assoc] at same
  have place := rowsWithBreaks_place notNewline cuts (before ++ inner) same
  have count : (before ++ inner).count '\n' = before.count '\n' := by
    rw [List.count_append, List.count_eq_zero.mpr free, Nat.add_zero]
  rw [count, List.append_assoc, lastLine_append_of_not_mem before free] at place
  refine ⟨_, place, ?_⟩
  rw [dropEndWhile_row _ notNewline notReturn lineEnd, List.append_assoc]

/-- The line with which a text begins, without carriage returns at its end. -/
def headLine (text : Text) : Text :=
  dropEndWhile (· == '\r') (text.takeWhile (· != '\n'))

theorem headLine_cons {c : Char} (rest : Text)
    (notNewline : c ≠ '\n') (notReturn : c ≠ '\r') :
    headLine (c :: rest) = c :: headLine rest := by
  rw [headLine, List.takeWhile_cons_of_pos (by simpa using notNewline)]
  exact dropEndWhile_append_cons [] _ (by simpa using notReturn)

theorem newline_not_mem_takeWhile (text : Text) : '\n' ∉ text.takeWhile (· != '\n') := by
  intro member
  have other := passes_of_mem_takeWhile member
  simp at other

theorem exists_ends_of_headLine {text inner : Text} {c : Char}
    (line : headLine text = inner ++ [c]) :
    ∃ ends, text = inner ++ c :: ends ∧ ∀ d ∈ ends.head?, d = '\r' ∨ d = '\n' := by
  rcases exists_dropEndWhile_append (· == '\r') (text.takeWhile (· != '\n')) with
    ⟨returns, parts, areReturns⟩
  change text.takeWhile (· != '\n') = headLine text ++ returns at parts
  refine ⟨returns ++ text.dropWhile (· != '\n'), ?_, ?_⟩
  · calc
      text = text.takeWhile (· != '\n') ++ text.dropWhile (· != '\n') :=
        List.takeWhile_append_dropWhile.symm
      _ = inner ++ c :: (returns ++ text.dropWhile (· != '\n')) := by
        rw [parts, line]
        simp
  · intro d first
    -- What follows the line is a carriage return left out of it, or its newline.
    cases returns with
    | nil =>
        right
        have ended := List.head?_dropWhile_not (· != '\n') text
        rw [List.nil_append] at first
        rw [first] at ended
        simpa using ended
    | cons e returns =>
        left
        have same : e = d := Option.some.inj first
        rw [← same]
        simpa using areReturns e List.mem_cons_self

/--
Where rows are lines up to the end of a line, its row is that line, but for the
line end and the carriage returns before it.
-/
theorem exists_row_of_headLine {before text : Text}
    (nonempty : headLine text ≠ [])
    (same : RowsAreLines (before ++ headLine text)) :
    ∃ row, (rowsWithBreaks (before ++ text))[before.count '\n']? = some row ∧
      dropEndWhile (· == '\r') (dropEndWhile (· == '\n') row) =
        lastLine before ++ headLine text := by
  rcases List.eq_nil_or_concat (headLine text) with empty | ⟨inner, c, line⟩
  · exact absurd empty nonempty
  · rw [List.concat_eq_append] at line
    rcases exists_ends_of_headLine line with ⟨ends, rfl, marks⟩
    have free : '\n' ∉ inner ++ [c] := by
      intro member
      rw [← line] at member
      exact newline_not_mem_takeWhile _ ((dropEndWhile_isPrefix _ _).subset member)
    rw [List.mem_append, List.mem_singleton, not_or] at free
    have notReturn : c ≠ '\r' := by
      simpa using last_of_dropEndWhile_eq line
    rw [line] at same ⊢
    exact exists_row_of_line free.1 (Ne.symm free.2) notReturn marks same

end Text
end QuotedWords
