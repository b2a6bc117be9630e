import QuotedWords.Proofs.Document.Groups
import QuotedWords.Proofs.Line.Blame
import QuotedWords.Proofs.Text.Places

/-!
# The physical place of a failure

A failure of a document has the line on which its group starts and a position
in the text of that group.  Together they name one of the lines of the document,
as it was written, and in it the character that the failure complains about.
-/

namespace QuotedWords

/-!
# Lines without their ends
-/

namespace Text

theorem exists_trimNewlines_append (line : Text) :
    ∃ ends, line = trimNewlines line ++ ends ∧ AllBlank ends := by
  rcases exists_dropEndWhile_append (fun c => c == '\r' || c == '\n') line with
    ⟨ends, parts, marks⟩
  refine ⟨ends, parts, ?_⟩
  intro c member
  have mark := marks c member
  simp only [Bool.or_eq_true, beq_iff_eq] at mark
  rcases mark with rfl | rfl
  · decide
  · exact isBlank_newline

end Text

namespace Dialect

variable {dialect : Dialect} {join : Bool} {settled part : List Text}
  {document : Document} {failure : Failure}

/-!
# The line of the place in its group
-/

/-- A line of the group has the character, with blanks alone after a leader at the end. -/
theorem exists_line_of_group {cause : Failure}
    (solid : dialect.LeaderIsSolid)
    (whole : ∀ line ∈ part, '\n' ∉ line.dropLast)
    (nonempty : part ≠ [])
    (fails : dialect.words (Text.trimEnd (Group.textOf part)) = .error cause) :
    ∃ (index : Nat) (before : Text) (c : Char) (after : Text),
      part[index]? = some (before ++ c :: after) ∧
      cause.position.line = index + 1 ∧ cause.position.column = before.length + 1 ∧
      dialect.Blames c cause.fault ∧
      (cause.fault = .danglingEscape → Text.AllBlank after) := by
  rcases exists_place_of_words fails with ⟨before, c, after, parts, follows, blames, ends⟩
  rcases Text.exists_trimEnd_append (Group.textOf part) with ⟨dropped, joined, blank⟩
  rw [parts, List.append_assoc, List.cons_append] at joined
  have notNewline : c ≠ '\n' := by
    rintro rfl
    cases Text.isBlank_newline.symm.trans (blames.not_blank solid)
  -- The line of the place is one of the trimmed lines of the group.
  have place := Text.cutAt_place before (c :: (after ++ dropped))
  rw [← joined, Group.textOf, Text.cutAt_joinWith _ (by simpa using nonempty),
    List.getElem?_map, List.takeWhile_cons_of_pos (by simpa using notNewline)] at place
  · rcases Option.map_eq_some_iff.mp place with ⟨line, found, trimmed⟩
    rcases Text.exists_trimNewlines_append line with ⟨tail, lineParts, tailBlank⟩
    rw [trimmed, List.append_assoc, List.cons_append] at lineParts
    refine ⟨before.count '\n', Text.lastLine before, c, _, lineParts ▸ found, ?_, ?_,
      blames, ?_⟩
    · rw [follows.line_eq]
      omega
    · rw [follows.column_eq]
      omega
    · intro dangling
      rw [ends dangling, List.nil_append]
      have inside : Text.AllBlank (dropped.takeWhile (· != '\n')) := fun d member =>
        blank d ((List.takeWhile_prefix _).subset member)
      exact inside.append tailBlank
  · intro piece member
    rcases List.mem_map.mp member with ⟨line, isLine, rfl⟩
    exact Text.newline_not_mem_dropEndWhile rfl (whole line isLine)

theorem FailsInGroup.length_eq_one
    (group : dialect.FailsInGroup false settled part document failure) :
    part.length = 1 := by
  match part, group with
  | [], group => exact absurd rfl group.nonempty
  | [_], _ => rfl
  | line :: other :: rest, group =>
      have joined := group.joined [line] (other :: rest) rfl (by simp) (by simp)
      cases joined.1

/--
A document whose lines have newlines at their ends alone fails at one of these
lines: it is found by the first line of the failing group and the line of the
position, and has the blamed character in the column of the position.  The group
starts after all that has been yielded; unless lines are joined, it is that line
alone.  After a leader at the end there are only blanks on its line.
-/
theorem document_failure_at_line {lines : List Text}
    (solid : dialect.LeaderIsSolid)
    (whole : ∀ line ∈ lines, '\n' ∉ line.dropLast)
    (fails : (dialect.document join lines).failure = some failure) :
    ∃ settled part rest, lines = settled ++ part ++ rest ∧
      dialect.FailsInGroup join settled part (dialect.document join lines) failure ∧
      failure.firstLine = settled.length + 1 ∧
      (∀ entry ∈ (dialect.document join lines).yields,
        (entry.1 : Int) < failure.firstLine) ∧
      ∃ number : Nat, (number : Int) = failure.firstLine + failure.position.line - 1 ∧
        1 ≤ number ∧ number ≤ lines.length ∧
        (join = false → (number : Int) = failure.firstLine) ∧
        ∃ before c after, lines[number - 1]? = some (before ++ c :: after) ∧
          failure.position.column = before.length + 1 ∧
          dialect.Blames c failure.fault ∧
          (failure.fault = .danglingEscape → Text.AllBlank after) := by
  rcases exists_failing_group fails with ⟨settled, part, rest, parts, group⟩
  rcases group.failure_eq with ⟨cause, failed, sameFailure⟩
  have wholePart : ∀ line ∈ part, '\n' ∉ line.dropLast := by
    intro line member
    apply whole line
    simp [parts, member]
  rcases exists_line_of_group solid wholePart group.nonempty failed with
    ⟨index, before, c, after, found, line, column, blames, ends⟩
  have firstLine : failure.firstLine = settled.length + 1 := by
    rw [sameFailure]
    rfl
  have position : failure.position = cause.position := by
    rw [sameFailure]
    rfl
  have fault : failure.fault = cause.fault := by
    rw [sameFailure]
    rfl
  have within : index < part.length := (List.getElem?_eq_some_iff.mp found).1
  have located : lines[settled.length + index]? = some (before ++ c :: after) := by
    rw [parts, List.append_assoc, List.getElem?_append_right (Nat.le_add_right _ _),
      Nat.add_sub_cancel_left, List.getElem?_append_left within]
    exact found
  have length : lines.length = settled.length + part.length + rest.length := by
    rw [parts, List.length_append, List.length_append]
  refine ⟨settled, part, rest, parts, group, firstLine, ?_, settled.length + index + 1,
    ?_, ?_, ?_, ?_, before, c, after, located, ?_, ?_, ?_⟩
  · intro entry member
    have := group.yields_le entry member
    omega
  · rw [firstLine, position, line]
    omega
  · omega
  · omega
  · rintro rfl
    have := group.length_eq_one
    omega
  · rw [position]
    exact column
  · rw [fault]
    exact blames
  · rw [fault]
    exact ends

/-- An escape on the third line of a group that starts after a line with words. -/
theorem document_failure_at_third_line_of_group :
    let lines := ["x y\n".toList, "a \"b\n".toList, "\n".toList, "  c\\q d\r\n".toList]
    let failure : Failure :=
      { fault := .unrecognizedEscape ['q']
        position := ⟨3, 4, 9⟩
        source := "a \"b\n\n  c\\q d".toList
        firstLine := 2 }
    (∀ line ∈ lines, '\n' ∉ line.dropLast) ∧
      (Style.c.dialect.document true lines).failure = some failure ∧
      ∃ number : Nat, (number : Int) = 4 ∧
        ∃ before c after, lines[number - 1]? = some (before ++ c :: after) ∧
          before.length = 3 ∧ Style.c.dialect.Blames c failure.fault := by
  intro lines failure
  have whole : ∀ line ∈ lines, '\n' ∉ line.dropLast := by decide
  have fails : (Style.c.dialect.document true lines).failure = some failure := by decide
  refine ⟨whole, fails, ?_⟩
  rcases document_failure_at_line (Style.leaderIsSolid .c) whole fails with
    ⟨_, _, _, _, _, _, _, number, place, _, _, _, before, c, after, found, column, blames, _⟩
  exact ⟨number, place, before, c, after, found, by simp [failure] at column; omega, blames⟩

end Dialect
end QuotedWords
